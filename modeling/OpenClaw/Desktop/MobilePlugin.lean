import OpenClaw.Desktop.AccountFlag
import OpenClaw.Lib.RecentWindow
import OpenClaw.Lib.Steps

/-!
# What the channel plugin hands to the agent

The plugin reads frames from the server.  A frame comes again after a reconnect, or when the
server holds it in its inbox as well, so the plugin keeps the ids of the events it has seen,
the newest 2000 of them, in a `Map`: a new key goes to its end, and the first key goes when
there are too many.  Frames that are new, come from a mobile and have a text are handed to
the agent.

Beside this the plugin keeps a directory of mobiles, which gives their names.
-/

namespace OpenClaw.Desktop

open OpenClaw.Runtime

def maxSeenEventIds : ℕ := 2000

structure MobilePeerRecord where
  mobileId : String
  userId : String
  bindingId : String
  accountId : String
  createdAt : JsNumber
  updatedAt : JsNumber

/-! ## The directory -/

/-- `mobilePeersByAccount` and `mobileAliasToIdByAccount`. -/
structure PeerDirectory where
  peers : OrderedMap String (OrderedMap String MobilePeerRecord)
  aliases : OrderedMap String (OrderedMap String String)

/-- The key of a bucket. -/
def bucketOf (accountId : String) : String :=
  if jsTrim accountId = "" then defaultAccountId else jsTrim accountId

def PeerDirectory.getPeerBucket (directory : PeerDirectory) (accountId : String) :
    OrderedMap String MobilePeerRecord :=
  (directory.peers.get (bucketOf accountId)).getD ∅

def PeerDirectory.getAliasBucket (directory : PeerDirectory) (accountId : String) :
    OrderedMap String String :=
  (directory.aliases.get (bucketOf accountId)).getD ∅

/-- `first || second`. -/
def orText (first second : String) : String := if first = "" then second else first

def formatPeerDisplayName (mobileId userId : String) : String :=
  if jsTrim userId ≠ "" ∧ jsTrim userId ≠ jsTrim mobileId then
    jsTrim userId ++ " (" ++ jsTrim mobileId ++ ")"
  else orText (jsTrim userId) (jsTrim mobileId)

/-- The aliases of a mobile without, and with, a user. -/
def peerAliases (accountId mobileId userId : String) : List String :=
  [mobileId, "mobile:" ++ mobileId, mobileChannelId ++ ":" ++ mobileId,
    mobileChannelId ++ ":" ++ accountId ++ ":" ++ mobileId] ++
  if userId = "" then [] else [userId, "user:" ++ userId, "dm:" ++ userId]

/-- What `rememberMobilePeer` is told; a time that is missing is `undefined`. -/
structure PeerParams where
  accountId : String
  mobileId : String
  userId : String
  bindingId : String
  createdAt : Option JsNumber
  updatedAt : Option JsNumber

/-- `Number(given || existing || Date.now())`. -/
def peerTime (given existing : Option JsNumber) (now : ℕ) : JsNumber :=
  (given.getD 0).orElse ((existing.getD 0).orElse (.finite now))

def rememberMobilePeer (directory : PeerDirectory) (params : PeerParams) (now : ℕ) :
    PeerDirectory × Option MobilePeerRecord :=
  let mobileId := jsTrim params.mobileId
  if mobileId = "" then (directory, none)
  else
    let accountId := bucketOf params.accountId
    let existing := (directory.getPeerBucket accountId).get mobileId
    let next : MobilePeerRecord :=
      { mobileId
        userId := orText (jsTrim params.userId) ((existing.map MobilePeerRecord.userId).getD "")
        bindingId :=
          orText (jsTrim params.bindingId) ((existing.map MobilePeerRecord.bindingId).getD "")
        accountId
        createdAt := peerTime params.createdAt (existing.map MobilePeerRecord.createdAt) now
        updatedAt := peerTime params.updatedAt (existing.map MobilePeerRecord.updatedAt) now }
    ({ peers := directory.peers.set (bucketOf accountId)
         ((directory.getPeerBucket accountId).set mobileId next)
       aliases := directory.aliases.set (bucketOf accountId)
         ((peerAliases accountId mobileId next.userId).foldl (fun aliases key =>
           aliases.set key mobileId) (directory.getAliasBucket accountId)) },
      some next)

/-! ## Frames -/

/-- A frame that is a record. -/
structure PluginFrame where
  event : Record

def PluginFrame.eventId (frame : PluginFrame) : String := asString (frame.event.get "id")

def PluginFrame.eventType (frame : PluginFrame) : String := asString (frame.event.get "type")

def PluginFrame.payload (frame : PluginFrame) : Record :=
  (frame.event.get "payload").recordOrEmpty

def PluginFrame.fromType (frame : PluginFrame) : String :=
  asString ((frame.event.get "from").recordOrEmpty.get "type")

def PluginFrame.fromId (frame : PluginFrame) : String :=
  asString ((frame.event.get "from").recordOrEmpty.get "id")

/-- `asString(payload[camel] ?? payload[snake])`. -/
def readEither (payload : Record) (camel snake : String) : String :=
  asString ((payload.get camel).nullish (payload.get snake))

def resolveInboundText (eventType : String) (payload : Record) : String :=
  if eventType = "chat.message" then
    asString ((payload.get "text").nullish (payload.get "message"))
  else if eventType = "task.create" then
    asString ((payload.get "prompt").nullish
      ((payload.get "text").nullish (payload.get "message")))
  else
    asString ((payload.get "text").nullish
      ((payload.get "message").nullish (payload.get "prompt")))

/-- A call of `dispatchInboundToAgent`. -/
structure InboundCall where
  accountId : String
  mobileId : String
  senderName : String
  text : String
  eventTs : JsNumber

/-- The answer to a `channel.ping`. -/
structure ChannelPong where
  mobileId : String
  checkId : String

structure MobilePlugin where
  accountId : String
  seenEventIds : OrderedMap String ℕ
  mobileNames : OrderedMap String String
  directory : PeerDirectory
  /-- All calls. -/
  calls : List InboundCall
  /-- The calls that wait for the configuration. -/
  waiting : List InboundCall
  pongs : List ChannelPong

/-- Whether the id was seen; a blank one is never remembered. -/
def rememberEventId (cache : OrderedMap String ℕ) (eventId : String) (now : ℕ) :
    Bool × OrderedMap String ℕ :=
  if eventId = "" then (false, cache)
  else if (cache.get eventId).isSome then (true, cache)
  else
    let added := cache.set eventId now
    if added.keys.length ≤ maxSeenEventIds then (false, added)
    else
      match added.keys.head? with
      | some oldest => (false, if oldest = "" then added else added.erase oldest)
      | none => (false, added)

section Steps

-- `Number(value)`.
variable (number : Value → JsNumber)

def PluginFrame.eventTs (frame : PluginFrame) (now : ℕ) : JsNumber :=
  (number (frame.event.get "ts")).orElse (.finite now)

/-- `pair.claimed` -/
def rememberClaim (plugin : MobilePlugin) (frame : PluginFrame) (now : ℕ) : MobilePlugin :=
  let mobileId := readEither frame.payload "mobileId" "mobile_id"
  let userId := readEither frame.payload "userId" "user_id"
  if mobileId = "" then plugin
  else
    let remembered := rememberMobilePeer plugin.directory
      ⟨plugin.accountId, mobileId, userId, readEither frame.payload "bindingId" "binding_id",
        none, some (frame.eventTs number now)⟩ now
    let name :=
      match remembered.2 with
      | some peer => formatPeerDisplayName peer.mobileId peer.userId
      | none => formatPeerDisplayName mobileId userId
    { plugin with
      directory := remembered.1, mobileNames := plugin.mobileNames.set mobileId name }

/-- A mobile that has no name yet gets one. -/
def nameSender (plugin : MobilePlugin) (frame : PluginFrame) (now : ℕ) : MobilePlugin :=
  if (plugin.mobileNames.get frame.fromId).isSome then plugin
  else
    let remembered := rememberMobilePeer plugin.directory
      ⟨plugin.accountId, frame.fromId, readEither frame.payload "userId" "user_id", "", none,
        some (frame.eventTs number now)⟩ now
    let name :=
      match remembered.2 with
      | some peer => formatPeerDisplayName peer.mobileId peer.userId
      | none => formatPeerDisplayName frame.fromId ""
    { plugin with
      directory := remembered.1, mobileNames := plugin.mobileNames.set frame.fromId name }

/-- A frame that was not seen before. -/
def handleFrame (plugin : MobilePlugin) (frame : PluginFrame) (now : ℕ) : MobilePlugin :=
  if asString (frame.event.get "kind") ≠ "" then plugin
  else if frame.eventType = "pair.claimed" then rememberClaim number plugin frame now
  else if frame.eventType = "channel.ping" ∧ frame.fromType = "mobile" ∧ frame.fromId ≠ "" then
    let checkId := readEither frame.payload "checkId" "check_id"
    if checkId = "" then plugin
    else { plugin with pongs := plugin.pongs ++ [⟨frame.fromId, checkId⟩] }
  else if frame.fromType ≠ "mobile" ∨ frame.fromId = "" then plugin
  else if resolveInboundText frame.eventType frame.payload = "" then plugin
  else
    let named := nameSender number plugin frame now
    let call : InboundCall :=
      { accountId := plugin.accountId, mobileId := frame.fromId
        senderName := orText ((named.mobileNames.get frame.fromId).getD "") frame.fromId
        text := resolveInboundText frame.eventType frame.payload
        eventTs := frame.eventTs number now }
    { named with calls := named.calls ++ [call], waiting := named.waiting ++ [call] }

/-- The `message` listener, for a frame as `parseWsJson` gives it. -/
def onFrame (plugin : MobilePlugin) (parsed : Value) (now : ℕ) : MobilePlugin :=
  match parsed.record? with
  | none => plugin
  | some event =>
      let remembered := rememberEventId plugin.seenEventIds (PluginFrame.mk event).eventId now
      let seen := { plugin with seenEventIds := remembered.2 }
      if remembered.1 then seen else handleFrame number seen ⟨event⟩ now

/-- A binding that `fetchActiveBindings` reads. -/
def rememberBinding (plugin : MobilePlugin) (accountId : String) (binding : Value) (now : ℕ) :
    MobilePlugin × Option MobilePeerRecord :=
  let record := binding.recordOrEmpty
  let remembered := rememberMobilePeer plugin.directory
    ⟨accountId, asString (record.get "mobileId"), asString (record.get "userId"),
      asString (record.get "bindingId"),
      some ((number (record.get "createdAt")).orElse (.finite now)),
      some ((number (record.get "updatedAt")).orElse (.finite now))⟩ now
  ({ plugin with directory := remembered.1 }, remembered.2)

inductive PluginEvent
  /-- A binding that the server lists at the start. -/
  | synced (binding : Value) (now : ℕ)
  /-- One that it lists for the directory of an account. -/
  | listed (accountId : String) (binding : Value) (now : ℕ)
  | frame (parsed : Value) (now : ℕ)
  /-- A call has its configuration, and remembers the mobile once more. -/
  | configLoaded (index now : ℕ)

def pluginStep (plugin : MobilePlugin) : PluginEvent → MobilePlugin
  | .synced binding now =>
      let remembered := rememberBinding number plugin plugin.accountId binding now
      match remembered.2 with
      | some peer =>
          { remembered.1 with
            mobileNames := remembered.1.mobileNames.set peer.mobileId
              (formatPeerDisplayName peer.mobileId peer.userId) }
      | none => remembered.1
  | .listed accountId binding now => (rememberBinding number plugin accountId binding now).1
  | .frame parsed now => onFrame number plugin parsed now
  | .configLoaded index now =>
      match plugin.waiting[index]? with
      | some call =>
          let userId := if call.senderName.startsWith "user_" then call.senderName else ""
          { plugin with
            waiting := plugin.waiting.eraseIdx index
            directory := (rememberMobilePeer plugin.directory
              ⟨call.accountId, call.mobileId, userId, "", none, none⟩ now).1 }
      | none => plugin

end Steps

def MobilePlugin.initial (accountId : String) : MobilePlugin :=
  ⟨accountId, ∅, ∅, ⟨∅, ∅⟩, [], [], []⟩

/-! ## What is handed on -/

/-- The id of the frame, if it has one. -/
def PluginFrame.key (frame : PluginFrame) : Option String :=
  if frame.eventId = "" then none else some frame.eventId

/-- What the agent is to get of a frame: who wrote what. -/
def PluginFrame.inbound (frame : PluginFrame) : Option (String × String) :=
  if asString (frame.event.get "kind") ≠ "" ∨ frame.eventType = "pair.claimed" ∨
      frame.fromType ≠ "mobile" ∨ frame.fromId = "" ∨ frame.eventType = "channel.ping" ∨
      resolveInboundText frame.eventType frame.payload = "" then none
  else some (frame.fromId, resolveInboundText frame.eventType frame.payload)

def InboundCall.content (call : InboundCall) : String × String := (call.mobileId, call.text)

/-- The frame that arrives, if it is one. -/
def PluginEvent.frame? : PluginEvent → Option PluginFrame
  | .frame parsed _ => parsed.record?.map PluginFrame.mk
  | _ => none

section Inbound

open RecentWindow (window letIn admitted Repeated)

variable {number : Value → JsNumber} {plugin : MobilePlugin} {frame : PluginFrame} {now : ℕ}

theorem ne_of_mem_window {before : List PluginFrame} {id : String}
    (hmem : id ∈ window PluginFrame.key maxSeenEventIds before) : id ≠ "" := by
  have hkeys : id ∈ before.filterMap PluginFrame.key := List.mem_of_mem_drop hmem
  obtain ⟨frame, -, hkey⟩ := List.mem_filterMap.mp hkeys
  unfold PluginFrame.key at hkey
  split at hkey
  · cases hkey
  next hne =>
    rw [← Option.some_inj.mp hkey]
    exact hne

/-- **The cache is the window**: it has the ids of the frames that came through last. -/
theorem rememberEventId_spec {before : List PluginFrame} {cache : OrderedMap String ℕ}
    (hcache : cache.keys = window PluginFrame.key maxSeenEventIds before) :
    (rememberEventId cache frame.eventId now).1 =
        decide (Repeated PluginFrame.key maxSeenEventIds before frame) ∧
      (rememberEventId cache frame.eventId now).2.keys =
        window PluginFrame.key maxSeenEventIds
          (letIn PluginFrame.key maxSeenEventIds before frame) := by
  unfold rememberEventId
  by_cases hblank : frame.eventId = ""
  · have hkey : frame.key = none := if_pos hblank
    have hnew : ¬Repeated PluginFrame.key maxSeenEventIds before frame := by
      rintro ⟨key, -, hsome⟩
      rw [hkey] at hsome
      cases hsome
    rw [if_pos hblank, letIn, if_neg hnew, RecentWindow.window_concat_of_none hkey]
    exact ⟨(decide_eq_false hnew).symm, hcache⟩
  have hkey : frame.key = some frame.eventId := if_neg hblank
  have hrepeated : Repeated PluginFrame.key maxSeenEventIds before frame ↔
      frame.eventId ∈ cache.keys := by
    rw [hcache]
    constructor
    · rintro ⟨key, hmem, hsome⟩
      rw [hkey, Option.some_inj] at hsome
      rwa [hsome]
    · exact fun hmem => ⟨frame.eventId, hmem, hkey⟩
  rw [if_neg hblank]
  split
  next hseen =>
    have hmem : frame.eventId ∈ cache.keys := by
      rw [OrderedMap.mem_keys_iff]
      exact Option.isSome_iff_exists.mp hseen
    rw [letIn, if_pos (hrepeated.mpr hmem)]
    exact ⟨(decide_eq_true (hrepeated.mpr hmem)).symm, hcache⟩
  next hunseen =>
    have hnone : cache.get frame.eventId = none := Option.not_isSome_iff_eq_none.mp hunseen
    have hnew : ¬Repeated PluginFrame.key maxSeenEventIds before frame := by
      rw [hrepeated]
      exact OrderedMap.get_eq_none_iff.mp hnone
    have hadded : (cache.set frame.eventId now).keys = cache.keys ++ [frame.eventId] :=
      OrderedMap.keys_set_of_get_eq_none now hnone
    rw [letIn, if_neg hnew, decide_eq_false hnew,
      RecentWindow.window_concat hkey (by decide), ← hcache]
    dsimp only
    rw [hadded, List.length_append, List.length_singleton]
    by_cases hroom : cache.keys.length < maxSeenEventIds
    · rw [if_pos (by omega), if_pos hroom]
      exact ⟨rfl, hadded⟩
    · rw [if_neg (by omega), if_neg hroom]
      -- the cache is full, so there is an oldest id, and it is not blank
      have hlimit : maxSeenEventIds = 2000 := rfl
      obtain ⟨oldest, rest, hkeys⟩ : ∃ oldest rest, cache.keys = oldest :: rest :=
        List.exists_cons_of_length_pos (by omega)
      have hne : oldest ≠ "" := by
        apply @ne_of_mem_window before
        rw [← hcache, hkeys]
        exact List.mem_cons_self
      have hall : (cache.set frame.eventId now).keys = oldest :: (rest ++ [frame.eventId]) := by
        rw [hadded, hkeys, List.cons_append]
      rw [hkeys, List.cons_append, List.head?_cons, List.tail_cons]
      dsimp only
      rw [if_neg hne]
      exact ⟨rfl, OrderedMap.keys_erase_of_keys_eq_cons hall⟩

theorem handleFrame_spec : (handleFrame number plugin frame now).seenEventIds =
      plugin.seenEventIds ∧
    (handleFrame number plugin frame now).calls.map InboundCall.content =
      plugin.calls.map InboundCall.content ++ frame.inbound.toList := by
  have hskip : asString (frame.event.get "kind") ≠ "" ∨ frame.eventType = "pair.claimed" ∨
      frame.fromType ≠ "mobile" ∨ frame.fromId = "" ∨ frame.eventType = "channel.ping" ∨
      resolveInboundText frame.eventType frame.payload = "" → frame.inbound.toList = [] := by
    intro hskip
    rw [PluginFrame.inbound, if_pos hskip]
    rfl
  unfold handleFrame
  by_cases hkind : asString (frame.event.get "kind") ≠ ""
  · rw [if_pos hkind, hskip (Or.inl hkind), List.append_nil]
    exact ⟨rfl, rfl⟩
  rw [if_neg hkind]
  by_cases hclaimed : frame.eventType = "pair.claimed"
  · rw [if_pos hclaimed, hskip (Or.inr (Or.inl hclaimed)), List.append_nil, rememberClaim]
    dsimp only
    split
    · exact ⟨rfl, rfl⟩
    · exact ⟨rfl, rfl⟩
  rw [if_neg hclaimed]
  by_cases hping : frame.eventType = "channel.ping" ∧ frame.fromType = "mobile" ∧ frame.fromId ≠ ""
  · rw [if_pos hping, hskip (Or.inr (Or.inr (Or.inr (Or.inr (Or.inl hping.1))))), List.append_nil]
    dsimp only
    split
    · exact ⟨rfl, rfl⟩
    · exact ⟨rfl, rfl⟩
  rw [if_neg hping]
  by_cases hsender : frame.fromType ≠ "mobile" ∨ frame.fromId = ""
  · rw [if_pos hsender, hskip (Or.inr (Or.inr (hsender.imp_right Or.inl))), List.append_nil]
    exact ⟨rfl, rfl⟩
  rw [if_neg hsender]
  by_cases htext : resolveInboundText frame.eventType frame.payload = ""
  · rw [if_pos htext, hskip (Or.inr (Or.inr (Or.inr (Or.inr (Or.inr htext))))), List.append_nil]
    exact ⟨rfl, rfl⟩
  have hinbound : frame.inbound =
      some (frame.fromId, resolveInboundText frame.eventType frame.payload) := by
    refine if_neg ?_
    rw [not_or] at hsender
    rintro (h | h | h | h | h | h)
    · exact hkind h
    · exact hclaimed h
    · exact hsender.1 h
    · exact hsender.2 h
    · exact hping ⟨h, not_not.mp hsender.1, hsender.2⟩
    · exact htext h
  have hnamed : (nameSender number plugin frame now).seenEventIds = plugin.seenEventIds ∧
      (nameSender number plugin frame now).calls = plugin.calls := by
    unfold nameSender
    split
    · exact ⟨rfl, rfl⟩
    · exact ⟨rfl, rfl⟩
  rw [if_neg htext, hinbound]
  refine ⟨hnamed.1, ?_⟩
  dsimp only
  rw [List.map_append, hnamed.2]
  rfl

/-- What the plugin keeps of the frames that came through. -/
structure Kept (plugin : MobilePlugin) (through : List PluginFrame) : Prop where
  seen : plugin.seenEventIds.keys = window PluginFrame.key maxSeenEventIds through
  calls : plugin.calls.map InboundCall.content = through.filterMap PluginFrame.inbound

theorem kept_onFrame {through : List PluginFrame} (hkept : Kept plugin through) {event : Record}
    {parsed : Value} (hrecord : parsed.record? = some event) :
    Kept (onFrame number plugin parsed now)
      (letIn PluginFrame.key maxSeenEventIds through ⟨event⟩) := by
  obtain ⟨hfound, hcache⟩ :=
    @rememberEventId_spec ⟨event⟩ now through plugin.seenEventIds hkept.seen
  unfold onFrame
  rw [hrecord]
  dsimp only
  rw [hfound]
  by_cases hrepeated : Repeated PluginFrame.key maxSeenEventIds through ⟨event⟩
  · rw [if_pos (decide_eq_true hrepeated)]
    refine ⟨hcache, ?_⟩
    rw [letIn, if_pos hrepeated]
    exact hkept.calls
  · rw [if_neg (by simpa using hrepeated)]
    obtain ⟨hseen, hcalls⟩ := @handleFrame_spec number
      { plugin with seenEventIds :=
          (rememberEventId plugin.seenEventIds (PluginFrame.mk event).eventId now).2 }
      ⟨event⟩ now
    refine ⟨hseen ▸ hcache, ?_⟩
    rw [hcalls, letIn, if_neg hrepeated, List.filterMap_append, hkept.calls]
    congr 1

theorem Kept.same {after : MobilePlugin} {through : List PluginFrame} (hkept : Kept plugin through)
    (hsame : after.seenEventIds = plugin.seenEventIds ∧ after.calls = plugin.calls) :
    Kept after through := by
  refine ⟨?_, ?_⟩
  · rw [hsame.1]
    exact hkept.seen
  · rw [hsame.2]
    exact hkept.calls

theorem rememberBinding_frame {accountId : String} {binding : Value} :
    (rememberBinding number plugin accountId binding now).1.seenEventIds = plugin.seenEventIds ∧
      (rememberBinding number plugin accountId binding now).1.calls = plugin.calls := by
  unfold rememberBinding
  dsimp only
  exact ⟨rfl, rfl⟩

theorem pluginStep_synced {binding : Value} :
    (pluginStep number plugin (.synced binding now)).seenEventIds = plugin.seenEventIds ∧
      (pluginStep number plugin (.synced binding now)).calls = plugin.calls := by
  have hframe := @rememberBinding_frame number plugin now plugin.accountId binding
  rw [pluginStep]
  generalize rememberBinding number plugin plugin.accountId binding now = remembered at hframe ⊢
  obtain ⟨after, peer⟩ := remembered
  cases peer with
  | none => exact hframe
  | some peer => exact hframe

/-- **One step.**  Only frames matter. -/
theorem kept_pluginStep {through : List PluginFrame} (hkept : Kept plugin through)
    (event : PluginEvent) : Kept (pluginStep number plugin event)
      (event.frame?.toList.foldl (letIn PluginFrame.key maxSeenEventIds) through) := by
  cases event with
  | synced binding now => exact hkept.same (@pluginStep_synced number plugin now binding)
  | listed accountId binding now =>
      show Kept (rememberBinding number plugin accountId binding now).1 through
      exact hkept.same (@rememberBinding_frame number plugin now accountId binding)
  | frame parsed now =>
      cases hrecord : parsed.record? with
      | none =>
          rw [pluginStep, onFrame, PluginEvent.frame?, hrecord, Option.map_none,
            Option.toList_none, List.foldl_nil]
          exact hkept
      | some event =>
          rw [pluginStep, PluginEvent.frame?, hrecord, Option.map_some, Option.toList_some,
            List.foldl_cons, List.foldl_nil]
          exact kept_onFrame hkept hrecord
  | configLoaded index now =>
      show Kept (pluginStep number plugin (.configLoaded index now)) through
      rw [pluginStep]
      split
      · exact hkept.same ⟨rfl, rfl⟩
      · exact hkept

theorem kept_run (accountId : String) (events : List PluginEvent) :
    Kept (Steps.run (pluginStep number) (.initial accountId) events)
      (admitted PluginFrame.key maxSeenEventIds (events.filterMap PluginEvent.frame?)) := by
  induction events using List.reverseRecOn with
  | nil => exact ⟨rfl, rfl⟩
  | append_singleton events event ih =>
      have hframes : (events ++ [event]).filterMap PluginEvent.frame? =
          events.filterMap PluginEvent.frame? ++ event.frame?.toList := by
        rw [List.filterMap_append]
        cases hframe : event.frame? <;> simp [hframe]
      rw [Steps.run_concat, hframes, admitted, List.foldl_append]
      exact kept_pluginStep ih event

/-- **The agent gets what comes through the window**, in order.  A frame is left out exactly
if its id came through with fewer than 2000 others behind it; so an id comes through again
only after 2000 others. -/
theorem calls_through_window (number : Value → JsNumber) (accountId : String)
    (events : List PluginEvent) :
    let frames := events.filterMap PluginEvent.frame?
    (Steps.run (pluginStep number) (.initial accountId) events).calls.map InboundCall.content =
        (admitted PluginFrame.key maxSeenEventIds frames).filterMap PluginFrame.inbound ∧
      (∀ front between back first second id,
        admitted PluginFrame.key maxSeenEventIds frames =
          front ++ first :: between ++ second :: back →
        first.key = some id → second.key = some id →
          maxSeenEventIds ≤ (between.filterMap PluginFrame.key).length) ∧
      ∀ before frame, before ++ [frame] <+: frames →
        (admitted PluginFrame.key maxSeenEventIds (before ++ [frame]) =
            admitted PluginFrame.key maxSeenEventIds before ↔
          ∃ front first back,
            admitted PluginFrame.key maxSeenEventIds before = front ++ first :: back ∧
              (∃ id, first.key = some id ∧ frame.key = some id) ∧
              (back.filterMap PluginFrame.key).length < maxSeenEventIds) := by
  intro frames
  refine ⟨(kept_run accountId events).calls, ?_, ?_⟩
  · intro front between back first second id hsplit hfirst hsecond
    exact RecentWindow.limit_le_between hsplit hfirst hsecond
  · intro before frame _
    rw [← RecentWindow.repeated_iff, RecentWindow.admitted_concat, RecentWindow.letIn_eq_self_iff]

end Inbound

end OpenClaw.Desktop
