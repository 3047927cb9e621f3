import OpenClaw.Wire.ChannelRevoke
import OpenClaw.Wire.ChatFormat

/-!
# App messages that reach the phone

An app message of the desktop comes to the phone over the data channel or in a signal, and
there is a handler for either way.  The handler of the data channel reads a chat message with
`parseOpenClawPairChatMessage` of the message SDK; the one of the signals reads the fields
itself: it trims the text, leaves out a blank one, and has no id for a message without one.

So a message may be stored as one thing over one way and as another over the other, and it does
come over both, when the desktop tries the relay after the data channel or sends it again.
-/

namespace OpenClaw.Wire

open OpenClaw.Runtime OpenClaw.Desktop OpenClaw.Peer
open OpenClaw.Mobile (RemoteMessage ChatMessage normalizeAfterIds upsertRemoteChatMessage
  remoteMessage timeOr validTime normalizeChatMessage upsertAndCut finishMessage)

def openclawChatAckType : String := "app.openclaw.chat.ack"

def openclawChatSyncRequestType : String := "app.openclaw.chat.sync-request"

def openclawChatPingType : String := "app.openclaw.chat.ping"

def openclawChatPongType : String := "app.openclaw.chat.pong"

/-! ## The formats that have ids and times only -/

/-- The ids of a message of this type. -/
def parseMessageIds (reader : Reader) (type : String) (message : Json) : Option (List String) :=
  if reader.trimmed message "type" ≠ type then none
  else some (reader.normalizeIds ((payloadOf message).field "messageIds"))

/-- `parseOpenClawPairChatAck` -/
def parseChatAck (reader : Reader) : Json → Option (List String) :=
  parseMessageIds reader openclawChatAckType

/-- `parseOpenClawPairChatSyncRequest` -/
def parseSyncRequest (reader : Reader) : Json → Option (List String) :=
  parseMessageIds reader openclawChatSyncRequestType

/-- What a ping and the pong for it have. -/
structure LinkProbe where
  id : String
  sentAt : JsNumber

def parseProbe (reader : Reader) (type : String) (message : Json) : Option LinkProbe :=
  if reader.trimmed message "type" ≠ type then none
  else if reader.trimmed (payloadOf message) "id" = "" then none
  else
    some
      { id := reader.trimmed (payloadOf message) "id"
        sentAt := (reader.coercion.number ((payloadOf message).field "sentAt") 0).whole }

/-- `parseOpenClawPairChatPing` -/
def parseChatPing (reader : Reader) : Json → Option LinkProbe :=
  parseProbe reader openclawChatPingType

/-- `parseOpenClawPairChatPong` -/
def parseChatPong (reader : Reader) : Json → Option LinkProbe :=
  parseProbe reader openclawChatPongType

/-! ## The two handlers -/

/-- What the phone does for an app message. -/
inductive AppAction
  | ignored
  /-- `closePeer`, `removeSessionLocal` -/
  | revoke (ids : ChannelIds)
  /-- `applyLinkPong` -/
  | pong (pong : LinkProbe)
  /-- `respondToLinkPing` -/
  | ping (ping : LinkProbe)
  /-- `handleDesktopSyncState` -/
  | syncState (state : SyncState)
  /-- `resendKnownMessages` -/
  | resend (messageIds : List String)
  /-- `upsertRemoteChatMessage`, `acknowledgeMessages` -/
  | chat (message : RemoteMessage)

section Handlers

variable (reader : Reader)

def readRevoke (message : Json) : Option AppAction :=
  (parseChannelRevoke reader message).map fun revoke => .revoke revoke.ids

def readAck (message : Json) : Option AppAction :=
  (parseChatAck reader message).map fun _ => .ignored

def readPong (message : Json) : Option AppAction := (parseChatPong reader message).map .pong

def readPing (message : Json) : Option AppAction := (parseChatPing reader message).map .ping

def readSyncState (message : Json) : Option AppAction :=
  (parseSyncState reader message).map fun event => .syncState event.state

def readSyncRequest (message : Json) : Option AppAction :=
  (parseSyncRequest reader message).map .resend

/-- `onChatMessage` of the chat module. -/
def readChat (message : Json) : Option AppAction :=
  (parseChatMessage reader message).map fun chat =>
    .chat
      { id := chat.id, sender := .host, text := chat.text, ts := chat.ts
        origin := some chat.origin, originSeq := chat.originSeq, after := chat.after }

/-- The chat branch for a signal. -/
def readRelayedChat (message : Json) : Option AppAction :=
  if reader.trimmed message "type" ≠ openclawChatMessageType then none
  else
    let payload := payloadOf message
    let text := reader.trimmed payload "text"
    if text = "" then none
    else
      some (.chat
        { id := reader.trimmed payload "id"
          sender := .host
          text := text
          ts := reader.tsOf message
          origin :=
            if (payload.field "origin").bind asStr = some "mobile" then some .mobile
            else some .host
          originSeq := (reader.coercion.number (payload.field "originSeq") 0).whole
          after := (((payload.field "after").bind asArray).getD []).map fun element =>
            reader.coercion.string (some element) })

/-- The first that reads the message decides. -/
def firstAction (readers : List (Json → Option AppAction)) (message : Json) : AppAction :=
  (readers.findSome? fun read => read message).getD .ignored

/-- `onAppMessage`, for what came over the data channel. -/
def receiveOverPeer (message : Json) : AppAction :=
  match handleDataMessage reader message with
  | none => .ignored
  | some received =>
      firstAction [readRevoke reader, readAck reader, readPong reader, readPing reader,
        readSyncState reader, readSyncRequest reader, readChat reader] received

/-- The `relay.app` branch of `handleSignalEvent`. -/
def receiveOverRelay (message : Json) : AppAction :=
  firstAction [readRevoke reader, readSyncRequest reader, readAck reader, readPong reader,
    readPing reader, readSyncState reader, readRelayedChat reader] message

end Handlers

/-- What comes of it: the messages of the session, those that are acknowledged, and anything
else. -/
structure Reception where
  messages : List ChatMessage
  acknowledged : List String
  action : AppAction

def AppAction.reception (choices : Mobile.Choices) (env : Mobile.Env)
    (messages : List ChatMessage) : AppAction → Reception
  | .chat message =>
      match upsertRemoteChatMessage choices env messages message with
      | .ok stored => ⟨stored, normalizeAfterIds [message.id], .ignored⟩
      | .error _ => ⟨messages, [], .ignored⟩
  | action => ⟨messages, [], action⟩

/-! ## The readers -/

/-- What all readers but those of chat messages go by. -/
structure Alike (reader : Reader) (message other : Json) : Prop where
  type : reader.trimmed message "type" = reader.trimmed other "type"
  payload : payloadOf message = payloadOf other

/-- The reader leaves messages of another type alone. -/
def ReadsOnly (reader : Reader) (type : String) (read : Json → Option AppAction) : Prop :=
  ∀ message, reader.trimmed message "type" ≠ type → read message = none

section Reading

variable {reader : Reader} {message received : Json}

/-- When only one of them reads the message, their order does not matter. -/
theorem firstAction_perm {readers others : List (Json → Option AppAction)}
    (hperm : readers.Perm others)
    (honly : readers.Pairwise fun first second => first message = none ∨ second message = none) :
    firstAction readers message = firstAction others message := by
  unfold firstAction
  congr 1
  induction hperm with
  | nil => rfl
  | cons read _ ih =>
      rw [List.findSome?_cons, List.findSome?_cons, ih (List.pairwise_cons.mp honly).2]
  | swap first second rest =>
      have hpair := (List.pairwise_cons.mp honly).1 first List.mem_cons_self
      rw [List.findSome?_cons, List.findSome?_cons, List.findSome?_cons, List.findSome?_cons]
      obtain hnone | hnone := hpair
      · rw [hnone]
      · rw [hnone]
  | trans hfirst _ ihfirst ihsecond =>
      rw [ihfirst honly]
      apply ihsecond
      exact (hfirst.pairwise_iff fun hnone => Or.symm hnone).mp honly

theorem pairwise_of_readsOnly {readers : List (String × (Json → Option AppAction))}
    (hnodup : (readers.map Prod.fst).Nodup)
    (honly : ∀ entry ∈ readers, ReadsOnly reader entry.1 entry.2) :
    (readers.map Prod.snd).Pairwise fun first second =>
      first message = none ∨ second message = none := by
  rw [List.pairwise_map]
  have hdistinct : readers.Pairwise fun first second => first.1 ≠ second.1 :=
    List.pairwise_map.mp hnodup
  refine hdistinct.imp_of_mem fun {first second} hfirst hsecond hne => ?_
  by_cases htype : reader.trimmed message "type" = first.1
  · exact Or.inr (honly second hsecond message (htype ▸ hne))
  · exact Or.inl (honly first hfirst message htype)

theorem readsOnly_revoke : ReadsOnly reader openclawChannelRevokeType (readRevoke reader) := by
  intro message htype
  rw [readRevoke, parseChannelRevoke, if_pos htype, Option.map_none]

theorem readsOnly_ack : ReadsOnly reader openclawChatAckType (readAck reader) := by
  intro message htype
  rw [readAck, parseChatAck, parseMessageIds, if_pos htype, Option.map_none]

theorem readsOnly_syncRequest :
    ReadsOnly reader openclawChatSyncRequestType (readSyncRequest reader) := by
  intro message htype
  rw [readSyncRequest, parseSyncRequest, parseMessageIds, if_pos htype, Option.map_none]

theorem readsOnly_pong : ReadsOnly reader openclawChatPongType (readPong reader) := by
  intro message htype
  rw [readPong, parseChatPong, parseProbe, if_pos htype, Option.map_none]

theorem readsOnly_ping : ReadsOnly reader openclawChatPingType (readPing reader) := by
  intro message htype
  rw [readPing, parseChatPing, parseProbe, if_pos htype, Option.map_none]

theorem readsOnly_syncState :
    ReadsOnly reader openclawChatSyncStateType (readSyncState reader) := by
  intro message htype
  rw [readSyncState, parseSyncState, if_pos htype, Option.map_none]

theorem readsOnly_chat : ReadsOnly reader openclawChatMessageType (readChat reader) := by
  intro message htype
  rw [readChat, parseChatMessage, if_pos htype, Option.map_none]

theorem readsOnly_relayedChat :
    ReadsOnly reader openclawChatMessageType (readRelayedChat reader) := by
  intro message htype
  rw [readRelayedChat, if_pos htype]

/-- The readers of the data channel but the one of chat messages. -/
def plainReaders (reader : Reader) : List (String × (Json → Option AppAction)) :=
  [(openclawChannelRevokeType, readRevoke reader), (openclawChatAckType, readAck reader),
    (openclawChatPongType, readPong reader), (openclawChatPingType, readPing reader),
    (openclawChatSyncStateType, readSyncState reader),
    (openclawChatSyncRequestType, readSyncRequest reader)]

/-- Their types. -/
def plainTypes : List String :=
  [openclawChannelRevokeType, openclawChatAckType, openclawChatPongType, openclawChatPingType,
    openclawChatSyncStateType, openclawChatSyncRequestType]

theorem types_plainReaders : (plainReaders reader).map Prod.fst = plainTypes := by
  unfold plainReaders plainTypes
  simp only [List.map_cons, List.map_nil]

theorem nodup_types : (plainTypes ++ [openclawChatMessageType]).Nodup := by decide

theorem readsOnly_plainReaders :
    ∀ entry ∈ plainReaders reader, ReadsOnly reader entry.1 entry.2 := by
  unfold plainReaders
  simp only [List.forall_mem_cons]
  exact ⟨readsOnly_revoke, readsOnly_ack, readsOnly_pong, readsOnly_ping, readsOnly_syncState,
    readsOnly_syncRequest, List.forall_mem_nil _⟩

theorem Alike.parseMessageIds {other : Json} (halike : Alike reader message other)
    (type : String) :
    parseMessageIds reader type message = parseMessageIds reader type other := by
  unfold Wire.parseMessageIds
  rw [halike.type, halike.payload]

theorem Alike.parseProbe {other : Json} (halike : Alike reader message other) (type : String) :
    parseProbe reader type message = parseProbe reader type other := by
  unfold Wire.parseProbe
  rw [halike.type, halike.payload]

theorem Alike.readRevoke {other : Json} (halike : Alike reader message other) :
    readRevoke reader message = readRevoke reader other := by
  unfold Wire.readRevoke parseChannelRevoke
  rw [halike.type, halike.payload]
  split
  · rfl
  · rfl

theorem Alike.readSyncState {other : Json} (halike : Alike reader message other) :
    readSyncState reader message = readSyncState reader other := by
  unfold Wire.readSyncState parseSyncState
  rw [halike.type, halike.payload]
  split
  · rfl
  · rfl

/-- They find the same in messages that are alike. -/
theorem read_plainReaders {other : Json} (halike : Alike reader message other) :
    ∀ entry ∈ plainReaders reader, entry.2 message = entry.2 other := by
  unfold plainReaders
  simp only [List.forall_mem_cons]
  exact ⟨halike.readRevoke, congrArg (Option.map _) (halike.parseMessageIds _),
    congrArg (Option.map _) (halike.parseProbe _), congrArg (Option.map _) (halike.parseProbe _),
    halike.readSyncState, congrArg (Option.map _) (halike.parseMessageIds _),
    List.forall_mem_nil _⟩

/-- What the plain readers make of it, or else the last one. -/
def plainOr (reader : Reader) (read : Json → Option AppAction) (message : Json) : AppAction :=
  firstAction (((plainReaders reader).map Prod.snd) ++ [read]) message

theorem readers_eq (read : Json → Option AppAction) :
    (plainReaders reader).map Prod.snd ++ [read] =
      [readRevoke reader, readAck reader, readPong reader, readPing reader, readSyncState reader,
        readSyncRequest reader, read] := by
  unfold plainReaders
  simp only [List.map_cons, List.map_nil, List.cons_append, List.nil_append]

theorem receiveOverPeer_eq (hreceived : handleDataMessage reader message = some received) :
    receiveOverPeer reader message = plainOr reader (readChat reader) received := by
  unfold receiveOverPeer plainOr
  rw [hreceived, readers_eq]

theorem readsOnly_concat {read : Json → Option AppAction}
    (hread : ReadsOnly reader openclawChatMessageType read) :
    ∀ entry ∈ plainReaders reader ++ [(openclawChatMessageType, read)],
      ReadsOnly reader entry.1 entry.2 := by
  intro entry hmem
  obtain hplain | hlast := List.mem_append.mp hmem
  · exact @readsOnly_plainReaders reader entry hplain
  · obtain rfl := List.mem_singleton.mp hlast
    exact hread

theorem pairwise_readers {read : Json → Option AppAction}
    (hread : ReadsOnly reader openclawChatMessageType read) :
    ((plainReaders reader).map Prod.snd ++ [read]).Pairwise fun first second =>
      first message = none ∨ second message = none := by
  have hnodup : ((plainReaders reader ++ [(openclawChatMessageType, read)]).map
      Prod.fst).Nodup := by
    rw [List.map_append, types_plainReaders]
    exact nodup_types
  have hpairwise := @pairwise_of_readsOnly reader message _ hnodup (readsOnly_concat hread)
  rwa [List.map_append] at hpairwise

theorem receiveOverRelay_eq :
    receiveOverRelay reader message = plainOr reader (readRelayedChat reader) message := by
  have hpairwise := @pairwise_readers reader message _ readsOnly_relayedChat
  rw [readers_eq] at hpairwise
  unfold receiveOverRelay plainOr
  rw [readers_eq]
  symm
  refine firstAction_perm ?_ hpairwise
  -- The request for messages comes second here, and sixth there.
  let between := [readAck reader, readPong reader, readPing reader, readSyncState reader]
  have hmiddle : (between ++ readSyncRequest reader :: [readRelayedChat reader]).Perm
      (readSyncRequest reader :: (between ++ [readRelayedChat reader])) := List.perm_middle
  exact hmiddle.cons (readRevoke reader)

/-- None of them reads a message of another type. -/
theorem plainOr_of_unknown {read : Json → Option AppAction}
    (hunknown : reader.trimmed message "type" ∉ plainTypes) :
    plainOr reader read message = (read message).getD .ignored := by
  have hnone : ((plainReaders reader).map Prod.snd).findSome? (fun read => read message) =
      none := by
    rw [List.findSome?_eq_none_iff]
    intro read hmem
    obtain ⟨entry, hentry, rfl⟩ := List.mem_map.mp hmem
    apply readsOnly_plainReaders entry hentry
    intro hsame
    apply hunknown
    rw [hsame, ← types_plainReaders]
    exact List.mem_map_of_mem hentry
  unfold plainOr firstAction
  rw [List.findSome?_append, hnone, Option.none_or, List.findSome?_singleton]

theorem plainOr_of_chat {read : Json → Option AppAction}
    (htype : reader.trimmed message "type" = openclawChatMessageType) :
    plainOr reader read message = (read message).getD .ignored := by
  apply plainOr_of_unknown
  rw [htype]
  exact fun hplain => (List.nodup_append.mp nodup_types).2.2 _ hplain _ List.mem_cons_self rfl

theorem findSome?_plainReaders {other : Json} (halike : Alike reader message other) :
    ((plainReaders reader).map Prod.snd).findSome? (fun read => read message) =
      ((plainReaders reader).map Prod.snd).findSome? (fun read => read other) := by
  have hread := @read_plainReaders reader message other halike
  rw [List.findSome?_map, List.findSome?_map]
  generalize plainReaders reader = readers at hread ⊢
  induction readers with
  | nil => rfl
  | cons entry rest ih =>
      rw [List.forall_mem_cons] at hread
      rw [List.findSome?_cons, List.findSome?_cons, Function.comp_apply, Function.comp_apply,
        hread.1, ih hread.2]

/-- Away from chat messages the last reader does not matter. -/
theorem plainOr_congr {other : Json} {first second : Json → Option AppAction}
    (halike : Alike reader message other) (hfirst : first message = none)
    (hsecond : second other = none) :
    plainOr reader first message = plainOr reader second other := by
  unfold plainOr firstAction
  rw [List.findSome?_append, List.findSome?_append, findSome?_plainReaders halike,
    List.findSome?_singleton, List.findSome?_singleton, hfirst, hsecond]

theorem isObject_payloadOf (message : Json) : (payloadOf message).isObject = true := by
  unfold payloadOf
  cases hfilter : (message.field "payload").filter Json.isObject with
  | none => rfl
  | some payload => exact (Option.filter_eq_some_iff.mp hfilter).2

/-- What comes over the data channel is like what was sent. -/
theorem alike_handleDataMessage (hreceived : handleDataMessage reader message = some received) :
    Alike reader received message := by
  unfold handleDataMessage at hreceived
  split at hreceived
  · obtain rfl := Option.some.inj hreceived
    refine ⟨trimmed_appMessage (Mobile.jsTrim_jsTrim _), ?_⟩
    show ((some (payloadOf message)).filter Json.isObject).getD _ = _
    rw [Option.filter_some, if_pos (isObject_payloadOf message), Option.getD_some]
  · cases hreceived

theorem isAppMessageType_plainTypes : ∀ type ∈ plainTypes, isAppMessageType type = true := by
  decide

/-- Any message but a chat message has the same meaning over both ways. -/
theorem receive_of_ne_chat (htype : reader.trimmed message "type" ≠ openclawChatMessageType) :
    receiveOverPeer reader message = receiveOverRelay reader message := by
  rw [receiveOverRelay_eq]
  cases hreceived : handleDataMessage reader message with
  | none =>
      have hforeign : isAppMessageType (reader.trimmed message "type") ≠ true := by
        intro happ
        rw [handleDataMessage, if_pos happ] at hreceived
        cases hreceived
      have hunknown : reader.trimmed message "type" ∉ plainTypes :=
        fun hplain => hforeign (isAppMessageType_plainTypes _ hplain)
      rw [plainOr_of_unknown hunknown, readsOnly_relayedChat message htype, receiveOverPeer,
        hreceived, Option.getD_none]
  | some received =>
      have halike := alike_handleDataMessage hreceived
      rw [receiveOverPeer_eq hreceived]
      apply plainOr_congr halike
      · apply readsOnly_chat received
        rw [halike.type]
        exact htype
      · exact readsOnly_relayedChat message htype

end Reading

/-! ## Chat messages -/

/-- What a chat message must be for both handlers to store the same. -/
structure PlainChat (reader : Reader) (message : Json) : Prop where
  id : reader.trimmed (payloadOf message) "id" ≠ ""
  blank : reader.trimmed (payloadOf message) "text" ≠ ""
  text : reader.trimmed (payloadOf message) "text" =
    reader.coercion.string ((payloadOf message).field "text")
  origin : ((payloadOf message).field "origin").bind asStr = some "mobile" ∨
    ((payloadOf message).field "origin").bind asStr = some "host" ∨ isFrom message "mobile" = false

/-- The phone stores nothing with a time that is none. -/
def Timed (reader : Reader) (message : Json) : Prop :=
  validTime ((reader.tsOf message).orElse (.finite reader.now)) = true

section Chat

variable {reader : Reader} {message received : Json} {choices : Mobile.Choices} {env : Mobile.Env}
  {messages : List ChatMessage} {chat other : RemoteMessage}

/-- A message without an id is not stored, and its blank id not acknowledged. -/
theorem reception_of_blank (hid : jsTrim chat.id = "") :
    (AppAction.chat chat).reception choices env messages = ⟨messages, [], .ignored⟩ := by
  have hacknowledged : normalizeAfterIds [chat.id] = [] := by
    simp [normalizeAfterIds, hid, OrderedSet.ofList]
  unfold AppAction.reception upsertRemoteChatMessage
  dsimp only
  rw [if_pos hid]
  dsimp only
  rw [hacknowledged]

theorem reception_of_untimed (htime : ¬validTime (timeOr env chat.ts) = true) :
    (AppAction.chat chat).reception choices env messages = ⟨messages, [], .ignored⟩ := by
  by_cases hid : jsTrim chat.id = ""
  · exact reception_of_blank hid
  · unfold AppAction.reception upsertRemoteChatMessage
    dsimp only
    rw [if_neg hid, if_neg htime]

theorem reception_of_timed (hid : jsTrim chat.id ≠ "")
    (htime : validTime (timeOr env chat.ts) = true) :
    (AppAction.chat chat).reception choices env messages =
      ⟨upsertAndCut choices messages (remoteMessage env chat), normalizeAfterIds [chat.id],
        .ignored⟩ := by
  unfold AppAction.reception upsertRemoteChatMessage
  dsimp only
  rw [if_neg hid, if_pos htime]

/-- Only the normal form is stored. -/
theorem upsertAndCut_congr {first second : ChatMessage}
    (hnormal : normalizeChatMessage first = normalizeChatMessage second) :
    upsertAndCut choices messages first = upsertAndCut choices messages second := by
  unfold upsertAndCut Mobile.upsertSessionMessage
  rw [hnormal]

/-- In a session without messages the message is the only one. -/
theorem upsertAndCut_nil {first : ChatMessage} (hkind : first.kind = .chat)
    (hid : jsTrim first.id ≠ "") :
    ∃ missing, upsertAndCut choices [] first =
      [finishMessage missing (normalizeChatMessage (normalizeChatMessage first))] := by
  let incoming := normalizeChatMessage first
  have hchat : incoming.kind ≠ .system := by
    show first.kind ≠ .system
    rw [hkind]
    exact nofun
  have htrimmed : jsTrim incoming.id ≠ "" := by
    show jsTrim (jsTrim first.id) ≠ ""
    rwa [Mobile.jsTrim_jsTrim]
  have hextracted : Mobile.extractChatMessages [incoming] = [normalizeChatMessage incoming] := by
    have hkept : (normalizeChatMessage incoming).kind ≠ .system ∧
        (normalizeChatMessage incoming).id ≠ "" := ⟨hchat, htrimmed⟩
    show [normalizeChatMessage incoming].filter _ = _
    rw [List.filter_singleton, decide_eq_true hkept]
    rfl
  have hnodup : (Mobile.chatIds [incoming]).Nodup := by
    unfold Mobile.chatIds
    rw [hextracted]
    exact List.nodup_singleton _
  have hsystem : (Mobile.messagesOfKind .system [incoming]).values = [] := by
    have hnone : ([normalizeChatMessage incoming].filter fun message =>
        decide (message.id ≠ "" ∧ message.kind = .system)) = [] := by
      rw [List.filter_singleton, decide_eq_false fun hboth => hchat hboth.2]
      rfl
    unfold Mobile.messagesOfKind
    rw [List.map_singleton, hnone]
    rfl
  have hperm := Mobile.reconcile_perm choices hnodup
  unfold Mobile.finishedMessages at hperm
  rw [hsystem, hextracted, List.nil_append, List.map_singleton, List.perm_singleton] at hperm
  have hstored : upsertAndCut choices [] first =
      Mobile.sliceNewest (Mobile.reconcileSessionMessages choices [incoming]).messages := rfl
  rw [hperm, Mobile.sliceNewest_of_le] at hstored
  · exact ⟨_, hstored⟩
  · rw [List.length_singleton]
    decide

/-- What the handler of the data channel stores. -/
def peerChat (reader : Reader) (message : Json) : RemoteMessage where
  id :=
    if reader.trimmed (payloadOf message) "id" = "" then
      reader.createMessageId ((reader.tsOf message).orElse (.finite reader.now))
    else reader.trimmed (payloadOf message) "id"
  sender := .host
  text := reader.coercion.string ((payloadOf message).field "text")
  ts := (reader.tsOf message).orElse (.finite reader.now)
  origin :=
    some (if ((payloadOf message).field "origin").bind asStr = some "mobile" then .mobile
      else if ((payloadOf message).field "origin").bind asStr = some "host" then .host
      else if isFrom message "mobile" then .mobile
      else .host)
  originSeq := (reader.coercion.number ((payloadOf message).field "originSeq") 0).whole
  after := reader.normalizeIds ((payloadOf message).field "after")

/-- What the handler of the signals stores, unless the text is blank. -/
def relayedChat (reader : Reader) (message : Json) : RemoteMessage where
  id := reader.trimmed (payloadOf message) "id"
  sender := .host
  text := reader.trimmed (payloadOf message) "text"
  ts := reader.tsOf message
  origin :=
    if ((payloadOf message).field "origin").bind asStr = some "mobile" then some .mobile
    else some .host
  originSeq := (reader.coercion.number ((payloadOf message).field "originSeq") 0).whole
  after := ((((payloadOf message).field "after").bind asArray).getD []).map fun element =>
    reader.coercion.string (some element)

theorem id_peerChat (hid : reader.trimmed (payloadOf message) "id" ≠ "") :
    (peerChat reader message).id = reader.trimmed (payloadOf message) "id" := by
  unfold peerChat
  dsimp only
  rw [if_neg hid]

theorem receiveOverPeer_of_chat (htype : reader.trimmed message "type" = openclawChatMessageType) :
    receiveOverPeer reader message = .chat (peerChat reader message) := by
  let sender := if isFrom message "mobile" then "mobile" else "desktop"
  let received := appMessage openclawChatMessageType (payloadOf message)
    (.num (reader.tsOf message)) sender
  have hreceived : handleDataMessage reader message = some received := by
    unfold handleDataMessage
    rw [htype, if_pos (by decide)]
  have halike := alike_handleDataMessage hreceived
  have hts : reader.tsOf received = (reader.tsOf message).orElse (.finite reader.now) :=
    Coercion.number_num _ _ _
  have hsender : isFrom received "desktop" = !isFrom message "mobile" := by
    show decide (some sender = some "desktop") = _
    cases hfrom : isFrom message "mobile" with
    | false =>
        have hname : sender = "desktop" := if_neg (hfrom ▸ Bool.false_ne_true)
        rw [hname]
        rfl
    | true =>
        have hname : sender = "mobile" := if_pos hfrom
        rw [hname]
        decide
  rw [receiveOverPeer_eq hreceived, plainOr_of_chat (halike.type.trans htype), readChat,
    parseChatMessage, if_neg (not_not.mpr (halike.type.trans htype))]
  dsimp only
  have horigin : ∀ mobile : Bool, (if (!mobile) = true then Mobile.Origin.host else .mobile) =
      if mobile = true then .mobile else .host := by
    decide
  rw [halike.payload, hts, hsender, Option.map_some, Option.getD_some, horigin]
  unfold peerChat
  dsimp only

theorem receiveOverRelay_of_chat
    (htype : reader.trimmed message "type" = openclawChatMessageType) :
    receiveOverRelay reader message =
      if reader.trimmed (payloadOf message) "text" = "" then .ignored
      else .chat (relayedChat reader message) := by
  rw [receiveOverRelay_eq, plainOr_of_chat htype, readRelayedChat, if_neg (not_not.mpr htype)]
  dsimp only
  split
  · rfl
  · rfl

theorem timeOr_orElse (hnow : env.now = reader.now) (ts : JsNumber) :
    timeOr env (ts.orElse (.finite reader.now)) = ts.orElse (.finite reader.now) := by
  unfold timeOr JsNumber.orElse
  rw [hnow]
  split
  · split
    · rfl
    · rfl
  · rfl

theorem timeOr_peerChat (hnow : env.now = reader.now) :
    timeOr env (peerChat reader message).ts =
      (reader.tsOf message).orElse (.finite reader.now) := timeOr_orElse hnow _

theorem timeOr_relayedChat (hnow : env.now = reader.now) :
    timeOr env (relayedChat reader message).ts =
      (reader.tsOf message).orElse (.finite reader.now) := by
  rw [← hnow]
  rfl

/-- A plain message has one normal form, whichever handler reads it. -/
theorem normalize_of_plain (hnow : env.now = reader.now) (hplain : PlainChat reader message) :
    normalizeChatMessage (remoteMessage env (peerChat reader message)) =
      normalizeChatMessage (remoteMessage env (relayedChat reader message)) := by
  have hid : (peerChat reader message).id = (relayedChat reader message).id :=
    id_peerChat hplain.id
  have htext : (peerChat reader message).text = (relayedChat reader message).text :=
    hplain.text.symm
  have hts : timeOr env (peerChat reader message).ts =
      timeOr env (relayedChat reader message).ts :=
    (timeOr_peerChat hnow).trans (timeOr_relayedChat hnow).symm
  have hafter : normalizeAfterIds (peerChat reader message).after =
      normalizeAfterIds (relayedChat reader message).after := Mobile.normalizeAfterIds_idem _
  have horigin : (peerChat reader message).origin = (relayedChat reader message).origin := by
    unfold peerChat relayedChat
    dsimp only
    split
    · rfl
    next hmobile =>
      obtain hboth | hhost | hfrom := hplain.origin
      · exact absurd hboth hmobile
      · rw [if_pos hhost]
      · rw [hfrom, if_neg Bool.false_ne_true, ite_self]
  have hseq : (peerChat reader message).originSeq = (relayedChat reader message).originSeq := rfl
  unfold normalizeChatMessage remoteMessage
  simp only [Mobile.normalizeMessageTs, Mobile.normalizeOrigin, Mobile.normalizeOriginSeq,
    Mobile.normalizeDeliveryStatus, hid, htext, hts, hafter, horigin, hseq]
  rfl

theorem receptions_of_untimed (hnow : env.now = reader.now)
    (htime : ¬validTime ((reader.tsOf message).orElse (.finite reader.now)) = true) :
    (AppAction.chat (peerChat reader message)).reception choices env messages =
      ⟨messages, [], .ignored⟩ := by
  apply reception_of_untimed
  rw [timeOr_peerChat hnow]
  exact htime

theorem receptions_of_plain (hnow : env.now = reader.now) (hplain : PlainChat reader message) :
    (AppAction.chat (peerChat reader message)).reception choices env messages =
      (AppAction.chat (relayedChat reader message)).reception choices env messages := by
  have hid : (peerChat reader message).id = (relayedChat reader message).id :=
    id_peerChat hplain.id
  have hnormal := normalize_of_plain hnow hplain
  by_cases htime : validTime ((reader.tsOf message).orElse (.finite reader.now)) = true
  · have hrelayed : validTime (timeOr env (relayedChat reader message).ts) = true := by
      rw [timeOr_relayedChat hnow]
      exact htime
    have hpeer : validTime (timeOr env (peerChat reader message).ts) = true := by
      rw [timeOr_peerChat hnow]
      exact htime
    have hthere : jsTrim (relayedChat reader message).id ≠ "" := by
      show jsTrim (jsTrim _) ≠ ""
      rw [Mobile.jsTrim_jsTrim]
      exact hplain.id
    have hpeerThere : jsTrim (peerChat reader message).id ≠ "" := by
      rw [hid]
      exact hthere
    rw [reception_of_timed hthere hrelayed, reception_of_timed hpeerThere hpeer,
      upsertAndCut_congr hnormal, hid]
  · rw [receptions_of_untimed hnow htime, reception_of_untimed]
    rw [timeOr_relayedChat hnow]
    exact htime

/-- A message that is stored in an empty session is there with its text and its origin. -/
theorem exists_stored (hid : jsTrim chat.id ≠ "")
    (htime : validTime (timeOr env chat.ts) = true) :
    ∃ stored, ((AppAction.chat chat).reception choices env []).messages = [stored] ∧
      stored.text = chat.text ∧
        stored.origin = some (if chat.origin = some .mobile then .mobile else .host) := by
  have hthere : jsTrim (remoteMessage env chat).id ≠ "" := by
    show jsTrim (jsTrim chat.id) ≠ ""
    rwa [Mobile.jsTrim_jsTrim]
  obtain ⟨missing, hstored⟩ := @upsertAndCut_nil choices (remoteMessage env chat) rfl hthere
  have horigin : (remoteMessage env chat).origin =
      some (if chat.origin = some .mobile then .mobile else .host) := rfl
  have hkind : (remoteMessage env chat).kind ≠ .system := by
    show Mobile.ChatKind.chat ≠ .system
    exact nofun
  refine ⟨finishMessage missing
    (normalizeChatMessage (normalizeChatMessage (remoteMessage env chat))), ?_, rfl, ?_⟩
  · rw [reception_of_timed hid htime]
    dsimp only
    rw [hstored]
  · show some (Mobile.normalizeOrigin (normalizeChatMessage (remoteMessage env chat))) = _
    rw [Mobile.normalizeOrigin_normalize hkind, Mobile.normalizeOrigin, horigin]
    split
    · rfl
    · rfl

/-- What is stored in an empty session shows what was read. -/
theorem plain_of_receptions (hcreate : ∀ ts, jsTrim (reader.createMessageId ts) ≠ "")
    (hnow : env.now = reader.now) (htimed : Timed reader message)
    (hsame : (AppAction.chat (peerChat reader message)).reception choices env [] =
      (if reader.trimmed (payloadOf message) "text" = "" then .ignored
        else .chat (relayedChat reader message) : AppAction).reception choices env []) :
    PlainChat reader message := by
  have hpeerThere : jsTrim (peerChat reader message).id ≠ "" := by
    by_cases hid : reader.trimmed (payloadOf message) "id" = ""
    · unfold peerChat
      dsimp only
      rw [if_pos hid]
      exact hcreate _
    · rw [id_peerChat hid]
      show jsTrim (jsTrim _) ≠ ""
      rw [Mobile.jsTrim_jsTrim]
      exact hid
  have hpeer : validTime (timeOr env (peerChat reader message).ts) = true := by
    rw [timeOr_peerChat hnow]
    exact htimed
  have hrelayed : validTime (timeOr env (relayedChat reader message).ts) = true := by
    rw [timeOr_relayedChat hnow]
    exact htimed
  obtain ⟨stored, hstored, htext, horigin⟩ :=
    @exists_stored choices env (peerChat reader message) hpeerThere hpeer
  rw [hsame] at hstored
  by_cases hblank : reader.trimmed (payloadOf message) "text" = ""
  · rw [if_pos hblank] at hstored
    cases hstored
  rw [if_neg hblank] at hstored
  by_cases hnone : jsTrim (relayedChat reader message).id = ""
  · rw [reception_of_blank hnone] at hstored
    cases hstored
  obtain ⟨other, hother, hotherText, hotherOrigin⟩ :=
    @exists_stored choices env (relayedChat reader message) hnone hrelayed
  rw [hother] at hstored
  obtain rfl : other = stored := List.head_eq_of_cons_eq hstored
  refine ⟨?_, hblank, hotherText.symm.trans htext, ?_⟩
  · intro hid
    apply hnone
    show jsTrim (reader.trimmed (payloadOf message) "id") = ""
    rw [hid]
    exact trim_empty
  · by_contra hneither
    rw [not_or, not_or, Bool.not_eq_false] at hneither
    obtain ⟨hmobile, hhost, hfrom⟩ := hneither
    have hpeerOrigin : (peerChat reader message).origin = some .mobile := by
      unfold peerChat
      dsimp only
      rw [if_neg hmobile, if_neg hhost, if_pos hfrom]
    have hrelayedOrigin : (relayedChat reader message).origin = some .host := if_neg hmobile
    rw [hpeerOrigin, hotherOrigin, hrelayedOrigin] at horigin
    cases horigin

end Chat

/-- **The two ways agree on a message**, whatever it is and whatever is there, unless it is a
chat message with a valid time that has no id, a text with blanks around it or of nothing else,
or no origin but the phone as its sender: such a message is not stored the same. -/
theorem receptions_agree_iff {reader : Reader} {env : Mobile.Env} (choices : Mobile.Choices)
    (hnow : env.now = reader.now) (hcreate : ∀ ts, jsTrim (reader.createMessageId ts) ≠ "")
    (message : Json) :
    (∀ messages, (receiveOverPeer reader message).reception choices env messages =
        (receiveOverRelay reader message).reception choices env messages) ↔
      (reader.trimmed message "type" = openclawChatMessageType → Timed reader message →
        PlainChat reader message) := by
  by_cases htype : reader.trimmed message "type" = openclawChatMessageType
  · rw [receiveOverPeer_of_chat htype, receiveOverRelay_of_chat htype]
    constructor
    · intro hsame _ htimed
      exact plain_of_receptions hcreate hnow htimed (hsame [])
    · intro hplain messages
      by_cases htimed : Timed reader message
      · have hboth := hplain htype htimed
        rw [if_neg hboth.blank]
        exact receptions_of_plain hnow hboth
      · rw [receptions_of_untimed hnow htimed]
        split
        · rfl
        · rw [reception_of_untimed]
          rw [timeOr_relayedChat hnow]
          exact htimed
  · rw [receive_of_ne_chat htype]
    exact iff_of_true (fun _ => rfl) fun hchat => absurd hchat htype

/-- A reply with a blank at its end, which only the relay takes off. -/
def trailingReply : Json :=
  appMessage openclawChatMessageType (.obj [("id", .str "m"), ("text", .str "done ")])
    (.num (.finite 1)) "desktop"

theorem receptions_agree_iff_trailing :
    ¬∀ messages, (receiveOverPeer plainReader trailingReply).reception
        ⟨compare, String.instTransOrd, .insertion⟩ ⟨0, "", fun _ => ""⟩ messages =
      (receiveOverRelay plainReader trailingReply).reception
        ⟨compare, String.instTransOrd, .insertion⟩ ⟨0, "", fun _ => ""⟩ messages := by
  have hcreate : ∀ ts, jsTrim (plainReader.createMessageId ts) ≠ "" := by
    intro ts
    show jsTrim "chat_0" ≠ ""
    decide
  have hagree := @receptions_agree_iff plainReader ⟨0, "", fun _ => ""⟩
    ⟨compare, String.instTransOrd, .insertion⟩ rfl hcreate trailingReply
  intro hsame
  have htrailing : plainReader.trimmed trailingReply "type" = openclawChatMessageType ∧
      validTime ((plainReader.tsOf trailingReply).orElse (.finite plainReader.now)) = true ∧
        plainReader.trimmed (payloadOf trailingReply) "text" ≠
          plainReader.coercion.string ((payloadOf trailingReply).field "text") := by
    decide +kernel
  exact htrailing.2.2 (hagree.mp hsame htrailing.1 htrailing.2.1).text

end OpenClaw.Wire
