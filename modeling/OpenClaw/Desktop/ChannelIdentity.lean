import OpenClaw.Desktop.TrustGate

/-!
# Two channels of one session

`find_or_create_channel_mut` takes the first channel that matches by binding, by session or
by mobile, and its callers then write their ids into it.  A channel found by its mobile can
so get the session of another one, as when a phone that is paired already scans a new code.

The ids stay unique exactly if every session and every binding that is written is held by no
channel but the one that was found (`uniqueIds_iff`).  Channels that are bootstrapped from a
signal never take an id of another.
-/

namespace OpenClaw.Desktop

open OpenClaw.Runtime Roster Steps

/-- An id, unless there is none. -/
def someId (id : String) : Option String := if id = "" then none else some id

def sessionKey (channel : PairBackendChannel) : Option String := someId channel.sessionId

def bindingKey (channel : PairBackendChannel) : Option String := someId channel.bindingId

/-- No two channels share a session or a binding. -/
structure UniqueIds (channels : Channels) : Prop where
  session : UniqueBy sessionKey channels
  binding : UniqueBy bindingKey channels

/-! ## When a step keeps them -/

/-- The channel that `find_or_create_channel_mut` finds. -/
def matched (channels : Channels) (sessionId bindingId mobileId : String) : Option ℕ :=
  channels.find? (matchesIds (unicodeTrim sessionId) (unicodeTrim bindingId)
    (unicodeTrim mobileId))

/-- Only the channel in the slot may hold the id. -/
def HeldOnlyAt (key : PairBackendChannel → Option String) (id : String) (channels : Channels)
    (slot : Option ℕ) : Prop :=
  ∀ other channel, channels.get other = some channel → id ≠ "" → key channel = some id →
    slot = some other

/-- The session and the binding that are written are those of the found channel, or of
none. -/
def TakesNoIds (channels : Channels) (sessionId bindingId mobileId : String) : Prop :=
  HeldOnlyAt sessionKey sessionId channels (matched channels sessionId bindingId mobileId) ∧
    HeldOnlyAt bindingKey bindingId channels (matched channels sessionId bindingId mobileId)

/-- The step takes no id from a channel it did not find. -/
def KeepsIdentity (before : Backend) (event : Env × Event) : Prop :=
  match event.2 with
  | .signal generation envelope =>
      let claimed := readClaimed (envelope.payload.getD (.obj []))
      before.current generation = true → unicodeTrim envelope.type = "pair.claimed" →
        TakesNoIds before.channels claimed.sessionId claimed.bindingId claimed.mobileId
  | .createSession session =>
      HeldOnlyAt sessionKey session.pairSessionId before.channels
        (matched before.channels session.pairSessionId (session.bindingId.getD "")
          (session.claimedMobileId.getD ""))
  | .approveChannel channelId (some binding) =>
      requestedBinding before.channels channelId ≠ none →
        TakesNoIds before.channels binding.pairSessionId binding.bindingId binding.mobileId
  | _ => True

variable {platform : Platform} {env : Env} {before : Backend} {event : Event}
  {channels after : Channels} {sessionId bindingId mobileId randomId : String} {createdAt : ℕ}
  {f : PairBackendChannel → PairBackendChannel}

/-! ## Steps that write no ids -/

/-- Channels keep their ids, and none is added. -/
def SameIds (channels after : Channels) : Prop :=
  ∀ slot channel', after.get slot = some channel' → ∃ channel, channels.get slot = some channel ∧
    channel'.sessionId = channel.sessionId ∧ channel'.bindingId = channel.bindingId

theorem SameIds.uniqueIds (hsame : SameIds channels after) (hunique : UniqueIds channels) :
    UniqueIds after where
  session := hunique.session.of_get fun slot channel' hget => by
    obtain ⟨channel, hold, hsession, -⟩ := hsame slot channel' hget
    exact ⟨channel, hold, congrArg someId hsession⟩
  binding := hunique.binding.of_get fun slot channel' hget => by
    obtain ⟨channel, hold, -, hbinding⟩ := hsame slot channel' hget
    exact ⟨channel, hold, congrArg someId hbinding⟩

theorem sameIds_modify {slot : ℕ}
    (hf : ∀ channel, (f channel).sessionId = channel.sessionId ∧
      (f channel).bindingId = channel.bindingId) : SameIds channels (channels.modify slot f) := by
  intro other channel' hget
  rw [Roster.get_modify] at hget
  by_cases hother : other = slot
  · rw [if_pos hother, Option.map_eq_some_iff] at hget
    obtain ⟨channel, hchannel, rfl⟩ := hget
    exact ⟨channel, hchannel, hf channel⟩
  · rw [if_neg hother] at hget
    exact ⟨channel', hget, rfl, rfl⟩

theorem sameIds_setStatuses (status : String) : SameIds channels (setStatuses status channels) := by
  intro slot channel' hget
  rw [setStatuses, Roster.get_mapValues, Option.map_eq_some_iff] at hget
  obtain ⟨channel, hchannel, rfl⟩ := hget
  refine ⟨channel, hchannel, ?_⟩
  split
  · exact ⟨rfl, rfl⟩
  · exact ⟨rfl, rfl⟩

theorem sameIds_retain (p : PairBackendChannel → Bool) : SameIds channels (channels.retain p) := by
  intro slot channel' hget
  rw [Roster.get_retain, Option.filter_eq_some_iff] at hget
  exact ⟨channel', hget.1, rfl, rfl⟩

theorem sameIds_appendChannelMessage {choices : Choices} {message : PairBackendMessage} :
    SameIds channels (appendChannelMessage choices channels bindingId message).1 := by
  intro slot channel' hget
  obtain ⟨channel, hchannel, heq⟩ := get_appendChannelMessage hget
  exact ⟨channel, hchannel, by rw [heq], by rw [heq]⟩

theorem sameIds_appendOutgoing {sender text : String} :
    SameIds channels (appendOutgoing env channels bindingId sender text) :=
  sameIds_appendChannelMessage

theorem sameIds_processMobileAppMessage {app : Bool} {payload : Json} :
    SameIds channels (processMobileAppMessage env app channels bindingId mobileId payload).1 := by
  intro slot channel' hget
  obtain ⟨channel, hchannel, heq⟩ := get_processMobileAppMessage hget
  exact ⟨channel, hchannel, by rw [heq], by rw [heq]⟩

/-! ## Finding a channel and writing ids into it -/

theorem someId_eq_some {id k : String} : someId id = some k ↔ id = k ∧ k ≠ "" := by
  unfold someId
  by_cases hid : id = ""
  · rw [if_pos hid]
    constructor
    · intro hnone
      cases hnone
    · rintro ⟨rfl, hne⟩
      exact absurd hid hne
  · rw [if_neg hid, Option.some_inj]
    constructor
    · rintro rfl
      exact ⟨rfl, hid⟩
    · exact And.left

/-- The slot that `findOrCreateChannel` returns is the matched one, or a new one. -/
theorem findOrCreateChannel_snd (randomId : String) (createdAt : ℕ) :
    (findOrCreateChannel randomId channels sessionId bindingId mobileId createdAt).2 =
      (matched channels sessionId bindingId mobileId).getD channels.next := by
  unfold findOrCreateChannel matched
  dsimp only
  split
  · next hfind => rw [hfind, Option.getD_some]
  · next hfind => rw [hfind, Option.getD_none]

/-- A new channel is made only for ids that no channel has. -/
theorem uniqueIds_findOrCreateChannel (hunique : UniqueIds channels) (randomId : String)
    (sessionId bindingId mobileId : String) (createdAt : ℕ) :
    UniqueIds (findOrCreateChannel randomId channels sessionId bindingId mobileId createdAt).1 := by
  unfold findOrCreateChannel
  dsimp only
  split
  · exact hunique
  · next hnone =>
      have hfree := Roster.find?_eq_none_iff.mp hnone
      constructor
      · refine hunique.session.push fun slot held k hget hkey hheld => ?_
        obtain ⟨hsession, hne⟩ := someId_eq_some.mp hkey
        obtain ⟨hsame, -⟩ := someId_eq_some.mp hheld
        have hmatch := hfree slot held hget
        have hsession' : unicodeTrim sessionId = k := hsession
        rw [matchesIds, hsession'] at hmatch
        simp [hne, hsame] at hmatch
      · refine hunique.binding.push fun slot held k hget hkey hheld => ?_
        obtain ⟨hbinding, hne⟩ := someId_eq_some.mp hkey
        obtain ⟨hsame, -⟩ := someId_eq_some.mp hheld
        have hmatch := hfree slot held hget
        have hbinding' : unicodeTrim bindingId = k := hbinding
        rw [matchesIds, hbinding'] at hmatch
        simp [hne, hsame] at hmatch

/-- Writing an id keeps it unique exactly if only the found channel may have it. -/
theorem uniqueBy_write_iff {key : PairBackendChannel → Option String} {id : String}
    (hunique : UniqueBy key
      (findOrCreateChannel randomId channels sessionId bindingId mobileId createdAt).1)
    (hf : ∀ channel, key (f channel) = someId id) :
    UniqueBy key
        ((findOrCreateChannel randomId channels sessionId bindingId mobileId createdAt).1.modify
          (findOrCreateChannel randomId channels sessionId bindingId mobileId createdAt).2 f) ↔
      HeldOnlyAt key id channels (matched channels sessionId bindingId mobileId) := by
  obtain ⟨hother, channel, hget⟩ := get_findOrCreateChannel randomId channels sessionId bindingId
    mobileId createdAt
  rw [uniqueBy_modify_iff hunique hget, hf]
  have hslot := @findOrCreateChannel_snd channels sessionId bindingId mobileId randomId createdAt
  constructor
  · intro hfree other held hheld hne hkey
    by_contra hnot
    have hdiffers : other ≠ (findOrCreateChannel randomId channels sessionId bindingId mobileId
        createdAt).2 := by
      rw [hslot]
      intro heq
      cases hmatched : matched channels sessionId bindingId mobileId with
      | some slot =>
          rw [hmatched, Option.getD_some] at heq
          exact hnot (by rw [hmatched, heq])
      | none =>
          rw [hmatched, Option.getD_none] at heq
          have := Roster.lt_next_of_get hheld
          omega
    refine hfree id (someId_eq_some.mpr ⟨rfl, hne⟩) other held hdiffers ?_ hkey
    rw [hother other hdiffers, hheld]
  · intro honly k hk other held hne hheld hkey
    obtain ⟨rfl, hpresent⟩ := someId_eq_some.mp hk
    rw [hother other hne] at hheld
    have hmatched := honly other held hheld hpresent hkey
    rw [hslot, hmatched, Option.getD_some] at hne
    exact hne rfl

/-- What keeps the key of every channel keeps it unique. -/
theorem uniqueBy_keep {key : PairBackendChannel → Option String} {slot : ℕ}
    (hunique : UniqueBy key channels) (hf : ∀ channel, key (f channel) = key channel) :
    UniqueBy key (channels.modify slot f) := by
  refine hunique.of_get fun other channel' hget => ?_
  rw [Roster.get_modify] at hget
  by_cases hother : other = slot
  · rw [if_pos hother, Option.map_eq_some_iff] at hget
    obtain ⟨channel, hchannel, rfl⟩ := hget
    exact ⟨channel, hchannel, hf channel⟩
  · rw [if_neg hother] at hget
    exact ⟨channel', hget, rfl⟩

/-! ## Steps that write ids -/

theorem uniqueIds_pairClaimed_iff (hunique : UniqueIds channels) (claimed : Claimed) :
    UniqueIds (pairClaimed platform env channels claimed) ↔
      TakesNoIds channels claimed.sessionId claimed.bindingId claimed.mobileId := by
  have hfound := uniqueIds_findOrCreateChannel hunique (env.randomId "ch") claimed.sessionId
    claimed.bindingId claimed.mobileId env.now
  have hsession : UniqueBy sessionKey (pairClaimed platform env channels claimed) ↔
      HeldOnlyAt sessionKey claimed.sessionId channels
        (matched channels claimed.sessionId claimed.bindingId claimed.mobileId) := by
    by_cases hempty : claimed.sessionId = ""
    · refine iff_of_true (uniqueBy_keep hfound.session fun channel => ?_)
        fun _ _ _ hne => absurd hempty hne
      exact congrArg someId (if_neg (not_not.mpr hempty))
    · exact uniqueBy_write_iff hfound.session fun channel => congrArg someId (if_pos hempty)
  have hbinding : UniqueBy bindingKey (pairClaimed platform env channels claimed) ↔
      HeldOnlyAt bindingKey claimed.bindingId channels
        (matched channels claimed.sessionId claimed.bindingId claimed.mobileId) := by
    by_cases hempty : claimed.bindingId = ""
    · refine iff_of_true (uniqueBy_keep hfound.binding fun channel => ?_)
        fun _ _ _ hne => absurd hempty hne
      exact congrArg someId (if_neg (not_not.mpr hempty))
    · exact uniqueBy_write_iff hfound.binding fun channel => congrArg someId (if_pos hempty)
  exact ⟨fun hafter => ⟨hsession.mp hafter.session, hbinding.mp hafter.binding⟩,
    fun htakes => ⟨hsession.mpr htakes.1, hbinding.mpr htakes.2⟩⟩

theorem uniqueIds_createSession_iff (hunique : UniqueIds channels) (session : PairSessionRecord) :
    UniqueIds (createSession env channels session) ↔
      HeldOnlyAt sessionKey session.pairSessionId channels
        (matched channels session.pairSessionId (session.bindingId.getD "")
          (session.claimedMobileId.getD "")) := by
  have hfound := uniqueIds_findOrCreateChannel hunique (env.randomId "ch") session.pairSessionId
    (session.bindingId.getD "") (session.claimedMobileId.getD "") session.createdAt
  have hsession := uniqueBy_write_iff hfound.session fun channel =>
    (rfl : sessionKey (sessionChannel session channel) = someId session.pairSessionId)
  exact ⟨fun hafter => hsession.mp hafter.session,
    fun honly => ⟨hsession.mpr honly, uniqueBy_keep hfound.binding fun _ => rfl⟩⟩

theorem uniqueIds_approvedChannel_iff (hunique : UniqueIds before.channels)
    (binding : PairBinding) :
  UniqueIds ((findOrCreateChannel randomId before.channels binding.pairSessionId
        binding.bindingId binding.mobileId binding.createdAt).1.modify
          (findOrCreateChannel randomId before.channels binding.pairSessionId binding.bindingId
            binding.mobileId binding.createdAt).2 (approvedChannel before.channelOpen binding)) ↔
      TakesNoIds before.channels binding.pairSessionId binding.bindingId binding.mobileId := by
  have hfound := uniqueIds_findOrCreateChannel hunique randomId binding.pairSessionId
    binding.bindingId binding.mobileId binding.createdAt
  have hsession := uniqueBy_write_iff hfound.session fun channel =>
    (rfl : sessionKey (approvedChannel before.channelOpen binding channel) =
      someId binding.pairSessionId)
  have hbinding := uniqueBy_write_iff hfound.binding fun channel =>
    (rfl : bindingKey (approvedChannel before.channelOpen binding channel) =
      someId binding.bindingId)
  exact ⟨fun hafter => ⟨hsession.mp hafter.session, hbinding.mp hafter.binding⟩,
    fun htakes => ⟨hsession.mpr htakes.1, hbinding.mpr htakes.2⟩⟩

/-- A channel is bootstrapped for ids that no channel has. -/
theorem uniqueIds_ensureChannelForSignal (hunique : UniqueIds before.channels) :
    UniqueIds (ensureChannelForSignal env before bindingId mobileId).1 := by
  unfold ensureChannelForSignal
  split
  · exact hunique
  next hnone =>
    split
    · exact hunique
    have hfound := uniqueIds_findOrCreateChannel hunique (env.randomId "ch") "" bindingId mobileId
      env.now
    have hfree := Roster.find?_eq_none_iff.mp hnone
    constructor
    · exact uniqueBy_keep hfound.session fun _ => rfl
    · by_cases hempty : bindingId = ""
      · apply uniqueBy_keep hfound.binding
        exact fun channel => congrArg someId (if_neg (not_not.mpr hempty))
      · apply (uniqueBy_write_iff hfound.binding fun channel =>
          congrArg someId (if_pos hempty)).mpr
        intro slot held hheld hne hkey
        obtain ⟨hsame, -⟩ := someId_eq_some.mp hkey
        have hmatch := hfree slot held hheld
        rw [matchesSignal] at hmatch
        simp [hne, hsame] at hmatch

/-- Of the signals, only a claim takes ids of other channels. -/
theorem uniqueIds_handleSignal {envelope : PairSignalEnvelope} (hunique : UniqueIds before.channels)
    (htype : unicodeTrim envelope.type ≠ "pair.claimed") :
    UniqueIds (handleSignal platform env before envelope).1 := by
  unfold handleSignal
  dsimp only
  rw [if_neg htype]
  split
  · -- `pair.revoked`
    rw [pairRevoked]
    split
    · refine SameIds.uniqueIds (sameIds_modify fun channel => ?_) hunique
      exact ⟨rfl, rfl⟩
    · exact hunique
  split
  · -- `relay.app`
    unfold relayApp
    dsimp only
    split
    · exact sameIds_processMobileAppMessage.uniqueIds (uniqueIds_ensureChannelForSignal hunique)
    · exact uniqueIds_ensureChannelForSignal hunique
  split
  · -- WebRTC
    split
    · exact hunique
    · exact uniqueIds_ensureChannelForSignal hunique
  · exact hunique

/-- **One step**: the ids stay unique exactly if it takes none from another channel. -/
theorem uniqueIds_perform_iff (hunique : UniqueIds before.channels) :
    UniqueIds (perform platform env before event).1.channels ↔
      KeepsIdentity before (env, event) := by
  cases event with
  | signal generation envelope =>
      by_cases hcurrent : before.current generation = true
      · rw [perform_signal_of_current hcurrent]
        by_cases htype : unicodeTrim envelope.type = "pair.claimed"
        · have hclaimed : (handleSignal platform env before envelope).1 = pairClaimed platform env
              before.channels (readClaimed (envelope.payload.getD (.obj []))) := by
            rw [handleSignal, if_pos htype]
          dsimp only
          rw [hclaimed, uniqueIds_pairClaimed_iff hunique]
          exact ⟨fun htakes _ _ => htakes, fun hkeeps => hkeeps hcurrent htype⟩
        · dsimp only
          exact iff_of_true (uniqueIds_handleSignal hunique htype) fun _ h => absurd h htype
      · rw [perform_signal_of_stale hcurrent]
        exact iff_of_true hunique fun h => absurd h hcurrent
  | createSession session => exact uniqueIds_createSession_iff hunique session
  | approveChannel channelId answer =>
      show UniqueIds (approveChannel env before channelId answer) ↔ _
      unfold approveChannel
      cases hrequested : requestedBinding before.channels channelId with
      | none =>
          refine iff_of_true hunique ?_
          cases answer with
          | none => trivial
          | some binding => exact fun h => absurd hrequested h
      | some requested =>
          cases answer with
          | none => exact iff_of_true hunique trivial
          | some binding =>
              refine (uniqueIds_approvedChannel_iff hunique binding).trans ?_
              refine ⟨fun htakes _ => htakes, fun hkeeps => hkeeps ?_⟩
              rw [hrequested]
              exact Option.some_ne_none _
  | connect fromReconnect =>
      refine iff_of_true ?_ trivial
      rw [perform]
      split
      · exact hunique
      · exact hunique
  | setChannelOpen isOpen desired => exact iff_of_true hunique trivial
  | streamConnected generation =>
      refine iff_of_true ?_ trivial
      rw [perform]
      split
      · exact (sameIds_setStatuses _).uniqueIds hunique
      · exact hunique
  | streamFailed generation =>
      refine iff_of_true ?_ trivial
      rw [perform]
      split
      · exact (sameIds_setStatuses _).uniqueIds hunique
      · exact hunique
  | disconnect => exact iff_of_true ((sameIds_setStatuses _).uniqueIds hunique) trivial
  | setAppHandle => exact iff_of_true hunique trivial
  | peerMessage bindingId mobileId payload =>
      refine iff_of_true ?_ trivial
      rw [perform]
      dsimp only
      exact sameIds_processMobileAppMessage.uniqueIds hunique
  | revokeChannel channelId deleted =>
      refine iff_of_true ?_ trivial
      rw [perform, revokeChannel]
      split
      · exact hunique
      · split
        · exact hunique
        · dsimp only
          exact (sameIds_retain _).uniqueIds hunique
  | sendChat channelId text sent =>
      refine iff_of_true ?_ trivial
      rw [perform, sendChat]
      split
      · exact hunique
      · split
        · exact hunique
        · exact sameIds_appendOutgoing.uniqueIds hunique
  | reply bindingId text =>
      refine iff_of_true ?_ trivial
      show UniqueIds (appendOutgoing env before.channels bindingId "agent" text)
      exact sameIds_appendOutgoing.uniqueIds hunique
  | transcript sessionKey entries =>
      refine iff_of_true ?_ trivial
      rw [perform, importForSession]
      split
      · split
        · exact hunique
        · dsimp only
          refine SameIds.uniqueIds (sameIds_modify fun channel => ?_) hunique
          exact ⟨rfl, rfl⟩
      · exact hunique

/-! ## Runs -/

/-- **The ids are unique in every state of a run exactly if no step takes one from a channel
that it did not find.** -/
theorem uniqueIds_iff (platform : Platform) (events : List (Env × Event)) :
    (∀ reached, reached <+: events → UniqueIds (run (step platform) .initial reached).channels) ↔
      Along (step platform) KeepsIdentity .initial events := by
  have hstep : ∀ (before : Backend) (event : Env × Event), UniqueIds before.channels →
      (UniqueIds (step platform before event).channels ↔ KeepsIdentity before event) :=
    fun _ _ hunique => uniqueIds_perform_iff hunique
  have hstart : UniqueIds Backend.initial.channels := ⟨UniqueBy.empty, UniqueBy.empty⟩
  exact @forall_prefix_iff_along Backend (Env × Event) (step platform) .initial _
    (fun backend => UniqueIds backend.channels) hstep hstart events

/-- A pair session as the server makes it, and its claim by a phone. -/
def pairSession (pairSessionId : String) : PairSessionRecord :=
  ⟨pairSessionId, "device key", "nonce", 0, none, none⟩

def claimSignal (pairSessionId bindingId : String) : PairSignalEnvelope where
  type := "pair.claimed"
  fromId := none
  payload := some (.obj [("pairSessionId", .str pairSessionId), ("bindingId", .str bindingId),
    ("mobileId", .str "mobile")])

/-- A phone claims a session, and then a second one. -/
def claimedTwice : List (Env × Event) :=
  let env : Env := ⟨0, fun kind => kind ++ "_1", .plain⟩
  [(env, .setChannelOpen true true), (env, .connect false),
    (env, .createSession (pairSession "session 1")),
    (env, .signal 1 (claimSignal "session 1" "binding 1")),
    (env, .createSession (pairSession "session 2")),
    (env, .signal 1 (claimSignal "session 2" "binding 2"))]

/-- **The channel of the phone gets the session that the second channel has.** -/
theorem not_uniqueIds : ¬∀ platform events,
    UniqueIds (run (step platform) .initial events).channels := by
  intro hall
  have hsessions : ((run (step plainPlatform) .initial claimedTwice).channels.get 0).map
        PairBackendChannel.sessionId = some "session 2" ∧
      ((run (step plainPlatform) .initial claimedTwice).channels.get 1).map
        PairBackendChannel.sessionId = some "session 2" := by
    decide +kernel
  obtain ⟨⟨left, hleft, hleftId⟩, ⟨right, hright, hrightId⟩⟩ :=
    And.imp Option.map_eq_some_iff.mp Option.map_eq_some_iff.mp hsessions
  have hsame := (hall plainPlatform claimedTwice).session 0 1 left right "session 2" hleft hright
    (someId_eq_some.mpr ⟨hleftId, by decide⟩) (someId_eq_some.mpr ⟨hrightId, by decide⟩)
  omega

end OpenClaw.Desktop
