import OpenClaw.Desktop.Backend

/-!
# Trust in a channel

A channel is trusted when its trust state is `active`, and only the user's
approval of its binding should make it so; until then nothing that comes over
the relay should reach it.  `Gate` states both of one step, `Admissible` the
condition under which a step keeps it.

The rest says what the operations on the channels do to trust: most trust nobody
new (`TrustsNobodyNew`), and a change of one channel has one rule
(`onlyApprovalActivates_modify_iff`).
-/

namespace OpenClaw.Desktop

open OpenClaw.Runtime

/-! ## The gate -/

/-- The slot holds a channel with trust state `active`. -/
def Active (channels : Channels) (slot : ℕ) : Prop :=
  ∃ channel, channels.get slot = some channel ∧ channel.trustState = "active"

/-- The event is the user's approval of the channel's binding. -/
def ApprovedBy (before : Backend) (event : Event) (channel : PairBackendChannel) : Prop :=
  ∃ channelId answer, event = .approveChannel channelId answer ∧
    requestedBinding before.channels channelId = some channel.bindingId

/-- A channel that is active was active before, or the event approves it. -/
def OnlyApprovalActivates (before : Backend) (event : Event) (after : Channels) : Prop :=
  ∀ slot channel, after.get slot = some channel → channel.trustState = "active" →
    Active before.channels slot ∨ ApprovedBy before event channel

/-- The ids of a `relay.app` signal that is read; `none` for every other event. -/
def relaySignal (before : Backend) : Event → Option (String × String)
  | .signal generation envelope =>
      if before.current generation ∧ unicodeTrim envelope.type = "relay.app" then
        some (relayIds (unicodeTrim (envelope.fromId.getD "")) (envelope.payload.getD (.obj [])))
      else none
  | _ => none

/-- A chat message that `relay.app` brought to a channel found an active one by
its ids, and was appended to an active one. -/
def RelayReachesActive (before : Backend) (event : Event) (delivery : Option Delivery) : Prop :=
  ∀ ids arrived, relaySignal before event = some ids → delivery = some arrived →
    (∃ slot, findChannelForSignal before.channels ids.1 ids.2 = some slot ∧
      Active before.channels slot) ∧ Active before.channels arrived.slot

/-- **The trust gate**, of one step.  `lookup` is about the snapshot that
`relay.app` publishes between finding the channel and processing the message,
which may remove the channel again. -/
structure Gate (platform : Platform) (before : Backend) (event : Env × Event) : Prop where
  activation : OnlyApprovalActivates before event.2
    (perform platform event.1 before event.2).1.channels
  lookup : ∀ ids, relaySignal before event.2 = some ids → OnlyApprovalActivates before event.2
    (ensureChannelForSignal event.1 before ids.1 ids.2).1
  relay : RelayReachesActive before event.2 (perform platform event.1 before event.2).2

/-! ## When a step keeps the gate -/

/-- The signal finds a channel, or has no ids to make one from. -/
def Resolves (channels : Channels) (bindingId mobileId : String) : Prop :=
  (findChannelForSignal channels bindingId mobileId).isSome ∨ (bindingId = "" ∧ mobileId = "")

/-- The channel that claiming or approving these ids would change is active. -/
def TargetActive (channels : Channels) (sessionId bindingId mobileId : String) : Prop :=
  ∃ slot, channels.find? (matchesIds (unicodeTrim sessionId) (unicodeTrim bindingId)
    (unicodeTrim mobileId)) = some slot ∧ Active channels slot

/-- The relay payload carries a chat message the desktop can read. -/
def IsRelayChat (env : Env) (payload : Json) : Prop :=
  ∃ message, payload.field "message" = some message ∧
    messageType message = openclawChatMessageType ∧
      (parseOpenclawChatPayload env message).isSome

/-- The channel found for the signal is active, and so is the one its binding
names. -/
def FoundActive (channels : Channels) (bindingId mobileId : String) : Prop :=
  ∀ slot channel, findChannelForSignal channels bindingId mobileId = some slot →
    channels.get slot = some channel →
      channel.trustState = "active" ∧
        ∀ landing, channelFor channels channel.bindingId = some landing → Active channels landing

def AdmissibleSignal (platform : Platform) (env : Env) (before : Backend)
    (envelope : PairSignalEnvelope) : Prop :=
  let eventType := unicodeTrim envelope.type
  let fromId := unicodeTrim (envelope.fromId.getD "")
  let payload := envelope.payload.getD (.obj [])
  if eventType = "pair.claimed" then
    (readClaimed payload).trustState = "active" →
      TargetActive before.channels (readClaimed payload).sessionId (readClaimed payload).bindingId
        (readClaimed payload).mobileId
  else if eventType = "relay.app" then
    Resolves before.channels (relayIds fromId payload).1 (relayIds fromId payload).2 ∧
      (IsRelayChat env payload →
        FoundActive before.channels (relayIds fromId payload).1 (relayIds fromId payload).2)
  else if isWebrtc eventType then
    ∀ signal, platform.decodeSignal payload = some signal →
      Resolves before.channels (webrtcIds fromId signal).1 (webrtcIds fromId signal).2
  else True

/-- The step takes none of the ways around the gate. -/
def Admissible (platform : Platform) (before : Backend) (event : Env × Event) : Prop :=
  match event.2 with
  | .signal generation envelope =>
      before.current generation = true → AdmissibleSignal platform event.1 before envelope
  | .approveChannel channelId (some binding) =>
      ∀ requested, requestedBinding before.channels channelId = some requested →
        binding.trustState = "active" → binding.bindingId = requested ∨
          TargetActive before.channels binding.pairSessionId binding.bindingId binding.mobileId
  | _ => True

/-! ## Steps that trust nobody new -/

variable {platform : Platform} {env : Env} {before : Backend} {event : Event}
  {channels after : Channels} {slot target : ℕ} {channel : PairBackendChannel}
  {bindingId mobileId sessionId : String} {f : PairBackendChannel → PairBackendChannel}

/-- Every active channel was active. -/
def TrustsNobodyNew (channels after : Channels) : Prop :=
  ∀ slot, Active after slot → Active channels slot

theorem TrustsNobodyNew.refl (channels : Channels) : TrustsNobodyNew channels channels :=
  fun _ hactive => hactive

/-- It is enough that every channel has an ancestor of the same trust. -/
theorem trustsNobodyNew_of_get (hget : ∀ slot channel', after.get slot = some channel' →
    ∃ channel, channels.get slot = some channel ∧
      (channel'.trustState = "active" → channel.trustState = "active")) :
    TrustsNobodyNew channels after := by
  intro slot hactive
  obtain ⟨channel', hchannel', htrust⟩ := hactive
  obtain ⟨channel, hchannel, himp⟩ := hget slot channel' hchannel'
  exact ⟨channel, hchannel, himp htrust⟩

theorem trustsNobodyNew_modify
    (hf : ∀ channel, (f channel).trustState = "active" → channel.trustState = "active") :
    TrustsNobodyNew channels (channels.modify slot f) := by
  apply trustsNobodyNew_of_get
  intro other channel' hget
  rw [Roster.get_modify] at hget
  by_cases hother : other = slot
  · rw [if_pos hother, Option.map_eq_some_iff] at hget
    obtain ⟨channel, hchannel, rfl⟩ := hget
    exact ⟨channel, hchannel, hf channel⟩
  · rw [if_neg hother] at hget
    exact ⟨channel', hget, id⟩

theorem trustsNobodyNew_setStatuses (status : String) :
    TrustsNobodyNew channels (setStatuses status channels) := by
  apply trustsNobodyNew_of_get
  intro slot channel' hget
  rw [setStatuses, Roster.get_mapValues, Option.map_eq_some_iff] at hget
  obtain ⟨channel, hchannel, rfl⟩ := hget
  refine ⟨channel, hchannel, fun htrust => ?_⟩
  split at htrust
  · exact htrust
  · exact htrust

theorem trustsNobodyNew_retain (p : PairBackendChannel → Bool) :
    TrustsNobodyNew channels (channels.retain p) := by
  apply trustsNobodyNew_of_get
  intro slot channel' hget
  rw [Roster.get_retain, Option.filter_eq_some_iff] at hget
  exact ⟨channel', hget.1, id⟩

theorem trustsNobodyNew_appendChannelMessage {choices : Choices} {message : PairBackendMessage} :
    TrustsNobodyNew channels (appendChannelMessage choices channels bindingId message).1 := by
  apply trustsNobodyNew_of_get
  intro slot channel' hget
  obtain ⟨channel, hchannel, heq⟩ := get_appendChannelMessage hget
  exact ⟨channel, hchannel, fun htrust => by rw [heq] at htrust; exact htrust⟩

theorem trustsNobodyNew_processMobileAppMessage {app : Bool} {payload : Json} :
    TrustsNobodyNew channels
      (processMobileAppMessage env app channels bindingId mobileId payload).1 := by
  apply trustsNobodyNew_of_get
  intro slot channel' hget
  obtain ⟨channel, hchannel, heq⟩ := get_processMobileAppMessage hget
  exact ⟨channel, hchannel, fun htrust => by rw [heq] at htrust; exact htrust⟩

theorem onlyApprovalActivates_of_trustsNobodyNew (htrusts : TrustsNobodyNew before.channels after) :
    OnlyApprovalActivates before event after :=
  fun slot channel hget htrust => Or.inl (htrusts slot ⟨channel, hget, htrust⟩)

/-! ## Steps that change one channel -/

theorem not_active_next (channels : Channels) : ¬Active channels channels.next := by
  rintro ⟨channel, hget, -⟩
  have hlt := Roster.lt_next_of_get hget
  omega

/-- The slot `findOrCreateChannel` returns is active before exactly if it was
found and is active. -/
theorem targetActive_iff (randomId : String) (createdAt : ℕ) :
    TargetActive channels sessionId bindingId mobileId ↔
      Active channels (findOrCreateChannel randomId channels sessionId bindingId mobileId
        createdAt).2 := by
  unfold TargetActive findOrCreateChannel
  dsimp only
  cases hfind : channels.find? (matchesIds (unicodeTrim sessionId) (unicodeTrim bindingId)
      (unicodeTrim mobileId)) with
  | some slot => simp
  | none => simpa using not_active_next channels

/-- Finding or creating a channel touches no other slot, and the slot it returns
holds a channel. -/
theorem get_findOrCreateChannel (randomId : String) (channels : Channels)
    (sessionId bindingId mobileId : String) (createdAt : ℕ) :
    let found := findOrCreateChannel randomId channels sessionId bindingId mobileId createdAt
    (∀ slot, slot ≠ found.2 → found.1.get slot = channels.get slot) ∧
      ∃ channel, found.1.get found.2 = some channel := by
  unfold findOrCreateChannel
  dsimp only
  cases hfind : channels.find? (matchesIds (unicodeTrim sessionId) (unicodeTrim bindingId)
      (unicodeTrim mobileId)) with
  | some slot =>
      obtain ⟨channel, hget, -⟩ := Roster.exists_of_find? hfind
      exact ⟨fun _ _ => rfl, channel, hget⟩
  | none =>
      refine ⟨fun slot hne => ?_, _, Roster.get_push_self⟩
      rw [Roster.get_push, if_neg hne]

/-- **The one rule for changing a channel in place**: the step keeps the gate
exactly if the channel it leaves there is not active, was active, or is being
approved. -/
theorem onlyApprovalActivates_modify_iff
    (hother : ∀ slot, slot ≠ target → channels.get slot = before.channels.get slot)
    (hget : channels.get target = some channel) :
    OnlyApprovalActivates before event (channels.modify target f) ↔
      ((f channel).trustState = "active" →
        Active before.channels target ∨ ApprovedBy before event (f channel)) := by
  constructor
  · intro honly htrust
    refine honly target (f channel) ?_ htrust
    rw [Roster.get_modify_self, hget, Option.map_some]
  · intro himp slot held hheld htrust
    rw [Roster.get_modify] at hheld
    by_cases hslot : slot = target
    · subst hslot
      rw [if_pos rfl, hget, Option.map_some, Option.some_inj] at hheld
      subst hheld
      exact himp htrust
    · rw [if_neg hslot, hother slot hslot] at hheld
      exact Or.inl ⟨held, hheld, htrust⟩

/-- The same for a channel that was found or created, when the change sets the
trust state. -/
theorem onlyApprovalActivates_findOrCreate_iff {trust : String} {approved : Prop}
    (htrust : ∀ channel, (f channel).trustState = trust)
    (happroved : ∀ channel, ApprovedBy before event (f channel) ↔ approved)
    (randomId : String) (createdAt : ℕ) :
    OnlyApprovalActivates before event
        ((findOrCreateChannel randomId before.channels sessionId bindingId mobileId
          createdAt).1.modify
            (findOrCreateChannel randomId before.channels sessionId bindingId mobileId
              createdAt).2 f) ↔
      (trust = "active" →
        TargetActive before.channels sessionId bindingId mobileId ∨ approved) := by
  obtain ⟨hother, channel, hget⟩ := get_findOrCreateChannel randomId before.channels sessionId
    bindingId mobileId createdAt
  rw [onlyApprovalActivates_modify_iff hother hget, htrust channel, happroved channel,
    targetActive_iff randomId createdAt]

end OpenClaw.Desktop
