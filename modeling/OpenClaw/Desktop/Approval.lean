import OpenClaw.Desktop.Trust
import OpenClaw.Lib.Steps

/-!
# Which key an approval trusts

The user compares the safety code of a channel with the code on the phone and
approves.  The code was made from what a `pair.claimed` event said; the answer to
the approval, which comes later, overwrites the keys of the channel with its own.

`Pairing` adds to the backend what the desktop does not keep: what entered the
code each channel shows (`shown_code`), which approvals are under way, and which
keys were trusted after each.  `approvals_confirmed_iff` says when these are the
keys of the code.
-/

namespace OpenClaw.Desktop

open OpenClaw.Runtime Steps

/-- What enters a safety code. -/
structure CodeInputs where
  devicePublicKey : String
  mobilePublicKey : String
  pairSessionId : String
  sessionNonce : String
deriving DecidableEq

def CodeInputs.code (platform : Platform) (inputs : CodeInputs) : String :=
  computeSafetyCode platform inputs.devicePublicKey inputs.mobilePublicKey inputs.pairSessionId
    inputs.sessionNonce

/-- What a claim makes a code of, if it has all of it. -/
def Claimed.inputs (claimed : Claimed) : Option CodeInputs :=
  if claimed.devicePublicKey ≠ "" ∧ claimed.mobilePublicKey ≠ "" ∧ claimed.sessionId ≠ "" ∧
      claimed.sessionNonce ≠ "" then
    some ⟨claimed.devicePublicKey, claimed.mobilePublicKey, claimed.sessionId,
      claimed.sessionNonce⟩
  else none

/-- An approval whose answer is outstanding: the channel, and what entered the
code the user compared. -/
structure Request where
  slot : ℕ
  confirmed : CodeInputs

/-- An approval: what entered the code, and the keys that the channel it was for
and the channel it was recorded on trust afterwards. -/
structure Approval where
  confirmed : CodeInputs
  trusted : List (Option String)
deriving DecidableEq

structure Pairing where
  backend : Backend
  shown : ℕ → Option CodeInputs
  requests : ℕ → Option Request
  approvals : List Approval

inductive PairingEvent
  /-- Any step of the backend but an approval. -/
  | backend (env : Env) (event : Event)
  /-- The user compares the code of a channel with the one the phone made, and
  approves if they are the same. -/
  | approve (request : ℕ) (channelId : String) (phone : CodeInputs)
  /-- The server's answer to an approval. -/
  | answer (env : Env) (request : ℕ) (binding : PairBinding)

/-- The claim an event brings, if it is read. -/
def claimOf (backend : Backend) : Event → Option Claimed
  | .signal generation envelope =>
      if backend.current generation ∧ unicodeTrim envelope.type = "pair.claimed" then
        some (readClaimed (envelope.payload.getD (.obj [])))
      else none
  | _ => none

/-- The channel of a claim. -/
def claimSlot (env : Env) (backend : Backend) (claimed : Claimed) : ℕ :=
  (findOrCreateChannel (env.randomId "ch") backend.channels claimed.sessionId claimed.bindingId
    claimed.mobileId env.now).2

/-- What entered the codes after an event.  A new channel has none. -/
def shownAfter (env : Env) (state : Pairing) (event : Event) (slot : ℕ) : Option CodeInputs :=
  let kept := (state.backend.channels.get slot).bind fun _ => state.shown slot
  match claimOf state.backend event with
  | some claimed => if slot = claimSlot env state.backend claimed then claimed.inputs <|> kept
      else kept
  | none => kept

def performStep (platform : Platform) (env : Env) (state : Pairing) (event : Event) : Pairing :=
  { state with
    backend := (perform platform env state.backend event).1
    shown := shownAfter env state event }

/-- The user approves: the request, unless the codes differ. -/
def compareCodes (platform : Platform) (state : Pairing) (channelId : String)
    (phone : CodeInputs) : Option Request := do
  let slot ← state.backend.channels.find? fun channel => decide (channel.channelId = channelId)
  let channel ← state.backend.channels.get slot
  let confirmed ← state.shown slot
  if channel.bindingId ≠ "" ∧ channel.safetyCode = some (phone.code platform) then
    some ⟨slot, confirmed⟩
  else none

/-- The channel an answer is recorded on. -/
def answerChannel (env : Env) (backend : Backend) (binding : PairBinding) : Channels × ℕ :=
  findOrCreateChannel (env.randomId "ch") backend.channels binding.pairSessionId
    binding.bindingId binding.mobileId binding.createdAt

/-- The part of `approve_channel` after the answer. -/
def recordApproval (env : Env) (backend : Backend) (binding : PairBinding) : Channels :=
  let found := answerChannel env backend binding
  found.1.modify found.2 (approvedChannel backend.channelOpen binding)

/-- The key a channel trusts, if there is the channel. -/
def trustedKey (channels : Channels) (slot : ℕ) : Option (Option String) :=
  (channels.get slot).map PairBackendChannel.mobilePublicKey

def pairingStep (platform : Platform) (state : Pairing) : PairingEvent → Pairing
  | .backend _ (.approveChannel _ _) => state
  | .backend env event => performStep platform env state event
  | .approve request channelId phone =>
      match compareCodes platform state channelId phone with
      | some asked => { state with requests := Function.update state.requests request (some asked) }
      | none => state
  | .answer env request binding =>
      match state.requests request with
      | some asked =>
          let channels := recordApproval env state.backend binding
          let recorded := (answerChannel env state.backend binding).2
          { backend := { state.backend with channels := channels }
            shown := fun slot => (state.backend.channels.get slot).bind fun _ => state.shown slot
            requests := Function.update state.requests request none
            approvals := state.approvals ++
              [⟨asked.confirmed, [recorded, asked.slot].filterMap (trustedKey channels)⟩] }
      | none => state

def Pairing.initial : Pairing := ⟨.initial, fun _ => none, fun _ => none, []⟩

variable {platform : Platform} {env : Env} {backend : Backend} {event : Event} {state : Pairing}
  {channels middle after : Channels} {slot : ℕ} {channel channel' : PairBackendChannel}
  {binding : PairBinding}

/-- The two steps of an approval together are `approve_channel`. -/
theorem approveChannel_eq_record {channelId requested : String}
    (hrequested : requestedBinding backend.channels channelId = some requested) :
    approveChannel env backend channelId (some binding) = recordApproval env backend binding := by
  unfold approveChannel
  rw [hrequested]
  rfl

/-! ## The codes of the channels -/

/-- Every channel shows the code it showed, and a new one shows none. -/
def KeepsCodes (channels after : Channels) : Prop :=
  ∀ slot channel, after.get slot = some channel →
    channel.safetyCode = (channels.get slot).bind PairBackendChannel.safetyCode

theorem KeepsCodes.refl (channels : Channels) : KeepsCodes channels channels :=
  fun slot channel hget => by rw [hget, Option.bind_some]

/-- It is enough that every channel has an ancestor with its code. -/
theorem KeepsCodes.of_get (hkeeps : KeepsCodes channels middle)
    (hget : ∀ slot channel', after.get slot = some channel' →
      ∃ channel, middle.get slot = some channel ∧ channel'.safetyCode = channel.safetyCode) :
    KeepsCodes channels after := by
  intro slot channel' hchannel'
  obtain ⟨channel, hchannel, hsame⟩ := hget slot channel' hchannel'
  rw [hsame, hkeeps slot channel hchannel]

theorem KeepsCodes.modify (hkeeps : KeepsCodes channels middle)
    {f : PairBackendChannel → PairBackendChannel}
    (hf : ∀ channel, (f channel).safetyCode = channel.safetyCode) :
    KeepsCodes channels (middle.modify slot f) := by
  apply hkeeps.of_get
  intro other channel' hget
  rw [Roster.get_modify] at hget
  by_cases hother : other = slot
  · rw [if_pos hother, Option.map_eq_some_iff] at hget
    obtain ⟨channel, hchannel, rfl⟩ := hget
    exact ⟨channel, hchannel, hf channel⟩
  · rw [if_neg hother] at hget
    exact ⟨channel', hget, rfl⟩

theorem KeepsCodes.setStatuses (hkeeps : KeepsCodes channels middle) (status : String) :
    KeepsCodes channels (setStatuses status middle) := by
  apply hkeeps.of_get
  intro slot channel' hget
  rw [Desktop.setStatuses, Roster.get_mapValues, Option.map_eq_some_iff] at hget
  obtain ⟨channel, hchannel, rfl⟩ := hget
  refine ⟨channel, hchannel, ?_⟩
  split
  · rfl
  · rfl

theorem KeepsCodes.retain (hkeeps : KeepsCodes channels middle) (p : PairBackendChannel → Bool) :
    KeepsCodes channels (middle.retain p) := by
  apply hkeeps.of_get
  intro slot channel' hget
  rw [Roster.get_retain, Option.filter_eq_some_iff] at hget
  exact ⟨channel', hget.1, rfl⟩

theorem KeepsCodes.appendChannelMessage (hkeeps : KeepsCodes channels middle) {choices : Choices}
    {bindingId : String} {message : PairBackendMessage} :
    KeepsCodes channels (appendChannelMessage choices middle bindingId message).1 := by
  apply hkeeps.of_get
  intro slot channel' hget
  obtain ⟨channel, hchannel, heq⟩ := get_appendChannelMessage hget
  exact ⟨channel, hchannel, by rw [heq]⟩

theorem KeepsCodes.processMobileAppMessage (hkeeps : KeepsCodes channels middle) {app : Bool}
    {bindingId mobileId : String} {payload : Json} :
    KeepsCodes channels
      (processMobileAppMessage env app middle bindingId mobileId payload).1 := by
  apply hkeeps.of_get
  intro slot channel' hget
  obtain ⟨channel, hchannel, heq⟩ := get_processMobileAppMessage hget
  exact ⟨channel, hchannel, by rw [heq]⟩

theorem keepsCodes_findOrCreate (randomId : String) (channels : Channels)
    (sessionId bindingId mobileId : String) (createdAt : ℕ) :
    KeepsCodes channels
      (findOrCreateChannel randomId channels sessionId bindingId mobileId createdAt).1 := by
  unfold findOrCreateChannel
  dsimp only
  split
  · exact .refl _
  · intro slot channel hget
    rw [Roster.get_push] at hget
    by_cases hslot : slot = channels.next
    · rw [if_pos hslot, Option.some_inj] at hget
      subst hget
      have hnone : channels.get slot = none := by
        cases hold : channels.get slot with
        | none => rfl
        | some old => exact absurd (Roster.lt_next_of_get hold) (by omega)
      rw [hnone, newChannel]
      rfl
    · rw [if_neg hslot] at hget
      rw [hget, Option.bind_some]

theorem keepsCodes_ensureChannelForSignal {bindingId mobileId : String} :
    KeepsCodes backend.channels (ensureChannelForSignal env backend bindingId mobileId).1 := by
  unfold ensureChannelForSignal
  split
  · exact .refl _
  · split
    · exact .refl _
    · exact (keepsCodes_findOrCreate _ _ _ _ _ _).modify fun _ => rfl

/-- Of the signals, only a claim changes a code. -/
theorem keepsCodes_handleSignal {envelope : PairSignalEnvelope}
    (htype : unicodeTrim envelope.type ≠ "pair.claimed") :
    KeepsCodes backend.channels (handleSignal platform env backend envelope).1 := by
  unfold handleSignal
  dsimp only
  rw [if_neg htype]
  split
  · -- `pair.revoked`
    rw [pairRevoked]
    split
    · exact (KeepsCodes.refl _).modify fun _ => rfl
    · exact .refl _
  · split
    · -- `relay.app`
      unfold relayApp
      dsimp only
      split
      · exact keepsCodes_ensureChannelForSignal.processMobileAppMessage
      · exact keepsCodes_ensureChannelForSignal
    · split
      · -- WebRTC
        split
        · exact .refl _
        · exact keepsCodes_ensureChannelForSignal
      · exact .refl _

theorem keepsCodes_appendOutgoing {bindingId sender text : String} :
    KeepsCodes channels (appendOutgoing env channels bindingId sender text) :=
  (KeepsCodes.refl _).appendChannelMessage

theorem keepsCodes_record : KeepsCodes backend.channels (recordApproval env backend binding) :=
  (keepsCodes_findOrCreate _ _ _ _ _ _).modify fun _ => rfl

/-- **Only a claim changes a code.** -/
theorem keepsCodes_perform (hclaim : claimOf backend event = none) :
    KeepsCodes backend.channels (perform platform env backend event).1.channels := by
  cases event with
  | connect fromReconnect =>
      rw [perform]
      split
      · exact .refl _
      · exact .refl _
  | setChannelOpen isOpen desired => exact .refl _
  | streamConnected generation =>
      rw [perform]
      split
      · exact (KeepsCodes.refl _).setStatuses _
      · exact .refl _
  | streamFailed generation =>
      rw [perform]
      split
      · exact (KeepsCodes.refl _).setStatuses _
      · exact .refl _
  | disconnect => exact (KeepsCodes.refl _).setStatuses _
  | setAppHandle => exact .refl _
  | signal generation envelope =>
      by_cases hcurrent : backend.current generation = true
      · have htype : unicodeTrim envelope.type ≠ "pair.claimed" := by
          intro htype
          rw [claimOf, if_pos ⟨hcurrent, htype⟩] at hclaim
          cases hclaim
        rw [perform_signal_of_current hcurrent]
        dsimp only
        exact keepsCodes_handleSignal htype
      · rw [perform_signal_of_stale hcurrent]
        exact .refl _
  | peerMessage bindingId mobileId payload =>
      rw [perform_peerMessage]
      dsimp only
      exact (KeepsCodes.refl _).processMobileAppMessage
  | createSession session => exact (keepsCodes_findOrCreate _ _ _ _ _ _).modify fun _ => rfl
  | approveChannel channelId answer =>
      rw [perform]
      unfold approveChannel
      split
      · exact keepsCodes_record
      · exact .refl _
  | revokeChannel channelId deleted =>
      rw [perform, revokeChannel]
      split
      · exact .refl _
      · split
        · exact .refl _
        · exact (KeepsCodes.refl _).retain _
  | sendChat channelId text sent =>
      rw [perform, sendChat]
      split
      · exact .refl _
      · split
        · exact .refl _
        · exact keepsCodes_appendOutgoing
  | reply bindingId text => exact keepsCodes_appendOutgoing
  | transcript sessionKey entries =>
      rw [perform, importForSession]
      split
      · split
        · exact .refl _
        · exact (KeepsCodes.refl _).modify fun _ => rfl
      · exact .refl _

/-! ## What entered the codes -/

/-- Every channel shows the code of what `shown` has for it. -/
def ShowsCodes (platform : Platform) (state : Pairing) : Prop :=
  ∀ slot channel, state.backend.channels.get slot = some channel →
    channel.safetyCode = (state.shown slot).map (CodeInputs.code platform)

/-- A claim that makes a code of what it says, or leaves the code. -/
theorem safetyCode_claimChannel (claimed : Claimed) (channel : PairBackendChannel) :
    (claimChannel platform claimed channel).safetyCode =
      (claimed.inputs.map (CodeInputs.code platform) <|> channel.safetyCode) := by
  unfold claimChannel Claimed.inputs
  dsimp only
  split
  · rfl
  · rfl

theorem ShowsCodes.keeps (hshows : ShowsCodes platform state)
    (hkeeps : KeepsCodes state.backend.channels after) (hget : after.get slot = some channel) :
    channel.safetyCode = ((state.backend.channels.get slot).bind fun _ => state.shown slot).map
      (CodeInputs.code platform) := by
  rw [hkeeps slot channel hget]
  cases hold : state.backend.channels.get slot with
  | none => rfl
  | some old => rw [Option.bind_some, Option.bind_some, hshows slot old hold]

theorem perform_claim {claimed : Claimed} (hclaim : claimOf backend event = some claimed) :
    (perform platform env backend event).1.channels =
      pairClaimed platform env backend.channels claimed := by
  cases event with
  | signal generation envelope =>
      rw [claimOf] at hclaim
      split at hclaim
      · next hread =>
        obtain rfl := Option.some.inj hclaim
        rw [perform_signal_of_current hread.1, handleSignal, if_pos hread.2]
      · cases hclaim
  | _ => cases hclaim

theorem ShowsCodes.perform (hshows : ShowsCodes platform state) (env : Env) (event : Event) :
    ShowsCodes platform (performStep platform env state event) := by
  intro slot channel hget
  rw [performStep] at hget ⊢
  dsimp only at hget ⊢
  unfold shownAfter
  cases hclaim : claimOf state.backend event with
  | none => exact hshows.keeps (keepsCodes_perform hclaim) hget
  | some claimed =>
      dsimp only
      rw [perform_claim hclaim, pairClaimed, Roster.get_modify] at hget
      have hkeeps := keepsCodes_findOrCreate (env.randomId "ch") state.backend.channels
        claimed.sessionId claimed.bindingId claimed.mobileId env.now
      by_cases hslot : slot = claimSlot env state.backend claimed
      · rw [if_pos hslot]
        rw [claimSlot] at hslot
        rw [if_pos hslot, Option.map_eq_some_iff] at hget
        obtain ⟨found, hfound, rfl⟩ := hget
        rw [safetyCode_claimChannel, hshows.keeps hkeeps hfound]
        cases claimed.inputs with
        | none => rfl
        | some inputs => rfl
      · rw [if_neg hslot]
        rw [claimSlot] at hslot
        rw [if_neg hslot] at hget
        exact hshows.keeps hkeeps hget

theorem ShowsCodes.step (hshows : ShowsCodes platform state) (event : PairingEvent) :
    ShowsCodes platform (pairingStep platform state event) := by
  cases event with
  | backend env event =>
      cases event with
      | approveChannel channelId answer => exact hshows
      | _ => exact hshows.perform env _
  | approve request channelId phone =>
      rw [pairingStep]
      split
      · exact hshows
      · exact hshows
  | answer env request binding =>
      rw [pairingStep]
      split
      · exact fun slot channel hget => hshows.keeps keepsCodes_record hget
      · exact hshows

/-- **`shown` is what entered the displayed codes**, in every run. -/
theorem showsCodes_run (events : List PairingEvent) :
    ShowsCodes platform (run (pairingStep platform) .initial events) := by
  have hstart : ShowsCodes platform .initial := by
    intro slot channel hget
    cases hget
  exact run_preserves_of_step (fun _ event hshows => hshows.step event) events hstart

/-- What the user confirmed has the code of the phone, so it is what the phone made
its code of if no two inputs have one code. -/
theorem code_of_compareCodes (hshows : ShowsCodes platform state) {channelId : String}
    {phone : CodeInputs} {asked : Request}
    (hasked : compareCodes platform state channelId phone = some asked) :
    asked.confirmed.code platform = phone.code platform := by
  simp only [compareCodes, Option.bind_eq_bind, Option.bind_eq_some_iff] at hasked
  obtain ⟨slot, -, channel, hget, confirmed, hshown, hasked⟩ := hasked
  split at hasked
  · next hsame =>
    obtain rfl := Option.some.inj hasked
    have hcode := hshows slot channel hget
    rw [hshown, hsame.2, Option.map_some, Option.some_inj] at hcode
    exact hcode.symm
  · cases hasked

/-! ## What is trusted -/

/-- The device key of the code is the desktop's own, and only the mobile key of the
code is trusted. -/
structure Approval.Confirmed (own : String) (approval : Approval) : Prop where
  device : approval.confirmed.devicePublicKey = own
  mobile : ∀ key ∈ approval.trusted, key = some approval.confirmed.mobilePublicKey

/-- The answer has the mobile key of the code.  If it is recorded on another
channel, the approved one must have that key already. -/
structure AnswersAsConfirmed (own : String) (env : Env) (backend : Backend) (asked : Request)
    (binding : PairBinding) : Prop where
  device : asked.confirmed.devicePublicKey = own
  mobile : binding.mobilePublicKey = asked.confirmed.mobilePublicKey
  elsewhere : (answerChannel env backend binding).2 ≠ asked.slot →
    ∀ channel, backend.channels.get asked.slot = some channel →
      channel.mobilePublicKey = some asked.confirmed.mobilePublicKey

def AsConfirmed (own : String) (state : Pairing) : PairingEvent → Prop
  | .answer env request binding => ∀ asked, state.requests request = some asked →
      AnswersAsConfirmed own env state.backend asked binding
  | _ => True

theorem trustedKey_recorded :
    trustedKey (recordApproval env backend binding) (answerChannel env backend binding).2 =
      some (some binding.mobilePublicKey) := by
  obtain ⟨-, channel, hget⟩ := get_findOrCreateChannel (env.randomId "ch") backend.channels
    binding.pairSessionId binding.bindingId binding.mobileId binding.createdAt
  rw [trustedKey, recordApproval, Roster.get_modify, if_pos rfl, answerChannel, hget]
  rfl

/-- Another channel than the recorded one keeps its key. -/
theorem trustedKey_other (hne : slot ≠ (answerChannel env backend binding).2) :
    trustedKey (recordApproval env backend binding) slot = trustedKey backend.channels slot := by
  have hother := (get_findOrCreateChannel (env.randomId "ch") backend.channels
    binding.pairSessionId binding.bindingId binding.mobileId binding.createdAt).1 slot hne
  rw [trustedKey, recordApproval, Roster.get_modify, if_neg hne, answerChannel, hother, trustedKey]

/-- **One answer.** -/
theorem confirmed_record_iff {own : String} {asked : Request} :
    Approval.Confirmed own ⟨asked.confirmed,
        [(answerChannel env backend binding).2, asked.slot].filterMap
          (trustedKey (recordApproval env backend binding))⟩ ↔
      AnswersAsConfirmed own env backend asked binding := by
  have hmem : ∀ key, key ∈ [(answerChannel env backend binding).2, asked.slot].filterMap
        (trustedKey (recordApproval env backend binding)) ↔
      key = some binding.mobilePublicKey ∨
        trustedKey (recordApproval env backend binding) asked.slot = some key := by
    intro key
    simp only [List.mem_filterMap, List.mem_cons, List.not_mem_nil, or_false, exists_eq_or_imp,
      exists_eq_left, trustedKey_recorded, Option.some_inj]
    rw [eq_comm]
  constructor
  · intro hconfirmed
    have hmobile := hconfirmed.mobile _ ((hmem _).mpr (Or.inl rfl))
    refine ⟨hconfirmed.device, Option.some.inj hmobile, fun hne channel hget => ?_⟩
    refine hconfirmed.mobile _ ((hmem _).mpr (Or.inr ?_))
    rw [trustedKey_other hne.symm, trustedKey, hget, Option.map_some]
  · intro hanswers
    refine ⟨hanswers.device, fun key hkey => ?_⟩
    rcases (hmem key).mp hkey with rfl | htrusted
    · exact congrArg some hanswers.mobile
    · by_cases hslot : asked.slot = (answerChannel env backend binding).2
      · rw [hslot, trustedKey_recorded, Option.some_inj] at htrusted
        rw [← htrusted]
        exact congrArg some hanswers.mobile
      · rw [trustedKey_other hslot, trustedKey, Option.map_eq_some_iff] at htrusted
        obtain ⟨channel, hget, rfl⟩ := htrusted
        exact hanswers.elsewhere (Ne.symm hslot) channel hget

/-- Every approval so far trusts the key that was confirmed. -/
def AllConfirmed (own : String) (state : Pairing) : Prop :=
  ∀ approval ∈ state.approvals, approval.Confirmed own

theorem allConfirmed_pairingStep_iff {own : String} {event : PairingEvent} :
    AllConfirmed own (pairingStep platform state event) ↔
      AllConfirmed own state ∧ AsConfirmed own state event := by
  cases event with
  | answer env request binding =>
      cases hasked : state.requests request with
      | none =>
          have hsame : pairingStep platform state (.answer env request binding) = state := by
            rw [pairingStep, hasked]
          rw [hsame]
          refine (and_iff_left ?_).symm
          intro asked hsome
          rw [hasked] at hsome
          cases hsome
      | some asked =>
          have hone : AsConfirmed own state (.answer env request binding) ↔
              AnswersAsConfirmed own env state.backend asked binding := by
            rw [AsConfirmed, hasked]
            simp only [Option.some_inj, forall_eq']
          rw [hone, ← confirmed_record_iff, AllConfirmed, AllConfirmed, pairingStep, hasked]
          simp only [List.mem_append, List.mem_singleton, or_imp, forall_and, forall_eq]
  | backend env event =>
      have hsame : (pairingStep platform state (.backend env event)).approvals =
          state.approvals := by
        cases event with
        | peerMessage bindingId mobileId payload =>
            rw [pairingStep, performStep]
            intro channelId answer hevent
            cases hevent
        | _ => rfl
      rw [AllConfirmed, hsame]
      exact (and_iff_left trivial).symm
  | approve request channelId phone =>
      have hsame : (pairingStep platform state (.approve request channelId phone)).approvals =
          state.approvals := by
        rw [pairingStep]
        split
        · rfl
        · rfl
      rw [AllConfirmed, hsame]
      exact (and_iff_left trivial).symm

/-- **When the trusted key is the confirmed one.** -/
theorem approvals_confirmed_iff (platform : Platform) (own : String)
    (events : List PairingEvent) :
    AllConfirmed own (run (pairingStep platform) .initial events) ↔
      Along (pairingStep platform) (AsConfirmed own) .initial events := by
  have hstart : AllConfirmed own .initial := by
    intro approval hmem
    cases hmem
  have hiff : ∀ state event, AllConfirmed own (pairingStep platform state event) ↔
      AllConfirmed own state ∧ AsConfirmed own state event :=
    fun _ _ => allConfirmed_pairingStep_iff
  exact safe_iff_along (fun state (hall : AllConfirmed own state) => hall)
    (fun state event hall hstep => (hiff state event).mpr ⟨hall, hstep⟩)
    (fun state event _ hnot hafter => hnot ((hiff state event).mp hafter).2)
    (fun state event hafter => ((hiff state event).mp hafter).1) hstart

/-- A claim by the phone that scanned the code of the desktop. -/
def claimEnvelope : PairSignalEnvelope where
  type := "pair.claimed"
  fromId := none
  payload := some (.obj [("pairSessionId", .str "pair_1"), ("bindingId", .str "bind_1"),
    ("mobileId", .str "mob_1"), ("devicePublicKey", .str "desktop key"),
    ("mobilePublicKey", .str "phone key"), ("sessionNonce", .str "nonce")])

/-- The answer of a server that has another key for the phone. -/
def otherKey : PairBinding where
  bindingId := "bind_1"
  pairSessionId := "pair_1"
  devicePublicKey := "desktop key"
  mobileId := "mob_1"
  mobileName := ""
  mobilePublicKey := "server key"
  trustState := "active"
  createdAt := 0
  approvedAt := some 1

def claimEnv : Env := ⟨1, fun kind => kind, .plain⟩

/-- The codes are the same, and the server answers with another key. -/
def overwritten : List PairingEvent :=
  [.backend claimEnv (.setChannelOpen true true), .backend claimEnv (.signal 0 claimEnvelope),
    .approve 0 "pair_1" ⟨"desktop key", "phone key", "pair_1", "nonce"⟩,
    .answer claimEnv 0 otherKey]

/-- **The trusted key is not always the confirmed one.** -/
theorem not_approvals_confirmed :
    ¬∀ platform own events, AllConfirmed own (run (pairingStep platform) .initial events) := by
  intro hall
  have hall := hall plainPlatform "desktop key" overwritten
  have happrovals : (run (pairingStep plainPlatform) .initial overwritten).approvals =
      [⟨⟨"desktop key", "phone key", "pair_1", "nonce"⟩,
        [some "server key", some "server key"]⟩] := by decide
  rw [AllConfirmed, happrovals] at hall
  have hkey := (hall _ (List.mem_singleton_self _)).mobile _ List.mem_cons_self
  revert hkey
  decide

end OpenClaw.Desktop
