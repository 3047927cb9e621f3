import OpenClaw.Desktop.Trust
import OpenClaw.Lib.Steps

/-!
# The trust gate of the desktop

The code has three ways around the gate.  A signal for an unknown binding or
mobile creates its channel as active; `pair.claimed` copies the trust state the
server sends; and `process_mobile_app_message` never looks at the trust state.
`gate_iff_admissible` shows that these are the only ones, besides a server that
answers an approval with another binding: a step keeps the gate exactly when it
takes none of them.
-/

namespace OpenClaw.Desktop

open OpenClaw.Runtime Steps

variable {platform : Platform} {env : Env} {before : Backend} {event : Event}
  {channels : Channels} {slot : ℕ} {channel : PairBackendChannel}
  {bindingId mobileId : String}

/-! ## Signals -/

/-- The event is no approval, so only an active channel may be active. -/
theorem not_approvedBy_signal {generation : ℕ} {envelope : PairSignalEnvelope} :
    ¬ApprovedBy before (.signal generation envelope) channel := by
  rintro ⟨channelId, answer, heq, -⟩
  cases heq

theorem ensureChannelForSignal_of_resolves
    (hresolves : Resolves before.channels bindingId mobileId) :
    ensureChannelForSignal env before bindingId mobileId =
      (before.channels, findChannelForSignal before.channels bindingId mobileId) := by
  unfold ensureChannelForSignal
  cases hfind : findChannelForSignal before.channels bindingId mobileId with
  | some slot => rfl
  | none =>
      have hempty : bindingId = "" ∧ mobileId = "" := by
        rcases hresolves with hsome | hempty
        · rw [hfind] at hsome
          cases hsome
        · exact hempty
      exact if_pos hempty

/-- **A signal for unknown ids trusts them.** -/
theorem onlyApprovalActivates_ensure_iff {generation : ℕ} {envelope : PairSignalEnvelope}
    (hbinding : unicodeTrim bindingId = bindingId) (hmobile : unicodeTrim mobileId = mobileId) :
    OnlyApprovalActivates before (.signal generation envelope)
        (ensureChannelForSignal env before bindingId mobileId).1 ↔
      Resolves before.channels bindingId mobileId := by
  constructor
  · intro honly
    by_contra hunresolved
    obtain ⟨hnone, hids⟩ := not_or.mp hunresolved
    rw [Option.not_isSome_iff_eq_none] at hnone
    have hsame : matchesIds (unicodeTrim "") (unicodeTrim bindingId) (unicodeTrim mobileId) =
        matchesSignal bindingId mobileId := by
      funext channel
      rw [hbinding, hmobile, unicodeTrim, trim_empty]
      simp [matchesIds, matchesSignal]
    have hcreate : findOrCreateChannel (env.randomId "ch") before.channels "" bindingId mobileId
        env.now = (before.channels.push (newChannel (env.randomId "ch") "" bindingId mobileId
          env.now), before.channels.next) := by
      unfold findOrCreateChannel
      dsimp only
      rw [hsame]
      unfold findChannelForSignal at hnone
      rw [hnone, hbinding, hmobile, unicodeTrim, trim_empty]
    unfold ensureChannelForSignal at honly
    rw [hnone] at honly
    dsimp only at honly
    rw [if_neg hids, hcreate, onlyApprovalActivates_modify_iff (fun slot hne => by
      rw [Roster.get_push, if_neg hne]) Roster.get_push_self] at honly
    have hpending : (newChannel (env.randomId "ch") "" bindingId mobileId env.now).trustState =
        "pending" := rfl
    rcases honly (by rw [bootstrapChannel]; simp only [hpending, or_true, if_true]) with
      hactive | happroved
    · exact not_active_next before.channels hactive
    · exact not_approvedBy_signal happroved
  · intro hresolves
    rw [ensureChannelForSignal_of_resolves hresolves]
    exact onlyApprovalActivates_of_trustsNobodyNew (.refl _)

/-- The channel found for a signal has one its binding names, itself if no
other. -/
theorem exists_landing (hget : channels.get slot = some channel) :
    ∃ landing, channelFor channels channel.bindingId = some landing := by
  cases hlanding : channelFor channels channel.bindingId with
  | some landing => exact ⟨landing, rfl⟩
  | none =>
      have hself := Roster.find?_eq_none_iff.mp hlanding slot channel hget
      simp at hself

/-- What the relay branch does when its ids are resolved. -/
theorem relayApp_of_resolves {fromId : String} {payload : Json}
    (hresolves : Resolves before.channels (relayIds fromId payload).1 (relayIds fromId payload).2) :
    relayApp env before fromId payload =
      match (findChannelForSignal before.channels (relayIds fromId payload).1
          (relayIds fromId payload).2).bind before.channels.get, payload.field "message" with
      | some channel, some message =>
          processMobileAppMessage env before.app before.channels channel.bindingId channel.mobileId
            message
      | _, _ => (before.channels, none) := by
  unfold relayApp
  dsimp only
  rewrite [ensureChannelForSignal_of_resolves hresolves]
  rfl

/-- A relayed delivery is a chat message to the channel the ids found. -/
theorem relayApp_delivery_iff {fromId : String} {payload : Json} {arrived : ℕ}
    (hresolves : Resolves before.channels (relayIds fromId payload).1 (relayIds fromId payload).2) :
    (∃ delivery, (relayApp env before fromId payload).2 = some delivery ∧
        delivery.slot = arrived) ↔
      IsRelayChat env payload ∧ ∃ slot channel,
        findChannelForSignal before.channels (relayIds fromId payload).1
          (relayIds fromId payload).2 = some slot ∧ before.channels.get slot = some channel ∧
        channelFor before.channels channel.bindingId = some arrived := by
  rw [relayApp_of_resolves hresolves]
  constructor
  · rintro ⟨delivery, hdelivery, rfl⟩
    cases hbind : (findChannelForSignal before.channels (relayIds fromId payload).1
        (relayIds fromId payload).2).bind before.channels.get with
    | none =>
        rw [hbind] at hdelivery
        cases hdelivery
    | some channel =>
        cases hmessage : payload.field "message" with
        | none =>
            rw [hbind, hmessage] at hdelivery
            cases hdelivery
        | some message =>
            rw [hbind, hmessage] at hdelivery
            obtain ⟨slot, hslot, hget⟩ := Option.bind_eq_some_iff.mp hbind
            obtain ⟨htype, parsed, landing, held, hparse, hlanding, hheld, rfl⟩ :=
              delivery_iff.mp hdelivery
            exact ⟨⟨message, hmessage, htype, by rw [hparse]; rfl⟩, slot, channel, hslot, hget,
              hlanding⟩
  · rintro ⟨⟨message, hmessage, htype, hsome⟩, slot, channel, hslot, hget, hlanding⟩
    obtain ⟨parsed, hparse⟩ := Option.isSome_iff_exists.mp hsome
    obtain ⟨held, hheld⟩ := slot_of_channelFor hlanding
    rw [hslot, Option.bind_some, hget, hmessage]
    exact ⟨_, delivery_iff.mpr ⟨htype, parsed, arrived, held, hparse, hlanding, hheld, rfl⟩, rfl⟩

/-! ## The gate over runs -/

/-- The sender and the fields of a signal are trimmed when they are read. -/
theorem trim_readJsonString (value : Json) (keys : List String) :
    unicodeTrim (readJsonString value keys) = readJsonString value keys := by
  unfold readJsonString
  generalize hfind : keys.findSome? _ = found
  cases found with
  | none => simp [unicodeTrim]
  | some text =>
      obtain ⟨key, -, hkey⟩ := List.exists_of_findSome?_eq_some hfind
      rw [Option.getD_some]
      cases hfield : (value.field key).bind asStr with
      | none => simp [hfield] at hkey
      | some raw =>
          simp only [hfield] at hkey
          split at hkey
          · cases hkey
          · rw [← Option.some_inj.mp hkey, unicodeTrim, trim_trim]

theorem trim_relayIds (fromId : String) (payload : Json) :
    unicodeTrim (relayIds (unicodeTrim fromId) payload).1 =
        (relayIds (unicodeTrim fromId) payload).1 ∧
      unicodeTrim (relayIds (unicodeTrim fromId) payload).2 =
        (relayIds (unicodeTrim fromId) payload).2 := by
  refine ⟨trim_readJsonString _ _, ?_⟩
  unfold relayIds
  dsimp only
  split
  · rw [unicodeTrim, trim_trim]
  · exact trim_readJsonString _ _

theorem trim_webrtcIds (fromId : String) (signal : PairSignalPayload) :
    unicodeTrim (webrtcIds (unicodeTrim fromId) signal).1 =
        (webrtcIds (unicodeTrim fromId) signal).1 ∧
      unicodeTrim (webrtcIds (unicodeTrim fromId) signal).2 =
        (webrtcIds (unicodeTrim fromId) signal).2 := by
  unfold webrtcIds
  dsimp only
  refine ⟨by rw [unicodeTrim, trim_trim], ?_⟩
  split
  · rw [unicodeTrim, trim_trim]
  · rw [unicodeTrim, trim_trim]

/-- A step that is no relay signal keeps the gate by its activations alone. -/
theorem gate_iff_of_no_relay (hrelay : relaySignal before event = none) :
    Gate platform before (env, event) ↔ OnlyApprovalActivates before event
      (perform platform env before event).1.channels := by
  constructor
  · exact fun hgate => hgate.activation
  · intro honly
    refine ⟨honly, fun ids hids => ?_, fun ids arrived hids _ => ?_⟩
    · rw [hrelay] at hids
      cases hids
    · rw [hrelay] at hids
      cases hids

/-- A relay signal keeps the gate exactly if its ids resolve and, when it brings
a chat message, to active channels. -/
theorem gate_relay_iff {generation : ℕ} {envelope : PairSignalEnvelope}
    (hcurrent : before.current generation = true)
    (htype : unicodeTrim envelope.type = "relay.app") :
    Gate platform before (env, .signal generation envelope) ↔
      AdmissibleSignal platform env before envelope := by
  have hnotClaimed : ¬unicodeTrim envelope.type = "pair.claimed" := by
    rw [htype]
    decide
  have hsignal : relaySignal before (.signal generation envelope) =
      some (relayIds (unicodeTrim (envelope.fromId.getD "")) (envelope.payload.getD (.obj []))) :=
    if_pos ⟨hcurrent, htype⟩
  have hperform : perform platform env before (.signal generation envelope) =
      ({ before with channels := (relayApp env before (unicodeTrim (envelope.fromId.getD ""))
          (envelope.payload.getD (.obj []))).1 },
        (relayApp env before (unicodeTrim (envelope.fromId.getD ""))
          (envelope.payload.getD (.obj []))).2) := by
    rw [perform_signal_of_current hcurrent, handleSignal_relay htype]
  unfold AdmissibleSignal
  dsimp only
  rw [if_neg hnotClaimed, if_pos htype]
  obtain ⟨hbinding, hmobile⟩ := trim_relayIds (envelope.fromId.getD "")
    (envelope.payload.getD (.obj []))
  generalize unicodeTrim (envelope.fromId.getD "") = fromId at *
  generalize envelope.payload.getD (.obj []) = payload at *
  constructor
  · intro hgate
    have hresolves : Resolves before.channels (relayIds fromId payload).1
        (relayIds fromId payload).2 :=
      (onlyApprovalActivates_ensure_iff hbinding hmobile).mp (hgate.lookup _ hsignal)
    refine ⟨hresolves, fun hchat slot channel hslot hget => ?_⟩
    -- the message lands wherever the binding of the found channel leads
    have hlands : ∀ landing, channelFor before.channels channel.bindingId = some landing →
        Active before.channels slot ∧ Active before.channels landing := by
      intro landing hlanding
      obtain ⟨delivery, hdelivery, rfl⟩ := (relayApp_delivery_iff hresolves).mpr
        ⟨hchat, slot, channel, hslot, hget, hlanding⟩
      obtain ⟨⟨found, hfound, hactive⟩, harrived⟩ :=
        hgate.relay _ delivery hsignal (by rw [hperform]; exact hdelivery)
      rw [hslot, Option.some_inj] at hfound
      exact ⟨hfound ▸ hactive, harrived⟩
    obtain ⟨landing, hlanding⟩ := exists_landing hget
    obtain ⟨held, hheld, htrust⟩ := (hlands landing hlanding).1
    rw [hget, Option.some_inj] at hheld
    exact ⟨hheld ▸ htrust, fun other hother => (hlands other hother).2⟩
  · rintro ⟨hresolves, hfound⟩
    refine ⟨?_, fun ids hids => ?_, fun ids arrived hids harrived => ?_⟩
    · rw [hperform]
      apply onlyApprovalActivates_of_trustsNobodyNew
      rw [relayApp_of_resolves hresolves]
      split
      · exact trustsNobodyNew_processMobileAppMessage
      · exact .refl _
    · rw [hsignal, Option.some_inj] at hids
      subst hids
      exact (onlyApprovalActivates_ensure_iff hbinding hmobile).mpr hresolves
    · rw [hsignal, Option.some_inj] at hids
      subst hids
      rw [hperform] at harrived
      obtain ⟨hchat, slot, channel, hslot, hget, hlanding⟩ :=
        (relayApp_delivery_iff hresolves).mp ⟨arrived, harrived, rfl⟩
      obtain ⟨htrust, hlandings⟩ := hfound hchat slot channel hslot hget
      exact ⟨⟨slot, hslot, channel, hget, htrust⟩, hlandings _ hlanding⟩

/-- The signals other than `relay.app`. -/
theorem gate_signal_iff {generation : ℕ} {envelope : PairSignalEnvelope}
    (hcurrent : before.current generation = true)
    (htype : unicodeTrim envelope.type ≠ "relay.app") :
    Gate platform before (env, .signal generation envelope) ↔
      AdmissibleSignal platform env before envelope := by
  have hrelay : relaySignal before (.signal generation envelope) = none :=
    if_neg fun hboth => htype hboth.2
  have hperform : (perform platform env before (.signal generation envelope)).1.channels =
      (handleSignal platform env before envelope).1 := by
    rw [perform_signal_of_current hcurrent]
  rw [gate_iff_of_no_relay hrelay, hperform]
  unfold AdmissibleSignal handleSignal
  dsimp only
  by_cases hclaimed : unicodeTrim envelope.type = "pair.claimed"
  · rw [if_pos hclaimed, if_pos hclaimed]
    -- the new trust state is the one the server sent
    generalize readClaimed (envelope.payload.getD (.obj [])) = claimed
    have htrust : ∀ channel, (claimChannel platform claimed channel).trustState =
        if claimed.trustState = "" then "pending" else claimed.trustState := fun _ => rfl
    have hnever : ∀ channel, ApprovedBy before (.signal generation envelope)
        (claimChannel platform claimed channel) ↔ False :=
      fun _ => iff_false_intro not_approvedBy_signal
    refine (onlyApprovalActivates_findOrCreate_iff htrust hnever _ _).trans ?_
    rw [or_false]
    refine imp_congr_left ?_
    by_cases hempty : claimed.trustState = ""
    · rw [if_pos hempty, hempty]
      decide
    · rw [if_neg hempty]
  · rw [if_neg hclaimed, if_neg hclaimed, if_neg htype, if_neg htype]
    by_cases hrevoked : unicodeTrim envelope.type = "pair.revoked"
    · have hwebrtc : isWebrtc (unicodeTrim envelope.type) = false := by
        rw [hrevoked]
        decide
      rw [if_pos hrevoked, if_neg (by rw [hwebrtc]; decide)]
      refine iff_of_true (onlyApprovalActivates_of_trustsNobodyNew ?_) trivial
      unfold pairRevoked
      split
      · exact trustsNobodyNew_modify fun channel (hactive : "revoked" = "active") =>
          absurd hactive (by decide)
      · exact .refl _
    · rw [if_neg hrevoked]
      split
      · cases hdecode : platform.decodeSignal (envelope.payload.getD (.obj [])) with
        | none =>
            refine iff_of_true (onlyApprovalActivates_of_trustsNobodyNew (.refl _)) ?_
            intro signal hsignal
            cases hsignal
        | some signal =>
            obtain ⟨hbinding, hmobile⟩ := trim_webrtcIds (envelope.fromId.getD "") signal
            simp only [Option.some.injEq, forall_eq']
            exact onlyApprovalActivates_ensure_iff hbinding hmobile
      · exact iff_of_true (onlyApprovalActivates_of_trustsNobodyNew (.refl _)) trivial

/-- An approval keeps the gate exactly if the server answers with the binding it
was asked for, or trusts nobody new. -/
theorem gate_approveChannel_iff {channelId : String} {answer : Option PairBinding} :
    Gate platform before (env, .approveChannel channelId answer) ↔
      Admissible platform before (env, .approveChannel channelId answer) := by
  rw [gate_iff_of_no_relay rfl]
  change OnlyApprovalActivates before _ (approveChannel env before channelId answer) ↔ _
  cases answer with
  | none =>
      refine iff_of_true (onlyApprovalActivates_of_trustsNobodyNew ?_) trivial
      unfold approveChannel
      split
      · contradiction
      · exact .refl _
  | some binding =>
      unfold approveChannel Admissible
      dsimp only
      cases hrequested : requestedBinding before.channels channelId with
      | none =>
          refine iff_of_true (onlyApprovalActivates_of_trustsNobodyNew (.refl _)) ?_
          intro requested hsome
          cases hsome
      | some requested =>
          have htrust : ∀ channel, (approvedChannel before.channelOpen binding channel).trustState =
              binding.trustState := fun _ => rfl
          have happroved : ∀ channel,
              ApprovedBy before (.approveChannel channelId (some binding))
                (approvedChannel before.channelOpen binding channel) ↔
              binding.bindingId = requested := by
            intro channel
            constructor
            · rintro ⟨_, _, heq, hbinding⟩
              cases heq
              rw [hrequested, Option.some_inj] at hbinding
              exact hbinding.symm
            · intro hbinding
              refine ⟨channelId, some binding, rfl, ?_⟩
              rw [hrequested, ← hbinding]
              rfl
          refine (onlyApprovalActivates_findOrCreate_iff htrust happroved _ _).trans ?_
          simp only [Option.some.injEq, forall_eq']
          exact imp_congr_right fun _ => or_comm

/-- **A step keeps the gate exactly if it takes none of the ways around it.** -/
theorem gate_iff_admissible (platform : Platform) (before : Backend) (event : Env × Event) :
    Gate platform before event ↔ Admissible platform before event := by
  obtain ⟨env, event⟩ := event
  have hquiet : relaySignal before event = none → Admissible platform before (env, event) →
      TrustsNobodyNew before.channels (perform platform env before event).1.channels →
        (Gate platform before (env, event) ↔ Admissible platform before (env, event)) :=
    fun hrelay hadmissible htrusts => iff_of_true
      ((gate_iff_of_no_relay hrelay).mpr (onlyApprovalActivates_of_trustsNobodyNew htrusts))
      hadmissible
  cases event with
  | signal generation envelope =>
      by_cases hcurrent : before.current generation = true
      · have hadmissible : Admissible platform before (env, .signal generation envelope) ↔
            AdmissibleSignal platform env before envelope := by
          simp only [Admissible, hcurrent, forall_const]
        rw [hadmissible]
        by_cases htype : unicodeTrim envelope.type = "relay.app"
        · exact gate_relay_iff hcurrent htype
        · exact gate_signal_iff hcurrent htype
      · apply hquiet
        · exact if_neg fun hboth => hcurrent hboth.1
        · exact fun h => absurd h hcurrent
        · rw [perform_signal_of_stale hcurrent]
          exact .refl _
  | approveChannel channelId answer => exact gate_approveChannel_iff
  | connect fromReconnect =>
      refine hquiet rfl trivial ?_
      rw [perform]
      split
      · exact .refl _
      · exact .refl _
  | setChannelOpen isOpen desired => exact hquiet rfl trivial (.refl _)
  | streamConnected generation =>
      refine hquiet rfl trivial ?_
      rw [perform]
      split
      · exact trustsNobodyNew_setStatuses _
      · exact .refl _
  | streamFailed generation =>
      refine hquiet rfl trivial ?_
      rw [perform]
      split
      · exact trustsNobodyNew_setStatuses _
      · exact .refl _
  | disconnect => exact hquiet rfl trivial (trustsNobodyNew_setStatuses _)
  | setAppHandle => exact hquiet rfl trivial (.refl _)
  | peerMessage bindingId mobileId payload =>
      refine hquiet rfl trivial ?_
      rw [perform_peerMessage]
      dsimp only
      exact trustsNobodyNew_processMobileAppMessage
  | createSession session =>
      refine (gate_iff_of_no_relay rfl).trans ?_
      have htrust : ∀ channel, (sessionChannel session channel).trustState = "pending" :=
        fun _ => rfl
      have hnever : ∀ channel, ApprovedBy before (.createSession session)
          (sessionChannel session channel) ↔ False := by
        intro channel
        refine iff_false_intro ?_
        rintro ⟨_, _, heq, -⟩
        cases heq
      refine (onlyApprovalActivates_findOrCreate_iff htrust hnever _ _).trans ?_
      exact iff_of_true (fun hactive => absurd hactive (by decide)) trivial
  | revokeChannel channelId deleted =>
      refine hquiet rfl trivial ?_
      change TrustsNobodyNew before.channels (revokeChannel before.channels channelId deleted)
      unfold revokeChannel
      split
      · exact .refl _
      · split
        · exact .refl _
        · exact trustsNobodyNew_retain _
  | sendChat channelId text sent =>
      refine hquiet rfl trivial ?_
      change TrustsNobodyNew before.channels (sendChat env before.channels channelId text sent)
      unfold sendChat
      split
      · exact .refl _
      · split
        · exact .refl _
        · exact trustsNobodyNew_appendChannelMessage
  | reply bindingId text => exact hquiet rfl trivial trustsNobodyNew_appendChannelMessage
  | transcript sessionKey entries =>
      refine hquiet rfl trivial ?_
      change TrustsNobodyNew before.channels
        (importForSession env before.channels sessionKey entries)
      unfold importForSession
      split
      · split
        · exact .refl _
        · exact trustsNobodyNew_modify fun channel hactive => hactive
      · exact .refl _

/-- One step of the desktop. -/
def step (platform : Platform) (before : Backend) (event : Env × Event) : Backend :=
  (perform platform event.1 before event.2).1

/-- **The gate of a run.**  From any state, every step of a run keeps the gate
exactly if no step takes a way around it. -/
theorem trust_gate_iff (platform : Platform) (start : Backend) (events : List (Env × Event)) :
    Along (step platform) (Gate platform) start events ↔
      Along (step platform) (Admissible platform) start events := by
  -- slots are unique by construction, so no invariant of the state is needed
  have hinv : ∀ before event, (fun _ : Backend => True) before →
      (fun _ : Backend => True) (step platform before event) := fun _ _ => id
  exact along_iff_along hinv (fun before event _ => gate_iff_admissible platform before event)
    trivial

/-! ## A signal for a binding nobody approved -/

/-- The chat message of a mobile the desktop has never heard of. -/
def unknownRelay : PairSignalEnvelope where
  type := "relay.app"
  fromId := none
  payload := some (.obj [("bindingId", .str "bind_1"), ("message", .obj
    [("type", .str "app.openclaw.chat.message"),
      ("payload", .obj [("id", .str "m1"), ("text", .str "hello")])])])

/-- The desktop opens its channel and receives the message. -/
def unknownRelayRun : List (Env × Event) :=
  let env : Env := ⟨0, fun kind => kind ++ "_1", .plain⟩
  [(env, .setAppHandle), (env, .setChannelOpen true true), (env, .connect false),
    (env, .signal 1 unknownRelay)]

/-- **The gate is not kept**: the message of an unknown binding makes its own
channel active. -/
theorem trust_gate_bypassed :
    ¬Along (step plainPlatform) (Gate plainPlatform) Backend.initial unknownRelayRun := by
  intro halong
  have hgate := halong.2.2.2.1
  have hresolves := ((gate_iff_admissible _ _ _).mp hgate (by decide)).1
  revert hresolves
  unfold Resolves
  decide

end OpenClaw.Desktop
