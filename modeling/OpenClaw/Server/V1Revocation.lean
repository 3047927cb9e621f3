import OpenClaw.Server.V1Claims

/-!
# What a revocation cuts off

A request is authenticated once, when it arrives, and a WebSocket connection once, when it
is opened; the principal that was found then is what every later send is checked against.
For a mobile that check looks at the principal alone, so a connection that was opened
before the revocation of its binding goes on sending after it.  Nobody else does: a token
of a revoked binding finds no principal any more.
-/

namespace OpenClaw.Server.V1

open OpenClaw.Runtime

/-! ## Callers -/

/-- A WebSocket connection, with the client that it may speak for. -/
structure Socket where
  principal : AuthPrincipal
  clientType : String
  clientId : String
  authorized : authorizeSignalClient principal clientType clientId = .ok ()

/-- A request that has been authenticated, or an open connection. -/
inductive Caller
  | request (principal : AuthPrincipal)
  | socket (socket : Socket)

def Caller.principal : Caller → AuthPrincipal
  | .request principal => principal
  | .socket connection => connection.principal

def openSocket (principal : AuthPrincipal) (clientType clientId : String) :
    Except ServerError Socket :=
  match hauthorized : authorizeSignalClient principal clientType clientId with
  | .error error => .error error
  | .ok () => .ok ⟨principal, clientType, clientId, hauthorized⟩

/-- A request for `/v1/signal/ws`. -/
def connect (store : Store) (token clientType clientId : String) : Except ServerError Socket := do
  let principal ← authenticateRequest store token
  let clientType ← trimRequired clientType "clientType"
  let clientId ← trimRequired clientId "clientId"
  openSocket principal clientType clientId

/-- A connection sends as its own client, a request names its sender. -/
def Caller.sendRequest (caller : Caller) (req : SendSignalRequest) : SendSignalRequest :=
  match caller with
  | .request _ => req
  | .socket connection =>
      { req with fromType := connection.clientType, fromId := connection.clientId }

/-- The signal that a caller sends, if the server takes it. -/
def signalSend (machine : Machine) (store : Store) (caller : Caller) (req : SendSignalRequest) :
    Except ServerError SignalEvent :=
  match authorizeSignalSend store caller.principal (caller.sendRequest req) with
  | .error error => .error error
  | .ok () => buildSignalEvent machine (caller.sendRequest req)

/-! ## The server -/

/-- `send` says whether a stream took the signal at once. -/
inductive Event
  | operate (step : Step)
  | authenticate (caller : ℕ) (token : String)
  | connect (caller : ℕ) (token clientType clientId : String)
  | send (caller : ℕ) (machine : Machine) (req : SendSignalRequest) (deliveredLocal : Bool)
  | close (caller : ℕ)

/-- The store, who is calling, and the bindings that `revokePair` revoked. -/
structure Relay where
  store : Store
  callers : OrderedMap ℕ Caller
  revoked : List String

def newRelay : Relay := ⟨newStore, ∅, []⟩

/-- `emitSignal`: a signal that no stream took waits in the queue. -/
def emitSignal (store : Store) (event : SignalEvent) (deliveredLocal : Bool) : Store :=
  match event.receiver with
  | none => store
  | some target =>
      if deliveredLocal then store else enqueueSignalToQueue store target.type target.id event

def Relay.operate (relay : Relay) (step : Step) : Relay where
  store := (perform step.machine relay.store step.operation).1
  callers := relay.callers
  revoked :=
    match (perform step.machine relay.store step.operation).2 with
    | .ok (.revoked binding) => binding.bindingId :: relay.revoked
    | _ => relay.revoked

/-- A request is over when it has sent; a connection stays. -/
def Relay.send (relay : Relay) (number : ℕ) (caller : Caller) (machine : Machine)
    (req : SendSignalRequest) (deliveredLocal : Bool) : Relay where
  store :=
    match signalSend machine relay.store caller req with
    | .error _ => relay.store
    | .ok event => emitSignal relay.store event deliveredLocal
  callers :=
    match caller with
    | .request _ => relay.callers.erase number
    | .socket _ => relay.callers
  revoked := relay.revoked

def Relay.step (relay : Relay) : Event → Relay
  | .operate step => relay.operate step
  | .authenticate caller token =>
      match authenticateRequest relay.store token with
      | .error _ => relay
      | .ok principal => { relay with callers := relay.callers.set caller (.request principal) }
  | .connect caller token clientType clientId =>
      match V1.connect relay.store token clientType clientId with
      | .error _ => relay
      | .ok socket => { relay with callers := relay.callers.set caller (.socket socket) }
  | .send number machine req deliveredLocal =>
      match relay.callers.get number with
      | none => relay
      | some caller => relay.send number caller machine req deliveredLocal
  | .close caller => { relay with callers := relay.callers.erase caller }

/-! ## Cutting off -/

/-- The caller is there, or could come with some token. -/
def Relay.Calls (relay : Relay) (caller : Caller) : Prop :=
  caller ∈ relay.callers.values ∨
    ∃ token, authenticateRequest relay.store token = .ok caller.principal

/-- No signal is taken from the mobile of a revoked binding. -/
def Relay.CutsOff (relay : Relay) : Prop :=
  ∀ caller binding, relay.Calls caller → caller.principal = .mobile binding →
    binding.bindingId ∈ relay.revoked →
      ∀ machine req event, signalSend machine relay.store caller req ≠ .ok event

/-- The names of both ends are such as a request can give: not blank, and trimmed. -/
structure Binding.Nameable (binding : Binding) : Prop where
  mobileId : unicodeTrim binding.mobileId = binding.mobileId
  mobileId_ne : binding.mobileId ≠ ""
  deviceId : unicodeTrim binding.deviceId = binding.deviceId
  deviceId_ne : binding.deviceId ≠ ""

/-- Nobody who is calling was authenticated by this binding. -/
def Relay.Uncalled (relay : Relay) (bindingId : String) : Prop :=
  ∀ caller ∈ relay.callers.values, ∀ binding, caller.principal = .mobile binding →
    binding.Nameable → binding.bindingId ≠ bindingId

/-- If the step revokes a binding, nobody who is calling was authenticated by it. -/
def Relay.RevokesUncalled (relay : Relay) : Event → Prop
  | .operate ⟨machine, .revokePair req⟩ =>
      ∀ binding, bindingToRevoke machine relay.store req = some binding →
        relay.Uncalled binding.bindingId
  | _ => True

/-- No claim draws the id of a revoked binding again. -/
def Relay.DrawsFresh (relay : Relay) : Event → Prop
  | .operate step => ∀ session binding,
      (perform step.machine relay.store step.operation).2 = .ok (.claimed session binding) →
        (step.machine.makeId "bind").toOption.getD "" ∉ relay.revoked
  | _ => True

/-- Bindings stand under their ids, and those that were revoked are not active. -/
structure Relay.Sound (relay : Relay) : Prop where
  keyed : relay.store.bindings.KeyedBy Binding.bindingId
  revoked : ∀ bindingId binding, bindingId ∈ relay.revoked →
    relay.store.bindings.get bindingId = some binding → binding.status = .revoked

section Sends

variable {machine : Machine} {store : Store} {caller : Caller} {binding : Binding}

theorem trimmed {text trimmed : String} (htrim : unicodeTrim text = trimmed) :
    unicodeTrim trimmed = trimmed := by
  rw [← htrim]
  exact trim_trim text

/-- What the server takes names both ends of the binding. -/
theorem nameable_of_send {req : SendSignalRequest} {event : SignalEvent}
    (hprincipal : caller.principal = .mobile binding)
    (hsend : signalSend machine store caller req = .ok event) : binding.Nameable := by
  unfold signalSend at hsend
  split at hsend
  · cases hsend
  next hauthorized =>
  rw [hprincipal] at hauthorized
  unfold authorizeSignalSend at hauthorized
  dsimp only at hauthorized
  split at hauthorized
  · cases hauthorized
  next hgiven =>
  split at hauthorized
  · cases hauthorized
  next hsender =>
  split at hauthorized
  · cases hauthorized
  split at hauthorized
  · next hreceiver =>
      rw [not_or] at hsender
      have hmobile : unicodeTrim (caller.sendRequest req).fromId = binding.mobileId :=
        not_not.mp hsender.2
      exact ⟨trimmed hmobile, fun hblank => hgiven (by simp [hmobile, hblank]),
        trimmed hreceiver.symm, fun hblank => hgiven (by simp [← hreceiver, hblank])⟩
  · cases hauthorized

/-- The send of a mobile to the desktop of its binding. -/
def sendOf (binding : Binding) : SendSignalRequest :=
  ⟨"mobile", binding.mobileId, "desktop", binding.deviceId, "", []⟩

/-- A machine whose random texts are empty. -/
def plainMachine : Machine := ⟨0, fun _ => .ok "", [], IterOrder.stored⟩

theorem unicodeTrim_mobile : unicodeTrim "mobile" = "mobile" := by decide +kernel

theorem unicodeTrim_desktop : unicodeTrim "desktop" = "desktop" := by decide +kernel

@[simp] theorem toType_sendRequest (caller : Caller) (req : SendSignalRequest) :
    (caller.sendRequest req).toType = req.toType := by
  cases caller with
  | request principal => rfl
  | socket connection => rfl

@[simp] theorem toId_sendRequest (caller : Caller) (req : SendSignalRequest) :
    (caller.sendRequest req).toId = req.toId := by
  cases caller with
  | request principal => rfl
  | socket connection => rfl

/-- The sender that a caller gives is the mobile of its binding. -/
theorem sender_of_nameable (hprincipal : caller.principal = .mobile binding)
    (hnameable : binding.Nameable) :
    unicodeTrim (caller.sendRequest (sendOf binding)).fromType = "mobile" ∧
      unicodeTrim (caller.sendRequest (sendOf binding)).fromId = binding.mobileId := by
  cases caller with
  | request principal =>
      unfold Caller.sendRequest sendOf
      exact ⟨unicodeTrim_mobile, hnameable.mobileId⟩
  | socket connection =>
      have hauthorized := connection.authorized
      have hsocket : connection.principal = .mobile binding := hprincipal
      rw [hsocket] at hauthorized
      unfold authorizeSignalClient at hauthorized
      dsimp only at hauthorized
      split at hauthorized
      · cases hauthorized
      split at hauthorized
      · cases hauthorized
      · next hclient =>
          rw [not_or] at hclient
          unfold Caller.sendRequest
          exact ⟨not_not.mp hclient.1, not_not.mp hclient.2⟩

/-- Whoever was authenticated by a binding can send to its desktop, revoked or not. -/
theorem send_of_nameable (hprincipal : caller.principal = .mobile binding)
    (hnameable : binding.Nameable) :
    ∃ event, signalSend plainMachine store caller (sendOf binding) = .ok event := by
  obtain ⟨htype, hid⟩ := sender_of_nameable hprincipal hnameable
  have htoType : unicodeTrim (caller.sendRequest (sendOf binding)).toType = "desktop" := by
    rw [toType_sendRequest, sendOf, unicodeTrim_desktop]
  have htoId : unicodeTrim (caller.sendRequest (sendOf binding)).toId = binding.deviceId := by
    rw [toId_sendRequest, sendOf, hnameable.deviceId]
  have hauthorized : authorizeSignalSend store caller.principal
      (caller.sendRequest (sendOf binding)) = .ok () := by
    rw [hprincipal]
    unfold authorizeSignalSend
    dsimp only
    rw [htype, hid, htoType, htoId, if_neg (by simp [hnameable.mobileId_ne, hnameable.deviceId_ne]),
      if_neg (by simp), if_neg (by simp), if_pos rfl]
  unfold signalSend
  rw [hauthorized]
  dsimp only
  unfold buildSignalEvent trimRequired
  rw [htype, hid, htoType, htoId, if_neg hnameable.mobileId_ne, if_neg hnameable.deviceId_ne]
  exact ⟨_, rfl⟩

end Sends

/-! ## Steps -/

section Steps

variable {relay : Relay} {event : Event}

/-- A token finds no revoked binding. -/
theorem not_revoked_of_authenticate (hsound : relay.Sound) {token : String} {binding : Binding}
    (hfound : authenticateRequest relay.store token = .ok (.mobile binding)) :
    binding.bindingId ∉ relay.revoked := by
  intro hrevoked
  unfold authenticateRequest at hfound
  split at hfound
  · cases hfound
  split at hfound
  · cases hfound
  split at hfound
  · next other hbinding =>
      obtain rfl := AuthPrincipal.mobile.inj (Except.ok.inj hfound)
      unfold activeBindingByMobileToken at hbinding
      split at hbinding
      · cases hbinding
      · rw [Option.filter_eq_some_iff] at hbinding
        obtain ⟨hget, hactive⟩ := hbinding
        obtain ⟨bindingId, -, hget⟩ := Option.bind_eq_some_iff.mp hget
        have hid := hsound.keyed _ _ hget
        rw [← hid] at hget
        have hstatus := hsound.revoked _ _ hrevoked hget
        have hstatus' := of_decide_eq_true hactive
        rw [hstatus] at hstatus'
        cases hstatus'
  · cases hfound

/-- The server cuts off the revoked bindings exactly if none of them has a caller. -/
theorem cutsOff_iff (hsound : relay.Sound) :
    relay.CutsOff ↔ ∀ bindingId ∈ relay.revoked, relay.Uncalled bindingId := by
  constructor
  · intro hcut bindingId hrevoked caller hcaller binding hprincipal hnameable hid
    obtain ⟨event, hsend⟩ := @send_of_nameable relay.store _ _ hprincipal hnameable
    subst hid
    exact hcut caller binding (Or.inl hcaller) hprincipal hrevoked _ _ _ hsend
  · intro huncalled caller binding hcalls hprincipal hrevoked machine req event hsend
    rcases hcalls with hcaller | ⟨token, hfound⟩
    · exact huncalled _ hrevoked caller hcaller binding hprincipal
        (nameable_of_send hprincipal hsend) rfl
    · rw [hprincipal] at hfound
      exact not_revoked_of_authenticate hsound hfound hrevoked

theorem bindings_send (number : ℕ) (caller : Caller) (machine : Machine) (req : SendSignalRequest)
    (deliveredLocal : Bool) :
    (relay.send number caller machine req deliveredLocal).store.bindings =
      relay.store.bindings := by
  unfold Relay.send
  dsimp only
  split
  · rfl
  · unfold emitSignal
    split
    · rfl
    · split
      · rfl
      · rfl

theorem revoked_send (number : ℕ) (caller : Caller) (machine : Machine) (req : SendSignalRequest)
    (deliveredLocal : Bool) :
    (relay.send number caller machine req deliveredLocal).revoked = relay.revoked := by
  unfold Relay.send
  rfl

/-- Only an operation of the store changes bindings, or revokes one. -/
theorem bindings_step (hother : ∀ step, event ≠ .operate step) :
    (relay.step event).store.bindings = relay.store.bindings ∧
      (relay.step event).revoked = relay.revoked := by
  cases event with
  | operate step => exact absurd rfl (hother step)
  | authenticate caller token =>
      unfold Relay.step
      dsimp only
      split
      · exact ⟨rfl, rfl⟩
      · exact ⟨rfl, rfl⟩
  | connect caller token clientType clientId =>
      unfold Relay.step
      dsimp only
      split
      · exact ⟨rfl, rfl⟩
      · exact ⟨rfl, rfl⟩
  | send number machine req deliveredLocal =>
      unfold Relay.step
      dsimp only
      split
      · exact ⟨rfl, rfl⟩
      · exact ⟨bindings_send _ _ _ _ _, revoked_send _ _ _ _ _⟩
  | close caller => exact ⟨rfl, rfl⟩

theorem sound_operate {step : Step} (hsound : relay.Sound)
    (hfresh : relay.DrawsFresh (.operate step)) : (relay.operate step).Sound := by
  have hchanges := @changes_perform step.machine relay.store step.operation
  constructor
  · intro bindingId binding hget
    cases binding_of_changes hchanges hget with
    | kept hold => exact hsound.keyed _ _ hold
    | fresh session houtcome hid hdrawn => exact hid
    | renewed old hold hactive hid hsame => exact hid
    | revoked hid hrevoked => exact hid
  · intro bindingId binding hrevoked hget
    -- A binding that is revoked in this step is the one that stands in the store.
    have hbefore : bindingId ∈ relay.revoked ∨ binding.status = .revoked := by
      unfold Relay.operate at hrevoked
      dsimp only at hrevoked
      split at hrevoked
      · next revoked houtcome =>
          rcases List.mem_cons.mp hrevoked with rfl | hold
          · rw [houtcome] at hchanges
            obtain ⟨hstands, hstatus⟩ := get_of_revoked hchanges
            obtain rfl := Option.some.inj (hstands.symm.trans hget)
            exact Or.inr hstatus
          · exact Or.inl hold
      · exact Or.inl hrevoked
    refine hbefore.elim (fun hbefore => ?_) id
    cases binding_of_changes hchanges hget with
    | kept hold => exact hsound.revoked _ _ hbefore hold
    | fresh session houtcome hid hdrawn =>
        rw [hdrawn] at hbefore
        exact absurd hbefore (hfresh session binding houtcome)
    | renewed old hold hactive hid hsame =>
        obtain ⟨key, hkey⟩ := OrderedMap.mem_values_iff.mp hold
        obtain rfl := hsound.keyed _ _ hkey
        rw [← hsame] at hbefore
        have hstatus := hsound.revoked _ _ hbefore hkey
        rw [hactive] at hstatus
        cases hstatus
    | revoked hid hstatus => exact hstatus

theorem sound_relayStep (hsound : relay.Sound) (hfresh : relay.DrawsFresh event) :
    (relay.step event).Sound := by
  by_cases hoperate : ∃ step, event = .operate step
  · obtain ⟨step, rfl⟩ := hoperate
    exact sound_operate hsound hfresh
  · rw [not_exists] at hoperate
    obtain ⟨hbindings, hrevoked⟩ := @bindings_step relay _ hoperate
    constructor
    · rw [hbindings]
      exact hsound.keyed
    · rw [hbindings, hrevoked]
      exact hsound.revoked

theorem principal_of_openSocket {principal : AuthPrincipal} {clientType clientId : String}
    {socket : Socket} (hopen : openSocket principal clientType clientId = .ok socket) :
    socket.principal = principal := by
  unfold openSocket at hopen
  split at hopen
  · cases hopen
  · obtain rfl := Except.ok.inj hopen
    rfl

theorem principal_of_connect {store : Store} {token clientType clientId : String} {socket : Socket}
    (hconnect : connect store token clientType clientId = .ok socket) :
    authenticateRequest store token = .ok socket.principal := by
  unfold connect at hconnect
  obtain ⟨principal, hfound, hconnect⟩ := bind_eq_ok_iff.mp hconnect
  obtain ⟨trimmedType, -, hconnect⟩ := bind_eq_ok_iff.mp hconnect
  obtain ⟨trimmedId, -, hopen⟩ := bind_eq_ok_iff.mp hconnect
  rw [hfound, principal_of_openSocket hopen]

/-- Who calls after a step called before it, or was authenticated in it. -/
theorem mem_callers_step {caller : Caller} (hmem : caller ∈ (relay.step event).callers.values) :
    caller ∈ relay.callers.values ∨
      ∃ token, authenticateRequest relay.store token = .ok caller.principal := by
  cases event with
  | operate step => exact Or.inl hmem
  | authenticate number token =>
      unfold Relay.step at hmem
      dsimp only at hmem
      split at hmem
      · exact Or.inl hmem
      · next principal hfound =>
          rcases OrderedMap.eq_or_mem_of_mem_values_set hmem with rfl | hold
          · exact Or.inr ⟨token, hfound⟩
          · exact Or.inl hold
  | connect number token clientType clientId =>
      unfold Relay.step at hmem
      dsimp only at hmem
      split at hmem
      · exact Or.inl hmem
      · next socket hconnect =>
          rcases OrderedMap.eq_or_mem_of_mem_values_set hmem with rfl | hold
          · exact Or.inr ⟨token, principal_of_connect hconnect⟩
          · exact Or.inl hold
  | send number machine req deliveredLocal =>
      unfold Relay.step at hmem
      dsimp only at hmem
      split at hmem
      · exact Or.inl hmem
      · unfold Relay.send at hmem
        dsimp only at hmem
        split at hmem
        · exact Or.inl (OrderedMap.mem_values_of_mem_erase hmem)
        · exact Or.inl hmem
  | close number => exact Or.inl (OrderedMap.mem_values_of_mem_erase hmem)

/-- No step but a revocation gives a revoked binding a caller. -/
theorem uncalled_step (hsound : relay.Sound) {bindingId : String}
    (hrevoked : bindingId ∈ relay.revoked) (huncalled : relay.Uncalled bindingId) :
    (relay.step event).Uncalled bindingId := by
  intro caller hcaller binding hprincipal hnameable hid
  rcases mem_callers_step hcaller with hold | ⟨token, hfound⟩
  · exact huncalled caller hold binding hprincipal hnameable hid
  · rw [hprincipal] at hfound
    subst hid
    exact not_revoked_of_authenticate hsound hfound hrevoked

theorem revoked_of_perform {machine : Machine} {store : Store} {operation : Operation}
    {revoked : Binding} (houtcome : (perform machine store operation).2 = .ok (.revoked revoked)) :
    ∃ req binding, operation = .revokePair req ∧
      bindingToRevoke machine store req = some binding ∧
        binding.bindingId = revoked.bindingId := by
  have hnever : ∀ {α : Type} {outcomeOf : α → Outcome} {result : Store × Except ServerError α},
      (answer outcomeOf result).2 = .ok (.revoked revoked) →
       ∃ a, outcomeOf a = .revoked revoked := by
    intro α outcomeOf result hanswer
    unfold answer at hanswer
    cases hresult : result.2 with
    | error error =>
        rw [hresult] at hanswer
        cases hanswer
    | ok a =>
        rw [hresult] at hanswer
        exact ⟨a, Except.ok.inj hanswer⟩
  cases operation with
  | revokePair req =>
      unfold perform revokePair at houtcome
      dsimp only at houtcome
      split at houtcome
      · cases houtcome
      · next binding hfound =>
          obtain rfl := Outcome.revoked.inj (Except.ok.inj houtcome)
          exact ⟨req, binding, rfl, hfound, rfl⟩
  | registerDevice req credentialToken => exact nomatch (hnever houtcome).choose_spec
  | heartbeatDevice deviceId => exact nomatch (hnever houtcome).choose_spec
  | createPairSession deviceId ttlSeconds => exact nomatch (hnever houtcome).choose_spec
  | claimByToken req => exact nomatch (hnever houtcome).choose_spec
  | claimByCode req => exact nomatch (hnever houtcome).choose_spec
  | pruneInactiveDevices => cases houtcome
  | restore => cases houtcome

theorem mem_revoked_revokePair {machine : Machine} {req : RevokePairRequest} {binding : Binding}
    (hfound : bindingToRevoke machine relay.store req = some binding) :
    binding.bindingId ∈ (relay.operate ⟨machine, .revokePair req⟩).revoked := by
  have houtcome : ∃ revoked, (perform machine relay.store (.revokePair req)).2 =
      .ok (.revoked revoked) ∧ revoked.bindingId = binding.bindingId := by
    unfold perform revokePair
    dsimp only
    rw [hfound]
    exact ⟨_, rfl, rfl⟩
  obtain ⟨revoked, houtcome, hid⟩ := houtcome
  unfold Relay.operate
  dsimp only
  rw [houtcome, ← hid]
  exact List.mem_cons_self

theorem mem_revoked_operate {step : Step} {bindingId : String}
    (hmem : bindingId ∈ (relay.operate step).revoked) :
    bindingId ∈ relay.revoked ∨ ∃ req binding, step.operation = .revokePair req ∧
      bindingToRevoke step.machine relay.store req = some binding ∧
        binding.bindingId = bindingId := by
  unfold Relay.operate at hmem
  dsimp only at hmem
  split at hmem
  · next revoked houtcome =>
      rcases List.mem_cons.mp hmem with rfl | hold
      · exact Or.inr (revoked_of_perform houtcome)
      · exact Or.inl hold
  · exact Or.inl hmem

theorem uncalled_operate_iff {step : Step} {bindingId : String} :
    (relay.step (.operate step)).Uncalled bindingId ↔ relay.Uncalled bindingId := by
  have hcallers : (relay.step (.operate step)).callers = relay.callers := rfl
  rw [Relay.Uncalled, Relay.Uncalled, hcallers]

/-- A server that cuts off goes on to do so exactly if the step revokes no binding that
has a caller. -/
theorem cutsOff_step (hsound : relay.Sound) (hcut : relay.CutsOff)
    (hfresh : relay.DrawsFresh event) :
    (relay.step event).CutsOff ↔ relay.RevokesUncalled event := by
  rw [cutsOff_iff (sound_relayStep hsound hfresh)]
  rw [cutsOff_iff hsound] at hcut
  constructor
  · intro hnext
    cases event with
    | operate step =>
        obtain ⟨machine, operation⟩ := step
        cases operation with
        | revokePair req =>
            intro binding hfound
            exact uncalled_operate_iff.mp (hnext _ (mem_revoked_revokePair hfound))
        | _ => trivial
    | _ => trivial
  · intro hholds bindingId hrevoked
    by_cases hoperate : ∃ step, event = .operate step
    · obtain ⟨⟨machine, operation⟩, rfl⟩ := hoperate
      rcases mem_revoked_operate hrevoked with hold | ⟨req, binding, hrevoke, hfound, rfl⟩
      · exact uncalled_step hsound hold (hcut _ hold)
      · have hrevoke' : operation = .revokePair req := hrevoke
        subst hrevoke'
        exact uncalled_operate_iff.mpr (hholds binding hfound)
    · rw [not_exists] at hoperate
      rw [(bindings_step hoperate).2] at hrevoked
      exact uncalled_step hsound hrevoked (hcut _ hrevoked)

theorem sound_newRelay : newRelay.Sound where
  keyed := OrderedMap.KeyedBy.empty
  revoked := fun _ _ hrevoked => absurd hrevoked List.not_mem_nil

theorem cutsOff_newRelay : newRelay.CutsOff :=
  (cutsOff_iff sound_newRelay).mpr fun _ hrevoked => absurd hrevoked List.not_mem_nil

/-- **A revocation cuts the mobile off** in every state of a run exactly if no binding is
revoked while somebody who was authenticated by it is still calling. -/
theorem revocations_cut_off_iff {events : List Event}
    (hfresh : Steps.Along Relay.step Relay.DrawsFresh newRelay events) :
    (∀ before, before <+: events → (Steps.run Relay.step newRelay before).CutsOff) ↔
      Steps.Along Relay.step Relay.RevokesUncalled newRelay events := by
  refine Steps.forall_prefix_iff_along_of_sound ?_ ?_ sound_newRelay cutsOff_newRelay hfresh
  · exact fun relay event hsound hallowed => sound_relayStep hsound hallowed
  · exact fun relay event hsound hcut hallowed => cutsOff_step hsound hcut hallowed

end Steps

/-! ## A connection that outlives its binding -/

/-- The mobile of the pairing opens a connection. -/
def openConnection : List Event :=
  (revokedPairing.take 3).map Event.operate ++ [.connect 0 "mobtok_1" "mobile" "phone"]

/-- The binding of a mobile. -/
def mobileBinding : AuthPrincipal → Option Binding
  | .device _ => none
  | .mobile binding => some binding

/-- The desktop is connected too; the mobile closes its connection, and then its binding is
revoked. -/
def revokeClosed : List Event :=
  openConnection ++ [.connect 1 "devtok_1" "desktop" "desk", .close 0] ++
    (revokedPairing.drop 3).map Event.operate

theorem revocations_cut_off_closed :
    (Steps.run Relay.step newRelay revokeClosed).revoked = ["bind_1"] ∧
      (Steps.run Relay.step newRelay revokeClosed).callers.keys = [1] ∧
        ∀ before, before <+: revokeClosed →
          (Steps.run Relay.step newRelay before).CutsOff := by
  refine ⟨by decide +kernel, by decide +kernel, (revocations_cut_off_iff ?_).mpr ?_⟩
  · refine ⟨?_, ?_, ?_, trivial, trivial, trivial, ?_, trivial⟩
    · exact fun _ _ _ => List.not_mem_nil
    · exact fun _ _ _ => by decide +kernel
    · exact fun _ _ _ => by decide +kernel
    · exact fun _ _ _ => by decide +kernel
  · refine ⟨trivial, trivial, trivial, trivial, trivial, trivial, ?_, trivial⟩
    have hdevices : ((Steps.run Relay.step newRelay
        (revokeClosed.take 6)).callers.values.all fun caller =>
          (mobileBinding caller.principal).isNone) = true := by decide +kernel
    intro _ _ caller hcaller binding hprincipal
    have hnone := List.all_eq_true.mp hdevices caller hcaller
    rw [hprincipal] at hnone
    cases hnone

/-- The binding is revoked while the mobile is connected. -/
def revokeConnected : List Event := openConnection ++ (revokedPairing.drop 3).map Event.operate

theorem connected_sends :
    ¬∀ before, before <+: revokeConnected → (Steps.run Relay.step newRelay before).CutsOff := by
  intro hcut
  have hrun : (((Steps.run Relay.step newRelay revokeConnected).callers.get 0).any fun caller =>
      (mobileBinding caller.principal).any fun binding =>
        decide (binding.mobileId = "phone" ∧ binding.deviceId = "desk" ∧
          binding.bindingId ∈
            (Steps.run Relay.step newRelay revokeConnected).revoked)) = true := by
    decide +kernel
  obtain ⟨caller, hget, hcaller⟩ := (Option.any_eq_true _ _).mp hrun
  obtain ⟨binding, hbinding, hdecided⟩ := (Option.any_eq_true _ _).mp hcaller
  have hprincipal : caller.principal = .mobile binding := by
    cases htype : caller.principal with
    | device device =>
        rw [htype] at hbinding
        cases hbinding
    | mobile other =>
        rw [htype] at hbinding
        obtain rfl := Option.some.inj hbinding
        rfl
  obtain ⟨hmobile, hdevice, hrevoked⟩ := of_decide_eq_true hdecided
  have hnames : (unicodeTrim "phone" = "phone" ∧ "phone" ≠ "") ∧
      unicodeTrim "desk" = "desk" ∧ "desk" ≠ "" := by decide +kernel
  rw [← hmobile, ← hdevice] at hnames
  obtain ⟨event, hsend⟩ := send_of_nameable hprincipal
    ⟨hnames.1.1, hnames.1.2, hnames.2.1, hnames.2.2⟩
  exact hcut revokeConnected (List.prefix_refl _) caller binding
    (Or.inl (OrderedMap.mem_values_of_get hget)) hprincipal hrevoked _ _ event hsend

end OpenClaw.Server.V1
