import OpenClaw.Server.V2Persistence

/-!
# Bindings

A claim makes a pending binding between a desktop and a mobile, or moves the one they
have to another pair session; an approval of the desktop makes it active.  Nothing else
writes a binding, so between two clients there is at most one, and it never goes back.
-/

namespace OpenClaw.Server

open OpenClaw.Runtime

/-! ## What an operation does to the bindings -/

/-- The binding once it is approved. -/
def V2Binding.activated (now : ℤ) (binding : V2Binding) : V2Binding :=
  { binding with trustState := .active, approvedAt := some now, updatedAt := now }

/-- The bindings that an operation leaves: the old ones, the one of a claim, or the one
that an approval makes active. -/
inductive BindingStep (env : Env) (store : V2Store) :
    V2Operation → OrderedMap String V2Binding → Prop
  | same (operation : V2Operation) : BindingStep env store operation store.bindings
  | claim (principal : V2Principal) (req : V2PairClaimRequest) {session : V2PairSession}
      {mobile : V2Mobile} {binding : V2Binding}
      (hbinding : claimedBinding env
        (findBindingLocked env store session.deviceId mobile.mobileId) session mobile =
          .ok binding) :
      BindingStep env store (.claimPair principal req)
        (store.bindings.set binding.bindingId binding)
  | approve (principal : V2Principal) (bindingId : String) {binding : V2Binding}
      (htype : principal.session.entityType = .desktop)
      (hget : store.bindings.get (unicodeTrim bindingId) = some binding)
      (howner : binding.deviceId = principal.session.entityId)
      (hpending : binding.trustState = .pending) :
      BindingStep env store (.approveBinding principal bindingId)
        (store.bindings.set binding.bindingId (binding.activated env.now))

section Operations

variable {env : Env} {store : V2Store}

theorem BindingStep.of_eq {operation : V2Operation} {bindings : OrderedMap String V2Binding}
    (heq : bindings = store.bindings) : BindingStep env store operation bindings := by
  rw [heq]
  exact .same operation

theorem bindings_of_records {next : V2Store}
    (hrecords : RecordChanges env (pruneExpiredLocked store env.now) next) :
    next.bindings = store.bindings :=
  (samePairing_of_records hrecords).bindings

theorem bindings_createPairSession (principal : V2Principal) (ttlSeconds : ℤ) :
    (createPairSession env store principal ttlSeconds).1.bindings = store.bindings := by
  unfold createPairSession
  split
  · rfl
  · dsimp only
    split
    · rfl
    · unfold openPairSession
      split
      · rfl
      · rfl

theorem bindings_deletePairSession (principal : V2Principal) (pairSessionId : String) :
    (deletePairSession env.now store principal pairSessionId).1.bindings = store.bindings := by
  unfold deletePairSession
  split
  · rfl
  split
  · rfl
  · unfold deletePairSessionLocked
    split
    · rfl
    split
    · rfl
    split
    · rfl
    · rfl

theorem bindings_renameMobile (now : ℤ) (mobile : V2Mobile) (mobileName : String) :
    (renameMobile now store mobile mobileName).1.bindings = store.bindings := by
  unfold renameMobile
  split
  · rfl
  · rfl

/-- A claim that finds its mobile: the bindings stay, or get the one of the claim. -/
theorem bindingStep_claimBy (principal : V2Principal) (req : V2PairClaimRequest)
    {prepared : V2Store} (hbindings : prepared.bindings = store.bindings)
    (session : V2PairSession) (mobile : V2Mobile) :
    BindingStep env store (.claimPair principal req)
      (claimBy env prepared session mobile).1.bindings := by
  have hfind : findBindingLocked env prepared session.deviceId mobile.mobileId =
      findBindingLocked env store session.deviceId mobile.mobileId := by
    unfold findBindingLocked
    rw [hbindings]
  unfold claimBy
  rw [hfind]
  split
  · exact .of_eq hbindings
  · next binding hbinding =>
      show BindingStep env store _ (prepared.bindings.set binding.bindingId binding)
      rw [hbindings]
      exact .claim principal req hbinding

theorem bindingStep_claimPairLocked (principal : V2Principal) (req : V2PairClaimRequest)
    {prepared : V2Store} (hbindings : prepared.bindings = store.bindings)
    (claimToken mobileName : String) :
    BindingStep env store (.claimPair principal req)
      (claimPairLocked env prepared principal claimToken mobileName).1.bindings := by
  unfold claimPairLocked
  split
  · exact .of_eq hbindings
  split
  · exact .of_eq hbindings
  split
  · exact .of_eq hbindings
  split
  · exact .of_eq hbindings
  · apply bindingStep_claimBy
    rw [bindings_renameMobile, hbindings]

theorem bindingStep_claimPair (principal : V2Principal) (req : V2PairClaimRequest) :
    BindingStep env store (.claimPair principal req)
      (claimPair env store principal req).1.bindings := by
  unfold claimPair
  split
  · exact .same _
  split
  · exact .same _
  · apply bindingStep_claimPairLocked
    rfl

theorem bindings_approvePairSession (now : ℤ) (pairSessionId : String) :
    (approvePairSession now store pairSessionId).bindings = store.bindings := by
  unfold approvePairSession
  split
  · rfl
  · rfl

theorem bindingStep_approveBindingLocked (principal : V2Principal) (bindingId : String)
    (htype : principal.session.entityType = .desktop) {prepared : V2Store}
    (hbindings : prepared.bindings = store.bindings) :
    BindingStep env store (.approveBinding principal bindingId)
      (approveBindingLocked env.now prepared principal (unicodeTrim bindingId)).1.bindings := by
  unfold approveBindingLocked
  split
  · exact .of_eq hbindings
  next binding hget =>
  split
  · exact .of_eq hbindings
  next howner =>
  split
  · exact .of_eq hbindings
  next hpending =>
  dsimp only
  rw [bindings_approvePairSession]
  rw [hbindings] at hget
  show BindingStep env store _ (prepared.bindings.set binding.bindingId _)
  rw [hbindings]
  exact @BindingStep.approve env store principal bindingId binding htype hget (not_not.mp howner)
    (not_not.mp hpending)

theorem bindingStep_approveBinding (principal : V2Principal) (bindingId : String) :
    BindingStep env store (.approveBinding principal bindingId)
      (approveBinding env.now store principal bindingId).1.bindings := by
  unfold approveBinding
  split
  · exact .same _
  next htype =>
  by_cases hblank : unicodeTrim bindingId = ""
  · rw [trimRequired_of_eq hblank]
    exact .same _
  · rw [trimRequired_of_ne hblank]
    apply bindingStep_approveBindingLocked principal bindingId (not_not.mp htype)
    rfl

/-- **What an operation does to the bindings.** -/
theorem bindingStep_perform (operation : V2Operation) :
    BindingStep env store operation (perform env store operation).1.bindings := by
  cases operation with
  | prune => exact .same _
  | createChallenge req =>
      apply BindingStep.of_eq
      dsimp only [perform, answer, createChallenge]
      split
      · rfl
      · rfl
  | login req =>
      apply BindingStep.of_eq
      dsimp only [perform, answer, login]
      split
      · rfl
      · exact bindings_of_records (changes_loginLocked _)
  | authenticate token =>
      apply BindingStep.of_eq
      dsimp only [perform, answer, authenticate]
      split
      · rfl
      · exact bindings_of_records (changes_authenticateLocked _)
  | announcePresence principal req =>
      exact .of_eq (bindings_of_records (changes_updateRecord principal (renews_announce req)))
  | heartbeatPresence principal req =>
      exact .of_eq (bindings_of_records (changes_updateRecord principal (renews_heartbeat req)))
  | createPairSession principal ttlSeconds =>
      exact .of_eq (bindings_createPairSession principal ttlSeconds)
  | deletePairSession principal pairSessionId =>
      exact .of_eq (bindings_deletePairSession principal pairSessionId)
  | claimPair principal req => exact bindingStep_claimPair principal req
  | approveBinding principal bindingId => exact bindingStep_approveBinding principal bindingId

/-- Only claims and approvals write bindings. -/
theorem bindings_perform {operation : V2Operation}
    (hclaim : ∀ principal req, operation ≠ .claimPair principal req)
    (happrove : ∀ principal bindingId, operation ≠ .approveBinding principal bindingId) :
    (perform env store operation).1.bindings = store.bindings := by
  have hstep := @bindingStep_perform env store operation
  generalize (perform env store operation).1.bindings = bindings at hstep ⊢
  cases hstep with
  | same => rfl
  | claim principal req => exact absurd rfl (hclaim principal req)
  | approve principal bindingId => exact absurd rfl (happrove principal bindingId)

end Operations

/-! ## What holds of the bindings -/

/-- A binding stands under its id, is approved exactly if it is active, and is the only
one between its clients that is not revoked. -/
structure V2Store.BindingsSound (store : V2Store) : Prop where
  keyed : store.bindings.KeyedBy V2Binding.bindingId
  approvedAt : ∀ {bindingId binding}, store.bindings.get bindingId = some binding →
    (binding.approvedAt.isSome = true ↔ binding.trustState = .active)
  unique : ∀ {bindingId other binding otherBinding},
    store.bindings.get bindingId = some binding → store.bindings.get other = some otherBinding →
      binding.trustState ≠ .revoked → otherBinding.trustState ≠ .revoked →
        binding.deviceId = otherBinding.deviceId → binding.mobileId = otherBinding.mobileId →
          bindingId = other

/-- The binding keeps its clients, and stays active. -/
structure V2Binding.Continues (old new : V2Binding) : Prop where
  deviceId : new.deviceId = old.deviceId
  mobileId : new.mobileId = old.mobileId
  active : old.trustState = .active → new.trustState = .active

/-- Every binding is still there and continues. -/
def V2Store.KeepsBindings (store next : V2Store) : Prop :=
  ∀ bindingId old, store.bindings.get bindingId = some old →
    ∃ new, next.bindings.get bindingId = some new ∧ old.Continues new

/-- The event is an approval of the binding by this desktop. -/
def V2StoreEvent.Approves (event : V2StoreEvent) (bindingId deviceId : String) : Prop :=
  match event with
  | .perform _ (.approveBinding principal requested) =>
      unicodeTrim requested = bindingId ∧ principal.session.entityType = .desktop ∧
        principal.session.entityId = deviceId
  | _ => False

/-- The id of a new binding is drawn fresh. -/
def V2Store.DrawsFreshBinding (store : V2Store) : V2StoreEvent → Prop
  | .perform env (.claimPair _ _) => ∀ bindingId, env.makeId "v2bind" = some bindingId →
      store.bindings.get bindingId = none
  | _ => True

section Invariant

variable {env : Env} {store next : V2Store} {session : V2PairSession} {mobile : V2Mobile}
  {binding : V2Binding}

/-- The binding that is found is one of the store between the two clients. -/
theorem mem_of_findBindingLocked {deviceId mobileId : String}
    (hkeyed : store.bindings.KeyedBy V2Binding.bindingId)
    (hfind : findBindingLocked env store deviceId mobileId = some binding) :
    store.bindings.get binding.bindingId = some binding ∧ binding.deviceId = deviceId ∧
      binding.mobileId = mobileId ∧ binding.trustState ≠ .revoked := by
  unfold findBindingLocked at hfind
  have hchecked := List.find?_some hfind
  rw [Bool.and_eq_true] at hchecked
  obtain ⟨hdevice, hmobile⟩ := of_decide_eq_true hchecked.1
  have hmem := (IterOrder.mem_order _).mp (List.mem_of_find?_eq_some hfind)
  obtain ⟨bindingId, hget⟩ := OrderedMap.mem_values_iff.mp hmem
  have hid := hkeyed _ _ hget
  rw [← hid] at hget
  exact ⟨hget, hdevice, hmobile, of_decide_eq_true hchecked.2⟩

/-- Where none is found, there is none. -/
theorem revoked_of_findBindingLocked {deviceId mobileId bindingId : String}
    (hfind : findBindingLocked env store deviceId mobileId = none)
    (hget : store.bindings.get bindingId = some binding) (hdevice : binding.deviceId = deviceId)
    (hmobile : binding.mobileId = mobileId) : binding.trustState = .revoked := by
  unfold findBindingLocked at hfind
  have hmem := (IterOrder.mem_order env.iter).mpr (OrderedMap.mem_values_of_get hget)
  have hnot := List.find?_eq_none.mp hfind binding hmem
  by_contra hlive
  apply hnot
  rw [Bool.and_eq_true]
  exact ⟨decide_eq_true ⟨hdevice, hmobile⟩, decide_eq_true hlive⟩

/-- What a claim writes: the pending binding of its two clients, or a new one. -/
inductive Claimed (env : Env) (store : V2Store) (session : V2PairSession) (mobile : V2Mobile)
    (binding : V2Binding) : Prop
  | moved {old : V2Binding} (hget : store.bindings.get binding.bindingId = some old)
      (hdevice : binding.deviceId = old.deviceId) (hmobile : binding.mobileId = old.mobileId)
      (hstate : binding.trustState = old.trustState) (hpending : old.trustState = .pending)
      (happroved : binding.approvedAt = old.approvedAt)
  | made (hdraw : env.makeId "v2bind" = some binding.bindingId)
      (hdevice : binding.deviceId = session.deviceId)
      (hmobile : binding.mobileId = mobile.mobileId) (hstate : binding.trustState = .pending)
      (happroved : binding.approvedAt = none)
      (hnone : findBindingLocked env store session.deviceId mobile.mobileId = none)

theorem claimed_of_claimedBinding (hkeyed : store.bindings.KeyedBy V2Binding.bindingId)
    (hbinding : claimedBinding env
      (findBindingLocked env store session.deviceId mobile.mobileId) session mobile =
        .ok binding) : Claimed env store session mobile binding := by
  unfold claimedBinding at hbinding
  split at hbinding
  · next old hfind =>
      split at hbinding
      · cases hbinding
      · next hinactive =>
          obtain ⟨hget, -, -, hlive⟩ := mem_of_findBindingLocked hkeyed hfind
          obtain rfl := Except.ok.inj hbinding
          have hpending : old.trustState = .pending := by
            cases hstate : old.trustState with
            | pending => rfl
            | active => exact absurd hstate hinactive
            | revoked => exact absurd hstate hlive
          exact .moved hget rfl rfl rfl hpending rfl
  · next hnone =>
      split at hbinding
      · cases hbinding
      · next bindingId hdraw =>
          obtain rfl := Except.ok.inj hbinding
          exact .made hdraw rfl rfl rfl rfl hnone

/-- Writing a binding that shares its clients with no other one that is not revoked. -/
theorem V2Store.BindingsSound.set (hsound : store.BindingsSound)
    (happroved : binding.approvedAt.isSome = true ↔ binding.trustState = .active)
    (hown : ∀ {other otherBinding}, store.bindings.get other = some otherBinding →
      otherBinding.trustState ≠ .revoked → binding.trustState ≠ .revoked →
        otherBinding.deviceId = binding.deviceId → otherBinding.mobileId = binding.mobileId →
          other = binding.bindingId)
    (hnext : next.bindings = store.bindings.set binding.bindingId binding) :
    next.BindingsSound where
  keyed := by
    rw [hnext]
    exact hsound.keyed.set rfl
  approvedAt {bindingId found} hget := by
    rw [hnext, OrderedMap.get_set] at hget
    split at hget
    · obtain rfl := Option.some.inj hget
      exact happroved
    · exact hsound.approvedAt hget
  unique {first second found otherFound} hfirst hsecond hlive hother hdevice hmobile := by
    rw [hnext, OrderedMap.get_set] at hfirst hsecond
    split at hfirst
    · next heq =>
        obtain rfl := Option.some.inj hfirst
        split at hsecond
        · next hsame => rw [heq, hsame]
        · rw [heq]
          exact (hown hsecond hother hlive hdevice.symm hmobile.symm).symm
    · split at hsecond
      · next heq =>
          obtain rfl := Option.some.inj hsecond
          rw [heq]
          exact hown hfirst hlive hother hdevice hmobile
      · exact hsound.unique hfirst hsecond hlive hother hdevice hmobile

theorem V2Binding.Continues.refl (binding : V2Binding) : binding.Continues binding :=
  ⟨rfl, rfl, id⟩

theorem V2Binding.Continues.trans {first second third : V2Binding}
    (hfirst : first.Continues second) (hsecond : second.Continues third) :
    first.Continues third where
  deviceId := hsecond.deviceId.trans hfirst.deviceId
  mobileId := hsecond.mobileId.trans hfirst.mobileId
  active hactive := hsecond.active (hfirst.active hactive)

theorem keepsBindings_of_eq (hnext : next.bindings = store.bindings) :
    store.KeepsBindings next := by
  intro bindingId old hget
  rw [hnext]
  exact ⟨old, hget, .refl old⟩

theorem V2Store.KeepsBindings.trans {later : V2Store} (hfirst : store.KeepsBindings next)
    (hsecond : next.KeepsBindings later) : store.KeepsBindings later := by
  intro bindingId old hget
  obtain ⟨new, hnew, hcontinues⟩ := hfirst bindingId old hget
  obtain ⟨last, hlast, hlater⟩ := hsecond bindingId new hnew
  exact ⟨last, hlast, hcontinues.trans hlater⟩

/-- Writing a binding that continues the one that stood there, if there was one. -/
theorem keepsBindings_set
    (hcontinues : ∀ old, store.bindings.get binding.bindingId = some old → old.Continues binding)
    (hnext : next.bindings = store.bindings.set binding.bindingId binding) :
    store.KeepsBindings next := by
  intro bindingId old hget
  rw [hnext, OrderedMap.get_set]
  split
  · next heq =>
      rw [heq] at hget
      exact ⟨binding, rfl, hcontinues old hget⟩
  · exact ⟨old, hget, .refl old⟩

/-! ## One event -/

/-- What an event does to the bindings. -/
structure BindingsMove (store : V2Store) (event : V2StoreEvent) (next : V2Store) : Prop where
  keeps : store.KeepsBindings next
  approves : ∀ bindingId new, next.bindings.get bindingId = some new → new.trustState = .active →
    (∃ old, store.bindings.get bindingId = some old ∧ old.trustState = .active) ∨
      event.Approves bindingId new.deviceId

theorem bindingsMove_of_eq {event : V2StoreEvent} (hnext : next.bindings = store.bindings) :
    BindingsMove store event next where
  keeps := keepsBindings_of_eq hnext
  approves bindingId new hget hactive := by
    rw [hnext] at hget
    exact Or.inl ⟨new, hget, hactive⟩

/-- Uniqueness does not depend on what is drawn, the rest does. -/
theorem sound_perform (hsound : store.BindingsSound) (operation : V2Operation) :
    (perform env store operation).1.BindingsSound := by
  have hstep := @bindingStep_perform env store operation
  generalize hnext : (perform env store operation).1 = next at hstep ⊢
  generalize hbindings : next.bindings = bindings at hstep
  cases hstep with
  | same =>
      constructor
      · rw [hbindings]
        exact hsound.keyed
      · rw [hbindings]
        exact hsound.approvedAt
      · rw [hbindings]
        exact hsound.unique
  | claim principal req hbinding =>
      have hclaimed := claimed_of_claimedBinding hsound.keyed hbinding
      cases hclaimed with
      | moved hget hdevice hmobile hstate hpending happroved =>
          refine hsound.set ?_ ?_ hbindings
          · rw [happroved, hstate]
            exact hsound.approvedAt hget
          · intro other otherBinding hother hlive hnew hsameDevice hsameMobile
            rw [hstate] at hnew
            rw [hdevice] at hsameDevice
            rw [hmobile] at hsameMobile
            exact hsound.unique hother hget hlive hnew hsameDevice hsameMobile
      | made hdraw hdevice hmobile hstate happroved hnone =>
          refine hsound.set ?_ ?_ hbindings
          · rw [happroved, hstate]
            simp
          · intro other otherBinding hother hlive hnew hsameDevice hsameMobile
            have hrevoked := revoked_of_findBindingLocked hnone hother
              (hsameDevice.trans hdevice) (hsameMobile.trans hmobile)
            exact absurd hrevoked hlive
  | @approve principal bindingId binding htype hget howner hpending =>
      have hid := hsound.keyed _ _ hget
      rw [← hid] at hget
      refine @V2Store.BindingsSound.set store next (binding.activated env.now) hsound ?_ ?_
        hbindings
      · exact iff_of_true rfl rfl
      · intro other otherBinding hother hlive hnew hsameDevice hsameMobile
        refine hsound.unique hother hget hlive ?_ hsameDevice hsameMobile
        rw [hpending]
        decide

theorem sound_step (hsound : store.BindingsSound) (event : V2StoreEvent) :
    (store.step event).BindingsSound := by
  cases event with
  | perform env operation => exact sound_perform hsound operation
  | restart persistedAt hydratedAt iter =>
      exact ⟨hsound.keyed, hsound.approvedAt, hsound.unique⟩

theorem move_perform (hsound : store.BindingsSound) {operation : V2Operation}
    (hfresh : store.DrawsFreshBinding (.perform env operation)) :
    BindingsMove store (.perform env operation) (perform env store operation).1 := by
  have hstep := @bindingStep_perform env store operation
  generalize hnext : (perform env store operation).1 = next at hstep ⊢
  generalize hbindings : next.bindings = bindings at hstep
  cases hstep with
  | same => exact bindingsMove_of_eq hbindings
  | claim principal req hbinding =>
      have hclaimed := claimed_of_claimedBinding hsound.keyed hbinding
      cases hclaimed with
      | moved hget hdevice hmobile hstate hpending happroved =>
          constructor
          · apply keepsBindings_set _ hbindings
            intro old hold
            rw [hget] at hold
            obtain rfl := Option.some.inj hold
            exact ⟨hdevice, hmobile, fun hactive => hstate.trans hactive⟩
          · intro bindingId new hnew hactive
            rw [hbindings, OrderedMap.get_set] at hnew
            split at hnew
            · obtain rfl := Option.some.inj hnew
              rw [hstate, hpending] at hactive
              cases hactive
            · exact Or.inl ⟨new, hnew, hactive⟩
      | made hdraw hdevice hmobile hstate happroved hnone =>
          constructor
          · apply keepsBindings_set _ hbindings
            intro old hold
            rw [hfresh _ hdraw] at hold
            cases hold
          · intro bindingId new hnew hactive
            rw [hbindings, OrderedMap.get_set] at hnew
            split at hnew
            · obtain rfl := Option.some.inj hnew
              rw [hstate] at hactive
              cases hactive
            · exact Or.inl ⟨new, hnew, hactive⟩
  | @approve principal requested binding htype hget howner hpending =>
      have hid := hsound.keyed _ _ hget
      constructor
      · refine @keepsBindings_set store next (binding.activated env.now) ?_ hbindings
        intro old hold
        have hsame : store.bindings.get binding.bindingId = some old := hold
        rw [hid, hget] at hsame
        obtain rfl := Option.some.inj hsame
        exact ⟨rfl, rfl, fun _ => rfl⟩
      · intro bindingId new hnew hactive
        rw [hbindings, OrderedMap.get_set] at hnew
        split at hnew
        · next heq =>
            obtain rfl := Option.some.inj hnew
            exact Or.inr ⟨hid.symm.trans heq.symm, htype, howner.symm⟩
        · exact Or.inl ⟨new, hnew, hactive⟩

theorem move_step (hsound : store.BindingsSound) {event : V2StoreEvent}
    (hfresh : store.DrawsFreshBinding event) : BindingsMove store event (store.step event) := by
  cases event with
  | perform env operation => exact move_perform hsound hfresh
  | restart persistedAt hydratedAt iter => exact bindingsMove_of_eq rfl

end Invariant

/-! ## Runs -/

theorem sound_newV2Store : newV2Store.BindingsSound where
  keyed := .empty
  approvedAt hget := nomatch hget
  unique hget := nomatch hget

theorem sound_run (events : List V2StoreEvent) :
    (Steps.run V2Store.step newV2Store events).BindingsSound := by
  have hstep : ∀ (store : V2Store) event, store.BindingsSound →
      (store.step event).BindingsSound := fun _ event hsound => sound_step hsound event
  exact Steps.run_preserves_of_step hstep events sound_newV2Store

/-- In a run from a sound store every binding continues to the end. -/
theorem keepsBindings_run {store : V2Store} (hsound : store.BindingsSound)
    {events : List V2StoreEvent}
    (hfresh : Steps.Along V2Store.step V2Store.DrawsFreshBinding store events) :
    store.KeepsBindings (Steps.run V2Store.step store events) := by
  induction events generalizing store with
  | nil => exact keepsBindings_of_eq rfl
  | cons event rest ih =>
      exact (move_step hsound hfresh.1).keeps.trans (ih (sound_step hsound event) hfresh.2)

/-- The event is a claim or an approval, which alone write bindings. -/
def V2StoreEvent.writesBindings : V2StoreEvent → Bool
  | .perform _ (.claimPair _ _) => true
  | .perform _ (.approveBinding _ _) => true
  | _ => false

theorem bindings_step {store : V2Store} {event : V2StoreEvent}
    (hevent : event.writesBindings = false) :
    (store.step event).bindings = store.bindings := by
  cases event with
  | restart persistedAt hydratedAt iter => rfl
  | perform env operation =>
      apply bindings_perform
      · rintro principal req rfl
        cases hevent
      · rintro principal bindingId rfl
        cases hevent

theorem bindings_run {store : V2Store} {events : List V2StoreEvent}
    (hevents : ∀ event ∈ events, event.writesBindings = false) :
    (Steps.run V2Store.step store events).bindings = store.bindings := by
  induction events generalizing store with
  | nil => rfl
  | cons event rest ih =>
      obtain ⟨hevent, hrest⟩ := List.forall_mem_cons.mp hevents
      calc (Steps.run V2Store.step (store.step event) rest).bindings
          = (store.step event).bindings := ih hrest
        _ = store.bindings := bindings_step hevent

theorem bindings_eq_empty {events : List V2StoreEvent}
    (hevents : (events.all fun event => !event.writesBindings) = true) :
    (Steps.run V2Store.step newV2Store events).bindings = ∅ := by
  apply bindings_run
  simpa using hevents

/-- **Bindings are unique and never go back.**  In every run whose binding ids are drawn
fresh, every state has at most one binding between two clients that is not revoked, and
approval times for the active ones exactly; a later state has the bindings of an earlier
one, between the same clients and active where they were; and a binding that becomes
active is approved by its desktop in that event. -/
theorem bindings_unique {events : List V2StoreEvent}
    (hfresh : Steps.Along V2Store.step V2Store.DrawsFreshBinding newV2Store events) :
    (∀ before, before <+: events → (Steps.run V2Store.step newV2Store before).BindingsSound) ∧
      (∀ earlier later, earlier <+: later → later <+: events →
        (Steps.run V2Store.step newV2Store earlier).KeepsBindings
          (Steps.run V2Store.step newV2Store later)) ∧
      ∀ before event, before ++ [event] <+: events → ∀ bindingId new,
        (Steps.run V2Store.step newV2Store (before ++ [event])).bindings.get bindingId =
            some new → new.trustState = .active →
          (∃ old, (Steps.run V2Store.step newV2Store before).bindings.get bindingId = some old ∧
              old.trustState = .active) ∨
            event.Approves bindingId new.deviceId := by
  refine ⟨fun before _ => sound_run before, ?_, ?_⟩
  · rintro earlier later ⟨between, rfl⟩ ⟨rest, rfl⟩
    rw [Steps.run_append]
    apply keepsBindings_run (sound_run earlier)
    exact (Steps.along_append.mp (Steps.along_append.mp hfresh).1).2
  · rintro before event ⟨rest, rfl⟩ bindingId new hget hactive
    have hevent := (Steps.along_concat.mp (Steps.along_append.mp hfresh).1).2
    rw [Steps.run_concat] at hget
    exact (move_step (sound_run before) hevent).approves bindingId new hget hactive

theorem bindings_meetingEvents :
    (Steps.run V2Store.step newV2Store meetingEvents).bindings = ∅ := bindings_eq_empty rfl

/-- It claims the pair session, and the desktop approves it. -/
def pairedEvents : List V2StoreEvent :=
  meetingEvents ++
    [.perform (unpairedEnv 3 "3") (.claimPair principalOfPhone ⟨"v2claim_1", ""⟩),
      .perform (unpairedEnv 4 "4") (.approveBinding principalOfD "v2bind_3")]

theorem bindings_unique_paired :
    (Steps.run V2Store.step newV2Store pairedEvents).BindingsSound := by
  have hfresh : Steps.Along V2Store.step V2Store.DrawsFreshBinding newV2Store pairedEvents := by
    refine Steps.along_append.mpr ⟨⟨trivial, trivial, trivial, trivial, trivial, trivial⟩, ?_⟩
    refine Steps.along_cons.mpr ⟨?_, trivial, trivial⟩
    intro bindingId _
    rw [bindings_meetingEvents]
    rfl
  exact (bindings_unique hfresh).1 pairedEvents (List.prefix_refl _)

end OpenClaw.Server
