import OpenClaw.Server.V2Bindings

/-!
# The life of a pair session

A pair session is pending, then claimed by a mobile, then approved by its desktop; the
prune expires it before that.  Claims and deletions read its status, an approval finds it
through its binding and does not: it writes `approved` over whatever it finds there.
Claims leave no binding at a pending session, so what goes wrong is the approval of a
session that is expired, and nothing else.
-/

namespace OpenClaw.Server

open OpenClaw.Runtime

/-! ## Moves -/

/-- How the status of a pair session may move. -/
inductive PairStatus.Moves : PairStatus → PairStatus → Prop
  | stay (status : PairStatus) : Moves status status
  | claim : Moves .pending .claimed
  | approve : Moves .claimed .approved
  | expirePending : Moves .pending .expired
  | expireClaimed : Moves .claimed .expired

/-- The status moves on, and the mobile that has claimed the session keeps it. -/
structure V2PairSession.Follows (old new : V2PairSession) : Prop where
  status : old.status.Moves new.status
  claimedMobileId : ∀ mobileId, old.claimedMobileId = some mobileId →
    new.claimedMobileId = some mobileId

theorem V2PairSession.Follows.refl (session : V2PairSession) : session.Follows session where
  status := .stay _
  claimedMobileId _ hclaimed := hclaimed

/-- The pair sessions of both stores move on from one to the other. -/
def V2Store.PairSessionsMove (store next : V2Store) : Prop :=
  ∀ pairSessionId old new, store.pairSessions.get pairSessionId = some old →
    next.pairSessions.get pairSessionId = some new → old.Follows new

instance V2Operation.decidableAdmissible (env : Env) :
    (operation : V2Operation) → Decidable (operation.admissible env)
  | .prune => .isTrue trivial
  | .createChallenge req =>
      match hread : req.read env with
      | .ok challenge => .isTrue ⟨challenge, hread⟩
      | .error _ => .isFalse fun ⟨_, hok⟩ => nomatch hread.symm.trans hok
  | .login req =>
      match hread : req.read with
      | .ok payload => .isTrue ⟨payload, hread⟩
      | .error _ => .isFalse fun ⟨_, hok⟩ => nomatch hread.symm.trans hok
  | .authenticate token => inferInstanceAs (Decidable (unicodeTrim token ≠ ""))
  | .announcePresence _ _ => .isTrue trivial
  | .heartbeatPresence _ _ => .isTrue trivial
  | .createPairSession principal _ =>
      inferInstanceAs (Decidable (principal.session.entityType = .desktop))
  | .deletePairSession principal pairSessionId =>
      inferInstanceAs
        (Decidable (principal.session.entityType = .desktop ∧ unicodeTrim pairSessionId ≠ ""))
  | .claimPair principal req =>
      inferInstanceAs
        (Decidable (principal.session.entityType = .mobile ∧ unicodeTrim req.claimToken ≠ ""))
  | .approveBinding principal bindingId =>
      inferInstanceAs
        (Decidable (principal.session.entityType = .desktop ∧ unicodeTrim bindingId ≠ ""))

/-- The store that an event writes to: an operation that passes its checks prunes first. -/
def V2Store.prepared (store : V2Store) : V2StoreEvent → V2Store
  | .perform env operation =>
      if operation.admissible env then pruneExpiredLocked store env.now else store
  | .restart _ _ _ => store

/-- What the prune writes is a move of every pair session, and what comes after it too. -/
structure V2Store.LifeCycleKept (store : V2Store) (event : V2StoreEvent) : Prop where
  prune : store.PairSessionsMove (store.prepared event)
  write : (store.prepared event).PairSessionsMove (store.step event)

/-- If the event is an approval that is accepted, the pair session is neither expired
already nor expired by the prune before it. -/
def V2Store.ApprovesInTime (store : V2Store) : V2StoreEvent → Prop
  | .perform env (.approveBinding principal bindingId) =>
      principal.session.entityType = .desktop → unicodeTrim bindingId ≠ "" →
        ∀ binding, store.bindings.get (unicodeTrim bindingId) = some binding →
          binding.deviceId = principal.session.entityId → binding.trustState = .pending →
            ∀ session, store.pairSessions.get binding.pairSessionId = some session →
              session.status ≠ .expired ∧ session.expires env.now = false
  | _ => True

/-- Ids and tokens are drawn that nothing in the store has, or names. -/
structure V2Store.DrawsUnused (store : V2Store) (event : V2StoreEvent) : Prop where
  fresh : store.StepDrawsFresh event
  binding : store.DrawsFreshBinding event
  unnamed : ∀ env operation pairSessionId, event = .perform env operation →
    env.makeId "v2pair" = some pairSessionId → ∀ bindingId binding,
      store.bindings.get bindingId = some binding → binding.pairSessionId ≠ pairSessionId

/-! ## What holds in every run -/

/-- A pending pair session has no mobile and no binding. -/
structure V2Store.Unbound (store : V2Store) : Prop where
  unclaimed : ∀ {pairSessionId session}, store.pairSessions.get pairSessionId = some session →
    session.status = .pending → session.claimedMobileId = none
  unnamed : ∀ {bindingId binding session}, store.bindings.get bindingId = some binding →
    store.pairSessions.get binding.pairSessionId = some session → session.status ≠ .pending

/-- What an approval and a claim rely on. -/
structure V2Store.Paired (store : V2Store) : Prop where
  consistent : store.Consistent
  sound : store.BindingsSound
  unbound : store.Unbound

section Invariant

variable {env : Env} {store next : V2Store}

theorem status_pruned (now : ℤ) (session : V2PairSession) :
    session.status.Moves (session.pruned now).status := by
  unfold V2PairSession.pruned
  split
  · next hexpires =>
      rcases isOpen_of_expires hexpires with hstatus | hstatus
      · rw [hstatus]
        exact .expirePending
      · rw [hstatus]
        exact .expireClaimed
  · exact .stay _

theorem claimedMobileId_pruned (now : ℤ) (session : V2PairSession) :
    (session.pruned now).claimedMobileId = session.claimedMobileId := by
  unfold V2PairSession.pruned
  split
  · rfl
  · rfl

/-- What is pending after a move was pending before. -/
theorem pending_of_moves {old new : PairStatus} (hmoves : old.Moves new) (hnew : new = .pending) :
    old = .pending := by
  cases hmoves with
  | stay => exact hnew
  | claim => cases hnew
  | approve => cases hnew
  | expirePending => cases hnew
  | expireClaimed => cases hnew

theorem move_prune (now : ℤ) : store.PairSessionsMove (pruneExpiredLocked store now) := by
  intro pairSessionId old new hold hnew
  rw [get_pairSessions_prune, hold] at hnew
  obtain rfl := Option.some.inj hnew
  constructor
  · exact status_pruned now old
  · intro mobileId hclaimed
    rw [claimedMobileId_pruned]
    exact hclaimed

theorem V2Store.Unbound.prune (hunbound : store.Unbound) (now : ℤ) :
    (pruneExpiredLocked store now).Unbound where
  unclaimed hget hpending := by
    rw [get_pairSessions_prune] at hget
    obtain ⟨old, hold, rfl⟩ := Option.map_eq_some_iff.mp hget
    rw [claimedMobileId_pruned]
    exact hunbound.unclaimed hold (pending_of_moves (status_pruned now old) hpending)
  unnamed hbinding hget hpending := by
    rw [get_pairSessions_prune] at hget
    obtain ⟨old, hold, rfl⟩ := Option.map_eq_some_iff.mp hget
    exact hunbound.unnamed hbinding hold (pending_of_moves (status_pruned now old) hpending)

theorem V2Store.Unbound.of_maps (hunbound : store.Unbound)
    (hsessions : next.pairSessions = store.pairSessions)
    (hbindings : next.bindings = store.bindings) : next.Unbound where
  unclaimed hget := by
    rw [hsessions] at hget
    exact hunbound.unclaimed hget
  unnamed hbinding hget := by
    rw [hbindings] at hbinding
    rw [hsessions] at hget
    exact hunbound.unnamed hbinding hget

/-- Writing a pair session that is not pending. -/
theorem V2Store.Unbound.putPairSession (hunbound : store.Unbound) (pairSessionId : String)
    {session : V2PairSession} (hstatus : session.status ≠ .pending)
    (hsessions : next.pairSessions = store.pairSessions.set pairSessionId session)
    (hbindings : next.bindings = store.bindings) : next.Unbound where
  unclaimed hget hpending := by
    rw [hsessions, OrderedMap.get_set] at hget
    split at hget
    · obtain rfl := Option.some.inj hget
      exact absurd hpending hstatus
    · exact hunbound.unclaimed hget hpending
  unnamed hbinding hget := by
    rw [hbindings] at hbinding
    rw [hsessions, OrderedMap.get_set] at hget
    split at hget
    · obtain rfl := Option.some.inj hget
      exact hstatus
    · exact hunbound.unnamed hbinding hget

/-- Writing a binding that names no pending pair session. -/
theorem V2Store.Unbound.putBinding (hunbound : store.Unbound) {binding : V2Binding}
    (hnamed : ∀ session, store.pairSessions.get binding.pairSessionId = some session →
      session.status ≠ .pending) : (store.putBinding binding).Unbound where
  unclaimed hget := hunbound.unclaimed hget
  unnamed hbinding hget := by
    rw [V2Store.putBinding, OrderedMap.get_set] at hbinding
    split at hbinding
    · obtain rfl := Option.some.inj hbinding
      exact hnamed _ hget
    · exact hunbound.unnamed hbinding hget

theorem V2Store.Unbound.approvePairSession (hunbound : store.Unbound) (now : ℤ)
    (pairSessionId : String) : (approvePairSession now store pairSessionId).Unbound := by
  unfold Server.approvePairSession
  split
  · exact hunbound
  · refine hunbound.putPairSession _ ?_ rfl rfl
    intro hpending
    cases hpending

theorem pairSessionId_claimedBinding {existing : Option V2Binding} {session : V2PairSession}
    {mobile : V2Mobile} {binding : V2Binding}
    (hbinding : claimedBinding env existing session mobile = .ok binding) :
    binding.pairSessionId = session.pairSessionId := by
  unfold claimedBinding at hbinding
  split at hbinding
  · split at hbinding
    · cases hbinding
    · obtain rfl := Except.ok.inj hbinding
      rfl
  · split at hbinding
    · cases hbinding
    · obtain rfl := Except.ok.inj hbinding
      rfl

theorem V2Store.Unbound.pair (hunbound : store.Unbound)
    (hunnamed : ∀ pairSessionId, env.makeId "v2pair" = some pairSessionId →
      ∀ bindingId binding, store.bindings.get bindingId = some binding →
        binding.pairSessionId ≠ pairSessionId)
    (hpair : PairChange env store next) : next.Unbound := by
  cases hpair with
  | openPairSession hget hfresh =>
      constructor
      · intro other found hfound hpending
        rw [V2Store.putPairSession, OrderedMap.get_set] at hfound
        split at hfound
        · obtain rfl := Option.some.inj hfound
          exact hfresh.claimedMobileId
        · exact hunbound.unclaimed hfound hpending
      · intro bindingId binding found hbinding hfound
        have hother := hunnamed _ hfresh.pairSessionId bindingId binding hbinding
        rw [V2Store.putPairSession, OrderedMap.get_set, if_neg hother] at hfound
        exact hunbound.unnamed hbinding hfound
  | deletePairSession hget hpending hnone =>
      constructor
      · intro other found hfound hpending
        exact hunbound.unclaimed (OrderedMap.get_of_get_erase hfound) hpending
      · intro bindingId binding found hbinding hfound
        exact hunbound.unnamed hbinding (OrderedMap.get_of_get_erase hfound)
  | expirePairSession hindex hget hexpired =>
      refine hunbound.putPairSession _ ?_ rfl rfl
      intro hpending
      cases hpending
  | @claim claimToken pairSessionId entityId mobileId session claimer mobile binding hindex hget
      hlive hclaimable hclaimer hmobile hsame hbinding =>
      constructor
      · intro other found hfound hpending
        rw [V2Store.putPairSession, OrderedMap.get_set] at hfound
        split at hfound
        · obtain rfl := Option.some.inj hfound
          cases hpending
        · exact hunbound.unclaimed hfound hpending
      · intro bindingId named found hnamed hfound
        rw [V2Store.putPairSession, OrderedMap.get_set] at hfound
        split at hfound
        · obtain rfl := Option.some.inj hfound
          intro hpending
          cases hpending
        · next hother =>
            have hold : store.bindings.get bindingId = some named := by
              rw [V2Store.putPairSession, V2Store.putBinding, OrderedMap.get_set] at hnamed
              split at hnamed
              · obtain rfl := Option.some.inj hnamed
                exact absurd (pairSessionId_claimedBinding hbinding) hother
              · exact hnamed
            exact hunbound.unnamed hold hfound
  | @approve bindingId entityId binding hget howner hpending =>
      apply V2Store.Unbound.approvePairSession
      apply hunbound.putBinding
      exact fun session hsession => hunbound.unnamed hget hsession

theorem V2Store.Unbound.perform (hunbound : store.Unbound) {operation : V2Operation}
    (hdraws : store.DrawsUnused (.perform env operation)) :
    (perform env store operation).1.Unbound := by
  apply perform_preserves (fun hunbound => hunbound.prune _) _ _ hunbound
  · intro store next hunbound hrecord
    have hsame := samePairing_of_records (.single hrecord)
    exact hunbound.of_maps hsame.pairSessions hsame.bindings
  · intro between next hsame hunbound hpair
    refine hunbound.pair ?_ hpair
    rw [hsame.bindings]
    exact fun pairSessionId hdraw => hdraws.unnamed env operation pairSessionId rfl hdraw

theorem paired_step (hpaired : store.Paired) {event : V2StoreEvent}
    (hdraws : store.DrawsUnused event) : (store.step event).Paired := by
  refine ⟨consistent_step hpaired.consistent hdraws.fresh, sound_step hpaired.sound event, ?_⟩
  cases event with
  | perform env operation => exact hpaired.unbound.perform hdraws
  | restart persistedAt hydratedAt iter =>
      constructor
      · intro pairSessionId session hget
        exact hpaired.unbound.unclaimed (get_pairSessions_of_restart hget)
      · intro bindingId binding session hbinding hget
        exact hpaired.unbound.unnamed hbinding (get_pairSessions_of_restart hget)

theorem paired_newV2Store : newV2Store.Paired where
  consistent := consistent_newV2Store
  sound := sound_newV2Store
  unbound := ⟨(nomatch ·), fun hget => nomatch hget⟩

end Invariant

/-! ## What an operation other than an approval writes -/

section Moves

variable {env : Env} {store next : V2Store}

theorem pairSessionsMove_of_eq (hsessions : next.pairSessions = store.pairSessions) :
    store.PairSessionsMove next := by
  intro pairSessionId old new hold hnew
  rw [hsessions, hold] at hnew
  obtain rfl := Option.some.inj hnew
  exact .refl old

/-- Writing a pair session that follows the one that stood there, if there was one. -/
theorem pairSessionsMove_set {pairSessionId : String} {session : V2PairSession}
    (hfollows : ∀ old, store.pairSessions.get pairSessionId = some old → old.Follows session)
    (hsessions : next.pairSessions = store.pairSessions.set pairSessionId session) :
    store.PairSessionsMove next := by
  intro other old new hold hnew
  rw [hsessions, OrderedMap.get_set] at hnew
  split at hnew
  · next heq =>
      obtain rfl := Option.some.inj hnew
      rw [heq] at hold
      exact hfollows old hold
  · rw [hold] at hnew
    obtain rfl := Option.some.inj hnew
    exact .refl old

/-- A claim that is accepted is by the mobile that has claimed the session before. -/
theorem claimed_of_claimableBy {session : V2PairSession} {entityId mobileId : String}
    (hclaimable : session.claimableBy entityId = .ok ())
    (hunclaimed : session.status = .pending → session.claimedMobileId = none)
    (hclaimed : session.claimedMobileId = some mobileId) : entityId = mobileId := by
  unfold V2PairSession.claimableBy at hclaimable
  split at hclaimable
  · cases hclaimable
  split at hclaimable
  · cases hclaimable
  · next hopen hsame =>
      rw [hclaimed, Option.any_some, decide_eq_true_eq] at hsame
      have hnot : session.status ≠ .pending := by
        intro hpending
        rw [hunclaimed hpending] at hclaimed
        cases hclaimed
      have hstatus : session.status = .claimed := by
        by_contra hother
        exact hopen ⟨hnot, hother⟩
      by_contra hdiffers
      exact hsame ⟨hstatus, fun heq => hdiffers heq.symm⟩

/-- A change after which no other binding is active moves the pair sessions on. -/
theorem move_pair (hindexed : store.Indexed) (hunbound : store.Unbound)
    (hmobiles : store.mobiles.KeyedBy V2Mobile.mobileId) (hdraws : DrawsFresh env store)
    (hkeyed : store.bindings.KeyedBy V2Binding.bindingId)
    (hactive : ∀ bindingId new, next.bindings.get bindingId = some new →
      new.trustState = .active →
        ∃ old, store.bindings.get bindingId = some old ∧ old.trustState = .active)
    (hpair : PairChange env store next) : store.PairSessionsMove next := by
  cases hpair with
  | openPairSession hget hfresh =>
      refine pairSessionsMove_set ?_ rfl
      intro old hold
      rw [hdraws.pairSessionId hfresh.pairSessionId] at hold
      cases hold
  | deletePairSession hget hpending hnone =>
      intro other old new hold hnew
      have hkept := OrderedMap.get_of_get_erase hnew
      rw [hold] at hkept
      obtain rfl := Option.some.inj hkept
      exact .refl old
  | expirePairSession hindex hget hexpired =>
      refine pairSessionsMove_set ?_ rfl
      intro old hold
      obtain ⟨session, hsession, -, hopen⟩ := hindexed.index.exact.mp hindex
      rw [hold] at hget hsession
      obtain rfl := Option.some.inj hget
      obtain rfl := Option.some.inj hsession
      constructor
      · rcases hopen with hstatus | hstatus
        · rw [hstatus]
          exact .expirePending
        · rw [hstatus]
          exact .expireClaimed
      · exact fun mobileId hclaimed => hclaimed
  | claim hindex hget hlive hclaimable hclaimer hmobile hsame hbinding =>
      refine pairSessionsMove_set ?_ rfl
      intro old hold
      have hid := hindexed.keyed _ _ hget
      rw [hid, hget] at hold
      obtain rfl := Option.some.inj hold
      constructor
      · rcases isOpen_of_claimableBy hclaimable with hstatus | hstatus
        · rw [hstatus]
          exact .claim
        · rw [hstatus]
          exact .stay _
      · intro mobileId hclaimed
        have hentity := claimed_of_claimableBy hclaimable (hunbound.unclaimed hget) hclaimed
        rw [← hentity, ← hmobiles _ _ hclaimer, hsame]
  | @approve bindingId entityId binding hget howner hpending =>
      exfalso
      have hid := hkeyed _ _ hget
      rw [bindings_approvePairSession] at hactive
      have hwritten := hactive binding.bindingId (binding.activated env.now)
        (OrderedMap.get_set_self _ _ _) rfl
      obtain ⟨old, hold, hstate⟩ := hwritten
      rw [hid, hget] at hold
      obtain rfl := Option.some.inj hold
      rw [hpending] at hstate
      cases hstate

theorem accounted_of_records {next : V2Store} (haccounted : store.Accounted)
    (hrecords : RecordChanges env store next) : next.Accounted := by
  induction hrecords with
  | refl => exact haccounted
  | tail _ hlast ih => exact ih.record hlast

/-- **An operation that approves nothing** moves the pair sessions of the pruned store on. -/
theorem move_perform_of_not_approve (hpaired : store.Paired) {operation : V2Operation}
    (hdraws : store.DrawsUnused (.perform env operation))
    (hnot : ∀ bindingId deviceId,
      ¬V2StoreEvent.Approves (.perform env operation) bindingId deviceId)
    (hadmissible : operation.admissible env) :
    (pruneExpiredLocked store env.now).PairSessionsMove (perform env store operation).1 := by
  have hmove := move_perform hpaired.sound hdraws.binding
  have hchanges := @changes_perform env store operation hadmissible
  generalize (perform env store operation).1 = next at hmove hchanges ⊢
  cases hchanges with
  | records hrecords => exact pairSessionsMove_of_eq (samePairing_of_records hrecords).pairSessions
  | @pairing between hrecords hpair =>
      have hsame := samePairing_of_records hrecords
      have hindexed := (hpaired.consistent.indexed.prune env.now).of_maps hsame.pairSessions
        hsame.pairClaimTokenIndex
      have hunbound := (hpaired.unbound.prune env.now).of_maps hsame.pairSessions hsame.bindings
      have haccounted := accounted_of_records (hpaired.consistent.accounted.prune env.now) hrecords
      have hfresh : DrawsFresh env between := by
        constructor
        · rw [hsame.pairSessions]
          exact (hdraws.fresh.prune _).pairSessionId
        · rw [hsame.pairSessions]
          exact (hdraws.fresh.prune _).claimToken
      have hbindings : between.bindings = store.bindings := hsame.bindings
      have hwritten : between.PairSessionsMove next := by
        apply move_pair hindexed hunbound haccounted.mobiles hfresh ?_ ?_ hpair
        · rw [hbindings]
          exact hpaired.sound.keyed
        · intro bindingId new hnew hactive
          rw [hbindings]
          exact (hmove.approves bindingId new hnew hactive).resolve_right (hnot _ _)
      intro pairSessionId old new hold hnew
      rw [← hsame.pairSessions] at hold
      exact hwritten pairSessionId old new hold hnew

end Moves

/-! ## What an approval writes -/

section Approval

variable {env : Env} {store : V2Store} {principal : V2Principal} {bindingId : String}

/-- What an approval does to the pair sessions of the store it writes to: nothing, or the
one that its binding names is approved. -/
inductive Approval (env : Env) (store next : V2Store) (principal : V2Principal)
    (bindingId : String) : Prop
  | refused (hnext : next.pairSessions = store.pairSessions)
      (hnone : ∀ binding, store.bindings.get bindingId = some binding →
        binding.deviceId = principal.session.entityId → binding.trustState ≠ .pending)
  | unpaired {binding : V2Binding} (hget : store.bindings.get bindingId = some binding)
      (hgone : store.pairSessions.get binding.pairSessionId = none)
      (hnext : next.pairSessions = store.pairSessions)
  | approved {binding : V2Binding} {session : V2PairSession}
      (hget : store.bindings.get bindingId = some binding)
      (howner : binding.deviceId = principal.session.entityId)
      (hpending : binding.trustState = .pending)
      (hsession : store.pairSessions.get binding.pairSessionId = some session)
      (hnext : next.pairSessions = store.pairSessions.set session.pairSessionId
        { session with status := .approved, updatedAt := env.now })

theorem approval_approveBindingLocked :
    Approval env store (approveBindingLocked env.now store principal bindingId).1 principal
      bindingId := by
  unfold approveBindingLocked
  split
  · next hnone =>
      refine .refused rfl fun binding hget => ?_
      rw [hnone] at hget
      cases hget
  next binding hget =>
  have hsame : ∀ found, store.bindings.get bindingId = some found → found = binding := by
    intro found hfound
    rw [hget] at hfound
    exact (Option.some.inj hfound).symm
  split
  · next hother =>
      refine .refused rfl fun found hfound howner => ?_
      obtain rfl := hsame found hfound
      exact absurd howner hother
  next howner =>
  split
  · next hstate =>
      refine .refused rfl fun found hfound _ => ?_
      obtain rfl := hsame found hfound
      exact hstate
  next hpending =>
  dsimp only
  unfold approvePairSession
  split
  · next hgone => exact .unpaired hget hgone rfl
  · next session hsession =>
      exact .approved hget (not_not.mp howner) (not_not.mp hpending) hsession rfl

theorem not_expired_of_moves_approved {status : PairStatus} (hmoves : status.Moves .approved) :
    status ≠ .expired := by
  rintro rfl
  cases hmoves

theorem pruned_of_not_expires {now : ℤ} {session : V2PairSession}
    (hstays : session.expires now = false) : session.pruned now = session := by
  unfold V2PairSession.pruned
  rw [hstays]
  rfl

/-- **An approval** moves the pair sessions on exactly if the one that it finds is not
expired. -/
theorem move_approveBinding_iff (hpaired : store.Paired)
    (htype : principal.session.entityType = .desktop) (hid : unicodeTrim bindingId ≠ "") :
    (pruneExpiredLocked store env.now).PairSessionsMove
        (perform env store (.approveBinding principal bindingId)).1 ↔
      store.ApprovesInTime (.perform env (.approveBinding principal bindingId)) := by
  have hunbound := hpaired.unbound.prune env.now
  have hindexed := hpaired.consistent.indexed.prune env.now
  have happroval := @approval_approveBindingLocked env (pruneExpiredLocked store env.now) principal
    (unicodeTrim bindingId)
  have hperform : (perform env store (.approveBinding principal bindingId)).1 =
      (approveBindingLocked env.now (pruneExpiredLocked store env.now) principal
        (unicodeTrim bindingId)).1 := by
    dsimp only [perform, answer, approveBinding]
    rw [if_neg (not_not.mpr htype), trimRequired_of_ne hid]
  rw [hperform]
  have hbindings : (pruneExpiredLocked store env.now).bindings = store.bindings := rfl
  have hsame : ∀ {binding found : V2Binding},
      store.bindings.get (unicodeTrim bindingId) = some binding →
        store.bindings.get (unicodeTrim bindingId) = some found → found = binding := by
    intro binding found hget hfound
    rw [hget] at hfound
    exact (Option.some.inj hfound).symm
  cases happroval with
  | refused hnext hnone =>
      apply iff_of_true (pairSessionsMove_of_eq hnext)
      intro _ _ binding hget howner hpending
      exact absurd hpending (hnone binding hget howner)
  | unpaired hget hgone hnext =>
      apply iff_of_true (pairSessionsMove_of_eq hnext)
      intro _ _ found hfound _ _ session hsession
      obtain rfl := hsame hget hfound
      rw [get_pairSessions_prune, hsession] at hgone
      cases hgone
  | @approved binding session hget howner hpending hsession hnext =>
      have hkey := hindexed.keyed _ _ hsession
      have hnotPending := hunbound.unnamed hget hsession
      rw [get_pairSessions_prune] at hsession
      obtain ⟨old, hold, rfl⟩ := Option.map_eq_some_iff.mp hsession
      rw [hkey] at hnext
      constructor
      · intro hmove htype hid found hfound _ _ stored hstored
        obtain rfl := hsame hget hfound
        rw [hold] at hstored
        obtain rfl := Option.some.inj hstored
        have hfollows := hmove found.pairSessionId (old.pruned env.now) _
          (by rw [get_pairSessions_prune, hold, Option.map_some])
          (by rw [hnext, OrderedMap.get_set_self])
        have hstatus := not_expired_of_moves_approved hfollows.status
        cases hexpires : old.expires env.now with
        | true =>
            rw [show old.pruned env.now = _ from if_pos hexpires] at hstatus
            exact absurd rfl hstatus
        | false =>
            rw [pruned_of_not_expires hexpires] at hstatus
            exact ⟨hstatus, rfl⟩
      · intro hintime
        obtain ⟨hstatus, hexpires⟩ := hintime htype hid binding hget howner hpending old hold
        have hpruned := pruned_of_not_expires hexpires
        rw [hpruned] at hnotPending hnext
        refine pairSessionsMove_set ?_ hnext
        intro found hfound
        rw [get_pairSessions_prune, hold, Option.map_some, hpruned] at hfound
        obtain rfl := Option.some.inj hfound
        refine ⟨?_, fun mobileId hclaimed => hclaimed⟩
        show old.status.Moves .approved
        cases hcase : old.status with
        | pending => exact absurd hcase hnotPending
        | claimed => exact .approve
        | expired => exact absurd hcase hstatus
        | approved => exact .stay _

end Approval

/-! ## Runs -/

/-- **One event** keeps the life cycle exactly if it is no approval that comes late. -/
theorem lifeCycleKept_iff {store : V2Store} (hpaired : store.Paired) {event : V2StoreEvent}
    (hdraws : store.DrawsUnused event) :
    store.LifeCycleKept event ↔ store.ApprovesInTime event := by
  cases event with
  | restart persistedAt hydratedAt iter =>
      refine iff_of_true ⟨pairSessionsMove_of_eq rfl, ?_⟩ trivial
      intro pairSessionId old new hold hnew
      have hsame := get_pairSessions_of_restart hnew
      rw [show store.pairSessions.get pairSessionId = some old from hold] at hsame
      obtain rfl := Option.some.inj hsame
      exact .refl old
  | perform env operation =>
      by_cases hadmissible : operation.admissible env
      · have hprepared : store.prepared (.perform env operation) =
            pruneExpiredLocked store env.now := if_pos hadmissible
        have hkept : store.LifeCycleKept (.perform env operation) ↔
            (pruneExpiredLocked store env.now).PairSessionsMove
              (perform env store operation).1 := by
          constructor
          · intro hkept
            rw [← hprepared]
            exact hkept.write
          · intro hmove
            rw [← hprepared] at hmove
            refine ⟨?_, hmove⟩
            rw [hprepared]
            exact move_prune env.now
        rw [hkept]
        cases operation with
        | approveBinding principal bindingId =>
            exact move_approveBinding_iff hpaired hadmissible.1 hadmissible.2
        | _ =>
            apply iff_of_true _ trivial
            exact move_perform_of_not_approve hpaired hdraws (fun _ _ happroves => happroves)
              hadmissible
      · have hprepared : store.prepared (.perform env operation) = store := if_neg hadmissible
        have hstep : store.step (.perform env operation) = store :=
          perform_of_not_admissible hadmissible
        refine iff_of_true ⟨?_, ?_⟩ ?_
        · rw [hprepared]
          exact pairSessionsMove_of_eq rfl
        · rw [hprepared, hstep]
          exact pairSessionsMove_of_eq rfl
        · cases operation with
          | approveBinding principal bindingId =>
              exact fun htype hid => absurd ⟨htype, hid⟩ hadmissible
          | _ => trivial

/-- **The life cycle of pair sessions.**  As long as what is drawn is unused, every write of
a run moves every pair session on exactly if none of its approvals comes late. -/
theorem life_cycle_iff {events : List V2StoreEvent}
    (hdraws : Steps.Along V2Store.step V2Store.DrawsUnused newV2Store events) :
    (∀ before event, before ++ [event] <+: events →
        (Steps.run V2Store.step newV2Store before).LifeCycleKept event) ↔
      ∀ before event, before ++ [event] <+: events →
        (Steps.run V2Store.step newV2Store before).ApprovesInTime event := by
  have hiff : ∀ before event, before ++ [event] <+: events →
      ((Steps.run V2Store.step newV2Store before).LifeCycleKept event ↔
        (Steps.run V2Store.step newV2Store before).ApprovesInTime event) := by
    rintro before event ⟨rest, rfl⟩
    obtain ⟨hbefore, hevent⟩ := Steps.along_concat.mp (Steps.along_append.mp hdraws).1
    have hstep : ∀ (store : V2Store) event, store.Paired → store.DrawsUnused event →
        (store.step event).Paired := fun _ _ hpaired hdraws => paired_step hpaired hdraws
    exact lifeCycleKept_iff (Steps.run_preserves hstep paired_newV2Store hbefore) hevent
  constructor
  · intro hkept before event hway
    exact (hiff before event hway).mp (hkept before event hway)
  · intro hintime before event hway
    exact (hiff before event hway).mpr (hintime before event hway)

/-! ### A pair session that is opened in time, and one that is approved late -/

theorem drawsUnused_unpairedEnv {store : V2Store} {now : ℤ} {text : String}
    {operation : V2Operation}
    (hbinding : store.DrawsFreshBinding (.perform (unpairedEnv now text) operation)) :
    store.DrawsUnused (.perform (unpairedEnv now text) operation) where
  fresh := drawsFresh_unpairedEnv now text store
  binding := hbinding
  unnamed env other pairSessionId heq hdraw := by
    cases heq
    cases hdraw

theorem drawsUnused_openingEvents :
    Steps.Along V2Store.step V2Store.DrawsUnused newV2Store openingEvents := by
  refine ⟨drawsUnused_unpairedEnv trivial, drawsUnused_unpairedEnv trivial, ?_, trivial⟩
  refine ⟨drawsFresh_openingEvents.2.2.1, trivial, ?_⟩
  intro env operation pairSessionId heq hdraw bindingId binding hget
  rw [bindings_step rfl, bindings_step rfl] at hget
  cases hget

/-- The mobile claims the pair session that the desktop has opened. -/
theorem drawsUnused_claimed {rest : List V2StoreEvent}
    (hrest : Steps.Along V2Store.step V2Store.DrawsUnused
      (V2Store.step (Steps.run V2Store.step newV2Store meetingEvents)
        (.perform (unpairedEnv 3 "3") (.claimPair principalOfPhone ⟨"v2claim_1", ""⟩))) rest) :
    Steps.Along V2Store.step V2Store.DrawsUnused newV2Store (meetingEvents ++
      .perform (unpairedEnv 3 "3") (.claimPair principalOfPhone ⟨"v2claim_1", ""⟩) :: rest) := by
  have hmeeting : Steps.Along V2Store.step V2Store.DrawsUnused newV2Store meetingEvents :=
    Steps.along_append.mpr ⟨drawsUnused_openingEvents, drawsUnused_unpairedEnv trivial,
      drawsUnused_unpairedEnv trivial, trivial⟩
  refine Steps.along_append.mpr ⟨hmeeting, ?_, hrest⟩
  apply drawsUnused_unpairedEnv
  intro bindingId _
  rw [bindings_meetingEvents]
  rfl

/-- The pair session is claimed, and approved in time. -/
theorem life_cycle_paired :
    ((Steps.run V2Store.step newV2Store pairedEvents).pairSessions.get "v2pair_1").map
        V2PairSession.status = some .approved ∧
      ∀ before event, before ++ [event] <+: pairedEvents →
        (Steps.run V2Store.step newV2Store before).LifeCycleKept event := by
  have hdraws : Steps.Along V2Store.step V2Store.DrawsUnused newV2Store pairedEvents :=
    drawsUnused_claimed (Steps.along_cons.mpr ⟨drawsUnused_unpairedEnv trivial, trivial⟩)
  have hrun : ((Steps.run V2Store.step newV2Store pairedEvents).pairSessions.get "v2pair_1").map
        V2PairSession.status = some .approved ∧
      ∀ session ∈ (Steps.run V2Store.step newV2Store
        (pairedEvents.take 6)).pairSessions.values,
          session.status ≠ .expired ∧ session.expires 4 = false := by
    decide +kernel
  refine ⟨hrun.1, (life_cycle_iff hdraws).mpr ?_⟩
  have hintime : Steps.Along V2Store.step V2Store.ApprovesInTime newV2Store
      (pairedEvents.take 6 ++
        [.perform (unpairedEnv 4 "4") (.approveBinding principalOfD "v2bind_3")]) := by
    refine Steps.along_concat.mpr ⟨⟨trivial, trivial, trivial, trivial, trivial, trivial,
      trivial⟩, ?_⟩
    intro _ _ binding _ _ _ session hget
    exact hrun.2 session (OrderedMap.mem_values_of_get hget)
  rintro before event ⟨rest, hrest⟩
  have hevents : pairedEvents.take 6 ++
      [.perform (unpairedEnv 4 "4") (.approveBinding principalOfD "v2bind_3")] =
        before ++ [event] ++ rest := hrest.symm
  rw [hevents] at hintime
  exact (Steps.along_concat.mp (Steps.along_append.mp hintime).1).2

/-- A mobile claims the pair session of the desktop, its time is over, a prune expires it,
and then the desktop approves the mobile. -/
def lateEvents : List V2StoreEvent :=
  meetingEvents ++
    [.perform (unpairedEnv 3 "3") (.claimPair principalOfPhone ⟨"v2claim_1", ""⟩),
      .perform (unpairedEnv 900000 "4") .prune,
      .perform (unpairedEnv 900001 "5") (.approveBinding principalOfD "v2bind_3")]

theorem status_lateEvents :
    ((Steps.run V2Store.step newV2Store (lateEvents.take 7)).pairSessions.get "v2pair_1").map
        V2PairSession.status = some .expired ∧
      ((Steps.run V2Store.step newV2Store lateEvents).pairSessions.get "v2pair_1").map
        V2PairSession.status = some .approved := by
  decide +kernel

theorem drawsUnused_lateEvents :
    Steps.Along V2Store.step V2Store.DrawsUnused newV2Store lateEvents :=
  drawsUnused_claimed (Steps.along_cons.mpr
    ⟨drawsUnused_unpairedEnv trivial, drawsUnused_unpairedEnv trivial, trivial⟩)

/-- Expired is not the end: a late approval makes the pair session approved. -/
theorem approved_after_expiry :
    Steps.Along V2Store.step V2Store.DrawsUnused newV2Store lateEvents ∧
      ∃ old new,
        (Steps.run V2Store.step newV2Store (lateEvents.take 7)).pairSessions.get "v2pair_1" =
            some old ∧ old.status = .expired ∧
          (Steps.run V2Store.step newV2Store lateEvents).pairSessions.get "v2pair_1" = some new ∧
            new.status = .approved := by
  obtain ⟨hexpired, happroved⟩ := status_lateEvents
  obtain ⟨old, hold, holdStatus⟩ := Option.map_eq_some_iff.mp hexpired
  obtain ⟨new, hnew, hnewStatus⟩ := Option.map_eq_some_iff.mp happroved
  exact ⟨drawsUnused_lateEvents, old, new, hold, holdStatus, hnew, hnewStatus⟩

end OpenClaw.Server
