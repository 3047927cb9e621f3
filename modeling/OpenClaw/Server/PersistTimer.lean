import OpenClaw.Server.V2Bindings
import OpenClaw.Server.V2Refusals

/-!
# When the server persists

A handler that has changed the store calls `onMutation`, which starts a timer or starts it
anew; the timer persists.  A persist waits for the one that is going on, takes a snapshot and
executes its transaction, whose failure is logged and no more.  Handlers, timer and persists
run beside each other.

Not every change is followed by `onMutation`: a challenge, the renewal of a session with every
request, and the pruning and renaming of a refused request are not.  So what Redis has at rest
is a store from which the one in memory came by such calls, and these leave the bindings.

The first store and the cleanups schedule persists too; here these come at any time.
-/

namespace OpenClaw.Server

open OpenClaw.Runtime

/-! ## The machine -/

/-- `redisPersistence`, with the handlers on their way to `onMutation`. -/
structure PersistRuntime where
  store : V2Store
  redis : V2Redis
  /-- The handlers between their change and `onMutation`. -/
  handlers : ℕ
  timer : Bool
  /-- The calls of `persistWithTimeout` that wait for `persistMu`. -/
  waiting : ℕ
  /-- The one that has it, with its snapshot. -/
  persisting : Option (Option V2Store)
  /-- The last transaction was not executed. -/
  failed : Bool

/-- A server that starts. -/
def bootPersist (redis : V2Redis) (now : ℤ) (iter : IterOrder) : PersistRuntime where
  store := hydrateV2FromRedis redis now iter
  redis := redis
  handlers := 0
  timer := false
  waiting := 0
  persisting := none
  failed := false

/-- The handler of this operation calls `onMutation` when it succeeds. -/
def V2Operation.mutates : V2Operation → Bool
  | .prune => false
  | .createChallenge _ => false
  | .login _ => true
  | .authenticate _ => false
  | .announcePresence _ _ => true
  | .heartbeatPresence _ _ => true
  | .createPairSession _ _ => true
  | .deletePairSession _ _ => true
  | .claimPair _ _ => true
  | .approveBinding _ _ => true

/-- A call that `onMutation` does not follow. -/
def Silent (store : V2Store) (call : Env × V2Operation) : Prop :=
  call.2.mutates = false ∨ (perform call.1 store call.2).2 ≠ none

instance (store : V2Store) (call : Env × V2Operation) : Decidable (Silent store call) :=
  inferInstanceAs (Decidable (_ ∨ _))

inductive PersistEvent
  | perform (env : Env) (operation : V2Operation)
  | onMutation
  /-- `SchedulePersist` by something else. -/
  | schedulePersist
  | timerFires
  | flush
  /-- A persist gets `persistMu`. -/
  | lock
  | takeSnapshot
  | exec (now : ℤ) (written : Bool)
  /-- The server dies and starts again. -/
  | restart (now : ℤ) (iter : IterOrder)

def persistStep (runtime : PersistRuntime) : PersistEvent → PersistRuntime
  | .perform env operation =>
      { runtime with
        store := (perform env runtime.store operation).1
        handlers :=
          if Silent runtime.store (env, operation) then runtime.handlers
          else runtime.handlers + 1 }
  | .onMutation =>
      if runtime.handlers = 0 then runtime
      else { runtime with handlers := runtime.handlers - 1, timer := true }
  | .schedulePersist => { runtime with timer := true }
  | .timerFires =>
      if runtime.timer then { runtime with timer := false, waiting := runtime.waiting + 1 }
      else runtime
  | .flush => { runtime with timer := false, waiting := runtime.waiting + 1 }
  | .lock =>
      if runtime.waiting = 0 ∨ runtime.persisting.isSome then runtime
      else { runtime with waiting := runtime.waiting - 1, persisting := some none }
  | .takeSnapshot =>
      match runtime.persisting with
      | some none => { runtime with persisting := some (some runtime.store) }
      | _ => runtime
  | .exec now written =>
      match runtime.persisting with
      | some (some snapshot) =>
          { runtime with
            redis := if written then persistV2 snapshot now else runtime.redis
            persisting := none
            failed := !written }
      | _ => runtime
  | .restart now iter => bootPersist runtime.redis now iter

/-- No handler is on its way to `onMutation`, no timer runs and nothing persists. -/
def PersistRuntime.AtRest (runtime : PersistRuntime) : Prop :=
  runtime.handlers = 0 ∧ runtime.timer = false ∧ runtime.waiting = 0 ∧ runtime.persisting = none

/-! ## What Redis has -/

/-- The store came from this one by calls that `onMutation` does not follow. -/
def Quietly (base store : V2Store) : Prop :=
  ∃ calls : List (Env × V2Operation),
    Steps.Along (fun store call => (perform call.1 store call.2).1) Silent base calls ∧
      Steps.run (fun store call => (perform call.1 store call.2).1) base calls = store

/-- Redis has what was persisted of such a store, or it is what the store was read from. -/
def Settled (redis : V2Redis) (store : V2Store) : Prop :=
  ∃ base, Quietly base store ∧ ((∃ now, redis = persistV2 base now) ∨
    ∃ now iter, base = hydrateV2FromRedis redis now iter)

section Operations

variable {env : Env} {store base : V2Store} {operation : V2Operation}

theorem Quietly.refl (store : V2Store) : Quietly store store := ⟨[], trivial, rfl⟩

theorem Quietly.concat (hquietly : Quietly base store) (hsilent : Silent store (env, operation)) :
    Quietly base (perform env store operation).1 := by
  obtain ⟨calls, halong, hrun⟩ := hquietly
  refine ⟨calls ++ [(env, operation)], ?_, ?_⟩
  · rw [Steps.along_concat, hrun]
    exact ⟨halong, hsilent⟩
  · rw [Steps.run_concat, hrun]

theorem Settled.concat {redis : V2Redis} (hsettled : Settled redis store)
    (hsilent : Silent store (env, operation)) : Settled redis (perform env store operation).1 := by
  obtain ⟨base, hquietly, hread⟩ := hsettled
  exact ⟨base, hquietly.concat hsilent, hread⟩

/-! ## The bindings -/

theorem bindings_claimBy_of_error {session : V2PairSession} {mobile : V2Mobile}
    {error : ServerError} (hrefused : errorOf (claimBy env store session mobile).2 = some error) :
    (claimBy env store session mobile).1.bindings = store.bindings := by
  unfold claimBy at hrefused ⊢
  split
  · rfl
  next binding hbinding =>
    rw [hbinding] at hrefused
    cases hrefused

theorem bindings_claimPairLocked_of_error {principal : V2Principal}
    {claimToken mobileName : String} {error : ServerError}
    (hrefused : errorOf (claimPairLocked env store principal claimToken mobileName).2 =
      some error) :
    (claimPairLocked env store principal claimToken mobileName).1.bindings = store.bindings := by
  unfold claimPairLocked at hrefused ⊢
  split
  · rfl
  next pairSessionId session hfound =>
    rw [hfound] at hrefused
    dsimp only at hrefused
    split
    · rfl
    next hlive =>
      rw [if_neg hlive] at hrefused
      split
      · rfl
      next hclaimable =>
        rw [hclaimable] at hrefused
        dsimp only at hrefused
        split
        · rfl
        next mobile hmobile =>
          rw [hmobile] at hrefused
          -- The mobile may have its new name all the same.
          exact (bindings_claimBy_of_error hrefused).trans (bindings_renameMobile _ _ _)

theorem bindings_claimPair_of_error {principal : V2Principal} {req : V2PairClaimRequest}
    {error : ServerError} (hrefused : errorOf (claimPair env store principal req).2 = some error) :
    (claimPair env store principal req).1.bindings = store.bindings := by
  unfold claimPair at hrefused ⊢
  split
  · rfl
  next htype =>
    rw [if_neg htype] at hrefused
    split
    · rfl
    next claimToken htoken =>
      rw [htoken] at hrefused
      exact bindings_claimPairLocked_of_error hrefused

theorem bindings_approveBinding_of_error {principal : V2Principal} {bindingId : String} {now : ℤ}
    {error : ServerError}
    (hrefused : errorOf (approveBinding now store principal bindingId).2 = some error) :
    (approveBinding now store principal bindingId).1.bindings = store.bindings := by
  unfold approveBinding at hrefused ⊢
  split
  · rfl
  next htype =>
    rw [if_neg htype] at hrefused
    split
    · rfl
    next trimmed hid =>
      rw [hid] at hrefused
      have hkept := refused_approveBindingLocked hrefused
      rw [hkept]
      rfl

/-- Bindings change only where `onMutation` follows. -/
theorem bindings_perform_of_silent (hsilent : Silent store (env, operation)) :
    (perform env store operation).1.bindings = store.bindings := by
  obtain hquiet | hrefused := hsilent
  · apply bindings_perform
    · rintro principal req rfl
      cases hquiet
    · rintro principal bindingId rfl
      cases hquiet
  · obtain ⟨error, herror⟩ := Option.ne_none_iff_exists'.mp hrefused
    by_cases hclaim : ∃ principal req, operation = .claimPair principal req
    · obtain ⟨principal, req, rfl⟩ := hclaim
      dsimp only [perform, answer] at herror ⊢
      exact bindings_claimPair_of_error herror
    by_cases happrove : ∃ principal bindingId, operation = .approveBinding principal bindingId
    · obtain ⟨principal, bindingId, rfl⟩ := happrove
      dsimp only [perform, answer] at herror ⊢
      exact bindings_approveBinding_of_error herror
    · apply bindings_perform
      · exact fun principal req heq => hclaim ⟨principal, req, heq⟩
      · exact fun principal bindingId heq => happrove ⟨principal, bindingId, heq⟩

theorem Quietly.bindings (hquietly : Quietly base store) : store.bindings = base.bindings := by
  obtain ⟨calls, halong, rfl⟩ := hquietly
  have hstep : ∀ (store : V2Store) (call : Env × V2Operation), store.bindings = base.bindings →
      Silent store call → (perform call.1 store call.2).1.bindings = base.bindings :=
    fun store call hsame hsilent => (bindings_perform_of_silent hsilent).trans hsame
  exact Steps.run_preserves hstep rfl halong

theorem Settled.bindings {redis : V2Redis} (hsettled : Settled redis store) :
    redis.bindings = store.bindings := by
  obtain ⟨base, hquietly, ⟨now, rfl⟩ | ⟨now, iter, rfl⟩⟩ := hsettled
  · exact hquietly.bindings.symm
  · exact hquietly.bindings.symm

end Operations

/-! ## Every state -/

/-- A persist is to come that has no snapshot yet. -/
def PersistRuntime.Due (runtime : PersistRuntime) : Prop :=
  0 < runtime.handlers ∨ runtime.timer = true ∨ 0 < runtime.waiting

/-- What is to be persisted is on its way, or there. -/
def PersistRuntime.Covered (runtime : PersistRuntime) : Prop :=
  runtime.Due ∨
    (runtime.persisting = none → runtime.failed = true ∨ Settled runtime.redis runtime.store) ∧
      ∀ snapshot, runtime.persisting = some (some snapshot) → Quietly snapshot runtime.store

section Runs

variable {runtime : PersistRuntime}

theorem covered_boot (redis : V2Redis) (now : ℤ) (iter : IterOrder) :
    (bootPersist redis now iter).Covered :=
  Or.inr ⟨fun _ => Or.inr ⟨_, .refl _, Or.inr ⟨now, iter, rfl⟩⟩, nofun⟩

theorem covered_perform (hcovered : runtime.Covered) (env : Env) (operation : V2Operation) :
    (persistStep runtime (.perform env operation)).Covered := by
  by_cases hsilent : Silent runtime.store (env, operation)
  · have hhandlers : (persistStep runtime (.perform env operation)).handlers =
        runtime.handlers := if_pos hsilent
    obtain hdue | ⟨hsettled, hsnapshot⟩ := hcovered
    · refine Or.inl ?_
      unfold PersistRuntime.Due
      rw [hhandlers]
      exact hdue
    · refine Or.inr ⟨fun hidle => ?_, fun snapshot htaken => ?_⟩
      · exact (hsettled hidle).imp_right fun hbefore => hbefore.concat hsilent
      · exact (hsnapshot snapshot htaken).concat hsilent
  · refine Or.inl (Or.inl ?_)
    show 0 < if Silent runtime.store (env, operation) then runtime.handlers
      else runtime.handlers + 1
    rw [if_neg hsilent]
    exact Nat.succ_pos _

theorem covered_lock (hcovered : runtime.Covered) : (persistStep runtime .lock).Covered := by
  show (if runtime.waiting = 0 ∨ runtime.persisting.isSome then runtime
    else { runtime with waiting := runtime.waiting - 1, persisting := some none }).Covered
  split
  · exact hcovered
  · -- Its snapshot is still to be taken.
    exact Or.inr ⟨nofun, nofun⟩

theorem covered_takeSnapshot (hcovered : runtime.Covered) :
    (persistStep runtime .takeSnapshot).Covered := by
  unfold persistStep
  dsimp only
  split
  · refine Or.inr ⟨nofun, fun snapshot htaken => ?_⟩
    cases htaken
    exact .refl _
  · exact hcovered

theorem covered_exec (hcovered : runtime.Covered) (now : ℤ) (written : Bool) :
    (persistStep runtime (.exec now written)).Covered := by
  unfold persistStep
  dsimp only
  split
  next snapshot htaken =>
    obtain hdue | ⟨-, hsnapshot⟩ := hcovered
    · exact Or.inl hdue
    · refine Or.inr ⟨fun _ => ?_, nofun⟩
      cases written with
      | false => exact Or.inl rfl
      | true => exact Or.inr ⟨snapshot, hsnapshot snapshot htaken, Or.inl ⟨now, rfl⟩⟩
  · exact hcovered

theorem covered_persistStep (hcovered : runtime.Covered) (event : PersistEvent) :
    (persistStep runtime event).Covered := by
  cases event with
  | perform env operation => exact covered_perform hcovered env operation
  | onMutation =>
      show (if runtime.handlers = 0 then runtime
        else { runtime with handlers := runtime.handlers - 1, timer := true }).Covered
      split
      · exact hcovered
      · exact Or.inl (Or.inr (Or.inl rfl))
  | schedulePersist => exact Or.inl (Or.inr (Or.inl rfl))
  | timerFires =>
      show (if runtime.timer then
        { runtime with timer := false, waiting := runtime.waiting + 1 } else runtime).Covered
      split
      · exact Or.inl (Or.inr (Or.inr (Nat.succ_pos _)))
      · exact hcovered
  | flush => exact Or.inl (Or.inr (Or.inr (Nat.succ_pos _)))
  | lock => exact covered_lock hcovered
  | takeSnapshot => exact covered_takeSnapshot hcovered
  | exec now written => exact covered_exec hcovered now written
  | restart now iter => exact covered_boot runtime.redis now iter

/-- **At rest Redis is up to date**, unless its last transaction failed: in whatever order
handlers, timer, persists and restarts have run, it has what was persisted of a store from which
the one in memory came by calls that change no binding, and all the bindings.  So a crash loses
none of them then. -/
theorem persisted_at_rest {redis : V2Redis} {now : ℤ} {iter : IterOrder}
    {events : List PersistEvent}
    (hrest : (Steps.run persistStep (bootPersist redis now iter) events).AtRest)
    (hwritten : (Steps.run persistStep (bootPersist redis now iter) events).failed = false) :
    let runtime := Steps.run persistStep (bootPersist redis now iter) events
    Settled runtime.redis runtime.store ∧
      ∀ restartedAt restartIter,
        (persistStep runtime (.restart restartedAt restartIter)).store.bindings =
          runtime.store.bindings := by
  intro runtime
  have hstep : ∀ (before : PersistRuntime) event, before.Covered →
      (persistStep before event).Covered :=
    fun _ event hbefore => covered_persistStep hbefore event
  have hcovered : runtime.Covered :=
    Steps.run_preserves_of_step hstep events (covered_boot redis now iter)
  have hsettled : Settled runtime.redis runtime.store := by
    obtain hdue | ⟨hidle, -⟩ := hcovered
    · obtain ⟨hhandlers, htimer, hwaiting, -⟩ := hrest
      obtain hlate | hrunning | hqueued := hdue
      · exact absurd hhandlers hlate.ne'
      · exact absurd (htimer.symm.trans hrunning) Bool.false_ne_true
      · exact absurd hwaiting hqueued.ne'
    · obtain hfailed | hsettled := hidle hrest.2.2.2
      · exact absurd (hwritten.symm.trans hfailed) Bool.false_ne_true
      · exact hsettled
  exact ⟨hsettled, fun _ _ => hsettled.bindings⟩

end Runs

/-- A desktop logs in, and the server comes to rest. -/
def persistedLogin : List PersistEvent :=
  [.perform (unpairedEnv 1 "1") (.createChallenge ⟨"desktop", "d", firstKey⟩),
    .perform (unpairedEnv 1 "1") (.login ⟨"desktop", "d", firstKey, "v2chl_1", anySignature⟩),
    .onMutation, .timerFires, .lock, .takeSnapshot, .exec 2 true]

theorem persisted_at_rest_login :
    let runtime := Steps.run persistStep (bootPersist ⟨∅, ∅, ∅, ∅, ∅, ∅⟩ 1 .stored) persistedLogin
    (runtime.redis.desktops.get "d").isSome = true ∧ Settled runtime.redis runtime.store := by
  intro runtime
  have hlogin : runtime.handlers = 0 ∧ (runtime.redis.desktops.get "d").isSome = true := by
    decide +kernel
  exact ⟨hlogin.2, (persisted_at_rest ⟨hlogin.1, rfl, rfl, rfl⟩ rfl).1⟩

end OpenClaw.Server
