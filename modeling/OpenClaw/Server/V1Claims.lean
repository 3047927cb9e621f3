import OpenClaw.Lib.Steps
import OpenClaw.Server.V1Changes

/-!
# How often a pair session can be claimed

A pair session is spent when its time has passed or when a binding that was obtained from
it has been revoked.  The store looks at the status of a session before it looks at its
time, and lets the user who holds a claimed session claim it again; a session that is
claimed stays claimed, so this user can always come back, and gets a new token, and a new
binding if the old one was revoked.  Everybody else is refused.
-/

namespace OpenClaw.Server.V1

open OpenClaw.Runtime

/-! ## A claim -/

/-- What a claim is about: the session that its credential names, and who claims it. -/
structure Attempt where
  sessionId : String
  session : PairSession
  claimant : Except ServerError (String × String)

/-- The claim with this credential, if an index has it. -/
def attemptWith (machine : Machine) (store : Store) (index : OrderedMap String String)
    (credential userId mobileId : String) : Option Attempt :=
  if unicodeTrim credential = "" then none
  else
    (findSession store index (unicodeTrim credential)).map fun found =>
      ⟨found.1, found.2, claimant machine userId mobileId⟩

def Operation.attempt (machine : Machine) (store : Store) : Operation → Option Attempt
  | .claimByToken req =>
      attemptWith machine store store.pairTokenIndex req.pairToken req.userId req.mobileId
  | .claimByCode req =>
      attemptWith machine store store.pairCodeIndex req.pairCode req.userId req.mobileId
  | _ => none

/-- The claim is made by the user who holds the session. -/
def Attempt.ByHolder (attempt : Attempt) : Prop :=
  attempt.session.status = .claimed ∧
    ∃ mobileId, attempt.claimant = .ok (claimedUserId attempt.session, mobileId)

/-- An answer that gives nothing: no success, no token of a mobile, no binding. -/
def Refused (store : Store) (result : Store × Except ServerError Outcome) : Prop :=
  (∃ error, result.2 = .error error) ∧ result.1.bindings = store.bindings ∧
    result.1.mobileTokenIndex = store.mobileTokenIndex

section Attempts

variable {machine : Machine} {store : Store} {operation : Operation} {attempt : Attempt}

/-- What the claim does, once its session is found. -/
def Attempt.perform (machine : Machine) (store : Store) (attempt : Attempt) :
    Store × Except ServerError (PairSession × Binding) :=
  match attempt.claimant with
  | .error error => (store, .error error)
  | .ok (userId, mobileId) =>
      claimFound machine store attempt.sessionId attempt.session userId mobileId

theorem claimWith_eq {index : OrderedMap String String} {field credential userId mobileId : String}
    (hattempt : attemptWith machine store index credential userId mobileId = some attempt) :
    claimWith machine store index field credential userId mobileId =
      attempt.perform machine store := by
  unfold attemptWith at hattempt
  split at hattempt
  · cases hattempt
  · next hcredential =>
      obtain ⟨found, hfind, rfl⟩ := Option.map_eq_some_iff.mp hattempt
      unfold claimWith Attempt.perform
      rw [trimRequired_of_ne hcredential]
      dsimp only
      rcases claimant machine userId mobileId with error | ids
      · rfl
      · simp only [hfind]

theorem perform_of_attempt (hattempt : operation.attempt machine store = some attempt) :
    perform machine store operation =
      answer (fun claim => .claimed claim.1 claim.2) (attempt.perform machine store) := by
  cases operation with
  | claimByToken req =>
      exact congrArg (answer fun claim => .claimed claim.1 claim.2) (claimWith_eq hattempt)
  | claimByCode req =>
      exact congrArg (answer fun claim => .claimed claim.1 claim.2) (claimWith_eq hattempt)
  | _ => cases hattempt

theorem get_of_attempt (hattempt : operation.attempt machine store = some attempt) :
    store.pairSessions.get attempt.sessionId = some attempt.session := by
  have hwith : ∀ {index : OrderedMap String String} {credential userId mobileId : String},
      attemptWith machine store index credential userId mobileId = some attempt →
        store.pairSessions.get attempt.sessionId = some attempt.session := by
    intro index credential userId mobileId hsome
    unfold attemptWith at hsome
    split at hsome
    · cases hsome
    · obtain ⟨found, hfind, rfl⟩ := Option.map_eq_some_iff.mp hsome
      exact get_of_findSession hfind
  cases operation with
  | claimByToken req => exact hwith hattempt
  | claimByCode req => exact hwith hattempt
  | _ => cases hattempt

theorem not_refused_of_ok {next : Store} {outcome : Outcome} :
    ¬Refused store (next, .ok outcome) := by
  intro hrefused
  obtain ⟨error, herror⟩ := hrefused.1
  cases herror

/-- A session that is not open any more is refused to everybody but its holder. -/
theorem refused_iff
    (hclosed : attempt.session.status = .pending → attempt.session.expiresAt < machine.now) :
    Refused store (answer (fun claim => .claimed claim.1 claim.2)
      (attempt.perform machine store)) ↔ ¬attempt.ByHolder := by
  obtain ⟨sessionId, session, who⟩ := attempt
  unfold Attempt.perform Attempt.ByHolder
  cases who with
  | error error =>
      refine iff_of_true ⟨⟨error, rfl⟩, rfl, rfl⟩ ?_
      rintro ⟨-, mobileId, hclaimant⟩
      cases hclaimant
  | ok ids =>
      obtain ⟨userId, mobileId⟩ := ids
      dsimp only at hclosed ⊢
      unfold claimFound
      cases hstatus : session.status with
      | pending =>
          dsimp only
          rw [if_pos (hclosed hstatus)]
          refine iff_of_true ⟨⟨_, rfl⟩, rfl, rfl⟩ ?_
          rintro ⟨hclaimed, -⟩
          cases hclaimed
      | expired =>
          refine iff_of_true ⟨⟨_, rfl⟩, rfl, rfl⟩ ?_
          rintro ⟨hclaimed, -⟩
          cases hclaimed
      | claimed =>
          dsimp only
          by_cases hholder : claimedUserId session = userId
          · rw [if_pos hholder]
            refine iff_of_false not_refused_of_ok (not_not.mpr ⟨rfl, mobileId, ?_⟩)
            rw [hholder]
          · rw [if_neg hholder]
            refine iff_of_true ⟨⟨_, rfl⟩, rfl, rfl⟩ ?_
            rintro ⟨-, other, hclaimant⟩
            exact hholder (Prod.mk.inj (Except.ok.inj hclaimant)).1.symm

end Attempts

/-! ## Runs -/

/-- One operation of the store, with what it read from the machine. -/
structure Step where
  machine : Machine
  operation : Operation

/-- The store, the bindings that the session of each id gave, and the sessions of which a
binding was revoked. -/
structure PairingRun where
  store : Store
  obtained : List (String × String)
  revokedFrom : List String

def newRun : PairingRun := ⟨newStore, [], []⟩

def PairingRun.answer (run : PairingRun) (step : Step) : Store × Except ServerError Outcome :=
  perform step.machine run.store step.operation

/-- A new session has given nothing yet, whatever was known of its id. -/
def PairingRun.step (run : PairingRun) (step : Step) : PairingRun :=
  match (run.answer step).2 with
  | .ok (.opened session) =>
      { store := (run.answer step).1
        obtained := run.obtained.filter fun entry => entry.1 ≠ session.pairSessionId
        revokedFrom := run.revokedFrom.filter fun sessionId => sessionId ≠ session.pairSessionId }
  | .ok (.claimed session binding) =>
      { store := (run.answer step).1
        obtained := (session.pairSessionId, binding.bindingId) :: run.obtained
        revokedFrom := run.revokedFrom }
  | .ok (.revoked binding) =>
      { store := (run.answer step).1
        obtained := run.obtained
        revokedFrom := run.revokedFrom ++
          (run.obtained.filter fun entry => entry.2 = binding.bindingId).map Prod.fst }
  | _ => { run with store := (run.answer step).1 }

/-- The time of the session has passed, or a binding that it gave was revoked. -/
def PairingRun.Spent (run : PairingRun) (now : ℤ) (attempt : Attempt) : Prop :=
  attempt.session.expiresAt < now ∨ attempt.sessionId ∈ run.revokedFrom

/-- A claim of a spent session is refused. -/
def PairingRun.RefusesSpent (run : PairingRun) (step : Step) : Prop :=
  ∀ attempt, step.operation.attempt step.machine run.store = some attempt →
    run.Spent step.machine.now attempt → Refused run.store (run.answer step)

/-- No claim of a spent session comes from the user who holds it. -/
def PairingRun.NotByHolder (run : PairingRun) (step : Step) : Prop :=
  ∀ attempt, step.operation.attempt step.machine run.store = some attempt →
    run.Spent step.machine.now attempt → ¬attempt.ByHolder

/-- The session of this id gave a binding. -/
def PairingRun.Used (run : PairingRun) (sessionId : String) : Prop :=
  sessionId ∈ run.revokedFrom ∨ ∃ bindingId, (sessionId, bindingId) ∈ run.obtained

/-- Sessions stand under their ids, and those that gave a binding are claimed. -/
structure PairingRun.Sound (run : PairingRun) : Prop where
  keyed : run.store.pairSessions.KeyedBy PairSession.pairSessionId
  claimed : ∀ sessionId session, run.Used sessionId →
    run.store.pairSessions.get sessionId = some session → session.status = .claimed

section Runs

variable {run : PairingRun} {step : Step}

theorem changes_answer : Changes step.machine run.store (run.answer step).1 (run.answer step).2 :=
  changes_perform step.operation

theorem store_step : (run.step step).store = (run.answer step).1 := by
  unfold PairingRun.step
  split
  · rfl
  · rfl
  · rfl
  · rfl

/-- A session gave a binding before the step, or it gives one in it. -/
theorem used_step {sessionId : String} (hused : (run.step step).Used sessionId) :
    (run.Used sessionId ∧ ∀ session, (run.answer step).2 = .ok (.opened session) →
      session.pairSessionId ≠ sessionId) ∨
      ∃ session binding, (run.answer step).2 = .ok (.claimed session binding) ∧
        session.pairSessionId = sessionId := by
  unfold PairingRun.step at hused
  split at hused
  · next session houtcome =>
      refine Or.inl ⟨?_, ?_⟩
      · rcases hused with hrevoked | ⟨bindingId, hobtained⟩
        · exact Or.inl (List.mem_of_mem_filter hrevoked)
        · exact Or.inr ⟨bindingId, List.mem_of_mem_filter hobtained⟩
      · intro opened hopened
        rw [houtcome] at hopened
        obtain rfl := Outcome.opened.inj (Except.ok.inj hopened)
        rcases hused with hrevoked | ⟨bindingId, hobtained⟩
        · exact (of_decide_eq_true (List.mem_filter.mp hrevoked).2).symm
        · exact (of_decide_eq_true (List.mem_filter.mp hobtained).2).symm
  · next session binding houtcome =>
      rcases hused with hrevoked | ⟨bindingId, hobtained⟩
      · exact Or.inl ⟨Or.inl hrevoked, fun _ hopened => by rw [houtcome] at hopened; cases hopened⟩
      · rcases List.mem_cons.mp hobtained with heq | hold
        · exact Or.inr ⟨session, binding, houtcome, (Prod.mk.inj heq).1.symm⟩
        · exact Or.inl ⟨Or.inr ⟨bindingId, hold⟩,
            fun _ hopened => by rw [houtcome] at hopened; cases hopened⟩
  · next binding houtcome =>
      refine Or.inl ⟨?_, fun _ hopened => by rw [houtcome] at hopened; cases hopened⟩
      rcases hused with hrevoked | hobtained
      · rcases List.mem_append.mp hrevoked with hold | hnew
        · exact Or.inl hold
        · obtain ⟨⟨_, bindingId⟩, hmem, rfl⟩ := List.mem_map.mp hnew
          exact Or.inr ⟨bindingId, List.mem_of_mem_filter hmem⟩
      · exact Or.inr hobtained
  · next hother _ _ => exact Or.inl ⟨hused, fun session hopened => absurd hopened (hother session)⟩

theorem sound_step (hsound : run.Sound) : (run.step step).Sound := by
  constructor
  · intro sessionId session hget
    rw [store_step] at hget
    cases pairSession_of_changes changes_answer hget with
    | kept hold => exact hsound.keyed _ _ hold
    | opened houtcome hid => exact hid
    | claimed binding houtcome hid => exact hid
    | expired old hold hpending hid => exact hid.trans (hsound.keyed _ _ hold)
  · intro sessionId session hused hget
    rw [store_step] at hget
    have hchanges := @changes_answer run step
    rcases used_step hused with ⟨hbefore, hnew⟩ | ⟨given, binding, houtcome, rfl⟩
    · cases pairSession_of_changes hchanges hget with
      | kept hold => exact hsound.claimed _ _ hbefore hold
      | opened houtcome hid => exact absurd hid (hnew _ houtcome)
      | claimed binding houtcome hid =>
          rw [houtcome] at hchanges
          exact (get_of_claimed hchanges).2.1
      | expired old hold hpending hid =>
          have hclaimed := hsound.claimed _ _ hbefore hold
          rw [hpending] at hclaimed
          cases hclaimed
    · rw [houtcome] at hchanges
      obtain ⟨hgiven, hclaimed, -⟩ := get_of_claimed hchanges
      rw [hgiven] at hget
      obtain rfl := Option.some.inj hget
      exact hclaimed

theorem sound_newRun : newRun.Sound where
  keyed := OrderedMap.KeyedBy.empty
  claimed := fun _ _ _ hget => nomatch hget

/-- One claim of a spent session. -/
theorem refusesSpent_iff (hsound : run.Sound) : run.RefusesSpent step ↔ run.NotByHolder step := by
  refine forall_congr' fun attempt => forall_congr' fun hattempt => forall_congr' fun hspent => ?_
  rw [PairingRun.answer, perform_of_attempt hattempt, refused_iff]
  intro hpending
  -- A session that gave a binding is not pending, so it is its time that has passed.
  refine hspent.resolve_right fun hrevoked => ?_
  have hclaimed := hsound.claimed _ _ (Or.inl hrevoked) (get_of_attempt hattempt)
  rw [hpending] at hclaimed
  cases hclaimed

/-- **A spent session gives nothing** in a run exactly if the user who holds it never
claims it again. -/
theorem spent_refused_iff {steps : List Step} :
    Steps.Along PairingRun.step PairingRun.RefusesSpent newRun steps ↔
      Steps.Along PairingRun.step PairingRun.NotByHolder newRun steps := by
  apply Steps.along_iff_along
  · exact fun run step hsound => sound_step hsound
  · exact fun run step hsound => refusesSpent_iff hsound
  · exact sound_newRun

end Runs

/-! ## The holder comes back -/

/-- A machine that draws the same text for every id. -/
def drawing (text : String) (now : ℤ) : Machine :=
  ⟨now, fun _ => .ok text, [.ok "482913"], IterOrder.stored⟩

/-- A desktop opens a session, a user claims it, and the binding is revoked. -/
def revokedPairing : List Step :=
  [⟨drawing "1" 1, .registerDevice ⟨"desk", "macos", "1.0", none⟩ ""⟩,
    ⟨drawing "1" 2, .createPairSession "desk" 180⟩,
    ⟨drawing "1" 3, .claimByToken ⟨"pt_1", "ann", "phone"⟩⟩,
    ⟨drawing "1" 4, .revokePair ⟨"bind_1", "", ""⟩⟩]

/-- An hour later, the same user with the same token. -/
def claimAgain : Step := ⟨drawing "2" 3600000, .claimByToken ⟨"pt_1", "ann", "phone"⟩⟩

theorem claimed_again :
    ¬Steps.Along PairingRun.step PairingRun.RefusesSpent newRun
      (revokedPairing ++ [claimAgain]) := by
  intro halong
  have hrefuses := (Steps.along_concat.mp halong).2
  have hrun : ((claimAgain.operation.attempt claimAgain.machine
        (Steps.run PairingRun.step newRun revokedPairing).store).any fun attempt =>
          attempt.sessionId ∈
            (Steps.run PairingRun.step newRun revokedPairing).revokedFrom) = true ∧
      ((Steps.run PairingRun.step newRun revokedPairing).answer claimAgain).2.isOk = true := by
    decide +kernel
  obtain ⟨attempt, hattempt, hmem⟩ := (Option.any_eq_true _ _).mp hrun.1
  obtain ⟨error, herror⟩ := (hrefuses attempt hattempt (Or.inr (of_decide_eq_true hmem))).1
  have hok := hrun.2
  rw [herror] at hok
  cases hok

end OpenClaw.Server.V1
