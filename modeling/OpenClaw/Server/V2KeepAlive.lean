import OpenClaw.Lib.Steps
import OpenClaw.Server.V2Sessions

/-!
# How long a session lives

Every use of a session moves its end a quarter of an hour further.  The record of its
entity has a clock of its own, which only logins, presence and a claim with a name set:
when it runs out the prune forgets the record, and the session with it, however recently
the session was used.
-/

namespace OpenClaw.Server

open OpenClaw.Runtime

/-! ## The sessions after an operation -/

/-- One operation of the server, with what it read from the machine. -/
structure V2Step where
  env : Env
  operation : V2Operation

/-- The step presents this token. -/
def V2Step.uses (token : String) (step : V2Step) : Bool :=
  match step.operation with
  | .authenticate presented => unicodeTrim presented = token
  | _ => false

section Operations

variable {env : Env} {store : V2Store} {token : String}

theorem authSessions_recordLogin {payload : LoginPayload} {next : V2Store} {now : ℤ}
    (hrecord : recordLogin now store payload = .ok next) :
    next.authSessions = store.authSessions := by
  unfold recordLogin at hrecord
  split at hrecord
  · unfold recordDesktop at hrecord
    split at hrecord
    · obtain rfl := Except.ok.inj hrecord
      rfl
    · split at hrecord
      · cases hrecord
      · obtain rfl := Except.ok.inj hrecord
        rfl
  · unfold recordMobile at hrecord
    split at hrecord
    · obtain rfl := Except.ok.inj hrecord
      rfl
    · split at hrecord
      · cases hrecord
      · obtain rfl := Except.ok.inj hrecord
        rfl

/-- A login writes no session but the one that it answers with. -/
theorem get_authSessions_loginLocked (payload : LoginPayload)
    (hfresh : env.makeId "v2tok" ≠ some token) :
    (loginLocked env store payload).1.authSessions.get token = store.authSessions.get token := by
  unfold loginLocked
  split
  · rfl
  split
  · rfl
  split
  · rfl
  next next hbind =>
  cases hanswers : payload.answers env _ with
  | error error =>
      rw [hanswers] at hbind
      cases hbind
  | ok answered =>
      rw [hanswers] at hbind
      rw [← authSessions_recordLogin hbind]
      unfold openAuthSession
      split
      · next htoken =>
          rw [htoken] at hfresh
          exact OrderedMap.get_set_of_ne _ _ fun heq => hfresh (congrArg some heq.symm)
      · rfl

theorem authSessions_principalOf (now : ℤ) (session : V2AuthSession) :
    (principalOf now store session).1.authSessions = store.authSessions := by
  unfold principalOf
  split
  · split
    · rfl
    · rfl
  · split
    · rfl
    · rfl

theorem get_authSessions_authenticateLocked {presented : String} {now : ℤ}
    (hother : presented ≠ token) :
    (authenticateLocked now store presented).1.authSessions.get token =
      store.authSessions.get token := by
  unfold authenticateLocked
  split
  · rfl
  split
  · exact OrderedMap.get_erase_of_ne _ hother.symm
  · dsimp only
    rw [authSessions_principalOf]
    exact OrderedMap.get_set_of_ne _ _ hother.symm

theorem authSessions_updateRecord (principal : V2Principal) (desktopOf : V2Desktop → V2Desktop)
    (mobileOf : V2Mobile → V2Mobile) (now : ℤ) :
    (updateRecord now store principal desktopOf mobileOf).1.authSessions =
      (pruneExpiredLocked store now).authSessions := by
  unfold updateRecord
  dsimp only
  split
  · split
    · rfl
    · rfl
  · split
    · rfl
    · rfl

theorem authSessions_openPairSession (desktop : V2Desktop) (ttl : ℤ) :
    (openPairSession env store desktop ttl).1.authSessions = store.authSessions := by
  unfold openPairSession
  split
  · rfl
  · rfl

theorem authSessions_deletePairSessionLocked (principal : V2Principal) (pairSessionId : String) :
    (deletePairSessionLocked store principal pairSessionId).1.authSessions =
      store.authSessions := by
  unfold deletePairSessionLocked
  split
  · rfl
  split
  · rfl
  split
  · rfl
  · rfl

theorem authSessions_claimBy (session : V2PairSession) (mobile : V2Mobile) :
    (claimBy env store session mobile).1.authSessions = store.authSessions := by
  unfold claimBy
  split
  · rfl
  · rfl

theorem authSessions_claimPairLocked (principal : V2Principal) (claimToken mobileName : String) :
    (claimPairLocked env store principal claimToken mobileName).1.authSessions =
      store.authSessions := by
  unfold claimPairLocked
  split
  · rfl
  split
  · rfl
  split
  · rfl
  split
  · rfl
  · dsimp only
    rw [authSessions_claimBy]
    unfold renameMobile
    split
    · rfl
    · rfl

theorem authSessions_approveBindingLocked (principal : V2Principal) (bindingId : String)
    (now : ℤ) : (approveBindingLocked now store principal bindingId).1.authSessions =
      store.authSessions := by
  unfold approveBindingLocked
  split
  · rfl
  split
  · rfl
  split
  · rfl
  · dsimp only
    unfold approvePairSession
    split
    · rfl
    · rfl

/-- What does not present the token leaves its session as the prune left it. -/
theorem get_authSessions_perform {operation : V2Operation}
    (hadmissible : operation.admissible env) (hfresh : env.makeId "v2tok" ≠ some token)
    (hother : V2Step.uses token ⟨env, operation⟩ = false) :
    (perform env store operation).1.authSessions.get token =
      (pruneExpiredLocked store env.now).authSessions.get token := by
  cases operation with
  | prune => rfl
  | createChallenge req =>
      obtain ⟨challenge, hread⟩ := hadmissible
      dsimp only [perform, answer, createChallenge]
      rw [hread]
  | login req =>
      obtain ⟨payload, hread⟩ := hadmissible
      dsimp only [perform, answer, login]
      rw [hread]
      exact get_authSessions_loginLocked payload hfresh
  | authenticate presented =>
      dsimp only [perform, answer, authenticate]
      rw [if_neg hadmissible]
      exact get_authSessions_authenticateLocked (of_decide_eq_false hother)
  | announcePresence principal req =>
      exact congrArg (OrderedMap.get · token) (authSessions_updateRecord principal _ _ _)
  | heartbeatPresence principal req =>
      exact congrArg (OrderedMap.get · token) (authSessions_updateRecord principal _ _ _)
  | createPairSession principal ttlSeconds =>
      have htype : principal.session.entityType = .desktop := hadmissible
      dsimp only [perform, answer, createPairSession]
      rw [if_neg (not_not.mpr htype)]
      split
      · rfl
      · rw [authSessions_openPairSession]
  | deletePairSession principal pairSessionId =>
      obtain ⟨htype, hid⟩ := hadmissible
      dsimp only [perform, answer, deletePairSession]
      rw [if_neg (not_not.mpr htype), trimRequired_of_ne hid]
      dsimp only
      rw [authSessions_deletePairSessionLocked]
  | claimPair principal req =>
      obtain ⟨htype, htoken⟩ := hadmissible
      dsimp only [perform, answer, claimPair]
      rw [if_neg (not_not.mpr htype), trimRequired_of_ne htoken]
      dsimp only
      rw [authSessions_claimPairLocked]
  | approveBinding principal bindingId =>
      obtain ⟨htype, hid⟩ := hadmissible
      dsimp only [perform, answer, approveBinding]
      rw [if_neg (not_not.mpr htype), trimRequired_of_ne hid]
      dsimp only
      rw [authSessions_approveBindingLocked]

/-! ## A use -/

/-- A use succeeds when its session outlives the prune. -/
theorem authenticateLocked_of_get {session : V2AuthSession} {now : ℤ}
    (hget : (pruneExpiredLocked store now).authSessions.get token = some session) :
    errorOf (authenticateLocked now (pruneExpiredLocked store now) token).2 = none ∧
      (authenticateLocked now (pruneExpiredLocked store now) token).1.authSessions.get token =
        some { session with updatedAt := now, expiresAt := now + v2AuthSessionTtl } := by
  obtain ⟨-, hlive, -⟩ := get_authSessions_prune.mp hget
  unfold authenticateLocked
  rw [hget]
  dsimp only
  rw [if_neg (not_le.mpr hlive)]
  refine ⟨rfl, ?_⟩
  dsimp only
  rw [authSessions_principalOf]
  exact OrderedMap.get_set_self _ _ _

theorem authenticateLocked_of_none {now : ℤ} (hget : store.authSessions.get token = none) :
    authenticateLocked now store token =
      (store, .error ⟨"UNAUTHORIZED", "invalid bearer token"⟩) := by
  unfold authenticateLocked
  rw [hget]

end Operations

/-! ## Runs of a client -/

/-- The server, and when the client of one token last used it. -/
structure SessionRun where
  store : V2Store
  lastUse : ℤ

def SessionRun.step (token : String) (run : SessionRun) (step : V2Step) : SessionRun where
  store := (perform step.env run.store step.operation).1
  lastUse := if step.uses token then step.env.now else run.lastUse

/-- The step comes less than a session's time after the last use. -/
def SessionRun.InTime (run : SessionRun) (step : V2Step) : Prop :=
  step.env.now < run.lastUse + v2AuthSessionTtl

/-- If the step presents the token, it is answered. -/
def SessionRun.Answered (token : String) (run : SessionRun) (step : V2Step) : Prop :=
  step.uses token = true → (perform step.env run.store step.operation).2 = none

/-- If the step prunes, the record of the entity was active in the time before it. -/
def SessionRun.Active (entityType : EntityType) (entityId : String) (run : SessionRun)
    (step : V2Step) : Prop :=
  step.operation.admissible step.env → ¬run.store.forgets step.env.now entityType entityId

/-- The token opens a session of the entity, for as long as the last use gave it. -/
def SessionRun.SignedIn (token : String) (entityType : EntityType) (entityId : String)
    (run : SessionRun) : Prop :=
  ∃ session, run.store.authSessions.get token = some session ∧
    session.entityType = entityType ∧ session.entityId = entityId ∧
      session.expiresAt = run.lastUse + v2AuthSessionTtl

section Runs

variable {token : String} {entityType : EntityType} {entityId : String} {run : SessionRun}
  {step : V2Step}

theorem admissible_of_uses (htoken : token ≠ "") (huses : step.uses token = true) :
    ∃ presented, step.operation = .authenticate presented ∧ unicodeTrim presented = token ∧
      step.operation.admissible step.env := by
  unfold V2Step.uses at huses
  split at huses
  · next presented hoperation =>
      have htrim : unicodeTrim presented = token := of_decide_eq_true huses
      refine ⟨presented, hoperation, htrim, ?_⟩
      rw [hoperation]
      show unicodeTrim presented ≠ ""
      rw [htrim]
      exact htoken
  · cases huses

/-- What a use does to the pruned store. -/
theorem perform_of_uses (htoken : token ≠ "") (huses : step.uses token = true) :
    perform step.env run.store step.operation = answer (authenticateLocked step.env.now
      (pruneExpiredLocked run.store step.env.now) token) := by
  obtain ⟨presented, hoperation, htrim, -⟩ := admissible_of_uses htoken huses
  rw [hoperation, perform, authenticate, htrim, if_neg htoken]

theorem SessionRun.SignedIn.get_prune (hsigned : run.SignedIn token entityType entityId)
    (hintime : run.InTime step) (hkept : ¬run.store.forgets step.env.now entityType entityId) :
    ∃ session, run.store.authSessions.get token = some session ∧
      session.entityType = entityType ∧ session.entityId = entityId ∧
        session.expiresAt = run.lastUse + v2AuthSessionTtl ∧
          (pruneExpiredLocked run.store step.env.now).authSessions.get token = some session := by
  obtain ⟨session, hget, rfl, rfl, hexpires⟩ := hsigned
  refine ⟨session, hget, rfl, rfl, hexpires, get_authSessions_prune.mpr ⟨hget, ?_, hkept⟩⟩
  rw [hexpires]
  exact hintime

/-- As long as its record is active a client stays signed in, and is answered. -/
theorem signedIn_step (htoken : token ≠ "") (hsigned : run.SignedIn token entityType entityId)
    (hintime : run.InTime step) (hfresh : step.env.makeId "v2tok" ≠ some token)
    (hactive : run.Active entityType entityId step) :
    (run.step token step).SignedIn token entityType entityId ∧ run.Answered token step := by
  cases huses : step.uses token with
  | true =>
      obtain ⟨-, -, -, hadmissible⟩ := admissible_of_uses htoken huses
      obtain ⟨session, -, htype, hid, -, hpruned⟩ := hsigned.get_prune hintime (hactive hadmissible)
      obtain ⟨hanswer, hget⟩ := authenticateLocked_of_get hpruned
      have hperform := @perform_of_uses _ run step htoken huses
      constructor
      · refine ⟨{ session with
            updatedAt := step.env.now, expiresAt := step.env.now + v2AuthSessionTtl },
          ?_, htype, hid, ?_⟩
        · rw [SessionRun.step, hperform]
          exact hget
        · rw [SessionRun.step, if_pos huses]
      · intro _
        rw [hperform]
        exact hanswer
  | false =>
      constructor
      · by_cases hadmissible : step.operation.admissible step.env
        · obtain ⟨session, -, htype, hid, hexpires, hpruned⟩ :=
            hsigned.get_prune hintime (hactive hadmissible)
          refine ⟨session, ?_, htype, hid, ?_⟩
          · rw [SessionRun.step, get_authSessions_perform hadmissible hfresh huses]
            exact hpruned
          · rw [SessionRun.step, huses]
            exact hexpires
        · obtain ⟨session, hget, htype, hid, hexpires⟩ := hsigned
          refine ⟨session, ?_, htype, hid, ?_⟩
          · rw [SessionRun.step, perform_of_not_admissible hadmissible]
            exact hget
          · rw [SessionRun.step, huses]
            exact hexpires
      · intro hanswered
        rw [huses] at hanswered
        cases hanswered

/-- Once the prune has dropped the session the client is refused. -/
theorem signedOut_of_prune (htoken : token ≠ "") (hfresh : step.env.makeId "v2tok" ≠ some token)
    (hadmissible : step.operation.admissible step.env)
    (hpruned : (pruneExpiredLocked run.store step.env.now).authSessions.get token = none) :
    (run.step token step).store.authSessions.get token = none ∧
      (step.uses token = true → ¬run.Answered token step) := by
  cases huses : step.uses token with
  | true =>
      have hperform := @perform_of_uses _ run step htoken huses
      rw [authenticateLocked_of_none hpruned] at hperform
      constructor
      · rw [SessionRun.step, hperform]
        exact hpruned
      · intro _ hanswered
        have herror := hanswered huses
        rw [hperform] at herror
        cases herror
  | false =>
      refine ⟨?_, fun huse => nomatch huse⟩
      rw [SessionRun.step, get_authSessions_perform hadmissible hfresh huses]
      exact hpruned

/-- No session comes back. -/
theorem signedOut_step (htoken : token ≠ "") (hfresh : step.env.makeId "v2tok" ≠ some token)
    (hnone : run.store.authSessions.get token = none) :
    (run.step token step).store.authSessions.get token = none ∧
      (step.uses token = true → ¬run.Answered token step) := by
  by_cases hadmissible : step.operation.admissible step.env
  · apply signedOut_of_prune htoken hfresh hadmissible
    rw [pruneExpiredLocked, OrderedMap.get_filter, hnone]
    rfl
  · constructor
    · rw [SessionRun.step, perform_of_not_admissible hadmissible]
      exact hnone
    · intro huses
      obtain ⟨-, -, -, hchecked⟩ := admissible_of_uses htoken huses
      exact absurd hchecked hadmissible

/-- A prune that forgets the record takes the session with it. -/
theorem signedOut_of_forgets (htoken : token ≠ "")
    (hsigned : run.SignedIn token entityType entityId)
    (hfresh : step.env.makeId "v2tok" ≠ some token)
    (hnot : ¬run.Active entityType entityId step) :
    (run.step token step).store.authSessions.get token = none ∧
      (step.uses token = true → ¬run.Answered token step) := by
  obtain ⟨session, hget, rfl, rfl, -⟩ := hsigned
  obtain ⟨hadmissible, hforgets⟩ := Classical.not_imp.mp hnot
  apply signedOut_of_prune htoken hfresh hadmissible
  rw [Option.eq_none_iff_forall_ne_some]
  intro other hother
  obtain ⟨hsame, -, hkept⟩ := get_authSessions_prune.mp hother
  rw [hget] at hsame
  obtain rfl := Option.some.inj hsame
  exact hkept (not_not.mp hforgets)

variable {steps : List V2Step} {last : V2Step}

/-- Every use is answered while the record is active at every prune. -/
theorem answered_of_active (htoken : token ≠ "")
    (hsigned : run.SignedIn token entityType entityId)
    (hfresh : ∀ step ∈ steps, step.env.makeId "v2tok" ≠ some token)
    (hintime : Steps.Along (SessionRun.step token) SessionRun.InTime run steps)
    (hactive : Steps.Along (SessionRun.step token) (SessionRun.Active entityType entityId) run
      steps) :
    Steps.Along (SessionRun.step token) (SessionRun.Answered token) run steps := by
  induction steps generalizing run with
  | nil => trivial
  | cons step rest ih =>
      rw [List.forall_mem_cons] at hfresh
      obtain ⟨hsigned, hanswered⟩ :=
        signedIn_step htoken hsigned hintime.1 hfresh.1 hactive.1
      exact ⟨hanswered, ih hsigned hfresh.2 hintime.2 hactive.2⟩

/-- A client without a session is refused at its next use. -/
theorem not_answered_of_signedOut (htoken : token ≠ "") (hlast : last.uses token = true)
    (hfresh : ∀ step ∈ steps ++ [last], step.env.makeId "v2tok" ≠ some token)
    (hnone : run.store.authSessions.get token = none) :
    ¬Steps.Along (SessionRun.step token) (SessionRun.Answered token) run (steps ++ [last]) := by
  induction steps generalizing run with
  | nil =>
      intro hanswered
      obtain ⟨-, hrefused⟩ := signedOut_step htoken (hfresh last (by simp)) hnone
      exact hrefused hlast hanswered.1
  | cons step rest ih =>
      intro hanswered
      rw [List.cons_append, List.forall_mem_cons] at hfresh
      obtain ⟨hgone, -⟩ := signedOut_step htoken hfresh.1 hnone
      exact ih hfresh.2 hgone hanswered.2

theorem active_of_answered (htoken : token ≠ "") (hlast : last.uses token = true)
    (hsigned : run.SignedIn token entityType entityId)
    (hfresh : ∀ step ∈ steps ++ [last], step.env.makeId "v2tok" ≠ some token)
    (hintime : Steps.Along (SessionRun.step token) SessionRun.InTime run (steps ++ [last]))
    (hanswered : Steps.Along (SessionRun.step token) (SessionRun.Answered token) run
      (steps ++ [last])) :
    Steps.Along (SessionRun.step token) (SessionRun.Active entityType entityId) run
      (steps ++ [last]) := by
  induction steps generalizing run with
  | nil =>
      refine ⟨?_, trivial⟩
      by_contra hnot
      obtain ⟨-, hrefused⟩ := signedOut_of_forgets htoken hsigned (hfresh last (by simp)) hnot
      exact hrefused hlast hanswered.1
  | cons step rest ih =>
      rw [List.cons_append, List.forall_mem_cons] at hfresh
      have hactive : run.Active entityType entityId step := by
        by_contra hnot
        obtain ⟨hgone, -⟩ := signedOut_of_forgets htoken hsigned hfresh.1 hnot
        exact not_answered_of_signedOut htoken hlast hfresh.2 hgone hanswered.2
      obtain ⟨hnext, -⟩ := signedIn_step htoken hsigned hintime.1 hfresh.1 hactive
      exact ⟨hactive, ih hnext hfresh.2 hintime.2 hanswered.2⟩

end Runs

/-! ## From a login on -/

section Login

variable {env : Env} {store : V2Store} {session : V2AuthSession}

theorem signedIn_openAuthSession {payload : LoginPayload}
    (hopened : (openAuthSession env store payload).2 = .ok session) :
    env.makeId "v2tok" = some session.token ∧
      SessionRun.SignedIn session.token session.entityType session.entityId
        ⟨(openAuthSession env store payload).1, env.now⟩ := by
  unfold openAuthSession at hopened ⊢
  split at hopened
  · next htoken =>
      obtain rfl := Except.ok.inj hopened
      exact ⟨htoken, _, OrderedMap.get_set_self _ _ _, rfl, rfl, rfl⟩
  · cases hopened

theorem signedIn_login {req : V2LoginRequest} (hlogin : (login env store req).2 = .ok session) :
    env.makeId "v2tok" = some session.token ∧
      SessionRun.SignedIn session.token session.entityType session.entityId
        ⟨(login env store req).1, env.now⟩ := by
  unfold login at hlogin ⊢
  split at hlogin
  · cases hlogin
  unfold loginLocked at hlogin ⊢
  split at hlogin
  · cases hlogin
  split at hlogin
  · cases hlogin
  next hlive =>
  rw [if_neg hlive]
  split at hlogin
  · cases hlogin
  · exact signedIn_openAuthSession hlogin

theorem makeId_ne_empty {kind : String} {text : String} (hmake : env.makeId kind = some text) :
    text ≠ "" := by
  obtain ⟨random, -, rfl⟩ := Option.map_eq_some_iff.mp hmake
  intro hempty
  have hlength := congrArg String.length hempty
  simp at hlength

/-- **A client stays signed in exactly as long as its record is active.**  In a run that
begins with a login and ends with a use of the token, with every use, and what comes
before it, less than a session's time after the last one, the uses are all answered if
and only if at every prune the record of the entity was written in the time before. -/
theorem uses_answered_iff {req : V2LoginRequest} (hlogin : (login env store req).2 = .ok session)
    {steps : List V2Step} {last : V2Step} (hlast : last.uses session.token = true)
    (hfresh : ∀ step ∈ steps ++ [last], step.env.makeId "v2tok" ≠ some session.token)
    (hintime : Steps.Along (SessionRun.step session.token) SessionRun.InTime
      ⟨(login env store req).1, env.now⟩ (steps ++ [last])) :
    Steps.Along (SessionRun.step session.token) (SessionRun.Answered session.token)
        ⟨(login env store req).1, env.now⟩ (steps ++ [last]) ↔
      Steps.Along (SessionRun.step session.token)
        (SessionRun.Active session.entityType session.entityId)
        ⟨(login env store req).1, env.now⟩ (steps ++ [last]) := by
  obtain ⟨hmake, hsigned⟩ := signedIn_login hlogin
  have htoken := makeId_ne_empty hmake
  exact ⟨active_of_answered htoken hlast hsigned hfresh hintime,
    answered_of_active htoken hsigned hfresh hintime⟩

end Login

/-! ### A client that only sends -/

def loginOfD : V2LoginRequest := ⟨"desktop", "d", firstKey, "v2chl_1", anySignature⟩

/-- The desktop uses its token at a time in minutes. -/
def useAt (minutes : ℤ) : V2Step :=
  ⟨trustingEnv (minutes * 60000) "2", .authenticate "v2tok_1"⟩

/-- The run of the desktop from its login on. -/
def loginRun : SessionRun := ⟨(login (trustingEnv 1 "1") challenged loginOfD).1, 1⟩

instance {run : SessionRun} {step : V2Step} : Decidable (run.InTime step) :=
  inferInstanceAs (Decidable (_ < _))

instance {store : V2Store} {now : ℤ} {entityType : EntityType} {entityId : String} :
    Decidable (store.forgets now entityType entityId) :=
  decidable_of_iff _ mem_removedEntityKeys_iff

def sessionOfD : V2AuthSession :=
  ⟨"v2sess_1", "v2tok_1", .desktop, "d", firstKey, 1, 1, 900001⟩

theorem login_loginOfD : (login (trustingEnv 1 "1") challenged loginOfD).2 = .ok sessionOfD := by
  rfl

def heartbeatAt (minutes : ℤ) : V2Step :=
  ⟨trustingEnv (minutes * 60000) "2", .heartbeatPresence ⟨sessionOfD, none, none⟩ ⟨"", "", none⟩⟩

/-- After a use at ten minutes. -/
def usedRun : SessionRun := loginRun.step "v2tok_1" (useAt 10)

/-- After a heartbeat one minute later. -/
def beatenRun : SessionRun := usedRun.step "v2tok_1" (heartbeatAt 11)

/-- The record outlives the first use and the heartbeat, but not twenty minutes. -/
theorem records_loginRun :
    ¬loginRun.store.forgets 600000 .desktop "d" ∧ ¬usedRun.store.forgets 660000 .desktop "d" ∧
      ¬beatenRun.store.forgets 1200000 .desktop "d" ∧
      (perform (useAt 20).env usedRun.store (useAt 20).operation).2.isSome = true := by
  decide +kernel

/-- With a heartbeat between them, two uses twenty minutes after the login are answered. -/
theorem uses_answered_with_heartbeat :
    Steps.Along (SessionRun.step "v2tok_1") (SessionRun.Answered "v2tok_1") loginRun
      ([useAt 10, heartbeatAt 11] ++ [useAt 20]) := by
  obtain ⟨hfirst, hsecond, hthird, -⟩ := records_loginRun
  apply (uses_answered_iff login_loginOfD _ _ _).mpr
  · exact ⟨fun _ => hfirst, fun _ => hsecond, fun _ => hthird, trivial⟩
  · decide +kernel
  · decide +kernel
  · exact ⟨by decide +kernel, by decide +kernel, by decide +kernel, trivial⟩

/-- Two uses, ten minutes apart and ten minutes after the login: the second is refused. -/
theorem use_refused :
    (login (trustingEnv 1 "1") challenged loginOfD).2 = .ok sessionOfD ∧
      (∀ step ∈ [useAt 10, useAt 20], step.uses "v2tok_1" = true ∧
        step.env.makeId "v2tok" ≠ some "v2tok_1") ∧
      Steps.Along (SessionRun.step "v2tok_1") SessionRun.InTime loginRun [useAt 10, useAt 20] ∧
      ¬Steps.Along (SessionRun.step "v2tok_1") (SessionRun.Answered "v2tok_1") loginRun
        [useAt 10, useAt 20] := by
  refine ⟨login_loginOfD, ?_, ?_, ?_⟩
  · decide +kernel
  · exact ⟨by decide +kernel, by decide +kernel, trivial⟩
  · intro hanswered
    obtain ⟨-, -, -, hrefused⟩ := records_loginRun
    have hlast := hanswered.2.1 (by decide +kernel)
    unfold usedRun at hrefused
    rw [hlast] at hrefused
    cases hrefused

end OpenClaw.Server
