import OpenClaw.Lib.Origins
import OpenClaw.Server.V2KeepAlive
import OpenClaw.Server.V2Persistence

/-!
# A challenge and the session it leads to

A client asks for a challenge, signs its text and logs in with the signature.  A login
takes the challenge out of the store as soon as the record of the client has its key, so
every session goes back to a challenge that was issued to the same client and the same
key, and no two sessions to the same one.  Nothing but that login, a restart and the end
of its five minutes takes a challenge away.
-/

namespace OpenClaw.Server

open OpenClaw.Runtime

/-! ## What is issued, spent and opened -/

/-- The event answers with this challenge. -/
def V2Store.Issues (challenge : V2AuthChallenge) (store : V2Store) : V2StoreEvent → Prop
  | .perform env (.createChallenge req) => (createChallenge env store req).2 = .ok challenge
  | _ => False

/-- The payload answers the challenge, and the record of its entity has its key, or there
is none. -/
structure LoginPayload.Spends (payload : LoginPayload) (env : Env) (store : V2Store)
    (challenge : V2AuthChallenge) : Prop where
  named : payload.challengeId = challenge.challengeId
  answers : payload.answers env challenge = .ok ()
  recorded : ∃ next, recordLogin env.now (pruneExpiredLocked store env.now) payload = .ok next

/-- The event is a login that takes this challenge. -/
def V2Store.Spends (challenge : V2AuthChallenge) (store : V2Store) : V2StoreEvent → Prop
  | .perform env (.login req) => ∃ payload, req.read = .ok payload ∧
      payload.Spends env store challenge
  | _ => False

/-- Both come from one login; only the uses of the session were at other times. -/
structure V2AuthSession.SameLogin (old new : V2AuthSession) : Prop where
  sessionId : new.sessionId = old.sessionId
  token : new.token = old.token
  entityType : new.entityType = old.entityType
  entityId : new.entityId = old.entityId
  publicKey : new.publicKey = old.publicKey
  createdAt : new.createdAt = old.createdAt

theorem V2AuthSession.SameLogin.refl (session : V2AuthSession) : session.SameLogin session where
  sessionId := rfl
  token := rfl
  entityType := rfl
  entityId := rfl
  publicKey := rfl
  createdAt := rfl

theorem V2AuthSession.SameLogin.trans {first second third : V2AuthSession}
    (hfirst : first.SameLogin second) (hsecond : second.SameLogin third) :
    first.SameLogin third where
  sessionId := hsecond.sessionId.trans hfirst.sessionId
  token := hsecond.token.trans hfirst.token
  entityType := hsecond.entityType.trans hfirst.entityType
  entityId := hsecond.entityId.trans hfirst.entityId
  publicKey := hsecond.publicKey.trans hfirst.publicKey
  createdAt := hsecond.createdAt.trans hfirst.createdAt

/-- The event is a login that answers with this session. -/
def V2Store.Opens (session : V2AuthSession) (store : V2Store) : V2StoreEvent → Prop
  | .perform env (.login req) => (login env store req).2 = .ok session
  | _ => False

/-! ## A login in parts -/

section Login

variable {env : Env} {store : V2Store} {payload : LoginPayload} {session : V2AuthSession}

theorem get_challenges_prune {challengeId : String} {challenge : V2AuthChallenge} {now : ℤ} :
    (pruneExpiredLocked store now).challenges.get challengeId = some challenge ↔
      store.challenges.get challengeId = some challenge ∧ now < challenge.expiresAt := by
  rw [pruneExpiredLocked, OrderedMap.get_filter_eq_some_iff, decide_eq_true_eq]

theorem challenges_recordLogin {next : V2Store} {now : ℤ}
    (hrecord : recordLogin now store payload = .ok next) :
    next.challenges = store.challenges := by
  unfold recordLogin at hrecord
  split at hrecord
  · unfold recordDesktop at hrecord
    split at hrecord
    · obtain rfl := Except.ok.inj hrecord
      rfl
    · split at hrecord
      · cases hrecord
      · obtain rfl := Except.ok.inj hrecord
        rfl
  · unfold recordMobile at hrecord
    split at hrecord
    · obtain rfl := Except.ok.inj hrecord
      rfl
    · split at hrecord
      · cases hrecord
      · obtain rfl := Except.ok.inj hrecord
        rfl

theorem challenges_openAuthSession :
    (openAuthSession env store payload).1.challenges = store.challenges := by
  unfold openAuthSession
  split
  · rfl
  · rfl

/-- What a login does to the pruned store: it is refused, or it spends the challenge that
it names. -/
inductive LoginOutcome (env : Env) (store : V2Store) (payload : LoginPayload) :
    V2Store × Except ServerError V2AuthSession → Prop
  | refused (error : ServerError)
      (hrefused : ∀ challenge next, store.challenges.get payload.challengeId = some challenge →
        payload.answers env challenge = .ok () → recordLogin env.now store payload ≠ .ok next) :
      LoginOutcome env store payload (store, .error error)
  | spent {challenge : V2AuthChallenge} {next : V2Store}
      (hget : store.challenges.get payload.challengeId = some challenge)
      (hlive : env.now < challenge.expiresAt) (hanswers : payload.answers env challenge = .ok ())
      (hrecord : recordLogin env.now store payload = .ok next) :
      LoginOutcome env store payload (openAuthSession env
        { next with challenges := next.challenges.erase payload.challengeId } payload)

/-- The prune has taken the expired challenges away already. -/
theorem loginOutcome_loginLocked :
    LoginOutcome env (pruneExpiredLocked store env.now) payload
      (loginLocked env (pruneExpiredLocked store env.now) payload) := by
  unfold loginLocked
  split
  · next hnone =>
      refine .refused _ fun challenge next hget => ?_
      rw [hnone] at hget
      cases hget
  next challenge hget =>
  have hlive := (get_challenges_prune.mp hget).2
  rw [if_neg (not_le.mpr hlive)]
  cases hanswers : payload.answers env challenge with
  | error error =>
      refine .refused _ fun other next hother hok => ?_
      rw [hget] at hother
      obtain rfl := Option.some.inj hother
      rw [hanswers] at hok
      cases hok
  | ok answered =>
      dsimp only [Except.bind]
      split
      · next error herror =>
          refine .refused _ fun other next _ _ hnext => ?_
          rw [herror] at hnext
          cases hnext
      · next next hrecord => exact .spent hget hlive hanswers hrecord

/-- A login that answers with a session has the type, the id and the key of its payload. -/
theorem session_of_openAuthSession (hopened : (openAuthSession env store payload).2 = .ok session) :
    session.entityType = payload.entityType ∧ session.entityId = payload.entityId ∧
      session.publicKey = payload.normalizedKey ∧ session.createdAt = env.now := by
  unfold openAuthSession at hopened
  split at hopened
  · obtain rfl := Except.ok.inj hopened
    exact ⟨rfl, rfl, rfl, rfl⟩
  · cases hopened

/-- The session that a login leaves under a token was there, or is its answer. -/
theorem get_authSessions_openAuthSession {token : String}
    (hget : (openAuthSession env store payload).1.authSessions.get token = some session) :
    store.authSessions.get token = some session ∨
      session.token = token ∧ (openAuthSession env store payload).2 = .ok session := by
  unfold openAuthSession at hget ⊢
  split at hget
  · rw [OrderedMap.get_set] at hget
    split at hget
    · next htoken =>
        obtain rfl := Option.some.inj hget
        exact .inr ⟨htoken.symm, rfl⟩
    · exact .inl hget
  · exact .inl hget

end Login

/-! ## What the other operations leave -/

section Frames

variable {env : Env} {store : V2Store}

theorem challenges_authenticateLocked (now : ℤ) (token : String) :
    (authenticateLocked now store token).1.challenges = store.challenges := by
  unfold authenticateLocked principalOf
  split
  · rfl
  split
  · rfl
  · dsimp only
    split
    · split
      · rfl
      · rfl
    · split
      · rfl
      · rfl

theorem challenges_updateRecord (now : ℤ) (principal : V2Principal)
    (desktopOf : V2Desktop → V2Desktop) (mobileOf : V2Mobile → V2Mobile) :
    (updateRecord now store principal desktopOf mobileOf).1.challenges =
      (pruneExpiredLocked store now).challenges := by
  unfold updateRecord
  dsimp only
  split
  · split
    · rfl
    · rfl
  · split
    · rfl
    · rfl

/-- The clients of the store: pairing changes neither their challenges, nor their
sessions, nor the records of the desktops. -/
structure V2Store.SameClients (store next : V2Store) : Prop where
  challenges : next.challenges = store.challenges
  authSessions : next.authSessions = store.authSessions
  desktops : next.desktops = store.desktops

theorem V2Store.SameClients.refl (store : V2Store) : store.SameClients store := ⟨rfl, rfl, rfl⟩

theorem sameClients_openPairSession (desktop : V2Desktop) (ttl : ℤ) :
    store.SameClients (openPairSession env store desktop ttl).1 := by
  unfold openPairSession
  split
  · exact ⟨rfl, rfl, rfl⟩
  · exact .refl store

theorem sameClients_deletePairSessionLocked (principal : V2Principal) (pairSessionId : String) :
    store.SameClients (deletePairSessionLocked store principal pairSessionId).1 := by
  unfold deletePairSessionLocked
  split
  · exact .refl store
  split
  · exact .refl store
  split
  · exact .refl store
  · exact ⟨rfl, rfl, rfl⟩

theorem sameClients_claimPairLocked (principal : V2Principal) (claimToken mobileName : String) :
    store.SameClients (claimPairLocked env store principal claimToken mobileName).1 := by
  unfold claimPairLocked
  split
  · exact .refl store
  split
  · exact ⟨rfl, rfl, rfl⟩
  split
  · exact .refl store
  split
  · exact .refl store
  · unfold claimBy renameMobile
    dsimp only
    split
    · split
      · exact .refl store
      · exact ⟨rfl, rfl, rfl⟩
    · split
      · exact ⟨rfl, rfl, rfl⟩
      · exact ⟨rfl, rfl, rfl⟩

theorem sameClients_approveBindingLocked (principal : V2Principal) (bindingId : String)
    (now : ℤ) : store.SameClients (approveBindingLocked now store principal bindingId).1 := by
  unfold approveBindingLocked approvePairSession
  split
  · exact .refl store
  split
  · exact .refl store
  split
  · exact .refl store
  · dsimp only
    split
    · exact ⟨rfl, rfl, rfl⟩
    · exact ⟨rfl, rfl, rfl⟩

/-- The operation is one of the four of pairing. -/
def V2Operation.pairs : V2Operation → Bool
  | .createPairSession _ _ => true
  | .deletePairSession _ _ => true
  | .claimPair _ _ => true
  | .approveBinding _ _ => true
  | _ => false

/-- Such an operation leaves the clients of the pruned store. -/
theorem sameClients_perform {operation : V2Operation} (hadmissible : operation.admissible env)
    (hpairs : operation.pairs = true) :
    (pruneExpiredLocked store env.now).SameClients (perform env store operation).1 := by
  cases operation with
  | createPairSession principal ttlSeconds =>
      have htype : principal.session.entityType = .desktop := hadmissible
      dsimp only [perform, answer, createPairSession]
      rw [if_neg (not_not.mpr htype)]
      split
      · exact .refl _
      · exact sameClients_openPairSession _ _
  | deletePairSession principal pairSessionId =>
      obtain ⟨htype, hid⟩ := hadmissible
      dsimp only [perform, answer, deletePairSession]
      rw [if_neg (not_not.mpr htype), trimRequired_of_ne hid]
      exact sameClients_deletePairSessionLocked principal _
  | claimPair principal req =>
      obtain ⟨htype, htoken⟩ := hadmissible
      dsimp only [perform, answer, claimPair]
      rw [if_neg (not_not.mpr htype), trimRequired_of_ne htoken]
      exact sameClients_claimPairLocked principal _ _
  | approveBinding principal bindingId =>
      obtain ⟨htype, hid⟩ := hadmissible
      dsimp only [perform, answer, approveBinding]
      rw [if_neg (not_not.mpr htype), trimRequired_of_ne hid]
      exact sameClients_approveBindingLocked principal _ _
  | _ => cases hpairs

/-- The operation is neither a request for a challenge nor a login. -/
def V2Operation.sparesLogins : V2Operation → Bool
  | .createChallenge _ => false
  | .login _ => false
  | _ => true

/-- Those are the only two operations that change the challenges after the prune. -/
theorem challenges_perform {operation : V2Operation} (hadmissible : operation.admissible env)
    (hspares : operation.sparesLogins = true) :
    (perform env store operation).1.challenges =
      (pruneExpiredLocked store env.now).challenges := by
  cases operation with
  | prune => rfl
  | createChallenge req => cases hspares
  | login req => cases hspares
  | authenticate presented =>
      dsimp only [perform, answer, authenticate]
      rw [if_neg hadmissible]
      exact challenges_authenticateLocked _ _
  | announcePresence principal req => exact challenges_updateRecord _ principal _ _
  | heartbeatPresence principal req => exact challenges_updateRecord _ principal _ _
  | createPairSession principal ttlSeconds => exact (sameClients_perform hadmissible rfl).challenges
  | deletePairSession principal pairSessionId =>
      exact (sameClients_perform hadmissible rfl).challenges
  | claimPair principal req => exact (sameClients_perform hadmissible rfl).challenges
  | approveBinding principal bindingId => exact (sameClients_perform hadmissible rfl).challenges

/-- A session that an operation leaves was there before, from the same login, unless the
operation is a login that answers with it. -/
theorem sameLogin_perform {operation : V2Operation} {token : String} {session : V2AuthSession}
    (hget : (perform env store operation).1.authSessions.get token = some session) :
    (session.token = token ∧ store.Opens session (.perform env operation)) ∨
      ∃ old, store.authSessions.get token = some old ∧ old.SameLogin session := by
  have hpruned : ∀ {held}, (pruneExpiredLocked store env.now).authSessions.get token = some held →
      ∃ old, store.authSessions.get token = some old ∧ old.SameLogin held :=
    fun hheld => ⟨_, (get_authSessions_prune.mp hheld).1, .refl _⟩
  by_cases hadmissible : operation.admissible env
  swap
  · rw [perform_of_not_admissible hadmissible] at hget
    exact .inr ⟨session, hget, .refl _⟩
  cases operation with
  | prune => exact .inr (hpruned hget)
  | createChallenge req =>
      obtain ⟨challenge, hread⟩ := hadmissible
      dsimp only [perform, answer, createChallenge] at hget
      rw [hread] at hget
      exact .inr (hpruned hget)
  | login req =>
      obtain ⟨payload, hread⟩ := hadmissible
      have hlogin : login env store req =
          loginLocked env (pruneExpiredLocked store env.now) payload := by
        unfold login
        rw [hread]
      dsimp only [perform, answer] at hget
      dsimp only [V2Store.Opens]
      rw [hlogin] at hget ⊢
      have houtcome := @loginOutcome_loginLocked env store payload
      generalize loginLocked env (pruneExpiredLocked store env.now) payload = outcome
        at hget houtcome
      cases houtcome with
      | refused error hrefused => exact .inr (hpruned hget)
      | spent hchallenge hlive hanswers hrecord =>
          obtain hkept | hopened := get_authSessions_openAuthSession hget
          · rw [authSessions_recordLogin hrecord] at hkept
            exact .inr (hpruned hkept)
          · exact .inl hopened
  | authenticate presented =>
      dsimp only [perform, answer, authenticate] at hget
      rw [if_neg hadmissible] at hget
      by_cases hother : unicodeTrim presented = token
      swap
      · rw [get_authSessions_authenticateLocked hother] at hget
        exact .inr (hpruned hget)
      rw [hother] at hget
      cases hheld : (pruneExpiredLocked store env.now).authSessions.get token with
      | none =>
          rw [authenticateLocked_of_none hheld] at hget
          exact .inr (hpruned hget)
      | some held =>
          rw [(authenticateLocked_of_get hheld).2] at hget
          obtain rfl := Option.some.inj hget
          obtain ⟨old, hold, hsame⟩ := hpruned hheld
          exact .inr ⟨old, hold, hsame.trans ⟨rfl, rfl, rfl, rfl, rfl, rfl⟩⟩
  | announcePresence principal req =>
      rw [show (perform env store (.announcePresence principal req)).1.authSessions = _ from
        authSessions_updateRecord principal _ _ _] at hget
      exact .inr (hpruned hget)
  | heartbeatPresence principal req =>
      rw [show (perform env store (.heartbeatPresence principal req)).1.authSessions = _ from
        authSessions_updateRecord principal _ _ _] at hget
      exact .inr (hpruned hget)
  | createPairSession principal ttlSeconds =>
      rw [(sameClients_perform hadmissible rfl).authSessions] at hget
      exact .inr (hpruned hget)
  | deletePairSession principal pairSessionId =>
      rw [(sameClients_perform hadmissible rfl).authSessions] at hget
      exact .inr (hpruned hget)
  | claimPair principal req =>
      rw [(sameClients_perform hadmissible rfl).authSessions] at hget
      exact .inr (hpruned hget)
  | approveBinding principal bindingId =>
      rw [(sameClients_perform hadmissible rfl).authSessions] at hget
      exact .inr (hpruned hget)

end Frames

/-! ## One step -/

/-- Neither time nor this event takes the challenge away: it is not spent, no other one is
issued under its id, and the server is not started again. -/
def V2Store.Leaves (challenge : V2AuthChallenge) (store : V2Store) : V2StoreEvent → Prop
  | .perform env operation =>
      (operation.admissible env → env.now < challenge.expiresAt) ∧
        ¬store.Spends challenge (.perform env operation) ∧
          ∀ drawn, store.Issues drawn (.perform env operation) →
            drawn.challengeId ≠ challenge.challengeId
  | .restart _ _ _ => False

/-- The challenges are kept under their ids. -/
def V2Store.ChallengesKeyed (store : V2Store) : Prop :=
  store.challenges.KeyedBy V2AuthChallenge.challengeId

section Step

variable {store : V2Store} {challenge : V2AuthChallenge}

theorem issues_iff {env : Env} {req : V2ChallengeRequest} :
    store.Issues challenge (.perform env (.createChallenge req)) ↔
      req.read env = .ok challenge := by
  show (createChallenge env store req).2 = .ok challenge ↔ req.read env = .ok challenge
  unfold createChallenge
  split
  · next hread => rw [hread]
  · next hread => rw [hread]

/-- The challenges after a login are those that the prune left, but for the one that was
spent. -/
theorem get_challenges_login {env : Env} {req : V2LoginRequest} {payload : LoginPayload}
    (hread : req.read = .ok payload) :
    (login env store req).1.challenges.get challenge.challengeId = some challenge ↔
      (pruneExpiredLocked store env.now).challenges.get challenge.challengeId = some challenge ∧
        ¬payload.Spends env store challenge := by
  unfold login
  rw [hread]
  have houtcome := @loginOutcome_loginLocked env store payload
  dsimp only
  generalize loginLocked env (pruneExpiredLocked store env.now) payload = outcome at houtcome
  cases houtcome with
  | refused error hrefused =>
      refine ⟨fun hget => ⟨hget, fun hspends => ?_⟩, fun hboth => hboth.1⟩
      obtain ⟨next, hnext⟩ := hspends.recorded
      rw [← hspends.named] at hget
      exact hrefused challenge next hget hspends.answers hnext
  | @spent spent next hget hlive hanswers hrecord =>
      rw [challenges_openAuthSession]
      dsimp only
      rw [challenges_recordLogin hrecord, OrderedMap.get_erase]
      split
      · next hnamed =>
          constructor
          · intro hnone
            cases hnone
          · rintro ⟨hkept, hunspent⟩
            rw [← hnamed, hkept] at hget
            obtain rfl := Option.some.inj hget
            exact absurd ⟨hnamed.symm, hanswers, next, hrecord⟩ hunspent
      · next hother =>
          constructor
          · exact fun hkept => ⟨hkept, fun hspends => hother hspends.named.symm⟩
          · exact fun hboth => hboth.1

/-- **One step of a challenge.**  A challenge is in the store after a step if the step
issued it, or if it was there and the step leaves it; and only then. -/
theorem get_challenges_step_iff {event : V2StoreEvent} :
    (store.step event).challenges.get challenge.challengeId = some challenge ↔
      store.Issues challenge event ∨
        store.challenges.get challenge.challengeId = some challenge ∧
          store.Leaves challenge event := by
  cases event with
  | restart persistedAt hydratedAt iter =>
      constructor
      · intro hend
        cases hend
      · rintro (hissues | ⟨-, hleaves⟩)
        · exact hissues.elim
        · exact hleaves.elim
  | perform env operation =>
      rw [step_perform]
      unfold V2Store.Leaves
      by_cases hadmissible : operation.admissible env
      swap
      · -- what is refused at once neither issues nor spends anything
        rw [perform_of_not_admissible hadmissible]
        have hissues : ∀ drawn, ¬store.Issues drawn (.perform env operation) := by
          intro drawn hdrawn
          cases operation with
          | createChallenge req => exact hadmissible ⟨drawn, issues_iff.mp hdrawn⟩
          | _ => exact hdrawn
        have hspends : ¬store.Spends challenge (.perform env operation) := by
          intro hspent
          cases operation with
          | login req =>
              obtain ⟨payload, hread, -⟩ := hspent
              exact hadmissible ⟨payload, hread⟩
          | _ => exact hspent
        simp [hadmissible, hissues, hspends]
      cases hspares : operation.sparesLogins with
      | true =>
          rw [challenges_perform hadmissible hspares, get_challenges_prune]
          have hissues : ∀ drawn, ¬store.Issues drawn (.perform env operation) := by
            intro drawn hdrawn
            cases operation with
            | createChallenge req => cases hspares
            | _ => exact hdrawn
          have hspends : ¬store.Spends challenge (.perform env operation) := by
            intro hspent
            cases operation with
            | login req => cases hspares
            | _ => exact hspent
          simp [hadmissible, hissues, hspends]
      | false =>
          cases operation with
          | createChallenge req =>
              obtain ⟨drawn, hread⟩ := hadmissible
              have hadmitted : (V2Operation.createChallenge req).admissible env := ⟨drawn, hread⟩
              have hspends : ¬store.Spends challenge (.perform env (.createChallenge req)) := id
              have hset : (perform env store (.createChallenge req)).1.challenges =
                  (pruneExpiredLocked store env.now).challenges.set drawn.challengeId drawn := by
                dsimp only [perform, answer, createChallenge]
                rw [hread]
              rw [hset, OrderedMap.get_set]
              simp only [issues_iff, hread, Except.ok.injEq, forall_eq', hspends, not_false_eq_true,
                true_and, hadmitted, forall_const]
              split
              · next hnamed => simp [hnamed]
              · next hother =>
                  rw [get_challenges_prune]
                  have hne : drawn ≠ challenge := fun heq => hother (heq ▸ rfl)
                  simp [hne, Ne.symm hother]
          | login req =>
              obtain ⟨payload, hread⟩ := hadmissible
              have hadmitted : (V2Operation.login req).admissible env := ⟨payload, hread⟩
              have hissues : ∀ drawn, ¬store.Issues drawn (.perform env (.login req)) :=
                fun drawn => id
              have hspends : store.Spends challenge (.perform env (.login req)) ↔
                  payload.Spends env store challenge := by
                show (∃ read, req.read = .ok read ∧ read.Spends env store challenge) ↔ _
                simp [hread]
              show (login env store req).1.challenges.get challenge.challengeId = some challenge ↔ _
              rw [get_challenges_login hread, get_challenges_prune]
              simp [hadmitted, hissues, hspends, and_assoc]
          | _ => cases hspares

theorem challengesKeyed_step (hkeyed : store.ChallengesKeyed) (event : V2StoreEvent) :
    (store.step event).ChallengesKeyed := by
  cases event with
  | restart persistedAt hydratedAt iter => exact OrderedMap.KeyedBy.empty
  | perform env operation =>
      have hpruned : (pruneExpiredLocked store env.now).ChallengesKeyed := hkeyed.filter _
      rw [step_perform]
      by_cases hadmissible : operation.admissible env
      swap
      · rw [perform_of_not_admissible hadmissible]
        exact hkeyed
      cases hspares : operation.sparesLogins with
      | true =>
          unfold V2Store.ChallengesKeyed
          rw [challenges_perform hadmissible hspares]
          exact hpruned
      | false =>
          cases operation with
          | createChallenge req =>
              obtain ⟨drawn, hread⟩ := hadmissible
              dsimp only [perform, answer, createChallenge]
              rw [hread]
              exact hpruned.set rfl
          | login req =>
              obtain ⟨payload, hread⟩ := hadmissible
              dsimp only [perform, answer, login]
              rw [hread]
              have houtcome := @loginOutcome_loginLocked env store payload
              dsimp only
              generalize loginLocked env (pruneExpiredLocked store env.now) payload = outcome
                at houtcome
              cases houtcome with
              | refused error hrefused => exact hpruned
              | spent hget hlive hanswers hrecord =>
                  unfold V2Store.ChallengesKeyed
                  rw [challenges_openAuthSession]
                  dsimp only
                  rw [challenges_recordLogin hrecord]
                  exact hpruned.erase _
          | _ => cases hspares

theorem sameLogin_step {event : V2StoreEvent} {token : String} {session : V2AuthSession}
    (hget : (store.step event).authSessions.get token = some session) :
    (session.token = token ∧ store.Opens session event) ∨
      ∃ old, store.authSessions.get token = some old ∧ old.SameLogin session := by
  cases event with
  | perform env operation => exact sameLogin_perform hget
  | restart persistedAt hydratedAt iter =>
      -- what comes back was filtered twice
      have hpersisted : (persistV2 store persistedAt).authSessions.get token = some session :=
        OrderedMap.get_of_get_filter hget
      have hkept : store.authSessions.get token = some session :=
        OrderedMap.get_of_get_filter hpersisted
      exact .inr ⟨session, hkept, .refl _⟩

end Step

/-! ## Runs -/

/-- The session is the one that the challenge was issued for, and the login that opened it
came in time with the text of the challenge signed by its key. -/
structure V2AuthSession.AnswersTo (session : V2AuthSession) (challenge : V2AuthChallenge)
    (env : Env) (req : V2LoginRequest) : Prop where
  entityType : session.entityType = challenge.entityType
  entityId : session.entityId = challenge.entityId
  publicKey : session.publicKey = challenge.publicKey
  inTime : env.now < challenge.createdAt + v2ChallengeTtl
  signed : ∃ key signature, normalizeEd25519PublicKey req.publicKey = .ok (session.publicKey, key) ∧
    normalizeEd25519Signature req.signature = .ok signature ∧
      env.verify key (buildV2LoginMessage challenge) signature = true

theorem expiresAt_of_issues {store : V2Store} {challenge : V2AuthChallenge} {event : V2StoreEvent}
    (hissues : store.Issues challenge event) :
    challenge.expiresAt = challenge.createdAt + v2ChallengeTtl := by
  cases event with
  | restart persistedAt hydratedAt iter => exact hissues.elim
  | perform env operation =>
      cases operation with
      | createChallenge req =>
          have hread := issues_iff.mp hissues
          unfold V2ChallengeRequest.read at hread
          simp only [bind_eq_ok_iff] at hread
          obtain ⟨_, _, _, _, _, _, _, _, _, _, hchallenge⟩ := hread
          obtain rfl := Except.ok.inj hchallenge
          rfl
      | _ => exact hissues.elim

theorem answers_ok {payload : LoginPayload} {env : Env} {challenge : V2AuthChallenge}
    (hanswers : payload.answers env challenge = .ok ()) :
    challenge.entityType = payload.entityType ∧ challenge.entityId = payload.entityId ∧
      challenge.publicKey = payload.normalizedKey ∧
        env.verify payload.publicKey (buildV2LoginMessage challenge) payload.signature = true := by
  unfold LoginPayload.answers at hanswers
  split at hanswers
  · cases hanswers
  next hsame =>
  split at hanswers
  · next hverified =>
      simp only [not_or, not_not] at hsame
      exact ⟨hsame.1, hsame.2.1, hsame.2.2, hverified⟩
  · cases hanswers

/-- A login that succeeds names a challenge of the store and answers it. -/
theorem answersTo_of_login {env : Env} {store : V2Store} {req : V2LoginRequest}
    {session : V2AuthSession} (hlogin : (login env store req).2 = .ok session) :
    ∃ payload challenge, req.read = .ok payload ∧
      store.challenges.get payload.challengeId = some challenge ∧
        (challenge.expiresAt = challenge.createdAt + v2ChallengeTtl →
          session.AnswersTo challenge env req) := by
  unfold login at hlogin
  split at hlogin
  · cases hlogin
  next payload hread =>
  have houtcome := @loginOutcome_loginLocked env store payload
  generalize loginLocked env (pruneExpiredLocked store env.now) payload = outcome
    at houtcome hlogin
  cases houtcome with
  | refused error hrefused => cases hlogin
  | @spent challenge next hget hlive hanswers hrecord =>
      obtain ⟨htype, hid, hkey, -⟩ := session_of_openAuthSession hlogin
      obtain ⟨hsameType, hsameId, hsameKey, hverified⟩ := answers_ok hanswers
      refine ⟨payload, challenge, hread, (get_challenges_prune.mp hget).1, fun hexpires => ?_⟩
      unfold V2LoginRequest.read at hread
      simp only [bind_eq_ok_iff] at hread
      obtain ⟨_, _, _, _, _, _, ⟨normalizedKey, key⟩, hpublic, signature, hsignature, hpayload⟩ :=
        hread
      obtain rfl := Except.ok.inj hpayload
      exact {
        entityType := htype.trans hsameType.symm
        entityId := hid.trans hsameId.symm
        publicKey := hkey.trans hsameKey.symm
        inTime := hexpires ▸ hlive
        signed := ⟨key, signature, by rw [hkey]; exact hpublic, hsignature, hverified⟩ }

section Runs

variable {events : List V2StoreEvent} {token : String} {session : V2AuthSession}

theorem challengesKeyed_run (events : List V2StoreEvent) :
    (Steps.run V2Store.step newV2Store events).ChallengesKeyed := by
  have hstep : ∀ (store : V2Store) event, store.ChallengesKeyed →
      (store.step event).ChallengesKeyed := fun _ event hkeyed => challengesKeyed_step hkeyed event
  exact Steps.run_preserves_of_step hstep events OrderedMap.KeyedBy.empty

/-- **Every session answers a challenge of its own.**  Whatever the server was asked to
do, in any order and with any restarts: a session that it holds was opened by a login
that signed, with the key of the session and within five minutes, the text of a challenge
that the server had issued to the same client and key, and between the two no other login
had spent that challenge. -/
theorem sessions_answer_challenges
    (hget : (Steps.run V2Store.step newV2Store events).authSessions.get token = some session) :
    ∃ first issue middle env req rest challenge opened,
      events = first ++ issue :: middle ++ V2StoreEvent.perform env (.login req) :: rest ∧
      (Steps.run V2Store.step newV2Store first).Issues challenge issue ∧
      Steps.Along V2Store.step (fun store event => ¬store.Spends challenge event)
        (Steps.run V2Store.step newV2Store (first ++ [issue])) middle ∧
      (Steps.run V2Store.step newV2Store (first ++ issue :: middle)).Opens opened
        (.perform env (.login req)) ∧
      opened.token = token ∧ opened.SameLogin session ∧ opened.AnswersTo challenge env req := by
  -- first the login that the session comes from
  obtain ⟨before, event, rest, rfl, ⟨opened, htoken, hopens, hsame⟩, -⟩ :=
    @Steps.exists_origin _ _ V2Store.step newV2Store
      (fun store => ∃ held, store.authSessions.get token = some held ∧ held.SameLogin session)
      (fun store event => ∃ opened, opened.token = token ∧ store.Opens opened event ∧
        opened.SameLogin session) (fun _ _ => True)
      (by
        rintro store event ⟨held, hheld, hsame⟩
        obtain ⟨htoken, hopens⟩ | ⟨old, hold, holdSame⟩ := sameLogin_step hheld
        · exact .inl ⟨held, htoken, hopens, hsame⟩
        · exact .inr ⟨⟨old, hold, holdSame.trans hsame⟩, trivial⟩)
      (by
        rintro ⟨held, hheld, -⟩
        cases hheld) events ⟨session, hget, .refl _⟩
  cases event with
  | restart persistedAt hydratedAt iter => exact hopens.elim
  | perform env operation =>
      cases operation with
      | login req =>
          obtain ⟨payload, challenge, hread, hchallenge, hanswers⟩ := answersTo_of_login hopens
          have hnamed : challenge.challengeId = payload.challengeId :=
            challengesKeyed_run before _ _ hchallenge
          rw [← hnamed] at hchallenge
          -- then the event that issued the challenge it spent
          obtain ⟨first, issue, middle, rfl, hissues, hleaves⟩ :=
            @Steps.exists_origin _ _ V2Store.step newV2Store
              (fun store => store.challenges.get challenge.challengeId = some challenge)
              (fun store event => store.Issues challenge event)
              (fun store event => store.Leaves challenge event)
              (fun store event => get_challenges_step_iff.mp) (fun hnone => nomatch hnone) before
              hchallenge
          refine ⟨first, issue, middle, env, req, rest, challenge, opened, by simp, hissues, ?_,
            hopens, htoken, hsame, hanswers (expiresAt_of_issues hissues)⟩
          refine hleaves.imp fun store event hleaves => ?_
          cases event with
          | restart persistedAt hydratedAt iter => exact hleaves.elim
          | perform env operation => exact hleaves.2.1
      | _ => exact hopens.elim

end Runs

/-! ### The session of a desktop -/

/-- The desktop `d` asks for a challenge and logs in with it. -/
def loginEventsOfD : List V2StoreEvent :=
  [.perform (trustingEnv 1 "1") (.createChallenge ⟨"desktop", "d", firstKey⟩),
    .perform (trustingEnv 1 "1") (.login loginOfD)]

theorem authSessions_loginEventsOfD : ∃ session,
    (Steps.run V2Store.step newV2Store loginEventsOfD).authSessions.get "v2tok_1" =
      some session := by
  obtain ⟨-, session, hget, -⟩ := signedIn_login login_loginOfD
  exact ⟨session, hget⟩

theorem session_of_d_answers_challenge : ∃ challenge env req, ∃ opened : V2AuthSession,
    opened.token = "v2tok_1" ∧ opened.AnswersTo challenge env req := by
  obtain ⟨session, hget⟩ := authSessions_loginEventsOfD
  obtain ⟨_, _, _, env, req, _, challenge, opened, -, -, -, -, htoken, -, hanswers⟩ :=
    sessions_answer_challenges hget
  exact ⟨challenge, env, req, opened, htoken, hanswers⟩

end OpenClaw.Server
