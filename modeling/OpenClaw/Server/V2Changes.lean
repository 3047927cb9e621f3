import Mathlib.Logic.Relation
import OpenClaw.Server.V2Store

/-!
# What an operation of the store can do

A request is checked first, and refused without a trace if its fields are not right.
Otherwise the store is pruned, and then the operation changes records (`RecordChange`)
and after that at most once pair sessions and bindings (`PairChange`).  Each change names
what the store must have had for it, so that an invariant of the store is one case for
each change and one for the prune (`perform_preserves`).

`Reachable` is every store that operations and restorations of a snapshot lead to.
-/

namespace OpenClaw.Server

open OpenClaw.Runtime

/-! ## Operations -/

/-- A query of presence prunes and does no more. -/
inductive V2Operation
  | prune
  | createChallenge (req : V2ChallengeRequest)
  | login (req : V2LoginRequest)
  | authenticate (token : String)
  | announcePresence (principal : V2Principal) (req : V2PresenceRequest)
  | heartbeatPresence (principal : V2Principal) (req : V2PresenceRequest)
  | createPairSession (principal : V2Principal) (ttlSeconds : ℤ)
  | deletePairSession (principal : V2Principal) (pairSessionId : String)
  | claimPair (principal : V2Principal) (req : V2PairClaimRequest)
  | approveBinding (principal : V2Principal) (bindingId : String)

/-- The error that an operation answers with, if it does. -/
def errorOf {α : Type} : Except ServerError α → Option ServerError
  | .ok _ => none
  | .error error => some error

def answer {α : Type} (outcome : V2Store × Except ServerError α) :
    V2Store × Option ServerError :=
  (outcome.1, errorOf outcome.2)

/-- The store an operation leaves, and its error. -/
def perform (env : Env) (store : V2Store) : V2Operation → V2Store × Option ServerError
  | .prune => (pruneExpiredLocked store env.now, none)
  | .createChallenge req => answer (createChallenge env store req)
  | .login req => answer (login env store req)
  | .authenticate token => answer (authenticate env.now store token)
  | .announcePresence principal req => answer (announcePresence env.now store principal req)
  | .heartbeatPresence principal req => answer (heartbeatPresence env.now store principal req)
  | .createPairSession principal ttlSeconds =>
      answer (createPairSession env store principal ttlSeconds)
  | .deletePairSession principal pairSessionId =>
      answer (deletePairSession env.now store principal pairSessionId)
  | .claimPair principal req => answer (claimPair env store principal req)
  | .approveBinding principal bindingId =>
      answer (approveBinding env.now store principal bindingId)

/-- The checks that an operation makes before it locks the store. -/
def V2Operation.admissible (env : Env) : V2Operation → Prop
  | .prune => True
  | .createChallenge req => ∃ challenge, req.read env = .ok challenge
  | .login req => ∃ payload, req.read = .ok payload
  | .authenticate token => unicodeTrim token ≠ ""
  | .announcePresence _ _ => True
  | .heartbeatPresence _ _ => True
  | .createPairSession principal _ => principal.session.entityType = .desktop
  | .deletePairSession principal pairSessionId =>
      principal.session.entityType = .desktop ∧ unicodeTrim pairSessionId ≠ ""
  | .claimPair principal req =>
      principal.session.entityType = .mobile ∧ unicodeTrim req.claimToken ≠ ""
  | .approveBinding principal bindingId =>
      principal.session.entityType = .desktop ∧ unicodeTrim bindingId ≠ ""

/-! ## Changes -/

/-- The key that the record of an entity has. -/
def V2Store.keyOf (store : V2Store) : EntityType → String → Option String
  | .desktop, deviceId => (store.desktops.get deviceId).map V2Desktop.publicKey
  | .mobile, mobileId => (store.mobiles.get mobileId).map V2Mobile.publicKey

/-- The pair session that a desktop opens. -/
structure V2PairSession.Fresh (env : Env) (desktop : V2Desktop) (session : V2PairSession) :
    Prop where
  pairSessionId : env.makeId "v2pair" = some session.pairSessionId
  claimToken : env.makeId "v2claim" = some session.claimToken
  deviceId : session.deviceId = desktop.deviceId
  devicePublicKey : session.devicePublicKey = desktop.publicKey
  status : session.status = .pending
  claimedMobileId : session.claimedMobileId = none
  bindingId : session.bindingId = none

/-- A change of the records, the sessions or the challenges. -/
inductive RecordChange (env : Env) (store : V2Store) : V2Store → Prop
  | challenges (challenges : OrderedMap String V2AuthChallenge) :
      RecordChange env store { store with challenges }
  | enrollDesktop {deviceId publicKey : String} {createdAt : ℤ}
      (hnone : store.desktops.get deviceId = none) :
      RecordChange env store
        (store.putDesktop deviceId (freshDesktop deviceId publicKey createdAt env.now))
  | enrollMobile {mobileId publicKey : String} {createdAt : ℤ}
      (hnone : store.mobiles.get mobileId = none) :
      RecordChange env store
        (store.putMobile mobileId (freshMobile mobileId publicKey createdAt env.now))
  | refreshDesktop {deviceId target : String} {old new : V2Desktop}
      (hget : store.desktops.get deviceId = some old)
      (htarget : target = deviceId ∨ target = old.deviceId) (hid : new.deviceId = old.deviceId)
      (hkey : new.publicKey = old.publicKey) (hupdated : new.updatedAt = env.now)
      (hseen : new.lastSeenAt = env.now ∨ new.lastSeenAt = old.lastSeenAt) :
      RecordChange env store (store.putDesktop target new)
  | refreshMobile {mobileId target : String} {old new : V2Mobile}
      (hget : store.mobiles.get mobileId = some old)
      (htarget : target = mobileId ∨ target = old.mobileId) (hid : new.mobileId = old.mobileId)
      (hkey : new.publicKey = old.publicKey) (hupdated : new.updatedAt = env.now)
      (hseen : new.lastSeenAt = env.now ∨ new.lastSeenAt = old.lastSeenAt) :
      RecordChange env store (store.putMobile target new)
  | openAuthSession {session : V2AuthSession} (htoken : env.makeId "v2tok" = some session.token)
      (hkey : store.keyOf session.entityType session.entityId = some session.publicKey)
      (hexpires : session.expiresAt = env.now + v2AuthSessionTtl) :
      RecordChange env store { store with
        authSessions := store.authSessions.set session.token session }
  | extendAuthSession {token : String} {session : V2AuthSession}
      (hget : store.authSessions.get token = some session) (hlive : env.now < session.expiresAt) :
      RecordChange env store { store with
        authSessions := store.authSessions.set token
          { session with updatedAt := env.now, expiresAt := env.now + v2AuthSessionTtl } }
  | dropAuthSession {token : String} {session : V2AuthSession}
      (hget : store.authSessions.get token = some session)
      (hexpired : session.expiresAt ≤ env.now) :
      RecordChange env store { store with authSessions := store.authSessions.erase token }

/-- A change of the pair sessions and the bindings. -/
inductive PairChange (env : Env) (store : V2Store) : V2Store → Prop
  | openPairSession {deviceId : String} {desktop : V2Desktop} {session : V2PairSession}
      (hget : store.desktops.get deviceId = some desktop) (hfresh : session.Fresh env desktop) :
      PairChange env store { store.putPairSession session.pairSessionId session with
        pairClaimTokenIndex :=
          store.pairClaimTokenIndex.set session.claimToken session.pairSessionId }
  | deletePairSession {pairSessionId : String} {session : V2PairSession}
      (hget : store.pairSessions.get pairSessionId = some session)
      (hpending : session.status = .pending) (hunbound : session.bindingId = none) :
      PairChange env store { store.dropClaimToken session.claimToken with
        pairSessions := store.pairSessions.erase pairSessionId }
  | expirePairSession {claimToken pairSessionId : String} {session : V2PairSession}
      (hindex : store.pairClaimTokenIndex.get claimToken = some pairSessionId)
      (hget : store.pairSessions.get pairSessionId = some session)
      (hexpired : session.expiresAt ≤ env.now) :
      PairChange env store ((store.putPairSession pairSessionId
        { session with status := .expired, updatedAt := env.now }).dropClaimToken claimToken)
  | claim {claimToken pairSessionId entityId mobileId : String} {session : V2PairSession}
      {claimer mobile : V2Mobile} {binding : V2Binding}
      (hindex : store.pairClaimTokenIndex.get claimToken = some pairSessionId)
      (hget : store.pairSessions.get pairSessionId = some session)
      (hlive : env.now < session.expiresAt) (hclaimable : session.claimableBy entityId = .ok ())
      (hclaimer : store.mobiles.get entityId = some claimer)
      (hmobile : store.mobiles.get mobileId = some mobile)
      (hsame : claimer.mobileId = mobile.mobileId)
      (hbinding : claimedBinding env
        (findBindingLocked env store session.deviceId mobile.mobileId) session mobile =
          .ok binding) :
      PairChange env store ((store.putBinding binding).putPairSession session.pairSessionId
        { session with
          status := .claimed
          updatedAt := env.now
          claimedMobileId := some mobile.mobileId
          bindingId := some binding.bindingId })
  | approve {bindingId entityId : String} {binding : V2Binding}
      (hget : store.bindings.get bindingId = some binding) (howner : binding.deviceId = entityId)
      (hpending : binding.trustState = .pending) :
      PairChange env store (approvePairSession env.now
        (store.putBinding
          { binding with trustState := .active, approvedAt := some env.now, updatedAt := env.now })
        binding.pairSessionId)

/-- Some changes of records, one after the other. -/
abbrev RecordChanges (env : Env) : V2Store → V2Store → Prop :=
  Relation.ReflTransGen (RecordChange env)

/-- What an operation does to the pruned store: it changes records, and then at most
once pair sessions and bindings. -/
inductive Changes (env : Env) (store next : V2Store) : Prop
  | records (hrecords : RecordChanges env store next)
  | pairing {between : V2Store} (hrecords : RecordChanges env store between)
      (hpair : PairChange env between next)

/-! ## What each operation does -/

section Operations

variable {env : Env} {store : V2Store}

open Relation

theorem changes_recordLogin {payload : LoginPayload} {next : V2Store}
    (hrecord : recordLogin env.now store payload = .ok next) :
    RecordChange env store next ∧
      next.keyOf payload.entityType payload.entityId = some payload.normalizedKey := by
  unfold recordLogin at hrecord
  split at hrecord
  · next htype =>
      rw [htype]
      unfold recordDesktop at hrecord
      split at hrecord
      · next hnone =>
          obtain rfl := Except.ok.inj hrecord
          refine ⟨.enrollDesktop hnone, ?_⟩
          rw [V2Store.keyOf, V2Store.putDesktop, OrderedMap.get_set_self]
          rfl
      · next desktop hsome =>
          split at hrecord
          · cases hrecord
          · next hkey =>
              obtain rfl := Except.ok.inj hrecord
              refine ⟨.refreshDesktop hsome (.inl rfl) rfl rfl rfl ?_, ?_⟩
              · dsimp only
                split
                · exact .inl rfl
                · exact .inr rfl
              · rw [V2Store.keyOf, V2Store.putDesktop, OrderedMap.get_set_self, Option.map_some]
                exact congrArg some (not_not.mp hkey)
  · next htype =>
      rw [htype]
      unfold recordMobile at hrecord
      split at hrecord
      · next hnone =>
          obtain rfl := Except.ok.inj hrecord
          refine ⟨.enrollMobile hnone, ?_⟩
          rw [V2Store.keyOf, V2Store.putMobile, OrderedMap.get_set_self]
          rfl
      · next mobile hsome =>
          split at hrecord
          · cases hrecord
          · next hkey =>
              obtain rfl := Except.ok.inj hrecord
              refine ⟨.refreshMobile hsome (.inl rfl) rfl rfl rfl (.inl rfl), ?_⟩
              rw [V2Store.keyOf, V2Store.putMobile, OrderedMap.get_set_self, Option.map_some]
              exact congrArg some (not_not.mp hkey)

theorem changes_openAuthSession {payload : LoginPayload}
    (hkey : store.keyOf payload.entityType payload.entityId = some payload.normalizedKey) :
    RecordChanges env store (openAuthSession env store payload).1 := by
  unfold openAuthSession
  split
  · next sessionId token _ htoken => exact .single (.openAuthSession htoken hkey rfl)
  · exact .refl

theorem changes_loginLocked (payload : LoginPayload) :
    RecordChanges env store (loginLocked env store payload).1 := by
  unfold loginLocked
  split
  · exact .refl
  next challenge hchallenge =>
  split
  · exact .single (.challenges _)
  next hlive =>
  split
  · exact .refl
  next next hbind =>
  cases hanswers : payload.answers env challenge with
  | error error =>
      rw [hanswers] at hbind
      cases hbind
  | ok answered =>
      rw [hanswers] at hbind
      obtain ⟨heffect, hkey⟩ := changes_recordLogin hbind
      have hopened := @changes_openAuthSession env
        { next with challenges := next.challenges.erase payload.challengeId } payload hkey
      exact ((ReflTransGen.single heffect).tail (.challenges _)).trans hopened

theorem changes_principalOf (session : V2AuthSession) :
    RecordChanges env store (principalOf env.now store session).1 := by
  unfold principalOf
  split
  · split
    · exact .refl
    · next hnone => exact .single (.enrollDesktop hnone)
  · split
    · exact .refl
    · next hnone => exact .single (.enrollMobile hnone)

theorem changes_authenticateLocked (token : String) :
    RecordChanges env store (authenticateLocked env.now store token).1 := by
  unfold authenticateLocked
  split
  · exact .refl
  next session hsession =>
  split
  · next hexpired => exact .single (.dropAuthSession hsession hexpired)
  · next hlive =>
      exact ReflTransGen.head (.extendAuthSession hsession (not_le.mp hlive))
        (changes_principalOf _)

/-- The change of a record that `announcePresence` and `heartbeatPresence` make. -/
structure Renews (env : Env) (desktopOf : V2Desktop → V2Desktop) (mobileOf : V2Mobile → V2Mobile) :
    Prop where
  desktop : ∀ desktop, (desktopOf desktop).deviceId = desktop.deviceId ∧
    (desktopOf desktop).publicKey = desktop.publicKey ∧
      (desktopOf desktop).updatedAt = env.now ∧ (desktopOf desktop).lastSeenAt = env.now
  mobile : ∀ mobile, (mobileOf mobile).mobileId = mobile.mobileId ∧
    (mobileOf mobile).publicKey = mobile.publicKey ∧
      (mobileOf mobile).updatedAt = env.now ∧ (mobileOf mobile).lastSeenAt = env.now

theorem renews_announce (req : V2PresenceRequest) :
    Renews env (announceDesktop env.now req) (announceMobile env.now req) where
  desktop _ := by simp only [announceDesktop, and_self]
  mobile _ := by simp only [announceMobile, and_self]

theorem renews_heartbeat (req : V2PresenceRequest) :
    Renews env (heartbeatDesktop env.now req) (heartbeatMobile env.now req) where
  desktop _ := by simp only [heartbeatDesktop, and_self]
  mobile _ := by simp only [heartbeatMobile, and_self]

theorem changes_updateRecord (principal : V2Principal) {desktopOf : V2Desktop → V2Desktop}
    {mobileOf : V2Mobile → V2Mobile} (hrenews : Renews env desktopOf mobileOf) :
    RecordChanges env (pruneExpiredLocked store env.now)
      (updateRecord env.now store principal desktopOf mobileOf).1 := by
  unfold updateRecord
  dsimp only
  split
  · split
    · exact .refl
    · next desktop hsome =>
        obtain ⟨hid, hkey, hupdated, hseen⟩ := hrenews.desktop desktop
        exact .single (.refreshDesktop hsome (.inr hid) hid hkey hupdated (.inl hseen))
  · split
    · exact .refl
    · next mobile hsome =>
        obtain ⟨hid, hkey, hupdated, hseen⟩ := hrenews.mobile mobile
        exact .single (.refreshMobile hsome (.inr hid) hid hkey hupdated (.inl hseen))

theorem changes_openPairSession {deviceId : String} {desktop : V2Desktop}
    (hget : store.desktops.get deviceId = some desktop) (ttl : ℤ) :
    Changes env store (openPairSession env store desktop ttl).1 := by
  unfold openPairSession
  split
  · next pairSessionId claimToken sessionNonce hpair hclaim _ =>
      have hfresh : V2PairSession.Fresh env desktop ⟨pairSessionId, desktop.deviceId,
          desktop.publicKey, claimToken, sessionNonce, .pending, env.now, env.now,
          env.now + ttl * 1000, none, none⟩ := ⟨hpair, hclaim, rfl, rfl, rfl, rfl, rfl⟩
      exact .pairing .refl (.openPairSession hget hfresh)
  · exact .records .refl

theorem changes_deletePairSessionLocked (principal : V2Principal) (pairSessionId : String) :
    Changes env store (deletePairSessionLocked store principal pairSessionId).1 := by
  unfold deletePairSessionLocked
  split
  · exact .records .refl
  next session hsession =>
  split
  · exact .records .refl
  split
  · exact .records .refl
  · next hstate =>
      simp only [not_or, Bool.not_eq_true, Option.isSome_eq_false_iff, not_not] at hstate
      exact .pairing .refl
        (.deletePairSession hsession hstate.2 (Option.isNone_iff_eq_none.mp hstate.1))

/-- A claim of an open pair session, by a mobile that has just been given its name. -/
theorem changes_claimBy {claimToken pairSessionId entityId : String} {session : V2PairSession}
    {mobile : V2Mobile} (hindex : store.pairClaimTokenIndex.get claimToken = some pairSessionId)
    (hget : store.pairSessions.get pairSessionId = some session)
    (hlive : env.now < session.expiresAt) (hclaimable : session.claimableBy entityId = .ok ())
    (hmobile : store.mobiles.get entityId = some mobile) (mobileName : String) :
    Changes env store (claimBy env (renameMobile env.now store mobile mobileName).1 session
      (renameMobile env.now store mobile mobileName).2).1 := by
  unfold renameMobile
  split
  · unfold claimBy
    split
    · exact .records .refl
    · next hbinding =>
        exact .pairing .refl (@PairChange.claim env store _ _ _ _ session mobile mobile _ hindex
            hget hlive hclaimable hmobile hmobile rfl hbinding)
  · dsimp only
    have hrename : RecordChange env store (store.putMobile mobile.mobileId { mobile with
        mobileName := normalizeV2DisplayName mobileName, updatedAt := env.now }) :=
      .refreshMobile hmobile (.inr rfl) rfl rfl rfl (.inr rfl)
    unfold claimBy
    split
    · exact .records (.single hrename)
    · next hbinding =>
        -- the mobile that claims is found under its id, renamed or not
        obtain ⟨claimer, hclaimer, hsame⟩ : ∃ claimer,
            (store.putMobile mobile.mobileId { mobile with
              mobileName := normalizeV2DisplayName mobileName,
              updatedAt := env.now }).mobiles.get entityId = some claimer ∧
              claimer.mobileId = mobile.mobileId := by
          rw [V2Store.putMobile, OrderedMap.get_set]
          split
          · exact ⟨_, rfl, rfl⟩
          · exact ⟨mobile, hmobile, rfl⟩
        refine .pairing (.single hrename) ?_
        exact @PairChange.claim env _ _ _ _ _ session claimer _ _ hindex hget hlive hclaimable
          hclaimer (OrderedMap.get_set_self _ _ _) hsame hbinding

theorem changes_claimPairLocked (principal : V2Principal) (claimToken mobileName : String) :
    Changes env store (claimPairLocked env store principal claimToken mobileName).1 := by
  unfold claimPairLocked
  split
  · exact .records .refl
  next pairSessionId session hfound =>
  obtain ⟨pairId, hindex, hmap⟩ := Option.bind_eq_some_iff.mp hfound
  obtain ⟨_, hget, heq⟩ := Option.map_eq_some_iff.mp hmap
  obtain ⟨rfl, rfl⟩ := Prod.mk.inj heq
  split
  · next hexpired => exact .pairing .refl (.expirePairSession hindex hget hexpired)
  next hlive =>
  split
  · exact .records .refl
  next hclaimable =>
  split
  · exact .records .refl
  · next mobile hmobile =>
      exact changes_claimBy hindex hget (not_le.mp hlive) hclaimable hmobile mobileName

theorem changes_approveBindingLocked (principal : V2Principal) (bindingId : String) :
    Changes env store (approveBindingLocked env.now store principal bindingId).1 := by
  unfold approveBindingLocked
  split
  · exact .records .refl
  next binding hget =>
  split
  · exact .records .refl
  next howner =>
  split
  · exact .records .refl
  · next hpending =>
      exact .pairing .refl (.approve hget (not_not.mp howner) (not_not.mp hpending))

/-! ## An operation as a whole -/

/-- **An operation that passes its checks** prunes the store and then changes
records, pair sessions and bindings. -/
theorem changes_perform {operation : V2Operation} (hadmissible : operation.admissible env) :
    Changes env (pruneExpiredLocked store env.now) (perform env store operation).1 := by
  cases operation with
  | prune => exact .records .refl
  | createChallenge req =>
      obtain ⟨challenge, hread⟩ := hadmissible
      dsimp only [perform, answer, createChallenge]
      rw [hread]
      exact .records (.single (.challenges _))
  | login req =>
      obtain ⟨payload, hread⟩ := hadmissible
      dsimp only [perform, answer, login]
      rw [hread]
      exact .records (changes_loginLocked payload)
  | authenticate token =>
      dsimp only [perform, answer, authenticate]
      rw [if_neg hadmissible]
      exact .records (changes_authenticateLocked _)
  | announcePresence principal req =>
      exact .records (changes_updateRecord principal (renews_announce req))
  | heartbeatPresence principal req =>
      exact .records (changes_updateRecord principal (renews_heartbeat req))
  | createPairSession principal ttlSeconds =>
      have htype : principal.session.entityType = .desktop := hadmissible
      dsimp only [perform, answer, createPairSession]
      rw [if_neg (not_not.mpr htype)]
      split
      · exact .records .refl
      · next hget => exact changes_openPairSession hget _
  | deletePairSession principal pairSessionId =>
      obtain ⟨htype, hid⟩ := hadmissible
      dsimp only [perform, answer, deletePairSession]
      rw [if_neg (not_not.mpr htype), trimRequired_of_ne hid]
      exact changes_deletePairSessionLocked principal _
  | claimPair principal req =>
      obtain ⟨htype, htoken⟩ := hadmissible
      dsimp only [perform, answer, claimPair]
      rw [if_neg (not_not.mpr htype), trimRequired_of_ne htoken]
      exact changes_claimPairLocked principal _ _
  | approveBinding principal bindingId =>
      obtain ⟨htype, hid⟩ := hadmissible
      dsimp only [perform, answer, approveBinding]
      rw [if_neg (not_not.mpr htype), trimRequired_of_ne hid]
      exact changes_approveBindingLocked principal _

/-- An operation that does not pass them leaves the store as it is. -/
theorem perform_of_not_admissible {operation : V2Operation}
    (hnot : ¬operation.admissible env) : (perform env store operation).1 = store := by
  cases operation with
  | prune => exact absurd trivial hnot
  | createChallenge req =>
      dsimp only [perform, answer, createChallenge]
      split
      · rfl
      · next challenge hread => exact absurd ⟨challenge, hread⟩ hnot
  | login req =>
      dsimp only [perform, answer, login]
      split
      · rfl
      · next payload hread => exact absurd ⟨payload, hread⟩ hnot
  | authenticate token =>
      dsimp only [perform, answer, authenticate]
      rw [if_pos (not_not.mp hnot)]
  | announcePresence principal req => exact absurd trivial hnot
  | heartbeatPresence principal req => exact absurd trivial hnot
  | createPairSession principal ttlSeconds =>
      have htype : principal.session.entityType ≠ .desktop := hnot
      dsimp only [perform, answer, createPairSession]
      rw [if_pos htype]
  | deletePairSession principal pairSessionId =>
      dsimp only [perform, answer, deletePairSession]
      split
      · rfl
      · next htype =>
          rw [trimRequired_of_eq (by_contra fun hid => hnot ⟨not_not.mp htype, hid⟩)]
  | claimPair principal req =>
      dsimp only [perform, answer, claimPair]
      split
      · rfl
      · next htype =>
          rw [trimRequired_of_eq (by_contra fun htoken => hnot ⟨not_not.mp htype, htoken⟩)]
  | approveBinding principal bindingId =>
      dsimp only [perform, answer, approveBinding]
      split
      · rfl
      · next htype =>
          rw [trimRequired_of_eq (by_contra fun hid => hnot ⟨not_not.mp htype, hid⟩)]

/-! ## Invariants -/

/-- Changes of records leave pair sessions, their tokens and bindings alone. -/
structure SamePairing (store next : V2Store) : Prop where
  pairSessions : next.pairSessions = store.pairSessions
  pairClaimTokenIndex : next.pairClaimTokenIndex = store.pairClaimTokenIndex
  bindings : next.bindings = store.bindings

theorem samePairing_of_records {next : V2Store} (hrecords : RecordChanges env store next) :
    SamePairing store next := by
  induction hrecords with
  | refl => exact ⟨rfl, rfl, rfl⟩
  | tail _ hlast ih =>
      have hsame := ih
      cases hlast with
      | _ => exact ⟨hsame.pairSessions, hsame.pairClaimTokenIndex, hsame.bindings⟩

/-- The rule for an invariant of the store: the prune keeps it, and so does every
change after it. -/
theorem perform_preserves {inv : V2Store → Prop} {operation : V2Operation}
    (hprune : inv store → inv (pruneExpiredLocked store env.now))
    (hrecord : ∀ {store next}, inv store → RecordChange env store next → inv next)
    (hpair : ∀ {between next}, SamePairing (pruneExpiredLocked store env.now) between →
      inv between → PairChange env between next → inv next) (hinv : inv store) :
    inv (perform env store operation).1 := by
  by_cases hadmissible : operation.admissible env
  · have hrecords : ∀ {next}, RecordChanges env (pruneExpiredLocked store env.now) next →
        inv next := by
      intro next hnext
      induction hnext with
      | refl => exact hprune hinv
      | tail _ hlast ih => exact hrecord ih hlast
    have hchanges := @changes_perform env store operation hadmissible
    generalize (perform env store operation).1 = next at hchanges
    cases hchanges with
    | records hnext => exact hrecords hnext
    | pairing hbetween hlast =>
        exact hpair (samePairing_of_records hbetween) (hrecords hbetween) hlast
  · rw [perform_of_not_admissible hadmissible]
    exact hinv

end Operations

/-! ## Snapshots -/

structure V2StoreSnapshot where
  desktops : OrderedMap String V2Desktop
  mobiles : OrderedMap String V2Mobile
  authSessions : OrderedMap String V2AuthSession
  pairSessions : OrderedMap String V2PairSession
  pairClaimTokenIndex : OrderedMap String String
  bindings : OrderedMap String V2Binding
  signalQueues : OrderedMap String (List SignalEvent)

def snapshot (store : V2Store) : V2StoreSnapshot :=
  ⟨store.desktops, store.mobiles, store.authSessions, store.pairSessions,
    store.pairClaimTokenIndex, store.bindings, store.signalQueues⟩

def indexPairSession (index : OrderedMap String String) (entry : String × V2PairSession) :
    OrderedMap String String :=
  if entry.2.claimToken = "" ∨ entry.2.status ≠ .pending ∧ entry.2.status ≠ .claimed then index
  else index.set entry.2.claimToken entry.1

/-- A snapshot without an index has it made again from the pair sessions. -/
def applySnapshot (iter : IterOrder) (snap : V2StoreSnapshot) : V2Store where
  desktops := snap.desktops
  mobiles := snap.mobiles
  challenges := ∅
  authSessions := snap.authSessions
  pairSessions := snap.pairSessions
  pairClaimTokenIndex :=
    if snap.pairClaimTokenIndex.entries.length = 0 then
      (iter.order snap.pairSessions.entries).foldl indexPairSession ∅
    else snap.pairClaimTokenIndex
  bindings := snap.bindings
  signalQueues := snap.signalQueues

/-- The stores of the runs whose random texts are drawn as `draws` says. -/
inductive ReachableWith (draws : Env → V2Store → Prop) : V2Store → Prop
  | initial : ReachableWith draws newV2Store
  | perform {store : V2Store} {env : Env} (operation : V2Operation)
      (hstore : ReachableWith draws store) (hdraws : draws env store) :
      ReachableWith draws (perform env store operation).1
  | restore {store : V2Store} (iter : IterOrder) (hstore : ReachableWith draws store) :
      ReachableWith draws (applySnapshot iter (snapshot store))

abbrev Reachable : V2Store → Prop := ReachableWith fun _ _ => True

/-! ## A store with one session -/

/-- A machine on which every signature verifies. -/
def trustingEnv (now : ℤ) (text : String) : Env :=
  ⟨now, fun _ => some text, .stored, fun _ _ _ => true⟩

def firstKey : String := "AAAAAAAAAAAAAAAAAAAAAAAAAAAAAAAAAAAAAAAAAAA"

def anySignature : String :=
  "AAAAAAAAAAAAAAAAAAAAAAAAAAAAAAAAAAAAAAAAAAAAAAAAAAAAAAAAAAAAAAAAAAAAAAAAAAAAAAAAAAAAAA"

/-- The store in which the desktop `d` has asked for a challenge. -/
def challenged : V2Store :=
  (perform (trustingEnv 1 "1") newV2Store (.createChallenge ⟨"desktop", "d", firstKey⟩)).1

/-- The store after the desktop `d` has logged in. -/
def loggedIn : V2Store :=
  (perform (trustingEnv 1 "1") challenged
    (.login ⟨"desktop", "d", firstKey, "v2chl_1", anySignature⟩)).1

theorem reachable_loggedIn {draws : Env → V2Store → Prop}
    (hdraws : ∀ store, draws (trustingEnv 1 "1") store) : ReachableWith draws loggedIn := by
  unfold loggedIn challenged
  exact .perform _ (.perform _ .initial (hdraws _)) (hdraws _)

end OpenClaw.Server
