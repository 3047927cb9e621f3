import OpenClaw.Lib.Steps
import OpenClaw.Server.V2ClaimTokens
import OpenClaw.Server.V2Sessions

/-!
# The pairing server's store in Redis

A persist writes five maps of the store and a lease for each entity, and a server that
starts reads them back.  Both filter what they handle: entities by when they were last
active, sessions by when they expire and by their entity, pair sessions by their desktop.
The index of the claim tokens is not written but made again.
-/

namespace OpenClaw.Server

open OpenClaw.Runtime
open OrderedMap (get_of_get_filter)

/-- What Redis holds of the store.  A lease is there until its time. -/
structure V2Redis where
  desktops : OrderedMap String V2Desktop
  mobiles : OrderedMap String V2Mobile
  authSessions : OrderedMap String V2AuthSession
  pairSessions : OrderedMap String V2PairSession
  bindings : OrderedMap String V2Binding
  entityLeases : OrderedMap String ℤ

/-! ## What is filtered -/

/-- The entity of the session is among these. -/
def V2AuthSession.hasEntity (session : V2AuthSession) (desktops : OrderedMap String V2Desktop)
    (mobiles : OrderedMap String V2Mobile) : Bool :=
  match session.entityType with
  | .desktop => (desktops.get session.entityId).isSome
  | .mobile => (mobiles.get session.entityId).isSome

/-- The sessions that are not expired and have their entity. -/
def keptAuthSessions (now : ℤ) (desktops : OrderedMap String V2Desktop)
    (mobiles : OrderedMap String V2Mobile) (sessions : OrderedMap String V2AuthSession) :
    OrderedMap String V2AuthSession :=
  sessions.filter fun _ session => now < session.expiresAt ∧ session.hasEntity desktops mobiles

/-- The pair sessions that are not expired and have their desktop. -/
def keptPairSessions (now : ℤ) (desktops : OrderedMap String V2Desktop)
    (sessions : OrderedMap String V2PairSession) : OrderedMap String V2PairSession :=
  sessions.filter fun _ session =>
    now < session.expiresAt ∧ (desktops.get session.deviceId).isSome

/-! ## Writing -/

/-- When the lease ends that is written at this time for an entity; it lasts a second at
least. -/
def v2LeaseEnd (now lastActiveAt : ℤ) : Option ℤ :=
  let ttlMillis := lastActiveAt + v2ActiveEntityTtl - now
  if ttlMillis ≤ 0 then none else some (now + max ttlMillis 1000)

def v2EntityLeases (now : ℤ) (desktops : OrderedMap String V2Desktop)
    (mobiles : OrderedMap String V2Mobile) : OrderedMap String ℤ :=
  OrderedMap.ofList
    ((desktops.entries.filterMap fun entry =>
        (v2LeaseEnd now (v2EntityLastActiveAt entry.2.lastSeenAt entry.2.updatedAt)).map
          fun lease => (clientKey EntityType.desktop.name entry.1, lease)) ++
      mobiles.entries.filterMap fun entry =>
        (v2LeaseEnd now (v2EntityLastActiveAt entry.2.lastSeenAt entry.2.updatedAt)).map
          fun lease => (clientKey EntityType.mobile.name entry.1, lease))

/-- The part of `persistWithTimeout` for this store: what was in Redis is deleted first. -/
def persistV2 (store : V2Store) (now : ℤ) : V2Redis :=
  let desktops := store.desktops.filter fun _ desktop => !desktop.inactive now
  let mobiles := store.mobiles.filter fun _ mobile => !mobile.inactive now
  { desktops := desktops
    mobiles := mobiles
    authSessions := keptAuthSessions now desktops mobiles store.authSessions
    pairSessions := keptPairSessions now desktops store.pairSessions
    bindings := store.bindings
    entityLeases := v2EntityLeases now desktops mobiles }

/-! ## Reading -/

def V2Redis.leased (redis : V2Redis) (now : ℤ) (entityType : EntityType) (entityId : String) :
    Bool :=
  (redis.entityLeases.get (clientKey entityType.name entityId)).any fun lease => now < lease

/-- The part of `hydrateFromRedis` for this store. -/
def hydrateV2FromRedis (redis : V2Redis) (now : ℤ) (iter : IterOrder) : V2Store :=
  let desktops := redis.desktops.filter fun deviceId desktop =>
    redis.leased now .desktop deviceId || !desktop.inactive now
  let mobiles := redis.mobiles.filter fun mobileId mobile =>
    redis.leased now .mobile mobileId || !mobile.inactive now
  let pairSessions := keptPairSessions now desktops redis.pairSessions
  applySnapshot iter
    { desktops := desktops
      mobiles := mobiles
      authSessions := keptAuthSessions now desktops mobiles redis.authSessions
      pairSessions := pairSessions
      pairClaimTokenIndex := (iter.order pairSessions.entries).foldl indexPairSession ∅
      bindings := redis.bindings
      signalQueues := ∅ }

/-! ## Runs with restarts -/

/-- The server performs an operation, or it persists and is started again. -/
inductive V2StoreEvent
  | perform (env : Env) (operation : V2Operation)
  | restart (persistedAt hydratedAt : ℤ) (iter : IterOrder)

def V2Store.step (store : V2Store) : V2StoreEvent → V2Store
  | .perform env operation => (Server.perform env store operation).1
  | .restart persistedAt hydratedAt iter =>
      hydrateV2FromRedis (persistV2 store persistedAt) hydratedAt iter

theorem step_perform (store : V2Store) (env : Env) (operation : V2Operation) :
    store.step (.perform env operation) = (perform env store operation).1 := rfl

/-- Ids and tokens are drawn fresh. -/
def V2Store.StepDrawsFresh (store : V2Store) : V2StoreEvent → Prop
  | .perform env _ => DrawsFresh env store
  | .restart _ _ _ => True

/-! ## What comes back -/

/-- Nothing of the store is one that a prune removes at this time, pair sessions apart. -/
structure V2Store.Live (store : V2Store) (now : ℤ) : Prop where
  desktops : ∀ deviceId desktop, store.desktops.get deviceId = some desktop →
    desktop.inactive now = false
  mobiles : ∀ mobileId mobile, store.mobiles.get mobileId = some mobile →
    mobile.inactive now = false
  authSessions : ∀ token session, store.authSessions.get token = some session →
    now < session.expiresAt

/-- The pair sessions have tokens. -/
def Tokened (sessions : OrderedMap String V2PairSession) : Prop :=
  ∀ pairSessionId session, sessions.get pairSessionId = some session → session.claimToken ≠ ""

/-- Records and sessions fit together, and the index has the tokens of the open pair
sessions. -/
structure V2Store.Consistent (store : V2Store) : Prop where
  accounted : store.Accounted
  indexed : store.Indexed
  tokened : Tokened store.pairSessions

section Reading

variable {store : V2Store} {now : ℤ}

theorem get_desktops_persistV2 (hlive : store.Live now) (deviceId : String) :
    (persistV2 store now).desktops.get deviceId = store.desktops.get deviceId := by
  apply OrderedMap.get_filter_of_forall
  intro deviceId desktop hget
  rw [hlive.desktops deviceId desktop hget]
  rfl

theorem get_mobiles_persistV2 (hlive : store.Live now) (mobileId : String) :
    (persistV2 store now).mobiles.get mobileId = store.mobiles.get mobileId := by
  apply OrderedMap.get_filter_of_forall
  intro mobileId mobile hget
  rw [hlive.mobiles mobileId mobile hget]
  rfl

theorem get_desktops_restored (hlive : store.Live now) (iter : IterOrder) (deviceId : String) :
    (hydrateV2FromRedis (persistV2 store now) now iter).desktops.get deviceId =
      store.desktops.get deviceId := by
  rw [← get_desktops_persistV2 hlive]
  apply OrderedMap.get_filter_of_forall
  intro deviceId desktop hget
  rw [get_desktops_persistV2 hlive] at hget
  rw [hlive.desktops deviceId desktop hget, Bool.not_false, Bool.or_true]

theorem get_mobiles_restored (hlive : store.Live now) (iter : IterOrder) (mobileId : String) :
    (hydrateV2FromRedis (persistV2 store now) now iter).mobiles.get mobileId =
      store.mobiles.get mobileId := by
  rw [← get_mobiles_persistV2 hlive]
  apply OrderedMap.get_filter_of_forall
  intro mobileId mobile hget
  rw [get_mobiles_persistV2 hlive] at hget
  rw [hlive.mobiles mobileId mobile hget, Bool.not_false, Bool.or_true]

/-- Sessions have their entities among records that agree with those of the store. -/
theorem hasEntity_of_accounted (haccounted : store.Accounted)
    {desktops : OrderedMap String V2Desktop} {mobiles : OrderedMap String V2Mobile}
    (hdesktops : ∀ deviceId, desktops.get deviceId = store.desktops.get deviceId)
    (hmobiles : ∀ mobileId, mobiles.get mobileId = store.mobiles.get mobileId) {token : String}
    {session : V2AuthSession} (hget : store.authSessions.get token = some session) :
    session.hasEntity desktops mobiles = true := by
  have hkey := haccounted.sessions hget
  unfold V2AuthSession.hasEntity
  cases htype : session.entityType with
  | desktop =>
      rw [htype, V2Store.keyOf, Option.map_eq_some_iff] at hkey
      obtain ⟨desktop, hdesktop, -⟩ := hkey
      show (desktops.get session.entityId).isSome = true
      rw [hdesktops, hdesktop]
      rfl
  | mobile =>
      rw [htype, V2Store.keyOf, Option.map_eq_some_iff] at hkey
      obtain ⟨mobile, hmobile, -⟩ := hkey
      show (mobiles.get session.entityId).isSome = true
      rw [hmobiles, hmobile]
      rfl

/-- No session of a live store is left out, by the persist or by the start. -/
theorem get_keptAuthSessions (haccounted : store.Accounted) (hlive : store.Live now)
    {desktops : OrderedMap String V2Desktop} {mobiles : OrderedMap String V2Mobile}
    (hdesktops : ∀ deviceId, desktops.get deviceId = store.desktops.get deviceId)
    (hmobiles : ∀ mobileId, mobiles.get mobileId = store.mobiles.get mobileId)
    {sessions : OrderedMap String V2AuthSession}
    (hsessions : ∀ token, sessions.get token = store.authSessions.get token) (token : String) :
    (keptAuthSessions now desktops mobiles sessions).get token = store.authSessions.get token := by
  rw [← hsessions]
  apply OrderedMap.get_filter_of_forall
  intro token session hget
  rw [hsessions] at hget
  exact decide_eq_true ⟨hlive.authSessions token session hget,
    hasEntity_of_accounted haccounted hdesktops hmobiles hget⟩

theorem get_authSessions_restored (haccounted : store.Accounted) (hlive : store.Live now)
    (iter : IterOrder) (token : String) :
    (hydrateV2FromRedis (persistV2 store now) now iter).authSessions.get token =
      store.authSessions.get token := by
  apply get_keptAuthSessions haccounted hlive
  · exact get_desktops_restored hlive iter
  · exact get_mobiles_restored hlive iter
  · intro token
    apply get_keptAuthSessions haccounted hlive
    · exact get_desktops_persistV2 hlive
    · exact get_mobiles_persistV2 hlive
    · exact fun _ => rfl

theorem get_keptPairSessions {desktops : OrderedMap String V2Desktop}
    {sessions : OrderedMap String V2PairSession} {pairSessionId : String}
    {session : V2PairSession} :
    (keptPairSessions now desktops sessions).get pairSessionId = some session ↔
      sessions.get pairSessionId = some session ∧
        now < session.expiresAt ∧ (desktops.get session.deviceId).isSome = true := by
  rw [keptPairSessions, OrderedMap.get_filter_eq_some_iff, decide_eq_true_eq]

theorem get_pairSessions_restored (hlive : store.Live now) (iter : IterOrder)
    {pairSessionId : String} {session : V2PairSession} :
    (hydrateV2FromRedis (persistV2 store now) now iter).pairSessions.get pairSessionId =
        some session ↔
      store.pairSessions.get pairSessionId = some session ∧
        now < session.expiresAt ∧ (store.desktops.get session.deviceId).isSome = true := by
  have hread : (hydrateV2FromRedis (persistV2 store now) now iter).pairSessions.get pairSessionId =
      some session ↔ (persistV2 store now).pairSessions.get pairSessionId = some session ∧
        now < session.expiresAt ∧ ((hydrateV2FromRedis (persistV2 store now) now iter).desktops.get
          session.deviceId).isSome = true := get_keptPairSessions
  have hwritten : (persistV2 store now).pairSessions.get pairSessionId = some session ↔
      store.pairSessions.get pairSessionId = some session ∧ now < session.expiresAt ∧
        ((persistV2 store now).desktops.get session.deviceId).isSome = true := get_keptPairSessions
  rw [hread, hwritten, get_desktops_restored hlive, get_desktops_persistV2 hlive]
  tauto

end Reading

/-! ## The index made anew -/

/-- The index has an entry for the pair session. -/
def V2PairSession.indexable (session : V2PairSession) : Prop :=
  session.claimToken ≠ "" ∧ (session.status = .pending ∨ session.status = .claimed)

instance : DecidablePred V2PairSession.indexable := fun session =>
  inferInstanceAs (Decidable (session.claimToken ≠ "" ∧
    (session.status = .pending ∨ session.status = .claimed)))

theorem indexPairSession_eq :
    indexPairSession =
      PartialIndex.indexRow V2PairSession.claimToken V2PairSession.indexable := by
  funext index entry
  have hskipped : (entry.2.claimToken = "" ∨
      entry.2.status ≠ .pending ∧ entry.2.status ≠ .claimed) ↔ ¬entry.2.indexable := by
    unfold V2PairSession.indexable
    tauto
  unfold indexPairSession PartialIndex.indexRow
  by_cases hindexed : entry.2.indexable
  · rw [if_pos hindexed, if_neg fun hskip => hskipped.mp hskip hindexed]
  · rw [if_neg hindexed, if_pos (hskipped.mpr hindexed)]

section Index

variable {store : V2Store} {iter : IterOrder}

/-- The index that a walk over pair sessions with tokens of their own makes. -/
theorem index_rebuilt {sessions : OrderedMap String V2PairSession} (htokened : Tokened sessions)
    (hdistinct : ∀ {pairSessionId other session otherSession},
      sessions.get pairSessionId = some session → sessions.get other = some otherSession →
        session.claimToken = otherSession.claimToken → pairSessionId = other) :
    PartialIndex sessions ((iter.order sessions.entries).foldl indexPairSession ∅)
      V2PairSession.claimToken V2PairSession.isOpen := by
  have hindex : PartialIndex sessions ((iter.order sessions.entries).foldl indexPairSession ∅)
      V2PairSession.claimToken V2PairSession.indexable := by
    rw [indexPairSession_eq]
    exact PartialIndex.rebuild (iter.perm _) hdistinct
  refine ⟨hindex.distinct, hindex.exact.trans ?_⟩
  constructor
  · rintro ⟨session, hget, htoken, -, hopen⟩
    exact ⟨session, hget, htoken, hopen⟩
  · rintro ⟨session, hget, htoken, hopen⟩
    exact ⟨session, hget, htoken, htokened _ _ hget, hopen⟩

/-- The pair sessions that a restart keeps were in the store. -/
theorem get_pairSessions_of_restart {persistedAt hydratedAt : ℤ} {pairSessionId : String}
    {session : V2PairSession}
    (hget : (hydrateV2FromRedis (persistV2 store persistedAt) hydratedAt iter).pairSessions.get
      pairSessionId = some session) : store.pairSessions.get pairSessionId = some session :=
  (get_keptPairSessions.mp (get_keptPairSessions.mp hget).1).1

/-- **The index that a restart makes** has the open ones of the pair sessions that are
left. -/
theorem index_restart (hconsistent : store.Consistent) (persistedAt hydratedAt : ℤ) :
    PartialIndex
      (hydrateV2FromRedis (persistV2 store persistedAt) hydratedAt iter).pairSessions
      (hydrateV2FromRedis (persistV2 store persistedAt) hydratedAt iter).pairClaimTokenIndex
      V2PairSession.claimToken V2PairSession.isOpen := by
  have hindex := @index_rebuilt iter
    (hydrateV2FromRedis (persistV2 store persistedAt) hydratedAt iter).pairSessions
    (fun _ _ hget => hconsistent.tokened _ _ (get_pairSessions_of_restart hget))
    (fun hget hother => hconsistent.indexed.index.distinct (get_pairSessions_of_restart hget)
      (get_pairSessions_of_restart hother))
  unfold hydrateV2FromRedis applySnapshot at hindex ⊢
  dsimp only at hindex ⊢
  split
  · exact hindex
  · exact hindex

end Index

/-! ## What holds in every run -/

section Invariant

variable {store next : V2Store} {env : Env}

theorem ne_empty_of_makeId {kind id : String} (hdraw : env.makeId kind = some id) : id ≠ "" := by
  obtain ⟨text, -, rfl⟩ := Option.map_eq_some_iff.mp hdraw
  intro hempty
  have hlength := congrArg String.length hempty
  rw [String.length_append, String.length_append] at hlength
  have hone : "_".length = 1 := by decide
  have hzero : "".length = 0 := by decide
  omega

theorem Tokened.set {sessions : OrderedMap String V2PairSession} (htokened : Tokened sessions)
    (pairSessionId : String) {session : V2PairSession} (htoken : session.claimToken ≠ "") :
    Tokened (sessions.set pairSessionId session) := by
  intro other found hget
  rw [OrderedMap.get_set] at hget
  split at hget
  · obtain rfl := Option.some.inj hget
    exact htoken
  · exact htokened other found hget

theorem Tokened.pair (htokened : Tokened store.pairSessions) (hpair : PairChange env store next) :
    Tokened next.pairSessions := by
  cases hpair with
  | openPairSession hget hfresh => exact htokened.set _ (ne_empty_of_makeId hfresh.claimToken)
  | deletePairSession =>
      intro other found hget
      exact htokened other found (OrderedMap.get_of_get_erase hget)
  | expirePairSession hindex hget =>
      have htoken := htokened _ _ hget
      exact htokened.set _ htoken
  | claim hindex hget =>
      have htoken := htokened _ _ hget
      exact htokened.set _ htoken
  | approve hget =>
      unfold approvePairSession
      split
      · exact htokened
      · next session hsession =>
          have htoken := htokened _ _ hsession
          exact htokened.set _ htoken

theorem Tokened.perform (htokened : Tokened store.pairSessions) (operation : V2Operation) :
    Tokened (perform env store operation).1.pairSessions := by
  refine @perform_preserves env store (fun store => Tokened store.pairSessions) operation ?_ ?_ ?_
    htokened
  · intro htokened pairSessionId session hget
    rw [get_pairSessions_prune] at hget
    obtain ⟨old, hold, rfl⟩ := Option.map_eq_some_iff.mp hget
    rw [V2PairSession.claimToken_pruned]
    exact htokened pairSessionId old hold
  · intro store next htokened hrecord
    rw [(samePairing_of_records (.single hrecord)).pairSessions]
    exact htokened
  · exact fun _ htokened hpair => htokened.pair hpair

/-- A restart leaves out sessions together with their entities. -/
theorem V2Store.Accounted.restart (haccounted : store.Accounted) (persistedAt hydratedAt : ℤ)
    (iter : IterOrder) :
    (hydrateV2FromRedis (persistV2 store persistedAt) hydratedAt iter).Accounted where
  desktops deviceId desktop hget := by
    unfold hydrateV2FromRedis persistV2 applySnapshot at hget
    dsimp only at hget
    exact haccounted.desktops deviceId desktop (get_of_get_filter (get_of_get_filter hget))
  mobiles mobileId mobile hget := by
    unfold hydrateV2FromRedis persistV2 applySnapshot at hget
    dsimp only at hget
    exact haccounted.mobiles mobileId mobile (get_of_get_filter (get_of_get_filter hget))
  sessions {token session} hget := by
    unfold hydrateV2FromRedis persistV2 applySnapshot at hget ⊢
    dsimp only at hget ⊢
    have hkey := haccounted.sessions (get_of_get_filter (get_of_get_filter hget))
    rw [keptAuthSessions, OrderedMap.get_filter_eq_some_iff,
      decide_eq_true_eq] at hget
    obtain ⟨-, -, hentity⟩ := hget
    -- the record that the session was kept for is the one the store had
    unfold V2AuthSession.hasEntity at hentity
    cases htype : session.entityType with
    | desktop =>
        rw [htype] at hentity hkey
        obtain ⟨desktop, hdesktop⟩ := Option.isSome_iff_exists.mp hentity
        rw [V2Store.keyOf, get_of_get_filter (get_of_get_filter hdesktop)] at hkey
        rw [V2Store.keyOf, hdesktop]
        exact hkey
    | mobile =>
        rw [htype] at hentity hkey
        obtain ⟨mobile, hmobile⟩ := Option.isSome_iff_exists.mp hentity
        rw [V2Store.keyOf, get_of_get_filter (get_of_get_filter hmobile)] at hkey
        rw [V2Store.keyOf, hmobile]
        exact hkey

theorem consistent_step (hconsistent : store.Consistent) {event : V2StoreEvent}
    (hfresh : store.StepDrawsFresh event) : (store.step event).Consistent := by
  cases event with
  | perform env operation =>
      exact ⟨hconsistent.accounted.perform operation, hconsistent.indexed.perform hfresh operation,
        hconsistent.tokened.perform operation⟩
  | restart persistedAt hydratedAt iter =>
      refine ⟨hconsistent.accounted.restart persistedAt hydratedAt iter, ⟨?_, ?_⟩, ?_⟩
      · intro pairSessionId session hget
        exact hconsistent.indexed.keyed _ _ (get_pairSessions_of_restart hget)
      · exact index_restart hconsistent persistedAt hydratedAt
      · intro pairSessionId session hget
        exact hconsistent.tokened _ _ (get_pairSessions_of_restart hget)

theorem consistent_newV2Store : newV2Store.Consistent where
  accounted := accounted_newV2Store
  indexed := ⟨.empty, .empty⟩
  tokened _ _ hget := nomatch hget

theorem consistent_run {events : List V2StoreEvent}
    (hfresh : Steps.Along V2Store.step V2Store.StepDrawsFresh newV2Store events) :
    (Steps.run V2Store.step newV2Store events).Consistent := by
  have hstep : ∀ (store : V2Store) event, store.Consistent → store.StepDrawsFresh event →
      (store.step event).Consistent :=
    fun _ _ hconsistent hfresh => consistent_step hconsistent hfresh
  exact Steps.run_preserves hstep consistent_newV2Store hfresh

end Invariant

/-! ## The round trip -/

/-- **What is persisted comes back.**  Of a store in which nothing is expired, a server
that starts at once has the same desktops, mobiles, sessions and bindings, the pair
sessions that are in time and whose desktop is known, and the claim tokens of these. -/
theorem hydrate_persist {events : List V2StoreEvent}
    (hfresh : Steps.Along V2Store.step V2Store.StepDrawsFresh newV2Store events) {now : ℤ}
    (hlive : (Steps.run V2Store.step newV2Store events).Live now) (iter : IterOrder) :
    let store := Steps.run V2Store.step newV2Store events
    let restored := hydrateV2FromRedis (persistV2 store now) now iter
    restored.desktops.Same store.desktops ∧ restored.mobiles.Same store.mobiles ∧
      restored.authSessions.Same store.authSessions ∧ restored.bindings.Same store.bindings ∧
      (∀ pairSessionId session, restored.pairSessions.get pairSessionId = some session ↔
        store.pairSessions.get pairSessionId = some session ∧ now < session.expiresAt ∧
          (store.desktops.get session.deviceId).isSome = true) ∧
      ∀ claimToken pairSessionId,
        restored.pairClaimTokenIndex.get claimToken = some pairSessionId ↔
          store.pairClaimTokenIndex.get claimToken = some pairSessionId ∧
            (restored.pairSessions.get pairSessionId).isSome = true := by
  intro store restored
  have hconsistent : store.Consistent := consistent_run hfresh
  have hsessions : ∀ {pairSessionId session},
      restored.pairSessions.get pairSessionId = some session ↔
        store.pairSessions.get pairSessionId = some session ∧ now < session.expiresAt ∧
          (store.desktops.get session.deviceId).isSome = true :=
    get_pairSessions_restored hlive iter
  have hindex := @index_restart store iter hconsistent now now
  refine ⟨get_desktops_restored hlive iter, get_mobiles_restored hlive iter,
    get_authSessions_restored hconsistent.accounted hlive iter, fun _ => rfl,
    fun _ _ => hsessions, ?_⟩
  intro claimToken pairSessionId
  rw [hindex.exact, hconsistent.indexed.index.exact]
  constructor
  · rintro ⟨session, hget, htoken, hopen⟩
    refine ⟨⟨session, (hsessions.mp hget).1, htoken, hopen⟩, ?_⟩
    exact Option.isSome_iff_exists.mpr ⟨session, hget⟩
  · rintro ⟨⟨session, hget, htoken, hopen⟩, hkept⟩
    obtain ⟨found, hfound⟩ := Option.isSome_iff_exists.mp hkept
    have hsame := (hsessions.mp hfound).1
    rw [hget] at hsame
    obtain rfl := Option.some.inj hsame
    exact ⟨session, hfound, htoken, hopen⟩

/-- A desktop logs in and opens a pair session. -/
def openingEvents : List V2StoreEvent :=
  [.perform (unpairedEnv 1 "1") (.createChallenge ⟨"desktop", "d", firstKey⟩),
    .perform (unpairedEnv 1 "1") (.login ⟨"desktop", "d", firstKey, "v2chl_1", anySignature⟩),
    .perform (trustingEnv 1 "1") (.createPairSession principalOfD 0)]

/-- Quiet operations by themselves are a run. -/
theorem run_quietly (store : V2Store) (operations : List V2Operation) :
    Steps.run V2Store.step store (operations.map (V2StoreEvent.perform (unpairedEnv 1 "1"))) =
      performAll store operations := by
  unfold Steps.run performAll
  rw [List.foldl_map]
  rfl

theorem run_openingEvents :
    Steps.run V2Store.step newV2Store (openingEvents.take 2) = loggedInQuietly ∧
      Steps.run V2Store.step newV2Store openingEvents = pairOpened := by
  have hlogin : Steps.run V2Store.step newV2Store (openingEvents.take 2) = loggedInQuietly :=
    run_quietly newV2Store [.createChallenge ⟨"desktop", "d", firstKey⟩,
      .login ⟨"desktop", "d", firstKey, "v2chl_1", anySignature⟩]
  have hopening : openingEvents = openingEvents.take 2 ++
      [.perform (trustingEnv 1 "1") (.createPairSession principalOfD 0)] := rfl
  refine ⟨hlogin, ?_⟩
  rw [hopening, Steps.run_concat, hlogin, step_perform, pairOpened]

theorem drawsFresh_openingEvents :
    Steps.Along V2Store.step V2Store.StepDrawsFresh newV2Store openingEvents := by
  have hquiet : Steps.Along V2Store.step V2Store.StepDrawsFresh newV2Store
      (openingEvents.take 2) :=
    ⟨drawsFresh_unpairedEnv 1 "1" _, drawsFresh_unpairedEnv 1 "1" _, trivial⟩
  refine Steps.along_concat.mpr ⟨hquiet, ?_⟩
  rw [run_openingEvents.1]
  obtain ⟨hid, htoken⟩ := pairOpened_indexed.1
  exact drawsFresh_of_not_mem rfl rfl hid htoken

def principalOfPhone : V2Principal :=
  ⟨⟨"v2sess_2", "v2tok_2", .mobile, "phone", firstKey, 2, 2, 900002⟩, none, none⟩

/-- A mobile logs in after the desktop has opened its pair session. -/
def meetingEvents : List V2StoreEvent :=
  openingEvents ++
    [.perform (unpairedEnv 2 "2") (.createChallenge ⟨"mobile", "phone", firstKey⟩),
      .perform (unpairedEnv 2 "2") (.login ⟨"mobile", "phone", firstKey, "v2chl_2", anySignature⟩)]

theorem drawsFresh_meetingEvents :
    Steps.Along V2Store.step V2Store.StepDrawsFresh newV2Store meetingEvents := by
  refine Steps.along_append.mpr ⟨drawsFresh_openingEvents, ?_⟩
  exact ⟨drawsFresh_unpairedEnv 2 "2" _, drawsFresh_unpairedEnv 2 "2" _, trivial⟩

/-- The mobile claims the pair session. -/
def claimedEvents : List V2StoreEvent :=
  meetingEvents ++
    [.perform (unpairedEnv 3 "3") (.claimPair principalOfPhone ⟨"v2claim_1", ""⟩)]

/-- Nobody is silent for too long, and no session is over. -/
def V2Store.allLive (store : V2Store) (now : ℤ) : Bool :=
  (store.desktops.values.all fun desktop => !desktop.inactive now) &&
    (store.mobiles.values.all fun mobile => !mobile.inactive now) &&
    store.authSessions.values.all fun session => decide (now < session.expiresAt)

theorem live_of_allLive {store : V2Store} {now : ℤ} (hall : store.allLive now = true) :
    store.Live now := by
  unfold V2Store.allLive at hall
  rw [Bool.and_eq_true, Bool.and_eq_true] at hall
  obtain ⟨⟨hdesktops, hmobiles⟩, hsessions⟩ := hall
  constructor
  · intro deviceId desktop hget
    have hactive := List.all_eq_true.mp hdesktops _ (OrderedMap.mem_values_of_get hget)
    rwa [Bool.not_eq_true'] at hactive
  · intro mobileId mobile hget
    have hactive := List.all_eq_true.mp hmobiles _ (OrderedMap.mem_values_of_get hget)
    rwa [Bool.not_eq_true'] at hactive
  · intro token session hget
    exact of_decide_eq_true (List.all_eq_true.mp hsessions _ (OrderedMap.mem_values_of_get hget))

/-- A store with a desktop, a mobile, a binding and a pair session that is claimed. -/
theorem hydrate_persist_claimed :
    let store := Steps.run V2Store.step newV2Store claimedEvents
    let restored := hydrateV2FromRedis (persistV2 store 3) 3 .stored
    (store.desktops.keys = ["d"] ∧ store.mobiles.keys = ["phone"] ∧
      store.bindings.keys = ["v2bind_3"] ∧
        store.pairSessions.values.map V2PairSession.status = [.claimed]) ∧
    restored.desktops.Same store.desktops ∧ restored.mobiles.Same store.mobiles ∧
      restored.authSessions.Same store.authSessions ∧ restored.bindings.Same store.bindings ∧
      (∀ pairSessionId session, restored.pairSessions.get pairSessionId = some session ↔
        store.pairSessions.get pairSessionId = some session ∧ 3 < session.expiresAt ∧
          (store.desktops.get session.deviceId).isSome = true) ∧
      ∀ claimToken pairSessionId,
        restored.pairClaimTokenIndex.get claimToken = some pairSessionId ↔
          store.pairClaimTokenIndex.get claimToken = some pairSessionId ∧
            (restored.pairSessions.get pairSessionId).isSome = true := by
  have hfresh : Steps.Along V2Store.step V2Store.StepDrawsFresh newV2Store claimedEvents :=
    Steps.along_append.mpr
      ⟨drawsFresh_meetingEvents, drawsFresh_unpairedEnv 3 "3" _, trivial⟩
  have hrun : (Steps.run V2Store.step newV2Store claimedEvents).allLive 3 = true ∧
      (Steps.run V2Store.step newV2Store claimedEvents).desktops.keys = ["d"] ∧
      (Steps.run V2Store.step newV2Store claimedEvents).mobiles.keys = ["phone"] ∧
      (Steps.run V2Store.step newV2Store claimedEvents).bindings.keys = ["v2bind_3"] ∧
        (Steps.run V2Store.step newV2Store claimedEvents).pairSessions.values.map
          V2PairSession.status = [.claimed] := by
    decide +kernel
  exact ⟨hrun.2, hydrate_persist hfresh (live_of_allLive hrun.1) .stored⟩

end OpenClaw.Server
