import OpenClaw.Server.V2Changes

/-!
# Sessions and the entities they belong to

Three maps are pruned in one pass, each by its own clock: sessions by when they expire,
records by when the entity was last active.  A session whose record is forgotten is
dropped with it, so the record of every session is there, and it has the session's key.
-/

namespace OpenClaw.Server

open OpenClaw.Runtime

/-- A record stands under its id, and every session has a record with its key. -/
structure V2Store.Accounted (store : V2Store) : Prop where
  desktops : store.desktops.KeyedBy V2Desktop.deviceId
  mobiles : store.mobiles.KeyedBy V2Mobile.mobileId
  sessions : ∀ {token session}, store.authSessions.get token = some session →
    store.keyOf session.entityType session.entityId = some session.publicKey

variable {env : Env} {store next : V2Store}

/-! ## The prune -/

theorem clientKey_inj {entityType otherType : EntityType} {entityId otherId : String} :
    clientKey entityType.name entityId = clientKey otherType.name otherId ↔
      entityType = otherType ∧ entityId = otherId := by
  constructor
  · intro heq
    have hlist := congrArg String.toList heq
    simp only [clientKey, String.toList_append] at hlist
    cases entityType with
    | desktop =>
        cases otherType with
        | desktop => exact ⟨rfl, String.toList_inj.mp (List.append_cancel_left hlist)⟩
        | mobile => exact absurd hlist (by simp [EntityType.name])
    | mobile =>
        cases otherType with
        | desktop => exact absurd hlist (by simp [EntityType.name])
        | mobile => exact ⟨rfl, String.toList_inj.mp (List.append_cancel_left hlist)⟩
  · rintro ⟨rfl, rfl⟩
    rfl

/-- The record of the entity is one that a prune forgets. -/
def V2Store.forgets (store : V2Store) (now : ℤ) : EntityType → String → Prop
  | .desktop, deviceId =>
      ∃ desktop, store.desktops.get deviceId = some desktop ∧ desktop.inactive now = true
  | .mobile, mobileId =>
      ∃ mobile, store.mobiles.get mobileId = some mobile ∧ mobile.inactive now = true

theorem mem_removedEntityKeys_iff {now : ℤ} {entityType : EntityType} {entityId : String} :
    clientKey entityType.name entityId ∈ removedEntityKeys store now ↔
      store.forgets now entityType entityId := by
  unfold removedEntityKeys
  simp only [List.mem_append, List.mem_map, OrderedMap.mem_keys_iff,
    OrderedMap.get_filter_eq_some_iff, clientKey_inj]
  cases entityType with
  | desktop => simp [V2Store.forgets]
  | mobile => simp [V2Store.forgets]

/-- The entity is one of those that the prune keeps. -/
theorem keyOf_prune {entityType : EntityType} {entityId : String} {now : ℤ}
    (hkept : ¬store.forgets now entityType entityId) :
    (pruneExpiredLocked store now).keyOf entityType entityId =
      store.keyOf entityType entityId := by
  cases entityType with
  | desktop =>
      rw [V2Store.keyOf, V2Store.keyOf, pruneExpiredLocked, OrderedMap.get_filter]
      cases hget : store.desktops.get entityId with
      | none => rfl
      | some desktop =>
          have hactive : desktop.inactive now = false := by
            by_contra hinactive
            rw [Bool.not_eq_false] at hinactive
            exact hkept ⟨desktop, hget, hinactive⟩
          rw [Option.filter_some, hactive]
          rfl
  | mobile =>
      rw [V2Store.keyOf, V2Store.keyOf, pruneExpiredLocked, OrderedMap.get_filter]
      cases hget : store.mobiles.get entityId with
      | none => rfl
      | some mobile =>
          have hactive : mobile.inactive now = false := by
            by_contra hinactive
            rw [Bool.not_eq_false] at hinactive
            exact hkept ⟨mobile, hget, hinactive⟩
          rw [Option.filter_some, hactive]
          rfl

theorem get_authSessions_prune {token : String} {session : V2AuthSession} {now : ℤ} :
    (pruneExpiredLocked store now).authSessions.get token = some session ↔
      store.authSessions.get token = some session ∧ now < session.expiresAt ∧
        ¬store.forgets now session.entityType session.entityId := by
  rw [pruneExpiredLocked, OrderedMap.get_filter_eq_some_iff, decide_eq_true_eq,
    mem_removedEntityKeys_iff]

theorem V2Store.Accounted.prune (haccounted : store.Accounted) (now : ℤ) :
    (pruneExpiredLocked store now).Accounted where
  desktops := haccounted.desktops.filter _
  mobiles := haccounted.mobiles.filter _
  sessions hget := by
    obtain ⟨hsession, -, hkept⟩ := get_authSessions_prune.mp hget
    rw [keyOf_prune hkept]
    exact haccounted.sessions hsession

/-! ## Changes of records -/

/-- Writing a record that keeps the key, or of an entity that had none. -/
theorem V2Store.Accounted.putDesktop (haccounted : store.Accounted) {deviceId : String}
    {desktop : V2Desktop} (hid : desktop.deviceId = deviceId)
    (hkey : ∀ old, store.desktops.get deviceId = some old → old.publicKey = desktop.publicKey) :
    (store.putDesktop deviceId desktop).Accounted where
  desktops := haccounted.desktops.set hid
  mobiles := haccounted.mobiles
  sessions {token session} hget := by
    have hold := haccounted.sessions hget
    cases htype : session.entityType with
    | mobile =>
        rw [htype] at hold
        exact hold
    | desktop =>
        rw [htype, V2Store.keyOf] at hold
        rw [V2Store.keyOf, V2Store.putDesktop, OrderedMap.get_set]
        split
        · next heq =>
            obtain ⟨old, hget, holdkey⟩ := Option.map_eq_some_iff.mp hold
            rw [heq] at hget
            rw [Option.map_some, ← hkey old hget, holdkey]
        · exact hold

theorem V2Store.Accounted.putMobile (haccounted : store.Accounted) {mobileId : String}
    {mobile : V2Mobile} (hid : mobile.mobileId = mobileId)
    (hkey : ∀ old, store.mobiles.get mobileId = some old → old.publicKey = mobile.publicKey) :
    (store.putMobile mobileId mobile).Accounted where
  desktops := haccounted.desktops
  mobiles := haccounted.mobiles.set hid
  sessions {token session} hget := by
    have hold := haccounted.sessions hget
    cases htype : session.entityType with
    | desktop =>
        rw [htype] at hold
        exact hold
    | mobile =>
        rw [htype, V2Store.keyOf] at hold
        rw [V2Store.keyOf, V2Store.putMobile, OrderedMap.get_set]
        split
        · next heq =>
            obtain ⟨old, hget, holdkey⟩ := Option.map_eq_some_iff.mp hold
            rw [heq] at hget
            rw [Option.map_some, ← hkey old hget, holdkey]
        · exact hold

theorem V2Store.Accounted.putAuthSession (haccounted : store.Accounted) (token : String)
    (session : V2AuthSession)
    (hkey : store.keyOf session.entityType session.entityId = some session.publicKey) :
    V2Store.Accounted { store with authSessions := store.authSessions.set token session } where
  desktops := haccounted.desktops
  mobiles := haccounted.mobiles
  sessions hget := by
    rw [OrderedMap.get_set] at hget
    split at hget
    · obtain rfl := Option.some.inj hget
      exact hkey
    · exact haccounted.sessions hget

/-- The other maps say nothing about records and sessions. -/
theorem V2Store.Accounted.of_maps (haccounted : store.Accounted)
    (hdesktops : next.desktops = store.desktops) (hmobiles : next.mobiles = store.mobiles)
    (hsessions : ∀ {token session}, next.authSessions.get token = some session →
      store.authSessions.get token = some session) : next.Accounted where
  desktops := by
    rw [hdesktops]
    exact haccounted.desktops
  mobiles := by
    rw [hmobiles]
    exact haccounted.mobiles
  sessions {token session} hget := by
    have hold := haccounted.sessions (hsessions hget)
    cases htype : session.entityType with
    | desktop =>
        rw [htype, V2Store.keyOf] at hold
        rw [V2Store.keyOf, hdesktops]
        exact hold
    | mobile =>
        rw [htype, V2Store.keyOf] at hold
        rw [V2Store.keyOf, hmobiles]
        exact hold

theorem V2Store.Accounted.record (haccounted : store.Accounted)
    (hrecord : RecordChange env store next) : next.Accounted := by
  cases hrecord with
  | challenges challenges => exact haccounted.of_maps rfl rfl id
  | enrollDesktop hnone =>
      apply haccounted.putDesktop
      · rfl
      · intro old hold
        rw [hnone] at hold
        cases hold
  | enrollMobile hnone =>
      apply haccounted.putMobile
      · rfl
      · intro old hold
        rw [hnone] at hold
        cases hold
  | refreshDesktop hget htarget hid hkey =>
      obtain rfl := haccounted.desktops _ _ hget
      obtain rfl := htarget.elim id id
      apply haccounted.putDesktop hid
      intro other hother
      rw [hget] at hother
      obtain rfl := Option.some.inj hother
      exact hkey.symm
  | refreshMobile hget htarget hid hkey =>
      obtain rfl := haccounted.mobiles _ _ hget
      obtain rfl := htarget.elim id id
      apply haccounted.putMobile hid
      intro other hother
      rw [hget] at hother
      obtain rfl := Option.some.inj hother
      exact hkey.symm
  | openAuthSession htoken hkey => exact haccounted.putAuthSession _ _ hkey
  | extendAuthSession hget =>
      have hkey := haccounted.sessions hget
      apply haccounted.putAuthSession
      exact hkey
  | dropAuthSession hget =>
      refine @V2Store.Accounted.of_maps store _ haccounted rfl rfl ?_
      intro token session hget
      exact OrderedMap.get_of_get_erase hget

theorem V2Store.Accounted.pair (haccounted : store.Accounted)
    (hpair : PairChange env store next) : next.Accounted := by
  cases hpair with
  | openPairSession => exact haccounted.of_maps rfl rfl id
  | deletePairSession => exact haccounted.of_maps rfl rfl id
  | expirePairSession => exact haccounted.of_maps rfl rfl id
  | claim => exact haccounted.of_maps rfl rfl id
  | approve =>
      unfold approvePairSession
      split
      · exact haccounted.of_maps rfl rfl id
      · exact haccounted.of_maps rfl rfl id

theorem V2Store.Accounted.perform (haccounted : store.Accounted) (operation : V2Operation) :
    (perform env store operation).1.Accounted :=
  perform_preserves (fun haccounted => haccounted.prune _) V2Store.Accounted.record
    (fun _ => V2Store.Accounted.pair) haccounted

theorem accounted_newV2Store : newV2Store.Accounted where
  desktops := .empty
  mobiles := .empty
  sessions hget := nomatch hget

theorem accounted_of_reachable {draws : Env → V2Store → Prop}
    (hreachable : ReachableWith draws store) : store.Accounted := by
  induction hreachable with
  | initial => exact accounted_newV2Store
  | perform operation _ _ ih => exact ih.perform operation
  | restore iter _ ih => exact ih.of_maps rfl rfl id

/-! ## What it is for -/

/-- A session that the prune keeps finds its record. -/
theorem principalOf_of_accounted {now : ℤ} {session : V2AuthSession}
    (hkey : store.keyOf session.entityType session.entityId = some session.publicKey) :
    (principalOf now store session).1 = store := by
  unfold principalOf
  cases htype : session.entityType with
  | desktop =>
      rw [htype, V2Store.keyOf] at hkey
      obtain ⟨desktop, hget, -⟩ := Option.map_eq_some_iff.mp hkey
      dsimp only
      rw [hget]
  | mobile =>
      rw [htype, V2Store.keyOf] at hkey
      obtain ⟨mobile, hget, -⟩ := Option.map_eq_some_iff.mp hkey
      dsimp only
      rw [hget]

/-- **Every session has its entity.**  In every store that is reached, the record of the
entity of a session has the session's key, and to authenticate makes no record. -/
theorem sessions_have_records (hreachable : Reachable store) :
    (∀ token session, store.authSessions.get token = some session →
        store.keyOf session.entityType session.entityId = some session.publicKey) ∧
      ∀ now token, unicodeTrim token ≠ "" →
        (authenticate now store token).1.desktops = (pruneExpiredLocked store now).desktops ∧
          (authenticate now store token).1.mobiles = (pruneExpiredLocked store now).mobiles := by
  have haccounted := accounted_of_reachable hreachable
  refine ⟨fun token session => haccounted.sessions, fun now token htoken => ?_⟩
  have hpruned := haccounted.prune now
  rw [authenticate, if_neg htoken]
  unfold authenticateLocked
  split
  · exact ⟨rfl, rfl⟩
  next session hsession =>
  split
  · exact ⟨rfl, rfl⟩
  · dsimp only
    have hkey := hpruned.sessions hsession
    rw [principalOf_of_accounted]
    · exact ⟨rfl, rfl⟩
    · exact hkey

theorem sessions_have_records_loggedIn :
    ∃ session, loggedIn.authSessions.get "v2tok_1" = some session ∧
      loggedIn.keyOf session.entityType session.entityId = some session.publicKey := by
  have hsome : (loggedIn.authSessions.get "v2tok_1").isSome = true := by decide +kernel
  obtain ⟨session, hget⟩ := Option.isSome_iff_exists.mp hsome
  exact ⟨session, hget,
    (sessions_have_records (reachable_loggedIn fun _ => trivial)).1 "v2tok_1" session hget⟩

end OpenClaw.Server
