import Mathlib.Logic.Relator
import OpenClaw.Lib.Steps
import OpenClaw.Server.V2Changes

/-!
# One key for each id

A binding names the keys of its two sides, but a sender is let through by its id.  That
the id stands for one key is kept by the record of the entity alone: a login under
another key is refused while there is one.  The record goes after a quarter of an hour
of silence, and the binding does not.

What the server names, in its store and in the requests under way, is a relation between
entities and keys.  No operation adds to it but a login that makes a record anew, so the
relation stays a function as long as these logins bring the key that is named already.
-/

namespace OpenClaw.Server

open OpenClaw.Runtime

/-! ## The server and its runs -/

/-- The store, and the principals of the requests under way: a request is
authenticated first and served later. -/
structure V2Server where
  store : V2Store
  requests : OrderedMap ℕ V2Principal

inductive V2Event
  | prune (now : ℤ)
  | createChallenge (env : Env) (req : V2ChallengeRequest)
  | login (env : Env) (req : V2LoginRequest)
  | authenticate (now : ℤ) (request : ℕ) (token : String)
  | announcePresence (now : ℤ) (request : ℕ) (req : V2PresenceRequest)
  | heartbeatPresence (now : ℤ) (request : ℕ) (req : V2PresenceRequest)
  | createPairSession (env : Env) (request : ℕ) (ttlSeconds : ℤ)
  | deletePairSession (now : ℤ) (request : ℕ) (pairSessionId : String)
  | claimPair (env : Env) (request : ℕ) (req : V2PairClaimRequest)
  | approveBinding (now : ℤ) (request : ℕ) (bindingId : String)
  | finish (request : ℕ)

namespace V2Server

def initial : V2Server := ⟨newV2Store, ∅⟩

/-- A request that was authenticated is served, and is over. -/
def serve (server : V2Server) (request : ℕ) (operation : V2Principal → V2Store) : V2Server :=
  match server.requests.get request with
  | none => server
  | some principal => ⟨operation principal, server.requests.erase request⟩

def enter (server : V2Server) (request : ℕ) :
    V2Store × Except ServerError V2Principal → V2Server
  | (store, .error _) => ⟨store, server.requests⟩
  | (store, .ok principal) => ⟨store, server.requests.set request principal⟩

def step (server : V2Server) : V2Event → V2Server
  | .prune now => ⟨pruneExpiredLocked server.store now, server.requests⟩
  | .createChallenge env req => ⟨(createChallenge env server.store req).1, server.requests⟩
  | .login env req => ⟨(login env server.store req).1, server.requests⟩
  | .authenticate now request token =>
      server.enter request (authenticate now server.store token)
  | .announcePresence now request req =>
      server.serve request fun principal => (announcePresence now server.store principal req).1
  | .heartbeatPresence now request req =>
      server.serve request fun principal => (heartbeatPresence now server.store principal req).1
  | .createPairSession env request ttlSeconds =>
      server.serve request fun principal =>
        (createPairSession env server.store principal ttlSeconds).1
  | .deletePairSession now request pairSessionId =>
      server.serve request fun principal =>
        (deletePairSession now server.store principal pairSessionId).1
  | .claimPair env request req =>
      server.serve request fun principal => (claimPair env server.store principal req).1
  | .approveBinding now request bindingId =>
      server.serve request fun principal =>
        (approveBinding now server.store principal bindingId).1
  | .finish request => ⟨server.store, server.requests.erase request⟩

end V2Server

/-! ## What the server names -/

/-- The store names this key for the entity. -/
inductive V2Store.Names (store : V2Store) : EntityType → String → String → Prop
  | desktop {deviceId : String} {desktop : V2Desktop}
      (hget : store.desktops.get deviceId = some desktop) :
      Names store .desktop desktop.deviceId desktop.publicKey
  | mobile {mobileId : String} {mobile : V2Mobile}
      (hget : store.mobiles.get mobileId = some mobile) :
      Names store .mobile mobile.mobileId mobile.publicKey
  | session {session : V2AuthSession} (hmem : session ∈ store.authSessions.values) :
      Names store session.entityType session.entityId session.publicKey
  | pairSession {session : V2PairSession} (hmem : session ∈ store.pairSessions.values)
      (hopen : session.status = .pending ∨ session.status = .claimed) :
      Names store .desktop session.deviceId session.devicePublicKey
  | device {binding : V2Binding} (hmem : binding ∈ store.bindings.values) :
      Names store .desktop binding.deviceId binding.devicePublicKey
  | phone {binding : V2Binding} (hmem : binding ∈ store.bindings.values) :
      Names store .mobile binding.mobileId binding.mobilePublicKey

/-- The store names keys only as `owns` has them, and a record stands under its id. -/
structure V2Store.Within (owns : EntityType → String → String → Prop) (store : V2Store) :
    Prop where
  desktops : ∀ {deviceId desktop}, store.desktops.get deviceId = some desktop →
    desktop.deviceId = deviceId ∧ owns .desktop deviceId desktop.publicKey
  mobiles : ∀ {mobileId mobile}, store.mobiles.get mobileId = some mobile →
    mobile.mobileId = mobileId ∧ owns .mobile mobileId mobile.publicKey
  sessions : ∀ session ∈ store.authSessions.values,
    owns session.entityType session.entityId session.publicKey
  pairSessions : ∀ session ∈ store.pairSessions.values,
    session.status = .pending ∨ session.status = .claimed →
      owns .desktop session.deviceId session.devicePublicKey
  bindings : ∀ binding ∈ store.bindings.values,
    owns .desktop binding.deviceId binding.devicePublicKey ∧
      owns .mobile binding.mobileId binding.mobilePublicKey

namespace V2Store

variable {owns : EntityType → String → String → Prop} {store : V2Store}

theorem Within.names (hwithin : store.Within owns) {entityType : EntityType}
    {entityId publicKey : String} (hnames : store.Names entityType entityId publicKey) :
    owns entityType entityId publicKey := by
  cases hnames with
  | desktop hget =>
      obtain ⟨rfl, howns⟩ := hwithin.desktops hget
      exact howns
  | mobile hget =>
      obtain ⟨rfl, howns⟩ := hwithin.mobiles hget
      exact howns
  | session hmem => exact hwithin.sessions _ hmem
  | pairSession hmem hopen => exact hwithin.pairSessions _ hmem hopen
  | device hmem => exact (hwithin.bindings _ hmem).1
  | phone hmem => exact (hwithin.bindings _ hmem).2

/-- What the store names is the least relation that it stays within. -/
theorem Within.least (hwithin : store.Within owns)
    {wider : EntityType → String → String → Prop}
    (hnames : ∀ {entityType entityId publicKey}, store.Names entityType entityId publicKey →
      wider entityType entityId publicKey) : store.Within wider where
  desktops hget := by
    obtain ⟨hid, -⟩ := hwithin.desktops hget
    refine ⟨hid, ?_⟩
    rw [← hid]
    exact hnames (.desktop hget)
  mobiles hget := by
    obtain ⟨hid, -⟩ := hwithin.mobiles hget
    refine ⟨hid, ?_⟩
    rw [← hid]
    exact hnames (.mobile hget)
  sessions _ hmem := hnames (.session hmem)
  pairSessions _ hmem hopen := hnames (.pairSession hmem hopen)
  bindings _ hmem := ⟨hnames (.device hmem), hnames (.phone hmem)⟩

/-! ### Writing to the store -/

theorem within_newV2Store : newV2Store.Within owns where
  desktops hget := nomatch hget
  mobiles hget := nomatch hget
  sessions _ hmem := nomatch hmem
  pairSessions _ hmem := nomatch hmem
  bindings _ hmem := nomatch hmem

theorem Within.prune (hwithin : store.Within owns) (now : ℤ) :
    (pruneExpiredLocked store now).Within owns where
  desktops hget := by
    exact hwithin.desktops (OrderedMap.get_of_get_filter hget)
  mobiles hget := by
    exact hwithin.mobiles (OrderedMap.get_of_get_filter hget)
  sessions session hmem := hwithin.sessions session (OrderedMap.mem_values_of_mem_filter hmem)
  pairSessions session hmem hopen := by
    obtain ⟨_, old, hold, rfl⟩ := OrderedMap.mem_values_mapValues hmem
    split at hopen
    · simp at hopen
    · next hlive =>
        rw [if_neg hlive]
        exact hwithin.pairSessions old hold hopen
  bindings binding hmem := hwithin.bindings binding hmem

theorem Within.putDesktop (hwithin : store.Within owns) {deviceId : String}
    {desktop : V2Desktop} (hid : desktop.deviceId = deviceId)
    (howns : owns .desktop deviceId desktop.publicKey) :
    (store.putDesktop deviceId desktop).Within owns where
  desktops hget := by
    rw [V2Store.putDesktop, OrderedMap.get_set] at hget
    split at hget
    · next heq =>
        obtain rfl := Option.some.inj hget
        rw [heq]
        exact ⟨hid, howns⟩
    · exact hwithin.desktops hget
  mobiles := hwithin.mobiles
  sessions := hwithin.sessions
  pairSessions := hwithin.pairSessions
  bindings := hwithin.bindings

theorem Within.putMobile (hwithin : store.Within owns) {mobileId : String}
    {mobile : V2Mobile} (hid : mobile.mobileId = mobileId)
    (howns : owns .mobile mobileId mobile.publicKey) :
    (store.putMobile mobileId mobile).Within owns where
  desktops := hwithin.desktops
  mobiles hget := by
    rw [V2Store.putMobile, OrderedMap.get_set] at hget
    split at hget
    · next heq =>
        obtain rfl := Option.some.inj hget
        rw [heq]
        exact ⟨hid, howns⟩
    · exact hwithin.mobiles hget
  sessions := hwithin.sessions
  pairSessions := hwithin.pairSessions
  bindings := hwithin.bindings

theorem Within.putAuthSession (hwithin : store.Within owns) (token : String)
    (session : V2AuthSession)
    (howns : owns session.entityType session.entityId session.publicKey) :
    Within owns { store with authSessions := store.authSessions.set token session } where
  desktops := hwithin.desktops
  mobiles := hwithin.mobiles
  sessions other hmem := by
    rcases OrderedMap.eq_or_mem_of_mem_values_set hmem with rfl | hmem
    · exact howns
    · exact hwithin.sessions other hmem
  pairSessions := hwithin.pairSessions
  bindings := hwithin.bindings

theorem Within.putPairSession (hwithin : store.Within owns) (pairSessionId : String)
    (session : V2PairSession) (howns : session.status = .pending ∨ session.status = .claimed →
      owns .desktop session.deviceId session.devicePublicKey) :
    (store.putPairSession pairSessionId session).Within owns where
  desktops := hwithin.desktops
  mobiles := hwithin.mobiles
  sessions := hwithin.sessions
  pairSessions other hmem hopen := by
    rcases OrderedMap.eq_or_mem_of_mem_values_set hmem with rfl | hmem
    · exact howns hopen
    · exact hwithin.pairSessions other hmem hopen
  bindings := hwithin.bindings

theorem Within.putBinding (hwithin : store.Within owns) (binding : V2Binding)
    (hdevice : owns .desktop binding.deviceId binding.devicePublicKey)
    (hphone : owns .mobile binding.mobileId binding.mobilePublicKey) :
    (store.putBinding binding).Within owns where
  desktops := hwithin.desktops
  mobiles := hwithin.mobiles
  sessions := hwithin.sessions
  pairSessions := hwithin.pairSessions
  bindings other hmem := by
    rcases OrderedMap.eq_or_mem_of_mem_values_set hmem with rfl | hmem
    · exact ⟨hdevice, hphone⟩
    · exact hwithin.bindings other hmem

/-- Challenges, tokens of pair sessions and queues name no key; sessions and pair
sessions may go. -/
theorem Within.of_maps {next : V2Store} (hwithin : store.Within owns)
    (hdesktops : next.desktops = store.desktops) (hmobiles : next.mobiles = store.mobiles)
    (hsessions : next.authSessions.values ⊆ store.authSessions.values)
    (hpairs : next.pairSessions.values ⊆ store.pairSessions.values)
    (hbindings : next.bindings = store.bindings) : next.Within owns where
  desktops hget := hwithin.desktops (hdesktops ▸ hget)
  mobiles hget := hwithin.mobiles (hmobiles ▸ hget)
  sessions session hmem := hwithin.sessions session (hsessions hmem)
  pairSessions session hmem := hwithin.pairSessions session (hpairs hmem)
  bindings binding hmem := hwithin.bindings binding (hbindings ▸ hmem)

end V2Store

/-! ## What an operation names -/

section Operations

variable {owns : EntityType → String → String → Prop} {store : V2Store}

open V2Store

/-- The entity has a record. -/
def V2Store.hasRecord (store : V2Store) : EntityType → String → Bool
  | .desktop, deviceId => (store.desktops.get deviceId).isSome
  | .mobile, mobileId => (store.mobiles.get mobileId).isSome

/-- The login passes every check and makes the record of its entity. -/
def LoginPayload.Enrolls (payload : LoginPayload) (env : Env) (store : V2Store) : Prop :=
  (∃ challenge, store.challenges.get payload.challengeId = some challenge ∧
    env.now < challenge.expiresAt ∧ payload.answers env challenge = .ok ()) ∧
  store.hasRecord payload.entityType payload.entityId = false

theorem within_createChallenge (hwithin : store.Within owns) (env : Env)
    (req : V2ChallengeRequest) : (createChallenge env store req).1.Within owns := by
  unfold createChallenge
  split
  · exact hwithin
  · exact (hwithin.prune env.now).of_maps rfl rfl (List.Subset.refl _) (List.Subset.refl _) rfl

theorem within_recordDesktop (hwithin : store.Within owns) {now : ℤ} {payload : LoginPayload}
    (hnew : store.desktops.get payload.entityId = none →
      owns .desktop payload.entityId payload.normalizedKey)
    {next : V2Store} (hrecord : recordDesktop now store payload = .ok next) :
    next.Within owns ∧ owns .desktop payload.entityId payload.normalizedKey := by
  unfold recordDesktop at hrecord
  split at hrecord
  · next hnone =>
      obtain rfl := Except.ok.inj hrecord
      have howns := hnew hnone
      exact ⟨hwithin.putDesktop rfl howns, howns⟩
  · next desktop hsome =>
      obtain ⟨hid, howns⟩ := hwithin.desktops hsome
      split at hrecord
      · cases hrecord
      · next hkey =>
          obtain rfl := Except.ok.inj hrecord
          rw [not_not] at hkey
          rw [← hkey]
          refine ⟨?_, howns⟩
          apply hwithin.putDesktop
          · exact hid
          · exact howns

theorem within_recordMobile (hwithin : store.Within owns) {now : ℤ} {payload : LoginPayload}
    (hnew : store.mobiles.get payload.entityId = none →
      owns .mobile payload.entityId payload.normalizedKey)
    {next : V2Store} (hrecord : recordMobile now store payload = .ok next) :
    next.Within owns ∧ owns .mobile payload.entityId payload.normalizedKey := by
  unfold recordMobile at hrecord
  split at hrecord
  · next hnone =>
      obtain rfl := Except.ok.inj hrecord
      have howns := hnew hnone
      exact ⟨hwithin.putMobile rfl howns, howns⟩
  · next mobile hsome =>
      obtain ⟨hid, howns⟩ := hwithin.mobiles hsome
      split at hrecord
      · cases hrecord
      · next hkey =>
          obtain rfl := Except.ok.inj hrecord
          rw [not_not] at hkey
          rw [← hkey]
          refine ⟨?_, howns⟩
          apply hwithin.putMobile
          · exact hid
          · exact howns

theorem within_recordLogin (hwithin : store.Within owns) {now : ℤ} {payload : LoginPayload}
    (hnew : store.hasRecord payload.entityType payload.entityId = false →
      owns payload.entityType payload.entityId payload.normalizedKey)
    {next : V2Store} (hrecord : recordLogin now store payload = .ok next) :
    next.Within owns ∧ owns payload.entityType payload.entityId payload.normalizedKey := by
  unfold recordLogin at hrecord
  cases htype : payload.entityType with
  | desktop =>
      rw [htype] at hnew hrecord
      refine within_recordDesktop hwithin (fun hnone => hnew ?_) hrecord
      rw [hasRecord, hnone, Option.isSome_none]
  | mobile =>
      rw [htype] at hnew hrecord
      refine within_recordMobile hwithin (fun hnone => hnew ?_) hrecord
      rw [hasRecord, hnone, Option.isSome_none]

theorem within_openAuthSession (hwithin : store.Within owns) (env : Env) {payload : LoginPayload}
    (howns : owns payload.entityType payload.entityId payload.normalizedKey) :
    (openAuthSession env store payload).1.Within owns := by
  unfold openAuthSession
  split
  · exact hwithin.putAuthSession _ _ howns
  · exact hwithin

theorem within_loginLocked (hwithin : store.Within owns) (env : Env) {payload : LoginPayload}
    (hnew : payload.Enrolls env store →
      owns payload.entityType payload.entityId payload.normalizedKey) :
    (loginLocked env store payload).1.Within owns := by
  unfold loginLocked
  split
  · exact hwithin
  next challenge hchallenge =>
  split
  · exact hwithin.of_maps rfl rfl (List.Subset.refl _) (List.Subset.refl _) rfl
  next hlive =>
  split
  · exact hwithin
  next next hbind =>
  cases hanswers : payload.answers env challenge with
  | error error =>
      rw [hanswers] at hbind
      cases hbind
  | ok answered =>
      rw [hanswers] at hbind
      have hrecord : recordLogin env.now store payload = .ok next := hbind
      obtain ⟨hnext, howns⟩ := within_recordLogin hwithin (fun hnone =>
        hnew ⟨⟨challenge, hchallenge, not_le.mp hlive, hanswers⟩, hnone⟩) hrecord
      apply within_openAuthSession _ env howns
      exact hnext.of_maps rfl rfl (List.Subset.refl _) (List.Subset.refl _) rfl

theorem within_login (hwithin : store.Within owns) (env : Env) {req : V2LoginRequest}
    (hnew : ∀ payload, req.read = .ok payload →
      payload.Enrolls env (pruneExpiredLocked store env.now) →
        owns payload.entityType payload.entityId payload.normalizedKey) :
    (login env store req).1.Within owns := by
  unfold login
  split
  · exact hwithin
  · next payload hread => exact within_loginLocked (hwithin.prune env.now) env (hnew payload hread)

/-- A request owns its key as the store does. -/
def V2Principal.Owned (owns : EntityType → String → String → Prop) (principal : V2Principal) :
    Prop :=
  owns principal.session.entityType principal.session.entityId principal.session.publicKey

theorem within_principalOf (hwithin : store.Within owns) (now : ℤ) (session : V2AuthSession)
    (howns : owns session.entityType session.entityId session.publicKey) :
    (principalOf now store session).1.Within owns ∧
      (principalOf now store session).2.Owned owns := by
  unfold principalOf
  split
  · next htype =>
      have hdesktop : owns .desktop session.entityId session.publicKey := htype ▸ howns
      split
      · exact ⟨hwithin, howns⟩
      · exact ⟨hwithin.putDesktop rfl hdesktop, howns⟩
  · next htype =>
      have hmobile : owns .mobile session.entityId session.publicKey := htype ▸ howns
      split
      · exact ⟨hwithin, howns⟩
      · exact ⟨hwithin.putMobile rfl hmobile, howns⟩

theorem within_authenticateLocked (hwithin : store.Within owns) (now : ℤ) (token : String) :
    (authenticateLocked now store token).1.Within owns ∧
      ∀ principal, (authenticateLocked now store token).2 = .ok principal →
        principal.Owned owns := by
  unfold authenticateLocked
  split
  · exact ⟨hwithin, fun _ herror => nomatch herror⟩
  next session hsession =>
  split
  · refine ⟨?_, fun _ herror => nomatch herror⟩
    exact hwithin.of_maps rfl rfl (fun _ => OrderedMap.mem_values_of_mem_erase)
      (List.Subset.refl _) rfl
  · have howns : owns session.entityType session.entityId session.publicKey :=
      hwithin.sessions session (OrderedMap.mem_values_of_get hsession)
    -- the session lasts longer, for the same entity and key
    have hprincipal := within_principalOf (hwithin.putAuthSession token
      { session with updatedAt := now, expiresAt := now + v2AuthSessionTtl } howns) now
      { session with updatedAt := now, expiresAt := now + v2AuthSessionTtl } howns
    refine ⟨hprincipal.1, fun principal hok => ?_⟩
    obtain rfl := Except.ok.inj hok
    exact hprincipal.2

theorem within_authenticate (hwithin : store.Within owns) (now : ℤ) (token : String) :
    (authenticate now store token).1.Within owns ∧
      ∀ principal, (authenticate now store token).2 = .ok principal → principal.Owned owns := by
  unfold authenticate
  split
  · exact ⟨hwithin, fun _ herror => nomatch herror⟩
  · exact within_authenticateLocked (hwithin.prune now) now _

/-- A change of its own record that keeps id and key. -/
theorem within_updateRecord (hwithin : store.Within owns) (now : ℤ) (principal : V2Principal)
    {desktopOf : V2Desktop → V2Desktop} {mobileOf : V2Mobile → V2Mobile}
    (hdesktop : ∀ desktop, (desktopOf desktop).deviceId = desktop.deviceId ∧
      (desktopOf desktop).publicKey = desktop.publicKey)
    (hmobile : ∀ mobile, (mobileOf mobile).mobileId = mobile.mobileId ∧
      (mobileOf mobile).publicKey = mobile.publicKey) :
    (updateRecord now store principal desktopOf mobileOf).1.Within owns := by
  have hpruned := hwithin.prune now
  unfold updateRecord
  dsimp only
  split
  · split
    · exact hpruned
    · next desktop hsome =>
        obtain ⟨hid, hkey⟩ := hdesktop desktop
        obtain ⟨hentity, howns⟩ := hpruned.desktops hsome
        apply hpruned.putDesktop rfl
        rw [hid, hkey, hentity]
        exact howns
  · split
    · exact hpruned
    · next mobile hsome =>
        obtain ⟨hid, hkey⟩ := hmobile mobile
        obtain ⟨hentity, howns⟩ := hpruned.mobiles hsome
        apply hpruned.putMobile rfl
        rw [hid, hkey, hentity]
        exact howns

theorem within_announcePresence (hwithin : store.Within owns) (now : ℤ) (principal : V2Principal)
    (req : V2PresenceRequest) : (announcePresence now store principal req).1.Within owns := by
  apply within_updateRecord hwithin
  · intro desktop
    simp only [announceDesktop, and_self]
  · intro mobile
    simp only [announceMobile, and_self]

theorem within_heartbeatPresence (hwithin : store.Within owns) (now : ℤ) (principal : V2Principal)
    (req : V2PresenceRequest) : (heartbeatPresence now store principal req).1.Within owns := by
  apply within_updateRecord hwithin
  · intro desktop
    simp only [heartbeatDesktop, and_self]
  · intro mobile
    simp only [heartbeatMobile, and_self]

theorem within_openPairSession (hwithin : store.Within owns) (env : Env) {desktop : V2Desktop}
    (howns : owns .desktop desktop.deviceId desktop.publicKey) (ttl : ℤ) :
    (openPairSession env store desktop ttl).1.Within owns := by
  unfold openPairSession
  split
  · refine Within.of_maps (hwithin.putPairSession _ _ ?_) rfl rfl (List.Subset.refl _)
      (List.Subset.refl _) rfl
    exact fun _ => howns
  · exact hwithin

theorem within_createPairSession (hwithin : store.Within owns) (env : Env)
    (principal : V2Principal) (ttlSeconds : ℤ) :
    (createPairSession env store principal ttlSeconds).1.Within owns := by
  have hpruned := hwithin.prune env.now
  unfold createPairSession
  dsimp only
  split
  · exact hwithin
  split
  · exact hpruned
  · next desktop hsome =>
      obtain ⟨hid, howns⟩ := hpruned.desktops hsome
      apply within_openPairSession hpruned env
      rw [hid]
      exact howns

theorem within_deletePairSessionLocked (hwithin : store.Within owns) (principal : V2Principal)
    (pairSessionId : String) :
    (deletePairSessionLocked store principal pairSessionId).1.Within owns := by
  unfold deletePairSessionLocked
  split
  · exact hwithin
  split
  · exact hwithin
  split
  · exact hwithin
  · exact hwithin.of_maps rfl rfl (List.Subset.refl _)
      (fun _ => OrderedMap.mem_values_of_mem_erase) rfl

theorem within_deletePairSession (hwithin : store.Within owns) (now : ℤ)
    (principal : V2Principal) (pairSessionId : String) :
    (deletePairSession now store principal pairSessionId).1.Within owns := by
  unfold deletePairSession
  split
  · exact hwithin
  split
  · exact hwithin
  · exact within_deletePairSessionLocked (hwithin.prune now) principal _

/-- The keys of a binding after a claim are the one of the pair session and the one of
the mobile. -/
theorem claimedBinding_sides {env : Env} {session : V2PairSession} {mobile : V2Mobile}
    {binding : V2Binding}
    (hclaimed : claimedBinding env (findBindingLocked env store session.deviceId mobile.mobileId)
      session mobile = .ok binding) :
    binding.deviceId = session.deviceId ∧ binding.devicePublicKey = session.devicePublicKey ∧
      binding.mobileId = mobile.mobileId ∧ binding.mobilePublicKey = mobile.publicKey := by
  unfold claimedBinding at hclaimed
  split at hclaimed
  · next existing hfound =>
      have hjoins := List.find?_some hfound
      simp only [V2Binding.joins, Bool.and_eq_true, decide_eq_true_eq] at hjoins
      split at hclaimed
      · cases hclaimed
      · obtain rfl := Except.ok.inj hclaimed
        exact ⟨hjoins.1.1, rfl, hjoins.1.2, rfl⟩
  · split at hclaimed
    · cases hclaimed
    · obtain rfl := Except.ok.inj hclaimed
      exact ⟨rfl, rfl, rfl, rfl⟩

theorem within_claimBy (hwithin : store.Within owns) (env : Env) {session : V2PairSession}
    {mobile : V2Mobile} (hdevice : owns .desktop session.deviceId session.devicePublicKey)
    (hphone : owns .mobile mobile.mobileId mobile.publicKey) :
    (claimBy env store session mobile).1.Within owns := by
  unfold claimBy
  split
  · exact hwithin
  · next binding hclaimed =>
      obtain ⟨hdeviceId, hdeviceKey, hmobileId, hmobileKey⟩ := claimedBinding_sides hclaimed
      rw [← hdeviceId, ← hdeviceKey] at hdevice
      rw [← hmobileId, ← hmobileKey] at hphone
      apply (hwithin.putBinding binding hdevice hphone).putPairSession
      intro _
      show owns .desktop session.deviceId session.devicePublicKey
      rw [← hdeviceId, ← hdeviceKey]
      exact hdevice

theorem within_renameMobile (hwithin : store.Within owns) (now : ℤ) {mobile : V2Mobile}
    (howns : owns .mobile mobile.mobileId mobile.publicKey) (mobileName : String) :
    (renameMobile now store mobile mobileName).1.Within owns ∧
      owns .mobile (renameMobile now store mobile mobileName).2.mobileId
        (renameMobile now store mobile mobileName).2.publicKey := by
  unfold renameMobile
  split
  · exact ⟨hwithin, howns⟩
  · exact ⟨hwithin.putMobile rfl howns, howns⟩

/-- Only an open pair session can be claimed. -/
theorem open_of_claimableBy {session : V2PairSession} {mobileId : String}
    (hclaimable : session.claimableBy mobileId = .ok ()) :
    session.status = .pending ∨ session.status = .claimed := by
  unfold V2PairSession.claimableBy at hclaimable
  split at hclaimable
  · cases hclaimable
  · next hopen => tauto

theorem within_claimPairLocked (hwithin : store.Within owns) (env : Env)
    (principal : V2Principal) (claimToken mobileName : String) :
    (claimPairLocked env store principal claimToken mobileName).1.Within owns := by
  unfold claimPairLocked
  split
  · exact hwithin
  next pairSessionId session hfound =>
  have hmem : session ∈ store.pairSessions.values := by
    obtain ⟨_, -, hmap⟩ := Option.bind_eq_some_iff.mp hfound
    obtain ⟨_, hget, heq⟩ := Option.map_eq_some_iff.mp hmap
    obtain ⟨rfl, rfl⟩ := Prod.mk.inj heq
    exact OrderedMap.mem_values_of_get hget
  split
  · have hput := hwithin.putPairSession pairSessionId
      { session with status := .expired, updatedAt := env.now } (by simp)
    exact hput.of_maps rfl rfl (List.Subset.refl _) (List.Subset.refl _) rfl
  split
  · exact hwithin
  next hclaimable =>
  split
  · exact hwithin
  · next mobile hmobile =>
      obtain ⟨hid, howns⟩ := hwithin.mobiles hmobile
      rw [← hid] at howns
      have hrenamed := within_renameMobile hwithin env.now howns mobileName
      have hopen := open_of_claimableBy hclaimable
      exact within_claimBy hrenamed.1 env (hwithin.pairSessions session hmem hopen) hrenamed.2

theorem within_claimPair (hwithin : store.Within owns) (env : Env) (principal : V2Principal)
    (req : V2PairClaimRequest) : (claimPair env store principal req).1.Within owns := by
  unfold claimPair
  split
  · exact hwithin
  split
  · exact hwithin
  · exact within_claimPairLocked (hwithin.prune env.now) env principal _ _

theorem within_approvePairSession (hwithin : store.Within owns) (now : ℤ)
    (pairSessionId : String) : (approvePairSession now store pairSessionId).Within owns := by
  unfold approvePairSession
  split
  · exact hwithin
  · next session _ =>
      have hput := hwithin.putPairSession session.pairSessionId
        { session with status := .approved, updatedAt := now } (by simp)
      exact hput.of_maps rfl rfl (List.Subset.refl _) (List.Subset.refl _) rfl

theorem within_approveBindingLocked (hwithin : store.Within owns) (now : ℤ)
    (principal : V2Principal) (bindingId : String) :
    (approveBindingLocked now store principal bindingId).1.Within owns := by
  unfold approveBindingLocked
  split
  · exact hwithin
  next binding hget =>
  split
  · exact hwithin
  split
  · exact hwithin
  · obtain ⟨hdevice, hphone⟩ := hwithin.bindings binding (OrderedMap.mem_values_of_get hget)
    apply within_approvePairSession
    apply hwithin.putBinding
    · exact hdevice
    · exact hphone

theorem within_approveBinding (hwithin : store.Within owns) (now : ℤ) (principal : V2Principal)
    (bindingId : String) : (approveBinding now store principal bindingId).1.Within owns := by
  unfold approveBinding
  split
  · exact hwithin
  split
  · exact hwithin
  · exact within_approveBindingLocked (hwithin.prune now) now principal _

end Operations

/-! ## Runs -/

namespace V2Server

/-- The store or a request under way names this key for the entity. -/
def Names (server : V2Server) (entityType : EntityType) (entityId publicKey : String) : Prop :=
  server.store.Names entityType entityId publicKey ∨
    ∃ principal ∈ server.requests.values, principal.session.entityType = entityType ∧
      principal.session.entityId = entityId ∧ principal.session.publicKey = publicKey

structure Within (owns : EntityType → String → String → Prop) (server : V2Server) : Prop where
  store : server.store.Within owns
  requests : ∀ principal ∈ server.requests.values, principal.Owned owns

/-- What the server names is a function of the entity. -/
def OneKey (server : V2Server) : Prop :=
  ∃ owns, server.Within owns ∧ Relator.RightUnique (Function.uncurry owns)

/-- A login that makes the record of its entity brings the key that the server, once it
has forgotten what expired, still names for it. -/
def KeepsPin (server : V2Server) : V2Event → Prop
  | .login env req => ∀ payload, req.read = .ok payload →
      payload.Enrolls env (pruneExpiredLocked server.store env.now) →
        ∀ publicKey, Names ⟨pruneExpiredLocked server.store env.now, server.requests⟩
          payload.entityType payload.entityId publicKey → publicKey = payload.normalizedKey
  | _ => True

variable {owns : EntityType → String → String → Prop} {server : V2Server}

theorem Within.names (hwithin : server.Within owns) {entityType : EntityType}
    {entityId publicKey : String} (hnames : server.Names entityType entityId publicKey) :
    owns entityType entityId publicKey := by
  rcases hnames with hstore | ⟨principal, hmem, rfl, rfl, rfl⟩
  · exact hwithin.store.names hstore
  · exact hwithin.requests principal hmem

theorem within_serve (hwithin : server.Within owns) (request : ℕ)
    {operation : V2Principal → V2Store} (hop : ∀ principal, (operation principal).Within owns) :
    (server.serve request operation).Within owns := by
  unfold serve
  split
  · exact hwithin
  · refine ⟨hop _, fun principal hmem => hwithin.requests principal ?_⟩
    exact OrderedMap.mem_values_of_mem_erase hmem

theorem within_enter (hwithin : server.Within owns) (request : ℕ)
    {outcome : V2Store × Except ServerError V2Principal} (hstore : outcome.1.Within owns)
    (hprincipal : ∀ principal, outcome.2 = .ok principal → principal.Owned owns) :
    (server.enter request outcome).Within owns := by
  obtain ⟨store, error | principal⟩ := outcome
  · exact ⟨hstore, hwithin.requests⟩
  · refine ⟨hstore, fun other hmem => ?_⟩
    rcases OrderedMap.eq_or_mem_of_mem_values_set hmem with rfl | hmem
    · exact hprincipal other rfl
    · exact hwithin.requests other hmem

/-- No step but a login that enrolls an entity names anything new. -/
theorem within_step (hwithin : server.Within owns) {event : V2Event}
    (hlogin : ∀ env req, event = .login env req → ∀ payload, req.read = .ok payload →
      payload.Enrolls env (pruneExpiredLocked server.store env.now) →
        owns payload.entityType payload.entityId payload.normalizedKey) :
    (server.step event).Within owns := by
  cases event with
  | prune now => exact ⟨hwithin.store.prune now, hwithin.requests⟩
  | createChallenge env req =>
      unfold step
      exact ⟨within_createChallenge hwithin.store env req, hwithin.requests⟩
  | login env req =>
      unfold step
      exact ⟨within_login hwithin.store env (hlogin env req rfl), hwithin.requests⟩
  | authenticate now request token =>
      obtain ⟨hstore, hprincipal⟩ := within_authenticate hwithin.store now token
      exact within_enter hwithin request hstore hprincipal
  | announcePresence now request req =>
      refine within_serve hwithin request fun principal => ?_
      exact within_announcePresence hwithin.store now principal req
  | heartbeatPresence now request req =>
      refine within_serve hwithin request fun principal => ?_
      exact within_heartbeatPresence hwithin.store now principal req
  | createPairSession env request ttlSeconds =>
      refine within_serve hwithin request fun principal => ?_
      exact within_createPairSession hwithin.store env principal ttlSeconds
  | deletePairSession now request pairSessionId =>
      refine within_serve hwithin request fun principal => ?_
      exact within_deletePairSession hwithin.store now principal pairSessionId
  | claimPair env request req =>
      refine within_serve hwithin request fun principal => ?_
      exact within_claimPair hwithin.store env principal req
  | approveBinding now request bindingId =>
      refine within_serve hwithin request fun principal => ?_
      exact within_approveBinding hwithin.store now principal bindingId
  | finish request =>
      exact ⟨hwithin.store, fun principal hmem =>
        hwithin.requests principal (OrderedMap.mem_values_of_mem_erase hmem)⟩

theorem oneKey_initial : initial.OneKey :=
  ⟨fun _ _ _ => False, ⟨V2Store.within_newV2Store, fun _ hmem => nomatch hmem⟩,
    fun _ _ _ h => h.elim⟩

/-- A login that keeps the pin adds its key to what the pruned server names. -/
theorem oneKey_login (hone : server.OneKey) {env : Env} {req : V2LoginRequest}
    (hpin : server.KeepsPin (.login env req)) : (server.step (.login env req)).OneKey := by
  obtain ⟨owns, hwithin, hunique⟩ := hone
  by_cases henrolls : ∃ payload, req.read = .ok payload ∧
      payload.Enrolls env (pruneExpiredLocked server.store env.now)
  · obtain ⟨payload, hread, henrolls⟩ := henrolls
    let pruned : V2Server := ⟨pruneExpiredLocked server.store env.now, server.requests⟩
    have hpruned : pruned.Within owns := ⟨hwithin.store.prune env.now, hwithin.requests⟩
    have hkey := hpin payload hread henrolls
    refine ⟨fun entityType entityId publicKey => pruned.Names entityType entityId publicKey ∨
      entityType = payload.entityType ∧ entityId = payload.entityId ∧
        publicKey = payload.normalizedKey, ⟨?_, ?_⟩, ?_⟩
    · unfold step login
      simp only [hread]
      apply within_loginLocked
      · exact hpruned.store.least fun hnames => Or.inl (Or.inl hnames)
      · exact fun _ => Or.inr ⟨rfl, rfl, rfl⟩
    · exact fun principal hmem => Or.inl (Or.inr ⟨principal, hmem, rfl, rfl, rfl⟩)
    · rintro ⟨entityType, entityId⟩ key other (hnames | ⟨rfl, rfl, rfl⟩) (hother | hlogin)
      · exact hunique (hpruned.names hnames) (hpruned.names hother)
      · obtain ⟨rfl, rfl, rfl⟩ := hlogin
        exact hkey key hnames
      · exact (hkey other hother).symm
      · exact hlogin.2.2.symm
  · refine ⟨owns, within_step hwithin fun env' req' heq payload hread hnew => ?_, hunique⟩
    obtain ⟨rfl, rfl⟩ := V2Event.login.inj heq
    exact absurd ⟨payload, hread, hnew⟩ henrolls

theorem oneKey_step {event : V2Event} (hone : server.OneKey) (hpin : server.KeepsPin event) :
    (server.step event).OneKey := by
  by_cases hlogin : ∃ env req, event = .login env req
  · obtain ⟨env, req, rfl⟩ := hlogin
    exact oneKey_login hone hpin
  · obtain ⟨owns, hwithin, hunique⟩ := hone
    refine ⟨owns, within_step hwithin fun env req heq => ?_, hunique⟩
    exact absurd ⟨env, req, heq⟩ hlogin

/-! ## The key that a signal is sent under -/

/-- The binding is active and joins the sender with the target, and the sender's side
has the key of its session. -/
def Vouches (binding : V2Binding) (principal : V2Principal) (targetId : String) : Prop :=
  binding.trustState = .active ∧
    match principal.session.entityType with
    | .desktop => binding.joins principal.session.entityId targetId ∧
        binding.devicePublicKey = principal.session.publicKey
    | .mobile => binding.joins targetId principal.session.entityId ∧
        binding.mobilePublicKey = principal.session.publicKey

/-- Whatever request is under way, it may send a signal only along a binding that has
the key of its session. -/
def Pinned (server : V2Server) : Prop :=
  ∀ principal ∈ server.requests.values, ∀ req,
    authorizeSignalSend server.store principal req = .ok () →
      ∃ binding ∈ server.store.bindings.values, Vouches binding principal (unicodeTrim req.toId)

theorem exists_of_hasActiveBinding {store : V2Store} {deviceId mobileId : String}
    (hactive : hasActiveBindingLocked store deviceId mobileId = true) :
    ∃ binding ∈ store.bindings.values, binding.joins deviceId mobileId ∧
      binding.trustState = .active := by
  obtain ⟨binding, hmem, hbinding⟩ := List.any_eq_true.mp hactive
  rw [Bool.and_eq_true, decide_eq_true_eq] at hbinding
  exact ⟨binding, hmem, hbinding⟩

/-- A sender that is let through has an active binding with the target. -/
theorem active_of_authorized {store : V2Store} {principal : V2Principal} {req : SendSignalRequest}
    (hauthorized : authorizeSignalSend store principal req = .ok ()) :
    match principal.session.entityType with
    | .desktop =>
        hasActiveBindingLocked store principal.session.entityId (unicodeTrim req.toId) = true
    | .mobile =>
        hasActiveBindingLocked store (unicodeTrim req.toId) principal.session.entityId = true := by
  unfold authorizeSignalSend at hauthorized
  dsimp only at hauthorized
  split at hauthorized
  · cases hauthorized
  cases htype : principal.session.entityType with
  | desktop =>
      rw [htype] at hauthorized
      dsimp only at hauthorized ⊢
      split at hauthorized
      · cases hauthorized
      split at hauthorized
      · cases hauthorized
      split at hauthorized
      · next hactive => exact hactive
      · cases hauthorized
  | mobile =>
      rw [htype] at hauthorized
      dsimp only at hauthorized ⊢
      split at hauthorized
      · cases hauthorized
      split at hauthorized
      · cases hauthorized
      split at hauthorized
      · next hactive => exact hactive
      · cases hauthorized

theorem pinned_of_oneKey (hone : server.OneKey) : server.Pinned := by
  obtain ⟨owns, hwithin, hunique⟩ := hone
  intro principal hmem req hauthorized
  have hactive := active_of_authorized hauthorized
  have howned : owns principal.session.entityType principal.session.entityId
      principal.session.publicKey := hwithin.requests principal hmem
  cases htype : principal.session.entityType with
  | desktop =>
      rw [htype] at hactive howned
      obtain ⟨binding, hbinding, hjoins, htrust⟩ := exists_of_hasActiveBinding hactive
      have hid : binding.deviceId = principal.session.entityId := by
        simpa using (of_decide_eq_true hjoins).1
      have hside := (hwithin.store.bindings binding hbinding).1
      rw [hid] at hside
      refine ⟨binding, hbinding, htrust, ?_⟩
      rw [htype]
      exact ⟨hjoins, hunique (a := (.desktop, _)) hside howned⟩
  | mobile =>
      rw [htype] at hactive howned
      obtain ⟨binding, hbinding, hjoins, htrust⟩ := exists_of_hasActiveBinding hactive
      have hid : binding.mobileId = principal.session.entityId := by
        simpa using (of_decide_eq_true hjoins).2
      have hside := (hwithin.store.bindings binding hbinding).2
      rw [hid] at hside
      refine ⟨binding, hbinding, htrust, ?_⟩
      rw [htype]
      exact ⟨hjoins, hunique (a := (.mobile, _)) hside howned⟩

/-- **An id stands for one key.**  As long as no login makes a record anew under another
key than the one that is named for its id, a signal goes out only along an active
binding with the key that the sender logged in with. -/
theorem sends_pinned {events : List V2Event} (hpins : Steps.Along step KeepsPin initial events) :
    ∀ before, before <+: events → (Steps.run step initial before).Pinned := by
  rintro before ⟨rest, rfl⟩
  have hbefore := (Steps.along_append.mp hpins).1
  exact pinned_of_oneKey (Steps.run_preserves (fun _ _ => oneKey_step) oneKey_initial hbefore)

/-! ### A run that forgets a desktop -/

/-- The ids that the server names, with their keys. -/
def named (server : V2Server) : List (String × String) :=
  (server.store.desktops.values.map fun desktop => (desktop.deviceId, desktop.publicKey)) ++
    ((server.store.mobiles.values.map fun mobile => (mobile.mobileId, mobile.publicKey)) ++
    ((server.store.authSessions.values.map fun session => (session.entityId, session.publicKey)) ++
    ((server.store.pairSessions.values.map fun session =>
      (session.deviceId, session.devicePublicKey)) ++
    ((server.store.bindings.values.map fun binding =>
      (binding.deviceId, binding.devicePublicKey)) ++
    ((server.store.bindings.values.map fun binding =>
      (binding.mobileId, binding.mobilePublicKey)) ++
    server.requests.values.map fun principal =>
      (principal.session.entityId, principal.session.publicKey))))))

theorem Names.mem_named {entityType : EntityType} {entityId publicKey : String}
    (hnames : server.Names entityType entityId publicKey) :
    (entityId, publicKey) ∈ server.named := by
  simp only [named, List.mem_append, List.mem_map]
  rcases hnames with hstore | ⟨principal, hmem, -, rfl, rfl⟩
  · cases hstore with
    | desktop hget => exact .inl ⟨_, OrderedMap.mem_values_of_get hget, rfl⟩
    | mobile hget => exact .inr (.inl ⟨_, OrderedMap.mem_values_of_get hget, rfl⟩)
    | session hmem => exact .inr (.inr (.inl ⟨_, hmem, rfl⟩))
    | pairSession hmem => exact .inr (.inr (.inr (.inl ⟨_, hmem, rfl⟩)))
    | device hmem => exact .inr (.inr (.inr (.inr (.inl ⟨_, hmem, rfl⟩))))
    | phone hmem => exact .inr (.inr (.inr (.inr (.inr (.inl ⟨_, hmem, rfl⟩)))))
  · exact .inr (.inr (.inr (.inr (.inr (.inr ⟨principal, hmem, rfl⟩)))))

theorem entityId_of_read {req : V2LoginRequest} {payload : LoginPayload}
    (hread : req.read = .ok payload) : payload.entityId = unicodeTrim req.entityId := by
  unfold V2LoginRequest.read at hread
  obtain ⟨entityType, -, hread⟩ := bind_eq_ok_iff.mp hread
  obtain ⟨entityId, htrim, hread⟩ := bind_eq_ok_iff.mp hread
  obtain ⟨challengeId, -, hread⟩ := bind_eq_ok_iff.mp hread
  obtain ⟨key, -, hread⟩ := bind_eq_ok_iff.mp hread
  obtain ⟨signature, -, hread⟩ := bind_eq_ok_iff.mp hread
  obtain rfl := Except.ok.inj hread
  exact eq_of_trimRequired htrim

/-- A login has the key with which everything that the server names for its id is named. -/
def NamedAlike (server : V2Server) : V2Event → Prop
  | .login env req =>
      ∀ entry ∈ named ⟨pruneExpiredLocked server.store env.now, server.requests⟩,
        entry.1 = unicodeTrim req.entityId →
          req.read.toOption.map LoginPayload.normalizedKey = some entry.2
  | _ => True

instance : (event : V2Event) → Decidable (server.NamedAlike event)
  | .login env _ =>
      inferInstanceAs (Decidable (∀ entry ∈
        named ⟨pruneExpiredLocked server.store env.now, server.requests⟩, _ → _))
  | .prune _ | .createChallenge _ _ | .authenticate _ _ _ | .announcePresence _ _ _
  | .heartbeatPresence _ _ _ | .createPairSession _ _ _ | .deletePairSession _ _ _
  | .claimPair _ _ _ | .approveBinding _ _ _ | .finish _ => isTrue trivial

theorem keepsPin_of_namedAlike {event : V2Event} (hnamed : server.NamedAlike event) :
    server.KeepsPin event := by
  cases event with
  | login env req =>
      intro payload hread _ publicKey hnames
      have hkey := hnamed _ (Names.mem_named hnames) (entityId_of_read hread)
      rw [hread] at hkey
      exact (Option.some.inj hkey).symm
  | _ => trivial

def otherKey : String := "BAAAAAAAAAAAAAAAAAAAAAAAAAAAAAAAAAAAAAAAAAA"

def loginEvents (now : ℤ) (text entityType entityId publicKey : String) : List V2Event :=
  [.createChallenge (trustingEnv now text) ⟨entityType, entityId, publicKey⟩,
    .login (trustingEnv now text)
      ⟨entityType, entityId, publicKey, "v2chl_" ++ text, anySignature⟩]

/-- A desktop and a mobile log in and pair. -/
def pairing : List V2Event :=
  loginEvents 1 "1" "desktop" "d" firstKey ++ loginEvents 1 "2" "mobile" "m" firstKey ++
    ([.authenticate 1 0 "v2tok_1", .createPairSession (trustingEnv 1 "1") 0 180,
      .authenticate 1 0 "v2tok_2", .claimPair (trustingEnv 1 "1") 0 ⟨"v2claim_1", ""⟩,
      .authenticate 1 0 "v2tok_1", .approveBinding 1 0 "v2bind_1"] : List V2Event)

/-- Sixteen minutes later the desktop is forgotten; it logs in again with its key and comes
to send. -/
def returning : List V2Event :=
  pairing ++ loginEvents 960001 "3" "desktop" "d" firstKey ++
    ([.authenticate 960001 0 "v2tok_3"] : List V2Event)

theorem sends_pinned_returning :
    ((Steps.run step initial returning).requests.get 0).map (fun principal =>
        authorizeSignalSend (Steps.run step initial returning).store principal
          ⟨"desktop", "d", "mobile", "m", "offer", []⟩) = some (.ok ()) ∧
      (Steps.run step initial returning).Pinned := by
  have hrun : Steps.Along step NamedAlike initial returning ∧
      ((Steps.run step initial returning).requests.get 0).map (fun principal =>
        authorizeSignalSend (Steps.run step initial returning).store principal
          ⟨"desktop", "d", "mobile", "m", "offer", []⟩) = some (.ok ()) := by
    decide +kernel
  have hpins : Steps.Along step KeepsPin initial returning :=
    hrun.1.imp fun _ _ => keepsPin_of_namedAlike
  exact ⟨hrun.2, sends_pinned hpins returning (List.prefix_refl _)⟩

/-- Sixteen minutes later the desktop's id logs in with another key. -/
def relogin : List V2Event :=
  pairing ++ loginEvents 960001 "3" "desktop" "d" otherKey ++
    ([.authenticate 960001 0 "v2tok_3"] : List V2Event)

/-- A desktop with one key that may send while every binding has another one. -/
theorem not_pinned_of_keys (req : SendSignalRequest) (request : ℕ) (publicKey bound : String)
    (hrun : (server.requests.get request).map (fun principal =>
      (principal.session.publicKey, principal.session.entityType,
        authorizeSignalSend server.store principal req,
        server.store.bindings.values.map V2Binding.devicePublicKey)) =
      some (publicKey, .desktop, .ok (), [bound])) (hkeys : publicKey ≠ bound) :
    ¬server.Pinned := by
  intro hpinned
  obtain ⟨principal, hget, hprincipal⟩ := Option.map_eq_some_iff.mp hrun
  simp only [Prod.mk.injEq] at hprincipal
  obtain ⟨rfl, htype, hauthorized, hbindings⟩ := hprincipal
  obtain ⟨binding, hmem, -, hvouches⟩ :=
    hpinned principal (OrderedMap.mem_values_of_get hget) req hauthorized
  rw [htype] at hvouches
  have hfirst : binding.devicePublicKey ∈ [bound] := by
    rw [← hbindings]
    exact List.mem_map_of_mem hmem
  rw [hvouches.2, List.mem_singleton] at hfirst
  exact hkeys hfirst

theorem not_sends_pinned :
    ¬∀ events before, before <+: events → (Steps.run step initial before).Pinned := by
  intro hpinned
  exact not_pinned_of_keys ⟨"desktop", "d", "mobile", "m", "offer", []⟩ 0 otherKey firstKey
    (by decide +kernel) (by decide +kernel) (hpinned relogin relogin (List.prefix_refl _))

end V2Server

end OpenClaw.Server
