import OpenClaw.Lib.OrderedMap
import OpenClaw.Runtime.Base64
import OpenClaw.Server.Signal

/-!
# The store of the pairing server

The server keeps desktops and mobiles under their ids, the sessions they logged in
with, pair sessions and bindings.  A login proves the possession of a key, and a
record remembers the key of its entity; `pruneExpiredLocked`, which nearly every
operation begins with, forgets the records of entities that were inactive.

An operation gives the store it leaves beside its answer: some fail after they have
changed it.
-/

namespace OpenClaw.Server

open OpenClaw.Runtime

/-! ## Records -/

inductive EntityType
  | desktop
  | mobile
deriving DecidableEq

inductive TrustState
  | pending
  | active
  | revoked
deriving DecidableEq

inductive PairStatus
  | pending
  | claimed
  | expired
  | approved
deriving DecidableEq

structure V2Desktop where
  deviceId : String
  publicKey : String
  platform : String
  appVersion : String
  capabilities : Option Json
  createdAt : ℤ
  updatedAt : ℤ
  lastSeenAt : ℤ
  presenceState : String

structure V2Mobile where
  mobileId : String
  mobileName : String
  publicKey : String
  platform : String
  appVersion : String
  capabilities : Option Json
  createdAt : ℤ
  updatedAt : ℤ
  lastSeenAt : ℤ
  presenceState : String

structure V2AuthChallenge where
  challengeId : String
  entityType : EntityType
  entityId : String
  publicKey : String
  nonce : String
  createdAt : ℤ
  expiresAt : ℤ

structure V2AuthSession where
  sessionId : String
  token : String
  entityType : EntityType
  entityId : String
  publicKey : String
  createdAt : ℤ
  updatedAt : ℤ
  expiresAt : ℤ

structure V2PairSession where
  pairSessionId : String
  deviceId : String
  devicePublicKey : String
  claimToken : String
  sessionNonce : String
  status : PairStatus
  createdAt : ℤ
  updatedAt : ℤ
  expiresAt : ℤ
  claimedMobileId : Option String
  bindingId : Option String

structure V2Binding where
  bindingId : String
  pairSessionId : String
  deviceId : String
  devicePublicKey : String
  mobileId : String
  mobileName : String
  mobilePublicKey : String
  trustState : TrustState
  createdAt : ℤ
  updatedAt : ℤ
  approvedAt : Option ℤ

/-- Who a request comes from. -/
structure V2Principal where
  session : V2AuthSession
  desktop : Option V2Desktop
  mobile : Option V2Mobile

structure V2Store where
  desktops : OrderedMap String V2Desktop
  mobiles : OrderedMap String V2Mobile
  challenges : OrderedMap String V2AuthChallenge
  authSessions : OrderedMap String V2AuthSession
  pairSessions : OrderedMap String V2PairSession
  pairClaimTokenIndex : OrderedMap String String
  bindings : OrderedMap String V2Binding
  signalQueues : OrderedMap String (List SignalEvent)

def newV2Store : V2Store := ⟨∅, ∅, ∅, ∅, ∅, ∅, ∅, ∅⟩

/-- What an operation reads from the machine: the clock, random text for each kind of
id or token, which may fail, the order of a map's entries, and the verification of an
Ed25519 signature. -/
structure Env where
  now : ℤ
  random : String → Option String
  iter : IterOrder
  verify : List ℕ → String → List ℕ → Bool

/-- `makeID` and `makeV2OpaqueToken`. -/
def Env.makeId (env : Env) (kind : String) : Option String :=
  (env.random kind).map fun text => kind ++ "_" ++ text

/-! ## Checks -/

def v2ChallengeTtl : ℤ := 5 * 60 * 1000

def v2AuthSessionTtl : ℤ := 15 * 60 * 1000

def v2ActiveEntityTtl : ℤ := 15 * 60 * 1000

def v2PairSessionMinTtl : ℤ := 60

def v2PairSessionMaxTtl : ℤ := 600

def v2PairSessionDefaultTtl : ℤ := 180

def EntityType.name : EntityType → String
  | .desktop => "desktop"
  | .mobile => "mobile"

def parseV2EntityType (value : String) : Except ServerError EntityType :=
  if unicodeTrim value = "desktop" then .ok .desktop
  else if unicodeTrim value = "mobile" then .ok .mobile
  else .error ⟨"VALIDATION_ERROR", "entityType must be desktop or mobile"⟩

/-- The first of the four encodings that reads the text. -/
def decodeBase64Flexible (value : String) : Option (List ℕ) :=
  if unicodeTrim value = "" then none
  else
    [Base64.rawUrl, Base64.url, Base64.rawStd, Base64.std].findSome? fun encoding =>
      encoding.decodeString (unicodeTrim value)

/-- The key as it is stored, and its bytes. -/
def normalizeEd25519PublicKey (value : String) : Except ServerError (String × List ℕ) :=
  match decodeBase64Flexible value with
  | none => .error ⟨"VALIDATION_ERROR", "publicKey must be valid base64"⟩
  | some bytes =>
      if bytes.length ≠ 32 then
        .error ⟨"VALIDATION_ERROR", "publicKey must be an Ed25519 public key"⟩
      else .ok (Base64.rawUrl.encodeToString bytes, bytes)

def normalizeEd25519Signature (value : String) : Except ServerError (List ℕ) :=
  match decodeBase64Flexible value with
  | none => .error ⟨"VALIDATION_ERROR", "signature must be valid base64"⟩
  | some bytes =>
      if bytes.length ≠ 64 then
        .error ⟨"VALIDATION_ERROR", "signature must be an Ed25519 signature"⟩
      else .ok bytes

def buildV2LoginMessage (challenge : V2AuthChallenge) : String :=
  "openclaw-v2-auth-login\n" ++ challenge.challengeId ++ "\n" ++ challenge.nonce ++ "\n" ++
    challenge.entityType.name ++ "\n" ++ challenge.entityId ++ "\n" ++ challenge.publicKey

/-- The words of a name, with one blank between them. -/
def normalizeV2DisplayName (value : String) : String :=
  String.intercalate " " ((((unicodeTrim value).toList.splitOnP unicodeBlank).filter fun word =>
    decide (word ≠ [])).map String.ofList)

/-! ## Forgetting -/

def v2EntityLastActiveAt (lastSeenAt updatedAt : ℤ) : ℤ :=
  if updatedAt < lastSeenAt then lastSeenAt else updatedAt

def v2EntityInactiveCutoff (now : ℤ) : ℤ := now - v2ActiveEntityTtl

def V2Desktop.inactive (now : ℤ) (desktop : V2Desktop) : Bool :=
  v2EntityLastActiveAt desktop.lastSeenAt desktop.updatedAt ≤ v2EntityInactiveCutoff now

def V2Mobile.inactive (now : ℤ) (mobile : V2Mobile) : Bool :=
  v2EntityLastActiveAt mobile.lastSeenAt mobile.updatedAt ≤ v2EntityInactiveCutoff now

/-- The pair session is open but its time is over. -/
def V2PairSession.expires (now : ℤ) (session : V2PairSession) : Bool :=
  session.expiresAt ≤ now ∧ (session.status = .pending ∨ session.status = .claimed)

/-- `removedEntityKeys` -/
def removedEntityKeys (store : V2Store) (now : ℤ) : List String :=
  (store.desktops.filter fun _ desktop => desktop.inactive now).keys.map
      (clientKey EntityType.desktop.name) ++
    (store.mobiles.filter fun _ mobile => mobile.inactive now).keys.map
      (clientKey EntityType.mobile.name)

def pruneExpiredLocked (store : V2Store) (now : ℤ) : V2Store where
  desktops := store.desktops.filter fun _ desktop => !desktop.inactive now
  mobiles := store.mobiles.filter fun _ mobile => !mobile.inactive now
  challenges := store.challenges.filter fun _ challenge => decide (now < challenge.expiresAt)
  authSessions := store.authSessions.filter fun _ session =>
    decide (now < session.expiresAt ∧
      clientKey session.entityType.name session.entityId ∉ removedEntityKeys store now)
  pairSessions := store.pairSessions.mapValues fun _ session =>
    if session.expires now then { session with status := .expired, updatedAt := now } else session
  pairClaimTokenIndex := store.pairClaimTokenIndex.filter fun claimToken _ =>
    decide (claimToken ∉ (store.pairSessions.filter fun _ session =>
      session.expires now).values.map V2PairSession.claimToken)
  bindings := store.bindings
  signalQueues := store.signalQueues.filter fun queueKey _ =>
    decide (queueKey ∉ removedEntityKeys store now)

/-! ## Logging in -/

structure V2ChallengeRequest where
  entityType : String
  entityId : String
  publicKey : String

structure V2LoginRequest where
  entityType : String
  entityId : String
  publicKey : String
  challengeId : String
  signature : String

/-- The challenge for a request whose fields are right. -/
def V2ChallengeRequest.read (req : V2ChallengeRequest) (env : Env) :
    Except ServerError V2AuthChallenge := do
  let entityType ← parseV2EntityType req.entityType
  let entityId ← trimRequired req.entityId "entityId"
  let (normalizedKey, _) ← normalizeEd25519PublicKey req.publicKey
  let failed := ServerError.mk "INTERNAL_ERROR" "failed to create challenge"
  let challengeId ← (env.makeId "v2chl").elim (.error failed) .ok
  let nonce ← (env.makeId "nonce").elim (.error failed) .ok
  return ⟨challengeId, entityType, entityId, normalizedKey, nonce, env.now,
    env.now + v2ChallengeTtl⟩

def createChallenge (env : Env) (store : V2Store) (req : V2ChallengeRequest) :
    V2Store × Except ServerError V2AuthChallenge :=
  match req.read env with
  | .error error => (store, .error error)
  | .ok challenge =>
      let store := pruneExpiredLocked store env.now
      ({ store with challenges := store.challenges.set challenge.challengeId challenge },
        .ok challenge)

/-- What a login request says once its fields are read. -/
structure LoginPayload where
  entityType : EntityType
  entityId : String
  challengeId : String
  normalizedKey : String
  publicKey : List ℕ
  signature : List ℕ

def V2LoginRequest.read (req : V2LoginRequest) : Except ServerError LoginPayload := do
  let entityType ← parseV2EntityType req.entityType
  let entityId ← trimRequired req.entityId "entityId"
  let challengeId ← trimRequired req.challengeId "challengeId"
  let (normalizedKey, publicKey) ← normalizeEd25519PublicKey req.publicKey
  let signature ← normalizeEd25519Signature req.signature
  return ⟨entityType, entityId, challengeId, normalizedKey, publicKey, signature⟩

/-- The challenge answers this payload and is signed with its key. -/
def LoginPayload.answers (payload : LoginPayload) (env : Env) (challenge : V2AuthChallenge) :
    Except ServerError Unit :=
  if challenge.entityType ≠ payload.entityType ∨ challenge.entityId ≠ payload.entityId ∨
      challenge.publicKey ≠ payload.normalizedKey then
    .error ⟨"FORBIDDEN", "challenge does not match login payload"⟩
  else if env.verify payload.publicKey (buildV2LoginMessage challenge) payload.signature then
    .ok ()
  else .error ⟨"UNAUTHORIZED", "signature verification failed"⟩

/-- The record of a desktop that has none. -/
def freshDesktop (deviceId publicKey : String) (createdAt now : ℤ) : V2Desktop where
  deviceId := deviceId
  publicKey := publicKey
  platform := ""
  appVersion := ""
  capabilities := some (.obj [])
  createdAt := createdAt
  updatedAt := now
  lastSeenAt := now
  presenceState := "offline"

/-- The record of a mobile that has none. -/
def freshMobile (mobileId publicKey : String) (createdAt now : ℤ) : V2Mobile where
  mobileId := mobileId
  mobileName := ""
  publicKey := publicKey
  platform := ""
  appVersion := ""
  capabilities := some (.obj [])
  createdAt := createdAt
  updatedAt := now
  lastSeenAt := now
  presenceState := "online"

def V2Store.putDesktop (store : V2Store) (deviceId : String) (desktop : V2Desktop) : V2Store :=
  { store with desktops := store.desktops.set deviceId desktop }

def V2Store.putMobile (store : V2Store) (mobileId : String) (mobile : V2Mobile) : V2Store :=
  { store with mobiles := store.mobiles.set mobileId mobile }

def recordDesktop (now : ℤ) (store : V2Store) (payload : LoginPayload) :
    Except ServerError V2Store :=
  match store.desktops.get payload.entityId with
  | none =>
      .ok (store.putDesktop payload.entityId
        (freshDesktop payload.entityId payload.normalizedKey now now))
  | some desktop =>
      if desktop.publicKey ≠ payload.normalizedKey then
        .error ⟨"FORBIDDEN", "desktop id already exists with another public key"⟩
      else
        .ok (store.putDesktop payload.entityId
          { desktop with
            updatedAt := now
            lastSeenAt := if desktop.lastSeenAt ≤ 0 then now else desktop.lastSeenAt })

def recordMobile (now : ℤ) (store : V2Store) (payload : LoginPayload) :
    Except ServerError V2Store :=
  match store.mobiles.get payload.entityId with
  | none =>
      .ok (store.putMobile payload.entityId
        (freshMobile payload.entityId payload.normalizedKey now now))
  | some mobile =>
      if mobile.publicKey ≠ payload.normalizedKey then
        .error ⟨"FORBIDDEN", "mobile id already exists with another public key"⟩
      else
        .ok (store.putMobile payload.entityId
          { mobile with updatedAt := now, lastSeenAt := now, presenceState := "online" })

/-- The record of the entity that logs in, made or refreshed. -/
def recordLogin (now : ℤ) (store : V2Store) (payload : LoginPayload) :
    Except ServerError V2Store :=
  match payload.entityType with
  | .desktop => recordDesktop now store payload
  | .mobile => recordMobile now store payload

def openAuthSession (env : Env) (store : V2Store) (payload : LoginPayload) :
    V2Store × Except ServerError V2AuthSession :=
  match env.makeId "v2sess", env.makeId "v2tok" with
  | some sessionId, some token =>
      let session : V2AuthSession :=
        ⟨sessionId, token, payload.entityType, payload.entityId, payload.normalizedKey, env.now,
          env.now, env.now + v2AuthSessionTtl⟩
      ({ store with authSessions := store.authSessions.set session.token session }, .ok session)
  | _, _ => (store, .error ⟨"INTERNAL_ERROR", "failed to create auth session"⟩)

def loginLocked (env : Env) (store : V2Store) (payload : LoginPayload) :
    V2Store × Except ServerError V2AuthSession :=
  match store.challenges.get payload.challengeId with
  | none => (store, .error ⟨"NOT_FOUND", "challenge not found"⟩)
  | some challenge =>
      if challenge.expiresAt ≤ env.now then
        ({ store with challenges := store.challenges.erase payload.challengeId },
          .error ⟨"EXPIRED", "challenge expired"⟩)
      else
        match (payload.answers env challenge).bind fun _ => recordLogin env.now store payload with
        | .error error => (store, .error error)
        | .ok store =>
            openAuthSession env
              { store with challenges := store.challenges.erase payload.challengeId } payload

def login (env : Env) (store : V2Store) (req : V2LoginRequest) :
    V2Store × Except ServerError V2AuthSession :=
  match req.read with
  | .error error => (store, .error error)
  | .ok payload => loginLocked env (pruneExpiredLocked store env.now) payload

/-! ## Who a request comes from -/

/-- The principal of a session, and its record, made again where it is missing. -/
def principalOf (now : ℤ) (store : V2Store) (session : V2AuthSession) : V2Store × V2Principal :=
  match session.entityType with
  | .desktop =>
      match store.desktops.get session.entityId with
      | some desktop => (store, ⟨session, some desktop, none⟩)
      | none =>
          let desktop := freshDesktop session.entityId session.publicKey session.createdAt now
          (store.putDesktop session.entityId desktop, ⟨session, some desktop, none⟩)
  | .mobile =>
      match store.mobiles.get session.entityId with
      | some mobile => (store, ⟨session, none, some mobile⟩)
      | none =>
          let mobile := freshMobile session.entityId session.publicKey session.createdAt now
          (store.putMobile session.entityId mobile, ⟨session, none, some mobile⟩)

def authenticateLocked (now : ℤ) (store : V2Store) (token : String) :
    V2Store × Except ServerError V2Principal :=
  match store.authSessions.get token with
  | none => (store, .error ⟨"UNAUTHORIZED", "invalid bearer token"⟩)
  | some session =>
      if session.expiresAt ≤ now then
        ({ store with authSessions := store.authSessions.erase token },
          .error ⟨"UNAUTHORIZED", "session expired"⟩)
      else
        let session := { session with updatedAt := now, expiresAt := now + v2AuthSessionTtl }
        let store := { store with authSessions := store.authSessions.set token session }
        let (store, principal) := principalOf now store session
        (store, .ok principal)

def authenticate (now : ℤ) (store : V2Store) (token : String) :
    V2Store × Except ServerError V2Principal :=
  if unicodeTrim token = "" then (store, .error ⟨"UNAUTHORIZED", "bearer token is required"⟩)
  else authenticateLocked now (pruneExpiredLocked store now) (unicodeTrim token)

/-! ## Presence -/

/-- The bodies of `presence/announce` and `presence/heartbeat` have the same fields. -/
structure V2PresenceRequest where
  platform : String
  appVersion : String
  capabilities : Option Json

/-- The new value, unless it is blank. -/
def unlessBlank (value old : String) : String :=
  if unicodeTrim value = "" then old else unicodeTrim value

def announceDesktop (now : ℤ) (req : V2PresenceRequest) (desktop : V2Desktop) : V2Desktop :=
  { desktop with
    platform := unicodeTrim req.platform
    appVersion := unicodeTrim req.appVersion
    capabilities := some ((req.capabilities.orElse fun _ => desktop.capabilities).getD (.obj []))
    lastSeenAt := now
    updatedAt := now
    presenceState := "online" }

def announceMobile (now : ℤ) (req : V2PresenceRequest) (mobile : V2Mobile) : V2Mobile :=
  { mobile with
    platform := unlessBlank req.platform mobile.platform
    appVersion := unlessBlank req.appVersion mobile.appVersion
    capabilities := some ((req.capabilities.orElse fun _ => mobile.capabilities).getD (.obj []))
    lastSeenAt := now
    updatedAt := now
    presenceState := "online" }

def heartbeatDesktop (now : ℤ) (req : V2PresenceRequest) (desktop : V2Desktop) : V2Desktop :=
  { desktop with
    platform := unlessBlank req.platform desktop.platform
    appVersion := unlessBlank req.appVersion desktop.appVersion
    capabilities := req.capabilities.orElse fun _ => desktop.capabilities
    lastSeenAt := now
    updatedAt := now
    presenceState := "online" }

def heartbeatMobile (now : ℤ) (req : V2PresenceRequest) (mobile : V2Mobile) : V2Mobile :=
  { mobile with
    platform := unlessBlank req.platform mobile.platform
    appVersion := unlessBlank req.appVersion mobile.appVersion
    capabilities := req.capabilities.orElse fun _ => mobile.capabilities
    lastSeenAt := now
    updatedAt := now
    presenceState := "online" }

/-- The principal's own record changes; the answer is that record. -/
def updateRecord (now : ℤ) (store : V2Store) (principal : V2Principal)
    (desktopOf : V2Desktop → V2Desktop) (mobileOf : V2Mobile → V2Mobile) :
    V2Store × Except ServerError (V2Desktop ⊕ V2Mobile) :=
  let store := pruneExpiredLocked store now
  match principal.session.entityType with
  | .desktop =>
      match store.desktops.get principal.session.entityId with
      | none => (store, .error ⟨"NOT_FOUND", "desktop not found"⟩)
      | some desktop =>
          (store.putDesktop (desktopOf desktop).deviceId (desktopOf desktop),
            .ok (.inl (desktopOf desktop)))
  | .mobile =>
      match store.mobiles.get principal.session.entityId with
      | none => (store, .error ⟨"NOT_FOUND", "mobile not found"⟩)
      | some mobile =>
          (store.putMobile (mobileOf mobile).mobileId (mobileOf mobile),
            .ok (.inr (mobileOf mobile)))

def announcePresence (now : ℤ) (store : V2Store) (principal : V2Principal)
    (req : V2PresenceRequest) : V2Store × Except ServerError (V2Desktop ⊕ V2Mobile) :=
  updateRecord now store principal (announceDesktop now req) (announceMobile now req)

def heartbeatPresence (now : ℤ) (store : V2Store) (principal : V2Principal)
    (req : V2PresenceRequest) : V2Store × Except ServerError (V2Desktop ⊕ V2Mobile) :=
  updateRecord now store principal (heartbeatDesktop now req) (heartbeatMobile now req)

/-! ## Pairing -/

def V2Store.putPairSession (store : V2Store) (pairSessionId : String) (session : V2PairSession) :
    V2Store :=
  { store with pairSessions := store.pairSessions.set pairSessionId session }

def V2Store.putBinding (store : V2Store) (binding : V2Binding) : V2Store :=
  { store with bindings := store.bindings.set binding.bindingId binding }

def V2Store.dropClaimToken (store : V2Store) (claimToken : String) : V2Store :=
  { store with pairClaimTokenIndex := store.pairClaimTokenIndex.erase claimToken }

def openPairSession (env : Env) (store : V2Store) (desktop : V2Desktop) (ttl : ℤ) :
    V2Store × Except ServerError V2PairSession :=
  match env.makeId "v2pair", env.makeId "v2claim", env.makeId "v2nonce" with
  | some pairSessionId, some claimToken, some sessionNonce =>
      let session : V2PairSession :=
        { pairSessionId := pairSessionId, deviceId := desktop.deviceId,
          devicePublicKey := desktop.publicKey, claimToken := claimToken,
          sessionNonce := sessionNonce, status := .pending, createdAt := env.now,
          updatedAt := env.now, expiresAt := env.now + ttl * 1000, claimedMobileId := none,
          bindingId := none }
      ({ store.putPairSession pairSessionId session with
          pairClaimTokenIndex := store.pairClaimTokenIndex.set claimToken pairSessionId },
        .ok session)
  | _, _, _ => (store, .error ⟨"INTERNAL_ERROR", "failed to create pair session"⟩)

/-- `ttlSeconds` is the only field of the request. -/
def createPairSession (env : Env) (store : V2Store) (principal : V2Principal) (ttlSeconds : ℤ) :
    V2Store × Except ServerError V2PairSession :=
  if principal.session.entityType ≠ .desktop then
    (store, .error ⟨"FORBIDDEN", "only desktop can create pair sessions"⟩)
  else
    let store := pruneExpiredLocked store env.now
    match store.desktops.get principal.session.entityId with
    | none => (store, .error ⟨"NOT_FOUND", "desktop not found"⟩)
    | some desktop =>
        openPairSession env store desktop
          (clampInt (if ttlSeconds = 0 then v2PairSessionDefaultTtl else ttlSeconds)
            v2PairSessionMinTtl v2PairSessionMaxTtl)

def deletePairSessionLocked (store : V2Store) (principal : V2Principal) (pairSessionId : String) :
    V2Store × Except ServerError V2PairSession :=
  match store.pairSessions.get pairSessionId with
  | none => (store, .error ⟨"NOT_FOUND", "pair session not found"⟩)
  | some session =>
      if session.deviceId ≠ principal.session.entityId then
        (store, .error ⟨"FORBIDDEN", "desktop cannot delete another device pair session"⟩)
      else if session.bindingId.isSome ∨ session.status ≠ .pending then
        (store, .error ⟨"INVALID_STATE", "pair session can no longer be deleted"⟩)
      else
        ({ store.dropClaimToken session.claimToken with
            pairSessions := store.pairSessions.erase pairSessionId },
          .ok session)

def deletePairSession (now : ℤ) (store : V2Store) (principal : V2Principal)
    (pairSessionId : String) : V2Store × Except ServerError V2PairSession :=
  if principal.session.entityType ≠ .desktop then
    (store, .error ⟨"FORBIDDEN", "only desktop can delete pair sessions"⟩)
  else
    match trimRequired pairSessionId "pairSessionId" with
    | .error error => (store, .error error)
    | .ok pairSessionId =>
        deletePairSessionLocked (pruneExpiredLocked store now) principal pairSessionId

def V2Binding.joins (binding : V2Binding) (deviceId mobileId : String) : Bool :=
  binding.deviceId = deviceId ∧ binding.mobileId = mobileId

/-- Some binding between the two that is not revoked; which one, the order of the map
says. -/
def findBindingLocked (env : Env) (store : V2Store) (deviceId mobileId : String) :
    Option V2Binding :=
  (env.iter.order store.bindings.values).find? fun binding =>
    binding.joins deviceId mobileId && decide (binding.trustState ≠ .revoked)

structure V2PairClaimRequest where
  claimToken : String
  mobileName : String

/-- The mobile takes the name that comes with a claim, unless it is blank. -/
def renameMobile (now : ℤ) (store : V2Store) (mobile : V2Mobile) (mobileName : String) :
    V2Store × V2Mobile :=
  if normalizeV2DisplayName mobileName = "" then (store, mobile)
  else
    let mobile := { mobile with mobileName := normalizeV2DisplayName mobileName, updatedAt := now }
    (store.putMobile mobile.mobileId mobile, mobile)

/-- The pair session may be claimed by this mobile. -/
def V2PairSession.claimableBy (session : V2PairSession) (mobileId : String) :
    Except ServerError Unit :=
  if session.status ≠ .pending ∧ session.status ≠ .claimed then
    .error ⟨"INVALID_STATE", "pair session is not claimable"⟩
  else if session.status = .claimed ∧ session.claimedMobileId.any fun claimed => claimed ≠ mobileId
  then .error ⟨"ALREADY_CLAIMED", "pair session already claimed by another mobile"⟩
  else .ok ()

/-- The pending binding that a claim makes, or takes over. -/
def claimedBinding (env : Env) (existing : Option V2Binding) (session : V2PairSession)
    (mobile : V2Mobile) : Except ServerError V2Binding :=
  match existing with
  | some existing =>
      if existing.trustState = .active then
        .error ⟨"INVALID_STATE", "binding already active"⟩
      else
        .ok { existing with
          pairSessionId := session.pairSessionId
          mobilePublicKey := mobile.publicKey
          mobileName := mobile.mobileName
          devicePublicKey := session.devicePublicKey
          updatedAt := env.now }
  | none =>
      match env.makeId "v2bind" with
      | none => .error ⟨"INTERNAL_ERROR", "failed to create binding"⟩
      | some bindingId =>
          .ok {
            bindingId := bindingId
            pairSessionId := session.pairSessionId
            deviceId := session.deviceId
            devicePublicKey := session.devicePublicKey
            mobileId := mobile.mobileId
            mobileName := mobile.mobileName
            mobilePublicKey := mobile.publicKey
            trustState := .pending
            createdAt := env.now
            updatedAt := env.now
            approvedAt := none }

/-- A mobile with a record claims a pair session that it may claim. -/
def claimBy (env : Env) (store : V2Store) (session : V2PairSession) (mobile : V2Mobile) :
    V2Store × Except ServerError (V2PairSession × V2Binding) :=
  match claimedBinding env (findBindingLocked env store session.deviceId mobile.mobileId) session
      mobile with
  | .error error => (store, .error error)
  | .ok binding =>
      let session := { session with
        status := .claimed
        updatedAt := env.now
        claimedMobileId := some mobile.mobileId
        bindingId := some binding.bindingId }
      ((store.putBinding binding).putPairSession session.pairSessionId session,
        .ok (session, binding))

def claimPairLocked (env : Env) (store : V2Store) (principal : V2Principal)
    (claimToken mobileName : String) : V2Store × Except ServerError (V2PairSession × V2Binding) :=
  match (store.pairClaimTokenIndex.get claimToken).bind fun pairSessionId =>
      (store.pairSessions.get pairSessionId).map fun session => (pairSessionId, session) with
  | none => (store, .error ⟨"NOT_FOUND", "pair session not found"⟩)
  | some (pairSessionId, session) =>
      if session.expiresAt ≤ env.now then
        ((store.putPairSession pairSessionId
            { session with status := .expired, updatedAt := env.now }).dropClaimToken claimToken,
          .error ⟨"EXPIRED", "pair session expired"⟩)
      else
        match session.claimableBy principal.session.entityId with
        | .error error => (store, .error error)
        | .ok () =>
            match store.mobiles.get principal.session.entityId with
            | none => (store, .error ⟨"NOT_FOUND", "mobile not found"⟩)
            | some mobile =>
                let renamed := renameMobile env.now store mobile mobileName
                claimBy env renamed.1 session renamed.2

def claimPair (env : Env) (store : V2Store) (principal : V2Principal) (req : V2PairClaimRequest) :
    V2Store × Except ServerError (V2PairSession × V2Binding) :=
  if principal.session.entityType ≠ .mobile then
    (store, .error ⟨"FORBIDDEN", "only mobile can claim pair sessions"⟩)
  else
    match trimRequired req.claimToken "claimToken" with
    | .error error => (store, .error error)
    | .ok claimToken =>
        claimPairLocked env (pruneExpiredLocked store env.now) principal claimToken req.mobileName

def approvePairSession (now : ℤ) (store : V2Store) (pairSessionId : String) : V2Store :=
  match store.pairSessions.get pairSessionId with
  | none => store
  | some session =>
      (store.putPairSession session.pairSessionId
        { session with status := .approved, updatedAt := now }).dropClaimToken session.claimToken

def approveBindingLocked (now : ℤ) (store : V2Store) (principal : V2Principal)
    (bindingId : String) : V2Store × Except ServerError V2Binding :=
  match store.bindings.get bindingId with
  | none => (store, .error ⟨"NOT_FOUND", "binding not found"⟩)
  | some binding =>
      if binding.deviceId ≠ principal.session.entityId then
        (store, .error ⟨"FORBIDDEN", "desktop cannot approve another device binding"⟩)
      else if binding.trustState ≠ .pending then
        (store, .error ⟨"INVALID_STATE", "binding is not pending"⟩)
      else
        let binding := { binding with
          trustState := .active, approvedAt := some now, updatedAt := now }
        (approvePairSession now (store.putBinding binding) binding.pairSessionId, .ok binding)

def approveBinding (now : ℤ) (store : V2Store) (principal : V2Principal) (bindingId : String) :
    V2Store × Except ServerError V2Binding :=
  if principal.session.entityType ≠ .desktop then
    (store, .error ⟨"FORBIDDEN", "only desktop can approve bindings"⟩)
  else
    match trimRequired bindingId "bindingId" with
    | .error error => (store, .error error)
    | .ok bindingId =>
        approveBindingLocked now (pruneExpiredLocked store now) principal bindingId

/-! ## Signals -/

def hasActiveBindingLocked (store : V2Store) (deviceId mobileId : String) : Bool :=
  store.bindings.values.any fun binding =>
    binding.joins deviceId mobileId && decide (binding.trustState = .active)

/-- A sender may only write in its own name, to its own kind of partner, along an active
binding. -/
def authorizeSignalSend (store : V2Store) (principal : V2Principal) (req : SendSignalRequest) :
    Except ServerError Unit :=
  let fromType := unicodeTrim req.fromType
  let fromId := unicodeTrim req.fromId
  let toType := unicodeTrim req.toType
  let toId := unicodeTrim req.toId
  if fromType = "" ∨ fromId = "" ∨ toType = "" ∨ toId = "" then
    .error ⟨"VALIDATION_ERROR", "fromType/fromId/toType/toId are required"⟩
  else
    match principal.session.entityType with
    | .desktop =>
        if fromType ≠ EntityType.desktop.name ∨ fromId ≠ principal.session.entityId then
          .error ⟨"FORBIDDEN", "desktop can only send as itself"⟩
        else if toType ≠ EntityType.mobile.name then
          .error ⟨"FORBIDDEN", "desktop can only send to mobile"⟩
        else if hasActiveBindingLocked store principal.session.entityId toId then .ok ()
        else .error ⟨"FORBIDDEN", "target mobile is not actively bound to this desktop"⟩
    | .mobile =>
        if fromType ≠ EntityType.mobile.name ∨ fromId ≠ principal.session.entityId then
          .error ⟨"FORBIDDEN", "mobile can only send as itself"⟩
        else if toType ≠ EntityType.desktop.name then
          .error ⟨"FORBIDDEN", "mobile can only send to desktop"⟩
        else if hasActiveBindingLocked store toId principal.session.entityId then .ok ()
        else .error ⟨"FORBIDDEN", "target desktop is not actively bound to this mobile"⟩

end OpenClaw.Server
