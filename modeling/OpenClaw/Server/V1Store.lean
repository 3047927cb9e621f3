import OpenClaw.Lib.OrderedMap
import OpenClaw.Server.Signal

/-!
# The store of the first protocol

A desktop registers under its id and opens pair sessions; a mobile claims one by its
token or by its code and gets a binding with the desktop, and a token of its own, until
the binding is revoked.  Desktops that were not seen for a month are forgotten, with
their pair sessions and bindings.
-/

namespace OpenClaw.Server.V1

open OpenClaw.Runtime

/-! ## Records -/

inductive SessionStatus
  | pending
  | claimed
  | expired
deriving DecidableEq

inductive BindingStatus
  | active
  | revoked
deriving DecidableEq

structure Device where
  deviceId : String
  createdAt : ℤ
  deviceToken : String
  platform : String
  appVersion : String
  capabilities : Option Json
  status : String
  lastSeenAt : ℤ
  updatedAt : ℤ

structure PairSession where
  pairSessionId : String
  deviceId : String
  pairCode : String
  pairToken : String
  status : SessionStatus
  createdAt : ℤ
  expiresAt : ℤ
  claimedAt : Option ℤ
  claimedByUserId : Option String
  claimedByMobileId : Option String

structure Binding where
  bindingId : String
  userId : String
  deviceId : String
  mobileId : String
  mobileToken : String
  status : BindingStatus
  createdAt : ℤ
  updatedAt : ℤ

structure Store where
  devices : OrderedMap String Device
  deviceTokenIndex : OrderedMap String String
  pairSessions : OrderedMap String PairSession
  pairTokenIndex : OrderedMap String String
  pairCodeIndex : OrderedMap String String
  bindings : OrderedMap String Binding
  mobileTokenIndex : OrderedMap String String
  signalQueues : OrderedMap String (List SignalEvent)

def newStore : Store := ⟨∅, ∅, ∅, ∅, ∅, ∅, ∅, ∅⟩

/-- What an operation reads from the machine: the clock, random text for each kind of id
or token, or the error of the generator, the ten pair codes that it tries, and the order
of a map's entries. -/
structure Machine where
  now : ℤ
  random : String → Except String String
  codes : List (Except String String)
  iter : IterOrder

/-- `makeID` and `makePairToken`. -/
def Machine.makeId (machine : Machine) (kind : String) : Except String String :=
  (machine.random kind).map fun text => kind ++ "_" ++ text

/-! ## Forgetting -/

def deviceInactiveTtl : ℤ := 30 * 24 * 60 * 60 * 1000

def deviceInactiveCutoff (now : ℤ) : ℤ := now - deviceInactiveTtl

/-- The texts that are not blank, trimmed. -/
def nonblank (texts : List String) : List String :=
  (texts.map unicodeTrim).filter fun text => text ≠ ""

/-- `splitClientKey`, for the key of a desktop. -/
def desktopOfKey (key : String) : Option String :=
  let (clientType, rest) := key.toList.span fun c => c ≠ ':'
  if clientType = "desktop".toList ∧ 1 < rest.length then some (String.ofList rest.tail) else none

/-- The devices that a prune forgets. -/
def removedDevices (store : Store) (now : ℤ) : OrderedMap String Device :=
  if deviceInactiveCutoff now ≤ 0 then ∅
  else store.devices.filter fun _ device => device.lastSeenAt ≤ deviceInactiveCutoff now

def pruneInactiveDevicesLocked (store : Store) (now : ℤ) : Store :=
  let removed := removedDevices store now
  let sessions := store.pairSessions.values.filter fun session => session.deviceId ∈ removed.keys
  let bindings := store.bindings.values.filter fun binding => binding.deviceId ∈ removed.keys
  { devices := store.devices.filter fun deviceId _ => deviceId ∉ removed.keys
    deviceTokenIndex := store.deviceTokenIndex.filter fun token _ =>
      token ∉ nonblank (removed.values.map Device.deviceToken)
    pairSessions := store.pairSessions.filter fun _ session => session.deviceId ∉ removed.keys
    pairTokenIndex := store.pairTokenIndex.filter fun token _ =>
      token ∉ nonblank (sessions.map PairSession.pairToken)
    pairCodeIndex := store.pairCodeIndex.filter fun code _ =>
      code ∉ nonblank (sessions.map PairSession.pairCode)
    bindings := store.bindings.filter fun _ binding => binding.deviceId ∉ removed.keys
    mobileTokenIndex := store.mobileTokenIndex.filter fun token _ =>
      token ∉ nonblank (bindings.map Binding.mobileToken)
    signalQueues := store.signalQueues.filter fun key _ =>
      (desktopOfKey key).all fun deviceId => deviceId ∉ removed.keys }

/-! ## Devices -/

structure RegisterDeviceRequest where
  deviceId : String
  platform : String
  appVersion : String
  capabilities : Option Json

/-- The trimmed text, or a default. -/
def trimOr (default value : String) : String :=
  if unicodeTrim value = "" then default else unicodeTrim value

/-- The record that a registration updates: its own, with the right token, or a new one. -/
def registeredDevice (machine : Machine) (store : Store) (deviceId credentialToken : String) :
    Except ServerError Device :=
  match store.devices.get deviceId with
  | some device =>
      if unicodeTrim credentialToken = "" ∨
          unicodeTrim credentialToken ≠ unicodeTrim device.deviceToken then
        .error ⟨"UNAUTHORIZED", "device token is required to update existing device"⟩
      else .ok device
  | none =>
      match machine.makeId "devtok" with
      | .error _ => .error ⟨"INTERNAL_ERROR", "failed to generate device token"⟩
      | .ok token => .ok ⟨deviceId, machine.now, token, "", "", none, "", 0, 0⟩

def registerDevice (machine : Machine) (store : Store) (req : RegisterDeviceRequest)
    (credentialToken : String) : Store × Except ServerError Device :=
  match trimRequired req.deviceId "deviceId" with
  | .error error => (store, .error error)
  | .ok deviceId =>
      let store := pruneInactiveDevicesLocked store machine.now
      match registeredDevice machine store deviceId credentialToken with
      | .error error => (store, .error error)
      | .ok found =>
          let device := { found with
            platform := trimOr "unknown" req.platform
            appVersion := trimOr "unknown" req.appVersion
            capabilities := some ((req.capabilities.orElse fun _ => found.capabilities).getD
              (.obj []))
            status := "online"
            lastSeenAt := machine.now
            updatedAt := machine.now }
          ({ store with
              devices := store.devices.set deviceId device
              deviceTokenIndex :=
                if unicodeTrim device.deviceToken = "" then store.deviceTokenIndex
                else store.deviceTokenIndex.set device.deviceToken deviceId },
            .ok device)

def heartbeatDevice (machine : Machine) (store : Store) (deviceId : String) :
    Store × Except ServerError Device :=
  match trimRequired deviceId "deviceId" with
  | .error error => (store, .error error)
  | .ok deviceId =>
      let store := pruneInactiveDevicesLocked store machine.now
      match store.devices.get deviceId with
      | none => (store, .error ⟨"NOT_FOUND", "device not found"⟩)
      | some device =>
          let device := { device with
            lastSeenAt := machine.now, updatedAt := machine.now, status := "online" }
          ({ store with devices := store.devices.set deviceId device }, .ok device)

/-! ## Pair sessions -/

/-- The first of the ten codes that is not taken. -/
def allocateCode (index : OrderedMap String String) :
    List (Except String String) → Except ServerError String
  | [] => .error ⟨"INTERNAL_ERROR", "failed to allocate unique pair code"⟩
  | .error _ :: _ => .error ⟨"INTERNAL_ERROR", "failed to create pair code"⟩
  | .ok code :: rest => if (index.get code).isSome then allocateCode index rest else .ok code

/-- The session that a device opens. -/
def newPairSession (machine : Machine) (store : Store) (deviceId : String) (ttlSeconds : ℤ) :
    Except ServerError PairSession :=
  match machine.makeId "ps" with
  | .error _ => .error ⟨"INTERNAL_ERROR", "failed to create pair session id"⟩
  | .ok sessionId =>
      match machine.makeId "pt" with
      | .error _ => .error ⟨"INTERNAL_ERROR", "failed to create pair token"⟩
      | .ok pairToken =>
          (allocateCode store.pairCodeIndex (machine.codes.take 10)).map fun pairCode =>
            { pairSessionId := sessionId, deviceId := deviceId, pairCode := pairCode,
              pairToken := pairToken, status := .pending, createdAt := machine.now,
              expiresAt := machine.now +
                clampInt (if ttlSeconds = 0 then 180 else ttlSeconds) 60 600 * 1000,
              claimedAt := none, claimedByUserId := none, claimedByMobileId := none }

/-- `deviceId` and `ttlSeconds` are the fields of the request. -/
def createPairSession (machine : Machine) (store : Store) (deviceId : String)
    (ttlSeconds : ℤ) : Store × Except ServerError PairSession :=
  match trimRequired deviceId "deviceId" with
  | .error error => (store, .error error)
  | .ok deviceId =>
      let store := pruneInactiveDevicesLocked store machine.now
      if (store.devices.get deviceId).isNone then
        (store, .error ⟨"NOT_FOUND", "device not registered"⟩)
      else
        match newPairSession machine store deviceId ttlSeconds with
        | .error error => (store, .error error)
        | .ok session =>
            ({ store with
                pairSessions := store.pairSessions.set session.pairSessionId session
                pairTokenIndex := store.pairTokenIndex.set session.pairToken session.pairSessionId
                pairCodeIndex := store.pairCodeIndex.set session.pairCode session.pairSessionId },
              .ok session)

/-! ## Claims -/

/-- Some active binding of the user with the device; which one, the order of the map
says. -/
def getActiveBindingLocked (machine : Machine) (store : Store) (userId deviceId : String) :
    Option Binding :=
  (machine.iter.order store.bindings.values).find? fun binding =>
    decide (binding.status = .active ∧ binding.userId = userId ∧ binding.deviceId = deviceId)

/-- The token that a mobile gets, also when the generator fails. -/
def newMobileToken (machine : Machine) : String :=
  let mobileToken := (machine.makeId "mobtok").toOption.getD ""
  if unicodeTrim mobileToken = "" then "mobtok_" ++ toString machine.now else mobileToken

/-- The binding that a claim gives: the user's own with a new token, or a new one. -/
def bindingOfClaim (machine : Machine) (existing : Option Binding)
    (userId deviceId mobileId : String) : Binding :=
  match existing with
  | some binding =>
      { binding with
        mobileId := mobileId, mobileToken := newMobileToken machine, updatedAt := machine.now }
  | none =>
      { bindingId := (machine.makeId "bind").toOption.getD "", userId := userId,
        deviceId := deviceId, mobileId := mobileId, mobileToken := newMobileToken machine,
        status := .active, createdAt := machine.now, updatedAt := machine.now }

/-- The index without the old token of a binding, which is not there if it is empty. -/
def dropMobileToken (index : OrderedMap String String) (binding : Binding) :
    OrderedMap String String :=
  if binding.mobileToken = "" then index else index.erase binding.mobileToken

def claimSessionLocked (machine : Machine) (store : Store) (session : PairSession)
    (userId mobileId : String) : Store × PairSession × Binding :=
  let existing := getActiveBindingLocked machine store userId session.deviceId
  let binding := bindingOfClaim machine existing userId session.deviceId mobileId
  let index := (existing.map (dropMobileToken store.mobileTokenIndex)).getD store.mobileTokenIndex
  let session := { session with
    status := .claimed
    claimedAt := some machine.now
    claimedByUserId := some userId
    claimedByMobileId := some mobileId }
  ({ store with
      mobileTokenIndex :=
        if binding.mobileToken = "" then index else index.set binding.mobileToken binding.bindingId
      bindings := store.bindings.set binding.bindingId binding
      pairSessions := store.pairSessions.set session.pairSessionId session },
    session, binding)

def claimedUserId (session : PairSession) : String :=
  (session.claimedByUserId.map unicodeTrim).getD ""

/-- An id of a request, or a random one where it is blank. -/
def idOrRandom (machine : Machine) (kind value : String) : Except ServerError String :=
  if unicodeTrim value = "" then (machine.makeId kind).mapError (ServerError.mk "INTERNAL_ERROR")
  else .ok (unicodeTrim value)

/-- Who claims: the user and the mobile. -/
def claimant (machine : Machine) (userId mobileId : String) :
    Except ServerError (String × String) :=
  match idOrRandom machine "user" userId with
  | .error error => .error error
  | .ok userId => (idOrRandom machine "mobile" mobileId).map fun mobileId => (userId, mobileId)

/-- The claim of a session that was found under its id. -/
def claimFound (machine : Machine) (store : Store) (sessionId : String) (session : PairSession)
    (userId mobileId : String) : Store × Except ServerError (PairSession × Binding) :=
  let claim := claimSessionLocked machine store session userId mobileId
  match session.status with
  | .claimed =>
      if claimedUserId session = userId then (claim.1, .ok claim.2)
      else (store, .error ⟨"ALREADY_CLAIMED", "pair session already claimed by another user"⟩)
  | .expired => (store, .error ⟨"INVALID_STATE", "pair session is not claimable"⟩)
  | .pending =>
      if session.expiresAt < machine.now then
        ({ store with
            pairSessions := store.pairSessions.set sessionId { session with status := .expired } },
          .error ⟨"EXPIRED", "pair session expired"⟩)
      else (claim.1, .ok claim.2)

/-- The session that an index has for a token or a code. -/
def findSession (store : Store) (index : OrderedMap String String) (credential : String) :
    Option (String × PairSession) :=
  (index.get credential).bind fun sessionId =>
    (store.pairSessions.get sessionId).map fun session => (sessionId, session)

/-- What `claimByToken` and `claimByCode` do with the index and the field of their own. -/
def claimWith (machine : Machine) (store : Store) (index : OrderedMap String String)
    (field credential userId mobileId : String) :
    Store × Except ServerError (PairSession × Binding) :=
  match trimRequired credential field with
  | .error error => (store, .error error)
  | .ok credential =>
      match claimant machine userId mobileId with
      | .error error => (store, .error error)
      | .ok (userId, mobileId) =>
          match findSession store index credential with
          | none => (store, .error ⟨"NOT_FOUND", "pair session not found"⟩)
          | some (sessionId, session) =>
              claimFound machine store sessionId session userId mobileId

structure ClaimByTokenRequest where
  pairToken : String
  userId : String
  mobileId : String

structure ClaimByCodeRequest where
  pairCode : String
  userId : String
  mobileId : String

def claimByToken (machine : Machine) (store : Store) (req : ClaimByTokenRequest) :
    Store × Except ServerError (PairSession × Binding) :=
  claimWith machine store store.pairTokenIndex "pairToken" req.pairToken req.userId req.mobileId

def claimByCode (machine : Machine) (store : Store) (req : ClaimByCodeRequest) :
    Store × Except ServerError (PairSession × Binding) :=
  claimWith machine store store.pairCodeIndex "pairCode" req.pairCode req.userId req.mobileId

/-! ## Revocation -/

structure RevokePairRequest where
  bindingId : String
  userId : String
  deviceId : String

/-- The binding that a request names, by its id or else by user and device. -/
def bindingToRevoke (machine : Machine) (store : Store) (req : RevokePairRequest) :
    Option Binding :=
  if unicodeTrim req.bindingId ≠ "" then store.bindings.get (unicodeTrim req.bindingId)
  else if unicodeTrim req.userId ≠ "" ∧ unicodeTrim req.deviceId ≠ "" then
    getActiveBindingLocked machine store (unicodeTrim req.userId) (unicodeTrim req.deviceId)
  else none

def revokePair (machine : Machine) (store : Store) (req : RevokePairRequest) :
    Store × Except ServerError Binding :=
  match bindingToRevoke machine store req with
  | none => (store, .error ⟨"NOT_FOUND", "binding not found"⟩)
  | some binding =>
      let revoked := { binding with status := .revoked, updatedAt := machine.now }
      ({ store with
          mobileTokenIndex := dropMobileToken store.mobileTokenIndex binding
          bindings := store.bindings.set revoked.bindingId revoked },
        .ok revoked)

/-! ## Who a request comes from -/

inductive AuthPrincipal
  | device (device : Device)
  | mobile (binding : Binding)

def deviceByToken (store : Store) (token : String) : Option Device :=
  if unicodeTrim token = "" then none
  else (store.deviceTokenIndex.get (unicodeTrim token)).bind store.devices.get

def activeBindingByMobileToken (store : Store) (token : String) : Option Binding :=
  if unicodeTrim token = "" then none
  else
    ((store.mobileTokenIndex.get (unicodeTrim token)).bind store.bindings.get).filter
      fun binding => binding.status = .active

/-- `authenticateRequest`, with the token that `readBearerToken` found. -/
def authenticateRequest (store : Store) (token : String) : Except ServerError AuthPrincipal :=
  if token = "" then .error ⟨"UNAUTHORIZED", "bearer token is required"⟩
  else
    match deviceByToken store token with
    | some device => .ok (.device device)
    | none =>
        match activeBindingByMobileToken store token with
        | some binding => .ok (.mobile binding)
        | none => .error ⟨"UNAUTHORIZED", "invalid bearer token"⟩

def hasActiveBindingBetween (store : Store) (deviceId mobileId : String) : Bool :=
  unicodeTrim deviceId ≠ "" ∧ unicodeTrim mobileId ≠ "" ∧
    store.bindings.values.any fun binding =>
      decide (binding.status = .active ∧ binding.deviceId = unicodeTrim deviceId ∧
        binding.mobileId = unicodeTrim mobileId)

/-! ## Sending -/

/-- Whether a connection may speak for a client. -/
def authorizeSignalClient (principal : AuthPrincipal) (clientType clientId : String) :
    Except ServerError Unit :=
  let clientType := unicodeTrim clientType
  let clientId := unicodeTrim clientId
  if clientType = "" ∨ clientId = "" then
    .error ⟨"VALIDATION_ERROR", "clientType and clientId are required"⟩
  else
    match principal with
    | .device device =>
        if clientType ≠ "desktop" ∨ clientId ≠ device.deviceId then
          .error ⟨"FORBIDDEN", "desktop token cannot subscribe as another client"⟩
        else .ok ()
    | .mobile binding =>
        if clientType ≠ "mobile" ∨ clientId ≠ binding.mobileId then
          .error ⟨"FORBIDDEN", "mobile token cannot subscribe as another client"⟩
        else .ok ()

/-- The desktop's side is looked up in the store, the mobile's in its principal. -/
def authorizeSignalSend (store : Store) (principal : AuthPrincipal) (req : SendSignalRequest) :
    Except ServerError Unit :=
  let fromType := unicodeTrim req.fromType
  let fromId := unicodeTrim req.fromId
  let toType := unicodeTrim req.toType
  let toId := unicodeTrim req.toId
  if fromType = "" ∨ fromId = "" ∨ toType = "" ∨ toId = "" then
    .error ⟨"VALIDATION_ERROR", "fromType/fromId/toType/toId are required"⟩
  else
    match principal with
    | .device device =>
        if fromType ≠ "desktop" ∨ fromId ≠ device.deviceId then
          .error ⟨"FORBIDDEN", "desktop token can only send as itself"⟩
        else if toType ≠ "mobile" then
          .error ⟨"FORBIDDEN", "desktop token can only send to mobile"⟩
        else if hasActiveBindingBetween store device.deviceId toId then .ok ()
        else .error ⟨"FORBIDDEN", "target mobile is not paired with this desktop"⟩
    | .mobile binding =>
        if fromType ≠ "mobile" ∨ fromId ≠ binding.mobileId then
          .error ⟨"FORBIDDEN", "mobile token can only send as itself"⟩
        else if toType ≠ "desktop" then
          .error ⟨"FORBIDDEN", "mobile token can only send to desktop"⟩
        else if binding.deviceId = toId then .ok ()
        else .error ⟨"FORBIDDEN", "target desktop is not bound to this mobile"⟩

def buildSignalEvent (machine : Machine) (req : SendSignalRequest) :
    Except ServerError SignalEvent := do
  let fromType ← trimRequired req.fromType "fromType"
  let fromId ← trimRequired req.fromId "fromId"
  let toType ← trimRequired req.toType "toType"
  let toId ← trimRequired req.toId "toId"
  let eventId ← (machine.makeId "evt").mapError fun _ =>
    ServerError.mk "INTERNAL_ERROR" "failed to create signal event id"
  return ⟨eventId, trimOr "signal.message" req.type, machine.now, some ⟨fromType, fromId⟩,
    some ⟨toType, toId⟩, req.payload⟩

def enqueueSignalToQueue (store : Store) (targetType targetId : String) (event : SignalEvent) :
    Store :=
  let key := clientKey targetType targetId
  { store with
    signalQueues :=
      store.signalQueues.set key ((store.signalQueues.get key).getD [] ++ [event]) }

/-! ## Snapshots -/

/-- The indices of the tokens, made from the records in some order. -/
def rebuildAuthIndexes (iter : IterOrder) (store : Store) : Store :=
  { store with
    deviceTokenIndex := (iter.order store.devices.entries).foldl (fun index entry =>
      if unicodeTrim entry.2.deviceToken = "" then index
      else index.set (unicodeTrim entry.2.deviceToken) entry.1) ∅
    mobileTokenIndex := (iter.order store.bindings.entries).foldl (fun index entry =>
      if entry.2.status ≠ .active ∨ unicodeTrim entry.2.mobileToken = "" then index
      else index.set (unicodeTrim entry.2.mobileToken) entry.1) ∅ }

/-- The store after `snapshot` and `applySnapshot`, which leave out the token indices. -/
def restored (iter : IterOrder) (store : Store) : Store := rebuildAuthIndexes iter store

end OpenClaw.Server.V1
