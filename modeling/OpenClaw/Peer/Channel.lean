import OpenClaw.Runtime.Text
import OpenClaw.Lib.Steps

/-!
# The peer channel

`PairV2PeerChannel` of the pair SDK: one object that outlives its connections.  It
makes an `RTCPeerConnection` when it needs one, drops it when it fails, and lets
messages through once the other side has signed a hello.  Checking the signature
and making one are asynchronous, so the code goes on later, in whatever state the
object is then; `Task` has these points.

An event is one callback, one call, or one resumption.  What it reads of the
connection is part of the event.  Beside the fields of the object, the state has
the connections on which a valid hello came (`heard`) and the calls of
`onCapabilities` and `onAppMessage`.
-/

namespace OpenClaw.Peer

open OpenClaw.Runtime

inductive PeerState
  | idle
  | connecting
  | channelOpen
  | verifying
  | connected
  | disconnected
  | failed
deriving DecidableEq

inductive EntityType
  | mobile
  | desktop
deriving DecidableEq

def EntityType.name : EntityType → String
  | mobile => "mobile"
  | desktop => "desktop"

/-- The options a channel is made with, and the check of a signature. -/
structure PeerOptions where
  role : EntityType
  trustedPeerId : String
  trustedPeerPublicKey : String
  bindingId : String
  /-- `verifyPairV2Text`: a key, a text and a signature. -/
  verify : String → String → String → Bool

def trustedRemoteRole : EntityType → EntityType
  | .desktop => .mobile
  | .mobile => .desktop

/-- `sys.auth.hello` -/
structure Hello where
  bindingId : String
  entityType : String
  entityId : String
  publicKey : String
  nonce : String
  signature : String

def buildHelloMessageText (hello : Hello) : String :=
  "openclaw-v2-peer-hello\n" ++ hello.bindingId ++ "\n" ++ hello.entityType ++ "\n" ++
    hello.entityId ++ "\n" ++ hello.publicKey ++ "\n" ++ hello.nonce

def matchesBinding (options : PeerOptions) (hello : Hello) : Bool :=
  hello.bindingId = options.bindingId ∧
    hello.entityType = (trustedRemoteRole options.role).name ∧
    hello.entityId = options.trustedPeerId ∧ hello.publicKey = options.trustedPeerPublicKey

def verifyHello (options : PeerOptions) (hello : Hello) : Bool :=
  options.verify options.trustedPeerPublicKey (buildHelloMessageText hello) hello.signature

/-- The text that the trusted peer signs. -/
def trustedHelloText (options : PeerOptions) (nonce : String) : String :=
  "openclaw-v2-peer-hello\n" ++ options.bindingId ++ "\n" ++
    (trustedRemoteRole options.role).name ++ "\n" ++ options.trustedPeerId ++ "\n" ++
    options.trustedPeerPublicKey ++ "\n" ++ nonce

/-- A hello of the trusted peer for this binding, signed with the trusted key. -/
structure ValidHello (options : PeerOptions) (hello : Hello) : Prop where
  bindingId : hello.bindingId = options.bindingId
  entityType : hello.entityType = (trustedRemoteRole options.role).name
  entityId : hello.entityId = options.trustedPeerId
  publicKey : hello.publicKey = options.trustedPeerPublicKey
  signed : options.verify options.trustedPeerPublicKey (trustedHelloText options hello.nonce)
    hello.signature = true

/-- **The two checks of the code find the valid hellos.** -/
theorem validHello_iff {options : PeerOptions} {hello : Hello} :
    ValidHello options hello ↔
      matchesBinding options hello = true ∧ verifyHello options hello = true := by
  have htext : matchesBinding options hello = true →
      buildHelloMessageText hello = trustedHelloText options hello.nonce := by
    intro hmatches
    obtain ⟨hbinding, htype, hid, hkey⟩ := of_decide_eq_true hmatches
    unfold buildHelloMessageText trustedHelloText
    rw [hbinding, htype, hid, hkey]
  constructor
  · rintro ⟨hbinding, htype, hid, hkey, hsigned⟩
    have hmatches : matchesBinding options hello = true :=
      decide_eq_true ⟨hbinding, htype, hid, hkey⟩
    rw [verifyHello, htext hmatches]
    exact ⟨hmatches, hsigned⟩
  · rintro ⟨hmatches, hsigned⟩
    obtain ⟨hbinding, htype, hid, hkey⟩ := of_decide_eq_true hmatches
    rw [verifyHello, htext hmatches] at hsigned
    exact ⟨hbinding, htype, hid, hkey, hsigned⟩

instance (options : PeerOptions) (hello : Hello) : Decidable (ValidHello options hello) :=
  decidable_of_iff _ validHello_iff.symm

/-- What arrives on a data channel, by its type. -/
inductive DataMessage
  | hello (hello : Hello)
  /-- `sys.capabilities`, with its `supportedMessages`. -/
  | capabilities (supportedMessages : List String)
  /-- A type that begins with `app.` -/
  | app
  /-- What is no JSON object, and any other type. -/
  | other

/-- A data channel, and the connection it belongs to. -/
structure DataChannel where
  id : ℕ
  owner : ℕ
deriving DecidableEq

/-- A call that waits. -/
inductive Task
  /-- `handleDataMessage` at the check of a hello that came over a connection. -/
  | verify (connection : ℕ) (valid : Bool)
  /-- `sendHello` at its signature, called by `onopen` or by `handleDataMessage`. -/
  | sign (fromOpen : Bool)
  /-- `handleDataMessage` behind `sendHello`. -/
  | verified
deriving DecidableEq

/-- A call of `onCapabilities` or `onAppMessage`. -/
structure Callback where
  /-- A valid hello had come over the connection the channel had at the call. -/
  authenticated : Bool
deriving DecidableEq

structure PeerChannel where
  peer : Option ℕ
  dataChannel : Option DataChannel
  state : PeerState
  helloSent : Bool
  capabilitiesSent : Bool
  remoteVerified : Bool
  remoteCapabilities : Option (List String)
  closedByUser : Bool
  tasks : List Task
  next : ℕ
  heard : List ℕ
  calls : List Callback

/-- `readyState` is `open`, and `send` does not throw. -/
structure Reading where
  isOpen : Bool
  sends : Bool

/-- What `shouldRecreateForOffer` compares: the remote description is the offer,
there is a description. -/
structure Offer where
  same : Bool
  described : Bool

inductive ConnectionState
  | failed
  | closed
  | disconnected
  | other

inductive PeerEvent
  /-- `connect`; the connection is terminal, the data channel is closed or open. -/
  | connect (terminal closed : Bool) (reading : Reading)
  /-- `webrtc.offer`; without one if it has no description. -/
  | offer (offer : Option Offer)
  /-- `webrtc.answer` and `webrtc.ice` -/
  | signal
  /-- `ondatachannel` of the current connection. -/
  | incomingChannel
  | opened (channel : DataChannel) (reading : Reading)
  | closed (channel : DataChannel)
  | errored (channel : DataChannel)
  | message (channel : DataChannel) (data : DataMessage)
  | connectionState (connection : ℕ) (state : ConnectionState)
  | iceFailed (connection : ℕ)
  | close
  /-- A task goes on; `signed` is false when there was no signature. -/
  | resume (index : ℕ) (signed : Bool) (reading : Reading)

variable (options : PeerOptions)

def isReady (channel : PeerChannel) (reading : Reading) : Bool :=
  channel.state = .connected ∧ channel.dataChannel.isSome ∧ reading.isOpen ∧
    channel.remoteVerified

def setState (channel : PeerChannel) (state : PeerState) : PeerChannel := { channel with state }

def disposePeer (channel : PeerChannel) (state : PeerState) : PeerChannel :=
  { channel with
    peer := none, dataChannel := none, helloSent := false, capabilitiesSent := false
    remoteVerified := false, remoteCapabilities := none, state }

/-- A connection, a new one if there is none or it is to be made again. -/
def ensurePeer (channel : PeerChannel) (forceRecreate : Bool) : PeerChannel :=
  let kept := if forceRecreate then disposePeer channel .connecting else channel
  match kept.peer with
  | some _ => kept
  | none =>
      { kept with
        peer := some kept.next, next := kept.next + 1, helloSent := false
        capabilitiesSent := false, remoteVerified := false, remoteCapabilities := none
        state := .connecting }

def attachDataChannel (channel : PeerChannel) : PeerChannel :=
  match channel.peer with
  | some owner =>
      { channel with dataChannel := some ⟨channel.next, owner⟩, next := channel.next + 1 }
  | none => channel

def connect (channel : PeerChannel) (terminal closed : Bool) (reading : Reading) : PeerChannel :=
  let called := { channel with closedByUser := false }
  if isReady called reading then called
  else
    let ensured := ensurePeer called
      (called.peer.isSome && (terminal || called.dataChannel.isSome && closed))
    let attached :=
      if ensured.dataChannel.isNone ∨ closed then attachDataChannel ensured else ensured
    setState attached .connecting

def handleOffer (channel : PeerChannel) : Option Offer → PeerChannel
  | none => { channel with closedByUser := false }
  | some offer =>
      let called := { channel with closedByUser := false }
      setState (ensurePeer called (called.peer.isSome && !offer.same &&
        (offer.described || called.dataChannel.isSome))) .connecting

def isCurrentDataChannel (channel : PeerChannel) (dataChannel : DataChannel) : Bool :=
  channel.dataChannel = some dataChannel ∧ channel.peer = some dataChannel.owner

/-- `sendHello` up to the signature; the flag says whether it waits. -/
def sendHello (channel : PeerChannel) (reading : Reading) (fromOpen : Bool) :
    PeerChannel × Bool :=
  if channel.dataChannel.isNone ∨ reading.isOpen = false ∨ channel.helloSent then (channel, false)
  else ({ channel with tasks := channel.tasks ++ [.sign fromOpen] }, true)

/-- The flag is false when it throws. -/
def sendCapabilitiesIfReady (channel : PeerChannel) (reading : Reading) : PeerChannel × Bool :=
  if channel.dataChannel.isNone ∨ reading.isOpen = false ∨ channel.helloSent = false ∨
      channel.remoteVerified = false ∨ channel.capabilitiesSent then (channel, true)
  else ({ channel with capabilitiesSent := true }, reading.sends)

/-- `sendHello` behind the signature; the flag is false when it throws. -/
def helloSigned (channel : PeerChannel) (reading : Reading) : PeerChannel × Bool :=
  let sent := { channel with helloSent := true }
  if sent.dataChannel.isNone ∨ reading.sends = false then (sent, false)
  else if sent.remoteVerified then
    sendCapabilitiesIfReady (setState sent .connected) reading
  else (setState sent .verifying, true)

def opened (channel : PeerChannel) (dataChannel : DataChannel) (reading : Reading) :
    PeerChannel :=
  if isCurrentDataChannel channel dataChannel then
    (sendHello (setState channel .channelOpen) reading true).1
  else channel

def closed (channel : PeerChannel) (dataChannel : DataChannel) : PeerChannel :=
  if isCurrentDataChannel channel dataChannel then
    if channel.closedByUser then { channel with dataChannel := none }
    else disposePeer { channel with dataChannel := none } .disconnected
  else channel

def errored (channel : PeerChannel) (dataChannel : DataChannel) : PeerChannel :=
  if isCurrentDataChannel channel dataChannel then
    disposePeer { channel with dataChannel := none } .failed
  else channel

/-- A valid hello came over the connection the channel has. -/
def heardHere (channel : PeerChannel) : Bool :=
  channel.peer.any fun connection => decide (connection ∈ channel.heard)

def call (channel : PeerChannel) : PeerChannel :=
  { channel with calls := channel.calls ++ [⟨heardHere channel⟩] }

def pairV2PeerHelloType : String := "sys.auth.hello"

def pairV2PeerCapabilitiesType : String := "sys.capabilities"

/-- `supportedMessages` of `normalizeCapabilities`. -/
def normalizeCapabilities (supportedMessages : List String) : List String :=
  OrderedSet.ofList (((pairV2PeerHelloType :: pairV2PeerCapabilitiesType ::
    supportedMessages).map jsTrim).filter fun value => decide (value ≠ ""))

/-- A valid hello has come over the connection of the data channel. -/
def hear (channel : PeerChannel) (dataChannel : DataChannel) (hello : Hello) : PeerChannel :=
  if ValidHello options hello then
    { channel with heard := dataChannel.owner :: channel.heard }
  else channel

/-- `onmessage`, and `handleDataMessage` up to the check of a signature. -/
def handleDataMessage (channel : PeerChannel) (dataChannel : DataChannel) :
    DataMessage → PeerChannel
  | .hello hello =>
      let channel := hear options channel dataChannel hello
      if matchesBinding options hello then
        { channel with
          tasks := channel.tasks ++ [.verify dataChannel.owner (verifyHello options hello)] }
      else channel
  | .capabilities supportedMessages =>
      if channel.remoteVerified then
        call { channel with remoteCapabilities := some (normalizeCapabilities supportedMessages) }
      else channel
  | .app => if channel.remoteVerified then call channel else channel
  | .other => channel

/-- `handleDataMessage` behind the check of a signature. -/
def helloVerified (channel : PeerChannel) (reading : Reading) : PeerChannel :=
  let verified := { channel with remoteVerified := true }
  if verified.helloSent then
    (sendCapabilitiesIfReady (setState verified .connected) reading).1
  else
    let sending := sendHello verified reading false
    if sending.2 then sending.1 else { sending.1 with tasks := sending.1.tasks ++ [.verified] }

/-- `sendHello` behind the signature, and the call it came from. -/
def resumeSign (channel : PeerChannel) (fromOpen signed : Bool) (reading : Reading) :
    PeerChannel :=
  let sent := if signed then helloSigned channel reading else (channel, false)
  if fromOpen then (if sent.2 then sent.1 else setState sent.1 .failed)
  else if sent.2 then { sent.1 with tasks := sent.1.tasks ++ [.verified] }
  else sent.1

def resume (channel : PeerChannel) (task : Task) (signed : Bool) (reading : Reading) :
    PeerChannel :=
  match task with
  | .verify _ valid => if valid then helloVerified channel reading else channel
  | .sign fromOpen => resumeSign channel fromOpen signed reading
  | .verified => (sendCapabilitiesIfReady (setState channel .connected) reading).1

def changeConnection (channel : PeerChannel) : ConnectionState → PeerChannel
  | .failed => disposePeer channel .failed
  | .closed => disposePeer channel .disconnected
  | .disconnected => setState channel .disconnected
  | .other => channel

def peerStep (channel : PeerChannel) : PeerEvent → PeerChannel
  | .connect terminal closed reading => connect channel terminal closed reading
  | .offer offer => handleOffer channel offer
  | .signal => ensurePeer channel false
  | .incomingChannel => attachDataChannel channel
  | .opened dataChannel reading => opened channel dataChannel reading
  | .closed dataChannel => closed channel dataChannel
  | .errored dataChannel => errored channel dataChannel
  | .message dataChannel data =>
      if isCurrentDataChannel channel dataChannel then
        handleDataMessage options channel dataChannel data
      else channel
  | .connectionState connection state =>
      if channel.peer = some connection then changeConnection channel state else channel
  | .iceFailed connection =>
      if channel.peer = some connection then disposePeer channel .failed else channel
  | .close => disposePeer { channel with closedByUser := true } .disconnected
  | .resume index signed reading =>
      match channel.tasks[index]? with
      | some task =>
          resume { channel with tasks := channel.tasks.eraseIdx index } task signed reading
      | none => channel

/-- A channel as it is made. -/
def PeerChannel.initial : PeerChannel where
  peer := none
  dataChannel := none
  state := .idle
  helloSent := false
  capabilitiesSent := false
  remoteVerified := false
  remoteCapabilities := none
  closedByUser := false
  tasks := []
  next := 0
  heard := []
  calls := []

end OpenClaw.Peer
