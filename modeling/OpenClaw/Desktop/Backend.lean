import OpenClaw.Desktop.Inbox

/-!
# The desktop backend as a state machine

The state is the list of channels and the connection flags that decide whether a
signal is still read.  An event is one critical step of the desktop: a signal of
the server, a message over the data channel, a command of the user, or the
answer of the server to one.  `perform` gives the next state and the chat
delivery the event caused, if any.

What the code takes from outside enters as data: the hash of the safety code and
the decoder of WebRTC payloads as a `Platform`, the server's answers as part of
the event.
-/

namespace OpenClaw.Desktop

open OpenClaw.Runtime

/-- The fields of `PairSignalPayload` that select the channel. -/
structure PairSignalPayload where
  bindingId : String
  mobileId : String

/-- Library code the desktop calls: SHA-256, and the derived decoder of a WebRTC
payload, which fails on a payload of another shape. -/
structure Platform where
  sha256 : List UInt8 → List UInt8
  decodeSignal : Json → Option PairSignalPayload

structure PairSignalEnvelope where
  type : String
  fromId : Option String
  payload : Option Json

/-- The server's record of a binding, as `approve_channel` reads it. -/
structure PairBinding where
  bindingId : String
  pairSessionId : String
  devicePublicKey : String
  mobileId : String
  mobileName : String
  mobilePublicKey : String
  trustState : String
  createdAt : ℕ
  approvedAt : Option ℕ

/-- The server's record of a pair session, as `create_session` reads it. -/
structure PairSessionRecord where
  pairSessionId : String
  devicePublicKey : String
  sessionNonce : String
  createdAt : ℕ
  claimedMobileId : Option String
  bindingId : Option String

structure Backend where
  channels : Channels
  channelOpen : Bool
  desiredConnected : Bool
  connectGeneration : ℕ
  /-- Whether the application handle is set; without it nothing is forwarded. -/
  app : Bool

inductive Event
  /-- `connect`. -/
  | connect (fromReconnect : Bool)
  /-- `set_channel_open_state`. -/
  | setChannelOpen (isOpen desired : Bool)
  /-- The signal stream of a generation is up. -/
  | streamConnected (generation : ℕ)
  /-- `handle_stream_failure`. -/
  | streamFailed (generation : ℕ)
  | disconnect
  /-- `set_app_handle`. -/
  | setAppHandle
  /-- `handle_signal_event`. -/
  | signal (generation : ℕ) (envelope : PairSignalEnvelope)
  /-- A message over a verified data channel. -/
  | peerMessage (bindingId mobileId : String) (payload : Json)
  | createSession (session : PairSessionRecord)
  /-- `approve_channel`, with the server's answer if there was one. -/
  | approveChannel (channelId : String) (answer : Option PairBinding)
  /-- `revoke_channel`; the flag is false when deleting the session failed. -/
  | revokeChannel (channelId : String) (deleted : Bool)
  /-- `send_chat_to_peer`; the flag is false when the message could not be
  sent. -/
  | sendChat (channelId text : String) (sent : Bool)
  /-- A reply of the agent, or its error text, to the mobile of a binding. -/
  | reply (bindingId text : String)
  /-- `sync_openclaw_session_history_now`. -/
  | transcript (sessionKey : String) (entries : List OpenClawTranscriptEntry)

/-! ## Signals -/

/-- Six decimal digits of the first twenty bits. -/
def computeSafetyCode (platform : Platform) (devicePublicKey mobilePublicKey pairSessionId
    sessionNonce : String) : String :=
  let bytes := platform.sha256 <|
    (devicePublicKey ++ mobilePublicKey ++ pairSessionId ++ sessionNonce).toUTF8.toList
  let byte := fun index => (bytes.getD index 0).toNat
  let value := (byte 0 * 2 ^ 16 + byte 1 * 2 ^ 8 + byte 2) / 2 ^ 4
  let digits := toString (value % 1000000)
  String.ofList (List.replicate (6 - digits.length) '0') ++ digits

/-- The condition of `find_channel_for_signal`. -/
def matchesSignal (bindingId mobileId : String) (channel : PairBackendChannel) : Bool :=
  (bindingId ≠ "" ∧ channel.bindingId = bindingId) ∨
    (mobileId ≠ "" ∧ channel.mobileId = mobileId)

def findChannelForSignal (channels : Channels) (bindingId mobileId : String) : Option ℕ :=
  channels.find? (matchesSignal bindingId mobileId)

/-- The update `ensure_channel_for_signal` makes to the channel it created. -/
def bootstrapChannel (channelOpen : Bool) (bindingId mobileId : String)
    (channel : PairBackendChannel) : PairBackendChannel :=
  { channel with
    bindingId := if bindingId ≠ "" then bindingId else channel.bindingId
    channelId :=
      if bindingId ≠ "" ∧ unicodeTrim channel.channelId = "" then bindingId else channel.channelId
    mobileId := if mobileId ≠ "" then mobileId else channel.mobileId
    status :=
      if channel.status ≠ "pending" then (if channelOpen then "active" else "offline")
      else channel.status
    trustState :=
      if unicodeTrim channel.trustState = "" ∨ channel.trustState = "pending" then "active"
      else channel.trustState }

/-- `ensure_channel_for_signal`: the channels and the slot of the channel the
signal is for. -/
def ensureChannelForSignal (env : Env) (backend : Backend) (bindingId mobileId : String) :
    Channels × Option ℕ :=
  match findChannelForSignal backend.channels bindingId mobileId with
  | some slot => (backend.channels, some slot)
  | none =>
      if bindingId = "" ∧ mobileId = "" then (backend.channels, none)
      else
        let created :=
          findOrCreateChannel (env.randomId "ch") backend.channels "" bindingId mobileId env.now
        (created.1.modify created.2 (bootstrapChannel backend.channelOpen bindingId mobileId),
          some created.2)

/-- What `pair.claimed` says. -/
structure Claimed where
  mobileId : String
  mobileName : String
  sessionId : String
  bindingId : String
  devicePublicKey : String
  mobilePublicKey : String
  sessionNonce : String
  trustState : String

def readClaimed (payload : Json) : Claimed where
  mobileId := readJsonString payload ["mobileId", "mobile_id"]
  mobileName := readJsonString payload ["mobileName", "mobile_name"]
  sessionId := readJsonString payload ["pairSessionId", "pair_session_id"]
  bindingId := readJsonString payload ["bindingId", "binding_id"]
  devicePublicKey := readJsonString payload ["devicePublicKey", "device_public_key"]
  mobilePublicKey := readJsonString payload ["mobilePublicKey", "mobile_public_key"]
  sessionNonce := readJsonString payload ["sessionNonce", "session_nonce"]
  trustState := readJsonString payload ["trustState", "trust_state"]

def claimChannel (platform : Platform) (claimed : Claimed) (channel : PairBackendChannel) :
    PairBackendChannel :=
  { channel with
    sessionId := if claimed.sessionId ≠ "" then claimed.sessionId else channel.sessionId
    bindingId := if claimed.bindingId ≠ "" then claimed.bindingId else channel.bindingId
    mobileId := if claimed.mobileId ≠ "" then claimed.mobileId else channel.mobileId
    mobileName := if claimed.mobileName ≠ "" then claimed.mobileName else channel.mobileName
    devicePublicKey :=
      if claimed.devicePublicKey ≠ "" then some claimed.devicePublicKey
      else channel.devicePublicKey
    mobilePublicKey :=
      if claimed.mobilePublicKey ≠ "" then some claimed.mobilePublicKey
      else channel.mobilePublicKey
    sessionNonce :=
      if claimed.sessionNonce ≠ "" then some claimed.sessionNonce else channel.sessionNonce
    safetyCode :=
      if claimed.devicePublicKey ≠ "" ∧ claimed.mobilePublicKey ≠ "" ∧ claimed.sessionId ≠ "" ∧
          claimed.sessionNonce ≠ "" then
        some (computeSafetyCode platform claimed.devicePublicKey claimed.mobilePublicKey
          claimed.sessionId claimed.sessionNonce)
      else channel.safetyCode
    trustState := if claimed.trustState = "" then "pending" else claimed.trustState
    status := "pending" }

def pairClaimed (platform : Platform) (env : Env) (channels : Channels) (claimed : Claimed) :
    Channels :=
  let found := findOrCreateChannel (env.randomId "ch") channels claimed.sessionId
    claimed.bindingId claimed.mobileId env.now
  found.1.modify found.2 (claimChannel platform claimed)

def pairRevoked (channels : Channels) (bindingId mobileId : String) : Channels :=
  match findChannelForSignal channels bindingId mobileId with
  | some slot =>
      channels.modify slot fun channel =>
        { channel with status := "offline", trustState := "revoked" }
  | none => channels

/-- The `relay.app` branch: the payload's ids, with the sender for a missing
mobile. -/
def relayIds (fromId : String) (payload : Json) : String × String :=
  let bindingId := readJsonString payload ["bindingId", "binding_id"]
  let mobileId := readJsonString payload ["mobileId", "mobile_id"]
  (bindingId, if unicodeTrim mobileId = "" then fromId else mobileId)

def relayApp (env : Env) (backend : Backend) (fromId : String) (payload : Json) :
    Channels × Option Delivery :=
  let ids := relayIds fromId payload
  let ensured := ensureChannelForSignal env backend ids.1 ids.2
  match ensured.2.bind ensured.1.get, payload.field "message" with
  | some channel, some message =>
      processMobileAppMessage env backend.app ensured.1 channel.bindingId channel.mobileId message
  | _, _ => (ensured.1, none)

/-- The WebRTC branches: only the lookup touches the channels. -/
def webrtcIds (fromId : String) (signal : PairSignalPayload) : String × String :=
  (unicodeTrim signal.bindingId,
    if unicodeTrim signal.mobileId = "" then fromId else unicodeTrim signal.mobileId)

def isWebrtc (type : String) : Bool :=
  type = "webrtc.offer" ∨ type = "webrtc.answer" ∨ type = "webrtc.ice"

/-- `handle_signal_event`, once the generation is known to be current. -/
def handleSignal (platform : Platform) (env : Env) (backend : Backend)
    (envelope : PairSignalEnvelope) : Channels × Option Delivery :=
  let eventType := unicodeTrim envelope.type
  let fromId := unicodeTrim (envelope.fromId.getD "")
  let payload := envelope.payload.getD (.obj [])
  if eventType = "pair.claimed" then
    (pairClaimed platform env backend.channels (readClaimed payload), none)
  else if eventType = "pair.revoked" then
    (pairRevoked backend.channels (readJsonString payload ["bindingId", "binding_id"])
      (readJsonString payload ["mobileId", "mobile_id"]), none)
  else if eventType = "relay.app" then relayApp env backend fromId payload
  else if isWebrtc eventType then
    match platform.decodeSignal payload with
    | none => (backend.channels, none)
    | some signal =>
        let ids := webrtcIds fromId signal
        ((ensureChannelForSignal env backend ids.1 ids.2).1, none)
  else (backend.channels, none)

/-- A signal is read while its stream is the current one. -/
def Backend.current (backend : Backend) (generation : ℕ) : Bool :=
  backend.connectGeneration = generation ∧ backend.channelOpen

/-! ## Commands -/

def sessionChannel (session : PairSessionRecord) (channel : PairBackendChannel) :
    PairBackendChannel :=
  { channel with
    sessionId := session.pairSessionId, channelId := session.pairSessionId
    status := "pending", trustState := "pending"
    mobileId := session.claimedMobileId.getD ""
    sessionNonce := some session.sessionNonce
    devicePublicKey := some session.devicePublicKey }

def createSession (env : Env) (channels : Channels) (session : PairSessionRecord) : Channels :=
  let found := findOrCreateChannel (env.randomId "ch") channels session.pairSessionId
    (session.bindingId.getD "") (session.claimedMobileId.getD "") session.createdAt
  found.1.modify found.2 (sessionChannel session)

/-- The binding `approve_channel` asks the server to approve. -/
def requestedBinding (channels : Channels) (channelId : String) : Option String :=
  (((channels.find? fun channel => decide (channel.channelId = channelId)).bind channels.get).map
    PairBackendChannel.bindingId).filter fun bindingId => decide (bindingId ≠ "")

def approvedChannel (channelOpen : Bool) (binding : PairBinding) (channel : PairBackendChannel) :
    PairBackendChannel :=
  { channel with
    sessionId := binding.pairSessionId, bindingId := binding.bindingId
    mobileId := binding.mobileId, mobileName := binding.mobileName
    devicePublicKey := some binding.devicePublicKey
    mobilePublicKey := some binding.mobilePublicKey
    trustState := binding.trustState
    status := if channelOpen then "active" else "offline"
    approvedAt := binding.approvedAt }

def approveChannel (env : Env) (backend : Backend) (channelId : String)
    (answer : Option PairBinding) : Channels :=
  match requestedBinding backend.channels channelId, answer with
  | some _, some binding =>
      let found := findOrCreateChannel (env.randomId "ch") backend.channels binding.pairSessionId
        binding.bindingId binding.mobileId binding.createdAt
      found.1.modify found.2 (approvedChannel backend.channelOpen binding)
  | _, _ => backend.channels

/-- A channel with a binding is deleted whatever the server says; one with only
a session is kept when the server could not delete the session. -/
def revokeChannel (channels : Channels) (channelId : String) (deleted : Bool) : Channels :=
  match (channels.find? fun channel => decide (channel.channelId = channelId)).bind
      channels.get with
  | none => channels
  | some channel =>
      if unicodeTrim channel.bindingId = "" ∧ unicodeTrim channel.sessionId ≠ "" ∧
          deleted = false then channels
      else channels.retain fun item => decide (item.channelId ≠ channelId)

/-- Build a host message for the channel of a binding and append it. -/
def appendOutgoing (env : Env) (channels : Channels) (bindingId sender text : String) :
    Channels :=
  let messages := (((channelFor channels bindingId).bind channels.get).map
    PairBackendChannel.messages).getD []
  (appendChannelMessage env.choices channels bindingId
    (buildOutgoingChatMessage (env.randomId "msg") messages sender text env.now)).1

/-- `send_chat_to_peer` refuses a pending or revoked channel. -/
def sendChat (env : Env) (channels : Channels) (channelId text : String) (sent : Bool) :
    Channels :=
  match (channels.find? fun channel => decide (channel.channelId = channelId)).bind
      channels.get with
  | none => channels
  | some channel =>
      if channel.trustState = "pending" ∨ channel.trustState = "revoked" ∨ sent = false then
        channels
      else appendOutgoing env channels channel.bindingId "desktop" text

def importForSession (env : Env) (channels : Channels) (sessionKey : String)
    (entries : List OpenClawTranscriptEntry) : Channels :=
  match channels.find? (channelMatchesOpenclawSessionKey sessionKey) with
  | some slot =>
      if entries = [] then channels
      else channels.modify slot (importTranscript env.choices entries)
  | none => channels

/-! ## Steps -/

/-- The status of the channels that are neither being claimed nor revoked. -/
def setStatuses (status : String) (channels : Channels) : Channels :=
  channels.mapValues fun channel =>
    if channel.trustState ≠ "revoked" ∧ channel.status ≠ "pending" then
      { channel with status := status }
    else channel

/-- One step: the next state and the delivery it caused. -/
def perform (platform : Platform) (env : Env) (backend : Backend) :
    Event → Backend × Option Delivery
  | .connect fromReconnect =>
      if (backend.channelOpen = false ∧ fromReconnect = false) ∨
          (backend.desiredConnected = false ∧ fromReconnect = true) then (backend, none)
      else
        ({ backend with
            channelOpen := true, desiredConnected := true
            connectGeneration := backend.connectGeneration + 1 }, none)
  | .setChannelOpen isOpen desired =>
      ({ backend with channelOpen := isOpen, desiredConnected := desired }, none)
  | .streamConnected generation =>
      if backend.current generation then
        ({ backend with channels := setStatuses "active" backend.channels }, none)
      else (backend, none)
  | .streamFailed generation =>
      if backend.connectGeneration = generation then
        ({ backend with channels := setStatuses "offline" backend.channels }, none)
      else (backend, none)
  | .disconnect =>
      ({ backend with
          channelOpen := false, desiredConnected := false
          channels := setStatuses "offline" backend.channels }, none)
  | .setAppHandle => ({ backend with app := true }, none)
  | .signal generation envelope =>
      if backend.current generation then
        let handled := handleSignal platform env backend envelope
        ({ backend with channels := handled.1 }, handled.2)
      else (backend, none)
  | .peerMessage bindingId mobileId payload =>
      let processed :=
        processMobileAppMessage env backend.app backend.channels bindingId mobileId payload
      ({ backend with channels := processed.1 }, processed.2)
  | .createSession session =>
      ({ backend with channels := createSession env backend.channels session }, none)
  | .approveChannel channelId answer =>
      ({ backend with channels := approveChannel env backend channelId answer }, none)
  | .revokeChannel channelId deleted =>
      ({ backend with channels := revokeChannel backend.channels channelId deleted }, none)
  | .sendChat channelId text sent =>
      ({ backend with channels := sendChat env backend.channels channelId text sent }, none)
  | .reply bindingId text =>
      ({ backend with channels := appendOutgoing env backend.channels bindingId "agent" text },
        none)
  | .transcript sessionKey entries =>
      ({ backend with channels := importForSession env backend.channels sessionKey entries }, none)

/-- A desktop that has paired with nobody. -/
def Backend.initial : Backend := ⟨Roster.empty, false, false, 0, false⟩

/-- A platform for runs without safety codes and without WebRTC. -/
def plainPlatform : Platform := ⟨fun _ => [], fun _ => none⟩

/-! ## What a signal does -/

variable {platform : Platform} {env : Env} {before : Backend} {envelope : PairSignalEnvelope}
  {generation : ℕ}

theorem perform_signal_of_current (hcurrent : before.current generation = true) :
    perform platform env before (.signal generation envelope) =
      ({ before with channels := (handleSignal platform env before envelope).1 },
        (handleSignal platform env before envelope).2) := if_pos hcurrent

theorem perform_signal_of_stale (hstale : ¬before.current generation = true) :
    perform platform env before (.signal generation envelope) = (before, none) := if_neg hstale

theorem perform_peerMessage {bindingId mobileId : String} {payload : Json} :
    perform platform env before (.peerMessage bindingId mobileId payload) =
      ({ before with
          channels := (processMobileAppMessage env before.app before.channels bindingId mobileId
            payload).1 },
        (processMobileAppMessage env before.app before.channels bindingId mobileId payload).2) := by
  rw [perform]

theorem handleSignal_relay (htype : unicodeTrim envelope.type = "relay.app") :
    handleSignal platform env before envelope =
      relayApp env before (unicodeTrim (envelope.fromId.getD ""))
        (envelope.payload.getD (.obj [])) := by
  have hnotClaimed : ¬unicodeTrim envelope.type = "pair.claimed" := by
    rw [htype]
    decide
  have hnotRevoked : ¬unicodeTrim envelope.type = "pair.revoked" := by
    rw [htype]
    decide
  unfold handleSignal
  dsimp only
  rw [if_neg hnotClaimed, if_neg hnotRevoked, if_pos htype]

/-- Only `relay.app` brings a chat message. -/
theorem handleSignal_delivery (htype : unicodeTrim envelope.type ≠ "relay.app") :
    (handleSignal platform env before envelope).2 = none := by
  unfold handleSignal
  dsimp only
  rw [if_neg htype]
  split
  · rfl
  · split
    · rfl
    · split
      · cases platform.decodeSignal (envelope.payload.getD (.obj [])) with
        | none => rfl
        | some signal => rfl
      · rfl

end OpenClaw.Desktop
