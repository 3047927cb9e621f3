import OpenClaw.Desktop.Transcript
import OpenClaw.Runtime.Object

/-!
# What a mobile message does to the desktop

Messages of the mobile are JSON, over the relay or over the data channel.  Only
two kinds touch the channels: a revocation removes channels, and a chat message
is appended and, if it was new, handed to the agent.  `Delivery` records the
second; the envelopes the desktop sends back are not part of the model.
-/

namespace OpenClaw.Desktop

open OpenClaw.Runtime

/-- What a step reads from the machine: the clock, the random ids and the choices
of the runtime. -/
structure Env where
  now : ℕ
  randomId : String → String
  choices : Choices

/-! ## Reading JSON -/

def asStr : Json → Option String
  | .str value => some value
  | _ => none

def asArray : Json → Option (List Json)
  | .arr elements => some elements
  | _ => none

/-- `Value::as_u64`. -/
def asU64 : Json → Option ℕ
  | .num (.finite q) => if q.den = 1 ∧ 0 ≤ q.num ∧ q.num < 2 ^ 64 then some q.num.toNat else none
  | _ => none

def asObject : Json → Option Json
  | .obj fields => some (.obj fields)
  | _ => none

/-- The first of the keys with a text that is not blank, trimmed. -/
def readJsonString (value : Json) (keys : List String) : String :=
  (keys.findSome? fun key =>
    match (value.field key).bind asStr with
    | some text => if unicodeTrim text = "" then none else some (unicodeTrim text)
    | none => none).getD ""

/-- A text field, trimmed, unless it is blank. -/
def trimmedField (body : Json) (key : String) : Option String :=
  (((body.field key).bind asStr).map unicodeTrim).filter fun value => decide (value ≠ "")

def openclawChatMessageType : String := "app.openclaw.chat.message"

def openclawChannelRevokeType : String := "app.openclaw.channel.revoke"

def parseOpenclawChatPayload (env : Env) (payload : Json) : Option PairBackendMessage :=
  match (payload.field "payload").bind asObject with
  | none => none
  | some body =>
      let text := ((body.field "text").bind asStr).getD ""
      if unicodeTrim text = "" then none
      else
        some
          { id := (trimmedField body "id").getD (env.randomId "msg")
            sender := ""
            text := text
            ts := ((payload.field "ts").bind asU64).getD env.now
            kind := "chat"
            origin := (trimmedField body "origin").getD ""
            originSeq := ((body.field "originSeq").bind asU64).getD 0
            after := ((((body.field "after").bind asArray).getD []).filterMap fun item =>
              (asStr item).map unicodeTrim).filter fun value => decide (value ≠ "")
            missingAfter := []
            gatewayMessageId := ""
            gatewayMessageSeq := 0 }

/-! ## Processing -/

/-- A chat message that reached a channel: the slot, the id, whether it was new
there, and whether `forward_mobile_message_to_openclaw` was called. -/
structure Delivery where
  slot : ℕ
  messageId : String
  inserted : Bool
  forwarded : Bool

def messageType (payload : Json) : String :=
  unicodeTrim (((payload.field "type").bind asStr).getD "")

/-- The channels a revocation of the mobile takes away. -/
def revokedByMobile (bindingId sessionId channelId mobileId : String)
    (channel : PairBackendChannel) : Bool :=
  (bindingId ≠ "" ∧ channel.bindingId = bindingId) ∨
    (sessionId ≠ "" ∧ channel.sessionId = sessionId) ∨
    (channelId ≠ "" ∧ channel.channelId = channelId) ∨
    (unicodeTrim mobileId ≠ "" ∧ channel.mobileId = unicodeTrim mobileId)

/-- A message as the mobile's. -/
def fromMobile (message : PairBackendMessage) : PairBackendMessage :=
  { message with
    sender := "mobile", origin := normalizeChatMessageOrigin message.origin "mobile" }

/-- The chat branch of `process_mobile_app_message`. -/
def deliverChat (env : Env) (app : Bool) (channels : Channels) (bindingId : String)
    (message : PairBackendMessage) : Channels × Option Delivery :=
  let appended := appendChannelMessage env.choices channels bindingId (fromMobile message)
  (appended.1, appended.2.map fun result =>
    ⟨result.slot, message.id, result.inserted, result.inserted && app⟩)

/-- Acks, pings, sync requests and sync states are answered and leave the
channels alone, like everything the desktop does not know. -/
def processMobileAppMessage (env : Env) (app : Bool) (channels : Channels)
    (bindingId mobileId : String) (payload : Json) : Channels × Option Delivery :=
  if messageType payload = openclawChannelRevokeType then
    let revokedBindingId := readJsonString payload ["bindingId"]
    let bindingForLookup :=
      if revokedBindingId = "" then unicodeTrim bindingId else revokedBindingId
    let sessionId := readJsonString payload ["sessionId"]
    let channelId := readJsonString payload ["channelId"]
    (channels.retain fun channel =>
      !revokedByMobile bindingForLookup sessionId channelId mobileId channel, none)
  else if messageType payload = openclawChatMessageType then
    match parseOpenclawChatPayload env payload with
    | none => (channels, none)
    | some message => deliverChat env app channels bindingId message
  else (channels, none)

/-! ## What it leaves behind -/

variable {env : Env} {app : Bool} {channels : Channels} {bindingId mobileId : String}
  {payload : Json} {message : PairBackendMessage} {slot : ℕ}
  {channel channel' : PairBackendChannel} {delivery : Delivery}

theorem slot_of_channelFor (hslot : channelFor channels bindingId = some slot) :
    ∃ channel, channels.get slot = some channel := by
  obtain ⟨channel, hget, -⟩ := Roster.exists_of_find? hslot
  exact ⟨channel, hget⟩

/-- An append without a channel to append to. -/
theorem appendChannelMessage_of_none {choices : Choices}
    (hslot : channelFor channels bindingId = none) :
    appendChannelMessage choices channels bindingId message = (channels, none) := by
  rw [appendChannelMessage, hslot]

theorem appendChannelMessage_of_get {choices : Choices}
    (hslot : channelFor channels bindingId = some slot) (hget : channels.get slot = some channel) :
    appendChannelMessage choices channels bindingId message =
      (channels.modify slot fun _ => (appendMessage choices channel message).1,
        some ⟨slot, (appendMessage choices channel message).2.1,
          (appendMessage choices channel message).2.2⟩) := by
  simp only [appendChannelMessage, hslot, hget]

/-- An append does not change where messages go. -/
theorem channelFor_appendChannelMessage {choices : Choices} (other : String) :
    channelFor (appendChannelMessage choices channels bindingId message).1 other =
      channelFor channels other := by
  cases hslot : channelFor channels bindingId with
  | none => rw [appendChannelMessage_of_none hslot]
  | some slot =>
      obtain ⟨channel, hchannel⟩ := slot_of_channelFor hslot
      rw [appendChannelMessage_of_get hslot hchannel]
      unfold channelFor
      dsimp only
      refine Roster.find?_modify fun value hvalue => ?_
      rw [hchannel, Option.some_inj] at hvalue
      rw [← hvalue, appendMessage]

/-- **An append changes only the messages of one channel.** -/
theorem get_appendChannelMessage {choices : Choices} {other : ℕ}
    (hget : (appendChannelMessage choices channels bindingId message).1.get other = some channel') :
    ∃ channel, channels.get other = some channel ∧
      channel' = { channel with
        messages := channel'.messages, missingMessageIds := channel'.missingMessageIds } := by
  cases hslot : channelFor channels bindingId with
  | none =>
      rw [appendChannelMessage_of_none hslot] at hget
      exact ⟨channel', hget, rfl⟩
  | some slot =>
      obtain ⟨channel, hchannel⟩ := slot_of_channelFor hslot
      rw [appendChannelMessage_of_get hslot hchannel, Roster.get_modify] at hget
      by_cases hother : other = slot
      · rw [if_pos hother, hother, hchannel, Option.map_some, Option.some_inj] at hget
        subst hget
        exact ⟨channel, hother ▸ hchannel, rfl⟩
      · rw [if_neg hother] at hget
        exact ⟨channel', hget, rfl⟩

/-- A mobile message changes at most the messages of the channels it leaves. -/
theorem get_processMobileAppMessage {other : ℕ}
    (hget : (processMobileAppMessage env app channels bindingId mobileId payload).1.get other =
      some channel') :
    ∃ channel, channels.get other = some channel ∧
      channel' = { channel with
        messages := channel'.messages, missingMessageIds := channel'.missingMessageIds } := by
  unfold processMobileAppMessage at hget
  split at hget
  · rw [Roster.get_retain, Option.filter_eq_some_iff] at hget
    exact ⟨channel', hget.1, rfl⟩
  · split at hget
    · cases hparse : parseOpenclawChatPayload env payload with
      | none =>
          rw [hparse] at hget
          exact ⟨channel', hget, rfl⟩
      | some message =>
          rw [hparse] at hget
          exact get_appendChannelMessage hget
    · exact ⟨channel', hget, rfl⟩

/-- A payload with a text and an id is read under that id. -/
theorem id_parseOpenclawChatPayload {body : Json} {id : String}
    (hbody : (payload.field "payload").bind asObject = some body)
    (htext : unicodeTrim (((body.field "text").bind asStr).getD "") ≠ "")
    (hid : trimmedField body "id" = some id) :
    ∃ message, parseOpenclawChatPayload env payload = some message ∧ message.id = id := by
  unfold parseOpenclawChatPayload
  rw [hbody]
  dsimp only
  rw [if_neg htext, hid]
  exact ⟨_, rfl, rfl⟩

theorem processMobileAppMessage_chat (htype : messageType payload = openclawChatMessageType)
    (hparse : parseOpenclawChatPayload env payload = some message) :
    processMobileAppMessage env app channels bindingId mobileId payload =
      deliverChat env app channels bindingId message := by
  have htypes : openclawChatMessageType ≠ openclawChannelRevokeType := by decide
  unfold processMobileAppMessage
  rw [if_neg (htype ▸ htypes), if_pos htype, hparse]

/-- A delivery is an append of the parsed message to the channel of the
binding. -/
theorem delivery_iff :
    (processMobileAppMessage env app channels bindingId mobileId payload).2 = some delivery ↔
      messageType payload = openclawChatMessageType ∧
        ∃ message slot channel, parseOpenclawChatPayload env payload = some message ∧
          channelFor channels bindingId = some slot ∧ channels.get slot = some channel ∧
          delivery = ⟨slot, message.id,
            (appendMessage env.choices channel (fromMobile message)).2.1,
            (appendMessage env.choices channel (fromMobile message)).2.1 && app⟩ := by
  have htypes : openclawChatMessageType ≠ openclawChannelRevokeType := by decide
  unfold processMobileAppMessage
  by_cases hchat : messageType payload = openclawChatMessageType
  · rw [if_neg (hchat ▸ htypes), if_pos hchat, and_iff_right hchat]
    cases hparse : parseOpenclawChatPayload env payload with
    | none => simp
    | some message =>
        simp only [deliverChat, Option.some.injEq]
        cases hslot : channelFor channels bindingId with
        | none => simp [appendChannelMessage_of_none hslot]
        | some slot =>
            obtain ⟨channel, hget⟩ := slot_of_channelFor hslot
            simp [appendChannelMessage_of_get hslot hget, hget, eq_comm]
  · rw [if_neg hchat]
    split
    · simp [hchat]
    · simp [hchat]

end OpenClaw.Desktop
