import OpenClaw.Chat.Transport
import OpenClaw.Peer.Channel
import OpenClaw.Runtime.Coercion

/-!
# App messages between the two ends

The desktop writes an app message in Rust and the mobile reads it in TypeScript, or the
other way round.  A message travels over the relay, inside the payload of a signal, or over
a data channel, where the pair SDK puts it into an envelope of its own.  `Framing` has both,
in both directions.

The relay passes a signal on as it is.
-/

namespace OpenClaw.Wire

open OpenClaw.Runtime OpenClaw.Desktop OpenClaw.Peer

/-- `JSON.stringify`. -/
def stringify : Json → Json := Json.mapNumbers Chat.stringifyNumber

/-- What reading a message in TypeScript takes from the phone. -/
structure Reader where
  coercion : Coercion
  now : ℕ
  /-- `createOpenClawPairChatMessageId` -/
  createMessageId : JsNumber → String

/-- A phone at the beginning of time. -/
def plainReader : Reader where
  coercion := ⟨fun _ => "[object Object]", fun _ => .nan⟩
  now := 0
  createMessageId := fun _ => "chat_0"

namespace Reader

variable (reader : Reader)

/-- `String(value || "").trim()` of a field. -/
def trimmed (value : Json) (key : String) : String :=
  jsTrim (reader.coercion.string (value.field key))

/-- `Number(message.ts || Date.now())` -/
def tsOf (message : Json) : JsNumber :=
  reader.coercion.number (message.field "ts") (.finite reader.now)

/-- `normalizeOpenClawPairChatAfterIds`, of a value of any shape. -/
def normalizeIds (value : Option Json) : List String :=
  Mobile.normalizeAfterIds
    (((value.bind asArray).getD []).map fun element => reader.coercion.string (some element))

end Reader

/-- `message.payload && typeof message.payload === "object" ? message.payload : {}` -/
def payloadOf (message : Json) : Json :=
  ((message.field "payload").filter Json.isObject).getD (.obj [])

/-- `message.from === name` -/
def isFrom (message : Json) (name : String) : Bool :=
  (message.field "from").bind asStr = some name

/-- `message.from === "desktop" ? "desktop" : "mobile"` -/
def senderOf (message : Json) : EntityType := if isFrom message "desktop" then .desktop else .mobile

/-- A message in the shape both SDKs give it. -/
def appMessage (type : String) (payload ts : Json) (sender : String) : Json :=
  .obj [("type", .str type), ("payload", payload), ("ts", ts), ("from", .str sender)]

/-! ## The ways of a message -/

/-- `isAppMessageType` -/
def isAppMessageType (type : String) : Bool := "app.".toList.isPrefixOf type.toList

inductive Framing
  /-- Inside a signal, with the ids of the binding and the mobile, or of the device. -/
  | relay (bindingId peerId : String)
  | dataChannel

/-- The payload of the signal by `relay_app_message_to_mobile`. -/
def relayToMobile (bindingId mobileId : String) (message : Json) : Json :=
  .obj [("bindingId", .str bindingId), ("mobileId", .str mobileId), ("message", message)]

/-- The app branch of `handleDataMessage`, on a phone. -/
def handleDataMessage (reader : Reader) (envelope : Json) : Option Json :=
  if isAppMessageType (reader.trimmed envelope "type") then
    some (appMessage (reader.trimmed envelope "type") (payloadOf envelope)
      (.num (reader.tsOf envelope)) (if isFrom envelope "mobile" then "mobile" else "desktop"))
  else none

/-- What the mobile reads of a message of the desktop. -/
def Framing.toMobile (reader : Reader) : Framing → Json → Option Json
  | .relay bindingId mobileId, message =>
      ((relayToMobile bindingId mobileId message).parse.field "message").filter Json.isObject
  | .dataChannel, message => handleDataMessage reader message.parse

/-- The payload of the signal by `sendRelayAppMessage`. -/
def relayToDesktop (bindingId deviceId : String) (message : Json) : Json :=
  .obj [("bindingId", .str bindingId), ("deviceId", .str deviceId), ("message", message)]

/-- `sendAppMessage` of a phone, with the type and the payload of the message. -/
def sendAppMessage (reader : Reader) (message : Json) : Option Json :=
  if isAppMessageType (reader.trimmed message "type") then
    some (appMessage (reader.trimmed message "type") (payloadOf message)
      (.num (.finite reader.now)) "mobile")
  else none

/-- What the desktop reads of a message of the mobile. -/
def Framing.toDesktop (reader : Reader) : Framing → Json → Option Json
  | .relay bindingId deviceId, message =>
      (stringify (relayToDesktop bindingId deviceId message)).field "message"
  | .dataChannel, message => (sendAppMessage reader message).map stringify

variable {reader : Reader} {framing : Framing} {message received payload ts : Json}
  {type sender : String}

@[simp] theorem trimmed_appMessage (htype : jsTrim type = type) :
    reader.trimmed (appMessage type payload ts sender) "type" = type := by
  show jsTrim (reader.coercion.string (some (.str type))) = type
  rw [Coercion.string_str, htype]

/-- A field of a message as it is written, by the mobile or as a double. -/
theorem field_mapNumbers_appMessage (change : JsNumber → Json) (key : String) :
    (Json.mapNumbers change (appMessage type payload ts sender)).field key =
      ((appMessage type payload ts sender).field key).map (Json.mapNumbers change) :=
  Json.field_mapNumbers_obj change _ key

theorem messageType_stringify (htype : unicodeTrim type = type) :
    messageType (stringify (appMessage type payload ts sender)) = type := by
  have hfield : (appMessage type payload ts sender).field "type" = some (.str type) := rfl
  rw [messageType, stringify, field_mapNumbers_appMessage, hfield, Option.map_some,
    Json.mapNumbers_str]
  exact htype

/-- Either way the desktop gets a message of this shape, with the type of the message. -/
theorem toDesktop_appMessage (htype : jsTrim type = type) (happ : isAppMessageType type = true) :
    ∃ payload' ts' sender', framing.toDesktop reader (appMessage type payload ts sender) =
      some (stringify (appMessage type payload' ts' sender')) := by
  cases framing with
  | relay bindingId deviceId =>
      refine ⟨payload, ts, sender, ?_⟩
      rw [Framing.toDesktop, relayToDesktop, stringify, Json.field_mapNumbers_obj]
      rfl
  | dataChannel =>
      refine ⟨payloadOf (appMessage type payload ts sender), .num (.finite reader.now), "mobile",
        ?_⟩
      rw [Framing.toDesktop, sendAppMessage, trimmed_appMessage htype, if_pos happ, Option.map_some]

/-- Either way the mobile finds the payload that was sent. -/
theorem payloadOf_toMobile (hreceived : framing.toMobile reader message = some received) :
    payloadOf received = payloadOf message.parse := by
  cases framing with
  | relay bindingId mobileId =>
      have hfield : (relayToMobile bindingId mobileId message).parse.field "message" =
          some message.parse := by
        rw [relayToMobile, Json.parse, Json.field_mapNumbers_obj]
        rfl
      rw [Framing.toMobile, hfield, Option.filter_eq_some_iff] at hreceived
      rw [Option.some.inj hreceived.1]
  | dataChannel =>
      rw [Framing.toMobile, handleDataMessage] at hreceived
      split at hreceived
      · obtain rfl := Option.some.inj hreceived
        have hobject : (payloadOf message.parse).isObject = true := by
          generalize message.parse = parsed
          unfold payloadOf
          cases hfilter : (parsed.field "payload").filter Json.isObject with
          | none => rfl
          | some payload => exact (Option.filter_eq_some_iff.mp hfilter).2
        show (Option.filter Json.isObject (some (payloadOf message.parse))).getD _ = _
        rw [Option.filter_some, if_pos hobject, Option.getD_some]
      · cases hreceived

end OpenClaw.Wire
