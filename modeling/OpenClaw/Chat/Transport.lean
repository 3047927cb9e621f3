import OpenClaw.Chat.Numbering
import OpenClaw.Desktop.Redelivery
import OpenClaw.Mobile.Outgoing

/-!
# A chat message over either transport

A chat message of the mobile reaches the desktop over the data channel of the
peers or through the server's relay.  Both carry the same payload, but
`sendAppMessage` of the data channel stamps the envelope with the time of sending,
while the relay carries the time of the message.  The desktop reads the time of
the envelope, so it stores the message alike exactly if the two times are the same
(`transportIndependent_iff`).
-/

namespace OpenClaw.Chat

open OpenClaw.Runtime OpenClaw.Desktop OpenClaw.Mobile

/-! ## On the wire -/

/-- A number in `JSON.stringify`. -/
def stringifyNumber : JsNumber → Json
  | .finite value => .num (.finite value)
  | _ => .null

def payloadJson (envelope : ChatEnvelope) : Json :=
  .obj [("id", .str envelope.id), ("after", .arr (envelope.after.map .str)),
    ("text", .str envelope.text), ("origin", .str (originName envelope.origin)),
    ("originSeq", stringifyNumber (.ofCount envelope.originSeq))]

inductive Transport
  /-- `sendAppMessage`, which reads the clock. -/
  | p2p (sentAt : ℕ)
  /-- `sendRelayAppMessage` -/
  | relay

/-- The time in the envelope. -/
def Transport.stamp (envelope : ChatEnvelope) : Transport → JsNumber
  | .p2p sentAt => .finite sentAt
  | .relay => envelope.ts

/-- The app message as the desktop parses it. -/
def wire (envelope : ChatEnvelope) (transport : Transport) : Json :=
  .obj [("type", .str openclawChatMessageType), ("payload", payloadJson envelope),
    ("ts", stringifyNumber (transport.stamp envelope)), ("from", .str "mobile")]

/-! ## What the desktop makes of it -/

/-- What the desktop stores of an app message. -/
def storedFields (env : Desktop.Env) (payload : Json) : Option ChatFields :=
  (parseOpenclawChatPayload env payload).map fun message =>
    chatFields (normalizeIncoming (fromMobile message))

/-- Whatever the desktop's clock and random ids, it stores the same over either
transport, and under the time the mobile has. -/
structure TransportIndependent (own : ChatMessage) (envelope : ChatEnvelope) (sentAt : ℕ) :
    Prop where
  same : ∀ env env', storedFields env (wire envelope (.p2p sentAt)) =
    storedFields env' (wire envelope .relay)
  ts : ∀ env chat, storedFields env (wire envelope (.p2p sentAt)) = some chat →
    own.ts = .finite chat.ts

/-- A blank message is dropped either way.  Any other one must have an id the
desktop does not take for blank and be sent at its own time. -/
def SentAtItsTime (own : ChatMessage) (envelope : ChatEnvelope) (sentAt : ℕ) : Prop :=
  unicodeTrim envelope.text = "" ∨
    unicodeTrim envelope.id ≠ "" ∧ own.ts = .finite sentAt ∧ envelope.ts = .finite sentAt ∧
      sentAt < 2 ^ 64

variable {env : Desktop.Env} {envelope : ChatEnvelope} {transport : Transport}

/-- The message the desktop reads. -/
def readChat (env : Desktop.Env) (envelope : ChatEnvelope) (transport : Transport) :
    PairBackendMessage where
  id := if unicodeTrim envelope.id = "" then env.randomId "msg" else unicodeTrim envelope.id
  sender := ""
  text := envelope.text
  ts := (asU64 (stringifyNumber (transport.stamp envelope))).getD env.now
  kind := "chat"
  origin := originName envelope.origin
  originSeq := (asU64 (stringifyNumber (.ofCount envelope.originSeq))).getD 0
  after := (envelope.after.map unicodeTrim).filter fun value => decide (value ≠ "")
  missingAfter := []
  gatewayMessageId := ""
  gatewayMessageSeq := 0

theorem field_payload : (wire envelope transport).field "payload" =
    some (payloadJson envelope) := by
  simp [wire, Json.field]

theorem field_ts : (wire envelope transport).field "ts" =
    some (stringifyNumber (transport.stamp envelope)) := by
  simp [wire, Json.field]

theorem field_id : (payloadJson envelope).field "id" = some (.str envelope.id) := by
  simp [payloadJson, Json.field]

theorem field_after : (payloadJson envelope).field "after" =
    some (.arr (envelope.after.map .str)) := by
  simp [payloadJson, Json.field]

theorem field_text : (payloadJson envelope).field "text" = some (.str envelope.text) := by
  simp [payloadJson, Json.field]

theorem field_origin : (payloadJson envelope).field "origin" =
    some (.str (originName envelope.origin)) := by
  simp [payloadJson, Json.field]

theorem field_originSeq : (payloadJson envelope).field "originSeq" =
    some (stringifyNumber (.ofCount envelope.originSeq)) := by
  simp [payloadJson, Json.field]

/-- **Reading what was written.** -/
theorem parse_wire : parseOpenclawChatPayload env (wire envelope transport) =
    if unicodeTrim envelope.text = "" then none else some (readChat env envelope transport) := by
  have hobject : asObject (payloadJson envelope) = some (payloadJson envelope) := rfl
  have hstrings : (envelope.after.map Json.str).filterMap (fun item =>
      (asStr item).map unicodeTrim) = envelope.after.map unicodeTrim := by
    rw [List.filterMap_map, ← List.filterMap_eq_map]
    rfl
  have hid : (trimmedField (payloadJson envelope) "id").getD (env.randomId "msg") =
      if unicodeTrim envelope.id = "" then env.randomId "msg" else unicodeTrim envelope.id := by
    rw [trimmedField, field_id, Option.bind_some, asStr, Option.map_some, Option.filter_some]
    by_cases hblank : unicodeTrim envelope.id = ""
    · rw [if_pos hblank, hblank]
      rfl
    · rw [if_neg hblank, if_pos (decide_eq_true hblank), Option.getD_some]
  have horigin : trimmedField (payloadJson envelope) "origin" =
      some (originName envelope.origin) := by
    rw [trimmedField, field_origin]
    cases envelope.origin <;> decide
  unfold parseOpenclawChatPayload
  rw [field_payload, Option.bind_some, hobject]
  dsimp only
  rw [field_text, Option.bind_some, asStr, Option.getD_some, horigin, field_after, field_ts,
    field_originSeq]
  refine if_congr Iff.rfl rfl (congrArg some ?_)
  rw [Option.bind_some, Option.bind_some, Option.bind_some, asArray, Option.getD_some,
    Option.getD_some, hstrings, hid, readChat]

theorem asU64_natCast (n : ℕ) : asU64 (stringifyNumber (.finite n)) =
    if n < 2 ^ 64 then some n else none := by
  rw [stringifyNumber, asU64]
  have hcond : ((n : ℚ).den = 1 ∧ 0 ≤ (n : ℚ).num ∧ (n : ℚ).num < 2 ^ 64) ↔ n < 2 ^ 64 := by
    rw [Rat.den_natCast, Rat.num_natCast]
    omega
  refine if_congr hcond ?_ rfl
  rw [Rat.num_natCast, Int.toNat_natCast]

theorem eq_of_asU64 {number : JsNumber} {n : ℕ} (hread : asU64 (stringifyNumber number) = some n) :
    number = .finite n := by
  cases number with
  | finite value =>
      rw [stringifyNumber, asU64] at hread
      split at hread
      · next hcond =>
        obtain ⟨hden, hpos, -⟩ := hcond
        obtain rfl := Option.some.inj hread
        rw [JsNumber.finite.injEq]
        calc value = ((value.num : ℤ) : ℚ) := (Rat.den_eq_one_iff value).mp hden |>.symm
          _ = ((value.num.toNat : ℤ) : ℚ) := by rw [Int.toNat_of_nonneg hpos]
          _ = (value.num.toNat : ℚ) := by rw [Int.cast_natCast]
      · cases hread
  | nan => cases hread
  | posInf => cases hread
  | negInf => cases hread

/-- The stored fields: the time is the one of the envelope, and only an id that is
blank is made up. -/
theorem chatFields_readChat : chatFields (normalizeIncoming (fromMobile
      (readChat env envelope transport))) =
    { id := (readChat env envelope transport).id
      text := envelope.text
      ts := (asU64 (stringifyNumber (transport.stamp envelope))).getD env.now
      origin := normalizeChatMessageOrigin
        (normalizeChatMessageOrigin (originName envelope.origin) "mobile") "mobile"
      originSeq := (asU64 (stringifyNumber (.ofCount envelope.originSeq))).getD 0
      after := normalizeChatMessageIds
        ((envelope.after.map unicodeTrim).filter fun value => decide (value ≠ "")) } := by
  have hkind : ¬normalizeChatMessageKind "chat" = "system" := by decide
  have hchat : (fromMobile (readChat env envelope transport)).kind = "chat" := by
    rw [fromMobile, readChat]
  rw [normalizeIncoming, hchat, if_neg hkind, chatFields, fromMobile, readChat]

theorem storedFields_wire : storedFields env (wire envelope transport) =
    if unicodeTrim envelope.text = "" then none
    else some (chatFields (normalizeIncoming (fromMobile (readChat env envelope transport)))) := by
  rw [storedFields, parse_wire]
  split
  · rfl
  · rfl

/-- Whichever way it came, a delivered message is in its channel with these fields. -/
theorem exists_stored {app : Bool} {channels : Channels} {bindingId mobileId : String}
    {payload : Json} {delivery : Delivery}
    (hdelivery : (processMobileAppMessage env app channels bindingId mobileId payload).2 =
      some delivery) :
    ∃ chat channel, storedFields env payload = some chat ∧ chat.id = delivery.messageId ∧
      (processMobileAppMessage env app channels bindingId mobileId payload).1.get
        delivery.slot = some channel ∧
      ∃ message ∈ channel.messages, chatFields message = chat := by
  obtain ⟨htype, message, slot, channel, hparse, hslot, hget, rfl⟩ := delivery_iff.mp hdelivery
  have hafter : (processMobileAppMessage env app channels bindingId mobileId payload).1.get slot =
      some (appendMessage env.choices channel (fromMobile message)).1 := by
    rw [processMobileAppMessage_chat htype hparse, deliverChat,
      appendChannelMessage_of_get hslot hget]
    dsimp only
    rw [Roster.get_modify, if_pos rfl, hget, Option.map_some]
  refine ⟨chatFields (normalizeIncoming (fromMobile message)), _, ?_, ?_, hafter,
    exists_mem_appendMessage env.choices channel (fromMobile message)⟩
  · rw [storedFields, hparse, Option.map_some]
  · rw [chatFields]
    dsimp only
    rw [id_normalizeIncoming, fromMobile]

/-- A made-up id or time is seen from one desktop to the next. -/
theorem SentAtItsTime.of_independent {own : ChatMessage} {sentAt : ℕ}
    (hindependent : TransportIndependent own envelope sentAt) :
    SentAtItsTime own envelope sentAt := by
  by_cases hblank : unicodeTrim envelope.text = ""
  · exact Or.inl hblank
  have hchat : ∀ (env : Desktop.Env) transport, storedFields env (wire envelope transport) =
      some (chatFields (normalizeIncoming (fromMobile (readChat env envelope transport)))) :=
    fun env transport => storedFields_wire.trans (if_neg hblank)
  have hsame : ∀ env env',
      chatFields (normalizeIncoming (fromMobile (readChat env envelope (.p2p sentAt)))) =
        chatFields (normalizeIncoming (fromMobile (readChat env' envelope .relay))) := by
    intro env env'
    have hstored := hindependent.same env env'
    rwa [hchat, hchat, Option.some_inj] at hstored
  let desktop (now : ℕ) (random : String) : Desktop.Env := ⟨now, fun _ => random, .plain⟩
  have hid : unicodeTrim envelope.id ≠ "" := by
    intro hid
    have heq := congrArg ChatFields.id (hsame (desktop 0 "a") (desktop 0 "b"))
    rw [chatFields_readChat, chatFields_readChat] at heq
    simp only [readChat, if_pos hid, desktop] at heq
    exact absurd heq (by decide)
  have hts : ∀ now now', (asU64 (stringifyNumber (.finite sentAt))).getD now =
      (asU64 (stringifyNumber envelope.ts)).getD now' := by
    intro now now'
    have heq := congrArg ChatFields.ts (hsame (desktop now "") (desktop now' ""))
    simp only [chatFields_readChat, Transport.stamp, desktop] at heq
    exact heq
  -- neither side falls back on the clock, since the clocks of the two may differ
  have hlt : sentAt < 2 ^ 64 := by
    by_contra hge
    have hzero := hts 0 0
    have hone := hts 1 0
    rw [asU64_natCast, if_neg hge, Option.getD_none] at hzero hone
    omega
  have hrelay : asU64 (stringifyNumber envelope.ts) = some sentAt := by
    have hzero := hts 0 0
    have hone := hts 0 1
    rw [asU64_natCast, if_pos hlt, Option.getD_some] at hzero hone
    cases hread : asU64 (stringifyNumber envelope.ts) with
    | none =>
        rw [hread, Option.getD_none] at hzero hone
        omega
    | some ts =>
        rw [hread, Option.getD_some] at hzero
        rw [hzero]
  have hown := hindependent.ts (desktop 0 "") _ (hchat (desktop 0 "") (.p2p sentAt))
  simp only [chatFields_readChat, Transport.stamp] at hown
  rw [asU64_natCast, if_pos hlt, Option.getD_some] at hown
  exact Or.inr ⟨hid, hown, eq_of_asU64 hrelay, hlt⟩

theorem SentAtItsTime.independent {own : ChatMessage} {sentAt : ℕ}
    (hsent : SentAtItsTime own envelope sentAt) : TransportIndependent own envelope sentAt := by
  rcases hsent with hblank | ⟨hid, hown, hts, hlt⟩
  · have hnone : ∀ (env : Desktop.Env) transport,
        storedFields env (wire envelope transport) = none :=
      fun env transport => storedFields_wire.trans (if_pos hblank)
    refine ⟨fun env env' => by rw [hnone, hnone], fun env chat hchat => ?_⟩
    rw [hnone] at hchat
    cases hchat
  · have hread : asU64 (stringifyNumber (.finite sentAt)) = some sentAt :=
      (asU64_natCast sentAt).trans (if_pos hlt)
    refine ⟨fun env env' => ?_, fun env chat hchat => ?_⟩
    · rw [storedFields_wire, storedFields_wire]
      refine if_congr Iff.rfl rfl (congrArg some ?_)
      rw [chatFields_readChat, chatFields_readChat]
      simp only [readChat, if_neg hid, Transport.stamp, hts, hread, Option.getD_some]
    · rw [storedFields_wire] at hchat
      split at hchat
      · cases hchat
      · obtain rfl := Option.some.inj hchat
        rw [hown]
        simp only [chatFields_readChat, Transport.stamp, hread, Option.getD_some]

/-- **When it does not matter which way a chat message travels.**  `sentAt` is the
clock when the data channel would send it. -/
theorem transportIndependent_iff {choices : Mobile.Choices} {env : Mobile.Env}
    {messages : List ChatMessage} {action : SendAction} :
    ∀ sent ∈ chatsSent choices env messages action, ∀ sentAt,
      TransportIndependent sent.1 sent.2 sentAt ↔ SentAtItsTime sent.1 sent.2 sentAt :=
  fun _ _ _ => ⟨SentAtItsTime.of_independent, SentAtItsTime.independent⟩

/-- The user sends `hello`. -/
def sendHello : SendAction := .send "active" "hello" ⟨"msg_1", .nan⟩

/-- The message of the session, and what is handed over. -/
def helloSent : ChatMessage × ChatEnvelope :=
  let draft := draftMessage plainSession (plainEnv 1000 "1a") [] "hello" ⟨"msg_1", .nan⟩
  (localMessage (plainEnv 1000 "1a") (jsTrim "hello") (ownMessage draft),
    buildChat (plainEnv 1000 "1a") draft .mobile)

theorem mem_chatsSent_hello :
    helloSent ∈ chatsSent plainSession (plainEnv 1000 "1a") [] sendHello := by
  have haccepted : Accepted (plainEnv 1000 "1a") "active" "hello" ⟨"msg_1", .nan⟩ := by decide
  rw [sendHello, chatsSent, sendMessage_of_accepted haccepted]
  exact List.mem_singleton_self _

/-- Sent at once, it is the same either way. -/
theorem transportIndependent_hello : TransportIndependent helloSent.1 helloSent.2 1000 :=
  (transportIndependent_iff helloSent mem_chatsSent_hello 1000).mpr
    (Or.inr ⟨by decide, by decide, by decide, by norm_num⟩)

/-- **The two ways are not always the same.**  While the data channel was being set
up, the clock went on. -/
theorem not_transportIndependent :
    ¬∀ choices env messages action, ∀ sent ∈ chatsSent choices env messages action, ∀ sentAt,
      TransportIndependent sent.1 sent.2 sentAt := by
  intro hall
  have hindependent := hall _ _ _ _ _ mem_chatsSent_hello 3500
  rcases SentAtItsTime.of_independent hindependent with hblank | ⟨-, hts, -, -⟩
  · revert hblank
    decide
  · revert hts
    decide

end OpenClaw.Chat
