import OpenClaw.Mobile.ChatGraph

/-!
# The messages of a mobile session

`SessionsContext` holds the sessions; this module has what it does to the
messages of one: `appendMessageLocal` for the user's own, `upsertRemoteChatMessage`
for what the desktop sends, and `updateMessageDeliveryState`, the one change that
is not followed by a reconciliation.  `sendMessage` numbers an own message by
`nextOriginSeq`.

Formatting a time throws for what is no time, so that both ways of adding a
message can fail before they change anything.
-/

namespace OpenClaw.Mobile

open OpenClaw.Runtime

/-- What a step reads from the phone: the clock, random text and the format of a
time. -/
structure Env where
  now : ℕ
  random : String
  formatMessageTime : JsNumber → String

/-- What `new Date` accepts; formatting anything else throws. -/
def validTime : JsNumber → Bool
  | .finite ts => |ts| ≤ 8640000000000000
  | _ => false

inductive SessionError
  /-- `请输入消息内容` -/
  | blankText
  /-- `请先在桌面端确认安全码` -/
  | pending
  /-- `该绑定已被撤销，无法发送消息` -/
  | revoked
  /-- The `RangeError` of formatting an invalid time. -/
  | invalidTime
deriving DecidableEq

/-- `Number(ts || Date.now())`. -/
def timeOr (env : Env) (ts : JsNumber) : JsNumber := ts.orElse (.finite env.now)

/-! ## Changing the messages -/

/-- The argument of `appendMessageLocal`. -/
structure LocalMessage where
  id : String
  sender : Sender
  text : String
  ts : JsNumber
  kind : ChatKind
  originSeq : JsNumber
  after : List String
  deliveryStatus : Option DeliveryStatus
  deliveryError : String

/-- The message `appendMessageLocal` makes, its text trimmed already. -/
def localMessage (env : Env) (text : String) (message : LocalMessage) : ChatMessage where
  id := if jsTrim message.id = "" then "msg_" ++ env.random else jsTrim message.id
  sender := message.sender
  text := text
  createdAt := env.formatMessageTime (timeOr env message.ts)
  ts := timeOr env message.ts
  kind := message.kind
  origin :=
    if message.kind = .system then none
    else if message.sender = .self then some .mobile
    else some .host
  originSeq := if message.kind = .system then .nan else .ofCount message.originSeq.count
  after := message.after
  missingAfter := []
  deliveryStatus :=
    if message.kind = .system ∨ message.sender ≠ .self then none
    else some (message.deliveryStatus.getD .sent)
  deliveryError :=
    if message.kind = .system ∨ message.sender ≠ .self then "" else jsTrim message.deliveryError

/-- `upsertSessionMessage` and the cut to the newest messages. -/
def upsertAndCut (choices : Choices) (messages : List ChatMessage) (message : ChatMessage) :
    List ChatMessage :=
  sliceNewest (upsertSessionMessage choices messages message).session.messages

def appendMessageLocal (choices : Choices) (env : Env) (messages : List ChatMessage)
    (message : LocalMessage) : Except SessionError (List ChatMessage) :=
  let text := jsTrim message.text
  if text = "" then .ok messages
  else if validTime (timeOr env message.ts) then
    .ok (upsertAndCut choices messages (localMessage env text message))
  else .error .invalidTime

/-- The argument of `upsertRemoteChatMessage`. -/
structure RemoteMessage where
  id : String
  sender : Sender
  text : String
  ts : JsNumber
  origin : Option Origin
  originSeq : JsNumber
  after : List String

/-- The message `upsertRemoteChatMessage` makes. -/
def remoteMessage (env : Env) (message : RemoteMessage) : ChatMessage where
  id := jsTrim message.id
  sender := message.sender
  text := message.text
  createdAt := env.formatMessageTime (timeOr env message.ts)
  ts := timeOr env message.ts
  kind := .chat
  origin := some (if message.origin = some .mobile then .mobile else .host)
  originSeq := .ofCount message.originSeq.count
  after := message.after
  missingAfter := []
  deliveryStatus := none
  deliveryError := ""

def upsertRemoteChatMessage (choices : Choices) (env : Env) (messages : List ChatMessage)
    (message : RemoteMessage) : Except SessionError (List ChatMessage) :=
  if jsTrim message.id = "" then .ok messages
  else if validTime (timeOr env message.ts) then
    .ok (upsertAndCut choices messages (remoteMessage env message))
  else .error .invalidTime

/-- What `updateMessageDeliveryState` makes of the message it is for. -/
def withDeliveryState (deliveryStatus : DeliveryStatus) (deliveryError : String)
    (message : ChatMessage) : ChatMessage :=
  { message with
    deliveryStatus := some deliveryStatus
    deliveryError := if deliveryStatus = .failed then jsTrim deliveryError else "" }

def updateMessageDeliveryState (messages : List ChatMessage) (messageId : String)
    (deliveryStatus : DeliveryStatus) (deliveryError : String) : List ChatMessage :=
  if jsTrim messageId = "" then messages
  else
    messages.map fun message =>
      if jsTrim message.id ≠ jsTrim messageId then message
      else withDeliveryState deliveryStatus deliveryError message

/-! ## What a change comes to -/

section

variable {choices : Choices} {messages : List ChatMessage}

theorem appendMessageLocal_eq (env : Env) (message : LocalMessage) :
    (appendMessageLocal choices env messages message).toOption.getD messages =
      if jsTrim message.text ≠ "" ∧ validTime (timeOr env message.ts) then
        upsertAndCut choices messages (localMessage env (jsTrim message.text) message)
      else messages := by
  unfold appendMessageLocal
  dsimp only
  by_cases htext : jsTrim message.text = ""
  · rw [if_pos htext, if_neg fun h => h.1 htext, Except.toOption, Option.getD_some]
  · rw [if_neg htext]
    by_cases htime : validTime (timeOr env message.ts) = true
    · rw [if_pos htime, if_pos ⟨htext, htime⟩, Except.toOption, Option.getD_some]
    · rw [if_neg htime, if_neg fun h => htime h.2, Except.toOption, Option.getD_none]

theorem upsertRemoteChatMessage_eq (env : Env) (message : RemoteMessage) :
    (upsertRemoteChatMessage choices env messages message).toOption.getD messages =
      if jsTrim message.id ≠ "" ∧ validTime (timeOr env message.ts) then
        upsertAndCut choices messages (remoteMessage env message)
      else messages := by
  unfold upsertRemoteChatMessage
  by_cases hid : jsTrim message.id = ""
  · rw [if_pos hid, if_neg fun h => h.1 hid, Except.toOption, Option.getD_some]
  · rw [if_neg hid]
    by_cases htime : validTime (timeOr env message.ts) = true
    · rw [if_pos htime, if_pos ⟨hid, htime⟩, Except.toOption, Option.getD_some]
    · rw [if_neg htime, if_neg fun h => htime h.2, Except.toOption, Option.getD_none]

end

/-! ## Sending -/

/-- The message counts as one of the origin; without an origin its sender
decides. -/
def countsFor (origin : Origin) (message : ChatMessage) : Bool :=
  message.kind ≠ .system ∧ (message.origin = some origin ∨ message.origin = none ∧
    message.sender = if origin = .mobile then .self else .host)

def nextOriginSeq (messages : List ChatMessage) (origin : Origin) : ℕ∞ :=
  JsNumber.plusOne (((messages.filter (countsFor origin)).map fun message =>
    message.originSeq.count).foldl max 0)

def collectSessionLeafIds (choices : Choices) (messages : List ChatMessage) : List String :=
  (analyzeOpenClawPairChatGraph choices ((extractChatMessages messages).map toLike)).leafIds

/-- The argument of `deliverLocalChatMessage`. -/
structure OutgoingChat where
  id : String
  text : String
  ts : JsNumber
  after : List String
  originSeq : JsNumber

/-- The options of `sendMessage`. -/
structure SendOptions where
  messageId : String
  ts : JsNumber

def draftMessage (choices : Choices) (env : Env) (messages : List ChatMessage) (text : String)
    (options : SendOptions) : OutgoingChat where
  id := if jsTrim options.messageId = "" then "chat_" ++ env.random else jsTrim options.messageId
  text := jsTrim text
  ts := .ofCount (timeOr env options.ts).count
  after := collectSessionLeafIds choices messages
  originSeq := .ofCount (nextOriginSeq messages .mobile)

/-- The argument `sendMessage` gives to `appendMessageLocal`. -/
def ownMessage (draft : OutgoingChat) : LocalMessage where
  id := draft.id
  sender := .self
  text := draft.text
  ts := draft.ts
  kind := .chat
  originSeq := draft.originSeq
  after := draft.after
  deliveryStatus := some .sending
  deliveryError := ""

/-- `sendMessage` up to the delivery: the messages, and what is delivered. -/
def sendMessage (choices : Choices) (env : Env) (trustState : String)
    (messages : List ChatMessage) (text : String) (options : SendOptions) :
    Except SessionError (List ChatMessage × OutgoingChat) := do
  if jsTrim text = "" then throw .blankText
  if jsTrim trustState = "pending" then throw .pending
  if jsTrim trustState = "revoked" then throw .revoked
  let draft := draftMessage choices env messages text options
  let appended ← appendMessageLocal choices env messages (ownMessage draft)
  return (appended, draft)

/-! ## What sending comes to -/

variable {choices : Choices} {env : Env} {trustState text : String} {messages : List ChatMessage}
  {options : SendOptions}

/-- `sendMessage` gets as far as a new message. -/
def Accepted (env : Env) (trustState text : String) (options : SendOptions) : Prop :=
  jsTrim text ≠ "" ∧ jsTrim trustState ≠ "pending" ∧ jsTrim trustState ≠ "revoked" ∧
    validTime (timeOr env (.ofCount (timeOr env options.ts).count)) = true

instance : Decidable (Accepted env trustState text options) :=
  inferInstanceAs (Decidable (_ ∧ _ ∧ _ ∧ _))

theorem sendMessage_of_accepted (haccepted : Accepted env trustState text options) :
    sendMessage choices env trustState messages text options =
      .ok (upsertAndCut choices messages (localMessage env (jsTrim text)
          (ownMessage (draftMessage choices env messages text options))),
        draftMessage choices env messages text options) := by
  obtain ⟨htext, hpending, hrevoked, htime⟩ := haccepted
  have hlocal : jsTrim (ownMessage (draftMessage choices env messages text options)).text =
      jsTrim text := trim_trim text
  have happend : appendMessageLocal choices env messages
      (ownMessage (draftMessage choices env messages text options)) =
        .ok (upsertAndCut choices messages (localMessage env (jsTrim text)
          (ownMessage (draftMessage choices env messages text options)))) := by
    rw [appendMessageLocal, hlocal, if_neg htext]
    exact if_pos htime
  rw [sendMessage, if_neg htext, if_neg hpending, if_neg hrevoked]
  dsimp only
  rw [happend]
  rfl

theorem sendMessage_of_not_accepted (hnot : ¬Accepted env trustState text options) :
    ∃ error, sendMessage choices env trustState messages text options = .error error := by
  by_cases htext : jsTrim text = ""
  · exact ⟨.blankText, by rw [sendMessage, if_pos htext]; rfl⟩
  by_cases hpending : jsTrim trustState = "pending"
  · exact ⟨.pending, by rw [sendMessage, if_neg htext, if_pos hpending]; rfl⟩
  by_cases hrevoked : jsTrim trustState = "revoked"
  · exact ⟨.revoked, by rw [sendMessage, if_neg htext, if_neg hpending, if_pos hrevoked]; rfl⟩
  have htime : ¬validTime (timeOr env (.ofCount (timeOr env options.ts).count)) = true :=
    fun htime => hnot ⟨htext, hpending, hrevoked, htime⟩
  have hlocal : jsTrim (ownMessage (draftMessage choices env messages text options)).text =
      jsTrim text := trim_trim text
  have happend : appendMessageLocal choices env messages
      (ownMessage (draftMessage choices env messages text options)) = .error .invalidTime := by
    rw [appendMessageLocal, hlocal, if_neg htext]
    exact if_neg htime
  refine ⟨.invalidTime, ?_⟩
  rw [sendMessage, if_neg htext, if_neg hpending, if_neg hrevoked]
  dsimp only
  rw [happend]
  rfl

end OpenClaw.Mobile
