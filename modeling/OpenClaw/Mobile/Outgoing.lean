import OpenClaw.Mobile.Session

/-!
# The chat messages a mobile sends

A chat message leaves the phone from four places: a new one, the retry of one that
failed, the answer to a request for missing ids, and the answer to the desktop's
summary.  Each builds the payload by `buildOpenClawPairChatPayload`; how it then
travels is decided by `deliverAppMessage`.

`chatsSent` pairs what is handed over with the message of the session it stands
for.
-/

namespace OpenClaw.Mobile

open OpenClaw.Runtime StableSort

/-- A chat message as `deliverAppMessage` gets it: the payload and the time beside
it. -/
structure ChatEnvelope where
  id : String
  after : List String
  text : String
  origin : Origin
  originSeq : ℕ∞
  ts : JsNumber

/-- `buildOpenClawPairChatPayload`, and the time of the message. -/
def buildChat (env : Env) (outgoing : OutgoingChat) (origin : Origin) : ChatEnvelope where
  id := if jsTrim outgoing.id = "" then "chat_" ++ env.random else jsTrim outgoing.id
  after := normalizeAfterIds outgoing.after
  text := outgoing.text
  origin := origin
  originSeq := outgoing.originSeq.count
  ts := outgoing.ts

/-- A message of the session as it is sent again. -/
def outgoingOf (env : Env) (message : ChatMessage) : OutgoingChat where
  id := message.id
  text := message.text
  ts := timeOr env message.ts
  after := message.after
  originSeq := .ofCount message.originSeq.count

def isOwnChat (message : ChatMessage) : Bool := message.kind ≠ .system ∧ message.sender = .self

/-- The message `retryMessage` sends again: an own one whose delivery failed. -/
def retryTarget (messages : List ChatMessage) (messageId : String) : Option ChatMessage :=
  match messages.find? fun message => decide (jsTrim message.id = jsTrim messageId) with
  | some target =>
      if isOwnChat target ∧ target.deliveryStatus = some .failed then some target else none
  | none => none

/-- The messages of `resendKnownMessages`. -/
def knownMessages (messages : List ChatMessage) (messageIds : List String) : List ChatMessage :=
  (messages.filter isOwnChat).filter fun message => decide (message.id ∈ messageIds)

/-- The messages of `handleDesktopSyncState`: the own ones above the cursor of the
desktop, by number. -/
def missingMobileMessages (messages : List ChatMessage) (mobileSeq : ℕ∞) : List ChatMessage :=
  sortBy (fun left right => compare left.originSeq.orZero.rank right.originSeq.orZero.rank)
    ((messages.filter isOwnChat).filter fun message => decide (mobileSeq < message.originSeq.count))

inductive SendAction
  /-- `sendMessage` -/
  | send (trustState text : String) (options : SendOptions)
  /-- `retryMessage` -/
  | retry (messageId : String)
  /-- `resendKnownMessages` -/
  | resendKnown (messageIds : List String)
  /-- `handleDesktopSyncState` -/
  | syncState (mobileSeq : ℕ∞)

/-- What an action hands over, each with its message of the session. -/
def chatsSent (choices : Choices) (env : Env) (messages : List ChatMessage) :
    SendAction → List (ChatMessage × ChatEnvelope)
  | .send trustState text options =>
      match sendMessage choices env trustState messages text options with
      | .ok (_, draft) =>
          [(localMessage env (jsTrim text) (ownMessage draft), buildChat env draft .mobile)]
      | .error _ => []
  | .retry messageId =>
      (retryTarget messages messageId).toList.map fun message =>
        (message, buildChat env (outgoingOf env message) .mobile)
  | .resendKnown messageIds =>
      (knownMessages messages messageIds).map fun message =>
        (message, buildChat env (outgoingOf env message)
          (if message.origin = some .mobile then .mobile else .host))
  | .syncState mobileSeq =>
      (missingMobileMessages messages mobileSeq).map fun message =>
        (message, buildChat env (outgoingOf env message) .mobile)

end OpenClaw.Mobile
