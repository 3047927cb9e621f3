import OpenClaw.Desktop.Channel

/-!
# Importing the agent's transcript

The desktop also learns messages from the agent's own history.  An entry that a
message of the channel already stands for is only noted on that message; any
other becomes a new host message.  The import works on the whole channel at
once, so it truncates and reconciles at the end.
-/

namespace OpenClaw.Desktop

open OpenClaw.Runtime StableSort

structure OpenClawTranscriptEntry where
  gatewayMessageId : String
  gatewayMessageSeq : ℕ
  role : String
  text : String
  ts : ℕ

def asciiLowercase (text : String) : String := String.ofList (text.toList.map Char.toLower)

def buildOpenclawMobileSessionKey (mobileId : String) : String :=
  let normalized := asciiLowercase (unicodeTrim mobileId)
  if normalized = "" then "" else "agent:main:openclaw-mobile:direct:" ++ normalized

def normalizeOpenclawSessionKey (value : String) : String := asciiLowercase (unicodeTrim value)

def channelMatchesOpenclawSessionKey (sessionKey : String) (channel : PairBackendChannel) : Bool :=
  normalizeOpenclawSessionKey sessionKey ≠ "" ∧
    normalizeOpenclawSessionKey (buildOpenclawMobileSessionKey channel.mobileId) =
      normalizeOpenclawSessionKey sessionKey

def buildOpenclawTranscriptPairMessageId (entry : OpenClawTranscriptEntry) : String :=
  "ocgw_" ++ unicodeTrim entry.gatewayMessageId

def annotateChannelMessageWithTranscriptMeta (entry : OpenClawTranscriptEntry)
    (message : PairBackendMessage) : PairBackendMessage :=
  { message with
    gatewayMessageId := entry.gatewayMessageId, gatewayMessageSeq := entry.gatewayMessageSeq }

/-- Two minutes. -/
def transcriptMaxDelta : ℕ := 2 * 60 * 1000

def absDiff (left right : ℕ) : ℕ := (left - right) + (right - left)

/-- The message may stand for the entry. -/
def standsFor (entry : OpenClawTranscriptEntry) (message : PairBackendMessage) : Bool :=
  normalizeChatMessageKind message.kind ≠ "system" ∧
    unicodeTrim message.gatewayMessageId = "" ∧
    unicodeTrim message.text = unicodeTrim entry.text ∧
    (if entry.role = "user" then unicodeTrim message.origin = "mobile"
      else if entry.role = "assistant" then
        unicodeTrim message.origin = "host" ∧
          (unicodeTrim message.sender = "agent" ∨ unicodeTrim message.sender = "assistant")
      else False) ∧
    absDiff message.ts entry.ts ≤ transcriptMaxDelta

/-- The index of the message closest in time, the first of them on a tie. -/
def findChannelMessageForTranscriptEntry (messages : List PairBackendMessage)
    (entry : OpenClawTranscriptEntry) : Option ℕ :=
  if unicodeTrim entry.text = "" then none
  else
    let candidates := messages.zipIdx.filter fun indexed => standsFor entry indexed.1
    (sortBy (fun left right => compare (absDiff left.1.ts entry.ts) (absDiff right.1.ts entry.ts))
      candidates).head?.map Prod.snd

/-- What the import loop carries from entry to entry. -/
structure TranscriptImport where
  messages : List PairBackendMessage
  nextHostSeq : ℕ
  previousPairId : Option String

def importedMessage (state : TranscriptImport) (entry : OpenClawTranscriptEntry) :
    PairBackendMessage where
  id := buildOpenclawTranscriptPairMessageId entry
  sender := if entry.role = "assistant" then "agent" else "desktop"
  text := entry.text
  ts := entry.ts
  kind := "chat"
  origin := "host"
  originSeq := state.nextHostSeq
  after := state.previousPairId.toList
  missingAfter := []
  gatewayMessageId := entry.gatewayMessageId
  gatewayMessageSeq := entry.gatewayMessageSeq

/-- The message of the channel that stands for the entry: by gateway id, else by
text and time. -/
def findForEntry (messages : List PairBackendMessage) (entry : OpenClawTranscriptEntry) :
    Option ℕ :=
  match messages.findIdx? fun message =>
    decide (unicodeTrim message.gatewayMessageId = unicodeTrim entry.gatewayMessageId) with
  | some index => some index
  | none => findChannelMessageForTranscriptEntry messages entry

def importEntry (state : TranscriptImport) (entry : OpenClawTranscriptEntry) : TranscriptImport :=
  match findForEntry state.messages entry with
  | some index =>
      { state with
        messages := state.messages.modify index (annotateChannelMessageWithTranscriptMeta entry)
        previousPairId := state.messages[index]?.map PairBackendMessage.id }
  | none =>
      { messages := state.messages ++ [importedMessage state entry]
        nextHostSeq := saturatingSucc state.nextHostSeq
        previousPairId := some (buildOpenclawTranscriptPairMessageId entry) }

/-- The part of `sync_openclaw_session_history_now` that changes the channel. -/
def importTranscript (choices : Choices) (entries : List OpenClawTranscriptEntry)
    (channel : PairBackendChannel) : PairBackendChannel :=
  let imported := entries.foldl importEntry
    ⟨channel.messages, nextChannelOriginSeq channel.messages "host", none⟩
  let reconciled := reconcileChannelMessages choices (truncate imported.messages)
  { channel with
    messages := reconciled.messages, missingMessageIds := reconciled.missingMessageIds }

/-- An import leaves a channel within the limit. -/
theorem length_importTranscript (choices : Choices) (entries : List OpenClawTranscriptEntry)
    (channel : PairBackendChannel) :
    (importTranscript choices entries channel).messages.length ≤ pairChannelMessageLimit := by
  unfold importTranscript
  rw [length_reconcile, length_truncate]
  omega

end OpenClaw.Desktop
