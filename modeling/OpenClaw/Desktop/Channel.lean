import OpenClaw.Desktop.Reconcile
import OpenClaw.Lib.FirstMatch
import OpenClaw.Lib.Roster

/-!
# The channels of the desktop

A channel is found by any of several ids, is created on demand, and keeps at
most `pairChannelMessageLimit` messages.  This module has the record, the two
lookups `findOrCreateChannel` and `channelFor`, and `appendChannelMessage`, the
only way a single message enters a channel.

Appending is described twice: by ids (`ids_appendMessage_of_new`,
`ids_appendMessage_of_old`) and by what it drops (`mem_insertMessage`).
-/

namespace OpenClaw.Desktop

open OpenClaw.Runtime FirstMatch

def pairChannelMessageLimit : ℕ := 1000

structure PairBackendChannel where
  channelId : String
  sessionId : String
  mobileId : String
  mobileName : String
  bindingId : String
  status : String
  trustState : String
  createdAt : ℕ
  approvedAt : Option ℕ
  safetyCode : Option String
  devicePublicKey : Option String
  mobilePublicKey : Option String
  sessionNonce : Option String
  messages : List PairBackendMessage
  missingMessageIds : List String
deriving Inhabited

/-- The channels of the desktop, each with its slot. -/
abbrev Channels := Roster PairBackendChannel

/-! ## Finding and creating channels -/

/-- The condition of `find_or_create_channel_mut`, on trimmed ids. -/
def matchesIds (sessionId bindingId mobileId : String) (channel : PairBackendChannel) : Bool :=
  (bindingId ≠ "" ∧ channel.bindingId = bindingId) ∨
    (sessionId ≠ "" ∧ channel.sessionId = sessionId) ∨
    (mobileId ≠ "" ∧ channel.mobileId = mobileId) ∨
    (sessionId ≠ "" ∧ channel.channelId = sessionId)

/-- The channel `find_or_create_channel_mut` pushes. -/
def newChannel (randomId sessionId bindingId mobileId : String) (createdAt : ℕ) :
    PairBackendChannel where
  channelId :=
    if sessionId ≠ "" then sessionId
    else if bindingId ≠ "" then bindingId
    else if mobileId ≠ "" then "ch_" ++ mobileId
    else randomId
  sessionId := sessionId
  mobileId := mobileId
  mobileName := ""
  bindingId := bindingId
  status := "offline"
  trustState := "pending"
  createdAt := createdAt
  approvedAt := none
  safetyCode := none
  devicePublicKey := none
  mobilePublicKey := none
  sessionNonce := none
  messages := []
  missingMessageIds := []

/-- `find_or_create_channel_mut`: the channels, and the slot of the reference it
returns. -/
def findOrCreateChannel (randomId : String) (channels : Channels)
    (sessionId bindingId mobileId : String) (createdAt : ℕ) : Channels × ℕ :=
  let session := unicodeTrim sessionId
  let binding := unicodeTrim bindingId
  let mobile := unicodeTrim mobileId
  match channels.find? (matchesIds session binding mobile) with
  | some slot => (channels, slot)
  | none => (channels.push (newChannel randomId session binding mobile createdAt), channels.next)

/-- The channel a message for `bindingId` belongs to. -/
def channelFor (channels : Channels) (bindingId : String) : Option ℕ :=
  channels.find? fun channel =>
    decide (channel.bindingId = bindingId ∨ channel.channelId = bindingId)

/-! ## Appending a message -/

/-- The fields that a message of the same id overwrites. -/
def overwrite (message existing : PairBackendMessage) : PairBackendMessage :=
  { existing with
    sender := message.sender, text := message.text, ts := message.ts, kind := message.kind
    origin := message.origin, originSeq := message.originSeq, after := message.after
    gatewayMessageId := message.gatewayMessageId
    gatewayMessageSeq := message.gatewayMessageSeq }

/-- Drop the oldest messages beyond the limit. -/
def truncate (messages : List PairBackendMessage) : List PairBackendMessage :=
  if pairChannelMessageLimit < messages.length then
    messages.drop (messages.length - pairChannelMessageLimit)
  else messages

def sameId (message item : PairBackendMessage) : Bool :=
  unicodeTrim message.id ≠ "" ∧ item.id = message.id

/-- Overwrite the message of the same id or push the new one; the flag says
which. -/
def insertMessage (messages : List PairBackendMessage) (message : PairBackendMessage) :
    List PairBackendMessage × Bool :=
  match messages.find? (sameId message) with
  | some _ => (updateFirst (sameId message) (overwrite message) messages, false)
  | none => (truncate (messages ++ [message]), true)

/-- The part of `append_channel_message` that works on the channel: the channel,
`inserted` and `newly_missing_ids`. -/
def appendMessage (choices : Choices) (channel : PairBackendChannel)
    (message : PairBackendMessage) : PairBackendChannel × Bool × List String :=
  let inserted := insertMessage channel.messages (normalizeIncoming message)
  let reconciled := reconcileChannelMessages choices inserted.1
  ({ channel with
      messages := reconciled.messages, missingMessageIds := reconciled.missingMessageIds },
    inserted.2,
    reconciled.missingMessageIds.filter fun id => decide (id ∉ channel.missingMessageIds))

/-- What `append_channel_message` did: where it appended, `inserted`, and
`newly_missing_ids`. -/
structure Appended where
  slot : ℕ
  inserted : Bool
  newlyMissingIds : List String

def appendChannelMessage (choices : Choices) (channels : Channels) (bindingId : String)
    (message : PairBackendMessage) : Channels × Option Appended :=
  match channelFor channels bindingId with
  | none => (channels, none)
  | some slot =>
      match channels.get slot with
      | none => (channels, none)
      | some channel =>
          let appended := appendMessage choices channel message
          (channels.modify slot fun _ => appended.1,
            some ⟨slot, appended.2.1, appended.2.2⟩)

/-- `u64::MAX`. -/
def u64Max : ℕ := 2 ^ 64 - 1

/-- `n.saturating_add(1)`. -/
def saturatingSucc (n : ℕ) : ℕ := min (n + 1) u64Max

/-- The largest number of an origin among the messages, as they are stored. -/
def largestOriginSeq (messages : List PairBackendMessage) (origin : String) : ℕ :=
  (((messages.filter isGraphChatMessage).filter fun message =>
    decide (unicodeTrim message.origin = unicodeTrim origin)).map
      PairBackendMessage.originSeq).foldl max 0

/-- `next_channel_origin_seq_locked`. -/
def nextChannelOriginSeq (messages : List PairBackendMessage) (origin : String) : ℕ :=
  saturatingSucc (largestOriginSeq messages origin)

/-- `build_outgoing_chat_message` on the messages of the channel it found. -/
def buildOutgoingChatMessage (randomId : String) (messages : List PairBackendMessage)
    (sender text : String) (ts : ℕ) : PairBackendMessage where
  id := randomId
  sender := unicodeTrim sender
  text := unicodeTrim text
  ts := ts
  kind := "chat"
  origin := "host"
  originSeq := nextChannelOriginSeq messages "host"
  after := collectChannelLeafIds messages
  missingAfter := []
  gatewayMessageId := ""
  gatewayMessageSeq := 0

/-! ## What an append keeps -/

variable {choices : Choices} {channel : PairBackendChannel} {message item : PairBackendMessage}
  {messages : List PairBackendMessage} {channels : Channels} {slot : ℕ}

theorem sameId_iff : sameId message item = true ↔ unicodeTrim message.id ≠ "" ∧
    item.id = message.id := by
  simp [sameId]

theorem sameId_normalizeIncoming (message : PairBackendMessage) :
    sameId (normalizeIncoming message) = sameId message := by
  funext item
  rw [sameId, sameId, id_normalizeIncoming]

@[simp] theorem id_overwrite : (overwrite message item).id = item.id := rfl

/-- A message that overwrites another one of its id reads like itself. -/
theorem normalizeStored_overwrite (hid : item.id = message.id) :
    normalizeStored (overwrite message item) = normalizeStored message := by
  have hsame : overwrite message item = { message with missingAfter := item.missingAfter } := by
    rw [overwrite, hid]
  rw [hsame, normalizeStored_missingAfter]

theorem length_truncate (messages : List PairBackendMessage) :
    (truncate messages).length = min messages.length pairChannelMessageLimit := by
  unfold truncate
  split
  · rw [List.length_drop]
    omega
  · omega

/-- A channel that has room drops nothing. -/
theorem truncate_of_le (hroom : messages.length ≤ pairChannelMessageLimit) :
    truncate messages = messages := by
  unfold truncate
  rw [if_neg (by omega)]

theorem truncate_suffix (messages : List PairBackendMessage) : truncate messages <:+ messages := by
  unfold truncate
  split
  · exact List.drop_suffix _ _
  · exact List.suffix_rfl

/-- The limit is positive, so a new message stays. -/
theorem truncate_concat (messages : List PairBackendMessage) (message : PairBackendMessage) :
    truncate (messages ++ [message]) =
      messages.drop (messages.length + 1 - pairChannelMessageLimit) ++ [message] := by
  have hlength : (messages ++ [message]).length = messages.length + 1 := by
    rw [List.length_append, List.length_singleton]
  have hpos : 0 < pairChannelMessageLimit := by decide
  rw [← List.drop_append_of_le_length (by omega), truncate, hlength]
  split
  · rfl
  · rw [show messages.length + 1 - pairChannelMessageLimit = 0 by omega, List.drop_zero]

/-- The message was there before the append. -/
def Known (messages : List PairBackendMessage) (id : String) : Prop :=
  unicodeTrim id ≠ "" ∧ id ∈ messages.map PairBackendMessage.id

theorem find?_sameId_eq_none_iff :
    messages.find? (sameId message) = none ↔ ¬Known messages message.id := by
  rw [List.find?_eq_none]
  constructor
  · intro hnone hknown
    obtain ⟨item, hitem, hid⟩ := List.mem_map.mp hknown.2
    exact hnone item hitem (sameId_iff.mpr ⟨hknown.1, hid⟩)
  · intro hnot item hitem hsame
    obtain ⟨htrim, hid⟩ := sameId_iff.mp hsame
    exact hnot ⟨htrim, hid ▸ List.mem_map_of_mem hitem⟩

theorem insertMessage_of_new (hnew : ¬Known messages message.id) :
    insertMessage messages message = (truncate (messages ++ [message]), true) := by
  rw [insertMessage, find?_sameId_eq_none_iff.mpr hnew]

theorem insertMessage_of_old (hold : Known messages message.id) :
    insertMessage messages message =
      (updateFirst (sameId message) (overwrite message) messages, false) := by
  rw [insertMessage]
  cases hfind : messages.find? (sameId message) with
  | none => exact absurd hold (find?_sameId_eq_none_iff.mp hfind)
  | some found => rfl

theorem inserted_iff : (insertMessage messages message).2 = true ↔ ¬Known messages message.id := by
  by_cases hknown : Known messages message.id
  · simp [insertMessage_of_old hknown, hknown]
  · simp [insertMessage_of_new hknown, hknown]

theorem ids_insertMessage_of_old (hold : Known messages message.id) :
    (insertMessage messages message).1.map PairBackendMessage.id =
      messages.map PairBackendMessage.id := by
  rw [insertMessage_of_old hold]
  exact map_updateFirst (fun item _ => id_overwrite) messages

/-- The ids of a channel after an append, for a message that was there. -/
theorem ids_appendMessage_of_old (hold : Known channel.messages message.id) {id : String} :
    id ∈ (appendMessage choices channel message).1.messages.map PairBackendMessage.id ↔
      id ∈ channel.messages.map PairBackendMessage.id := by
  rw [← id_normalizeIncoming message] at hold
  unfold appendMessage
  rw [mem_ids_reconcile, ids_insertMessage_of_old hold]

/-- An append brings in no other id. -/
theorem ids_appendMessage_subset {id : String}
    (hid : id ∈ (appendMessage choices channel message).1.messages.map PairBackendMessage.id) :
    id ∈ channel.messages.map PairBackendMessage.id ∨ id = message.id := by
  by_cases hknown : Known channel.messages message.id
  · exact Or.inl ((ids_appendMessage_of_old hknown).mp hid)
  · rw [← id_normalizeIncoming message] at hknown
    unfold appendMessage at hid
    rw [mem_ids_reconcile, insertMessage_of_new hknown] at hid
    have hsubset := (truncate_suffix (channel.messages ++ [normalizeIncoming message])).subset
    obtain ⟨item, hitem, rfl⟩ := List.mem_map.mp hid
    rcases List.mem_append.mp (hsubset hitem) with hold | hnew
    · exact Or.inl (List.mem_map_of_mem hold)
    · rw [List.mem_singleton.mp hnew, id_normalizeIncoming]
      exact Or.inr rfl

theorem inserted_appendMessage :
    (appendMessage choices channel message).2.1 = true ↔ ¬Known channel.messages message.id := by
  rw [appendMessage, inserted_iff, id_normalizeIncoming]

theorem length_appendMessage (hlength : channel.messages.length ≤ pairChannelMessageLimit) :
    (appendMessage choices channel message).1.messages.length ≤ pairChannelMessageLimit := by
  unfold appendMessage
  rw [length_reconcile]
  by_cases hknown : Known channel.messages (normalizeIncoming message).id
  · rw [insertMessage_of_old hknown, length_updateFirst]
    exact hlength
  · rw [insertMessage_of_new hknown, length_truncate]
    omega

end OpenClaw.Desktop
