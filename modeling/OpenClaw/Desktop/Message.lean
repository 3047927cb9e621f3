import OpenClaw.Lib.ContiguousPrefix
import OpenClaw.Lib.OrderedMap
import OpenClaw.Runtime.Text

/-!
# Messages of a desktop channel

The desktop keeps the messages of a channel as they arrived, with strings for
their kind and origin.  This module has the normalizations every reader applies,
the order `comparePairMessageOrder`, and the cursor the desktop acknowledges for
an origin, `collectChannelOriginCursor`.

`Carries origin n message` says that the message is the origin's number `n`;
`isCursor_collect` reads the cursor as the contiguous prefix of the numbers the
channel carries.
-/

namespace OpenClaw.Desktop

open OpenClaw.Runtime StableSort

/-- A message of a channel.  `sender` is the field `from` of the source. -/
structure PairBackendMessage where
  id : String
  sender : String
  text : String
  ts : ℕ
  kind : String
  origin : String
  originSeq : ℕ
  after : List String
  missingAfter : List String
  gatewayMessageId : String
  gatewayMessageSeq : ℕ
deriving DecidableEq, Inhabited

def normalizeChatMessageOrigin (value sender : String) : String :=
  let normalized := unicodeTrim value
  if normalized = "mobile" then "mobile"
  else if normalized = "host" then "host"
  else if unicodeTrim sender = "mobile" then "mobile"
  else "host"

def normalizeChatMessageKind (value : String) : String :=
  if unicodeTrim value = "system" then "system" else "chat"

/-- The distinct ids that are not blank, trimmed. -/
def normalizeChatMessageIds (values : List String) : List String :=
  OrderedSet.ofList ((values.map unicodeTrim).filter fun value => decide (value ≠ ""))

def isGraphChatMessage (message : PairBackendMessage) : Bool :=
  normalizeChatMessageKind message.kind ≠ "system" ∧ unicodeTrim message.id ≠ ""

/-- By gateway number when both have one and they differ, else by time and id. -/
def comparePairMessageOrder (left right : PairBackendMessage) : Ordering :=
  if 0 < left.gatewayMessageSeq ∧ 0 < right.gatewayMessageSeq ∧
      left.gatewayMessageSeq ≠ right.gatewayMessageSeq then
    compare left.gatewayMessageSeq right.gatewayMessageSeq
  else (compare left.ts right.ts).then (compare left.id right.id)

/-- A system message has no place in the graph. -/
def clearSystem (message : PairBackendMessage) : PairBackendMessage :=
  { message with
    kind := "system", origin := "", originSeq := 0, after := [], missingAfter := []
    gatewayMessageId := "", gatewayMessageSeq := 0 }

/-- The normal form of a message that is about to be appended. -/
def normalizeIncoming (message : PairBackendMessage) : PairBackendMessage :=
  if normalizeChatMessageKind message.kind = "system" then clearSystem message
  else
    { message with
      kind := "chat"
      origin := normalizeChatMessageOrigin message.origin message.sender
      after := normalizeChatMessageIds message.after }

/-- The first loop of `reconcile_channel_messages_locked`. -/
def normalizeStored (message : PairBackendMessage) : PairBackendMessage :=
  { normalizeIncoming message with missingAfter := [] }

/-! ## Cursors -/

/-- The numbers of an origin among the messages, as they are stored. -/
def originSeqs (messages : List PairBackendMessage) (origin : String) : List ℕ :=
  (((messages.filter isGraphChatMessage).filter fun message =>
    decide (unicodeTrim message.origin = origin)).map PairBackendMessage.originSeq).filter
      fun seq => decide (0 < seq)

def collectChannelOriginCursor (messages : List PairBackendMessage) (origin : String) : ℕ :=
  let normalized := unicodeTrim origin
  if normalized = "" then 0
  else
    ContiguousPrefix.contiguous id (dropRepeats (sortBy compare (originSeqs messages normalized)))

/-- The message is number `n` of the origin. -/
def Carries (origin : String) (n : ℕ) (message : PairBackendMessage) : Prop :=
  isGraphChatMessage message = true ∧ unicodeTrim message.origin = origin ∧ message.originSeq = n

instance (origin : String) (n : ℕ) : DecidablePred (Carries origin n) := fun _ =>
  inferInstanceAs (Decidable (_ ∧ _ ∧ _))

variable {message : PairBackendMessage} {messages : List PairBackendMessage} {origin : String}

theorem mem_originSeqs {n : ℕ} :
    n ∈ originSeqs messages origin ↔ 0 < n ∧ ∃ message ∈ messages, Carries origin n message := by
  simp only [originSeqs, List.mem_filter, List.mem_map, decide_eq_true_eq]
  constructor
  · rintro ⟨⟨message, ⟨⟨hmem, hgraph⟩, horigin⟩, rfl⟩, hpos⟩
    exact ⟨hpos, message, hmem, hgraph, horigin, rfl⟩
  · rintro ⟨hpos, message, hmem, hgraph, horigin, rfl⟩
    exact ⟨⟨message, ⟨⟨hmem, hgraph⟩, horigin⟩, rfl⟩, hpos⟩

/-- **The cursor without its loop.** -/
theorem isCursor_collect (horigin : unicodeTrim origin = origin) (hne : origin ≠ "") :
    ContiguousPrefix.IsCursor (collectChannelOriginCursor messages origin) fun n =>
      ∃ message ∈ messages, Carries origin n message := by
  have hsorted : (sortBy compare (originSeqs messages origin)).Pairwise (· ≤ ·) :=
    (pairwise_sortBy (originSeqs messages origin)).imp fun hle =>
      compare_le_iff_le.mp (Ordering.ne_gt_iff_isLE.mpr hle)
  unfold collectChannelOriginCursor
  dsimp only
  rw [horigin, if_neg hne]
  refine ContiguousPrefix.isCursor_contiguous ContiguousPrefix.gapless_id
    (pairwise_lt_dropRepeats hsorted) (fun value hvalue => ?_) fun n hn => ?_
  · rw [mem_dropRepeats, mem_sortBy, mem_originSeqs] at hvalue
    exact hvalue.1
  · rw [mem_dropRepeats, mem_sortBy, mem_originSeqs]
    exact and_iff_right hn

/-! ## Normal forms -/

@[simp] theorem normalizeChatMessageKind_idem (value : String) :
    normalizeChatMessageKind (normalizeChatMessageKind value) = normalizeChatMessageKind value := by
  unfold normalizeChatMessageKind
  split
  · decide
  · decide

theorem kind_normalizeIncoming (message : PairBackendMessage) :
    (normalizeIncoming message).kind = normalizeChatMessageKind message.kind := by
  unfold normalizeIncoming
  by_cases hsystem : unicodeTrim message.kind = "system"
  · simp [normalizeChatMessageKind, hsystem, clearSystem]
  · simp [normalizeChatMessageKind, hsystem]

@[simp] theorem id_normalizeIncoming (message : PairBackendMessage) :
    (normalizeIncoming message).id = message.id := by
  unfold normalizeIncoming
  split
  · rw [clearSystem]
  · rfl

@[simp] theorem id_normalizeStored (message : PairBackendMessage) :
    (normalizeStored message).id = message.id := by
  unfold normalizeStored
  dsimp only
  rw [id_normalizeIncoming]

@[simp] theorem kind_normalizeStored (message : PairBackendMessage) :
    (normalizeStored message).kind = normalizeChatMessageKind message.kind := by
  unfold normalizeStored
  dsimp only
  rw [kind_normalizeIncoming]

@[simp] theorem isGraphChatMessage_normalizeStored (message : PairBackendMessage) :
    isGraphChatMessage (normalizeStored message) = isGraphChatMessage message := by
  simp only [isGraphChatMessage, id_normalizeStored, kind_normalizeStored,
    normalizeChatMessageKind_idem]

theorem normalizeIncoming_of_graph (hgraph : isGraphChatMessage message = true) :
    normalizeIncoming message =
      { message with
        kind := "chat"
        origin := normalizeChatMessageOrigin message.origin message.sender
        after := normalizeChatMessageIds message.after } := by
  have hkind : normalizeChatMessageKind message.kind ≠ "system" := (of_decide_eq_true hgraph).1
  rw [normalizeIncoming, if_neg hkind]

/-- An origin that is `host` or `mobile` up to blanks is not changed. -/
theorem normalizeChatMessageOrigin_of_trim {value sender : String}
    (horigin : origin = "host" ∨ origin = "mobile") (hvalue : unicodeTrim value = origin) :
    normalizeChatMessageOrigin value sender = origin := by
  unfold normalizeChatMessageOrigin
  rcases horigin with rfl | rfl
  · simp [hvalue]
  · simp [hvalue]

theorem normalizeChatMessageOrigin_eq (value sender : String) :
    normalizeChatMessageOrigin value sender = "host" ∨
      normalizeChatMessageOrigin value sender = "mobile" := by
  unfold normalizeChatMessageOrigin
  dsimp only
  split
  · exact Or.inr rfl
  · split
    · exact Or.inl rfl
    · split
      · exact Or.inr rfl
      · exact Or.inl rfl

theorem trim_of_origin (horigin : origin = "host" ∨ origin = "mobile") :
    unicodeTrim origin = origin := by
  rcases horigin with rfl | rfl <;> decide

theorem ne_empty_of_origin (horigin : origin = "host" ∨ origin = "mobile") : origin ≠ "" := by
  rcases horigin with rfl | rfl <;> decide

/-- The number of a message in its normal form. -/
theorem carries_normalizeStored {n : ℕ} :
    Carries origin n (normalizeStored message) ↔ isGraphChatMessage message = true ∧
      normalizeChatMessageOrigin message.origin message.sender = origin ∧
      message.originSeq = n := by
  unfold Carries
  rw [isGraphChatMessage_normalizeStored]
  refine and_congr_right fun hgraph => ?_
  rw [normalizeStored, normalizeIncoming_of_graph hgraph]
  have htrim : unicodeTrim (normalizeChatMessageOrigin message.origin message.sender) =
      normalizeChatMessageOrigin message.origin message.sender :=
    trim_of_origin (normalizeChatMessageOrigin_eq _ _)
  dsimp only
  rw [htrim]

theorem normalizeChatMessageOrigin_idem (value sender : String) :
    normalizeChatMessageOrigin (normalizeChatMessageOrigin value sender) sender =
      normalizeChatMessageOrigin value sender := by
  have horigin := normalizeChatMessageOrigin_eq value sender
  exact normalizeChatMessageOrigin_of_trim horigin (trim_of_origin horigin)

/-- Normalizing a message keeps the numbers it carries. -/
theorem Carries.normalizeStored {n : ℕ} (horigin : origin = "host" ∨ origin = "mobile")
    (hcarries : Carries origin n message) : Carries origin n (normalizeStored message) := by
  obtain ⟨hgraph, htrim, hseq⟩ := hcarries
  exact carries_normalizeStored.mpr
    ⟨hgraph, normalizeChatMessageOrigin_of_trim horigin htrim, hseq⟩

/-! ## Normalizing again -/

theorem normalizeChatMessageIds_idem (values : List String) :
    normalizeChatMessageIds (normalizeChatMessageIds values) = normalizeChatMessageIds values :=
  ofList_trimmed_idem values

theorem normalizeIncoming_of_system (hsystem : normalizeChatMessageKind message.kind = "system") :
    normalizeIncoming message = clearSystem message := by
  rw [normalizeIncoming, if_pos hsystem]

theorem normalizeIncoming_of_chat (hchat : normalizeChatMessageKind message.kind ≠ "system") :
    normalizeIncoming message =
      { message with
        kind := "chat"
        origin := normalizeChatMessageOrigin message.origin message.sender
        after := normalizeChatMessageIds message.after } := by
  rw [normalizeIncoming, if_neg hchat]

theorem normalizeStored_incoming (message : PairBackendMessage) :
    normalizeStored (normalizeIncoming message) = normalizeStored message := by
  have hkind := kind_normalizeIncoming message
  by_cases hsystem : normalizeChatMessageKind message.kind = "system"
  · have hagain : normalizeChatMessageKind (normalizeIncoming message).kind = "system" := by
      rw [hkind, normalizeChatMessageKind_idem, hsystem]
    rw [normalizeStored, normalizeIncoming_of_system hagain, normalizeStored,
      normalizeIncoming_of_system hsystem]
    rfl
  · have hagain : normalizeChatMessageKind (normalizeIncoming message).kind ≠ "system" := by
      rw [hkind, normalizeChatMessageKind_idem]
      exact hsystem
    rw [normalizeStored, normalizeIncoming_of_chat hagain, normalizeStored,
      normalizeIncoming_of_chat hsystem]
    dsimp only
    rw [normalizeChatMessageOrigin_idem, normalizeChatMessageIds_idem]

theorem normalizeStored_missingAfter (message : PairBackendMessage) (missingAfter : List String) :
    normalizeStored { message with missingAfter } = normalizeStored message := by
  rw [normalizeStored, normalizeStored]
  by_cases hsystem : normalizeChatMessageKind message.kind = "system"
  · rw [normalizeIncoming_of_system hsystem,
      @normalizeIncoming_of_system { message with missingAfter } hsystem]
    rfl
  · rw [normalizeIncoming_of_chat hsystem,
      @normalizeIncoming_of_chat { message with missingAfter } hsystem]

theorem normalizeStored_idem (message : PairBackendMessage) :
    normalizeStored (normalizeStored message) = normalizeStored message :=
  calc normalizeStored (normalizeStored message)
      = normalizeStored (normalizeIncoming message) := normalizeStored_missingAfter _ []
    _ = normalizeStored message := normalizeStored_incoming message

end OpenClaw.Desktop
