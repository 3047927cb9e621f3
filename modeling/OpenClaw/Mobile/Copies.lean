import OpenClaw.Mobile.SessionLog

/-!
# Several copies of a message

Reconciling a list that has a message more than once keeps the last copy of it, by
kind and trimmed id.  `lastCopy` is that copy; a reconciled list has the last copies
and nothing else (`exists_lastCopy`, `exists_mem_reconcile`), and reads the same
(`reading_lastCopy_reconcile`).
-/

namespace OpenClaw.Mobile

open OpenClaw.Runtime StableSort

variable {choices : Choices} {message last : ChatMessage} {messages left right : List ChatMessage}
  {kind : ChatKind} {id : String}

/-! ## The last copy -/

def isCopy (kind : ChatKind) (id : String) (message : ChatMessage) : Bool :=
  id ≠ "" ∧ message.kind = kind ∧ jsTrim message.id = id

def lastCopy (kind : ChatKind) (id : String) (messages : List ChatMessage) : Option ChatMessage :=
  (messages.filter (isCopy kind id)).getLast?

theorem isCopy_iff : isCopy kind id message = true ↔
    id ≠ "" ∧ message.kind = kind ∧ jsTrim message.id = id := decide_eq_true_iff

theorem lastCopy_append :
    lastCopy kind id (left ++ right) = (lastCopy kind id right).or (lastCopy kind id left) := by
  rw [lastCopy, List.filter_append, List.getLast?_append]
  rfl

theorem lastCopy_singleton : lastCopy kind id [message] =
    if isCopy kind id message then some message else none := by
  rw [lastCopy, List.filter_singleton]
  split
  · next hcopy => rw [hcopy]; rfl
  · next hnot => rw [Bool.eq_false_iff.mpr hnot]; rfl

theorem lastCopy_eq_some (hlast : lastCopy kind id messages = some last) :
    last ∈ messages ∧ isCopy kind id last = true :=
  List.mem_filter.mp (List.mem_of_getLast? hlast)

theorem exists_lastCopy_iff : (∃ last, lastCopy kind id messages = some last) ↔
    ∃ message ∈ messages, isCopy kind id message = true := by
  constructor
  · rintro ⟨last, hlast⟩
    exact ⟨last, lastCopy_eq_some hlast⟩
  · rintro ⟨message, hmem, hcopy⟩
    have hfilter : message ∈ messages.filter (isCopy kind id) := List.mem_filter.mpr ⟨hmem, hcopy⟩
    exact ⟨_, List.getLast?_eq_some_getLast (List.ne_nil_of_mem hfilter)⟩

/-- A change that keeps ids and kinds. -/
theorem lastCopy_map {change : ChatMessage → ChatMessage}
    (hcopy : ∀ message, isCopy kind id (change message) = isCopy kind id message) :
    lastCopy kind id (messages.map change) = (lastCopy kind id messages).map change := by
  have hsame : isCopy kind id ∘ change = isCopy kind id := funext hcopy
  rw [lastCopy, List.filter_map, hsame, List.getLast?_map]
  rfl

theorem lastCopy_filter {keep : ChatMessage → Bool}
    (hkeep : ∀ message, isCopy kind id message = true → keep message = true) :
    lastCopy kind id (messages.filter keep) = lastCopy kind id messages := by
  have hsame :
      (messages.filter keep).filter (isCopy kind id) = messages.filter (isCopy kind id) := by
    rw [List.filter_filter]
    refine List.filter_congr fun message _ => ?_
    cases hcopy : isCopy kind id message with
    | false => rfl
    | true => rw [hkeep message hcopy]; rfl
  rw [lastCopy, hsame, lastCopy]

/-- What is cut at the front are not the last copies of what is left. -/
theorem lastCopy_of_drop {n : ℕ} (hlast : lastCopy kind id (messages.drop n) = some last) :
    lastCopy kind id messages = some last := by
  conv_lhs => rw [← List.take_append_drop n messages]
  rw [lastCopy_append, hlast, Option.some_or]

theorem messagesOfKind_concat : messagesOfKind kind (messages ++ [message]) =
    if jsTrim message.id ≠ "" ∧ message.kind = kind then
      (messagesOfKind kind messages).set (jsTrim message.id) (normalizeChatMessage message)
    else messagesOfKind kind messages := by
  unfold messagesOfKind OrderedMap.ofList
  rw [List.map_append, List.filter_append, List.map_append, List.foldl_append, List.map_singleton,
    List.filter_singleton, id_normalize, kind_normalize]
  by_cases hkept : jsTrim message.id ≠ "" ∧ message.kind = kind
  · rw [if_pos hkept, decide_eq_true hkept]
    rfl
  · rw [if_neg hkept, decide_eq_false hkept]
    rfl

/-- The map of a reconciliation has the last copies. -/
theorem get_messagesOfKind : (messagesOfKind kind messages).get id =
    (lastCopy kind id messages).map normalizeChatMessage := by
  induction messages using List.reverseRecOn with
  | nil => rfl
  | append_singleton earlier message ih =>
      rw [messagesOfKind_concat, lastCopy_append, lastCopy_singleton]
      by_cases hcopy : isCopy kind id message = true
      · obtain ⟨hne, hkind, rfl⟩ := isCopy_iff.mp hcopy
        rw [if_pos hcopy, if_pos ⟨hne, hkind⟩, OrderedMap.get_set_self]
        rfl
      · rw [if_neg hcopy, Option.none_or, ← ih]
        split
        · next hkept =>
          refine OrderedMap.get_set_of_ne _ _ fun hid => hcopy (isCopy_iff.mpr ?_)
          exact ⟨hid ▸ hkept.1, hkept.2, hid.symm⟩
        · rfl

/-! ## What a copy reads -/

/-- The fields a refresh must not lose, and the two that decide the delivery
status. -/
structure CopyReading where
  kind : ChatKind
  sender : Sender
  text : String
  deliveryStatus : Option DeliveryStatus
  originSeq : JsNumber
deriving DecidableEq

def reading (message : ChatMessage) : CopyReading where
  kind := message.kind
  sender := message.sender
  text := message.text
  deliveryStatus := normalizeDeliveryStatus message
  originSeq := if message.kind = .system then .nan else .ofCount (normalizeOriginSeq message)

theorem normalizeDeliveryStatus_normalize (message : ChatMessage) :
    normalizeDeliveryStatus (normalizeChatMessage message) = normalizeDeliveryStatus message := by
  have hstatus : (normalizeChatMessage message).deliveryStatus =
      normalizeDeliveryStatus message := rfl
  have hsender : (normalizeChatMessage message).sender = message.sender := rfl
  conv_lhs => rw [normalizeDeliveryStatus, hstatus, hsender, kind_normalize]
  rw [normalizeDeliveryStatus]
  by_cases hown : message.kind ≠ .system ∧ message.sender = .self
  · rw [if_pos hown, if_pos hown]
    split
    · rfl
    · rfl
  · rw [if_neg hown, if_neg hown]

@[simp] theorem reading_normalize (message : ChatMessage) :
    reading (normalizeChatMessage message) = reading message := by
  have hsender : (normalizeChatMessage message).sender = message.sender := rfl
  have htext : (normalizeChatMessage message).text = message.text := rfl
  rw [reading, normalizeDeliveryStatus_normalize, kind_normalize, hsender, htext, reading]
  by_cases hsystem : message.kind = .system
  · rw [if_pos hsystem, if_pos hsystem]
  · rw [if_neg hsystem, if_neg hsystem, normalizeOriginSeq_normalize hsystem]

theorem reading_finish (missingIds : List String) (message : ChatMessage) :
    reading (finishMessage missingIds message) = reading message := rfl

/-- A message of a reconciled list is what a last copy reads. -/
theorem exists_lastCopy
    (hmem : message ∈ (reconcileSessionMessages choices messages).messages) :
    isCopy message.kind message.id message = true ∧
      ∃ last, lastCopy message.kind message.id messages = some last ∧
        reading message = reading last := by
  have hkept : ∀ {kind kept}, kept ∈ (messagesOfKind kind messages).values →
      isCopy kept.kind kept.id kept = true ∧
        ∃ last, lastCopy kept.kind kept.id messages = some last ∧ reading kept = reading last := by
    intro kind kept hvalue
    obtain ⟨id, hget⟩ := OrderedMap.mem_values_iff.mp hvalue
    obtain ⟨rfl, rfl, hne, -⟩ := key_messagesOfKind hget
    refine ⟨isCopy_iff.mpr ⟨hne, rfl, trim_key hget⟩, ?_⟩
    rw [get_messagesOfKind, Option.map_eq_some_iff] at hget
    obtain ⟨last, hlast, hnormal⟩ := hget
    exact ⟨last, hlast, by rw [← hnormal, reading_normalize]⟩
  rcases List.mem_append.mp ((reconcile_perm_values choices messages).mem_iff.mp hmem) with
    hsystem | hchat
  · exact hkept hsystem
  · obtain ⟨kept, hvalue, rfl⟩ := List.mem_map.mp hchat
    obtain ⟨hself, last, hlast, hreading⟩ := hkept hvalue
    exact ⟨hself, last, hlast, hreading⟩

/-- Every last copy is there. -/
theorem exists_mem_reconcile (choices : Choices) (hlast : lastCopy kind id messages = some last) :
    ∃ message ∈ (reconcileSessionMessages choices messages).messages,
      message.kind = kind ∧ message.id = id ∧ reading message = reading last := by
  have hget : (messagesOfKind kind messages).get id = some (normalizeChatMessage last) := by
    rw [get_messagesOfKind, hlast, Option.map_some]
  have hvalue := OrderedMap.mem_values_iff.mpr ⟨id, hget⟩
  obtain ⟨hid, hkind, -, -⟩ := key_messagesOfKind hget
  have hmem := fun message => (reconcile_perm_values choices messages).mem_iff (a := message)
  cases kind with
  | system =>
      exact ⟨_, (hmem _).mpr (List.mem_append_left _ hvalue), hkind, hid, reading_normalize last⟩
  | chat =>
      exact ⟨_, (hmem _).mpr (List.mem_append_right _ (List.mem_map_of_mem hvalue)), hkind, hid,
        (reading_finish _ _).trans (reading_normalize last)⟩

/-- **Reconciling keeps what the last copies read.** -/
theorem reading_lastCopy_reconcile (choices : Choices) (messages : List ChatMessage) :
    (lastCopy kind id (reconcileSessionMessages choices messages).messages).map reading =
      (lastCopy kind id messages).map reading := by
  cases hlast : lastCopy kind id messages with
  | some last =>
      obtain ⟨message, hmem, hkind, hid, -⟩ := exists_mem_reconcile choices hlast
      have hcopy := (exists_lastCopy hmem).1
      rw [hkind, hid] at hcopy
      obtain ⟨kept, hkept⟩ := exists_lastCopy_iff.mpr ⟨message, hmem, hcopy⟩
      obtain ⟨hmem, hcopy⟩ := lastCopy_eq_some hkept
      obtain ⟨hself, original, horiginal, hreading⟩ := exists_lastCopy hmem
      obtain ⟨-, hkind, htrim⟩ := isCopy_iff.mp hcopy
      obtain ⟨-, -, hown⟩ := isCopy_iff.mp hself
      rw [hkind, hown.symm.trans htrim, hlast] at horiginal
      rw [hkept, Option.map_some, Option.map_some, hreading, Option.some.inj horiginal]
  | none =>
      cases hkept : lastCopy kind id (reconcileSessionMessages choices messages).messages with
      | none => rfl
      | some kept =>
          obtain ⟨hmem, hcopy⟩ := lastCopy_eq_some hkept
          obtain ⟨hself, original, horiginal, -⟩ := exists_lastCopy hmem
          obtain ⟨-, hkind, htrim⟩ := isCopy_iff.mp hcopy
          obtain ⟨-, -, hown⟩ := isCopy_iff.mp hself
          rw [hkind, hown.symm.trans htrim, hlast] at horiginal
          cases horiginal

end OpenClaw.Mobile
