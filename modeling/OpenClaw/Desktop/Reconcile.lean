import OpenClaw.Desktop.Message

/-!
# Reconciling a channel

`reconcileChannelMessages` normalizes the messages of a channel, orders the chat
messages by Kahn's algorithm over the parents it knows, and sorts the whole list
by that order.  The maps are hash maps, and with gateway numbers or system
messages among the rest the comparators are no orders, so what the runtime makes
of either is a parameter (`Choices`).

Whatever the order, the messages are only rewritten and permuted
(`reconcile_perm`): none is lost, and each keeps its id and its number.
-/

namespace OpenClaw.Desktop

open OpenClaw.Runtime StableSort

/-- What the runtime is free to choose: how a hash map is walked, and what
sorting by a comparator that is no order gives. -/
structure Choices where
  iter : IterOrder
  sorter : SortAlgorithm

def Choices.plain : Choices := ⟨.stored, .insertion⟩

/-- What reconciliation leaves in a channel. -/
structure Reconciled where
  messages : List PairBackendMessage
  missingMessageIds : List String

/-- `known_ids`. -/
def knownIds (messages : List PairBackendMessage) : List String :=
  (messages.filter isGraphChatMessage).map PairBackendMessage.id

/-- The second loop: the parents nobody has. -/
def markMissing (known : List String) (message : PairBackendMessage) : PairBackendMessage :=
  if message.kind = "system" then message
  else { message with missingAfter := message.after.filter fun id => decide (id ∉ known) }

/-- `message_by_id`: the last message of each id. -/
def messageById (messages : List PairBackendMessage) : OrderedMap String PairBackendMessage :=
  .ofList ((messages.filter isGraphChatMessage).map fun message => (message.id, message))

/-- The in-degree of a message, and the message as a child of its parents. -/
def linkMessage (known : List String)
    (tables : OrderedMap String ℕ × OrderedMap String (List String))
    (message : PairBackendMessage) : OrderedMap String ℕ × OrderedMap String (List String) :=
  let parentIds := message.after.filter fun id => decide (id ∈ known)
  (tables.1.set message.id parentIds.length,
    parentIds.foldl
      (fun children parentId =>
        children.set parentId ((children.get parentId).getD [] ++ [message.id])) tables.2)

/-- One child of an ordered message. -/
def releaseChild (byId : OrderedMap String PairBackendMessage)
    (state : List PairBackendMessage × OrderedMap String ℕ) (childId : String) :
    List PairBackendMessage × OrderedMap String ℕ :=
  let nextDegree := (state.2.get childId).getD 0 - 1
  let indegree := state.2.set childId nextDegree
  if nextDegree = 0 then
    match byId.get childId with
    | some child => (state.1 ++ [child], indegree)
    | none => (state.1, indegree)
  else (state.1, indegree)

/-- The worklist; the ready list is only sorted again after a message that has
children.  The fuel bounds the number of rounds. -/
def orderLoop (choices : Choices) (byId : OrderedMap String PairBackendMessage)
    (children : OrderedMap String (List String)) :
    ℕ → List PairBackendMessage → OrderedMap String ℕ → List String → List String
  | 0, _, _, orderedIds => orderedIds
  | _ + 1, [], _, orderedIds => orderedIds
  | fuel + 1, current :: ready, indegree, orderedIds =>
      match children.get current.id with
      | some childIds =>
          let released := childIds.foldl (releaseChild byId) (ready, indegree)
          orderLoop choices byId children fuel
            (choices.sorter.sort comparePairMessageOrder released.1) released.2
            (orderedIds ++ [current.id])
      | none => orderLoop choices byId children fuel ready indegree (orderedIds ++ [current.id])

/-- `ordered_ids`: the worklist, then what it leaves over. -/
def orderedIds (choices : Choices) (messages : List PairBackendMessage) : List String :=
  let known := knownIds messages
  let byId := messageById messages
  let values := (choices.iter.order byId.entries).map Prod.snd
  let tables := values.foldl (linkMessage known) (∅, ∅)
  let ready := choices.sorter.sort comparePairMessageOrder
    (values.filter fun message => decide ((tables.1.get message.id).getD 0 = 0))
  let ordered := orderLoop choices byId tables.2 values.length ready tables.1 []
  let remaining := choices.sorter.sort comparePairMessageOrder
    (values.filter fun message => decide (message.id ∉ ordered))
  ordered ++ remaining.map PairBackendMessage.id

/-- The comparator of the final sort. -/
def compareByIndex (ordered : List String) (left right : PairBackendMessage) : Ordering :=
  match ordered.idxOf? left.id, ordered.idxOf? right.id with
  | some leftIndex, some rightIndex => compare leftIndex rightIndex
  | _, _ => comparePairMessageOrder left right

/-- `reconcile_channel_messages_locked`. -/
def reconcileChannelMessages (choices : Choices) (messages : List PairBackendMessage) :
    Reconciled :=
  let normalized := messages.map normalizeStored
  let marked := normalized.map (markMissing (knownIds normalized))
  let sorted := choices.sorter.sort (compareByIndex (orderedIds choices marked)) marked
  { messages := sorted
    missingMessageIds :=
      dropRepeats (sortBy compare (sorted.flatMap PairBackendMessage.missingAfter)) }

/-- `collect_channel_leaf_ids_locked`. -/
def collectChannelLeafIds (messages : List PairBackendMessage) : List String :=
  let known := knownIds messages
  let chat := messages.filter isGraphChatMessage
  let referenced : List String := chat.flatMap fun message =>
    message.after.filter fun id => decide (id ∈ known)
  (chat.filter fun message => decide (message.id ∉ referenced)).map PairBackendMessage.id

/-! ## Nothing is lost -/

variable {choices : Choices} {messages : List PairBackendMessage} {message : PairBackendMessage}
  {known : List String} {origin : String}

@[simp] theorem id_markMissing : (markMissing known message).id = message.id := by
  unfold markMissing
  split
  · rfl
  · rfl

theorem carries_markMissing {n : ℕ} :
    Carries origin n (markMissing known message) ↔ Carries origin n message := by
  unfold markMissing
  split
  · rfl
  · simp only [Carries, isGraphChatMessage]

/-- What reconciliation makes of a message, before it is sorted in. -/
def reconcileMessage (messages : List PairBackendMessage) (message : PairBackendMessage) :
    PairBackendMessage :=
  markMissing (knownIds (messages.map normalizeStored)) (normalizeStored message)

@[simp] theorem id_reconcileMessage : (reconcileMessage messages message).id = message.id := by
  rw [reconcileMessage, id_markMissing, id_normalizeStored]

/-- What reconciliation makes of a chat message. -/
theorem reconcileMessage_of_graph (hgraph : isGraphChatMessage message = true) :
    reconcileMessage messages message =
      { message with
        kind := "chat"
        origin := normalizeChatMessageOrigin message.origin message.sender
        after := normalizeChatMessageIds message.after
        missingAfter := (normalizeChatMessageIds message.after).filter fun id =>
          decide (id ∉ knownIds (messages.map normalizeStored)) } := by
  have hkind : ("chat" : String) ≠ "system" := by decide
  rw [reconcileMessage, normalizeStored, normalizeIncoming_of_graph hgraph, markMissing]
  dsimp only
  rw [if_neg hkind]

theorem carries_reconcileMessage {n : ℕ} :
    Carries origin n (reconcileMessage messages message) ↔
      Carries origin n (normalizeStored message) := carries_markMissing

/-- **Reconciliation rewrites and permutes.** -/
theorem reconcile_perm (choices : Choices) (messages : List PairBackendMessage) :
    (reconcileChannelMessages choices messages).messages.Perm
      (messages.map (reconcileMessage messages)) := by
  have hmarked : (messages.map normalizeStored).map
      (markMissing (knownIds (messages.map normalizeStored))) =
        messages.map (reconcileMessage messages) := by
    rw [List.map_map]
    exact List.map_congr_left fun message _ => by rw [Function.comp_apply, reconcileMessage]
  rw [← hmarked]
  exact choices.sorter.perm _ _

theorem mem_reconcile :
    message ∈ (reconcileChannelMessages choices messages).messages ↔
      ∃ old ∈ messages, reconcileMessage messages old = message := by
  rw [(reconcile_perm choices messages).mem_iff, List.mem_map]

theorem length_reconcile (choices : Choices) (messages : List PairBackendMessage) :
    (reconcileChannelMessages choices messages).messages.length = messages.length := by
  rw [(reconcile_perm choices messages).length_eq, List.length_map]

theorem ids_reconcile_perm (choices : Choices) (messages : List PairBackendMessage) :
    ((reconcileChannelMessages choices messages).messages.map PairBackendMessage.id).Perm
      (messages.map PairBackendMessage.id) := by
  have hperm := (reconcile_perm choices messages).map PairBackendMessage.id
  have hids : messages.map (PairBackendMessage.id ∘ reconcileMessage messages) =
      messages.map PairBackendMessage.id :=
    List.map_congr_left fun _ _ => id_reconcileMessage
  rw [List.map_map, hids] at hperm
  exact hperm

theorem mem_ids_reconcile {id : String} :
    id ∈ (reconcileChannelMessages choices messages).messages.map PairBackendMessage.id ↔
      id ∈ messages.map PairBackendMessage.id :=
  (ids_reconcile_perm choices messages).mem_iff

theorem exists_carries_reconcile (choices : Choices) {n : ℕ} :
    (∃ message ∈ (reconcileChannelMessages choices messages).messages, Carries origin n message) ↔
      ∃ message ∈ messages, Carries origin n (normalizeStored message) := by
  constructor
  · rintro ⟨message, hmem, hcarries⟩
    obtain ⟨old, hold, rfl⟩ := mem_reconcile.mp hmem
    exact ⟨old, hold, carries_reconcileMessage.mp hcarries⟩
  · rintro ⟨old, hold, hcarries⟩
    exact ⟨_, mem_reconcile.mpr ⟨old, hold, rfl⟩, carries_reconcileMessage.mpr hcarries⟩

/-! ## Reconciling again -/

/-- The known ids, after the messages were changed in other fields. -/
theorem knownIds_map {change : PairBackendMessage → PairBackendMessage}
    (hgraph : ∀ message, isGraphChatMessage (change message) = isGraphChatMessage message)
    (hid : ∀ message, (change message).id = message.id) :
    knownIds (messages.map change) = knownIds messages := by
  rw [knownIds, knownIds, List.filter_map, List.map_map]
  simp only [Function.comp_def, hgraph, hid]

theorem knownIds_map_normalizeStored (messages : List PairBackendMessage) :
    knownIds (messages.map normalizeStored) = knownIds messages :=
  knownIds_map isGraphChatMessage_normalizeStored id_normalizeStored

/-- What reconciling makes of a message depends on the known ids only. -/
theorem reconcileMessage_congr {messages' : List PairBackendMessage}
    (hknown : ∀ id, id ∈ knownIds messages ↔ id ∈ knownIds messages') :
    reconcileMessage messages = reconcileMessage messages' := by
  funext message
  unfold reconcileMessage markMissing
  rw [knownIds_map_normalizeStored, knownIds_map_normalizeStored]
  simp only [hknown]

end OpenClaw.Desktop
