import OpenClaw.Crdt.Graph

/-!
# Materialized messages

`materializeCrdtMessages` walks the operations in causal order, keeps the first
`message.create` of every message id, and then sorts the messages once more by
`compareCrdtOpOrder`.  The second sort forgets the causal order: a message comes
before one it caused exactly when its operation is also less by clock, author,
number and id (`materialize_causal_iff`).
-/

namespace OpenClaw.Crdt

open OpenClaw.Runtime StableSort

structure CrdtMaterializedMessage where
  messageId : String
  opId : String
  conversationId : String
  authorDeviceId : String
  authorEntityType : String
  authorSeq : JsNumber
  hlc : String
  text : String
  parts : List Json
  clientNonce : Option String
  parents : List String
  signedAt : JsNumber

def messageIdOf (op : CrdtOpEnvelope) : String := normalizeJsonId (op.payload.get "messageId")

/-- `typeof payload.body?.text === "string" ? payload.body.text : ""`. -/
def messageText (op : CrdtOpEnvelope) : String :=
  match (op.payload.get "body").bind (Json.field "text") with
  | some (.str text) => text
  | _ => ""

/-- The parts of the body that are objects. -/
def messageParts (op : CrdtOpEnvelope) : List Json :=
  match (op.payload.get "body").bind (Json.field "parts") with
  | some (.arr parts) => parts.filter Json.isObject
  | _ => []

def materializeOp (op : CrdtOpEnvelope) : CrdtMaterializedMessage :=
  { messageId := messageIdOf op
    opId := op.opId
    conversationId := op.conversationId
    authorDeviceId := op.authorDeviceId
    authorEntityType := op.authorEntityType
    authorSeq := .ofCount op.authorSeq.count
    hlc := op.hlc
    text := messageText op
    parts := messageParts op
    clientNonce :=
      let clientNonce := normalizeJsonId (op.payload.get "clientNonce")
      if clientNonce = "" then none else some clientNonce
    parents := normalizeCrdtParents op.parents
    signedAt := .ofCount op.signedAt.count }

/-- The message an operation creates, if it is a `message.create` with a message
id. -/
def createKey (op : CrdtOpEnvelope) : Option String :=
  if op.kind = .messageCreate ∧ messageIdOf op ≠ "" then some (messageIdOf op) else none

section Definitions

variable (localeCompare : String → String → Ordering)

/-- The messages in causal order: the first `message.create` of each id. -/
def createdMessages (ops : List CrdtOpEnvelope) : List CrdtMaterializedMessage :=
  (OrderedMap.collectFirst createKey materializeOp
    (analyzeCrdtOps localeCompare ops).orderedOps).values

/-- The comparator of the final sort. -/
def compareMessages (orderedOps : List CrdtOpEnvelope) (left right : CrdtMaterializedMessage) :
    Ordering :=
  match orderedOps.find? fun op => decide (op.opId = left.opId),
    orderedOps.find? fun op => decide (op.opId = right.opId) with
  | some leftOp, some rightOp => compareCrdtOpOrder localeCompare leftOp rightOp
  | _, _ => localeCompare left.messageId right.messageId

def materializeCrdtMessages (ops : List CrdtOpEnvelope) : List CrdtMaterializedMessage :=
  sortBy (compareMessages localeCompare (analyzeCrdtOps localeCompare ops).orderedOps)
    (createdMessages localeCompare ops)

/-- `op` is the operation its message is materialized from. -/
def Creates (ops : List CrdtOpEnvelope) (op : CrdtOpEnvelope) : Prop :=
  ∃ messageId, ((analyzeCrdtOps localeCompare ops).orderedOps.find? fun other =>
    decide (createKey other = some messageId)) = some op

end Definitions

/-- `ancestor` is reached from `op` through known parents. -/
def Ancestor (ops : List CrdtOpEnvelope) : CrdtOpEnvelope → CrdtOpEnvelope → Prop :=
  Relation.TransGen (KnownParent (dedupeCrdtOps ops))

/-- No operation is its own ancestor. -/
def Acyclic (ops : List CrdtOpEnvelope) : Prop := ∀ op, ¬ Ancestor ops op op

/-- `left` stands before `right`. -/
def ComesBefore {α : Type} (list : List α) (left right : α) : Prop := [left, right].Sublist list

/-- A message whose operation is an ancestor of another message's comes before
it. -/
def CausalFirst (ops : List CrdtOpEnvelope) (messages : List CrdtMaterializedMessage) : Prop :=
  ∀ left ∈ messages, ∀ right ∈ messages, ∀ leftOp ∈ dedupeCrdtOps ops,
    ∀ rightOp ∈ dedupeCrdtOps ops, leftOp.opId = left.opId → rightOp.opId = right.opId →
      Ancestor ops leftOp rightOp → ComesBefore messages left right

variable {localeCompare : String → String → Ordering} {ops : List CrdtOpEnvelope}

/-- The materialized messages are those of the creating operations. -/
theorem mem_createdMessages {message : CrdtMaterializedMessage} :
    message ∈ createdMessages localeCompare ops ↔
      ∃ op, Creates localeCompare ops op ∧ materializeOp op = message := by
  unfold createdMessages Creates
  simp only [OrderedMap.mem_values_iff, OrderedMap.get_collectFirst, Option.map_eq_some_iff]
  constructor
  · rintro ⟨messageId, op, hfind, rfl⟩
    exact ⟨op, ⟨messageId, hfind⟩, rfl⟩
  · rintro ⟨op, ⟨messageId, hfind⟩, rfl⟩
    exact ⟨messageId, op, hfind, rfl⟩

theorem nodup_createdMessages : (createdMessages localeCompare ops).Nodup := by
  refine List.Nodup.of_map CrdtMaterializedMessage.messageId ?_
  unfold createdMessages
  have hread : ∀ op messageId, createKey op = some messageId →
      (materializeOp op).messageId = messageId := by
    intro op messageId hkey
    unfold createKey at hkey
    split at hkey
    · exact Option.some.inj hkey
    · cases hkey
  rw [OrderedMap.map_values_collectFirst hread]
  exact OrderedMap.nodup_keys _

theorem compareMessages_eq {orderedOps : List CrdtOpEnvelope}
    {left right : CrdtMaterializedMessage} {leftOp rightOp : CrdtOpEnvelope}
    (hleft : (orderedOps.find? fun op => decide (op.opId = left.opId)) = some leftOp)
    (hright : (orderedOps.find? fun op => decide (op.opId = right.opId)) = some rightOp) :
    compareMessages localeCompare orderedOps left right =
      compareCrdtOpOrder localeCompare leftOp rightOp := by
  unfold compareMessages
  rw [hleft, hright]

theorem Creates.mem {op : CrdtOpEnvelope} (hop : Creates localeCompare ops op) :
    op ∈ dedupeCrdtOps ops := by
  obtain ⟨messageId, hfind⟩ := hop
  exact mem_orderedOps.mp (List.mem_of_find?_eq_some hfind)

theorem find?_opId_eq_some {op : CrdtOpEnvelope} (hop : op ∈ dedupeCrdtOps ops) :
    ((analyzeCrdtOps localeCompare ops).orderedOps.find? fun other =>
      decide (other.opId = op.opId)) = some op := by
  cases hfind : (analyzeCrdtOps localeCompare ops).orderedOps.find? fun other =>
      decide (other.opId = op.opId) with
  | none =>
      exact absurd (decide_eq_true rfl)
        (List.find?_eq_none.mp hfind op (mem_orderedOps.mpr hop))
  | some other =>
      have hfound := List.find?_some hfind
      have hother := mem_orderedOps.mp (List.mem_of_find?_eq_some hfind)
      rw [eq_of_mem_dedupe_of_opId hother hop (of_decide_eq_true hfound)]

/-- The operation of a message, read back through its id. -/
def opOf (localeCompare : String → String → Ordering) (ops : List CrdtOpEnvelope)
    (message : CrdtMaterializedMessage) : CrdtOpEnvelope :=
  ((analyzeCrdtOps localeCompare ops).orderedOps.find? fun op =>
    decide (op.opId = message.opId)).getD default

theorem opOf_materializeOp {op : CrdtOpEnvelope} (hop : op ∈ dedupeCrdtOps ops) :
    opOf localeCompare ops (materializeOp op) = op := by
  change ((analyzeCrdtOps localeCompare ops).orderedOps.find? fun other =>
    decide (other.opId = op.opId)).getD default = op
  rw [find?_opId_eq_some hop, Option.getD_some]

theorem opOf_mem {message : CrdtMaterializedMessage}
    (hmessage : message ∈ createdMessages localeCompare ops) :
    Creates localeCompare ops (opOf localeCompare ops message) ∧
      materializeOp (opOf localeCompare ops message) = message := by
  obtain ⟨op, hop, rfl⟩ := mem_createdMessages.mp hmessage
  rw [opOf_materializeOp hop.mem]
  exact ⟨hop, rfl⟩

/-- The final sort compares the operations of the messages. -/
theorem materializeCrdtMessages_eq :
    materializeCrdtMessages localeCompare ops =
      sortBy (fun left right => compareCrdtOpOrder localeCompare (opOf localeCompare ops left)
        (opOf localeCompare ops right)) (createdMessages localeCompare ops) := by
  refine sortBy_congr fun left hleft right hright => ?_
  obtain ⟨leftOp, hleftOp, rfl⟩ := mem_createdMessages.mp hleft
  obtain ⟨rightOp, hrightOp, rfl⟩ := mem_createdMessages.mp hright
  rw [opOf_materializeOp hleftOp.mem, opOf_materializeOp hrightOp.mem]
  exact compareMessages_eq (find?_opId_eq_some hleftOp.mem) (find?_opId_eq_some hrightOp.mem)

section Materialized

variable [Std.TransCmp localeCompare] [Std.LawfulEqCmp localeCompare]

private instance transCmp_opOf : Std.TransCmp fun left right : CrdtMaterializedMessage =>
    compareCrdtOpOrder localeCompare (opOf localeCompare ops left)
      (opOf localeCompare ops right) :=
  transCmp_pullback (compareCrdtOpOrder localeCompare) (opOf localeCompare ops)

/-- Two materialized messages stand in the order of their operations. -/
theorem comesBefore_iff {left right : CrdtOpEnvelope} (hleft : Creates localeCompare ops left)
    (hright : Creates localeCompare ops right) :
    ComesBefore (materializeCrdtMessages localeCompare ops) (materializeOp left)
        (materializeOp right) ↔
      compareCrdtOpOrder localeCompare left right = .lt := by
  unfold ComesBefore
  rw [materializeCrdtMessages_eq, pair_sublist_sortBy_iff nodup_createdMessages ?_
    (mem_createdMessages.mpr ⟨left, hleft, rfl⟩) (mem_createdMessages.mpr ⟨right, hright, rfl⟩),
    opOf_materializeOp hleft.mem, opOf_materializeOp hright.mem]
  intro a ha b hb heq
  obtain ⟨haOp, haMessage⟩ := opOf_mem ha
  obtain ⟨hbOp, hbMessage⟩ := opOf_mem hb
  rw [← haMessage, ← hbMessage, eq_of_compare_eq haOp.mem hbOp.mem heq]

/-- **Causality in the materialized list**, for every log, acyclic or not:
ancestors come first exactly if every creating operation is less than the
creating operations it is an ancestor of. -/
theorem materialize_causal_iff :
    CausalFirst ops (materializeCrdtMessages localeCompare ops) ↔
      ∀ left right, Creates localeCompare ops left → Creates localeCompare ops right →
        Ancestor ops left right → compareCrdtOpOrder localeCompare left right = .lt := by
  constructor
  · intro hcausal left right hleft hright hancestor
    have hmem : ∀ {op}, Creates localeCompare ops op →
        materializeOp op ∈ materializeCrdtMessages localeCompare ops := fun hop =>
      mem_sortBy.mpr (mem_createdMessages.mpr ⟨_, hop, rfl⟩)
    exact (comesBefore_iff hleft hright).mp (hcausal _ (hmem hleft) _ (hmem hright) left
      hleft.mem right hright.mem rfl rfl hancestor)
  · intro hless left hleft right hright leftOp hleftOp rightOp hrightOp hleftId hrightId hancestor
    obtain ⟨leftCreate, hleftCreate, rfl⟩ := mem_createdMessages.mp (mem_sortBy.mp hleft)
    obtain ⟨rightCreate, hrightCreate, rfl⟩ := mem_createdMessages.mp (mem_sortBy.mp hright)
    obtain rfl := eq_of_mem_dedupe_of_opId hleftOp hleftCreate.mem hleftId
    obtain rfl := eq_of_mem_dedupe_of_opId hrightOp hrightCreate.mem hrightId
    exact (comesBefore_iff hleftCreate hrightCreate).mpr
      (hless leftOp rightOp hleftCreate hrightCreate hancestor)

end Materialized

/-- When parents are numbered below their children, so are ancestors. -/
theorem Ancestor.lt (hlt : ∀ parent op, KnownParent (dedupeCrdtOps ops) parent op →
    parent.authorSeq.count < op.authorSeq.count) {ancestor op : CrdtOpEnvelope}
    (hancestor : Ancestor ops ancestor op) : ancestor.authorSeq.count < op.authorSeq.count := by
  induction hancestor with
  | single hstep => exact hlt _ _ hstep
  | tail _ hstep ih => exact ih.trans (hlt _ _ hstep)

/-- A log whose parents are numbered below their children has no cycles. -/
theorem acyclic_of_lt (hlt : ∀ parent op, KnownParent (dedupeCrdtOps ops) parent op →
    parent.authorSeq.count < op.authorSeq.count) : Acyclic ops :=
  fun _ hancestor => lt_irrefl _ (hancestor.lt hlt)

/-- A message and its reply, with the clocks of the two devices. -/
def replyLog (clock replyClock : String) : List CrdtOpEnvelope :=
  [messageOp "a" "devA" 1 clock [], messageOp "b" "devB" 2 replyClock ["a"]]

theorem mem_dedupe_replyLog {clock replyClock : String} {op : CrdtOpEnvelope} :
    op ∈ dedupeCrdtOps (replyLog clock replyClock) ↔
      op = normalizeCrdtOp (messageOp "a" "devA" 1 clock []) ∨
        op = normalizeCrdtOp (messageOp "b" "devB" 2 replyClock ["a"]) := by
  have hids : IdsDetermine (replyLog clock replyClock) := idsDetermine_of_nodup (by
    change [normalizeCrdtId "a", normalizeCrdtId "b"].Nodup
    decide)
  rw [mem_dedupe_iff hids]
  simp only [replyLog, List.mem_cons, List.not_mem_nil, or_false, exists_eq_or_imp,
    exists_eq_left]
  constructor
  · rintro ⟨-, rfl | rfl⟩
    · exact Or.inl rfl
    · exact Or.inr rfl
  · rintro (rfl | rfl)
    · exact ⟨(by decide : normalizeCrdtId "a" ≠ ""), Or.inl rfl⟩
    · exact ⟨(by decide : normalizeCrdtId "b" ≠ ""), Or.inr rfl⟩

/-- In the reply log only the reply has a parent. -/
theorem knownParent_replyLog {clock replyClock : String} {parent op : CrdtOpEnvelope}
    (hknown : KnownParent (dedupeCrdtOps (replyLog clock replyClock)) parent op) :
    parent.authorSeq.count < op.authorSeq.count := by
  have hone : ¬ normalizeCrdtId "a" ∈ normalizeCrdtParents (normalizeCrdtParents []) := by decide
  have hreply : ¬ normalizeCrdtId "b" ∈ normalizeCrdtParents (normalizeCrdtParents ["a"]) := by
    decide
  have hlone : ¬ normalizeCrdtId "b" ∈ normalizeCrdtParents (normalizeCrdtParents []) := by decide
  obtain ⟨hparent, hop, hmem⟩ := hknown
  rcases mem_dedupe_replyLog.mp hparent with rfl | rfl <;>
    rcases mem_dedupe_replyLog.mp hop with rfl | rfl
  · exact absurd hmem hone
  · change (1 : ℕ∞) < 2
    decide
  · exact absurd hmem hlone
  · exact absurd hmem hreply

/-- A reply whose clock is ahead stays behind the message it answers. -/
theorem materialize_causal_of_later_clock :
    CausalFirst (replyLog "t1" "t2") (materializeCrdtMessages compare (replyLog "t1" "t2")) := by
  refine materialize_causal_iff.mpr fun left right hleft hright hancestor => ?_
  have hlt := hancestor.lt fun _ _ => knownParent_replyLog
  rcases mem_dedupe_replyLog.mp hleft.mem with rfl | rfl <;>
    rcases mem_dedupe_replyLog.mp hright.mem with rfl | rfl
  · exact absurd hlt (lt_irrefl _)
  · decide
  · exact absurd hlt (by decide)
  · exact absurd hlt (lt_irrefl _)

/-- A reply from a device whose clock is behind is materialized before the
message it answers. -/
theorem materialize_not_causal :
    ¬ ∀ ops, Acyclic ops → CausalFirst ops (materializeCrdtMessages compare ops) := by
  intro hall
  have hcausal := hall (replyLog "t2" "t1") (acyclic_of_lt fun _ _ => knownParent_replyLog)
  have hids : (materializeCrdtMessages compare (replyLog "t2" "t1")).map
      CrdtMaterializedMessage.opId = ["b", "a"] := by decide
  have hmessages : ∀ opId ∈ ["b", "a"],
      ∃ message ∈ materializeCrdtMessages compare (replyLog "t2" "t1"), message.opId = opId := by
    rw [← hids]
    exact fun opId hopId => List.mem_map.mp hopId
  obtain ⟨left, hleft, hleftId⟩ := hmessages "a" (by simp)
  obtain ⟨right, hright, hrightId⟩ := hmessages "b" (by simp)
  have hbefore := hcausal left hleft right hright
    (normalizeCrdtOp (messageOp "a" "devA" 1 "t2" [])) (mem_dedupe_replyLog.mpr (Or.inl rfl))
    (normalizeCrdtOp (messageOp "b" "devB" 2 "t1" ["a"])) (mem_dedupe_replyLog.mpr (Or.inr rfl))
    (by rw [hleftId]; decide) (by rw [hrightId]; decide)
    (.single ⟨mem_dedupe_replyLog.mpr (Or.inl rfl), mem_dedupe_replyLog.mpr (Or.inr rfl),
      by decide⟩)
  have hsub := hbefore.map CrdtMaterializedMessage.opId
  rw [List.map_cons, List.map_cons, List.map_nil, hleftId, hrightId, hids] at hsub
  exact absurd hsub (by decide)

end OpenClaw.Crdt
