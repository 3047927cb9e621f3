import OpenClaw.Crdt.Causality

/-!
# The frontier of a conversation

Two devices compare the summaries of a conversation: a version vector and the frontier, the
ids that no known operation names as a parent.  In a log without cycles every operation has
a descendant in the frontier, so two logs that lack no parent and have the same frontier
are the same log.
-/

namespace OpenClaw.Crdt

open OpenClaw.Runtime

variable {localeCompare : String → String → Ordering} {conversationId : String}
  {ops left right : List CrdtOpEnvelope}

/-- All the operations are of one conversation. -/
def OfConversation (conversationId : String) (ops : List CrdtOpEnvelope) : Prop :=
  ∀ op ∈ ops, normalizeCrdtId op.conversationId = normalizeCrdtId conversationId

/-- The log has no cycle, and no operation of it names a parent it lacks. -/
structure ClosedLog (localeCompare : String → String → Ordering) (ops : List CrdtOpEnvelope) :
    Prop where
  acyclic : Acyclic ops
  complete : (analyzeCrdtOps localeCompare ops).missingParentOpIds = []

/-! ## The summary -/

theorem dedupe_dedupe (ops : List CrdtOpEnvelope) : SameLog (dedupeCrdtOps ops) ops := by
  have hids : IdsDetermine (dedupeCrdtOps ops) := by
    intro a ha b hb hid
    have hsame : a.opId = b.opId := by
      rwa [(normal_of_mem_dedupe ha).opId, (normal_of_mem_dedupe hb).opId] at hid
    rw [eq_of_mem_dedupe_of_opId ha hb hsame]
  intro op
  rw [mem_dedupe_iff hids]
  constructor
  · rintro ⟨-, raw, hraw, rfl⟩
    rw [(normal_of_mem_dedupe hraw).1]
    exact hraw
  · intro hop
    exact ⟨(normal_of_mem_dedupe hop).2, op, hop, (normal_of_mem_dedupe hop).1⟩

theorem leafOpIds_congr (hlog : SameLog left right) {opId : String} :
    opId ∈ (analyzeCrdtOps localeCompare left).leafOpIds ↔
      opId ∈ (analyzeCrdtOps localeCompare right).leafOpIds := by
  rw [mem_leafOpIds, mem_leafOpIds]
  simp only [hlog _]

/-- The frontier of a summary is the set of the leaves. -/
theorem mem_frontier {summary : CrdtConversationSummary}
    (hconversation : OfConversation conversationId ops)
    (hsummary : summarizeCrdtConversation localeCompare conversationId ops = .ok summary)
    {opId : String} :
    opId ∈ summary.frontier ↔ opId ∈ (analyzeCrdtOps localeCompare ops).leafOpIds := by
  have hall : ((dedupeCrdtOps ops).filter fun op =>
      decide (normalizeCrdtId op.conversationId = normalizeCrdtId conversationId)) =
        dedupeCrdtOps ops := by
    apply List.filter_eq_self.mpr
    intro op hop
    obtain ⟨-, raw, hfind, rfl⟩ := mem_dedupe_iff_find?.mp hop
    apply decide_eq_true
    show normalizeCrdtId (normalizeCrdtId raw.conversationId) = _
    rw [normalizeCrdtId_idem]
    exact hconversation raw (List.mem_of_find?_eq_some hfind)
  unfold summarizeCrdtConversation createCrdtConversationSummary at hsummary
  rw [hall] at hsummary
  dsimp only at hsummary
  split at hsummary
  · cases hsummary
  · obtain rfl := Except.ok.inj hsummary
    rw [mem_normalizeCrdtParents, ← leafOpIds_congr (dedupe_dedupe ops)]
    have hleaf : ∀ leaf ∈ (analyzeCrdtOps localeCompare (dedupeCrdtOps ops)).leafOpIds,
        normalizeCrdtId leaf = leaf ∧ leaf ≠ "" := by
      intro leaf hmem
      obtain ⟨⟨op, hop, rfl⟩, -⟩ := mem_leafOpIds.mp hmem
      exact ⟨(normal_of_mem_dedupe hop).opId, (normal_of_mem_dedupe hop).2⟩
    constructor
    · rintro ⟨-, leaf, hmem, rfl⟩
      rwa [(hleaf leaf hmem).1]
    · intro hmem
      exact ⟨(hleaf opId hmem).2, opId, hmem, (hleaf opId hmem).1⟩

/-! ## Logs with the same frontier -/

/-- A log that lacks no parent has all the parents of its operations. -/
theorem exists_parent (hcomplete : (analyzeCrdtOps localeCompare ops).missingParentOpIds = [])
    {op : CrdtOpEnvelope} (hop : op ∈ dedupeCrdtOps ops) {opId : String}
    (hparent : opId ∈ normalizeCrdtParents op.parents) :
    ∃ parent ∈ dedupeCrdtOps ops, parent.opId = opId := by
  by_contra hmissing
  have hmem : opId ∈ missingParentSet (dedupeCrdtOps ops) :=
    mem_missingParentSet.mpr ⟨⟨op, hop, hparent⟩, hmissing⟩
  have hsorted : opId ∈ (analyzeCrdtOps localeCompare ops).missingParentOpIds :=
    StableSort.mem_sortBy.mpr hmem
  rw [hcomplete] at hsorted
  exact List.not_mem_nil hsorted

/-- Operations of the two logs with one id are one operation. -/
theorem eq_of_opId (hids : IdsDetermine (left ++ right)) {a b : CrdtOpEnvelope}
    (ha : a ∈ dedupeCrdtOps left) (hb : b ∈ dedupeCrdtOps right) (hid : a.opId = b.opId) :
    a = b := by
  obtain ⟨-, rawA, hfindA, rfl⟩ := mem_dedupe_iff_find?.mp ha
  obtain ⟨-, rawB, hfindB, rfl⟩ := mem_dedupe_iff_find?.mp hb
  exact hids rawA (List.mem_append_left _ (List.mem_of_find?_eq_some hfindA)) rawB
    (List.mem_append_right _ (List.mem_of_find?_eq_some hfindB)) hid

/-- A closed log whose leaves are in another closed log is part of it. -/
theorem dedupe_subset_of_leaves (hids : IdsDetermine (left ++ right))
    (hleft : ClosedLog localeCompare left) (hright : ClosedLog localeCompare right)
    (hleaves : ∀ opId ∈ (analyzeCrdtOps localeCompare left).leafOpIds,
      opId ∈ (analyzeCrdtOps localeCompare right).leafOpIds) :
    ∀ op ∈ dedupeCrdtOps left, op ∈ dedupeCrdtOps right := by
  intro op hop
  refine Frontier.subset_of_leaves (finite_log left)
    (fun parent child hparent => ⟨hparent.1, hparent.2.1⟩) hleft.acyclic ?_ ?_ hop
  · intro leaf hleaf
    have hmem : leaf.opId ∈ (analyzeCrdtOps localeCompare left).leafOpIds := by
      refine mem_leafOpIds.mpr ⟨⟨leaf, hleaf.1, rfl⟩, ?_⟩
      rintro ⟨child, hchild, hparent⟩
      exact hleaf.2 child ⟨hleaf.1, hchild, hparent⟩
    obtain ⟨other, hother, hid⟩ := (mem_leafOpIds.mp (hleaves _ hmem)).1
    rwa [eq_of_opId hids hleaf.1 hother hid.symm]
  · intro parent child hparent hchild
    obtain ⟨other, hother, hid⟩ := exists_parent hright.complete hchild hparent.2.2
    rwa [eq_of_opId hids hparent.1 hother hid.symm]

/-- **The frontier identifies a closed log.** -/
theorem same_log_of_frontier {leftSummary rightSummary : CrdtConversationSummary}
    (hids : IdsDetermine (left ++ right)) (hleft : ClosedLog localeCompare left)
    (hright : ClosedLog localeCompare right)
    (hleftConversation : OfConversation conversationId left)
    (hrightConversation : OfConversation conversationId right)
    (hleftSummary : summarizeCrdtConversation localeCompare conversationId left =
      .ok leftSummary)
    (hrightSummary : summarizeCrdtConversation localeCompare conversationId right =
      .ok rightSummary)
    (hfrontier : ∀ opId, opId ∈ leftSummary.frontier ↔ opId ∈ rightSummary.frontier) :
    SameLog left right := by
  have hleaves : ∀ opId, opId ∈ (analyzeCrdtOps localeCompare left).leafOpIds ↔
      opId ∈ (analyzeCrdtOps localeCompare right).leafOpIds := by
    intro opId
    rw [← mem_frontier hleftConversation hleftSummary,
      ← mem_frontier hrightConversation hrightSummary]
    exact hfrontier opId
  have hswap : IdsDetermine (right ++ left) := fun a ha b hb =>
    hids a (List.mem_append.mpr (List.mem_append.mp ha).symm) b
      (List.mem_append.mpr (List.mem_append.mp hb).symm)
  intro op
  constructor
  · exact dedupe_subset_of_leaves hids hleft hright (fun opId => (hleaves opId).mp) op
  · exact dedupe_subset_of_leaves hswap hright hleft (fun opId => (hleaves opId).mpr) op

/-! ### A log read backwards, and an operation without an id -/

theorem acyclic_congr (hlog : SameLog left right) (hacyclic : Acyclic left) : Acyclic right := by
  have hparent : KnownParent (dedupeCrdtOps right) = KnownParent (dedupeCrdtOps left) := by
    funext parent op
    rw [KnownParent, KnownParent, hlog parent, hlog op]
  intro op
  rw [Ancestor, hparent]
  exact hacyclic op

/-- A message and its reply, and the same log read backwards. -/
theorem same_log_of_frontier_reversed :
    SameLog (replyLog "t1" "t2") (replyLog "t1" "t2").reverse := by
  have hids : IdsDetermine (replyLog "t1" "t2" ++ (replyLog "t1" "t2").reverse) := by
    intro a ha b hb
    rw [List.mem_append, List.mem_reverse, or_self] at ha hb
    have hone : IdsDetermine (replyLog "t1" "t2") := idsDetermine_of_nodup (by decide)
    exact hone a ha b hb
  have hlog : SameLog (replyLog "t1" "t2") (replyLog "t1" "t2").reverse := fun op =>
    mem_dedupe_congr (fun a ha b hb => hids a (List.mem_append_left _ ha) b
      (List.mem_append_left _ hb)) (fun _ => List.mem_reverse.symm) op
  have hacyclic : Acyclic (replyLog "t1" "t2") :=
    acyclic_of_lt fun _ _ => knownParent_replyLog
  have hconversation : OfConversation "conv" (replyLog "t1" "t2") := by
    unfold OfConversation replyLog
    decide
  refine @same_log_of_frontier compare "conv" _ _ ⟨"conv", _, ["b"]⟩ ⟨"conv", _, ["b"]⟩ hids
    ⟨hacyclic, by decide⟩ ⟨acyclic_congr hlog hacyclic, by decide⟩ hconversation
    (fun op hop => hconversation op (List.mem_reverse.mp hop)) rfl rfl fun _ => Iff.rfl

/-- A log of one message. -/
def firstLog : List CrdtOpEnvelope := [messageOp "a" "dev" 1 "t1" []]

/-- The same with an operation that has no id. -/
def anonymousLog : List CrdtOpEnvelope := firstLog ++ [messageOp "" "dev" 2 "t2" []]

theorem acyclic_of_no_parents
    (hnone : ∀ op ∈ dedupeCrdtOps ops, normalizeCrdtParents op.parents = []) : Acyclic ops := by
  apply acyclic_of_lt
  rintro parent op ⟨-, hop, hparent⟩
  rw [hnone op hop] at hparent
  cases hparent

/-- An operation without an id changes no summary, so the frontier does not tell whether
a log has it. -/
theorem frontier_without_id :
    IdsDetermine (firstLog ++ anonymousLog) ∧
      ClosedLog compare firstLog ∧ ClosedLog compare anonymousLog ∧
      (summarizeCrdtConversation compare "conv" firstLog).map
        CrdtConversationSummary.frontier = .ok ["a"] ∧
      (summarizeCrdtConversation compare "conv" anonymousLog).map
        CrdtConversationSummary.frontier = .ok ["a"] ∧
      ∃ op ∈ anonymousLog, ∀ other ∈ firstLog, other.opId ≠ op.opId := by
  have hids : IdsDetermine (firstLog ++ anonymousLog) := by
    intro a ha b hb hid
    simp only [firstLog, anonymousLog, List.mem_append, List.mem_singleton] at ha hb
    rcases ha with rfl | rfl | rfl <;> rcases hb with rfl | rfl | rfl
    · rfl
    · rfl
    · exact absurd hid (by decide)
    · rfl
    · rfl
    · exact absurd hid (by decide)
    · exact absurd hid (by decide)
    · exact absurd hid (by decide)
    · rfl
  refine ⟨hids, ⟨acyclic_of_no_parents (by decide), by decide⟩,
    ⟨acyclic_of_no_parents (by decide), by decide⟩, rfl, rfl, ?_⟩
  exact ⟨_, List.mem_append_right _ (List.mem_singleton_self _), by decide⟩

end OpenClaw.Crdt
