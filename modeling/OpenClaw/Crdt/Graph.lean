import OpenClaw.Lib.Kahn
import OpenClaw.Crdt.VersionVector

/-!
# The causal graph of a conversation

`analyzeCrdtOps` orders the deduplicated operations by Kahn's algorithm over
their known parents, appends what is on or below a cycle, and reads leaves,
missing parents, version vectors and children off the same log.  The worklist
itself is `Kahn.Graph.kahn`; `crdtGraph` is the graph the source builds for it.

`selectCrdtOpsForSync` and `summarizeCrdtConversation` are the two functions of
the anti-entropy exchange built on the analysis.
-/

namespace OpenClaw.Crdt

open OpenClaw.Runtime StableSort

structure CrdtGraphAnalysis where
  ops : List CrdtOpEnvelope
  orderedOps : List CrdtOpEnvelope
  leafOpIds : List String
  missingParentOpIds : List String
  versionVector : CrdtVersionVector
  observedVersionVector : CrdtVersionVector
  childrenByOpId : PlainObject (List String)

structure CrdtConversationSummary where
  conversationId : String
  versionVector : CrdtVersionVector
  frontier : List String

section Definitions

/-- `knownOpIds.has(opId)`. -/
def isKnown (ops : List CrdtOpEnvelope) (opId : String) : Bool :=
  opId ∈ ops.map CrdtOpEnvelope.opId

def knownParents (ops : List CrdtOpEnvelope) (op : CrdtOpEnvelope) : List String :=
  (normalizeCrdtParents op.parents).filter (isKnown ops)

/-- The parents nobody has, in the order they are met. -/
def missingParentSet (ops : List CrdtOpEnvelope) : List String :=
  OrderedSet.ofList (ops.flatMap fun op =>
    (normalizeCrdtParents op.parents).filter fun parentOpId => !isKnown ops parentOpId)

/-- The operations that are a parent of another one. -/
def referenced (ops : List CrdtOpEnvelope) : List String :=
  OrderedSet.ofList (ops.flatMap (knownParents ops))

variable (localeCompare : String → String → Ordering)

def crdtGraph (ops : List CrdtOpEnvelope) : Kahn.Graph CrdtOpEnvelope String where
  nodes := ops
  key := CrdtOpEnvelope.opId
  parents := knownParents ops
  cmp := compareCrdtOpOrder localeCompare

/-- The operations the worklist leaves over. -/
def remaining (ops : List CrdtOpEnvelope) : List CrdtOpEnvelope :=
  let seen := (crdtGraph localeCompare ops).kahn.map CrdtOpEnvelope.opId
  sortBy (compareCrdtOpOrder localeCompare) (ops.filter fun op => decide (op.opId ∉ seen))

def orderOps (ops : List CrdtOpEnvelope) : List CrdtOpEnvelope :=
  (crdtGraph localeCompare ops).kahn ++ remaining localeCompare ops

def serializedChildren (ops : List CrdtOpEnvelope) : PlainObject (List String) :=
  .fromEntries
    (sortBy (fun left right => localeCompare left.1 right.1)
      ((crdtGraph localeCompare ops).children.entries.map fun entry =>
        (entry.1, sortStrings entry.2)))

def analyzeCrdtOps (ops : List CrdtOpEnvelope) : CrdtGraphAnalysis :=
  let dedupedOps := dedupeCrdtOps ops
  let orderedOps := orderOps localeCompare dedupedOps
  { ops := dedupedOps
    orderedOps
    leafOpIds :=
      (orderedOps.map CrdtOpEnvelope.opId).filter fun opId => decide (opId ∉ referenced dedupedOps)
    missingParentOpIds := sortStrings (missingParentSet dedupedOps)
    versionVector := buildContiguousVersionVector dedupedOps
    observedVersionVector := buildObservedVersionVector dedupedOps
    childrenByOpId := serializedChildren localeCompare dedupedOps }

def createCrdtConversationSummary (conversationId : String) (versionVector : CrdtVersionVector)
    (frontier : List String) : Except String CrdtConversationSummary :=
  if normalizeCrdtId conversationId = "" then .error "conversationId is required"
  else
    .ok
      { conversationId := normalizeCrdtId conversationId
        versionVector := normalizeCrdtVersionVector versionVector
        frontier := normalizeCrdtParents frontier }

def summarizeCrdtConversation (conversationId : String) (ops : List CrdtOpEnvelope) :
    Except String CrdtConversationSummary :=
  let analysis := analyzeCrdtOps localeCompare
    ((dedupeCrdtOps ops).filter fun op =>
      decide (normalizeCrdtId op.conversationId = normalizeCrdtId conversationId))
  createCrdtConversationSummary conversationId analysis.versionVector analysis.leafOpIds

/-- `authorSeq > (normalizedWantFrom[authorDeviceId] || 0)`. -/
def wanted (normalizedWantFrom : CrdtVersionVector) (op : CrdtOpEnvelope) : Bool :=
  JsNumber.lt (PlainObject.numberOrZero normalizedWantFrom (normalizeCrdtId op.authorDeviceId))
    (.ofCount op.authorSeq.count)

/-- `Math.max(1, Math.trunc(Number(limit)))` as the end of a `slice`, for which
`NaN` is zero. -/
def batchEnd : JsNumber → ℕ∞
  | .nan => 0
  | limit => 1 ⊔ limit.count

/-- `list.slice(0, end)`. -/
def sliceTo {α : Type} (list : List α) : ℕ∞ → List α
  | some n => list.take n
  | none => list

def selectCrdtOpsForSync (ops : List CrdtOpEnvelope) (wantFrom : CrdtVersionVector)
    (limit : Option JsNumber) : List CrdtOpEnvelope :=
  let analysis := analyzeCrdtOps localeCompare ops
  let filtered := analysis.orderedOps.filter (wanted (normalizeCrdtVersionVector wantFrom))
  match limit with
  | none => filtered
  | some limit => sliceTo filtered (batchEnd limit)

end Definitions

/-! ## The graph -/

variable {localeCompare : String → String → Ordering} {ops : List CrdtOpEnvelope}

/-- `parent` is a known parent of `op`. -/
def KnownParent (ops : List CrdtOpEnvelope) (parent op : CrdtOpEnvelope) : Prop :=
  parent ∈ ops ∧ op ∈ ops ∧ parent.opId ∈ normalizeCrdtParents op.parents

theorem isKnown_iff {opId : String} : isKnown ops opId = true ↔ ∃ op ∈ ops, op.opId = opId := by
  simp [isKnown]

theorem mem_knownParents {op : CrdtOpEnvelope} {opId : String} :
    opId ∈ knownParents ops op ↔
      opId ∈ normalizeCrdtParents op.parents ∧ ∃ parent ∈ ops, parent.opId = opId := by
  rw [knownParents, List.mem_filter, isKnown_iff]

theorem mem_referenced {opId : String} :
    opId ∈ referenced ops ↔ ∃ op ∈ ops, ∃ parent ∈ ops,
      parent.opId = opId ∧ opId ∈ normalizeCrdtParents op.parents := by
  simp only [referenced, OrderedSet.mem_ofList, List.mem_flatMap, mem_knownParents]
  constructor
  · rintro ⟨op, hop, hparent, parent, hknown, heq⟩
    exact ⟨op, hop, parent, hknown, heq, hparent⟩
  · rintro ⟨op, hop, parent, hknown, heq, hparent⟩
    exact ⟨op, hop, hparent, parent, hknown, heq⟩

theorem mem_missingParentSet {opId : String} :
    opId ∈ missingParentSet ops ↔
      (∃ op ∈ ops, opId ∈ normalizeCrdtParents op.parents) ∧ ¬ ∃ op ∈ ops, op.opId = opId := by
  simp only [missingParentSet, OrderedSet.mem_ofList, List.mem_flatMap, List.mem_filter,
    Bool.not_eq_true', ← Bool.not_eq_true, isKnown_iff]
  constructor
  · rintro ⟨op, hop, hparent, hmissing⟩
    exact ⟨⟨op, hop, hparent⟩, hmissing⟩
  · rintro ⟨⟨op, hop, hparent⟩, hmissing⟩
    exact ⟨op, hop, hparent, hmissing⟩

theorem wellFormed_crdtGraph (localeCompare : String → String → Ordering)
    (ops : List CrdtOpEnvelope) :
    (crdtGraph localeCompare (dedupeCrdtOps ops)).WellFormed where
  nodup_keys := nodup_opIds_dedupe ops
  nodup_parents _ _ := (nodup_normalizeCrdtParents _).filter _
  parent_known _ _ p hp := by
    obtain ⟨-, parent, hparent, rfl⟩ := mem_knownParents.mp hp
    exact List.mem_map.mpr ⟨parent, hparent, rfl⟩

theorem parent_crdtGraph_iff {parent op : CrdtOpEnvelope} :
    (crdtGraph localeCompare ops).Parent parent op ↔ KnownParent ops parent op := by
  unfold Kahn.Graph.Parent KnownParent crdtGraph
  dsimp only
  rw [mem_knownParents]
  constructor
  · rintro ⟨hparent, hop, hmem, -⟩
    exact ⟨hparent, hop, hmem⟩
  · rintro ⟨hparent, hop, hmem⟩
    exact ⟨hparent, hop, hmem, parent, hparent, rfl⟩

theorem eq_of_compare_eq [Std.LawfulEqCmp localeCompare] {a b : CrdtOpEnvelope}
    (ha : a ∈ dedupeCrdtOps ops) (hb : b ∈ dedupeCrdtOps ops)
    (heq : compareCrdtOpOrder localeCompare a b = .eq) : a = b :=
  eq_of_mem_dedupe_of_opId ha hb (opId_eq_of_compare_eq heq)

/-- The analysis orders the whole deduplicated log. -/
theorem mem_orderedOps {op : CrdtOpEnvelope} :
    op ∈ (analyzeCrdtOps localeCompare ops).orderedOps ↔ op ∈ dedupeCrdtOps ops := by
  have hsub : ∀ other ∈ (crdtGraph localeCompare (dedupeCrdtOps ops)).kahn,
      other ∈ dedupeCrdtOps ops := fun _ hother => Kahn.node_of_mem_kahn hother
  simp only [analyzeCrdtOps, orderOps, remaining, List.mem_append, mem_sortBy, List.mem_filter,
    decide_eq_true_eq]
  constructor
  · rintro (hseen | ⟨hop, -⟩)
    · exact hsub op hseen
    · exact hop
  · intro hop
    by_cases hseen : op.opId ∈
        (crdtGraph localeCompare (dedupeCrdtOps ops)).kahn.map CrdtOpEnvelope.opId
    · obtain ⟨other, hother, heq⟩ := List.mem_map.mp hseen
      exact Or.inl (eq_of_mem_dedupe_of_opId (hsub other hother) hop heq ▸ hother)
    · exact Or.inr ⟨hop, hseen⟩

section Order

variable [Std.TransCmp localeCompare] [Std.LawfulEqCmp localeCompare]

instance : Std.TransCmp (crdtGraph localeCompare ops).cmp :=
  inferInstanceAs (Std.TransCmp (compareCrdtOpOrder localeCompare))

end Order

end OpenClaw.Crdt
