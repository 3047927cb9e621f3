import OpenClaw.Crdt.Convergence
import OpenClaw.Crdt.Materialize
import OpenClaw.Lib.CausalOrder
import OpenClaw.Lib.Frontier

/-!
# The causal order of the operations

`analyzeCrdtOps` emits operations whose known parents are all emitted, the least one by
`compareCrdtOpOrder` first, until none is left; what is on or below a cycle of parents
comes after that in order.  `CausallyOrdered` says so without the worklist.
-/

namespace OpenClaw.Crdt

open StableSort

/-- Known parents lead from the operation, or from one of its ancestors, back to itself. -/
def BelowCycle (ops : List CrdtOpEnvelope) : CrdtOpEnvelope → Prop :=
  Frontier.BelowCycle (KnownParent (dedupeCrdtOps ops))

/-- The operation is in the log and all its known parents are among `emitted`, but not the
operation itself. -/
def CanFollow (ops emitted : List CrdtOpEnvelope) (op : CrdtOpEnvelope) : Prop :=
  op ∈ dedupeCrdtOps ops ∧ op ∉ emitted ∧
    ∀ parent, KnownParent (dedupeCrdtOps ops) parent op → parent ∈ emitted

/-- What an analysis says about the order of its log. -/
structure CausallyOrdered (localeCompare : String → String → Ordering)
    (ops : List CrdtOpEnvelope) (analysis : CrdtGraphAnalysis) : Prop where
  /-- The rounds of the worklist come to an end. -/
  terminates : ∃ emitted rest, analysis.orderedOps = emitted ++ rest ∧
    (crdtGraph localeCompare (dedupeCrdtOps ops)).Halts
      (crdtGraph localeCompare (dedupeCrdtOps ops)).initialReady
      (crdtGraph localeCompare (dedupeCrdtOps ops)).inDegree [] emitted
  opIds_nodup : (analysis.orderedOps.map CrdtOpEnvelope.opId).Nodup
  mem_opIds : ∀ opId, opId ∈ analysis.orderedOps.map CrdtOpEnvelope.opId ↔
    opId ≠ "" ∧ ∃ raw ∈ ops, normalizeCrdtId raw.opId = opId
  /-- Off the cycles an operation follows its parents and is the least that can. -/
  least : ∀ before op after, analysis.orderedOps = before ++ op :: after → ¬BelowCycle ops op →
    CanFollow ops before op ∧ ∀ other, CanFollow ops before other → other ≠ op →
      compareCrdtOpOrder localeCompare op other = .lt
  /-- What is on or below a cycle comes last, in order. -/
  cyclic_last : ∃ free cyclic, analysis.orderedOps = free ++ cyclic ∧
    (∀ op ∈ free, ¬BelowCycle ops op) ∧ (∀ op ∈ cyclic, BelowCycle ops op) ∧
      cyclic.Pairwise fun left right => compareCrdtOpOrder localeCompare left right = .lt
  mem_leafOpIds : ∀ opId, opId ∈ analysis.leafOpIds ↔
    (∃ op ∈ dedupeCrdtOps ops, op.opId = opId) ∧
      ¬∃ op ∈ dedupeCrdtOps ops, opId ∈ normalizeCrdtParents op.parents

variable {localeCompare : String → String → Ordering} {ops : List CrdtOpEnvelope}

theorem mem_opIds_dedupe {opId : String} :
    (∃ op ∈ dedupeCrdtOps ops, op.opId = opId) ↔
      opId ≠ "" ∧ ∃ raw ∈ ops, normalizeCrdtId raw.opId = opId := by
  constructor
  · rintro ⟨op, hop, rfl⟩
    obtain ⟨hopId, raw, hfind, rfl⟩ := mem_dedupe_iff_find?.mp hop
    exact ⟨hopId, raw, List.mem_of_find?_eq_some hfind, rfl⟩
  · rintro ⟨hne, raw, hraw, hid⟩
    have hsome : (ops.find? fun other => decide (dedupeKey other = some opId)).isSome = true :=
      List.find?_isSome.mpr ⟨raw, hraw, decide_eq_true (dedupeKey_eq_some_iff.mpr ⟨hne, hid⟩)⟩
    obtain ⟨first, hfind⟩ := Option.isSome_iff_exists.mp hsome
    have hkey := List.find?_some hfind
    have hfirst := (dedupeKey_eq_some_iff.mp (of_decide_eq_true hkey)).2
    refine ⟨normalizeCrdtOp first, mem_dedupe_iff_find?.mpr ⟨?_, first, ?_, rfl⟩, hfirst⟩
    · rw [normalizeCrdtOp_opId, hfirst]
      exact hne
    · rw [normalizeCrdtOp_opId, hfirst]
      exact hfind

theorem mem_leafOpIds {opId : String} :
    opId ∈ (analyzeCrdtOps localeCompare ops).leafOpIds ↔
      (∃ op ∈ dedupeCrdtOps ops, op.opId = opId) ∧
        ¬∃ op ∈ dedupeCrdtOps ops, opId ∈ normalizeCrdtParents op.parents := by
  show opId ∈ ((analyzeCrdtOps localeCompare ops).orderedOps.map CrdtOpEnvelope.opId).filter
    (fun opId => decide (opId ∉ referenced (dedupeCrdtOps ops))) ↔ _
  rw [List.mem_filter, decide_eq_true_eq, mem_referenced, List.mem_map]
  simp only [mem_orderedOps]
  refine and_congr_right fun hknown => not_congr ?_
  constructor
  · rintro ⟨op, hop, -, -, -, hparent⟩
    exact ⟨op, hop, hparent⟩
  · rintro ⟨op, hop, hparent⟩
    obtain ⟨known, hmem, hid⟩ := hknown
    exact ⟨op, hop, known, hmem, hid, hparent⟩

theorem finite_log (ops : List CrdtOpEnvelope) : {op | op ∈ dedupeCrdtOps ops}.Finite :=
  List.finite_toSet _

theorem acc_knownParent_iff {op : CrdtOpEnvelope} :
    Acc (KnownParent (dedupeCrdtOps ops)) op ↔ ¬BelowCycle ops op :=
  Frontier.acc_iff_not_belowCycle (finite_log ops) fun _ _ hparent => hparent.1

section Order

variable [Std.LawfulEqCmp localeCompare]

/-- Of two operations of the log one is less. -/
theorem compare_eq_lt {left right : CrdtOpEnvelope} (hleft : left ∈ dedupeCrdtOps ops)
    (hright : right ∈ dedupeCrdtOps ops) (hne : right ≠ left)
    (hbelow : Below (compareCrdtOpOrder localeCompare) left right) :
    compareCrdtOpOrder localeCompare left right = .lt := by
  cases hcompare : compareCrdtOpOrder localeCompare left right with
  | lt => rfl
  | eq => exact absurd (eq_of_compare_eq hleft hright hcompare).symm hne
  | gt =>
      rw [Below, hcompare] at hbelow
      cases hbelow

variable [Std.TransCmp localeCompare]

theorem causalOrder_orderedOps (ops : List CrdtOpEnvelope) :
    Kahn.CausalOrder (· ∈ dedupeCrdtOps ops) (KnownParent (dedupeCrdtOps ops))
      (compareCrdtOpOrder localeCompare) (analyzeCrdtOps localeCompare ops).orderedOps :=
  (Kahn.causalOrder_ordered (wellFormed_crdtGraph localeCompare ops)).congr
    (fun _ => Iff.rfl) fun _ _ => parent_crdtGraph_iff

/-- **Every log is put into causal order.** -/
theorem analyzeCrdtOps_ordered (ops : List CrdtOpEnvelope) :
    CausallyOrdered localeCompare ops (analyzeCrdtOps localeCompare ops) := by
  have hcausal := @causalOrder_orderedOps localeCompare _ _ ops
  have hnode : ∀ parent op, KnownParent (dedupeCrdtOps ops) parent op →
      parent ∈ dedupeCrdtOps ops := fun _ _ hparent => hparent.1
  constructor
  case terminates =>
    exact ⟨_, _, rfl, Kahn.halts_kahn (wellFormed_crdtGraph localeCompare ops)⟩
  case opIds_nodup =>
    refine hcausal.nodup.map_on fun left hleft right hright heq => ?_
    exact eq_of_mem_dedupe_of_opId (mem_orderedOps.mp hleft) (mem_orderedOps.mp hright) heq
  case mem_opIds =>
    intro opId
    rw [← mem_opIds_dedupe, List.mem_map]
    simp only [mem_orderedOps]
  case least =>
    intro before op after hsplit hfree
    obtain ⟨havailable, hleast⟩ :=
      hcausal.step_at hnode hsplit (acc_knownParent_iff.mpr hfree)
    refine ⟨havailable, fun other hother hne => ?_⟩
    exact compare_eq_lt havailable.1 hother.1 hne (hleast other hother)
  case cyclic_last =>
    obtain ⟨free, cyclic, hsplit, hemission, hfree, hcyclic, hsorted⟩ := hcausal.split_acc hnode
    refine ⟨free, cyclic, hsplit, fun op hop => acc_knownParent_iff.mp (hfree op hop), ?_, ?_⟩
    · intro op hop
      exact not_not.mp fun hnot => hcyclic op hop (acc_knownParent_iff.mpr hnot)
    · have hlog : ∀ op ∈ cyclic, op ∈ dedupeCrdtOps ops := fun op hop =>
        mem_orderedOps.mp (hsplit ▸ List.mem_append_right _ hop)
      have hnodup : cyclic.Nodup := by
        have hall := hcausal.nodup
        rw [hsplit] at hall
        exact hall.of_append_right
      refine (hsorted.and hnodup).imp_of_mem fun {left right} hleft hright hboth => ?_
      exact compare_eq_lt (hlog left hleft) (hlog right hright) (Ne.symm hboth.2) hboth.1
  case mem_leafOpIds => exact fun _ => mem_leafOpIds

end Order

/-- A reply, the message it answers, and an operation that is its own parent. -/
theorem analyzeCrdtOps_ordered_reply :
    CausallyOrdered compare
      [messageOp "reply" "devA" 2 "t1" ["first"], messageOp "loop" "devB" 1 "t0" ["loop"],
        messageOp "first" "devB" 2 "t2" []]
      (analyzeCrdtOps compare
        [messageOp "reply" "devA" 2 "t1" ["first"], messageOp "loop" "devB" 1 "t0" ["loop"],
          messageOp "first" "devB" 2 "t2" []]) :=
  analyzeCrdtOps_ordered _

end OpenClaw.Crdt
