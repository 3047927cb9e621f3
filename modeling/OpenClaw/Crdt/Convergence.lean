import OpenClaw.Crdt.Graph

/-!
# Convergence of the analysis

Two replicas that hold the same operations, in whatever order and however often,
should read the same state off them.  Everything the analysis returns does
converge, cycles and missing parents included, with one exception: the observed
version vector of an author named like a member of `Object.prototype` depends on
which of the author's operations comes first, because that one is read back as
`NaN` (`VersionVector.get_observed`).

`analyzeCrdtOps_converges_iff` is the exact statement.  The ordering is
`Kahn.kahn_congr`: both worklists are complete emissions of the same graph.
-/

namespace OpenClaw.Crdt

open OpenClaw.Runtime StableSort

/-- The two analyses agree, maps being compared as maps. -/
structure SameAnalysis (left right : CrdtGraphAnalysis) : Prop where
  orderedOps : left.orderedOps = right.orderedOps
  leafOpIds : left.leafOpIds = right.leafOpIds
  missingParentOpIds : left.missingParentOpIds = right.missingParentOpIds
  versionVector : left.versionVector.Same right.versionVector
  observedVersionVector : left.observedVersionVector.Same right.observedVersionVector
  childrenByOpId : left.childrenByOpId.Same right.childrenByOpId

variable {localeCompare : String → String → Ordering} {left right : List CrdtOpEnvelope}

section Ordering

variable [Std.TransCmp localeCompare] [Std.LawfulEqCmp localeCompare]

/-- The deduplicated logs hold the same operations. -/
def SameLog (left right : List CrdtOpEnvelope) : Prop :=
  ∀ op, op ∈ dedupeCrdtOps left ↔ op ∈ dedupeCrdtOps right

theorem kahn_eq_of_sameLog (hlog : SameLog left right) :
    (crdtGraph localeCompare (dedupeCrdtOps left)).kahn =
      (crdtGraph localeCompare (dedupeCrdtOps right)).kahn := by
  refine Kahn.kahn_congr (wellFormed_crdtGraph localeCompare left)
    (wellFormed_crdtGraph localeCompare right) rfl hlog ?_
    fun a ha b hb => eq_of_compare_eq ha hb
  intro parent op
  rw [parent_crdtGraph_iff, parent_crdtGraph_iff, KnownParent, KnownParent, hlog parent, hlog op]

theorem orderedOps_eq_of_sameLog (hlog : SameLog left right) :
    (analyzeCrdtOps localeCompare left).orderedOps =
      (analyzeCrdtOps localeCompare right).orderedOps := by
  unfold analyzeCrdtOps orderOps remaining
  dsimp only
  rw [kahn_eq_of_sameLog hlog]
  congr 1
  refine sortBy_eq_of_mem_iff (fun a ha b hb => ?_) ((nodup_dedupe left).filter _)
    ((nodup_dedupe right).filter _) fun op => ?_
  · exact eq_of_compare_eq (List.mem_filter.mp ha).1 (List.mem_filter.mp hb).1
  · rw [List.mem_filter, List.mem_filter, hlog op]

theorem leafOpIds_eq_of_sameLog (hlog : SameLog left right) :
    (analyzeCrdtOps localeCompare left).leafOpIds =
      (analyzeCrdtOps localeCompare right).leafOpIds := by
  have hreferenced : ∀ opId, opId ∈ referenced (dedupeCrdtOps left) ↔
      opId ∈ referenced (dedupeCrdtOps right) := by
    intro opId
    simp only [mem_referenced, hlog _]
  have hordered : (analyzeCrdtOps localeCompare left).orderedOps =
      (analyzeCrdtOps localeCompare right).orderedOps := orderedOps_eq_of_sameLog hlog
  change ((analyzeCrdtOps localeCompare left).orderedOps.map _).filter _ =
    ((analyzeCrdtOps localeCompare right).orderedOps.map _).filter _
  rw [hordered]
  refine List.filter_congr fun opId _ => ?_
  rw [decide_eq_decide, hreferenced]

end Ordering

theorem missingParentOpIds_eq_of_sameLog (hlog : SameLog left right) :
    (analyzeCrdtOps localeCompare left).missingParentOpIds =
      (analyzeCrdtOps localeCompare right).missingParentOpIds := by
  refine sortStrings_eq_of_mem_iff (OrderedSet.nodup_ofList _) (OrderedSet.nodup_ofList _) ?_
  intro opId
  simp only [mem_missingParentSet, hlog _]

theorem versionVector_same_of_sameLog (hlog : SameLog left right) :
    (analyzeCrdtOps localeCompare left).versionVector.Same
      (analyzeCrdtOps localeCompare right).versionVector := by
  intro author
  change (buildContiguousVersionVector _).get author = (buildContiguousVersionVector _).get author
  rw [get_contiguous, get_contiguous]
  have hcounts : (∃ op ∈ dedupeCrdtOps left, CountsFor author op) ↔
      ∃ op ∈ dedupeCrdtOps right, CountsFor author op := by
    simp only [hlog _]
  simp only [hcounts]
  split
  · next hentry => rw [cursor_congr hentry.1 hlog]
  · rfl

/-! ## The map of children -/

theorem get_serializedChildren {ops : List CrdtOpEnvelope} {opId : String} :
    (serializedChildren localeCompare ops).get opId =
      ((crdtGraph localeCompare ops).children.get opId).map sortStrings := by
  set entries := (crdtGraph localeCompare ops).children.entries.map fun entry =>
    (entry.1, sortStrings entry.2) with hentries
  have hkeys : (entries.map Prod.fst).Nodup := by
    rw [hentries, List.map_map]
    exact (crdtGraph localeCompare ops).children.nodup_keys
  have hperm : (sortBy (fun left right => localeCompare left.1 right.1) entries).Perm entries :=
    sortBy_perm entries
  ext children
  unfold serializedChildren PlainObject.fromEntries
  rw [OrderedMap.get_ofList ((hperm.map Prod.fst).nodup_iff.mpr hkeys), hperm.mem_iff, hentries]
  simp only [List.mem_map, Prod.mk.injEq, Option.map_eq_some_iff, OrderedMap.get_eq_some_iff]
  constructor
  · rintro ⟨⟨key, value⟩, hmem, rfl, rfl⟩
    exact ⟨value, hmem, rfl⟩
  · rintro ⟨value, hmem, rfl⟩
    exact ⟨(opId, value), hmem, rfl, rfl⟩

theorem get_children_eq_none_iff {ops : List CrdtOpEnvelope} {opId : String} :
    (crdtGraph localeCompare ops).children.get opId = none ↔
      ((crdtGraph localeCompare ops).children.get opId).getD [] = [] := by
  cases hget : (crdtGraph localeCompare ops).children.get opId with
  | none => simp
  | some children => simpa using (Kahn.properChildren_children opId children hget).2

theorem childrenByOpId_same_of_sameLog (hlog : SameLog left right) :
    (analyzeCrdtOps localeCompare left).childrenByOpId.Same
      (analyzeCrdtOps localeCompare right).childrenByOpId := by
  intro opId
  change (serializedChildren _ _).get opId = (serializedChildren _ _).get opId
  rw [get_serializedChildren, get_serializedChildren]
  set fromLeft := (crdtGraph localeCompare (dedupeCrdtOps left)).children.get opId with hleft
  set fromRight := (crdtGraph localeCompare (dedupeCrdtOps right)).children.get opId with hright
  have hmem : ∀ child, child ∈ fromLeft.getD [] ↔ child ∈ fromRight.getD [] := by
    intro child
    rw [hleft, hright, Kahn.mem_children, Kahn.mem_children]
    simp only [crdtGraph, mem_knownParents, hlog _]
  have hsort : sortStrings (fromLeft.getD []) = sortStrings (fromRight.getD []) :=
    sortStrings_eq_of_mem_iff (Kahn.nodup_children opId) (Kahn.nodup_children opId) hmem
  have hnone : fromLeft = none ↔ fromRight = none := by
    rw [hleft, hright, get_children_eq_none_iff, get_children_eq_none_iff, ← hleft, ← hright,
      List.eq_nil_iff_forall_not_mem, List.eq_nil_iff_forall_not_mem]
    simp only [hmem]
  cases hl : fromLeft with
  | none => rw [hnone.mp hl]
  | some fromLeft' =>
      cases hr : fromRight with
      | none => rw [hnone.mpr hr] at hl; cases hl
      | some fromRight' =>
          rw [hl, hr] at hsort
          simpa using hsort

/-! ## The observed vector -/

/-- `top` is numbered above all the others, of which there are some. -/
def Outranks (ops : List CrdtOpEnvelope) (top : CrdtOpEnvelope) : Prop :=
  top ∈ ops ∧ (∃ op ∈ ops, op ≠ top) ∧
    ∀ op ∈ ops, op ≠ top → op.authorSeq.count < top.authorSeq.count

theorem exists_highest {ops : List CrdtOpEnvelope} (hne : ops ≠ []) :
    ∃ op ∈ ops, op.authorSeq.count = highest ops := by
  induction ops with
  | nil => exact absurd rfl hne
  | cons op rest ih =>
      rw [highest, List.foldr_cons, ← highest]
      rcases le_total (highest rest) op.authorSeq.count with hle | hle
      · exact ⟨op, List.mem_cons_self, (sup_eq_left.mpr hle).symm⟩
      · rw [sup_eq_right.mpr hle]
        cases rest with
        | nil => exact ⟨op, List.mem_cons_self, le_antisymm hle zero_le⟩
        | cons next rest =>
            obtain ⟨best, hbest, heq⟩ := ih (List.cons_ne_nil _ _)
            exact ⟨best, List.mem_cons_of_mem _ hbest, heq⟩

variable {first other : CrdtOpEnvelope} {rest others : List CrdtOpEnvelope}

/-- A head that is not the other list's head is in the other list's tail; there
it either does not raise the highest number or outranks everything. -/
theorem highest_tail_le (hright : (other :: others).Nodup) (hne : first ≠ other)
    (hmem : ∀ op, op ∈ first :: rest ↔ op ∈ other :: others)
    (hnot : ¬ Outranks (other :: others) other) : highest rest ≤ highest others := by
  rw [highest_le_iff]
  intro op hop
  rcases List.mem_cons.mp ((hmem op).mp (List.mem_cons_of_mem _ hop)) with rfl | hop
  · by_contra hlt
    refine hnot ⟨List.mem_cons_self, ⟨first, (hmem first).mp List.mem_cons_self, hne⟩, ?_⟩
    intro lower hlower hlower_ne
    have hin : lower ∈ others := (List.mem_cons.mp hlower).resolve_left hlower_ne
    exact (le_highest hin).trans_lt (not_le.mp hlt)
  · exact le_highest hop

/-- An operation that leads one list and outranks it is seen by the other list
only. -/
theorem highest_tail_ne (hrest : rest ≠ []) (hleft : (first :: rest).Nodup) (hne : first ≠ other)
    (hmem : ∀ op, op ∈ first :: rest ↔ op ∈ other :: others)
    (houtranks : Outranks (first :: rest) first) : highest rest ≠ highest others := by
  intro heq
  obtain ⟨best, hbest, hhighest⟩ := exists_highest hrest
  have hbest_ne : best ≠ first := fun h => (List.nodup_cons.mp hleft).1 (h ▸ hbest)
  have hlt := houtranks.2.2 best (List.mem_cons_of_mem _ hbest) hbest_ne
  have hfirst : first ∈ others :=
    (List.mem_cons.mp ((hmem first).mp List.mem_cons_self)).resolve_left hne
  rw [hhighest, heq] at hlt
  exact absurd (le_highest hfirst) (not_le.mpr hlt)

theorem outranks_congr {ops ops' : List CrdtOpEnvelope} {top : CrdtOpEnvelope}
    (hmem : ∀ op, op ∈ ops ↔ op ∈ ops') : Outranks ops top ↔ Outranks ops' top := by
  simp only [Outranks, hmem]

/-- For an inherited name the entries of two orders agree exactly if an
operation that outranks the others comes first in both or in neither. -/
theorem observedEntry_eq_iff {author : String} {fromLeft fromRight : List CrdtOpEnvelope}
    (hinherited : author ∈ inheritedNames) (hproto : author ≠ "__proto__")
    (hleft : fromLeft.Nodup) (hright : fromRight.Nodup)
    (hmem : ∀ op, op ∈ fromLeft ↔ op ∈ fromRight) :
    observedEntry author fromLeft = observedEntry author fromRight ↔
      ∀ top, Outranks fromLeft top →
        (fromLeft.head? = some top ↔ fromRight.head? = some top) := by
  have hlength := ((List.perm_ext_iff_of_nodup hleft hright).mpr hmem).length_eq
  cases fromLeft with
  | nil =>
      obtain rfl := List.length_eq_zero_iff.mp hlength.symm
      simp
  | cons first rest =>
      cases fromRight with
      | nil => simp at hlength
      | cons other others =>
          simp only [List.length_cons, Nat.add_right_cancel_iff] at hlength
          simp only [observedEntry, hproto, hinherited, if_true, if_false, List.head?_cons,
            Option.some.injEq]
          cases rest with
          | nil =>
              -- A single operation: the other list is the same one.
              obtain rfl := List.length_eq_zero_iff.mp hlength.symm
              obtain rfl : first = other := by simpa using (hmem first).mp List.mem_cons_self
              simp
          | cons second rest =>
              have hothers : others ≠ [] := by
                rintro rfl
                simp at hlength
              simp only [List.cons_ne_nil, hothers, if_false, Option.some.injEq,
                JsNumber.ofCount_injective.eq_iff]
              by_cases hne : first = other
              · subst hne
                have htail : ∀ op, op ∈ second :: rest ↔ op ∈ others := by
                  intro op
                  have hfresh := (List.nodup_cons.mp hleft).1
                  have hfresh' := (List.nodup_cons.mp hright).1
                  have hop := hmem op
                  simp only [List.mem_cons] at hop hfresh hfresh' ⊢
                  by_cases heq : op = first
                  · subst heq
                    simp [hfresh, hfresh']
                  · simpa [heq] using hop
                simp [highest_congr htail]
              · constructor
                · intro heq top houtranks
                  constructor
                  · rintro rfl
                    exact absurd heq
                      (highest_tail_ne (List.cons_ne_nil _ _) hleft hne hmem houtranks)
                  · rintro rfl
                    exact absurd heq.symm (highest_tail_ne hothers hright (Ne.symm hne)
                      (fun op => (hmem op).symm) ((outranks_congr hmem).mp houtranks))
                · intro hall
                  refine le_antisymm (highest_tail_le hright hne hmem fun houtranks => ?_)
                    (highest_tail_le hleft (Ne.symm hne) (fun op => (hmem op).symm)
                      fun houtranks => ?_)
                  · exact hne ((hall other ((outranks_congr hmem).mpr houtranks)).mpr rfl)
                  · exact hne ((hall first houtranks).mp rfl).symm

/-- For the other names the entry only depends on the set of operations. -/
theorem observedEntry_congr {author : String} {fromLeft fromRight : List CrdtOpEnvelope}
    (hplain : author ∉ inheritedNames ∨ author = "__proto__")
    (hmem : ∀ op, op ∈ fromLeft ↔ op ∈ fromRight) :
    observedEntry author fromLeft = observedEntry author fromRight := by
  cases fromLeft with
  | nil =>
      obtain rfl : fromRight = [] := List.eq_nil_iff_forall_not_mem.mpr fun op hop => by
        simpa using (hmem op).mpr hop
      rfl
  | cons first rest =>
      cases fromRight with
      | nil => simpa using (hmem first).mp List.mem_cons_self
      | cons other others =>
          rw [observedEntry, observedEntry, highest_congr hmem]
          rcases hplain with hplain | hproto
          · rw [if_neg hplain, if_neg hplain]
          · rw [if_pos hproto, if_pos hproto]

theorem mem_authored_congr {author : String} (hlog : SameLog left right) (op : CrdtOpEnvelope) :
    op ∈ authored (dedupeCrdtOps left) author ↔ op ∈ authored (dedupeCrdtOps right) author := by
  rw [authored, authored, List.mem_filter, List.mem_filter, hlog op]

/-! ## Convergence -/

/-- **The analysis converges** on everything but the observed entries of authors
with an inherited name, and on those exactly if an operation that outranks the
author's other operations comes first among them in both logs or in neither. -/
theorem analyzeCrdtOps_converges_iff [Std.TransCmp localeCompare]
    [Std.LawfulEqCmp localeCompare] (hsame : ∀ op, op ∈ left ↔ op ∈ right)
    (hids : IdsDetermine left) :
    SameAnalysis (analyzeCrdtOps localeCompare left) (analyzeCrdtOps localeCompare right) ↔
      ∀ author ∈ inheritedNames, author ≠ "__proto__" →
        ∀ top, Outranks (authored (dedupeCrdtOps left) author) top →
          ((authored (dedupeCrdtOps left) author).head? = some top ↔
            (authored (dedupeCrdtOps right) author).head? = some top) := by
  have hlog : SameLog left right := mem_dedupe_congr hids hsame
  have hentry : ∀ author ∈ inheritedNames, author ≠ "__proto__" →
      (observedEntry author (authored (dedupeCrdtOps left) author) =
        observedEntry author (authored (dedupeCrdtOps right) author) ↔
        ∀ top, Outranks (authored (dedupeCrdtOps left) author) top →
          ((authored (dedupeCrdtOps left) author).head? = some top ↔
            (authored (dedupeCrdtOps right) author).head? = some top)) :=
    fun author hinherited hproto => observedEntry_eq_iff hinherited hproto
      ((nodup_dedupe left).filter _) ((nodup_dedupe right).filter _) (mem_authored_congr hlog)
  have hget : ∀ ops author, author ≠ "" →
      (analyzeCrdtOps localeCompare ops).observedVersionVector.get author =
        observedEntry author (authored (dedupeCrdtOps ops) author) := fun ops author hne => by
    change (buildObservedVersionVector (dedupeCrdtOps ops)).get author = _
    rw [get_observed, if_neg hne]
  constructor
  · intro hanalysis author hinherited hproto
    have hne : author ≠ "" := by
      rintro rfl
      simp [inheritedNames] at hinherited
    have hobserved := hanalysis.observedVersionVector author
    rw [hget left author hne, hget right author hne] at hobserved
    exact (hentry author hinherited hproto).mp hobserved
  · intro hall
    refine ⟨orderedOps_eq_of_sameLog hlog, leafOpIds_eq_of_sameLog hlog,
      missingParentOpIds_eq_of_sameLog hlog, versionVector_same_of_sameLog hlog, fun author => ?_,
      childrenByOpId_same_of_sameLog hlog⟩
    by_cases hne : author = ""
    · change (buildObservedVersionVector _).get author = (buildObservedVersionVector _).get author
      rw [get_observed, get_observed, if_pos hne, if_pos hne]
    · rw [hget left author hne, hget right author hne]
      by_cases hplain : author ∉ inheritedNames ∨ author = "__proto__"
      · exact observedEntry_congr hplain (mem_authored_congr hlog)
      · obtain ⟨hinherited, hproto⟩ := not_or.mp hplain
        exact (hentry author (not_not.mp hinherited) hproto).mpr
          (hall author (not_not.mp hinherited) hproto)

/-- Two operations of an ordinary author, received in either order. -/
theorem analyzeCrdtOps_converges_ordinary :
    SameAnalysis
      (analyzeCrdtOps compare [messageOp "a" "dev" 1 "t1" [], messageOp "b" "dev" 2 "t2" ["a"]])
      (analyzeCrdtOps compare
        [messageOp "b" "dev" 2 "t2" ["a"], messageOp "a" "dev" 1 "t1" []]) := by
  refine (analyzeCrdtOps_converges_iff (fun op => by simp [or_comm])
    (idsDetermine_of_nodup (by decide))).mpr fun author hinherited _ top houtranks => ?_
  have hnone : ∀ author ∈ inheritedNames, (authored (dedupeCrdtOps
      [messageOp "a" "dev" 1 "t1" [], messageOp "b" "dev" 2 "t2" ["a"]])
        author).isEmpty = true := by
    decide
  exact absurd houtranks.1 (by simp [List.isEmpty_iff.mp (hnone author hinherited)])

/-- Two operations of an author called `constructor`: the log that received the
first one first reports `2`, the other one `1`. -/
theorem analyzeCrdtOps_diverges :
    ¬ ∀ left right : List CrdtOpEnvelope, (∀ op, op ∈ left ↔ op ∈ right) → IdsDetermine left →
      SameAnalysis (analyzeCrdtOps compare left) (analyzeCrdtOps compare right) := by
  intro hall
  have hsame := hall
    [messageOp "a" "constructor" 1 "t1" [], messageOp "b" "constructor" 2 "t2" ["a"]]
    [messageOp "b" "constructor" 2 "t2" ["a"], messageOp "a" "constructor" 1 "t1" []]
    (fun op => by simp [or_comm]) (idsDetermine_of_nodup (by decide))
  have hentry := hsame.observedVersionVector "constructor"
  revert hentry
  decide

end OpenClaw.Crdt
