import Mathlib.Data.List.Sort
import Mathlib.Data.List.Nodup
import Mathlib.Data.List.Rotate

/-!
# Stable sorting by a comparator

`sortBy cmp` is the stable sort of the runtimes: equal elements keep their
order.  For a comparator that is a total preorder every stable sort returns this
list; `sortBy_eq_of_perm` says more for a comparator that is `eq` only on equal
elements of the list, namely that the input order does not matter at all.
-/

namespace StableSort

variable {α : Type*} (cmp : α → α → Ordering)

/-- `left` may stand before `right`. -/
def Below (left right : α) : Prop := (cmp left right).isLE = true

instance : DecidableRel (Below cmp) := fun left right =>
  inferInstanceAs (Decidable ((cmp left right).isLE = true))

/-- The stable sort of `list` under `cmp`. -/
def sortBy (list : List α) : List α := list.insertionSort (Below cmp)

variable {cmp} {list : List α}

theorem sortBy_perm (list : List α) : (sortBy cmp list).Perm list :=
  List.perm_insertionSort (Below cmp) list

@[simp] theorem mem_sortBy {a : α} : a ∈ sortBy cmp list ↔ a ∈ list :=
  List.mem_insertionSort (Below cmp)

@[simp] theorem length_sortBy (list : List α) : (sortBy cmp list).length = list.length :=
  List.length_insertionSort (Below cmp) list

theorem nodup_sortBy (hnodup : list.Nodup) : (sortBy cmp list).Nodup :=
  (sortBy_perm list).nodup_iff.mpr hnodup

/-- A sorted list is left as it is. -/
theorem sortBy_eq_self (hsorted : list.Pairwise (Below cmp)) : sortBy cmp list = list :=
  hsorted.insertionSort_eq

private theorem orderedInsert_congr {cmp cmp' : α → α → Ordering} {a : α} {list : List α}
    (hagree : ∀ b ∈ list, cmp a b = cmp' a b) :
    list.orderedInsert (Below cmp) a = list.orderedInsert (Below cmp') a := by
  induction list with
  | nil => rfl
  | cons b rest ih =>
      have hb : Below cmp a b ↔ Below cmp' a b := by
        rw [Below, Below, hagree b List.mem_cons_self]
      rw [List.orderedInsert_cons, List.orderedInsert_cons,
        ih fun c hc => hagree c (List.mem_cons_of_mem _ hc)]
      simp only [hb]

/-- Only the values of the comparator on the list matter. -/
theorem sortBy_congr {cmp cmp' : α → α → Ordering}
    (hagree : ∀ a ∈ list, ∀ b ∈ list, cmp a b = cmp' a b) : sortBy cmp list = sortBy cmp' list := by
  induction list with
  | nil => rfl
  | cons a rest ih =>
      have hrest : sortBy cmp rest = sortBy cmp' rest := ih fun b hb c hc =>
        hagree b (List.mem_cons_of_mem _ hb) c (List.mem_cons_of_mem _ hc)
      change (sortBy cmp rest).orderedInsert (Below cmp) a =
        (sortBy cmp' rest).orderedInsert (Below cmp') a
      rw [← hrest]
      exact orderedInsert_congr fun b hb =>
        hagree a List.mem_cons_self b (List.mem_cons_of_mem _ (mem_sortBy.mp hb))

/-- A comparator pulled back along a function. -/
theorem transCmp_pullback {β : Type*} (cmp : α → α → Ordering) [Std.TransCmp cmp] (f : β → α) :
    Std.TransCmp fun left right => cmp (f left) (f right) where
  eq_swap := Std.OrientedCmp.eq_swap
  isLE_trans := Std.TransCmp.isLE_trans

/-! ## Removing repeats -/

/-- Remove every element that equals the one before it (Rust's `Vec::dedup`). -/
def dropRepeats [DecidableEq α] : List α → List α
  | [] => []
  | [a] => [a]
  | a :: b :: rest =>
      if a = b then dropRepeats (b :: rest) else a :: dropRepeats (b :: rest)

@[simp] theorem mem_dropRepeats [DecidableEq α] {a : α} : a ∈ dropRepeats list ↔ a ∈ list := by
  fun_induction dropRepeats list with
  | case1 => rfl
  | case2 b => rfl
  | case3 b rest ih => simp [ih]
  | case4 b c rest hne ih => simp [ih]

/-- Without repeats a sorted list is strictly sorted. -/
theorem pairwise_lt_dropRepeats [LinearOrder α] (hsorted : list.Pairwise (· ≤ ·)) :
    (dropRepeats list).Pairwise (· < ·) := by
  fun_induction dropRepeats list with
  | case1 => exact List.Pairwise.nil
  | case2 b => exact List.pairwise_singleton _ _
  | case3 b rest ih => exact ih (List.pairwise_cons.mp hsorted).2
  | case4 b c rest hne ih =>
      obtain ⟨hb, hrest⟩ := List.pairwise_cons.mp hsorted
      refine List.pairwise_cons.mpr ⟨fun other hother => ?_, ih hrest⟩
      have hother : other ∈ c :: rest := mem_dropRepeats.mp hother
      have hbc : b < c := lt_of_le_of_ne (hb c List.mem_cons_self) hne
      rcases List.mem_cons.mp hother with rfl | hmem
      · exact hbc
      · exact hbc.trans_le ((List.pairwise_cons.mp hrest).1 other hmem)

section TotalPreorder

variable [Std.TransCmp cmp]

instance : Std.Total (Below cmp) where
  total left right := by
    have hswap : cmp right left = (cmp left right).swap := Std.OrientedCmp.eq_swap
    rcases h : cmp left right with _ | _ | _
    · exact Or.inl (by simp [Below, h])
    · exact Or.inl (by simp [Below, h])
    · exact Or.inr (by simp [Below, hswap, h])

instance : IsTrans α (Below cmp) where
  trans _ _ _ hab hbc := Std.TransCmp.isLE_trans hab hbc

theorem pairwise_sortBy (list : List α) : (sortBy cmp list).Pairwise (Below cmp) :=
  List.pairwise_insertionSort (Below cmp) list

theorem below_antisymm {a b : α} (hab : Below cmp a b) (hba : Below cmp b a) : cmp a b = .eq :=
  Std.OrientedCmp.isLE_antisymm hab hba

/-- Two sorted lists with the same elements are equal when the comparator
separates those elements. -/
theorem eq_of_perm_of_pairwise {left right : List α}
    (hseparates : ∀ a ∈ left, ∀ b ∈ left, cmp a b = .eq → a = b) (hperm : left.Perm right)
    (hleft : left.Pairwise (Below cmp)) (hright : right.Pairwise (Below cmp)) : left = right :=
  List.Perm.eq_of_pairwise
    (fun a b ha hb hab hba => hseparates a ha b (hperm.mem_iff.mpr hb) (below_antisymm hab hba))
    hleft hright hperm

/-- Sorting forgets the order of its input when the comparator separates its
elements. -/
theorem sortBy_eq_of_perm {left right : List α}
    (hseparates : ∀ a ∈ left, ∀ b ∈ left, cmp a b = .eq → a = b) (hperm : left.Perm right) :
    sortBy cmp left = sortBy cmp right := by
  refine eq_of_perm_of_pairwise (fun a ha b hb => ?_) ?_ (pairwise_sortBy left)
    (pairwise_sortBy right)
  · exact hseparates a (mem_sortBy.mp ha) b (mem_sortBy.mp hb)
  · exact (sortBy_perm left).trans (hperm.trans (sortBy_perm right).symm)

/-- For lists without repetition it is enough to have the same elements. -/
theorem sortBy_eq_of_mem_iff {left right : List α}
    (hseparates : ∀ a ∈ left, ∀ b ∈ left, cmp a b = .eq → a = b) (hleft : left.Nodup)
    (hright : right.Nodup) (hmem : ∀ a, a ∈ left ↔ a ∈ right) :
    sortBy cmp left = sortBy cmp right :=
  sortBy_eq_of_perm hseparates ((List.perm_ext_iff_of_nodup hleft hright).mpr hmem)

/-- Sorting first and removing repeats then gives what sorting the distinct
elements gives. -/
theorem dropRepeats_sortBy_eq {α : Type*} [LinearOrder α] {left right : List α}
    (hright : right.Nodup) (hmem : ∀ a, a ∈ left ↔ a ∈ right) :
    dropRepeats (sortBy compare left) = sortBy compare right := by
  have hbelow : ∀ {a b : α}, Below compare a b → a ≤ b := fun hbelow =>
    compare_le_iff_le.mp (Ordering.ne_gt_iff_isLE.mpr hbelow)
  have hleft : (dropRepeats (sortBy compare left)).Pairwise (· < ·) :=
    pairwise_lt_dropRepeats ((pairwise_sortBy left).imp hbelow)
  have hsorted : (sortBy compare right).Pairwise (· ≤ ·) := (pairwise_sortBy right).imp hbelow
  have hperm : (dropRepeats (sortBy compare left)).Perm (sortBy compare right) :=
    (List.perm_ext_iff_of_nodup (hleft.imp ne_of_lt) (nodup_sortBy hright)).mpr fun a => by
      rw [mem_dropRepeats, mem_sortBy, mem_sortBy, hmem a]
  exact hperm.eq_of_pairwise (fun a b _ _ => le_antisymm) (hleft.imp le_of_lt) hsorted

/-- In a sorted list without repetition `a` stands before `b` exactly if it is
less. -/
theorem pair_sublist_sortBy_iff {a b : α} (hnodup : list.Nodup)
    (hseparates : ∀ a ∈ list, ∀ b ∈ list, cmp a b = .eq → a = b) (ha : a ∈ list) (hb : b ∈ list) :
    [a, b].Sublist (sortBy cmp list) ↔ cmp a b = .lt := by
  constructor
  · intro hsub
    have hbelow : Below cmp a b :=
      List.pairwise_pair.mp ((pairwise_sortBy list).sublist hsub)
    have hne : a ≠ b := by
      have hpair : [a, b].Nodup := (nodup_sortBy hnodup).sublist hsub
      simpa using hpair
    cases hcmp : cmp a b with
    | lt => rfl
    | eq => exact absurd (hseparates a ha b hb hcmp) hne
    | gt => simp [Below, hcmp] at hbelow
  · intro hlt
    have ha' : a ∈ sortBy cmp list := mem_sortBy.mpr ha
    obtain ⟨before, after, hsplit⟩ := List.append_of_mem ha'
    have hb' : b ∈ before ++ a :: after := hsplit ▸ mem_sortBy.mpr hb
    rw [hsplit]
    rcases List.mem_append.mp hb' with hb' | hb'
    · -- `b` before `a` would mean that `b` is not above `a`.
      have hsorted : (sortBy cmp list).Pairwise (Below cmp) := pairwise_sortBy list
      rw [hsplit, List.pairwise_append] at hsorted
      have hbelow := hsorted.2.2 b hb' a List.mem_cons_self
      have hswap : cmp b a = (cmp a b).swap := Std.OrientedCmp.eq_swap
      rw [Below, hswap, hlt] at hbelow
      simp at hbelow
    · rcases List.mem_cons.mp hb' with rfl | hb'
      · have hself : cmp b b = .eq := Std.ReflCmp.compare_self
        rw [hself] at hlt
        cases hlt
      · exact ((List.singleton_sublist.mpr hb').cons_cons a).trans
          (List.sublist_append_right before _)

/-! ### Ties -/

/-- Of two elements of a list one stands before the other. -/
theorem pair_sublist_or {a b : α} (ha : a ∈ list) (hb : b ∈ list) (hne : a ≠ b) :
    [a, b].Sublist list ∨ [b, a].Sublist list := by
  obtain ⟨before, after, rfl⟩ := List.append_of_mem ha
  rcases List.mem_append.mp hb with hb | hb
  · have hlast : [a].Sublist (a :: after) := List.singleton_sublist.mpr List.mem_cons_self
    exact Or.inr ((List.singleton_sublist.mpr hb).append hlast)
  · rcases List.mem_cons.mp hb with rfl | hb
    · exact absurd rfl hne
    · exact Or.inl (((List.singleton_sublist.mpr hb).cons_cons a).trans
        (List.sublist_append_right before _))

/-- Without repetition only one of them does. -/
theorem not_pair_sublist_swap {a b : α} (hnodup : list.Nodup) (hab : [a, b].Sublist list) :
    ¬[b, a].Sublist list := by
  induction list with
  | nil => exact fun hba => by cases hba
  | cons head rest ih =>
      obtain ⟨hhead, hrest⟩ := List.nodup_cons.mp hnodup
      intro hba
      rcases List.sublist_cons_iff.mp hab with hrestab | ⟨_, heq, hb⟩
      · rcases List.sublist_cons_iff.mp hba with hrestba | ⟨_, heq, -⟩
        · exact ih hrest hrestab hrestba
        · obtain ⟨rfl, -⟩ := List.cons.inj heq
          exact hhead (hrestab.subset (List.mem_cons_of_mem _ List.mem_cons_self))
      · obtain ⟨rfl, rfl⟩ := List.cons.inj heq
        have hmem : b ∈ rest := List.singleton_sublist.mp hb
        rcases List.sublist_cons_iff.mp hba with hrestba | ⟨_, heq, -⟩
        · exact hhead (hrestba.subset (List.mem_cons_of_mem _ List.mem_cons_self))
        · exact hhead ((List.cons.inj heq).1 ▸ hmem)

/-- **A stable sort is known by its ties**: a sorted list in which they stand as they
stood before. -/
theorem sortBy_eq_of_ties {target : List α} (hperm : list.Perm target) (hnodup : target.Nodup)
    (hsorted : target.Pairwise (Below cmp))
    (hties : ∀ a b, cmp a b = .eq → [a, b].Sublist list → [a, b].Sublist target) :
    sortBy cmp list = target := by
  let Settled : α → α → Prop := fun a b =>
    Below cmp a b ∧ (Below cmp b a → a = b ∨ [a, b].Sublist target)
  have hlist : list.Nodup := hperm.nodup_iff.mpr hnodup
  have hleft : (sortBy cmp list).Pairwise Settled := by
    refine List.pairwise_iff_forall_sublist.mpr fun {a b} hab => ?_
    have hbelow : Below cmp a b := List.pairwise_pair.mp ((pairwise_sortBy list).sublist hab)
    refine ⟨hbelow, fun hback => ?_⟩
    by_cases heq : a = b
    · exact Or.inl heq
    have ha : a ∈ list := mem_sortBy.mp (hab.subset List.mem_cons_self)
    have hb : b ∈ list := mem_sortBy.mp (hab.subset (List.mem_cons_of_mem _ List.mem_cons_self))
    rcases pair_sublist_or ha hb heq with hkept | hswapped
    · exact Or.inr (hties a b (below_antisymm hbelow hback) hkept)
    · -- the sort would have kept the other order
      have hba : [b, a].Sublist (sortBy cmp list) := List.pair_sublist_insertionSort hback hswapped
      exact absurd hba (not_pair_sublist_swap (nodup_sortBy hlist) hab)
  have hright : target.Pairwise Settled := by
    refine List.pairwise_iff_forall_sublist.mpr fun {a b} hab => ?_
    exact ⟨List.pairwise_pair.mp (hsorted.sublist hab), fun _ => Or.inr hab⟩
  refine List.Perm.eq_of_pairwise (fun a b _ _ hab hba => ?_) hleft hright
    ((sortBy_perm list).trans hperm)
  rcases hab.2 hba.1 with heq | hfirst
  · exact heq
  · rcases hba.2 hab.1 with heq | hsecond
    · exact heq.symm
    · exact absurd hsecond (not_pair_sublist_swap hnodup hfirst)

end TotalPreorder

/-! ## Orders on the elements of a list -/

/-- The comparator is a total preorder on the elements of the list.  What it says
of other elements does not matter, since a sort never asks. -/
structure OrderOn (cmp : α → α → Ordering) (list : List α) : Prop where
  eq_swap : ∀ a ∈ list, ∀ b ∈ list, cmp a b = (cmp b a).swap
  trans : ∀ a ∈ list, ∀ b ∈ list, ∀ c ∈ list, Below cmp a b → Below cmp b c → Below cmp a c

/-- The comparator is a total order on the elements of the list. -/
structure LinearOn (cmp : α → α → Ordering) (list : List α) : Prop extends OrderOn cmp list where
  separates : ∀ a ∈ list, ∀ b ∈ list, cmp a b = .eq → a = b

theorem orderOn_of_trans [Std.TransCmp cmp] (list : List α) : OrderOn cmp list :=
  ⟨fun _ _ _ _ => Std.OrientedCmp.eq_swap, fun _ _ _ _ _ _ => Std.TransCmp.isLE_trans⟩

namespace OrderOn

theorem mono (horder : OrderOn cmp list) {part : List α} (hsub : part ⊆ list) :
    OrderOn cmp part :=
  ⟨fun a ha b hb => horder.eq_swap a (hsub ha) b (hsub hb),
    fun a ha b hb c hc => horder.trans a (hsub ha) b (hsub hb) c (hsub hc)⟩

theorem congr (horder : OrderOn cmp list) {cmp' : α → α → Ordering}
    (hagree : ∀ a ∈ list, ∀ b ∈ list, cmp' a b = cmp a b) : OrderOn cmp' list where
  eq_swap a ha b hb := by rw [hagree a ha b hb, hagree b hb a ha, horder.eq_swap a ha b hb]
  trans a ha b hb c hc := by
    unfold Below
    rw [hagree a ha b hb, hagree b hb c hc, hagree a ha c hc]
    exact horder.trans a ha b hb c hc

open Classical in
/-- The comparator of a list, with everything else put behind it. -/
private noncomputable def extend (cmp : α → α → Ordering) (list : List α) (a b : α) : Ordering :=
  if a ∈ list then if b ∈ list then cmp a b else .lt
  else if b ∈ list then .gt else .eq

/-- An order on a list is the restriction of an order. -/
theorem exists_transCmp (horder : OrderOn cmp list) :
    ∃ cmp' : α → α → Ordering, Std.TransCmp cmp' ∧ ∀ a ∈ list, ∀ b ∈ list, cmp' a b = cmp a b := by
  refine ⟨extend cmp list, ?_, fun a ha b hb => by rw [extend, if_pos ha, if_pos hb]⟩
  refine @Std.TransCmp.mk _ _ ⟨?_⟩ ?_
  · intro a b
    unfold extend
    by_cases ha : a ∈ list <;> by_cases hb : b ∈ list
    · rw [if_pos ha, if_pos hb, if_pos hb, if_pos ha, horder.eq_swap a ha b hb]
    · simp [ha, hb]
    · simp [ha, hb]
    · simp [ha, hb]
  · intro a b c
    unfold extend
    by_cases ha : a ∈ list <;> by_cases hb : b ∈ list <;> by_cases hc : c ∈ list
    · rw [if_pos ha, if_pos hb, if_pos hb, if_pos hc, if_pos ha, if_pos hc]
      exact horder.trans a ha b hb c hc
    all_goals simp [ha, hb, hc]

/-- Sorting by an order on the list sorts it. -/
theorem pairwise_sortBy (horder : OrderOn cmp list) :
    (sortBy cmp list).Pairwise (Below cmp) := by
  obtain ⟨cmp', htrans, hagree⟩ := horder.exists_transCmp
  rw [← sortBy_congr hagree]
  refine (StableSort.pairwise_sortBy list).imp_of_mem fun ha hb hbelow => ?_
  rw [Below, ← hagree _ (mem_sortBy.mp ha) _ (mem_sortBy.mp hb)]
  exact hbelow

end OrderOn

theorem LinearOn.mono (hlinear : LinearOn cmp list) {part : List α} (hsub : part ⊆ list) :
    LinearOn cmp part :=
  ⟨hlinear.toOrderOn.mono hsub, fun a ha b hb => hlinear.separates a (hsub ha) b (hsub hb)⟩

theorem LinearOn.antisymm (hlinear : LinearOn cmp list) {a b : α} (ha : a ∈ list) (hb : b ∈ list)
    (hab : Below cmp a b) (hba : Below cmp b a) : a = b := by
  refine hlinear.separates a ha b hb ?_
  unfold Below at hab hba
  cases hcmp : cmp a b with
  | eq => rfl
  | gt => simp [hcmp] at hab
  | lt =>
      have hback : cmp b a = .gt := by rw [hlinear.eq_swap b hb a ha, hcmp, Ordering.swap_lt]
      simp [hback] at hba

/-- Sorting by a linear order forgets how the list was ordered. -/
theorem LinearOn.sortBy_eq (hlinear : LinearOn cmp list) {other : List α}
    (hperm : list.Perm other) : sortBy cmp list = sortBy cmp other := by
  have hother := hlinear.toOrderOn.mono hperm.symm.subset
  refine List.Perm.eq_of_pairwise (fun a b ha hb hab hba => ?_) hlinear.pairwise_sortBy
    hother.pairwise_sortBy (((sortBy_perm list).trans hperm).trans (sortBy_perm other).symm)
  exact hlinear.antisymm (mem_sortBy.mp ha) (hperm.mem_iff.mpr (mem_sortBy.mp hb)) hab hba

/-! ## The sort of a runtime -/

/-- What a runtime promises of its stable sort: always a permutation, and the
stable sort whenever the comparator is an order on the elements.  A comparator
that is none may leave them in any order. -/
structure SortAlgorithm where
  sort : ∀ {α : Type}, (α → α → Ordering) → List α → List α
  perm : ∀ {α : Type} (cmp : α → α → Ordering) (list : List α), (sort cmp list).Perm list
  stable : ∀ {α : Type} (cmp : α → α → Ordering) (list : List α), OrderOn cmp list →
    sort cmp list = sortBy cmp list

namespace SortAlgorithm

/-- Insertion sort, whatever the comparator is. -/
def insertion : SortAlgorithm := ⟨sortBy, fun _ => sortBy_perm, fun _ _ _ => rfl⟩

instance : Inhabited SortAlgorithm := ⟨insertion⟩

open Classical in
/-- A sort that turns the list by one when it cannot sort it, if the comparator is one of
these. -/
noncomputable def turned (turns : (Σ α : Type, α → α → Ordering) → Prop) : SortAlgorithm where
  sort {α} cmp list :=
    if OrderOn cmp list ∨ ¬turns ⟨α, cmp⟩ then sortBy cmp list else (sortBy cmp list).rotate 1
  perm cmp list := by
    split
    · exact sortBy_perm list
    · exact (List.rotate_perm _ _).trans (sortBy_perm list)
  stable cmp list horder := if_pos (Or.inl horder)

variable (algorithm : SortAlgorithm) {β : Type} {cmp : β → β → Ordering} {list : List β}
  {turns : (Σ α : Type, α → α → Ordering) → Prop}

@[simp] theorem mem_sort {b : β} : b ∈ algorithm.sort cmp list ↔ b ∈ list :=
  (algorithm.perm cmp list).mem_iff

theorem sort_turned_of_not (hturns : ¬turns ⟨β, cmp⟩) :
    (turned turns).sort cmp list = sortBy cmp list := if_pos (Or.inr hturns)

theorem sort_turned_of_not_orderOn (hnot : ¬OrderOn cmp list) (hturns : turns ⟨β, cmp⟩) :
    (turned turns).sort cmp list = (sortBy cmp list).rotate 1 :=
  if_neg fun h => h.elim hnot fun h => h hturns

/-- Only whether the comparator is one of these matters. -/
theorem sort_turned_congr {turns' : (Σ α : Type, α → α → Ordering) → Prop}
    (hsame : turns ⟨β, cmp⟩ ↔ turns' ⟨β, cmp⟩) (list : List β) :
    (turned turns).sort cmp list = (turned turns').sort cmp list := by
  by_cases horder : OrderOn cmp list
  · rw [(turned turns).stable cmp list horder, (turned turns').stable cmp list horder]
  by_cases hturns : turns ⟨β, cmp⟩
  · rw [sort_turned_of_not_orderOn horder hturns,
      sort_turned_of_not_orderOn horder (hsame.mp hturns)]
  · rw [sort_turned_of_not hturns, sort_turned_of_not fun h => hturns (hsame.mpr h)]

/-- A list without two different elements is in every order. -/
theorem orderOn_of_forall_eq (hrefl : ∀ a ∈ list, cmp a a = .eq)
    (hone : ∀ a ∈ list, ∀ b ∈ list, a = b) : OrderOn cmp list := by
  refine ⟨fun a ha b hb => ?_, fun a ha b hb c hc _ _ => ?_⟩
  · rw [hone a ha b hb, hrefl b hb, Ordering.swap_eq]
  · rw [Below, hone a ha c hc, hrefl c hc, Ordering.isLE_eq]

/-- **Turning shows**: a sort that would turn the list and does not was asked for an order. -/
theorem orderOn_of_sort_turned (hrefl : ∀ a ∈ list, cmp a a = .eq) (hturns : turns ⟨β, cmp⟩)
    (hsame : (turned turns).sort cmp list = sortBy cmp list) : OrderOn cmp list := by
  by_contra hnot
  rw [sort_turned_of_not_orderOn hnot hturns] at hsame
  have hone : ∀ a ∈ sortBy cmp list, ∀ b ∈ sortBy cmp list, a = b := by
    intro a ha b hb
    have : Nonempty β := ⟨a⟩
    obtain ⟨only, honly⟩ := List.rotate_one_eq_self_iff_eq_replicate.mp hsame
    rw [honly] at ha hb
    rw [List.eq_of_mem_replicate ha, List.eq_of_mem_replicate hb]
  exact hnot (orderOn_of_forall_eq hrefl fun a ha b hb =>
    hone a (mem_sortBy.mpr ha) b (mem_sortBy.mpr hb))

/-- What a sort turns begins with two different elements, if all are different. -/
theorem exists_heads_of_not_orderOn (hnodup : list.Nodup) (hrefl : ∀ a ∈ list, cmp a a = .eq)
    (hnot : ¬OrderOn cmp list) : ∃ a b rest, sortBy cmp list = a :: b :: rest ∧ a ≠ b := by
  have hone : ¬∀ a ∈ sortBy cmp list, ∀ b ∈ sortBy cmp list, a = b := fun hone =>
    hnot (orderOn_of_forall_eq hrefl fun a ha b hb =>
      hone a (mem_sortBy.mpr ha) b (mem_sortBy.mpr hb))
  have hsorted : (sortBy cmp list).Nodup := nodup_sortBy hnodup
  cases hlist : sortBy cmp list with
  | nil => simp [hlist] at hone
  | cons a rest =>
      cases rest with
      | nil => simp [hlist] at hone
      | cons b rest =>
          rw [hlist] at hsorted
          refine ⟨a, b, rest, rfl, ?_⟩
          rintro rfl
          exact (List.nodup_cons.mp hsorted).1 List.mem_cons_self

/-- Every runtime sorts a list the same way exactly if the comparator is an order
on it. -/
theorem sort_eq_iff (hrefl : ∀ a ∈ list, cmp a a = .eq) :
    (∀ left right : SortAlgorithm, left.sort cmp list = right.sort cmp list) ↔
      OrderOn cmp list := by
  constructor
  · intro hsame
    exact orderOn_of_sort_turned hrefl trivial (hsame (turned fun _ => True) insertion)
  · intro horder left right
    rw [left.stable cmp list horder, right.stable cmp list horder]

end SortAlgorithm

end StableSort
