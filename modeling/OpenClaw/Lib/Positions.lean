import Mathlib.Data.List.Perm.Basic
import Mathlib.Data.List.Nodup

/-!
# Positions in a list

A program that has computed an order keeps it as a map from an element to its
position and sorts by that map.  `eq_of_sorted_positions` says that a list
sorted this way is the computed order.
-/

namespace Positions

variable {α : Type*} [DecidableEq α] {order list : List α} {a b : α} {i j : ℕ}

theorem getElem?_of_idxOf? (hidx : order.idxOf? a = some i) : order[i]? = some a := by
  induction order generalizing i with
  | nil => cases hidx
  | cons b rest ih =>
      rw [List.idxOf?_cons] at hidx
      by_cases hb : b = a
      · rw [if_pos (beq_iff_eq.mpr hb), Option.some_inj] at hidx
        rw [← hidx, List.getElem?_cons_zero, hb]
      · rw [if_neg (by simpa using hb), Option.map_eq_some_iff] at hidx
        obtain ⟨k, hk, rfl⟩ := hidx
        rw [List.getElem?_cons_succ]
        exact ih hk

/-- Different elements have different positions. -/
theorem idxOf?_inj (ha : order.idxOf? a = some i) (hb : order.idxOf? b = some i) : a = b :=
  Option.some.inj ((getElem?_of_idxOf? ha).symm.trans (getElem?_of_idxOf? hb))

theorem exists_idxOf? (ha : a ∈ order) : ∃ i, order.idxOf? a = some i := by
  refine Option.ne_none_iff_exists'.mp fun hnone => ?_
  exact List.idxOf?_eq_none_iff.mp hnone ha

/-- A list without repetition is sorted by its own positions. -/
theorem pairwise_positions (hnodup : order.Nodup) :
    order.Pairwise fun a b => ∀ i j, order.idxOf? a = some i → order.idxOf? b = some j → i < j := by
  rw [List.pairwise_iff_getElem]
  intro m n hm hn hlt i j hi hj
  have hpos : ∀ {k l : ℕ} (hk : k < order.length), order.idxOf? order[k] = some l → l = k := by
    intro k l hk hl
    have hget := getElem?_of_idxOf? hl
    obtain ⟨hl', heq⟩ := List.getElem?_eq_some_iff.mp hget
    exact (hnodup.getElem_inj_iff).mp heq
  rw [hpos hm hi, hpos hn hj]
  exact hlt

/-- **A list sorted by the positions of an order is that order.** -/
theorem eq_of_sorted_positions (hnodup : order.Nodup) (hperm : list.Perm order)
    (hsorted : list.Pairwise fun a b =>
      ∀ i j, order.idxOf? a = some i → order.idxOf? b = some j → i ≤ j) : list = order := by
  refine hperm.eq_of_pairwise (fun a b ha hb hab hba => ?_) hsorted
    ((pairwise_positions hnodup).imp fun hlt i j hi hj => Nat.le_of_lt (hlt i j hi hj))
  obtain ⟨i, hi⟩ := exists_idxOf? (hperm.mem_iff.mp ha)
  obtain ⟨j, hj⟩ := exists_idxOf? hb
  have heq : i = j := Nat.le_antisymm (hab i j hi hj) (hba j i hj hi)
  exact idxOf?_inj hi (heq ▸ hj)

end Positions
