import Mathlib.Data.ENat.Basic
import Mathlib.Data.List.Perm.Subperm
import Mathlib.Data.List.Sort

/-!
# The contiguous prefix of a set of sequence numbers

A receiver that has seen the sequence numbers `values` (sorted, without
repetition) acknowledges the largest `n` such that `1, 2, …, n` are all among
them.  The loop that computes it walks the sorted values against an expected
number and stops at the first gap.

`le_contiguous_iff` characterises the result without the loop: `n` is below the
cursor exactly when every number of `1 … n` has been seen.  `IsCursor` states
this for any set of numbers, so that two cursors, computed in different ways
from different lists, are compared through what they have seen.  The values live in an ordered type
`α` into which `embed` places the naturals, so that the same loop serves
machine counters and extended numbers.

Beside the contiguous prefix a counter needs the largest number there is, a fold
of `max`.
-/

namespace ContiguousPrefix

variable {α : Type*} [LinearOrder α] (embed : ℕ → α)

/-- Walk `values` from the number `expected`; the first value that differs
stops the walk.  The result is the number expected next. -/
def walk (expected : ℕ) : List α → ℕ
  | [] => expected
  | value :: rest => if value = embed expected then walk (expected + 1) rest else expected

/-- The cursor of the sorted list `values`. -/
def contiguous (values : List α) : ℕ := walk embed 1 values - 1

variable {embed}

theorem le_walk (expected : ℕ) (values : List α) : expected ≤ walk embed expected values := by
  induction values generalizing expected with
  | nil => exact le_rfl
  | cons value rest ih =>
      unfold walk
      split
      · exact (Nat.le_succ expected).trans (ih (expected + 1))
      · exact le_rfl

/-- `embed` enumerates `α` without gaps: nothing lies strictly between two
consecutive numbers. -/
structure Gapless (embed : ℕ → α) : Prop where
  strictMono : StrictMono embed
  succ_le : ∀ {n : ℕ} {value : α}, embed n < value → embed (n + 1) ≤ value

theorem gapless_id : Gapless (id : ℕ → ℕ) := ⟨strictMono_id, Nat.succ_le_of_lt⟩

theorem gapless_natCast : Gapless (Nat.cast : ℕ → ℕ∞) :=
  ⟨Nat.strictMono_cast, fun hlt => by
    push_cast
    exact Order.add_one_le_of_lt hlt⟩

/-- The walk passes `n` exactly when every number from the expected one up to
`n` is in the list. -/
theorem lt_walk_iff (hembed : Gapless embed) {values : List α} {expected n : ℕ}
    (hsorted : values.Pairwise (· < ·)) (hbelow : ∀ value ∈ values, embed expected ≤ value)
    (hn : expected ≤ n) :
    n < walk embed expected values ↔ ∀ k, expected ≤ k → k ≤ n → embed k ∈ values := by
  induction values generalizing expected with
  | nil =>
      simp only [walk, List.not_mem_nil, imp_false]
      exact ⟨fun hlt => absurd hlt (by omega), fun hall => absurd hn (hall expected le_rfl)⟩
  | cons value rest ih =>
      obtain ⟨hvalue, hrest⟩ := List.pairwise_cons.mp hsorted
      unfold walk
      split
      · next heq =>
          -- The expected number is there; the rest of the list starts at its successor.
          have habove : ∀ other ∈ rest, embed (expected + 1) ≤ other := fun other hother =>
            hembed.succ_le (heq ▸ hvalue other hother)
          rcases Nat.eq_or_lt_of_le hn with rfl | hlt
          · refine ⟨fun _ k hk hkn => ?_, fun _ => le_walk (expected + 1) rest⟩
            obtain rfl : k = expected := by omega
            simp [heq]
          · rw [ih hrest habove hlt]
            constructor
            · intro hall k hk hkn
              rcases Nat.eq_or_lt_of_le hk with rfl | hk
              · simp [heq]
              · exact List.mem_cons_of_mem _ (hall k hk hkn)
            · intro hall k hk hkn
              rcases List.mem_cons.mp (hall k (by omega) hkn) with hk' | hmem
              · have : k = expected := hembed.strictMono.injective (hk'.trans heq)
                omega
              · exact hmem
      · next hne =>
          refine ⟨fun hlt => absurd hlt (by omega), fun hall => ?_⟩
          rcases List.mem_cons.mp (hall expected le_rfl hn) with heq | hmem
          · exact absurd heq.symm hne
          · exact absurd (hvalue _ hmem) (not_lt.mpr (hbelow value List.mem_cons_self))

/-- **The cursor, without its loop.**  `n` is acknowledged exactly when all of
`1 … n` have been seen. -/
theorem le_contiguous_iff (hembed : Gapless embed) {values : List α} {n : ℕ}
    (hsorted : values.Pairwise (· < ·)) (hpositive : ∀ value ∈ values, embed 0 < value) :
    n ≤ contiguous embed values ↔ ∀ k, 1 ≤ k → k ≤ n → embed k ∈ values := by
  have hbelow : ∀ value ∈ values, embed 1 ≤ value := fun value hvalue =>
    hembed.succ_le (hpositive value hvalue)
  rcases Nat.eq_zero_or_pos n with rfl | hpos
  · exact ⟨fun _ k hk hk0 => by omega, fun _ => Nat.zero_le _⟩
  · have hwalk := lt_walk_iff hembed hsorted hbelow hpos
    have hle : 1 ≤ walk embed 1 values := le_walk 1 values
    unfold contiguous
    rw [← hwalk]
    omega

/-! ## Cursors of a set of numbers -/

/-- `cursor` acknowledges the numbers for which `seen` holds: it is the largest
`n` with `seen 1, …, seen n`. -/
def IsCursor (cursor : ℕ) (seen : ℕ → Prop) : Prop :=
  ∀ n, n ≤ cursor ↔ ∀ k, 1 ≤ k → k ≤ n → seen k

theorem isCursor_contiguous (hembed : Gapless embed) {values : List α} {seen : ℕ → Prop}
    (hsorted : values.Pairwise (· < ·)) (hpositive : ∀ value ∈ values, embed 0 < value)
    (hseen : ∀ k, 1 ≤ k → (embed k ∈ values ↔ seen k)) :
    IsCursor (contiguous embed values) seen := by
  intro n
  rw [le_contiguous_iff hembed hsorted hpositive]
  exact forall_congr' fun k => forall_congr' fun hk => forall_congr' fun _ => hseen k hk

/-- Every number of `1, …, n` has been seen. -/
def Acknowledged (seen : ℕ → Prop) (n : ℕ) : Prop := ∀ k, 1 ≤ k → k ≤ n → seen k

/-- No acknowledged number that is in `gone` is missing from `seen'`. -/
def Keeps (seen gone seen' : ℕ → Prop) : Prop :=
  ∀ n, 1 ≤ n → Acknowledged seen n → gone n → seen' n

namespace IsCursor

variable {cursor cursor' : ℕ} {seen seen' : ℕ → Prop}

/-- Every number up to the cursor has been seen. -/
theorem seen_of_le (h : IsCursor cursor seen) {k : ℕ} (hpos : 1 ≤ k) (hk : k ≤ cursor) : seen k :=
  (h cursor).mp le_rfl k hpos hk

/-- A cursor is at least another one exactly if it has seen everything the other
one acknowledges. -/
theorem le_iff (h' : IsCursor cursor' seen') :
    cursor ≤ cursor' ↔ ∀ k, 1 ≤ k → k ≤ cursor → seen' k := h' cursor

/-- Seeing more numbers never lowers the cursor. -/
theorem mono (h : IsCursor cursor seen) (h' : IsCursor cursor' seen')
    (hsub : ∀ k, seen k → seen' k) : cursor ≤ cursor' :=
  h'.le_iff.mpr fun k hpos hk => hsub k (h.seen_of_le hpos hk)

/-- When every number that was seen is seen still or is in `gone`, the cursor
goes back exactly if an acknowledged number of `gone` is missing. -/
theorem le_iff_keeps {gone : ℕ → Prop} (h : IsCursor cursor seen) (h' : IsCursor cursor' seen')
    (hsplit : ∀ k, seen k → gone k ∨ seen' k) : cursor ≤ cursor' ↔ Keeps seen gone seen' := by
  rw [h'.le_iff]
  constructor
  · intro hall n hpos hacknowledged _
    exact hall n hpos ((h n).mpr hacknowledged)
  · intro hkeeps k hpos hk
    rcases hsplit k (h.seen_of_le hpos hk) with hgone | hseen
    · exact hkeeps k hpos ((h k).mp hk) hgone
    · exact hseen

/-- Each number is seen in an element of its own. -/
theorem le_length {β : Type*} {list : List β} (h : IsCursor cursor seen) (number : β → ℕ∞)
    (hseen : ∀ k, seen k → ∃ element ∈ list, number element = k) : cursor ≤ list.length := by
  have hsubset : (List.range' 1 cursor).map Nat.cast ⊆ list.map number := by
    intro value hvalue
    obtain ⟨k, hk, rfl⟩ := List.mem_map.mp hvalue
    obtain ⟨hpos, hlt⟩ := List.mem_range'_1.mp hk
    obtain ⟨element, helement, hnumber⟩ := hseen k (h.seen_of_le hpos (by omega))
    exact List.mem_map.mpr ⟨element, helement, hnumber⟩
  have hnodup : ((List.range' 1 cursor).map (Nat.cast : ℕ → ℕ∞)).Nodup :=
    List.Nodup.map Nat.cast_injective List.nodup_range'
  have hle := (List.subperm_of_subset hnodup hsubset).length_le
  rwa [List.length_map, List.length_map, List.length_range'] at hle

theorem eq_of_iff (h : IsCursor cursor seen) (h' : IsCursor cursor' seen')
    (hseen : ∀ k, seen k ↔ seen' k) : cursor = cursor' :=
  le_antisymm (h.mono h' fun k => (hseen k).mp) (h'.mono h fun k => (hseen k).mpr)

end IsCursor

/-! ## The largest number -/

theorem foldl_max_le_iff {values : List α} {start bound : α} :
    values.foldl max start ≤ bound ↔ start ≤ bound ∧ ∀ value ∈ values, value ≤ bound := by
  induction values generalizing start with
  | nil => simp
  | cons value rest ih =>
      rw [List.foldl_cons, ih, max_le_iff, List.forall_mem_cons]
      exact and_assoc

theorem foldl_max_mem (values : List α) (start : α) :
    values.foldl max start = start ∨ values.foldl max start ∈ values := by
  induction values generalizing start with
  | nil => exact Or.inl rfl
  | cons value rest ih =>
      rw [List.foldl_cons]
      rcases ih (max start value) with hstart | hmem
      · rcases max_choice start value with hmax | hmax
        · exact Or.inl (hstart.trans hmax)
        · exact Or.inr (List.mem_cons.mpr (Or.inl (hstart.trans hmax)))
      · exact Or.inr (List.mem_cons_of_mem _ hmem)

end ContiguousPrefix
