import Mathlib.Data.List.DropRight
import Mathlib.Data.List.Basic

/-!
# Leaving out what came lately

A filter remembers the keys it admitted last, `limit` of them, and lets an arrival through
unless its key is one of these; an arrival without a key is always let through and never
remembered.  `admitted` is what it lets through.  A key comes through again exactly after
`limit` others did.
-/

namespace RecentWindow

variable {Arrival Key : Type*} (keyOf : Arrival → Option Key) (limit : ℕ)

/-- The keys remembered after `before` was let through, the oldest first. -/
def window (before : List Arrival) : List Key := (before.filterMap keyOf).rtake limit

variable {keyOf limit}

/-! ## The window -/

theorem length_window_le (before : List Arrival) : (window keyOf limit before).length ≤ limit := by
  rw [window, List.rtake, List.length_drop]
  omega

/-- One more key pushes the oldest out once the window is full. -/
theorem window_concat {before : List Arrival} {arrival : Arrival} {key : Key}
    (hkey : keyOf arrival = some key) (hlimit : 0 < limit) :
    window keyOf limit (before ++ [arrival]) =
      if (window keyOf limit before).length < limit then window keyOf limit before ++ [key]
      else (window keyOf limit before).tail ++ [key] := by
  obtain ⟨n, rfl⟩ : ∃ n, limit = n + 1 := ⟨limit - 1, by omega⟩
  have hkeys : (before ++ [arrival]).filterMap keyOf = before.filterMap keyOf ++ [key] := by
    rw [List.filterMap_append]
    simp [hkey]
  rw [window, window, hkeys, List.rtake_concat_succ]
  generalize before.filterMap keyOf = keys
  have hlength : (keys.rtake (n + 1)).length = keys.length - (keys.length - (n + 1)) := by
    rw [List.rtake, List.length_drop]
  split
  next hshort =>
    have hall : keys.length - (n + 1) = 0 ∧ keys.length - n = 0 := by omega
    rw [List.rtake, List.rtake, hall.1, hall.2]
  next hfull =>
    have hnext : keys.length - n = keys.length - (n + 1) + 1 := by omega
    rw [List.rtake, List.rtake, List.tail_drop, hnext]

theorem window_concat_of_none {before : List Arrival} {arrival : Arrival}
    (hkey : keyOf arrival = none) :
    window keyOf limit (before ++ [arrival]) = window keyOf limit before := by
  have hkeys : (before ++ [arrival]).filterMap keyOf = before.filterMap keyOf := by
    rw [List.filterMap_append]
    simp [hkey]
  rw [window, window, hkeys]

theorem mem_window_iff {before : List Arrival} {key : Key} :
    key ∈ window keyOf limit before ↔ ∃ front back, before.filterMap keyOf = front ++ key :: back ∧
      back.length < limit := by
  rw [window, List.rtake]
  generalize before.filterMap keyOf = keys
  constructor
  · intro hmem
    obtain ⟨front, back, hsplit⟩ := List.append_of_mem hmem
    refine ⟨keys.take (keys.length - limit) ++ front, back, ?_, ?_⟩
    · rw [List.append_assoc, ← hsplit, List.take_append_drop]
    · have hlength := congrArg List.length hsplit
      rw [List.length_drop, List.length_append, List.length_cons] at hlength
      omega
  · rintro ⟨front, back, rfl, hback⟩
    have hlength : (front ++ key :: back).length = front.length + (back.length + 1) := by
      rw [List.length_append, List.length_cons]
    rw [List.drop_append_of_le_length (by omega)]
    exact List.mem_append_right _ List.mem_cons_self

/-! ## What comes through -/

/-- The key of the arrival is remembered. -/
def Repeated (keyOf : Arrival → Option Key) (limit : ℕ) (before : List Arrival)
    (arrival : Arrival) : Prop :=
  ∃ key ∈ window keyOf limit before, keyOf arrival = some key

/-- **What is left out** has come through with fewer than `limit` others behind it. -/
theorem repeated_iff {before : List Arrival} {arrival : Arrival} :
    Repeated keyOf limit before arrival ↔ ∃ front first back, before = front ++ first :: back ∧
      (∃ key, keyOf first = some key ∧ keyOf arrival = some key) ∧
      (back.filterMap keyOf).length < limit := by
  constructor
  · rintro ⟨key, hmem, hkey⟩
    obtain ⟨front, back, hsplit, hback⟩ := mem_window_iff.mp hmem
    obtain ⟨through, after, hbefore, -, hafter⟩ := List.filterMap_eq_append_iff.mp hsplit
    obtain ⟨skipped, first, rest, rfl, -, hfirst, hrest⟩ := List.filterMap_eq_cons_iff.mp hafter
    refine ⟨through ++ skipped, first, rest, ?_, ⟨key, hfirst, hkey⟩, ?_⟩
    · rw [hbefore, List.append_assoc]
    · rw [hrest]
      exact hback
  · rintro ⟨front, first, back, rfl, ⟨key, hfirst, hkey⟩, hback⟩
    refine ⟨key, mem_window_iff.mpr ⟨front.filterMap keyOf, back.filterMap keyOf, ?_, hback⟩, hkey⟩
    rw [List.filterMap_append, List.filterMap_cons_some hfirst]

variable [DecidableEq Key] (keyOf limit)

instance (before : List Arrival) (arrival : Arrival) :
    Decidable (Repeated keyOf limit before arrival) :=
  inferInstanceAs (Decidable (∃ key ∈ window keyOf limit before, keyOf arrival = some key))

def letIn (before : List Arrival) (arrival : Arrival) : List Arrival :=
  if Repeated keyOf limit before arrival then before else before ++ [arrival]

theorem letIn_eq_self_iff {before : List Arrival} {arrival : Arrival} :
    letIn keyOf limit before arrival = before ↔ Repeated keyOf limit before arrival := by
  rw [letIn]
  split
  next hrepeated => exact iff_of_true rfl hrepeated
  next hnew => exact iff_of_false (by simp) hnew

/-- What is let through of `arrivals`, in their order. -/
def admitted (arrivals : List Arrival) : List Arrival := arrivals.foldl (letIn keyOf limit) []

variable {keyOf limit}

theorem admitted_concat (arrivals : List Arrival) (arrival : Arrival) :
    admitted keyOf limit (arrivals ++ [arrival]) =
      letIn keyOf limit (admitted keyOf limit arrivals) arrival := by
  rw [admitted, List.foldl_append]
  rfl

/-- **Between two arrivals of one key that come through, `limit` others do.** -/
theorem limit_le_between {arrivals front between back : List Arrival} {first second : Arrival}
    {key : Key}
    (hsplit : admitted keyOf limit arrivals = front ++ first :: between ++ second :: back)
    (hfirst : keyOf first = some key) (hsecond : keyOf second = some key) :
    limit ≤ (between.filterMap keyOf).length := by
  -- the last arrival is the second of the two, or both came through before it
  induction arrivals using List.reverseRecOn generalizing back with
  | nil =>
      have hnil : ([] : List Arrival) = front ++ first :: between ++ second :: back := hsplit
      simp at hnil
  | append_singleton arrivals arrival ih =>
      rw [admitted_concat, letIn] at hsplit
      split at hsplit
      · exact ih hsplit
      next hnew =>
        rcases List.eq_nil_or_concat back with rfl | ⟨inner, last, rfl⟩
        · obtain ⟨hbefore, hlast⟩ := List.append_inj' hsplit rfl
          obtain rfl : arrival = second := by simpa using hlast
          by_contra hshort
          refine hnew ⟨key, mem_window_iff.mpr ⟨front.filterMap keyOf,
            between.filterMap keyOf, ?_, by omega⟩, hsecond⟩
          rw [hbefore, List.filterMap_append, List.filterMap_cons_some hfirst]
        · have hmoved : front ++ first :: between ++ second :: (inner ++ [last]) =
              (front ++ first :: between ++ second :: inner) ++ [last] := by
            simp
          rw [List.concat_eq_append] at hsplit
          exact ih (List.append_inj' (hsplit.trans hmoved) rfl).1

end RecentWindow
