import Mathlib.Data.List.Basic

/-!
# Changing the first match of a list

`updateFirst p f list` changes the first element that satisfies `p`, which is
what a program does that searches a mutable list and assigns to what it found.
`split_updateFirst` is the one fact proofs need: the list before and after, cut
at that element.
-/

namespace FirstMatch

variable {α β : Type*} {p : α → Bool} {f : α → α} {list : List α} {found : α}

def updateFirst (p : α → Bool) (f : α → α) : List α → List α
  | [] => []
  | head :: tail => if p head then f head :: tail else head :: updateFirst p f tail

theorem split_updateFirst (hfind : list.find? p = some found) :
    ∃ before after, list = before ++ found :: after ∧ (∀ other ∈ before, p other = false) ∧
      updateFirst p f list = before ++ f found :: after := by
  induction list with
  | nil => simp at hfind
  | cons head tail ih =>
      by_cases hhead : p head = true
      · rw [List.find?_cons_of_pos hhead, Option.some_inj] at hfind
        subst hfind
        refine ⟨[], tail, rfl, by simp, ?_⟩
        rw [updateFirst, if_pos hhead, List.nil_append]
      · rw [List.find?_cons_of_neg hhead] at hfind
        obtain ⟨before, after, hsplit, hbefore, hupdate⟩ := ih hfind
        refine ⟨head :: before, after, by rw [hsplit, List.cons_append], ?_, ?_⟩
        · intro other hother
          rcases List.mem_cons.mp hother with rfl | hother
          · exact Bool.eq_false_iff.mpr hhead
          · exact hbefore other hother
        · rw [updateFirst, if_neg hhead, hupdate, List.cons_append]

/-- The elements are the first match and the others. -/
theorem mem_iff_eraseP {value : α} (hfind : list.find? p = some found) :
    value ∈ list ↔ value = found ∨ value ∈ list.eraseP p := by
  obtain ⟨before, after, rfl, hbefore, -⟩ := split_updateFirst (f := id) hfind
  have hnot : ∀ other ∈ before, ¬p other = true := fun other hother =>
    Bool.eq_false_iff.mp (hbefore other hother)
  rw [List.eraseP_append_right _ hnot, List.eraseP_cons_of_pos (List.find?_some hfind)]
  simp only [List.mem_append, List.mem_cons]
  tauto

theorem mem_updateFirst_iff {value : α} (hfind : list.find? p = some found) :
    value ∈ updateFirst p f list ↔ value = f found ∨ value ∈ list.eraseP p := by
  obtain ⟨before, after, rfl, hbefore, hupdate⟩ := split_updateFirst (f := f) hfind
  have hnot : ∀ other ∈ before, ¬p other = true := fun other hother =>
    Bool.eq_false_iff.mp (hbefore other hother)
  rw [hupdate, List.eraseP_append_right _ hnot, List.eraseP_cons_of_pos (List.find?_some hfind)]
  simp only [List.mem_append, List.mem_cons]
  tauto

/-- A projection that `f` keeps on matches is kept along the list. -/
theorem map_updateFirst {g : α → β} (hf : ∀ value, p value = true → g (f value) = g value)
    (list : List α) : (updateFirst p f list).map g = list.map g := by
  induction list with
  | nil => rfl
  | cons head tail ih =>
      rw [updateFirst]
      by_cases hhead : p head = true
      · rw [if_pos hhead, List.map_cons, List.map_cons, hf head hhead]
      · rw [if_neg hhead, List.map_cons, List.map_cons, ih]

theorem length_updateFirst (list : List α) : (updateFirst p f list).length = list.length := by
  induction list with
  | nil => rfl
  | cons head tail ih =>
      rw [updateFirst]
      split
      · rfl
      · rw [List.length_cons, List.length_cons, ih]

/-- The same for a change at an index. -/
theorem map_modify {g : α → β} (hf : ∀ value, g (f value) = g value) (list : List α) (index : ℕ) :
    (list.modify index f).map g = list.map g := by
  induction list generalizing index with
  | nil => rw [List.modify_nil]
  | cons head tail ih =>
      cases index with
      | zero => rw [List.modify_zero_cons, List.map_cons, List.map_cons, hf]
      | succ index => rw [List.modify_succ_cons, List.map_cons, List.map_cons, ih]

theorem map_modify_of_getElem? {g : α → β} {index : ℕ} (hat : list[index]? = some found)
    (hf : g (f found) = g found) : (list.modify index f).map g = list.map g := by
  induction list generalizing index with
  | nil => rw [List.modify_nil]
  | cons head tail ih =>
      cases index with
      | zero =>
          cases hat
          rw [List.modify_zero_cons, List.map_cons, List.map_cons, hf]
      | succ index => rw [List.modify_succ_cons, List.map_cons, List.map_cons, ih hat]

end FirstMatch
