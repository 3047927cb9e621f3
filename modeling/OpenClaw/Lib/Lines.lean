import Mathlib.Data.List.Flatten
import Mathlib.Data.List.Infix

/-!
# Texts in lines and blocks

A text is read line by line: a line goes up to its end and has the end with it, and what
is left over when the text stops short is a line too.  A block is some lines and then an
empty one.  A text of blocks that was cut off somewhere has its first blocks whole, and of
the next one only lines, or beginnings of lines, that are not empty.
-/

namespace Lines

variable {α : Type*} [DecidableEq α] (stop : α)

/-- The lines of a text, each with its end. -/
def lines : List α → List (List α)
  | [] => []
  | a :: rest =>
      if a = stop then [a] :: lines rest
      else
        match lines rest with
        | [] => [[a]]
        | line :: more => (a :: line) :: more

/-- Some lines without their ends, and an empty one. -/
def block (body : List (List α)) : List α := (body.flatMap fun line => line ++ [stop]) ++ [stop]

variable {stop}

theorem lines_eq_nil_iff {text : List α} : lines stop text = [] ↔ text = [] := by
  cases text with
  | nil => simp [lines]
  | cons a rest =>
      simp only [lines, reduceCtorEq, iff_false]
      split
      · simp
      · split <;> simp

/-- A line and its end, in front of a text. -/
theorem lines_line {line : List α} (hline : stop ∉ line) (text : List α) :
    lines stop (line ++ stop :: text) = (line ++ [stop]) :: lines stop text := by
  induction line with
  | nil => simp [lines]
  | cons a line ih =>
      rw [List.mem_cons, not_or] at hline
      rw [List.cons_append, lines, if_neg (Ne.symm hline.1), ih hline.2]
      rfl

/-- What has no end in it is one line. -/
theorem lines_of_not_mem {line : List α} (hline : stop ∉ line) (hne : line ≠ []) :
    lines stop line = [line] := by
  induction line with
  | nil => exact absurd rfl hne
  | cons a line ih =>
      rw [List.mem_cons, not_or] at hline
      rw [lines, if_neg (Ne.symm hline.1)]
      cases line with
      | nil => rfl
      | cons b line => rw [ih hline.2 (List.cons_ne_nil _ _)]

theorem lines_flatMap {body : List (List α)} (hbody : ∀ line ∈ body, stop ∉ line)
    (text : List α) :
    lines stop ((body.flatMap fun line => line ++ [stop]) ++ text) =
      (body.map fun line => line ++ [stop]) ++ lines stop text := by
  induction body with
  | nil => rfl
  | cons line body ih =>
      rw [List.forall_mem_cons] at hbody
      have hsplit : ((line :: body).flatMap fun line => line ++ [stop]) ++ text =
          line ++ stop :: ((body.flatMap fun line => line ++ [stop]) ++ text) := by
        simp
      rw [hsplit, lines_line hbody.1, ih hbody.2, List.map_cons, List.cons_append]

/-- **A block in front of a text** is its lines and an empty one. -/
theorem lines_block {body : List (List α)} (hbody : ∀ line ∈ body, stop ∉ line)
    (text : List α) :
    lines stop (block stop body ++ text) =
      (body.map fun line => line ++ [stop]) ++ [stop] :: lines stop text := by
  rw [block, List.append_assoc, lines_flatMap hbody, List.singleton_append,
    ← List.nil_append (stop :: text), lines_line List.not_mem_nil, List.nil_append]

/-! ## Cuts -/

omit [DecidableEq α] in
/-- A cut through two texts is inside the first, or behind it inside the second. -/
theorem prefix_append_cases {text left right : List α} (hcut : text <+: left ++ right) :
    text <+: left ∨ ∃ rest, text = left ++ rest ∧ rest <+: right := by
  obtain hinside | ⟨rest, rfl⟩ :=
    List.prefix_or_prefix_of_prefix hcut (List.prefix_append left right)
  · exact .inl hinside
  · exact .inr ⟨rest, rfl, (List.prefix_append_right_inj left).mp hcut⟩

omit [DecidableEq α] in
/-- **A cut through many texts** leaves the first ones whole, and of the next one a part. -/
theorem exists_of_prefix_flatten {texts : List (List α)} {text : List α}
    (hcut : text <+: texts.flatten) :
    ∃ k rest, text = (texts.take k).flatten ++ rest ∧
      (rest = [] ∨ ∃ next, texts[k]? = some next ∧ rest <+: next ∧ rest ≠ next) := by
  induction texts generalizing text with
  | nil => exact ⟨0, [], by simpa using hcut, .inl rfl⟩
  | cons first texts ih =>
      rw [List.flatten_cons] at hcut
      obtain hinside | ⟨rest, rfl, hrest⟩ := prefix_append_cases hcut
      · by_cases hwhole : text = first
        · exact ⟨1, [], by simp [hwhole], .inl rfl⟩
        · exact ⟨0, text, by simp, .inr ⟨first, rfl, hinside, hwhole⟩⟩
      · obtain ⟨k, part, rfl, hpart⟩ := ih hrest
        exact ⟨k + 1, part, by simp, by simpa using hpart⟩

/-- **A block that was cut off** is lines of it, whole or in part, and none is empty. -/
theorem lines_of_prefix_block {body : List (List α)} (hbody : ∀ line ∈ body, stop ∉ line)
    {text : List α} (hcut : text <+: block stop body) (hne : text ≠ block stop body) :
    ∀ line ∈ lines stop text, line ≠ [] ∧ ∃ whole ∈ body, line <+: whole ++ [stop] := by
  -- the empty line at the end is not reached
  have hshort : text <+: body.flatMap fun line => line ++ [stop] := by
    obtain heq | hshort := List.prefix_concat_iff.mp hcut
    · exact absurd heq hne
    · exact hshort
  clear hcut hne
  induction body generalizing text with
  | nil =>
      rw [List.flatMap_nil, List.prefix_nil] at hshort
      simp [hshort, lines]
  | cons whole body ih =>
      rw [List.forall_mem_cons] at hbody
      rw [List.flatMap_cons] at hshort
      obtain hinside | ⟨rest, rfl, hrest⟩ := prefix_append_cases hshort
      · -- the cut is inside the first line, or at its end
        intro line hline
        by_cases hnil : text = []
        · simp [hnil, lines] at hline
        have hone : lines stop text = [text] := by
          obtain rfl | hpart := List.prefix_concat_iff.mp hinside
          · have hends := lines_line hbody.1 []
            simpa [lines] using hends
          · exact lines_of_not_mem (fun hmem => hbody.1 (hpart.subset hmem)) hnil
        rw [hone, List.mem_singleton] at hline
        exact ⟨hline ▸ hnil, whole, by simp, hline ▸ hinside⟩
      · intro line hline
        rw [List.append_assoc, List.singleton_append, lines_line hbody.1, List.mem_cons] at hline
        obtain rfl | hlater := hline
        · exact ⟨by simp, whole, by simp, List.prefix_refl _⟩
        · obtain ⟨hne, other, hother, hpart⟩ := ih hbody.2 hrest line hlater
          exact ⟨hne, other, by simp [hother], hpart⟩

end Lines
