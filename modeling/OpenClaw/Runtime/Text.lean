import Mathlib.Data.List.DropRight
import OpenClaw.Lib.OrderedMap
import OpenClaw.Lib.StableSort

/-!
# Strings as the three runtimes trim and order them

`String.prototype.trim`, Rust's `str::trim` and Go's `strings.TrimSpace` remove
the same blanks except for two: U+FEFF is a blank of JavaScript only, U+0085 of
the other two only.  `trimBlanks` takes the blanks as a parameter, and everything
the development needs of trimming (`trim_trim`, `trim_eq_empty_iff`) is proved for
any of them.

`Array.prototype.sort` without a comparator orders strings by their UTF-16 code
units.  `utf16Compare` is that order; `utf16_injective` makes it separate
different strings, so a sorted list of distinct strings is determined by its
elements.
-/

namespace OpenClaw.Runtime

open StableSort

/-! ## Trimming -/

/-- The code points all three runtimes take for blanks. -/
def commonBlanks : List ℕ :=
  [0x9, 0xA, 0xB, 0xC, 0xD, 0x20, 0xA0, 0x1680, 0x2000, 0x2001, 0x2002, 0x2003, 0x2004, 0x2005,
    0x2006, 0x2007, 0x2008, 0x2009, 0x200A, 0x2028, 0x2029, 0x202F, 0x205F, 0x3000]

/-- `WhiteSpace` and `LineTerminator` of ECMAScript. -/
def jsBlank (c : Char) : Bool := c.toNat ∈ commonBlanks ∨ c.toNat = 0xFEFF

/-- The Unicode property `White_Space`, which Rust and Go use. -/
def unicodeBlank (c : Char) : Bool := c.toNat ∈ commonBlanks ∨ c.toNat = 0x85

/-- Remove the blanks on both sides. -/
def trimBlanks (blank : Char → Bool) (text : String) : String :=
  String.ofList ((text.toList.dropWhile blank).rdropWhile blank)

/-- `text.trim()` in JavaScript. -/
def jsTrim : String → String := trimBlanks jsBlank

/-- `text.trim()` in Rust, `strings.TrimSpace(text)` in Go. -/
def unicodeTrim : String → String := trimBlanks unicodeBlank

variable {blank : Char → Bool}

private theorem dropWhile_rdropWhile (chars : List Char) :
    ((chars.dropWhile blank).rdropWhile blank).dropWhile blank =
      (chars.dropWhile blank).rdropWhile blank := by
  rw [List.dropWhile_eq_self_iff]
  intro hlength
  have hinit := List.rdropWhile_prefix blank (l := chars.dropWhile blank)
  have hpos : 0 < (chars.dropWhile blank).length := hlength.trans_le hinit.length_le
  rw [hinit.getElem hlength]
  exact List.dropWhile_get_zero_not blank chars hpos

@[simp] theorem trim_trim (text : String) :
    trimBlanks blank (trimBlanks blank text) = trimBlanks blank text := by
  unfold trimBlanks
  rw [String.toList_ofList, dropWhile_rdropWhile, List.rdropWhile_idempotent]

theorem trim_eq_empty_iff {text : String} :
    trimBlanks blank text = "" ↔ ∀ c ∈ text.toList, blank c = true := by
  have hempty : ∀ chars : List Char, String.ofList chars = "" ↔ chars = [] := fun chars => by
    rw [← String.ofList_nil, String.ofList_inj]
  unfold trimBlanks
  rw [hempty, List.rdropWhile_eq_nil_iff]
  constructor
  · intro hall c hc
    by_contra hnot
    obtain ⟨before, after, hsplit⟩ := List.append_of_mem hc
    have hmem : c ∈ text.toList.dropWhile blank := by
      rw [hsplit, List.dropWhile_append]
      split <;> simp [hnot]
    exact hnot (hall c hmem)
  · exact fun hall c hc => hall c ((List.dropWhile_sublist blank).subset hc)

@[simp] theorem trim_empty : trimBlanks blank "" = "" := by
  rw [trim_eq_empty_iff]
  simp

/-- A text that starts with something not blank is not blank. -/
theorem trim_append_ne_empty {head : String} (hhead : trimBlanks blank head ≠ "")
    (tail : String) : trimBlanks blank (head ++ tail) ≠ "" := by
  intro hempty
  rw [trim_eq_empty_iff] at hempty
  refine hhead (trim_eq_empty_iff.mpr fun c hc => hempty c ?_)
  rw [String.toList_append]
  exact List.mem_append_left _ hc

/-- Trimming changes none of the trimmed texts, and drops none that is not empty. -/
theorem filter_trimmed_eq_self {values : List String}
    (hclean : ∀ value ∈ values, trimBlanks blank value = value ∧ value ≠ "") :
    (values.map (trimBlanks blank)).filter (fun value => decide (value ≠ "")) = values := by
  have hmap : values.map (trimBlanks blank) = values := by
    calc values.map (trimBlanks blank) = values.map id :=
          List.map_congr_left fun value hvalue => (hclean value hvalue).1
      _ = values := List.map_id values
  rw [hmap, List.filter_eq_self]
  exact fun value hvalue => decide_eq_true (hclean value hvalue).2

/-- Distinct trimmed texts are left as they are by trimming and collecting. -/
theorem ofList_trimmed_eq_self {values : List String} (hnodup : values.Nodup)
    (hclean : ∀ value ∈ values, trimBlanks blank value = value ∧ value ≠ "") :
    OrderedSet.ofList ((values.map (trimBlanks blank)).filter fun value =>
      decide (value ≠ "")) = values := by
  rw [filter_trimmed_eq_self hclean]
  exact OrderedSet.ofList_eq_self hnodup

/-- Collecting the distinct texts that are not blank, trimmed, is done after one
time. -/
theorem ofList_trimmed_idem (values : List String) :
    let clean := OrderedSet.ofList
      ((values.map (trimBlanks blank)).filter fun value => decide (value ≠ ""))
    OrderedSet.ofList ((clean.map (trimBlanks blank)).filter fun value => decide (value ≠ "")) =
      clean := by
  apply ofList_trimmed_eq_self (OrderedSet.nodup_ofList _)
  intro value hvalue
  obtain ⟨hmem, hne⟩ := List.mem_filter.mp (OrderedSet.mem_ofList.mp hvalue)
  obtain ⟨old, -, rfl⟩ := List.mem_map.mp hmem
  exact ⟨trim_trim old, of_decide_eq_true hne⟩

/-- A text without blanks is trimmed already. -/
theorem trim_eq_self {text : String} (hclean : ∀ c ∈ text.toList, blank c = false) :
    trimBlanks blank text = text := by
  have hkeep : ∀ chars : List Char, (∀ c ∈ chars, blank c = false) →
      chars.dropWhile blank = chars := by
    intro chars hchars
    cases chars with
    | nil => rfl
    | cons c chars =>
        exact List.dropWhile_cons_of_neg (by simp [hchars c List.mem_cons_self])
  unfold trimBlanks
  rw [hkeep _ hclean, List.rdropWhile, hkeep _ fun c hc => hclean c (List.mem_reverse.mp hc),
    List.reverse_reverse, String.ofList_toList]

/-- Trimmed texts that are not empty are trimmed together, whatever is between them. -/
theorem trim_surrounded {head tail : String} (middle : String)
    (hhead : trimBlanks blank head = head) (htail : trimBlanks blank tail = tail)
    (hhead' : head ≠ "") (htail' : tail ≠ "") :
    trimBlanks blank (head ++ middle ++ tail) = head ++ middle ++ tail := by
  have hclean : ∀ {text : String}, trimBlanks blank text = text → text ≠ "" →
      text.toList ≠ [] ∧ text.toList.dropWhile blank = text.toList ∧
        text.toList.rdropWhile blank = text.toList := by
    intro text htrim hne
    have hlist : (text.toList.dropWhile blank).rdropWhile blank = text.toList := by
      have hboth := congrArg String.toList htrim
      rwa [trimBlanks, String.toList_ofList] at hboth
    refine ⟨fun hnil => hne (String.toList_injective hnil), ?_, ?_⟩
    · rw [← hlist, dropWhile_rdropWhile]
    · rw [← hlist, List.rdropWhile_idempotent]
  obtain ⟨hheadNil, hheadDrop, -⟩ := hclean hhead hhead'
  obtain ⟨htailNil, -, htailDrop⟩ := hclean htail htail'
  have hfront : (head ++ middle ++ tail).toList.dropWhile blank =
      head.toList ++ middle.toList ++ tail.toList := by
    rw [String.toList_append, String.toList_append, List.append_assoc, List.dropWhile_append,
      hheadDrop, if_neg]
    rw [List.isEmpty_iff]
    exact hheadNil
  have hback : (head.toList ++ middle.toList ++ tail.toList).rdropWhile blank =
      head.toList ++ middle.toList ++ tail.toList := by
    have hreverse : tail.toList.reverse.dropWhile blank = tail.toList.reverse := by
      have hdrop := congrArg List.reverse htailDrop
      rwa [List.rdropWhile, List.reverse_reverse] at hdrop
    rw [List.rdropWhile, List.reverse_append, List.dropWhile_append, hreverse, if_neg]
    · rw [List.reverse_append, List.reverse_reverse, List.reverse_reverse]
    · rw [List.isEmpty_iff, List.reverse_eq_nil_iff]
      exact htailNil
  rw [trimBlanks, hfront, hback, ← String.toList_append, ← String.toList_append,
    String.ofList_toList]

/-- Trimmed texts that are not empty, put together, are trimmed. -/
theorem trim_append_trimmed {head tail : String} (hhead : trimBlanks blank head = head)
    (htail : trimBlanks blank tail = tail) (hhead' : head ≠ "") (htail' : tail ≠ "") :
    trimBlanks blank (head ++ tail) = head ++ tail := by
  have htogether := trim_surrounded "" hhead htail hhead' htail'
  rwa [String.append_empty] at htogether

/-! ## What is trimmed off -/

/-- A text is what it is trimmed to between blanks. -/
theorem exists_trim_split (blank : Char → Bool) (text : String) : ∃ front back : String,
    trimBlanks blank front = "" ∧ trimBlanks blank back = "" ∧
      text = front ++ trimBlanks blank text ++ back := by
  let rest := text.toList.dropWhile blank
  refine ⟨String.ofList (text.toList.takeWhile blank), String.ofList (rest.rtakeWhile blank),
    ?_, ?_, ?_⟩
  · rw [trim_eq_empty_iff, String.toList_ofList]
    exact fun c hc => List.mem_takeWhile_imp hc
  · rw [trim_eq_empty_iff, String.toList_ofList]
    exact fun c hc => List.mem_rtakeWhile_imp hc
  · apply String.toList_injective
    rw [trimBlanks, String.toList_append, String.toList_append, String.toList_ofList,
      String.toList_ofList, String.toList_ofList, List.append_assoc]
    show _ = _ ++ (rest.rdropWhile blank ++ rest.rtakeWhile blank)
    rw [List.rdropWhile_append_rtakeWhile, List.takeWhile_append_dropWhile]

/-- Blanks in front of a text and behind it are trimmed off. -/
theorem trim_blank_append_blank {front text back : String} (hfront : trimBlanks blank front = "")
    (hback : trimBlanks blank back = "") :
    trimBlanks blank (front ++ text ++ back) = trimBlanks blank text := by
  rw [trim_eq_empty_iff] at hfront hback
  have hdrop : (front ++ text ++ back).toList.dropWhile blank =
      (text.toList ++ back.toList).dropWhile blank := by
    rw [String.toList_append, String.toList_append, List.append_assoc]
    exact List.dropWhile_append_of_pos hfront
  have hrdrop : ∀ chars : List Char, (chars ++ back.toList).rdropWhile blank =
      chars.rdropWhile blank := by
    intro chars
    rw [List.rdropWhile, List.reverse_append, List.dropWhile_append_of_pos, List.rdropWhile]
    exact fun c hc => hback c (List.mem_reverse.mp hc)
  rw [trimBlanks, hdrop, trimBlanks, List.dropWhile_append]
  split
  · next hempty =>
      have hnil : back.toList.dropWhile blank = [] := by
        rw [List.dropWhile_eq_nil_iff]
        exact hback
      rw [hnil, List.isEmpty_iff.mp hempty]
  · rw [hrdrop]

theorem trim_append_blank {text back : String} (hback : trimBlanks blank back = "") :
    trimBlanks blank (text ++ back) = trimBlanks blank text := by
  have hboth := @trim_blank_append_blank blank "" text back trim_empty hback
  rwa [String.empty_append] at hboth

theorem trim_blank_append {front text : String} (hfront : trimBlanks blank front = "") :
    trimBlanks blank (front ++ text) = trimBlanks blank text := by
  have hboth := @trim_blank_append_blank blank front text "" hfront trim_empty
  rwa [String.append_empty] at hboth

/-- Between two texts that are not blank, their blanks at the border stay. -/
theorem trim_append {head tail : String} (hhead : trimBlanks blank head ≠ "")
    (htail : trimBlanks blank tail ≠ "") : ∃ gap : String,
      trimBlanks blank (head ++ tail) =
        trimBlanks blank head ++ gap ++ trimBlanks blank tail := by
  obtain ⟨front, inner, hfront, -, hheadSplit⟩ := exists_trim_split blank head
  obtain ⟨inner', back, -, hback, htailSplit⟩ := exists_trim_split blank tail
  have hsplit : head ++ tail =
      front ++ (trimBlanks blank head ++ (inner ++ inner') ++ trimBlanks blank tail) ++ back := by
    conv_lhs => rw [hheadSplit, htailSplit]
    simp only [String.append_assoc]
  refine ⟨inner ++ inner', ?_⟩
  rw [hsplit, trim_blank_append_blank hfront hback]
  exact trim_surrounded _ (trim_trim head) (trim_trim tail) hhead htail

/-- The ids `m`, `mm`, `mmm`, …: distinct, and trimmed already. -/
def tallyId (n : ℕ) : String := String.ofList (List.replicate (n + 1) 'm')

theorem tallyId_injective : Function.Injective tallyId := by
  intro left right heq
  have hlength := congrArg List.length (String.ofList_inj.mp heq)
  simpa using hlength

theorem trim_tallyId (hclean : blank 'm' = false) (n : ℕ) :
    trimBlanks blank (tallyId n) = tallyId n := by
  refine trim_eq_self fun c hc => ?_
  rw [tallyId, String.toList_ofList] at hc
  rw [List.eq_of_mem_replicate hc, hclean]

@[simp] theorem unicodeTrim_tallyId (n : ℕ) : unicodeTrim (tallyId n) = tallyId n :=
  trim_tallyId (by decide) n

theorem tallyId_ne_empty (n : ℕ) : tallyId n ≠ "" := by
  intro hempty
  rw [← String.ofList_nil, tallyId, String.ofList_inj] at hempty
  cases hempty

/-! ## The order of `Array.prototype.sort` -/

/-- The UTF-16 code units of a character. -/
def utf16Units (c : Char) : List ℕ :=
  if c.toNat < 0x10000 then [c.toNat]
  else [0xD800 + (c.toNat - 0x10000) / 0x400, 0xDC00 + (c.toNat - 0x10000) % 0x400]

def utf16 (text : String) : List ℕ := text.toList.flatMap utf16Units

/-- Code unit by code unit, a prefix first. -/
def utf16Compare (left right : String) : Ordering := compare (utf16 left) (utf16 right)

private theorem toNat_lt_surrogates (c : Char) :
    c.toNat < 0xD800 ∨ 0xDFFF < c.toNat ∧ c.toNat < 0x110000 := by
  have := c.valid
  simpa [UInt32.isValidChar, Nat.isValidChar] using this

/-- The first unit of a character tells whether a second one follows, so equal
code units come from equal texts. -/
private theorem flatMap_utf16Units_injective (left right : List Char)
    (heq : left.flatMap utf16Units = right.flatMap utf16Units) : left = right := by
  induction left generalizing right with
  | nil =>
      cases right with
      | nil => rfl
      | cons d right =>
          rw [List.flatMap_nil, List.flatMap_cons, utf16Units] at heq
          split at heq <;> simp at heq
  | cons c left ih =>
      cases right with
      | nil =>
          rw [List.flatMap_nil, List.flatMap_cons, utf16Units] at heq
          split at heq <;> simp at heq
      | cons d right =>
          rw [List.flatMap_cons, List.flatMap_cons] at heq
          have hc := toNat_lt_surrogates c
          have hd := toNat_lt_surrogates d
          have hsame : c.toNat = d.toNat ∧
              left.flatMap utf16Units = right.flatMap utf16Units := by
            unfold utf16Units at heq
            split at heq <;> split at heq <;>
              simp only [List.cons_append, List.nil_append, List.cons.injEq] at heq
            · exact heq
            · omega
            · omega
            · exact ⟨by omega, heq.2.2⟩
          rw [Char.toNat_inj.mp hsame.1, ih right hsame.2]

theorem utf16_injective : Function.Injective utf16 := fun _ _ heq =>
  String.toList_injective (flatMap_utf16Units_injective _ _ heq)

instance : Std.TransCmp utf16Compare :=
  transCmp_pullback (compare : List ℕ → List ℕ → Ordering) utf16

instance : Std.LawfulEqCmp utf16Compare where
  compare_self {text} := (Std.ReflCmp.compare_self : compare (utf16 text) (utf16 text) = .eq)
  eq_of_compare h := utf16_injective (Std.LawfulEqCmp.eq_of_compare h)

/-- `list.sort()` of a list of strings. -/
def sortStrings (list : List String) : List String := sortBy utf16Compare list

/-- Distinct strings are sorted into a list that only depends on which they
are. -/
theorem sortStrings_eq_of_mem_iff {left right : List String} (hleft : left.Nodup)
    (hright : right.Nodup) (hmem : ∀ text, text ∈ left ↔ text ∈ right) :
    sortStrings left = sortStrings right :=
  sortBy_eq_of_mem_iff (fun _ _ _ _ => Std.LawfulEqCmp.eq_of_compare) hleft hright hmem

end OpenClaw.Runtime
