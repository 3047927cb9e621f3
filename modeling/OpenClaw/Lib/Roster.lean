import Mathlib.Data.List.Find
import Mathlib.Data.List.Nodup

/-!
# Lists whose elements keep their identity

A program that keeps its records in a growable list hands out references into
it, changes a record in place, and removes records by a predicate.  To speak of
one record over such a run, `Roster` numbers every record when it is added: the
number is its slot, no slot is given twice, and the structure carries both facts
as fields.

The rules are stated through `get`, which looks up a slot: what `modify`, `push`
and `retain` leave in every slot (`get_modify`, `get_push`, `get_retain`).
`find?` is the program's own lookup, the first record of a kind in list order.
-/

/-- Records with permanent slots, in the order they were added. -/
structure Roster (α : Type*) where
  entries : List (ℕ × α)
  /-- The slot of the next record. -/
  next : ℕ
  slots_nodup : (entries.map Prod.fst).Nodup
  slots_lt : ∀ entry ∈ entries, entry.1 < next

namespace Roster

variable {α : Type*} {roster : Roster α} {slot other : ℕ} {value : α} {p : α → Bool} {f : α → α}

def empty : Roster α := ⟨[], 0, List.nodup_nil, by simp⟩

instance : Inhabited (Roster α) := ⟨empty⟩

/-- The records, in list order. -/
def values (roster : Roster α) : List α := roster.entries.map Prod.snd

/-- The record in a slot. -/
def get (roster : Roster α) (slot : ℕ) : Option α :=
  (roster.entries.find? fun entry => decide (entry.1 = slot)).map Prod.snd

/-- The slot of the first record that satisfies `p`. -/
def find? (roster : Roster α) (p : α → Bool) : Option ℕ :=
  (roster.entries.find? fun entry => p entry.2).map Prod.fst

/-- Change the record of a slot in place. -/
def modify (roster : Roster α) (slot : ℕ) (f : α → α) : Roster α where
  entries := roster.entries.map fun entry => if entry.1 = slot then (entry.1, f entry.2) else entry
  next := roster.next
  slots_nodup := by
    have hfst : (Prod.fst ∘ fun entry : ℕ × α =>
        if entry.1 = slot then (entry.1, f entry.2) else entry) = Prod.fst := by
      funext entry
      simp only [Function.comp_apply]
      split <;> rfl
    rw [List.map_map, hfst]
    exact roster.slots_nodup
  slots_lt := by
    intro entry hentry
    obtain ⟨old, hold, rfl⟩ := List.mem_map.mp hentry
    have hlt := roster.slots_lt old hold
    split <;> exact hlt

/-- Add a record at the end, in a new slot. -/
def push (roster : Roster α) (value : α) : Roster α where
  entries := roster.entries ++ [(roster.next, value)]
  next := roster.next + 1
  slots_nodup := by
    rw [List.map_append, List.nodup_append]
    refine ⟨roster.slots_nodup, List.nodup_singleton _, ?_⟩
    intro old hold new hnew heq
    obtain ⟨entry, hentry, rfl⟩ := List.mem_map.mp hold
    have hlt := roster.slots_lt entry hentry
    simp only [List.map_cons, List.map_nil, List.mem_singleton] at hnew
    omega
  slots_lt := by
    intro entry hentry
    rcases List.mem_append.mp hentry with hold | hnew
    · have hlt := roster.slots_lt entry hold
      omega
    · rw [List.mem_singleton] at hnew
      subst hnew
      exact Nat.lt_succ_self _

/-- Remove the records that fail `p`. -/
def retain (roster : Roster α) (p : α → Bool) : Roster α where
  entries := roster.entries.filter fun entry => p entry.2
  next := roster.next
  slots_nodup := roster.slots_nodup.sublist (List.filter_sublist.map Prod.fst)
  slots_lt := fun entry hentry => roster.slots_lt entry (List.mem_of_mem_filter hentry)

/-- Change every record in place. -/
def mapValues (roster : Roster α) (f : α → α) : Roster α where
  entries := roster.entries.map fun entry => (entry.1, f entry.2)
  next := roster.next
  slots_nodup := by
    rw [List.map_map]
    exact roster.slots_nodup
  slots_lt := by
    intro entry hentry
    obtain ⟨old, hold, rfl⟩ := List.mem_map.mp hentry
    exact roster.slots_lt old hold

/-! ## What every slot holds -/

/-- The entries are exactly the occupied slots. -/
theorem mem_entries_iff : (slot, value) ∈ roster.entries ↔ roster.get slot = some value := by
  have hnodup := roster.slots_nodup
  unfold get
  generalize roster.entries = entries at hnodup
  induction entries with
  | nil => simp
  | cons entry entries ih =>
      rw [List.map_cons, List.nodup_cons] at hnodup
      have hrest := ih hnodup.2
      by_cases hslot : entry.1 = slot
      · rw [List.find?_cons_of_pos (by simpa using hslot), Option.map_some, Option.some_inj,
          List.mem_cons]
        constructor
        · rintro (rfl | hmem)
          · rfl
          · -- the slot would occur twice
            exact absurd (hslot ▸ List.mem_map_of_mem hmem) hnodup.1
        · rintro rfl
          exact Or.inl (by rw [← hslot])
      · rw [List.find?_cons_of_neg (by simpa using hslot), List.mem_cons]
        refine Iff.trans (or_iff_right fun heq => hslot ?_) hrest
        rw [← heq]

theorem lt_next_of_get (hget : roster.get slot = some value) : slot < roster.next :=
  roster.slots_lt _ (mem_entries_iff.mpr hget)

theorem mem_values_iff : value ∈ roster.values ↔ ∃ slot, roster.get slot = some value := by
  unfold values
  rw [List.mem_map]
  constructor
  · rintro ⟨⟨slot, value⟩, hmem, rfl⟩
    exact ⟨slot, mem_entries_iff.mp hmem⟩
  · rintro ⟨slot, hget⟩
    exact ⟨(slot, value), mem_entries_iff.mpr hget, rfl⟩

/-- Two rosters that agree on membership agree on `get`. -/
private theorem get_eq_of_iff {left right : Option α}
    (hiff : ∀ value, left = some value ↔ right = some value) : left = right :=
  Option.ext fun value => hiff value

@[simp] theorem get_empty : (empty : Roster α).get slot = none := rfl

theorem get_modify : (roster.modify slot f).get other =
    if other = slot then (roster.get other).map f else roster.get other := by
  refine get_eq_of_iff fun value => ?_
  rw [← mem_entries_iff]
  unfold modify
  rw [List.mem_map]
  constructor
  · rintro ⟨⟨old, held⟩, hmem, heq⟩
    have hget := mem_entries_iff.mp hmem
    by_cases hold : old = slot
    · rw [if_pos hold] at heq
      obtain ⟨rfl, rfl⟩ := Prod.mk.inj heq
      rw [if_pos hold, hget, Option.map_some]
    · rw [if_neg hold] at heq
      obtain ⟨rfl, rfl⟩ := Prod.mk.inj heq
      rw [if_neg hold, hget]
  · intro hget
    by_cases hother : other = slot
    · rw [if_pos hother, Option.map_eq_some_iff] at hget
      obtain ⟨held, hheld, rfl⟩ := hget
      exact ⟨(other, held), mem_entries_iff.mpr hheld, if_pos hother⟩
    · rw [if_neg hother] at hget
      exact ⟨(other, value), mem_entries_iff.mpr hget, if_neg hother⟩

@[simp] theorem get_modify_self : (roster.modify slot f).get slot = (roster.get slot).map f := by
  rw [get_modify, if_pos rfl]

theorem get_modify_of_ne (hne : other ≠ slot) :
    (roster.modify slot f).get other = roster.get other := by
  rw [get_modify, if_neg hne]

theorem get_push : (roster.push value).get other =
    if other = roster.next then some value else roster.get other := by
  refine get_eq_of_iff fun held => ?_
  rw [← mem_entries_iff]
  unfold push
  rw [List.mem_append, List.mem_singleton, mem_entries_iff, Prod.mk.injEq]
  by_cases hother : other = roster.next
  · rw [if_pos hother, Option.some_inj]
    have hfree : ¬roster.get other = some held := fun hget => by
      have := lt_next_of_get hget
      omega
    rw [or_iff_right hfree, and_iff_right hother]
    exact eq_comm
  · rw [if_neg hother]
    exact or_iff_left fun hboth => hother hboth.1

@[simp] theorem get_push_self : (roster.push value).get roster.next = some value := by
  rw [get_push, if_pos rfl]

theorem get_retain : (roster.retain p).get slot = (roster.get slot).filter p := by
  refine get_eq_of_iff fun value => ?_
  rw [← mem_entries_iff, Option.filter_eq_some_iff]
  unfold retain
  rw [List.mem_filter, mem_entries_iff]

theorem get_mapValues : (roster.mapValues f).get slot = (roster.get slot).map f := by
  refine get_eq_of_iff fun value => ?_
  rw [← mem_entries_iff, Option.map_eq_some_iff]
  unfold mapValues
  rw [List.mem_map]
  constructor
  · rintro ⟨⟨old, held⟩, hmem, heq⟩
    obtain ⟨rfl, rfl⟩ := Prod.mk.inj heq
    exact ⟨held, mem_entries_iff.mp hmem, rfl⟩
  · rintro ⟨held, hheld, rfl⟩
    exact ⟨(slot, held), mem_entries_iff.mpr hheld, rfl⟩

/-! ## The first record of a kind -/

theorem exists_of_find? (hfind : roster.find? p = some slot) :
    ∃ value, roster.get slot = some value ∧ p value = true := by
  unfold find? at hfind
  obtain ⟨⟨found, value⟩, hentry, rfl⟩ := Option.map_eq_some_iff.mp hfind
  have hp := List.find?_some hentry
  exact ⟨value, mem_entries_iff.mp (List.mem_of_find?_eq_some hentry), hp⟩

theorem find?_eq_none_iff :
    roster.find? p = none ↔ ∀ slot value, roster.get slot = some value → p value = false := by
  unfold find?
  rw [Option.map_eq_none_iff, List.find?_eq_none]
  constructor
  · intro hall slot value hget
    exact Bool.eq_false_iff.mpr (hall (slot, value) (mem_entries_iff.mpr hget))
  · intro hall entry hentry
    exact Bool.eq_false_iff.mp (hall entry.1 entry.2 (mem_entries_iff.mp hentry))

/-- A change that `p` does not see leaves the lookup alone. -/
theorem find?_modify
    (hp : ∀ value, roster.get slot = some value → p (f value) = p value) :
    (roster.modify slot f).find? p = roster.find? p := by
  unfold find? modify
  rw [List.find?_map, Option.map_map]
  have hseen : ∀ entry ∈ roster.entries,
      ((fun entry : ℕ × α => p entry.2) ∘ fun entry : ℕ × α =>
        if entry.1 = slot then (entry.1, f entry.2) else entry) entry = p entry.2 := by
    intro entry hentry
    rw [Function.comp_apply]
    by_cases hslot : entry.1 = slot
    · rw [if_pos hslot]
      exact hp entry.2 (hslot ▸ mem_entries_iff.mp hentry)
    · rw [if_neg hslot]
  rw [List.find?_congr hseen]
  refine congrArg (fun g => Option.map g _) (funext fun entry => ?_)
  rw [Function.comp_apply]
  split
  · rfl
  · rfl

/-! ## Keys that occur once -/

variable {κ : Type*} {key : α → Option κ}

/-- No two records have the same key; a record without a key does not matter. -/
def UniqueBy (key : α → Option κ) (roster : Roster α) : Prop :=
  ∀ left right value value' k, roster.get left = some value → roster.get right = some value' →
    key value = some k → key value' = some k → left = right

theorem UniqueBy.empty : UniqueBy key (empty : Roster α) := by
  intro left right value value' k hleft
  rw [get_empty] at hleft
  cases hleft

/-- Records that keep their keys, and fewer of them. -/
theorem UniqueBy.of_get {after : Roster α} (hunique : UniqueBy key roster)
    (hget : ∀ slot value', after.get slot = some value' →
      ∃ value, roster.get slot = some value ∧ key value' = key value) : UniqueBy key after := by
  intro left right value value' k hleft hright hkey hkey'
  obtain ⟨old, hold, hsame⟩ := hget left value hleft
  obtain ⟨old', hold', hsame'⟩ := hget right value' hright
  exact hunique left right old old' k hold hold' (hsame ▸ hkey) (hsame' ▸ hkey')

theorem UniqueBy.push (hunique : UniqueBy key roster)
    (hnew : ∀ slot held k, roster.get slot = some held → key value = some k →
      key held ≠ some k) : UniqueBy key (roster.push value) := by
  intro left right leftValue rightValue k hleft hright hkey hkey'
  rw [get_push] at hleft hright
  by_cases hleftNew : left = roster.next
  · by_cases hrightNew : right = roster.next
    · rw [hleftNew, hrightNew]
    · rw [if_pos hleftNew, Option.some_inj] at hleft
      rw [if_neg hrightNew] at hright
      subst hleft
      exact absurd hkey' (hnew right rightValue k hright hkey)
  · by_cases hrightNew : right = roster.next
    · rw [if_neg hleftNew] at hleft
      rw [if_pos hrightNew, Option.some_inj] at hright
      subst hright
      exact absurd hkey (hnew left leftValue k hleft hkey')
    · rw [if_neg hleftNew] at hleft
      rw [if_neg hrightNew] at hright
      exact hunique left right leftValue rightValue k hleft hright hkey hkey'

/-- A record that is changed in place takes a key nobody else has. -/
theorem uniqueBy_modify_iff (hunique : UniqueBy key roster) (hget : roster.get slot = some value) :
    UniqueBy key (roster.modify slot f) ↔
      ∀ k, key (f value) = some k → ∀ other held, other ≠ slot → roster.get other = some held →
        key held ≠ some k := by
  have hself : (roster.modify slot f).get slot = some (f value) := by
    rw [get_modify_self, hget, Option.map_some]
  constructor
  · intro hafter k hkey other held hne hheld hsame
    have hother : (roster.modify slot f).get other = some held := by
      rw [get_modify_of_ne hne, hheld]
    exact hne (hafter other slot held (f value) k hother hself hsame hkey)
  · intro hfree left right leftValue rightValue k hleft hright hkey hkey'
    by_cases hleftSlot : left = slot
    · by_cases hrightSlot : right = slot
      · rw [hleftSlot, hrightSlot]
      · rw [hleftSlot, hself, Option.some_inj] at hleft
        rw [get_modify_of_ne hrightSlot] at hright
        subst hleft
        exact absurd hkey' (hfree k hkey right rightValue hrightSlot hright)
    · by_cases hrightSlot : right = slot
      · rw [hrightSlot, hself, Option.some_inj] at hright
        rw [get_modify_of_ne hleftSlot] at hleft
        subst hright
        exact absurd hkey (hfree k hkey' left leftValue hleftSlot hleft)
      · rw [get_modify_of_ne hleftSlot] at hleft
        rw [get_modify_of_ne hrightSlot] at hright
        exact hunique left right leftValue rightValue k hleft hright hkey hkey'

end Roster
