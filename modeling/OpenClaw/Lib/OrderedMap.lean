import Mathlib.Data.List.Perm.Subperm
import Mathlib.Data.List.Basic
import Mathlib.Data.List.Nodup
import Mathlib.Data.List.Dedup

/-!
# Maps that remember insertion order

A finite map as a list of bindings with distinct keys.  `set` overwrites a key
where it stands and appends a new one at the end, which is how a JavaScript
`Map` orders its entries; a reader that must not depend on the order quantifies
over permutations of the entries instead (`IterOrder`).

That the keys are distinct is a field of the structure, so no operation below
has to be given it again.  Two maps are the same finite function when they
agree on `get` (`OrderedMap.Same`); the list of entries only adds the order.
-/

/-- A finite map from `κ` to `ν`, its entries in insertion order. -/
structure OrderedMap (κ ν : Type*) where
  entries : List (κ × ν)
  nodup_keys : (entries.map Prod.fst).Nodup

namespace OrderedMap

variable {κ ν μ : Type*}

/-- The map without entries. -/
def empty : OrderedMap κ ν := ⟨[], List.nodup_nil⟩

instance : EmptyCollection (OrderedMap κ ν) := ⟨empty⟩

instance : Inhabited (OrderedMap κ ν) := ⟨empty⟩

def keys (map : OrderedMap κ ν) : List κ := map.entries.map Prod.fst

def values (map : OrderedMap κ ν) : List ν := map.entries.map Prod.snd

/-- Keep the entries that satisfy `keep`, in their order. -/
def filter (keep : κ → ν → Bool) (map : OrderedMap κ ν) : OrderedMap κ ν :=
  ⟨map.entries.filter fun entry => keep entry.1 entry.2,
    map.nodup_keys.sublist (List.filter_sublist.map Prod.fst)⟩

/-- Replace every value, keeping keys and order. -/
def mapValues (change : κ → ν → μ) (map : OrderedMap κ ν) : OrderedMap κ μ :=
  ⟨map.entries.map fun entry => (entry.1, change entry.1 entry.2), by
    simpa [List.map_map, Function.comp_def] using map.nodup_keys⟩

theorem mem_values_of_mem_filter {map : OrderedMap κ ν} {keep : κ → ν → Bool} {value : ν}
    (hmem : value ∈ (map.filter keep).values) : value ∈ map.values := by
  obtain ⟨entry, hentry, rfl⟩ := List.mem_map.mp hmem
  exact List.mem_map_of_mem (List.mem_of_mem_filter hentry)

theorem mem_values_mapValues {map : OrderedMap κ ν} {change : κ → ν → μ} {value : μ}
    (hmem : value ∈ (map.mapValues change).values) :
    ∃ key old, old ∈ map.values ∧ change key old = value := by
  obtain ⟨_, hentry, rfl⟩ := List.mem_map.mp hmem
  obtain ⟨entry, hold, rfl⟩ := List.mem_map.mp hentry
  exact ⟨entry.1, entry.2, List.mem_map_of_mem hold, rfl⟩

section DecidableKeys

variable [DecidableEq κ]

/-- The value stored under `key`. -/
def get (map : OrderedMap κ ν) (key : κ) : Option ν :=
  (map.entries.find? fun entry => decide (entry.1 = key)).map Prod.snd

/-- Overwrite `key` where it stands, or append it. -/
def setEntries (key : κ) (value : ν) : List (κ × ν) → List (κ × ν)
  | [] => [(key, value)]
  | entry :: rest =>
      if entry.1 = key then (key, value) :: rest else entry :: setEntries key value rest

theorem mem_keys_setEntries (key : κ) (value : ν) (entries : List (κ × ν)) (other : κ) :
    other ∈ (setEntries key value entries).map Prod.fst ↔
      other = key ∨ other ∈ entries.map Prod.fst := by
  induction entries with
  | nil => simp [setEntries]
  | cons entry rest ih =>
      unfold setEntries
      split
      · next heq => simp [heq]
      · simp only [List.map_cons, List.mem_cons, ih]
        tauto

theorem nodup_keys_setEntries (key : κ) (value : ν) {entries : List (κ × ν)}
    (hnodup : (entries.map Prod.fst).Nodup) :
    ((setEntries key value entries).map Prod.fst).Nodup := by
  induction entries with
  | nil => simp [setEntries]
  | cons entry rest ih =>
      rw [List.map_cons, List.nodup_cons] at hnodup
      unfold setEntries
      split
      · next heq => simpa [heq] using hnodup
      · next hne =>
          rw [List.map_cons, List.nodup_cons, mem_keys_setEntries]
          exact ⟨not_or.mpr ⟨hne, hnodup.1⟩, ih hnodup.2⟩

/-- `map[key] = value`. -/
def set (map : OrderedMap κ ν) (key : κ) (value : ν) : OrderedMap κ ν :=
  ⟨setEntries key value map.entries, nodup_keys_setEntries key value map.nodup_keys⟩

/-- `delete map[key]`. -/
def erase (map : OrderedMap κ ν) (key : κ) : OrderedMap κ ν :=
  map.filter fun other _ => decide (other ≠ key)

/-- Insert the bindings of a list one after the other: the last one wins. -/
def ofList (bindings : List (κ × ν)) : OrderedMap κ ν :=
  bindings.foldl (fun map binding => map.set binding.1 binding.2) ∅

/-- The two maps are the same finite function. -/
def Same (left right : OrderedMap κ ν) : Prop := ∀ key, left.get key = right.get key

/-! ## Reading -/

theorem get_eq_some_iff {map : OrderedMap κ ν} {key : κ} {value : ν} :
    map.get key = some value ↔ (key, value) ∈ map.entries := by
  obtain ⟨entries, hnodup⟩ := map
  simp only [get]
  induction entries with
  | nil => simp
  | cons entry rest ih =>
      rw [List.map_cons, List.nodup_cons] at hnodup
      have hrest := ih hnodup.2
      by_cases heq : entry.1 = key
      · subst heq
        have hfresh : (entry.1, value) ∉ rest := fun hmem =>
          hnodup.1 (List.mem_map.mpr ⟨_, hmem, rfl⟩)
        rw [List.find?_cons_of_pos (by simp)]
        constructor
        · intro hvalue
          obtain rfl : entry.2 = value := by simpa using hvalue
          exact List.mem_cons_self
        · intro hmem
          rcases List.mem_cons.mp hmem with hentry | hmem
          · exact congrArg (fun pair => some pair.2) hentry.symm
          · exact absurd hmem hfresh
      · rw [List.find?_cons_of_neg (by simpa using heq), hrest, List.mem_cons]
        constructor
        · exact Or.inr
        · rintro (hentry | hmem)
          · exact absurd (congrArg Prod.fst hentry).symm heq
          · exact hmem

omit [DecidableEq κ] in
theorem eq_empty_of_length {map : OrderedMap κ ν} (hlength : map.entries.length = 0) : map = ∅ := by
  obtain ⟨entries, hnodup⟩ := map
  have hnil : entries = [] := List.length_eq_zero_iff.mp hlength
  subst hnil
  rfl

theorem get_eq_none_iff {map : OrderedMap κ ν} {key : κ} :
    map.get key = none ↔ key ∉ map.keys := by
  simp only [get, keys, Option.map_eq_none_iff, List.find?_eq_none, List.mem_map, not_exists,
    not_and, decide_eq_true_eq]

theorem mem_keys_iff {map : OrderedMap κ ν} {key : κ} :
    key ∈ map.keys ↔ ∃ value, map.get key = some value := by
  rw [← not_iff_not, ← get_eq_none_iff, Option.eq_none_iff_forall_ne_some, not_exists]

theorem mem_values_iff {map : OrderedMap κ ν} {value : ν} :
    value ∈ map.values ↔ ∃ key, map.get key = some value := by
  simp [values, get_eq_some_iff]

@[simp] theorem get_empty (key : κ) : (∅ : OrderedMap κ ν).get key = none := rfl

theorem find?_setEntries_self (key : κ) (value : ν) (entries : List (κ × ν)) :
    (setEntries key value entries).find? (fun entry => decide (entry.1 = key)) =
      some (key, value) := by
  induction entries with
  | nil => simp [setEntries]
  | cons entry rest ih =>
      unfold setEntries
      split
      · simp
      · next hne => rw [List.find?_cons_of_neg (by simpa using hne), ih]

theorem find?_setEntries_ne {key other : κ} (hne : other ≠ key) (value : ν)
    (entries : List (κ × ν)) :
    (setEntries key value entries).find? (fun entry => decide (entry.1 = other)) =
      entries.find? (fun entry => decide (entry.1 = other)) := by
  induction entries with
  | nil => simp [setEntries, hne.symm]
  | cons entry rest ih =>
      unfold setEntries
      split
      · next heq => simp [heq, hne.symm]
      · simp only [List.find?_cons, ih]

@[simp] theorem get_set_self (map : OrderedMap κ ν) (key : κ) (value : ν) :
    (map.set key value).get key = some value := by
  simp [get, set, find?_setEntries_self]

theorem get_set_of_ne (map : OrderedMap κ ν) {key other : κ} (value : ν) (hne : other ≠ key) :
    (map.set key value).get other = map.get other := by
  simp [get, set, find?_setEntries_ne hne]

theorem get_set (map : OrderedMap κ ν) (key other : κ) (value : ν) :
    (map.set key value).get other = if other = key then some value else map.get other := by
  split
  · next heq => rw [heq, get_set_self]
  · next hne => exact get_set_of_ne map value hne

theorem get_filter (map : OrderedMap κ ν) (keep : κ → ν → Bool) (key : κ) :
    (map.filter keep).get key = (map.get key).filter (keep key) := by
  ext value
  simp only [get_eq_some_iff, filter, List.mem_filter, Option.filter_eq_some_iff]

theorem get_filter_eq_some_iff {map : OrderedMap κ ν} {keep : κ → ν → Bool} {key : κ} {value : ν} :
    (map.filter keep).get key = some value ↔ map.get key = some value ∧ keep key value = true := by
  rw [get_filter, Option.filter_eq_some_iff]

theorem get_of_get_filter {map : OrderedMap κ ν} {keep : κ → ν → Bool} {key : κ} {value : ν}
    (hget : (map.filter keep).get key = some value) : map.get key = some value :=
  (get_filter_eq_some_iff.mp hget).1

/-- A filter that every value passes. -/
theorem get_filter_of_forall {map : OrderedMap κ ν} {keep : κ → ν → Bool}
    (hkeep : ∀ key value, map.get key = some value → keep key value = true) (key : κ) :
    (map.filter keep).get key = map.get key := by
  rw [get_filter]
  cases hget : map.get key with
  | none => rfl
  | some value => rw [Option.filter_some, hkeep key value hget, if_pos rfl]

@[simp] theorem get_erase_self (map : OrderedMap κ ν) (key : κ) :
    (map.erase key).get key = none := by
  simp [erase, get_filter]

theorem get_erase_of_ne (map : OrderedMap κ ν) {key other : κ} (hne : other ≠ key) :
    (map.erase key).get other = map.get other := by
  rw [erase, get_filter]
  simp only [ne_eq, hne, not_false_eq_true, decide_true]
  cases map.get other <;> rfl

theorem get_erase (map : OrderedMap κ ν) (key other : κ) :
    (map.erase key).get other = if other = key then none else map.get other := by
  split
  · next heq => rw [heq, get_erase_self]
  · next hne => exact get_erase_of_ne map hne

/-- What an erased map still has, it had, under another key. -/
theorem of_get_erase {map : OrderedMap κ ν} {key other : κ} {value : ν}
    (hget : (map.erase key).get other = some value) :
    other ≠ key ∧ map.get other = some value := by
  rw [get_erase] at hget
  split at hget
  · cases hget
  · next hne => exact ⟨hne, hget⟩

theorem get_of_get_erase {map : OrderedMap κ ν} {key other : κ} {value : ν}
    (hget : (map.erase key).get other = some value) : map.get other = some value :=
  (of_get_erase hget).2

/-- A binding after `set` is the new one, or an old one under another key. -/
theorem of_get_set {map : OrderedMap κ ν} {key other : κ} {new value : ν}
    (hget : (map.set key new).get other = some value) :
    (other = key ∧ value = new) ∨ (other ≠ key ∧ map.get other = some value) := by
  rw [get_set] at hget
  by_cases hkey : other = key
  · rw [if_pos hkey] at hget
    exact Or.inl ⟨hkey, (Option.some_inj.mp hget).symm⟩
  · rw [if_neg hkey] at hget
    exact Or.inr ⟨hkey, hget⟩

theorem get_mapValues (map : OrderedMap κ ν) (change : κ → ν → μ) (key : κ) :
    (map.mapValues change).get key = (map.get key).map (change key) := by
  ext value
  simp only [get_eq_some_iff, mapValues, List.mem_map, Prod.mk.injEq, Option.map_eq_some_iff]
  constructor
  · rintro ⟨⟨entryKey, entryValue⟩, hmem, rfl, rfl⟩
    exact ⟨entryValue, hmem, rfl⟩
  · rintro ⟨entryValue, hmem, rfl⟩
    exact ⟨(key, entryValue), hmem, rfl, rfl⟩

/-! ## Values that name their key -/

/-- Every value stands under the key that it names. -/
def KeyedBy (keyOf : ν → κ) (map : OrderedMap κ ν) : Prop :=
  ∀ key value, map.get key = some value → keyOf value = key

section KeyedBy

variable {keyOf : ν → κ} {map : OrderedMap κ ν}

theorem KeyedBy.empty : KeyedBy keyOf (∅ : OrderedMap κ ν) :=
  fun _ _ hget => nomatch hget

theorem KeyedBy.set (hkeyed : KeyedBy keyOf map) {key : κ} {value : ν}
    (hkey : keyOf value = key) : KeyedBy keyOf (map.set key value) := by
  intro other found hget
  rw [get_set] at hget
  split at hget
  · next heq =>
      obtain rfl := Option.some.inj hget
      rw [heq]
      exact hkey
  · exact hkeyed _ _ hget

theorem KeyedBy.filter (hkeyed : KeyedBy keyOf map) (keep : κ → ν → Bool) :
    KeyedBy keyOf (map.filter keep) := by
  intro key value hget
  rw [get_filter, Option.filter_eq_some_iff] at hget
  exact hkeyed _ _ hget.1

theorem KeyedBy.erase (hkeyed : KeyedBy keyOf map) (key : κ) : KeyedBy keyOf (map.erase key) :=
  hkeyed.filter _

theorem KeyedBy.mapValues (hkeyed : KeyedBy keyOf map) {change : κ → ν → ν}
    (hchange : ∀ key value, keyOf (change key value) = keyOf value) :
    KeyedBy keyOf (map.mapValues change) := by
  intro key value hget
  rw [get_mapValues] at hget
  obtain ⟨old, hold, rfl⟩ := Option.map_eq_some_iff.mp hget
  rw [hchange]
  exact hkeyed _ _ hold

end KeyedBy

/-! ## The values after a change -/

theorem mem_values_of_get {map : OrderedMap κ ν} {key : κ} {value : ν}
    (hget : map.get key = some value) : value ∈ map.values :=
  mem_values_iff.mpr ⟨key, hget⟩

theorem eq_or_mem_of_mem_values_set {map : OrderedMap κ ν} {key : κ} {value other : ν}
    (hmem : other ∈ (map.set key value).values) : other = value ∨ other ∈ map.values := by
  obtain ⟨_, hget⟩ := mem_values_iff.mp hmem
  rw [get_set] at hget
  split at hget
  · exact Or.inl (Option.some.inj hget).symm
  · exact Or.inr (mem_values_of_get hget)

theorem mem_values_of_mem_erase {map : OrderedMap κ ν} {key : κ} {value : ν}
    (hmem : value ∈ (map.erase key).values) : value ∈ map.values :=
  mem_values_of_mem_filter hmem

/-! ### Walks over bindings that touch one key at a time -/

section Update

variable {μ : Type*} {step : OrderedMap κ ν → κ × μ → OrderedMap κ ν} {bindings : List (κ × μ)}
  {key : κ}

theorem get_foldl_of_not_mem
    (hother : ∀ (map : OrderedMap κ ν) binding key, key ≠ binding.1 →
      (step map binding).get key = map.get key)
    (map : OrderedMap κ ν) (hfresh : key ∉ bindings.map Prod.fst) :
    (bindings.foldl step map).get key = map.get key := by
  induction bindings generalizing map with
  | nil => rfl
  | cons binding rest ih =>
      rw [List.map_cons, List.mem_cons, not_or] at hfresh
      rw [List.foldl_cons, ih _ hfresh.2, hother _ _ _ hfresh.1]

/-- When the keys are distinct each value meets the map as it was. -/
theorem get_foldl_of_mem {own : κ → Option ν → μ → Option ν}
    (hown : ∀ (map : OrderedMap κ ν) binding,
      (step map binding).get binding.1 = own binding.1 (map.get binding.1) binding.2)
    (hother : ∀ (map : OrderedMap κ ν) binding key, key ≠ binding.1 →
      (step map binding).get key = map.get key)
    (map : OrderedMap κ ν) (hnodup : (bindings.map Prod.fst).Nodup) {value : μ}
    (hmem : (key, value) ∈ bindings) :
    (bindings.foldl step map).get key = own key (map.get key) value := by
  induction bindings generalizing map with
  | nil => simp at hmem
  | cons binding rest ih =>
      rw [List.map_cons, List.nodup_cons] at hnodup
      rw [List.foldl_cons]
      rcases List.mem_cons.mp hmem with rfl | hrest
      · rw [get_foldl_of_not_mem hother _ hnodup.1, hown]
      · have hne : key ≠ binding.1 := by
          rintro rfl
          exact hnodup.1 (List.mem_map.mpr ⟨_, hrest, rfl⟩)
        rw [ih _ hnodup.2 hrest, hother _ _ _ hne]

end Update

private theorem get_foldl_set_of_mem {key : κ} {value : ν} {bindings : List (κ × ν)}
    (map : OrderedMap κ ν) (hnodup : (bindings.map Prod.fst).Nodup)
    (hmem : (key, value) ∈ bindings) :
    (bindings.foldl (fun map binding => map.set binding.1 binding.2) map).get key =
      some value := by
  have hown : ∀ (map : OrderedMap κ ν) (binding : κ × ν),
      (map.set binding.1 binding.2).get binding.1 = some binding.2 :=
    fun map binding => get_set_self map binding.1 binding.2
  have hother : ∀ (map : OrderedMap κ ν) (binding : κ × ν) key, key ≠ binding.1 →
      (map.set binding.1 binding.2).get key = map.get key :=
    fun map binding _ hne => get_set_of_ne map binding.2 hne
  exact @get_foldl_of_mem _ _ _ _ _ _ _ (fun _ _ value => some value) hown hother map hnodup _ hmem

/-- Bindings with distinct keys are the entries of the map they build. -/
theorem get_ofList {key : κ} {value : ν} {bindings : List (κ × ν)}
    (hnodup : (bindings.map Prod.fst).Nodup) :
    (ofList bindings).get key = some value ↔ (key, value) ∈ bindings := by
  constructor
  · intro hget
    by_cases hmem : key ∈ bindings.map Prod.fst
    · obtain ⟨⟨_, other⟩, hother, rfl⟩ := List.mem_map.mp hmem
      rw [ofList, get_foldl_set_of_mem ∅ hnodup hother] at hget
      rwa [← Option.some.inj hget]
    · have hnone := get_foldl_of_not_mem (fun map binding _ hne =>
        get_set_of_ne map binding.2 hne) (∅ : OrderedMap κ ν) hmem
      rw [ofList, hnone, get_empty] at hget
      cases hget
  · exact get_foldl_set_of_mem ∅ hnodup

private theorem mem_keys_foldl_set {key : κ} (bindings : List (κ × ν)) (map : OrderedMap κ ν) :
    key ∈ (bindings.foldl (fun map binding => map.set binding.1 binding.2) map).keys ↔
      key ∈ bindings.map Prod.fst ∨ key ∈ map.keys := by
  induction bindings generalizing map with
  | nil => simp
  | cons binding rest ih =>
      have hset : key ∈ (map.set binding.1 binding.2).keys ↔ key = binding.1 ∨ key ∈ map.keys :=
        mem_keys_setEntries _ _ _ _
      rw [List.foldl_cons, ih, hset, List.map_cons, List.mem_cons]
      tauto

@[simp] theorem mem_keys_ofList {key : κ} {bindings : List (κ × ν)} :
    key ∈ (ofList bindings).keys ↔ key ∈ bindings.map Prod.fst := by
  rw [ofList, mem_keys_foldl_set]
  exact or_iff_left List.not_mem_nil

/-- Every binding of the map was given. -/
theorem mem_of_get_ofList {key : κ} {value : ν} {bindings : List (κ × ν)}
    (hget : (ofList bindings).get key = some value) : (key, value) ∈ bindings := by
  have hfold : ∀ (bindings : List (κ × ν)) (map : OrderedMap κ ν),
      (bindings.foldl (fun map binding => map.set binding.1 binding.2) map).get key = some value →
        (key, value) ∈ bindings ∨ map.get key = some value := by
    intro bindings
    induction bindings with
    | nil => exact fun map hget => Or.inr hget
    | cons binding rest ih =>
        intro map hget
        rcases ih _ hget with hrest | hset
        · exact Or.inl (List.mem_cons_of_mem _ hrest)
        · rw [get_set] at hset
          split at hset
          · next heq =>
              refine Or.inl (List.mem_cons.mpr (Or.inl ?_))
              rw [heq, ← Option.some_inj.mp hset]
          · exact Or.inr hset
  rcases hfold bindings ∅ hget with hmem | hempty
  · exact hmem
  · rw [get_empty] at hempty
    cases hempty

private theorem setEntries_of_not_mem {key : κ} {value : ν} {entries : List (κ × ν)}
    (hfresh : key ∉ entries.map Prod.fst) :
    setEntries key value entries = entries ++ [(key, value)] := by
  induction entries with
  | nil => rfl
  | cons entry rest ih =>
      rw [List.map_cons, List.mem_cons, not_or] at hfresh
      rw [setEntries, if_neg (Ne.symm hfresh.1), ih hfresh.2, List.cons_append]

/-- A new key goes to the end. -/
theorem entries_set_of_get_eq_none {map : OrderedMap κ ν} {key : κ} (value : ν)
    (hnone : map.get key = none) :
    (map.set key value).entries = map.entries ++ [(key, value)] :=
  setEntries_of_not_mem (get_eq_none_iff.mp hnone)

theorem keys_set_of_get_eq_none {map : OrderedMap κ ν} {key : κ} (value : ν)
    (hnone : map.get key = none) : (map.set key value).keys = map.keys ++ [key] := by
  rw [keys, entries_set_of_get_eq_none value hnone, List.map_append]
  rfl

private theorem setEntries_append_cons {key : κ} {old value : ν} {before after : List (κ × ν)}
    (hfresh : key ∉ before.map Prod.fst) :
    setEntries key value (before ++ (key, old) :: after) = before ++ (key, value) :: after := by
  induction before with
  | nil => exact if_pos rfl
  | cons entry rest ih =>
      rw [List.map_cons, List.mem_cons, not_or] at hfresh
      rw [List.cons_append, setEntries, if_neg (Ne.symm hfresh.1), ih hfresh.2, List.cons_append]

/-- A key that is there keeps its place when its value changes, and the others keep theirs
when it goes. -/
theorem exists_entries_of_get {map : OrderedMap κ ν} {key : κ} {old : ν}
    (hget : map.get key = some old) :
    ∃ before after, key ∉ before.map Prod.fst ∧ map.entries = before ++ (key, old) :: after ∧
      (∀ value, (map.set key value).entries = before ++ (key, value) :: after) ∧
        (map.erase key).entries = before ++ after := by
  obtain ⟨before, after, hentries⟩ := List.append_of_mem (get_eq_some_iff.mp hget)
  have hnodup : ((before ++ (key, old) :: after).map Prod.fst).Nodup := hentries ▸ map.nodup_keys
  rw [List.map_append, List.map_cons, List.nodup_append, List.nodup_cons] at hnodup
  obtain ⟨-, ⟨hafter, -⟩, hapart⟩ := hnodup
  have hbefore : key ∉ before.map Prod.fst :=
    fun hmem => hapart key hmem key (List.mem_cons_self ..) rfl
  have hkept : ∀ {entries : List (κ × ν)}, key ∉ entries.map Prod.fst →
      entries.filter (fun entry => decide (entry.1 ≠ key)) = entries := by
    intro entries hfresh
    refine List.filter_eq_self.mpr fun entry hentry => decide_eq_true ?_
    rintro rfl
    exact hfresh (List.mem_map_of_mem hentry)
  refine ⟨before, after, hbefore, hentries, fun value => ?_, ?_⟩
  · show setEntries key value map.entries = _
    rw [hentries]
    exact setEntries_append_cons hbefore
  · show map.entries.filter (fun entry => decide (entry.1 ≠ key)) = _
    rw [hentries, List.filter_append, List.filter_cons_of_neg (by simp), hkept hbefore,
      hkept hafter]

/-- Without its first key a map keeps the others in their order. -/
theorem keys_erase_of_keys_eq_cons {map : OrderedMap κ ν} {key : κ} {rest : List κ}
    (hkeys : map.keys = key :: rest) : (map.erase key).keys = rest := by
  have hfilter : (map.erase key).keys = map.keys.filter fun other => decide (other ≠ key) := by
    rw [keys, keys, List.filter_map]
    rfl
  have hnodup : (key :: rest).Nodup := hkeys ▸ map.nodup_keys
  rw [hfilter, hkeys, List.filter_cons_of_neg (by simp), List.filter_eq_self]
  intro other hother
  have hne : other ≠ key := fun heq => (List.nodup_cons.mp hnodup).1 (heq ▸ hother)
  exact decide_eq_true hne

/-- Bindings with distinct keys are the entries, in their order. -/
theorem entries_ofList {bindings : List (κ × ν)} (hnodup : (bindings.map Prod.fst).Nodup) :
    (ofList bindings).entries = bindings := by
  have hfold : ∀ (bindings : List (κ × ν)) (map : OrderedMap κ ν),
      ((map.entries ++ bindings).map Prod.fst).Nodup →
        (bindings.foldl (fun map binding => map.set binding.1 binding.2) map).entries =
          map.entries ++ bindings := by
    intro bindings
    induction bindings with
    | nil => exact fun map _ => (List.append_nil _).symm
    | cons binding rest ih =>
        intro map hnodup
        have hfresh : binding.1 ∉ map.entries.map Prod.fst := fun hmem => by
          rw [List.map_append, List.nodup_append] at hnodup
          exact hnodup.2.2 _ hmem _ List.mem_cons_self rfl
        have hset : (map.set binding.1 binding.2).entries = map.entries ++ [binding] :=
          setEntries_of_not_mem hfresh
        have hsplit : map.entries ++ binding :: rest = (map.entries ++ [binding]) ++ rest := by
          rw [List.append_assoc, List.singleton_append]
        rw [List.foldl_cons, ih, hset, hsplit]
        rw [hset, ← hsplit]
        exact hnodup
  exact hfold bindings ∅ hnodup

/-- A binding of a new key comes last. -/
theorem entries_ofList_concat {bindings : List (κ × ν)} {key : κ} {value : ν}
    (hfresh : key ∉ bindings.map Prod.fst) :
    (ofList (bindings ++ [(key, value)])).entries =
      (ofList bindings).entries ++ [(key, value)] := by
  have hnew : key ∉ (ofList bindings).entries.map Prod.fst := fun hmem =>
    hfresh (mem_keys_ofList.mp hmem)
  have hset : ofList (bindings ++ [(key, value)]) = (ofList bindings).set key value := by
    unfold ofList
    rw [List.foldl_append, List.foldl_cons, List.foldl_nil]
  rw [hset]
  exact setEntries_of_not_mem hnew

/-! ## The first of each key -/

section CollectFirst

variable {α : Type*} (keyOf : α → Option κ) (valueOf : α → ν)

/-- `if (!key || map.has(key)) continue; map.set(key, value)`. -/
def setFirst (map : OrderedMap κ ν) (a : α) : OrderedMap κ ν :=
  match keyOf a with
  | none => map
  | some key => if (map.get key).isSome then map else map.set key (valueOf a)

/-- Store each element under its key, if it has one and is the first with it. -/
def collectFirst (list : List α) : OrderedMap κ ν := list.foldl (setFirst keyOf valueOf) ∅

variable {keyOf valueOf}

private theorem get_foldl_setFirst (list : List α) (map : OrderedMap κ ν) (key : κ) :
    (list.foldl (setFirst keyOf valueOf) map).get key =
      (map.get key).or ((list.find? fun a => decide (keyOf a = some key)).map valueOf) := by
  induction list generalizing map with
  | nil => simp
  | cons a rest ih =>
      rw [List.foldl_cons, ih, List.find?_cons]
      unfold setFirst
      by_cases heq : keyOf a = some key
      · simp only [heq, decide_true]
        cases hold : map.get key with
        | none => simp
        | some old => simp [hold]
      · simp only [heq, decide_false]
        cases hkey : keyOf a with
        | none => rfl
        | some other =>
            have hne : key ≠ other := fun h => heq (h ▸ hkey)
            dsimp only
            split
            · rfl
            · rw [get_set_of_ne _ _ hne]

theorem get_collectFirst (list : List α) (key : κ) :
    (collectFirst keyOf valueOf list).get key =
      (list.find? fun a => decide (keyOf a = some key)).map valueOf := by
  rw [collectFirst, get_foldl_setFirst, get_empty, Option.none_or]

/-- The values, with the element each of them comes from. -/
theorem mem_collectFirst {list : List α} {key : κ} {value : ν} :
    (key, value) ∈ (collectFirst keyOf valueOf list).entries ↔
      ∃ a, (list.find? fun a => decide (keyOf a = some key)) = some a ∧ valueOf a = value := by
  rw [← get_eq_some_iff, get_collectFirst, Option.map_eq_some_iff]

/-- A function that reads the key back off the value separates the values. -/
theorem map_values_collectFirst {readKey : ν → κ}
    (hread : ∀ a key, keyOf a = some key → readKey (valueOf a) = key) (list : List α) :
    (collectFirst keyOf valueOf list).values.map readKey =
      (collectFirst keyOf valueOf list).keys := by
  unfold values keys
  rw [List.map_map]
  refine List.map_congr_left fun entry hentry => ?_
  obtain ⟨a, hfind, hvalue⟩ := mem_collectFirst.mp hentry
  have hkey := List.find?_some hfind
  rw [Function.comp_apply, ← hvalue]
  exact hread a entry.1 (of_decide_eq_true hkey)

end CollectFirst

end DecidableKeys

end OrderedMap

/-! ## Sets -/

namespace OrderedSet

variable {α : Type*} [DecidableEq α]

/-- `set.add(a)`: a set is a list without repetition, in insertion order. -/
def insert (a : α) (set : List α) : List α := if a ∈ set then set else set ++ [a]

/-- `new Set(list)`: every element at its first occurrence. -/
def ofList (list : List α) : List α := list.foldl (fun set a => insert a set) []

@[simp] theorem mem_insert {a b : α} {set : List α} : b ∈ insert a set ↔ b = a ∨ b ∈ set := by
  unfold insert
  split
  · next hmem => exact ⟨Or.inr, fun h => h.elim (fun heq => heq ▸ hmem) id⟩
  · simp [or_comm]

theorem nodup_insert {a : α} {set : List α} (hnodup : set.Nodup) : (insert a set).Nodup := by
  unfold insert
  split
  · exact hnodup
  · next hfresh =>
      rw [List.nodup_append]
      refine ⟨hnodup, List.nodup_singleton a, ?_⟩
      rintro b hb _ hc rfl
      exact hfresh (List.mem_singleton.mp hc ▸ hb)

private theorem mem_foldl_insert {a : α} (list set : List α) :
    a ∈ list.foldl (fun set b => insert b set) set ↔ a ∈ set ∨ a ∈ list := by
  induction list generalizing set with
  | nil => simp
  | cons b rest ih =>
      rw [List.foldl_cons, ih, mem_insert, List.mem_cons]
      tauto

@[simp] theorem mem_ofList {a : α} {list : List α} : a ∈ ofList list ↔ a ∈ list := by
  simp [ofList, mem_foldl_insert]

private theorem nodup_foldl_insert (list : List α) {set : List α} (hnodup : set.Nodup) :
    (list.foldl (fun set b => insert b set) set).Nodup := by
  induction list generalizing set with
  | nil => exact hnodup
  | cons b rest ih => exact ih (nodup_insert hnodup)

theorem nodup_ofList (list : List α) : (ofList list).Nodup :=
  nodup_foldl_insert list List.nodup_nil

private theorem foldl_insert_of_nodup (list : List α) {set : List α}
    (hnodup : (set ++ list).Nodup) :
    list.foldl (fun set b => insert b set) set = set ++ list := by
  induction list generalizing set with
  | nil => simp
  | cons b rest ih =>
      have hfresh : b ∉ set := fun hmem =>
        (List.nodup_append.mp hnodup).2.2 b hmem b List.mem_cons_self rfl
      rw [List.foldl_cons, insert, if_neg hfresh, ih (by simpa using hnodup)]
      simp

theorem ofList_eq_self {list : List α} (hnodup : list.Nodup) : ofList list = list := by
  unfold ofList
  rw [foldl_insert_of_nodup list (by simpa using hnodup), List.nil_append]

end OrderedSet

/-! ## Iteration orders -/

/-- An order in which a runtime may walk an unordered container: some
permutation of its entries. -/
structure IterOrder where
  order : ∀ {α : Type}, List α → List α
  perm : ∀ {α : Type} (entries : List α), (order entries).Perm entries

namespace IterOrder

/-- The entries as they are stored. -/
def stored : IterOrder := ⟨fun entries => entries, fun _ => List.Perm.refl _⟩

instance : Inhabited IterOrder := ⟨stored⟩

@[simp] theorem mem_order (iter : IterOrder) {α : Type} {a : α} {entries : List α} :
    a ∈ iter.order entries ↔ a ∈ entries := (iter.perm entries).mem_iff

end IterOrder
