import OpenClaw.Lib.OrderedMap
import OpenClaw.Lib.StableSort
import OpenClaw.Runtime.Number

/-!
# JSON values and plain objects

A plain object `{}` used as a map is not one for every key.  A key that is not
among its own properties is looked up on `Object.prototype`, which has the
twelve names of `inheritedNames`; and assigning a number to `__proto__` does
nothing.  `PlainObject.read` and `PlainObject.assign` say so, and
`PlainObject.numberOrZero` is what arithmetic makes of `object[key] || 0`: an
inherited member is truthy and not a number.
-/

namespace OpenClaw.Runtime

open StableSort

/-- A JSON value.  The fields of an object are listed without repetition. -/
inductive Json
  | null
  | bool (value : Bool)
  | num (value : JsNumber)
  | str (value : String)
  | arr (elements : List Json)
  | obj (fields : List (String × Json))
deriving Inhabited

namespace Json

/-- `value?.[key]`: only objects have named fields. -/
def field (key : String) : Json → Option Json
  | obj fields => (fields.find? fun field => decide (field.1 = key)).map Prod.snd
  | _ => none

/-- `value && typeof value === "object"`. -/
def isObject : Json → Bool
  | arr _ => true
  | obj _ => true
  | _ => false

end Json

/-- The own properties of a plain object. -/
abbrev PlainObject (ν : Type) := OrderedMap String ν

/-- The names every plain object inherits from `Object.prototype`. -/
def inheritedNames : List String :=
  ["constructor", "__defineGetter__", "__defineSetter__", "hasOwnProperty", "__lookupGetter__",
    "__lookupSetter__", "isPrototypeOf", "propertyIsEnumerable", "toString", "valueOf",
    "__proto__", "toLocaleString"]

namespace PlainObject

/-- What `object[key]` gives. -/
inductive Read (ν : Type)
  | own (value : ν)
  | inherited
  | undefined

def read {ν : Type} (object : PlainObject ν) (key : String) : Read ν :=
  match object.get key with
  | some value => .own value
  | none => if key ∈ inheritedNames then .inherited else .undefined

/-- `object[key] = value` for a value that is not an object: the setter that
`__proto__` inherits ignores it. -/
def assign {ν : Type} (object : PlainObject ν) (key : String) (value : ν) : PlainObject ν :=
  if key = "__proto__" ∧ (object.get key).isNone then object else object.set key value

/-- `object[key] || 0` as arithmetic and comparisons read it. -/
def numberOrZero (object : PlainObject JsNumber) (key : String) : JsNumber :=
  match read object key with
  | .own value => value.orZero
  | .inherited => .nan
  | .undefined => 0

/-- A key that is an array index: decimal, without leading zeros, below
`2 ^ 32 - 1`. -/
def arrayIndex (key : String) : Option ℕ :=
  let value := key.toList.foldl (fun value c => 10 * value + (c.toNat - 48)) 0
  if key.toList ≠ [] ∧ key.toList.all Char.isDigit ∧ (key.toList.head? ≠ some '0' ∨ key = "0") ∧
      value < 2 ^ 32 - 1 then
    some value
  else none

/-- `Object.entries(object)`: array indices ascending, then the other keys as
they were added. -/
def ownEntries {ν : Type} (object : PlainObject ν) : List (String × ν) :=
  sortBy (fun left right => compare (arrayIndex left.1) (arrayIndex right.1))
      (object.entries.filter fun entry => (arrayIndex entry.1).isSome) ++
    object.entries.filter fun entry => (arrayIndex entry.1).isNone

/-- `Object.fromEntries(entries)`, which defines own properties whatever their
names. -/
def fromEntries {ν : Type} (entries : List (String × ν)) : PlainObject ν := .ofList entries

theorem ownEntries_perm {ν : Type} (object : PlainObject ν) :
    (ownEntries object).Perm object.entries := by
  have hsplit := List.filter_append_perm (fun entry : String × ν => (arrayIndex entry.1).isSome)
    object.entries
  have hnot : ∀ entry : String × ν,
      (!(arrayIndex entry.1).isSome) = (arrayIndex entry.1).isNone := fun _ => Option.not_isSome _
  simp only [hnot] at hsplit
  exact ((sortBy_perm _).append_right _).trans hsplit

theorem nodup_keys_ownEntries {ν : Type} (object : PlainObject ν) :
    ((ownEntries object).map Prod.fst).Nodup :=
  ((ownEntries_perm object).map Prod.fst).nodup_iff.mpr object.nodup_keys

/-- Own properties that are defined in the order they are listed in, with other values, are
listed in that order. -/
theorem ownEntries_fromEntries_map {ν μ : Type} (object : PlainObject ν) (change : ν → μ) :
    ownEntries (fromEntries ((ownEntries object).map fun entry => (entry.1, change entry.2))) =
      (ownEntries object).map fun entry => (entry.1, change entry.2) := by
  let cmp (left right : String × ν) := compare (arrayIndex left.1) (arrayIndex right.1)
  have htrans : Std.TransCmp cmp :=
    transCmp_pullback (compare : Option ℕ → Option ℕ → Ordering) fun entry : String × ν =>
      arrayIndex entry.1
  set indices := sortBy cmp (object.entries.filter fun entry => (arrayIndex entry.1).isSome)
    with hindices
  set names := object.entries.filter fun entry => (arrayIndex entry.1).isNone with hnames
  set changed := fun entry : String × ν => (entry.1, change entry.2) with hchanged
  have hlist : (ownEntries object).map changed = indices.map changed ++ names.map changed := by
    rw [← List.map_append]
    rfl
  have hnodup : (((ownEntries object).map changed).map Prod.fst).Nodup := by
    rw [List.map_map]
    exact nodup_keys_ownEntries object
  have hindex : ∀ entry ∈ indices, (arrayIndex entry.1).isSome = true := by
    intro entry hentry
    rw [hindices, mem_sortBy] at hentry
    exact (List.mem_filter.mp hentry).2
  have hname : ∀ entry ∈ names, (arrayIndex entry.1).isNone = true := by
    intro entry hentry
    exact (List.mem_filter.mp hentry).2
  have hsome : ((indices.map changed ++ names.map changed).filter fun entry =>
      (arrayIndex entry.1).isSome) = indices.map changed := by
    rw [List.filter_append, List.filter_eq_self.mpr, List.filter_eq_nil_iff.mpr, List.append_nil]
    · intro entry hentry
      obtain ⟨old, hold, rfl⟩ := List.mem_map.mp hentry
      have hnone := hname old hold
      simpa using hnone
    · intro entry hentry
      obtain ⟨old, hold, rfl⟩ := List.mem_map.mp hentry
      exact hindex old hold
  have hnone : ((indices.map changed ++ names.map changed).filter fun entry =>
      (arrayIndex entry.1).isNone) = names.map changed := by
    rw [List.filter_append, List.filter_eq_nil_iff.mpr, List.filter_eq_self.mpr, List.nil_append]
    · intro entry hentry
      obtain ⟨old, hold, rfl⟩ := List.mem_map.mp hentry
      exact hname old hold
    · intro entry hentry
      obtain ⟨old, hold, rfl⟩ := List.mem_map.mp hentry
      have hsome := hindex old hold
      rw [Option.isSome_iff_ne_none] at hsome
      simpa using hsome
  have hsorted : (indices.map changed).Pairwise
      (Below fun left right => compare (arrayIndex left.1) (arrayIndex right.1)) := by
    rw [List.pairwise_map]
    exact @pairwise_sortBy _ cmp htrans _
  rw [ownEntries, fromEntries, OrderedMap.entries_ofList hnodup, hlist, hsome, hnone,
    sortBy_eq_self hsorted]

/-- Own properties defined in the order they are listed in are listed in that order. -/
theorem ownEntries_fromEntries {ν : Type} (object : PlainObject ν) :
    ownEntries (fromEntries (ownEntries object)) = ownEntries object := by
  have hid : (ownEntries object).map (fun entry => (entry.1, id entry.2)) = ownEntries object :=
    List.map_id _
  calc ownEntries (fromEntries (ownEntries object))
      = ownEntries (fromEntries ((ownEntries object).map fun entry => (entry.1, id entry.2))) := by
        rw [hid]
    _ = (ownEntries object).map fun entry => (entry.1, id entry.2) :=
        ownEntries_fromEntries_map object id
    _ = ownEntries object := hid
theorem mem_ownEntries_iff {ν : Type} {object : PlainObject ν} {key : String} {value : ν} :
    (key, value) ∈ ownEntries object ↔ object.get key = some value := by
  rw [OrderedMap.get_eq_some_iff]
  exact (ownEntries_perm object).mem_iff

/-- A walk over the own properties of an object, each step of which touches its key only. -/
theorem get_foldl_ownEntries {ν μ : Type} {step : PlainObject ν → String × μ → PlainObject ν}
    {own : String → Option ν → μ → Option ν}
    (hown : ∀ (object : PlainObject ν) entry,
      (step object entry).get entry.1 = own entry.1 (object.get entry.1) entry.2)
    (hother : ∀ (object : PlainObject ν) entry key, key ≠ entry.1 →
      (step object entry).get key = object.get key)
    (start : PlainObject ν) (walked : PlainObject μ) (key : String) :
    ((ownEntries walked).foldl step start).get key =
      match walked.get key with
      | some value => own key (start.get key) value
      | none => start.get key := by
  cases hget : walked.get key with
  | some value =>
      exact OrderedMap.get_foldl_of_mem hown hother start (nodup_keys_ownEntries walked)
        (mem_ownEntries_iff.mpr hget)
  | none =>
      apply OrderedMap.get_foldl_of_not_mem hother
      intro hmem
      obtain ⟨⟨_, value⟩, hentry, rfl⟩ := List.mem_map.mp hmem
      rw [mem_ownEntries_iff.mp hentry] at hget
      cases hget

theorem get_assign_self {ν : Type} (object : PlainObject ν) (key : String) (value : ν) :
    (assign object key value).get key =
      if key = "__proto__" ∧ (object.get key).isNone then none else some value := by
  unfold assign
  split
  · next hignored => rw [Option.isNone_iff_eq_none.mp hignored.2]
  · rw [OrderedMap.get_set_self]

theorem get_assign_of_ne {ν : Type} (object : PlainObject ν) {key other : String} (value : ν)
    (hne : other ≠ key) : (assign object key value).get other = object.get other := by
  unfold assign
  split
  · rfl
  · rw [OrderedMap.get_set_of_ne _ _ hne]

theorem numberOrZero_eq {object : PlainObject JsNumber} {key : String} :
    numberOrZero object key =
      match object.get key with
      | some value => value.orZero
      | none => if key ∈ inheritedNames then .nan else 0 := by
  unfold numberOrZero read
  cases object.get key with
  | some value => rfl
  | none => by_cases hkey : key ∈ inheritedNames <;> simp [hkey]

end PlainObject

end OpenClaw.Runtime
