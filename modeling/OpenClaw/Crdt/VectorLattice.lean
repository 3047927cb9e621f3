import OpenClaw.Crdt.VersionVector
import OpenClaw.Runtime.Coercion

/-!
# Merging version vectors

A vector that another device sent is made of JSON: each value goes through
`Math.max(0, Math.trunc(Number(seq || 0)))`, which is `NaN` for a text that is no number.
Merging takes the entrywise maximum, and the difference of two vectors has the entries of
the second that are higher.

Key by key these are `mergeAt` and `diffAt`.  They are the operations of a semilattice but
for `NaN`, for names that a plain object inherits, and for entries that are zero, which a
merge keeps and a difference drops; `semilattice_iff` is the exact statement.
-/

namespace OpenClaw.Crdt

open OpenClaw.Runtime

/-! ## The operations -/

/-- `normalizeCrdtVersionVector` of a JSON value. -/
def normalizeJsonVersionVector (coercion : Coercion) : Json → CrdtVersionVector
  | .obj fields =>
      PlainObject.fromEntries
        (((PlainObject.ownEntries (.ofList fields)).map fun entry =>
            (normalizeCrdtId entry.1, (coercion.number (some entry.2) 0).whole)).filter
          fun entry => decide (entry.1 ≠ ""))
  | _ => ∅

def mergeCrdtVersionVectors (left right : CrdtVersionVector) : CrdtVersionVector :=
  (PlainObject.ownEntries (normalizeCrdtVersionVector right)).foldl
    (fun merged entry =>
      PlainObject.assign merged entry.1
        (JsNumber.max (PlainObject.numberOrZero merged entry.1) entry.2))
    (normalizeCrdtVersionVector left)

def diffCrdtVersionVectors (localVector remote : CrdtVersionVector) : CrdtVersionVector :=
  (PlainObject.ownEntries (normalizeCrdtVersionVector remote)).foldl
    (fun diff entry =>
      if JsNumber.lt (PlainObject.numberOrZero (normalizeCrdtVersionVector localVector) entry.1)
          entry.2 then
        PlainObject.assign diff entry.1 entry.2
      else diff)
    ∅

/-! ## Reading the wire -/

/-- The keys are ids as they are written, and the values are counts or `NaN`. -/
structure Wire (vector : CrdtVersionVector) : Prop where
  clean : CleanKeys vector
  counts : ∀ key value, vector.get key = some value → value = .nan ∨ value = .ofCount value.count

theorem wire_empty : Wire ∅ where
  clean _ _ hget := nomatch hget
  counts _ _ hget := nomatch hget

theorem wire_normalizeJson (coercion : Coercion) (value : Json) :
    Wire (normalizeJsonVersionVector coercion value) := by
  cases value with
  | obj fields =>
      have hentry : ∀ key seq, (normalizeJsonVersionVector coercion (.obj fields)).get key =
          some seq → key ≠ "" ∧ ∃ (old : String × Json), normalizeCrdtId old.1 = key ∧
            (coercion.number (some old.2) 0).whole = seq := by
        intro key seq hget
        obtain ⟨hmem, hne⟩ := List.mem_filter.mp (OrderedMap.mem_of_get_ofList hget)
        obtain ⟨old, -, heq⟩ := List.mem_map.mp hmem
        obtain ⟨rfl, rfl⟩ := Prod.mk.inj heq
        exact ⟨of_decide_eq_true hne, old, rfl, rfl⟩
      constructor
      · intro key seq hget
        obtain ⟨hne, old, rfl, -⟩ := hentry key seq hget
        exact ⟨normalizeCrdtId_idem _, hne⟩
      · intro key seq hget
        obtain ⟨-, old, -, rfl⟩ := hentry key seq hget
        rw [JsNumber.whole_eq]
        split
        · exact .inl rfl
        · exact .inr (by rw [JsNumber.count_ofCount])
  | null | bool _ | num _ | str _ | arr _ => exact wire_empty

/-! ## The operations, key by key -/

/-- `object[key] || 0`, by what the object has there. -/
def numberAt (key : String) : Option JsNumber → JsNumber
  | some value => value.orZero
  | none => if key ∈ inheritedNames then .nan else 0

/-- The entry of a merge. -/
def mergeAt (key : String) : Option JsNumber → Option JsNumber → Option JsNumber
  | none, none => none
  | some left, none => some (.ofCount left.count)
  | some left, some right => some (.ofCount (left.count ⊔ right.count))
  | none, some right =>
      if key = "__proto__" then none
      else if key ∈ inheritedNames then some .nan
      else some (.ofCount right.count)

/-- The entry of a difference. -/
def diffAt (key : String) : Option JsNumber → Option JsNumber → Option JsNumber
  | _, none => none
  | some left, some right =>
      if key ≠ "__proto__" ∧ left.count < right.count then some (.ofCount right.count) else none
  | none, some right =>
      if key ∉ inheritedNames ∧ 0 < right.count then some (.ofCount right.count) else none

section Entries

variable {left right : CrdtVersionVector}

theorem numberOrZero_eq_numberAt (object : CrdtVersionVector) (key : String) :
    PlainObject.numberOrZero object key = numberAt key (object.get key) := by
  rw [PlainObject.numberOrZero_eq]
  cases object.get key with
  | some value => rfl
  | none => rfl

theorem get_merge (hleft : CleanKeys left) (hright : CleanKeys right) (key : String) :
    (mergeCrdtVersionVectors left right).get key = mergeAt key (left.get key) (right.get key) := by
  unfold mergeCrdtVersionVectors
  rw [@PlainObject.get_foldl_ownEntries _ _ _ (fun key old value =>
    if key = "__proto__" ∧ old.isNone then none else some (JsNumber.max (numberAt key old) value))]
  · rw [get_normalize hleft, get_normalize hright]
    cases left.get key with
    | none =>
        cases right.get key with
        | none => rfl
        | some r =>
            by_cases hproto : key = "__proto__"
            · simp [mergeAt, hproto]
            · by_cases hinherited : key ∈ inheritedNames
              · simp [mergeAt, numberAt, hproto, hinherited]
              · simp [mergeAt, numberAt, hproto, hinherited]
    | some l =>
        cases right.get key with
        | none => rfl
        | some r => simp [mergeAt, numberAt, JsNumber.max_ofCount]
  · intro object entry
    rw [PlainObject.get_assign_self, numberOrZero_eq_numberAt]
  · intro object entry key hne
    exact PlainObject.get_assign_of_ne _ _ hne

theorem get_diff (hleft : CleanKeys left) (hright : CleanKeys right) (key : String) :
    (diffCrdtVersionVectors left right).get key = diffAt key (left.get key) (right.get key) := by
  unfold diffCrdtVersionVectors
  rw [@PlainObject.get_foldl_ownEntries _ _ _ (fun key old value =>
    if JsNumber.lt (numberAt key ((normalizeCrdtVersionVector left).get key)) value then
      if key = "__proto__" ∧ old.isNone then none else some value
    else old)]
  · rw [get_normalize hleft, get_normalize hright]
    cases left.get key with
    | none =>
        cases right.get key with
        | none => rfl
        | some r =>
            have hzero : JsNumber.lt 0 (.ofCount r.count) = true ↔ 0 < r.count :=
              JsNumber.lt_ofCount (m := 0)
            by_cases hinherited : key ∈ inheritedNames
            · simp [diffAt, numberAt, hinherited]
            · have hproto : key ≠ "__proto__" := by
                rintro rfl
                exact hinherited (by decide)
              by_cases hpos : 0 < r.count
              · simp [diffAt, numberAt, hinherited, hproto, hpos, hzero.mpr hpos]
              · simp [diffAt, numberAt, hinherited, hpos, mt hzero.mp hpos]
    | some l =>
        cases right.get key with
        | none => rfl
        | some r =>
            by_cases hproto : key = "__proto__"
            · simp [diffAt, numberAt, hproto]
            · simp [diffAt, numberAt, hproto]
  · intro object entry
    rw [numberOrZero_eq_numberAt]
    split
    · rw [PlainObject.get_assign_self]
    · rfl
  · intro object entry key hne
    split
    · exact PlainObject.get_assign_of_ne _ _ hne
    · rfl

theorem cleanKeys_merge (hleft : CleanKeys left) (hright : CleanKeys right) :
    CleanKeys (mergeCrdtVersionVectors left right) := by
  intro key value hget
  rw [get_merge hleft hright] at hget
  cases hl : left.get key with
  | some l => exact hleft key l hl
  | none =>
      cases hr : right.get key with
      | some r => exact hright key r hr
      | none =>
          rw [hl, hr] at hget
          cases hget

theorem cleanKeys_diff (hleft : CleanKeys left) (hright : CleanKeys right) :
    CleanKeys (diffCrdtVersionVectors left right) := by
  intro key value hget
  rw [get_diff hleft hright] at hget
  cases hr : right.get key with
  | some r => exact hright key r hr
  | none =>
      rw [hr] at hget
      cases hl : left.get key with
      | some l =>
          rw [hl] at hget
          cases hget
      | none =>
          rw [hl] at hget
          cases hget

theorem diff_entries_eq_nil_iff :
    (diffCrdtVersionVectors left right).entries = [] ↔
      ∀ key, (diffCrdtVersionVectors left right).get key = none := by
  constructor
  · intro hnil key
    rw [OrderedMap.eq_empty_of_length (congrArg List.length hnil), OrderedMap.get_empty]
  · intro hnone
    apply List.eq_nil_iff_forall_not_mem.mpr
    rintro ⟨key, value⟩ hmem
    have hget := OrderedMap.get_eq_some_iff.mpr hmem
    rw [hnone key] at hget
    cases hget

end Entries

/-! ## The laws, key by key -/

section Laws

variable {key : String} {a b c : Option JsNumber}

theorem mergeAt_comm_iff :
    mergeAt key a b = mergeAt key b a ↔ (key ∈ inheritedNames → a.isSome = b.isSome) := by
  have hproto : "__proto__" ∈ inheritedNames := by decide
  cases a with
  | none =>
      cases b with
      | none => simp
      | some r =>
          by_cases hkey : key = "__proto__"
          · simp [mergeAt, hkey, hproto]
          · by_cases hinherited : key ∈ inheritedNames
            · simp [mergeAt, hkey, hinherited, (JsNumber.ofCount_ne_nan r.count).symm]
            · simp [mergeAt, hkey, hinherited]
  | some l =>
      cases b with
      | none =>
          by_cases hkey : key = "__proto__"
          · simp [mergeAt, hkey, hproto]
          · by_cases hinherited : key ∈ inheritedNames
            · simp [mergeAt, hkey, hinherited]
            · simp [mergeAt, hkey, hinherited]
      | some r => simp [mergeAt, sup_comm]

/-- When both have an inherited name or none has it, merging is associative there. -/
theorem mergeAt_assoc (hboth : key ∈ inheritedNames → a.isSome = b.isSome) :
    mergeAt key (mergeAt key a b) c = mergeAt key a (mergeAt key b c) := by
  have hproto : "__proto__" ∈ inheritedNames := by decide
  by_cases hinherited : key ∈ inheritedNames
  · cases a with
    | none =>
        cases b with
        | none =>
            by_cases hkey : key = "__proto__"
            · cases c <;> simp [mergeAt, hkey]
            · cases c <;> simp [mergeAt, hkey, hinherited]
        | some r => cases hboth hinherited
    | some l =>
        cases b with
        | none => cases hboth hinherited
        | some r => cases c <;> simp [mergeAt, sup_assoc]
  · have hkey : key ≠ "__proto__" := by
      rintro rfl
      exact hinherited hproto
    cases a <;> cases b <;> cases c <;> simp [mergeAt, hinherited, hkey, sup_assoc]

theorem mergeAt_self_iff (hwire : ∀ value, a = some value →
    value = .nan ∨ value = .ofCount value.count) : mergeAt key a a = a ↔ a ≠ some .nan := by
  cases a with
  | none => simp [mergeAt]
  | some l =>
      rcases hwire l rfl with rfl | hcount
      · simp [mergeAt]
      · have hne : l ≠ .nan := by
          rw [hcount]
          exact JsNumber.ofCount_ne_nan _
        simp [mergeAt, ← hcount, hne]

theorem mergeAt_diffAt_iff (hboth : key ∈ inheritedNames → a.isSome = b.isSome) :
    mergeAt key a (diffAt key a b) = mergeAt key a b ↔
      (∀ r, a = none → b = some r → 0 < r.count) ∧
        (key = "__proto__" → ∀ l r, a = some l → b = some r → r.count ≤ l.count) := by
  cases b with
  | none => cases a <;> simp [mergeAt, diffAt]
  | some r =>
      cases a with
      | none =>
          have hinherited : key ∉ inheritedNames := by
            intro hmem
            simpa using hboth hmem
          have hkey : key ≠ "__proto__" := by
            rintro rfl
            exact hinherited (by decide)
          by_cases hpos : 0 < r.count
          · simp [mergeAt, diffAt, hinherited, hkey, hpos]
          · simp [mergeAt, diffAt, hinherited, hkey, hpos]
      | some l =>
          by_cases hkey : key = "__proto__"
          · simp [mergeAt, diffAt, hkey, JsNumber.ofCount_injective.eq_iff]
          · by_cases hlt : l.count < r.count
            · simp [mergeAt, diffAt, hkey, hlt]
            · simp [mergeAt, diffAt, hkey, hlt, sup_eq_left.mpr (not_lt.mp hlt)]

/-- Where merging with the difference is merging, a difference that has no entry is a merge
that changes none. -/
theorem diffAt_eq_none_iff
    (hwire : ∀ value, a = some value → value = .nan ∨ value = .ofCount value.count)
    (hnumeric : a ≠ some .nan) (hboth : key ∈ inheritedNames → a.isSome = b.isSome)
    (hpositive : ∀ r, a = none → b = some r → 0 < r.count)
    (hproto : key = "__proto__" → ∀ l r, a = some l → b = some r → r.count ≤ l.count) :
    diffAt key a b = none ↔ mergeAt key a b = a := by
  cases a with
  | none =>
      cases b with
      | none => simp [mergeAt, diffAt]
      | some r =>
          have hinherited : key ∉ inheritedNames := fun hmem => by cases hboth hmem
          have hkey : key ≠ "__proto__" := by
            rintro rfl
            exact hinherited (by decide)
          simp [mergeAt, diffAt, hinherited, hkey, hpositive r rfl rfl]
  | some l =>
      have hcount : JsNumber.ofCount l.count = l := by
        rcases hwire l rfl with rfl | hcount
        · exact absurd rfl hnumeric
        · exact hcount.symm
      cases b with
      | none => simp [mergeAt, diffAt, hcount]
      | some r =>
          have hmerge : mergeAt key (some l) (some r) = some l ↔ r.count ≤ l.count := by
            show some (JsNumber.ofCount (l.count ⊔ r.count)) = some l ↔ _
            rw [Option.some_inj, ← hcount, JsNumber.ofCount_injective.eq_iff,
              JsNumber.count_ofCount, sup_eq_left]
          rw [hmerge]
          by_cases hkey : key = "__proto__"
          · simp [diffAt, hkey, hproto hkey l r rfl rfl]
          · simp [diffAt, hkey]

end Laws

/-! ## The laws -/

/-- The laws of a join-semilattice, for three vectors and up to the order of keys, and the
ones of the difference. -/
structure Semilattice (a b c : CrdtVersionVector) : Prop where
  comm : (mergeCrdtVersionVectors a b).Same (mergeCrdtVersionVectors b a)
  assoc : (mergeCrdtVersionVectors (mergeCrdtVersionVectors a b) c).Same
    (mergeCrdtVersionVectors a (mergeCrdtVersionVectors b c))
  idem : (mergeCrdtVersionVectors a a).Same a
  merge_diff : (mergeCrdtVersionVectors a (diffCrdtVersionVectors a b)).Same
    (mergeCrdtVersionVectors a b)
  diff_empty : (diffCrdtVersionVectors a b).entries = [] ↔ (mergeCrdtVersionVectors a b).Same a

/-- The first vector has no `NaN`; both or neither have an inherited name; an entry that only
the second one has is positive; and for `__proto__` the second one is not ahead. -/
structure Mergeable (a b : CrdtVersionVector) : Prop where
  numeric : ∀ key, a.get key ≠ some .nan
  inherited : ∀ key ∈ inheritedNames, (a.get key).isSome = (b.get key).isSome
  positive : ∀ key r, a.get key = none → b.get key = some r → 0 < r.count
  proto : ∀ l r, a.get "__proto__" = some l → b.get "__proto__" = some r → r.count ≤ l.count

section Wire

variable {a b c : CrdtVersionVector}

theorem semilattice_of_mergeable (ha : Wire a) (hb : Wire b) (hc : Wire c)
    (hmergeable : Mergeable a b) : Semilattice a b c := by
  have hab := cleanKeys_merge ha.clean hb.clean
  have hbc := cleanKeys_merge hb.clean hc.clean
  have hdiff := cleanKeys_diff ha.clean hb.clean
  constructor
  case comm =>
    intro key
    rw [get_merge ha.clean hb.clean, get_merge hb.clean ha.clean]
    exact mergeAt_comm_iff.mpr (hmergeable.inherited key)
  case assoc =>
    intro key
    rw [get_merge hab hc.clean, get_merge ha.clean hbc, get_merge ha.clean hb.clean,
      get_merge hb.clean hc.clean]
    exact mergeAt_assoc (hmergeable.inherited key)
  case idem =>
    intro key
    rw [get_merge ha.clean ha.clean]
    exact (mergeAt_self_iff (ha.counts key)).mpr (hmergeable.numeric key)
  case merge_diff =>
    intro key
    rw [get_merge ha.clean hdiff, get_diff ha.clean hb.clean, get_merge ha.clean hb.clean]
    refine (mergeAt_diffAt_iff (hmergeable.inherited key)).mpr ⟨hmergeable.positive key, ?_⟩
    rintro rfl
    exact hmergeable.proto
  case diff_empty =>
    rw [diff_entries_eq_nil_iff]
    refine forall_congr' fun key => ?_
    rw [get_diff ha.clean hb.clean, get_merge ha.clean hb.clean]
    refine diffAt_eq_none_iff (ha.counts key) (hmergeable.numeric key)
      (hmergeable.inherited key) (hmergeable.positive key) ?_
    rintro rfl
    exact hmergeable.proto

theorem mergeable_of_semilattice (ha : Wire a) (hb : Wire b) (hlaws : Semilattice a b c) :
    Mergeable a b := by
  have hinherited : ∀ key ∈ inheritedNames, (a.get key).isSome = (b.get key).isSome := by
    intro key
    have hcomm := hlaws.comm key
    rw [get_merge ha.clean hb.clean, get_merge hb.clean ha.clean] at hcomm
    exact mergeAt_comm_iff.mp hcomm
  have hdiff : ∀ key, (∀ r, a.get key = none → b.get key = some r → 0 < r.count) ∧
      (key = "__proto__" → ∀ l r, a.get key = some l → b.get key = some r →
        r.count ≤ l.count) := by
    intro key
    have hmerge := hlaws.merge_diff key
    rw [get_merge ha.clean (cleanKeys_diff ha.clean hb.clean), get_diff ha.clean hb.clean,
      get_merge ha.clean hb.clean] at hmerge
    exact (mergeAt_diffAt_iff (hinherited key)).mp hmerge
  constructor
  case numeric =>
    intro key
    have hidem := hlaws.idem key
    rw [get_merge ha.clean ha.clean] at hidem
    exact (mergeAt_self_iff (ha.counts key)).mp hidem
  case inherited => exact hinherited
  case positive => exact fun key => (hdiff key).1
  case proto => exact (hdiff "__proto__").2 rfl

end Wire

/-- **Vectors from the wire** obey the laws of a join-semilattice exactly if they are
mergeable. -/
theorem semilattice_iff (coercion : Coercion) (a b c : Json) :
    Semilattice (normalizeJsonVersionVector coercion a) (normalizeJsonVersionVector coercion b)
        (normalizeJsonVersionVector coercion c) ↔
      Mergeable (normalizeJsonVersionVector coercion a)
        (normalizeJsonVersionVector coercion b) := by
  have hwire := wire_normalizeJson coercion
  constructor
  · exact mergeable_of_semilattice (hwire a) (hwire b)
  · exact semilattice_of_mergeable (hwire a) (hwire b) (hwire c)

/-- An author named `constructor`, seen by one device only. -/
theorem not_semilattice : ¬∀ (coercion : Coercion) (a b c : Json),
    Semilattice (normalizeJsonVersionVector coercion a) (normalizeJsonVersionVector coercion b)
      (normalizeJsonVersionVector coercion c) := by
  intro hall
  have hcomm := (hall ⟨fun _ => "", fun _ => .nan⟩ (.obj []) (.obj [("constructor", .num 5)])
    (.obj [])).comm "constructor"
  have hforward : (mergeCrdtVersionVectors
      (normalizeJsonVersionVector ⟨fun _ => "", fun _ => .nan⟩ (.obj []))
      (normalizeJsonVersionVector ⟨fun _ => "", fun _ => .nan⟩
        (.obj [("constructor", .num 5)]))).get "constructor" = some .nan := by decide +kernel
  have hback : (mergeCrdtVersionVectors
      (normalizeJsonVersionVector ⟨fun _ => "", fun _ => .nan⟩ (.obj [("constructor", .num 5)]))
      (normalizeJsonVersionVector ⟨fun _ => "", fun _ => .nan⟩ (.obj []))).get "constructor" =
        some 5 := by decide +kernel
  rw [hforward, hback] at hcomm
  cases hcomm

end OpenClaw.Crdt
