import OpenClaw.Runtime.Object

/-!
# JavaScript values

What a JavaScript program holds is more than JSON: a property that is not there is
`undefined`, one that every object inherits is a function, and `object[key] = value` for
the key `__proto__` gives the object another prototype.  Only a fresh plain object is ever
assigned under a key that is computed, so the prototype of a plain object is either
`Object.prototype` or such an object.
-/

namespace OpenClaw.Runtime

/-- A value.  `proto` holds the own properties of the prototype that a plain object was
given in place of `Object.prototype`. -/
inductive Value
  | undefined
  | null
  | bool (value : Bool)
  | num (value : JsNumber)
  | str (value : String)
  | function
  | arr (elements : List Value)
  | obj (own : List (String × Value)) (proto : Option (List (String × Value)))

/-- A plain object. -/
structure Record where
  own : PlainObject Value
  proto : Option (PlainObject Value)

namespace Record

/-- `{ ...own }`. -/
def literal (own : PlainObject Value) : Record := ⟨own, none⟩

def toValue (record : Record) : Value :=
  .obj record.own.entries (record.proto.map OrderedMap.entries)

/-- What is found along the prototypes, in front of `Object.prototype`. -/
def find (record : Record) (key : String) : Option Value :=
  (record.own.get key).or (record.proto.bind fun proto => proto.get key)

/-- `record[key]`.  Nothing that `Object.prototype` has is enumerable, so a copy of it is
`{}`. -/
def get (record : Record) (key : String) : Value :=
  match record.find key with
  | some value => value
  | none =>
      if key = "__proto__" then (literal (record.proto.getD ∅)).toValue
      else if key ∈ inheritedNames then .function
      else .undefined

/-- `record[key] = value` for a key that is not `__proto__`. -/
def set (record : Record) (key : String) (value : Value) : Record :=
  { record with own := record.own.set key value }

/-- `record[key] = value` for any key and a fresh plain object. -/
def assign (record : Record) (key : String) (value : PlainObject Value) : Record :=
  if key = "__proto__" ∧ (record.find key).isNone then { record with proto := some value }
  else record.set key (literal value).toValue

/-- `{ ...first, ...second }`. -/
def spread (first second : Record) : Record :=
  literal (second.own.entries.foldl (fun own entry => own.set entry.1 entry.2) first.own)

end Record

namespace Value

/-- The value, when `isRecord(value)`. -/
def record? : Value → Option Record
  | obj own proto => some ⟨.ofList own, proto.map .ofList⟩
  | _ => none

/-- `isRecord(value) ? value : {}`. -/
def recordOrEmpty (value : Value) : Record := value.record?.getD (.literal ∅)

/-- `isRecord(value) ? { ...value } : {}`. -/
def copyOrEmpty (value : Value) : Record := .literal value.recordOrEmpty.own

/-- `first ?? second`. -/
def nullish (first second : Value) : Value :=
  match first with
  | undefined => second
  | null => second
  | value => value

mutual

/-- What `JSON.parse` gives. -/
def ofJson : Json → Value
  | .null => null
  | .bool value => bool value
  | .num value => num value
  | .str value => str value
  | .arr elements => arr (ofElements elements)
  | .obj fields => obj (ofFields fields) none

def ofElements : List Json → List Value
  | [] => []
  | value :: rest => ofJson value :: ofElements rest

def ofFields : List (String × Json) → List (String × Value)
  | [] => []
  | (key, value) :: rest => (key, ofJson value) :: ofFields rest

end

end Value

/-! ## Reading and writing -/

namespace Record

theorem ofList_entries (own : PlainObject Value) : OrderedMap.ofList own.entries = own := by
  have hentries : (OrderedMap.ofList own.entries).entries = own.entries :=
    OrderedMap.entries_ofList own.nodup_keys
  cases hmap : OrderedMap.ofList own.entries with
  | mk entries nodup =>
      rw [hmap] at hentries
      cases own
      cases hentries
      rfl

@[simp] theorem record?_toValue (record : Record) : record.toValue.record? = some record := by
  obtain ⟨own, proto⟩ := record
  show some (Record.mk _ _) = some (Record.mk own proto)
  rw [ofList_entries]
  cases proto with
  | none => rfl
  | some fields =>
      show some (Record.mk own (some (.ofList fields.entries))) = _
      rw [ofList_entries]

@[simp] theorem recordOrEmpty_toValue (record : Record) :
    record.toValue.recordOrEmpty = record := by
  rw [Value.recordOrEmpty, record?_toValue]
  rfl

variable (record : Record)

theorem find_set_self (key : String) (value : Value) :
    (record.set key value).find key = some value := by
  show ((record.own.set key value).get key).or _ = some value
  rw [OrderedMap.get_set_self]
  rfl

theorem find_set_of_ne {key other : String} (value : Value) (hne : other ≠ key) :
    (record.set key value).find other = record.find other := by
  show ((record.own.set key value).get other).or _ = _
  rw [OrderedMap.get_set_of_ne _ _ hne]
  rfl

@[simp] theorem get_set_self (key : String) (value : Value) :
    (record.set key value).get key = value := by
  unfold get
  rw [find_set_self]

theorem get_set_of_ne {key other : String} (value : Value) (hne : other ≠ key) :
    (record.set key value).get other = record.get other := by
  unfold get
  rw [find_set_of_ne record value hne]
  rfl

theorem get_of_find {key : String} {value : Value} (hfind : record.find key = some value) :
    record.get key = value := by
  unfold get
  rw [hfind]

theorem get_congr {left right : Record} {key : String} (hproto : left.proto = right.proto)
    (hfind : left.find key = right.find key) : left.get key = right.get key := by
  unfold get
  rw [hfind, hproto]

theorem find_of_proto (hproto : record.proto = none) (key : String) :
    record.find key = record.own.get key := by
  unfold find
  rw [hproto]
  exact Option.or_none

/-- The later of two objects covers the earlier one. -/
theorem get_own_spread (first second : Record) (key : String) :
    (spread first second).own.get key = (second.own.get key).or (first.own.get key) := by
  have hset : ∀ (map : PlainObject Value) (entry : String × Value) (other : String),
      other ≠ entry.1 → (map.set entry.1 entry.2).get other = map.get other :=
    fun map entry other hne => OrderedMap.get_set_of_ne map entry.2 hne
  show (second.own.entries.foldl _ first.own).get key = _
  cases hget : second.own.get key with
  | none =>
      have hfresh : key ∉ second.own.entries.map Prod.fst := OrderedMap.get_eq_none_iff.mp hget
      rw [OrderedMap.get_foldl_of_not_mem hset _ hfresh]
      rfl
  | some value =>
      have hmem := OrderedMap.get_eq_some_iff.mp hget
      apply @OrderedMap.get_foldl_of_mem _ _ _ _ _ _ _ (fun _ _ value => some value) _ hset _
        second.own.nodup_keys _ hmem
      exact fun map binding => OrderedMap.get_set_self map binding.1 binding.2

end Record

/-! ## What was parsed -/

namespace Value

/-- As far as objects go the value is one that `JSON.parse` gives. -/
def Parsed (value : Value) : Prop := ∃ json, value.record? = (ofJson json).record?

theorem parsed_ofJson (json : Json) : Parsed (ofJson json) := ⟨json, rfl⟩

theorem parsed_of_not_record {value : Value} (hnone : value.record? = none) : Parsed value :=
  ⟨.null, hnone⟩

variable {value : Value} {record : Record}

theorem ofFields_eq_map (fields : List (String × Json)) :
    ofFields fields = fields.map fun field => (field.1, ofJson field.2) := by
  induction fields with
  | nil => rfl
  | cons field rest ih => rw [ofFields, ih, List.map_cons]

theorem record?_ofJson {json : Json} (hrecord : (ofJson json).record? = some record) :
    ∃ fields, record = .literal (.ofList (ofFields fields)) := by
  cases json with
  | obj fields =>
      refine ⟨fields, ?_⟩
      rw [ofJson] at hrecord
      exact (Option.some.inj hrecord).symm
  | null => cases hrecord
  | bool value => cases hrecord
  | num value => cases hrecord
  | str value => cases hrecord
  | arr elements => cases hrecord

theorem Parsed.proto (hparsed : Parsed value) (hrecord : value.record? = some record) :
    record.proto = none := by
  obtain ⟨json, hjson⟩ := hparsed
  obtain ⟨fields, rfl⟩ := record?_ofJson (hjson.symm.trans hrecord)
  rfl

/-- What an object that was parsed has under a key was parsed, too. -/
theorem Parsed.get (hparsed : Parsed value) (hrecord : value.record? = some record)
    (key : String) : Parsed (record.get key) := by
  obtain ⟨json, hjson⟩ := hparsed
  obtain ⟨fields, rfl⟩ := record?_ofJson (hjson.symm.trans hrecord)
  unfold Record.get
  split
  · next found hfind =>
      have hown : (OrderedMap.ofList (ofFields fields)).get key = some found := by
        have hor : ((OrderedMap.ofList (ofFields fields)).get key).or none = some found := hfind
        rwa [Option.or_none] at hor
      have hmem := OrderedMap.mem_of_get_ofList hown
      rw [ofFields_eq_map] at hmem
      obtain ⟨field, -, hfield⟩ := List.mem_map.mp hmem
      rw [← (Prod.mk.inj hfield).2]
      exact parsed_ofJson field.2
  · split
    · exact ⟨.obj [], by rw [ofJson]; rfl⟩
    · split
      · exact parsed_of_not_record rfl
      · exact parsed_of_not_record rfl

theorem Parsed.proto_recordOrEmpty (hparsed : Parsed value) : value.recordOrEmpty.proto = none := by
  unfold recordOrEmpty
  cases hrecord : value.record? with
  | none => rfl
  | some record => exact hparsed.proto hrecord

theorem Parsed.get_recordOrEmpty (hparsed : Parsed value) (key : String) :
    Parsed (value.recordOrEmpty.get key) := by
  unfold recordOrEmpty
  cases hrecord : value.record? with
  | none =>
      apply (parsed_ofJson (.obj [])).get
      rw [ofJson]
      rfl
  | some record => exact hparsed.get hrecord key

/-- A copy of what was parsed is the same object. -/
theorem Parsed.copyOrEmpty (hparsed : Parsed value) :
    value.copyOrEmpty = value.recordOrEmpty := by
  have hproto := hparsed.proto_recordOrEmpty
  unfold Value.copyOrEmpty
  cases hrecord : value.recordOrEmpty with
  | mk own proto =>
      rw [hrecord] at hproto
      cases hproto
      rfl

end Value

end OpenClaw.Runtime
