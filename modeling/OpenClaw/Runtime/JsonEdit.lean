import OpenClaw.Runtime.Object

/-!
# Editing JSON values

An edit says what becomes of a value that may be missing.  Editing one field of an object
is an edit again, in two ways: `ensured` makes an object of whatever was there, `pruned`
works on objects only and leaves nothing where nothing is left.

`Frames target edit` says that an edit keeps everything that is neither on the way to
`target` nor at or below it, and `Settled` that doing it once is enough.  Both follow the
nesting of an edit.  Values are equal when they have the same fields in the same order: no
edit moves a field.
-/

namespace OpenClaw.Runtime

/-! ## Equality -/

namespace Json

mutual

/-- `left == right`. -/
def beq : Json → Json → Bool
  | null, null => true
  | bool left, bool right => left == right
  | num left, num right => decide (left = right)
  | str left, str right => left == right
  | arr left, arr right => beqElements left right
  | obj left, obj right => beqFields left right
  | _, _ => false

def beqElements : List Json → List Json → Bool
  | [], [] => true
  | left :: lefts, right :: rights => beq left right && beqElements lefts rights
  | _, _ => false

def beqFields : List (String × Json) → List (String × Json) → Bool
  | [], [] => true
  | (key, left) :: lefts, (other, right) :: rights =>
      key == other && beq left right && beqFields lefts rights
  | _, _ => false

end

mutual

theorem beq_iff : ∀ {left right : Json}, beq left right = true ↔ left = right
  | null, right => by cases right <;> simp [beq]
  | bool left, right => by cases right <;> simp [beq]
  | num left, right => by cases right <;> simp [beq]
  | str left, right => by cases right <;> simp [beq]
  | arr left, right => by cases right <;> simp [beq, beqElements_iff]
  | obj left, right => by cases right <;> simp [beq, beqFields_iff]

theorem beqElements_iff : ∀ {left right : List Json}, beqElements left right = true ↔ left = right
  | [], right => by cases right <;> simp [beqElements]
  | left :: lefts, right => by cases right <;> simp [beqElements, beq_iff, beqElements_iff]

theorem beqFields_iff : ∀ {left right : List (String × Json)},
    beqFields left right = true ↔ left = right
  | [], right => by cases right <;> simp [beqFields]
  | (key, left) :: lefts, right => by
      cases right with
      | nil => simp [beqFields]
      | cons field rights =>
          obtain ⟨other, value⟩ := field
          simp [beqFields, beq_iff, beqFields_iff, and_assoc]

end

instance : DecidableEq Json := fun _ _ => decidable_of_iff _ beq_iff

end Json

/-! ## Edits -/

/-- The fields of an object, without repetition. -/
abbrev Fields := List (String × Json)

/-- What becomes of a value; `none` is a value that is not there. -/
abbrev Edit := Option Json → Option Json

namespace Edit

/-- Edit one field. -/
def atField (key : String) (edit : Edit) (fields : Fields) : Fields :=
  match edit ((Json.obj fields).field key) with
  | some value => OrderedMap.setEntries key value fields
  | none => fields.filter fun field => decide (field.1 ≠ key)

def set (value : Json) : Edit := fun _ => some value

def remove : Edit := fun _ => none

def objectFields : Option Json → Fields
  | some (.obj fields) => fields
  | _ => []

/-- Edit the fields of an object; anything else is replaced by `{}` first. -/
def ensured (change : Fields → Fields) : Edit := fun value =>
  some (.obj (change (objectFields value)))

/-- Edit the fields of an object, and drop it when it is empty then.  Anything else is
dropped, too. -/
def pruned (change : Fields → Fields) : Edit
  | some (.obj fields) => if (change fields).isEmpty then none else some (.obj (change fields))
  | _ => none

end Edit

open Edit

/-- The value at a path of names. -/
def lookup : List String → Option Json → Option Json
  | [], value => value
  | key :: rest, value => lookup rest (value.bind (Json.field key))

section Lookup

variable {edit : Edit} {key other : String} {fields : Fields} {path target : List String}
  {value : Option Json}

@[simp] theorem lookup_none : lookup path none = none := by
  induction path with
  | nil => rfl
  | cons key rest ih => exact ih

theorem field_objectFields : (Json.obj (objectFields value)).field key =
    value.bind (Json.field key) := by
  cases value with
  | none => rfl
  | some json =>
      cases json with
      | obj fields => rfl
      | null => rfl
      | bool value => rfl
      | num value => rfl
      | str value => rfl
      | arr elements => rfl

theorem field_atField_self :
    (Json.obj (atField key edit fields)).field key = edit ((Json.obj fields).field key) := by
  unfold atField
  split
  · next value hedit =>
      rw [hedit]
      show ((OrderedMap.setEntries key value fields).find? _).map Prod.snd = some value
      rw [OrderedMap.find?_setEntries_self]
      rfl
  · next hedit =>
      rw [hedit]
      show ((fields.filter _).find? _).map Prod.snd = none
      rw [Option.map_eq_none_iff, List.find?_eq_none]
      intro field hfield
      have hkept := of_decide_eq_true (List.mem_filter.mp hfield).2
      simpa using hkept

theorem field_atField_of_ne (hne : other ≠ key) :
    (Json.obj (atField key edit fields)).field other = (Json.obj fields).field other := by
  unfold atField
  split
  · next value _ =>
      show ((OrderedMap.setEntries key value fields).find? _).map Prod.snd = _
      rw [OrderedMap.find?_setEntries_ne hne]
      rfl
  · show ((fields.filter _).find? _).map Prod.snd = _
    have hsame : ∀ field : String × Json,
        decide (decide (field.1 ≠ key) = true ∧ decide (field.1 = other) = true) =
          decide (field.1 = other) := by
      intro field
      by_cases hfield : field.1 = other
      · simp [hfield, hne]
      · simp [hfield]
    rw [List.find?_filter, funext hsame]
    rfl

/-! ## What an edit leaves alone -/

/-- Neither path leads to the other. -/
def Apart (path target : List String) : Prop := ¬path <+: target ∧ ¬target <+: path

theorem apart_cons_iff : Apart (key :: path) (key :: target) ↔ Apart path target := by
  unfold Apart
  rw [List.cons_prefix_cons, List.cons_prefix_cons]
  simp

theorem apart_cons_of_ne (hne : other ≠ key) : Apart (other :: path) (key :: target) := by
  unfold Apart
  rw [List.cons_prefix_cons, List.cons_prefix_cons]
  exact ⟨fun hway => hne hway.1, fun hway => hne hway.1.symm⟩

/-- The edit keeps everything that is apart from `target`. -/
def Frames (target : List String) (edit : Edit) : Prop :=
  ∀ value path, Apart path target → lookup path (edit value) = lookup path value

theorem frames_nil (edit : Edit) : Frames [] edit := fun _ _ hapart =>
  absurd List.nil_prefix hapart.2

theorem lookup_atField (hframes : Frames target edit) (hapart : Apart path (key :: target)) :
    lookup path (some (.obj (atField key edit fields))) = lookup path (some (.obj fields)) := by
  cases path with
  | nil => exact absurd List.nil_prefix hapart.1
  | cons other rest =>
      show lookup rest ((Json.obj (atField key edit fields)).field other) =
        lookup rest ((Json.obj fields).field other)
      by_cases hkey : other = key
      · rw [hkey, field_atField_self]
        rw [hkey, apart_cons_iff] at hapart
        exact hframes _ rest hapart
      · rw [field_atField_of_ne hkey]

theorem Frames.ensured (hframes : Frames target edit) :
    Frames (key :: target) (Edit.ensured (atField key edit)) := by
  intro value path hapart
  have hsame : lookup path (some (.obj (objectFields value))) = lookup path value := by
    cases path with
    | nil => exact absurd List.nil_prefix hapart.1
    | cons other rest => exact congrArg (lookup rest) field_objectFields
  rw [← hsame]
  exact lookup_atField hframes hapart

theorem objectFields_eq_nil (hother : ∀ fields, value = some (.obj fields) → False) :
    objectFields value = [] := by
  unfold objectFields
  split
  · exact absurd rfl (hother _)
  · rfl

/-- Nothing is found in what is no object, and in an empty one. -/
theorem lookup_of_no_fields (hvalue : objectFields value = []) (hpath : path ≠ []) :
    lookup path value = none := by
  cases path with
  | nil => exact absurd rfl hpath
  | cons key rest =>
      show lookup rest (value.bind (Json.field key)) = none
      rw [← field_objectFields, hvalue]
      exact lookup_none

theorem Apart.ne_nil (hapart : Apart path target) : path ≠ [] := by
  rintro rfl
  exact hapart.1 List.nil_prefix

theorem Frames.pruned (hframes : Frames target edit) :
    Frames (key :: target) (Edit.pruned (atField key edit)) := by
  intro value path hapart
  unfold Edit.pruned
  split
  · next fields =>
      have hsame := @lookup_atField edit key fields path target hframes hapart
      split
      · next hempty =>
          rw [List.isEmpty_iff.mp hempty, lookup_of_no_fields rfl hapart.ne_nil] at hsame
          rw [lookup_none, hsame]
      · exact hsame
  · next hother =>
      rw [lookup_none, lookup_of_no_fields (objectFields_eq_nil hother) hapart.ne_nil]

/-! ## What is there afterwards -/

/-- On the way to `target` the edit leaves objects. -/
def Builds (target : List String) (edit : Edit) : Prop :=
  ∀ value path, path <+: target → ∃ fields, lookup path (edit value) = some (.obj fields)

theorem builds_nil (change : Fields → Fields) : Builds [] (Edit.ensured change) := by
  intro value path hway
  rw [List.prefix_nil.mp hway]
  exact ⟨_, rfl⟩

theorem Builds.ensured (hbuilds : Builds target edit) :
    Builds (key :: target) (Edit.ensured (atField key edit)) := by
  intro value path hway
  cases path with
  | nil => exact ⟨_, rfl⟩
  | cons other rest =>
      obtain ⟨rfl, hrest⟩ := List.cons_prefix_cons.mp hway
      show ∃ fields, lookup rest ((Json.obj (atField other edit (objectFields value))).field
        other) = some (.obj fields)
      rw [field_atField_self]
      exact hbuilds _ rest hrest

/-- On the way to `target` the edit leaves what holds something that is apart from it. -/
def Prunes (target : List String) (edit : Edit) : Prop :=
  ∀ value path, path <+: target → ((lookup path (edit value)).isSome ↔
    ∃ inner, path <+: inner ∧ Apart inner target ∧ (lookup inner value).isSome)

theorem prunes_remove : Prunes [] remove := by
  intro value path hway
  rw [List.prefix_nil.mp hway]
  constructor
  · intro hsome
    cases hsome
  · rintro ⟨inner, -, hapart, -⟩
    exact absurd List.nil_prefix hapart.2

/-- An object has fields left exactly if one was there that is apart. -/
theorem atField_ne_nil_iff (hframes : Frames target edit) (hprunes : Prunes target edit) :
    atField key edit fields ≠ [] ↔
      ∃ inner, Apart inner (key :: target) ∧ (lookup inner (some (.obj fields))).isSome := by
  constructor
  · intro hleft
    obtain ⟨first, rest, hfirst⟩ := List.exists_cons_of_ne_nil hleft
    have hfield : (Json.obj (atField key edit fields)).field first.1 = some first.2 := by
      rw [hfirst]
      show (List.find? _ (first :: rest)).map Prod.snd = some first.2
      rw [List.find?_cons_of_pos (by simp)]
      rfl
    by_cases hkey : first.1 = key
    · rw [hkey, field_atField_self] at hfield
      have hsome : (lookup [] (edit ((Json.obj fields).field key))).isSome := by
        rw [lookup, hfield]
        rfl
      obtain ⟨inner, -, hapart, hinner⟩ := (hprunes _ [] List.nil_prefix).mp hsome
      exact ⟨key :: inner, apart_cons_iff.mpr hapart, hinner⟩
    · rw [field_atField_of_ne hkey] at hfield
      refine ⟨[first.1], apart_cons_of_ne hkey, ?_⟩
      show ((Json.obj fields).field first.1).isSome
      rw [hfield]
      rfl
  · rintro ⟨inner, hapart, hinner⟩ hempty
    rw [← lookup_atField hframes hapart, hempty, lookup_of_no_fields rfl hapart.ne_nil] at hinner
    cases hinner

theorem Prunes.pruned (hframes : Frames target edit) (hprunes : Prunes target edit) :
    Prunes (key :: target) (Edit.pruned (atField key edit)) := by
  intro value path hway
  have hnothing : objectFields value = [] → ¬∃ inner, path <+: inner ∧
      Apart inner (key :: target) ∧ (lookup inner value).isSome := by
    rintro hvalue ⟨inner, -, hapart, hinner⟩
    rw [lookup_of_no_fields hvalue hapart.ne_nil] at hinner
    cases hinner
  unfold Edit.pruned
  split
  · next fields =>
      have hleft := @atField_ne_nil_iff edit key fields target hframes hprunes
      by_cases hempty : atField key edit fields = []
      · rw [if_pos (List.isEmpty_iff.mpr hempty), lookup_none]
        constructor
        · intro hsome
          cases hsome
        · rintro ⟨inner, -, hinner⟩
          exact absurd hempty (hleft.mpr ⟨inner, hinner⟩)
      · rw [if_neg fun hisEmpty => hempty (List.isEmpty_iff.mp hisEmpty)]
        cases path with
        | nil =>
            obtain ⟨inner, hinner⟩ := hleft.mp hempty
            exact ⟨fun _ => ⟨inner, List.nil_prefix, hinner⟩, fun _ => rfl⟩
        | cons other rest =>
            obtain ⟨rfl, hrest⟩ := List.cons_prefix_cons.mp hway
            show (lookup rest ((Json.obj (atField other edit fields)).field other)).isSome ↔ _
            rw [field_atField_self, hprunes _ rest hrest]
            constructor
            · rintro ⟨inner, hinner, hapart, hsome⟩
              exact ⟨other :: inner, List.cons_prefix_cons.mpr ⟨rfl, hinner⟩,
                apart_cons_iff.mpr hapart, hsome⟩
            · rintro ⟨inner, ⟨tail, rfl⟩, hapart, hsome⟩
              exact ⟨rest ++ tail, List.prefix_append rest tail, apart_cons_iff.mp hapart, hsome⟩
  · next hother =>
      rw [lookup_none]
      constructor
      · intro hsome
        cases hsome
      · exact fun hinner => absurd hinner (hnothing (objectFields_eq_nil hother))

/-! ## Doing it once is enough -/

/-- What the edit made of a value it leaves. -/
def Settled (edit : Edit) : Prop := ∀ value, edit (edit value) = edit value

theorem settled_set (json : Json) : Settled (set json) := fun _ => rfl

theorem settled_remove : Settled remove := fun _ => rfl

private theorem setEntries_of_find {json : Json}
    (hfield : (Json.obj fields).field key = some json) :
    OrderedMap.setEntries key json fields = fields := by
  obtain ⟨field, hfind, hvalue⟩ := Option.map_eq_some_iff.mp hfield
  clear hfield
  induction fields with
  | nil => cases hfind
  | cons first rest ih =>
      unfold OrderedMap.setEntries
      split
      · next hkey =>
          rw [List.find?_cons_of_pos (by simpa using hkey)] at hfind
          cases hfind
          rw [← hvalue, ← hkey]
      · next hkey =>
          rw [List.find?_cons_of_neg (by simpa using hkey)] at hfind
          rw [ih hfind]

theorem atField_of_settled
    (hsettled : edit ((Json.obj fields).field key) = (Json.obj fields).field key) :
    atField key edit fields = fields := by
  unfold atField
  rw [hsettled]
  split
  · next json hfield => exact setEntries_of_find hfield
  · next hfield =>
      have hnone := List.find?_eq_none.mp (Option.map_eq_none_iff.mp hfield)
      exact List.filter_eq_self.mpr fun field hmem => by simpa using hnone field hmem

theorem Settled.atField (hsettled : Settled edit) (key : String) (fields : Fields) :
    Edit.atField key edit (Edit.atField key edit fields) = Edit.atField key edit fields := by
  apply atField_of_settled
  rw [field_atField_self]
  exact hsettled _

theorem settled_ensured {change : Fields → Fields}
    (hchange : ∀ fields, change (change fields) = change fields) :
    Settled (Edit.ensured change) := fun value =>
  congrArg (fun fields => some (Json.obj fields)) (hchange (objectFields value))

theorem settled_pruned {change : Fields → Fields}
    (hchange : ∀ fields, change (change fields) = change fields) :
    Settled (Edit.pruned change) := by
  have hpruned : ∀ fields, Edit.pruned change (some (.obj fields)) =
      if (change fields).isEmpty then none else some (.obj (change fields)) := fun _ => rfl
  have hobject : ∀ fields, Edit.pruned change (Edit.pruned change (some (.obj fields))) =
      Edit.pruned change (some (.obj fields)) := by
    intro fields
    rw [hpruned]
    by_cases hempty : (change fields).isEmpty
    · rw [if_pos hempty]
      rfl
    · rw [if_neg hempty, hpruned, hchange, if_neg hempty]
  intro value
  cases value with
  | none => rfl
  | some json =>
      cases json with
      | obj fields => exact hobject fields
      | null => rfl
      | bool value => rfl
      | num value => rfl
      | str value => rfl
      | arr elements => rfl

end Lookup

end OpenClaw.Runtime
