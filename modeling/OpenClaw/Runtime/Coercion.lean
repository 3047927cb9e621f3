import OpenClaw.Runtime.Object
import OpenClaw.Runtime.Text

/-!
# What JavaScript makes of a value

The pair SDK reads JSON of unknown shape through `String(value || "")` and
`Number(value || fallback)`.  A missing or falsy value gives the fallback, a text is its
own text and a number its own number.  What `String` and `Number` make of any other value
is a parameter (`Coercion`), since no message is read that way.

`mapNumbers` goes through the numbers of a JSON value; `JSON.parse` reads each as a
double.
-/

namespace OpenClaw.Runtime

/-! ## Numbers -/

namespace JsNumber

/-- `Math.trunc(x)`. -/
def trunc : JsNumber → JsNumber
  | finite value => finite (if 0 ≤ value then value.floor else value.ceil)
  | x => x

/-- `Math.max(0, Math.trunc(x))`. -/
def whole (x : JsNumber) : JsNumber := max 0 x.trunc

/-- The number that is read.  Only for whole numbers the rounding matters. -/
def readDouble : JsNumber → JsNumber
  | finite value =>
      if value.den = 1 ∧ 0 ≤ value.num then finite (nearest value.num.toNat) else finite value
  | x => x

@[simp] theorem whole_natCast (n : ℕ) : whole (finite n) = finite n := by
  have htrunc : trunc (finite n) = ofCount n := by
    have hpos : (0 : ℚ) ≤ n := Nat.cast_nonneg n
    have hfloor : ((n : ℚ).floor : ℚ) = n := mod_cast Rat.floor_intCast (n : ℤ)
    rw [trunc, if_pos hpos, hfloor, ofCount_natCast]
  rw [whole, htrunc, max_zero_ofCount, ofCount_natCast]

/-- `Math.max(0, Math.trunc(x))` is a count unless `x` is `NaN`. -/
theorem whole_eq (x : JsNumber) : x.whole = if x = nan then nan else ofCount x.count := by
  cases x with
  | nan => rfl
  | negInf => rfl
  | posInf => rfl
  | finite value =>
      rw [if_neg (by simp)]
      by_cases hpos : 0 ≤ value
      · have hfloor : 0 ≤ value.floor := Rat.le_floor_iff.mpr (by exact_mod_cast hpos)
        have hcast : ((value.floor.toNat : ℕ) : ℚ) = value.floor := by
          exact_mod_cast Int.toNat_of_nonneg hfloor
        have htrunc : trunc (finite value) = ofCount (value.floor.toNat : ℕ) := by
          rw [trunc, if_pos hpos, ofCount_natCast, hcast]
        rw [whole, htrunc, max_zero_ofCount, count]
      · have hceil : value.ceil ≤ 0 := Rat.ceil_le_iff.mpr (by exact_mod_cast (not_le.mp hpos).le)
        have hfloor : value.floor < 0 := Rat.floor_lt_iff.mpr (by exact_mod_cast not_le.mp hpos)
        have hcount : count (finite value) = 0 := by
          rw [count, Int.toNat_of_nonpos hfloor.le]
          rfl
        have hnot : ¬(0 : ℚ) < value.ceil := by
          have hcast : (value.ceil : ℚ) ≤ 0 := by exact_mod_cast hceil
          exact not_lt.mpr hcast
        rw [whole, trunc, if_neg hpos, hcount]
        show (if lt (finite 0) (finite value.ceil) = true then _ else finite 0) = finite 0
        rw [if_neg]
        simpa [lt] using hnot

theorem whole_finite (value : ℚ) : whole (finite value) = finite value.floor.toNat := by
  rw [whole_eq, if_neg (by simp), count, ofCount_natCast]

/-- A number that is not zero is there. -/
theorem orElse_natCast {n : ℕ} (hpos : 0 < n) (fallback : JsNumber) :
    (finite n).orElse fallback = finite n := by
  have hne : (n : ℚ) ≠ 0 := Nat.cast_ne_zero.mpr (by omega)
  apply if_neg
  rintro (hnan | hzero)
  · cases hnan
  · exact hne (finite.inj hzero)

theorem readDouble_natCast (n : ℕ) : readDouble (finite n) = finite (nearest n) := by
  rw [readDouble, Rat.den_natCast, Rat.num_natCast, if_pos ⟨rfl, Int.natCast_nonneg n⟩,
    Int.toNat_natCast]

end JsNumber

/-! ## Texts and numbers of a value -/

/-- What `String` and `Number` make of a value that is no text, or no number. -/
structure Coercion where
  otherText : Json → String
  otherNumber : Json → JsNumber

/-- Whether `value` is truthy; nothing stands for `undefined`. -/
def truthy : Option Json → Bool
  | none => false
  | some .null => false
  | some (.bool value) => value
  | some (.num value) => value ≠ .nan ∧ value ≠ 0
  | some (.str value) => value ≠ ""
  | some (.arr _) => true
  | some (.obj _) => true

namespace Coercion

variable (coercion : Coercion)

/-- `String(value)`, for a value that is there. -/
def stringOf : Json → String
  | .str value => value
  | value => coercion.otherText value

/-- `Number(value)`, for a value that is there. -/
def numberOf : Json → JsNumber
  | .num value => value
  | value => coercion.otherNumber value

/-- `String(value || "")`. -/
def string (value : Option Json) : String :=
  if truthy value then (value.map coercion.stringOf).getD "" else ""

/-- `Number(value || fallback)`. -/
def number (value : Option Json) (fallback : JsNumber) : JsNumber :=
  if truthy value then (value.map coercion.numberOf).getD fallback else fallback

@[simp] theorem string_str (value : String) : coercion.string (some (.str value)) = value := by
  unfold string truthy
  by_cases hempty : value = ""
  · simp [hempty]
  · simp [hempty, stringOf]

theorem number_num (value fallback : JsNumber) :
    coercion.number (some (.num value)) fallback = value.orElse fallback := by
  unfold number JsNumber.orElse truthy
  by_cases hfalsy : value = .nan ∨ value = 0
  · rw [if_pos hfalsy, if_neg]
    rcases hfalsy with rfl | rfl <;> simp
  · rw [if_neg hfalsy, if_pos]
    · rfl
    · rw [not_or] at hfalsy
      simpa using hfalsy

/-- A number that is not zero is read as itself. -/
theorem number_natCast {n : ℕ} (hpos : 0 < n) (fallback : JsNumber) :
    coercion.number (some (.num (.finite n))) fallback = .finite n := by
  rw [number_num, JsNumber.orElse_natCast hpos]

/-- With zero for a fallback every number is. -/
theorem number_natCast_zero (n : ℕ) :
    coercion.number (some (.num (.finite n))) 0 = .finite n := by
  rcases Nat.eq_zero_or_pos n with rfl | hpos
  · rfl
  · exact coercion.number_natCast hpos 0

end Coercion

/-! ## The numbers of a value -/

namespace Json

mutual

/-- The value with every number replaced. -/
def mapNumbers (change : JsNumber → Json) : Json → Json
  | .num value => change value
  | .arr elements => .arr (mapElements change elements)
  | .obj fields => .obj (mapFields change fields)
  | .null => .null
  | .bool value => .bool value
  | .str value => .str value

def mapElements (change : JsNumber → Json) : List Json → List Json
  | [] => []
  | value :: rest => mapNumbers change value :: mapElements change rest

def mapFields (change : JsNumber → Json) : List (String × Json) → List (String × Json)
  | [] => []
  | (key, value) :: rest => (key, mapNumbers change value) :: mapFields change rest

end

/-- `JSON.parse`, of a value that some other language has written. -/
def parse : Json → Json := mapNumbers fun value => .num value.readDouble

theorem mapElements_eq_map (change : JsNumber → Json) (elements : List Json) :
    mapElements change elements = elements.map (mapNumbers change) := by
  induction elements with
  | nil => rfl
  | cons value rest ih => rw [mapElements, ih, List.map_cons]

@[simp] theorem mapNumbers_strs (change : JsNumber → Json) (texts : List String) :
    mapNumbers change (.arr (texts.map .str)) = .arr (texts.map .str) := by
  rw [mapNumbers, mapElements_eq_map, List.map_map]
  rfl

@[simp] theorem mapNumbers_str (change : JsNumber → Json) (text : String) :
    mapNumbers change (.str text) = .str text := by
  rw [mapNumbers]

@[simp] theorem mapNumbers_num (change : JsNumber → Json) (value : JsNumber) :
    mapNumbers change (.num value) = change value := by
  rw [mapNumbers]

/-- A field of the changed value. -/
theorem field_mapNumbers_obj (change : JsNumber → Json) (fields : List (String × Json))
    (key : String) :
    (mapNumbers change (.obj fields)).field key =
      ((Json.obj fields).field key).map (mapNumbers change) := by
  have hfind : ((mapFields change fields).find? fun entry => decide (entry.1 = key)) =
      (fields.find? fun entry => decide (entry.1 = key)).map fun entry =>
        (entry.1, mapNumbers change entry.2) := by
    induction fields with
    | nil => rfl
    | cons entry rest ih =>
        rw [mapFields, List.find?_cons, List.find?_cons]
        by_cases hkey : entry.1 = key
        · simp [hkey]
        · simpa [hkey] using ih
  rw [mapNumbers, field, hfind, Option.map_map, field, Option.map_map]
  rfl

end Json

end OpenClaw.Runtime
