import Mathlib.Data.List.Basic

/-!
# Base64 as Go reads and writes it

The four encodings of Go's `encoding/base64` differ in two characters and in whether
the last group is padded.  Decoding skips line breaks anywhere and does not look at
the bits that are left over.  Bytes are numbers below 256.
-/

namespace OpenClaw.Runtime

structure Base64 where
  /-- The characters for 62 and 63. -/
  plus : Char
  slash : Char
  padded : Bool

namespace Base64

def rawUrl : Base64 := ⟨'-', '_', false⟩

def url : Base64 := ⟨'-', '_', true⟩

def rawStd : Base64 := ⟨'+', '/', false⟩

def std : Base64 := ⟨'+', '/', true⟩

variable (encoding : Base64)

/-- The six bits of a character. -/
def sextet (c : Char) : Option ℕ :=
  if 'A' ≤ c ∧ c ≤ 'Z' then some (c.toNat - 'A'.toNat)
  else if 'a' ≤ c ∧ c ≤ 'z' then some (c.toNat - 'a'.toNat + 26)
  else if '0' ≤ c ∧ c ≤ '9' then some (c.toNat - '0'.toNat + 52)
  else if c = encoding.plus then some 62
  else if c = encoding.slash then some 63
  else none

def char (sextet : ℕ) : Char :=
  if sextet < 26 then Char.ofNat ('A'.toNat + sextet)
  else if sextet < 52 then Char.ofNat ('a'.toNat + (sextet - 26))
  else if sextet < 62 then Char.ofNat ('0'.toNat + (sextet - 52))
  else if sextet = 62 then encoding.plus
  else encoding.slash

/-- The byte of a last group of two characters. -/
def lastByte (a b : Char) : Option (List ℕ) := do
  let x ← encoding.sextet a
  let y ← encoding.sextet b
  return [x * 4 + y / 16]

/-- The bytes of a last group of three characters. -/
def lastBytes (a b c : Char) : Option (List ℕ) := do
  let x ← encoding.sextet a
  let y ← encoding.sextet b
  let z ← encoding.sextet c
  return [x * 4 + y / 16, y % 16 * 16 + z / 4]

def decodeGroups : List Char → Option (List ℕ)
  | [] => some []
  | [_] => none
  | [a, b] => if encoding.padded then none else encoding.lastByte a b
  | [a, b, c] => if encoding.padded then none else encoding.lastBytes a b c
  | a :: b :: c :: d :: rest =>
      if encoding.padded ∧ d = '=' ∧ rest = [] then
        if c = '=' then encoding.lastByte a b else encoding.lastBytes a b c
      else do
        let x ← encoding.sextet a
        let y ← encoding.sextet b
        let z ← encoding.sextet c
        let w ← encoding.sextet d
        let bytes ← decodeGroups rest
        return (x * 4 + y / 16) :: (y % 16 * 16 + z / 4) :: (z % 4 * 64 + w) :: bytes

/-- `DecodeString` -/
def decodeString (text : String) : Option (List ℕ) :=
  encoding.decodeGroups (text.toList.filter fun c => decide (c ≠ '\n' ∧ c ≠ '\r'))

def encodeGroups : List ℕ → List Char
  | [] => []
  | [x] =>
      [encoding.char (x / 4), encoding.char (x % 4 * 16)] ++
        if encoding.padded then ['=', '='] else []
  | [x, y] =>
      [encoding.char (x / 4), encoding.char (x % 4 * 16 + y / 16), encoding.char (y % 16 * 4)] ++
        if encoding.padded then ['='] else []
  | x :: y :: z :: rest =>
      encoding.char (x / 4) :: encoding.char (x % 4 * 16 + y / 16) ::
        encoding.char (y % 16 * 4 + z / 64) :: encoding.char (z % 64) :: encodeGroups rest

/-- `EncodeToString` -/
def encodeToString (bytes : List ℕ) : String := String.ofList (encoding.encodeGroups bytes)

/-! ## What is written is read -/

/-- The sixty-four characters are told apart. -/
def Distinguishes : Prop := ∀ n < 64, encoding.sextet (encoding.char n) = some n

theorem rawUrl_distinguishes : rawUrl.Distinguishes := by
  unfold Distinguishes
  decide

variable {encoding}

theorem decodeGroups_encodeGroups (hraw : encoding.padded = false)
    (hchars : encoding.Distinguishes) {bytes : List ℕ} (hbytes : ∀ byte ∈ bytes, byte < 256) :
    encoding.decodeGroups (encoding.encodeGroups bytes) = some bytes := by
  induction bytes using encodeGroups.induct with
  | case1 => rfl
  | case2 x =>
      have hx : x < 256 := hbytes x (by simp)
      have hbyte : x / 4 * 4 + x % 4 * 16 / 16 = x := by omega
      simp only [encodeGroups, hraw, decodeGroups, lastByte, hchars _ (show x / 4 < 64 by omega),
        hchars _ (show x % 4 * 16 < 64 by omega), Bool.false_eq_true, if_false, List.append_nil,
        Option.bind_eq_bind, Option.bind_some, Option.pure_def, hbyte]
  | case3 x y =>
      have hx : x < 256 := hbytes x (by simp)
      have hy : y < 256 := hbytes y (by simp)
      have hfirst : x / 4 * 4 + (x % 4 * 16 + y / 16) / 16 = x := by omega
      have hsecond : (x % 4 * 16 + y / 16) % 16 * 16 + y % 16 * 4 / 4 = y := by omega
      simp only [encodeGroups, hraw, decodeGroups, lastBytes, hchars _ (show x / 4 < 64 by omega),
        hchars _ (show x % 4 * 16 + y / 16 < 64 by omega),
        hchars _ (show y % 16 * 4 < 64 by omega), Bool.false_eq_true, if_false, List.append_nil,
        Option.bind_eq_bind, Option.bind_some, Option.pure_def, hfirst, hsecond]
  | case4 x y z rest ih =>
      have hx : x < 256 := hbytes x (by simp)
      have hy : y < 256 := hbytes y (by simp)
      have hz : z < 256 := hbytes z (by simp)
      have hfirst : x / 4 * 4 + (x % 4 * 16 + y / 16) / 16 = x := by omega
      have hsecond : (x % 4 * 16 + y / 16) % 16 * 16 + (y % 16 * 4 + z / 64) / 4 = y := by omega
      have hthird : (y % 16 * 4 + z / 64) % 4 * 64 + z % 64 = z := by omega
      have hrest := ih fun byte hmem => hbytes byte (by simp [hmem])
      simp only [encodeGroups, decodeGroups, hraw, hchars _ (show x / 4 < 64 by omega),
        hchars _ (show x % 4 * 16 + y / 16 < 64 by omega),
        hchars _ (show y % 16 * 4 + z / 64 < 64 by omega),
        hchars _ (show z % 64 < 64 by omega), Bool.false_eq_true, false_and, if_false,
        Option.bind_eq_bind, Option.bind_some, Option.pure_def, hrest, hfirst, hsecond, hthird]

/-- What holds of the sixty-four characters holds of all that is written. -/
theorem mem_encodeGroups (hraw : encoding.padded = false) {good : Char → Prop}
    (hgood : ∀ n < 64, good (encoding.char n)) {bytes : List ℕ}
    (hbytes : ∀ byte ∈ bytes, byte < 256) : ∀ c ∈ encoding.encodeGroups bytes, good c := by
  induction bytes using encodeGroups.induct with
  | case1 => simp [encodeGroups]
  | case2 x =>
      have hx : x < 256 := hbytes x (by simp)
      simp only [encodeGroups, hraw, Bool.false_eq_true, if_false, List.append_nil]
      simp [hgood _ (show x / 4 < 64 by omega), hgood _ (show x % 4 * 16 < 64 by omega)]
  | case3 x y =>
      have hx : x < 256 := hbytes x (by simp)
      have hy : y < 256 := hbytes y (by simp)
      simp only [encodeGroups, hraw, Bool.false_eq_true, if_false, List.append_nil]
      simp [hgood _ (show x / 4 < 64 by omega), hgood _ (show x % 4 * 16 + y / 16 < 64 by omega),
        hgood _ (show y % 16 * 4 < 64 by omega)]
  | case4 x y z rest ih =>
      have hx : x < 256 := hbytes x (by simp)
      have hy : y < 256 := hbytes y (by simp)
      have hz : z < 256 := hbytes z (by simp)
      have hrest := ih fun byte hmem => hbytes byte (by simp [hmem])
      intro c hc
      simp only [encodeGroups, List.mem_cons] at hc
      obtain rfl | rfl | rfl | rfl | hc := hc
      · exact hgood _ (by omega)
      · exact hgood _ (by omega)
      · exact hgood _ (by omega)
      · exact hgood _ (by omega)
      · exact hrest c hc

/-- Without padding nothing else is written than the characters. -/
theorem exists_char_of_mem (hraw : encoding.padded = false) {bytes : List ℕ} {c : Char}
    (hc : c ∈ encoding.encodeGroups bytes) : ∃ n, c = encoding.char n := by
  induction bytes using encodeGroups.induct with
  | case1 => cases hc
  | case2 x =>
      simp only [encodeGroups, hraw, Bool.false_eq_true, if_false, List.append_nil, List.mem_cons,
        List.not_mem_nil, or_false] at hc
      obtain rfl | rfl := hc
      · exact ⟨_, rfl⟩
      · exact ⟨_, rfl⟩
  | case3 x y =>
      simp only [encodeGroups, hraw, Bool.false_eq_true, if_false, List.append_nil, List.mem_cons,
        List.not_mem_nil, or_false] at hc
      obtain rfl | rfl | rfl := hc
      · exact ⟨_, rfl⟩
      · exact ⟨_, rfl⟩
      · exact ⟨_, rfl⟩
  | case4 x y z rest ih =>
      simp only [encodeGroups, List.mem_cons] at hc
      obtain rfl | rfl | rfl | rfl | hc := hc
      · exact ⟨_, rfl⟩
      · exact ⟨_, rfl⟩
      · exact ⟨_, rfl⟩
      · exact ⟨_, rfl⟩
      · exact ih hc

theorem encodeGroups_ne_nil {bytes : List ℕ} (hbytes : bytes ≠ []) :
    encoding.encodeGroups bytes ≠ [] := by
  unfold encodeGroups
  split
  · exact absurd rfl hbytes
  · simp
  · simp
  · simp

/-- **Text that an unpadded encoding wrote is read back.** -/
theorem decodeString_encodeToString (hraw : encoding.padded = false)
    (hchars : encoding.Distinguishes)
    (hlines : ∀ n < 64, encoding.char n ≠ '\n' ∧ encoding.char n ≠ '\r') {bytes : List ℕ}
    (hbytes : ∀ byte ∈ bytes, byte < 256) :
    encoding.decodeString (encoding.encodeToString bytes) = some bytes := by
  have hclean : ∀ c ∈ encoding.encodeGroups bytes, decide (c ≠ '\n' ∧ c ≠ '\r') = true :=
    fun c hc => decide_eq_true
      (@mem_encodeGroups encoding hraw (fun c => c ≠ '\n' ∧ c ≠ '\r') hlines bytes hbytes c hc)
  unfold decodeString encodeToString
  rw [String.toList_ofList, List.filter_eq_self.mpr hclean]
  exact decodeGroups_encodeGroups hraw hchars hbytes

end Base64

end OpenClaw.Runtime
