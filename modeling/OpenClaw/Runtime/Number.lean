import Mathlib.Data.ENat.Basic
import Mathlib.Data.Rat.Floor

/-!
# JavaScript numbers

A `number` is a finite value, one of the infinities, or `NaN`.  Finite values
are rationals: the code compares, truncates and subtracts them, and none of that
depends on which rationals a double can hold.  Where it counts up, `plusOne`
rounds.

Sequence numbers and timestamps all pass through
`Math.max(0, Math.trunc(Number(x || 0)))`, which is `JsNumber.count`: a natural
number or infinity, whatever `x` was.
-/

namespace OpenClaw.Runtime

/-! Suprema and comparisons of sequence numbers are the computable ones of the linear
order. -/

instance (priority := high) seqOrd : Ord ℕ∞ := instLinearOrderENat.toOrd

instance (priority := high) seqSup : SemilatticeSup ℕ∞ :=
  instLinearOrderENat.toLattice.toSemilatticeSup

inductive JsNumber
  | nan
  | negInf
  | finite (value : ℚ)
  | posInf
deriving DecidableEq, Inhabited

namespace JsNumber

instance (n : ℕ) : OfNat JsNumber n := ⟨finite n⟩

/-- `Math.max(0, Math.trunc(Number(x || 0)))`: `NaN` is falsy, truncation leaves
infinities alone, and what is below zero becomes zero. -/
def count : JsNumber → ℕ∞
  | nan => 0
  | negInf => 0
  | finite value => (value.floor.toNat : ℕ)
  | posInf => ⊤

/-- A count as a number again. -/
def ofCount : ℕ∞ → JsNumber
  | some n => finite n
  | none => posInf

/-- `left < right`; false when either is `NaN`. -/
def lt : JsNumber → JsNumber → Bool
  | nan, _ => false
  | _, nan => false
  | _, negInf => false
  | negInf, _ => true
  | posInf, _ => false
  | finite _, posInf => true
  | finite left, finite right => left < right

/-- `Math.max(left, right)`. -/
def max : JsNumber → JsNumber → JsNumber
  | nan, _ => nan
  | _, nan => nan
  | left, right => if lt left right then right else left

/-- `x || 0`. -/
def orZero : JsNumber → JsNumber
  | nan => 0
  | x => x

/-- `x || fallback` for a number: zero and `NaN` are falsy. -/
def orElse (x fallback : JsNumber) : JsNumber := if x = nan ∨ x = 0 then fallback else x

/-- `n + 1` for a count.  From `2 ^ 53` on the neighbours of a double are two apart
and a tie goes to the even significand, from `2 ^ 54` on the sum rounds back. -/
def plusOne : ℕ∞ → ℕ∞
  | some n =>
      ((if n < 2 ^ 53 then n + 1
        else if n < 2 ^ 54 then (if n % 4 = 0 then n else if n % 4 = 2 then n + 2 else n + 1)
        else n : ℕ) : ℕ∞)
  | none => ⊤

/-- The double nearest to a whole number, which is what reading it gives.  The
doubles around `n` are `2 ^ (log2 n - 52)` apart, and a tie goes to the even
significand. -/
def nearest (n : ℕ) : ℕ :=
  let unit := 2 ^ (n.log2 - 52)
  let significand := n / unit
  let rest := n % unit
  (if 2 * rest < unit then significand
    else if 2 * rest = unit ∧ significand % 2 = 0 then significand
    else significand + 1) * unit

theorem ofCount_top : ofCount ⊤ = posInf := rfl

theorem ofCount_natCast (n : ℕ) : ofCount n = finite n := rfl

@[simp] theorem count_ofCount (n : ℕ∞) : count (ofCount n) = n := by
  cases n with
  | top => rfl
  | coe n =>
      have hfloor : (n : ℚ).floor = n := mod_cast Rat.floor_intCast (n : ℤ)
      rw [ofCount_natCast, count, hfloor, Int.toNat_natCast]

theorem ofCount_injective : Function.Injective ofCount := fun left right heq => by
  rw [← count_ofCount left, heq, count_ofCount]

@[simp] theorem ofCount_ne_nan (n : ℕ∞) : ofCount n ≠ nan := by
  cases n <;> simp [ofCount_top, ofCount_natCast]

@[simp] theorem orZero_ofCount (n : ℕ∞) : orZero (ofCount n) = ofCount n := by
  cases n <;> rfl

@[simp] theorem lt_ofCount {m n : ℕ∞} : lt (ofCount m) (ofCount n) = true ↔ m < n := by
  cases m with
  | top => cases n <;> simp [ofCount_top, ofCount_natCast, lt]
  | coe m => cases n <;> simp [ofCount_top, ofCount_natCast, lt]

@[simp] theorem max_nan_left (n : JsNumber) : max nan n = nan := rfl

@[simp] theorem lt_nan_left (n : JsNumber) : lt nan n = false := rfl

theorem max_ofCount (m n : ℕ∞) : max (ofCount m) (ofCount n) = ofCount (m ⊔ n) := by
  have hmax : max (ofCount m) (ofCount n) =
      if lt (ofCount m) (ofCount n) = true then ofCount n else ofCount m := by
    cases m <;> cases n <;> rfl
  rw [hmax]
  split
  · next hlt => rw [max_eq_right (lt_ofCount.mp hlt).le]
  · next hnot => rw [max_eq_left (not_lt.mp fun hlt => hnot (lt_ofCount.mpr hlt))]

@[simp] theorem max_zero_ofCount (n : ℕ∞) : max 0 (ofCount n) = ofCount n := by
  have hzero := max_ofCount 0 n
  rwa [max_eq_right zero_le] at hzero

/-! ## Counting up -/

theorem plusOne_natCast_le {m n : ℕ} (hle : m ≤ n) : plusOne m ≤ plusOne n := by
  show ((_ : ℕ) : ℕ∞) ≤ ((_ : ℕ) : ℕ∞)
  rw [Nat.cast_le]
  split_ifs <;> omega

theorem plusOne_mono {m n : ℕ∞} (hle : m ≤ n) : plusOne m ≤ plusOne n := by
  cases n with
  | top => exact le_top
  | coe n =>
      obtain ⟨m, rfl⟩ := ENat.ne_top_iff_exists.mp (ne_top_of_le_ne_top (ENat.natCast_ne_top n) hle)
      exact plusOne_natCast_le (Nat.cast_le.mp hle)

theorem one_le_plusOne (n : ℕ∞) : 1 ≤ plusOne n := plusOne_mono (zero_le : (0 : ℕ∞) ≤ n)

/-! ## Reading whole numbers -/

theorem nearest_of_lt {n : ℕ} (hlt : n < 2 ^ 53) : nearest n = n := by
  have hshift : n.log2 - 52 = 0 := by
    rcases Nat.eq_zero_or_pos n with rfl | hpos
    · rfl
    · have := (Nat.log2_lt hpos.ne').mpr hlt
      omega
  rw [nearest, hshift, pow_zero, Nat.mod_one, Nat.div_one, if_pos (by omega), Nat.mul_one]

theorem nearest_of_le {n : ℕ} (hle : n ≤ 2 ^ 53) : nearest n = n := by
  rcases Nat.lt_or_eq_of_le hle with hlt | rfl
  · exact nearest_of_lt hlt
  · decide

/-- What reads as a number below `2 ^ 53` is that number. -/
theorem nearest_of_nearest_lt {n : ℕ} (hlt : nearest n < 2 ^ 53) : nearest n = n := by
  rcases Nat.lt_or_ge n (2 ^ 53) with hsmall | hlarge
  · exact nearest_of_lt hsmall
  have hne : n ≠ 0 := by
    intro hzero
    rw [hzero] at hlarge
    omega
  have hlog : 53 ≤ n.log2 := (Nat.le_log2 hne).mpr hlarge
  have hunit : 2 ≤ 2 ^ (n.log2 - 52) :=
    Nat.le_self_pow (by omega) 2
  have hsignificand : 2 ^ 52 ≤ n / 2 ^ (n.log2 - 52) := by
    rw [Nat.le_div_iff_mul_le (by omega), ← pow_add, show 52 + (n.log2 - 52) = n.log2 by omega]
    exact Nat.log2_self_le hne
  have hle : n / 2 ^ (n.log2 - 52) * 2 ^ (n.log2 - 52) ≤ nearest n := by
    rw [nearest]
    refine Nat.mul_le_mul_right _ ?_
    split_ifs
    · exact le_rfl
    · exact le_rfl
    · exact Nat.le_succ _
  have hmul := Nat.mul_le_mul hsignificand hunit
  omega

/-! ## Comparing numbers -/

/-- The numbers in their order; what `NaN` is sent to does not matter. -/
def rank : JsNumber → WithBot (WithTop ℚ)
  | nan => ((0 : ℚ) : WithTop ℚ)
  | negInf => ⊥
  | finite value => (value : WithTop ℚ)
  | posInf => (⊤ : WithTop ℚ)

theorem orZero_ne_nan (n : JsNumber) : n.orZero ≠ nan := by
  cases n <;> simp [orZero]

theorem lt_iff_rank {left right : JsNumber} (hleft : left ≠ nan) (hright : right ≠ nan) :
    lt left right = true ↔ rank left < rank right := by
  cases left <;> cases right <;> simp_all [lt, rank]
  -- a finite value and `Infinity`
  exact WithBot.coe_lt_coe.mpr (WithTop.coe_lt_top _)

theorem rank_inj {left right : JsNumber} (hleft : left ≠ nan) (hright : right ≠ nan) :
    rank left = rank right ↔ left = right := by
  cases left <;> cases right <;> simp_all [rank]

/-- Natural numbers keep their order. -/
theorem compare_rank_natCast (left right : ℕ) :
    compare (rank (finite left)) (rank (finite right)) = compare left right := by
  have hlt : ∀ {m n : ℕ}, rank (finite m) < rank (finite n) ↔ m < n := by
    intro m n
    rw [← lt_iff_rank (by simp) (by simp), lt, decide_eq_true_eq, Nat.cast_lt]
  rcases Nat.lt_trichotomy left right with h | rfl | h
  · rw [compare_lt_iff_lt.mpr (hlt.mpr h), Nat.compare_eq_lt.mpr h]
  · rw [compare_eq_iff_eq.mpr rfl, Nat.compare_eq_eq.mpr rfl]
  · rw [compare_gt_iff_gt.mpr (hlt.mpr h), Nat.compare_eq_gt.mpr h]

/-- `if (left !== right) return left - right;` before another comparison. -/
theorem compare_rank_then {left right : JsNumber} (next : Ordering) :
    (if left.orZero ≠ right.orZero then
      if lt left.orZero right.orZero then .lt else .gt
    else next) = (compare (rank left.orZero) (rank right.orZero)).then next := by
  have hleft := orZero_ne_nan left
  have hright := orZero_ne_nan right
  by_cases heq : left.orZero = right.orZero
  · have hcompare : compare (rank left.orZero) (rank right.orZero) = .eq :=
      compare_eq_iff_eq.mpr (congrArg rank heq)
    rw [if_neg (not_not.mpr heq), hcompare]
    rfl
  · rw [if_pos heq]
    by_cases hlt : rank left.orZero < rank right.orZero
    · rw [if_pos ((lt_iff_rank hleft hright).mpr hlt), compare_lt_iff_lt.mpr hlt]
      rfl
    · have hgt : rank right.orZero < rank left.orZero :=
        lt_of_le_of_ne (not_lt.mp hlt) fun hrank => heq ((rank_inj hleft hright).mp hrank.symm)
      rw [if_neg fun h => hlt ((lt_iff_rank hleft hright).mp h), compare_gt_iff_gt.mpr hgt]
      rfl

end JsNumber

end OpenClaw.Runtime
