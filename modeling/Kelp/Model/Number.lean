import Mathlib.Algebra.Order.Floor
import Mathlib.Data.Rat.Floor
import Mathlib.Tactic.FieldSimp
import Mathlib.Tactic.Linarith
import Mathlib.Tactic.Positivity

/-! Decimal numbers that carry their precision: `model.Number`.

The `model` package is not among the sources; its callers here are the mirror
strategy and the level providers. What they rely on is what the specification
says of a `Number`: a decimal value carrying its own precision (digits after the
point), arithmetic that rounds at the precision its operands share, and equality
within a tolerance once both sides are brought to a matching precision. Rounding
is to the nearest unit of the last digit, half away from zero.

`float64` values are exact rationals throughout the development. A `Number`'s
value is a whole number of units of its last digit (`OnGrid`): every constructor
rounds, so no other value can be built. -/
namespace Kelp

/-! ### Rounding -/

/-- Modelled from the spec, which has a `Number` round at its precision deterministically: to
the nearest whole number, half away from zero, `int(num + math.Copysign(0.5, num))`. -/
def roundHalfAway (x : ℚ) : ℤ :=
  if 0 ≤ x then ⌊x + 1 / 2⌋ else -⌊-x + 1 / 2⌋

/-- Modelled from the spec: `x` rounded to `precision` decimals. -/
def toFixed (x : ℚ) (precision : ℕ) : ℚ :=
  roundHalfAway (x * 10 ^ precision) / 10 ^ precision

/-- `x` is a whole number of units `10⁻ᵏ`. -/
def OnGrid (k : ℕ) (x : ℚ) : Prop := ∃ z : ℤ, x * 10 ^ k = z

theorem roundHalfAway_sub_le (x : ℚ) : |(roundHalfAway x : ℚ) - x| ≤ 1 / 2 := by
  unfold roundHalfAway
  split_ifs
  · have := Int.floor_le (x + 1 / 2)
    have := Int.lt_floor_add_one (x + 1 / 2)
    rw [abs_le]
    constructor <;> linarith
  · have := Int.floor_le (-x + 1 / 2)
    have := Int.lt_floor_add_one (-x + 1 / 2)
    push_cast
    rw [abs_le]
    constructor <;> linarith

theorem roundHalfAway_intCast (z : ℤ) : roundHalfAway z = z := by
  unfold roundHalfAway
  split_ifs
  · rw [Int.floor_eq_iff]
    constructor <;> linarith
  · rw [neg_eq_iff_eq_neg, Int.floor_eq_iff]
    push_cast
    constructor <;> linarith

theorem roundHalfAway_mono {x y : ℚ} (h : x ≤ y) : roundHalfAway x ≤ roundHalfAway y := by
  unfold roundHalfAway
  split_ifs
  · exact Int.floor_mono (by linarith)
  · linarith
  · have := Int.floor_nonneg.mpr (show (0 : ℚ) ≤ -x + 1 / 2 by linarith)
    have := Int.floor_nonneg.mpr (show (0 : ℚ) ≤ y + 1 / 2 by linarith)
    omega
  · have := Int.floor_mono (show -y + 1 / 2 ≤ -x + 1 / 2 by linarith)
    omega

/-- The nearest integer is the only one closer than a half. -/
theorem roundHalfAway_eq_of_abs_lt {y : ℚ} {z : ℤ} (h : |y - z| < 1 / 2) :
    roundHalfAway y = z := by
  have hr := roundHalfAway_sub_le y
  have hlt : |((roundHalfAway y - z : ℤ) : ℚ)| < 1 := by
    push_cast
    calc |(roundHalfAway y : ℚ) - z| ≤ |(roundHalfAway y : ℚ) - y| + |y - z| := abs_sub_le _ _ _
      _ < 1 := by linarith
  have : |roundHalfAway y - z| < 1 := by exact_mod_cast hlt
  rw [abs_lt] at this
  omega

theorem OnGrid.mono {k p : ℕ} {x : ℚ} (h : OnGrid k x) (hk : k ≤ p) : OnGrid p x := by
  obtain ⟨z, hz⟩ := h
  obtain ⟨j, rfl⟩ := Nat.exists_eq_add_of_le hk
  exact ⟨z * 10 ^ j, by rw [pow_add, ← mul_assoc, hz]; push_cast; ring⟩

theorem OnGrid.add {k : ℕ} {x y : ℚ} (hx : OnGrid k x) (hy : OnGrid k y) : OnGrid k (x + y) := by
  obtain ⟨a, ha⟩ := hx
  obtain ⟨b, hb⟩ := hy
  exact ⟨a + b, by push_cast; rw [← ha, ← hb]; ring⟩

theorem OnGrid.sub {k : ℕ} {x y : ℚ} (hx : OnGrid k x) (hy : OnGrid k y) : OnGrid k (x - y) := by
  obtain ⟨a, ha⟩ := hx
  obtain ⟨b, hb⟩ := hy
  exact ⟨a - b, by push_cast; rw [← ha, ← hb]; ring⟩

theorem onGrid_zero (k : ℕ) : OnGrid k 0 := ⟨0, by simp⟩

theorem toFixed_onGrid (x : ℚ) (p : ℕ) : OnGrid p (toFixed x p) :=
  ⟨roundHalfAway (x * 10 ^ p), by unfold toFixed; field_simp⟩

/-- Rounding changes nothing on the grid. -/
theorem toFixed_of_onGrid {x : ℚ} {p : ℕ} (h : OnGrid p x) : toFixed x p = x := by
  obtain ⟨z, hz⟩ := h
  unfold toFixed
  rw [hz, roundHalfAway_intCast, ← hz]
  field_simp

theorem toFixed_of_onGrid_le {x : ℚ} {k p : ℕ} (h : OnGrid k x) (hk : k ≤ p) :
    toFixed x p = x :=
  toFixed_of_onGrid (h.mono hk)

theorem toFixed_sub_eq (x : ℚ) (p : ℕ) :
    toFixed x p - x = ((roundHalfAway (x * 10 ^ p) : ℚ) - x * 10 ^ p) / 10 ^ p := by
  unfold toFixed
  field_simp
  ring

/-- Rounding moves a value by at most half a unit of the last digit. -/
theorem abs_toFixed_sub_le (x : ℚ) (p : ℕ) : |toFixed x p - x| ≤ 1 / 2 / 10 ^ p := by
  have hp : (0 : ℚ) < 10 ^ p := by positivity
  rw [toFixed_sub_eq, abs_div, abs_of_pos hp]
  exact div_le_div_of_nonneg_right (roundHalfAway_sub_le _) hp.le

theorem toFixed_mono {x y : ℚ} (h : x ≤ y) (p : ℕ) : toFixed x p ≤ toFixed y p := by
  have hp : (0 : ℚ) < 10 ^ p := by positivity
  have := roundHalfAway_mono (mul_le_mul_of_nonneg_right h hp.le)
  exact div_le_div_of_nonneg_right (by exact_mod_cast this) hp.le

theorem toFixed_nonneg {x : ℚ} (h : 0 ≤ x) (p : ℕ) : 0 ≤ toFixed x p := by
  simpa [toFixed_of_onGrid (onGrid_zero p)] using toFixed_mono h p

/-- A grid value closer than half a unit is the rounded value. -/
theorem toFixed_eq_of_abs_lt {x g : ℚ} {p : ℕ} (hg : OnGrid p g) (h : |x - g| < 1 / 2 / 10 ^ p) :
    toFixed x p = g := by
  obtain ⟨z, hz⟩ := hg
  have hp : (0 : ℚ) < 10 ^ p := by positivity
  have hclose : |x * 10 ^ p - z| < 1 / 2 := by
    rw [← hz, ← sub_mul, abs_mul, abs_of_pos hp]
    rwa [lt_div_iff₀ hp] at h
  unfold toFixed
  rw [roundHalfAway_eq_of_abs_lt hclose, ← hz]
  field_simp

@[simp] theorem toFixed_zero (p : ℕ) : toFixed 0 p = 0 := toFixed_of_onGrid (onGrid_zero p)

/-- Two grid values a unit apart at least. -/
theorem OnGrid.le_sub_of_lt {p : ℕ} {x g : ℚ} (hx : OnGrid p x) (hg : OnGrid p g) (h : x < g) :
    x ≤ g - 1 / 10 ^ p := by
  obtain ⟨a, ha⟩ := hx
  obtain ⟨b, hb⟩ := hg
  have hp : (0 : ℚ) < 10 ^ p := by positivity
  rw [eq_div_of_mul_eq hp.ne' ha, eq_div_of_mul_eq hp.ne' hb] at h ⊢
  have hab : a < b := by exact_mod_cast (div_lt_div_iff_of_pos_right hp).mp h
  rw [← sub_div]
  exact div_le_div_of_nonneg_right (by exact_mod_cast Int.le_sub_one_of_lt hab) hp.le

/-- A grid value below a rounded value is below the value itself. -/
theorem lt_of_lt_toFixed {p : ℕ} {x y : ℚ} (hx : OnGrid p x) (h : x < toFixed y p) : x < y := by
  have h1 := hx.le_sub_of_lt (toFixed_onGrid y p) h
  have h2 := (abs_le.mp (abs_toFixed_sub_le y p)).2
  have hp : (0 : ℚ) < 1 / 10 ^ p := by positivity
  have : (1 : ℚ) / 2 / 10 ^ p = 1 / 10 ^ p / 2 := by rw [div_div, div_div, mul_comm]
  linarith

/-- Half of a nonnegative grid value rounds up, if at all: rounding is half away from zero. -/
theorem le_toFixed_half {m : ℚ} {p : ℕ} (hm : 0 ≤ m) (hg : OnGrid p m) :
    m * (1 / 2) ≤ toFixed (m * (1 / 2)) p := by
  obtain ⟨z, hz⟩ := hg
  have hp : (0 : ℚ) < 10 ^ p := by positivity
  have hy : m * (1 / 2) * 10 ^ p = z / 2 := by rw [← hz]; ring
  have h0 : (0 : ℚ) ≤ z / 2 := by rw [← hy]; positivity
  have h1 := Int.sub_one_lt_floor ((z : ℚ) / 2 + 1 / 2)
  have h2 : z ≤ 2 * ⌊(z : ℚ) / 2 + 1 / 2⌋ := by
    have : ((z - 1 : ℤ) : ℚ) < ((2 * ⌊(z : ℚ) / 2 + 1 / 2⌋ : ℤ) : ℚ) := by push_cast; linarith
    have := Int.cast_lt.mp this
    omega
  have h3 : (z : ℚ) ≤ 2 * ⌊(z : ℚ) / 2 + 1 / 2⌋ := by exact_mod_cast h2
  unfold toFixed roundHalfAway
  rw [hy, if_pos h0, le_div_iff₀ hp, hy]
  linarith

/-! ### Numbers -/

/-- Modelled from the spec's `Number`: a decimal value with its precision. -/
structure Number where
  value : ℚ
  precision : ℕ
  onGrid : OnGrid precision value

/-- Modelled from the spec: `model.NumberFromFloat`, the value rounded to the precision. -/
def numberFromFloat (f : ℚ) (precision : ℕ) : Number :=
  ⟨toFixed f precision, precision, toFixed_onGrid f precision⟩

@[simp] theorem numberFromFloat_value (f : ℚ) (p : ℕ) : (numberFromFloat f p).value = toFixed f p :=
  rfl

@[simp] theorem numberFromFloat_precision (f : ℚ) (p : ℕ) :
    (numberFromFloat f p).precision = p :=
  rfl

namespace Number

/-- Modelled from the spec: `Number.Add`, the sum at the smaller precision. -/
def add (n n2 : Number) : Number :=
  numberFromFloat (n.value + n2.value) (min n.precision n2.precision)

/-- Modelled from the spec: `Number.Subtract`, the difference at the smaller precision. -/
def subtract (n n2 : Number) : Number :=
  numberFromFloat (n.value - n2.value) (min n.precision n2.precision)

/-- Modelled from the spec: `Number.Multiply`, the product at the smaller precision. -/
def multiply (n n2 : Number) : Number :=
  numberFromFloat (n.value * n2.value) (min n.precision n2.precision)

/-- Modelled from the spec: `Number.Scale`, a multiple at the number's own precision. -/
def scale (n : Number) (scaleFactor : ℚ) : Number :=
  numberFromFloat (n.value * scaleFactor) n.precision

/-- Modelled from the spec's equality within a tolerance: `Number.EqualsPrecisionNormalized`,
both sides, rounded to the smaller precision, lie within `epsilon` of each other. -/
def equalsPrecisionNormalized (n n2 : Number) (epsilon : ℚ) : Bool :=
  decide (|toFixed n.value (min n.precision n2.precision) -
    toFixed n2.value (min n.precision n2.precision)| < epsilon)

/-- `n` fits grid `k`: its precision is at least `k` and its value lies on the grid. -/
def Fits (k : ℕ) (n : Number) : Prop := k ≤ n.precision ∧ OnGrid k n.value

end Number

/-- Modelled from the spec: `model.NumberByCappingPrecision`, the number at most at
`precision`. -/
def numberByCappingPrecision (n : Number) (precision : ℕ) : Number :=
  if precision < n.precision then numberFromFloat n.value precision else n

/-- Modelled from the spec: `model.InvertNumber`, the inverse at the number's own precision. -/
def invertNumber (n : Number) : Number :=
  numberFromFloat (1 / n.value) n.precision

/-- Modelled from the spec: `model.MustNumberFromString`, with the string given by the value it
parses to. -/
def mustNumberFromString (s : ℚ) (precision : ℕ) : Number :=
  numberFromFloat s precision

/-! ### Arithmetic on a shared grid

When every operand fits one grid, rounding at the operands' precision is exact. -/

namespace Number
variable {k : ℕ} {n n2 : Number}

theorem add_value (hn : n.Fits k) (hn2 : n2.Fits k) : (n.add n2).value = n.value + n2.value :=
  toFixed_of_onGrid_le (hn.2.add hn2.2) (le_min hn.1 hn2.1)

theorem subtract_value (hn : n.Fits k) (hn2 : n2.Fits k) :
    (n.subtract n2).value = n.value - n2.value :=
  toFixed_of_onGrid_le (hn.2.sub hn2.2) (le_min hn.1 hn2.1)

theorem add_fits (hn : n.Fits k) (hn2 : n2.Fits k) : (n.add n2).Fits k :=
  ⟨le_min hn.1 hn2.1, by rw [add_value hn hn2]; exact hn.2.add hn2.2⟩

theorem subtract_fits (hn : n.Fits k) (hn2 : n2.Fits k) : (n.subtract n2).Fits k :=
  ⟨le_min hn.1 hn2.1, by rw [subtract_value hn hn2]; exact hn.2.sub hn2.2⟩

/-- Capping the precision rounds the value to the cap: a number whose precision is within the
cap already lies on its grid. -/
theorem capping_value_eq_toFixed (n : Number) (p : ℕ) :
    (numberByCappingPrecision n p).value = toFixed n.value p := by
  unfold numberByCappingPrecision
  split_ifs with h
  · rfl
  · exact (toFixed_of_onGrid_le n.onGrid (not_lt.mp h)).symm

theorem capping_value (hn : n.Fits k) {p : ℕ} (hp : k ≤ p) :
    (numberByCappingPrecision n p).value = n.value := by
  unfold numberByCappingPrecision
  split_ifs
  · exact toFixed_of_onGrid_le hn.2 hp
  · rfl

theorem capping_fits (hn : n.Fits k) {p : ℕ} (hp : k ≤ p) : (numberByCappingPrecision n p).Fits k := by
  unfold numberByCappingPrecision
  split_ifs
  · exact ⟨hp, by rw [numberFromFloat_value, toFixed_of_onGrid_le hn.2 hp]; exact hn.2⟩
  · exact hn

/-- A value read back at a precision no finer than the cap, equal to the capped value, rounds
like the number it was capped from at the precision the two share. -/
theorem toFixed_readBack {a : Number} {p : ℕ} (hq : a.precision ≤ p)
    (ha : a.value = (numberByCappingPrecision n p).value) :
    toFixed a.value (min a.precision n.precision) = toFixed n.value (min a.precision n.precision) := by
  unfold numberByCappingPrecision at ha
  split_ifs at ha with hp
  · rw [numberFromFloat_value] at ha
    rw [min_eq_left (by omega), toFixed_of_onGrid a.onGrid]
    rcases hq.lt_or_eq with hlt | rfl
    · have hpow : (10 : ℚ) ^ a.precision < 10 ^ p := pow_lt_pow_right₀ (by norm_num) hlt
      refine (toFixed_eq_of_abs_lt a.onGrid ?_).symm
      calc |n.value - a.value| = |toFixed n.value p - n.value| := by rw [ha, abs_sub_comm]
        _ ≤ 1 / 2 / 10 ^ p := abs_toFixed_sub_le _ _
        _ < 1 / 2 / 10 ^ a.precision := div_lt_div_of_pos_left (by norm_num) (by positivity) hpow
    · exact ha
  · rw [ha]

/-- Within any positive tolerance, two numbers that round alike at their shared precision are
equal. -/
theorem equalsPrecisionNormalized_of_toFixed_eq {ε : ℚ} (hε : 0 < ε)
    (h : toFixed n.value (min n.precision n2.precision) =
      toFixed n2.value (min n.precision n2.precision)) :
    n.equalsPrecisionNormalized n2 ε = true := by
  simp [equalsPrecisionNormalized, h, hε]

end Number

end Kelp
