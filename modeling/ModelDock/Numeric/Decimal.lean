import Mathlib.Data.Rat.Floor
import Mathlib.Tactic.Positivity

/-!
# Fixed-point decimals

A decimal column stores a whole number of units of `10 ^ -scale`. Writing a rational rounds it to the nearest
unit, half away from zero; rounding keeps the order and fixes whole numbers of units.
-/

namespace ModelDock.Numeric

variable {x y : ℚ}

/-- The nearest integer, with halves away from zero. -/
def roundHalfAway (x : ℚ) : ℤ := if 0 ≤ x then ⌊x + 1 / 2⌋ else -⌊-x + 1 / 2⌋

/-- The rational a number of units stands for. -/
def decimalValue (scale : ℕ) (units : ℤ) : ℚ := units / 10 ^ scale

/-- Half a unit: a rest this large is rounded up. -/
def halfUnit (scale : ℕ) : ℚ := 1 / 2 / 10 ^ scale

/-- The units a rational is written as. -/
def quantize (scale : ℕ) (x : ℚ) : ℤ := roundHalfAway (x * 10 ^ scale)

@[simp] theorem roundHalfAway_intCast (n : ℤ) : roundHalfAway (n : ℚ) = n := by
  have hhalf (m : ℤ) : ⌊(m : ℚ) + 1 / 2⌋ = m := by
    rw [Int.floor_eq_iff]
    constructor <;> linarith
  unfold roundHalfAway
  split
  · exact hhalf n
  · rw [← Int.cast_neg, hhalf, neg_neg]

theorem roundHalfAway_mono (h : x ≤ y) : roundHalfAway x ≤ roundHalfAway y := by
  unfold roundHalfAway
  split
  · next hx =>
    rw [if_pos (hx.trans h)]
    exact Int.floor_le_floor (by linarith)
  · next hx =>
    split
    · next _ =>
      have hleft : 0 ≤ ⌊-x + 1 / 2⌋ := Int.floor_nonneg.mpr (by linarith)
      have hrg : 0 ≤ ⌊y + 1 / 2⌋ := Int.floor_nonneg.mpr (by linarith)
      omega
    · exact neg_le_neg (Int.floor_le_floor (by linarith))

theorem roundHalfAway_nonneg (h : 0 ≤ x) : 0 ≤ roundHalfAway x := by
  have hzero : roundHalfAway 0 = 0 := roundHalfAway_intCast 0
  exact hzero ▸ roundHalfAway_mono h

variable {scale : ℕ}

/-- A decimal of that scale is not rounded. -/
@[simp] theorem quantize_decimalValue (units : ℤ) : quantize scale (decimalValue scale units) = units := by
  have hsc : (10 : ℚ) ^ scale ≠ 0 := by positivity
  rw [quantize, decimalValue, div_mul_cancel₀ _ hsc, roundHalfAway_intCast]

theorem quantize_mono (h : x ≤ y) : quantize scale x ≤ quantize scale y := by
  have hsc : (0 : ℚ) ≤ 10 ^ scale := by positivity
  exact roundHalfAway_mono (mul_le_mul_of_nonneg_right h hsc)

theorem quantize_nonneg (h : 0 ≤ x) : 0 ≤ quantize scale x := by
  have hsc : (0 : ℚ) ≤ 10 ^ scale := by positivity
  exact roundHalfAway_nonneg (mul_nonneg h hsc)

theorem quantize_le_of_le {units : ℤ} (h : x ≤ decimalValue scale units) : quantize scale x ≤ units := by
  calc quantize scale x ≤ quantize scale (decimalValue scale units) := quantize_mono h
    _ = units := quantize_decimalValue units

theorem decimalValue_nonneg {a : ℤ} (h : 0 ≤ a) : 0 ≤ decimalValue scale a := by
  have hsc : (0 : ℚ) ≤ 10 ^ scale := by positivity
  exact div_nonneg (Int.cast_nonneg h) hsc

theorem lt_quantize_iff {n : ℤ} (h : 0 ≤ x) :
    n < quantize scale x ↔ decimalValue scale n + halfUnit scale ≤ x := by
  have hsc : (0 : ℚ) < 10 ^ scale := by positivity
  have hsum : decimalValue scale n + halfUnit scale = (n + 1 / 2) / 10 ^ scale := by
    rw [decimalValue, halfUnit, add_div]
  rw [hsum, div_le_iff₀ hsc, quantize, roundHalfAway, if_pos (mul_nonneg h hsc.le), ← Int.add_one_le_iff,
    Int.le_floor]
  push_cast
  constructor <;> intro _ <;> linarith

theorem quantize_eq_quantize_iff (hx : 0 ≤ x) (hy : 0 ≤ y) : quantize scale x = quantize scale y ↔
      ∀ n : ℤ, decimalValue scale n + halfUnit scale ≤ x ↔ decimalValue scale n + halfUnit scale ≤ y := by
  simp only [← lt_quantize_iff hx, ← lt_quantize_iff hy]
  exact ⟨fun heq n => by rw [heq], eq_of_forall_lt_iff⟩

theorem quantize_eq_zero_iff (h : 0 ≤ x) : quantize scale x = 0 ↔ x < halfUnit scale := by
  have hzero : decimalValue scale 0 + halfUnit scale = halfUnit scale := by simp [decimalValue]
  rw [← not_le, ← hzero, ← lt_quantize_iff h, not_lt]
  exact ⟨fun heq => heq.le, fun hle => le_antisymm hle (quantize_nonneg h)⟩

end ModelDock.Numeric
