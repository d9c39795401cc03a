import ModelDock.Store.Amount

/-!
# The split of a supplier's usage

`settlement.Split` takes the commission off the gross amount and the reserve off the rest, each rounded to
twelve digits, and leaves what remains as payable.
-/

namespace ModelDock.Settlement

open ModelDock.Numeric Relational Store
open Pricing (DecimalText)

theorem abs_decimalValue_quantize_sub_le {scale : ℕ} {x : ℚ} (h : 0 ≤ x) :
    |decimalValue scale (quantize scale x) - x| ≤ halfUnit scale := by
  have hbl := (lt_quantize_iff h).mp (sub_one_lt (quantize scale x))
  have hab := mt (lt_quantize_iff h).mpr (lt_irrefl (quantize scale x))
  have hunit : decimalValue scale (quantize scale x - 1) =
      decimalValue scale (quantize scale x) - 2 * halfUnit scale := by
    rw [decimalValue, decimalValue, halfUnit]
    push_cast
    ring
  rw [abs_le]
  constructor <;> linarith

/-- The parts of a gross amount. -/
structure SplitResult where
  (gross commission reserve payable : Numeric)

/-- `ParseDecimal`: at most 18 digits before the point and 12 after it. -/
def parseDecimal : DecimalText → Except StoreError Numeric
  | .units units => (numeric units).mapError fun _ => .invalidDecimal
  | _ => .error .invalidDecimal

/-- `Split`. -/
def splitGross (gross : DecimalText) (commissionBPS reserveBPS : ℤ) : Except StoreError SplitResult := do
  let validated ← (parseDecimal gross).mapError fun _ => .invalidAmount
  let amount := rat validated.units
  ensure (0 ≤ amount ∧ (0 ≤ commissionBPS ∧ commissionBPS ≤ 10000) ∧ 0 ≤ reserveBPS ∧ reserveBPS ≤ 10000)
    .invalidAmount
  let commission := rat (formatRat (amount * (commissionBPS / 10000)))
  let afterCommission := amount - commission
  let reserve := rat (formatRat (afterCommission * (reserveBPS / 10000)))
  let payable := afterCommission - reserve
  return {
    gross := validated
    commission := ← parseDecimal (.units (formatRat commission))
    reserve := ← parseDecimal (.units (formatRat reserve))
    payable := ← parseDecimal (.units (formatRat payable)) }

/-- A part of an amount, rounded: it is within the amount, and within half a unit of its exact share. -/
theorem formatRat_share {units bps : ℤ} (h : 0 ≤ units) (hbps : 0 ≤ bps ∧ bps ≤ 10000) :
    0 ≤ formatRat (rat units * (bps / 10000)) ∧ formatRat (rat units * (bps / 10000)) ≤ units ∧
      |rat (formatRat (rat units * (bps / 10000))) - rat units * (bps / 10000)| ≤ halfUnit 12 := by
  have hu : 0 ≤ rat units := decimalValue_nonneg h
  have hshar : 0 ≤ (bps / 10000 : ℚ) := div_nonneg (Int.cast_nonneg hbps.1) (by norm_num)
  have hwh : (bps / 10000 : ℚ) ≤ 1 := by
    rw [div_le_one (by norm_num)]
    exact_mod_cast hbps.2
  have hnn := mul_nonneg hu hshar
  exact ⟨quantize_nonneg hnn, quantize_le_of_le (mul_le_of_le_one_right hu hwh),
    abs_decimalValue_quantize_sub_le hnn⟩

theorem parseDecimal_eq_ok {units : ℤ} {n : Numeric} : parseDecimal (.units units) = .ok n ↔ n.units = units := by
  rw [parseDecimal, ← numeric_eq_ok]
  cases numeric units <;> simp [Except.mapError]

theorem rat_sub (a b : ℤ) : rat a - rat b = rat (a - b) := by
  rw [rat, rat, rat, decimalValue, decimalValue, decimalValue, Int.cast_sub, sub_div]

/-- The parts of a gross amount are within it and add up to it, whatever the rates. -/
theorem split_exact (gross : Money) (commission reserve : Fin 10001) :
    ∃ result, splitGross (.units gross.units) commission reserve = .ok result ∧
      result.gross.units = gross.units ∧
      (∀ part ∈ [result.commission, result.reserve, result.payable], 0 ≤ part.units ∧ part.units ≤ gross.units) ∧
      result.commission.units + result.reserve.units + result.payable.units = gross.units ∧
      |rat result.commission.units - rat gross.units * (commission / 10000)| ≤ halfUnit 12 ∧
      |rat result.reserve.units - rat (gross.units - result.commission.units) * (reserve / 10000)| ≤ halfUnit 12 := by
  have hbps (bps : Fin 10001) : 0 ≤ ((bps : ℕ) : ℤ) ∧ ((bps : ℕ) : ℤ) ≤ 10000 := by omega
  have hfits {units : ℤ} (h : 0 ≤ units) (hle : units ≤ gross.units) : -numericBound < units ∧ units < numericBound :=
    ⟨by unfold numericBound; omega, hle.trans_lt gross.fits⟩
  obtain ⟨hcm, hin, hrn⟩ := formatRat_share gross.nonneg (hbps commission)
  have haf := sub_nonneg.mpr hin
  obtain ⟨hrs, hrest, hrd⟩ := formatRat_share haf (hbps reserve)
  have hpy := sub_nonneg.mpr hrest
  let whole : Numeric := ⟨gross.units, hfits gross.nonneg le_rfl⟩
  have hwh : parseDecimal (.units gross.units) = .ok whole := parseDecimal_eq_ok.mpr rfl
  refine ⟨⟨whole, ⟨_, hfits hcm hin⟩, ⟨_, hfits hrs (by omega)⟩,
    ⟨_, hfits hpy (by omega)⟩⟩, ?_, rfl, ?_, ?_, hrn, hrd⟩
  · simp only [splitGross, hwh, Except.mapError, ok_bind, eq_ok, parseDecimal_eq_ok, formatRat_rat, rat_sub]
    exact ⟨(), ⟨decimalValue_nonneg gross.nonneg, hbps commission, hbps reserve⟩, _, rfl, _, rfl, _, rfl, rfl⟩
  · simp only [List.forall_mem_cons]
    exact ⟨⟨hcm, hin⟩, ⟨hrs, by omega⟩, ⟨hpy, by omega⟩, List.forall_mem_nil _⟩
  · dsimp only
    omega

end ModelDock.Settlement
