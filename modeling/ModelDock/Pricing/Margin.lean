import Mathlib.Algebra.Order.Archimedean.Basic
import ModelDock.Pricing.Calculate

/-!
# The margin gate and the written fields of a price

`meetsMinimumMargin` compares four component rates once. Amounts are linear in the token counts, so that
decides every usage. The gate fills in a blank exchange rate before it compares the currencies, `calculate`
after. The fields of a price are rounded one by one, so they need not add up.
-/

namespace ModelDock.Pricing

open ModelDock.Numeric Relational

variable (cost retail : Rate)

/-- What each component of the retail rate leaves above the required multiple of its cost: the token prices
per token, the fixed price after the minimum amount. -/
def componentMargins (minimum required : ℚ) : List ℚ :=
  [retail.input.value / retail.unit - cost.input.value / cost.unit * required,
    retail.cached.value / retail.unit - cost.cached.value / cost.unit * required,
    retail.output.value / retail.unit - cost.output.value / cost.unit * required,
    retail.fixed.value - (cost.fixed.value * required + minimum)]

/-- Whether no component is below its required margin, and the lowest margin. -/
def meetsMinimumMargin (minimumAmount : DecimalText) (minimumBps : ℤ) (exchangeRate : DecimalText) :
    Except PricingError (Bool × ℤ) := do
  let exchangeRate := exchangeRate.orElse (10 ^ 12)
  ensure (0 < cost.unit ∧ 0 < retail.unit) .invalidUnit
  let costCurrency := normalizeCurrency cost.currency
  let retailCurrency := normalizeCurrency retail.currency
  ensure (isCurrency costCurrency ∧ isCurrency retailCurrency) .invalidCurrencies
  ensure (costCurrency = retailCurrency ∨ exchangeRate ≠ .blank) .exchangeRateRequired
  validateRate cost .invalidAmount
  validateRate retail .invalidAmount
  let minimum ← nonNegative minimumAmount .invalidAmount
  ensure (0 ≤ minimumBps) .minimumMarginBps
  let exchange ← nonNegative exchangeRate .invalidAmount
  ensure (exchange ≠ 0) .exchangeRateNotPositive
  let factor : ℚ := 1 + minimumBps / 10000
  let margins := componentMargins cost retail (decimalValue 12 minimum) (decimalValue 12 exchange * factor)
  return (margins.all (0 ≤ ·), format (margins.min?.getD 0))

/-- A rate both functions accept. -/
def Rate.Valid (rate : Rate) : Prop :=
  0 < rate.unit ∧ isCurrency (normalizeCurrency rate.currency) ∧ validateRate rate .invalidAmount = .ok ()

variable {cost retail : Rate} {minimumAmount exchangeRate : DecimalText} {minimumBps : ℤ} {tokens : Tokens}
  {minimum required : ℚ}

theorem validateRate_congr {rate : Rate} (err : PricingError) {u : Unit} :
    validateRate rate err = .ok u ↔ validateRate rate .invalidAmount = .ok u := by
  simp only [validateRate, bind_eq_ok, nonNegative_eq_ok]

theorem isOk_bind {ε α β : Type} {first : Except ε α} {next : α → Except ε β} :
    (first >>= next).isOk ↔ ∃ value, first = .ok value ∧ (next value).isOk := by
  cases first <;> simp [bind, Except.bind, Except.toBool]

/-- The gate and the calculation refuse the same rates, except when usable rates in two currencies come
without an exchange rate. -/
theorem gate_refuses_as_calculate_iff (minimum : Fin (10 ^ 30)) (bps : ℕ) :
    (meetsMinimumMargin cost retail (.units minimum) bps exchangeRate).isOk =
        (calculate cost retail ⟨0, 0, 0⟩ (.units 0) (.units 0) exchangeRate).isOk ↔
      ¬(cost.Valid ∧ retail.Valid ∧ exchangeRate = .blank ∧
        normalizeCurrency cost.currency ≠ normalizeCurrency retail.currency) := by
  have hzero : Tokens.Valid ⟨0, 0, 0⟩ := by decide
  have hpure {α : Type} (a : α) : (pure a : Except PricingError α).isOk := rfl
  rw [Bool.eq_iff_iff]
  -- Both sides are conjunctions of the same checks once the texts are evaluated.
  simp only [meetsMinimumMargin, calculate, isOk_bind, ensure_eq_ok,
    nonNegative_eq_ok, validateRate_congr .costRate, validateRate_congr .retailRate, Rate.Valid]
  cases exchangeRate <;> simp [DecimalText.orElse]
  all_goals grind

/-- An input price alone. -/
def demoRate (price unit : ℤ) (currency : String) : Rate :=
  ⟨.units price, .units 0, .units 0, .units 0, unit, currency⟩

theorem gate_passes_what_calculate_refuses :
    (meetsMinimumMargin (demoRate 0 1 "USD") (demoRate 0 1 "CNY") (.units 0) 0 .blank).isOk ∧
      (calculate (demoRate 0 1 "USD") (demoRate 0 1 "CNY") ⟨0, 0, 0⟩ (.units 0) (.units 0) .blank).isOk = false := by
  decide +kernel

/-- What a retail rate leaves of a usage is linear in the counts. -/
theorem calculateRate_sub_required :
    calculateRate retail tokens - (minimum + required * calculateRate cost tokens) =
      retail.fixed.value - (cost.fixed.value * required + minimum) +
      (tokens.input - tokens.cached : ℤ) *
        (retail.input.value / retail.unit - cost.input.value / cost.unit * required) +
      tokens.cached * (retail.cached.value / retail.unit - cost.cached.value / cost.unit * required) +
      tokens.output * (retail.output.value / retail.unit - cost.output.value / cost.unit * required) := by
  unfold calculateRate
  ring

theorem nonneg_of_forall_nat (a : ℚ) {b : ℚ} (h : ∀ n : ℕ, 0 ≤ a + n * b) : 0 ≤ b := by
  by_contra hneg
  obtain ⟨n, hn⟩ := exists_nat_gt (a / -b)
  have hlr := (div_lt_iff₀ (by linarith)).mp hn
  linarith [h n]

theorem componentMargins_all_iff : (componentMargins cost retail minimum required).all (0 ≤ ·) ↔
    ∀ tokens : Tokens, tokens.Valid →
      minimum + required * calculateRate cost tokens ≤ calculateRate retail tokens := by
  simp only [componentMargins, List.all_cons, List.all_nil, Bool.and_true, Bool.and_eq_true, decide_eq_true_eq,
    ← sub_nonneg (b := minimum + _), calculateRate_sub_required]
  constructor
  · rintro ⟨hinp, hcc, hout, hfix⟩ tokens ⟨_, hc, ho, hle⟩
    positivity
  · intro h
    -- Usages of one kind of token, in any number, show the sign of its margin.
    have hsl {b : ℚ} := @nonneg_of_forall_nat (retail.fixed.value - (cost.fixed.value * required + minimum)) b
    refine ⟨hsl fun n => ?_, hsl fun n => ?_, hsl fun n => ?_, ?_⟩
    · simpa using h ⟨n, 0, 0⟩ (by simp [Tokens.Valid])
    · simpa using h ⟨n, n, 0⟩ (by simp [Tokens.Valid])
    · simpa using h ⟨0, 0, n⟩ (by simp [Tokens.Valid])
    · simpa using h ⟨0, 0, 0⟩ (by decide)

/-- The gate compares four rates once and decides the required amount for every usage; the written margin of
every price is then at least the minimum. -/
theorem meetsMinimumMargin_decides_every_usage {passes : Bool} {lowest : ℤ}
    (h : meetsMinimumMargin cost retail minimumAmount minimumBps exchangeRate = .ok (passes, lowest)) :
    (passes ↔ ∀ tokens : Tokens, tokens.Valid →
      minimumAmount.value + (1 + minimumBps / 10000) *
          (calculateRate cost tokens * (exchangeRate.orElse (10 ^ 12)).value) ≤ calculateRate retail tokens) ∧
    (passes → ∀ tokens promotion taxRate result,
      calculate cost retail tokens promotion taxRate exchangeRate = .ok result →
      minimumAmount.value ≤ decimalValue 12 result.grossMargin) := by
  simp only [meetsMinimumMargin, eq_ok, nonNegative_eq_ok] at h
  obtain ⟨_, hunit, _, _, _, _, _, hcost, _, _, minimum, ⟨rfl, _⟩, _, hbps, exchange, ⟨htext, hexc, _⟩, _, _,
    rfl, _⟩ := h
  have ham (tokens : Tokens) :
      (1 + minimumBps / 10000) * (calculateRate cost tokens * decimalValue 12 exchange) =
        decimalValue 12 exchange * (1 + minimumBps / 10000) * calculateRate cost tokens := by ring
  simp only [htext, DecimalText.value, ham, ← componentMargins_all_iff, true_and]
  intro hps tokens promotion taxRate result hrs
  simp only [calculate, eq_ok, nonNegative_eq_ok, htext] at hrs
  obtain ⟨_, htk, _, _, _, _, _, _, _, hcost, _, _, _, _, _, _, _, ⟨hrate, _⟩, _, _, rfl⟩ := hrs
  cases hrate
  have hcn := mul_nonneg (@decimalValue_nonneg 12 _ hexc) (calculateRate_nonneg htk hunit.1 hcost)
  have hshar : (0 : ℚ) ≤ minimumBps / 10000 := div_nonneg (Int.cast_nonneg hbps) (by norm_num)
  have hmr : decimalValue 12 minimum ≤
      calculateRate retail tokens - calculateRate cost tokens * decimalValue 12 exchange := by
    linarith [componentMargins_all_iff.mp hps tokens htk, mul_nonneg hshar hcn]
  have hwr := @quantize_mono _ _ 12 hmr
  rw [quantize_decimalValue] at hwr
  exact div_le_div_of_nonneg_right (Int.cast_le.mpr hwr) (by positivity)

theorem meetsMinimumMargin_decides_two_tokens : (DecimalText.units 0).value + (1 + (100 : ℤ) / 10000) *
    (calculateRate (demoRate 1 1 "USD") ⟨2, 1, 1⟩ * (DecimalText.blank.orElse (10 ^ 12)).value) ≤
      calculateRate (demoRate 2 1 "USD") ⟨2, 1, 1⟩ :=
  (@meetsMinimumMargin_decides_every_usage _ _ _ _ _ true 0 (by decide +kernel)).1.mp rfl ⟨2, 1, 1⟩ (by decide)

/-- The written fields add up. -/
abbrev Result.Reconciles (result : Result) : Prop :=
  result.retailAmount - result.promotionAmount = result.preTaxAmount ∧
    result.preTaxAmount + result.taxAmount = result.finalAmount

/-- The exact amount before tax. -/
def preTax (retail : Rate) (tokens : Tokens) (promotion : DecimalText) : ℚ :=
  calculateRate retail tokens - min (promotion.orElse 0).value (calculateRate retail tokens)

/-- Two amounts are rounded like their sum: rests that are both dropped stay under a half together, rests that
are both rounded up come to one and a half. -/
abbrev RoundTogether (x y : ℚ) : Prop :=
  (Int.fract x < 1 / 2 ∧ Int.fract y < 1 / 2 → Int.fract x + Int.fract y < 1 / 2) ∧
    (1 / 2 ≤ Int.fract x ∧ 1 / 2 ≤ Int.fract y → 3 / 2 ≤ Int.fract x + Int.fract y)

theorem floor_add_half (x : ℚ) : ⌊x + 1 / 2⌋ = ⌊x⌋ + if 1 / 2 ≤ Int.fract x then 1 else 0 := by
  have hx := Int.floor_add_fract x
  have hnn := Int.fract_nonneg x
  have hlt := Int.fract_lt_one x
  split <;> rw [Int.floor_eq_iff] <;> push_cast <;> constructor <;> linarith

theorem roundHalfAway_add_iff {x y : ℚ} (hx : 0 ≤ x) (hy : 0 ≤ y) :
    roundHalfAway x + roundHalfAway y = roundHalfAway (x + y) ↔ RoundTogether x y := by
  have hfr (z : ℚ) : ⌊z⌋ + Int.fract z = z ∧ 0 ≤ Int.fract z ∧ Int.fract z < 1 :=
    ⟨Int.floor_add_fract z, Int.fract_nonneg z, Int.fract_lt_one z⟩
  rw [roundHalfAway, roundHalfAway, roundHalfAway, if_pos hx, if_pos (add_nonneg hx hy),
    floor_add_half, floor_add_half, eq_comm, Int.floor_eq_iff]
  split <;> split <;> push_cast <;> grind

theorem quantize_sub_decimalValue {x : ℚ} {n : ℤ} (hn : 0 ≤ n) (h : decimalValue 12 n ≤ x) :
    quantize 12 x - n = quantize 12 (x - decimalValue 12 n) := by
  have hx : 0 ≤ x := (decimalValue_nonneg hn).trans h
  have hshif : (x - decimalValue 12 n) * 10 ^ 12 + 1 / 2 = x * 10 ^ 12 + 1 / 2 - n := by
    rw [decimalValue]
    ring
  rw [quantize, quantize, roundHalfAway, roundHalfAway, if_pos (by positivity), if_pos (by positivity), hshif,
    Int.floor_sub_intCast]

/-- Retail amount, promotion and amount before tax always add up; tax and final amount do when the tax and the
amount before it are rounded like their sum. -/
theorem calculate_reconciles_iff {promotion taxRate : DecimalText} {result : Result}
    (h : calculate cost retail tokens promotion taxRate exchangeRate = .ok result) :
    result.Reconciles ↔ RoundTogether (preTax retail tokens promotion * 10 ^ 12)
      (preTax retail tokens promotion * (taxRate.orElse 0).value * 10 ^ 12) := by
  obtain ⟨promo, tax, rate, hpro, htax, hpr, htg, _, rfl⟩ := calculate_eq_ok h
  have hrest : 0 ≤ preTax retail tokens promotion := sub_nonneg.mpr (min_le_right _ _)
  have htd := mul_nonneg hrest (@decimalValue_nonneg 12 _ htg)
  rw [preTax, hpro, DecimalText.value] at hrest htd ⊢
  have hpre : format (calculateRate retail tokens) -
      format (min (decimalValue 12 promo) (calculateRate retail tokens)) =
      format (calculateRate retail tokens - min (decimalValue 12 promo) (calculateRate retail tokens)) := by
    rcases le_total (decimalValue 12 promo) (calculateRate retail tokens) with hle | hle
    · rw [min_eq_left hle, format, format, quantize_decimalValue]
      exact quantize_sub_decimalValue hpr hle
    · rw [min_eq_right hle, sub_self, sub_self, format_zero]
  simp only [Result.Reconciles, resultOf, max_eq_left hrest, hpre, true_and, htax]
  simp only [format, quantize, add_mul]
  exact roundHalfAway_add_iff (by positivity) (by positivity)

theorem calculate_reconciles_demo : ∃ result, calculate (demoRate 0 1 "USD") (demoRate 1 1 "USD") ⟨1, 0, 0⟩
    .blank .blank .blank = .ok result ∧ result.Reconciles := by
  obtain ⟨result, h⟩ : ∃ result, calculate (demoRate 0 1 "USD") (demoRate 1 1 "USD") ⟨1, 0, 0⟩
    .blank .blank .blank = .ok result := ⟨_, rfl⟩
  exact ⟨result, h, (calculate_reconciles_iff h).mpr (by decide +kernel)⟩

theorem written_tax_exceeds_final_amount : ∃ result, calculate (demoRate 0 2 "USD") (demoRate 1 2 "USD")
    ⟨1, 0, 0⟩ .blank (.units (10 ^ 12)) .blank = .ok result ∧ ¬result.Reconciles :=
  ⟨_, rfl, by decide +kernel⟩

end ModelDock.Pricing
