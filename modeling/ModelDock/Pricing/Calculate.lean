import ModelDock.Numeric.Decimal
import ModelDock.Relational.Transaction
import ModelDock.Text.Normalize

/-!
# The price of a request

`calculate` prices token usage exactly; each field of the result is rounded to twelve digits on its own.
`DecimalText` keeps what the function distinguishes: blank, no decimal, or the units of a decimal.
-/

namespace ModelDock.Pricing

open ModelDock.Numeric Relational

/-- Why a price cannot be calculated. -/
inductive PricingError
  | invalidTokenCounts
  | invalidUnit
  | invalidCurrencies
  | exchangeRateRequired
  | costRate
  | retailRate
  | promotion
  | taxRate
  | exchangeRate
  | exchangeRateNotPositive
  | invalidAmount
  | minimumMarginBps
deriving DecidableEq

variable {err : PricingError}

/-- A decimal as text. -/
inductive DecimalText
  | blank
  | malformed
  | units (n : ℤ)
deriving DecidableEq

/-- The text a blank one stands for. -/
def DecimalText.orElse (text : DecimalText) (units : ℤ) : DecimalText :=
  match text with
  | .blank => .units units
  | text => text

/-- Token prices per `unit` tokens and a price per request, in one currency. -/
structure Rate where
  (input cached output fixed : DecimalText)
  unit : ℤ
  currency : String

/-- Token counts; cached tokens are part of the input. -/
structure Tokens where
  (input cached output : ℤ)

/-- The written fields of a price, in units of `10 ^ -12`. -/
structure Result where
  (providerCost retailAmount exchangeRate grossMargin promotionAmount preTaxAmount taxRate taxAmount : ℤ)
  finalAmount : ℤ

/-- The counts a price can be calculated for. -/
def Tokens.Valid (tokens : Tokens) : Prop :=
  0 ≤ tokens.input ∧ 0 ≤ tokens.cached ∧ 0 ≤ tokens.output ∧ tokens.cached ≤ tokens.input

instance (tokens : Tokens) : Decidable tokens.Valid := inferInstanceAs (Decidable (_ ∧ _))

/-- The counts a table accepts: none is negative. -/
def Tokens.Counted (tokens : Tokens) : Prop := 0 ≤ tokens.input ∧ 0 ≤ tokens.cached ∧ 0 ≤ tokens.output

instance (tokens : Tokens) : Decidable tokens.Counted := inferInstanceAs (Decidable (_ ∧ _))

/-- The units of a stored decimal: no sign, at most eighteen digits before the point. -/
def nonNegative (text : DecimalText) (err : PricingError) : Except PricingError ℤ :=
  match text with
  | .units n => if 0 ≤ n ∧ n < 10 ^ 30 then .ok n else .error err
  | _ => .error err

/-- All four prices of a rate are stored decimals. -/
def validateRate (rate : Rate) (err : PricingError) : Except PricingError Unit := do
  let _ ← nonNegative rate.input err
  let _ ← nonNegative rate.cached err
  let _ ← nonNegative rate.output err
  let _ ← nonNegative rate.fixed err
  return ()

/-- The value of a decimal text that has been validated. -/
def DecimalText.value : DecimalText → ℚ
  | .units n => decimalValue 12 n
  | _ => 0

/-- The exact amount of a usage at a rate. -/
def calculateRate (rate : Rate) (tokens : Tokens) : ℚ :=
  rate.fixed.value + ((tokens.input - tokens.cached : ℤ) * rate.input.value +
    tokens.cached * rate.cached.value + tokens.output * rate.output.value) / rate.unit

/-- A normalised currency is a three-letter code. -/
def isCurrency (code : String) : Bool :=
  code.toList.length = 3 && code.toList.all Text.isCapital

/-- The currency text as it is compared. -/
def normalizeCurrency (code : String) : String := Text.toUpper (Text.trimSpace code)

/-- Write an exact amount. -/
def format (x : ℚ) : ℤ := quantize 12 x

/-- The fields of a price from exact retail amount, cost, promotion, tax and exchange rate. -/
def resultOf (providerCost retailAmount promotion tax rate : ℚ) : Result :=
  let promo := min promotion retailAmount
  let preTax := max (retailAmount - promo) 0
  { providerCost := format providerCost
    retailAmount := format retailAmount
    exchangeRate := format rate
    grossMargin := format (retailAmount - providerCost * rate)
    promotionAmount := format promo
    preTaxAmount := format preTax
    taxRate := format tax
    taxAmount := format (preTax * tax)
    finalAmount := format (preTax + preTax * tax) }

/-- Price a usage. -/
def calculate (cost retail : Rate) (tokens : Tokens) (promotion taxRate exchangeRate : DecimalText) :
    Except PricingError Result := do
  ensure tokens.Valid .invalidTokenCounts
  ensure (0 < cost.unit ∧ 0 < retail.unit) .invalidUnit
  let costCurrency := normalizeCurrency cost.currency
  let retailCurrency := normalizeCurrency retail.currency
  ensure (isCurrency costCurrency ∧ isCurrency retailCurrency) .invalidCurrencies
  ensure (costCurrency = retailCurrency ∨ exchangeRate ≠ .blank) .exchangeRateRequired
  validateRate cost .costRate
  validateRate retail .retailRate
  let promo ← nonNegative (promotion.orElse 0) .promotion
  let tax ← nonNegative (taxRate.orElse 0) .taxRate
  let rate ← nonNegative (exchangeRate.orElse (10 ^ 12)) .exchangeRate
  ensure (rate ≠ 0) .exchangeRateNotPositive
  return resultOf (calculateRate cost tokens) (calculateRate retail tokens)
    (decimalValue 12 promo) (decimalValue 12 tax) (decimalValue 12 rate)

variable {cost retail : Rate} {tokens : Tokens} {promotion taxRate exchangeRate : DecimalText}
  {result : Result}

@[simp] theorem format_zero : format 0 = 0 := by
  simpa [format, decimalValue] using @quantize_decimalValue 12 0

theorem nonNegative_eq_ok {text : DecimalText} {n : ℤ} :
    nonNegative text err = .ok n ↔ text = .units n ∧ 0 ≤ n ∧ n < 10 ^ 30 := by
  cases text with
  | blank => simp [nonNegative]
  | malformed => simp [nonNegative]
  | units m =>
    by_cases hrn : 0 ≤ m ∧ m < 10 ^ 30
    · simp only [nonNegative, if_pos hrn, Except.ok.injEq, DecimalText.units.injEq]
      exact ⟨fun heq => ⟨heq, heq ▸ hrn⟩, And.left⟩
    · simp only [nonNegative, if_neg hrn, reduceCtorEq, false_iff, DecimalText.units.injEq]
      rintro ⟨rfl, hin⟩
      exact hrn hin

theorem validateRate_eq_ok {rate : Rate} {u : Unit} (h : validateRate rate err = .ok u) :
    0 ≤ rate.input.value ∧ 0 ≤ rate.cached.value ∧ 0 ≤ rate.output.value ∧ 0 ≤ rate.fixed.value := by
  simp only [validateRate, bind_eq_ok, nonNegative_eq_ok] at h
  obtain ⟨_, ⟨hinp, hin, _⟩, _, ⟨hcc, hca, _⟩, _, ⟨hou, hout, _⟩, _, ⟨hfd, hfix, _⟩, _⟩ := h
  rw [hinp, hcc, hou, hfd]
  exact ⟨decimalValue_nonneg hin, decimalValue_nonneg hca, decimalValue_nonneg hout, decimalValue_nonneg hfix⟩

theorem calculateRate_nonneg {rate : Rate} {u : Unit} (htk : tokens.Valid)
    (hunit : 0 < rate.unit) (h : validateRate rate err = .ok u) : 0 ≤ calculateRate rate tokens := by
  obtain ⟨_, _, _, _⟩ := validateRate_eq_ok h
  obtain ⟨_, hcc, hout, hle⟩ := htk
  unfold calculateRate
  positivity

/-- What a calculation returns. -/
theorem calculate_eq_ok (h : calculate cost retail tokens promotion taxRate exchangeRate = .ok result) :
    ∃ promo tax rate : ℤ, promotion.orElse 0 = .units promo ∧ taxRate.orElse 0 = .units tax ∧
      0 ≤ promo ∧ 0 ≤ tax ∧ 0 ≤ calculateRate retail tokens ∧
      result = resultOf (calculateRate cost tokens) (calculateRate retail tokens)
        (decimalValue 12 promo) (decimalValue 12 tax) (decimalValue 12 rate) := by
  simp only [calculate, eq_ok, nonNegative_eq_ok] at h
  obtain ⟨_, htk, _, hunit, _, _, _, _, _, _, _, hrt, promo, ⟨hpro, hpr, _⟩, tax,
    ⟨htax, htg, _⟩, rate, _, _, _, rfl⟩ := h
  exact ⟨promo, tax, rate, hpro, htax, hpr, htg, calculateRate_nonneg htk hunit.2 hrt, rfl⟩

theorem resultOf_finalAmount (providerCost retailAmount promotion tax rate : ℚ) :
    (resultOf providerCost retailAmount promotion tax rate).finalAmount =
      format (retailAmount - min promotion retailAmount +
        (retailAmount - min promotion retailAmount) * tax) := by
  simp only [resultOf, max_eq_left (sub_nonneg.mpr (min_le_right promotion retailAmount))]

theorem validateRate_of_units {input cached output fixed unit : ℤ} {currency : String}
    (hinp : 0 ≤ input ∧ input < 10 ^ 30) (hcc : 0 ≤ cached ∧ cached < 10 ^ 30)
    (hout : 0 ≤ output ∧ output < 10 ^ 30) (hfix : 0 ≤ fixed ∧ fixed < 10 ^ 30) :
    validateRate ⟨.units input, .units cached, .units output, .units fixed, unit, currency⟩ err = .ok () := by
  simp only [validateRate, bind_eq_ok, nonNegative_eq_ok]
  exact ⟨input, ⟨rfl, hinp⟩, cached, ⟨rfl, hcc⟩, output, ⟨rfl, hout⟩, fixed, ⟨rfl, hfix⟩, rfl⟩

theorem isCurrency_normalizeCurrency {code : String} (h : code.toList.length = 3 ∧ code.toList.all Text.isCapital) :
    isCurrency (normalizeCurrency code) := by
  rw [normalizeCurrency, Text.toUpper_trimSpace_of_capitals h.2]
  simp [isCurrency, h]

/-- Valid rates and numbers in range always give a price. -/
theorem calculate_succeeds {promo tax rate : ℤ} (htk : tokens.Valid) (hunit : 0 < cost.unit ∧ 0 < retail.unit)
    (hcs : cost.currency.toList.length = 3 ∧ cost.currency.toList.all Text.isCapital)
    (hrt : retail.currency.toList.length = 3 ∧ retail.currency.toList.all Text.isCapital)
    (hcost : validateRate cost .costRate = .ok ()) (hrl : validateRate retail .retailRate = .ok ())
    (hpr : 0 ≤ promo ∧ promo < 10 ^ 30) (htax : 0 ≤ tax ∧ tax < 10 ^ 30) (hrate : 0 < rate ∧ rate < 10 ^ 30) :
    calculate cost retail tokens (.units promo) (.units tax) (.units rate) =
      .ok (resultOf (calculateRate cost tokens) (calculateRate retail tokens) (decimalValue 12 promo)
        (decimalValue 12 tax) (decimalValue 12 rate)) := by
  simp only [calculate, eq_ok, nonNegative_eq_ok]
  exact ⟨(), htk, (), hunit, (),
    ⟨isCurrency_normalizeCurrency hcs, isCurrency_normalizeCurrency hrt⟩, (),
    .inr DecimalText.noConfusion, (), hcost, (), hrl, promo, ⟨rfl, hpr⟩, tax, ⟨rfl, htax⟩, rate,
    ⟨rfl, hrate.1.le, hrate.2⟩, (), hrate.1.ne', rfl⟩

end ModelDock.Pricing
