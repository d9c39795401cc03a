import ModelDock.Store.Schema.Payments

/-!
# Pricing a funding operation

An operation is priced under the terms frozen at its reservation; a request on a customer's own credential is
charged a service fee instead.
-/

namespace ModelDock.Store

open Relational Pricing ModelDock.Numeric FundingOperation

variable {versionId : Uuid} {exchange : ℤ}

/-- A rate of nothing. -/
def zeroRate (unit : ℤ) (currency : String) : Rate :=
  ⟨.units 0, .units 0, .units 0, .units 0, unit, currency⟩

/-- A price as part of a transaction. -/
def priced (result : Except PricingError Result) : Except StoreError Result :=
  result.mapError StoreError.pricing

/-- The retail amount of a usage at a price version, and the promotion it used. -/
def fundingAmountsForVersion (versionId : Uuid) (tokens : Tokens)
    (promotion taxRate exchangeRate : DecimalText) (catalog : Catalog) : Except StoreError (ℤ × ℤ) := do
  let version ← required (catalog.priceVersions.find? versionId) .noRows
  let result ← priced (calculate (zeroRate version.retail.unit version.retail.currency.code)
    version.retail.toRate tokens promotion taxRate exchangeRate)
  return (result.finalAmount, result.promotionAmount)

variable (operation : FundingOperation) (tokens : Tokens) (catalog : Catalog)

/-- The amounts of a usage under the operation's frozen terms; unpriced operations cost nothing. -/
def FundingOperation.amounts : Except StoreError (ℤ × ℤ) :=
  match operation.pricingVersionId with
  | none => .ok (0, 0)
  | some versionId => fundingAmountsForVersion versionId tokens
      (.units operation.promotionAmount.units) (.units operation.taxRate.units)
      (.units operation.exchangeRate.units) catalog

/-- The fee terms as a rate. -/
def ByokFees.toRate (fees : ByokFees) (currency : Currency) : Rate where
  input := .units fees.inputTokenFee.units
  cached := .units fees.cachedInputTokenFee.units
  output := .units fees.outputTokenFee.units
  fixed := .units fees.fixedFee.units
  unit := fees.unit
  currency := currency.code

/-- The token fee for a usage on a customer's credential. -/
def FundingOperation.tokenFee : Except StoreError ℤ := do
  let result ← priced (calculate (zeroRate operation.fees.unit operation.currency.code)
    (operation.fees.toRate operation.currency) tokens (.units 0) (.units 0) (.units unitsPerOne))
  return result.finalAmount

/-- What a usage costs the platform at the provider. -/
def providerCostForVersion (versionId : Uuid) (tokens : Tokens) (catalog : Catalog) : Except StoreError ℤ := do
  let version ← required (catalog.priceVersions.find? versionId) .noRows
  let result ← priced (calculate version.provider.toRate
    (zeroRate version.provider.unit version.provider.currency.code) tokens (.units 0) (.units 0)
    (.units unitsPerOne))
  return result.providerCost

/-- The first of the month in UTC, as the number of the month since year zero. -/
def providerBudgetMonth (clock : Timestamp) : Month :=
  -- Days are counted from the first of March of year zero, so that a leap day ends its year.
  let day := clock / 86400 + 719468
  let dayOfEra := day % 146097
  let yearOfEra := (dayOfEra - dayOfEra / 1460 + dayOfEra / 36524 - dayOfEra / 146096) / 365
  let dayOfYear := dayOfEra - (365 * yearOfEra + yearOfEra / 4 - yearOfEra / 100)
  (day / 146097 * 400 + yearOfEra) * 12 + (5 * dayOfYear + 2) / 153 + 2

/-- The exact retail amount of a usage; unpriced operations cost nothing. -/
def FundingOperation.retail (operation : FundingOperation) (tokens : Tokens) (catalog : Catalog) : ℚ :=
  match operation.pricingVersionId.bind catalog.priceVersions.find? with
  | none => 0
  | some version => calculateRate version.retail.toRate tokens

/-- An amount before tax, as it is written with the operation's tax. -/
def FundingOperation.taxed (preTax : ℚ) : ℤ :=
  format (preTax + preTax * rat operation.taxRate.units)

/-- The part of a retail amount the operation's promotion covers. -/
def FundingOperation.covers (retail : ℚ) : ℚ :=
  min (rat operation.promotionAmount.units) retail

/-- The price of a usage: the taxed rest of its retail amount after the promotion. -/
def FundingOperation.price : ℤ :=
  operation.taxed (operation.retail tokens catalog - operation.covers (operation.retail tokens catalog))

/-- The price of a usage without promotion. -/
def FundingOperation.undiscounted : ℤ :=
  operation.taxed (operation.retail tokens catalog)

variable {op : FundingOperation} {tokens : Tokens} {catalog : Catalog} {amount promotion : ℤ}

theorem priced_eq_ok {result : Except PricingError Result} {price : Result} :
    priced result = .ok price ↔ result = .ok price := by
  cases result <;> simp [priced, Except.mapError]

theorem fundingAmountsForVersion_eq_ok {promo tax : ℤ}
    (h : fundingAmountsForVersion versionId tokens (.units promo) (.units tax) (.units exchange) catalog =
      .ok (amount, promotion)) :
    ∃ version, catalog.priceVersions.find? versionId = some version ∧
      0 ≤ calculateRate version.retail.toRate tokens ∧
      amount = format (calculateRate version.retail.toRate tokens -
          min (rat promo) (calculateRate version.retail.toRate tokens) +
        (calculateRate version.retail.toRate tokens -
          min (rat promo) (calculateRate version.retail.toRate tokens)) * rat tax) ∧
      promotion = format (min (rat promo) (calculateRate version.retail.toRate tokens)) := by
  simp only [fundingAmountsForVersion, eq_ok, priced_eq_ok] at h
  obtain ⟨version, hvr, _, hrs, rfl, rfl⟩ := h
  obtain ⟨_, _, _, hp, ht, _, _, hrt, rfl⟩ := calculate_eq_ok hrs
  cases hp
  cases ht
  exact ⟨version, hvr, hrt, resultOf_finalAmount _ _ _ _ _, rfl⟩

theorem FundingOperation.amounts_eq_ok (h : op.amounts tokens catalog = .ok (amount, promotion)) :
    0 ≤ op.retail tokens catalog ∧ amount = op.price tokens catalog ∧
      promotion = format (op.covers (op.retail tokens catalog)) := by
  unfold amounts at h
  split at h
  · next hnone =>
    have hprom : 0 ≤ rat op.promotionAmount.units := decimalValue_nonneg (Money.nonneg _)
    cases h
    simp [price, retail, covers, taxed, hnone, hprom]
  · next _ hsome =>
    obtain ⟨version, hvr, hrt, rfl, rfl⟩ := fundingAmountsForVersion_eq_ok h
    have hpr : op.retail tokens catalog = calculateRate version.retail.toRate tokens := by
      rw [retail, hsome, Option.bind_some, hvr]
    rw [price, hpr]
    exact ⟨hrt, rfl, rfl⟩

theorem FundingOperation.amounts_promotion (h : op.amounts tokens catalog = .ok (amount, promotion)) :
    0 ≤ promotion ∧ promotion ≤ op.promotionAmount.units := by
  obtain ⟨hrt, _, rfl⟩ := amounts_eq_ok h
  have hpr : 0 ≤ rat op.promotionAmount.units := decimalValue_nonneg (Money.nonneg _)
  exact ⟨quantize_nonneg (le_min hpr hrt), quantize_le_of_le (min_le_left _ _)⟩

/-- The price version of an operation exists, as its foreign key says. -/
def FundingOperation.Priced (operation : FundingOperation) (catalog : Catalog) : Prop :=
  ∀ versionId ∈ operation.pricingVersionId, (catalog.priceVersions.find? versionId).isSome

theorem StoredRate.validate (rate : StoredRate) (err : PricingError) : validateRate rate.toRate err = .ok () :=
  validateRate_of_units ⟨rate.input.nonneg, rate.input.fits⟩ ⟨rate.cached.nonneg, rate.cached.fits⟩
    ⟨rate.output.nonneg, rate.output.fits⟩ ⟨rate.fixed.nonneg, rate.fixed.fits⟩

theorem validateRate_zeroRate (unit : ℤ) (currency : String) (err : PricingError) :
    validateRate (zeroRate unit currency) err = .ok () :=
  validateRate_of_units (by decide) (by decide) (by decide) (by decide)

theorem fundingAmountsForVersion_succeeds (htk : tokens.Valid)
    (hvr : (catalog.priceVersions.find? versionId).isSome) (promo tax : Money)
    (hexc : 0 < exchange ∧ exchange < numericBound) :
    ∃ amounts, fundingAmountsForVersion versionId tokens (.units promo.units) (.units tax.units)
      (.units exchange) catalog = .ok amounts := by
  obtain ⟨version, hf⟩ := Option.isSome_iff_exists.mp hvr
  have hunit := version.retail.unit_pos
  simp only [fundingAmountsForVersion, eq_ok, priced_eq_ok]
  exact ⟨_, version, hf, _, calculate_succeeds htk ⟨hunit, hunit⟩ version.retail.currency.valid
    version.retail.currency.valid (validateRate_zeroRate _ _ _) (version.retail.validate _)
    ⟨promo.nonneg, promo.fits⟩ ⟨tax.nonneg, tax.fits⟩ hexc, rfl⟩

/-- A priced operation has a price for every valid usage. -/
theorem FundingOperation.amounts_of_valid (htk : tokens.Valid) (hpr : op.Priced catalog) :
    op.amounts tokens catalog = .ok (op.price tokens catalog,
      format (op.covers (op.retail tokens catalog))) := by
  have hsome : ∃ amounts, op.amounts tokens catalog = .ok amounts := by
    unfold amounts
    cases hvr : op.pricingVersionId with
    | none => exact ⟨_, rfl⟩
    | some versionId =>
      exact fundingAmountsForVersion_succeeds htk (hpr versionId hvr) op.promotionAmount
        op.taxRate ⟨op.exchange_pos, op.exchangeRate.fits⟩
  obtain ⟨⟨_, _⟩, ham⟩ := hsome
  obtain ⟨_, rfl, rfl⟩ := amounts_eq_ok ham
  exact ham

end ModelDock.Store
