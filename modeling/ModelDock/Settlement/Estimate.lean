import ModelDock.Cash.Statements
import ModelDock.Store.System

/-!
# Usage within the estimate

The gateway reserves the quoted price of an estimate without cached input, and a settlement is charged under the
terms of the quote. Nothing keeps the price of cached input below that of other input, so usage within the estimate
can cost more than was reserved.
-/

namespace ModelDock.Store

open Relational Pricing ModelDock.Numeric Table

/-- What the gateway reserves for a quote. -/
def FundingReservationRequest.quoted (request : FundingReservationRequest) (versionId : Uuid) (quote : Result)
    (input output : ℤ) : FundingReservationRequest :=
  { request with
    pricingVersionId := some versionId
    maximumAmount := some (rat quote.finalAmount), promotionAmount := some (rat quote.promotionAmount)
    taxRate := some (rat quote.taxRate), exchangeRate := some (rat quote.exchangeRate)
    estimatedInput := input, maxOutput := output }

/-- A request that is quoted, reserved, and settled later on a credential of the platform with a usage within the
estimate. With a tax, the promotion does not exceed the quoted price. -/
structure FundedRequest (version : PriceVersion) (tax : Money) where
  (input output : ℤ)
  (promotion exchangeRate : DecimalText)
  quote : Result
  quoted : calculate version.provider.toRate version.retail.toRate ⟨input, 0, output⟩ promotion (.units tax.units)
    exchangeRate = .ok quote
  promoted : tax.units = 0 ∨ promotion.value ≤ calculateRate version.retail.toRate ⟨input, 0, output⟩
  request : FundingReservationRequest
  usage : FundingSettlementRequest
  (s s' : Session)
  (db reservedDb later settledDb : Db)
  (operation stored settled : FundingOperation)
  reserved : reserveFunding s (request.quoted version.id quote input output) db = .ok ((operation, false), reservedDb)
  found : later.operations.find? usage.operationId = some stored
  kept : stored.terms = operation.terms
  platform : stored.credentialOwner = .platform
  priced : later.catalog.priceVersions.find? version.id = some version
  within : usage.tokens.input ≤ input ∧ usage.tokens.output ≤ output
  settles : settleFunding s' usage later = .ok (settled, settledDb)

variable {version : PriceVersion} {tax : Money} {tokens : Tokens} {input output : ℤ}

theorem calculateRate_le_uncached (hprs : version.retail.cached.units ≤ version.retail.input.units)
    (htk : tokens.Valid) (hinp : tokens.input ≤ input) (hout : tokens.output ≤ output) :
    calculateRate version.retail.toRate tokens ≤ calculateRate version.retail.toRate ⟨input, 0, output⟩ := by
  obtain ⟨_, hcc, _, _⟩ := htk
  have hunit : (0 : ℚ) ≤ version.retail.unit := by exact_mod_cast version.retail.unit_pos.le
  have hpr (price : Money) : 0 ≤ decimalValue 12 price.units := decimalValue_nonneg price.nonneg
  have hless {a b : ℤ} (hab : a ≤ b) : 0 ≤ (b : ℚ) - a := sub_nonneg.mpr (Int.cast_le.mpr hab)
  have hgap : 0 ≤ decimalValue 12 version.retail.input.units - decimalValue 12 version.retail.cached.units :=
    sub_nonneg.mpr (div_le_div_of_nonneg_right (Int.cast_le.mpr hprs) (by positivity))
  have hrest := mul_nonneg (hless hout) (hpr version.retail.output)
  have hsv := mul_nonneg (hless hcc) hgap
  have hmore := mul_nonneg (hless hinp) (hpr version.retail.input)
  simp only [calculateRate, StoredRate.toRate, DecimalText.value]
  refine add_le_add_right (div_le_div_of_nonneg_right ?_ hunit) _
  push_cast at *
  linarith

theorem sub_min_mono {x y : ℚ} (p : ℚ) (h : x ≤ y) : x - min p x ≤ y - min p y := by
  rcases le_total p x with hx | hx <;> rcases le_total p y with hy | hy <;>
    simp only [min_eq_left, min_eq_right, hx, hy] <;> linarith

/-- What the rounded promotion of a quote that it covers leaves is less than half a unit. -/
theorem format_sub_min_format {x : ℚ} (h : 0 ≤ x) : format (x - min (rat (format x)) x) = 0 := by
  have hrest : 0 ≤ x - min (rat (format x)) x := sub_nonneg.mpr (min_le_right _ _)
  rw [format, quantize_eq_zero_iff hrest]
  rcases le_total (rat (format x)) x with hle | hle
  · have hrn := mt (lt_quantize_iff (n := format x) h).mpr (lt_irrefl (format x))
    rw [min_eq_left hle, rat]
    linarith
  · rw [min_eq_right hle, sub_self, halfUnit]
    positivity

/-- A usage that costs no more than the estimate is charged no more than was quoted for it. -/
theorem charge_le_quote {quoted used tax : ℚ} {promo : ℤ} (hused : used ≤ quoted) (hnn : 0 ≤ quoted)
    (htax : 0 ≤ tax) (hpr : tax = 0 ∨ rat promo ≤ quoted) :
    format (used - min (rat (format (min (rat promo) quoted))) used +
        (used - min (rat (format (min (rat promo) quoted))) used) * tax) ≤
      format (quoted - min (rat promo) quoted + (quoted - min (rat promo) quoted) * tax) := by
  by_cases hle : rat promo ≤ quoted
  · rw [min_eq_left hle, show format (rat promo) = promo from quantize_decimalValue promo]
    have hrest := sub_min_mono (rat promo) hused
    rw [min_eq_left hle] at hrest
    exact quantize_mono (add_le_add hrest (mul_le_mul_of_nonneg_right hrest htax))
  · -- the promotion is written rounded, and covers the quote but for less than half a unit
    simp only [hpr.resolve_right hle, min_eq_right (not_le.mp hle).le, sub_self, mul_zero, add_zero, format_zero]
    exact (quantize_mono (sub_min_mono _ hused)).trans (format_sub_min_format hnn).le

theorem newOperation_columns {s : Session} {req : FundingReservationRequest} {orgId projectId : Uuid}
    {wallet : Wallet} {maximum promotion : ℚ} {catalog : Catalog} {op : FundingOperation}
    (h : newOperation s req orgId projectId wallet maximum promotion catalog = .ok op) :
    op.pricingVersionId = req.pricingVersionId ∧ op.status = .reserved ∧
      op.maximumAmount.units = formatRat maximum ∧ op.promotionAmount.units = formatRat promotion ∧
      ∀ tax, req.taxRate = some tax → taxRateColumn tax = .ok op.taxRate := by
  simp only [newOperation, eq_ok, money_eq_ok] at h
  obtain ⟨_, hmax, _, hpr, _, hrate, _, htax, _, _, _, _, _, _, _, rfl⟩ := h
  refine ⟨rfl, rfl, hmax, hpr, fun tax hsome => ?_⟩
  rw [← htax, Option.some.inj (hsome.symm.trans hrate)]

/-- The columns of an operation that is reserved for a quote. -/
theorem reserved_columns {s : Session} {req : FundingReservationRequest} {quote : Result} {db db' : Db}
    {op : FundingOperation}
    (h : reserveFunding s (req.quoted version.id quote input output) db = .ok ((op, false), db')) :
    op.pricingVersionId = some version.id ∧ op.status = .reserved ∧
      op.maximumAmount.units = quote.finalAmount ∧ op.promotionAmount.units = quote.promotionAmount ∧
      taxRateColumn (rat quote.taxRate) = .ok op.taxRate := by
  simp only [reserveFunding, FundingReservationRequest.quoted, bind_eq_ok, required_eq_ok, Option.some.injEq] at h
  obtain ⟨_, _, _, _, _, _, _, rfl, _, _, wallet, _, h⟩ := h
  split at h
  · simp only [eq_ok, Prod.mk.injEq, Bool.true_eq_false, and_false, false_and, exists_false] at h
  · simp only [reserveNew, eq_ok, Prod.mk.injEq, Option.some.injEq] at h
    obtain ⟨_, ⟨_, _, _, _, _, rfl, _, _, op, hnew, _, _, _, _, _, _, _, _, _, _, _, _, rfl⟩, ⟨rfl, _⟩, _⟩ := h
    obtain ⟨hvr, hst, hmax, hpr, htax⟩ := newOperation_columns hnew
    exact ⟨hvr, hst, hmax.trans (formatRat_rat _), hpr.trans (formatRat_rat _), htax _ rfl⟩

/-- What is charged for an open operation on a credential of the platform. -/
theorem settled_amount {s : Session} {usage : FundingSettlementRequest} {op settled : FundingOperation}
    {db db' : Db} (hf : db.operations.find? usage.operationId = some op)
    (hst : op.status = .reserved) (hown : op.credentialOwner = .platform)
    (h : settleFunding s usage db = .ok (settled, db')) : usage.tokens.Valid ∧
      settled.settledAmount.units = if usage.waive then 0 else op.price usage.tokens db.catalog := by
  have hopen : op.status.isOpen := by
    rw [hst]
    rfl
  obtain ⟨hvl, hse⟩ := (settleFunding_of_open hf hopen).mp h
  obtain ⟨_, _, _, hset⟩ := settleOpen_eq_ok hse
  refine ⟨hvl.1, hset.closed.settledAmount.trans ?_⟩
  rcases settlementCharge_eq_ok hset.charged with ⟨hwv, rfl⟩ | ⟨hwv, _, ham⟩ | ⟨_, hcs, _⟩
  · rw [hwv, if_pos rfl]
  · rw [hwv, (FundingOperation.amounts_eq_ok ham).2.1]
    rfl
  · rw [hown] at hcs
    cases hcs

theorem FundedRequest.covered (req : FundedRequest version tax) (htax : taxRateColumn (rat tax.units) = .ok tax)
    (hprs : version.retail.cached.units ≤ version.retail.input.units) :
    req.settled.settledAmount.units ≤ req.operation.maximumAmount.units := by
  obtain ⟨hvr, hst, hmax, hprn, hcn⟩ := reserved_columns req.reserved
  obtain ⟨promo, _, rate, hpr, ht, hprg, htg, hrt, hqt⟩ := calculate_eq_ok req.quoted
  cases ht
  have hcl : (req.stored.terms.pricingVersionId, req.stored.terms.status,
      req.stored.terms.promotionAmount, req.stored.terms.taxRate) =
      (req.operation.terms.pricingVersionId, req.operation.terms.status,
        req.operation.terms.promotionAmount, req.operation.terms.taxRate) := by rw [req.kept]
  simp only [FundingOperation.terms, Prod.mk.injEq] at hcl
  obtain ⟨hsn, hss, hsm, hsx⟩ := hcl
  obtain ⟨hvl, hch⟩ :=
    settled_amount req.found (hss.trans hst) req.platform req.settles
  rw [hch]
  split
  · exact req.operation.maximumAmount.nonneg
  · have hused := calculateRate_le_uncached hprs hvl req.within.1 req.within.2
    have hrt' : req.stored.retail req.usage.tokens req.later.catalog =
        calculateRate version.retail.toRate req.usage.tokens := by
      rw [FundingOperation.retail, hsn, hvr, Option.bind_some, req.priced]
    have hva : req.promotion.value = rat promo := by
      cases hcase : req.promotion <;>
        simp only [hcase, DecimalText.orElse, DecimalText.units.injEq, reduceCtorEq] at hpr
      · simp [← hpr, DecimalText.value, rat, decimalValue]
      · rw [← hpr, DecimalText.value, rat]
    rw [hqt, resultOf, show format (decimalValue 12 tax.units) = tax.units from quantize_decimalValue _, htax,
      Except.ok.injEq] at hcn
    have hprd : rat tax.units = 0 ∨ rat promo ≤ _ := hva ▸ req.promoted.imp_left fun hzero => by
      rw [hzero, rat, decimalValue, Int.cast_zero, zero_div]
    rw [hmax, hqt, resultOf_finalAmount, FundingOperation.price, FundingOperation.taxed,
      FundingOperation.covers, hrt', hsm, hsx, hprn, hqt, resultOf, ← hcn]
    exact charge_le_quote hused hrt (decimalValue_nonneg htg) hprd

/-- A postpaid wallet without a limit, with an amount reserved. -/
def openWallet (reserved : Money) : Wallet :=
  ⟨1, 1, usd, .postpaid, .active, .zero, reserved, .zero, .zero, .zero, false⟩

/-- The small store with such a wallet, a price version and no promotions. -/
def openDb (version : PriceVersion) (reserved : Money) : Db :=
  { demoDb with
    wallets := tableOf [openWallet reserved] (List.pairwise_singleton _ _)
    promotions := ⟨.empty, .empty⟩
    catalog := ⟨tableOf [version] (List.pairwise_singleton _ _), .empty, .empty, .empty⟩ }

/-- That store after the reservation of an operation. -/
def reservedDb (version : PriceVersion) (operation : FundingOperation) : Db :=
  { openDb version operation.maximumAmount with operations := tableOf [operation] (List.pairwise_singleton _ _) }

section

variable {op : FundingOperation} {actual : ℤ}
  (hamt : op.maximumAmount.units < actual ∧ actual < numericBound)
include hamt

end

end ModelDock.Store
