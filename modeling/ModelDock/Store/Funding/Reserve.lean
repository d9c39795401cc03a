import ModelDock.Store.CashLots
import ModelDock.Store.Journal
import ModelDock.Store.PromotionCredits
import ModelDock.Store.Wallets

/-!
# Reserving funds for a request

`reserveFunding` admits a request and moves its maximum from the available to the reserved balance. Amounts are
read as exact rationals and rounded when written; `none` is a text that is no number.
-/

namespace ModelDock.Store

open Relational Accounting ModelDock.Numeric

/-- The arguments of a reservation. A blank identifier is `none`. -/
structure FundingReservationRequest where
  (organizationId projectId apiKeyId : Option Uuid)
  (requestId idempotencyKey requestFingerprint : String)
  pricingVersionId : Option Uuid
  currency : String
  (maximumAmount promotionAmount taxRate exchangeRate : Option ℚ)
  (estimatedInput maxOutput : ℤ)

variable (s : Session) (request : FundingReservationRequest) (organizationId projectId : Uuid) (maximum : ℚ)
  (wallet : Wallet)

/-- Whether the wallet's mode admits a hold of the given maximum. -/
def Wallet.admits (maximum : ℚ) : Prop :=
  match wallet.billingMode with
  | .prepaid => 0 ≤ rat wallet.availableBalance.units - maximum ∧
      wallet.riskExposure.units ≤ wallet.riskLimit.units
  | .postpaid => wallet.creditEnforced →
      0 ≤ rat wallet.availableBalance.units - maximum + rat wallet.creditLimit.units ∧
        wallet.riskExposure.units ≤ wallet.riskLimit.units

instance Wallet.decidableAdmits (wallet : Wallet) (maximum : ℚ) : Decidable (wallet.admits maximum) :=
  match h : wallet.billingMode with
  | .prepaid => decidable_of_iff (0 ≤ rat wallet.availableBalance.units - maximum ∧
      wallet.riskExposure.units ≤ wallet.riskLimit.units) (by unfold Wallet.admits; rw [h])
  | .postpaid => decidable_of_iff (wallet.creditEnforced →
      0 ≤ rat wallet.availableBalance.units - maximum + rat wallet.creditLimit.units ∧
        wallet.riskExposure.units ≤ wallet.riskLimit.units) (by unfold Wallet.admits; rw [h])

/-- Write a tax rate to its `numeric(12,8)` column. -/
def taxRateColumn (x : ℚ) : Except StoreError Money := do
  ensure (quantize 8 x < 10 ^ 12) .numericOverflow
  money (quantize 8 x * 10 ^ 4)

/-- The row of a new funding operation. -/
def newOperation (maximum promotion : ℚ) (catalog : Catalog) : Except StoreError FundingOperation := do
  let maximumAmount ← money (formatRat maximum)
  let promotionAmount ← money (formatRat promotion)
  let tax ← required request.taxRate .invalidDecimal
  let taxRate ← taxRateColumn tax
  let exchange ← required request.exchangeRate .invalidDecimal
  let exchangeRate ← money (formatRat exchange)
  ensure (request.pricingVersionId.all fun id => (catalog.priceVersions.find? id).isSome)
    .foreignKeyViolation
  if h : 0 < exchangeRate.units ∧ 0 ≤ request.estimatedInput then
    return {
      id := s.uuid .operation
      walletId := wallet.id
      organizationId := organizationId
      projectId := projectId
      apiKeyId := request.apiKeyId
      requestId := request.requestId
      idempotencyKey := request.idempotencyKey
      requestFingerprint := request.requestFingerprint
      pricingVersionId := request.pricingVersionId
      status := .reserved
      currency := wallet.currency
      maximumAmount := maximumAmount
      promotionAmount := promotionAmount
      consumedPromotionAmount := .zero
      taxRate := taxRate
      exchangeRate := exchangeRate
      settledAmount := .zero
      releasedAmount := .zero
      estimatedInputTokens := request.estimatedInput
      maxOutputTokens := request.maxOutput
      actualInputTokens := none
      actualCachedInputTokens := none
      actualOutputTokens := none
      usageSource := ""
      observedOutputBytes := 0
      failureCode := ""
      settledAt := none
      releasedAt := none
      heartbeatAt := s.now
      createdAt := s.now
      credentialOwner := .platform
      providerCredentialId := none
      fees := .default
      platformServiceFee := .zero
      byokShadowAmount := .zero
      consumed_le := promotionAmount.nonneg
      exchange_pos := h.1
      estimated_nonneg := h.2
      observed_nonneg := Money.zero.nonneg }
  else throw .checkViolation

/-- The lines of a reservation journal. -/
def reservationLines (walletId : Uuid) (maximum : ℤ) : List JournalLine :=
  [⟨walletAccountKey walletId .available, .debit, maximum, "Reserve maximum cash request cost"⟩,
    ⟨walletAccountKey walletId .reserved, .credit, maximum, "Reserved cash request funds"⟩]

/-- Post the journal of a reservation that holds money. -/
def postReservation (operationId : Uuid) (wallet : Wallet) (maximum : ℚ)
    (ledger : Ledger) : Except StoreError Ledger :=
  if 0 < maximum then
    postJournalTx (s.uuid .journal) wallet.id .reservation (.reservation operationId) wallet.currency
      (reservationLines wallet.id (formatRat maximum)) ledger
  else .ok ledger

/-- Admit a request whose idempotency key is new. -/
def reserveNew (db : Db) : Except StoreError (FundingOperation × Db) := do
  ensure (wallet.status = .active ∧ wallet.currency.code =
    Text.toUpper (if request.currency = "" then "USD" else request.currency)) .walletUnavailable
  ensure (wallet.admits maximum) .walletUnavailable
  let promotion ← required request.promotionAmount .invalidPromotionAmount
  ensure (0 ≤ promotion) .invalidPromotionAmount
  let operation ← newOperation s request organizationId projectId wallet maximum promotion db.catalog
  let operations ← db.operations.insert operation .uniqueViolation
  let cash ← reserveCashLotsTx s operation.id wallet.id (formatRat maximum) db.cash
  let held ← reservePromotionTx s operation.id organizationId wallet.currency (formatRat promotion)
    db.promotions
  ensure (held.1 = formatRat promotion) .walletUnavailable
  let ledger ← postReservation s operation.id wallet maximum db.ledger
  let wallet ← wallet.setBalances (wallet.availableBalance.units - formatRat maximum)
    (wallet.reservedBalance.units + formatRat maximum) wallet.riskExposure.units wallet.status
  return (operation, { db with
    wallets := db.wallets.replace wallet, ledger := ledger, cash := cash, promotions := held.2,
    operations := operations })

/-- Reserve the maximum amount of a request; also tells whether the operation existed already. -/
def reserveFunding (db : Db) : Except StoreError ((FundingOperation × Bool) × Db) := do
  let organizationId ← required request.organizationId .invalidFundingReservation
  let projectId ← required request.projectId .invalidFundingReservation
  ensure (Text.isBlank request.requestId = false ∧ Text.isBlank request.idempotencyKey = false ∧
    Text.isBlank request.requestFingerprint = false ∧ 0 ≤ request.estimatedInput ∧
    0 ≤ request.maxOutput) .invalidFundingReservation
  let maximum ← required request.maximumAmount .invalidMaximumAmount
  ensure (0 ≤ maximum) .invalidMaximumAmount
  let wallet ← required (db.wallets.rows.find? fun wallet => wallet.organizationId = organizationId)
    .notFound
  match db.operations.rows.find? fun operation =>
      operation.organizationId = organizationId ∧ operation.idempotencyKey = request.idempotencyKey with
  | some existing =>
    ensure (existing.requestFingerprint = request.requestFingerprint ∧ existing.projectId = projectId ∧
      existing.apiKeyId = request.apiKeyId) .idempotencyConflict
    return ((existing, true), db)
  | none =>
    let result ← reserveNew s request organizationId projectId maximum wallet db
    return ((result.1, false), result.2)

/-- The columns of a new operation that later steps rely on. -/
structure FundingOperation.Opened (operation : FundingOperation) (id walletId : Uuid)
    (maximum promotion : ℤ) : Prop where
  id : operation.id = id
  walletId : operation.walletId = walletId
  status : operation.status = .reserved
  maximumAmount : operation.maximumAmount.units = maximum
  promotionAmount : operation.promotionAmount.units = promotion
  consumedPromotionAmount : operation.consumedPromotionAmount.units = 0
  settledAmount : operation.settledAmount.units = 0

variable {s : Session} {request : FundingReservationRequest} {orgId projectId : Uuid}
  {wallet : Wallet} {maximum promotion : ℚ} {op : FundingOperation} {db db' : Db}

/-- What a new reservation writes, table by table. -/
structure Reserves (s : Session) (wallet : Wallet) (maximum : ℚ) (promotion : ℤ) (db : Db)
    (operation : FundingOperation) (db' : Db) : Prop where
  nonneg : 0 ≤ promotion
  admits : wallet.admits maximum
  opened : operation.Opened (s.uuid .operation) wallet.id (formatRat maximum) promotion
  currency : operation.currency = wallet.currency
  operations : db.operations.insert operation StoreError.uniqueViolation = .ok db'.operations
  cash : reserveCashLotsTx s operation.id wallet.id (formatRat maximum) db.cash = .ok db'.cash
  promotions : reservePromotionTx s operation.id operation.organizationId wallet.currency promotion
    db.promotions = .ok (promotion, db'.promotions)
  ledger : postReservation s operation.id wallet maximum db.ledger = .ok db'.ledger
  wallets : ∃ wallet', wallet.setBalances (wallet.availableBalance.units - formatRat maximum)
      (wallet.reservedBalance.units + formatRat maximum) wallet.riskExposure.units wallet.status =
      .ok wallet' ∧ db'.wallets = db.wallets.replace wallet'
  transactions : db'.transactions = db.transactions
  adjustments : db'.adjustments = db.adjustments
  payments : db'.payments = db.payments
  catalog : db'.catalog = db.catalog

/-- What a new reservation writes. -/
theorem reserveNew_eq_ok (h : reserveNew s request orgId projectId maximum wallet db = .ok (op, db')) :
    ∃ promotion, Reserves s wallet maximum promotion db op db' := by
  simp only [reserveNew, eq_ok] at h
  obtain ⟨_, _, _, hadm, promotion, _, _, hprn, op, hnew, operations, hop, cash,
    hcash, ⟨_, promotions⟩, hpr, _, hheld, ledger, hld, wallet', hw, rfl, rfl⟩ := h
  simp only [newOperation, eq_ok, money_eq_ok] at hnew
  obtain ⟨_, hmax, _, hprd, _, _, _, _, _, _, _, _, _, _, _, rfl⟩ := hnew
  refine ⟨formatRat promotion, {
    nonneg := quantize_nonneg hprn, admits := hadm,
    opened := ⟨rfl, rfl, rfl, hmax, hprd, rfl, rfl⟩, currency := rfl,
    operations := hop, cash := hcash, promotions := ?_, ledger := hld,
    wallets := ⟨wallet', hw, rfl⟩, transactions := rfl, adjustments := rfl, payments := rfl,
    catalog := rfl }⟩
  rw [hpr, ← hheld]

end ModelDock.Store
