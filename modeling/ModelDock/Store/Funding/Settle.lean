import ModelDock.Store.CashLots
import ModelDock.Store.Funding.Price
import ModelDock.Store.Journal
import ModelDock.Store.PromotionCredits
import ModelDock.Store.Wallets

/-!
# Settling a funding operation

`settleFunding` prices the usage of a request and closes its reservation. The amounts are written four times,
each computed on its own. Settling a terminal operation returns it unchanged.
-/

namespace ModelDock.Store

open Relational Accounting Pricing

variable {shadow : Table ShadowSpend}

/-- The arguments of a settlement. -/
structure FundingSettlementRequest where
  operationId : Uuid
  tokens : Tokens
  observedBytes : ℤ
  (usageSource failureCode : String)
  (partialFailure waive : Bool)

/-- No later settlement changes the operation. -/
def isFundingTerminal (status : FundingStatus) : Bool :=
  status = .settled || status = .partiallySettled || status = .released || status = .failed ||
    status = .reversed

/-- What a settlement charges: the amount, the promotion its price used, and for a customer's
credential the service fee and the shadow price. -/
structure SettlementCharge where
  (amount promotion serviceFee shadow : ℤ)

/-- The part of a month's shadow spend above the free allowance. -/
def billable (spent allowance : ℤ) : ℤ := max (spent - allowance) 0

/-- The service fee with the basis-point share of the newly billable shadow spend. -/
def feeWithBasisPoints (fees : ByokFees) (fee current shadow : ℤ) : ℤ :=
  formatRat (rat fee + rat (billable (current + shadow) fees.monthlyFreeAllowance.units -
    billable current fees.monthlyFreeAllowance.units) * (fees.serviceFeeBps / 10000))

/-- Count one request into a month's shadow spend. -/
def ShadowSpend.add (spend : ShadowSpend) (shadow fee : ℤ) : Except StoreError ShadowSpend := do
  let shadowAmount ← money (spend.shadowAmount.units + shadow)
  let serviceFeeAmount ← money (spend.serviceFeeAmount.units + fee)
  return { spend with
    shadowAmount := shadowAmount, serviceFeeAmount := serviceFeeAmount
    requestCount := spend.requestCount + 1 }

/-- The row of a month's shadow spend, inserted when the month has none. -/
def shadowRow (projectId credentialId : Uuid) (month : Month) (currency : Currency)
    (table : Table ShadowSpend) : Except StoreError (ShadowSpend × Table ShadowSpend) :=
  match table.find? (Nat.pair projectId (Nat.pair credentialId month)) with
  | some spend => .ok (spend, table)
  | none => do
    let spend : ShadowSpend := ⟨projectId, credentialId, month, currency, .zero, .zero, 0⟩
    let table ← table.insert spend .uniqueViolation
    return (spend, table)

variable (s : Session) (request : FundingSettlementRequest) (operation : FundingOperation)

/-- The charge for a usage on a customer's credential. -/
def customerCharge (tokens : Tokens) (db : Db) : Except StoreError (SettlementCharge × Table ShadowSpend) := do
  let fee ← operation.tokenFee tokens
  match operation.pricingVersionId, operation.providerCredentialId with
  | some versionId, some credentialId =>
    let shadow ← fundingAmountsForVersion versionId tokens (.units 0) (.units 0) (.units unitsPerOne)
      db.catalog
    let row ← shadowRow operation.projectId credentialId (providerBudgetMonth s.clock)
      operation.currency db.shadowSpend
    ensure (shadow.1 < numericBound ∧ fee < numericBound) .invalidDecimal
    let total := feeWithBasisPoints operation.fees fee row.1.shadowAmount.units shadow.1
    let spend ← row.1.add shadow.1 total
    return (⟨total, 0, total, shadow.1⟩, row.2.replace spend)
  | _, _ => return (⟨fee, 0, fee, 0⟩, db.shadowSpend)

variable (walletId : Uuid) (catalog : Catalog) (wallet : Wallet) (actual : ℤ) (db : Db)

/-- The charge of a settlement: nothing when waived, else the price or the service fee. -/
def settlementCharge : Except StoreError (SettlementCharge × Table ShadowSpend) :=
  if request.waive then .ok (⟨0, 0, 0, 0⟩, db.shadowSpend)
  else do
    let amounts ← operation.amounts request.tokens db.catalog
    match operation.credentialOwner with
    | .platform => return (⟨amounts.1, amounts.2, 0, 0⟩, db.shadowSpend)
    | .customer => customerCharge s operation request.tokens db

/-- The lines of a settlement journal. -/
def settlementLines (currency : Currency) (used overage actual : ℤ) : List JournalLine :=
  (if 0 < used then
    [⟨walletAccountKey walletId .reserved, .debit, used, "Settle reserved funds"⟩] else []) ++
  (if 0 < overage then
    [⟨walletAccountKey walletId .available, .debit, overage, "Settle estimation variance"⟩] else []) ++
  [⟨systemAccountKey .revenue currency, .credit, actual, "Recognize usage revenue"⟩]

/-- The lines of a release journal. -/
def releaseLines (release : ℤ) : List JournalLine :=
  [⟨walletAccountKey walletId .reserved, .debit, release, "Release unused reservation"⟩,
    ⟨walletAccountKey walletId .available, .credit, release, "Return unused reservation"⟩]

/-- Post the settlement of a positive amount. -/
def postCharge (ledger : Ledger) : Except StoreError Ledger :=
  let used := min actual operation.maximumAmount.units
  if 0 < actual then
    postJournalTx (s.uuid .journal) operation.walletId .settlement (.settlement operation.id)
      operation.currency
      (settlementLines operation.walletId operation.currency used (actual - used) actual) ledger
  else .ok ledger

/-- Post the release of a positive rest. -/
def postRelease (release : ℤ) (ledger : Ledger) : Except StoreError Ledger :=
  if 0 < release then
    postJournalTx (s.uuid .releaseJournal) operation.walletId .release (.release operation.id)
      operation.currency (releaseLines operation.walletId release) ledger
  else .ok ledger

/-- Post the journals of a settlement. -/
def postSettlement (ledger : Ledger) : Except StoreError Ledger := do
  let ledger ← postCharge s operation actual ledger
  postRelease s operation
    (operation.maximumAmount.units - min actual operation.maximumAmount.units) ledger

/-- The status of a wallet after an overage: above its risk limit it is frozen. -/
def Wallet.statusAfter (overage : ℤ) : WalletStatus :=
  if wallet.status = .active ∧ 0 < overage ∧
      wallet.riskLimit.units < wallet.riskExposure.units + overage ∧
      ¬(wallet.billingMode = .postpaid ∧ wallet.creditEnforced = false)
  then .frozen else wallet.status

/-- Close the reservation in the wallet. -/
def Wallet.settle (maximum actual : ℤ) : Except StoreError Wallet :=
  let used := min actual maximum
  wallet.setBalances (wallet.availableBalance.units + (maximum - used) - (actual - used))
    (wallet.reservedBalance.units - maximum)
    (wallet.riskExposure.units + (actual - used)) (wallet.statusAfter (actual - used))

/-- The status of a settled operation. -/
def settlementStatus : FundingStatus :=
  if actual = 0 then (if request.failureCode = "" then .released else .failed)
  else if request.partialFailure then .partiallySettled else .settled

/-- Close the operation. -/
def FundingOperation.settle (s : Session)
    (request : FundingSettlementRequest) (charge : SettlementCharge) (consumedPromotion : ℤ) :
    Except StoreError FundingOperation := do
  let release := operation.maximumAmount.units - min charge.amount operation.maximumAmount.units
  let settledAmount ← money charge.amount
  let releasedAmount ← money release
  let consumed ← money consumedPromotion
  let serviceFee ← money charge.serviceFee
  let shadow ← money charge.shadow
  if h : consumed.units ≤ operation.promotionAmount.units ∧ 0 ≤ request.observedBytes then
    return { operation with
      status := settlementStatus request charge.amount
      settledAmount := settledAmount
      releasedAmount := releasedAmount
      consumedPromotionAmount := consumed
      platformServiceFee := serviceFee
      byokShadowAmount := shadow
      actualInputTokens := some request.tokens.input
      actualCachedInputTokens := some request.tokens.cached
      actualOutputTokens := some request.tokens.output
      usageSource := request.usageSource
      observedOutputBytes := request.observedBytes
      failureCode := request.failureCode
      settledAt := if 0 < charge.amount then some s.clock else none
      releasedAt := if 0 < release ∨ charge.amount = 0 then some s.clock else none
      heartbeatAt := s.now
      consumed_le := h.1
      observed_nonneg := h.2 }
  else throw .checkViolation

/-- The transaction row of a settled charge. -/
def chargeTransaction (actual balanceAfter : ℤ) : TransactionInput where
  id := s.uuid .transaction
  walletId := operation.walletId
  transactionType := .charge
  amount := -actual
  balanceAfter := balanceAfter
  idempotencyKey := some (.fundingCharge operation.id)
  reference := operation.requestId
  journalId := some (s.uuid .journal)
  fundingOperationId := some operation.id

/-- Record a positive charge as a wallet transaction and settle the held cash. -/
def settleCash : Except StoreError (Table WalletTransaction × Cash) :=
  if 0 < actual then do
    let transactions ← insertTransactionOnce s
      (chargeTransaction s operation actual wallet.availableBalance.units) db.transactions
    let cash ← settleCashLotsTx s transactions operation.id operation.walletId
      (some (s.uuid .transaction)) actual db.cash
    return (transactions, cash)
  else do
    let cash ← settleCashLotsTx s db.transactions operation.id operation.walletId none actual db.cash
    return (db.transactions, cash)

/-- Write the status of an operation's usage records. -/
def setUsageStatus (operationId : Uuid) (status : UsageStatus) (records : Table UsageRecord) :
    Table UsageRecord :=
  records.rewrite (fun row =>
    if row.fundingOperationId = some operationId then { row with status := status } else row)
    fun row => by split <;> rfl

/-- Move a settled cost from the reserved to the spent part of a month's budget. -/
def UsageBudget.settle (budget : UsageBudget) (reserved actual : ℤ) : Except StoreError UsageBudget := do
  let reservedCost ← money (max 0 (budget.reservedCost.units - reserved))
  let providerCost ← money (budget.providerCost.units + actual)
  return { budget with reservedCost := reservedCost, providerCost := providerCost }

/-- What a settled usage counts against the provider's budget. -/
def budgetCost : Except StoreError ℤ :=
  match operation.pricingVersionId with
  | some versionId =>
    if request.waive then .ok 0 else providerCostForVersion versionId request.tokens catalog
  | none => .ok 0

/-- Settle the open budget reservation of an operation, if it has one. -/
def settleBudget (budgets : Budgets) : Except StoreError Budgets :=
  match budgets.reservations.rows.find? fun row =>
      row.operationId = operation.id ∧ row.status = .reserved with
  | none => .ok budgets
  | some reservation => do
    let actual ← budgetCost request operation catalog
    ensure (actual < numericBound) .invalidDecimal
    ensure (actual ≤ reservation.maximumCost.units) .providerBudgetExceeded
    let usage ← budgets.usage.update
      (Nat.pair reservation.providerId (providerBudgetMonth s.clock)) fun budget =>
        budget.settle reservation.maximumCost.units actual
    let settledCost ← money actual
    return { usage := usage
             reservations := budgets.reservations.replace { reservation with
               settledCost := settledCost, status := if 0 < actual then .settled else .released } }

/-- Settle an operation that is not terminal. -/
def settleOpen : Except StoreError (FundingOperation × Db) := do
  let wallet ← required (db.wallets.find? operation.walletId) .noRows
  let (charge, shadowSpend) ← settlementCharge s request operation db
  let (consumed, promotions) ← settlePromotionTx s operation.id charge.promotion db.promotions
  ensure (charge.amount < numericBound) .invalidDecimal
  let ledger ← postSettlement s operation charge.amount db.ledger
  let wallet ← wallet.settle operation.maximumAmount.units charge.amount
  let settled ← operation.settle s request charge consumed
  let (transactions, cash) ← settleCash s operation wallet charge.amount db
  let budgets ← settleBudget s request operation db.catalog db.budgets
  return (settled, { db with
    wallets := db.wallets.replace wallet, ledger := ledger, transactions := transactions, cash := cash,
    promotions := promotions, operations := db.operations.replace settled,
    usageRecords := setUsageStatus operation.id (if 0 < charge.amount then .charged else .waived)
      db.usageRecords,
    budgets := budgets, shadowSpend := shadowSpend })

/-- Close a reservation with the actual usage. -/
def settleFunding : Except StoreError (FundingOperation × Db) := do
  ensure (request.tokens.Valid ∧ 0 ≤ request.observedBytes) .invalidSettlementUsage
  let operation ← required (db.operations.find? request.operationId) .notFound
  if isFundingTerminal operation.status then return (operation, db)
  else settleOpen s request operation db

variable {s : Session} {request : FundingSettlementRequest} {op settled : FundingOperation}
  {charge : SettlementCharge} {consumed : ℤ} {db db' : Db}

theorem isFundingTerminal_eq (status : FundingStatus) : isFundingTerminal status = !status.isOpen := by
  cases status <;> rfl

theorem settleFunding_of_open {result : FundingOperation × Db}
    (hf : db.operations.find? request.operationId = some op) (hopen : op.status.isOpen) :
    settleFunding s request db = .ok result ↔
      (request.tokens.Valid ∧ 0 ≤ request.observedBytes) ∧ settleOpen s request op db = .ok result := by
  have htr : isFundingTerminal op.status = false := by
    rw [isFundingTerminal_eq, hopen]
    rfl
  simp only [settleFunding, eq_ok, hf, Option.some.injEq]
  constructor
  · rintro ⟨_, hvl, _, rfl, h⟩
    rw [htr] at h
    exact ⟨hvl, h⟩
  · rintro ⟨hvl, h⟩
    refine ⟨(), hvl, op, rfl, ?_⟩
    rw [htr]
    exact h

section

variable (h : settlementCharge s request op db = .ok (charge, shadow))
include h

/-- A waived operation is charged nothing, one with a platform credential its price. -/
theorem settlementCharge_eq_ok : request.waive ∧ charge = ⟨0, 0, 0, 0⟩ ∨
      request.waive = false ∧ op.credentialOwner = .platform ∧
        op.amounts request.tokens db.catalog = .ok (charge.amount, charge.promotion) ∨
      request.waive = false ∧ op.credentialOwner = .customer ∧
        (∃ amounts, op.amounts request.tokens db.catalog = .ok amounts) ∧
        customerCharge s op request.tokens db = .ok (charge, shadow) := by
  unfold settlementCharge at h
  split at h
  · next hwv =>
    cases h
    exact .inl ⟨hwv, rfl⟩
  · next hwv =>
    have hwv : request.waive = false := Bool.not_eq_true _ ▸ hwv
    simp only [bind_eq_ok] at h
    obtain ⟨amounts, ham, h⟩ := h
    split at h
    · next hown =>
      cases h
      exact .inr (.inl ⟨hwv, hown, ham⟩)
    · next hown => exact .inr (.inr ⟨hwv, hown, ⟨amounts, ham⟩, h⟩)

theorem settlementCharge_promotion :
    0 ≤ charge.promotion ∧ charge.promotion ≤ op.promotionAmount.units := by
  have hpr := op.promotionAmount.nonneg
  rcases settlementCharge_eq_ok h with ⟨_, rfl⟩ | ⟨_, _, ham⟩ | ⟨_, _, _, hcs⟩
  · exact ⟨le_refl 0, hpr⟩
  · exact FundingOperation.amounts_promotion ham
  · have hnone : charge.promotion = 0 := by
      simp only [customerCharge, bind_eq_ok] at hcs
      obtain ⟨_, _, hcs⟩ := hcs
      split at hcs
      · simp only [eq_ok] at hcs
        obtain ⟨_, _, _, _, _, _, _, _, rfl, _⟩ := hcs
        rfl
      · cases hcs
        rfl
    rw [hnone]
    exact ⟨le_refl 0, hpr⟩

end

/-- The last usage an operation was priced with. -/
def FundingOperation.lastUsage (operation : FundingOperation) : Tokens where
  input := operation.actualInputTokens.getD 0
  cached := operation.actualCachedInputTokens.getD 0
  output := operation.actualOutputTokens.getD 0

/-- The columns a settlement writes on the operation, and those it keeps. -/
structure FundingOperation.Closed (operation : FundingOperation) (request : FundingSettlementRequest)
    (charge : SettlementCharge) (consumed : ℤ) (settled : FundingOperation) : Prop where
  key : Keyed.key settled = Keyed.key operation
  walletId : settled.walletId = operation.walletId
  currency : settled.currency = operation.currency
  maximumAmount : settled.maximumAmount = operation.maximumAmount
  promotionAmount : settled.promotionAmount = operation.promotionAmount
  pricingVersionId : settled.pricingVersionId = operation.pricingVersionId
  taxRate : settled.taxRate = operation.taxRate
  exchangeRate : settled.exchangeRate = operation.exchangeRate
  credentialOwner : settled.credentialOwner = operation.credentialOwner
  status : settled.status = settlementStatus request charge.amount
  settledAmount : settled.settledAmount.units = charge.amount
  consumedPromotionAmount : settled.consumedPromotionAmount.units = consumed
  consumed_nonneg : 0 ≤ consumed
  lastUsage : settled.lastUsage = request.tokens
  platformServiceFee : settled.platformServiceFee.units = charge.serviceFee

theorem FundingOperation.settle_eq_ok (h : op.settle s request charge consumed = .ok settled) :
    op.Closed request charge consumed settled := by
  simp only [FundingOperation.settle, eq_ok, money_eq_ok] at h
  obtain ⟨_, ham, _, _, used, hused, _, hfee, _, _, _, rfl⟩ := h
  exact ⟨rfl, rfl, rfl, rfl, rfl, rfl, rfl, rfl, rfl, rfl, ham, hused, hused ▸ used.nonneg, rfl, hfee⟩

/-- What a settlement writes, table by table. -/
structure Settles (s : Session) (request : FundingSettlementRequest) (operation : FundingOperation)
    (wallet : Wallet) (charge : SettlementCharge) (consumed : ℤ) (db : Db) (settled : FundingOperation)
    (db' : Db) : Prop where
  found : db.wallets.find? operation.walletId = some wallet
  charged : settlementCharge s request operation db = .ok (charge, db'.shadowSpend)
  promotions : settlePromotionTx s operation.id charge.promotion db.promotions =
    .ok (consumed, db'.promotions)
  fits : charge.amount < numericBound
  ledger : postSettlement s operation charge.amount db.ledger = .ok db'.ledger
  closed : operation.Closed request charge consumed settled
  operations : db'.operations = db.operations.replace settled
  wallets : ∃ wallet', wallet.settle operation.maximumAmount.units charge.amount = .ok wallet' ∧
    settleCash s operation wallet' charge.amount db = .ok (db'.transactions, db'.cash) ∧
    db'.wallets = db.wallets.replace wallet'
  budgets : settleBudget s request operation db.catalog db.budgets = .ok db'.budgets
  adjustments : db'.adjustments = db.adjustments
  payments : db'.payments = db.payments
  catalog : db'.catalog = db.catalog
  usageRecords : db'.usageRecords = setUsageStatus operation.id
    (if 0 < charge.amount then .charged else .waived) db.usageRecords

theorem Settles.amount_nonneg {wallet : Wallet}
    (h : Settles s request op wallet charge consumed db settled db') : 0 ≤ charge.amount :=
  h.closed.settledAmount ▸ settled.settledAmount.nonneg

/-- What the settlement of an open operation writes. -/
theorem settleOpen_eq_ok (h : settleOpen s request op db = .ok (settled, db')) :
    ∃ wallet charge consumed, Settles s request op wallet charge consumed db settled db' := by
  simp only [settleOpen, eq_ok] at h
  obtain ⟨wallet, hw, ⟨charge, _⟩, hch, ⟨consumed, _⟩, hpr, _, hfits,
    _, hld, wallet', hw', _, hcl, _, hcash, _, hbd,
    rfl, rfl⟩ := h
  exact ⟨wallet, charge, consumed, hw, hch, hpr, hfits, hld,
    FundingOperation.settle_eq_ok hcl, rfl, ⟨wallet', hw', hcash, rfl⟩, hbd, rfl, rfl, rfl,
    rfl⟩

end ModelDock.Store
