import ModelDock.Store.Schema.Usage
import ModelDock.Store.System

/-!
# Logging a request and billing its usage

`insertScopedRequestLog` logs a request and prices its usage once more. One with a funding operation follows its
status; one without is charged here, with no cash allocation. A failed or unpriced one is recorded as waived.
-/

namespace ModelDock.Store

open Relational Pricing Accounting ModelDock.Numeric

variable {promotion : ℤ} {result : Result} {record : UsageRecord}

/-- What is known of a request when it is logged. A blank identifier is `none`; a promotion amount is
`none` when it is no number, and zero when it is blank. -/
structure RequestLog where
  requestId : String
  (organizationId projectId : Uuid)
  statusCode : ℤ
  tokens : Tokens
  (pricingVersionId fundingOperationId : Option Uuid)
  promotionAmount : Option ℚ
  (taxRate exchangeRate : DecimalText)

/-- The price of the logged tokens at a version, with a promotion. -/
def RequestLog.calculate (log : RequestLog) (version : PriceVersion) (promotion : ℤ) : Except StoreError Result :=
  priced (Pricing.calculate version.provider.toRate version.retail.toRate log.tokens (.units promotion)
    (log.taxRate.orElse 0) (log.exchangeRate.orElse unitsPerOne))

variable (s : Session) (requestId : String) (log : RequestLog) (version : PriceVersion) (st : LoggedDb)

/-- The price of the logged tokens with a promotion: the taxed rest of their retail amount. -/
def RequestLog.price (promotion : ℤ) : ℤ :=
  let retail := calculateRate version.retail.toRate log.tokens
  let rest := retail - min (rat promotion) retail
  format (rest + rest * (log.taxRate.orElse 0).value)

/-- The funding operation the log names; it has to exist. -/
def RequestLog.operation? (operations : Table FundingOperation) : Except StoreError (Option FundingOperation) :=
  match log.fundingOperationId with
  | none => .ok none
  | some id => (required (operations.find? id) .noRows).map some

/-- The fee terms as the stored rate of a snapshot. -/
def ByokFees.stored (fees : ByokFees) (currency : Currency) : StoredRate where
  input := fees.inputTokenFee
  cached := fees.cachedInputTokenFee
  output := fees.outputTokenFee
  fixed := fees.fixedFee
  unit := fees.unit
  currency := currency
  unit_pos := fees.unit_pos

/-- The amounts and terms a usage is billed with. -/
structure UsagePrice where
  retail : StoredRate
  (providerCost saleAmount exchangeRate promotionAmount preTaxAmount taxRate taxAmount finalAmount : ℤ)
  owner : CredentialOwner
  serviceFee : ℤ

/-- The calculated price as it is billed. -/
def platformPrice (result : Result) (serviceFee : ℤ) : UsagePrice where
  retail := version.retail
  providerCost := result.providerCost
  saleAmount := result.retailAmount
  exchangeRate := result.exchangeRate
  promotionAmount := result.promotionAmount
  preTaxAmount := result.preTaxAmount
  taxRate := result.taxRate
  taxAmount := result.taxAmount
  finalAmount := result.finalAmount
  owner := .platform
  serviceFee := serviceFee

/-- What a usage is billed with: on a customer's own credential the fee of the settlement, otherwise
the calculated price. -/
def usagePrice (result : Result) : Option FundingOperation → UsagePrice
  | none => platformPrice version result 0
  | some operation =>
    match operation.credentialOwner with
    | .platform => platformPrice version result operation.platformServiceFee.units
    | .customer =>
      { retail := operation.fees.stored version.retail.currency
        providerCost := 0
        saleAmount := operation.platformServiceFee.units
        exchangeRate := unitsPerOne
        promotionAmount := 0
        preTaxAmount := operation.platformServiceFee.units
        taxRate := 0
        taxAmount := 0
        finalAmount := operation.platformServiceFee.units
        owner := .customer
        serviceFee := operation.platformServiceFee.units }

/-- Take part of one credit for a request. -/
def redeemCredit (state : Promotions × Table PromotionRedemption) (credit : PromotionCredit) (units : ℤ) :
    Except StoreError (Promotions × Table PromotionRedemption) := do
  let credits ← state.1.credits.update credit.id fun row => row.debit units
  let amount ← money units
  if h : 0 < amount.units then
    let redemptions ← state.2.insert
      ⟨s.uuid (.redemption credit.id), credit.id, s.uuid .usageSnapshot, requestId, amount, h⟩
      .uniqueViolation
    return ({ state.1 with credits := credits }, redemptions)
  else throw .checkViolation

variable (price : UsagePrice) (organizationId : Uuid) (walletId : Uuid) (currency : Currency) (amount : ℤ)

/-- Redeem promotion credits for a request, the first to expire first; returns what was redeemed. -/
def redeemPromotionCredits (requested : ℤ)
    (requestId : String) (promotions : Promotions) (redemptions : Table PromotionRedemption) :
    Except StoreError (ℤ × Promotions × Table PromotionRedemption) := do
  ensure (0 ≤ requested) .invalidAmount
  let result ← takeEach (fun credit => credit.amountRemaining.units) (redeemCredit s requestId)
    (promotions.usable organizationId currency s.now) requested (promotions, redemptions)
  return (requested - result.1, result.2)

/-- The promotion of a usage: what the operation consumed, or what is redeemed now, at most the
retail amount. -/
def usagePromotion (operation? : Option FundingOperation) (st : LoggedDb) :
    Except StoreError (ℤ × Promotions × Table PromotionRedemption) :=
  match operation? with
  | some operation => .ok (operation.consumedPromotionAmount.units, st.db.promotions, st.redemptions)
  | none =>
    if 0 < log.promotionAmount.getD 0 then do
      let undiscounted ← log.calculate version 0
      redeemPromotionCredits s log.organizationId version.retail.currency
        (formatRat (min (log.promotionAmount.getD 0) (rat undiscounted.retailAmount))) log.requestId
        st.db.promotions st.redemptions
    else .ok (0, st.db.promotions, st.redemptions)

/-- The row of a price snapshot. -/
def snapshotRow : Except StoreError UsagePriceSnapshot := do
  let providerCostAmount ← money price.providerCost
  let customerSaleAmount ← money price.saleAmount
  let exchangeRate ← money price.exchangeRate
  let platformGrossMargin ← numeric (price.saleAmount - price.providerCost)
  let promotionAmount ← money price.promotionAmount
  let preTaxAmount ← money price.preTaxAmount
  let taxRate ← taxRateColumn (rat price.taxRate)
  let taxAmount ← money price.taxAmount
  let finalUserAmount ← money price.finalAmount
  let platformServiceFee ← money price.serviceFee
  if h : log.tokens.Counted ∧ 0 < exchangeRate.units then
    return {
      id := s.uuid .usageSnapshot
      requestId := log.requestId
      pricingVersionId := version.id
      tokens := log.tokens
      provider := version.provider
      retail := price.retail
      providerCostAmount := providerCostAmount
      customerSaleAmount := customerSaleAmount
      exchangeRate := exchangeRate
      platformGrossMargin := platformGrossMargin
      promotionAmount := promotionAmount
      preTaxAmount := preTaxAmount
      taxRate := taxRate
      taxAmount := taxAmount
      finalUserAmount := finalUserAmount
      credentialOwner := price.owner
      platformServiceFee := platformServiceFee
      tokens_nonneg := h.1
      exchange_pos := h.2 }
  else throw .checkViolation

/-- The record of a priced usage; an amount of nothing is waived. -/
def pricedRecord : Except StoreError UsageRecord := do
  let amount ← money price.finalAmount
  let providerCostAmount ← money price.providerCost
  let customerSaleAmount ← money price.saleAmount
  let promotionAmount ← money price.promotionAmount
  let taxAmount ← money price.taxAmount
  if h : log.tokens.Counted then
    return {
      id := s.uuid .usageRecord
      requestId := log.requestId
      organizationId := log.organizationId
      projectId := log.projectId
      tokens := log.tokens
      amount := amount
      currency := version.retail.currency
      status := if 0 < price.finalAmount then .recorded else .waived
      usagePriceSnapshotId := some (s.uuid .usageSnapshot)
      providerCostAmount := some providerCostAmount
      customerSaleAmount := some customerSaleAmount
      promotionAmount := promotionAmount
      taxAmount := taxAmount
      finalUserAmount := amount
      fundingOperationId := log.fundingOperationId
      tokens_nonneg := h }
  else throw .checkViolation

/-- The record of a usage that is not priced. It names no funding operation. -/
def unpricedRecord : Except StoreError UsageRecord :=
  if h : log.tokens.Counted then
    .ok {
      id := s.uuid .usageRecord
      requestId := log.requestId
      organizationId := log.organizationId
      projectId := log.projectId
      tokens := log.tokens
      amount := .zero
      currency := usd
      status := .waived
      usagePriceSnapshotId := none
      providerCostAmount := none
      customerSaleAmount := none
      promotionAmount := .zero
      taxAmount := .zero
      finalUserAmount := .zero
      fundingOperationId := none
      tokens_nonneg := h }
  else .error .checkViolation

/-- Insert a usage record unless its request has one; says whether it was inserted. -/
def insertUsageRecord (record : UsageRecord) (records : Table UsageRecord) :
    Except StoreError (Bool × Table UsageRecord) :=
  if records.rows.any fun row => row.requestId = record.requestId then .ok (false, records)
  else do
    let records ← records.insert record .uniqueViolation
    return (true, records)

/-- Write the status of one usage record. -/
def setRecordStatus (recordId : Uuid) (status : UsageStatus) (records : Table UsageRecord) : Table UsageRecord :=
  records.rewrite (fun row => if row.id = recordId then { row with status := status } else row)
    fun row => by split <;> rfl

/-- The status a linked record takes from its operation; an open operation leaves it alone. -/
def linkedStatus : FundingStatus → UsageStatus
  | .settled | .partiallySettled => .charged
  | .released | .failed | .reversed => .waived
  | .pending | .reserved => .recorded

/-- The lines of a directly charged usage. -/
def legacyUsageLines : List JournalLine :=
  [⟨walletAccountKey walletId .available, .debit, amount, "Settle legacy usage charge"⟩,
    ⟨systemAccountKey .revenue currency, .credit, amount, "Recognize usage revenue"⟩]

/-- The transaction row of a directly charged usage. -/
def usageTransaction (amount balanceAfter : ℤ) : TransactionInput where
  id := s.uuid .transaction
  walletId := walletId
  transactionType := .charge
  amount := -amount
  balanceAfter := balanceAfter
  idempotencyKey := some (.usage requestId)
  reference := "usage:" ++ requestId
  journalId := some (s.uuid .journal)

/-- The active wallet of an organization. -/
def activeWallet? (wallets : Table Wallet) : Option Wallet :=
  wallets.rows.find? fun wallet => wallet.organizationId = organizationId ∧ wallet.status = .active

/-- Charge a usage to the wallet of the organization; without an active wallet nothing is charged. -/
def chargeWallet (db : Db) : Except StoreError Db :=
  match activeWallet? log.organizationId db.wallets with
  | none => .ok db
  | some wallet => do
    ensure (wallet.currency = currency) (.walletCurrencyMismatch wallet.currency.code currency.code)
    let ledger ← postJournalTx (s.uuid .journal) wallet.id .settlement (.legacyUsage log.requestId)
      currency (legacyUsageLines wallet.id currency amount) db.ledger
    let charged ← wallet.addAvailable (-amount)
    let transactions ← insertTransactionOnce s
      (usageTransaction s log.requestId wallet.id amount charged.availableBalance.units) db.transactions
    return { db with
      wallets := db.wallets.replace charged, ledger := ledger, transactions := transactions
      usageRecords := setRecordStatus (s.uuid .usageRecord) .charged db.usageRecords }

/-- Book a record that is due: a linked one follows its operation, the others are charged. -/
def bookUsage (due : Bool) (operation? : Option FundingOperation) (db : Db) : Except StoreError Db :=
  if due then
    match operation? with
    | some operation => .ok { db with
        usageRecords := setRecordStatus (s.uuid .usageRecord) (linkedStatus operation.status) db.usageRecords }
    | none => chargeWallet s log currency amount db
  else .ok db

/-- Record a usage that is not priced. -/
def settleUnpriced : Except StoreError LoggedDb := do
  let record ← unpricedRecord s log
  let result ← insertUsageRecord record st.db.usageRecords
  return { st with db := { st.db with usageRecords := result.2 } }

/-- Name the price of a request in its log. -/
def linkSnapshot (requestLogs : Table LoggedRequest) : Table LoggedRequest :=
  requestLogs.rewrite (fun row =>
    if row.requestId = log.requestId then
      { row with pricingVersionId := some version.id, usagePriceSnapshotId := some (s.uuid .usageSnapshot) }
    else row) fun row => by split <;> rfl

/-- Price a usage at its version and book it. -/
def settlePriced : Except StoreError LoggedDb := do
  let operation? ← log.operation? st.db.operations
  let (promotion, promotions, redemptions) ← usagePromotion s log version operation? st
  let result ← log.calculate version promotion
  let price := usagePrice version result operation?
  let snapshot ← snapshotRow s log version price
  let snapshots ← st.snapshots.insert snapshot .uniqueViolation
  let record ← pricedRecord s log version price
  let (written, usageRecords) ← insertUsageRecord record st.db.usageRecords
  let db ← bookUsage s log version.retail.currency result.finalAmount
    (written && decide (0 < price.finalAmount)) operation?
    { st.db with promotions := promotions, usageRecords := usageRecords }
  return { db := db, requestLogs := linkSnapshot s log version st.requestLogs
           snapshots := snapshots, redemptions := redemptions }

/-- Bill the usage of a logged request. -/
def settlePricingUsage : Except StoreError LoggedDb :=
  if 400 ≤ log.statusCode then settleUnpriced s log st
  else
    match log.pricingVersionId with
    | none => settleUnpriced s log st
    | some versionId => do
      let version ← required (st.db.catalog.priceVersions.find? versionId) .pricingUnavailable
      settlePriced s log version st

/-- Log a request and bill its usage. -/
def insertScopedRequestLog : Except StoreError LoggedDb := do
  ensure (log.fundingOperationId.all fun id => (st.db.operations.find? id).isSome) .foreignKeyViolation
  let requestLogs ← st.requestLogs.insert
    ⟨s.uuid .requestLog, log.requestId, log.statusCode, log.tokens, log.fundingOperationId, none, none⟩
    .uniqueViolation
  settlePricingUsage s log { st with requestLogs := requestLogs }

/-- A call of the store, the grant of a promotion credit, or the log of a finished request. -/
inductive LoggedCall
  | store (call : Call)
  | createPromotionCredit (request : PromotionCreditRequest)
  | insertScopedRequestLog (log : RequestLog)

/-- Run one call in its session. -/
def execLogged (invocation : Session × LoggedCall) (st : LoggedDb) : Except StoreError LoggedDb :=
  match invocation.2 with
  | .store call => (exec (invocation.1, call) st.db).map fun db => { st with db := db }
  | .createPromotionCredit request =>
    (createPromotionCredit invocation.1 request st.db.promotions).map fun promotions =>
      { st with db := { st.db with promotions := promotions } }
  | .insertScopedRequestLog log => insertScopedRequestLog invocation.1 log st

/-- A state before any request: no money has moved, nothing is logged, and no credit is used. -/
structure LoggedGenesis (st : LoggedDb) : Prop where
  db : Genesis st.db
  requestLogs : st.requestLogs.rows = []
  snapshots : st.snapshots.rows = []
  usageRecords : st.db.usageRecords.rows = []
  redemptions : st.redemptions.rows = []
  credits : ∀ credit ∈ st.db.promotions.credits.rows,
    credit.amountRemaining = credit.amountGranted ∧ credit.status = .active

variable {s : Session} {log : RequestLog} {version : PriceVersion} {operation? : Option FundingOperation}
  {st st' : LoggedDb} {db db' : Db}

theorem RequestLog.operation?_eq_ok {operations : Table FundingOperation} :
    log.operation? operations = .ok operation? ↔
      log.fundingOperationId = none ∧ operation? = none ∨
        ∃ id op, log.fundingOperationId = some id ∧ operations.find? id = some op ∧
          operation? = some op := by
  unfold RequestLog.operation?
  cases log.fundingOperationId with
  | none => simp [eq_comm]
  | some id =>
    simp only [map_eq_ok, required_eq_ok, reduceCtorEq, false_and, false_or, Option.some.injEq]
    constructor
    · rintro ⟨op, hf, rfl⟩
      exact ⟨id, op, rfl, hf, rfl⟩
    · rintro ⟨_, op, rfl, hf, rfl⟩
      exact ⟨op, hf, rfl⟩

theorem RequestLog.calculate_eq_ok (h : log.calculate version promotion = .ok result) :
    0 ≤ (log.taxRate.orElse 0).value ∧ 0 ≤ calculateRate version.retail.toRate log.tokens ∧
      ∃ exchange : ℤ, result = resultOf (calculateRate version.provider.toRate log.tokens)
        (calculateRate version.retail.toRate log.tokens) (rat promotion) (log.taxRate.orElse 0).value
        (rat exchange) := by
  rw [RequestLog.calculate, priced_eq_ok] at h
  obtain ⟨_, tax, exchange, hp, ht, _, htax, hrt, rfl⟩ := Pricing.calculate_eq_ok h
  cases hp
  have hvl : (log.taxRate.orElse 0).value = rat tax := by
    cases hrate : log.taxRate <;> rw [hrate] at ht <;> cases ht <;> rfl
  rw [hvl]
  exact ⟨decimalValue_nonneg htax, hrt, exchange, rfl⟩

theorem RequestLog.calculate_finalAmount
    (h : log.calculate version promotion = .ok result) : result.finalAmount = log.price version promotion := by
  obtain ⟨_, _, _, rfl⟩ := RequestLog.calculate_eq_ok h
  exact resultOf_finalAmount _ _ _ _ _

/-- What pricing a logged usage writes. -/
structure PricesUsage (s : Session) (log : RequestLog) (version : PriceVersion)
    (operation? : Option FundingOperation) (promotion : ℤ) (result : Result) (st st' : LoggedDb) :
    Prop where
  linked : log.operation? st.db.operations = .ok operation?
  redeemed : usagePromotion s log version operation? st = .ok (promotion, st'.db.promotions, st'.redemptions)
  calculated : log.calculate version promotion = .ok result
  snapshot : ∃ snapshot, snapshotRow s log version (usagePrice version result operation?) = .ok snapshot ∧
    st.snapshots.insert snapshot StoreError.uniqueViolation = .ok st'.snapshots
  booked : ∃ record written usageRecords,
    pricedRecord s log version (usagePrice version result operation?) = .ok record ∧
    insertUsageRecord record st.db.usageRecords = .ok (written, usageRecords) ∧
    bookUsage s log version.retail.currency result.finalAmount
      (written && decide (0 < (usagePrice version result operation?).finalAmount)) operation?
      { st.db with promotions := st'.db.promotions, usageRecords := usageRecords } = .ok st'.db
  requestLogs : st'.requestLogs = linkSnapshot s log version st.requestLogs

/-- What charging a usage to a wallet writes. -/
structure ChargesWallet (s : Session) (log : RequestLog) (wallet : Wallet) (amount : ℤ) (db db' : Db) : Prop where
  found : activeWallet? log.organizationId db.wallets = some wallet
  posted : ∃ journal, db.ledger.Posted journal db'.ledger ∧
    journal.Moves db.ledger wallet.id (-amount) 0 ∧ journal.reversalOfJournalId = none
  wallets : ∃ wallet', wallet.Moved (-amount) 0 wallet' ∧ db'.wallets = db.wallets.replace wallet'
  transactions : ∃ balanceAfter, insertTransactionOnce s
    (usageTransaction s log.requestId wallet.id amount balanceAfter) db.transactions =
      .ok db'.transactions

/-- The tables that billing a request leaves alone. -/
structure BillingFrame (db db' : Db) : Prop where
  cash : db'.cash = db.cash
  operations : db'.operations = db.operations
  adjustments : db'.adjustments = db.adjustments
  payments : db'.payments = db.payments
  catalog : db'.catalog = db.catalog

/-- What billing a logged request does to the tables of the store: it may charge a wallet. -/
structure Billed (s : Session) (log : RequestLog) (db db' : Db) : Prop where
  charge : db'.wallets = db.wallets ∧ db'.ledger = db.ledger ∧ db'.transactions = db.transactions ∨
    ∃ wallet amount, ChargesWallet s log wallet amount db db'
  frame : BillingFrame db db'

theorem linesNet_legacyUsageLines : LinesMove (legacyUsageLines walletId currency amount) walletId (-amount) 0 := by
  rintro id (_ | _) <;> simp [legacyUsageLines, walletAccountKey, systemAccountKey, JournalLine.posting,
    Posting.signed, perAccount, eq_comm]

theorem chargeWallet_eq_ok {currency : Currency} {amount : ℤ} (h : chargeWallet s log currency amount db = .ok db') :
    (activeWallet? log.organizationId db.wallets = none ∧ db' = db ∨
      ∃ wallet, ChargesWallet s log wallet amount db db') ∧
      db'.promotions = db.promotions ∧ BillingFrame db db' := by
  unfold chargeWallet at h
  split at h
  · next hnone =>
    cases h
    exact ⟨.inl ⟨hnone, rfl⟩, rfl, rfl, rfl, rfl, rfl, rfl⟩
  · next wallet hw =>
    simp only [eq_ok] at h
    obtain ⟨_, _, _, hld, charged, hch, _, htx, rfl⟩ := h
    obtain ⟨journal, hpos, has⟩ := postJournalTx_eq_ok hld
    exact ⟨.inr ⟨wallet, hw, ⟨journal, hpos, has.moves (linesNet_legacyUsageLines _ _ _),
      has.reversalOf⟩, ⟨charged, Wallet.moved_of_addAvailable hch, rfl⟩, _, htx⟩,
      rfl, rfl, rfl, rfl, rfl, rfl⟩

theorem bookUsage_eq_ok {currency : Currency} {amount : ℤ} {due : Bool}
    (h : bookUsage s log currency amount due operation? db = .ok db') :
    Billed s log db db' ∧ db'.promotions = db.promotions := by
  unfold bookUsage at h
  split at h
  · split at h
    · cases h
      exact ⟨⟨.inl ⟨rfl, rfl, rfl⟩, rfl, rfl, rfl, rfl, rfl⟩, rfl⟩
    · obtain ⟨⟨_, rfl⟩ | ⟨wallet, hch⟩, hpr, hfr⟩ := chargeWallet_eq_ok h
      · exact ⟨⟨.inl ⟨rfl, rfl, rfl⟩, hfr⟩, hpr⟩
      · exact ⟨⟨.inr ⟨wallet, amount, hch⟩, hfr⟩, hpr⟩
  · cases h
    exact ⟨⟨.inl ⟨rfl, rfl, rfl⟩, rfl, rfl, rfl, rfl, rfl⟩, rfl⟩

theorem settlePriced_eq_ok (h : settlePriced s log version st = .ok st') :
    ∃ operation? promotion result, PricesUsage s log version operation? promotion result st st' := by
  simp only [settlePriced, eq_ok] at h
  obtain ⟨operation?, hln, ⟨promotion, promotions, _⟩, hrd, result, hrs, snapshot,
    hsnt, _, hsn, record, hrec, ⟨written, usageRecords⟩, hwr, db, hbk,
    rfl⟩ := h
  obtain ⟨_, hpr⟩ := bookUsage_eq_ok hbk
  subst hpr
  exact ⟨operation?, promotion, result, hln, hrd, hrs, ⟨snapshot, hsnt, hsn⟩,
    ⟨record, written, usageRecords, hrec, hwr, hbk⟩, rfl⟩

theorem settlePricingUsage_cases (h : settlePricingUsage s log st = .ok st') :
    (400 ≤ log.statusCode ∨ log.pricingVersionId = none) ∧ settleUnpriced s log st = .ok st' ∨
      log.statusCode < 400 ∧ ∃ versionId version, log.pricingVersionId = some versionId ∧
        st.db.catalog.priceVersions.find? versionId = some version ∧
        settlePriced s log version st = .ok st' := by
  unfold settlePricingUsage at h
  split at h
  · next hfl => exact .inl ⟨.inl hfl, h⟩
  · next hst =>
    split at h
    · next hnone => exact .inl ⟨.inr hnone, h⟩
    · next versionId hvr =>
      simp only [eq_ok] at h
      obtain ⟨version, hf, hpr⟩ := h
      exact .inr ⟨not_le.mp hst, versionId, version, hvr, hf, hpr⟩

theorem settleUnpriced_eq_ok (h : settleUnpriced s log st = .ok st') :
    ∃ record written, unpricedRecord s log = .ok record ∧
      insertUsageRecord record st.db.usageRecords = .ok (written, st'.db.usageRecords) ∧
      st' = { st with db := { st.db with usageRecords := st'.db.usageRecords } } := by
  simp only [settleUnpriced, eq_ok] at h
  obtain ⟨record, hrec, ⟨written, usageRecords⟩, hwr, rfl⟩ := h
  exact ⟨record, written, hrec, hwr, rfl⟩

/-- Promotion is redeemed from the credits of the organization, or stays where it is. -/
def Redeems (s : Session) (log : RequestLog) (st st' : LoggedDb) : Prop :=
  st'.db.promotions = st.db.promotions ∧ st'.redemptions = st.redemptions ∨
    ∃ currency requested used, redeemPromotionCredits s log.organizationId currency requested log.requestId
      st.db.promotions st.redemptions = .ok (used, st'.db.promotions, st'.redemptions)

theorem PricesUsage.billed (h : PricesUsage s log version operation? promotion result st st') :
    Redeems s log st st' ∧ Billed s log st.db st'.db := by
  refine ⟨?_, ?_⟩
  · have hrd := h.redeemed
    unfold usagePromotion at hrd
    split at hrd
    · simp only [Except.ok.injEq, Prod.mk.injEq] at hrd
      exact .inl ⟨hrd.2.1.symm, hrd.2.2.symm⟩
    · split at hrd
      · simp only [bind_eq_ok] at hrd
        obtain ⟨_, _, hrem⟩ := hrd
        exact .inr ⟨_, _, _, hrem⟩
      · simp only [Except.ok.injEq, Prod.mk.injEq] at hrd
        exact .inl ⟨hrd.2.1.symm, hrd.2.2.symm⟩
  · obtain ⟨_, _, _, _, _, hbk⟩ := h.booked
    obtain ⟨⟨hchar, hfr⟩, _⟩ := bookUsage_eq_ok hbk
    refine ⟨?_, hfr.cash, hfr.operations, hfr.adjustments, hfr.payments, hfr.catalog⟩
    rcases hchar with hsame | ⟨wallet, amount, hch⟩
    · exact .inl hsame
    · exact .inr ⟨wallet, amount, hch.found, hch.posted, hch.wallets, hch.transactions⟩

/-- A logged request redeems promotion and charges a wallet, at most. -/
theorem insertScopedRequestLog_billed (h : insertScopedRequestLog s log st = .ok st') :
    Redeems s log st st' ∧ Billed s log st.db st'.db := by
  simp only [insertScopedRequestLog, bind_eq_ok] at h
  obtain ⟨_, _, _, _, h⟩ := h
  rcases settlePricingUsage_cases h with ⟨_, hun⟩ | ⟨_, _, _, _, _, hpr⟩
  · obtain ⟨_, _, _, _, hst⟩ := settleUnpriced_eq_ok hun
    rw [hst]
    exact ⟨.inl ⟨rfl, rfl⟩, .inl ⟨rfl, rfl, rfl⟩, rfl, rfl, rfl, rfl, rfl⟩
  · obtain ⟨_?, _, _, hprs⟩ := settlePriced_eq_ok hpr
    exact hprs.billed

/-- The small store before any request. -/
def demoLogged : LoggedDb := ⟨demoDb, .empty, .empty, .empty⟩

theorem demoLogged_genesis : LoggedGenesis demoLogged :=
  ⟨demoDb_genesis, rfl, rfl, rfl, rfl, by decide +kernel⟩

/-- The log of a successful request of the small store with a number of input tokens. -/
def demoLog (tokens : ℤ) (fundingOperationId : Option Uuid) : RequestLog where
  requestId := requestId
  organizationId := 1
  projectId := 1
  statusCode := 200
  tokens := ⟨tokens, 0, 0⟩
  pricingVersionId := some 1
  fundingOperationId := fundingOperationId
  promotionAmount := some 0
  taxRate := .blank
  exchangeRate := .blank

/-- The grant of a promotion credit of a number of units. -/
def demoGrant (idempotencyKey : String) (units : ℚ) : PromotionCreditRequest where
  organizationId := some 1
  currency := "USD"
  amountGranted := some (units / 10 ^ 12)
  idempotencyKey := idempotencyKey
  source := "campaign"
  expiresAt := none

end ModelDock.Store
