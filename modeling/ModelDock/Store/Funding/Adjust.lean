import ModelDock.Store.Books
import ModelDock.Store.Funding.Settle

/-!
# Late usage and reversal

After settlement, `adjustLateFundingUsage` charges or refunds the difference to a corrected usage, and
`reverseFunding` refunds the settled amount, both from the debits of the operation's first charge.
-/

namespace ModelDock.Store

open Relational Accounting Pricing

/-- The arguments of a late usage report. -/
structure LateUsageRequest where
  operationId : Uuid
  idempotencyKey : String
  tokens : Tokens
  usageSource : String

/-- The oldest transaction that charged an operation. -/
def chargeTransaction? (operationId : Uuid) (transactions : Table WalletTransaction) : Option WalletTransaction :=
  (Table.oldestFirst WalletTransaction.createdAt (transactions.rows.filter fun row =>
    row.fundingOperationId = some operationId ∧ row.transactionType = .charge)).head?

variable (walletId : Uuid) (currency : Currency) (s : Session) (request : LateUsageRequest)
  (operation : FundingOperation) (amount : ℤ) (idempotencyKey reason : String) (difference : ℤ) (db : Db)

/-- The lines of a late usage journal. -/
def lateLines : List JournalLine :=
  if 0 < difference then
    [⟨walletAccountKey walletId .available, .debit, |difference|, "Late usage debit"⟩,
      ⟨systemAccountKey .revenue currency, .credit, |difference|, "Late usage revenue"⟩]
  else
    [⟨systemAccountKey .revenue currency, .debit, |difference|, "Reverse estimated revenue"⟩,
      ⟨walletAccountKey walletId .available, .credit, |difference|, "Late usage refund"⟩]

/-- Charge a late difference to the wallet; an enforced wallet above its risk limit is frozen. -/
def Wallet.chargeLate (wallet : Wallet) (difference : ℤ) : Except StoreError Wallet :=
  wallet.setBalances (wallet.availableBalance.units - difference) wallet.reservedBalance.units
    (max (wallet.riskExposure.units + difference) 0)
    (if 0 < difference ∧ (wallet.billingMode = .prepaid ∨ wallet.creditEnforced) ∧
        wallet.riskLimit.units < max (wallet.riskExposure.units + difference) 0
      then .frozen else wallet.status)

/-- Spend a late charge from the oldest cash, or restore a late refund from the first charge. -/
def moveLateCash (transactions : Table WalletTransaction) (cash : Cash) : Except StoreError Cash :=
  if 0 < difference then
    allocateCashDebitTx s transactions operation.walletId (s.uuid .transaction) difference cash
  else do
    let source ← required (chargeTransaction? operation.id transactions) .noRows
    restoreCashAllocationTx s transactions operation.walletId source.id (s.uuid .transaction)
      |difference| cash

/-- The transaction row of a late difference. -/
def lateTransaction (difference balanceAfter : ℤ) : TransactionInput where
  id := s.uuid .transaction
  walletId := operation.walletId
  transactionType := if difference < 0 then .refund else .charge
  amount := -difference
  balanceAfter := balanceAfter
  idempotencyKey := some (.fundingLate operation.id request.idempotencyKey)
  reference := operation.requestId
  journalId := some (s.uuid .journal)

/-- Move a late difference: journal, wallet, transaction and cash. -/
def postLate : Except StoreError Db := do
  let ledger ← postJournalTx (s.uuid .journal) operation.walletId .lateUsageAdjustment
    (.late operation.id request.idempotencyKey) operation.currency
    (lateLines operation.walletId operation.currency difference) db.ledger
  let wallet ← required (db.wallets.find? operation.walletId) .noRows
  let wallet ← wallet.chargeLate difference
  let transactions ← insertTransaction s
    (lateTransaction s request operation difference wallet.availableBalance.units) db.transactions
  let cash ← moveLateCash s operation difference transactions db.cash
  return { db with
    wallets := db.wallets.replace wallet, ledger := ledger, transactions := transactions, cash := cash }

/-- Move a late difference unless there is none. -/
def postDifference : Except StoreError Db :=
  if difference ≠ 0 then postLate s request operation difference db else .ok db

/-- Write the corrected usage and amount of an operation. -/
def FundingOperation.correct (s : Session) (request : LateUsageRequest) (corrected : Money) : FundingOperation :=
  { operation with
    status := if corrected.units = 0 then .released else .settled
    settledAmount := corrected
    actualInputTokens := some request.tokens.input
    actualCachedInputTokens := some request.tokens.cached
    actualOutputTokens := some request.tokens.output
    usageSource := request.usageSource
    settledAt := if 0 < corrected.units then some s.now else operation.settledAt }

/-- Apply a late usage report that is new. -/
def adjustNew : Except StoreError (FundingOperation × Db) := do
  let amounts ← operation.amounts request.tokens db.catalog
  ensure (amounts.1 < numericBound) .invalidDecimal
  let difference := amounts.1 - operation.settledAmount.units
  let moved ← postDifference s request operation difference db
  let corrected ← money amounts.1
  let differenceAmount ← numeric difference
  let adjustments ← moved.adjustments.insert
    { id := s.uuid .adjustment, operationId := operation.id, idempotencyKey := request.idempotencyKey
      inputTokens := request.tokens.input, cachedInputTokens := request.tokens.cached
      outputTokens := request.tokens.output, previousAmount := operation.settledAmount
      correctedAmount := corrected, differenceAmount := differenceAmount
      usageSource := request.usageSource
      journalId := if difference ≠ 0 then some (s.uuid .journal) else none } .uniqueViolation
  let adjusted := operation.correct s request corrected
  return (adjusted, { moved with
    adjustments := adjustments, operations := moved.operations.replace adjusted,
    usageRecords := setUsageStatus operation.id (if corrected.units = 0 then .waived else .charged)
      moved.usageRecords })

/-- Correct the usage of an operation that is not in flight. -/
def adjustLateFundingUsage : Except StoreError (FundingOperation × Db) := do
  ensure (request.idempotencyKey ≠ "" ∧ request.tokens.Valid) .invalidLateUsage
  let operation ← required (db.operations.find? request.operationId) .notFound
  ensure (operation.status.isOpen = false) .fundingInProgress
  if db.adjustments.rows.any fun row =>
      row.operationId = operation.id && row.idempotencyKey = request.idempotencyKey then
    return (operation, db)
  else adjustNew s request operation db

/-- The usage was reported under this key before, so the call changes nothing. -/
def LateUsageRequest.replayed : Bool :=
  db.adjustments.rows.any fun row =>
    row.operationId = request.operationId && row.idempotencyKey = request.idempotencyKey

/-- The lines of a reversal journal. -/
def reversalLines : List JournalLine :=
  [⟨systemAccountKey .revenue currency, .debit, amount, "Reverse usage revenue"⟩,
    ⟨walletAccountKey walletId .available, .credit, amount, "Refund settled usage"⟩]

/-- Mark an operation reversed and take the returned promotion off its consumed promotion. -/
def FundingOperation.reverse (reversedPromotion : ℤ) : Except StoreError FundingOperation := do
  let consumed ← money (max (operation.consumedPromotionAmount.units - reversedPromotion) 0)
  if h : consumed.units ≤ operation.promotionAmount.units then
    return { operation with
      status := .reversed, consumedPromotionAmount := consumed, consumed_le := h }
  else throw .checkViolation

/-- The transaction row of a reversal. -/
def reversalTransaction (balanceAfter : ℤ) : TransactionInput where
  id := s.uuid .transaction
  walletId := operation.walletId
  transactionType := .refund
  amount := operation.settledAmount.units
  balanceAfter := balanceAfter
  idempotencyKey := some (.fundingReversal operation.id idempotencyKey)
  reference := reason
  journalId := some (s.uuid .journal)

/-- Refund the settled amount of an operation that is not reversed. -/
def reverseSettled : Except StoreError (FundingOperation × Db) := do
  let amount := operation.settledAmount.units
  let ledger ← postJournalTx (s.uuid .journal) operation.walletId .reversal
    (.reversal operation.id idempotencyKey) operation.currency
    (reversalLines operation.walletId operation.currency amount) db.ledger
  let wallet ← required (db.wallets.find? operation.walletId) .noRows
  let wallet ← wallet.addAvailable amount
  let transactions ← insertTransaction s
    (reversalTransaction s operation idempotencyKey reason wallet.availableBalance.units) db.transactions
  let source ← required (chargeTransaction? operation.id transactions) .noRows
  let cash ← restoreCashAllocationTx s transactions operation.walletId source.id
    (s.uuid .transaction) amount db.cash
  let (reversed, promotions) ← reversePromotionTx s operation.id
    operation.consumedPromotionAmount.units db.promotions
  let reversedOperation ← operation.reverse reversed
  return (reversedOperation, { db with
    wallets := db.wallets.replace wallet, ledger := ledger, transactions := transactions, cash := cash,
    promotions := promotions, operations := db.operations.replace reversedOperation,
    usageRecords := setUsageStatus operation.id .refunded db.usageRecords })

/-- Refund a settled operation in full. -/
def reverseFunding (operationId : Uuid) (idempotencyKey reason : String) (db : Db) :
    Except StoreError (FundingOperation × Db) := do
  ensure (idempotencyKey ≠ "" ∧ Text.isBlank reason = false) .reversalReasonRequired
  let operation ← required (db.operations.find? operationId) .notFound
  if operation.status = .reversed then return (operation, db)
  else
    ensure (0 < operation.settledAmount.units) .fundingTerminal
    reverseSettled s operation idempotencyKey reason db

variable {s : Session} {request : LateUsageRequest} {op adjusted reversed : FundingOperation}
  {difference : ℤ} {idempotencyKey reason : String} {db db' : Db}

theorem linesNet_lateLines (difference : ℤ) :
    LinesMove (lateLines walletId currency difference) walletId (-difference) 0 := by
  rcases lt_or_ge 0 difference with hpos | hpos <;> rintro id (_ | _) <;>
    simp [lateLines, hpos, hpos.not_gt, abs_of_pos, abs_of_nonpos, walletAccountKey, systemAccountKey,
      JournalLine.posting, Posting.signed, perAccount, eq_comm]

theorem Wallet.moved_of_settle {wallet wallet' : Wallet} {maximum actual : ℤ}
    (h : wallet.settle maximum actual = .ok wallet') : wallet.Moved (maximum - actual) (-maximum) wallet' :=
  Wallet.moved_of_setBalances h (by omega) (sub_eq_add_neg _ _)

/-- What a late usage report writes, table by table. -/
structure Adjusts (s : Session) (request : LateUsageRequest) (operation : FundingOperation)
    (corrected : Money) (db : Db) (adjusted : FundingOperation) (db' : Db) : Prop where
  priced : ∃ promotion, operation.amounts request.tokens db.catalog = .ok (corrected.units, promotion)
  moved : corrected = operation.settledAmount ∧ db'.wallets = db.wallets ∧ db'.ledger = db.ledger ∧
      db'.transactions = db.transactions ∧ db'.cash = db.cash ∨
    corrected ≠ operation.settledAmount ∧
      Transfer s operation.walletId (operation.settledAmount.units - corrected.units)
        .lateUsageAdjustment (.late operation.id request.idempotencyKey) db db' ∧
      moveLateCash s operation (corrected.units - operation.settledAmount.units) db'.transactions
        db.cash = .ok db'.cash
  written : adjusted = operation.correct s request corrected
  operations : db'.operations = db.operations.replace adjusted
  adjustments : ∃ row, row.id = s.uuid .adjustment ∧ row.operationId = operation.id ∧
    row.idempotencyKey = request.idempotencyKey ∧
    db.adjustments.insert row StoreError.uniqueViolation = .ok db'.adjustments
  promotions : db'.promotions = db.promotions
  payments : db'.payments = db.payments
  catalog : db'.catalog = db.catalog

/-- What an adjustment with a new key writes. -/
theorem adjustNew_eq_ok (h : adjustNew s request op db = .ok (adjusted, db')) :
    ∃ corrected, Adjusts s request op corrected db adjusted db' := by
  simp only [adjustNew, eq_ok, money_eq_ok] at h
  obtain ⟨⟨amount, promotion⟩, hpric, _, _, moved, hmv, corrected, hcr, _,
    _, _, hadj, rfl, rfl⟩ := h
  have hpr : op.amounts request.tokens db.catalog = .ok (corrected.units, promotion) := by
    rw [hcr]
    exact hpric
  have hu : amount = corrected.units := hcr.symm
  subst hu
  unfold postDifference at hmv
  split at hmv
  · next hne =>
    simp only [postLate, eq_ok] at hmv
    obtain ⟨_, hld, wallet, hw, wallet', hw', _, htx, _, hcash, rfl⟩ := hmv
    have hbl := Wallet.moved_of_setBalances hw' (sub_eq_add_neg _ _) (add_zero _).symm
    refine ⟨corrected, ⟨promotion, hpr⟩, .inr ⟨?_, ?_, hcash⟩, rfl, rfl, ⟨_, rfl, rfl, rfl, hadj⟩,
      rfl, rfl, rfl⟩
    · rintro rfl
      exact hne (sub_self _)
    · rw [← neg_sub]
      exact Transfer.of_writes hld (linesNet_lateLines _ _ _) hw hbl rfl htx
        ⟨rfl, rfl, rfl, rfl, rfl⟩
  · next heq =>
    cases hmv
    have hsame : corrected = op.settledAmount := Money.ext (by simpa [sub_eq_zero] using heq)
    exact ⟨corrected, ⟨promotion, hpr⟩, .inl ⟨hsame, rfl, rfl, rfl, rfl⟩, rfl, rfl,
      ⟨_, rfl, rfl, rfl, hadj⟩, rfl, rfl, rfl⟩

theorem adjustNew_of_posted {corrected : Money} {promotion : ℤ} {moved : Db}
    (ham : op.amounts request.tokens db.catalog = .ok (corrected.units, promotion))
    (hmv : postDifference s request op (corrected.units - op.settledAmount.units) db =
      .ok moved)
    (hadj : moved.adjustments = db.adjustments) (hid : op.id = request.operationId)
    (hnew : request.replayed db = false)
    (hfr : ∀ row ∈ db.adjustments.rows, row.id ≠ s.uuid .adjustment) :
    ∃ st, adjustNew s request op db = .ok (op.correct s request corrected, st) ∧
      st.wallets = moved.wallets := by
  have hdf : -numericBound < corrected.units - op.settledAmount.units ∧
      corrected.units - op.settledAmount.units < numericBound := by
    have := corrected.nonneg
    have := corrected.fits
    have := op.settledAmount.nonneg
    have := op.settledAmount.fits
    omega
  obtain ⟨adjustments, hins⟩ : ∃ adjustments, moved.adjustments.insert
      { id := s.uuid .adjustment, operationId := op.id, idempotencyKey := request.idempotencyKey
        inputTokens := request.tokens.input, cachedInputTokens := request.tokens.cached
        outputTokens := request.tokens.output, previousAmount := op.settledAmount
        correctedAmount := corrected, differenceAmount := ⟨_, hdf⟩
        usageSource := request.usageSource
        journalId := if corrected.units - op.settledAmount.units ≠ 0 then some (s.uuid .journal)
          else none } StoreError.uniqueViolation = .ok adjustments := by
    refine Table.insert_succeeds (fun row hrow => ?_) _
    rw [hadj] at hrow
    -- Neither the drawn identifier nor the pair of operation and key is stored.
    have hkey : ¬(row.operationId = request.operationId ∧ row.idempotencyKey = request.idempotencyKey) := by
      simpa [LateUsageRequest.replayed] using List.any_eq_false.mp hnew row hrow
    simp only [Key.clash, Keyed.key, Bool.or_eq_false_iff]
    grind
  have hwr : ∃ operations usageRecords, adjustNew s request op db =
      .ok (op.correct s request corrected, { moved with
        adjustments := adjustments, operations := operations, usageRecords := usageRecords }) := by
    simp only [adjustNew, eq_ok, Prod.mk.injEq]
    exact ⟨_, _, _, ham, (), corrected.fits, moved, hmv, corrected, money_eq_ok.mpr rfl, _,
      numeric_of_range hdf, adjustments, hins, rfl, rfl⟩
  obtain ⟨operations, usageRecords, hwr⟩ := hwr
  exact ⟨_, hwr, rfl⟩

theorem linesNet_reversalLines : LinesMove (reversalLines walletId currency amount) walletId amount 0 := by
  rintro id (_ | _) <;> simp [reversalLines, walletAccountKey, systemAccountKey, JournalLine.posting,
    Posting.signed, perAccount, eq_comm]

/-- What a reversal writes, table by table. -/
structure Reverses (s : Session) (operation : FundingOperation) (idempotencyKey : String)
    (db : Db) (reversed : FundingOperation) (db' : Db) : Prop where
  transfer : Transfer s operation.walletId operation.settledAmount.units .reversal
    (.reversal operation.id idempotencyKey) db db'
  cash : ∃ source, chargeTransaction? operation.id db'.transactions = some source ∧
    restoreCashAllocationTx s db'.transactions operation.walletId source.id (s.uuid .transaction)
      operation.settledAmount.units db.cash = .ok db'.cash
  promotions : ∃ returned, reversePromotionTx s operation.id operation.consumedPromotionAmount.units
    db.promotions = .ok (returned, db'.promotions) ∧ operation.reverse returned = .ok reversed
  operations : db'.operations = db.operations.replace reversed
  adjustments : db'.adjustments = db.adjustments
  payments : db'.payments = db.payments
  catalog : db'.catalog = db.catalog

/-- What the reversal of a settled operation writes. -/
theorem reverseSettled_eq_ok (h : reverseSettled s op idempotencyKey reason db = .ok (reversed, db')) :
    Reverses s op idempotencyKey db reversed db' := by
  simp only [reverseSettled, eq_ok] at h
  obtain ⟨_, hld, _, hw, _, hw', _, htx, source,
    hsr, _, hcash, ⟨returned, _⟩, hpr, _, hop, rfl, rfl⟩ := h
  exact ⟨Transfer.of_writes hld (linesNet_reversalLines _ _ _) hw
    (Wallet.moved_of_addAvailable hw') rfl htx ⟨rfl, rfl, rfl, rfl, rfl⟩,
    ⟨source, hsr, hcash⟩, ⟨returned, hpr, hop⟩, rfl, rfl, rfl, rfl⟩

theorem FundingOperation.reverse_eq_ok {returned : ℤ} (h : op.reverse returned = .ok reversed) :
    ∃ consumed hcn, consumed.units = max (op.consumedPromotionAmount.units - returned) 0 ∧
      reversed = { op with
        status := .reversed, consumedPromotionAmount := consumed, consumed_le := hcn } := by
  simp only [FundingOperation.reverse, eq_ok, money_eq_ok] at h
  obtain ⟨consumed, hcn, hle, rfl⟩ := h
  exact ⟨consumed, hle, hcn, rfl⟩

end ModelDock.Store
