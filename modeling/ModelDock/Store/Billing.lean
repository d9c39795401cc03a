import ModelDock.Store.Books
import ModelDock.Store.CashLots

/-!
# Wallet settings and manual wallet transactions

A manual transaction moves the available balance against a platform account: a positive one opens a cash lot
that cannot be refunded, a negative one spends the oldest cash.
-/

namespace ModelDock.Store

open Relational Accounting

/-- The terms of a wallet an operator may write. -/
structure WalletSettings where
  billingMode : BillingMode
  (creditLimit riskLimit : ℤ)
  creditEnforced : Bool
  status : WalletStatus

variable (s : Session)

/-- Write the billing terms of a wallet. -/
def updateWallet (walletId : Uuid) (settings : WalletSettings) (db : Db) : Except StoreError Db := do
  let wallet ← required (db.wallets.find? walletId) .notFound
  let creditLimit ← money settings.creditLimit
  let riskLimit ← money settings.riskLimit
  return { db with wallets := db.wallets.replace { wallet with
    billingMode := settings.billingMode, creditLimit := creditLimit, riskLimit := riskLimit,
    creditEnforced := settings.creditEnforced, status := settings.status } }

/-- The arguments of a manual transaction. -/
structure WalletTransactionRequest where
  walletId : Uuid
  transactionType : TransactionType
  amount : ℤ
  idempotencyKey : Option TransactionKey
  reference : String

variable (request : WalletTransactionRequest) (walletId : Uuid) (currency : Currency)
  (transactionType : TransactionType)

/-- The platform account a manual transaction moves money against. -/
def counterpartKind : SystemAccount :=
  if transactionType = .topup then .cash else .adjustmentEquity

/-- The lines of a manual transaction. -/
def walletTransactionLines (amount : ℤ) : List JournalLine :=
  if 0 < amount then
    [⟨systemAccountKey (counterpartKind transactionType) currency, .debit, |amount|,
        "Wallet funding counterpart"⟩,
      ⟨walletAccountKey walletId .available, .credit, |amount|, "Increase wallet balance"⟩]
  else
    [⟨walletAccountKey walletId .available, .debit, |amount|, "Decrease wallet balance"⟩,
      ⟨systemAccountKey (counterpartKind transactionType) currency, .credit, |amount|,
        "Wallet adjustment counterpart"⟩]

/-- Open a lot for money that came in, or spend the oldest cash for money that left. -/
def moveTransactionCash (transactions : Table WalletTransaction) (cash : Cash) : Except StoreError Cash :=
  if 0 < request.amount then
    createCashLotTx s request.walletId none (s.uuid .transaction)
      (if request.transactionType = .topup then .topup else .adjustment)
      (.walletTransaction (s.uuid .transaction)) request.amount currency false cash
  else if request.amount < 0 then
    allocateCashDebitTx s transactions request.walletId (s.uuid .transaction) |request.amount| cash
  else .ok cash

/-- The row of a manual transaction. -/
def manualTransaction (balanceAfter : ℤ) : TransactionInput where
  id := s.uuid .transaction
  walletId := request.walletId
  transactionType := request.transactionType
  amount := request.amount
  balanceAfter := balanceAfter
  idempotencyKey := request.idempotencyKey
  reference := request.reference
  journalId := some (s.uuid .journal)

/-- Post a manual transaction whose idempotency key is new. -/
def postWalletTransaction (wallet : Wallet) (db : Db) : Except StoreError Db := do
  ensure (0 ≤ request.amount ∨
    0 ≤ wallet.availableBalance.units + request.amount + wallet.creditLimit.units) .walletUnavailable
  let wallet ← wallet.addAvailable request.amount
  let ledger ← postJournalTx (s.uuid .journal) request.walletId
    (if request.transactionType = .topup then .topup else .adjustment)
    (.walletTransaction request.walletId request.idempotencyKey) wallet.currency
    (walletTransactionLines request.walletId wallet.currency request.transactionType request.amount)
    db.ledger
  let transactions ← insertTransaction s
    (manualTransaction s request wallet.availableBalance.units) db.transactions
  let cash ← moveTransactionCash s request wallet.currency transactions db.cash
  return { db with
    wallets := db.wallets.replace wallet, ledger := ledger, transactions := transactions, cash := cash }

/-- The transaction of a wallet under an idempotency key. -/
def transactionByKey? (key : Option TransactionKey)
    (transactions : Table WalletTransaction) : Option WalletTransaction :=
  transactions.rows.find? fun row => row.walletId = walletId ∧ sameValue row.idempotencyKey key

/-- Post a manual transaction once for each idempotency key. -/
def createWalletTransaction (db : Db) : Except StoreError Db := do
  let wallet ← required (db.wallets.find? request.walletId) .notFound
  ensure (wallet.status = .active) .walletUnavailable
  match transactionByKey? request.walletId request.idempotencyKey db.transactions with
  | some existing =>
    ensure (existing.transactionType = request.transactionType ∧
      existing.amount.units = request.amount ∧ existing.reference = request.reference)
      .idempotencyConflict
    return db
  | none => postWalletTransaction s request wallet db

variable {s : Session} {request : WalletTransactionRequest} {wallet : Wallet} {db db' : Db}

theorem linesNet_walletTransactionLines (amount : ℤ) :
    LinesMove (walletTransactionLines walletId currency transactionType amount) walletId amount 0 := by
  rcases lt_or_ge 0 amount with hpos | hpos <;> rintro id (_ | _) <;>
    simp [walletTransactionLines, hpos, hpos.not_gt, abs_of_pos, abs_of_nonpos, walletAccountKey, systemAccountKey,
      JournalLine.posting, Posting.signed, perAccount, eq_comm]

/-- What a manual transaction writes, table by table. -/
structure PostsManual (s : Session) (request : WalletTransactionRequest) (db db' : Db) : Prop where
  transfer : Transfer s request.walletId request.amount
    (if request.transactionType = .topup then .topup else .adjustment)
    (.walletTransaction request.walletId request.idempotencyKey) db db'
  cash : ∃ currency, moveTransactionCash s request currency db'.transactions db.cash = .ok db'.cash
  operations : db'.operations = db.operations
  promotions : db'.promotions = db.promotions
  adjustments : db'.adjustments = db.adjustments
  payments : db'.payments = db.payments
  catalog : db'.catalog = db.catalog

/-- What a manual transaction writes. -/
theorem postWalletTransaction_eq_ok (hw : db.wallets.find? request.walletId = some wallet)
    (h : postWalletTransaction s request wallet db = .ok db') : PostsManual s request db db' := by
  simp only [postWalletTransaction, eq_ok] at h
  obtain ⟨_, _, _, hw', _, hld, _, htx, _, hcash, rfl⟩ := h
  exact ⟨Transfer.of_writes hld (linesNet_walletTransactionLines _ _ _ _) hw
    (Wallet.moved_of_addAvailable hw') rfl htx ⟨rfl, rfl, rfl, rfl, rfl⟩, ⟨_, hcash⟩,
    rfl, rfl, rfl, rfl, rfl⟩

end ModelDock.Store
