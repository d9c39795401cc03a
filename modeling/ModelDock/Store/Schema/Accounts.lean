import ModelDock.Accounting.DoubleEntry
import ModelDock.Relational.Table
import ModelDock.Store.Amount

/-!
# Wallets, ledger accounts, journals and wallet transactions

Rows carry the CHECK constraints of their tables as fields and their keys the UNIQUE ones. Keys that are texts
built from identifiers are values whose constructors are the formats. Columns no money path reads are left out.
-/

namespace ModelDock.Store

open Relational Accounting

/-- An INSERT that no constraint refuses. -/
abbrev Inserts {R K : Type} [Key K] [Keyed R K] (t : Table R) (row : R) (t' : Table R) : Prop :=
  t.insert row StoreError.uniqueViolation = .ok t'

/-- How an organization pays. -/
inductive BillingMode
  | prepaid
  | postpaid
deriving DecidableEq

/-- Whether a wallet may be used. -/
inductive WalletStatus
  | active
  | frozen
  | closed
deriving DecidableEq

/-- A row of `wallets`. -/
structure Wallet where
  (id organizationId : Uuid)
  currency : Currency
  billingMode : BillingMode
  status : WalletStatus
  availableBalance : Numeric
  (reservedBalance creditLimit riskLimit riskExposure : Money)
  creditEnforced : Bool

/-- Key columns of `wallets`. -/
structure WalletKey where
  (id organizationId : Uuid)
deriving DecidableEq

instance : Key WalletKey where
  id := WalletKey.id
  clash a b := a.id = b.id || a.organizationId = b.organizationId

instance : Keyed Wallet WalletKey where
  key wallet := ⟨wallet.id, wallet.organizationId⟩

/-- The two liability accounts of a wallet. -/
inductive WalletAccount
  | available
  | reserved
deriving DecidableEq

/-- The platform's own accounts. -/
inductive SystemAccount
  | cash
  | revenue
  | migrationEquity
  | adjustmentEquity
deriving DecidableEq

/-- An account key: `wallet:<id>:<kind>` or `system:<kind>:<currency>`. -/
inductive AccountKey
  | wallet (id : Uuid) (kind : WalletAccount)
  | system (kind : SystemAccount) (currency : Currency)
deriving DecidableEq

/-- The key of a wallet's account. -/
def walletAccountKey (walletId : Uuid) (kind : WalletAccount) : AccountKey := .wallet walletId kind

/-- The key of a platform account. -/
def systemAccountKey (kind : SystemAccount) (currency : Currency) : AccountKey := .system kind currency

/-- A row of `ledger_account`. -/
structure LedgerAccount where
  id : Uuid
  accountKey : AccountKey
  currency : Currency
  active : Bool

/-- Key columns of `ledger_account`. -/
structure LedgerAccountKey where
  id : Uuid
  accountKey : AccountKey
deriving DecidableEq

instance : Key LedgerAccountKey where
  id := LedgerAccountKey.id
  clash a b := a.id = b.id || a.accountKey = b.accountKey

instance : Keyed LedgerAccount LedgerAccountKey where
  key account := ⟨account.id, account.accountKey⟩

/-- The kind of a journal. -/
inductive JournalType
  | topup
  | adjustment
  | reservation
  | settlement
  | release
  | reversal
  | lateUsageAdjustment
  | paymentCredit
  | paymentRefund
  | reconciliationReversal
deriving DecidableEq

/-- Drafts collect entries; posted journals are final. -/
inductive JournalStatus
  | draft
  | posted
deriving DecidableEq

/-- An idempotency key of `wallet_transactions`; `text` is any key of another form. -/
inductive TransactionKey
  | fundingCharge (operationId : Uuid)
  | fundingLate (operationId : Uuid) (key : String)
  | fundingReversal (operationId : Uuid) (key : String)
  | recharge (orderId : Uuid)
  | chargeback (orderId : Uuid)
  | refund (refundId : Uuid)
  | reconciliation (caseId : Uuid) (key : String)
  | usage (requestId : String)
  | text (key : String)
deriving DecidableEq

/-- The external key of a journal. -/
inductive ExternalKey
  | reservation (operationId : Uuid)
  | settlement (operationId : Uuid)
  | release (operationId : Uuid)
  | late (operationId : Uuid) (key : String)
  | reversal (operationId : Uuid) (key : String)
  | walletTransaction (walletId : Uuid) (key : Option TransactionKey)
  | recharge (orderId : Uuid)
  | chargeback (orderId : Uuid)
  | refund (refundId : Uuid)
  | reconciliation (caseId : Uuid) (key : String)
  | legacyUsage (requestId : String)
deriving DecidableEq

/-- A row of `ledger_journal_entry`, kept with its journal. -/
structure JournalEntry where
  accountId : Uuid
  side : Side
  amount : Money
  description : String
  positive : 0 < amount.units

/-- An entry as a posting on its account. -/
def JournalEntry.posting (entry : JournalEntry) : Posting Uuid :=
  ⟨entry.accountId, entry.side, entry.amount.units⟩

/-- The condition the posting trigger enforces: equal totals, and not an empty journal. -/
def PostingAllowed (entries : List JournalEntry) : Prop :=
  total .debit (entries.map JournalEntry.posting) ≠ 0 ∧
    total .debit (entries.map JournalEntry.posting) < numericBound ∧
    Balanced (entries.map JournalEntry.posting)

instance (entries : List JournalEntry) : Decidable (PostingAllowed entries) :=
  inferInstanceAs (Decidable (_ ∧ _))

/-- A row of `ledger_journal` with its entries. -/
structure Journal where
  id : Uuid
  walletId : Option Uuid
  journalType : JournalType
  externalKey : ExternalKey
  currency : Currency
  status : JournalStatus
  (rechargeOrderId refundOrderId subscriptionInvoiceId reversalOfJournalId reconciliationCaseId : Option Uuid)
  entries : List JournalEntry
  balanced : status = .posted → PostingAllowed entries

/-- Key columns of `ledger_journal`. -/
structure JournalKey where
  id : Uuid
  externalKey : ExternalKey
  (rechargeOrderId refundOrderId subscriptionInvoiceId reversalOfJournalId reconciliationCaseId : Option Uuid)
deriving DecidableEq

instance : Key JournalKey where
  id := JournalKey.id
  clash a b := a.id = b.id || a.externalKey = b.externalKey ||
    sameValue a.rechargeOrderId b.rechargeOrderId || sameValue a.refundOrderId b.refundOrderId ||
    sameValue a.subscriptionInvoiceId b.subscriptionInvoiceId ||
    sameValue a.reversalOfJournalId b.reversalOfJournalId ||
    sameValue a.reconciliationCaseId b.reconciliationCaseId

instance : Keyed Journal JournalKey where
  key journal := ⟨journal.id, journal.externalKey, journal.rechargeOrderId, journal.refundOrderId,
    journal.subscriptionInvoiceId, journal.reversalOfJournalId, journal.reconciliationCaseId⟩

/-- The ledger tables. -/
structure Ledger where
  accounts : Table LedgerAccount
  journals : Table Journal

/-- The kind of a wallet transaction. -/
inductive TransactionType
  | topup
  | charge
  | refund
  | adjustment
  | credit
deriving DecidableEq

/-- A row of `wallet_transactions`. -/
structure WalletTransaction where
  (id walletId : Uuid)
  transactionType : TransactionType
  (amount balanceAfter : Numeric)
  idempotencyKey : Option TransactionKey
  reference : String
  (journalId fundingOperationId rechargeOrderId refundOrderId : Option Uuid)
  createdAt : Timestamp
  amount_ne_zero : amount.units ≠ 0

/-- Key columns of `wallet_transactions`. -/
structure TransactionRowKey where
  (id walletId : Uuid)
  idempotencyKey : Option TransactionKey
  (rechargeOrderId refundOrderId : Option Uuid)
deriving DecidableEq

instance : Key TransactionRowKey where
  id := TransactionRowKey.id
  clash a b := a.id = b.id || (a.walletId = b.walletId && sameValue a.idempotencyKey b.idempotencyKey) ||
    sameValue a.rechargeOrderId b.rechargeOrderId || sameValue a.refundOrderId b.refundOrderId

instance : Keyed WalletTransaction TransactionRowKey where
  key transaction := ⟨transaction.id, transaction.walletId, transaction.idempotencyKey,
    transaction.rechargeOrderId, transaction.refundOrderId⟩

end ModelDock.Store
