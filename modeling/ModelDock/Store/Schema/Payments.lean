import ModelDock.Store.Schema.Funding

/-!
# Recharge orders, refunds, payment events and reconciliation cases

Recharge orders, refunds, chargebacks and reconciliation cases. `Db` is the whole state of the money paths.
-/

namespace ModelDock.Store

open Relational

/-- The life of a recharge order. -/
inductive RechargeStatus
  | created
  | pending
  | paid
  | credited
  | failed
  | expired
  | refundPending
  | refunded
  | chargeback
deriving DecidableEq

/-- The money of the order has reached the wallet. -/
def RechargeStatus.isCredited (status : RechargeStatus) : Bool :=
  status = .credited || status = .refundPending || status = .refunded || status = .chargeback

/-- A row of `recharge_order`. -/
structure RechargeOrder where
  id : Uuid
  platformOrderNo : String
  (organizationId walletId : Uuid)
  (paymentProvider providerOrderNo : String)
  status : RechargeStatus
  amount : Money
  currency : Currency
  idempotencyKey : String
  (walletTransactionId ledgerJournalId : Option Uuid)
  creditedAt : Option Timestamp
  positive : 0 < amount.units

/-- Key columns of `recharge_order` that no update changes. -/
structure RechargeOrderKey where
  id : Uuid
  platformOrderNo : String
  organizationId : Uuid
  idempotencyKey : String
deriving DecidableEq

instance : Key RechargeOrderKey where
  id := RechargeOrderKey.id
  clash a b := a.id = b.id || a.platformOrderNo = b.platformOrderNo ||
    (a.organizationId = b.organizationId && a.idempotencyKey = b.idempotencyKey)

instance : Keyed RechargeOrder RechargeOrderKey where
  key order := ⟨order.id, order.platformOrderNo, order.organizationId, order.idempotencyKey⟩

/-- The life of a refund order. -/
inductive RefundStatus
  | created
  | pending
  | succeeded
  | failed
  | closed
deriving DecidableEq

/-- The refund still waits for the provider's result. -/
def RefundStatus.isOpen (status : RefundStatus) : Bool := status = .created || status = .pending

/-- A row of `refund_order`. -/
structure RefundOrder where
  id : Uuid
  platformRefundNo : String
  rechargeOrderId : Uuid
  refundApplicationId : Option Uuid
  paymentProvider : String
  providerRefundNo : Option String
  status : RefundStatus
  amount : Money
  currency : Currency
  (reason idempotencyKey : String)
  (walletTransactionId ledgerJournalId : Option Uuid)
  failureCode : String
  positive : 0 < amount.units

/-- Key columns of `refund_order` that no update changes. -/
structure RefundOrderKey where
  id : Uuid
  platformRefundNo : String
  rechargeOrderId : Uuid
  idempotencyKey : String
deriving DecidableEq

instance : Key RefundOrderKey where
  id := RefundOrderKey.id
  clash a b := a.id = b.id || a.platformRefundNo = b.platformRefundNo ||
    (a.rechargeOrderId = b.rechargeOrderId && a.idempotencyKey = b.idempotencyKey)

instance : Keyed RefundOrder RefundOrderKey where
  key refund := ⟨refund.id, refund.platformRefundNo, refund.rechargeOrderId, refund.idempotencyKey⟩

/-- The life of a refund application. -/
inductive ApplicationStatus
  | submitted
  | underReview
  | approved
  | rejected
  | processing
  | completed
  | failed
  | canceled
deriving DecidableEq

/-- A row of `refund_application`, without the breakdown of its amount. A row names a recharge order or
a subscription invoice, which is its source type. -/
structure RefundApplication where
  (id organizationId : Uuid)
  (rechargeOrderId subscriptionInvoiceId : Option Uuid)
  requestedAmount : Money
  currency : Currency
  (reason idempotencyKey : String)
  status : ApplicationStatus
  refundOrderId : Option Uuid
  (requestedBy reviewedBy reviewReason : String)
  positive : 0 < requestedAmount.units

/-- Key columns of `refund_application`. -/
structure RefundApplicationKey where
  (id organizationId : Uuid)
  idempotencyKey : String
deriving DecidableEq

instance : Key RefundApplicationKey where
  id := RefundApplicationKey.id
  clash a b := a.id = b.id || (a.organizationId = b.organizationId && a.idempotencyKey = b.idempotencyKey)

instance : Keyed RefundApplication RefundApplicationKey where
  key application := ⟨application.id, application.organizationId, application.idempotencyKey⟩

/-- The verified result a payment provider reports. -/
inductive PaymentStatus
  | paid
  | failed
  | chargeback
  | other (text : String)
deriving DecidableEq

/-- A row of `payment_webhook_event`. -/
structure WebhookEvent where
  id : Uuid
  (paymentProvider providerEventId replayKey providerOrderNo : String)
  rechargeOrderId : Uuid
  paymentStatus : PaymentStatus
  amount : Money
  (currency rawBodySha256 : String)
  processed : Bool

/-- Key columns of `payment_webhook_event`. -/
structure WebhookEventKey where
  id : Uuid
  (paymentProvider providerEventId replayKey : String)
deriving DecidableEq

instance : Key WebhookEventKey where
  id := WebhookEventKey.id
  clash a b := a.id = b.id || (a.paymentProvider = b.paymentProvider &&
    (a.providerEventId = b.providerEventId || a.replayKey = b.replayKey))

instance : Keyed WebhookEvent WebhookEventKey where
  key event := ⟨event.id, event.paymentProvider, event.providerEventId, event.replayKey⟩

/-- The payment tables. -/
structure Payments where
  rechargeOrders : Table RechargeOrder
  refundOrders : Table RefundOrder
  refundApplications : Table RefundApplication
  webhookEvents : Table WebhookEvent

/-- The life of a reconciliation case. -/
inductive CaseStatus
  | opened
  | inReview
  | resolved
  | accepted
deriving DecidableEq

/-- The columns of `financial_reconciliation_case` that its resolution reads and writes. -/
structure ReconciliationCase where
  id : Uuid
  status : CaseStatus
  (organizationId rechargeOrderId fundingOperationId subscriptionInvoiceId : Option Uuid)
  (handledBy handlingReason : String)

instance : Keyed ReconciliationCase RowKey where
  key caseValue := ⟨caseValue.id⟩

/-- How an operator closes a case. -/
inductive ResolutionAction
  | acceptException
  | reverseJournal
deriving DecidableEq

/-- A row of `financial_reconciliation_resolution`. -/
structure Resolution where
  (id reconciliationCaseId : Uuid)
  action : ResolutionAction
  (sourceJournalId reversalJournalId : Option Uuid)
  (reason idempotencyKey resolvedBy : String)

/-- Key columns of `financial_reconciliation_resolution`. -/
structure ResolutionKey where
  (id reconciliationCaseId : Uuid)
  idempotencyKey : String
  reversalJournalId : Option Uuid
deriving DecidableEq

instance : Key ResolutionKey where
  id := ResolutionKey.id
  clash a b := a.id = b.id ||
    (a.reconciliationCaseId = b.reconciliationCaseId && a.idempotencyKey = b.idempotencyKey) ||
    sameValue a.reversalJournalId b.reversalJournalId

instance : Keyed Resolution ResolutionKey where
  key resolution := ⟨resolution.id, resolution.reconciliationCaseId, resolution.idempotencyKey,
    resolution.reversalJournalId⟩

/-- The reconciliation tables. -/
structure Reconciliation where
  cases : Table ReconciliationCase
  resolutions : Table Resolution

/-- Every table the money paths read or write. -/
structure Db where
  wallets : Table Wallet
  ledger : Ledger
  transactions : Table WalletTransaction
  cash : Cash
  promotions : Promotions
  operations : Table FundingOperation
  adjustments : Table UsageAdjustment
  usageRecords : Table UsageRecord
  budgets : Budgets
  shadowSpend : Table ShadowSpend
  payments : Payments
  reconciliation : Reconciliation
  catalog : Catalog

/-- The places where the code draws a fresh identifier; loops draw one for each item. -/
inductive Draw
  | operation
  | journal
  | releaseJournal
  | transaction
  | allocation (itemId : Uuid)
  | lotDebit (lotId : Uuid)
  | creditAllocation
  | lot
  | promotionAllocation (creditId : Uuid)
  | adjustment
  | budgetReservation
  | refund
  | event
  | resolution
  | requestLog
  | usageSnapshot
  | usageRecord
  | promotionCredit
  | redemption (creditId : Uuid)
  | refundApplication
  | invoiceApplication
  | rechargeItem (orderId : Uuid)
  | subscriptionItem (invoiceId : Uuid)
deriving DecidableEq

/-- What one call gets from outside the database: the time its transaction starts at, the
clock it reads itself, and the identifiers it draws. -/
structure Session where
  (now clock : Timestamp)
  uuid : Draw → Uuid

end ModelDock.Store
