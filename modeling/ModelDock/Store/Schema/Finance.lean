import ModelDock.Store.Schema.Payments

/-!
# Invoices

An invoice application is attributed to the recharges and subscription invoices paid in its period. `FinanceDb`
is the store with these tables.
-/

namespace ModelDock.Store

open Relational

/-- A day in UTC. -/
abbrev Day := ℕ

/-- The day of a point in time. -/
def dayOf (time : Timestamp) : Day := time / 86400

/-- The life of an invoice application. -/
inductive InvoiceStatus
  | submitted
  | underReview
  | approved
  | rejected
  | exported
  | canceled
deriving DecidableEq

/-- A row of `invoice_application`. -/
structure InvoiceApplication where
  (id organizationId : Uuid)
  (invoiceTitle taxIdentifier : String)
  amount : Money
  currency : Currency
  (periodStart periodEnd : Day)
  status : InvoiceStatus
  (idempotencyKey requestedBy processedBy processingReason : String)
  positive : 0 < amount.units
  period : periodStart ≤ periodEnd

/-- Key columns of `invoice_application`. -/
structure InvoiceApplicationKey where
  (id organizationId : Uuid)
  idempotencyKey : String
deriving DecidableEq

instance : Key InvoiceApplicationKey where
  id := InvoiceApplicationKey.id
  clash a b := a.id = b.id || (a.organizationId = b.organizationId && a.idempotencyKey = b.idempotencyKey)

instance : Keyed InvoiceApplication InvoiceApplicationKey where
  key application := ⟨application.id, application.organizationId, application.idempotencyKey⟩

/-- The payment behind an invoice item or a refund application. -/
inductive PaymentSource
  | recharge (orderId : Uuid)
  | subscription (invoiceId : Uuid)
deriving DecidableEq

/-- A row of `invoice_application_item`. Its unique index spans a column that is always null, so only
the primary key is unique. -/
structure InvoiceItem where
  (id invoiceApplicationId : Uuid)
  source : PaymentSource
  amount : Money
  currency : Currency
  positive : 0 < amount.units

instance : Keyed InvoiceItem RowKey where
  key item := ⟨item.id⟩

/-- The life of a subscription invoice. -/
inductive SubscriptionInvoiceStatus
  | opened
  | paid
  | void
  | failed
  | uncollectible
deriving DecidableEq

/-- The columns of `subscription_invoice` that refunds and invoices read. -/
structure SubscriptionInvoice where
  (id organizationId : Uuid)
  status : SubscriptionInvoiceStatus
  totalAmount : Money
  currency : Currency
  paidAt : Option Timestamp

instance : Keyed SubscriptionInvoice RowKey where
  key invoice := ⟨invoice.id⟩

/-- The store with the invoice tables. -/
structure FinanceDb where
  db : Db
  invoiceApplications : Table InvoiceApplication
  invoiceItems : Table InvoiceItem
  subscriptionInvoices : Table SubscriptionInvoice

end ModelDock.Store
