import ModelDock.Store.PaymentStatus
import ModelDock.Store.Schema.Finance

/-!
# Refund applications and invoice applications

Refund and invoice applications draw on what was paid, each with a query of its own. A finance history is a
history of payments with these calls among its own.
-/

namespace ModelDock.Store

open Relational

/-- The application still stands. -/
def InvoiceStatus.isLive (status : InvoiceStatus) : Bool := status ≠ .rejected && status ≠ .canceled

/-- The application was not turned down and its refund did not fail. -/
def ApplicationStatus.isLive (status : ApplicationStatus) : Bool :=
  status ≠ .rejected && status ≠ .canceled && status ≠ .failed

/-- The payment a refund application is for. -/
def RefundApplication.source? (application : RefundApplication) : Option PaymentSource :=
  match application.rechargeOrderId, application.subscriptionInvoiceId with
  | some orderId, _ => some (.recharge orderId)
  | none, some invoiceId => some (.subscription invoiceId)
  | none, none => none

variable (s : Session) (st : FinanceDb)

/-- The invoice application of an item still stands. -/
def FinanceDb.isLiveItem (item : InvoiceItem) : Bool :=
  (st.invoiceApplications.find? item.invoiceApplicationId).any fun application =>
    application.status.isLive

variable (payments : Payments) (source : PaymentSource)

/-- What standing invoices attribute to a payment. -/
def FinanceDb.invoiced : ℤ :=
  st.invoiceItems.sum fun item =>
    if item.source = source ∧ st.isLiveItem item then item.amount.units else 0

/-- What standing refund applications ask of a payment. -/
def Payments.applied : ℤ :=
  payments.refundApplications.sum fun application =>
    if application.source? = some source ∧ application.status.isLive
    then application.requestedAmount.units else 0

/-- The arguments of a refund application. An amount that is no number is absent. -/
structure CreateRefundApplicationRequest where
  organizationId : Option Uuid
  sourceType : String
  (rechargeOrderId subscriptionInvoiceId : Option Uuid)
  amount : Option ℤ
  (reason idempotencyKey requestedBy : String)

variable (request : CreateRefundApplicationRequest) (organizationId : Uuid)

/-- The text of a payment's kind. -/
def PaymentSource.sourceType : PaymentSource → String
  | .recharge _ => "RECHARGE"
  | .subscription _ => "SUBSCRIPTION"

/-- The cash left on the lot of a recharge order; an order without a lot has none. -/
def Cash.refundableOn (cash : Cash) (orderId : Uuid) : ℤ :=
  match cash.lots.rows.find? fun lot => lot.rechargeOrderId = some orderId with
  | some lot => lot.remainingAmount.units
  | none => 0

/-- The payment a request names, its currency and what may at most be refunded of it. -/
def refundSource (st : FinanceDb) : Except StoreError (PaymentSource × Currency × ℤ) := do
  let sourceType := Text.toUpper (Text.trimSpace request.sourceType)
  if sourceType = "RECHARGE" then
    let orderId ← required request.rechargeOrderId .invalidTextRepresentation
    let order ← required (st.db.payments.rechargeOrders.find? orderId) .refundNotEligible
    ensure (order.organizationId = organizationId ∧
      (order.status = .credited ∨ order.status = .refundPending)) .refundNotEligible
    return (.recharge order.id, order.currency, st.db.cash.refundableOn order.id)
  else if sourceType = "SUBSCRIPTION" then
    let invoiceId ← required request.subscriptionInvoiceId .invalidTextRepresentation
    let invoice ← required (st.subscriptionInvoices.find? invoiceId) .refundNotEligible
    ensure (invoice.organizationId = organizationId ∧ invoice.status = .paid) .refundNotEligible
    return (.subscription invoice.id, invoice.currency, invoice.totalAmount.units)
  else throw .financeState

/-- The row of a new refund application. -/
def newRefundApplication (source : PaymentSource) (amount : ℤ) (currency : Currency) :
    Except StoreError RefundApplication := do
  let requestedAmount ← money amount
  if h : 0 < requestedAmount.units then
    return { id := s.uuid .refundApplication, organizationId := organizationId
             rechargeOrderId := match source with
               | .recharge orderId => some orderId
               | .subscription _ => none
             subscriptionInvoiceId := match source with
               | .recharge _ => none
               | .subscription invoiceId => some invoiceId
             requestedAmount := requestedAmount, currency := currency
             reason := Text.trimSpace request.reason, idempotencyKey := request.idempotencyKey
             status := .submitted, refundOrderId := none, requestedBy := request.requestedBy
             reviewedBy := "", reviewReason := "", positive := h }
  else throw .checkViolation

/-- Replace the refund applications. -/
def FinanceDb.setApplications (applications : Table RefundApplication) : FinanceDb :=
  { st with db := { st.db with payments := { st.db.payments with refundApplications := applications } } }

/-- Submit a refund application whose idempotency key is new. -/
def submitRefundApplication (amount : ℤ) (st : FinanceDb) :
    Except StoreError (RefundApplication × FinanceDb) := do
  let (source, currency, refundable) ← refundSource request organizationId st
  ensure (amount + (st.db.payments.applied source + st.invoiced source) ≤ refundable) .refundNotEligible
  let application ← newRefundApplication s request organizationId source amount currency
  let applications ← st.db.payments.refundApplications.insert application .uniqueViolation
  return (application, st.setApplications applications)

/-- The same application was submitted before. -/
def RefundApplication.sameRequest (existing : RefundApplication)
    (request : CreateRefundApplicationRequest) (amount : ℤ) : Bool :=
  existing.source?.map PaymentSource.sourceType =
      some (Text.toUpper (Text.trimSpace request.sourceType)) &&
    existing.requestedAmount.units = amount && existing.reason = Text.trimSpace request.reason &&
    existing.rechargeOrderId = request.rechargeOrderId &&
    existing.subscriptionInvoiceId = request.subscriptionInvoiceId

/-- Submit a refund application once for each idempotency key; the flag says that it was repeated. -/
def createRefundApplication (st : FinanceDb) : Except StoreError ((RefundApplication × Bool) × FinanceDb) := do
  let amount ← required request.amount .financeState
  let organizationId ← required request.organizationId .financeState
  ensure (0 < amount ∧ request.requestedBy ≠ "" ∧ request.idempotencyKey ≠ "" ∧
    Text.isBlank request.reason = false) .financeState
  match st.db.payments.refundApplications.rows.find? fun row =>
      row.organizationId = organizationId ∧ row.idempotencyKey = request.idempotencyKey with
  | some existing =>
    ensure (existing.sameRequest request amount) .idempotencyConflict
    return ((existing, true), st)
  | none =>
    let (application, st) ← submitRefundApplication s request organizationId amount st
    return ((application, false), st)

/-- What an operator decided. -/
structure Decision where
  (decision reason idempotencyKey actor : String)

variable (applicationId : Uuid) (decision : Decision)

/-- The decision approves; anything but an approval or a rejection with a reason is refused. -/
def Decision.approves : Except StoreError Bool := do
  let verdict := Text.toUpper (Text.trimSpace decision.decision)
  ensure ((verdict = "APPROVE" ∨ verdict = "REJECT") ∧ Text.isBlank decision.reason = false ∧
    decision.idempotencyKey ≠ "" ∧ decision.actor ≠ "") .financeState
  return verdict = "APPROVE"

/-- Write a decision on a refund application. -/
def RefundApplication.decide (application : RefundApplication) (status : ApplicationStatus)
    (decision : Decision) : RefundApplication :=
  { application with
    status := status, reviewedBy := decision.actor, reviewReason := Text.trimSpace decision.reason }

/-- Decide a refund application. -/
def decideRefundApplication (st : FinanceDb) : Except StoreError FinanceDb := do
  let approve ← decision.approves
  let application ← required (st.db.payments.refundApplications.find? applicationId) .notFound
  let status : ApplicationStatus := if approve then .approved else .rejected
  if application.status = .approved ∨ application.status = .rejected then
    ensure (application.status = status ∧ application.reviewReason = Text.trimSpace decision.reason ∧
      application.reviewedBy = decision.actor) .idempotencyConflict
    return st
  else
    ensure (application.status = .submitted ∨ application.status = .underReview) .financeState
    return st.setApplications
      (st.db.payments.refundApplications.replace (application.decide status decision))

/-- The arguments of an invoice application. -/
structure CreateInvoiceApplicationRequest where
  organizationId : Option Uuid
  (invoiceTitle taxIdentifier : String)
  amount : Option ℤ
  currency : String
  (periodStart periodEnd : Day)
  (idempotencyKey requestedBy : String)

/-- A payment an invoice may be attributed to. -/
structure InvoiceSource where
  source : PaymentSource
  gross : ℤ
  paidAt : Timestamp

variable (currency : String) (start finish : Day)

/-- The point in time lies in a period of days. -/
def paidWithin (paidAt : Option Timestamp) : Bool :=
  paidAt.any fun time => start ≤ dayOf time && dayOf time ≤ finish

/-- What an order paid and its succeeded refunds did not take back. -/
def RechargeOrder.gross (order : RechargeOrder) (payments : Payments) : ℤ :=
  max (order.amount.units - payments.refundOrders.sum fun refund =>
    if refund.rechargeOrderId = order.id ∧ refund.status = .succeeded then refund.amount.units else 0) 0

/-- What a subscription invoice paid and completed refund applications did not give back. -/
def SubscriptionInvoice.gross (invoice : SubscriptionInvoice) (payments : Payments) : ℤ :=
  max (invoice.totalAmount.units - payments.refundApplications.sum fun application =>
    if application.subscriptionInvoiceId = some invoice.id ∧ application.status = .completed
    then application.requestedAmount.units else 0) 0

/-- The recharge orders of an organization that were credited in a period. -/
def FinanceDb.rechargeSources : List InvoiceSource :=
  (st.db.payments.rechargeOrders.rows.filter fun order =>
    order.organizationId = organizationId ∧ order.currency.code = currency ∧
      (order.status = .credited ∨ order.status = .refundPending ∨ order.status = .refunded) ∧
      paidWithin start finish order.creditedAt).map fun order =>
    ⟨.recharge order.id, order.gross st.db.payments, order.creditedAt.getD 0⟩

/-- The subscription invoices of an organization that were paid in a period. -/
def FinanceDb.subscriptionSources : List InvoiceSource :=
  (st.subscriptionInvoices.rows.filter fun invoice =>
    invoice.organizationId = organizationId ∧ invoice.currency.code = currency ∧
      invoice.status = .paid ∧ paidWithin start finish invoice.paidAt).map fun invoice =>
    ⟨.subscription invoice.id, invoice.gross st.db.payments, invoice.paidAt.getD 0⟩

/-- The payments of an organization in a period. -/
def FinanceDb.paidSources : List InvoiceSource :=
  st.rechargeSources organizationId currency start finish ++
    st.subscriptionSources organizationId currency start finish

/-- Two periods of days share a day. -/
def periodsOverlap (start finish start' finish' : Day) : Bool := start ≤ finish' && start' ≤ finish

/-- What standing invoices of overlapping periods attribute to an organization's payments. -/
def FinanceDb.claimedWithin : ℤ :=
  st.invoiceItems.sum fun item =>
    if item.currency.code = currency ∧
      ((st.invoiceApplications.find? item.invoiceApplicationId).any fun application =>
        application.organizationId = organizationId && application.status.isLive &&
          periodsOverlap application.periodStart application.periodEnd start finish)
    then item.amount.units else 0

/-- The number of a payment's row. -/
def PaymentSource.id : PaymentSource → Uuid
  | .recharge orderId => orderId
  | .subscription invoiceId => invoiceId

/-- The payments that have something left to invoice, oldest first. -/
def FinanceDb.openSources : List InvoiceSource :=
  ((st.paidSources organizationId currency start finish).filter fun source =>
    st.invoiced source.source < source.gross).insertionSort fun a b =>
      a.paidAt < b.paidAt ∨ a.paidAt = b.paidAt ∧ a.source.id ≤ b.source.id

/-- Where the identifier of an invoice item is drawn. -/
def PaymentSource.draw : PaymentSource → Draw
  | .recharge orderId => .rechargeItem orderId
  | .subscription invoiceId => .subscriptionItem invoiceId

/-- Attribute part of an invoice to a payment. -/
def attributeInvoice (currency : Currency) (items : Table InvoiceItem) (source : InvoiceSource) (units : ℤ) :
    Except StoreError (Table InvoiceItem) := do
  let amount ← money units
  if h : 0 < amount.units then
    items.insert ⟨s.uuid source.source.draw, applicationId, source.source, amount, currency, h⟩
      .uniqueViolation
  else throw .checkViolation

/-- The row of a new invoice application. -/
def newInvoiceApplication (request : CreateInvoiceApplicationRequest) (organizationId : Uuid)
    (amount : ℤ) (currency : String) : Except StoreError InvoiceApplication := do
  let amount ← money amount
  let currency ← required (currency? currency) .checkViolation
  if h : 0 < amount.units ∧ request.periodStart ≤ request.periodEnd then
    return { id := s.uuid .invoiceApplication, organizationId := organizationId
             invoiceTitle := Text.trimSpace request.invoiceTitle
             taxIdentifier := Text.trimSpace request.taxIdentifier
             amount := amount, currency := currency, periodStart := request.periodStart
             periodEnd := request.periodEnd, status := .submitted
             idempotencyKey := request.idempotencyKey, requestedBy := request.requestedBy
             processedBy := "", processingReason := "", positive := h.1, period := h.2 }
  else throw .checkViolation

/-- Submit an invoice application whose idempotency key is new. -/
def submitInvoiceApplication (request : CreateInvoiceApplicationRequest)
    (organizationId : Uuid) (amount : ℤ) (currency : String) (st : FinanceDb) :
    Except StoreError (InvoiceApplication × FinanceDb) := do
  let eligible := ((st.paidSources organizationId currency request.periodStart
    request.periodEnd).map InvoiceSource.gross).sum
  ensure (amount + st.claimedWithin organizationId currency request.periodStart request.periodEnd ≤
    eligible) .invoiceAmount
  let application ← newInvoiceApplication s request organizationId amount currency
  let applications ← st.invoiceApplications.insert application .uniqueViolation
  let (remaining, items) ← takeEach (fun source => source.gross - st.invoiced source.source)
    (attributeInvoice s application.id application.currency)
    (st.openSources organizationId currency request.periodStart request.periodEnd) amount st.invoiceItems
  ensure (remaining ≤ 0) .invoiceAmount
  return (application, { st with invoiceApplications := applications, invoiceItems := items })

/-- Submit an invoice application once for each idempotency key; the flag says that it was repeated. -/
def createInvoiceApplication (request : CreateInvoiceApplicationRequest) (st : FinanceDb) :
    Except StoreError ((InvoiceApplication × Bool) × FinanceDb) := do
  let amount ← required request.amount .financeState
  let organizationId ← required request.organizationId .financeState
  let currency := Text.toUpper (Text.trimSpace request.currency)
  ensure (0 < amount ∧ request.requestedBy ≠ "" ∧ request.idempotencyKey ≠ "" ∧
    Text.isBlank request.invoiceTitle = false ∧ currency.utf8ByteSize = 3 ∧
    request.periodStart ≤ request.periodEnd) .financeState
  match st.invoiceApplications.rows.find? fun row =>
      row.organizationId = organizationId ∧ row.idempotencyKey = request.idempotencyKey with
  | some existing =>
    ensure (existing.amount.units = amount ∧ existing.currency.code = currency ∧
      existing.invoiceTitle = Text.trimSpace request.invoiceTitle ∧
      existing.taxIdentifier = Text.trimSpace request.taxIdentifier ∧
      existing.periodStart = request.periodStart ∧ existing.periodEnd = request.periodEnd)
      .idempotencyConflict
    return ((existing, true), st)
  | none =>
    let (application, st) ← submitInvoiceApplication s request organizationId amount currency st
    return ((application, false), st)

/-- Write a decision on an invoice application. -/
def InvoiceApplication.decide (application : InvoiceApplication) (status : InvoiceStatus)
    (decision : Decision) : InvoiceApplication :=
  { application with
    status := status, processedBy := decision.actor
    processingReason := Text.trimSpace decision.reason }

/-- Decide an invoice application. -/
def decideInvoiceApplication (st : FinanceDb) : Except StoreError FinanceDb := do
  let approve ← decision.approves
  let application ← required (st.invoiceApplications.find? applicationId) .notFound
  let status : InvoiceStatus := if approve then .approved else .rejected
  if application.status = .approved ∨ application.status = .rejected then
    ensure (application.status = status ∧
      application.processingReason = Text.trimSpace decision.reason ∧
      application.processedBy = decision.actor) .idempotencyConflict
    return st
  else
    ensure (application.status = .submitted ∨ application.status = .underReview) .financeState
    return { st with
      invoiceApplications := st.invoiceApplications.replace (application.decide status decision) }

/-- A call in a finance history. -/
inductive FinanceCall
  | payment (call : PaymentCall)
  | createRefundApplication (request : CreateRefundApplicationRequest)
  | decideRefundApplication (applicationId : Uuid) (decision : Decision)
  | createInvoiceApplication (request : CreateInvoiceApplicationRequest)
  | decideInvoiceApplication (applicationId : Uuid) (decision : Decision)

/-- Run one call in its session. -/
def execFinance (invocation : Session × FinanceCall) (st : FinanceDb) : Except StoreError FinanceDb :=
  match invocation.2 with
  | .payment call => (execPayment (invocation.1, call) st.db).map fun db => { st with db := db }
  | .createRefundApplication request =>
    (createRefundApplication invocation.1 request st).map Prod.snd
  | .decideRefundApplication applicationId decision => decideRefundApplication applicationId decision st
  | .createInvoiceApplication request =>
    (createInvoiceApplication invocation.1 request st).map Prod.snd
  | .decideInvoiceApplication applicationId decision => decideInvoiceApplication applicationId decision st

end ModelDock.Store
