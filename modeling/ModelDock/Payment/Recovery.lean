import Mathlib.Data.Prod.Lex
import ModelDock.Relational.Scan
import ModelDock.Store.PaymentStatus

/-!
# The payment recovery worker

Each scan of a round takes the oldest hundred rows and goes on when something fails. `Recovery` adds the columns
only the scans read; adapters, due orders, times and identifiers are given by the surroundings.
-/

namespace ModelDock.Store

open Relational

/-- The store with the columns of orders and refunds that only the recovery reads. -/
structure Recovery where
  db : Db
  (paidAt updatedAt : Uuid → Timestamp)
  providerClosed : Uuid → Bool
  region : Uuid → String
  refundCreatedAt : Uuid → Timestamp

/-- A payment adapter as the recovery uses it: whether it closes a payment, and the status it reports for a
refund unless it fails. -/
structure Adapter where
  supportsClose : Bool
  closePayment : (platformOrderNo providerOrderNo : String) → Bool
  reconcilePayment : (platformOrderNo : String) → RefundOrder → Option String

/-- What the rounds of the worker find: the adapters that the registry resolves for a provider and a region,
the orders that are due, the time, and a session for each call. -/
structure Surroundings where
  resolve : (provider region : String) → Option Adapter
  due : ℕ → Uuid → Bool
  now : ℕ → Timestamp
  session : ℕ → Uuid → Session

/-- The order of a query: by a time, and then by the identifier. -/
def byTime (time : Uuid → Timestamp) (id : Uuid) : Timestamp ×ₗ Uuid := toLex (time id, id)

variable (limit : ℤ) (env : Surroundings) (n : ℕ) (r : Recovery) (order : RechargeOrder)

/-- The order waits for its credit. -/
def RechargeOrder.awaitsCredit : Bool := order.status = .paid

/-- The paid orders, oldest first. -/
def listRecoverableRechargeOrders : List RechargeOrder :=
  r.db.payments.rechargeOrders.scan RechargeOrder.awaitsCredit (byTime r.paidAt) (clamp limit)

/-- Credit an order. -/
def execCredit (call : Session × Uuid) (db : Db) : Except StoreError Db := creditPaidRecharge call.1 call.2 db

/-- The calls that credit the paid orders of a round. -/
def Surroundings.credits : List (Session × Uuid) :=
  (listRecoverableRechargeOrders 100 r).map fun order => (env.session n order.id, order.id)

/-- Credit the paid orders of a round. -/
def Recovery.credit : Recovery :=
  { r with db := run execCredit r.db (env.credits n r) }

/-- The order is due and not paid. -/
def Recovery.expires (id : Uuid) : Bool :=
  (r.db.payments.rechargeOrders.find? id).any fun order =>
    env.due n id && (order.status = .created || order.status = .pending)

/-- Let the due orders of a round expire. -/
def Recovery.expire : Recovery :=
  { r with
    db := expireRechargeOrders (env.due n) r.db
    updatedAt := fun id => if r.expires env n id then env.now n else r.updatedAt id }

/-- The order is expired and its provider has not closed it. -/
def Recovery.awaitsClose : Bool :=
  order.status = .expired && !r.providerClosed order.id

/-- The expired orders that are not closed, oldest first. -/
def listUnclosedExpiredRechargeOrders : List RechargeOrder :=
  r.db.payments.rechargeOrders.scan r.awaitsClose (byTime r.updatedAt) (clamp limit)

/-- Record that the provider has closed an order. -/
def markRechargeProviderClosed (now : Timestamp) (orderId : Uuid) (r : Recovery) : Except StoreError Recovery := do
  ensure ((r.db.payments.rechargeOrders.find? orderId).any r.awaitsClose) .paymentState
  return { r with
    providerClosed := Function.update r.providerClosed orderId true
    updatedAt := Function.update r.updatedAt orderId now }

/-- The adapter of an order closes it. -/
def Surroundings.closes (region : Uuid → String) (order : RechargeOrder) : Bool :=
  (env.resolve order.paymentProvider (region order.id)).any fun adapter =>
    adapter.supportsClose && adapter.closePayment order.platformOrderNo order.providerOrderNo

/-- Close an order with its provider, if there is an adapter that can. -/
def execClose (r : Recovery) : Except StoreError Recovery :=
  if env.closes r.region order then markRechargeProviderClosed (env.now n) order.id r else .ok r

/-- Close the expired orders of a round. -/
def Recovery.close : Recovery :=
  run (execClose env n) r (listUnclosedExpiredRechargeOrders 100 r)

/-- The refund waits for its provider. -/
def RefundOrder.awaitsProvider (refund : RefundOrder) : Bool := refund.status.isOpen

/-- The open refunds, oldest first. -/
def listRecoverableRefundOrders : List RefundOrder :=
  r.db.payments.refundOrders.scan RefundOrder.awaitsProvider (byTime r.refundCreatedAt) (clamp limit)

/-- The provider of a refund's order reports that the refund is paid. -/
def Surroundings.reports (region : Uuid → String) (refund : RefundOrder) (order : RechargeOrder) : Bool :=
  (env.resolve order.paymentProvider (region order.id)).any fun adapter =>
    adapter.reconcilePayment order.platformOrderNo refund = some "SUCCEEDED"

/-- Ask the provider of a refund that has a number there, and complete the refund if it is paid. -/
def execRefund (region : Uuid → String) (call : Session × RefundOrder) (db : Db) : Except StoreError Db :=
  match call.2.providerRefundNo, db.payments.rechargeOrders.find? call.2.rechargeOrderId with
  | some providerRefundNo, some order =>
    if providerRefundNo ≠ "" ∧ env.reports region call.2 order then
      completeRefund call.1 call.2.id providerRefundNo db
    else .ok db
  | _, _ => .ok db

/-- The calls that recover the open refunds of a round. -/
def Surroundings.refunds : List (Session × RefundOrder) :=
  (listRecoverableRefundOrders 100 r).map fun refund => (env.session n refund.id, refund)

/-- Recover the open refunds of a round. -/
def Recovery.refund : Recovery :=
  { r with db := run (execRefund env r.region) r.db (env.refunds n r) }

/-- One round of the worker. -/
def recover : Recovery :=
  (((r.credit env n).expire env n).close env n).refund env n

/-- The store at the start of each round. -/
def rounds (env : Surroundings) (r : Recovery) : ℕ → Recovery
  | 0 => r
  | n + 1 => recover env n (rounds env r n)

end ModelDock.Store
