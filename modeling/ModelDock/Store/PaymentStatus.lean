import ModelDock.Store.System

/-!
# Payment status besides webhooks

The calls besides webhooks that change the status of an order; none of them moves money.
-/

namespace ModelDock.Store

open Relational Table

/-- What a provider answers to a query. An answer with the amount text `0` states no amount. -/
structure PaymentResult where
  (providerOrderNo status : String)
  amount : Option ℤ
  currency : String

variable (orderId : Uuid) (result : PaymentResult) (order : RechargeOrder)

/-- The answer is about the order as it is stored. -/
def PaymentResult.matchesOrder : Bool :=
  result.providerOrderNo = order.providerOrderNo &&
    (result.amount = none || result.amount = some order.amount.units) &&
    (result.currency = "" || result.currency = order.currency.code)

/-- Apply an answer to its order. -/
def applyQueryStatus (status : String) (db : Db) : Db :=
  if status = "PAID" then
    if order.status = .created ∨ order.status = .pending ∨ order.status = .expired then
      { db with payments := db.payments.setOrderStatus order .paid }
    else db
  else if status = "FAILED" then
    if order.status = .created ∨ order.status = .pending then
      { db with payments := db.payments.setOrderStatus order .failed }
    else db
  else if status = "EXPIRED" then
    if order.status = .created ∨ order.status = .pending then
      { db with payments := db.payments.setOrderStatus order .expired }
    else db
  else db

/-- Record what a provider answered about an order. -/
def applyPaymentQueryResult (db : Db) : Except StoreError Db := do
  let order ← required (db.payments.rechargeOrders.find? orderId) .notFound
  ensure (result.matchesOrder order) .paymentMismatch
  return applyQueryStatus order (Text.toUpper result.status) db

/-- Record that an order could not be handed to its provider. -/
def markRechargeFailed (db : Db) : Db :=
  match db.payments.rechargeOrders.find? orderId with
  | none => db
  | some order =>
    if order.status = .created ∨ order.status = .pending then
      { db with payments := db.payments.setOrderStatus order .failed }
    else db

/-- Let an order expire if it is due and not paid. -/
def RechargeOrder.expire (due : Uuid → Bool) (order : RechargeOrder) : RechargeOrder :=
  if due order.id ∧ (order.status = .created ∨ order.status = .pending) then
    order.setStatus .expired
  else order

theorem RechargeOrder.expire_key (due : Uuid → Bool) (order : RechargeOrder) :
    Keyed.key (order.expire due) = Keyed.key order := by
  unfold RechargeOrder.expire
  split <;> rfl

/-- Let orders expire. Which orders are due, not locked and within the limit is given. -/
def expireRechargeOrders (due : Uuid → Bool) (db : Db) : Db :=
  { db with payments := { db.payments with
    rechargeOrders := db.payments.rechargeOrders.rewrite (RechargeOrder.expire due)
      (RechargeOrder.expire_key due) } }

/-- A call in a history of payments. -/
inductive PaymentCall
  | store (call : Call)
  | applyPaymentQueryResult (orderId : Uuid) (result : PaymentResult)
  | markRechargeFailed (orderId : Uuid)
  | expireRechargeOrders (due : Uuid → Bool)

/-- Run one call in its session. -/
def execPayment (invocation : Session × PaymentCall) (db : Db) : Except StoreError Db :=
  match invocation.2 with
  | .store call => exec (invocation.1, call) db
  | .applyPaymentQueryResult orderId result => applyPaymentQueryResult orderId result db
  | .markRechargeFailed orderId => .ok (markRechargeFailed orderId db)
  | .expireRechargeOrders due => .ok (expireRechargeOrders due db)

variable {s : Session} {order : RechargeOrder} {db db' : Db}

theorem applyQueryStatus_cases (order : RechargeOrder) (status : String) (db : Db) :
    applyQueryStatus order status db = db ∨ ∃ status' : RechargeStatus,
      order.status.isCredited = false ∧ status'.isCredited = false ∧
      applyQueryStatus order status db =
        { db with payments := db.payments.setOrderStatus order status' } := by
  have hopen {a b : RechargeStatus} (h : order.status = a ∨ order.status = b)
      (ha : a.isCredited = false) (hb : b.isCredited = false) : order.status.isCredited = false := by
    rcases h with h | h <;> rw [h] <;> assumption
  unfold applyQueryStatus
  split
  · split
    · next hbef =>
      refine .inr ⟨.paid, ?_, rfl, rfl⟩
      rcases hbef with h | h
      · rw [h]
        rfl
      · exact hopen h rfl rfl
    · exact .inl rfl
  · split
    · split
      · next hbef => exact .inr ⟨.failed, hopen hbef rfl rfl, rfl, rfl⟩
      · exact .inl rfl
    · split
      · split
        · next hbef => exact .inr ⟨.expired, hopen hbef rfl rfl, rfl, rfl⟩
        · exact .inl rfl
      · exact .inl rfl

theorem applyPaymentQueryResult_quiet {orderId : Uuid} {result : PaymentResult}
    (h : applyPaymentQueryResult orderId result db = .ok db') : Quiet db db' := by
  simp only [applyPaymentQueryResult, eq_ok] at h
  obtain ⟨order, ho, _, _, rfl⟩ := h
  rcases applyQueryStatus_cases order (Text.toUpper result.status) db with hsame | ⟨status, hbef, haf, hmv⟩
  · rw [hsame]
    exact Quiet.refl db
  · rw [hmv]
    exact Quiet.of_order (found ho).1 hbef haf

theorem markRechargeFailed_quiet (db : Db) : Quiet db (markRechargeFailed orderId db) := by
  unfold markRechargeFailed
  split
  · exact Quiet.refl db
  · next order ho =>
    split
    · next hbef =>
      refine Quiet.of_order (found ho).1 ?_ rfl
      rcases hbef with h | h <;> rw [h] <;> rfl
    · exact Quiet.refl db

theorem expireRechargeOrders_quiet (due : Uuid → Bool) (db : Db) : Quiet db (expireRechargeOrders due db) := by
  have htm (order : RechargeOrder) : (order.expire due).terms = order.terms := by
    unfold RechargeOrder.expire
    split
    · next hdue =>
      rcases hdue.2 with h | h <;> simp [RechargeOrder.terms, RechargeOrder.setStatus, h, RechargeStatus.isCredited]
    · rfl
  exact { Quiet.refl db with
    rechargeOrders := view_rewrite (RechargeOrder.expire_key due) htm }

/-- A payment call is a step of the store or moves no money. -/
theorem execPayment_cases {call : PaymentCall} (h : execPayment (s, call) db = .ok db') :
    (∃ stored, call = .store stored ∧ Committed s db stored db') ∨ Quiet db db' := by
  cases call with
  | store stored => exact .inl ⟨stored, rfl, exec_committed h⟩
  | applyPaymentQueryResult orderId _ => exact .inr (applyPaymentQueryResult_quiet h)
  | markRechargeFailed orderId =>
    cases h
    exact .inr (markRechargeFailed_quiet orderId db)
  | expireRechargeOrders due =>
    cases h
    exact .inr (expireRechargeOrders_quiet due db)

end ModelDock.Store
