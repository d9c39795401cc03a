import ModelDock.Store.Lifecycle
import ModelDock.Store.PaymentStatus

/-!
# The account of a recharge order

What a history does to one order is a walk of its status, what its refunds took back, and how many of them wait.
Every committed call makes at most one `OrderStep` at each order.
-/

namespace ModelDock.Store

open Relational Table RefundOrder RechargeOrder

/-- A total over the refunds of an order. -/
def refundSum (weight : RefundOrder → ℤ) (payments : Payments) (orderId : Uuid) : ℤ :=
  payments.refundOrders.sum fun refund => if refund.rechargeOrderId = orderId then weight refund else 0

variable (orderId : Uuid) (payments : Payments) (refund : RefundOrder)

/-- What a refund took from the wallet. -/
def RefundOrder.taken : ℤ :=
  if refund.status = .succeeded then refund.amount.units else 0

/-- Whether a refund waits for its result, as a number. -/
def RefundOrder.waiting : ℤ := if refund.status.isOpen then 1 else 0

/-- What was taken back for an order: its succeeded refunds, the one of a chargeback included. -/
def takenBack : ℤ := refundSum RefundOrder.taken payments orderId

/-- How many refunds of an order wait for a result. -/
def openRefunds : ℤ := refundSum RefundOrder.waiting payments orderId

variable {payments payments' : Payments} {refund refund' : RefundOrder} {weight : RefundOrder → ℤ}
  {orderId : Uuid}

theorem takenBack_nonneg (orderId : Uuid) (payments : Payments) : 0 ≤ takenBack orderId payments := by
  refine sum_nonneg fun refund _ => ?_
  unfold taken
  have hpos := refund.positive
  split <;> [split; skip] <;> omega

theorem openRefunds_nonneg (orderId : Uuid) (payments : Payments) : 0 ≤ openRefunds orderId payments := by
  refine sum_nonneg fun refund _ => ?_
  unfold RefundOrder.waiting
  split <;> [split; skip] <;> omega

theorem RefundOrder.taken_of_open (refund : RefundOrder) (hopen : refund.status.isOpen) :
    refund.taken = 0 := by
  refine if_neg fun hsuc => ?_
  rw [hsuc] at hopen
  cases hopen

theorem RefundOrder.waiting_of_open (refund : RefundOrder) (hopen : refund.status.isOpen) :
    refund.waiting = 1 := if_pos hopen

theorem RefundOrder.taken_terms (refund : RefundOrder) : refund.terms.taken = refund.taken := by
  unfold taken terms
  cases hst : refund.status <;> simp [RefundStatus.isOpen]

theorem RefundOrder.waiting_terms (refund : RefundOrder) : refund.terms.waiting = refund.waiting := by
  unfold waiting terms
  cases hst : refund.status <;> simp [RefundStatus.isOpen]

theorem refundSum_of_terms (hwg : ∀ refund : RefundOrder, weight refund.terms = weight refund)
    (h : payments'.refundOrders.view RefundOrder.terms = payments.refundOrders.view RefundOrder.terms)
    (orderId : Uuid) : refundSum weight payments' orderId = refundSum weight payments orderId := by
  have htm (table : Table RefundOrder) :
      (table.sum fun refund => if refund.rechargeOrderId = orderId then weight refund else 0) =
        table.sum fun refund =>
          if refund.terms.rechargeOrderId = orderId then weight refund.terms else 0 := by
    refine sum_congr fun refund _ => ?_
    rw [hwg]
    rfl
  rw [refundSum, refundSum, htm, htm]
  exact sum_of_view h fun terms => if terms.rechargeOrderId = orderId then weight terms else 0

theorem refundSum_insert (weight : RefundOrder → ℤ) (h : Inserts payments.refundOrders refund payments'.refundOrders)
    (orderId : Uuid) : refundSum weight payments' orderId =
      refundSum weight payments orderId + if refund.rechargeOrderId = orderId then weight refund else 0 := by
  rw [refundSum, refundSum, sum_insert h, add_comm]

theorem refundSum_replace (weight : RefundOrder → ℤ)
    (h : payments'.refundOrders = payments.refundOrders.replace refund')
    (hmem : refund ∈ payments.refundOrders.rows) (hkey : Keyed.key refund' = Keyed.key refund)
    (orderId : Uuid) :
    refundSum weight payments' orderId = refundSum weight payments orderId +
      if refund.rechargeOrderId = orderId then weight refund' - weight refund else 0 := by
  have ho : refund'.rechargeOrderId = refund.rechargeOrderId := congrArg RefundOrderKey.rechargeOrderId hkey
  rw [refundSum, refundSum, h, sum_replace hmem hkey, ho]
  split <;> omega

/-- What refunds and chargebacks see of an order. -/
structure OrderAccount where
  status : RechargeStatus
  (taken waiting : ℤ)

/-- The account of an order in a state. -/
def RechargeOrder.account (order : RechargeOrder) (payments : Payments) : OrderAccount :=
  ⟨order.status, takenBack order.id payments, openRefunds order.id payments⟩

/-- What a committed call can do to the account of an order. -/
inductive OrderStep (db : Db) (order : RechargeOrder) : PaymentCall → OrderAccount → OrderAccount → Prop
  | stay {call : PaymentCall} {status status' : RechargeStatus} {taken waiting : ℤ}
      (hst : status' = status ∨ status.isCredited = false ∧ status'.isCredited = false) :
      OrderStep db order call ⟨status, taken, waiting⟩ ⟨status', taken, waiting⟩
  | credit {taken waiting : ℤ} : OrderStep db order (.store (.creditPaidRecharge order.id))
      ⟨.paid, taken, waiting⟩ ⟨.credited, taken, waiting⟩
  | createRefund {request : CreateRefundOrderRequest} {taken waiting : ℤ}
      (ho : request.rechargeOrderId = order.id) : OrderStep db order (.store (.createRefundOrder request))
        ⟨.credited, taken, waiting⟩ ⟨.refundPending, taken, waiting + 1⟩
  | failRefund {refundId : Uuid} {code : String} {refund : RefundOrder} {status : RechargeStatus}
      {taken waiting : ℤ} (hr : db.payments.refundOrders.find? refundId = some refund)
      (ho : refund.rechargeOrderId = order.id) :
      OrderStep db order (.store (.failRefund refundId code)) ⟨status, taken, waiting⟩
        ⟨if status = .refundPending then .credited else status, taken, waiting - 1⟩
  | completeRefund {refundId : Uuid} {providerRefundNo : String} {refund : RefundOrder}
      {taken waiting : ℤ} (hr : db.payments.refundOrders.find? refundId = some refund)
      (ho : refund.rechargeOrderId = order.id) :
      OrderStep db order (.store (.completeRefund refundId providerRefundNo))
        ⟨.refundPending, taken, waiting⟩
        ⟨if refund.amount.units < order.amount.units then .credited else .refunded,
          taken + refund.amount.units, waiting - 1⟩
  | chargeback {provider sha : String} {verified : VerifiedWebhook} {taken waiting : ℤ}
      (ho : order.platformOrderNo = verified.platformOrderNo)
      (hst : verified.status = .chargeback) :
      OrderStep db order (.store (.recordVerifiedPaymentWebhook provider verified sha))
        ⟨.credited, taken, waiting⟩ ⟨.chargeback, taken + order.amount.units, waiting⟩

theorem OrderStep.stays_chargedBack {db : Db} {order : RechargeOrder} {call : PaymentCall}
    {account account' : OrderAccount} (h : OrderStep db order call account account')
    (hst : account.status = .chargeback) : account'.status = .chargeback := by
  cases h <;> dsimp only at hst ⊢ <;> cases hst
  case stay hkept => exact hkept.elim id fun hopen => (nomatch hopen.1)
  case failRefund => rfl

/-- An order after a call and the order it was, with what the call did to its account. -/
def Walked (call : PaymentCall) (db db' : Db) (order' : RechargeOrder) : Prop :=
  ∃ order ∈ db.payments.rechargeOrders.rows, order.Later order' ∧
    OrderStep db order call (order.account db.payments) (order'.account db'.payments)

variable {s : Session} {call : PaymentCall} {db db' : Db} {order order' : RechargeOrder}

theorem Walked.of_same (hmem : order' ∈ db.payments.rechargeOrders.rows)
    (htk : takenBack order'.id db'.payments = takenBack order'.id db.payments)
    (hwt : openRefunds order'.id db'.payments = openRefunds order'.id db.payments) :
    Walked call db db' order' := by
  refine ⟨order', hmem, Later.refl order', ?_⟩
  rw [account, account, htk, hwt]
  exact .stay (.inl rfl)

theorem RechargeOrder.status_of_terms (h : order'.terms = order.terms) :
    order'.status = order.status ∨ order.status.isCredited = false ∧ order'.status.isCredited = false := by
  have hst : order'.terms.status = order.terms.status := by rw [h]
  simp only [terms] at hst
  by_cases hold : order.status.isCredited <;> by_cases hnew : order'.status.isCredited
  · rw [if_pos hold, if_pos hnew] at hst
    exact .inl hst
  · rw [if_pos hold, if_neg hnew] at hst
    rw [← hst] at hold
    cases hold
  · rw [if_neg hold, if_pos hnew] at hst
    rw [hst] at hnew
    cases hnew
  · exact .inr ⟨Bool.not_eq_true _ ▸ hold, Bool.not_eq_true _ ▸ hnew⟩

theorem Walked.of_replace (hor : db'.payments.rechargeOrders = db.payments.rechargeOrders.replace order')
    (ho : order ∈ db.payments.rechargeOrders.rows) (hkey : Keyed.key order' = Keyed.key order)
    (hlat : order.Later order') {delta : (RefundOrder → ℤ) → ℤ}
    (hsum : ∀ weight id, refundSum weight db'.payments id =
      refundSum weight db.payments id + if order.id = id then delta weight else 0)
    (hstep : OrderStep db order call (order.account db.payments) ⟨order'.status,
      takenBack order.id db.payments + delta RefundOrder.taken,
      openRefunds order.id db.payments + delta RefundOrder.waiting⟩)
    {seen : RechargeOrder} (hseen : seen ∈ db'.payments.rechargeOrders.rows) : Walked call db db' seen := by
  rw [hor, mem_replace ho hkey] at hseen
  rcases hseen with hnew | ⟨hseen, hne⟩
  · refine ⟨order, ho, hnew ▸ hlat, ?_⟩
    have hac : seen.account db'.payments = ⟨order'.status,
        takenBack order.id db.payments + delta taken,
        openRefunds order.id db.payments + delta waiting⟩ := by
      unfold account takenBack openRefunds
      rw [hnew, hsum, hsum, hlat.id, if_pos rfl, if_pos rfl]
    rw [hac]
    exact hstep
  · have hoth : order.id ≠ seen.id := fun hid => hne (hid.symm.trans hlat.id.symm)
    have hsame (weight : RefundOrder → ℤ) :
        refundSum weight db'.payments seen.id = refundSum weight db.payments seen.id := by
      rw [hsum, if_neg hoth, add_zero]
    exact .of_same hseen (hsame _) (hsame _)

section

variable (hmem : order' ∈ db'.payments.rechargeOrders.rows)
include hmem

theorem Walked.of_payments (h : db'.payments = db.payments) : Walked call db db' order' := by
  rw [h] at hmem
  exact .of_same hmem (by rw [h]) (by rw [h])

theorem Quiet.walked (h : Quiet db db') :
    Walked call db db' order' := by
  obtain ⟨order, ho, htm⟩ := mem_of_view h.rechargeOrders hmem
  have hlat := Later.of_terms order order' htm.symm
  have htk : takenBack order'.id db'.payments = takenBack order.id db.payments := by
    rw [hlat.id]
    exact refundSum_of_terms taken_terms h.refundOrders order.id
  have hwt : openRefunds order'.id db'.payments = openRefunds order.id db.payments := by
    rw [hlat.id]
    exact refundSum_of_terms waiting_terms h.refundOrders order.id
  refine ⟨order, ho, hlat, ?_⟩
  unfold account
  rw [htk, hwt]
  exact .stay (status_of_terms htm.symm)

theorem Credits.walked {orderId : Uuid} (h : Credits s order db db')
    (hf : db.payments.rechargeOrders.find? orderId = some order) (hpaid : order.status = .paid) :
    Walked (.store (.creditPaidRecharge orderId)) db db' order' := by
  obtain ⟨ho, rfl⟩ := found hf
  have hsum (weight : RefundOrder → ℤ) (id : Uuid) : refundSum weight db'.payments id =
      refundSum weight db.payments id + if order.id = id then 0 else 0 := by
    rw [ite_self, add_zero, refundSum, refundSum, h.payments]
  have hor : db'.payments.rechargeOrders = db.payments.rechargeOrders.replace (order.credit s) := by
    rw [h.payments]
  refine Walked.of_replace hor ho rfl ⟨rfl, rfl, rfl, rfl, fun _ => rfl⟩ hsum ?_ hmem
  rw [account, hpaid, add_zero, add_zero]
  exact .credit

theorem CreatesRefund.walked {req : CreateRefundOrderRequest} (h : CreatesRefund s order refund db db')
    (hf : db.payments.rechargeOrders.find? req.rechargeOrderId = some order)
    (hcr : order.status = .credited) :
    Walked (.store (.createRefundOrder req)) db db' order' := by
  obtain ⟨ho, hid⟩ := found hf
  have hsum (weight : RefundOrder → ℤ) (id : Uuid) : refundSum weight db'.payments id =
      refundSum weight db.payments id + if order.id = id then weight refund else 0 := by
    rw [refundSum_insert weight h.refundOrders, h.rechargeOrderId]
  refine Walked.of_replace h.rechargeOrders ho rfl ⟨rfl, rfl, rfl, rfl, fun _ => rfl⟩ hsum ?_ hmem
  have hopen : refund.status.isOpen := by rw [h.status]; rfl
  rw [account, hcr, refund.taken_of_open hopen, refund.waiting_of_open hopen, add_zero]
  exact .createRefund hid.symm

theorem FailsRefund.walked {refundId : Uuid} {code : String} (h : FailsRefund s order refund db db')
    (hf : db.payments.refundOrders.find? refundId = some refund) (hopen : refund.status.isOpen) :
    Walked (.store (.failRefund refundId code)) db db' order' := by
  obtain ⟨hr, _⟩ := Table.found hf
  obtain ⟨ho, hid⟩ := Table.found h.found
  obtain ⟨failureCode, hrp⟩ := h.refundOrders
  have hsum (weight : RefundOrder → ℤ) (id : Uuid) : refundSum weight db'.payments id =
      refundSum weight db.payments id +
        if order.id = id then weight (refund.fail failureCode) - weight refund else 0 := by
    have hsum := refundSum_replace weight hrp hr rfl id
    rwa [← hid] at hsum
  have htk : (refund.fail failureCode).taken - refund.taken = 0 := by
    rw [refund.taken_of_open hopen]
    rfl
  have hwt : (refund.fail failureCode).waiting - refund.waiting = -1 := by
    rw [refund.waiting_of_open hopen]
    rfl
  have hstep : OrderStep db order (.store (.failRefund refundId code)) (order.account db.payments)
      ⟨if order.status = .refundPending then .credited else order.status,
        takenBack order.id db.payments + ((refund.fail failureCode).taken - refund.taken),
        openRefunds order.id db.payments + ((refund.fail failureCode).waiting - refund.waiting)⟩ := by
    rw [htk, hwt, add_zero]
    exact .failRefund hf hid.symm
  rcases h.rechargeOrders with ⟨hpn, hor⟩ | ⟨hne, hsame⟩
  · refine Walked.of_replace hor ho rfl ⟨rfl, rfl, rfl, rfl, fun _ => rfl⟩ hsum ?_ hmem
    rwa [if_pos hpn] at hstep
  · have hor : db'.payments.rechargeOrders = db.payments.rechargeOrders.replace order := by
      rw [hsame, Table.replace_self ho]
    refine Walked.of_replace hor ho rfl (Later.refl order) hsum ?_ hmem
    rwa [if_neg hne] at hstep

theorem CompletesRefund.walked {refundId : Uuid} {providerRefundNo : String}
    (h : CompletesRefund s order refund db db') (hf : db.payments.refundOrders.find? refundId = some refund)
    (hopen : refund.status.isOpen) :
    Walked (.store (.completeRefund refundId providerRefundNo)) db db' order' := by
  obtain ⟨hr, _⟩ := Table.found hf
  obtain ⟨ho, hid⟩ := Table.found h.found
  obtain ⟨refundNo, hrp⟩ := h.refundOrders
  have hsum (weight : RefundOrder → ℤ) (id : Uuid) : refundSum weight db'.payments id =
      refundSum weight db.payments id +
        if order.id = id then weight (refund.succeed s refundNo) - weight refund else 0 := by
    have hsum := refundSum_replace weight hrp hr rfl id
    rwa [← hid] at hsum
  have htk : (refund.succeed s refundNo).taken - refund.taken = refund.amount.units := by
    rw [refund.taken_of_open hopen, sub_zero]
    rfl
  have hwt : (refund.succeed s refundNo).waiting - refund.waiting = -1 := by
    rw [refund.waiting_of_open hopen]
    rfl
  have hlat : order.Later (order.setStatus
      (if refund.amount.units < order.amount.units then .credited else .refunded)) := by
    refine ⟨rfl, rfl, rfl, rfl, fun _ => ?_⟩
    split <;> rfl
  refine Walked.of_replace h.rechargeOrders ho rfl hlat hsum ?_ hmem
  rw [htk, hwt, account, h.pending]
  exact .completeRefund hf hid.symm

theorem ChargesBack.walked {provider sha : String} {verified : VerifiedWebhook}
    (h : ChargesBack s order db db') (ho : order ∈ db.payments.rechargeOrders.rows)
    (hno : order.platformOrderNo = verified.platformOrderNo) (hvr : verified.status = .chargeback)
    (hcr : order.status = .credited) :
    Walked (.store (.recordVerifiedPaymentWebhook provider verified sha)) db db' order' := by
  obtain ⟨refund, _, hst, hid, ham, hins⟩ := h.refundOrders
  have hsum (weight : RefundOrder → ℤ) (id : Uuid) : refundSum weight db'.payments id =
      refundSum weight db.payments id + if order.id = id then weight refund else 0 := by
    rw [refundSum_insert weight hins, hid]
  refine Walked.of_replace h.rechargeOrders ho rfl ⟨rfl, rfl, rfl, rfl, fun _ => rfl⟩ hsum ?_ hmem
  have htk : refund.taken = order.amount.units := by simp [taken, hst, ham]
  have hwt : refund.waiting = 0 := by simp [RefundOrder.waiting, hst, RefundStatus.isOpen]
  rw [account, hcr, htk, hwt, add_zero]
  exact .chargeback hno hvr

end

theorem execPayment_rechargeOrders_kept (h : execPayment (s, call) db = .ok db') :
    Table.Kept RechargeOrder.Later db.payments.rechargeOrders db'.payments.rechargeOrders := by
  rcases execPayment_cases h with ⟨_, _, hc⟩ | hq
  · exact hc.rechargeOrders_kept
  · exact .of_view Later.of_terms hq.rechargeOrders

theorem execPayment_walked (h : execPayment (s, call) db = .ok db')
    (hmem : order' ∈ db'.payments.rechargeOrders.rows) : Walked call db db' order' := by
  rcases execPayment_cases h with ⟨_, rfl, hc⟩ | hq
  · cases hc with
    | quiet hq => exact hq.walked hmem
    | reserve _ _ _ _ hcall | settle _ _ _ hcall | adjust _ _ _ _ hcall | reverse _ _ _ hcall | manual hcall
    | reconcile _ _ hcall => exact .of_payments hmem hcall.payments
    | credit hf hst hcall | createRefund hf hst hcall | failRefund hf hst hcall
    | completeRefund hf hst hcall => exact hcall.walked hmem hf hst
    | chargeback _ _ _ =>
      -- The committed call does not say which order the event names; the webhook itself does.
      rcases recordVerifiedPaymentWebhook_cases h with hq | ⟨order, ho, hno, hvr, hcr, hch⟩
      · exact hq.walked hmem
      · exact hch.walked hmem ho hno hvr hcr
  · exact hq.walked hmem

/-- How the status of an order moves once it is credited. -/
inductive RechargeStatus.Moves : RechargeStatus → RechargeStatus → Prop
  | ask : Moves .credited .refundPending
  | back : Moves .refundPending .credited
  | refund : Moves .refundPending .refunded
  | chargeback : Moves .credited .chargeback

theorem OrderStep.moves {account account' : OrderAccount} (h : OrderStep db order call account account')
    (hcr : account.status.isCredited) :
    account'.status = account.status ∨ account.status.Moves account'.status := by
  cases h with
  | stay hst => exact .inl (hst.resolve_right fun hopen => absurd hcr (by simp [hopen.1]))
  | credit => cases hcr
  | createRefund _ => exact .inr .ask
  | failRefund _ _ =>
    dsimp only
    split
    · next hpn => exact .inr (hpn ▸ .back)
    · exact .inl rfl
  | completeRefund _ _ =>
    dsimp only
    split
    · exact .inr .back
    · exact .inr .refund
  | chargeback _ _ => exact .inr .chargeback

/-- Every order was there before, and the status of a credited one has only moved since. -/
def OrdersMoved (db db' : Db) : Prop :=
  ∀ order' ∈ db'.payments.rechargeOrders.rows, ∃ order ∈ db.payments.rechargeOrders.rows, order.Later order' ∧
    (order.status.isCredited → Relation.ReflTransGen RechargeStatus.Moves order.status order'.status)

theorem OrdersMoved.step {first : Db} (h : OrdersMoved first db) (hexec : execPayment (s, call) db = .ok db') :
    OrdersMoved first db' := by
  intro order'' ho''
  obtain ⟨order', ho', hlat', hstep⟩ := execPayment_walked hexec ho''
  obtain ⟨order, ho, hlat, hmv⟩ := h order' ho'
  refine ⟨order, ho, hlat.trans hlat', fun hcr => ?_⟩
  rcases hstep.moves (hlat.stillCredited hcr) with hsame | hmov
  · rw [show order''.status = order'.status from hsame]
    exact hmv hcr
  · exact (hmv hcr).tail hmov

/-- Over every history of payments an order that was credited only moves between credited and waiting for a
refund, until it is refunded or charged back for good. -/
theorem credited_orders_move (db : Db) (calls : List (Session × PaymentCall)) :
    OrdersMoved db (run execPayment db calls) := by
  have hall : Along execPayment (fun _ _ => True) db calls := Along.of_forall fun _ _ => trivial
  exact run_invariant (fun _ _ _ hinv _ hexec => hinv.step hexec)
    (fun order ho => ⟨order, ho, .refl order, fun _ => .refl⟩) hall

end ModelDock.Store
