import ModelDock.Payment.RefundDebits

/-!
# What refunds and chargebacks take back from an order

Refunds alone never take back more than an order paid, but a chargeback takes the whole amount whatever was
refunded. The status of an order follows the refund that completed last, not the total.
-/

namespace ModelDock.Store

open Relational Table

variable {s : Session} {db db' : Db} {order : RechargeOrder} {refund : RefundOrder} {call : PaymentCall}
  {account : OrderAccount} {lot : CashLot} {account' : OrderAccount}

theorem Cash.Sound.netDebited_le {cash : Cash} (h : cash.Sound)
    (hlot : lot ∈ cash.lots.rows) : cash.netDebited lot.id ≤ lot.originalAmount.units := by
  have hcn := h.conserved lot hlot
  have hrem := lot.remainingAmount.nonneg
  have hfn := heldOn_nonneg (fun hold => hold.cashLotId = lot.id) cash.fundingHolds
  have hr := heldOn_nonneg (fun hold => hold.cashLotId = lot.id) cash.refundHolds
  rw [Cash.accounted, remainingAt_of_mem hlot] at hcn
  omega

/-- The refund that an allocation was made for. -/
def refundOf (transactions : Table WalletTransaction) (row : CashAllocation) : Option Uuid :=
  (transactions.find? row.walletTransactionId).bind fun transaction => transaction.refundOrderId

/-- What a debit of a lot has left to restore. -/
def Cash.debitedOn (cash : Cash) (lotId : Uuid) (row : CashAllocation) : ℤ :=
  if row.bucket = .cash lotId ∧ row.direction = .debit then cash.unrestored row else 0

theorem Cash.Sound.debitedOn_nonneg {cash : Cash} (h : cash.Sound) (lotId : Uuid) :
    ∀ row ∈ cash.allocations.rows, 0 ≤ cash.debitedOn lotId row := by
  intro row hrow
  unfold Cash.debitedOn Cash.unrestored
  split
  · next hdb =>
    have hrs := h.restored_le row hrow hdb.2
    omega
  · exact le_refl 0

theorem RefundDebited.amount_le (h : RefundDebited db refund) (hsn : db.cash.Sound)
    (hlot : lot ∈ db.cash.lots.rows) (ho : lot.rechargeOrderId = some refund.rechargeOrderId) :
    refund.amount.units ≤ db.cash.allocations.sum fun row =>
      if refundOf db.transactions row = some (Table.rowId refund) then db.cash.debitedOn lot.id row
      else 0 := by
  obtain ⟨lot', hlot', ho', row, hrow, hbk, hdr, ham, hrs, transaction,
    htx, hid, hr, _⟩ := h
  obtain rfl : lot' = lot := lot_eq_of_order hlot ho hlot' ho'
  have hf : db.transactions.find? row.walletTransactionId = some transaction :=
    find?_eq_some.mpr ⟨htx, hid⟩
  have hof : refundOf db.transactions row = some (rowId refund) := by
    rw [refundOf, hf]
    exact hr
  have hdb : db.cash.debitedOn lot'.id row = refund.amount.units := by
    rw [Cash.debitedOn, if_pos ⟨hbk, hdr⟩, Cash.unrestored, hrs, ham, sub_zero]
  have hsum := le_sum_of_mem (f := fun row =>
    if refundOf db.transactions row = some (rowId refund) then db.cash.debitedOn lot'.id row else 0)
    (fun x hx => ?_) hrow
  · rwa [if_pos hof, hdb] at hsum
  · exact ite_nonneg (hsn.debitedOn_nonneg lot'.id x hx) le_rfl

theorem takenFor_of_not_counted {orderId : Uuid}
    (h : ¬(refund.rechargeOrderId = orderId ∧ refund.status = .succeeded)) :
    (if refund.rechargeOrderId = orderId then refund.taken else 0) = 0 := by
  split
  · next ho => exact if_neg fun hsuc => h ⟨ho, hsuc⟩
  · rfl

theorem RefundBooks.takenBack_le (h : RefundBooks db) (hmem : order ∈ db.payments.rechargeOrders.rows)
    (hst : order.status ≠ .chargeback) :
    takenBack order.id db.payments ≤ order.amount.units := by
  have hdb (refund : RefundOrder) (hr : refund ∈ db.payments.refundOrders.rows)
      (ho : refund.rechargeOrderId = order.id) (hsuc : refund.status = .succeeded) :
      RefundDebited db refund := by
    refine (h.debited refund hr hsuc).resolve_right ?_
    rintro ⟨other, hne, hid, hback⟩
    have hsame : other = order := eq_of_rowId hne hmem (hid.trans ho)
    exact hst (hsame ▸ hback)
  by_cases hany : ∃ refund ∈ db.payments.refundOrders.rows, refund.rechargeOrderId = order.id ∧
      refund.status = .succeeded
  · obtain ⟨some, hsome, ho, hsuc⟩ := hany
    obtain ⟨lot, hlot, hlo, _⟩ := hdb some hsome ho hsuc
    rw [ho] at hlo
    obtain ⟨paid, hpaid, hpd, ham⟩ := h.lots lot hlot order.id hlo
    have hsame : paid = order := eq_of_rowId hpaid hmem hpd
    calc takenBack order.id db.payments
        ≤ db.payments.refundOrders.sum fun refund =>
            if decide (refund.rechargeOrderId = order.id ∧ refund.status = .succeeded) then
              (db.cash.allocations.sum fun row =>
                if refundOf db.transactions row = Option.some (rowId refund) then
                  db.cash.debitedOn lot.id row else 0) else 0 := by
          refine sum_le_sum fun refund hr => ?_
          by_cases hcn : refund.rechargeOrderId = order.id ∧ refund.status = .succeeded
          · have hrow := (hdb refund hr hcn.1 hcn.2).amount_le h.linked.sound hlot
              (hcn.1 ▸ hlo)
            simpa [RefundOrder.taken, hcn] using hrow
          · rw [takenFor_of_not_counted hcn, decide_eq_false hcn]
            exact le_refl 0
      _ ≤ db.cash.allocations.sum (db.cash.debitedOn lot.id) :=
          sum_join_le (refundOf db.transactions) _ (h.linked.sound.debitedOn_nonneg lot.id)
      _ = db.cash.netDebited lot.id := (h.linked.sound.netDebited_eq lot.id).symm
      _ ≤ lot.originalAmount.units := h.linked.sound.netDebited_le hlot
      _ = order.amount.units := by rw [← ham, hsame]
  · have hnone : takenBack order.id db.payments = 0 := sum_eq_zero fun refund hr =>
      takenFor_of_not_counted fun hcn => hany ⟨refund, hr, hcn⟩
    rw [hnone]
    exact order.positive.le

/-- The call resolves a reconciliation case, which may reverse any journal. -/
def PaymentCall.reconciles : PaymentCall → Bool
  | .store call => call.reconciles
  | _ => false

theorem RefundBooks.exec (h : RefundBooks db) (hcall : call.reconciles = false)
    (hexec : execPayment (s, call) db = .ok db') : RefundBooks db' := by
  have hch (id : Uuid) (hback : ChargedBack db id) : ChargedBack db' id := hback.kept hexec
  rcases execPayment_cases hexec with ⟨_, rfl, hc⟩ | hq
  · exact h.committed hc hcall hch
  · -- A quiet call is committed whichever call of the store it stands for.
    have hc : Committed s db (.heartbeatFunding 0 0) db' := .quiet hq
    exact h.committed hc rfl hch

/-- A chargeback of a credited order comes before any refund of the order has succeeded. -/
def ChargesBackUnrefunded (db : Db) (invocation : Session × PaymentCall) : Prop :=
  match invocation.2 with
  | .store (.recordVerifiedPaymentWebhook _ verified _) => verified.status = .chargeback →
    ∀ order ∈ db.payments.rechargeOrders.rows, order.platformOrderNo = verified.platformOrderNo →
      order.status = .credited → takenBack order.id db.payments = 0
  | _ => True

/-- Refunds are debited, and a charged back order took back at most what it paid. -/
structure TakenBackBounded (db : Db) : Prop where
  books : RefundBooks db
  charged : ∀ order ∈ db.payments.rechargeOrders.rows, order.status = .chargeback →
    takenBack order.id db.payments ≤ order.amount.units

theorem OrderStep.charged_le
    (h : OrderStep db order call account account') (hmem : order ∈ db.payments.rechargeOrders.rows)
    (hac : account = order.account db.payments) (hok : ChargesBackUnrefunded db (s, call))
    (hch : account.status = .chargeback → account.taken ≤ order.amount.units)
    (hst : account'.status = .chargeback) : account'.taken ≤ order.amount.units := by
  cases h with
  | @stay _ status status' taken waiting hkept =>
    rcases hkept with rfl | ⟨_, hopen⟩
    · exact hch hst
    · have hback : status' = .chargeback := hst
      rw [hback] at hopen
      cases hopen
  | credit => cases hst
  | createRefund => cases hst
  | @failRefund _ _ _ status taken waiting _ _ =>
    refine hch ?_
    by_contra hne
    have hback : (if status = .refundPending then .credited else status) = RechargeStatus.chargeback := hst
    split at hback
    · cases hback
    · exact hne hback
  | @completeRefund _ _ refund _ _ _ _ =>
    have hback : (if refund.amount.units < order.amount.units then .credited else .refunded) =
      RechargeStatus.chargeback := hst
    split at hback <;> cases hback
  | @chargeback _ _ _ taken _ hno hvr =>
    obtain ⟨hcr, htk, _⟩ := OrderAccount.mk.inj hac
    have hzero : taken = 0 := htk.trans (hok hvr order hmem hno hcr.symm)
    change taken + order.amount.units ≤ order.amount.units
    omega

theorem TakenBackBounded.exec (h : TakenBackBounded db)
    (hcall : call.reconciles = false) (hok : ChargesBackUnrefunded db (s, call))
    (hexec : execPayment (s, call) db = .ok db') : TakenBackBounded db' := by
  refine ⟨h.books.exec hcall hexec, fun order' ho' hst => ?_⟩
  obtain ⟨order, ho, hlat, hstep⟩ := execPayment_walked hexec ho'
  rw [hlat.amount]
  exact hstep.charged_le ho rfl hok (h.charged order ho) hst

theorem TakenBackBounded.takenBack_le (h : TakenBackBounded db) (hmem : order ∈ db.payments.rechargeOrders.rows) :
    takenBack order.id db.payments ≤ order.amount.units := by
  by_cases hst : order.status = .chargeback
  · exact h.charged order hmem hst
  · exact h.books.takenBack_le hmem hst

theorem Genesis.takenBackBounded (h : Genesis db) : TakenBackBounded db := by
  refine ⟨h.refundBooks, fun order hmem hst => ?_⟩
  have hopen := h.rechargeOrders order hmem
  rw [hst] at hopen
  cases hopen

/-- Whatever is charged, refunded, queried and charged back: as long as every chargeback comes before
any refund of its order has succeeded, no order has more taken back than it paid. -/
theorem takenBack_le_amount (h : Genesis db) (calls : List (Session × PaymentCall))
    (hcalls : ∀ inv ∈ calls, inv.2.reconciles = false)
    (hchargebacks : AlongChanges execPayment ChargesBackUnrefunded db calls) :
    ∀ order ∈ (run execPayment db calls).payments.rechargeOrders.rows,
      takenBack order.id (run execPayment db calls).payments ≤ order.amount.units := by
  have hbn : TakenBackBounded (run execPayment db calls) :=
    run_invariant_of_changes (fun st inv st' hinv hok hexec =>
      hinv.exec hok.2 hok.1 hexec) h.takenBackBounded (hchargebacks.and_mem hcalls)
  exact fun order hmem => hbn.takenBack_le hmem

/-- An approved application for part of the first order of the small store. -/
def demoApplication (id : Uuid) (amount : Fin 1000) (h : 0 < amount.val) : RefundApplication where
  id := id
  organizationId := 1
  rechargeOrderId := some 1
  subscriptionInvoiceId := none
  requestedAmount := unitsOf amount
  currency := usd
  reason := "requested"
  idempotencyKey := s!"application-{id}"
  status := .approved
  refundOrderId := none
  requestedBy := "member"
  reviewedBy := "operator"
  reviewReason := "approved"
  positive := unitsOf_pos amount h

/-- The small store with approved applications for 60 and 40 units of the first order. -/
def demoApplied : Db :=
  { demoDb with payments := { demoDb.payments with
      refundApplications := tableOf [demoApplication 1 60 (by decide), demoApplication 2 40 (by decide)]
        (by decide) } }

theorem demoApplied_genesis : Genesis demoApplied :=
  ⟨demoDb_genesis.balances, rfl, rfl, rfl, rfl, rfl, rfl, rfl, rfl, rfl, demoDb_genesis.rechargeOrders, rfl⟩

/-- The refund of an approved application of the first order. -/
def demoPartialRefund (applicationId : Uuid) (amount : ℤ) : CreateRefundOrderRequest where
  platformRefundNo := s!"RF{applicationId}"
  rechargeOrderId := 1
  refundApplicationId := some applicationId
  amount := amount
  reason := "requested"
  idempotencyKey := s!"refund-{applicationId}"

/-- A chargeback event of the first order. -/
def demoChargeback : VerifiedWebhook where
  providerEventId := "EV1"
  providerOrderNo := "RO1"
  platformOrderNo := "RO1"
  status := .chargeback
  amount := 100
  currency := "USD"
  replayKey := "EV1"

/-- The first order is credited and 60 of its 100 units are refunded. -/
def demoPartlyRefunded : List (Session × PaymentCall) :=
  [(demoSession 1, .store (.creditPaidRecharge 1)),
    (demoSession 2, .store (.createRefundOrder (demoPartialRefund 1 60))),
    (demoSession 3, .store (.completeRefund ((demoSession 2).uuid .refund) "P1"))]

/-- A partly refunded order takes back the refunded part. -/
theorem takenBack_le_amount_demo : takenBack 1 (run execPayment demoApplied demoPartlyRefunded).payments = 60 ∧
    ∀ order ∈ (run execPayment demoApplied demoPartlyRefunded).payments.rechargeOrders.rows,
      takenBack order.id (run execPayment demoApplied demoPartlyRefunded).payments ≤ order.amount.units :=
  ⟨by decide +kernel, takenBack_le_amount demoApplied_genesis demoPartlyRefunded (by decide)
    (Along.changes ⟨trivial, trivial, trivial, trivial⟩)⟩

/-- The partly refunded order is charged back. -/
def demoChargedBack : List (Session × PaymentCall) :=
  demoPartlyRefunded ++
    [(demoSession 4, .store (.recordVerifiedPaymentWebhook "sandbox" demoChargeback "sha"))]

/-- A chargeback after a completed partial refund takes back 160 units of a payment of 100. -/
theorem takenBack_exceeds_amount :
    ∃ order ∈ (run execPayment demoApplied demoChargedBack).payments.rechargeOrders.rows,
      order.id = 1 ∧ order.amount.units = 100 ∧
        takenBack order.id (run execPayment demoApplied demoChargedBack).payments = 160 := by
  decide +kernel

/-- A refund that pays an order back in full is a refund of the whole amount, not the last part. -/
def FinishedByWhole (db : Db) (invocation : Session × PaymentCall) : Prop :=
  match invocation.2 with
  | .store (.completeRefund refundId _) =>
    ∀ refund ∈ db.payments.refundOrders.rows, refund.id = refundId →
      ∀ order ∈ db.payments.rechargeOrders.rows, order.id = refund.rechargeOrderId →
        takenBack order.id db.payments + refund.amount.units = order.amount.units →
          refund.amount = order.amount
  | _ => True

/-- The status of an account says how much of the amount was taken back. -/
structure OrderAccount.Settled (amount : ℤ) (account : OrderAccount) : Prop where
  refunded : account.status = .refunded → account.taken = amount
  unrefunded : account.status = .credited ∨ account.status = .refundPending → account.taken < amount
  pending : account.status = .refundPending → 1 ≤ account.waiting
  uncredited : account.status.isCredited = false → account.taken = 0

theorem OrderAccount.Settled.of_uncredited {amount : ℤ}
    (hopen : account.status.isCredited = false) (htk : account.taken = 0) : account.Settled amount := by
  have hne (status : RechargeStatus) (hcr : status.isCredited) :
      account.status ≠ status := by
    rintro rfl
    rw [hopen] at hcr
    cases hcr
  exact ⟨fun hst => absurd hst (hne .refunded rfl),
    fun hst => absurd hst (not_or.mpr ⟨hne .credited rfl, hne .refundPending rfl⟩),
    fun hst => absurd hst (hne .refundPending rfl), fun _ => htk⟩

theorem OrderStep.settled
    (h : OrderStep db order call account account') (hmem : order ∈ db.payments.rechargeOrders.rows)
    (hac : account = order.account db.payments) (hok : FinishedByWhole db (s, call))
    (hbd : account'.status ≠ .chargeback → account'.taken ≤ order.amount.units)
    (hset : account.Settled order.amount.units) : account'.Settled order.amount.units := by
  obtain ⟨href, hun, hpn, hunc⟩ := hset
  cases h with
  | @stay _ status _ taken waiting hkept =>
    rcases hkept with rfl | ⟨hbef, haf⟩
    · exact ⟨href, hun, hpn, hunc⟩
    · exact .of_uncredited haf (hunc hbef)
  | @credit taken waiting =>
    have hzero : taken = 0 := hunc rfl
    have hpos := order.positive
    refine ⟨(nomatch ·), fun _ => ?_, (nomatch ·), (nomatch ·)⟩
    change taken < order.amount.units
    omega
  | @createRefund _ taken waiting _ =>
    have hwt : waiting = openRefunds order.id db.payments := (OrderAccount.mk.inj hac).2.2
    have hnn := openRefunds_nonneg order.id db.payments
    refine ⟨(nomatch ·), fun _ => hun (.inl rfl), fun _ => ?_, (nomatch ·)⟩
    change 1 ≤ waiting + 1
    omega
  | @failRefund _ _ _ status taken waiting _ _ =>
    by_cases hwas : status = .refundPending
    · rw [if_pos hwas]
      exact ⟨(nomatch ·), fun _ => hun (.inr hwas), (nomatch ·), (nomatch ·)⟩
    · rw [if_neg hwas]
      exact ⟨href, hun, fun hst => absurd hst hwas, hunc⟩
  | @completeRefund _ _ refund taken waiting hf ho =>
    obtain ⟨hr, hid⟩ := found hf
    have htk : taken = takenBack order.id db.payments := (OrderAccount.mk.inj hac).2.1
    have hnn := takenBack_nonneg order.id db.payments
    have hwh : taken + refund.amount.units = order.amount.units → refund.amount = order.amount :=
      fun hall => hok refund hr hid order hmem ho.symm (htk ▸ hall)
    by_cases hpart : refund.amount.units < order.amount.units
    · rw [if_pos hpart] at hbd ⊢
      have hle : taken + refund.amount.units ≤ order.amount.units := hbd (nomatch ·)
      refine ⟨(nomatch ·), fun _ => lt_of_le_of_ne hle fun hall => ?_, (nomatch ·), (nomatch ·)⟩
      rw [hwh hall] at hpart
      exact lt_irrefl _ hpart
    · rw [if_neg hpart] at hbd ⊢
      have hle : taken + refund.amount.units ≤ order.amount.units := hbd (nomatch ·)
      refine ⟨fun _ => ?_, fun hst => hst.elim (nomatch ·) (nomatch ·), (nomatch ·), (nomatch ·)⟩
      change taken + refund.amount.units = order.amount.units
      omega
  | chargeback _ _ =>
    exact ⟨(nomatch ·), fun hst => hst.elim (nomatch ·) (nomatch ·), (nomatch ·), (nomatch ·)⟩

/-- Refunds are debited, and the status of every order says how much was taken back. -/
structure StatusSettled (db : Db) : Prop where
  books : RefundBooks db
  settled : ∀ order ∈ db.payments.rechargeOrders.rows,
    (order.account db.payments).Settled order.amount.units

theorem StatusSettled.exec (h : StatusSettled db) (hcall : call.reconciles = false)
    (hok : FinishedByWhole db (s, call)) (hexec : execPayment (s, call) db = .ok db') :
    StatusSettled db' := by
  have hbk := h.books.exec hcall hexec
  refine ⟨hbk, fun order' ho' => ?_⟩
  obtain ⟨order, ho, hlat, hstep⟩ := execPayment_walked hexec ho'
  rw [hlat.amount]
  refine hstep.settled ho rfl hok (fun hst => ?_) (h.settled order ho)
  rw [← hlat.amount]
  exact hbk.takenBack_le ho' hst

theorem Genesis.statusSettled (h : Genesis db) : StatusSettled db := by
  refine ⟨h.refundBooks, fun order hmem => ?_⟩
  have htk : takenBack order.id db.payments = 0 :=
    sum_eq_zero fun refund hr => absurd hr (by simp [h.refundOrders])
  exact .of_uncredited (h.rechargeOrders order hmem) htk

/-- As long as no order is paid back in full by a part, an order that was not charged back is refunded
exactly when its refunds took back what it paid, and credited while a part is left and no refund waits. -/
theorem status_refunded_iff (h : Genesis db) (calls : List (Session × PaymentCall))
    (hcalls : ∀ inv ∈ calls, inv.2.reconciles = false)
    (hwhole : AlongChanges execPayment FinishedByWhole db calls) :
    ∀ order ∈ (run execPayment db calls).payments.rechargeOrders.rows, order.status ≠ .chargeback →
      (order.status = .refunded ↔
        takenBack order.id (run execPayment db calls).payments = order.amount.units) ∧
      (order.status.isCredited →
        takenBack order.id (run execPayment db calls).payments < order.amount.units →
        openRefunds order.id (run execPayment db calls).payments = 0 → order.status = .credited) := by
  have hset : StatusSettled (run execPayment db calls) :=
    run_invariant_of_changes (fun st inv st' hinv hok hexec =>
      hinv.exec hok.2 hok.1 hexec) h.statusSettled (hwhole.and_mem hcalls)
  intro order hmem hback
  obtain ⟨href, hun, hpn, hunc⟩ := hset.settled order hmem
  have hpos := order.positive
  dsimp only [RechargeOrder.account] at href hun hpn hunc
  cases hst : order.status with
  | refunded =>
    have hall := href hst
    exact ⟨⟨fun _ => hall, fun _ => rfl⟩, fun _ hpart => absurd hall (ne_of_lt hpart)⟩
  | credited =>
    have hpart := hun (.inl hst)
    exact ⟨⟨(nomatch ·), fun hall => absurd hall (ne_of_lt hpart)⟩, fun _ _ _ => rfl⟩
  | refundPending =>
    have hpart := hun (.inr hst)
    have hwt := hpn hst
    exact ⟨⟨(nomatch ·), fun hall => absurd hall (ne_of_lt hpart)⟩, fun _ _ hnone => by omega⟩
  | chargeback => exact absurd hst hback
  | _ =>
    have hzero := hunc (by rw [hst]; rfl)
    exact ⟨⟨(nomatch ·), fun hall => by omega⟩, (nomatch ·)⟩

/-- A partly refunded order is credited again. -/
theorem status_refunded_iff_demo :
    (∃ order ∈ (run execPayment demoApplied demoPartlyRefunded).payments.rechargeOrders.rows,
      order.id = 1 ∧ order.status = .credited) ∧
    ∀ order ∈ (run execPayment demoApplied demoPartlyRefunded).payments.rechargeOrders.rows,
      order.status ≠ .chargeback →
      (order.status = .refunded ↔
        takenBack order.id (run execPayment demoApplied demoPartlyRefunded).payments = order.amount.units) ∧
      (order.status.isCredited →
        takenBack order.id (run execPayment demoApplied demoPartlyRefunded).payments < order.amount.units →
        openRefunds order.id (run execPayment demoApplied demoPartlyRefunded).payments = 0 →
          order.status = .credited) :=
  ⟨by decide +kernel, status_refunded_iff demoApplied_genesis demoPartlyRefunded (by decide)
    (Along.changes ⟨trivial, trivial, by unfold FinishedByWhole; decide +kernel, trivial⟩)⟩

/-- The rest of the partly refunded order is refunded as well. -/
def demoRefundedInParts : List (Session × PaymentCall) :=
  demoPartlyRefunded ++
    [(demoSession 4, .store (.createRefundOrder (demoPartialRefund 2 40))),
      (demoSession 5, .store (.completeRefund ((demoSession 4).uuid .refund) "P2"))]

/-- An order of 100 units that was paid back in parts of 60 and 40 ends as credited. -/
theorem refunded_in_parts_stays_credited :
    ∃ order ∈ (run execPayment demoApplied demoRefundedInParts).payments.rechargeOrders.rows,
      order.id = 1 ∧ order.amount.units = 100 ∧ order.status = .credited ∧
        takenBack order.id (run execPayment demoApplied demoRefundedInParts).payments = 100 := by
  decide +kernel

end ModelDock.Store
