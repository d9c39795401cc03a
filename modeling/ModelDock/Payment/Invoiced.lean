import ModelDock.Payment.Applications
import ModelDock.Payment.TakenBack

/-!
# Money that is invoiced and refunded

A refund application counts what is invoiced, but an invoice application counts only refunds that succeeded, and
a refund without an application looks at no invoice. Where neither matters, invoices and refunds of an order
stay within what it paid.
-/

namespace ModelDock.Store

open Relational Table RefundOrder FinanceDb

variable {s : Session} {st st' : FinanceDb} {db db' : Db} {order : RechargeOrder} {refund : RefundOrder}
  {appId : Uuid} {items items' : Table InvoiceItem} {decision : Decision} {orderId : Uuid} {lot : CashLot}
  {source : InvoiceSource} {itemCurrency : Currency} {amount remaining : ℤ} {app : InvoiceApplication}
  {selected selected' : Uuid → Bool}

/-- What a refund without an application claims, unless it has failed. -/
def RefundOrder.direct (refund : RefundOrder) : ℤ :=
  if refund.refundApplicationId = none ∧ (refund.status.isOpen ∨ refund.status = .succeeded)
  then refund.amount.units else 0

/-- What is being refunded or was refunded of an order: its standing applications, and its refunds
without one. -/
def refunding (orderId : Uuid) (payments : Payments) : ℤ :=
  payments.applied (.recharge orderId) + refundSum RefundOrder.direct payments orderId

theorem RefundOrder.direct_terms (refund : RefundOrder) : refund.terms.direct = refund.direct := by
  unfold direct terms
  cases hst : refund.status <;> simp [RefundStatus.isOpen]

theorem RefundOrder.direct_fail (refund : RefundOrder) (code : String) : (refund.fail code).direct = 0 :=
  if_neg fun h => h.2.elim (nomatch ·) (nomatch ·)

theorem RefundOrder.direct_succeed (refund : RefundOrder) (hopen : refund.status.isOpen)
    (refundNo : String) : (refund.succeed s refundNo).direct = refund.direct := by
  unfold direct
  simp [succeed, hopen]

/-- The call records a chargeback of a provider. -/
def PaymentCall.chargesBack : PaymentCall → Bool
  | .store (.recordVerifiedPaymentWebhook _ verified _) => verified.status = .chargeback
  | _ => false

/-- The request is for a new refund of a credited order, without an application. -/
def CreateRefundOrderRequest.direct (request : CreateRefundOrderRequest) (order : RechargeOrder)
    (payments : Payments) : Prop :=
  request.rechargeOrderId = order.id ∧ request.refundApplicationId = none ∧ order.status = .credited ∧
    ∀ row ∈ payments.refundOrders.rows,
      ¬(row.rechargeOrderId = order.id ∧ row.idempotencyKey = request.idempotencyKey)

/-- The call records a webhook. -/
def Call.isWebhook : Call → Bool
  | .recordVerifiedPaymentWebhook _ _ _ => true
  | _ => false

variable {call : PaymentCall}

theorem execPayment_not_chargesBack (hcall : call.chargesBack = false)
    (h : execPayment (s, call) db = .ok db') :
    (∃ stored, call = .store stored ∧ stored.isWebhook = false ∧ Committed s db stored db') ∨
      Quiet db db' := by
  rcases execPayment_cases h with ⟨stored, rfl, hc⟩ | hq
  · cases hwb : stored.isWebhook with
    | false => exact .inl ⟨stored, rfl, hwb, hc⟩
    | true =>
      cases stored with
      | recordVerifiedPaymentWebhook _ _ _ =>
        rcases recordVerifiedPaymentWebhook_cases h with hq | ⟨_, _, _, hvr, _⟩
        · exact .inr hq
        · exact absurd hvr (of_decide_eq_false hcall)
      | _ => cases hwb
  · exact .inr hq

theorem refunding_congr {payments payments' : Payments}
    (hap : payments'.applied (.recharge orderId) = payments.applied (.recharge orderId))
    (hdr : refundSum RefundOrder.direct payments' orderId =
      refundSum RefundOrder.direct payments orderId) :
    refunding orderId payments' = refunding orderId payments := by
  rw [refunding, refunding, hap, hdr]

theorem Quiet.refunding (h : Quiet db db') (orderId : Uuid) :
    refunding orderId db'.payments = refunding orderId db.payments :=
  refunding_congr (by rw [Payments.applied, Payments.applied, h.refundApplications])
    (refundSum_of_terms direct_terms h.refundOrders orderId)

theorem CreatesRefund.refunding (h : CreatesRefund s order refund db db') (orderId : Uuid) :
    refunding orderId db'.payments = refunding orderId db.payments +
      if order.id = orderId ∧ refund.refundApplicationId = none then order.amount.units else 0 := by
  have hcl : (if refund.rechargeOrderId = orderId then refund.direct else 0) =
      if order.id = orderId ∧ refund.refundApplicationId = none then order.amount.units else 0 := by
    rw [h.rechargeOrderId]
    by_cases hid : order.id = orderId
    · rw [if_pos hid]
      by_cases hnone : refund.refundApplicationId = none
      · have ham : refund.amount = order.amount := by
          rcases h.approved with ⟨_, hwh⟩ | ⟨_, _, hsome, _⟩
          · exact hwh
          · rw [hnone] at hsome
            cases hsome
        have hopen : refund.status.isOpen := by
          rw [h.status]
          rfl
        rw [if_pos ⟨hid, hnone⟩, direct, if_pos ⟨hnone, .inl hopen⟩, ham]
      · rw [if_neg fun hboth => hnone hboth.2]
        exact if_neg fun hdr => hnone hdr.1
    · rw [if_neg hid, if_neg fun hboth => hid hboth.1]
  rw [Store.refunding, Store.refunding, h.applied, refundSum_insert direct h.refundOrders, hcl, add_assoc]

theorem FailsRefund.refunding_le (h : FailsRefund s order refund db db')
    (hmem : refund ∈ db.payments.refundOrders.rows) (orderId : Uuid) :
    refunding orderId db'.payments ≤ refunding orderId db.payments := by
  obtain ⟨code, hrp⟩ := h.refundOrders
  have hap : db'.payments.applied (.recharge orderId) ≤ db.payments.applied (.recharge orderId) := by
    rw [applied_eq, h.refundApplications, finishApplication, sum_rewrite]
    refine sum_le_sum fun row _ => ?_
    split
    · rw [RefundApplication.claims, if_neg fun hlive => Bool.false_ne_true hlive.2]
      exact row.claims_nonneg _
    · exact le_refl _
  have hdr := refundSum_replace direct hrp hmem (refund.fail_key code) orderId
  have hnn : 0 ≤ refund.direct := ite_nonneg refund.amount.nonneg le_rfl
  rw [refund.direct_fail] at hdr
  unfold refunding
  split at hdr <;> omega

theorem CompletesRefund.refunding (h : CompletesRefund s order refund db db')
    (hmem : refund ∈ db.payments.refundOrders.rows) (hopen : refund.status.isOpen) (orderId : Uuid) :
    refunding orderId db'.payments = refunding orderId db.payments := by
  obtain ⟨refundNo, hrp⟩ := h.refundOrders
  refine refunding_congr (applied_complete h.refundApplications _) ?_
  rw [refundSum_replace direct hrp hmem (refund.succeed_key s refundNo),
    refund.direct_succeed hopen, sub_self, ite_self, add_zero]

theorem execPayment_refunding_le (hcall : call.chargesBack = false)
    (h : execPayment (s, call) db = .ok db') (orderId : Uuid) :
    refunding orderId db'.payments ≤ refunding orderId db.payments ∨
      ∃ req, call = .store (.createRefundOrder req) ∧
        ∃ order ∈ db.payments.rechargeOrders.rows, order.id = orderId ∧ req.direct order db.payments ∧
          refunding orderId db'.payments = refunding orderId db.payments + order.amount.units := by
  have hsame (hpy : db'.payments = db.payments) :
      refunding orderId db'.payments ≤ refunding orderId db.payments := by rw [hpy]
  rcases execPayment_not_chargesBack hcall h with ⟨_, rfl, hwb, hc⟩ | hq
  · cases hc with
    | quiet hq => exact .inl (hq.refunding orderId).le
    | reserve _ _ _ _ hcall | settle _ _ _ hcall | adjust _ _ _ _ hcall | reverse _ _ _ hcall
    | manual hcall | reconcile _ _ hcall => exact .inl (hsame hcall.payments)
    | credit _ _ hcrs =>
      rw [hcrs.payments]
      exact .inl (le_refl _)
    | @createRefund req _ _ _ _ _ _ =>
      -- The committed call does not say whether the request named an application.
      rcases createRefundOrder_cases h with rfl | ⟨order, refund, ho, hst, hap, hnew, hcr⟩
      · exact .inl (le_refl _)
      · obtain ⟨hmem, hid⟩ := found ho
        have href := hcr.refunding orderId
        split at href
        · next hdr =>
          exact .inr ⟨req, rfl, order, hmem, hdr.1,
            ⟨hid.symm, hap ▸ hdr.2, hst, hnew⟩, href⟩
        · rw [add_zero] at href
          exact .inl href.le
    | failRefund hf _ hfl =>
      exact .inl (hfl.refunding_le (found hf).1 orderId)
    | completeRefund hf hopen hcm =>
      exact .inl (hcm.refunding (found hf).1 hopen orderId).le
    | chargeback _ _ _ => cases hwb
  · exact .inl (hq.refunding orderId).le

/-- Refunds without an application are of all their order paid, and every open refund has a hold. -/
structure RefundsHeld (db : Db) : Prop where
  whole : ∀ refund ∈ db.payments.refundOrders.rows, refund.refundApplicationId = none →
    ∃ order ∈ db.payments.rechargeOrders.rows, order.id = refund.rechargeOrderId ∧ order.amount = refund.amount
  held : ∀ refund ∈ db.payments.refundOrders.rows, refund.status.isOpen →
    ∃ hold ∈ db.cash.refundHolds.rows, hold.refundOrderId = refund.id

theorem CashMoved.refundHolds_kept (h : CashMoved db db') : Table.Kept (fun hold hold' =>
    hold'.refundOrderId = hold.refundOrderId) db.cash.refundHolds db'.cash.refundHolds := by
  rcases h.holds with hview | ⟨hold, hins, _⟩
  · exact .of_view (fun hold hold' hsame => congrArg Prod.fst hsame) hview
  · exact .of_insert (fun _ => rfl) hins

theorem RefundsHeld.committed {call : Call} (h : RefundsHeld db) (hln : CashLinked db)
    (hc : Committed s db call db') (hcall : call.reconciles = false) : RefundsHeld db' := by
  have hmv := hc.cashMoved hln hcall
  have hor {order : RechargeOrder} (ho : order ∈ db.payments.rechargeOrders.rows) {id : Uuid}
      (hid : order.id = id) {amount : Money} (ham : order.amount = amount) :
      ∃ order' ∈ db'.payments.rechargeOrders.rows, order'.id = id ∧ order'.amount = amount := by
    obtain ⟨order', ho', hlat⟩ := hc.rechargeOrders_kept order ho
    exact ⟨order', ho', hlat.id.trans hid, hlat.amount.trans ham⟩
  refine ⟨fun refund' hr' hnone => ?_, fun refund' hr' hopen => ?_⟩
  · rcases hc.refund_cases hr' with ⟨refund, hr, hlat, hap, _⟩ |
      ⟨order, ho, hcr⟩ | ⟨order, ho, hid, ham, _⟩
    · obtain ⟨order, ho, hid, ham⟩ := h.whole refund hr (hap.symm.trans hnone)
      exact hor ho (hid.trans hlat.rechargeOrderId.symm) (ham.trans hlat.amount.symm)
    · rcases hcr.approved with ⟨_, hwh⟩ | ⟨_, _, hsome, _⟩
      · exact hor ho hcr.rechargeOrderId.symm hwh.symm
      · rw [hnone] at hsome
        cases hsome
    · exact hor ho hid.symm ham.symm
  · rcases hc.refund_cases hr' with ⟨refund, hr, hlat, _⟩ |
      ⟨order, _, hcr⟩ | ⟨_, _, _, _, hsuc, _⟩
    · obtain ⟨hold, hhold, hown⟩ := h.held refund hr (hlat.wasOpen hopen)
      obtain ⟨hold', hhold', hkept⟩ := hmv.refundHolds_kept hold hhold
      exact ⟨hold', hhold', hkept.trans (hown.trans hlat.id.symm)⟩
    · obtain ⟨_, _, _, _, hold, _, hins, hown, _⟩ := reserveRefundCashTx_sound hln.sound hcr.cash
      exact ⟨hold, (mem_insert hins).mpr (.inl rfl), hown⟩
    · rw [hsuc] at hopen
      cases hopen

theorem RefundBooks.open_le_held (h : RefundBooks db) (hheld : RefundsHeld db)
    (hr : refund ∈ db.payments.refundOrders.rows) (hopen : refund.status.isOpen)
    (hlot : lot ∈ db.cash.lots.rows) (ho : lot.rechargeOrderId = some refund.rechargeOrderId) :
    refund.amount.units ≤ heldOn (fun hold => hold.cashLotId = lot.id) db.cash.refundHolds := by
  obtain ⟨hold, hhold, hown⟩ := hheld.held refund hr hopen
  obtain ⟨lot', hlot', hld, owner, howr, howd, ho'⟩ := h.holds hold hhold
  obtain rfl : owner = refund := eq_of_rowId howr hr (howd.trans hown)
  obtain rfl : lot' = lot := lot_eq_of_order hlot ho hlot' ho'
  obtain ⟨source, hsrc, hsr, _⟩ := h.lots lot' hlot' owner.rechargeOrderId ho'
  have hf : db.payments.rechargeOrders.find? owner.rechargeOrderId = some source :=
    find?_eq_some.mpr ⟨hsrc, hsr⟩
  obtain ⟨hun, _⟩ := h.linked.openRefundHold hr hopen hf hold hhold hown
  have hrs := h.linked.refundAmount hr hhold hown
  have hterm : (if hold.settledAt = none ∧ decide (hold.cashLotId = lot'.id)
      then hold.reservedAmount.units else 0) = owner.amount.units := by
    rw [if_pos ⟨hun, decide_eq_true hld.symm⟩, hrs]
  rw [← hterm]
  exact le_sum_of_mem (fun row _ => ite_nonneg row.reservedAmount.nonneg le_rfl) hhold

theorem RefundDebited.amount_le_netDebited (h : RefundDebited db refund) (hsn : db.cash.Sound)
    (hlot : lot ∈ db.cash.lots.rows) (ho : lot.rechargeOrderId = some refund.rechargeOrderId) :
    refund.amount.units ≤ db.cash.netDebited lot.id := by
  refine (h.amount_le hsn hlot ho).trans ?_
  rw [hsn.netDebited_eq]
  refine sum_le_sum fun row hrow => ?_
  split
  · exact le_refl _
  · exact hsn.debitedOn_nonneg lot.id row hrow

theorem RefundBooks.direct_eq_zero (h : RefundBooks db) (hheld : RefundsHeld db)
    (hnot : ∀ order ∈ db.payments.rechargeOrders.rows, order.status ≠ .chargeback)
    (hleft : 0 < db.cash.refundableOn orderId) :
    refundSum RefundOrder.direct db.payments orderId = 0 := by
  obtain ⟨lot, hlot, ho, _⟩ : ∃ lot ∈ db.cash.lots.rows,
      lot.rechargeOrderId = some orderId ∧ 0 < lot.remainingAmount.units := by
    unfold Cash.refundableOn at hleft
    split at hleft
    · next lot hf =>
      obtain ⟨hlot, ho⟩ := queried hf
      exact ⟨lot, hlot, ho, hleft⟩
    · exact absurd hleft (lt_irrefl 0)
  have hcn := h.linked.sound.conserved lot hlot
  rw [Cash.accounted, remainingAt_of_mem hlot] at hcn
  have hfn := heldOn_nonneg (fun hold => hold.cashLotId = lot.id) db.cash.fundingHolds
  have href := heldOn_nonneg (fun hold => hold.cashLotId = lot.id) db.cash.refundHolds
  have hds : 0 ≤ db.cash.netDebited lot.id :=
    h.linked.sound.netDebited_eq lot.id ▸ sum_nonneg (h.linked.sound.debitedOn_nonneg lot.id)
  refine sum_eq_zero fun refund hr => ?_
  split
  · next hid =>
    -- A refund of all the order paid would be missing from its lot, and nothing would be left.
    refine if_neg ?_
    rintro ⟨hnone, hstan⟩
    have hlo : lot.rechargeOrderId = some refund.rechargeOrderId := hid ▸ ho
    obtain ⟨order, hmem, hor, ham⟩ := hheld.whole refund hr hnone
    obtain ⟨paid, hpaid, hpd, hpt⟩ := h.lots lot hlot refund.rechargeOrderId hlo
    obtain rfl : paid = order := eq_of_rowId hpaid hmem (hpd.trans hor.symm)
    have hwh : refund.amount.units = lot.originalAmount.units := by rw [← ham, hpt]
    rcases hstan with hopen | hsuc
    · have hms := h.open_le_held hheld hr hopen hlot hlo
      omega
    · rcases h.debited refund hr hsuc with hdb | ⟨back, hback, _, hst⟩
      · have hms := hdb.amount_le_netDebited h.linked.sound hlot hlo
        omega
      · exact hnot back hback hst
  · rfl

/-- Every invoice item belongs to a stored application. -/
def ItemsLinked (st : FinanceDb) : Prop :=
  ∀ item ∈ st.invoiceItems.rows, (st.invoiceApplications.find? item.invoiceApplicationId).isSome

/-- What the items of selected applications attribute to a payment. -/
def attributed (selected : Uuid → Bool) (source : PaymentSource) (items : Table InvoiceItem) : ℤ :=
  items.sum fun item =>
    if item.source = source ∧ selected item.invoiceApplicationId then item.amount.units else 0

variable {orgId : Uuid} {currency : String} {start finish : Day}

theorem openSources_nodup (st : FinanceDb) (orgId : Uuid) (currency : String) (start finish : Day) :
    ((st.openSources orgId currency start finish).map InvoiceSource.source).Nodup := by
  have hrs : ((st.rechargeSources orgId currency start finish).map
      InvoiceSource.source).Nodup := by
    rw [rechargeSources, List.map_map]
    exact nodup_label _ fun a b hsame => PaymentSource.recharge.inj hsame
  have hss : ((st.subscriptionSources orgId currency start finish).map
      InvoiceSource.source).Nodup := by
    rw [subscriptionSources, List.map_map]
    exact nodup_label _ fun a b hsame => PaymentSource.subscription.inj hsame
  have hpaid : ((st.paidSources orgId currency start finish).map InvoiceSource.source).Nodup := by
    rw [paidSources, List.map_append]
    refine hrs.append hss fun source hrec hsub => ?_
    simp only [rechargeSources, subscriptionSources, List.map_map, List.mem_map] at hrec hsub
    obtain ⟨_, _, rfl⟩ := hrec
    obtain ⟨_, _, hsame⟩ := hsub
    cases hsame
  have hperm := (List.perm_insertionSort (fun a b : InvoiceSource => a.paidAt < b.paidAt ∨
    a.paidAt = b.paidAt ∧ a.source.id ≤ b.source.id) ((st.paidSources orgId currency start
      finish).filter fun source => st.invoiced source.source < source.gross)).map InvoiceSource.source
  exact hperm.nodup_iff.mpr (hpaid.sublist (List.filter_sublist.map _))

theorem attributeInvoice_eq_ok {currency : Currency} {units : ℤ}
    (h : attributeInvoice s appId currency items source units = .ok items') :
    ∃ item, item.invoiceApplicationId = appId ∧ item.source = source.source ∧
      item.amount.units = units ∧ Inserts items item items' := by
  simp only [attributeInvoice, eq_ok, money_eq_ok] at h
  obtain ⟨_, ham, _, h⟩ := h
  exact ⟨_, rfl, rfl, ham, h⟩

/-- What submitting an invoice application writes. -/
structure SubmitsInvoice (request : CreateInvoiceApplicationRequest) (st : FinanceDb)
    (application : InvoiceApplication) (st' : FinanceDb) : Prop where
  organizationId : request.organizationId = some application.organizationId
  new : ∀ row ∈ st.invoiceApplications.rows, ¬(request.organizationId = some row.organizationId ∧
    row.idempotencyKey = request.idempotencyKey)
  status : application.status = .submitted
  inserted : st.invoiceApplications.insert application StoreError.uniqueViolation = .ok st'.invoiceApplications
  db : st'.db = st.db
  items : ∀ item ∈ st'.invoiceItems.rows,
    item.invoiceApplicationId = application.id ∨ item ∈ st.invoiceItems.rows
  attributed_le : ∀ selected source bound, (∀ paid ∈ st.openSources application.organizationId
      (Text.toUpper (Text.trimSpace request.currency)) request.periodStart request.periodEnd,
        paid.source = source → paid.gross ≤ bound) →
    attributed selected source st'.invoiceItems ≤ attributed selected source st.invoiceItems +
      max 0 (bound - st.invoiced source)

theorem attributed_takes_le (h : takeEach (fun source => source.gross - st.invoiced source.source)
      (attributeInvoice s appId itemCurrency) (st.openSources orgId currency start finish)
      amount st.invoiceItems = .ok (remaining, items'))
    (selected : Uuid → Bool) (source : PaymentSource) {bound : ℤ}
    (hbd : ∀ paid ∈ st.openSources orgId currency start finish, paid.source = source →
      paid.gross ≤ bound) :
    attributed selected source items' ≤ attributed selected source st.invoiceItems +
      max 0 (bound - st.invoiced source) := by
  obtain ⟨hrun, _⟩ := takeEach_eq_ok.mp h
  have hsum := foldlM_moves (P := fun _ => True) (q := attributed selected source)
    (d := fun part => if part.1.source = source ∧ selected appId then part.2 else 0)
    (fun part _ items items' _ hstep => by
      obtain ⟨_, hap, hsr, hu, hins⟩ := attributeInvoice_eq_ok hstep
      refine ⟨trivial, ?_⟩
      rw [attributed, sum_insert hins, hap, hsr, hu, add_comm, attributed])
    trivial hrun
  have htk : ((takes (fun source => source.gross - st.invoiced source.source)
      (st.openSources orgId currency start finish) amount).map fun part =>
        if part.1.source = source then part.2 else 0).sum ≤ max 0 (bound - st.invoiced source) := by
    refine sum_takes_le InvoiceSource.source source (le_max_left _ _)
      (openSources_nodup st orgId currency start finish) fun paid hpaid hsame => ?_
    have hgr := hbd paid hpaid hsame
    rw [hsame]
    omega
  rw [hsum]
  refine add_le_add_right ?_ _
  by_cases hsl : selected appId
  · simpa only [hsl, and_true] using htk
  · simp [hsl]

theorem attributed_items {sources : List InvoiceSource} {capacity : InvoiceSource → ℤ}
    (h : takeEach capacity (attributeInvoice s appId itemCurrency) sources amount items =
      .ok (remaining, items')) :
    ∀ item ∈ items'.rows, item.invoiceApplicationId = appId ∨ item ∈ items.rows := by
  obtain ⟨hrun, _⟩ := takeEach_eq_ok.mp h
  refine foldlM_invariant (P := fun mid : Table InvoiceItem => ∀ item ∈ mid.rows,
    item.invoiceApplicationId = appId ∨ item ∈ items.rows) ?_ (fun _ hitem => .inr hitem) hrun
  intro _ _ mid _ hmid hstep item hitem
  obtain ⟨_, hap, _, _, hins⟩ := attributeInvoice_eq_ok hstep
  rcases (mem_insert hins).mp hitem with rfl | hold
  · exact .inl hap
  · exact hmid item hold

variable {req : CreateInvoiceApplicationRequest}

theorem createInvoiceApplication_cases {replayed : Bool}
    (h : createInvoiceApplication s req st = .ok ((app, replayed), st')) :
    st' = st ∨ SubmitsInvoice req st app st' := by
  simp only [createInvoiceApplication, eq_ok] at h
  obtain ⟨_, _, _, hown, _, _, h⟩ := h
  split at h
  · simp only [eq_ok] at h
    obtain ⟨_, _, _, rfl⟩ := h
    exact .inl rfl
  · next hnone =>
    simp only [eq_ok] at h
    obtain ⟨⟨_, _⟩, hsub, ⟨rfl, _⟩, rfl⟩ := h
    simp only [submitInvoiceApplication, newInvoiceApplication, eq_ok] at hsub
    obtain ⟨_, _, _, ⟨_, _, _, _, _, rfl⟩, _, hins, ⟨_, _⟩, hitem, _, _, rfl, rfl⟩ := hsub
    have hnew : ∀ row ∈ st.invoiceApplications.rows, ¬(req.organizationId = some row.organizationId ∧
        row.idempotencyKey = req.idempotencyKey) := by
      rintro row hrow ⟨hsame, hkey⟩
      have hne := List.find?_eq_none.mp hnone row hrow
      simp only [decide_eq_true_eq] at hne
      exact hne ⟨Option.mem_unique hsame hown, hkey⟩
    exact .inr ⟨hown, hnew, rfl, hins, rfl, attributed_items hitem,
      fun selected source bound hbd => attributed_takes_le hitem selected source hbd⟩

/-- The invoice application still stands. -/
def FinanceDb.stands (st : FinanceDb) (applicationId : Uuid) : Bool :=
  (st.invoiceApplications.find? applicationId).any fun application => application.status.isLive

theorem invoiced_eq (st : FinanceDb) (source : PaymentSource) :
    st.invoiced source = attributed st.stands source st.invoiceItems := rfl

theorem SubmitsInvoice.invoiced_le (h : SubmitsInvoice req st app st')
    (hln : ItemsLinked st) (source : PaymentSource) {bound : ℤ}
    (hbd : ∀ paid ∈ st.openSources app.organizationId
      (Text.toUpper (Text.trimSpace req.currency)) req.periodStart req.periodEnd,
        paid.source = source → paid.gross ≤ bound) :
    st'.invoiced source ≤ max (st.invoiced source) bound := by
  have hle := h.attributed_le st'.stands source bound hbd
  have hold : attributed st'.stands source st.invoiceItems = attributed st.stands source st.invoiceItems := by
    refine sum_congr fun item hitem => ?_
    obtain ⟨_, hstor⟩ := Option.isSome_iff_exists.mp (hln item hitem)
    obtain ⟨hmem, hid⟩ := found hstor
    have hne : ¬rowId app = item.invoiceApplicationId := fun hsame =>
      rowId_ne_of_insert h.inserted hmem (hid.trans hsame.symm)
    rw [stands, stands, find?_insert h.inserted, if_neg hne]
  rw [hold, ← invoiced_eq, ← invoiced_eq] at hle
  omega

theorem decideInvoiceApplication_cases (h : decideInvoiceApplication appId decision st = .ok st') :
    st'.db = st.db ∧ st'.invoiceItems = st.invoiceItems ∧
      ∀ id, (st.invoiceApplications.find? id).isSome = (st'.invoiceApplications.find? id).isSome ∧
        (st'.stands id → st.stands id) := by
  simp only [decideInvoiceApplication, eq_ok] at h
  obtain ⟨_, _, app, hf, h⟩ := h
  split at h <;> simp only [eq_ok] at h
  · obtain ⟨_, _, rfl⟩ := h
    exact ⟨rfl, rfl, fun id => ⟨rfl, fun hstan => hstan⟩⟩
  · obtain ⟨_, hopen, rfl⟩ := h
    refine ⟨rfl, rfl, fun id => ?_⟩
    obtain ⟨hmem, _⟩ := found hf
    have hfind (status : InvoiceStatus) :
        (st.invoiceApplications.replace (app.decide status decision)).find? id =
          if rowId app = id then some (app.decide status decision)
          else st.invoiceApplications.find? id :=
      find?_replace hmem (by rfl) id
    simp only [stands, hfind]
    by_cases hsame : rowId app = id
    · rw [if_pos hsame, ← hsame, find?_of_mem hmem]
      refine ⟨rfl, fun _ => ?_⟩
      rcases hopen with h | h <;> simp [h, InvoiceStatus.isLive]
    · rw [if_neg hsame]
      exact ⟨rfl, fun hstan => hstan⟩

theorem attributed_mono (h : ∀ id, selected' id → selected id) (source : PaymentSource) :
    attributed selected' source items ≤ attributed selected source items := by
  refine sum_le_sum fun item _ => ?_
  by_cases hsl : item.source = source ∧ selected' item.invoiceApplicationId
  · rw [if_pos hsl, if_pos ⟨hsl.1, h _ hsl.2⟩]
  · rw [if_neg hsl]
    exact ite_nonneg item.amount.nonneg le_rfl

/-- An order that an invoice application may be attributed to. -/
def CreateInvoiceApplicationRequest.covers (request : CreateInvoiceApplicationRequest)
    (order : RechargeOrder) : Prop :=
  request.organizationId = some order.organizationId ∧
    order.currency.code = Text.toUpper (Text.trimSpace request.currency) ∧
    (order.status = .credited ∨ order.status = .refundPending ∨ order.status = .refunded) ∧
    paidWithin request.periodStart request.periodEnd order.creditedAt

/-- A refund of a whole order without an application is created only while nothing of the order is
invoiced or being refunded, and an invoice is applied for only while every standing refund of the
orders it may be attributed to has succeeded. -/
def KeepsApart (st : FinanceDb) (invocation : Session × FinanceCall) : Prop :=
  match invocation.2 with
  | .payment (.store (.createRefundOrder request)) =>
    ∀ order ∈ st.db.payments.rechargeOrders.rows, request.direct order st.db.payments →
      st.invoiced (.recharge order.id) + refunding order.id st.db.payments = 0
  | .createInvoiceApplication request =>
    (∀ row ∈ st.invoiceApplications.rows, ¬(request.organizationId = some row.organizationId ∧
      row.idempotencyKey = request.idempotencyKey)) →
    ∀ order ∈ st.db.payments.rechargeOrders.rows, request.covers order →
      refunding order.id st.db.payments ≤ takenBack order.id st.db.payments
  | _ => True

/-- What is invoiced and refunded of every order is within what it paid, and the books that this
rests on. -/
structure ClaimsBounded (st : FinanceDb) : Prop where
  books : RefundBooks st.db
  held : RefundsHeld st.db
  uncharged : ∀ order ∈ st.db.payments.rechargeOrders.rows, order.status ≠ .chargeback
  linked : ItemsLinked st
  bounded : ∀ order ∈ st.db.payments.rechargeOrders.rows,
    st.invoiced (.recharge order.id) + refunding order.id st.db.payments ≤ order.amount.units

theorem OrderStep.not_chargeback {account account' : OrderAccount}
    (h : OrderStep db order call account account') (hcall : call.chargesBack = false)
    (hst : account.status ≠ .chargeback) : account'.status ≠ .chargeback := by
  cases h with
  | @stay _ _ _ _ _ hkept =>
    rcases hkept with rfl | ⟨_, hopen⟩
    · exact hst
    · rintro rfl
      cases hopen
  | credit | createRefund => exact fun hno => nomatch hno
  | failRefund =>
    split
    · exact fun hno => nomatch hno
    · exact hst
  | completeRefund =>
    split <;> exact fun hno => nomatch hno
  | chargeback _ hvr => exact absurd hvr (of_decide_eq_false hcall)

theorem RefundBooks.setApplications (h : RefundBooks st.db) (apps : Table RefundApplication) :
    RefundBooks (st.setApplications apps).db :=
  ⟨⟨h.linked.sound, h.linked.funding, h.linked.refund⟩, h.lots, h.holds, h.debited⟩

theorem RefundBooks.refundableOn_le (h : RefundBooks db) (hmem : order ∈ db.payments.rechargeOrders.rows) :
    db.cash.refundableOn order.id ≤ order.amount.units := by
  unfold Cash.refundableOn
  split
  · next lot hf =>
    obtain ⟨hlot, hfor⟩ := queried hf
    obtain ⟨paid, hpaid, hpd, ham⟩ := h.lots lot hlot order.id hfor
    obtain rfl : paid = order := eq_of_rowId hpaid hmem hpd
    rw [ham]
    exact lot.remaining_le
  · exact order.amount.nonneg

theorem ClaimsBounded.payment (h : ClaimsBounded st) (hcall : call.reconciles = false)
    (hback : call.chargesBack = false) (hok : KeepsApart st (s, .payment call))
    (hexec : execPayment (s, call) st.db = .ok db') : ClaimsBounded { st with db := db' } := by
  refine ⟨h.books.exec hcall hexec, ?_, fun order' ho' => ?_, h.linked, fun order' ho' => ?_⟩
  · rcases execPayment_cases hexec with ⟨_, rfl, hc⟩ | hq
    · exact h.held.committed h.books.linked hc hcall
    · have hc : Committed s st.db (.heartbeatFunding 0 0) db' := .quiet hq
      exact h.held.committed h.books.linked hc rfl
  · obtain ⟨order, ho, _, hstep⟩ := execPayment_walked hexec ho'
    exact hstep.not_chargeback hback (h.uncharged order ho)
  · obtain ⟨order, ho, hlat, _⟩ := execPayment_walked hexec ho'
    rw [hlat.id, hlat.amount]
    have hbn := h.bounded order ho
    change st.invoiced (.recharge order.id) + refunding order.id db'.payments ≤ order.amount.units
    rcases execPayment_refunding_le hback hexec order.id with
      hle | ⟨req, rfl, source, hsr, hid, hdr, href⟩
    · omega
    · obtain rfl : source = order := eq_of_rowId hsr ho hid
      have hnone := hok source ho hdr
      omega

theorem RechargeOrder.gross_eq (order : RechargeOrder) (payments : Payments) :
    order.gross payments = max (order.amount.units - takenBack order.id payments) 0 := by
  have hsum : (payments.refundOrders.sum fun refund =>
      if refund.rechargeOrderId = order.id ∧ refund.status = .succeeded then refund.amount.units else 0) =
        takenBack order.id payments := by
    refine sum_congr fun refund _ => ?_
    unfold taken
    split <;> split <;> simp_all
  rw [RechargeOrder.gross, hsum]

theorem covers_of_mem {paid : InvoiceSource} (hown : req.organizationId = some orgId)
    (hmem : order ∈ st.db.payments.rechargeOrders.rows)
    (hpaid : paid ∈ st.openSources orgId (Text.toUpper (Text.trimSpace req.currency))
      req.periodStart req.periodEnd) (hsr : paid.source = .recharge order.id) :
    req.covers order ∧ paid.gross = order.gross st.db.payments := by
  have hmt := List.mem_of_mem_filter ((List.perm_insertionSort _ _).mem_iff.mp hpaid)
  rcases List.mem_append.mp hmt with hrec | hsub
  · obtain ⟨covered, hcv, rfl⟩ := List.mem_map.mp hrec
    obtain ⟨hstor, hmt⟩ := List.mem_filter.mp hcv
    obtain rfl : covered = order := eq_of_rowId hstor hmem (PaymentSource.recharge.inj hsr)
    obtain ⟨horg, hcr, hst, hpr⟩ := of_decide_eq_true hmt
    exact ⟨⟨hown.trans (congrArg some horg.symm), hcr, hst, hpr⟩, rfl⟩
  · obtain ⟨_, _, rfl⟩ := List.mem_map.mp hsub
    cases hsr

section

variable (h : ClaimsBounded st)
include h

theorem ClaimsBounded.applyRefund {req : CreateRefundApplicationRequest}
    {result : (RefundApplication × Bool) × FinanceDb}
    (hexec : createRefundApplication s req st = .ok result) : ClaimsBounded result.2 := by
  obtain ⟨⟨app, _⟩, _⟩ := result
  rcases createRefundApplication_cases hexec with ⟨_, _, _, rfl⟩ | ⟨_, _, _, _, hsub, _⟩
  · exact h
  · obtain ⟨apps, _, hst⟩ := hsub.written
    have hap := hsub.applied
    obtain ⟨_, hup, _⟩ := hsub.within
    subst hst
    refine ⟨h.books.setApplications apps, ⟨h.held.whole, h.held.held⟩, h.uncharged, h.linked,
      fun order ho => ?_⟩
    have hbn := h.bounded order ho
    have hdr : refundSum direct (st.setApplications apps).db.payments order.id =
      refundSum direct st.db.payments order.id := rfl
    change st.invoiced (.recharge order.id) + refunding order.id
      (st.setApplications apps).db.payments ≤ order.amount.units
    rw [refunding, hap]
    unfold refunding at hbn
    split
    · next hsr =>
      subst hsr
      obtain ⟨rfl, _⟩ := hup
      have hap := applied_nonneg st.db.payments (.recharge order.id)
      have hinv := invoiced_nonneg st (.recharge order.id)
      have hpos := app.positive
      have hnone := h.books.direct_eq_zero h.held h.uncharged
        (show 0 < st.db.cash.refundableOn order.id by omega)
      have hleft := h.books.refundableOn_le ho
      omega
    · omega

theorem ClaimsBounded.decideRefund
    (hexec : decideRefundApplication appId decision st = .ok st') : ClaimsBounded st' := by
  have hap := fun source => (decideRefundApplication_applied hexec source).1
  rcases decideRefundApplication_cases hexec with rfl | ⟨_, _, _, _, _, _, rfl⟩
  · exact h
  · refine ⟨h.books.setApplications _, ⟨h.held.whole, h.held.held⟩, h.uncharged, h.linked, fun order ho => ?_⟩
    refine le_trans ?_ (h.bounded order ho)
    exact add_le_add_right (add_le_add_left (hap _) _) _

theorem ClaimsBounded.applyInvoice {result : (InvoiceApplication × Bool) × FinanceDb}
    (hok : KeepsApart st (s, .createInvoiceApplication req))
    (hexec : createInvoiceApplication s req st = .ok result) : ClaimsBounded result.2 := by
  obtain ⟨_, st'⟩ := result
  rcases createInvoiceApplication_cases hexec with rfl | hsub
  · exact h
  · have hset := hok hsub.new
    have hln : ItemsLinked st' := by
      intro item hitem
      rw [find?_insert hsub.inserted]
      rcases hsub.items item hitem with hnew | hold
      · exact congrArg Option.isSome (if_pos hnew.symm)
      · split
        · rfl
        · exact h.linked item hold
    have hbk := h.books
    have hheld := h.held
    have hun := h.uncharged
    rw [← hsub.db] at hbk hheld hun
    refine ⟨hbk, hheld, hun, hln, fun order ho => ?_⟩
    have hbn := h.bounded order (hsub.db ▸ ho)
    change st'.invoiced _ + refunding order.id st'.db.payments ≤ _
    rw [hsub.db] at ho ⊢
    by_cases hcv : req.covers order
    · have href := hset order ho hcv
      have htk := h.books.takenBack_le ho (h.uncharged order ho)
      have hle : st'.invoiced (.recharge order.id) ≤ max (st.invoiced (.recharge order.id))
          (order.gross st.db.payments) := hsub.invoiced_le h.linked _ fun paid hpaid hsr =>
        (covers_of_mem hsub.organizationId ho hpaid hsr).2.le
      rw [order.gross_eq] at hle
      omega
    · have hle : st'.invoiced (.recharge order.id) ≤ max (st.invoiced (.recharge order.id))
          (st.invoiced (.recharge order.id)) := hsub.invoiced_le h.linked _ fun paid hpaid hsr =>
        absurd (covers_of_mem hsub.organizationId ho hpaid hsr).1 hcv
      omega

theorem ClaimsBounded.decideInvoice
    (hexec : decideInvoiceApplication appId decision st = .ok st') : ClaimsBounded st' := by
  obtain ⟨hdb, hites, hfw⟩ := decideInvoiceApplication_cases hexec
  have hln : ItemsLinked st' := by
    intro item hitem
    rw [← (hfw item.invoiceApplicationId).1]
    exact h.linked item (hites ▸ hitem)
  have hbk := h.books
  have hheld := h.held
  have hun := h.uncharged
  rw [← hdb] at hbk hheld hun
  refine ⟨hbk, hheld, hun, hln, fun order ho => ?_⟩
  rw [hdb] at ho ⊢
  refine le_trans (add_le_add_left ?_ _) (h.bounded order ho)
  rw [invoiced_eq, hites]
  exact attributed_mono (fun id => (hfw id).2) _

end

/-- The call resolves a reconciliation case or records a chargeback. -/
def FinanceCall.outside : FinanceCall → Bool
  | .payment call => call.reconciles || call.chargesBack
  | _ => false

theorem ClaimsBounded.exec {call : FinanceCall} (h : ClaimsBounded st) (hcall : call.outside = false)
    (hok : KeepsApart st (s, call)) (hexec : execFinance (s, call) st = .ok st') : ClaimsBounded st' := by
  cases call with
  | payment call =>
    obtain ⟨_, hpy, rfl⟩ := map_eq_ok.mp hexec
    obtain ⟨hrec, hback⟩ := Bool.or_eq_false_iff.mp hcall
    exact h.payment hrec hback hok hpy
  | createRefundApplication req =>
    obtain ⟨result, hap, rfl⟩ := map_eq_ok.mp hexec
    exact h.applyRefund hap
  | decideRefundApplication appId decision => exact h.decideRefund hexec
  | createInvoiceApplication req =>
    obtain ⟨result, hap, rfl⟩ := map_eq_ok.mp hexec
    exact h.applyInvoice hok hap
  | decideInvoiceApplication appId decision => exact h.decideInvoice hexec

theorem Genesis.claimsBounded (h : Genesis st.db) (hap : st.db.payments.refundApplications.rows = [])
    (hitem : st.invoiceItems.rows = []) : ClaimsBounded st := by
  have href := h.refundOrders
  refine ⟨h.refundBooks, ⟨?_, ?_⟩, fun order ho hst => ?_, ?_, fun order _ => ?_⟩
  · simp [href]
  · simp [href]
  · have hopen := h.rechargeOrders order ho
    rw [hst] at hopen
    cases hopen
  · simp [ItemsLinked, hitem]
  · have hzero : st.invoiced (.recharge order.id) + refunding order.id st.db.payments = 0 := by
      simp [invoiced, refunding, Payments.applied, refundSum, sum, hitem, hap, href]
    rw [hzero]
    exact order.amount.nonneg

/-- Whatever is applied for, invoiced, refunded and charged: as long as refunds without an application
leave invoiced and claimed orders alone, and invoices wait for the refunds of their orders, no order
has more invoiced and refunded than it paid. -/
theorem invoiced_add_refunding_le (h : Genesis st.db)
    (happlications : st.db.payments.refundApplications.rows = []) (hitems : st.invoiceItems.rows = [])
    (calls : List (Session × FinanceCall)) (hcalls : ∀ inv ∈ calls, inv.2.outside = false)
    (hapart : AlongChanges execFinance KeepsApart st calls) :
    ∀ order ∈ (run execFinance st calls).db.payments.rechargeOrders.rows,
      (run execFinance st calls).invoiced (.recharge order.id) +
        refunding order.id (run execFinance st calls).db.payments ≤ order.amount.units := by
  have hbn : ClaimsBounded (run execFinance st calls) :=
    run_invariant_of_changes (fun st inv st' hinv hok hexec => hinv.exec hok.2 hok.1 hexec)
      (h.claimsBounded happlications hitems) (hapart.and_mem hcalls)
  exact hbn.bounded

/-- The small store without applications and invoices. -/
def demoFinance : FinanceDb := ⟨demoDb, .empty, .empty, .empty⟩

/-- A refund application for part of the first order. -/
def demoRefundApplication (amount : ℤ) : CreateRefundApplicationRequest where
  organizationId := some 1
  sourceType := "RECHARGE"
  rechargeOrderId := some 1
  subscriptionInvoiceId := none
  amount := some amount
  reason := "requested"
  idempotencyKey := "application"
  requestedBy := "member"

/-- An invoice application for what was paid on the first day. -/
def demoInvoiceApplication (amount : ℤ) : CreateInvoiceApplicationRequest where
  organizationId := some 1
  invoiceTitle := "title"
  taxIdentifier := ""
  amount := some amount
  currency := "usd"
  periodStart := 0
  periodEnd := 0
  idempotencyKey := "invoice"
  requestedBy := "member"

/-- 40 of the first order are refunded, and then the other 60 are invoiced. -/
def demoRefundedThenInvoiced : List (Session × FinanceCall) :=
  [(demoSession 1, .payment (.store (.creditPaidRecharge 1))),
    (demoSession 2, .createRefundApplication (demoRefundApplication 40)),
    (demoSession 3, .decideRefundApplication ((demoSession 2).uuid .refundApplication)
      ⟨"APPROVE", "requested", "decision", "operator"⟩),
    (demoSession 4, .payment (.store (.createRefundOrder
      (demoPartialRefund ((demoSession 2).uuid .refundApplication) 40)))),
    (demoSession 5, .payment (.store (.completeRefund ((demoSession 4).uuid .refund) "P1"))),
    (demoSession 6, .createInvoiceApplication (demoInvoiceApplication 60))]

/-- What is not refunded of an order can be invoiced. -/
theorem invoiced_add_refunding_le_demo :
    (run execFinance demoFinance demoRefundedThenInvoiced).invoiced (.recharge 1) = 60 ∧
    ∀ order ∈ (run execFinance demoFinance demoRefundedThenInvoiced).db.payments.rechargeOrders.rows,
      (run execFinance demoFinance demoRefundedThenInvoiced).invoiced (.recharge order.id) +
        refunding order.id (run execFinance demoFinance demoRefundedThenInvoiced).db.payments ≤
          order.amount.units := by
  refine ⟨by decide +kernel, invoiced_add_refunding_le demoDb_genesis rfl rfl demoRefundedThenInvoiced
    (by decide) ?_⟩
  refine Along.changes ⟨trivial, trivial, trivial, fun order _ hdr => (nomatch hdr.2.1), trivial, ?_, trivial⟩
  unfold KeepsApart CreateInvoiceApplicationRequest.covers
  decide +kernel

/-- All of the first order is invoiced while its refund is under way, and the refund is completed. -/
def demoInvoicedWhileRefunding : List (Session × FinanceCall) :=
  [(demoSession 1, .payment (.store (.creditPaidRecharge 1))),
    (demoSession 2, .payment (.store (.createRefundOrder (demoRefund 1 100)))),
    (demoSession 3, .createInvoiceApplication (demoInvoiceApplication 100)),
    (demoSession 4, .payment (.store (.completeRefund ((demoSession 2).uuid .refund) "P1")))]

/-- All of the first order is refunded without an application after it was invoiced. -/
def demoRefundedAfterInvoice : List (Session × FinanceCall) :=
  [(demoSession 1, .payment (.store (.creditPaidRecharge 1))),
    (demoSession 2, .createInvoiceApplication (demoInvoiceApplication 100)),
    (demoSession 3, .payment (.store (.createRefundOrder (demoRefund 1 100)))),
    (demoSession 4, .payment (.store (.completeRefund ((demoSession 3).uuid .refund) "P1")))]

/-- An order of 100 units is invoiced and refunded in full, in either order. -/
theorem invoiced_and_refunded_in_full :
    (∃ order ∈ (run execFinance demoFinance demoInvoicedWhileRefunding).db.payments.rechargeOrders.rows,
      order.id = 1 ∧ order.amount.units = 100 ∧
        (run execFinance demoFinance demoInvoicedWhileRefunding).invoiced (.recharge 1) = 100 ∧
        takenBack 1 (run execFinance demoFinance demoInvoicedWhileRefunding).db.payments = 100) ∧
    ∃ order ∈ (run execFinance demoFinance demoRefundedAfterInvoice).db.payments.rechargeOrders.rows,
      order.id = 1 ∧ order.amount.units = 100 ∧
        (run execFinance demoFinance demoRefundedAfterInvoice).invoiced (.recharge 1) = 100 ∧
        takenBack 1 (run execFinance demoFinance demoRefundedAfterInvoice).db.payments = 100 := by
  decide +kernel

end ModelDock.Store
