import ModelDock.Store.Finance

/-!
# What applications claim of a payment

Each call changes what applications claim of a payment in one way: a submitted one adds its amount, a rejected
one takes it back, and the steps of a refund carry its application along until the refund fails.
-/

namespace ModelDock.Store

open Relational Table RefundApplication

variable {s : Session} {st st' : FinanceDb} {payments payments' : Payments}
  {app app' : RefundApplication} {source : PaymentSource} {refundId orgId : Uuid}
  {req : CreateRefundApplicationRequest} {currency : Currency} {amount : ℤ} {decision : Decision}

/-- What an application claims of a payment. -/
def RefundApplication.claims (application : RefundApplication) (source : PaymentSource) : ℤ :=
  if application.source? = some source ∧ application.status.isLive
  then application.requestedAmount.units else 0

theorem applied_eq (payments : Payments) (source : PaymentSource) :
    payments.applied source = payments.refundApplications.sum fun row => row.claims source := rfl

theorem RefundApplication.claims_nonneg (app : RefundApplication) (source : PaymentSource) :
    0 ≤ app.claims source := by
  exact ite_nonneg app.requestedAmount.nonneg le_rfl

theorem applied_nonneg (payments : Payments) (source : PaymentSource) : 0 ≤ payments.applied source :=
  sum_nonneg fun row _ => row.claims_nonneg source

theorem RefundApplication.claims_congr (hsr : app'.source? = app.source?)
    (ham : app'.requestedAmount = app.requestedAmount)
    (hlive : app'.status.isLive = app.status.isLive) (source : PaymentSource) :
    app'.claims source = app.claims source := by
  unfold claims
  rw [hsr, ham, hlive]

theorem CreatesRefund.applied {db db' : Db} {order : RechargeOrder} {refund : RefundOrder}
    (h : CreatesRefund s order refund db db')
    (source : PaymentSource) : db'.payments.applied source = db.payments.applied source := by
  rw [applied_eq, h.refundApplications, startApplication, sum_rewrite]
  refine sum_congr fun row hrow => ?_
  split
  · next hid =>
    rcases h.approved with ⟨hnone, _⟩ | ⟨app, hmem, hsome, _, hst, _⟩
    · rw [hnone] at hid
      cases hid
    · rw [hsome] at hid
      obtain rfl : row = app := eq_of_rowId hrow hmem (Option.some.inj hid)
      refine claims_congr ?_ ?_ ?_ source
      · rfl
      · rfl
      · rw [hst]
        rfl
  · rfl

theorem applied_complete
    (h : payments'.refundApplications = finishApplication refundId .completed payments.refundApplications)
    (source : PaymentSource) : payments'.applied source = payments.applied source := by
  rw [applied_eq, h, finishApplication, sum_rewrite]
  refine sum_congr fun row _ => ?_
  split
  · next hpr =>
    refine claims_congr ?_ ?_ ?_ source
    · rfl
    · rfl
    · rw [hpr.2]
      rfl
  · rfl

theorem invoiced_nonneg (st : FinanceDb) (source : PaymentSource) : 0 ≤ st.invoiced source := by
  exact sum_nonneg fun item _ => ite_nonneg item.amount.nonneg le_rfl

/-- The payment of an application and the most that may be refunded of it. -/
def RefundableUpTo (st : FinanceDb) (organizationId : Uuid) : PaymentSource → ℤ → Prop
  | .recharge orderId, refundable => refundable = st.db.cash.refundableOn orderId ∧
    ∃ order ∈ st.db.payments.rechargeOrders.rows, order.id = orderId ∧
      order.organizationId = organizationId ∧ (order.status = .credited ∨ order.status = .refundPending)
  | .subscription invoiceId, refundable => ∃ invoice ∈ st.subscriptionInvoices.rows,
      invoice.id = invoiceId ∧ refundable = invoice.totalAmount.units

/-- A recharge is refunded by the order named. -/
def AsksFor (request : CreateRefundApplicationRequest) (source : PaymentSource) : Prop :=
  Text.toUpper (Text.trimSpace request.sourceType) = "RECHARGE" →
    ∃ orderId, request.rechargeOrderId = some orderId ∧ source = .recharge orderId

/-- What submitting a refund application writes. -/
structure SubmitsRefund (s : Session) (source : PaymentSource) (st : FinanceDb)
    (application : RefundApplication) (st' : FinanceDb) : Prop where
  id : application.id = s.uuid .refundApplication
  payment : application.source? = some source
  status : application.status = .submitted
  unlinked : application.refundOrderId = none
  within : ∃ refundable, RefundableUpTo st application.organizationId source refundable ∧
    application.requestedAmount.units + (st.db.payments.applied source + st.invoiced source) ≤ refundable
  written : ∃ applications, st.db.payments.refundApplications.insert application
    StoreError.uniqueViolation = .ok applications ∧ st' = st.setApplications applications

theorem refundSource_eq_ok {refundable : ℤ}
    (h : refundSource req orgId st = .ok (source, currency, refundable)) :
    RefundableUpTo st orgId source refundable ∧ AsksFor req source := by
  unfold refundSource at h
  dsimp only at h
  split at h
  · simp only [eq_ok] at h
    obtain ⟨orderId, hnm, order, ho, _, ⟨hown, hst⟩, rfl, _, rfl⟩ := h
    obtain ⟨hmem, hid⟩ := found ho
    exact ⟨⟨rfl, order, hmem, rfl, hown, hst⟩, fun _ => ⟨orderId, hnm, congrArg _ hid⟩⟩
  · next hne =>
    refine ⟨?_, fun hrec => absurd hrec hne⟩
    split at h
    · simp only [eq_ok] at h
      obtain ⟨_, _, invoice, hinv, _, _, rfl, _, rfl⟩ := h
      exact ⟨invoice, (found hinv).1, rfl, rfl⟩
    · cases h

theorem createRefundApplication_cases {replayed : Bool}
    (h : createRefundApplication s req st = .ok ((app, replayed), st')) :
    (app ∈ st.db.payments.refundApplications.rows ∧
        req.organizationId = some app.organizationId ∧
        app.idempotencyKey = req.idempotencyKey ∧ st' = st) ∨
      req.organizationId = some app.organizationId ∧
        app.idempotencyKey = req.idempotencyKey ∧
        req.amount = some app.requestedAmount.units ∧
        ∃ source, SubmitsRefund s source st app st' ∧ AsksFor req source := by
  simp only [createRefundApplication, eq_ok] at h
  obtain ⟨_, ham, _, hown, _, _, h⟩ := h
  split at h
  · next _ hexis =>
    simp only [eq_ok] at h
    obtain ⟨_, _, ⟨rfl, _⟩, rfl⟩ := h
    obtain ⟨hmem, hsame, hkey⟩ := queried hexis
    exact .inl ⟨hmem, hsame ▸ hown, hkey, rfl⟩
  · simp only [submitRefundApplication, newRefundApplication, eq_ok, money_eq_ok] at h
    obtain ⟨_, ⟨⟨source, _, refundable⟩, hsr, _, hcv, _, ⟨_, hrq, _, rfl⟩, apps,
      hins, rfl⟩, ⟨rfl, _⟩, rfl⟩ := h
    obtain ⟨hbd, hrec⟩ := refundSource_eq_ok hsr
    refine .inr ⟨hown, rfl, hrq ▸ ham, source, ⟨rfl, ?_, rfl, rfl,
      ⟨refundable, hbd, hrq ▸ hcv⟩, apps, hins, rfl⟩, hrec⟩
    cases source <;> rfl

/-- A new application adds its amount to what its source is applied for. -/
theorem SubmitsRefund.applied (h : SubmitsRefund s source st app st') (other : PaymentSource) :
    st'.db.payments.applied other = st.db.payments.applied other +
      if source = other then app.requestedAmount.units else 0 := by
  obtain ⟨_, hins, rfl⟩ := h.written
  have hclaim : app.claims other =
      if source = other then app.requestedAmount.units else 0 := by
    unfold claims
    rw [h.payment, h.status]
    simp [ApplicationStatus.isLive]
  rw [← hclaim, add_comm]
  exact sum_insert hins _

theorem RefundApplication.decide_key (app : RefundApplication) (status : ApplicationStatus)
    (decision : Decision) : Keyed.key (app.decide status decision) = Keyed.key app := rfl

theorem decideRefundApplication_cases {appId : Uuid}
    (h : decideRefundApplication appId decision st = .ok st') :
    st' = st ∨ ∃ app ∈ st.db.payments.refundApplications.rows, app.id = appId ∧
      (app.status = .submitted ∨ app.status = .underReview) ∧
      ∃ approve, decision.approves = .ok approve ∧ st' = st.setApplications
        (st.db.payments.refundApplications.replace (app.decide
          (if approve then .approved else .rejected) decision)) := by
  simp only [decideRefundApplication, eq_ok] at h
  obtain ⟨approve, hap, app, hf, h⟩ := h
  obtain ⟨hmem, hid⟩ := found hf
  split at h <;> simp only [eq_ok] at h
  · obtain ⟨_, _, rfl⟩ := h
    exact .inl rfl
  · obtain ⟨_, hopen, rfl⟩ := h
    exact .inr ⟨app, hmem, hid, hopen, approve, hap, rfl⟩

/-- A decision never adds to what is applied for. -/
theorem decideRefundApplication_applied {appId : Uuid}
    (h : decideRefundApplication appId decision st = .ok st') (source : PaymentSource) :
    st'.db.payments.applied source ≤ st.db.payments.applied source ∧
      (decision.approves = .ok true →
        st'.db.payments.applied source = st.db.payments.applied source) := by
  rcases decideRefundApplication_cases h with rfl | ⟨app, hmem, _, hopen, approve, hap, rfl⟩
  · exact ⟨le_refl _, fun _ => rfl⟩
  · have hlive : app.status.isLive := by rcases hopen with h | h <;> rw [h] <;> rfl
    have hsum (status : ApplicationStatus) :=
      sum_replace hmem (app.decide_key status decision) fun row => row.claims source
    rw [applied_eq, applied_eq]
    change (st.db.payments.refundApplications.replace _).sum _ ≤ _ ∧
      (_ → (st.db.payments.refundApplications.replace _).sum _ = _)
    cases approve with
    | true =>
      have hsame : (app.decide .approved decision).claims source = app.claims source := by
        refine claims_congr ?_ ?_ ?_ source
        · rfl
        · rfl
        · exact hlive.symm
      rw [if_pos rfl, hsum, hsame, sub_add_cancel]
      exact ⟨le_refl _, fun _ => rfl⟩
    | false =>
      have hnone : (app.decide .rejected decision).claims source = 0 := if_neg fun hlive => (nomatch hlive.2)
      have hnn := app.claims_nonneg source
      rw [if_neg Bool.false_ne_true, hsum]
      refine ⟨by omega, fun hap' => ?_⟩
      rw [hap] at hap'
      cases hap'

end ModelDock.Store
