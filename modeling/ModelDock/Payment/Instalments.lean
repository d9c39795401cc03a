import ModelDock.Cash.Statements
import ModelDock.Payment.Applications

/-!
# Refunding an order in instalments

An application is held against what is left on the lot minus everything applied for, and completed applications
are still counted there. Each completed part is therefore subtracted twice.
-/

namespace ModelDock.Store

open Relational Table List Bool

/-- What the four calls of one part are given. -/
structure Instalment where
  (applySession createSession completeSession : Session)
  amount : ℤ
  (key reason actor platformRefundNo providerRefundNo : String)
  amount_pos : 0 < amount
  key_given : key ≠ ""
  reason_given : Text.isBlank reason = false
  actor_given : actor ≠ ""

variable (part : Instalment) (order : RechargeOrder) (parts : List Instalment) (st : FinanceDb)

/-- The application for one part of an order. -/
def Instalment.application : CreateRefundApplicationRequest where
  organizationId := some order.organizationId
  sourceType := "RECHARGE"
  rechargeOrderId := some order.id
  subscriptionInvoiceId := none
  amount := some part.amount
  reason := part.reason
  idempotencyKey := part.key
  requestedBy := part.actor

/-- The approval of one part. -/
def Instalment.approval : Decision := ⟨"APPROVE", part.reason, part.key, part.actor⟩

/-- The refund order of one part. -/
def Instalment.refund (applicationId : Uuid) : CreateRefundOrderRequest where
  platformRefundNo := part.platformRefundNo
  rechargeOrderId := order.id
  refundApplicationId := some applicationId
  amount := part.amount
  reason := part.reason
  idempotencyKey := part.key

/-- Apply for a part of an order, approve it, create its refund and complete it. -/
def refundInstalment (part : Instalment) : Except StoreError FinanceDb := do
  let result ← createRefundApplication part.applySession (part.application order) st
  let st ← decideRefundApplication result.1.1.id part.approval result.2
  let db ← createRefundOrder part.createSession (part.refund order result.1.1.id) st.db
  let db ← completeRefund part.completeSession (part.createSession.uuid .refund) part.providerRefundNo db
  return { st with db := db }

/-- Refund an order part by part, each completed before the next is applied for. -/
def refundInstalments : Except StoreError FinanceDb :=
  parts.foldlM (refundInstalment order) st

/-- No application of the organization and no refund of the order has the key of the part. -/
structure Instalment.New (part : Instalment) (order : RechargeOrder) (st : FinanceDb) : Prop where
  application : ∀ row ∈ st.db.payments.refundApplications.rows,
    ¬(row.organizationId = order.organizationId ∧ row.idempotencyKey = part.key)
  refund : ∀ row ∈ st.db.payments.refundOrders.rows,
    ¬(row.rechargeOrderId = order.id ∧ row.idempotencyKey = part.key)

variable {s : Session} {cash cash' : Cash} {lot : CashLot} {orderId refundOrderId walletId : Uuid} {amount : ℤ}
  {txs : Table WalletTransaction}

theorem refundableOn_of_mem (hlot : lot ∈ cash.lots.rows) (ho : lot.rechargeOrderId = some orderId) :
    cash.refundableOn orderId = lot.remainingAmount.units := by
  unfold Cash.refundableOn
  split
  · next found hf =>
    obtain ⟨hmem, hfor⟩ := queried hf
    rw [lot_eq_of_order hlot ho hmem hfor]
  · next hnone =>
    exact absurd ho (by simpa using find?_eq_none.mp hnone lot hlot)

theorem reserveRefundCashTx_refundableOn
    (h : reserveRefundCashTx s refundOrderId walletId orderId amount cash = .ok cash') :
    cash'.refundableOn orderId = cash.refundableOn orderId - amount := by
  simp only [reserveRefundCashTx, eq_ok] at h
  obtain ⟨lot, hf, _, _, _, hlots, hins⟩ := h
  obtain ⟨hmem, hlot⟩ := queried hf
  obtain ⟨_, lot', hrem, hor, rfl⟩ := debitLot_moved (find?_of_mem hmem) hlots
  obtain ⟨_, _, _, _, _, _, _, hcash⟩ := insertRefundHold_eq_ok hins
  have hkey := CashLot.key_of_origin hor
  have hmem' : lot' ∈ cash'.lots.rows := by
    rw [hcash]
    exact (mem_replace hmem hkey).mpr (.inl rfl)
  have ho' : lot'.rechargeOrderId = some orderId := (congrArg CashLotKey.rechargeOrderId hkey).trans hlot.2.1
  rw [refundableOn_of_mem hmem' ho', refundableOn_of_mem hmem hlot.2.1, hrem, sub_eq_add_neg]

theorem settleRefundCashTx_lots {txId? : Option Uuid}
    (h : settleRefundCashTx s txs refundOrderId walletId txId? true cash = .ok cash') :
    cash'.lots = cash.lots := by
  simp only [settleRefundCashTx, eq_ok, if_true] at h
  obtain ⟨_, _, _, _, _, hins, _, _, rfl⟩ := h
  obtain ⟨_, _, hall, _⟩ := insertAllocation_eq_ok hins
  exact hall.lots

variable {order : RechargeOrder} {part : Instalment} {st st' : FinanceDb} {db db' : Db} {refund : RefundOrder}
  {app : RefundApplication} {apps : Table RefundApplication}

theorem createRefundOrder_new {req : CreateRefundOrderRequest} (hnew : ∀ row ∈ db.payments.refundOrders.rows,
      ¬(row.rechargeOrderId = req.rechargeOrderId ∧ row.idempotencyKey = req.idempotencyKey))
    (h : createRefundOrder s req db = .ok db') :
    ∃ order refund, db.payments.rechargeOrders.find? req.rechargeOrderId = some order ∧
      refund.amount.units = req.amount ∧ refund.idempotencyKey = req.idempotencyKey ∧
      CreatesRefund s order refund db db' := by
  simp only [createRefundOrder, eq_ok] at h
  obtain ⟨order, ho, h⟩ := h
  have hid : order.id = req.rechargeOrderId := (found ho).2
  split at h
  · next existing hexis =>
    obtain ⟨hmem, hf⟩ := queried hexis
    exact absurd (hid ▸ hf) (hnew existing hmem)
  · obtain ⟨refund, ⟨ham, hkey, _⟩, hcr⟩ := createRefund_eq_ok h
    exact ⟨order, refund, ho, ham, hkey, hcr⟩

theorem CreatesRefund.completed {db'' : Db} {s' : Session}
    {refundNo : String} (hcr : CreatesRefund s order refund db db')
    (h : completeRefund s' (s.uuid .refund) refundNo db' = .ok db'') :
    ∃ order', CompletesRefund s' order' refund db' db'' := by
  have hf : db'.payments.refundOrders.find? (s.uuid .refund) = some refund := by
    rw [find?_insert hcr.refundOrders]
    exact if_pos hcr.id
  simp only [completeRefund, eq_ok] at h
  obtain ⟨_, hf', h⟩ := h
  rw [hf] at hf'
  cases hf'
  have hcrd : refund.status ≠ .succeeded := by
    rw [hcr.status]
    decide
  rw [if_neg hcrd] at h
  simp only [eq_ok] at h
  obtain ⟨_, _, h⟩ := h
  exact completeOpenRefund_eq_ok h

/-- What one part that succeeded has done: it was within what is left after everything applied for, it
is applied for, and it has left the lot. -/
structure Spends (order : RechargeOrder) (st : FinanceDb) (part : Instalment) (st' : FinanceDb) : Prop where
  within : part.amount + (st.db.payments.applied (.recharge order.id) + st.invoiced (.recharge order.id)) ≤
    st.db.cash.refundableOn order.id
  applied : st'.db.payments.applied (.recharge order.id) =
    st.db.payments.applied (.recharge order.id) + part.amount
  refundable : st'.db.cash.refundableOn order.id = st.db.cash.refundableOn order.id - part.amount
  applications : ∀ row' ∈ st'.db.payments.refundApplications.rows, row'.idempotencyKey = part.key ∨
    ∃ row ∈ st.db.payments.refundApplications.rows, Keyed.key row' = Keyed.key row
  refunds : ∀ row' ∈ st'.db.payments.refundOrders.rows, row'.idempotencyKey = part.key ∨
    ∃ row ∈ st.db.payments.refundOrders.rows, Keyed.key row' = Keyed.key row

theorem Instalment.approval_approves (part : Instalment) : part.approval.approves = .ok true := by
  have hvr : Text.toUpper (Text.trimSpace "APPROVE") = "APPROVE" := by decide
  simp [Decision.approves, Instalment.approval, hvr, ensure, part.reason_given, part.key_given, part.actor_given]

theorem Instalment.New.submits {replayed : Bool} (hnew : part.New order st)
    (h : createRefundApplication part.applySession (part.application order) st =
      .ok ((app, replayed), st')) :
    app.requestedAmount.units = part.amount ∧ app.idempotencyKey = part.key ∧
      SubmitsRefund part.applySession (.recharge order.id) st app st' := by
  rcases createRefundApplication_cases h with
    ⟨hmem, hown, hkey, _⟩ | ⟨_, hkey, ham, source, hsub, hrec⟩
  · exact absurd ⟨(Option.some.inj hown).symm, hkey⟩ (hnew.application app hmem)
  · have htype : Text.toUpper (Text.trimSpace "RECHARGE") = "RECHARGE" := by decide
    obtain ⟨_, hnm, rfl⟩ := hrec htype
    cases hnm
    exact ⟨(Option.some.inj ham).symm, hkey, hsub⟩

theorem refundInstalment_spends (hnew : part.New order st) (h : refundInstalment order st part = .ok st') :
    Spends order st part st' := by
  simp only [refundInstalment, eq_ok] at h
  obtain ⟨⟨_, submitted⟩, hsd, decided, hdd, _, hcrd, _, hcd, rfl⟩ := h
  obtain ⟨ham, hkey, hsub⟩ := hnew.submits hsd
  obtain ⟨_, hins, hst⟩ := hsub.written
  have hdc := decideRefundApplication_cases hdd
  have hrf : decided.db.payments.refundOrders = st.db.payments.refundOrders := by
    rcases hdc with rfl | ⟨_, _, _, _, _, _, rfl⟩ <;> rw [hst] <;> rfl
  have hcash : decided.db.cash = st.db.cash := by
    rcases hdc with rfl | ⟨_, _, _, _, _, _, rfl⟩ <;> rw [hst] <;> rfl
  obtain ⟨source, _, hsr, href, hry, hcr⟩ :=
    createRefundOrder_new (by rw [hrf]; exact hnew.refund) hcrd
  have hid : source.id = order.id := (found hsr).2
  obtain ⟨_, hcm⟩ := hcr.completed hcd
  obtain ⟨_, ⟨rfl, _⟩, hin⟩ := hsub.within
  refine ⟨ham ▸ hin, ?_, ?_, fun row' hrow' => ?_, fun row' hrow' => ?_⟩
  · rw [applied_complete hcm.refundApplications, hcr.applied,
      (decideRefundApplication_applied hdd _).2 part.approval_approves, hsub.applied,
      if_pos rfl, ham]
  · have hrs := reserveRefundCashTx_refundableOn hcr.cash
    rw [hid, hcash, href] at hrs
    have hset := settleRefundCashTx_lots hcm.cash
    simp only [Cash.refundableOn] at hrs ⊢
    rw [hset]
    exact hrs
  · rw [hcm.refundApplications] at hrow'
    obtain ⟨_, hrow₁, hkey₁⟩ := exists_key_of_mem_rewrite _ hrow'
    rw [hcr.refundApplications] at hrow₁
    obtain ⟨row₂, hrow₂, hkey₂⟩ := exists_key_of_mem_rewrite _ hrow₁
    obtain ⟨row₃, hrow₃, hkey₃⟩ : ∃ row₃ ∈ submitted.db.payments.refundApplications.rows,
        Keyed.key row₂ = Keyed.key row₃ := by
      rcases hdc with rfl | ⟨_, _, _, _, _, _, rfl⟩
      · exact ⟨row₂, hrow₂, rfl⟩
      · exact exists_key_of_mem_replace hrow₂
    have hsame : Keyed.key row' = Keyed.key row₃ := hkey₁.trans (hkey₂.trans hkey₃)
    rw [hst] at hrow₃
    rcases (mem_insert hins).mp hrow₃ with rfl | hold
    · exact .inl ((congrArg RefundApplicationKey.idempotencyKey hsame).trans hkey)
    · exact .inr ⟨row₃, hold, hsame⟩
  · obtain ⟨_, hrp⟩ := hcm.refundOrders
    rw [hrp] at hrow'
    obtain ⟨row, hrow, hsame⟩ := exists_key_of_mem_replace hrow'
    rcases (mem_insert hcr.refundOrders).mp hrow with rfl | hold
    · exact .inl ((congrArg RefundOrderKey.idempotencyKey hsame).trans hry)
    · exact .inr ⟨row, hrf ▸ hold, hsame⟩

/-- What parts of an order come to. -/
def instalmentTotal : ℤ := (parts.map Instalment.amount).sum

/-- The keys of the parts are new and differ from each other. -/
def NewParts (order : RechargeOrder) (parts : List Instalment) (st : FinanceDb) : Prop :=
  (∀ part ∈ parts, part.New order st) ∧ parts.Pairwise fun part other => part.key ≠ other.key

theorem Spends.new {other : Instalment} (h : Spends order st part st') (hnew : other.New order st)
    (hkey : part.key ≠ other.key) : other.New order st' := by
  refine ⟨fun row' hrow' hsame => ?_, fun row' hrow' hsame => ?_⟩
  · rcases h.applications row' hrow' with hpart | ⟨row, hrow, hkeys⟩
    · exact hkey (hpart.symm.trans hsame.2)
    · exact hnew.application row hrow
        ⟨(congrArg RefundApplicationKey.organizationId hkeys).symm.trans hsame.1,
          (congrArg RefundApplicationKey.idempotencyKey hkeys).symm.trans hsame.2⟩
  · rcases h.refunds row' hrow' with hpart | ⟨row, hrow, hkeys⟩
    · exact hkey (hpart.symm.trans hsame.2)
    · exact hnew.refund row hrow
        ⟨(congrArg RefundOrderKey.rechargeOrderId hkeys).symm.trans hsame.1,
          (congrArg RefundOrderKey.idempotencyKey hkeys).symm.trans hsame.2⟩

variable {parts : List Instalment}

theorem refundInstalments_fit (hsome : parts ≠ []) (hnew : NewParts order parts st)
    (h : refundInstalments order parts st = .ok st') :
    instalmentTotal parts + instalmentTotal parts.dropLast + st.db.payments.applied (.recharge order.id) ≤
      st.db.cash.refundableOn order.id := by
  induction parts generalizing st with
  | nil => exact absurd rfl hsome
  | cons part rest ih =>
    simp only [refundInstalments, foldlM_cons, bind_eq_ok] at h
    obtain ⟨mid, hpart, hrest⟩ := h
    have hsp := refundInstalment_spends (hnew.1 part mem_cons_self) hpart
    have hin := hsp.within
    have hinv := invoiced_nonneg st (.recharge order.id)
    cases rest with
    | nil =>
      simp only [instalmentTotal, map_cons, map_nil, sum_cons, sum_nil, dropLast_singleton]
      omega
    | cons next others =>
      obtain ⟨hkeys, hpair⟩ := pairwise_cons.mp hnew.2
      have hmid : NewParts order (next :: others) mid :=
        ⟨fun other hne => hsp.new (hnew.1 other (mem_cons_of_mem _ hne)) (hkeys other hne),
          hpair⟩
      have hfit := ih (cons_ne_nil _ _) hmid hrest
      rw [hsp.applied, hsp.refundable] at hfit
      simp only [instalmentTotal, dropLast_cons_cons, map_cons, sum_cons] at hfit ⊢
      omega

theorem eq_nil_of_instalmentTotal (h : instalmentTotal parts ≤ 0) : parts = [] := by
  cases parts with
  | nil => rfl
  | cons part rest =>
    have hrest : 0 ≤ instalmentTotal rest := sum_nonneg fun amount ham => by
      obtain ⟨other, _, rfl⟩ := mem_map.mp ham
      exact other.amount_pos.le
    have hpart := part.amount_pos
    simp only [instalmentTotal, map_cons, sum_cons] at h hrest
    omega

theorem refundInstalments_single (hnew : NewParts order parts st)
    (hwh : instalmentTotal parts = st.db.cash.refundableOn order.id) (hsome : 0 < instalmentTotal parts)
    (h : refundInstalments order parts st = .ok st') :
    parts.length = 1 ∧ st.db.payments.applied (.recharge order.id) = 0 := by
  have hne : parts ≠ [] := by
    rintro rfl
    exact absurd hsome (lt_irrefl 0)
  have hfit := refundInstalments_fit hne hnew h
  have hap := applied_nonneg st.db.payments (.recharge order.id)
  have hlast : parts.dropLast = [] := by
    refine eq_nil_of_instalmentTotal ?_
    omega
  have hln : parts.length - 1 = 0 := by rw [← length_dropLast, hlast, length_nil]
  have hpos := length_pos_iff.mpr hne
  rw [hlast] at hfit
  change instalmentTotal parts + 0 + _ ≤ _ at hfit
  constructor <;> omega

/-- An order that is credited and none of whose money has been spent or invoiced. -/
structure Untouched (order : RechargeOrder) (st : FinanceDb) : Prop where
  found : st.db.payments.rechargeOrders.find? order.id = some order
  credited : order.status = .credited
  lot : ∃ lot ∈ st.db.cash.lots.rows, lot.walletId = order.walletId ∧
    lot.rechargeOrderId = some order.id ∧ lot.refundable ∧ lot.remainingAmount = order.amount
  invoiced : st.invoiced (.recharge order.id) = 0

/-- The books a refund is posted to are open: the wallet can be debited and the two accounts are
active. -/
structure Payable (order : RechargeOrder) (db : Db) : Prop where
  wallet : ∃ wallet, db.wallets.find? order.walletId = some wallet ∧
    -numericBound < wallet.availableBalance.units - order.amount.units
  available : ∃ account ∈ db.ledger.accounts.rows,
    account.accountKey = walletAccountKey order.walletId .available ∧ account.currency = order.currency ∧
      account.active
  cash : ∃ account ∈ db.ledger.accounts.rows, account.accountKey = systemAccountKey .cash order.currency ∧
    account.currency = order.currency ∧ account.active

/-- The identifiers and numbers that the calls of a part write are not in use. -/
structure Instalment.Unused (part : Instalment) (db : Db) : Prop where
  application : ∀ row ∈ db.payments.refundApplications.rows,
    row.id ≠ part.applySession.uuid .refundApplication
  refund : ∀ row ∈ db.payments.refundOrders.rows, row.id ≠ part.createSession.uuid .refund ∧
    row.platformRefundNo ≠ part.platformRefundNo ∧ row.providerRefundNo ≠ some part.providerRefundNo
  hold : ∀ row ∈ db.cash.refundHolds.rows, row.refundOrderId ≠ part.createSession.uuid .refund ∧
    ∀ lotId, row.id ≠ part.createSession.uuid (.allocation lotId)
  journal : ∀ row ∈ db.ledger.journals.rows, row.id ≠ part.completeSession.uuid .journal ∧
    row.externalKey ≠ .refund (part.createSession.uuid .refund) ∧
    row.refundOrderId ≠ some (part.createSession.uuid .refund)
  transaction : ∀ row ∈ db.transactions.rows, row.id ≠ part.completeSession.uuid .transaction ∧
    row.idempotencyKey ≠ some (.refund (part.createSession.uuid .refund)) ∧
    row.refundOrderId ≠ some (part.createSession.uuid .refund)
  allocation : ∀ row ∈ db.cash.allocations.rows,
    row.walletTransactionId ≠ part.completeSession.uuid .transaction ∧
    ∀ holdId, row.id ≠ part.completeSession.uuid (.allocation holdId)

theorem Untouched.refundableOn (h : Untouched order st) :
    st.db.cash.refundableOn order.id = order.amount.units := by
  obtain ⟨_, hlot, _, ho, _, hrem⟩ := h.lot
  rw [refundableOn_of_mem hlot ho, hrem]

theorem Untouched.applies (h : Untouched order st) (hnew : part.New order st) (hun : part.Unused st.db)
    (hwh : part.amount = order.amount.units) (hnone : st.db.payments.applied (.recharge order.id) = 0) :
    ∃ app apps,
      createRefundApplication part.applySession (part.application order) st =
        .ok ((app, false), st.setApplications apps) ∧
      app ∈ apps.rows ∧ app.organizationId = order.organizationId ∧
      app.rechargeOrderId = some order.id ∧ app.status = .submitted ∧
      app.refundOrderId = none ∧ app.requestedAmount.units = part.amount := by
  have hrn : 0 ≤ part.amount ∧ part.amount < numericBound := hwh ▸ ⟨order.amount.nonneg, order.amount.fits⟩
  let app : RefundApplication :=
    { id := part.applySession.uuid .refundApplication, organizationId := order.organizationId
      rechargeOrderId := some order.id, subscriptionInvoiceId := none
      requestedAmount := ⟨part.amount, hrn.1, hrn.2⟩, currency := order.currency
      reason := Text.trimSpace part.reason, idempotencyKey := part.key, status := .submitted
      refundOrderId := none, requestedBy := part.actor, reviewedBy := "", reviewReason := ""
      positive := part.amount_pos }
  have hcl : ∀ row ∈ st.db.payments.refundApplications.rows,
      Key.clash (Keyed.key app) (Keyed.key row) = false := by
    intro row hrow
    have hid := hun.application row hrow
    have hkey := hnew.application row hrow
    simp only [Key.clash, or_eq_false_iff, decide_eq_false_iff_not,
      and_eq_false_iff]
    refine ⟨fun hsame => hid hsame.symm, ?_⟩
    by_contra hboth
    push Not at hboth
    exact hkey ⟨hboth.1.symm, hboth.2.symm⟩
  obtain ⟨apps, hins⟩ := insert_succeeds hcl StoreError.uniqueViolation
  have hsr : refundSource (part.application order) order.organizationId st =
      .ok (.recharge order.id, order.currency, st.db.cash.refundableOn order.id) := by
    have htype : Text.toUpper (Text.trimSpace "RECHARGE") = "RECHARGE" := by decide
    simp only [refundSource, Instalment.application, htype, if_true, eq_ok]
    exact ⟨order.id, rfl, order, h.found, (), ⟨rfl, .inl h.credited⟩, rfl⟩
  have hrow : newRefundApplication part.applySession (part.application order) order.organizationId
      (.recharge order.id) part.amount order.currency = .ok app := by
    simp only [newRefundApplication, bind_eq_ok, money_eq_ok]
    exact ⟨⟨part.amount, hrn.1, hrn.2⟩, rfl, dif_pos part.amount_pos⟩
  refine ⟨app, apps, ?_, (mem_insert hins).mpr (.inl rfl), rfl, rfl, rfl, rfl, rfl⟩
  have hin : part.amount + (st.db.payments.applied (.recharge order.id) +
      st.invoiced (.recharge order.id)) ≤ st.db.cash.refundableOn order.id := by
    rw [h.invoiced, h.refundableOn]
    omega
  have hsub : submitRefundApplication part.applySession (part.application order)
      order.organizationId part.amount st = .ok (app, st.setApplications apps) := by
    simp only [submitRefundApplication, eq_ok]
    exact ⟨_, hsr, (), hin, app, hrow, apps, hins, rfl⟩
  simp only [createRefundApplication, eq_ok]
  refine ⟨part.amount, rfl, order.organizationId, rfl, (),
    ⟨part.amount_pos, part.actor_given, part.key_given, part.reason_given⟩, ?_⟩
  split
  · next existing hexis =>
    obtain ⟨hmem, hf⟩ := queried hexis
    exact absurd hf (hnew.application existing hmem)
  · simp only [eq_ok]
    exact ⟨_, hsub, rfl⟩

theorem reserveRefundCashTx_succeeds (hlot : lot ∈ cash.lots.rows) (hw : lot.walletId = walletId)
    (ho : lot.rechargeOrderId = some orderId) (href : lot.refundable)
    (ham : 0 < amount) (hleft : amount ≤ lot.remainingAmount.units)
    (hnew : ∀ hold ∈ cash.refundHolds.rows, hold.refundOrderId ≠ refundOrderId ∧
      ∀ lotId, hold.id ≠ s.uuid (.allocation lotId)) :
    ∃ cash', reserveRefundCashTx s refundOrderId walletId orderId amount cash = .ok cash' := by
  have hf : cash.refundableLot? walletId orderId = some lot := by
    refine query_eq_some hlot ⟨hw, ho, href⟩ fun found hf hfor => ?_
    exact lot_eq_of_order hlot ho hf hfor.2.1
  obtain ⟨lots, hdb⟩ := debitLot_succeeds hlot ham.le hleft
  have hfits : amount < numericBound := lt_of_le_of_lt hleft lot.remainingAmount.fits
  obtain ⟨cash', hins⟩ : ∃ cash', insertRefundHold s (s.uuid (.allocation lot.id)) refundOrderId lot.id
      amount { cash with lots := lots } = .ok cash' := insertRefundHold_succeeds ham hfits
    fun hold hhold => ⟨(hnew hold hhold).2 lot.id, (hnew hold hhold).1⟩
  simp only [reserveRefundCashTx, eq_ok]
  exact ⟨cash', lot, hf, (), hleft, lots, hdb, hins⟩

theorem Untouched.creates (h : Untouched order st) (hnew : part.New order st) (hun : part.Unused st.db)
    (hwh : part.amount = order.amount.units) (hmem : app ∈ apps.rows)
    (hown : app.organizationId = order.organizationId)
    (ho : app.rechargeOrderId = some order.id) (hst : app.status = .approved)
    (hunl : app.refundOrderId = none) (hask : app.requestedAmount.units = part.amount) :
    ∃ db', createRefundOrder part.createSession (part.refund order app.id)
      (st.setApplications apps).db = .ok db' := by
  have hrn : 0 ≤ part.amount ∧ part.amount < numericBound := hwh ▸ ⟨order.amount.nonneg, order.amount.fits⟩
  let refund : RefundOrder :=
    { id := part.createSession.uuid .refund, platformRefundNo := part.platformRefundNo
      rechargeOrderId := order.id, refundApplicationId := some app.id
      paymentProvider := order.paymentProvider, providerRefundNo := none, status := .created
      amount := ⟨part.amount, hrn.1, hrn.2⟩, currency := order.currency
      reason := Text.trimSpace part.reason, idempotencyKey := part.key, walletTransactionId := none
      ledgerJournalId := none, failureCode := "", positive := part.amount_pos }
  have hcl : ∀ row ∈ st.db.payments.refundOrders.rows,
      Key.clash (Keyed.key refund) (Keyed.key row) = false := by
    intro row hrow
    obtain ⟨hid, hnum, _⟩ := hun.refund row hrow
    have hkey := hnew.refund row hrow
    simp only [Key.clash, or_eq_false_iff, decide_eq_false_iff_not, and_eq_false_iff]
    refine ⟨⟨fun hsame => hid hsame.symm, fun hsame => hnum hsame.symm⟩, ?_⟩
    by_contra hboth
    push Not at hboth
    exact hkey ⟨hboth.1.symm, hboth.2.symm⟩
  obtain ⟨refundOrders, hins⟩ := insert_succeeds hcl StoreError.uniqueViolation
  obtain ⟨lot, hlot, hlt, hlo, href, hrem⟩ := h.lot
  have hleft : part.amount ≤ lot.remainingAmount.units := by rw [hrem, hwh]
  obtain ⟨cash, hcash⟩ := reserveRefundCashTx_succeeds hlot hlt hlo href
    part.amount_pos hleft hun.hold
  have hap : refundApproved (part.refund order app.id) order apps := by
    simp only [refundApproved, Instalment.refund, any_eq_true, cond_iff]
    exact ⟨app, hmem, ⟨⟨⟨⟨rfl, hown⟩, ho⟩, hst⟩, hunl⟩, decide_eq_true hask⟩
  have hrow : newRefund part.createSession (part.refund order app.id) order = .ok refund := by
    simp only [newRefund, bind_eq_ok, money_eq_ok]
    exact ⟨⟨part.amount, hrn.1, hrn.2⟩, rfl, dif_pos part.amount_pos⟩
  have hrs := hcash
  simp only [reserveRefundCashTx, eq_ok] at hrs
  obtain ⟨found, hf, _, hfn, _⟩ := hrs
  obtain ⟨db', hcr⟩ : ∃ db', createRefund part.createSession (part.refund order app.id) order
      (st.setApplications apps).db = .ok db' := by
    simp only [createRefund, eq_ok]
    exact ⟨_, (), ⟨h.credited, part.amount_pos, part.key_given, part.reason_given⟩, (), hap, found,
      hf, (), hfn, refund, hrow, refundOrders, hins, cash, hcash, rfl⟩
  simp only [createRefundOrder, eq_ok]
  refine ⟨db', order, h.found, ?_⟩
  split
  · next existing hexis =>
    obtain ⟨hmem, hsame⟩ := queried hexis
    exact absurd hsame (hnew.refund existing hmem)
  · exact hcr

theorem settleRefundCashTx_succeeds {txId : Uuid} {hold : RefundCashAllocation} (hhold : hold ∈ cash.refundHolds.rows)
    (hr : hold.refundOrderId = refundOrderId) (hopen : hold.settledAt = none)
    (hrl : hold.releasedAmount = .zero) (hstor : (txs.find? txId).isSome)
    (hnew : ∀ row ∈ cash.allocations.rows, row.walletTransactionId ≠ txId ∧
      ∀ holdId, row.id ≠ s.uuid (.allocation holdId)) :
    ∃ cash', settleRefundCashTx s txs refundOrderId walletId (some txId) true cash = .ok cash' := by
  have hf : cash.refundHolds.rows.find? (fun row => row.refundOrderId = refundOrderId) = some hold := by
    refine query_eq_some hhold hr fun found hf hfor => ?_
    exact eq_of_clash hf hhold (by simp [Key.clash, Keyed.key, hfor, hr])
  have hcl : ∀ row ∈ cash.allocations.rows, Key.clash
      (⟨s.uuid (.allocation hold.id), txId, .cash hold.cashLotId, .debit⟩ : CashAllocationKey)
      (Keyed.key row) = false := by
    intro row hrow
    obtain ⟨htx, hid⟩ := hnew row hrow
    simp [Key.clash, Keyed.key, htx.symm, (hid hold.id).symm]
  obtain ⟨spent, hsp⟩ : ∃ spent, insertAllocation s txs (s.uuid (.allocation hold.id)) walletId
      txId (.cash hold.cashLotId) .debit hold.reservedAmount.units cash = .ok spent :=
    insertAllocation_succeeds hold.reserved_pos hold.reservedAmount.fits hstor hcl
  obtain ⟨_, _, hall, _⟩ := insertAllocation_eq_ok hsp
  obtain ⟨hold', hset⟩ := RefundCashAllocation.settle_succeeds hopen hrl s.now
  have hup : cash.refundHolds.update hold.id (fun row => row.settle true s.now) =
      .ok (cash.refundHolds.replace hold') := update_succeeds (find?_of_mem hhold) hset
  rw [← hall.refundHolds] at hup
  simp only [settleRefundCashTx, eq_ok, if_true]
  exact ⟨_, hold, hf, txId, rfl, spent, hsp, _, hup, rfl⟩

theorem CreatesRefund.completes
    (hcr : CreatesRefund part.createSession order refund (st.setApplications apps).db db')
    (hf : st.db.payments.rechargeOrders.find? order.id = some order) (hpy : Payable order st.db)
    (hun : part.Unused st.db) (ham : refund.amount = order.amount) :
    ∃ db'', completeRefund part.completeSession (part.createSession.uuid .refund) part.providerRefundNo db' =
      .ok db'' := by
  have hr : db'.payments.refundOrders.find? (part.createSession.uuid .refund) = some refund := by
    rw [find?_insert hcr.refundOrders]
    exact if_pos hcr.id
  have ho : db'.payments.rechargeOrders.find? refund.rechargeOrderId =
      some (order.setStatus .refundPending) := by
    rw [hcr.rechargeOrders, hcr.rechargeOrderId]
    exact find?_replace_of_find? hf (order.setStatus_key _)
  obtain ⟨wallet, hw, _⟩ := hpy.wallet
  have hbl : -numericBound < wallet.availableBalance.units + -refund.amount.units ∧
      wallet.availableBalance.units + -refund.amount.units < numericBound := by
    have hfits := wallet.availableBalance.fits
    have hpos := refund.positive
    rw [ham] at hpos ⊢
    omega
  obtain ⟨wallet', hdb, _⟩ := wallet.addAvailable_succeeds hbl
  obtain ⟨ledger, hld⟩ : ∃ ledger, postLinkedJournalTx (part.completeSession.uuid .journal)
      order.walletId .paymentRefund (.refund refund.id) refund.currency none (some refund.id)
      (refundLines (order.setStatus .refundPending) refund) db'.ledger = .ok ledger := by
    rw [hcr.ledger]
    refine postLinkedJournalTx_pair_succeeds (fun journal hj => ?_)
      ⟨rfl, refund.positive, refund.amount.fits, ?_⟩ ⟨rfl, refund.positive, refund.amount.fits, ?_⟩ rfl
    · obtain ⟨hid, hkey, hlink⟩ := hun.journal journal hj
      rw [← hcr.id] at hkey hlink
      simp [Key.clash, Keyed.key, draftJournal, sameValue_eq_false hlink, hid.symm, hkey.symm]
    · rw [hcr.currency]
      exact hpy.available
    · rw [hcr.currency]
      exact hpy.cash
  obtain ⟨txs, htx⟩ : ∃ txs, insertTransaction part.completeSession
      (refundTransaction part.completeSession (order.setStatus .refundPending) refund
        wallet'.availableBalance.units) db'.transactions = .ok txs := by
    rw [hcr.transactions]
    have hpos := refund.positive
    have hfits := refund.amount.fits
    refine insertTransaction_succeeds ?_ ?_ wallet'.availableBalance.fits fun row hrow => ?_
    · change -refund.amount.units ≠ 0
      omega
    · change -numericBound < -refund.amount.units ∧ -refund.amount.units < numericBound
      omega
    · obtain ⟨hid, hkey, hlink⟩ := hun.transaction row hrow
      rw [← hcr.id] at hkey hlink
      refine ⟨hid, fun hsame => ?_, rfl, sameValue_eq_false hlink⟩
      rw [refundTransaction, sameValue_eq_false hkey] at hsame
      exact absurd hsame.2 false_ne_true
  obtain ⟨cash, hcash⟩ : ∃ cash, settleRefundCashTx part.completeSession txs refund.id
      order.walletId (some (part.completeSession.uuid .transaction)) true db'.cash = .ok cash := by
    have hrs := hcr.cash
    simp only [reserveRefundCashTx, eq_ok] at hrs
    obtain ⟨_, _, _, _, _, _, hinse⟩ := hrs
    obtain ⟨hold, hfor, _, _, hopen, hrl, hhs, hcash⟩ := insertRefundHold_eq_ok hinse
    have hall : db'.cash.allocations = st.db.cash.allocations := by rw [hcash]; rfl
    simp only [insertTransaction, bind_eq_ok] at htx
    obtain ⟨row, hrow, hins⟩ := htx
    have hstor : txs.find? (part.completeSession.uuid .transaction) = some row :=
      find?_eq_some.mpr ⟨(mem_insert hins).mpr (.inl rfl),
        (TransactionInput.row_eq_ok hrow).1⟩
    refine settleRefundCashTx_succeeds ((mem_insert hhs).mpr (.inl rfl)) hfor hopen hrl
      (Option.isSome_of_eq_some hstor) ?_
    rw [hall]
    exact hun.allocation
  have hfree : db'.payments.freeRefundNo refund.id refund.paymentProvider (some part.providerRefundNo) =
      true := by
    simp only [Payments.freeRefundNo, all_eq_true, cond_iff]
    intro row hrow
    rcases (mem_insert hcr.refundOrders).mp hrow with rfl | hold
    · exact .inl rfl
    · have hnum := (hun.refund row hold).2.2
      rw [sameValue_symm, sameValue_eq_false hnum]
      exact .inr (by simp)
  obtain ⟨db'', hcm⟩ : ∃ db'', completeOpenRefund part.completeSession refund part.providerRefundNo db' =
      .ok db'' := by
    simp only [completeOpenRefund, eq_ok]
    exact ⟨_, _, ho, (), rfl, wallet, hcr.wallets ▸ hw, wallet', hdb, ledger, hld,
      txs, htx, cash, hcash, (), hfree, rfl⟩
  have hopen : refund.status.isOpen := by
    rw [hcr.status]
    rfl
  have hnot : refund.status ≠ .succeeded := by
    rw [hcr.status]
    decide
  simp only [completeRefund, eq_ok]
  refine ⟨db'', refund, hr, ?_⟩
  rw [if_neg hnot]
  simp only [eq_ok]
  exact ⟨(), hopen, hcm⟩

theorem Untouched.refundInstalment_succeeds (h : Untouched order st) (hpy : Payable order st.db)
    (hnew : part.New order st) (hun : part.Unused st.db) (hwh : part.amount = order.amount.units)
    (hnone : st.db.payments.applied (.recharge order.id) = 0) :
    ∃ st', refundInstalment order st part = .ok st' := by
  obtain ⟨app, apps, hsub, hmem, hown, ho, hst, hunl, hask⟩ :=
    h.applies hnew hun hwh hnone
  have hap : app.decide .approved part.approval ∈
      (apps.replace (app.decide .approved part.approval)).rows :=
    (mem_replace hmem (app.decide_key _ _)).mpr (.inl rfl)
  have hdc : decideRefundApplication app.id part.approval (st.setApplications apps) =
      .ok (st.setApplications (apps.replace (app.decide .approved part.approval))) := by
    have hopen : ¬(app.status = .approved ∨ app.status = .rejected) := by
      rw [hst]
      simp
    simp only [decideRefundApplication, eq_ok]
    refine ⟨true, part.approval_approves, app, find?_of_mem hmem, ?_⟩
    rw [if_neg hopen]
    simp only [eq_ok]
    exact ⟨(), .inl hst, rfl⟩
  obtain ⟨created, hcr⟩ := h.creates hnew hun hwh hap hown ho rfl hunl hask
  obtain ⟨source, _, hsr, ham, _, hcre⟩ := createRefundOrder_new hnew.refund hcr
  obtain rfl := Option.mem_unique h.found hsr
  obtain ⟨completed, hcm⟩ := hcre.completes h.found hpy hun
    (Money.ext (ham.trans hwh))
  simp only [refundInstalment, eq_ok]
  exact ⟨_, _, hsub, _, hdc, created, hcr, completed, hcm, rfl⟩

/-- An untouched order can be refunded in parts, each completed before the next is applied for, exactly
when there is only one part and nothing is applied for yet. -/
theorem refundInstalments_succeeds_iff {parts : List Instalment} (h : Untouched order st)
    (hpayable : Payable order st.db) (hnew : NewParts order parts st)
    (hunused : ∀ part ∈ parts, part.Unused st.db) (hsplit : instalmentTotal parts = order.amount.units) :
    (∃ st', refundInstalments order parts st = .ok st') ↔
      parts.length = 1 ∧ st.db.payments.applied (.recharge order.id) = 0 := by
  constructor
  · rintro ⟨st', href⟩
    refine refundInstalments_single hnew ?_ ?_ href
    · rw [hsplit, h.refundableOn]
    · rw [hsplit]
      exact order.positive
  · rintro ⟨hln, hnone⟩
    obtain ⟨part, rfl⟩ := length_eq_one_iff.mp hln
    have hpart := mem_singleton_self part
    have hwh : part.amount = order.amount.units := by simpa [instalmentTotal] using hsplit
    obtain ⟨st', href⟩ := h.refundInstalment_succeeds hpayable (hnew.1 part hpart) (hunused part hpart)
      hwh hnone
    simp only [refundInstalments, foldlM_cons, eq_ok]
    exact ⟨st', st', href, rfl⟩

/-- The small store with the first order credited and no invoices. -/
def demoCredited : FinanceDb where
  db := run execPayment demoDb [(demoSession 1, .store (.creditPaidRecharge 1))]
  invoiceApplications := .empty
  invoiceItems := .empty
  subscriptionInvoices := .empty

/-- A part of the first order, refunded by the calls from the `n`-th on. -/
def demoInstalment (n : ℕ) (amount : Fin 1000) (h : 0 < amount.val) : Instalment where
  applySession := demoSession n
  createSession := demoSession (n + 1)
  completeSession := demoSession (n + 2)
  amount := (unitsOf amount).units
  key := s!"part-{n}"
  reason := "requested"
  actor := "member"
  platformRefundNo := s!"RF{n}"
  providerRefundNo := s!"P{n}"
  amount_pos := unitsOf_pos amount h
  key_given := by simp
  reason_given := by decide
  actor_given := by decide

/-- The credited order of the small store is refunded by one application for all of it. -/
theorem refundInstalments_succeeds_iff_demo :
    ∃ order ∈ demoCredited.db.payments.rechargeOrders.rows, order.id = 1 ∧ order.amount.units = 100 ∧
      ∃ st', refundInstalments order [demoInstalment 2 100 (by decide)] demoCredited = .ok st' := by
  obtain ⟨order, hmem, hid, ham, hst, hw, hcr⟩ :
      ∃ order ∈ demoCredited.db.payments.rechargeOrders.rows, order.id = 1 ∧ order.amount.units = 100 ∧
        order.status = .credited ∧ order.walletId = 1 ∧ order.currency = usd := by decide +kernel
  have hunt : Untouched order demoCredited := by
    refine ⟨find?_of_mem hmem, hst, ?_, ?_⟩
    · have hlot : ∃ lot ∈ demoCredited.db.cash.lots.rows, lot.walletId = 1 ∧ lot.rechargeOrderId = some 1 ∧
          lot.refundable ∧ lot.remainingAmount.units = 100 := by decide +kernel
      obtain ⟨lot, hlot, hlt, hlo, href, hrem⟩ := hlot
      exact ⟨lot, hlot, hlt.trans hw.symm, by rw [hlo, hid], href,
        Money.ext (hrem.trans ham.symm)⟩
    · rfl
  have hpy : Payable order demoCredited.db := by
    have hbl : ∃ wallet ∈ demoCredited.db.wallets.rows, wallet.id = 1 ∧
        wallet.availableBalance.units = 100 := by decide +kernel
    obtain ⟨wallet, hstor, hwl, hu⟩ := hbl
    refine ⟨⟨wallet, ?_, ?_⟩, ?_, ?_⟩
    · rw [hw, ← hwl]
      exact find?_of_mem hstor
    · rw [hu, ham]
      decide
    · rw [hw, hcr]
      decide +kernel
    · rw [hcr]
      decide +kernel
  have hnew : (demoInstalment 2 100 (by decide)).New order demoCredited := by
    refine ⟨?_, ?_⟩
    · exact forall_mem_nil _
    · exact forall_mem_nil _
  have hun : (demoInstalment 2 100 (by decide)).Unused demoCredited.db := by
    refine ⟨?_, ?_, ?_, by decide +kernel, by decide +kernel, ?_⟩
    · exact forall_mem_nil _
    · exact forall_mem_nil _
    · exact forall_mem_nil _
    · exact forall_mem_nil _
  refine ⟨order, hmem, hid, ham, (refundInstalments_succeeds_iff hunt hpy ?_ ?_ ?_).mpr
    ⟨rfl, rfl⟩⟩
  · exact ⟨forall_mem_singleton.mpr hnew, pairwise_singleton _ _⟩
  · exact forall_mem_singleton.mpr hun
  · rw [ham]
    rfl

/-- An order of 100 units cannot be refunded in parts of 60 and 40: the first part succeeds, and the
application for the second is refused. -/
theorem refundInstalments_second_part_refused :
    ∃ order ∈ demoCredited.db.payments.rechargeOrders.rows, order.id = 1 ∧ order.status = .credited ∧
      instalmentTotal [demoInstalment 2 60 (by decide), demoInstalment 5 40 (by decide)] =
        order.amount.units ∧
      (refundInstalments order [demoInstalment 2 60 (by decide)] demoCredited).isOk ∧
      (refundInstalments order [demoInstalment 2 60 (by decide), demoInstalment 5 40 (by decide)]
        demoCredited).isOk = false := by
  decide +kernel

end ModelDock.Store
