import ModelDock.Relational.History
import ModelDock.Relational.View
import ModelDock.Store.Billing
import ModelDock.Store.Funding.Adjust
import ModelDock.Store.Funding.Attempt
import ModelDock.Store.Funding.Reserve
import ModelDock.Store.Payments
import ModelDock.Store.Reconciliation

/-!
# The store as a state machine

A history is a list of calls; row locks serialise the writers of a wallet, so every interleaving is such a list.
`Committed` says once what a committed call can do.
-/

namespace ModelDock.Store

open Relational Table List

variable {verified : VerifiedWebhook} {refundId : Uuid} {order : RechargeOrder} {opId orderId : Uuid}
  {provider sha refundNo : String} {Inv : Db → Prop}

/-- A call of the store that commits in one transaction. -/
inductive Call
  | reserveFunding (request : FundingReservationRequest)
  | settleFunding (request : FundingSettlementRequest)
  | heartbeatFunding (operationId : Uuid) (observedBytes : ℤ)
  | beginFundingAttempt (request : FundingAttemptRequest)
  | claimStale (staleBefore : Timestamp) (limit : ℤ) (locked : Uuid → Bool)
  | adjustLateFundingUsage (request : LateUsageRequest)
  | reverseFunding (operationId : Uuid) (idempotencyKey reason : String)
  | updateWallet (walletId : Uuid) (settings : WalletSettings)
  | createWalletTransaction (request : WalletTransactionRequest)
  | markRechargePaid (orderId : Uuid) (evidenceReference : String)
  | creditPaidRecharge (orderId : Uuid)
  | recordVerifiedPaymentWebhook (provider : String) (verified : VerifiedWebhook) (rawBodySha256 : String)
  | createRefundOrder (request : CreateRefundOrderRequest)
  | markRefundPending (refundId : Uuid) (providerRefundNo : String)
  | failRefund (refundId : Uuid) (code : String)
  | completeRefund (refundId : Uuid) (providerRefundNo : String)
  | resolveReconciliationCase (request : ResolutionRequest)

/-- Run one call in its session. -/
def exec (invocation : Session × Call) (db : Db) : Except StoreError Db :=
  let s := invocation.1
  match invocation.2 with
  | .reserveFunding request => (reserveFunding s request db).map Prod.snd
  | .settleFunding request => (settleFunding s request db).map Prod.snd
  | .heartbeatFunding operationId observedBytes => heartbeatFunding s operationId observedBytes db
  | .beginFundingAttempt request => beginFundingAttempt s request db
  | .claimStale staleBefore limit locked => .ok (claimStale s staleBefore limit locked db)
  | .adjustLateFundingUsage request => (adjustLateFundingUsage s request db).map Prod.snd
  | .reverseFunding operationId key reason => (reverseFunding s operationId key reason db).map Prod.snd
  | .updateWallet walletId settings => updateWallet walletId settings db
  | .createWalletTransaction request => createWalletTransaction s request db
  | .markRechargePaid orderId evidenceReference => markRechargePaid orderId evidenceReference db
  | .creditPaidRecharge orderId => creditPaidRecharge s orderId db
  | .recordVerifiedPaymentWebhook provider verified sha =>
    recordVerifiedPaymentWebhook s provider verified sha db
  | .createRefundOrder request => createRefundOrder s request db
  | .markRefundPending refundId providerRefundNo => markRefundPending refundId providerRefundNo db
  | .failRefund refundId code => failRefund s refundId code db
  | .completeRefund refundId providerRefundNo => completeRefund s refundId providerRefundNo db
  | .resolveReconciliationCase request => resolveReconciliationCase s request db

/-- A state before any money has moved. Wallets are empty, and orders, cases, promotion credits
and prices may be anything. -/
structure Genesis (db : Db) : Prop where
  balances : ∀ wallet ∈ db.wallets.rows, ∀ kind, wallet.balance kind = 0
  journals : db.ledger.journals.rows = []
  transactions : db.transactions.rows = []
  lots : db.cash.lots.rows = []
  fundingHolds : db.cash.fundingHolds.rows = []
  refundHolds : db.cash.refundHolds.rows = []
  allocations : db.cash.allocations.rows = []
  promotionHolds : db.promotions.allocations.rows = []
  operations : db.operations.rows = []
  adjustments : db.adjustments.rows = []
  rechargeOrders : ∀ order ∈ db.payments.rechargeOrders.rows, order.status.isCredited = false
  refundOrders : db.payments.refundOrders.rows = []

/-- The identifiers a session draws are new: they are random UUIDs, so none is in use yet and no two
are the same. -/
structure Session.Fresh (s : Session) (db : Db) : Prop where
  distinct : Function.Injective s.uuid
  journals : ∀ journal ∈ db.ledger.journals.rows, ∀ draw, journal.id ≠ s.uuid draw
  transactions : ∀ row ∈ db.transactions.rows, ∀ draw, row.id ≠ s.uuid draw
  lots : ∀ lot ∈ db.cash.lots.rows, ∀ draw, lot.id ≠ s.uuid draw
  allocations : ∀ row ∈ db.cash.allocations.rows, ∀ draw, row.id ≠ s.uuid draw
  adjustments : ∀ row ∈ db.adjustments.rows, ∀ draw, row.id ≠ s.uuid draw

/-- The columns of a wallet that money paths move or that identify it. -/
def Wallet.books (wallet : Wallet) : Uuid × Uuid × Currency × Numeric × Money :=
  (wallet.id, wallet.organizationId, wallet.currency, wallet.availableBalance, wallet.reservedBalance)

/-- An operation without the columns that dispatch and heartbeats write. -/
def FundingOperation.terms (operation : FundingOperation) : FundingOperation :=
  { operation with
    credentialOwner := .platform
    providerCredentialId := none
    fees := .default
    observedOutputBytes := 0
    heartbeatAt := 0
    observed_nonneg := Money.zero.nonneg }

/-- A recharge order without the difference between the statuses before its credit. -/
def RechargeOrder.terms (order : RechargeOrder) : RechargeOrder :=
  { order with status := if order.status.isCredited then order.status else .created }

/-- A refund without the difference between the statuses before its result. -/
def RefundOrder.terms (refund : RefundOrder) : RefundOrder :=
  { refund with
    status := if refund.status.isOpen then .created else refund.status
    providerRefundNo := none }

/-- No money has moved, and no record of money has changed. -/
structure Quiet (db db' : Db) : Prop where
  wallets : db'.wallets.view Wallet.books = db.wallets.view Wallet.books
  ledger : db'.ledger = db.ledger
  transactions : db'.transactions = db.transactions
  cash : db'.cash = db.cash
  promotions : db'.promotions = db.promotions
  operations : db'.operations.view FundingOperation.terms = db.operations.view FundingOperation.terms
  adjustments : db'.adjustments = db.adjustments
  rechargeOrders : db'.payments.rechargeOrders.view RechargeOrder.terms =
    db.payments.rechargeOrders.view RechargeOrder.terms
  refundOrders : db'.payments.refundOrders.view RefundOrder.terms =
    db.payments.refundOrders.view RefundOrder.terms
  refundApplications : db'.payments.refundApplications = db.payments.refundApplications
  catalog : db'.catalog = db.catalog

theorem Quiet.refl (db : Db) : Quiet db db := ⟨rfl, rfl, rfl, rfl, rfl, rfl, rfl, rfl, rfl, rfl, rfl⟩

/-- What a committed call did: it moved no money, or it ran one of the money paths. -/
inductive Committed (s : Session) (db : Db) : Call → Db → Prop
  | quiet {call : Call} {db' : Db} (h : Quiet db db') : Committed s db call db'
  | reserve {request : FundingReservationRequest} {wallet : Wallet} {maximum : ℚ} {promotion : ℤ}
      {operation : FundingOperation} {db' : Db} (hw : wallet ∈ db.wallets.rows)
      (hreq : request.maximumAmount = some maximum) (hmax : 0 ≤ maximum)
      (horg : request.organizationId = some wallet.organizationId)
      (h : Reserves s wallet maximum promotion db operation db') :
      Committed s db (.reserveFunding request) db'
  | settle {request : FundingSettlementRequest} {operation settled : FundingOperation}
      {wallet : Wallet} {charge : SettlementCharge} {consumed : ℤ} {db' : Db}
      (hop : db.operations.find? request.operationId = some operation)
      (hopen : operation.status.isOpen) (hval : request.tokens.Valid)
      (h : Settles s request operation wallet charge consumed db settled db') :
      Committed s db (.settleFunding request) db'
  | adjust {request : LateUsageRequest} {operation adjusted : FundingOperation} {corrected : Money}
      {db' : Db} (hop : db.operations.find? request.operationId = some operation)
      (hcl : operation.status.isOpen = false) (hval : request.tokens.Valid)
      (hnew : ∀ row ∈ db.adjustments.rows,
        ¬(row.operationId = operation.id ∧ row.idempotencyKey = request.idempotencyKey))
      (h : Adjusts s request operation corrected db adjusted db') :
      Committed s db (.adjustLateFundingUsage request) db'
  | reverse {operationId : Uuid} {idempotencyKey reason : String}
      {operation reversed : FundingOperation} {db' : Db}
      (hop : db.operations.find? operationId = some operation)
      (hst : operation.status ≠ .reversed) (hpos : 0 < operation.settledAmount.units)
      (h : Reverses s operation idempotencyKey db reversed db') :
      Committed s db (.reverseFunding operationId idempotencyKey reason) db'
  | manual {request : WalletTransactionRequest} {db' : Db} (h : PostsManual s request db db') :
      Committed s db (.createWalletTransaction request) db'
  | credit {orderId : Uuid} {order : RechargeOrder} {db' : Db}
      (ho : db.payments.rechargeOrders.find? orderId = some order) (hst : order.status = .paid)
      (h : Credits s order db db') : Committed s db (.creditPaidRecharge orderId) db'
  | createRefund {request : CreateRefundOrderRequest} {order : RechargeOrder} {refund : RefundOrder}
      {db' : Db} (ho : db.payments.rechargeOrders.find? request.rechargeOrderId = some order)
      (hst : order.status = .credited) (h : CreatesRefund s order refund db db') :
      Committed s db (.createRefundOrder request) db'
  | failRefund {refundId : Uuid} {code : String} {order : RechargeOrder} {refund : RefundOrder}
      {db' : Db} (hr : db.payments.refundOrders.find? refundId = some refund)
      (hopen : refund.status.isOpen) (h : FailsRefund s order refund db db') :
      Committed s db (.failRefund refundId code) db'
  | completeRefund {refundId : Uuid} {providerRefundNo : String} {order : RechargeOrder}
      {refund : RefundOrder} {db' : Db} (hr : db.payments.refundOrders.find? refundId = some refund)
      (hopen : refund.status.isOpen) (h : CompletesRefund s order refund db db') :
      Committed s db (.completeRefund refundId providerRefundNo) db'
  | chargeback {provider sha : String} {verified : VerifiedWebhook} {order : RechargeOrder} {db' : Db}
      (ho : order ∈ db.payments.rechargeOrders.rows) (hst : order.status = .credited)
      (h : ChargesBack s order db db') :
      Committed s db (.recordVerifiedPaymentWebhook provider verified sha) db'
  | reconcile {request : ResolutionRequest} {sourceJournalId caseId : Uuid} {journal : Journal}
      {db' : Db} (hsrc : request.sourceJournalId = some sourceJournalId)
      (hj : db.ledger.journals.find? sourceJournalId = some journal)
      (h : Reconciles s caseId journal request.idempotencyKey db db') :
      Committed s db (.resolveReconciliationCase request) db'

variable {s : Session} {db db' : Db}

private theorem Quiet.of_operation {op new : FundingOperation}
    (hmem : op ∈ db.operations.rows) (hkey : Keyed.key new = Keyed.key op)
    (htm : new.terms = op.terms) {budgets : Budgets} :
    Quiet db { db with operations := db.operations.replace new, budgets := budgets } :=
  { Quiet.refl db with operations := view_replace hmem hkey htm }

theorem Quiet.of_order {status : RechargeStatus}
    (hmem : order ∈ db.payments.rechargeOrders.rows) (hbef : order.status.isCredited = false)
    (haf : status.isCredited = false) :
    Quiet db { db with payments := db.payments.setOrderStatus order status } := by
  refine { Quiet.refl db with rechargeOrders := view_replace hmem rfl ?_ }
  simp [RechargeOrder.terms, RechargeOrder.setStatus, hbef, haf]

private theorem Quiet.with_events (h : Quiet db db') (events : Table WebhookEvent) :
    Quiet db { db' with payments := { db'.payments with webhookEvents := events } } :=
  ⟨h.wallets, h.ledger, h.transactions, h.cash, h.promotions, h.operations, h.adjustments,
    h.rechargeOrders, h.refundOrders, h.refundApplications, h.catalog⟩

theorem reserveFunding_committed {req : FundingReservationRequest}
    {result : (FundingOperation × Bool) × Db} (h : reserveFunding s req db = .ok result) :
    Committed s db (.reserveFunding req) result.2 := by
  simp only [reserveFunding, eq_ok] at h
  obtain ⟨orgId, horg, _, _, _, _, _, hrq, _, hmax, wallet, hw, h⟩ := h
  obtain ⟨hmem, hown⟩ := queried hw
  split at h <;> simp only [eq_ok] at h
  · obtain ⟨_, _, rfl⟩ := h
    exact .quiet (Quiet.refl db)
  · obtain ⟨_, hnew, rfl⟩ := h
    obtain ⟨_, hrs⟩ := reserveNew_eq_ok hnew
    exact .reserve hmem hrq hmax (hown ▸ horg) hrs

variable {result : FundingOperation × Db}

theorem settleFunding_committed {req : FundingSettlementRequest} (h : settleFunding s req db = .ok result) :
    Committed s db (.settleFunding req) result.2 := by
  simp only [settleFunding, eq_ok] at h
  obtain ⟨_, hvl, _, hop, h⟩ := h
  split at h
  · cases h
    exact .quiet (Quiet.refl db)
  · next htr =>
    obtain ⟨_, _, _, hset⟩ := settleOpen_eq_ok h
    exact .settle hop (by simpa [isFundingTerminal_eq] using htr) hvl.1 hset

theorem adjustLateFundingUsage_cases {req : LateUsageRequest}
    (h : adjustLateFundingUsage s req db = .ok result) :
    req.tokens.Valid ∧ ∃ op, db.operations.find? req.operationId = some op ∧
      op.status.isOpen = false ∧
      (req.replayed db ∧ result = (op, db) ∨
        req.replayed db = false ∧
          ∃ corrected, Adjusts s req op corrected db result.1 result.2) := by
  simp only [adjustLateFundingUsage, eq_ok] at h
  obtain ⟨_, hvl, op, hop, _, hcl, h⟩ := h
  have hid : op.id = req.operationId := (found hop).2
  rw [hid] at h
  refine ⟨hvl.2, op, hop, hcl, ?_⟩
  split at h
  · next hrp =>
    cases h
    exact .inl ⟨hrp, rfl⟩
  · next hnew => exact .inr ⟨Bool.not_eq_true _ ▸ hnew, adjustNew_eq_ok h⟩

theorem adjustLateFundingUsage_committed {req : LateUsageRequest}
    (h : adjustLateFundingUsage s req db = .ok result) :
    Committed s db (.adjustLateFundingUsage req) result.2 := by
  obtain ⟨hvl, op, hop, hcl, ⟨_, rfl⟩ | ⟨hnew, _, hadj⟩⟩ := adjustLateFundingUsage_cases h
  · exact .quiet (Quiet.refl db)
  · have hid : op.id = req.operationId := (found hop).2
    refine .adjust hop hcl hvl (fun row hrow hboth => ?_) hadj
    have hany : req.replayed db := any_eq_true.mpr ⟨row, hrow, by simpa [hid] using hboth⟩
    rw [hnew] at hany
    cases hany

theorem reverseFunding_committed {idempotencyKey reason : String}
    (h : reverseFunding s opId idempotencyKey reason db = .ok result) :
    Committed s db (.reverseFunding opId idempotencyKey reason) result.2 := by
  simp only [reverseFunding, eq_ok] at h
  obtain ⟨_, _, _, hop, h⟩ := h
  split at h
  · cases h
    exact .quiet (Quiet.refl db)
  · next hst =>
    simp only [eq_ok] at h
    obtain ⟨_, hpos, h⟩ := h
    exact .reverse hop hst hpos (reverseSettled_eq_ok h)

theorem heartbeatFunding_quiet {observedBytes : ℤ}
    (h : heartbeatFunding s opId observedBytes db = .ok db') : Quiet db db' := by
  simp only [heartbeatFunding, eq_ok] at h
  obtain ⟨_, _, h⟩ := h
  split at h
  · cases h
    exact Quiet.refl db
  · next _ hop =>
    split at h <;> cases h
    · refine Quiet.of_operation (found hop).1 ?_ ?_ <;> rfl
    · exact Quiet.refl db

theorem beginFundingAttempt_quiet {req : FundingAttemptRequest}
    (h : beginFundingAttempt s req db = .ok db') : Quiet db db' := by
  simp only [beginFundingAttempt, eq_ok] at h
  obtain ⟨_, hop, _, _, _, _, _, _, h⟩ := h
  have hmem := (found hop).1
  split at h
  · simp only [freezeFees, eq_ok] at h
    obtain ⟨_, ⟨_, _, _, _, rfl⟩, rfl⟩ := h
    refine Quiet.of_operation hmem ?_ ?_ <;> rfl
  · simp only [eq_ok] at h
    obtain ⟨_, _, rfl⟩ := h
    refine Quiet.of_operation hmem ?_ ?_ <;> rfl

private theorem view_renewed (now : Timestamp) (terms : List FundingOperation) (operations : Table FundingOperation)
    (h : ∀ op ∈ terms, ∃ stored ∈ operations.rows,
      Keyed.key stored = Keyed.key op ∧ stored.terms = op.terms) :
    (terms.foldl (fun table op => table.replace { op with heartbeatAt := now })
      operations).view FundingOperation.terms = operations.view FundingOperation.terms := by
  induction terms generalizing operations with
  | nil => rfl
  | cons op _ ih =>
    obtain ⟨stored, hstor, hkey, htm⟩ := h op mem_cons_self
    have hview : (operations.replace { op with heartbeatAt := now }).view FundingOperation.terms =
        operations.view FundingOperation.terms := view_replace hstor hkey.symm htm.symm
    rw [foldl_cons, ih _ ?_, hview]
    intro later hlat
    obtain ⟨old, hold, hkd, htr⟩ := h later (mem_cons_of_mem _ hlat)
    obtain ⟨seen, hseen, hsame⟩ := mem_of_view hview.symm hold
    refine ⟨seen, hseen, ?_, hsame.trans htr⟩
    have hkeys : Keyed.key seen.terms = Keyed.key old.terms := by rw [hsame]
    exact hkeys.trans hkd

theorem claimStale_quiet (s : Session) (staleBefore : Timestamp) (limit : ℤ) (locked : Uuid → Bool)
    (db : Db) : Quiet db (claimStale s staleBefore limit locked db) := by
  refine { Quiet.refl db with operations := view_renewed s.now _ db.operations fun op h => ?_ }
  have hsor := mem_of_mem_take h
  have hmem := (oldestFirst_perm _ _).mem_iff.mp hsor
  exact ⟨op, mem_of_mem_filter hmem, rfl, rfl⟩

theorem updateWallet_quiet {walletId : Uuid} {settings : WalletSettings}
    (h : updateWallet walletId settings db = .ok db') : Quiet db db' := by
  simp only [updateWallet, eq_ok] at h
  obtain ⟨_, hw, _, _, _, _, rfl⟩ := h
  refine { Quiet.refl db with wallets := view_replace (found hw).1 ?_ ?_ } <;>
    rfl

theorem createWalletTransaction_committed {req : WalletTransactionRequest}
    (h : createWalletTransaction s req db = .ok db') :
    Committed s db (.createWalletTransaction req) db' := by
  simp only [createWalletTransaction, eq_ok] at h
  obtain ⟨_, hw, _, _, h⟩ := h
  split at h
  · simp only [eq_ok] at h
    obtain ⟨_, _, rfl⟩ := h
    exact .quiet (Quiet.refl db)
  · exact .manual (postWalletTransaction_eq_ok hw h)

theorem markRechargePaid_quiet {evidenceReference : String}
    (h : markRechargePaid orderId evidenceReference db = .ok db') : Quiet db db' := by
  simp only [markRechargePaid, eq_ok] at h
  obtain ⟨_, ho, h⟩ := h
  split at h
  · cases h
    exact Quiet.refl db
  · simp only [eq_ok] at h
    obtain ⟨_, hpn, rfl⟩ := h
    exact Quiet.of_order (found ho).1 (by rw [hpn.1]; rfl) rfl

theorem creditPaidRecharge_committed (h : creditPaidRecharge s orderId db = .ok db') :
    Committed s db (.creditPaidRecharge orderId) db' := by
  simp only [creditPaidRecharge, eq_ok] at h
  obtain ⟨_, ho, h⟩ := h
  split at h
  · cases h
    exact .quiet (Quiet.refl db)
  · simp only [eq_ok] at h
    obtain ⟨_, hpaid, h⟩ := h
    exact .credit ho hpaid (creditPaid_eq_ok h)

theorem applyPaymentStatus_cases (hmem : order ∈ db.payments.rechargeOrders.rows)
    (h : applyPaymentStatus s order verified db = .ok db') :
    Quiet db db' ∨
      verified.status = .chargeback ∧ order.status = .credited ∧ ChargesBack s order db db' := by
  unfold applyPaymentStatus at h
  split at h
  · split at h
    · next hst =>
      cases h
      refine .inl (Quiet.of_order hmem ?_ rfl)
      rcases hst with hst | hst | hst <;> (rw [hst]; rfl)
    · cases h
      exact .inl (Quiet.refl db)
  · split at h
    · next hst =>
      cases h
      refine .inl (Quiet.of_order hmem ?_ rfl)
      rcases hst with hst | hst <;> (rw [hst]; rfl)
    · cases h
      exact .inl (Quiet.refl db)
  · next hvr =>
    split at h
    · next hst => exact .inr ⟨hvr, hst, applyChargebackTx_eq_ok h⟩
    · cases h
      exact .inl (Quiet.refl db)
  · cases h
    exact .inl (Quiet.refl db)

section

variable (h : recordVerifiedPaymentWebhook s provider verified sha db = .ok db')
include h

theorem recordVerifiedPaymentWebhook_cases : Quiet db db' ∨ ∃ order ∈ db.payments.rechargeOrders.rows,
      order.platformOrderNo = verified.platformOrderNo ∧ verified.status = .chargeback ∧
      order.status = .credited ∧ ChargesBack s order db db' := by
  simp only [recordVerifiedPaymentWebhook, eq_ok] at h
  obtain ⟨order, ho, _, _, h⟩ := h
  obtain ⟨hmem, hnum⟩ := queried ho
  split at h
  · simp only [eq_ok] at h
    obtain ⟨_, _, rfl⟩ := h
    exact .inl (Quiet.refl db)
  · next events _ =>
    simp only [eq_ok] at h
    obtain ⟨_, hap, rfl⟩ := h
    rcases applyPaymentStatus_cases hmem hap with hq | ⟨hvr, hst, hch⟩
    · exact .inl (hq.with_events events)
    · refine .inr ⟨order, hmem, hnum, hvr, hst,
        ⟨hch.transfer.posted, hch.transfer.wallets, hch.transfer.transactions⟩,
        hch.cash, hch.refundOrders, hch.rechargeOrders, ?_, hch.refundApplications⟩
      exact ⟨hch.funding.operations, hch.funding.promotions, hch.funding.adjustments,
        hch.funding.catalog⟩

theorem recordVerifiedPaymentWebhook_committed :
    Committed s db (.recordVerifiedPaymentWebhook provider verified sha) db' := by
  rcases recordVerifiedPaymentWebhook_cases h with hq | ⟨_, hmem, _, _, hst, hch⟩
  · exact .quiet hq
  · exact .chargeback hmem hst hch

end

theorem createRefundOrder_cases {req : CreateRefundOrderRequest} (h : createRefundOrder s req db = .ok db') :
    db' = db ∨ ∃ order refund, db.payments.rechargeOrders.find? req.rechargeOrderId = some order ∧
      order.status = .credited ∧ refund.refundApplicationId = req.refundApplicationId ∧
      (∀ row ∈ db.payments.refundOrders.rows,
        ¬(row.rechargeOrderId = order.id ∧ row.idempotencyKey = req.idempotencyKey)) ∧
      CreatesRefund s order refund db db' := by
  simp only [createRefundOrder, eq_ok] at h
  obtain ⟨order, ho, h⟩ := h
  split at h
  · simp only [eq_ok] at h
    obtain ⟨_, _, rfl⟩ := h
    exact .inl rfl
  · next hnew =>
    have hst : order.status = .credited := by
      simp only [createRefund, eq_ok] at h
      exact h.choose_spec.1.1
    obtain ⟨refund, ⟨_, _, hap⟩, hcr⟩ := createRefund_eq_ok h
    refine .inr ⟨order, refund, ho, hst, hap, fun row hrow => ?_, hcr⟩
    simpa only [decide_eq_true_eq] using find?_eq_none.mp hnew row hrow

theorem createRefundOrder_committed {req : CreateRefundOrderRequest}
    (h : createRefundOrder s req db = .ok db') :
    Committed s db (.createRefundOrder req) db' := by
  rcases createRefundOrder_cases h with rfl | ⟨_, _, ho, hst, _, _, hcr⟩
  · exact .quiet (Quiet.refl _)
  · exact .createRefund ho hst hcr

theorem markRefundPending_quiet (h : markRefundPending refundId refundNo db = .ok db') : Quiet db db' := by
  simp only [markRefundPending, eq_ok] at h
  obtain ⟨_, hr, _, hst, _, _, rfl⟩ := h
  refine { Quiet.refl db with
    refundOrders := view_replace (found hr).1 ?_ ?_ }
  · rfl
  · simp [RefundOrder.terms, hst, RefundStatus.isOpen]

theorem failRefund_committed {code : String}
    (h : failRefund s refundId code db = .ok db') : Committed s db (.failRefund refundId code) db' := by
  simp only [failRefund, eq_ok] at h
  obtain ⟨_, _, _, hr, h⟩ := h
  split at h <;> simp only [eq_ok] at h
  · obtain ⟨_, _, rfl⟩ := h
    exact .quiet (Quiet.refl db)
  · obtain ⟨_, hopen, h⟩ := h
    obtain ⟨_, hfl⟩ := failOpenRefund_eq_ok h
    exact .failRefund hr hopen hfl

theorem completeRefund_committed (h : completeRefund s refundId refundNo db = .ok db') :
    Committed s db (.completeRefund refundId refundNo) db' := by
  simp only [completeRefund, eq_ok] at h
  obtain ⟨_, hr, h⟩ := h
  split at h
  · cases h
    exact .quiet (Quiet.refl db)
  · simp only [eq_ok] at h
    obtain ⟨_, hopen, h⟩ := h
    obtain ⟨_, hcm⟩ := completeOpenRefund_eq_ok h
    exact .completeRefund hr hopen hcm

theorem resolveReconciliationCase_cases {req : ResolutionRequest}
    (h : resolveReconciliationCase s req db = .ok db') :
    Quiet db db' ∧ (req.replayed db ∨ req.sourceJournalId = none) ∨
      ∃ sourceJournalId caseId journal, req.replayed db = false ∧
        req.sourceJournalId = some sourceJournalId ∧
        db.ledger.journals.find? sourceJournalId = some journal ∧
        Reconciles s caseId journal req.idempotencyKey db db' := by
  simp only [resolveReconciliationCase, eq_ok] at h
  obtain ⟨_, _, _, _, caseValue, hcase, _, _, h⟩ := h
  have hid : caseValue.id = req.caseId := (found hcase).2
  rw [hid] at h
  split at h
  · next row hrow =>
    simp only [eq_ok] at h
    obtain ⟨_, _, rfl⟩ := h
    have hf := find?_some hrow
    exact .inl ⟨Quiet.refl db, .inl (any_eq_true.mpr
      ⟨row, mem_of_find?_eq_some hrow, hf⟩)⟩
  · next hnew =>
    have hfr : req.replayed db = false := by
      simpa [ResolutionRequest.replayed] using hnew
    simp only [resolveNew, eq_ok] at h
    obtain ⟨_, _, _, hrs, _, _, rfl⟩ := h
    cases hsr : req.sourceJournalId with
    | none =>
      rw [hsr] at hrs
      cases hrs
      exact .inl ⟨{ Quiet.refl db with }, .inr rfl⟩
    | some sourceJournalId =>
      rw [hsr] at hrs
      obtain ⟨journal, hj, hrec⟩ := reverseJournalForCase_eq_ok hrs
      refine .inr ⟨sourceJournalId, _, journal, hfr, rfl, hj, hrec.source, hrec.unreversed,
        hrec.posted, ?_, hrec.operations, hrec.promotions, hrec.adjustments, hrec.payments, hrec.catalog⟩
      rcases hrec.applied with hnone | ⟨walletId, hw, hap⟩
      · exact .inl hnone
      · exact .inr ⟨walletId, hw, hap.wallets, hap.cash⟩

theorem resolveReconciliationCase_committed {req : ResolutionRequest}
    (h : resolveReconciliationCase s req db = .ok db') :
    Committed s db (.resolveReconciliationCase req) db' := by
  rcases resolveReconciliationCase_cases h with
    ⟨hq, _⟩ | ⟨sourceJournalId, caseId, journal, _, hsr, hj, hrec⟩
  · exact .quiet hq
  · exact .reconcile hsr hj hrec

/-- Every committed call is one of the steps of the store. -/
theorem exec_committed {call : Call} (h : exec (s, call) db = .ok db') : Committed s db call db' := by
  cases call with
  | reserveFunding req =>
    obtain ⟨result, hrs, rfl⟩ := map_eq_ok.mp h
    exact reserveFunding_committed hrs
  | settleFunding req =>
    obtain ⟨result, hrs, rfl⟩ := map_eq_ok.mp h
    exact settleFunding_committed hrs
  | heartbeatFunding opId _ => exact .quiet (heartbeatFunding_quiet h)
  | beginFundingAttempt req => exact .quiet (beginFundingAttempt_quiet h)
  | claimStale staleBefore limit locked =>
    cases h
    exact .quiet (claimStale_quiet s staleBefore limit locked db)
  | adjustLateFundingUsage req =>
    obtain ⟨result, hrs, rfl⟩ := map_eq_ok.mp h
    exact adjustLateFundingUsage_committed hrs
  | reverseFunding opId _ _ =>
    obtain ⟨result, hrs, rfl⟩ := map_eq_ok.mp h
    exact reverseFunding_committed hrs
  | updateWallet _ _ => exact .quiet (updateWallet_quiet h)
  | createWalletTransaction req => exact createWalletTransaction_committed h
  | markRechargePaid orderId _ => exact .quiet (markRechargePaid_quiet h)
  | creditPaidRecharge orderId => exact creditPaidRecharge_committed h
  | recordVerifiedPaymentWebhook _ _ _ =>
    exact recordVerifiedPaymentWebhook_committed h
  | createRefundOrder req => exact createRefundOrder_committed h
  | markRefundPending refundId refundNo => exact .quiet (markRefundPending_quiet h)
  | failRefund refundId _ => exact failRefund_committed h
  | completeRefund refundId refundNo => exact completeRefund_committed h
  | resolveReconciliationCase req => exact resolveReconciliationCase_committed h

/-- What every allowed step keeps is kept along a history of allowed calls. -/
theorem run_keeps {Allowed : Db → Session × Call → Prop}
    (hstep : ∀ s call st st', Inv st → Allowed st (s, call) → Committed s st call st' → Inv st')
    (hinit : Inv db) {calls : List (Session × Call)} (hok : Along exec Allowed db calls) :
    Inv (run exec db calls) :=
  run_invariant (fun st inv st' hinv hcall hexec =>
    hstep inv.1 inv.2 st st' hinv hcall (exec_committed hexec)) hinit hok

theorem run_keeps_all (hstep : ∀ s call st st', Inv st → Committed s st call st' → Inv st') (hinit : Inv db)
    (calls : List (Session × Call)) : Inv (run exec db calls) := by
  have hall : Along exec (fun _ _ => True) db calls := Along.of_forall fun _ _ => trivial
  exact run_keeps (fun s call st st' hinv _ hc => hstep s call st st' hinv hc) hinit hall

/-- The settlements a recovery makes for claimed operations. -/
def recoveryCalls (session : Uuid → Session) (claimed : List FundingOperation) : List (Session × Call) :=
  claimed.map fun operation => (session operation.id, .settleFunding (recoveryRequest operation))

theorem settleClaimed_eq_run (session : Uuid → Session) (claimed : List FundingOperation) (recovered : ℕ)
    (db : Db) : ∃ n, (settleClaimed session claimed recovered db).2.2 =
      run exec db (recoveryCalls session (claimed.take n)) := by
  induction claimed generalizing recovered db with
  | nil => exact ⟨0, rfl⟩
  | cons op _ ih =>
    cases hset : settleFunding (session op.id) (recoveryRequest op) db with
    | ok result =>
      obtain ⟨n, hn⟩ := ih (recovered + 1) result.2
      refine ⟨n + 1, ?_⟩
      simp only [settleClaimed, hset, hn, take_succ_cons, recoveryCalls, map_cons, run_cons,
        exec, Except.map, commit]
    | error err =>
      have hfl : commit db (exec (session op.id, .settleFunding (recoveryRequest op))
          db) = db := by
        simp only [exec, hset, Except.map, commit]
      by_cases htr : err = .fundingTerminal
      · obtain ⟨n, hn⟩ := ih (recovered + 1) db
        refine ⟨n + 1, ?_⟩
        rw [take_succ_cons, recoveryCalls, map_cons, run_cons, hfl]
        simp only [settleClaimed, hset, htr]
        exact hn
      · refine ⟨0, ?_⟩
        simp only [settleClaimed, hset]
        rfl

/-- Recovering stale operations is a history of the calls it consists of. -/
theorem recoverStaleFunding_eq_run (s : Session) (session : Uuid → Session) (staleBefore : Timestamp)
    (limit : ℤ) (locked : Uuid → Bool) (db : Db) :
    ∃ n, (recoverStaleFunding s session staleBefore limit locked db).2.2 =
      run exec db ((s, .claimStale staleBefore limit locked) ::
        recoveryCalls session ((staleOperations staleBefore limit locked db).take n)) := by
  obtain ⟨n, hn⟩ := settleClaimed_eq_run session (staleOperations staleBefore limit locked db) 0
    (claimStale s staleBefore limit locked db)
  exact ⟨n, hn⟩

/-! ## A small store

One prepaid wallet with its accounts, two paid recharge orders of 100 and 50 units, a price of one
unit for each token, a promotion credit of 100 units and two open reconciliation cases. Histories
of this store show that the hypotheses of the general results can be met, and how a property fails.
-/

/-- An amount of a few units. -/
def unitsOf (n : Fin 1000) : Money := ⟨n.val, by omega, by have := n.isLt; unfold numericBound; omega⟩

theorem unitsOf_pos (amount : Fin 1000) (h : 0 < amount.val) : 0 < (unitsOf amount).units := by
  simpa [unitsOf] using h

instance neZero_thousand : NeZero 1000 := ⟨by decide⟩

theorem hundred_pos : 0 < (100 : Fin 1000).val := by decide

theorem fifty_pos : 0 < (50 : Fin 1000).val := by decide

/-- A rate of one unit for each token of input and output. -/
def demoRate (price : Fin 1000) : StoredRate where
  input := unitsOf price
  cached := unitsOf price
  output := unitsOf price
  fixed := .zero
  unit := 1
  currency := usd
  unit_pos := by decide

/-- A paid recharge order of the wallet. -/
def demoOrder (id : Uuid) (platformOrderNo : String) (amount : Fin 1000) (h : 0 < amount.val) :
    RechargeOrder where
  id := id
  platformOrderNo := platformOrderNo
  organizationId := 1
  walletId := 1
  paymentProvider := "sandbox"
  providerOrderNo := platformOrderNo
  status := .paid
  amount := unitsOf amount
  currency := usd
  idempotencyKey := platformOrderNo
  walletTransactionId := none
  ledgerJournalId := none
  creditedAt := none
  positive := unitsOf_pos amount h

/-- The small store. -/
def demoDb : Db where
  wallets := tableOf [⟨1, 1, usd, .prepaid, .active, .zero, .zero, .zero, unitsOf 500, .zero, true⟩]
    (by decide)
  ledger :=
    { accounts := tableOf [⟨1, .wallet 1 .available, usd, true⟩, ⟨2, .wallet 1 .reserved, usd, true⟩,
        ⟨3, .system .cash usd, usd, true⟩, ⟨4, .system .revenue usd, usd, true⟩,
        ⟨5, .system .migrationEquity usd, usd, true⟩, ⟨6, .system .adjustmentEquity usd, usd, true⟩]
        (by decide)
      journals := .empty }
  transactions := .empty
  cash := ⟨.empty, .empty, .empty, .empty⟩
  promotions :=
    { credits := tableOf [⟨1, 1, usd, unitsOf 100, unitsOf 100, "welcome", "campaign", .active, none, 0,
        by decide, le_refl _⟩] (by decide)
      allocations := .empty }
  operations := .empty
  adjustments := .empty
  usageRecords := .empty
  budgets := ⟨.empty, .empty⟩
  shadowSpend := .empty
  payments :=
    { rechargeOrders := tableOf [demoOrder 1 "RO1" 100 hundred_pos, demoOrder 2 "RO2" 50 fifty_pos]
        (by decide)
      refundOrders := .empty
      refundApplications := .empty
      webhookEvents := .empty }
  reconciliation :=
    { cases := tableOf [⟨1, .opened, none, none, none, none, "", ""⟩,
        ⟨2, .opened, none, none, none, none, "", ""⟩] (by decide)
      resolutions := .empty }
  catalog := ⟨tableOf [⟨1, demoRate 0, demoRate 1⟩] (by decide), .empty, .empty, .empty⟩

theorem demoDb_genesis : Genesis demoDb := by
  refine ⟨?_, rfl, rfl, rfl, rfl, rfl, rfl, rfl, rfl, rfl, ?_, rfl⟩
  · intro _ hw kind
    rw [mem_singleton.mp hw]
    cases kind <;> rfl
  · decide

/-- A number for each place an identifier is drawn at. -/
def Draw.code : Draw → ℕ
  | .operation => 0
  | .journal => 1
  | .releaseJournal => 2
  | .transaction => 3
  | .creditAllocation => 4
  | .lot => 5
  | .adjustment => 6
  | .budgetReservation => 7
  | .refund => 8
  | .event => 9
  | .resolution => 10
  | .requestLog => 11
  | .usageSnapshot => 12
  | .usageRecord => 13
  | .promotionCredit => 14
  | .refundApplication => 15
  | .invoiceApplication => 16
  | .allocation itemId => 17 + 6 * itemId
  | .lotDebit lotId => 18 + 6 * lotId
  | .promotionAllocation creditId => 19 + 6 * creditId
  | .redemption creditId => 20 + 6 * creditId
  | .rechargeItem orderId => 21 + 6 * orderId
  | .subscriptionItem invoiceId => 22 + 6 * invoiceId

theorem Draw.code_injective : Function.Injective Draw.code := by
  intro a b h
  cases a <;> cases b <;> simp [Draw.code] at h ⊢ <;> omega

/-- The session of the `n`-th call of a history: its identifiers are its own. -/
def demoSession (n : ℕ) : Session where
  now := n
  clock := n
  uuid draw := 1000 * draw.code + n

theorem demoSession_fresh {n : ℕ} {db : Db} (h :
    (db.ledger.journals.rows.map (fun row => row.id) ++ db.transactions.rows.map (fun row => row.id) ++
      db.cash.lots.rows.map (fun row => row.id) ++ db.cash.allocations.rows.map (fun row => row.id) ++
      db.adjustments.rows.map (fun row => row.id)).all (fun id => id % 1000 ≠ n % 1000)) :
    (demoSession n).Fresh db := by
  have hnew (id : Uuid) (hid : id % 1000 ≠ n % 1000) (draw : Draw) : id ≠ (demoSession n).uuid draw := by
    rintro rfl
    exact hid (Nat.mul_add_mod 1000 draw.code n)
  simp only [all_append, cond_iff, all_map, all_eq_true, Function.comp] at h
  obtain ⟨⟨⟨⟨hjr, htx⟩, hlots⟩, hall⟩, hadj⟩ := h
  refine ⟨fun a b hsame => Draw.code_injective ?_, fun row hrow => hnew _ (hjr row hrow),
    fun row hrow => hnew _ (htx row hrow), fun row hrow => hnew _ (hlots row hrow),
    fun row hrow => hnew _ (hall row hrow), fun row hrow => hnew _ (hadj row hrow)⟩
  have heq : 1000 * a.code + n = 1000 * b.code + n := hsame
  omega

/-- The operation that the second call of a small history reserves. -/
def demoOperationId : Uuid := (demoSession 2).uuid .operation

/-- A reservation of the small store. -/
def demoReservation (requestId : String) (maximum promotion : ℚ) : FundingReservationRequest where
  organizationId := some 1
  projectId := some 1
  apiKeyId := none
  requestId := requestId
  idempotencyKey := requestId
  requestFingerprint := requestId
  pricingVersionId := some 1
  currency := "USD"
  maximumAmount := some (maximum / 10 ^ 12)
  promotionAmount := some (promotion / 10 ^ 12)
  taxRate := some 0
  exchangeRate := some 1
  estimatedInput := 0
  maxOutput := 0

/-- The settlement of an operation of the small store with a number of input tokens. -/
def demoSettlement (operationId : Uuid) (tokens : ℤ) (waive : Bool) : FundingSettlementRequest where
  operationId := operationId
  tokens := ⟨tokens, 0, 0⟩
  observedBytes := 0
  usageSource := "PROVIDER"
  failureCode := ""
  partialFailure := false
  waive := waive

/-- A late usage report of an operation of the small store. -/
def demoLate (operationId : Uuid) (key : String) (tokens : ℤ) : LateUsageRequest where
  operationId := operationId
  idempotencyKey := key
  tokens := ⟨tokens, 0, 0⟩
  usageSource := "PROVIDER"

/-- A refund of an order of the small store. -/
def demoRefund (rechargeOrderId : Uuid) (amount : ℤ) : CreateRefundOrderRequest where
  platformRefundNo := "RF"
  rechargeOrderId := rechargeOrderId
  refundApplicationId := none
  amount := amount
  reason := "requested"
  idempotencyKey := "refund"

/-- The reversal of a journal of the small store, on behalf of a case. -/
def demoReversal (caseId journalId : Uuid) : ResolutionRequest where
  caseId := caseId
  action := "REVERSE_JOURNAL"
  sourceJournalId := some journalId
  reason := "wrong"
  idempotencyKey := "reverse"
  actor := "operator"

end ModelDock.Store
