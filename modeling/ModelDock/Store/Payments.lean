import ModelDock.Store.Books
import ModelDock.Store.CashLots

/-!
# Recharges, refunds and chargebacks

Recharges, refunds and chargebacks, each one transaction over the order, the wallet, the ledger and the cash
tables. Calls to providers, order creation and provider allocations are left out.
-/

namespace ModelDock.Store

open Relational Accounting

variable (s : Session) (provider : String) (order : RechargeOrder) (refund : RefundOrder)

/-- Move a recharge order to another status. -/
def RechargeOrder.setStatus (status : RechargeStatus) : RechargeOrder :=
  { order with status := status }

/-- Store a recharge order's new status. -/
def Payments.setOrderStatus (payments : Payments) (order : RechargeOrder) (status : RechargeStatus) : Payments :=
  { payments with rechargeOrders := payments.rechargeOrders.replace (order.setStatus status) }

/-- Approve a manual transfer. -/
def markRechargePaid (orderId : Uuid) (evidenceReference : String) (db : Db) : Except StoreError Db := do
  let order ← required (db.payments.rechargeOrders.find? orderId) .notFound
  if order.status = .paid ∨ order.status = .credited then return db
  else
    ensure (order.status = .pending ∧ order.paymentProvider = "manual_transfer" ∧
      Text.isBlank evidenceReference = false) .paymentState
    return { db with payments := db.payments.setOrderStatus order .paid }

/-- The lines of a recharge credit. -/
def rechargeLines : List JournalLine :=
  [⟨systemAccountKey .cash order.currency, .debit, order.amount.units, "Verified payment cash"⟩,
    ⟨walletAccountKey order.walletId .available, .credit, order.amount.units,
      "Verified recharge credit"⟩]

/-- The transaction row of a recharge. -/
def rechargeTransaction (balanceAfter : ℤ) : TransactionInput where
  id := s.uuid .transaction
  walletId := order.walletId
  transactionType := .topup
  amount := order.amount.units
  balanceAfter := balanceAfter
  idempotencyKey := some (.recharge order.id)
  reference := order.platformOrderNo
  journalId := some (s.uuid .journal)
  rechargeOrderId := some order.id

/-- Mark a recharge order credited. -/
def RechargeOrder.credit (s : Session) : RechargeOrder :=
  { order with
    status := .credited
    walletTransactionId := some (s.uuid .transaction)
    ledgerJournalId := some (s.uuid .journal)
    creditedAt := some s.now }

/-- Credit a paid order to its wallet. -/
def creditPaid (db : Db) : Except StoreError Db := do
  let wallet ← required (db.wallets.find? order.walletId) .noRows
  ensure (wallet.status ≠ .closed ∧ wallet.currency = order.currency) .walletUnavailable
  let wallet ← wallet.addAvailable order.amount.units
  let ledger ← postLinkedJournalTx (s.uuid .journal) order.walletId .paymentCredit (.recharge order.id)
    order.currency (some order.id) none (rechargeLines order) db.ledger
  let transactions ← insertTransaction s
    (rechargeTransaction s order wallet.availableBalance.units) db.transactions
  let cash ← createCashLotTx s order.walletId (some order.id) (s.uuid .transaction) .recharge
    (.platformOrderNo order.platformOrderNo) order.amount.units order.currency true db.cash
  return { db with
    wallets := db.wallets.replace wallet, ledger := ledger, transactions := transactions, cash := cash,
    payments := { db.payments with
      rechargeOrders := db.payments.rechargeOrders.replace (order.credit s) } }

/-- Credit a recharge order once it is paid. -/
def creditPaidRecharge (orderId : Uuid) (db : Db) : Except StoreError Db := do
  let order ← required (db.payments.rechargeOrders.find? orderId) .notFound
  if order.status.isCredited then return db
  else
    ensure (order.status = .paid) .paymentState
    creditPaid s order db

/-- No other refund of the provider has the provider's refund number. -/
def Payments.freeRefundNo (payments : Payments) (refundId : Uuid) (provider : String)
    (providerRefundNo : Option String) : Bool :=
  payments.refundOrders.rows.all fun row => row.id = refundId ||
    !(row.paymentProvider = provider && sameValue row.providerRefundNo providerRefundNo)

/-- The arguments of a refund. -/
structure CreateRefundOrderRequest where
  platformRefundNo : String
  rechargeOrderId : Uuid
  refundApplicationId : Option Uuid
  amount : ℤ
  (reason idempotencyKey : String)

/-- The amount may be refunded: all of the order, or what an approved application asked for. -/
def refundApproved (request : CreateRefundOrderRequest) (order : RechargeOrder)
    (applications : Table RefundApplication) : Bool :=
  match request.refundApplicationId with
  | none => request.amount = order.amount.units
  | some applicationId => applications.rows.any fun application =>
      application.id = applicationId && application.organizationId = order.organizationId &&
        application.rechargeOrderId = some order.id && application.status = .approved &&
        application.refundOrderId = none && application.requestedAmount.units = request.amount

/-- Link a refund to the application that asked for it. -/
def startApplication (refundId : Uuid) (applicationId : Option Uuid)
    (applications : Table RefundApplication) : Table RefundApplication :=
  applications.rewrite (fun row =>
    if some row.id = applicationId then { row with status := .processing, refundOrderId := some refundId }
    else row) fun row => by split <;> rfl

/-- Close the application of a refund. -/
def finishApplication (refundId : Uuid) (status : ApplicationStatus)
    (applications : Table RefundApplication) : Table RefundApplication :=
  applications.rewrite (fun row =>
    if row.refundOrderId = some refundId ∧ row.status = .processing then { row with status := status }
    else row) fun row => by split <;> rfl

/-- The row of a new refund. -/
def newRefund (request : CreateRefundOrderRequest) (order : RechargeOrder) : Except StoreError RefundOrder := do
  let amount ← money request.amount
  if h : 0 < amount.units then
    return { id := s.uuid .refund, platformRefundNo := request.platformRefundNo
             rechargeOrderId := order.id, refundApplicationId := request.refundApplicationId
             paymentProvider := order.paymentProvider, providerRefundNo := none, status := .created
             amount := amount, currency := order.currency, reason := Text.trimSpace request.reason
             idempotencyKey := request.idempotencyKey, walletTransactionId := none
             ledgerJournalId := none, failureCode := "", positive := h }
  else throw .checkViolation

/-- Create a refund whose idempotency key is new, with a hold on the order's lot. -/
def createRefund (request : CreateRefundOrderRequest) (order : RechargeOrder) (db : Db) : Except StoreError Db := do
  ensure (order.status = .credited ∧ 0 < request.amount ∧ request.idempotencyKey ≠ "" ∧
    Text.isBlank request.reason = false) .paymentState
  ensure (refundApproved request order db.payments.refundApplications) .paymentState
  let lot ← required (db.cash.refundableLot? order.walletId order.id) .refundNotEligible
  ensure (request.amount ≤ lot.remainingAmount.units) .refundNotEligible
  let refund ← newRefund s request order
  let refundOrders ← db.payments.refundOrders.insert refund .uniqueViolation
  let cash ← reserveRefundCashTx s refund.id order.walletId order.id refund.amount.units db.cash
  let payments := db.payments.setOrderStatus order .refundPending
  return { db with
    cash := cash
    payments := { payments with
      refundOrders := refundOrders
      refundApplications := startApplication refund.id request.refundApplicationId
        payments.refundApplications } }

/-- Create a refund once for each idempotency key of the order. -/
def createRefundOrder (request : CreateRefundOrderRequest) (db : Db) : Except StoreError Db := do
  let order ← required (db.payments.rechargeOrders.find? request.rechargeOrderId) .notFound
  match db.payments.refundOrders.rows.find? fun refund =>
      refund.rechargeOrderId = order.id ∧ refund.idempotencyKey = request.idempotencyKey with
  | some refund =>
    ensure (refund.amount.units = request.amount ∧ refund.reason = Text.trimSpace request.reason ∧
      refund.refundApplicationId = request.refundApplicationId) .idempotencyConflict
    return db
  | none => createRefund s request order db

/-- Record that the provider accepted a refund. -/
def markRefundPending (refundId : Uuid) (providerRefundNo : String) (db : Db) : Except StoreError Db := do
  let refund ← required (db.payments.refundOrders.find? refundId) .paymentState
  ensure (refund.status = .created) .paymentState
  ensure (db.payments.freeRefundNo refund.id refund.paymentProvider (some providerRefundNo))
    .uniqueViolation
  return { db with payments := { db.payments with
    refundOrders := db.payments.refundOrders.replace { refund with
      status := .pending, providerRefundNo := some providerRefundNo } } }

/-- Mark a refund failed. -/
def RefundOrder.fail (code : String) : RefundOrder :=
  { refund with status := .failed, failureCode := code }

/-- Fail an open refund and return its hold. -/
def failOpenRefund (code : String) (db : Db) : Except StoreError Db := do
  let order ← required (db.payments.rechargeOrders.find? refund.rechargeOrderId) .noRows
  let cash ← settleRefundCashTx s db.transactions refund.id order.walletId none false db.cash
  let payments := if order.status = .refundPending then db.payments.setOrderStatus order .credited
    else db.payments
  return { db with
    cash := cash
    payments := { payments with
      refundOrders := payments.refundOrders.replace (refund.fail code)
      refundApplications := finishApplication refund.id .failed payments.refundApplications } }

/-- Record that the provider refused a refund. -/
def failRefund (refundId : Uuid) (code : String) (db : Db) : Except StoreError Db := do
  ensure (Text.isBlank code = false) .paymentState
  let refund ← required (db.payments.refundOrders.find? refundId) .notFound
  if refund.status = .failed then
    ensure (refund.failureCode = Text.trimSpace code) .idempotencyConflict
    return db
  else
    ensure (refund.status.isOpen) .paymentState
    failOpenRefund s refund (Text.trimSpace code) db

/-- The lines of a completed refund. -/
def refundLines : List JournalLine :=
  [⟨walletAccountKey order.walletId .available, .debit, refund.amount.units, "Payment refund debit"⟩,
    ⟨systemAccountKey .cash refund.currency, .credit, refund.amount.units, "Payment refund cash"⟩]

/-- The transaction row of a completed refund. -/
def refundTransaction (balanceAfter : ℤ) : TransactionInput where
  id := s.uuid .transaction
  walletId := order.walletId
  transactionType := .refund
  amount := -refund.amount.units
  balanceAfter := balanceAfter
  idempotencyKey := some (.refund refund.id)
  reference := refund.platformRefundNo
  journalId := some (s.uuid .journal)
  refundOrderId := some refund.id

/-- Mark a refund paid. -/
def RefundOrder.succeed (s : Session) (providerRefundNo : String) : RefundOrder :=
  { refund with
    status := .succeeded
    providerRefundNo := some providerRefundNo
    walletTransactionId := some (s.uuid .transaction)
    ledgerJournalId := some (s.uuid .journal) }

/-- Complete an open refund: the money leaves the wallet and its hold is spent. -/
def completeOpenRefund (providerRefundNo : String) (db : Db) : Except StoreError Db := do
  let order ← required (db.payments.rechargeOrders.find? refund.rechargeOrderId) .notFound
  ensure (order.status = .refundPending) .paymentState
  let wallet ← required (db.wallets.find? order.walletId) .noRows
  let wallet ← wallet.addAvailable (-refund.amount.units)
  let ledger ← postLinkedJournalTx (s.uuid .journal) order.walletId .paymentRefund (.refund refund.id)
    refund.currency none (some refund.id) (refundLines order refund) db.ledger
  let transactions ← insertTransaction s
    (refundTransaction s order refund wallet.availableBalance.units) db.transactions
  let cash ← settleRefundCashTx s transactions refund.id order.walletId (some (s.uuid .transaction)) true
    db.cash
  ensure (db.payments.freeRefundNo refund.id refund.paymentProvider (some providerRefundNo))
    .uniqueViolation
  let payments := db.payments.setOrderStatus order
    (if refund.amount.units < order.amount.units then .credited else .refunded)
  return { db with
    wallets := db.wallets.replace wallet, ledger := ledger, transactions := transactions, cash := cash,
    payments := { payments with
      refundOrders := payments.refundOrders.replace (refund.succeed s providerRefundNo)
      refundApplications := finishApplication refund.id .completed payments.refundApplications } }

/-- Record that the provider paid a refund. -/
def completeRefund (refundId : Uuid) (providerRefundNo : String) (db : Db) : Except StoreError Db := do
  let refund ← required (db.payments.refundOrders.find? refundId) .notFound
  if refund.status = .succeeded then return db
  else
    ensure (refund.status.isOpen) .paymentState
    completeOpenRefund s refund providerRefundNo db

/-- What a verified webhook says. -/
structure VerifiedWebhook where
  (providerEventId providerOrderNo platformOrderNo : String)
  status : PaymentStatus
  amount : ℤ
  (currency replayKey : String)

/-- The lines of a chargeback. -/
def chargebackLines : List JournalLine :=
  [⟨walletAccountKey order.walletId .available, .debit, order.amount.units, "Chargeback wallet debit"⟩,
    ⟨systemAccountKey .cash order.currency, .credit, order.amount.units, "Chargeback cash reversal"⟩]

/-- The number of the refund order that stands for a chargeback. -/
def chargebackRefundNo (platformOrderNo : String) : String :=
  "CB" ++ String.ofList (platformOrderNo.toList.filter fun c => c ≠ '_')

/-- The refund order that stands for a chargeback. -/
def chargebackRefund (providerEventId : String) : RefundOrder where
  id := s.uuid .refund
  platformRefundNo := chargebackRefundNo order.platformOrderNo
  rechargeOrderId := order.id
  refundApplicationId := none
  paymentProvider := order.paymentProvider
  providerRefundNo := some ("chargeback:" ++ providerEventId)
  status := .succeeded
  amount := order.amount
  currency := order.currency
  reason := "Provider chargeback"
  idempotencyKey := "chargeback:" ++ providerEventId
  walletTransactionId := some (s.uuid .transaction)
  ledgerJournalId := some (s.uuid .journal)
  failureCode := ""
  positive := order.positive

/-- The transaction row of a chargeback. -/
def chargebackTransaction (providerEventId : String) (balanceAfter : ℤ) : TransactionInput where
  id := s.uuid .transaction
  walletId := order.walletId
  transactionType := .refund
  amount := -order.amount.units
  balanceAfter := balanceAfter
  idempotencyKey := some (.chargeback order.id)
  reference := providerEventId
  journalId := some (s.uuid .journal)
  refundOrderId := some (s.uuid .refund)

/-- Take the amount of a credited order back from its wallet. -/
def applyChargebackTx (providerEventId : String) (db : Db) : Except StoreError Db := do
  let wallet ← required (db.wallets.find? order.walletId) .noRows
  ensure (wallet.status ≠ .closed ∧ wallet.currency = order.currency) .walletUnavailable
  let wallet ← wallet.addAvailable (-order.amount.units)
  let refund := chargebackRefund s order providerEventId
  let refundOrders ← db.payments.refundOrders.insert refund .uniqueViolation
  ensure (db.payments.freeRefundNo refund.id refund.paymentProvider refund.providerRefundNo)
    .uniqueViolation
  let ledger ← postLinkedJournalTx (s.uuid .journal) order.walletId .paymentRefund
    (.chargeback order.id) order.currency none (some refund.id) (chargebackLines order) db.ledger
  let transactions ← insertTransaction s
    (chargebackTransaction s order providerEventId wallet.availableBalance.units) db.transactions
  let cash ← allocateChargebackTx s transactions order.walletId order.id (s.uuid .transaction)
    order.amount.units db.cash
  let payments := db.payments.setOrderStatus order .chargeback
  return { db with
    wallets := db.wallets.replace wallet, ledger := ledger, transactions := transactions, cash := cash,
    payments := { payments with refundOrders := refundOrders } }

/-- Apply what a new event says to its order. -/
def applyPaymentStatus (verified : VerifiedWebhook) (db : Db) : Except StoreError Db :=
  match verified.status with
  | .paid =>
    if order.status = .created ∨ order.status = .pending ∨ order.status = .expired then
      .ok { db with payments := db.payments.setOrderStatus order .paid }
    else .ok db
  | .failed =>
    if order.status = .created ∨ order.status = .pending then
      .ok { db with payments := db.payments.setOrderStatus order .failed }
    else .ok db
  | .chargeback =>
    if order.status = .credited then applyChargebackTx s order verified.providerEventId db else .ok db
  | .other _ => .ok db

/-- The webhook is about the order as it is stored. -/
def matchesOrder (verified : VerifiedWebhook) : Bool :=
  order.paymentProvider = provider && order.paymentProvider ≠ "" &&
    order.providerOrderNo = verified.providerOrderNo && order.amount.units = verified.amount &&
    order.currency.code = verified.currency

/-- The row of a verified webhook. -/
def webhookEvent (verified : VerifiedWebhook) (rawBodySha256 : String) : WebhookEvent where
  id := s.uuid .event
  paymentProvider := provider
  providerEventId := verified.providerEventId
  replayKey := verified.replayKey
  providerOrderNo := verified.providerOrderNo
  rechargeOrderId := order.id
  paymentStatus := verified.status
  amount := order.amount
  currency := verified.currency
  rawBodySha256 := rawBodySha256
  processed := true

/-- An event that was recorded before has to say the same again. -/
def checkReplay (event : WebhookEvent) (events : Table WebhookEvent) : Except StoreError Unit := do
  let existing ← required (events.rows.find? fun row => row.paymentProvider = event.paymentProvider ∧
    (row.providerEventId = event.providerEventId ∨ row.replayKey = event.replayKey)) .noRows
  ensure (existing.rawBodySha256 = event.rawBodySha256 ∧
    existing.rechargeOrderId = event.rechargeOrderId ∧
    existing.providerOrderNo = event.providerOrderNo ∧ existing.paymentStatus = event.paymentStatus ∧
    existing.amount = event.amount ∧ existing.currency = event.currency) .paymentMismatch

/-- Record a verified webhook once and apply it to its order. -/
def recordVerifiedPaymentWebhook (verified : VerifiedWebhook)
    (rawBodySha256 : String) (db : Db) : Except StoreError Db := do
  let order ← required (db.payments.rechargeOrders.rows.find? fun order =>
    order.platformOrderNo = verified.platformOrderNo) .notFound
  ensure (matchesOrder provider order verified) .paymentMismatch
  let event := webhookEvent s provider order verified rawBodySha256
  match db.payments.webhookEvents.insert event StoreError.uniqueViolation with
  | .error _ =>
    checkReplay event db.payments.webhookEvents
    return db
  | .ok webhookEvents =>
    let applied ← applyPaymentStatus s order verified db
    return { applied with payments := { applied.payments with webhookEvents := webhookEvents } }

theorem RechargeOrder.setStatus_key (status : RechargeStatus) :
    Keyed.key (order.setStatus status) = Keyed.key order := rfl

theorem RefundOrder.fail_key (code : String) : Keyed.key (refund.fail code) = Keyed.key refund := rfl

theorem RefundOrder.succeed_key (s : Session) (refundNo : String) :
    Keyed.key (refund.succeed s refundNo) = Keyed.key refund := rfl

variable {s : Session} {order : RechargeOrder} {refund : RefundOrder} {db db' : Db}

theorem linesNet_rechargeLines (order : RechargeOrder) :
    LinesMove (rechargeLines order) order.walletId order.amount.units 0 := by
  rintro id (_ | _) <;> simp [rechargeLines, walletAccountKey, systemAccountKey, JournalLine.posting,
    Posting.signed, perAccount, eq_comm]

theorem linesNet_refundLines (order : RechargeOrder) (refund : RefundOrder) :
    LinesMove (refundLines order refund) order.walletId (-refund.amount.units) 0 := by
  rintro id (_ | _) <;> simp [refundLines, walletAccountKey, systemAccountKey, JournalLine.posting,
    Posting.signed, perAccount, eq_comm]

theorem linesNet_chargebackLines (order : RechargeOrder) :
    LinesMove (chargebackLines order) order.walletId (-order.amount.units) 0 := by
  rintro id (_ | _) <;> simp [chargebackLines, walletAccountKey, systemAccountKey, JournalLine.posting,
    Posting.signed, perAccount, eq_comm]

/-- The tables of the funding side, which no payment touches. -/
structure SameFunding (db db' : Db) : Prop where
  operations : db'.operations = db.operations
  promotions : db'.promotions = db.promotions
  adjustments : db'.adjustments = db.adjustments
  catalog : db'.catalog = db.catalog

/-- What crediting a paid order writes. -/
structure Credits (s : Session) (order : RechargeOrder) (db db' : Db) : Prop where
  transfer : Transfer s order.walletId order.amount.units .paymentCredit (.recharge order.id) db db'
  cash : createCashLotTx s order.walletId (some order.id) (s.uuid .transaction) .recharge
    (.platformOrderNo order.platformOrderNo) order.amount.units order.currency true db.cash = .ok db'.cash
  payments : db'.payments = { db.payments with
    rechargeOrders := db.payments.rechargeOrders.replace (order.credit s) }
  funding : SameFunding db db'

/-- What crediting a paid order writes. -/
theorem creditPaid_eq_ok (h : creditPaid s order db = .ok db') : Credits s order db db' := by
  simp only [creditPaid, eq_ok] at h
  obtain ⟨_, hw, _, _, _, hw', _, hld, _, htx, _, hcash, rfl⟩ := h
  exact ⟨Transfer.of_writes hld (linesNet_rechargeLines order) hw
    (Wallet.moved_of_addAvailable hw') rfl htx ⟨rfl, rfl, rfl, rfl, rfl⟩, hcash,
    rfl, ⟨rfl, rfl, rfl, rfl⟩⟩

/-- What creating a refund writes. -/
structure CreatesRefund (s : Session) (order : RechargeOrder) (refund : RefundOrder) (db db' : Db) : Prop where
  id : refund.id = s.uuid .refund
  rechargeOrderId : refund.rechargeOrderId = order.id
  currency : refund.currency = order.currency
  status : refund.status = .created
  refundOrders : db.payments.refundOrders.insert refund StoreError.uniqueViolation =
    .ok db'.payments.refundOrders
  cash : reserveRefundCashTx s refund.id order.walletId order.id refund.amount.units db.cash =
    .ok db'.cash
  rechargeOrders : db'.payments.rechargeOrders =
    db.payments.rechargeOrders.replace (order.setStatus .refundPending)
  wallets : db'.wallets = db.wallets
  ledger : db'.ledger = db.ledger
  transactions : db'.transactions = db.transactions
  funding : SameFunding db db'
  approved : refund.refundApplicationId = none ∧ refund.amount = order.amount ∨
    ∃ application ∈ db.payments.refundApplications.rows,
      refund.refundApplicationId = some application.id ∧ application.rechargeOrderId = some order.id ∧
      application.status = .approved ∧ application.requestedAmount = refund.amount
  refundApplications : db'.payments.refundApplications =
    startApplication refund.id refund.refundApplicationId db.payments.refundApplications

theorem createRefund_eq_ok {req : CreateRefundOrderRequest} (h : createRefund s req order db = .ok db') :
    ∃ refund, (refund.amount.units = req.amount ∧ refund.idempotencyKey = req.idempotencyKey ∧
      refund.refundApplicationId = req.refundApplicationId) ∧ CreatesRefund s order refund db db' := by
  simp only [createRefund, newRefund, eq_ok, money_eq_ok] at h
  obtain ⟨_, _, _, hap, _, _, _, _, _, ⟨_, ham, _, rfl⟩, _, href, _, hcash, rfl⟩ := h
  refine ⟨_, ⟨ham, rfl, rfl⟩, rfl, rfl, rfl, rfl, href, hcash, rfl, rfl, rfl, rfl,
    ⟨rfl, rfl, rfl, rfl⟩, ?_, rfl⟩
  unfold refundApproved at hap
  cases hid : req.refundApplicationId with
  | none =>
    rw [hid] at hap
    exact .inl ⟨rfl, Money.ext (ham.trans (of_decide_eq_true hap))⟩
  | some _ =>
    rw [hid] at hap
    simp only [List.any_eq_true, cond_iff] at hap
    obtain ⟨app, hmem, ⟨⟨⟨⟨rfl, _⟩, ho⟩, hst⟩, _⟩, hask⟩ := hap
    exact .inr ⟨app, hmem, rfl, ho, hst, Money.ext (hask.trans ham.symm)⟩

/-- What failing a refund writes. -/
structure FailsRefund (s : Session) (order : RechargeOrder) (refund : RefundOrder) (db db' : Db) : Prop where
  found : db.payments.rechargeOrders.find? refund.rechargeOrderId = some order
  cash : settleRefundCashTx s db.transactions refund.id order.walletId none false db.cash = .ok db'.cash
  refundOrders : ∃ code, db'.payments.refundOrders = db.payments.refundOrders.replace (refund.fail code)
  rechargeOrders : order.status = .refundPending ∧ db'.payments.rechargeOrders =
      db.payments.rechargeOrders.replace (order.setStatus .credited) ∨
    order.status ≠ .refundPending ∧ db'.payments.rechargeOrders = db.payments.rechargeOrders
  wallets : db'.wallets = db.wallets
  ledger : db'.ledger = db.ledger
  transactions : db'.transactions = db.transactions
  funding : SameFunding db db'
  refundApplications : db'.payments.refundApplications =
    finishApplication refund.id .failed db.payments.refundApplications

theorem failOpenRefund_eq_ok {code : String} (h : failOpenRefund s refund code db = .ok db') :
    ∃ order, FailsRefund s order refund db db' := by
  simp only [failOpenRefund, eq_ok] at h
  obtain ⟨order, ho, _, hcash, rfl⟩ := h
  refine ⟨order, ho, hcash, ⟨code, ?_⟩, ?_, rfl, rfl, rfl, ⟨rfl, rfl, rfl, rfl⟩, ?_⟩
  · split <;> rfl
  · split
    · next hpn => exact .inl ⟨hpn, rfl⟩
    · next hne => exact .inr ⟨hne, rfl⟩
  · split <;> rfl

/-- What completing a refund writes. -/
structure CompletesRefund (s : Session) (order : RechargeOrder) (refund : RefundOrder) (db db' : Db) : Prop where
  found : db.payments.rechargeOrders.find? refund.rechargeOrderId = some order
  pending : order.status = .refundPending
  transfer : Transfer s order.walletId (-refund.amount.units) .paymentRefund (.refund refund.id) db db'
  cash : settleRefundCashTx s db'.transactions refund.id order.walletId (some (s.uuid .transaction)) true
    db.cash = .ok db'.cash
  refundOrders : ∃ providerRefundNo, db'.payments.refundOrders =
    db.payments.refundOrders.replace (refund.succeed s providerRefundNo)
  rechargeOrders : db'.payments.rechargeOrders = db.payments.rechargeOrders.replace
    (order.setStatus (if refund.amount.units < order.amount.units then .credited else .refunded))
  transaction : ∃ row ∈ db'.transactions.rows, row.id = s.uuid .transaction ∧
    row.refundOrderId = some refund.id ∧ row.fundingOperationId = none
  funding : SameFunding db db'
  refundApplications : db'.payments.refundApplications =
    finishApplication refund.id .completed db.payments.refundApplications

theorem completeOpenRefund_eq_ok {refundNo : String} (h : completeOpenRefund s refund refundNo db = .ok db') :
    ∃ order, CompletesRefund s order refund db db' := by
  simp only [completeOpenRefund, eq_ok] at h
  obtain ⟨order, ho, _, hpn, _, hw, _, hw', _, hld, _, htx, _, hcash, _, _, rfl⟩ := h
  refine ⟨order, ho, hpn, Transfer.of_writes hld (linesNet_refundLines order refund) hw
    (Wallet.moved_of_addAvailable hw') rfl htx ⟨rfl, rfl, rfl, rfl, rfl⟩, hcash,
    ⟨_, rfl⟩, rfl, ?_, ⟨rfl, rfl, rfl, rfl⟩, rfl⟩
  simp only [insertTransaction, bind_eq_ok] at htx
  obtain ⟨row, hrow, hins⟩ := htx
  obtain ⟨hid, _, _, _, _, _, hop, _, hr⟩ := TransactionInput.row_eq_ok hrow
  exact ⟨row, (Table.mem_insert hins).mpr (.inl rfl), hid, hr, hop⟩

/-- What a chargeback writes. -/
structure ChargesBack (s : Session) (order : RechargeOrder) (db db' : Db) : Prop where
  transfer : Transfer s order.walletId (-order.amount.units) .paymentRefund (.chargeback order.id) db db'
  cash : allocateChargebackTx s db'.transactions order.walletId order.id (s.uuid .transaction)
    order.amount.units db.cash = .ok db'.cash
  refundOrders : ∃ refund, refund.id = s.uuid .refund ∧ refund.status = .succeeded ∧
    refund.rechargeOrderId = order.id ∧ refund.amount = order.amount ∧
    db.payments.refundOrders.insert refund StoreError.uniqueViolation = .ok db'.payments.refundOrders
  rechargeOrders : db'.payments.rechargeOrders =
    db.payments.rechargeOrders.replace (order.setStatus .chargeback)
  funding : SameFunding db db'
  refundApplications : db'.payments.refundApplications = db.payments.refundApplications

/-- What a chargeback writes. -/
theorem applyChargebackTx_eq_ok {providerEventId : String}
    (h : applyChargebackTx s order providerEventId db = .ok db') : ChargesBack s order db db' := by
  simp only [applyChargebackTx, eq_ok] at h
  obtain ⟨_, hw, _, _, _, hw', _, href, _, _, _, hld, _, htx, _, hcash, rfl⟩ := h
  exact ⟨Transfer.of_writes hld (linesNet_chargebackLines order) hw
    (Wallet.moved_of_addAvailable hw') rfl htx ⟨rfl, rfl, rfl, rfl, rfl⟩, hcash,
    ⟨_, rfl, rfl, rfl, rfl, href⟩, rfl, ⟨rfl, rfl, rfl, rfl⟩, rfl⟩

end ModelDock.Store
