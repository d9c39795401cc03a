import ModelDock.Cash.Statements
import ModelDock.Payment.Signals
import ModelDock.Store.PaymentStatus

/-!
# Provider events and the books of an order

The status of an order decides what the books hold of it. A credit and a chargeback keep the books in step with
the status, and neither can fail while the accounts are open and the balance is in range.
-/

namespace ModelDock.Store

open Relational Accounting Table RechargeStatus

variable {walletId txId : Uuid} {cash : Cash} {orders : Table RechargeOrder}
  {verified : VerifiedWebhook} {txs : Table WalletTransaction}

deriving instance DecidableEq for VerifiedWebhook
deriving instance DecidableEq for PaymentResult

/-- What a provider reports about an order: a webhook with the digest of its body, or the answer to a
query. -/
inductive ProviderEvent
  | webhook (verified : VerifiedWebhook) (rawBodySha256 : String)
  | query (result : PaymentResult)
deriving DecidableEq

/-- What the status of a webhook says. -/
def PaymentStatus.signal : PaymentStatus → Signal
  | .paid => .paid
  | .failed => .failed
  | .chargeback => .chargeback
  | .other _ => .other

variable (result : PaymentResult) (order : RechargeOrder)

/-- What the status text of an answer says. -/
def PaymentResult.signal : Signal :=
  if Text.toUpper result.status = "PAID" then .paid
  else if Text.toUpper result.status = "FAILED" then .failed
  else if Text.toUpper result.status = "EXPIRED" then .expired
  else .other

/-- What an event says. -/
def ProviderEvent.signal : ProviderEvent → Signal
  | .webhook verified _ => verified.status.signal
  | .query result => result.signal

/-- Webhooks are recorded, answers are not. -/
def ProviderEvent.isWebhook : ProviderEvent → Bool
  | .webhook _ _ => true
  | .query _ => false

/-- The event passes the checks against its order. -/
def ProviderEvent.Verified : ProviderEvent → Prop
  | .webhook verified _ => verified.platformOrderNo = order.platformOrderNo ∧
      matchesOrder order.paymentProvider order verified
  | .query result => result.matchesOrder order

/-- The call of a delivery. -/
def Delivery.call : Delivery ProviderEvent → PaymentCall
  | .arrival (.webhook verified rawBodySha256) =>
    .store (.recordVerifiedPaymentWebhook order.paymentProvider verified rawBodySha256)
  | .arrival (.query result) => .applyPaymentQueryResult order.id result
  | .credit => .store (.creditPaidRecharge order.id)

/-- The calls of a schedule, each in its session. -/
def scheduledCalls (schedule : List (Session × Delivery ProviderEvent)) : List (Session × PaymentCall) :=
  schedule.map fun item => (item.1, item.2.call order)

variable (orderId : Uuid) (events : List ProviderEvent) (db : Db)

/-- An event identifier and a replay key name one event each. -/
def Distinguished : Prop :=
  ∀ first ∈ events, ∀ second ∈ events, ∀ verified verified' sha sha',
    first = .webhook verified sha → second = .webhook verified' sha' →
    (verified.providerEventId = verified'.providerEventId ∨ verified.replayKey = verified'.replayKey) →
    first = second

/-- The identifiers a call draws are not in use. -/
structure Session.Unused (s : Session) (db : Db) : Prop where
  distinct : Function.Injective s.uuid
  events : ∀ row ∈ db.payments.webhookEvents.rows, row.id ≠ s.uuid .event
  journals : ∀ row ∈ db.ledger.journals.rows, row.id ≠ s.uuid .journal ∧
    row.refundOrderId ≠ some (s.uuid .refund)
  transactions : ∀ row ∈ db.transactions.rows, row.id ≠ s.uuid .transaction ∧
    row.refundOrderId ≠ some (s.uuid .refund)
  refunds : ∀ row ∈ db.payments.refundOrders.rows, row.id ≠ s.uuid .refund
  allocations : ∀ row ∈ db.cash.allocations.rows, row.walletTransactionId ≠ s.uuid .transaction ∧
    ∀ draw, row.id ≠ s.uuid draw

/-- How many transactions credited the order. -/
def creditsOf : ℤ :=
  db.transactions.sum fun row => if row.rechargeOrderId = some orderId then 1 else 0

/-- How many transactions charged the order back. -/
def chargebacksOf : ℤ :=
  db.transactions.sum fun row => if row.idempotencyKey = some (.chargeback orderId) then 1 else 0

/-- The available balance of a wallet. -/
def availableOf (walletId : Uuid) (db : Db) : Option ℤ :=
  (db.wallets.find? walletId).map fun wallet => wallet.availableBalance.units

/-- The columns of an order that no event changes. -/
def RechargeOrder.facts : RechargeOrder :=
  { order with status := .created, walletTransactionId := none, ledgerJournalId := none, creditedAt := none }

/-- The order is stored with a status. -/
def OrderStands (status : RechargeStatus) (orders : Table RechargeOrder) : Prop :=
  ∃ row ∈ orders.rows, row.facts = order.facts ∧ row.status = status

/-- Nothing that a credit of the order writes is there yet. -/
def Uncredited : Prop :=
  (∀ row ∈ db.ledger.journals.rows, row.externalKey ≠ .recharge order.id ∧
      row.rechargeOrderId ≠ some order.id) ∧
    ∀ row ∈ db.transactions.rows, row.idempotencyKey ≠ some (.recharge order.id)

/-- Nothing that a chargeback of the order by one of the events writes is there yet. -/
def Uncharged : Prop :=
  (∀ row ∈ db.ledger.journals.rows, row.externalKey ≠ .chargeback order.id) ∧
    ∀ row ∈ db.payments.refundOrders.rows,
      row.platformRefundNo ≠ chargebackRefundNo order.platformOrderNo ∧
      ∀ verified sha, .webhook verified sha ∈ events →
        row.idempotencyKey ≠ "chargeback:" ++ verified.providerEventId ∧
        row.providerRefundNo ≠ some ("chargeback:" ++ verified.providerEventId)

/-- The two accounts the money of an order moves between are open. -/
def AccountsOpen (accounts : Table LedgerAccount) : Prop :=
  ∀ key, key = walletAccountKey order.walletId .available ∨ key = systemAccountKey .cash order.currency →
    ∃ account ∈ accounts.rows, account.accountKey = key ∧ account.currency = order.currency ∧
      account.active

/-- The books agree with the status of the order, over the balance its wallet has without it. -/
structure Banked (order : RechargeOrder) (events : List ProviderEvent) (base : ℤ) (status : RechargeStatus)
    (db : Db) : Prop where
  wallet : ∃ wallet, db.wallets.find? order.walletId = some wallet ∧ wallet.status ≠ .closed ∧
    wallet.currency = order.currency ∧
    wallet.availableBalance.units = base + order.amount.units * status.worth
  accounts : AccountsOpen order db.ledger.accounts
  credits : creditsOf order.id db = if status.isCredited then 1 else 0
  chargebacks : chargebacksOf order.id db = if status = .chargeback then 1 else 0
  uncredited : status.isCredited = false → Uncredited order db
  uncharged : status ≠ .chargeback → Uncharged order events db

/-- A stored webhook is this one. -/
structure WebhookEvent.Records (row : WebhookEvent) (order : RechargeOrder) (verified : VerifiedWebhook)
    (rawBodySha256 : String) : Prop where
  paymentProvider : row.paymentProvider = order.paymentProvider
  providerEventId : row.providerEventId = verified.providerEventId
  replayKey : row.replayKey = verified.replayKey
  providerOrderNo : row.providerOrderNo = verified.providerOrderNo
  rechargeOrderId : row.rechargeOrderId = order.id
  paymentStatus : row.paymentStatus = verified.status
  amount : row.amount = order.amount
  currency : row.currency = verified.currency
  rawBodySha256 : row.rawBodySha256 = rawBodySha256
  processed : row.processed

/-- The webhooks seen so far are recorded, the others are not. -/
structure Recorded (order : RechargeOrder) (events seen : List ProviderEvent) (rows : Table WebhookEvent) :
    Prop where
  known : ∀ event ∈ seen, ∃ verified sha, event = .webhook verified sha ∧
    ∃ row ∈ rows.rows, row.Records order verified sha
  unknown : ∀ verified sha, .webhook verified sha ∈ events → .webhook verified sha ∉ seen →
    ∀ row ∈ rows.rows, row.paymentProvider = order.paymentProvider →
      row.providerEventId ≠ verified.providerEventId ∧ row.replayKey ≠ verified.replayKey

/-- The store holds what the machine of events says. -/
structure Represents (order : RechargeOrder) (events : List ProviderEvent) (base : ℤ) (db : Db)
    (desk : Desk ProviderEvent) : Prop where
  stands : OrderStands order desk.status db.payments.rechargeOrders
  books : Banked order events base desk.status db
  log : Recorded order events desk.seen db.payments.webhookEvents

variable {s : Session} {order row : RechargeOrder} {events : List ProviderEvent} {base : ℤ}
  {status status' : RechargeStatus} {db db' : Db}

theorem RechargeOrder.columns_of_facts (h : row.facts = order.facts) :
    row.id = order.id ∧ row.platformOrderNo = order.platformOrderNo ∧ row.walletId = order.walletId ∧
      row.paymentProvider = order.paymentProvider ∧ row.providerOrderNo = order.providerOrderNo ∧
      row.amount = order.amount ∧ row.currency = order.currency := by
  have hcl : (row.facts.id, row.facts.platformOrderNo, row.facts.walletId, row.facts.paymentProvider,
      row.facts.providerOrderNo, row.facts.amount, row.facts.currency) =
      (order.facts.id, order.facts.platformOrderNo, order.facts.walletId, order.facts.paymentProvider,
      order.facts.providerOrderNo, order.facts.amount, order.facts.currency) := by rw [h]
  simpa only [Prod.mk.injEq, RechargeOrder.facts] using hcl

theorem OrderStands.replace {new : RechargeOrder} (hrow : row ∈ orders.rows)
    (hfc : row.facts = order.facts) (hnew : new.facts = row.facts) (hst : new.status = status) :
    OrderStands order status (orders.replace new) := by
  have hkey : Keyed.key new = Keyed.key row := show Keyed.key new.facts = Keyed.key row.facts by rw [hnew]
  exact ⟨new, (mem_replace hrow hkey).mpr (.inl rfl), hnew.trans hfc, hst⟩

theorem OrderStands.find (hrow : row ∈ orders.rows)
    (hfc : row.facts = order.facts) : orders.find? order.id = some row := by
  rw [← (RechargeOrder.columns_of_facts hfc).1]
  exact find?_of_mem hrow

theorem setOrderStatus_self {payments : Payments} (hrow : row ∈ payments.rechargeOrders.rows) :
    payments.setOrderStatus row row.status = payments := by
  have hsame : payments.rechargeOrders.replace (row.setStatus row.status) = payments.rechargeOrders :=
    replace_self hrow
  rw [Payments.setOrderStatus, hsame]

theorem receive_keeps (status : RechargeStatus) (said : Signal) (h : ¬(said = .chargeback ∧ status = .credited)) :
    (status.receive said).isCredited = status.isCredited ∧
      (status.receive said = .chargeback ↔ status = .chargeback) := by
  revert h
  cases status <;> cases said <;> decide

theorem Banked.of_status (h : Banked order events base status db) (hcr : status'.isCredited = status.isCredited)
    (hch : status' = .chargeback ↔ status = .chargeback) (hws : db'.wallets = db.wallets)
    (hld : db'.ledger = db.ledger) (htx : db'.transactions = db.transactions)
    (href : db'.payments.refundOrders = db.payments.refundOrders) :
    Banked order events base status' db' := by
  have hwr : status'.worth = status.worth := by
    simp only [worth, hcr, ne_eq, hch]
  refine ⟨?_, ?_, ?_, ?_, fun hopen => ?_, fun hopen => ?_⟩
  · rw [hws, hwr]
    exact h.wallet
  · rw [hld]
    exact h.accounts
  · rw [creditsOf, htx, hcr]
    exact h.credits
  · rw [chargebacksOf, htx]
    simp only [hch]
    exact h.chargebacks
  · rw [Uncredited, hld, htx]
    exact h.uncredited (hcr ▸ hopen)
  · rw [Uncharged, hld, href]
    exact h.uncharged fun hback => hopen (hch.mpr hback)

theorem PaymentResult.signal_ne_chargeback : result.signal ≠ .chargeback := by
  unfold PaymentResult.signal
  split
  · exact fun hno => nomatch hno
  · split
    · exact fun hno => nomatch hno
    · split <;> exact fun hno => nomatch hno

theorem applyPaymentStatus_receives (hrow : row ∈ db.payments.rechargeOrders.rows)
    (h : ¬(verified.status.signal = .chargeback ∧ row.status = .credited)) :
    applyPaymentStatus s row verified db = .ok { db with
      payments := db.payments.setOrderStatus row (row.status.receive verified.status.signal) } := by
  have hself : db = { db with payments := db.payments.setOrderStatus row row.status } := by
    rw [setOrderStatus_self hrow]
  unfold applyPaymentStatus
  cases hst : verified.status with
  | paid | failed =>
    dsimp only [receive]
    split
    · rfl
    · exact congrArg Except.ok hself
  | chargeback =>
    have hopen : row.status ≠ .credited := fun hcr => h ⟨by rw [hst]; rfl, hcr⟩
    dsimp only [receive]
    rw [if_neg hopen, if_neg hopen]
    exact congrArg Except.ok hself
  | other _ => exact congrArg Except.ok hself

theorem applyQueryStatus_receives (hrow : row ∈ db.payments.rechargeOrders.rows) :
    applyQueryStatus row (Text.toUpper result.status) db =
      { db with payments := db.payments.setOrderStatus row (row.status.receive result.signal) } := by
  have hself : db = { db with payments := db.payments.setOrderStatus row row.status } := by
    rw [setOrderStatus_self hrow]
  unfold applyQueryStatus PaymentResult.signal
  split
  · dsimp only [receive]
    split
    · rfl
    · exact hself
  · split
    · dsimp only [receive]
      split
      · rfl
      · exact hself
    · split
      · dsimp only [receive]
        split
        · rfl
        · exact hself
      · exact hself

/-- What a transfer between the wallet of an order and the outside leaves on the books. -/
structure Booked (order : RechargeOrder) (delta : ℤ) (externalKey : ExternalKey) (key : TransactionKey)
    (link : Option Uuid) (db db' : Db) : Prop where
  ledger : ∃ journal, db.ledger.Posted journal db'.ledger ∧ journal.externalKey = externalKey
  wallet : ∃ wallet wallet', db.wallets.find? order.walletId = some wallet ∧
    wallet'.availableBalance.units = wallet.availableBalance.units + delta ∧
    wallet'.status = wallet.status ∧ wallet'.currency = wallet.currency ∧
    db'.wallets.find? order.walletId = some wallet'
  transaction : ∃ row, db.transactions.insert row StoreError.uniqueViolation = .ok db'.transactions ∧
    row.idempotencyKey = some key ∧ row.rechargeOrderId = link

theorem Wallet.stored_addAvailable {wallet wallet' : Wallet} {units : ℤ}
    (hf : db.wallets.find? walletId = some wallet) (h : wallet.addAvailable units = .ok wallet') :
    wallet'.availableBalance.units = wallet.availableBalance.units + units ∧
      wallet'.status = wallet.status ∧ wallet'.currency = wallet.currency ∧
      (db.wallets.replace wallet').find? walletId = some wallet' := by
  have hkey := (Wallet.moved_of_addAvailable h).key
  obtain ⟨_, _, _, hav, _, _, rfl⟩ := Wallet.setBalances_eq_ok.mp h
  exact ⟨hav, rfl, rfl, find?_replace_of_find? hf hkey⟩

theorem insertTransaction_carries {input : TransactionInput} {txs' : Table WalletTransaction}
    (h : insertTransaction s input db.transactions = .ok txs') :
    ∃ row, Inserts db.transactions row txs' ∧
      row.idempotencyKey = input.idempotencyKey ∧ row.rechargeOrderId = input.rechargeOrderId := by
  simp only [insertTransaction, bind_eq_ok] at h
  obtain ⟨row, hrow, hins⟩ := h
  obtain ⟨_, _, _, _, hkey, _, _, hlink, _⟩ := TransactionInput.row_eq_ok hrow
  exact ⟨row, hins, hkey, hlink⟩

theorem creditPaid_booked (h : creditPaid s row db = .ok db') :
    Booked row row.amount.units (.recharge row.id) (.recharge row.id) (some row.id) db db' ∧
      db'.payments = { db.payments with
        rechargeOrders := db.payments.rechargeOrders.replace (row.credit s) } := by
  simp only [creditPaid, eq_ok] at h
  obtain ⟨wallet, hw, _, _, wallet', hmv, _, hld, _, htx, _, _, rfl⟩ := h
  obtain ⟨journal, hpos, hj⟩ := postLinkedJournalTx_eq_ok hld
  exact ⟨⟨⟨journal, hpos, hj.externalKey⟩,
    ⟨wallet, wallet', hw, Wallet.stored_addAvailable hw hmv⟩,
    insertTransaction_carries htx⟩, rfl⟩

/-- Booking the amount of a paid order credits it. -/
theorem Banked.credit (h : Banked order events base .paid db)
    (hbk : Booked order order.amount.units (.recharge order.id) (.recharge order.id) (some order.id) db db')
    (hrf : db'.payments.refundOrders = db.payments.refundOrders) :
    Banked order events base .credited db' := by
  obtain ⟨_, hpos, hkey⟩ := hbk.ledger
  obtain ⟨wallet, wallet', hw, hbl, hst, hcr, hw'⟩ := hbk.wallet
  obtain ⟨_, hins, htr, hlink⟩ := hbk.transaction
  obtain ⟨stored, hstor, hopen, hsame, hu⟩ := h.wallet
  obtain rfl := Option.mem_unique hw hstor
  refine ⟨⟨wallet', hw', hst ▸ hopen, hcr.trans hsame, ?_⟩, ?_, ?_, ?_, fun hno => absurd hno (by decide),
    fun _ => ?_⟩
  · rw [hbl, hu]
    simp [worth, isCredited]
  · rw [hpos.accounts]
    exact h.accounts
  · rw [creditsOf, sum_insert hins, if_pos hlink]
    change 1 + creditsOf order.id db = 1
    rw [h.credits]
    rfl
  · rw [chargebacksOf, sum_insert hins, htr, if_neg (by simp), zero_add]
    exact h.chargebacks
  · obtain ⟨hjr, href⟩ := h.uncharged (by decide)
    rw [Uncharged, hpos.rows, hrf]
    refine ⟨List.forall_mem_cons.mpr ⟨?_, hjr⟩, href⟩
    rw [hkey]
    simp

/-- Booking the amount of a credited order back charges it back. -/
theorem Banked.chargeback (h : Banked order events base .credited db)
    (hbk : Booked order (-order.amount.units) (.chargeback order.id) (.chargeback order.id) none db db') :
    Banked order events base .chargeback db' := by
  obtain ⟨_, hpos, _⟩ := hbk.ledger
  obtain ⟨wallet, wallet', hw, hbl, hst, hcr, hw'⟩ := hbk.wallet
  obtain ⟨_, hins, htr, hlink⟩ := hbk.transaction
  obtain ⟨stored, hstor, hopen, hsame, hu⟩ := h.wallet
  obtain rfl := Option.mem_unique hw hstor
  refine ⟨⟨wallet', hw', hst ▸ hopen, hcr.trans hsame, ?_⟩, ?_, ?_, ?_, fun hno => absurd hno (by decide),
    fun hno => absurd rfl hno⟩
  · rw [hbl, hu]
    simp [worth, isCredited]
  · rw [hpos.accounts]
    exact h.accounts
  · rw [creditsOf, sum_insert hins, hlink, if_neg (by simp), zero_add]
    exact h.credits
  · rw [chargebacksOf, sum_insert hins, if_pos htr]
    change 1 + chargebacksOf order.id db = 1
    rw [h.chargebacks]
    rfl

theorem createCashLotTx_succeeds {rechargeOrderId : Option Uuid}
    {sourceKind : LotSource} {sourceReference : SourceReference} {currency : Currency} {refundable : Bool}
    {amount : Money} (hpos : 0 < amount.units) :
    ∃ cash', createCashLotTx s walletId rechargeOrderId txId sourceKind sourceReference amount.units
      currency refundable cash = .ok cash' := by
  simp only [createCashLotTx, bind_eq_ok, money_eq_ok]
  cases hins : cash.lots.insert ⟨s.uuid .lot, walletId, rechargeOrderId, some txId, sourceKind,
      sourceReference, amount, amount, currency, refundable, s.now, hpos, le_refl _⟩
      StoreError.uniqueViolation with
  | ok lots => exact ⟨{ cash with lots := lots }, amount, rfl, by rw [dif_pos hpos, hins]; rfl⟩
  | error _ => exact ⟨cash, amount, rfl, by rw [dif_pos hpos, hins]; rfl⟩

/-- The wallet of an order can take its amount in and out. -/
def InRange (order : RechargeOrder) (base : ℤ) : Prop :=
  -numericBound < base ∧ base + order.amount.units < numericBound

theorem Banked.creditPaid_succeeds (h : Banked order events base .paid db) (hs : s.Unused db)
    (hrn : InRange order base) : ∃ db', creditPaid s order db = .ok db' := by
  obtain ⟨wallet, hw, hopen, hcr, hu⟩ := h.wallet
  obtain ⟨hjr, htr⟩ := h.uncredited rfl
  have hln : ∀ row ∈ db.transactions.rows, row.rechargeOrderId ≠ some order.id :=
    fun row hrow => not_of_count_eq_zero
      (fun row : WalletTransaction => row.rechargeOrderId = some order.id) h.credits hrow
  have hpos := order.positive
  have hfits := order.amount.fits
  have hbl : -numericBound < wallet.availableBalance.units + order.amount.units ∧
      wallet.availableBalance.units + order.amount.units < numericBound := by
    have hbase : wallet.availableBalance.units = base := by
      rw [hu]
      simp [worth, isCredited]
    rw [hbase]
    exact ⟨by have := hrn.1; omega, hrn.2⟩
  obtain ⟨wallet', hmv, _⟩ := wallet.addAvailable_succeeds hbl
  obtain ⟨ledger, hld⟩ : ∃ ledger, postLinkedJournalTx (s.uuid .journal) order.walletId .paymentCredit
      (.recharge order.id) order.currency (some order.id) none (rechargeLines order) db.ledger =
        .ok ledger := by
    refine postLinkedJournalTx_pair_succeeds (fun journal hj => ?_)
      ⟨rfl, hpos, hfits, h.accounts _ (.inr rfl)⟩ ⟨rfl, hpos, hfits, h.accounts _ (.inl rfl)⟩ rfl
    obtain ⟨hkey, hlink⟩ := hjr journal hj
    simp [Key.clash, Keyed.key, draftJournal, sameValue_eq_false hlink, (hs.journals journal hj).1.symm,
      hkey.symm]
  obtain ⟨txs, htx⟩ : ∃ txs, insertTransaction s
      (rechargeTransaction s order wallet'.availableBalance.units) db.transactions = .ok txs := by
    refine insertTransaction_succeeds hpos.ne' ⟨?_, hfits⟩ wallet'.availableBalance.fits
      fun row hrow => ?_
    · change -numericBound < order.amount.units
      omega
    · refine ⟨(hs.transactions row hrow).1, fun hsame => ?_, sameValue_eq_false (hln row hrow), rfl⟩
      rw [rechargeTransaction, sameValue_eq_false (htr row hrow)] at hsame
      exact absurd hsame.2 Bool.false_ne_true
  obtain ⟨cash, hcash⟩ : ∃ cash, createCashLotTx s order.walletId (some order.id) (s.uuid .transaction)
      .recharge (.platformOrderNo order.platformOrderNo) order.amount.units order.currency true db.cash =
        .ok cash := createCashLotTx_succeeds hpos
  simp only [creditPaid, eq_ok]
  exact ⟨_, wallet, hw, (), ⟨hopen, hcr⟩, wallet', hmv, ledger, hld, txs,
    htx, cash, hcash, rfl⟩

section

variable (hstor : (txs.find? txId).isSome)
  (hnew : ∀ row ∈ cash.allocations.rows, row.walletTransactionId ≠ txId ∧ ∀ draw, row.id ≠ s.uuid draw)
include hstor hnew

theorem debitRechargeCashLotTx_succeeds (walletId rechargeOrderId : Uuid) (amount : ℤ) :
    ∃ taken cash', debitRechargeCashLotTx s txs walletId rechargeOrderId txId amount cash =
        .ok (taken, cash') ∧ 0 ≤ taken ∧
      ∀ row ∈ cash'.allocations.rows, row ∈ cash.allocations.rows ∨ ∃ lotId, Keyed.key row =
        (⟨s.uuid (.lotDebit lotId), txId, .cash lotId, .debit⟩ : CashAllocationKey) := by
  unfold debitRechargeCashLotTx
  split
  · exact ⟨0, cash, rfl, le_refl 0, fun row hrow => .inl hrow⟩
  · next lot hlot =>
    by_cases hnone : min amount lot.remainingAmount.units ≤ 0
    · rw [if_pos hnone]
      exact ⟨0, cash, rfl, le_refl 0, fun row hrow => .inl hrow⟩
    · have hpos : 0 < min amount lot.remainingAmount.units := not_le.mp hnone
      have hleft : min amount lot.remainingAmount.units ≤ lot.remainingAmount.units := min_le_right _ _
      obtain ⟨lots, hlots⟩ := debitLot_succeeds (List.mem_of_find?_eq_some hlot) hpos.le hleft
      obtain ⟨cash', hins⟩ : ∃ cash', insertAllocation s txs (s.uuid (.lotDebit lot.id)) walletId
          txId (.cash lot.id) .debit (min amount lot.remainingAmount.units)
          { cash with lots := lots } = .ok cash' := by
        refine insertAllocation_succeeds hpos (lt_of_le_of_lt hleft lot.remainingAmount.fits) hstor
          fun row hrow => ?_
        obtain ⟨htx, hid⟩ := hnew row hrow
        simp [Key.clash, Keyed.key, htx.symm, (hid (.lotDebit lot.id)).symm]
      refine ⟨_, cash', ?_, hpos.le, fun row hrow => ?_⟩
      · rw [if_neg hnone]
        simp only [debitLotFor, eq_ok]
        exact ⟨cash', ⟨lots, hlots, hins⟩, rfl⟩
      · obtain ⟨_, hkey, hall⟩ := insertAllocation_key hins
        rcases (mem_insert hall).mp hrow with rfl | hold
        · exact .inr ⟨lot.id, hkey⟩
        · exact .inl hold

theorem allocateChargebackTx_succeeds {rechargeOrderId : Uuid} {amount : ℤ}
    (hd : Function.Injective s.uuid) (hfits : amount < numericBound) :
    ∃ cash', allocateChargebackTx s txs walletId rechargeOrderId txId amount cash =
      .ok cash' := by
  obtain ⟨taken, spent, hsp, _, hrows⟩ :=
    debitRechargeCashLotTx_succeeds hstor hnew walletId rechargeOrderId amount
  by_cases hrest : 0 < amount - taken
  · obtain ⟨cash', hins⟩ : ∃ cash', insertAllocation s txs (s.uuid .creditAllocation) walletId
        txId .credit .debit (amount - taken) spent = .ok cash' := by
      refine insertAllocation_succeeds hrest (by omega) hstor fun row hrow => ?_
      rcases hrows row hrow with hold | ⟨lotId, hkey⟩
      · obtain ⟨htx, hid⟩ := hnew row hold
        simp [Key.clash, Keyed.key, htx.symm, (hid .creditAllocation).symm]
      · rw [hkey]
        have hids : s.uuid .creditAllocation ≠ s.uuid (.lotDebit lotId) := fun hsame =>
          nomatch hd hsame
        simp [Key.clash, hids, Direction.sameSource, CashBucket.sameLot]
    simp only [allocateChargebackTx, bind_eq_ok]
    exact ⟨cash', (taken, spent), hsp, (if_pos hrest).trans hins⟩
  · simp only [allocateChargebackTx, bind_eq_ok]
    exact ⟨spent, (taken, spent), hsp, if_neg hrest⟩

end

/-- The chargeback of a credited order commits while the numbers are in range. -/
theorem Banked.applyChargebackTx_succeeds {sha : String}
    (h : Banked order events base .credited db) (hs : s.Unused db) (hrn : InRange order base)
    (hev : .webhook verified sha ∈ events) :
    ∃ db', applyChargebackTx s order verified.providerEventId db = .ok db' := by
  obtain ⟨wallet, hw, hopen, hcr, hu⟩ := h.wallet
  obtain ⟨hjr, href⟩ := h.uncharged fun hno => nomatch hno
  have hkeys : ∀ row ∈ db.transactions.rows, row.idempotencyKey ≠ some (.chargeback order.id) :=
    fun row hrow => not_of_count_eq_zero
      (fun row : WalletTransaction => row.idempotencyKey = some (.chargeback order.id)) h.chargebacks hrow
  have hpos := order.positive
  have hfits := order.amount.fits
  have hbl : -numericBound < wallet.availableBalance.units + -order.amount.units ∧
      wallet.availableBalance.units + -order.amount.units < numericBound := by
    have hbase : wallet.availableBalance.units + -order.amount.units = base := by
      rw [hu]
      simp [worth, isCredited]
    rw [hbase]
    exact ⟨hrn.1, by have := hrn.2; omega⟩
  obtain ⟨wallet', hmv, _⟩ := wallet.addAvailable_succeeds hbl
  have hcl : ∀ row ∈ db.payments.refundOrders.rows,
      Key.clash (Keyed.key (chargebackRefund s order verified.providerEventId)) (Keyed.key row) = false := by
    intro row hrow
    obtain ⟨hnum, hnm⟩ := href row hrow
    simp [Key.clash, Keyed.key, chargebackRefund, (hs.refunds row hrow).symm, hnum.symm,
      (hnm verified sha hev).1.symm]
  obtain ⟨refundOrders, hrf⟩ := insert_succeeds hcl StoreError.uniqueViolation
  have hfree : db.payments.freeRefundNo (s.uuid .refund) order.paymentProvider
      (some ("chargeback:" ++ verified.providerEventId)) := by
    simp only [Payments.freeRefundNo, List.all_eq_true, Bool.or_eq_true]
    intro row hrow
    have hnum := ((href row hrow).2 verified sha hev).2
    rw [sameValue_symm, sameValue_eq_false hnum]
    exact .inr (by simp)
  obtain ⟨ledger, hld⟩ : ∃ ledger, postLinkedJournalTx (s.uuid .journal) order.walletId .paymentRefund
      (.chargeback order.id) order.currency none (some (s.uuid .refund)) (chargebackLines order) db.ledger =
        .ok ledger := by
    refine postLinkedJournalTx_pair_succeeds (fun journal hj => ?_)
      ⟨rfl, hpos, hfits, h.accounts _ (.inl rfl)⟩ ⟨rfl, hpos, hfits, h.accounts _ (.inr rfl)⟩ rfl
    obtain ⟨hid, hlink⟩ := hs.journals journal hj
    simp [Key.clash, Keyed.key, draftJournal, sameValue_eq_false hlink, hid.symm, (hjr journal hj).symm]
  obtain ⟨txs, htx⟩ : ∃ txs, insertTransaction s (chargebackTransaction s order
      verified.providerEventId wallet'.availableBalance.units) db.transactions = .ok txs := by
    refine insertTransaction_succeeds ?_ ?_ wallet'.availableBalance.fits fun row hrow => ?_
    · change -order.amount.units ≠ 0
      omega
    · change -numericBound < -order.amount.units ∧ -order.amount.units < numericBound
      omega
    · obtain ⟨hid, hlink⟩ := hs.transactions row hrow
      refine ⟨hid, fun hsame => ?_, rfl, sameValue_eq_false hlink⟩
      rw [chargebackTransaction, sameValue_eq_false (hkeys row hrow)] at hsame
      exact absurd hsame.2 Bool.false_ne_true
  obtain ⟨cash, hcash⟩ : ∃ cash, allocateChargebackTx s txs order.walletId order.id
      (s.uuid .transaction) order.amount.units db.cash = .ok cash := by
    refine allocateChargebackTx_succeeds ?_ hs.allocations hs.distinct hfits
    simp only [insertTransaction, bind_eq_ok] at htx
    obtain ⟨row, hrow, hins⟩ := htx
    exact Option.isSome_of_eq_some (find?_eq_some.mpr
      ⟨(mem_insert hins).mpr (.inl rfl), (TransactionInput.row_eq_ok hrow).1⟩)
  simp only [applyChargebackTx, eq_ok]
  exact ⟨_, wallet, hw, (), ⟨hopen, hcr⟩, wallet', hmv, refundOrders, hrf, (), hfree,
    ledger, hld, txs, htx, cash, hcash, rfl⟩

end ModelDock.Store
