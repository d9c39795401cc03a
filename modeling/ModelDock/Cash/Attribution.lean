import ModelDock.Cash.Allocations
import ModelDock.Cash.Conservation

/-!
# A wallet's money is its cash lots minus its credit

Money that enters a wallet opens a lot, and money that leaves it is attributed to lots, or to credit where no
lot covers it. So the balances of a wallet are its cash, left or held, minus the outstanding credit.
-/

namespace ModelDock.Store

open Relational Table Cash CashAllocation

variable {lot : CashLot} {delta : ℤ} {journalType : JournalType} {externalKey : ExternalKey}
  {op : FundingOperation} {rechargeOrderId? : Option Uuid} {sourceReference : SourceReference}
  {order : RechargeOrder}

/-- The money that entered a wallet as cash. -/
def fundedBy (walletId : Uuid) (lots : Table CashLot) : ℤ :=
  lots.sum fun lot => if lot.walletId = walletId then lot.originalAmount.units else 0

/-- The money that left a wallet, from its lots or on credit, and was not restored. -/
def spentBy (walletId : Uuid) (allocations : Table CashAllocation) : ℤ :=
  allocations.sum fun row => if row.walletId = walletId then row.signed else 0

/-- What a wallet has according to its cash tables. -/
def Cash.equity (cash : Cash) (walletId : Uuid) : ℤ :=
  fundedBy walletId cash.lots - spentBy walletId cash.allocations

variable {s : Session} {txs : Table WalletTransaction} {cash cash' : Cash}
  {lots lots' : Table CashLot} {row : CashAllocation}
  {walletId txId : Uuid} {units amount : ℤ}

theorem fundedBy_of_view (h : lots'.view CashLot.origin = lots.view CashLot.origin) (walletId : Uuid) :
    fundedBy walletId lots' = fundedBy walletId lots :=
  sum_of_view h fun lot => if lot.walletId = walletId then lot.originalAmount.units else 0

theorem spentBy_eq_tally (id : Uuid) (allocations : Table CashAllocation) : spentBy id allocations =
      tally (fun walletId _ debit => if walletId = id then (if debit then 1 else -1) else 0) allocations := by
  refine sum_congr fun row _ => ?_
  cases hdr : row.direction <;>
    simp [signed, Direction.signed, Direction.isDebit, hdr]

theorem Cash.Attributes.debited (h : cash.Attributes txs walletId txId true amount cash') (id : Uuid) :
    spentBy id cash'.allocations = spentBy id cash.allocations + if id = walletId then amount else 0 := by
  rw [spentBy_eq_tally, h.tally, ← spentBy_eq_tally]
  simp [eq_comm]

theorem Cash.Attributes.restored (h : cash.Attributes txs walletId txId false amount cash') (id : Uuid) :
    spentBy id cash'.allocations = spentBy id cash.allocations + if id = walletId then -amount else 0 := by
  rw [spentBy_eq_tally, h.tally, ← spentBy_eq_tally]
  simp [eq_comm]

/-- Where the money of a lot came from is on record. -/
structure LotRecorded (db : Db) (lot : CashLot) : Prop where
  order : ∀ id, lot.rechargeOrderId = some id →
    ∃ order ∈ db.payments.rechargeOrders.rows, order.id = id ∧ order.status.isCredited
  orderNo : ∀ no, lot.sourceReference = .platformOrderNo no →
    ∃ order ∈ db.payments.rechargeOrders.rows, order.platformOrderNo = no ∧ order.status.isCredited
  transaction : ∀ id, lot.sourceTransactionId = some id → ∃ row ∈ db.transactions.rows, row.id = id
  reference : ∀ id, lot.sourceReference = .walletTransaction id → ∃ row ∈ db.transactions.rows, row.id = id

/-- Lots are on record, and the balances of every wallet are what its cash tables say. -/
structure Attributed (db : Db) : Prop where
  linked : CashLinked db
  recorded : ∀ lot ∈ db.cash.lots.rows, LotRecorded db lot
  total : ∀ wallet ∈ db.wallets.rows,
    wallet.availableBalance.units + wallet.reservedBalance.units = db.cash.equity wallet.id

variable {call : Call} {db db' : Db} {wallet wallet' : Wallet} {available reserved : ℤ}

theorem LotRecorded.committed {lot' : CashLot} (h : LotRecorded db lot)
    (hor : lot'.origin = lot.origin) (hcommitted : Committed s db call db') : LotRecorded db' lot' := by
  have hcl : (lot'.origin.rechargeOrderId, lot'.origin.sourceReference,
      lot'.origin.sourceTransactionId) = (lot.origin.rechargeOrderId, lot.origin.sourceReference,
      lot.origin.sourceTransactionId) := by rw [hor]
  simp only [Prod.mk.injEq] at hcl
  obtain ⟨ho, href, htx⟩ := hcl
  refine ⟨fun id hid => ?_, fun no hno => ?_, fun id hid => ?_, fun id hid => ?_⟩
  · obtain ⟨order, hmem, hord, hcr⟩ := h.order id (ho ▸ hid)
    obtain ⟨order', hmem', hlat⟩ := hcommitted.rechargeOrders_kept order hmem
    exact ⟨order', hmem', hlat.id.trans hord, hlat.stillCredited hcr⟩
  · obtain ⟨order, hmem, horo, hcr⟩ := h.orderNo no (href ▸ hno)
    obtain ⟨order', hmem', hlat⟩ := hcommitted.rechargeOrders_kept order hmem
    exact ⟨order', hmem', hlat.platformOrderNo.trans horo, hlat.stillCredited hcr⟩
  · obtain ⟨row, hmem, hrow⟩ := h.transaction id (htx ▸ hid)
    exact ⟨row, hcommitted.transactions_kept row hmem, hrow⟩
  · obtain ⟨row, hmem, hrow⟩ := h.reference id (href ▸ hid)
    exact ⟨row, hcommitted.transactions_kept row hmem, hrow⟩

theorem createCashLotTx_equity {sourceKind : LotSource} {currency : Currency} {refundable : Bool}
    (hfree : ∀ lot : CashLot,
      lot.Opened (s.uuid .lot) walletId rechargeOrderId? txId sourceReference amount →
      ∀ old ∈ cash.lots.rows, Key.clash (Keyed.key lot) (Keyed.key old) = false)
    (h : createCashLotTx s walletId rechargeOrderId? txId sourceKind sourceReference amount
      currency refundable cash = .ok cash') :
    ∃ lot : CashLot,
      lot.Opened (s.uuid .lot) walletId rechargeOrderId? txId sourceReference amount ∧
      Inserts cash.lots lot cash'.lots ∧
      ∀ id, cash'.equity id = cash.equity id + if id = walletId then amount else 0 := by
  obtain ⟨lot, hop, ⟨_, old, hold, hcl⟩ | ⟨hins, hcash⟩⟩ := createCashLotTx_eq_ok h
  · rw [hfree lot hop old hold] at hcl
    cases hcl
  · refine ⟨lot, hop, hins, fun id => ?_⟩
    have hall : cash'.allocations = cash.allocations := by rw [hcash]
    rw [equity, fundedBy, sum_insert hins, ← fundedBy, hall, hop.walletId, hop.original, equity]
    simp only [eq_comm]
    omega

theorem lot_clash_eq_false {old : CashLot} (hid : lot.id ≠ old.id)
    (href : lot.sourceReference ≠ old.sourceReference)
    (htx : ∀ id, lot.sourceTransactionId = some id → old.sourceTransactionId ≠ some id)
    (ho : ∀ id, lot.rechargeOrderId = some id → old.rechargeOrderId ≠ some id) :
    Key.clash (Keyed.key lot) (Keyed.key old) = false := by
  have hsame {a b : Option Uuid} (h : ∀ id, a = some id → b ≠ some id) : sameValue a b = false := by
    cases a <;> cases b <;> simp_all [sameValue, eq_comm]
  change (decide (lot.id = old.id) || (decide (lot.walletId = old.walletId) &&
    decide (lot.sourceReference = old.sourceReference)) ||
    sameValue lot.sourceTransactionId old.sourceTransactionId ||
    sameValue lot.rechargeOrderId old.rechargeOrderId) = false
  rw [hsame htx, hsame ho]
  simp [hid, href]

theorem LotRecorded.of_opened {id : Uuid}
    (hop : lot.Opened id walletId rechargeOrderId? txId sourceReference amount)
    (ho : ∀ id, rechargeOrderId? = some id →
      ∃ order ∈ db.payments.rechargeOrders.rows, order.id = id ∧ order.status.isCredited)
    (hor : ∀ no, sourceReference = .platformOrderNo no → ∃ order ∈ db.payments.rechargeOrders.rows,
      order.platformOrderNo = no ∧ order.status.isCredited)
    (htx : ∃ row ∈ db.transactions.rows, row.id = txId)
    (href : ∀ id, sourceReference = .walletTransaction id → id = txId) :
    LotRecorded db lot := by
  refine ⟨fun id hid => ho id (hop.rechargeOrderId ▸ hid),
    fun no hno => hor no (hop.sourceReference ▸ hno), fun id hid => ?_, fun id hid => ?_⟩
  · rw [hop.sourceTransactionId] at hid
    cases hid
    exact htx
  · rw [href id (hop.sourceReference ▸ hid)]
    exact htx

theorem Transfer.transaction_stored (h : Transfer s walletId delta journalType externalKey db db') :
    ∃ row ∈ db'.transactions.rows, row.id = s.uuid .transaction := by
  obtain ⟨row, hins, hid, _⟩ := h.transactions
  exact ⟨row, (mem_insert hins).mpr (.inl rfl), hid⟩

theorem equity_of_spent (hview : SameLots cash cash')
    (hsp : ∀ id, spentBy id cash'.allocations =
      spentBy id cash.allocations + if id = walletId then amount else 0) (id : Uuid) :
    cash'.equity id = cash.equity id + if id = walletId then -amount else 0 := by
  rw [equity, fundedBy_of_view hview, hsp, equity]
  split <;> omega

theorem moveLateCash_spent {difference : ℤ}
    (h : moveLateCash s op difference txs cash = .ok cash') (id : Uuid) :
    spentBy id cash'.allocations =
      spentBy id cash.allocations + if id = op.walletId then difference else 0 := by
  unfold moveLateCash at h
  split at h
  · next hpos => exact (allocateCashDebitTx_attributes hpos.le h).debited id
  · next hneg =>
    simp only [eq_ok] at h
    obtain ⟨_, _, hrs⟩ := h
    rw [(restoreCashAllocationTx_attributes (abs_nonneg _) hrs).restored, abs_of_nonpos (not_lt.mp hneg),
      neg_neg]

section

variable (h : Attributed db)
include h

theorem total_of_moved (hw : db.wallets.find? walletId = some wallet)
    (hmv : wallet.Moved available reserved wallet') (hws : db'.wallets = db.wallets.replace wallet')
    (heq : ∀ id, db'.cash.equity id =
      db.cash.equity id + if id = walletId then available + reserved else 0) :
    ∀ x ∈ db'.wallets.rows,
      x.availableBalance.units + x.reservedBalance.units = db'.cash.equity x.id := by
  intro x hx
  rw [hws] at hx
  obtain ⟨old, hold, hid, hav, hrs⟩ := hmv.balances hw hx
  have htt := h.total old hold
  rw [hav, hrs, heq, ← hid] at *
  split <;> omega

theorem total_of_transfer (htr : Transfer s walletId delta journalType externalKey db db')
    (heq : ∀ id, db'.cash.equity id = db.cash.equity id + if id = walletId then delta else 0) :
    ∀ x ∈ db'.wallets.rows,
      x.availableBalance.units + x.reservedBalance.units = db'.cash.equity x.id := by
  obtain ⟨_, _, hw, hmv, hws⟩ := htr.wallets
  refine total_of_moved h hw hmv hws fun id => ?_
  rw [heq, add_zero]

theorem Attributed.fresh_transaction (hfr : s.Fresh db)
    (hlot : lot ∈ db.cash.lots.rows) : lot.sourceTransactionId ≠ some (s.uuid .transaction) ∧
      lot.sourceReference ≠ .walletTransaction (s.uuid .transaction) := by
  refine ⟨fun hid => ?_, fun hid => ?_⟩
  · obtain ⟨row, hrow, hrd⟩ := (h.recorded lot hlot).transaction _ hid
    exact hfr.transactions row hrow _ hrd
  · obtain ⟨row, hrow, hrd⟩ := (h.recorded lot hlot).reference _ hid
    exact hfr.transactions row hrow _ hrd

variable (hcommitted : Committed s db call db')
include hcommitted

theorem Attributed.recorded_of_view (hview : SameLots db.cash db'.cash) :
    ∀ lot ∈ db'.cash.lots.rows, LotRecorded db' lot := by
  intro lot hlot
  obtain ⟨old, hold, hor⟩ := mem_of_view hview hlot
  exact (h.recorded old hold).committed hor.symm hcommitted

theorem Attributed.recorded_of_insert (hins : Inserts db.cash.lots lot db'.cash.lots)
    (hlot : LotRecorded db' lot) : ∀ x ∈ db'.cash.lots.rows, LotRecorded db' x := by
  intro x hx
  rcases (mem_insert hins).mp hx with rfl | hx
  · exact hlot
  · exact (h.recorded x hx).committed rfl hcommitted

theorem Attributed.credit (hfr : s.Fresh db) (ho : order ∈ db.payments.rechargeOrders.rows)
    (hpaid : order.status = .paid) (hcrs : Credits s order db db') : Attributed db' := by
  have hfree (lot : CashLot) (hop : lot.Opened (s.uuid .lot) order.walletId (some order.id)
      (s.uuid .transaction) (.platformOrderNo order.platformOrderNo) order.amount.units) (old : CashLot)
      (hold : old ∈ db.cash.lots.rows) : Key.clash (Keyed.key lot) (Keyed.key old) = false := by
    -- An order that already has a lot is credited, and this one is only paid.
    have hun (other : RechargeOrder) (hcr : other.status.isCredited) :
        other ≠ order := by
      rintro rfl
      rw [hpaid] at hcr
      cases hcr
    refine lot_clash_eq_false ?_ ?_ ?_ ?_
    · rw [hop.id]
      exact (hfr.lots old hold _).symm
    · rw [hop.sourceReference]
      intro hsame
      obtain ⟨other, hne, hno, hcr⟩ := (h.recorded old hold).orderNo _ hsame.symm
      refine hun other hcr (eq_of_clash hne ho ?_)
      have hcl : Key.clash (Keyed.key other) (Keyed.key order) =
          (decide (other.id = order.id) || decide (other.platformOrderNo = order.platformOrderNo) ||
            (decide (other.organizationId = order.organizationId) &&
              decide (other.idempotencyKey = order.idempotencyKey))) := rfl
      rw [hcl, hno]
      simp
    · intro id hid
      rw [hop.sourceTransactionId] at hid
      cases hid
      exact (h.fresh_transaction hfr hold).1
    · intro id hid hsame
      rw [hop.rechargeOrderId] at hid
      cases hid
      obtain ⟨other, hne, hoth, hcr⟩ := (h.recorded old hold).order _ hsame
      exact hun other hcr (eq_of_rowId hne ho hoth)
  obtain ⟨lot, hop, hins, heq⟩ := createCashLotTx_equity hfree hcrs.cash
  have hcr : order.credit s ∈ db'.payments.rechargeOrders.rows := by
    have hkey : Keyed.key (order.credit s) = Keyed.key order := rfl
    rw [hcrs.payments]
    exact (mem_replace ho hkey).mpr (.inl rfl)
  refine ⟨h.linked.committed hcommitted, h.recorded_of_insert hcommitted hins
    (.of_opened hop ?_ ?_ hcrs.transfer.transaction_stored ?_),
    total_of_transfer h hcrs.transfer heq⟩
  · intro id hid
    exact ⟨order.credit s, hcr, Option.some.inj hid, rfl⟩
  · intro _ hno
    exact ⟨order.credit s, hcr, SourceReference.platformOrderNo.inj hno, rfl⟩
  · intro id hid
    cases hid

theorem Attributed.manual {req : WalletTransactionRequest} (hfr : s.Fresh db)
    (hmn : PostsManual s req db db') : Attributed db' := by
  have hln := h.linked.committed hcommitted
  obtain ⟨_, hcash⟩ := hmn.cash
  unfold moveTransactionCash at hcash
  split at hcash
  · have hfree (lot : CashLot) (hop : lot.Opened (s.uuid .lot) req.walletId none
        (s.uuid .transaction) (.walletTransaction (s.uuid .transaction)) req.amount) (old : CashLot)
        (hold : old ∈ db.cash.lots.rows) : Key.clash (Keyed.key lot) (Keyed.key old) = false := by
      obtain ⟨htx, href⟩ := h.fresh_transaction hfr hold
      refine lot_clash_eq_false ?_ ?_ ?_ ?_
      · rw [hop.id]
        exact (hfr.lots old hold _).symm
      · rw [hop.sourceReference]
        exact href.symm
      · intro id hid
        rw [hop.sourceTransactionId] at hid
        cases hid
        exact htx
      · intro id hid
        rw [hop.rechargeOrderId] at hid
        cases hid
    obtain ⟨lot, hop, hins, heq⟩ := createCashLotTx_equity hfree hcash
    refine ⟨hln, h.recorded_of_insert hcommitted hins
      (.of_opened hop ?_ ?_ hmn.transfer.transaction_stored ?_),
      total_of_transfer h hmn.transfer heq⟩
    · intro id hid
      cases hid
    · intro _ hno
      cases hno
    · intro id hid
      exact (SourceReference.walletTransaction.inj hid).symm
  · split at hcash
    · next hneg =>
      obtain ⟨_, hfrm⟩ := allocateCashDebitTx_sound h.linked.sound hcash
      refine ⟨hln, h.recorded_of_view hcommitted hfrm.lots, total_of_transfer h hmn.transfer fun id => ?_⟩
      rw [equity, fundedBy_of_view hfrm.lots, (allocateCashDebitTx_attributes (abs_nonneg _) hcash).debited,
        abs_of_neg hneg, equity]
      split <;> omega
    · next _ hneg =>
      have hsame : db'.cash = db.cash := (Except.ok.inj hcash).symm
      refine ⟨hln, ?_, total_of_transfer h hmn.transfer fun id => ?_⟩
      · exact h.recorded_of_view hcommitted (by rw [hsame])
      · rw [hsame]
        split <;> omega

theorem Attributed.spend (htr : Transfer s walletId delta journalType externalKey db db')
    (hview : SameLots db.cash db'.cash)
    (hsp : ∀ id, spentBy id db'.cash.allocations =
      spentBy id db.cash.allocations + if id = walletId then -delta else 0) : Attributed db' := by
  refine ⟨h.linked.committed hcommitted, h.recorded_of_view hcommitted hview,
    total_of_transfer h htr fun id => ?_⟩
  rw [equity_of_spent hview hsp, neg_neg]

theorem Attributed.keep (hws : db'.wallets = db.wallets) (hview : SameLots db.cash db'.cash)
    (hsp : ∀ id, spentBy id db'.cash.allocations = spentBy id db.cash.allocations) : Attributed db' := by
  refine ⟨h.linked.committed hcommitted, h.recorded_of_view hcommitted hview, fun x hx => ?_⟩
  rw [equity, fundedBy_of_view hview, hsp]
  exact h.total x (hws ▸ hx)

theorem Attributed.quiet (hq : Quiet db db') : Attributed db' := by
  refine ⟨h.linked.committed hcommitted, h.recorded_of_view hcommitted (by rw [hq.cash]), ?_⟩
  intro _ hw
  obtain ⟨old, hold, hbk⟩ := mem_of_view hq.wallets hw
  simp only [Wallet.books, Prod.mk.injEq] at hbk
  obtain ⟨hid, _, _, hav, hrs⟩ := hbk
  rw [← hav, ← hrs, ← hid, hq.cash]
  exact h.total old hold

theorem Attributed.reserve {maximum : ℚ} {promotion : ℤ} (hw : wallet ∈ db.wallets.rows)
    (hre : Reserves s wallet maximum promotion db op db') : Attributed db' := by
  obtain ⟨_, hrs⟩ := reserveCashLotsTx_sound h.linked.sound hre.cash
  obtain ⟨_, hwr, hws⟩ := hre.wallets
  have hmv := Wallet.moved_of_setBalances hwr (sub_eq_add_neg _ _) rfl
  refine ⟨h.linked.committed hcommitted, h.recorded_of_view hcommitted hrs.lots,
    total_of_moved h (find?_of_mem hw) hmv hws fun id => ?_⟩
  rw [equity, fundedBy_of_view hrs.lots, hrs.allocations, equity, neg_add_cancel, ite_self, add_zero]

theorem Attributed.settle {req : FundingSettlementRequest} {settled : FundingOperation}
    {charge : SettlementCharge} {consumed : ℤ} (hop : db.operations.find? req.operationId = some op)
    (hopen : op.status.isOpen)
    (hset : Settles s req op wallet charge consumed db settled db') : Attributed db' := by
  obtain ⟨hmem, _⟩ := found hop
  obtain ⟨_, hwr, hcash, hws⟩ := hset.wallets
  obtain ⟨_?, htx, hcash, _⟩ := settleCash_eq_ok hcash
  obtain ⟨_, hcl⟩ := settleCashLotsTx_sound h.linked.sound (h.linked.openHolds hmem hopen) hcash
  have ham := hset.amount_nonneg
  have hmv := Wallet.moved_of_settle hwr
  refine ⟨h.linked.committed hcommitted, h.recorded_of_view hcommitted hcl.lots,
    total_of_moved h hset.found hmv hws fun id => ?_⟩
  rw [equity_of_spent hcl.lots (settleCashLotsTx_attributes htx ham hcash).debited]
  split <;> omega

theorem Attributed.completeRefund {refund : RefundOrder} (hr : refund ∈ db.payments.refundOrders.rows)
    (hopen : refund.status.isOpen) (hcm : CompletesRefund s order refund db db') : Attributed db' := by
  obtain ⟨_, hcl⟩ := settleRefundCashTx_sound h.linked.sound
    (h.linked.openRefundHold hr hopen hcm.found) hcm.cash
  obtain ⟨_, hhold, hown, hat⟩ := settleRefundCashTx_attributes
    (fun _ hid => (Option.some.inj hid).symm) hcm.cash
  have ham := h.linked.refundAmount hr hhold hown
  refine h.spend hcommitted hcm.transfer hcl.lots fun id => ?_
  rw [hat.debited, if_pos rfl, ham, neg_neg]

end

/-- The call resolves no reconciliation case. -/
def Call.reconciles : Call → Bool
  | .resolveReconciliationCase _ => true
  | _ => false

theorem Attributed.committed (h : Attributed db) (hcommitted : Committed s db call db') (hfr : s.Fresh db)
    (hcall : call.reconciles = false) : Attributed db' := by
  have hall := hcommitted
  cases hcommitted with
  | quiet hq => exact h.quiet hall hq
  | reserve hw _ _ _ hrs => exact h.reserve hall hw hrs
  | settle hop hopen _ hset => exact h.settle hall hop hopen hset
  | adjust _ _ _ _ hadj =>
    rcases hadj.moved with ⟨_, hws, _, _, hcash⟩ | ⟨_, htr, hcash⟩
    · exact h.keep hall hws (by rw [hcash]) fun id => by rw [hcash]
    · refine h.spend hall htr (moveLateCash_sound h.linked.sound hcash).2.lots fun id => ?_
      rw [moveLateCash_spent hcash, neg_sub]
  | reverse _ _ hpos hrv =>
    obtain ⟨_, _, hcash⟩ := hrv.cash
    exact h.spend hall hrv.transfer (restoreCashAllocationTx_sound h.linked.sound hcash).2.lots
      (restoreCashAllocationTx_attributes hpos.le hcash).restored
  | manual hmn => exact h.manual hall hfr hmn
  | credit ho hpaid hcrs =>
    exact h.credit hall hfr (found ho).1 hpaid hcrs
  | createRefund _ _ hcr =>
    obtain ⟨_, hview, _, hal, _⟩ := reserveRefundCashTx_sound h.linked.sound hcr.cash
    exact h.keep hall hcr.wallets hview fun id => by rw [hal]
  | failRefund hr hopen hfl =>
    obtain ⟨hmem, _⟩ := found hr
    obtain ⟨_, hcl⟩ := settleRefundCashTx_sound h.linked.sound
      (h.linked.openRefundHold hmem hopen hfl.found) hfl.cash
    obtain ⟨_, _, _, hat⟩ := settleRefundCashTx_attributes
      (fun id (hid : none = some id) => (nomatch hid : id = s.uuid .transaction)) hfl.cash
    refine h.keep hall hfl.wallets hcl.lots fun id => ?_
    rw [hat.debited, if_neg Bool.false_ne_true, ite_self, add_zero]
  | completeRefund hr hopen hcm =>
    exact h.completeRefund hall (found hr).1 hopen hcm
  | chargeback _ _ hch =>
    refine h.spend hall hch.transfer (allocateChargebackTx_sound h.linked.sound hch.cash).2.lots
      fun id => ?_
    rw [neg_neg]
    exact (allocateChargebackTx_attributes (Money.nonneg _) hch.cash).debited id
  | reconcile _ _ _ => cases hcall

/-- The cash of a wallet: what is left on its lots, and what requests and refunds hold of them. -/
def Cash.cashOf (cash : Cash) (walletId : Uuid) : ℤ :=
  cash.lots.sum fun lot =>
    if lot.walletId = walletId then
      lot.remainingAmount.units +
        heldOn (fun hold => hold.cashLotId = lot.id) cash.fundingHolds +
        heldOn (fun hold => hold.cashLotId = lot.id) cash.refundHolds
    else 0

/-- What a wallet spent on credit. -/
def Cash.creditDebited (cash : Cash) (walletId : Uuid) : ℤ :=
  cash.allocations.sum fun row =>
    if row.walletId = walletId ∧ row.bucket = .credit ∧ row.direction = .debit then row.amount.units else 0

/-- What was restored to a wallet's credit. -/
def Cash.creditRestored (cash : Cash) (walletId : Uuid) : ℤ :=
  cash.allocations.sum fun row =>
    if row.walletId = walletId ∧ row.bucket = .credit ∧ row.direction ≠ .debit then row.amount.units else 0

/-- The lot a bucket names. -/
def CashBucket.lot? : CashBucket → Option Uuid
  | .cash lotId => some lotId
  | .credit => none

/-- What an allocation of a wallet took from a lot. -/
def CashAllocation.fromCash (row : CashAllocation) (walletId : Uuid) : ℤ :=
  if row.walletId = walletId ∧ row.bucket.lot?.isSome then row.signed else 0

theorem Cash.Sound.sum_netDebited (h : cash.Sound) (walletId : Uuid) :
    (cash.lots.sum fun lot => if lot.walletId = walletId then cash.netDebited lot.id else 0) =
      cash.allocations.sum fun row => row.fromCash walletId := by
  have hjoin : (cash.lots.sum fun lot => if decide (lot.walletId = walletId) then
      (cash.allocations.sum fun row =>
        if row.bucket.lot? = some (rowId lot) then row.fromCash walletId else 0) else 0) =
      cash.allocations.sum fun row => row.fromCash walletId := by
    refine sum_join fun row hrow hcn => ?_
    unfold fromCash at hcn
    split at hcn
    · next hboth =>
      cases hbk : row.bucket with
      | credit => simp [hbk, CashBucket.lot?] at hboth
      | cash lotId =>
        obtain ⟨lot, hlot, hid, hown⟩ := h.lot row hrow lotId hbk
        refine ⟨lot, hlot, decide_eq_true (hown.trans hboth.1), ?_⟩
        exact congrArg some hid.symm
    · exact absurd rfl hcn
  rw [← hjoin]
  refine sum_congr fun lot hlot => ?_
  simp only [decide_eq_true_eq]
  split
  · next hown =>
    refine sum_congr fun row hrow => ?_
    have hnm : row.bucket = .cash lot.id ↔ row.bucket.lot? = some (rowId lot) := by
      cases row.bucket with
      | credit => simp [CashBucket.lot?]
      | cash lotId =>
        simp only [CashBucket.cash.injEq, CashBucket.lot?, Option.some.injEq]
        exact Iff.rfl
    by_cases hbk : row.bucket = .cash lot.id
    · obtain ⟨stored, hstor, hid, hw⟩ := h.lot row hrow lot.id hbk
      have hsame : stored = lot := eq_of_rowId hstor hlot hid
      have hrt : row.walletId = walletId := by rw [← hw, hsame, hown]
      rw [if_pos (hnm.mp hbk)]
      simp [fromCash, hrt, hbk, CashBucket.lot?]
    · rw [if_neg hbk, if_neg fun hlot' => hbk (hnm.mpr hlot')]
  · rfl

theorem Cash.Sound.equity_eq (h : cash.Sound) (walletId : Uuid) : cash.equity walletId =
      cash.cashOf walletId - (cash.creditDebited walletId - cash.creditRestored walletId) := by
  have hfn : cash.cashOf walletId +
      (cash.lots.sum fun lot => if lot.walletId = walletId then cash.netDebited lot.id else 0) =
      fundedBy walletId cash.lots := by
    rw [cashOf, ← sum_add]
    refine sum_congr fun lot hlot => ?_
    split
    · have hcn := h.conserved lot hlot
      rw [accounted, remainingAt_of_mem hlot] at hcn
      omega
    · rfl
  have hsp : spentBy walletId cash.allocations + cash.creditRestored walletId =
      (cash.allocations.sum fun row => row.fromCash walletId) + cash.creditDebited walletId := by
    rw [spentBy, creditRestored, creditDebited, ← sum_add, ← sum_add]
    refine sum_congr fun row _ => ?_
    by_cases hw : row.walletId = walletId
    · cases hbk : row.bucket <;> cases hdr : row.direction <;>
        simp [fromCash, signed, Direction.signed, CashBucket.lot?, hw, hbk, hdr]
    · simp [fromCash, hw]
  rw [h.sum_netDebited] at hfn
  rw [equity]
  omega

theorem Genesis.attributed (h : Genesis db) : Attributed db := by
  refine ⟨h.cashLinked, ?_, fun wallet hw => ?_⟩
  · simp [h.lots]
  · have hav : wallet.availableBalance.units = 0 := h.balances wallet hw .available
    have hrs : wallet.reservedBalance.units = 0 := h.balances wallet hw .reserved
    simp [hav, hrs, equity, fundedBy, spentBy, sum, h.lots, h.allocations]

/-- The call draws new identifiers and resolves no reconciliation case. -/
def WithoutReversals (db : Db) (invocation : Session × Call) : Prop :=
  invocation.1.Fresh db ∧ invocation.2.reconciles = false

/-- In every history without reversed journals, the balances of every wallet together are the cash
left on its lots and held of them, minus what it spent on credit and was not restored. -/
theorem balances_eq_cash_minus_credit (h : Genesis db) (calls : List (Session × Call))
    (hcalls : Along exec WithoutReversals db calls) :
    ∀ wallet ∈ (run exec db calls).wallets.rows,
      wallet.availableBalance.units + wallet.reservedBalance.units =
        (run exec db calls).cash.cashOf wallet.id -
          ((run exec db calls).cash.creditDebited wallet.id -
            (run exec db calls).cash.creditRestored wallet.id) := by
  have hrun : Attributed (run exec db calls) :=
    run_keeps (fun s call st st' hinv hok hcommitted =>
      hinv.committed hcommitted hok.1 hok.2) h.attributed hcalls
  intro wallet hw
  rw [hrun.total wallet hw, hrun.linked.sound.equity_eq]

/-- The hypotheses are met by the small history with a pending refund: of the 150 units recharged 30
were spent, and none on credit. -/
theorem balances_eq_cash_minus_credit_demo : (run exec demoDb demoCashUsage).cash.cashOf 1 = 120 ∧
      ∀ wallet ∈ (run exec demoDb demoCashUsage).wallets.rows,
        wallet.availableBalance.units + wallet.reservedBalance.units =
          (run exec demoDb demoCashUsage).cash.cashOf wallet.id -
            ((run exec demoDb demoCashUsage).cash.creditDebited wallet.id -
              (run exec demoDb demoCashUsage).cash.creditRestored wallet.id) := by
  refine ⟨by decide +kernel, balances_eq_cash_minus_credit demoDb_genesis demoCashUsage ?_⟩
  refine ⟨⟨demoSession_fresh ?_, rfl⟩, ⟨demoSession_fresh ?_, rfl⟩, ⟨demoSession_fresh ?_, rfl⟩,
    ⟨demoSession_fresh ?_, rfl⟩, ⟨demoSession_fresh ?_, rfl⟩, ⟨demoSession_fresh ?_, rfl⟩, trivial⟩
  all_goals decide +kernel

end ModelDock.Store
