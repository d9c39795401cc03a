import ModelDock.Cash.Holds
import ModelDock.Store.Lifecycle

/-!
# Cash lots over whole histories

In every reachable state each lot is accounted for, and holds are linked to the operations and refunds they
serve. It follows that the guarded update inside restoration always matches.
-/

namespace ModelDock.Store

open Relational Table

variable {walletId : Uuid} {op : FundingOperation} {txs : Table WalletTransaction}
  {cash : Cash} {wallet : Wallet} {refund : RefundOrder} {lots lots' : Table CashLot} {cash' : Cash}
  {order : RechargeOrder}

/-- The hold of a request stands on a stored lot of the operation's wallet, and is open as long as
the operation is. -/
def FundingLinked (db : Db) (hold : FundingCashAllocation) : Prop :=
  ∃ lot ∈ db.cash.lots.rows, lot.id = hold.cashLotId ∧
    ∃ operation ∈ db.operations.rows, operation.id = hold.operationId ∧
      operation.walletId = lot.walletId ∧ (operation.status.isOpen → hold.settledAt = none)

/-- The hold of a refund stands on a stored lot of the refunded wallet, holds the refunded amount and
is open as long as the refund is. -/
def RefundLinked (db : Db) (hold : RefundCashAllocation) : Prop :=
  ∃ lot ∈ db.cash.lots.rows, lot.id = hold.cashLotId ∧
    ∃ refund ∈ db.payments.refundOrders.rows, refund.id = hold.refundOrderId ∧
      refund.amount = hold.reservedAmount ∧ (refund.status.isOpen → hold.settledAt = none) ∧
      ∃ order ∈ db.payments.rechargeOrders.rows, order.id = refund.rechargeOrderId ∧
        order.walletId = lot.walletId

/-- The cash tables are sound and linked to the rows they serve. -/
structure CashLinked (db : Db) : Prop where
  sound : db.cash.Sound
  funding : ∀ hold ∈ db.cash.fundingHolds.rows, FundingLinked db hold
  refund : ∀ hold ∈ db.cash.refundHolds.rows, RefundLinked db hold

/-- Every lot is still there, as a lot of the same wallet. -/
def LotsKept (lots lots' : Table CashLot) : Prop :=
  Table.Kept (fun lot lot' => lot'.id = lot.id ∧ lot'.walletId = lot.walletId) lots lots'

theorem lotsKept_of_view (h : lots'.view CashLot.origin = lots.view CashLot.origin) : LotsKept lots lots' :=
  fun _ hlot => exists_of_origin h hlot

variable {s : Session} {call : Call} {db db' : Db} {hold hold' : FundingCashAllocation}
  {refundHold : RefundCashAllocation}

theorem FundingLinked.kept (h : FundingLinked db hold) (hlots : LotsKept db.cash.lots db'.cash.lots)
    (hops : Table.Kept FundingOperation.Later db.operations db'.operations) :
    FundingLinked db' hold := by
  obtain ⟨lot, hlot, hid, op, hop, hopId, hown, hopen⟩ := h
  obtain ⟨lot', hlot', hid', hw'⟩ := hlots lot hlot
  obtain ⟨op', hop', hlat⟩ := hops op hop
  refine ⟨lot', hlot', hid'.trans hid, op', hop', hlat.id.trans hopId, ?_,
    fun hopen' => hopen (hlat.wasOpen hopen')⟩
  rw [hlat.walletId, hown, hw']

theorem FundingLinked.closed (h : FundingLinked db hold) (hkey : Keyed.key hold' = Keyed.key hold)
    (hlots : LotsKept db.cash.lots db'.cash.lots)
    (hops : Table.Kept FundingOperation.Later db.operations db'.operations)
    (hcl : ∀ op ∈ db'.operations.rows, op.id = hold.operationId →
      op.status.isOpen = false) : FundingLinked db' hold' := by
  obtain ⟨lot, hlot, hid, op, hop, hopId, hown, _⟩ := h.kept hlots hops
  have hld : hold'.cashLotId = hold.cashLotId := congrArg FundingCashKey.cashLotId hkey
  have hoper : hold'.operationId = hold.operationId := congrArg FundingCashKey.operationId hkey
  refine ⟨lot, hlot, hid.trans hld.symm, op, hop, hopId.trans hoper.symm, hown,
    fun hopen => ?_⟩
  rw [hcl op hop hopId] at hopen
  cases hopen

theorem RefundLinked.kept (h : RefundLinked db refundHold) (hlots : LotsKept db.cash.lots db'.cash.lots)
    (hrf : Table.Kept RefundOrder.Later db.payments.refundOrders db'.payments.refundOrders)
    (hor : Table.Kept RechargeOrder.Later db.payments.rechargeOrders db'.payments.rechargeOrders) :
    RefundLinked db' refundHold := by
  obtain ⟨lot, hlot, hid, refund, hr, href, ham, hopen, order, ho, hord, hown⟩ := h
  obtain ⟨lot', hlot', hid', hw'⟩ := hlots lot hlot
  obtain ⟨refund', hr', hlr⟩ := hrf refund hr
  obtain ⟨order', ho', hlat⟩ := hor order ho
  refine ⟨lot', hlot', hid'.trans hid, refund', hr', hlr.id.trans href,
    hlr.amount.trans ham, fun hopen' => hopen (hlr.wasOpen hopen'), order', ho', ?_, ?_⟩
  · rw [hlat.id, hord, hlr.rechargeOrderId]
  · rw [hlat.walletId, hown, hw']

section

variable (h : CashLinked db)
include h

theorem CashLinked.of_tables (hcash : db'.cash = db.cash)
    (hop : db'.operations = db.operations) (hpy : db'.payments = db.payments) :
    CashLinked db' := by
  have hlots : LotsKept db.cash.lots db'.cash.lots := by
    rw [hcash]
    exact lotsKept_of_view rfl
  refine ⟨hcash ▸ h.sound, fun hold hhold => ?_, fun hold hhold => ?_⟩
  · rw [hcash] at hhold
    exact (h.funding hold hhold).kept hlots (.of_eq FundingOperation.Later.refl hop)
  · rw [hcash] at hhold
    exact (h.refund hold hhold).kept hlots (.of_eq RefundOrder.Later.refl (by rw [hpy]))
      (.of_eq RechargeOrder.Later.refl (by rw [hpy]))

theorem CashLinked.fundingLots :
    ∀ hold ∈ db.cash.fundingHolds.rows, ∃ lot ∈ db.cash.lots.rows, lot.id = hold.cashLotId := by
  intro hold hhold
  obtain ⟨lot, hlot, hid, _⟩ := h.funding hold hhold
  exact ⟨lot, hlot, hid⟩

theorem CashLinked.refundLots :
    ∀ hold ∈ db.cash.refundHolds.rows, ∃ lot ∈ db.cash.lots.rows, lot.id = hold.cashLotId := by
  intro hold hhold
  obtain ⟨lot, hlot, hid, _⟩ := h.refund hold hhold
  exact ⟨lot, hlot, hid⟩

theorem CashLinked.openHolds (hop : op ∈ db.operations.rows) (hopen : op.status.isOpen)
    (hold : FundingCashAllocation) (hhold : hold ∈ db.cash.fundingHolds.rows)
    (hown : hold.operationId = op.id) :
    hold.settledAt = none ∧
      ∃ lot ∈ db.cash.lots.rows, lot.id = hold.cashLotId ∧ lot.walletId = op.walletId := by
  obtain ⟨lot, hlot, hid, owner, howr, howd, hw, hun⟩ := h.funding hold hhold
  have hsame : owner = op := eq_of_rowId howr hop (howd.trans hown)
  subst hsame
  exact ⟨hun hopen, lot, hlot, hid, hw.symm⟩

theorem CashLinked.openRefundHold (hr : refund ∈ db.payments.refundOrders.rows) (hopen : refund.status.isOpen)
    (ho : db.payments.rechargeOrders.find? refund.rechargeOrderId = some order)
    (hold : RefundCashAllocation) (hhold : hold ∈ db.cash.refundHolds.rows)
    (hown : hold.refundOrderId = refund.id) :
    hold.settledAt = none ∧
      ∃ lot ∈ db.cash.lots.rows, lot.id = hold.cashLotId ∧ lot.walletId = order.walletId := by
  obtain ⟨lot, hlot, hid, owner, howr, howd, _, hun, source, hsrc, hsr, hw⟩ :=
    h.refund hold hhold
  have hsame : owner = refund := eq_of_rowId howr hr (howd.trans hown)
  subst hsame
  obtain ⟨hord, hor⟩ := found ho
  have hsm : source = order := eq_of_rowId hsrc hord (hsr.trans hor.symm)
  subst hsm
  exact ⟨hun hopen, lot, hlot, hid, hw.symm⟩

theorem CashLinked.refundAmount {hold : RefundCashAllocation}
    (hr : refund ∈ db.payments.refundOrders.rows) (hhold : hold ∈ db.cash.refundHolds.rows)
    (hown : hold.refundOrderId = refund.id) : hold.reservedAmount = refund.amount := by
  obtain ⟨_, _, _, owner, howr, howd, ham, _⟩ := h.refund hold hhold
  have hsame : owner = refund := eq_of_rowId howr hr (howd.trans hown)
  rw [← hsame, ham]

end

theorem moveLateCash_sound {difference : ℤ} (h : cash.Sound)
    (hstep : moveLateCash s op difference txs cash = .ok cash') :
    cash'.Sound ∧ cash.Framed cash' := by
  unfold moveLateCash at hstep
  split at hstep
  · exact allocateCashDebitTx_sound h hstep
  · simp only [eq_ok] at hstep
    obtain ⟨_, _, hrs⟩ := hstep
    exact restoreCashAllocationTx_sound h hrs

theorem settleCash_eq_ok {actual : ℤ} (h : settleCash s op wallet actual db = .ok (txs, cash)) :
    ∃ txId?, (∀ id, txId? = some id → id = s.uuid .transaction) ∧
      settleCashLotsTx s txs op.id op.walletId txId? actual db.cash = .ok cash ∧
      (0 < actual ∧ insertTransactionOnce s (chargeTransaction s op actual wallet.availableBalance.units)
          db.transactions = .ok txs ∨ actual ≤ 0 ∧ txs = db.transactions) := by
  unfold settleCash at h
  split at h
  · next hpos =>
    simp only [eq_ok] at h
    obtain ⟨_, hins, _, hcash, rfl, rfl⟩ := h
    exact ⟨_, fun _ hid => (Option.some.inj hid).symm, hcash, .inl ⟨hpos, hins⟩⟩
  · next hnot =>
    simp only [eq_ok] at h
    obtain ⟨_, hcash, rfl, rfl⟩ := h
    exact ⟨none, by simp, hcash, .inr ⟨not_lt.mp hnot, rfl⟩⟩

section

variable (h : CashLinked db) (hc : Committed s db call db')
include h hc

theorem CashLinked.of_kept (hsn : db'.cash.Sound) (hlots : LotsKept db.cash.lots db'.cash.lots)
    (hfn : db'.cash.fundingHolds = db.cash.fundingHolds)
    (hr : db'.cash.refundHolds = db.cash.refundHolds) : CashLinked db' := by
  refine ⟨hsn, fun hold hhold => ?_, fun hold hhold => ?_⟩
  · rw [hfn] at hhold
    exact (h.funding hold hhold).kept hlots hc.operations_kept
  · rw [hr] at hhold
    exact (h.refund hold hhold).kept hlots hc.refundOrders_kept hc.rechargeOrders_kept

theorem CashLinked.of_framed (hcash : db'.cash.Sound ∧ db.cash.Framed db'.cash) : CashLinked db' :=
  h.of_kept hc hcash.1 (lotsKept_of_view hcash.2.lots) hcash.2.fundingHolds hcash.2.refundHolds

theorem CashLinked.of_same (hcash : db'.cash = db.cash) : CashLinked db' := by
  refine h.of_framed hc ?_
  rw [hcash]
  exact ⟨h.sound, Cash.Framed.refl _⟩

theorem CashLinked.of_lot {txId : Uuid} {rechargeOrderId : Option Uuid}
    {sourceKind : LotSource} {sourceReference : SourceReference} {amount : ℤ} {currency : Currency}
    {refundable : Bool}
    (hcash : createCashLotTx s walletId rechargeOrderId txId sourceKind sourceReference amount
      currency refundable db.cash = .ok db'.cash) : CashLinked db' := by
  obtain ⟨hsn, hlots, hsm, hsd⟩ := createCashLotTx_sound h.sound h.fundingLots h.refundLots hcash
  exact h.of_kept hc hsn (fun lot hlot => ⟨lot, hlots lot hlot, rfl, rfl⟩) hsm hsd

theorem CashLinked.reserve {maximum : ℚ} {promotion : ℤ}
    (hrs : Reserves s wallet maximum promotion db op db') : CashLinked db' := by
  obtain ⟨hsn, hrd⟩ := reserveCashLotsTx_sound h.sound hrs.cash
  have hlots := lotsKept_of_view hrd.lots
  refine ⟨hsn, fun hold hhold => ?_, fun hold hhold => ?_⟩
  · rcases hrd.holds hold hhold with hold | ⟨hop, hopen, lot, hlot, hid, hw⟩
    · exact (h.funding _ hold).kept hlots hc.operations_kept
    · obtain ⟨lot', hlot', hid', hw'⟩ := hlots lot hlot
      refine ⟨lot', hlot', hid'.trans hid, op,
        (mem_insert hrs.operations).mpr (.inl rfl), hop.symm, ?_, fun _ => hopen⟩
      rw [hrs.opened.walletId, hw', hw]
  · rw [hrd.refundHolds] at hhold
    exact (h.refund hold hhold).kept hlots hc.refundOrders_kept hc.rechargeOrders_kept

theorem CashLinked.settle {req : FundingSettlementRequest} {settled : FundingOperation}
    {charge : SettlementCharge} {consumed : ℤ} (hop : db.operations.find? req.operationId = some op)
    (hopen : op.status.isOpen)
    (hset : Settles s req op wallet charge consumed db settled db') : CashLinked db' := by
  obtain ⟨hmem, _⟩ := found hop
  obtain ⟨_, _, hcash, _⟩ := hset.wallets
  obtain ⟨_?, _, hcash, _⟩ := settleCash_eq_ok hcash
  obtain ⟨hsn, hcl⟩ := settleCashLotsTx_sound h.sound (h.openHolds hmem hopen) hcash
  have hlots := lotsKept_of_view hcl.lots
  refine ⟨hsn, fun hold' hhold' => ?_, fun hold hhold => ?_⟩
  · obtain ⟨hold, hhold, hkey, hsame | hown⟩ := hcl.holds hold' hhold'
    · obtain ⟨lot, hlot, hid, owner, howr, howd, hw, hun⟩ :=
        (h.funding hold hhold).kept hlots hc.operations_kept
      have hld : hold'.cashLotId = hold.cashLotId := congrArg FundingCashKey.cashLotId hkey
      have hopId : hold'.operationId = hold.operationId := congrArg FundingCashKey.operationId hkey
      exact ⟨lot, hlot, hid.trans hld.symm, owner, howr, howd.trans hopId.symm, hw,
        fun hopen' => hsame.trans (hun hopen')⟩
    · refine (h.funding hold hhold).closed hkey hlots hc.operations_kept fun other hoth hid => ?_
      rw [hset.operations, mem_replace hmem hset.closed.key] at hoth
      have hsd : settled.id = op.id := congrArg FundingOperationKey.id hset.closed.key
      rcases hoth with rfl | ⟨_, hne⟩
      · rw [hset.closed.status, settlementStatus_closed]
      · exact absurd (hid.trans (hown.trans hsd.symm)) hne
  · rw [hcl.refundHolds] at hhold
    exact (h.refund hold hhold).kept hlots hc.refundOrders_kept hc.rechargeOrders_kept

theorem CashLinked.createRefund (ho : order ∈ db.payments.rechargeOrders.rows)
    (hcr : CreatesRefund s order refund db db') : CashLinked db' := by
  obtain ⟨hsn, hview, hfn, _, _, lot, hins, hr, hopen, hrs, hld, hw,
    _, hmv⟩ := reserveRefundCashTx_sound h.sound hcr.cash
  have hlots := lotsKept_of_view hview
  refine ⟨hsn, fun x hx => ?_, fun x hx => ?_⟩
  · rw [hfn] at hx
    exact (h.funding x hx).kept hlots hc.operations_kept
  · rcases (mem_insert hins).mp hx with rfl | hx
    · obtain ⟨lot', hlot', hid', hw'⟩ := hlots lot (found hmv.found).1
      obtain ⟨order', ho', hlat⟩ := hc.rechargeOrders_kept order ho
      refine ⟨lot', hlot', hid'.trans hld.symm, refund,
        (mem_insert hcr.refundOrders).mpr (.inl rfl), hr.symm,
        Money.ext hrs.symm, fun _ => hopen, order', ho', ?_, ?_⟩
      · rw [hlat.id, hcr.rechargeOrderId]
      · rw [hlat.walletId, hw', hw]
    · exact (h.refund x hx).kept hlots hc.refundOrders_kept hc.rechargeOrders_kept

theorem CashLinked.closeRefund {refund' : RefundOrder} (hr : refund ∈ db.payments.refundOrders.rows)
    (hrf : db'.payments.refundOrders = db.payments.refundOrders.replace refund')
    (hkey : Keyed.key refund' = Keyed.key refund) (hst : refund'.status.isOpen = false)
    (hcash : db'.cash.Sound ∧ db.cash.RefundClosed refund.id db'.cash) : CashLinked db' := by
  obtain ⟨hsn, hcl⟩ := hcash
  have hlots := lotsKept_of_view hcl.lots
  obtain ⟨hold, _, hmem, hown, hhl, hld, hrs, _, hrp⟩ := hcl.holds
  refine ⟨hsn, fun x hx => ?_, fun x hx => ?_⟩
  · rw [hcl.fundingHolds] at hx
    exact (h.funding x hx).kept hlots hc.operations_kept
  · rw [hrp, mem_replace hmem hhl] at hx
    rcases hx with rfl | ⟨hx, _⟩
    · obtain ⟨lot, hlot, hid, owner, howr, howd, ham, _, ho⟩ :=
        (h.refund hold hmem).kept hlots hc.refundOrders_kept hc.rechargeOrders_kept
      have href : x.refundOrderId = hold.refundOrderId := congrArg RefundCashKey.refundOrderId hhl
      refine ⟨lot, hlot, hid.trans hld.symm, owner, howr, howd.trans href.symm,
        ham.trans hrs.symm, fun hopen => ?_, ho⟩
      -- The refund of the closed hold is the one that was closed.
      have hid' : refund'.id = refund.id := congrArg RefundOrderKey.id hkey
      rw [hrf, mem_replace hr hkey] at howr
      rcases howr with rfl | ⟨_, hne⟩
      · rw [hst] at hopen
        cases hopen
      · exact absurd (howd.trans (hown.trans hid'.symm)) hne
    · exact (h.refund x hx).kept hlots hc.refundOrders_kept hc.rechargeOrders_kept

theorem CashLinked.committed : CashLinked db' := by
  have hall := hc
  cases hc with
  | quiet hq => exact h.of_same hall hq.cash
  | reserve _ _ _ _ hrs => exact h.reserve hall hrs
  | settle hop hopen _ hset => exact h.settle hall hop hopen hset
  | adjust _ _ _ _ hadj =>
    rcases hadj.moved with ⟨_, _, _, _, hcash⟩ | ⟨_, _, hcash⟩
    · exact h.of_same hall hcash
    · exact h.of_framed hall (moveLateCash_sound h.sound hcash)
  | reverse _ _ _ hrv =>
    obtain ⟨_, _, hcash⟩ := hrv.cash
    exact h.of_framed hall (restoreCashAllocationTx_sound h.sound hcash)
  | manual hmn =>
    obtain ⟨_, hcash⟩ := hmn.cash
    unfold moveTransactionCash at hcash
    split at hcash
    · exact h.of_lot hall hcash
    · split at hcash
      · exact h.of_framed hall (allocateCashDebitTx_sound h.sound hcash)
      · exact h.of_same hall (Except.ok.inj hcash).symm
  | credit _ _ hcrs => exact h.of_lot hall hcrs.cash
  | createRefund ho _ hcr =>
    exact h.createRefund hall (found ho).1 hcr
  | failRefund hr hopen hcall | completeRefund hr hopen hcall =>
    obtain ⟨hmem, _⟩ := found hr
    obtain ⟨_, href⟩ := hcall.refundOrders
    exact h.closeRefund hall hmem href rfl rfl
      (settleRefundCashTx_sound h.sound (h.openRefundHold hmem hopen hcall.found) hcall.cash)
  | chargeback _ _ hch =>
    exact h.of_framed hall (allocateChargebackTx_sound h.sound hch.cash)
  | reconcile _ _ hrec =>
    rcases hrec.applied with ⟨_, _, _, hcash⟩ | ⟨_, _, hap⟩
    · exact h.of_same hall hcash
    · rcases hap.cash with ⟨_, _, hcash⟩ | ⟨_, _, hcash⟩
      · exact h.of_same hall hcash
      · unfold moveReversalCash at hcash
        split at hcash
        · exact h.of_framed hall (allocateCashDebitTx_sound h.sound hcash)
        · simp only [eq_ok] at hcash
          obtain ⟨_, _, hre⟩ := hcash
          exact h.of_framed hall (restoreCashAllocationTx_sound h.sound hre)

end

theorem Genesis.cashLinked (h : Genesis db) : CashLinked db := by
  refine ⟨⟨?_, ?_, ?_, ?_⟩, ?_, ?_⟩
  · simp [h.allocations]
  · simp [h.allocations]
  · simp [h.allocations]
  · simp [h.lots]
  · simp [h.fundingHolds]
  · simp [h.refundHolds]

theorem Genesis.cashLinked_run (h : Genesis db) (calls : List (Session × Call)) :
    CashLinked (run exec db calls) :=
  run_keeps_all (fun _ _ _ _ hinv hc => CashLinked.committed hinv hc) h.cashLinked calls

variable (unmatched : StoreError)

/-- Raise the lot a debit was taken from, and fail when the guarded update matched no row. -/
def restoreLotChecked (walletId : Uuid) (units : ℤ) (lots : Table CashLot) :
    CashBucket → Except StoreError (Table CashLot)
  | .cash lotId => do
    let result ← refillLot lotId walletId units lots
    ensure (result.1) unmatched
    return result.2
  | .credit => .ok lots

/-- Give back part of one recorded debit, checking the row count. -/
def restoreAllocationChecked (s : Session)
    (transactions : Table WalletTransaction) (walletId reversalTransactionId : Uuid) (cash : Cash)
    (item : CashAllocation) (units : ℤ) : Except StoreError Cash := do
  let lots ← restoreLotChecked unmatched walletId units cash.lots item.bucket
  insertAllocation s transactions (s.uuid (.allocation item.id)) walletId reversalTransactionId
    item.bucket (.restore item.id) units { cash with lots := lots }

/-- Restore an amount as `restoreCashAllocationTx` does, but fail with `unmatched` as soon as the
update of a lot matches no row. -/
def restoreCashAllocationCheckedTx (s : Session)
    (transactions : Table WalletTransaction) (walletId sourceTransactionId reversalTransactionId : Uuid)
    (amount : ℤ) (cash : Cash) : Except StoreError Cash := do
  let result ← takeEach cash.unrestored
    (restoreAllocationChecked unmatched s transactions walletId reversalTransactionId)
    (cash.restorable walletId sourceTransactionId) amount cash
  ensure (result.1 ≤ 0) .financeState
  return result.2

theorem restoreAllocation_eq_checked {part : CashAllocation × ℤ}
    {parts : List (CashAllocation × ℤ)} (s : Session) (txs : Table WalletTransaction)
    (txId : Uuid) (unmatched : StoreError) (h : RestoreReady walletId (part :: parts) cash) :
    restoreAllocation s txs walletId txId cash part.1 part.2 =
      restoreAllocationChecked unmatched s txs walletId txId cash part.1 part.2 := by
  obtain ⟨source, units⟩ := part
  have hlots : restoreLot walletId units cash.lots source.bucket =
      restoreLotChecked unmatched walletId units cash.lots source.bucket := by
    cases hbk : source.bucket with
    | credit => rfl
    | cash lotId =>
      obtain ⟨_, hf, hown, hroom⟩ := refillLot_matches h hbk
      simp only [restoreLot, restoreLotChecked]
      cases href : refillLot lotId walletId units cash.lots with
      | error _ => rfl
      | ok result =>
        have hmt : result.1 := refillLot_matched hf hown hroom href
        simp only [ok_bind, ensure_of hmt]
  simp only [restoreAllocation, restoreAllocationChecked, hlots]

theorem Cash.Sound.restore_eq_checked (h : cash.Sound) (s : Session)
    (txs : Table WalletTransaction) (walletId srcTxId reversalTransactionId : Uuid)
    (amount : ℤ) (unmatched : StoreError) :
    restoreCashAllocationTx s txs walletId srcTxId reversalTransactionId amount cash =
      restoreCashAllocationCheckedTx unmatched s txs walletId srcTxId
        reversalTransactionId amount cash := by
  have hloop := foldlM_congr (P := RestoreReady walletId)
    (fun part rest st hrd => restoreAllocation_eq_checked s txs reversalTransactionId
      unmatched hrd)
    (fun part rest st st' hrd hstep => (restoreAllocation_ready hrd hstep).1)
    (restoreReady_takes h walletId srcTxId amount)
  simp only [restoreCashAllocationTx, restoreCashAllocationCheckedTx, takeEach_eq, hloop]

/-- What the cash debits took from a lot. -/
def Cash.debitedFrom (cash : Cash) (lotId : Uuid) : ℤ :=
  cash.allocations.sum fun row =>
    if row.bucket = .cash lotId ∧ row.direction = .debit then row.amount.units else 0

/-- What the cash restorations gave back to a lot. -/
def Cash.restoredTo (cash : Cash) (lotId : Uuid) : ℤ :=
  cash.allocations.sum fun row =>
    if row.bucket = .cash lotId ∧ row.direction ≠ .debit then row.amount.units else 0

theorem Cash.netDebited_eq_sub (cash : Cash) (lotId : Uuid) :
    cash.netDebited lotId = cash.debitedFrom lotId - cash.restoredTo lotId := by
  have hsum : cash.netDebited lotId + cash.restoredTo lotId = cash.debitedFrom lotId := by
    rw [Cash.netDebited, Cash.restoredTo, ← sum_add]
    refine sum_congr fun row _ => ?_
    by_cases hbk : row.bucket = .cash lotId
    · cases hdr : row.direction <;>
        simp [hbk, CashAllocation.signed, hdr, Direction.signed]
    · simp [hbk]
  omega

/-- In every reachable state every lot is accounted for and stays within its original amount, and
no guarded update of a restoration ever fails to match: whatever is restored, the outcome is the
one with the row count checked. -/
theorem cash_lots_conserved (h : Genesis db) (calls : List (Session × Call)) :
    (∀ lot ∈ (run exec db calls).cash.lots.rows,
      lot.originalAmount.units = lot.remainingAmount.units +
          heldOn (fun hold => hold.cashLotId = lot.id) (run exec db calls).cash.fundingHolds +
          heldOn (fun hold => hold.cashLotId = lot.id) (run exec db calls).cash.refundHolds +
          (run exec db calls).cash.debitedFrom lot.id - (run exec db calls).cash.restoredTo lot.id ∧
        0 ≤ lot.remainingAmount.units ∧ lot.remainingAmount.units ≤ lot.originalAmount.units) ∧
    ∀ s txs walletId srcTxId reversalTransactionId amount unmatched,
      restoreCashAllocationTx s txs walletId srcTxId reversalTransactionId amount
          (run exec db calls).cash =
        restoreCashAllocationCheckedTx unmatched s txs walletId srcTxId
          reversalTransactionId amount (run exec db calls).cash := by
  have hsn := (h.cashLinked_run calls).sound
  refine ⟨fun lot hlot => ⟨?_, lot.remainingAmount.nonneg, lot.remaining_le⟩, ?_⟩
  · have hcn := hsn.conserved lot hlot
    rw [Cash.accounted, remainingAt_of_mem hlot, Cash.netDebited_eq_sub] at hcn
    omega
  · intro s txs walletId srcTxId reversalTransactionId amount unmatched
    exact hsn.restore_eq_checked s txs walletId srcTxId reversalTransactionId
      amount unmatched

/-- Two recharges, a request settled with 30 of 40 units, a pending refund of the second recharge and
a request in flight. -/
def demoCashUsage : List (Session × Call) :=
  [(demoSession 1, .creditPaidRecharge 1), (demoSession 2, .creditPaidRecharge 2),
    (demoSession 3, .reserveFunding (demoReservation "a" 40 0)),
    (demoSession 4, .settleFunding (demoSettlement ((demoSession 3).uuid .operation) 30 false)),
    (demoSession 5, .createRefundOrder (demoRefund 2 50)),
    (demoSession 6, .reserveFunding (demoReservation "b" 20 0))]

/-- Of the first lot 50 of 100 units remain, of the second lot none, and both are accounted for. -/
theorem cash_lots_conserved_demo : (run exec demoDb demoCashUsage).cash.lots.rows.map (fun lot =>
        (lot.originalAmount.units, lot.remainingAmount.units)) = [(50, 0), (100, 50)] ∧
      ∀ lot ∈ (run exec demoDb demoCashUsage).cash.lots.rows, lot.originalAmount.units =
        lot.remainingAmount.units +
          heldOn (fun hold => hold.cashLotId = lot.id) (run exec demoDb demoCashUsage).cash.fundingHolds +
          heldOn (fun hold => hold.cashLotId = lot.id) (run exec demoDb demoCashUsage).cash.refundHolds +
          (run exec demoDb demoCashUsage).cash.debitedFrom lot.id -
          (run exec demoDb demoCashUsage).cash.restoredTo lot.id := by
  refine ⟨by decide +kernel, fun lot hlot => ?_⟩
  exact ((cash_lots_conserved demoDb_genesis demoCashUsage).1 lot hlot).1

end ModelDock.Store
