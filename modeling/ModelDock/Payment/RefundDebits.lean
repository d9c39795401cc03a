import ModelDock.Cash.Attribution
import ModelDock.Cash.Restorations
import ModelDock.Payment.OrderAccount

/-!
# Refunds are paid from the lot of their order

A completed refund leaves a debit on the lot of its order that nothing gives back, so what refunds took is at
most the amount of the order. A chargeback is a succeeded refund that may find its lot spent.
-/

namespace ModelDock.Store

open Relational Table Option

variable {walletId transactionId refundOrderId : Uuid} {txs : Table WalletTransaction}
  {order : RechargeOrder} {refund' : RefundOrder}

/-- The lot of a recharge holds what its order paid. -/
def LotOfOrder (db : Db) (lot : CashLot) : Prop :=
  ∀ orderId, lot.rechargeOrderId = some orderId →
    ∃ order ∈ db.payments.rechargeOrders.rows, order.id = orderId ∧ order.amount = lot.originalAmount

/-- The hold of a refund stands on the lot of the refunded order. -/
def HoldOfOrder (db : Db) (hold : RefundCashAllocation) : Prop :=
  ∃ lot ∈ db.cash.lots.rows, lot.id = hold.cashLotId ∧
    ∃ refund ∈ db.payments.refundOrders.rows, refund.id = hold.refundOrderId ∧
      lot.rechargeOrderId = some refund.rechargeOrderId

/-- A completed refund is a debit of the lot of its order, and none of it was given back. -/
def RefundDebited (db : Db) (refund : RefundOrder) : Prop :=
  ∃ lot ∈ db.cash.lots.rows, lot.rechargeOrderId = some refund.rechargeOrderId ∧
    ∃ row ∈ db.cash.allocations.rows, row.bucket = .cash lot.id ∧ row.direction = .debit ∧
      row.amount = refund.amount ∧ db.cash.restoredOf row.id = 0 ∧
      ∃ transaction ∈ db.transactions.rows, transaction.id = row.walletTransactionId ∧
        transaction.refundOrderId = some refund.id ∧ transaction.fundingOperationId = none

/-- The refund and the lot of a hold. -/
def RefundCashAllocation.place (hold : RefundCashAllocation) : Uuid × Uuid :=
  (hold.refundOrderId, hold.cashLotId)

/-- A call opens at most one lot and at most one hold, and gives back charges of requests only. -/
structure CashMoved (db db' : Db) : Prop where
  lots : db'.cash.lots.view CashLot.origin = db.cash.lots.view CashLot.origin ∨
    ∃ lot, db.cash.lots.insert lot StoreError.uniqueViolation = .ok db'.cash.lots ∧ LotOfOrder db lot
  holds : db'.cash.refundHolds.view RefundCashAllocation.place =
      db.cash.refundHolds.view RefundCashAllocation.place ∨
    ∃ hold, db.cash.refundHolds.insert hold StoreError.uniqueViolation = .ok db'.cash.refundHolds ∧
      HoldOfOrder db' hold
  debits : ∃ restores : Uuid → Prop, db.cash.Extends restores db'.cash ∧ ∀ id, restores id →
    ∃ source ∈ db'.transactions.rows, source.id = id ∧ source.fundingOperationId ≠ none

variable {s : Session} {call : Call} {db db' : Db} {refund : RefundOrder}

theorem CashMoved.of_restoresNothing (hlots : SameLots db.cash db'.cash)
    (hhs : db'.cash.refundHolds = db.cash.refundHolds)
    (hdb : db.cash.Extends restoresNothing db'.cash) : CashMoved db db' :=
  ⟨.inl hlots, .inl (by rw [hhs]), restoresNothing, hdb, fun _ hnone => hnone.elim⟩

theorem CashMoved.of_same (h : db'.cash = db.cash) : CashMoved db db' :=
  .of_restoresNothing (by rw [h]) (by rw [h]) (.of_same (by rw [h]))

theorem CashMoved.of_lot {rechargeOrderId : Option Uuid}
    {sourceKind : LotSource} {sourceReference : SourceReference} {amount : ℤ} {currency : Currency}
    {refundable : Bool}
    (hcash : createCashLotTx s walletId rechargeOrderId transactionId sourceKind sourceReference amount
      currency refundable db.cash = .ok db'.cash)
    (ho : ∀ orderId, rechargeOrderId = some orderId →
      ∃ order ∈ db.payments.rechargeOrders.rows, order.id = orderId ∧ order.amount.units = amount) :
    CashMoved db db' := by
  obtain ⟨lot, hop, ⟨hsame, _⟩ | ⟨hins, hlots⟩⟩ := createCashLotTx_eq_ok hcash
  · exact .of_same hsame
  · have hall : db'.cash.allocations = db.cash.allocations := by rw [hlots]
    refine ⟨.inr ⟨lot, hins, fun orderId hid => ?_⟩, .inl (by rw [hlots]), restoresNothing,
      .of_same hall, fun _ hnone => hnone.elim⟩
    obtain ⟨order, hmem, hor, ham⟩ := ho orderId (hop.rechargeOrderId ▸ hid)
    exact ⟨order, hmem, hor, Money.ext (ham.trans hop.original.symm)⟩

theorem CashMoved.of_closed {txId? : Option Uuid} {succeeded : Bool} (hcl : db.cash.RefundClosed refundOrderId db'.cash)
    (hcash : settleRefundCashTx s txs refundOrderId walletId txId? succeeded db.cash =
      .ok db'.cash) : CashMoved db db' := by
  obtain ⟨hold, hold', hmem, _, hkey, hlot, _, _, hrp⟩ := hcl.holds
  have href : hold'.refundOrderId = hold.refundOrderId := congrArg RefundCashKey.refundOrderId hkey
  have hpl : hold'.place = hold.place := by
    rw [RefundCashAllocation.place, href, hlot]
    rfl
  have htx (id : Uuid) (hid : txId? = some id) : id = txId?.getD 0 := by rw [hid, getD_some]
  obtain ⟨_, _, _, hat⟩ := settleRefundCashTx_attributes htx hcash
  refine ⟨.inl hcl.lots, .inl ?_, restoresNothing, hat.extends, fun _ hnone => hnone.elim⟩
  rw [hrp]
  exact view_replace hmem hkey hpl

theorem CashMoved.createRefund (h : CashLinked db)
    (hcr : CreatesRefund s order refund db db') : CashMoved db db' := by
  obtain ⟨_, hview, _, hall, hold, lot, hins, hr, _, _, hld, _, ho, hmv⟩ :=
    reserveRefundCashTx_sound h.sound hcr.cash
  refine ⟨.inl hview, .inr ⟨hold, hins, ?_⟩, restoresNothing, .of_same hall, fun _ hnone => hnone.elim⟩
  obtain ⟨lot', hlot', hsame⟩ := mem_of_view hview.symm (found hmv.found).1
  have hkey := CashLot.key_of_origin hsame
  have hid : lot'.id = lot.id := congrArg CashLotKey.id hkey
  have hlo : lot'.rechargeOrderId = lot.rechargeOrderId := congrArg CashLotKey.rechargeOrderId hkey
  refine ⟨lot', hlot', hid.trans hld.symm, refund,
    (mem_insert hcr.refundOrders).mpr (.inl rfl), hr.symm, ?_⟩
  rw [hlo, ho, hcr.rechargeOrderId]

theorem Committed.cashMoved (h : CashLinked db) (hc : Committed s db call db')
    (hcall : call.reconciles = false) : CashMoved db db' := by
  cases hc with
  | quiet hq => exact .of_same hq.cash
  | reserve _ _ _ _ hre =>
    obtain ⟨_, hrs⟩ := reserveCashLotsTx_sound h.sound hre.cash
    exact .of_restoresNothing hrs.lots hrs.refundHolds (.of_same hrs.allocations)
  | settle hop hopen _ hset =>
    obtain ⟨hmem, _⟩ := found hop
    obtain ⟨_, _, hcash, _⟩ := hset.wallets
    obtain ⟨_, htx, hcash, _⟩ := settleCash_eq_ok hcash
    obtain ⟨_, hcl⟩ := settleCashLotsTx_sound h.sound (h.openHolds hmem hopen) hcash
    have ham := hset.amount_nonneg
    exact .of_restoresNothing hcl.lots hcl.refundHolds (settleCashLotsTx_attributes htx ham hcash).extends
  | adjust _ _ _ _ hadj =>
    rcases hadj.moved with ⟨_, _, _, _, hcash⟩ | ⟨_, _, hcash⟩
    · exact .of_same hcash
    · obtain ⟨_, hfr⟩ := moveLateCash_sound h.sound hcash
      obtain ⟨restores, hext, hch⟩ := moveLateCash_extends hcash
      refine ⟨.inl hfr.lots, .inl (by rw [hfr.refundHolds]), restores, hext, fun id hid => ?_⟩
      obtain ⟨source, hsr, hso, hop⟩ := hch id hid
      exact ⟨source, hsr, hso, hop ▸ some_ne_none _⟩
  | reverse _ _ _ hrv =>
    obtain ⟨source, hchar, hcash⟩ := hrv.cash
    obtain ⟨hsr, hop⟩ := chargeTransaction?_operation hchar
    obtain ⟨_, hfr⟩ := restoreCashAllocationTx_sound h.sound hcash
    exact ⟨.inl hfr.lots, .inl (by rw [hfr.refundHolds]), _, restoreCashAllocationTx_extends hcash,
      fun id hid => ⟨source, hsr, hid.symm, hop ▸ some_ne_none _⟩⟩
  | manual hmn =>
    obtain ⟨_, hcash⟩ := hmn.cash
    unfold moveTransactionCash at hcash
    split at hcash
    · exact .of_lot hcash fun orderId hnone => (nomatch hnone)
    · split at hcash
      · obtain ⟨_, hfr⟩ := allocateCashDebitTx_sound h.sound hcash
        exact .of_restoresNothing hfr.lots hfr.refundHolds
          (allocateCashDebitTx_attributes (abs_nonneg _) hcash).extends
      · exact .of_same (Except.ok.inj hcash).symm
  | credit ho _ hcrs =>
    refine .of_lot hcrs.cash fun orderId hid => ?_
    exact ⟨_, (found ho).1, some.inj hid, rfl⟩
  | createRefund _ _ hcr => exact .createRefund h hcr
  | failRefund hr hopen hcall | completeRefund hr hopen hcall =>
    have hhs := h.openRefundHold (found hr).1 hopen hcall.found
    exact .of_closed (settleRefundCashTx_sound h.sound hhs hcall.cash).2 hcall.cash
  | chargeback _ _ hch =>
    obtain ⟨_, hfr⟩ := allocateChargebackTx_sound h.sound hch.cash
    exact .of_restoresNothing hfr.lots hfr.refundHolds
      (allocateChargebackTx_attributes (Money.nonneg _) hch.cash).extends
  | reconcile _ _ _ => cases hcall

theorem CashMoved.lots_kept (h : CashMoved db db') : Table.Kept (fun lot lot' =>
    lot'.id = lot.id ∧ lot'.rechargeOrderId = lot.rechargeOrderId) db.cash.lots db'.cash.lots := by
  rcases h.lots with hview | ⟨lot, hins, _⟩
  · refine .of_view (fun lot lot' hsame => ?_) hview
    have hkey := CashLot.key_of_origin hsame
    exact ⟨congrArg CashLotKey.id hkey, congrArg CashLotKey.rechargeOrderId hkey⟩
  · exact .of_insert (fun _ => ⟨rfl, rfl⟩) hins

/-- The order was charged back. -/
def ChargedBack (db : Db) (orderId : Uuid) : Prop :=
  ∃ order ∈ db.payments.rechargeOrders.rows, order.id = orderId ∧ order.status = .chargeback

/-- Lots and holds stand for their orders, and every succeeded refund is debited there unless its
order was charged back. -/
structure RefundBooks (db : Db) : Prop where
  linked : CashLinked db
  lots : ∀ lot ∈ db.cash.lots.rows, LotOfOrder db lot
  holds : ∀ hold ∈ db.cash.refundHolds.rows, HoldOfOrder db hold
  debited : ∀ refund ∈ db.payments.refundOrders.rows, refund.status = .succeeded →
    RefundDebited db refund ∨ ChargedBack db refund.rechargeOrderId

theorem RefundDebited.kept (h : RefundDebited db refund)
    (hc : Committed s db call db') (hmv : CashMoved db db') (hid : refund'.id = refund.id)
    (ho : refund'.rechargeOrderId = refund.rechargeOrderId) (ham : refund'.amount = refund.amount) :
    RefundDebited db' refund' := by
  obtain ⟨lot, hlot, hlo, row, hrow, hbk, hdr, hrt, hrs, transaction,
    htx, htr, hr, hfn⟩ := h
  obtain ⟨lot', hlot', hld, hlo'⟩ := hmv.lots_kept lot hlot
  obtain ⟨_, hext, hch⟩ := hmv.debits
  have hkept := hc.transactions_kept transaction htx
  refine ⟨lot', hlot', ?_, row, hext.rows row hrow, ?_, hdr, hrt.trans ham.symm, ?_,
    transaction, hkept, htr, hid ▸ hr, hfn⟩
  · rw [hlo', hlo, ho]
  · rw [hbk, hld]
  · rw [hext.restored row hrow fun hre => ?_, hrs]
    -- A restored transaction belongs to a request, this one to a refund.
    obtain ⟨source, hsrc, hsr, hop⟩ := hch _ hre
    have hsame : source = transaction := eq_of_rowId hsrc hkept (hsr.trans htr.symm)
    exact hop (hsame ▸ hfn)

theorem ChargedBack.kept {call : PaymentCall} {orderId : Uuid} (h : ChargedBack db orderId)
    (hexec : execPayment (s, call) db = .ok db') : ChargedBack db' orderId := by
  obtain ⟨order, ho, rfl, hst⟩ := h
  obtain ⟨order', ho', hlat'⟩ := execPayment_rechargeOrders_kept hexec order ho
  obtain ⟨walked, hwl, hlat, hstep⟩ := execPayment_walked hexec ho'
  have hsame : walked = order := eq_of_rowId hwl ho (hlat.id.symm.trans hlat'.id)
  subst hsame
  exact ⟨order', ho', hlat.id, hstep.stays_chargedBack hst⟩

/-- A refund was there before, and has succeeded since only if it was completed; or it was just created; or it
stands for a chargeback. -/
theorem Committed.refund_cases (h : Committed s db call db') (hmem : refund' ∈ db'.payments.refundOrders.rows) :
    (∃ refund ∈ db.payments.refundOrders.rows, refund.Later refund' ∧
        refund'.refundApplicationId = refund.refundApplicationId ∧ (refund'.status = .succeeded →
          refund.status = .succeeded ∨ ∃ order, CompletesRefund s order refund db db')) ∨
      (∃ order ∈ db.payments.rechargeOrders.rows, CreatesRefund s order refund' db db') ∨
      ∃ order ∈ db.payments.rechargeOrders.rows, refund'.rechargeOrderId = order.id ∧
        refund'.amount = order.amount ∧ refund'.status = .succeeded ∧ ChargesBack s order db db' := by
  have hkept (hold : refund' ∈ db.payments.refundOrders.rows) : ∃ refund ∈ db.payments.refundOrders.rows,
      refund.Later refund' ∧ refund'.refundApplicationId = refund.refundApplicationId ∧
        (refund'.status = .succeeded → refund.status = .succeeded ∨
          ∃ order, CompletesRefund s order refund db db') :=
    ⟨refund', hold, RefundOrder.Later.refl refund', rfl, .inl⟩
  cases h with
  | quiet hq =>
    obtain ⟨refund, hr, htm⟩ := mem_of_view hq.refundOrders hmem
    have hap : refund.terms.refundApplicationId = refund'.terms.refundApplicationId := by rw [htm]
    refine .inl ⟨refund, hr, RefundOrder.Later.of_terms refund refund' htm.symm, hap.symm,
      fun hsuc => .inl ?_⟩
    have htk : refund.terms.taken = refund'.terms.taken := by rw [htm]
    rw [refund.taken_terms, refund'.taken_terms] at htk
    unfold RefundOrder.taken at htk
    rw [if_pos hsuc] at htk
    by_contra hne
    rw [if_neg hne] at htk
    exact absurd htk refund'.positive.ne
  | reserve _ _ _ _ hcall | settle _ _ _ hcall | adjust _ _ _ _ hcall | reverse _ _ _ hcall | manual hcall
  | reconcile _ _ hcall => exact .inl (hkept (hcall.payments ▸ hmem))
  | credit _ _ hcrs =>
    rw [hcrs.payments] at hmem
    exact .inl (hkept hmem)
  | createRefund hf _ hcr =>
    rcases (mem_insert hcr.refundOrders).mp hmem with rfl | hold
    · exact .inr (.inl ⟨_, (found hf).1, hcr⟩)
    · exact .inl (hkept hold)
  | @failRefund _ _ _ refund _ hr _ hfl =>
    obtain ⟨hold, _⟩ := found hr
    obtain ⟨code, hrp⟩ := hfl.refundOrders
    rw [hrp, mem_replace hold (refund.fail_key code)] at hmem
    rcases hmem with rfl | ⟨hne, _⟩
    · exact .inl ⟨refund, hold, ⟨rfl, rfl, rfl, fun hno => (nomatch hno)⟩, rfl, fun hno => (nomatch hno)⟩
    · exact .inl (hkept hne)
  | @completeRefund _ _ order refund _ hr _ hcm =>
    obtain ⟨hold, _⟩ := found hr
    obtain ⟨refundNo, hrp⟩ := hcm.refundOrders
    rw [hrp, mem_replace hold (refund.succeed_key s refundNo)] at hmem
    rcases hmem with rfl | ⟨hne, _⟩
    · exact .inl ⟨refund, hold, ⟨rfl, rfl, rfl, fun hno => (nomatch hno)⟩, rfl, fun _ => .inr ⟨order, hcm⟩⟩
    · exact .inl (hkept hne)
  | @chargeback _ _ _ order _ ho _ hch =>
    obtain ⟨_, _, hst, hid, ham, hins⟩ := hch.refundOrders
    rcases (mem_insert hins).mp hmem with rfl | hold
    · exact .inr (.inr ⟨order, ho, hid, ham, hst, hch⟩)
    · exact .inl (hkept hold)

theorem RefundBooks.completed (h : RefundBooks db)
    (hcm : CompletesRefund s order refund db db') (hmv : CashMoved db db')
    (hr : refund ∈ db.payments.refundOrders.rows) : RefundDebited db' refund := by
  have hcash := hcm.cash
  simp only [settleRefundCashTx, eq_ok, if_true, some.injEq] at hcash
  obtain ⟨hold, hf, _, rfl, spent, hins, _, _, hwr⟩ := hcash
  obtain ⟨row, hrec, hall, _⟩ := insertAllocation_eq_ok hins
  have hnew (old : CashAllocation) (hold : old ∈ db.cash.allocations.rows) : old.id ≠ row.id :=
    rowId_ne_of_insert hall.inserted hold
  have hrs : spent.restoredOf row.id = 0 := by
    rw [restoredOf_insert hall.inserted, h.linked.sound.restoredOf_eq_zero hnew, hrec.direction,
      if_neg (by simp), add_zero]
  obtain ⟨hhold, hown⟩ := queried hf
  obtain ⟨lot, hlot, hld, owner, howr, howd, hlo⟩ := h.holds hold hhold
  have hsame : owner = refund := eq_of_rowId howr hr (howd.trans hown)
  obtain ⟨lot', hlot', hid', ho'⟩ := hmv.lots_kept lot hlot
  obtain ⟨transaction, htx, hid, href, hfn⟩ := hcm.transaction
  refine ⟨lot', hlot', ?_, row, ?_, ?_, hrec.direction, ?_, hwr ▸ hrs, transaction, htx,
    hid.trans hrec.transactionId.symm, href, hfn⟩
  · rw [ho', hlo, hsame]
  · rw [← hwr]
    exact (mem_insert hall.inserted).mpr (.inl rfl)
  · rw [hrec.bucket, hid', hld]
  · rw [← h.linked.refundAmount hr hhold hown]
    exact Money.ext hrec.amount

theorem Genesis.refundBooks (h : Genesis db) : RefundBooks db := by
  refine ⟨h.cashLinked, ?_, ?_, ?_⟩
  · simp [h.lots]
  · simp [h.refundHolds]
  · simp [h.refundOrders]

section

variable (h : RefundBooks db) (hc : Committed s db call db')
include h hc

theorem RefundBooks.lots_committed
    (hmv : CashMoved db db') (lot : CashLot) (hlot : lot ∈ db'.cash.lots.rows) : LotOfOrder db' lot := by
  have hkept {old : CashLot} (hold : LotOfOrder db old) (hid : lot.rechargeOrderId = old.rechargeOrderId)
      (ham : lot.originalAmount = old.originalAmount) : LotOfOrder db' lot := by
    intro orderId ho
    obtain ⟨order, hmem, hid', ham'⟩ := hold orderId (hid ▸ ho)
    obtain ⟨order', hmem', hlat⟩ := hc.rechargeOrders_kept order hmem
    exact ⟨order', hmem', hlat.id.trans hid', hlat.amount.trans (ham'.trans ham.symm)⟩
  rcases hmv.lots with hview | ⟨_, hins, hnew⟩
  · obtain ⟨old, hold, hsame⟩ := mem_of_view hview hlot
    have hkey := CashLot.key_of_origin hsame
    exact hkept (h.lots old hold) (congrArg CashLotKey.rechargeOrderId hkey).symm
      (CashLot.columns_of_origin hsame).2.2.symm
  · rcases (mem_insert hins).mp hlot with rfl | hold
    · exact hkept hnew rfl rfl
    · exact hkept (h.lots lot hold) rfl rfl

theorem RefundBooks.holds_committed
    (hmv : CashMoved db db') (hold : RefundCashAllocation) (hhold : hold ∈ db'.cash.refundHolds.rows) :
    HoldOfOrder db' hold := by
  have hkept {old : RefundCashAllocation} (hold' : HoldOfOrder db old) (hpl : old.place = hold.place) :
      HoldOfOrder db' hold := by
    obtain ⟨lot, hlot, hld, refund, hr, href, ho⟩ := hold'
    obtain ⟨lot', hlot', hid', ho'⟩ := hmv.lots_kept lot hlot
    obtain ⟨refund', hr', hlat⟩ := hc.refundOrders_kept refund hr
    obtain ⟨hplac, hplt⟩ := Prod.mk.inj hpl
    refine ⟨lot', hlot', hid'.trans (hld.trans hplt), refund', hr',
      hlat.id.trans (href.trans hplac), ?_⟩
    rw [ho', ho, hlat.rechargeOrderId]
  rcases hmv.holds with hview | ⟨_, hins, hnew⟩
  · obtain ⟨old, hold', hpl⟩ := mem_of_view hview hhold
    exact hkept (h.holds old hold') hpl
  · rcases (mem_insert hins).mp hhold with rfl | hold'
    · exact hnew
    · exact hkept (h.holds hold hold') rfl

theorem RefundBooks.committed
    (hcall : call.reconciles = false) (hch : ∀ id, ChargedBack db id → ChargedBack db' id) :
    RefundBooks db' := by
  have hmv := hc.cashMoved h.linked hcall
  refine ⟨h.linked.committed hc, h.lots_committed hc hmv,
    h.holds_committed hc hmv, fun refund' hr' hsuc => ?_⟩
  rcases hc.refund_cases hr' with ⟨refund, hr, hlat, _, hbef⟩ | ⟨order, _, hcr⟩ |
    ⟨order, ho, hid, _, _, hchar⟩
  · rcases hbef hsuc with hst | ⟨order, hcm⟩
    · rcases h.debited refund hr hst with hdb | hback
      · exact .inl (hdb.kept hc hmv hlat.id hlat.rechargeOrderId hlat.amount)
      · exact .inr (hlat.rechargeOrderId ▸ hch _ hback)
    · have hdb := h.completed hcm hmv hr
      obtain ⟨lot, hlot, hlo, row, hrow, hbk, hdr, ham, hrs, transaction,
        htx, hid, href, hfn⟩ := hdb
      refine .inl ⟨lot, hlot, ?_, row, hrow, hbk, hdr, ?_, hrs, transaction, htx,
        hid, ?_, hfn⟩
      · rw [hlo, hlat.rechargeOrderId]
      · rw [ham, hlat.amount]
      · rw [href, hlat.id]
  · rw [hcr.status] at hsuc
    cases hsuc
  · refine .inr ⟨order.setStatus .chargeback, ?_, hid.symm, rfl⟩
    rw [hchar.rechargeOrders]
    exact (mem_replace ho (order.setStatus_key .chargeback)).mpr (.inl rfl)

end

end ModelDock.Store
