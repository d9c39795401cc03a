import ModelDock.Cash.Attribution

/-!
# Refund holds and spending

A pending refund takes its amount off its lot, but not off the available balance, which is all that admission
looks at. The balance stays nonnegative where every reservation leaves the money of pending refunds alone.
-/

namespace ModelDock.Store

open Relational Table Cash

variable {txId? : Option Uuid} {consumed : ℤ} {order : RechargeOrder} {op : FundingOperation}
  {refund : RefundOrder} {released : ℤ} {rechargeOrderId? : Option Uuid} {sourceKind : LotSource}
  {sourceReference : SourceReference} {currency : Currency} {refundable : Bool}

/-- What pending refunds hold of the lots of a wallet. -/
def Cash.refundsHeld (cash : Cash) (walletId : Uuid) : ℤ :=
  cash.lots.sum fun lot =>
    if lot.walletId = walletId then heldOn (fun hold => hold.cashLotId = lot.id) cash.refundHolds
    else 0

variable {s : Session} {txs : Table WalletTransaction} {cash cash' : Cash}
  {lots lots' : Table CashLot} {lot item : CashLot}
  {walletId transactionId opId other : Uuid} {units delta amount : ℤ}

theorem Cash.refundsHeld_nonneg (cash : Cash) (walletId : Uuid) : 0 ≤ cash.refundsHeld walletId := by
  exact sum_nonneg fun lot _ => ite_nonneg (heldOn_nonneg _ _) le_rfl

theorem remainingOn_nonneg (p : CashLot → Bool) (lots : Table CashLot) : 0 ≤ remainingOn p lots := by
  exact sum_nonneg fun lot _ => ite_nonneg lot.remainingAmount.nonneg le_rfl

theorem Cash.refundsHeld_view (hview : SameLots cash cash') :
    cash'.refundsHeld walletId = cash.lots.sum fun x => if x.walletId = walletId then
      heldOn (fun hold => hold.cashLotId = x.id) cash'.refundHolds else 0 :=
  sum_of_view hview fun x => if x.walletId = walletId then
    heldOn (fun hold : RefundCashAllocation => hold.cashLotId = x.id) cash'.refundHolds else 0

theorem Cash.refundsHeld_of_view (hview : SameLots cash cash')
    (hhs : cash'.refundHolds = cash.refundHolds) (walletId : Uuid) :
    cash'.refundsHeld walletId = cash.refundsHeld walletId := by
  rw [refundsHeld_view hview, hhs]
  rfl

theorem LotMoved.remainingOf {lotId : Uuid} (h : LotMoved lots lotId delta lot lots') (walletId : Uuid) :
    remainingOn (fun x => x.walletId = walletId) lots' =
      remainingOn (fun x => x.walletId = walletId) lots +
        if walletId = lot.walletId then delta else 0 := by
  have hor : lot.origin.walletId = lot.walletId := rfl
  rw [h.remainingOn_eq, hor]
  simp only [decide_eq_true_eq, eq_comm (a := walletId)]

theorem sum_at_lot (hlot : lot ∈ lots.rows) (walletId : Uuid) (amount : ℤ) :
    (lots.sum fun x => if x.walletId = walletId then (if lot.id = x.id then amount else 0) else 0) =
      if walletId = lot.walletId then amount else 0 := by
  rw [sum_eq_single hlot]
  · simp only [if_true, eq_comm]
  · intro x hx hne
    have hid : lot.id ≠ x.id := fun heq => hne (eq_of_rowId hx hlot heq.symm)
    simp [hid]

theorem sum_openLots (cash : Cash) (walletId : Uuid) :
    ((cash.openLots walletId).map fun lot => lot.remainingAmount.units).sum =
      remainingOn (fun lot => lot.walletId = walletId) cash.lots := by
  rw [openLots, sum_of_query (oldestFirst_perm _ _)]
  refine sum_congr fun lot _ => ?_
  have hor : lot.origin.walletId = lot.walletId := rfl
  have hnn := lot.remainingAmount.nonneg
  simp only [decide_eq_true_eq, hor]
  split
  · next hboth => rw [if_pos hboth.1]
  · next hnot =>
    split
    · next hown =>
      have hpos : ¬0 < lot.remainingAmount.units := fun hpos => hnot ⟨hown, hpos⟩
      omega
    · rfl

theorem reserveCashLotsTx_takes (ham : 0 ≤ amount)
    (hstep : reserveCashLotsTx s opId walletId amount cash = .ok cash') (other : Uuid) :
    remainingOn (fun lot => lot.walletId = other) cash'.lots =
      remainingOn (fun lot => lot.walletId = other) cash.lots -
        if other = walletId then min amount (remainingOn (fun lot => lot.walletId = walletId) cash.lots)
        else 0 := by
  simp only [reserveCashLotsTx, eq_ok] at hstep
  obtain ⟨_, hloop, rfl⟩ := hstep
  obtain ⟨hrun, _⟩ := takeEach_eq_ok.mp hloop
  have hmov := foldlM_moves
    (P := fun st : Cash => SameLots cash st)
    (q := fun st => remainingOn (fun lot => lot.walletId = other) st.lots)
    (d := fun part => if other = walletId then -part.2 else 0)
    (fun part hpart st st' hview hstep => by
      have hitem : part.1 ∈ cash.openLots walletId := takes_sublist.subset (List.mem_map_of_mem hpart)
      obtain ⟨hmem, hw, _⟩ := mem_openLots hitem
      obtain ⟨lot, hf, hown⟩ := find?_of_origin hview hmem
      obtain ⟨hmv, _⟩ := reserveLot_eq_ok hf hstep
      refine ⟨hmv.view.trans hview, ?_⟩
      rw [hmv.remainingOf, hown, hw]) rfl hrun
  have hcv : allocated (takes (fun lot : CashLot => lot.remainingAmount.units)
      (cash.openLots walletId) amount) =
      min amount (remainingOn (fun lot => lot.walletId = walletId) cash.lots) := by
    rw [← sum_openLots]
    exact allocated_takes (fun lot _ => lot.remainingAmount.nonneg) ham
  rw [← hcv, hmov, sum_ite_neg_allocated, sub_eq_add_neg]
  split <;> simp

theorem reserveCashLotsTx_holds (ham : 0 ≤ amount)
    (hstep : reserveCashLotsTx s opId walletId amount cash = .ok cash') (other : Uuid) :
    heldOn (fun hold => hold.operationId = other) cash'.fundingHolds ≤
      heldOn (fun hold => hold.operationId = other) cash.fundingHolds +
        if other = opId then amount else 0 := by
  simp only [reserveCashLotsTx, eq_ok] at hstep
  obtain ⟨_, hloop, rfl⟩ := hstep
  obtain ⟨hrun, _⟩ := takeEach_eq_ok.mp hloop
  have hmov := foldlM_moves
    (P := fun st : Cash => SameLots cash st)
    (q := fun st => heldOn (fun hold => hold.operationId = other) st.fundingHolds)
    (d := fun part => if other = opId then part.2 else 0)
    (fun part hpart st st' hview hstep => by
      have hitem : part.1 ∈ cash.openLots walletId := takes_sublist.subset (List.mem_map_of_mem hpart)
      obtain ⟨lot, hf, _⟩ := find?_of_origin hview (mem_openLots hitem).1
      obtain ⟨hmv, ⟨hold, hop, _, hrs, hopen, hins⟩, _⟩ := reserveLot_eq_ok hf hstep
      refine ⟨hmv.view.trans hview, ?_⟩
      rw [heldOn_insert _ hopen hins, hop]
      simp only [CashHold.reservedAmount, hrs, decide_eq_true_eq, eq_comm (a := other)]) rfl hrun
  have hcv : allocated (takes (fun lot : CashLot => lot.remainingAmount.units)
      (cash.openLots walletId) amount) ≤ amount := by
    rw [allocated_takes (fun lot _ => lot.remainingAmount.nonneg) ham]
    exact min_le_left _ _
  rw [hmov, sum_ite_allocated]
  split <;> omega

theorem allocateCashDebitTx_remaining_le
    (hstep : allocateCashDebitTx s txs walletId transactionId amount cash = .ok cash')
    (other : Uuid) : cash'.fundingHolds = cash.fundingHolds ∧
      remainingOn (fun lot => lot.walletId = other) cash'.lots ≤
        remainingOn (fun lot => lot.walletId = other) cash.lots := by
  simp only [allocateCashDebitTx, bind_eq_ok] at hstep
  obtain ⟨_, hloop, hrest⟩ := hstep
  obtain ⟨hrun, _⟩ := takeEach_eq_ok.mp hloop
  have hlots := foldlM_invariant
    (P := fun st : Cash => SameLots cash st ∧
      st.fundingHolds = cash.fundingHolds ∧ remainingOn (fun lot => lot.walletId = other) st.lots ≤
        remainingOn (fun lot => lot.walletId = other) cash.lots)
    (fun part hpart st st' hst hstep => by
      obtain ⟨hitem, hpos, _⟩ := takes_bounds (fun lot hlot => (mem_openLots hlot).2.2) hpart
      obtain ⟨lot, hf, _⟩ := find?_of_origin hst.1 (mem_openLots hitem).1
      obtain ⟨_, _, hmv, hall, _⟩ := debitLotFor_eq_ok hf hstep
      refine ⟨hmv.view.trans hst.1, hall.fundingHolds.trans hst.2.1, le_trans ?_ hst.2.2⟩
      rw [hmv.remainingOf]
      split <;> omega) ⟨rfl, rfl, le_refl _⟩ hrun
  split at hrest
  · obtain ⟨_, _, hall, _⟩ := insertAllocation_eq_ok hrest
    rw [hall.fundingHolds, hall.lots]
    exact hlots.2
  · cases hrest
    exact hlots.2

variable {hold : FundingCashAllocation}

theorem consumeHold_frame (hstep : consumeHold s txs walletId txId? hold consumed cash = .ok cash') :
    cash'.lots = cash.lots ∧ cash'.fundingHolds = cash.fundingHolds := by
  unfold consumeHold at hstep
  split at hstep
  · simp only [eq_ok] at hstep
    obtain ⟨_, _, hins⟩ := hstep
    obtain ⟨_, _, hall, _⟩ := insertAllocation_eq_ok hins
    exact ⟨hall.lots, hall.fundingHolds⟩
  · cases hstep
    exact ⟨rfl, rfl⟩

theorem releaseHold_remaining (hrl : 0 ≤ released)
    (hstep : releaseHold walletId hold released cash = .ok cash') (other : Uuid) :
    cash'.fundingHolds = cash.fundingHolds ∧
      remainingOn (fun lot => lot.walletId = other) cash'.lots =
        remainingOn (fun lot => lot.walletId = other) cash.lots +
          if other = walletId then released else 0 := by
  unfold releaseHold at hstep
  split at hstep
  · simp only [eq_ok] at hstep
    obtain ⟨_, href, _, hmt, rfl⟩ := hstep
    rcases refillLot_eq_ok href with ⟨hfl, _⟩ | ⟨_, lot, hown, hmv⟩
    · rw [hfl] at hmt
      cases hmt
    · exact ⟨rfl, by rw [hmv.remainingOf, hown]⟩
  · next hpos =>
    cases hstep
    have hzero : released = 0 := le_antisymm (not_lt.mp hpos) hrl
    simp [hzero]

theorem settleHold_remaining (hrl : 0 ≤ released)
    (hstep : settleHold s txs walletId txId? cash hold consumed released = .ok cash') (other : Uuid) :
    remainingOn (fun lot => lot.walletId = other) cash'.lots =
      remainingOn (fun lot => lot.walletId = other) cash.lots +
        (if other = walletId then released else 0) ∧
      ∀ p, heldOn p cash'.fundingHolds ≤ heldOn p cash.fundingHolds := by
  simp only [settleHold, eq_ok] at hstep
  obtain ⟨_, hre, _, hcn, _, hup, rfl⟩ := hstep
  obtain ⟨href, hrem⟩ := releaseHold_remaining hrl hre other
  obtain ⟨hlots, hhs⟩ := consumeHold_frame hcn
  refine ⟨(congrArg _ hlots).trans hrem, fun p => ?_⟩
  rw [hhs, href] at hup
  rcases update_eq_ok.mp hup with ⟨_, rfl⟩ | ⟨row, _, hrow, hset, rfl⟩
  · exact le_refl _
  · obtain ⟨hkey, _, hcl⟩ := FundingCashAllocation.settle_eq_ok hset
    have hnn := row.reservedAmount.nonneg
    rw [heldOn, sum_replace (found hrow).1 hkey, heldOn]
    simp only [CashHold.settledAt, CashHold.reservedAmount, hcl, reduceCtorEq, false_and, if_false]
    split <;> omega

theorem settleCashLotsTx_remaining (ham : 0 ≤ amount)
    (hstep : settleCashLotsTx s txs opId walletId txId? amount cash = .ok cash') (other : Uuid) :
    remainingOn (fun lot => lot.walletId = other) cash'.lots ≤
      remainingOn (fun lot => lot.walletId = other) cash.lots +
        (if other = walletId then
          max (((cash.holdsOf opId).map fun hold => hold.reservedAmount.units).sum - amount) 0
        else 0) ∧
      ∀ p, heldOn p cash'.fundingHolds ≤ heldOn p cash.fundingHolds := by
  simp only [settleCashLotsTx, bind_eq_ok] at hstep
  obtain ⟨result, hloop, hrest⟩ := hstep
  obtain ⟨hrun, _⟩ := settleEach_eq_ok.mp hloop
  let parts := consumptions (fun hold : FundingCashAllocation => hold.reservedAmount.units)
    (cash.holdsOf opId) amount
  have hbn (part : FundingCashAllocation × ℤ) (hpart : part ∈ parts) :=
    sub_nonneg.mpr (consumptions_bounds (fun hold _ => hold.reservedAmount.nonneg) hpart).2.2
  have hlots := foldlM_moves (P := fun _ => True)
    (q := fun st : Cash => remainingOn (fun lot => lot.walletId = other) st.lots)
    (d := fun part => if other = walletId then part.1.reservedAmount.units - part.2 else 0)
    (fun part hpart st st' _ hstep =>
      ⟨trivial, (settleHold_remaining (hbn part hpart) hstep other).1⟩) trivial hrun
  have hhs := foldlM_invariant
    (P := fun st : Cash => ∀ p, heldOn p st.fundingHolds ≤ heldOn p cash.fundingHolds)
    (fun part hpart st st' hst hstep p =>
      ((settleHold_remaining (hbn part hpart) hstep other).2 p).trans (hst p))
    (fun p => le_refl _) hrun
  have hrl : remainingOn (fun lot => lot.walletId = other) result.2.lots ≤
      remainingOn (fun lot => lot.walletId = other) cash.lots +
        if other = walletId then
          max (((cash.holdsOf opId).map fun hold => hold.reservedAmount.units).sum - amount) 0
        else 0 := by
    rw [hlots]
    split
    · have htt : (parts.map fun part => part.1.reservedAmount.units - part.2).sum =
          ((cash.holdsOf opId).map fun hold => hold.reservedAmount.units).sum - allocated parts :=
        released_consumptions (fun hold => hold.reservedAmount.units) (cash.holdsOf opId) amount
      rw [htt, allocated_consumptions (fun hold _ => hold.reservedAmount.nonneg) ham]
      omega
    · simp
  split at hrest
  · simp only [eq_ok] at hrest
    obtain ⟨txId, _, hover⟩ := hrest
    obtain ⟨hsame, hle⟩ := allocateCashDebitTx_remaining_le hover other
    exact ⟨hle.trans hrl, hsame ▸ hhs⟩
  · cases hrest
    exact ⟨hrl, hhs⟩

section

variable (hstep : createCashLotTx s walletId rechargeOrderId? transactionId sourceKind sourceReference amount
    currency refundable cash = .ok cash')
include hstep

theorem createCashLotTx_remaining (ham : 0 ≤ amount) (other : Uuid) :
    remainingOn (fun lot => lot.walletId = other) cash'.lots ≤
      remainingOn (fun lot => lot.walletId = other) cash.lots + if other = walletId then amount else 0 := by
  obtain ⟨lot, hop, ⟨rfl, _⟩ | ⟨hins, _⟩⟩ := createCashLotTx_eq_ok hstep
  · split <;> omega
  · have hown : lot.origin.walletId = walletId := hop.walletId
    have hrem : lot.remainingAmount.units = amount := by rw [hop.remaining, hop.original]
    rw [remainingOn, sum_insert hins, hown, hrem, remainingOn, add_comm]
    simp only [decide_eq_true_eq, eq_comm (a := other), le_refl]

theorem createCashLotTx_refundsHeld
    (hlots : ∀ hold ∈ cash.refundHolds.rows, ∃ lot ∈ cash.lots.rows, lot.id = hold.cashLotId) (other : Uuid) :
    cash'.refundsHeld other = cash.refundsHeld other ∧ cash'.fundingHolds = cash.fundingHolds := by
  obtain ⟨lot, _, ⟨rfl, _⟩ | ⟨hins, hcash⟩⟩ := createCashLotTx_eq_ok hstep
  · exact ⟨rfl, rfl⟩
  · have hhs : cash'.refundHolds = cash.refundHolds := by rw [hcash]
    have hnone : heldOn (fun hold => hold.cashLotId = lot.id) cash.refundHolds = 0 := by
      refine sum_eq_zero fun hold hhold => if_neg fun hcn => ?_
      obtain ⟨_, hold, hid⟩ := hlots hold hhold
      exact rowId_ne_of_insert hins hold (hid.trans (of_decide_eq_true hcn.2))
    refine ⟨?_, by rw [hcash]⟩
    rw [refundsHeld, sum_insert hins, hhs, hnone, ite_self, zero_add]
    rfl

end

theorem settleRefundCashTx_remaining {refundOrderId : Uuid} {succeeded : Bool}
    (hstep : settleRefundCashTx s txs refundOrderId walletId txId? succeeded cash = .ok cash') :
    ∃ hold ∈ cash.refundHolds.rows, hold.refundOrderId = refundOrderId ∧ ∀ other,
      remainingOn (fun lot => lot.walletId = other) cash'.lots =
        remainingOn (fun lot => lot.walletId = other) cash.lots +
          if other = walletId then (if succeeded then 0 else hold.reservedAmount.units) else 0 := by
  simp only [settleRefundCashTx, eq_ok] at hstep
  obtain ⟨hold, hf, hstep⟩ := hstep
  obtain ⟨hmem, hr⟩ := queried hf
  refine ⟨hold, hmem, hr, fun other => ?_⟩
  cases succeeded with
  | true =>
    simp only [if_true, eq_ok] at hstep
    obtain ⟨txId, _, _, hins, _, _, rfl⟩ := hstep
    obtain ⟨_, _, hall, _⟩ := insertAllocation_eq_ok hins
    rw [if_pos rfl, ite_self, add_zero]
    exact congrArg _ hall.lots
  | false =>
    simp only [Bool.false_eq_true, if_false, eq_ok] at hstep
    obtain ⟨_, href, _, hmt, _, _, rfl⟩ := hstep
    rcases refillLot_eq_ok href with ⟨hfl, _⟩ | ⟨_, lot, hown, hmv⟩
    · rw [hfl] at hmt
      cases hmt
    · rw [hmv.remainingOf, hown, if_neg Bool.false_ne_true]

/-- The cash left on the lots of a wallet and held for its refunds is within its available balance,
and no request in flight holds more cash than its maximum. -/
structure RefundsCovered (walletId : Uuid) (db : Db) : Prop where
  linked : CashLinked db
  covered : ∀ wallet ∈ db.wallets.rows, wallet.id = walletId →
    remainingOn (fun lot => lot.walletId = walletId) db.cash.lots + db.cash.refundsHeld walletId ≤
      wallet.availableBalance.units
  bounded : ∀ operation ∈ db.operations.rows, operation.status.isOpen →
    heldOn (fun hold => hold.operationId = operation.id) db.cash.fundingHolds ≤
      operation.maximumAmount.units

/-- A wallet that nothing is held of has the cash of its lots available. -/
structure LotsMatch (walletId : Uuid) (db : Db) : Prop where
  linked : CashLinked db
  fundingHolds : db.cash.fundingHolds.rows = []
  refundHolds : db.cash.refundHolds.rows = []
  available : ∀ wallet ∈ db.wallets.rows, wallet.id = walletId →
    wallet.availableBalance.units = remainingOn (fun lot => lot.walletId = walletId) db.cash.lots

/-- The call recharges, reserves, settles within the maximum, or moves a refund, and a reservation of
the wallet leaves what its refunds hold. -/
def LeavesRefunds (walletId : Uuid) (db : Db) : Session × Call → Prop
  | (_, .creditPaidRecharge _) => True
  | (_, .reserveFunding request) => ∀ wallet ∈ db.wallets.rows, wallet.id = walletId →
      request.organizationId = some wallet.organizationId → ∀ maximum ∈ request.maximumAmount,
      formatRat maximum ≤ wallet.availableBalance.units - db.cash.refundsHeld walletId
  | (s, .settleFunding request) => ∀ operation ∈ db.operations.find? request.operationId,
      ∀ priced ∈ (settlementCharge s request operation db).toOption,
      priced.1.amount ≤ operation.maximumAmount.units
  | (_, .createRefundOrder _) => True
  | (_, .completeRefund _ _) => True
  | (_, .failRefund _ _) => True
  | _ => False

variable {db db' : Db} {call : Call} {wallet : Wallet}

theorem CashLinked.fundingHeld_eq_zero (h : CashLinked db) (hfr : ∀ op ∈ db.operations.rows, op.id ≠ opId) :
    heldOn (fun hold => hold.operationId = opId) db.cash.fundingHolds = 0 := by
  refine sum_eq_zero fun hold hhold => if_neg fun hcn => ?_
  obtain ⟨_, _, _, op, hop, hid, _⟩ := h.funding hold hhold
  exact hfr op hop (hid.trans (of_decide_eq_true hcn.2))

theorem later_of_same (hop : db'.operations = db.operations) :
    ∀ op' ∈ db'.operations.rows, op'.status.isOpen →
      ∃ op ∈ db.operations.rows, op.Later op' := by
  rw [hop]
  exact fun op hmem _ => ⟨op, hmem, FundingOperation.Later.refl op⟩

theorem covered_of_moved {id : Uuid} {wallet' : Wallet} {available reserved : ℤ}
    (hw : db.wallets.find? id = some wallet) (hmv : wallet.Moved available reserved wallet')
    (hws : db'.wallets = db.wallets.replace wallet')
    (hcash : ∀ old ∈ db.wallets.rows, old.id = walletId →
      remainingOn (fun lot => lot.walletId = walletId) db'.cash.lots + db'.cash.refundsHeld walletId ≤
        old.availableBalance.units + if walletId = id then available else 0) :
    ∀ x ∈ db'.wallets.rows, x.id = walletId →
      remainingOn (fun lot => lot.walletId = walletId) db'.cash.lots + db'.cash.refundsHeld walletId ≤
        x.availableBalance.units := by
  intro x hx hid
  rw [hws] at hx
  obtain ⟨old, hold, hsame, hav, _⟩ := hmv.balances hw hx
  rw [hav, hid]
  exact hcash old hold (hsame.trans hid)

theorem CashLinked.sum_holdsOf (h : CashLinked db)
    (hop : op ∈ db.operations.rows) (hopen : op.status.isOpen) :
    ((db.cash.holdsOf op.id).map fun hold => hold.reservedAmount.units).sum =
      heldOn (fun hold => hold.operationId = op.id) db.cash.fundingHolds := by
  rw [holdsOf, sum_of_query (oldestFirst_perm _ _)]
  refine sum_congr fun hold hhold => ?_
  simp only [CashHold.reservedAmount, decide_eq_true_eq]
  by_cases hown : hold.operationId = op.id
  · rw [if_pos hown, if_pos ⟨(h.openHolds hop hopen hold hhold hown).1, hown⟩]
  · rw [if_neg hown, if_neg fun hboth => hown hboth.2]

section

variable (h : RefundsCovered walletId db)
include h

theorem RefundsCovered.bounded_kept (hop : ∀ op' ∈ db'.operations.rows, op'.status.isOpen →
      ∃ op ∈ db.operations.rows, op.Later op')
    (hhs : ∀ p, heldOn p db'.cash.fundingHolds ≤ heldOn p db.cash.fundingHolds) :
    ∀ op ∈ db'.operations.rows, op.status.isOpen →
      heldOn (fun hold => hold.operationId = op.id) db'.cash.fundingHolds ≤
        op.maximumAmount.units := by
  intro op' hmem hopen
  obtain ⟨op, hold, hlat⟩ := hop op' hmem hopen
  have hbd := h.bounded op hold (hlat.wasOpen hopen)
  rw [← hlat.id, ← hlat.maximumAmount] at hbd
  exact (hhs _).trans hbd

theorem RefundsCovered.refundsHeld_closed (hr : refund ∈ db.payments.refundOrders.rows)
    (hopen : refund.status.isOpen) (ho : db.payments.rechargeOrders.find? refund.rechargeOrderId = some order)
    (hcl : db.cash.RefundClosed refund.id db'.cash) :
    db'.cash.refundsHeld walletId + (if walletId = order.walletId then refund.amount.units else 0) =
      db.cash.refundsHeld walletId := by
  obtain ⟨hold, _, hmem, hown, hkey, _, _, ⟨_, hnow⟩, hrp⟩ := hcl.holds
  obtain ⟨hun, _, hlot, hid, hw⟩ := h.linked.openRefundHold hr hopen ho hold hmem hown
  have ham := h.linked.refundAmount hr hmem hown
  rw [← hw, ← ham, refundsHeld_view hcl.lots, ← sum_at_lot hlot, ← sum_add]
  refine sum_congr fun x _ => ?_
  rw [hrp, heldOn_close _ hun hmem hkey hnow, ← hid]
  simp only [CashHold.reservedAmount, decide_eq_true_eq]
  split <;> omega

variable (hc : Committed s db call db')
include hc

theorem RefundsCovered.credit (hcr : Credits s order db db') : RefundsCovered walletId db' := by
  obtain ⟨_, _, hw, hmv, hws⟩ := hcr.transfer.wallets
  have hrem := createCashLotTx_remaining hcr.cash order.amount.nonneg walletId
  obtain ⟨_, hfn⟩ := createCashLotTx_refundsHeld hcr.cash h.linked.refundLots walletId
  refine ⟨h.linked.committed hc, covered_of_moved hw hmv hws fun old hold hid => ?_,
    h.bounded_kept (later_of_same hcr.funding.operations) fun p => by rw [hfn]⟩
  have hcv := h.covered old hold hid
  omega

theorem RefundsCovered.reserve {maximum : ℚ} {promotion : ℤ} (hw : wallet ∈ db.wallets.rows)
    (hlv : wallet.id = walletId →
      formatRat maximum ≤ wallet.availableBalance.units - db.cash.refundsHeld walletId)
    (hrs : Reserves s wallet maximum promotion db op db') : RefundsCovered walletId db' := by
  obtain ⟨_, hrd⟩ := reserveCashLotsTx_sound h.linked.sound hrs.cash
  obtain ⟨_, hwr, hws⟩ := hrs.wallets
  have hmv := Wallet.moved_of_setBalances hwr (sub_eq_add_neg _ _) rfl
  have hu : 0 ≤ formatRat maximum := hrs.opened.maximumAmount ▸ op.maximumAmount.nonneg
  have hrem := reserveCashLotsTx_takes hu hrs.cash walletId
  have href := refundsHeld_of_view hrd.lots hrd.refundHolds walletId
  refine ⟨h.linked.committed hc,
    covered_of_moved (find?_of_mem hw) hmv hws fun old hold hid => ?_,
    fun x hx hopen => ?_⟩
  · have hcv := h.covered old hold hid
    have hrow : rowId wallet = wallet.id := rfl
    rw [hrem, hrow]
    by_cases hown : walletId = wallet.id
    · have hsame : old = wallet := eq_of_rowId hold hw (hid.trans hown)
      have hleft := hlv hown.symm
      subst hsame
      rw [if_pos hown, ← hown]
      omega
    · rw [if_neg hown, if_neg hown]
      omega
  · have hhs := reserveCashLotsTx_holds hu hrs.cash x.id
    rcases (mem_insert hrs.operations).mp hx with rfl | hx
    · have hnone := h.linked.fundingHeld_eq_zero fun old hold =>
        rowId_ne_of_insert hrs.operations hold
      have hid : rowId x = x.id := rfl
      rw [hid] at hnone
      rw [hrs.opened.maximumAmount]
      omega
    · have hne : x.id ≠ op.id := rowId_ne_of_insert hrs.operations hx
      have hbd := h.bounded x hx hopen
      rw [if_neg hne] at hhs
      omega

theorem RefundsCovered.settle {req : FundingSettlementRequest} {settled : FundingOperation}
    {charge : SettlementCharge} (hop : db.operations.find? req.operationId = some op)
    (hopen : op.status.isOpen) (hin : charge.amount ≤ op.maximumAmount.units)
    (hset : Settles s req op wallet charge consumed db settled db') :
    RefundsCovered walletId db' := by
  obtain ⟨hmem, _⟩ := found hop
  obtain ⟨_, hwr, hcash, hws⟩ := hset.wallets
  obtain ⟨_?, _, hcash, _⟩ := settleCash_eq_ok hcash
  obtain ⟨_, hcl⟩ := settleCashLotsTx_sound h.linked.sound (h.linked.openHolds hmem hopen) hcash
  have ham := hset.amount_nonneg
  have hmv := Wallet.moved_of_settle hwr
  obtain ⟨hrem, hhs⟩ := settleCashLotsTx_remaining ham hcash walletId
  have href := refundsHeld_of_view hcl.lots hcl.refundHolds walletId
  have hbd := h.bounded op hmem hopen
  rw [h.linked.sum_holdsOf hmem hopen] at hrem
  refine ⟨h.linked.committed hc,
    covered_of_moved hset.found hmv hws fun old hold hid => ?_,
    h.bounded_kept (fun x hx hxp => ?_) hhs⟩
  · have hcv := h.covered old hold hid
    by_cases hown : walletId = op.walletId
    · rw [if_pos hown] at hrem ⊢
      omega
    · rw [if_neg hown] at hrem ⊢
      omega
  · rw [hset.operations, mem_replace hmem hset.closed.key] at hx
    rcases hx with rfl | ⟨hx, _⟩
    · rw [hset.closed.status, settlementStatus_closed] at hxp
      cases hxp
    · exact ⟨x, hx, FundingOperation.Later.refl x⟩

theorem RefundsCovered.createRefund (hcr : CreatesRefund s order refund db db') : RefundsCovered walletId db' := by
  obtain ⟨_, hview, hfn, _, hold, lot, hins, _, hopen, hrs, hld, _, _, hmv⟩ :=
    reserveRefundCashTx_sound h.linked.sound hcr.cash
  have hlot := (found hmv.found).1
  have href : db'.cash.refundsHeld walletId = db.cash.refundsHeld walletId +
      if walletId = lot.walletId then hold.reservedAmount.units else 0 := by
    rw [refundsHeld_view hview, ← sum_at_lot hlot, refundsHeld, ← sum_add]
    refine sum_congr fun x _ => ?_
    rw [heldOn_insert _ hopen hins, hld]
    split <;> simp [CashHold.reservedAmount]
  refine ⟨h.linked.committed hc, fun x hx hid => ?_,
    h.bounded_kept (later_of_same hcr.funding.operations) fun p => by rw [hfn]⟩
  rw [hcr.wallets] at hx
  have hcv := h.covered x hx hid
  rw [hmv.remainingOf, href]
  split <;> omega

section

variable (hr : refund ∈ db.payments.refundOrders.rows) (hopen : refund.status.isOpen)
include hr hopen

theorem RefundsCovered.failRefund (hfl : FailsRefund s order refund db db') : RefundsCovered walletId db' := by
  obtain ⟨_, hcl⟩ := settleRefundCashTx_sound h.linked.sound
    (h.linked.openRefundHold hr hopen hfl.found) hfl.cash
  obtain ⟨_, hhold, hown, hrem⟩ := settleRefundCashTx_remaining hfl.cash
  have href := h.refundsHeld_closed hr hopen hfl.found hcl
  refine ⟨h.linked.committed hc, fun x hx hid => ?_,
    h.bounded_kept (later_of_same hfl.funding.operations) fun p => by rw [hcl.fundingHolds]⟩
  rw [hfl.wallets] at hx
  have hcv := h.covered x hx hid
  rw [hrem, h.linked.refundAmount hr hhold hown, if_neg Bool.false_ne_true]
  omega

theorem RefundsCovered.completeRefund
    (hcm : CompletesRefund s order refund db db') : RefundsCovered walletId db' := by
  obtain ⟨_, hcl⟩ := settleRefundCashTx_sound h.linked.sound
    (h.linked.openRefundHold hr hopen hcm.found) hcm.cash
  obtain ⟨_, _, _, hrem⟩ := settleRefundCashTx_remaining hcm.cash
  have href := h.refundsHeld_closed hr hopen hcm.found hcl
  obtain ⟨_, _, hw, hmv, hws⟩ := hcm.transfer.wallets
  refine ⟨h.linked.committed hc,
    covered_of_moved hw hmv hws fun old hold hid => ?_,
    h.bounded_kept (later_of_same hcm.funding.operations) fun p => by rw [hcl.fundingHolds]⟩
  have hcv := h.covered old hold hid
  rw [hrem, if_pos rfl, ite_self]
  by_cases hown : walletId = order.walletId
  · rw [if_pos hown] at href ⊢
    omega
  · rw [if_neg hown] at href ⊢
    omega

end

theorem RefundsCovered.quiet (hq : Quiet db db') : RefundsCovered walletId db' := by
  refine ⟨h.linked.committed hc, fun x hx hid => ?_, h.bounded_kept (fun x hx _ => ?_) fun p => ?_⟩
  · obtain ⟨old, hold, hbk⟩ := mem_of_view hq.wallets hx
    simp only [Wallet.books, Prod.mk.injEq] at hbk
    obtain ⟨hsame, _, _, hav, _⟩ := hbk
    rw [← hav, hq.cash]
    exact h.covered old hold (hsame.trans hid)
  · obtain ⟨old, hold, htm⟩ := mem_of_view hq.operations hx
    exact ⟨old, hold, FundingOperation.Later.of_terms old x htm.symm⟩
  · rw [hq.cash]

theorem RefundsCovered.committed (hlv : LeavesRefunds walletId db (s, call)) : RefundsCovered walletId db' := by
  have hall := hc
  cases hc with
  | quiet hq => exact h.quiet hall hq
  | reserve hw hrq _ horg hrs =>
    exact h.reserve hall hw (fun hid => hlv _ hw hid horg _ hrq) hrs
  | settle hop hopen _ hset =>
    refine h.settle hall hop hopen (hlv _ hop (_, db'.shadowSpend) ?_) hset
    rw [hset.charged]
    rfl
  | credit _ _ hcrs => exact h.credit hall hcrs
  | createRefund _ _ hcr => exact h.createRefund hall hcr
  | failRefund hr hopen hfl =>
    exact h.failRefund hall (found hr).1 hopen hfl
  | completeRefund hr hopen hcm =>
    exact h.completeRefund hall (found hr).1 hopen hcm
  | adjust | reverse | manual | chargeback | reconcile => exact hlv.elim

end

theorem LotsMatch.refundsCovered (h : LotsMatch walletId db) : RefundsCovered walletId db := by
  refine ⟨h.linked, fun wallet hw hid => ?_, fun op _ _ => ?_⟩
  · have hnone : db.cash.refundsHeld walletId = 0 :=
      sum_eq_zero fun lot _ => by simp [heldOn, sum, h.refundHolds]
    rw [h.available wallet hw hid, hnone, add_zero]
  · have hnone : heldOn (fun hold => hold.operationId = op.id) db.cash.fundingHolds = 0 := by
      simp [heldOn, sum, h.fundingHolds]
    rw [hnone]
    exact op.maximumAmount.nonneg

/-- A wallet, prepaid or not, whose lots match its balance never owes anything, whatever is recharged,
reserved, settled within the maximum, refunded or failed, as long as no reservation of the wallet
takes what its pending refunds hold. -/
theorem available_nonneg_of_leavesRefunds (h : LotsMatch walletId db) (calls : List (Session × Call))
    (hcalls : AlongChanges exec (LeavesRefunds walletId) db calls) :
    ∀ wallet ∈ (run exec db calls).wallets.rows, wallet.id = walletId →
      0 ≤ wallet.availableBalance.units := by
  have hrun : RefundsCovered walletId (run exec db calls) :=
    run_invariant_of_changes (fun st inv st' hinv hlv hexec =>
      hinv.committed (exec_committed hexec) hlv) h.refundsCovered hcalls
  intro wallet hw hid
  have hrem := remainingOn_nonneg (fun lot => lot.walletId = walletId) (run exec db calls).cash.lots
  have href := (run exec db calls).cash.refundsHeld_nonneg walletId
  exact (add_nonneg hrem href).trans (hrun.covered wallet hw hid)

/-- Recharges of 100 and 50 units, the second of which is refunded while a request is served. -/
def demoRefundRace (spent : ℤ) : List (Session × Call) :=
  [(demoSession 1, .creditPaidRecharge 1),
    (demoSession 2, .creditPaidRecharge 2),
    (demoSession 3, .createRefundOrder (demoRefund 2 50)),
    (demoSession 4, .reserveFunding (demoReservation "a" spent 0)),
    (demoSession 5, .settleFunding (demoSettlement ((demoSession 4).uuid .operation) spent false)),
    (demoSession 6, .completeRefund ((demoSession 3).uuid .refund) "paid")]

/-- The hypotheses are met by a request of 100 units, which leaves nothing. -/
theorem available_nonneg_of_leavesRefunds_demo :
    (run exec demoDb (demoRefundRace 100)).wallets.rows.map (fun wallet =>
        (wallet.billingMode, wallet.availableBalance.units)) = [(.prepaid, 0)] ∧
      ∀ wallet ∈ (run exec demoDb (demoRefundRace 100)).wallets.rows, wallet.id = 1 →
        0 ≤ wallet.availableBalance.units := by
  have hstar : LotsMatch 1 demoDb :=
    ⟨demoDb_genesis.cashLinked, demoDb_genesis.fundingHolds, demoDb_genesis.refundHolds, by decide +kernel⟩
  refine ⟨by decide +kernel, available_nonneg_of_leavesRefunds hstar (demoRefundRace 100) ?_⟩
  refine Along.changes ⟨trivial, trivial, trivial, ?_, ?_, trivial, trivial⟩
  · simp only [LeavesRefunds]
    decide +kernel
  · simp only [LeavesRefunds]
    decide +kernel

/-- A request may spend what is held for a refund: when it takes all of the 150 units, the prepaid
wallet owes the refunded 50. -/
theorem available_neg_of_spent_refund :
    demoDb.wallets.rows.map (fun wallet => (wallet.billingMode, wallet.availableBalance.units)) =
        [(.prepaid, 0)] ∧
      (run exec demoDb (demoRefundRace 150)).wallets.rows.map (fun wallet =>
        (wallet.billingMode, wallet.availableBalance.units)) = [(.prepaid, -50)] ∧
      (run exec demoDb (demoRefundRace 150)).operations.rows.map (fun op =>
        (op.maximumAmount.units, op.settledAmount.units)) = [(150, 150)] := by
  refine ⟨?_, ?_, ?_⟩ <;> decide +kernel

end ModelDock.Store
