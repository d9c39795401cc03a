import ModelDock.Cash.Sound

/-!
# Holding cash for requests and refunds

A hold moves money from a lot to a row that names it; closing it moves the money back or to an allocation.
Every helper keeps each lot accounted for, if the holds it closes are open and on lots of its wallet.
-/

namespace ModelDock.Store

open Relational Table Cash List

variable {s : Session} {txs : Table WalletTransaction} {cash cash' cash'' : Cash}
  {lot item : CashLot} {hold hold' : FundingCashAllocation} {refundHold refundHold' : RefundCashAllocation}
  {lotId walletId transactionId opId refundOrderId rechargeOrderId : Uuid} {units amount : ℤ} {txId? : Option Uuid}
  {now : Timestamp}

section

variable {R K : Type} [Key K] [Keyed R K] [DecidableEq K] [CashHold R] {holds holds' : Table R} {row row' : R}
  (p : R → Bool) (hopen : CashHold.settledAt row = none)
include hopen

omit [DecidableEq K] in
/-- A new hold adds its amount. -/
theorem heldOn_insert (h : Inserts holds row holds') :
    heldOn p holds' = heldOn p holds + if p row then (CashHold.reservedAmount row).units else 0 := by
  rw [heldOn, sum_insert h, add_comm, heldOn]
  simp only [hopen, true_and]

/-- A hold that is closed gives its amount free. -/
theorem heldOn_close (hmem : row ∈ holds.rows) (hkey : Keyed.key row' = Keyed.key row)
    (hcl : CashHold.settledAt row' = some now) : heldOn p (holds.replace row') =
      heldOn p holds - if p row then (CashHold.reservedAmount row).units else 0 := by
  rw [heldOn, sum_replace hmem hkey, heldOn]
  simp only [hopen, hcl, true_and, reduceCtorEq, false_and, if_false, add_zero]

end

/-- What a reservation of cash leaves alone, and what its new holds look like. -/
structure Cash.Reserved (cash : Cash) (operationId walletId : Uuid) (cash' : Cash) : Prop where
  lots : cash'.lots.view CashLot.origin = cash.lots.view CashLot.origin
  refundHolds : cash'.refundHolds = cash.refundHolds
  allocations : cash'.allocations = cash.allocations
  holds : ∀ hold ∈ cash'.fundingHolds.rows, hold ∈ cash.fundingHolds.rows ∨
    hold.operationId = operationId ∧ hold.settledAt = none ∧
      ∃ lot ∈ cash.lots.rows, lot.id = hold.cashLotId ∧ lot.walletId = walletId

theorem reserveLot_sound (h : cash.Sound) (hf : cash.lots.find? item.id = some lot)
    (hstep : reserveLot s opId cash item units = .ok cash') : cash'.Sound := by
  obtain ⟨hmv, ⟨_, _, hlot, hrs, hopen, hins⟩, href, hall⟩ := reserveLot_eq_ok hf hstep
  refine h.of_accounted hmv.view hall fun other => ?_
  unfold accounted netDebited
  rw [hmv.remainingAt, heldOn_insert _ hopen hins, href, hall, hlot]
  simp only [CashHold.reservedAmount, decide_eq_true_eq]
  split <;> omega

theorem reserveCashLotsTx_sound (h : cash.Sound)
    (hstep : reserveCashLotsTx s opId walletId amount cash = .ok cash') :
    cash'.Sound ∧ cash.Reserved opId walletId cash' := by
  simp only [reserveCashLotsTx, eq_ok] at hstep
  obtain ⟨_, hloop, rfl⟩ := hstep
  obtain ⟨hrun, _⟩ := takeEach_eq_ok.mp hloop
  refine foldlM_invariant (P := fun st => st.Sound ∧ cash.Reserved opId walletId st) ?_
    ⟨h, rfl, rfl, rfl, fun hold hhold => .inl hhold⟩ hrun
  rintro part hpart st _ ⟨hsn, hrs⟩ hstep
  have hitem : part.1 ∈ cash.openLots walletId := takes_sublist.subset (mem_map_of_mem hpart)
  obtain ⟨hmem, hw, _⟩ := mem_openLots hitem
  obtain ⟨_, hf, _⟩ := find?_of_origin hrs.lots hmem
  obtain ⟨hmv, ⟨hold, hop, hlot, _, hopen, hins⟩, href, hall⟩ :=
    reserveLot_eq_ok hf hstep
  refine ⟨reserveLot_sound hsn hf hstep, hmv.view.trans hrs.lots,
    href.trans hrs.refundHolds, hall.trans hrs.allocations, ?_⟩
  intro x hx
  rcases (mem_insert hins).mp hx with rfl | hx
  · exact .inr ⟨hop, hopen, part.1, hmem, hlot.symm, hw⟩
  · exact hrs.holds x hx

/-- The holds a settlement still has to visit: open holds on lots of the wallet. -/
structure SettleReady (walletId : Uuid) (parts : List (FundingCashAllocation × ℤ)) (cash : Cash) : Prop where
  sound : cash.Sound
  distinct : parts.Pairwise fun a b => a.1.id ≠ b.1.id
  bounds : ∀ part ∈ parts, 0 ≤ part.2 ∧ part.2 ≤ part.1.reservedAmount.units
  stored : ∀ part ∈ parts, part.1 ∈ cash.fundingHolds.rows ∧ part.1.settledAt = none ∧
    ∃ lot ∈ cash.lots.rows, lot.id = part.1.cashLotId ∧ lot.walletId = walletId

/-- Only holds of one request may have been closed. -/
structure Cash.Settled (cash : Cash) (operationId : Uuid) (cash' : Cash) : Prop where
  lots : cash'.lots.view CashLot.origin = cash.lots.view CashLot.origin
  refundHolds : cash'.refundHolds = cash.refundHolds
  holds : ∀ hold' ∈ cash'.fundingHolds.rows, ∃ hold ∈ cash.fundingHolds.rows,
    Keyed.key hold' = Keyed.key hold ∧ (hold'.settledAt = hold.settledAt ∨ hold.operationId = operationId)

theorem Cash.Settled.trans (h : cash.Settled opId cash') (h' : cash'.Settled opId cash'') :
    cash.Settled opId cash'' := by
  refine ⟨h'.lots.trans h.lots, h'.refundHolds.trans h.refundHolds, fun last hlast => ?_⟩
  obtain ⟨mid, hmid, hkey, hcl⟩ := h'.holds last hlast
  obtain ⟨first, hfs, hkey', hcl'⟩ := h.holds mid hmid
  have hop : mid.operationId = first.operationId := congrArg FundingCashKey.operationId hkey'
  refine ⟨first, hfs, hkey.trans hkey', ?_⟩
  rcases hcl with hsame | hown
  · rcases hcl' with hsame' | hown'
    · exact .inl (hsame.trans hsame')
    · exact .inr hown'
  · exact .inr (hop.symm.trans hown)

theorem Cash.Framed.settled (h : cash.Framed cash') (opId : Uuid) : cash.Settled opId cash' := by
  refine ⟨h.lots, h.refundHolds, fun hold hhold => ?_⟩
  rw [h.fundingHolds] at hhold
  exact ⟨hold, hhold, rfl, .inl rfl⟩

theorem SettlesHold.sound (h : cash.Sound) (hmem : hold ∈ cash.fundingHolds.rows) (hopen : hold.settledAt = none)
    (hw : lot.walletId = walletId)
    (hset : SettlesHold s walletId txId? hold lot units (hold.reservedAmount.units - units) cash cash') :
    cash'.Sound := by
  obtain ⟨_, hkey, _, hcl, hhs⟩ := hset.closed
  have hview := hset.lots.view
  have hheld (other : Uuid) := heldOn_close (fun x => x.cashLotId = other) hopen hmem hkey hcl
  rcases hset.allocations with ⟨_, hall⟩ | ⟨txId, _, _, hrow, hins⟩
  · refine h.of_accounted hview hall fun other => ?_
    unfold accounted netDebited
    rw [hset.lots.remainingAt, hhs, hheld, hset.refundHolds, hall]
    simp only [CashHold.reservedAmount, decide_eq_true_eq]
    split <;> omega
  · refine h.record hrow hins hview (fun lotId hbk => ?_) (by simp) fun other => ?_
    · cases hbk
      obtain ⟨hlot, hid⟩ := found hset.lots.found
      exact ⟨lot, hlot, hid, hw⟩
    · unfold accounted
      rw [hset.lots.remainingAt, hhs, hheld, hset.refundHolds, netDebited_insert hins,
        hrow.bucket, hrow.signed]
      simp only [CashHold.reservedAmount, decide_eq_true_eq, CashBucket.cash.injEq, Direction.signed]
      split <;> omega

theorem settleHold_ready {part : FundingCashAllocation × ℤ}
    {parts : List (FundingCashAllocation × ℤ)} (h : SettleReady walletId (part :: parts) cash)
    (hop : part.1.operationId = opId)
    (hstep : settleHold s txs walletId txId? cash part.1 part.2
      (part.1.reservedAmount.units - part.2) = .ok cash') :
    SettleReady walletId parts cash' ∧ cash.Settled opId cash' := by
  obtain ⟨hold, _⟩ := part
  obtain ⟨hmem, hopen, lot, hlot, hid, hw⟩ := h.stored _ mem_cons_self
  obtain ⟨hu, hle⟩ := h.bounds _ mem_cons_self
  have hf : cash.lots.find? hold.cashLotId = some lot := find?_eq_some.mpr ⟨hlot, hid⟩
  have hset := settleHold_eq_ok hmem hf hu (sub_nonneg.mpr hle) hstep
  obtain ⟨hfs, hd⟩ := pairwise_cons.mp h.distinct
  obtain ⟨_, hkey, _, _, hhs⟩ := hset.closed
  refine ⟨⟨hset.sound h.sound hmem hopen hw, hd,
    fun later hlat => h.bounds later (mem_cons_of_mem _ hlat), ?_⟩,
    ⟨hset.lots.view, hset.refundHolds, ?_⟩⟩
  · intro later hlat
    obtain ⟨hlm, hln, _, hlt, hld, hlate⟩ :=
      h.stored later (mem_cons_of_mem _ hlat)
    obtain ⟨stored, hsto, hstd, hstor⟩ := exists_of_origin hset.lots.view hlt
    refine ⟨?_, hln, stored, hsto, hstd.trans hld, hstor.trans hlate⟩
    rw [hhs, mem_replace hmem hkey]
    refine .inr ⟨hlm, fun heq => hfs later hlat ?_⟩
    exact (heq.trans (congrArg Key.id hkey)).symm
  · intro x hx
    rw [hhs, mem_replace hmem hkey] at hx
    rcases hx with rfl | ⟨hx, _⟩
    · exact ⟨hold, hmem, hkey, .inr hop⟩
    · exact ⟨x, hx, rfl, .inl rfl⟩

theorem mem_holdsOf : hold ∈ cash.holdsOf opId ↔
    hold ∈ cash.fundingHolds.rows ∧ hold.operationId = opId := by
  rw [holdsOf, (oldestFirst_perm _ _).mem_iff]
  simp only [mem_filter, decide_eq_true_eq]

theorem holdsOf_distinct (cash : Cash) (opId : Uuid) :
    (cash.holdsOf opId).Pairwise fun a b => a.id ≠ b.id := by
  have hd := distinct_of_query (oldestFirst_perm FundingCashAllocation.createdAt
    (cash.fundingHolds.rows.filter fun hold => hold.operationId = opId))
  exact hd

section

variable (h : cash.Sound)
  (hhs : ∀ hold ∈ cash.fundingHolds.rows, hold.operationId = opId → hold.settledAt = none ∧
    ∃ lot ∈ cash.lots.rows, lot.id = hold.cashLotId ∧ lot.walletId = walletId)
include h hhs

theorem settleReady_consumptions (amount : ℤ) :
    SettleReady walletId (consumptions (fun hold => hold.reservedAmount.units)
      (cash.holdsOf opId) amount) cash := by
  have hbn (part : FundingCashAllocation × ℤ) (hpart : part ∈ consumptions
      (fun hold => hold.reservedAmount.units) (cash.holdsOf opId) amount) :=
    consumptions_bounds (fun hold _ => hold.reservedAmount.nonneg) hpart
  refine ⟨h, ?_, fun part hpart => (hbn part hpart).2, fun part hpart => ?_⟩
  · have hd := holdsOf_distinct cash opId
    have hvs : (consumptions (fun hold : FundingCashAllocation => hold.reservedAmount.units)
        (cash.holdsOf opId) amount).map Prod.fst = cash.holdsOf opId := consumptions_fst
    rwa [← hvs, pairwise_map] at hd
  · obtain ⟨hmem, hop⟩ := mem_holdsOf.mp (hbn part hpart).1
    exact ⟨hmem, hhs part.1 hmem hop⟩

theorem settleCashLotsTx_sound (hstep : settleCashLotsTx s txs opId walletId txId? amount cash = .ok cash') :
    cash'.Sound ∧ cash.Settled opId cash' := by
  simp only [settleCashLotsTx, bind_eq_ok] at hstep
  obtain ⟨_, hloop, hrest⟩ := hstep
  obtain ⟨hrun, _⟩ := settleEach_eq_ok.mp hloop
  have hrd := foldlM_consumes (P := fun parts st => SettleReady walletId parts st ∧
      (∀ part ∈ parts, part.1.operationId = opId) ∧ cash.Settled opId st)
    (fun part rest st st' hst hstep => by
      obtain ⟨hrd, hown, hset⟩ := hst
      obtain ⟨hrd', hset'⟩ := settleHold_ready hrd (hown part mem_cons_self) hstep
      exact ⟨hrd', fun later hlat => hown later (mem_cons_of_mem _ hlat), hset.trans hset'⟩)
    ⟨settleReady_consumptions h hhs amount, fun part hpart =>
      (mem_holdsOf.mp (consumptions_bounds (fun hold _ => hold.reservedAmount.nonneg) hpart).1).2,
      (Framed.refl cash).settled opId⟩ hrun
  obtain ⟨hrd, _, hset⟩ := hrd
  split at hrest
  · simp only [eq_ok] at hrest
    obtain ⟨txId, _, hover⟩ := hrest
    obtain ⟨hsn, hfr⟩ := allocateCashDebitTx_sound hrd.sound hover
    exact ⟨hsn, hset.trans (hfr.settled opId)⟩
  · cases hrest
    exact ⟨hrd.sound, hset⟩

end

theorem allocateChargebackTx_sound (h : cash.Sound)
    (hstep : allocateChargebackTx s txs walletId rechargeOrderId transactionId amount cash =
      .ok cash') : cash'.Sound ∧ cash.Framed cash' := by
  simp only [allocateChargebackTx, bind_eq_ok] at hstep
  obtain ⟨result, hlot, hrest⟩ := hstep
  have hmid : result.2.Sound ∧ cash.Framed result.2 := by
    unfold debitRechargeCashLotTx at hlot
    split at hlot
    · cases hlot
      exact ⟨h, Framed.refl cash⟩
    · next lot hf =>
      obtain ⟨hmem, hown, _⟩ := queried hf
      split at hlot
      · cases hlot
        exact ⟨h, Framed.refl cash⟩
      · simp only [eq_ok] at hlot
        obtain ⟨_, hdb, rfl⟩ := hlot
        exact debitLotFor_sound h ⟨lot, find?_of_mem hmem, hown⟩ hdb
  split at hrest
  · obtain ⟨hsn, hfr⟩ := creditDebit_sound hmid.1 hrest
    exact ⟨hsn, hmid.2.trans hfr⟩
  · cases hrest
    exact hmid

theorem reserveRefundCashTx_sound (h : cash.Sound)
    (hstep : reserveRefundCashTx s refundOrderId walletId rechargeOrderId amount cash = .ok cash') :
    cash'.Sound ∧ cash'.lots.view CashLot.origin = cash.lots.view CashLot.origin ∧
      cash'.fundingHolds = cash.fundingHolds ∧ cash'.allocations = cash.allocations ∧
      ∃ hold lot, Inserts cash.refundHolds hold cash'.refundHolds ∧
        hold.refundOrderId = refundOrderId ∧ hold.settledAt = none ∧
        hold.reservedAmount.units = amount ∧ hold.cashLotId = lot.id ∧ lot.walletId = walletId ∧
        lot.rechargeOrderId = some rechargeOrderId ∧ LotMoved cash.lots lot.id (-amount) lot cash'.lots := by
  simp only [reserveRefundCashTx, eq_ok] at hstep
  obtain ⟨lot, hf, _, _, lots, hlots, hins⟩ := hstep
  obtain ⟨hmem, hown⟩ := queried hf
  obtain ⟨hold, hr, hlot, hrs, hopen, _, hhs, hcash⟩ := insertRefundHold_eq_ok hins
  have hstor : cash.lots.find? lot.id = some lot := find?_of_mem hmem
  have hmv := debitLot_moved hstor hlots
  have hsame : cash'.lots = lots := by rw [hcash]
  have hfun : cash'.fundingHolds = cash.fundingHolds := by rw [hcash]
  have hall : cash'.allocations = cash.allocations := by rw [hcash]
  rw [hsame]
  refine ⟨?_, hmv.view, hfun, hall, hold, lot, hhs, hr, hopen, hrs, hlot,
    hown.1, hown.2.1, hmv⟩
  refine h.of_accounted (by rw [SameLots, hsame, hmv.view]) hall fun other => ?_
  unfold accounted netDebited
  rw [hsame, hmv.remainingAt, heldOn_insert _ hopen hhs, hfun, hall, hlot]
  simp only [CashHold.reservedAmount, decide_eq_true_eq]
  split <;> omega

/-- Only the hold of one refund may have been closed. -/
structure Cash.RefundClosed (cash : Cash) (refundOrderId : Uuid) (cash' : Cash) : Prop where
  lots : cash'.lots.view CashLot.origin = cash.lots.view CashLot.origin
  fundingHolds : cash'.fundingHolds = cash.fundingHolds
  holds : ∃ hold hold', hold ∈ cash.refundHolds.rows ∧ hold.refundOrderId = refundOrderId ∧
    Keyed.key hold' = Keyed.key hold ∧ hold'.cashLotId = hold.cashLotId ∧
    hold'.reservedAmount = hold.reservedAmount ∧ (∃ now, hold'.settledAt = some now) ∧
    cash'.refundHolds = cash.refundHolds.replace hold'

theorem settleRefundCashTx_sound {succeeded : Bool} (h : cash.Sound)
    (hhs : ∀ hold ∈ cash.refundHolds.rows, hold.refundOrderId = refundOrderId →
      hold.settledAt = none ∧ ∃ lot ∈ cash.lots.rows, lot.id = hold.cashLotId ∧ lot.walletId = walletId)
    (hstep : settleRefundCashTx s txs refundOrderId walletId txId? succeeded cash = .ok cash') :
    cash'.Sound ∧ cash.RefundClosed refundOrderId cash' := by
  simp only [settleRefundCashTx, eq_ok] at hstep
  obtain ⟨hold, hf, hstep⟩ := hstep
  obtain ⟨hmem, hr⟩ := queried hf
  obtain ⟨hopen, lot, hlot, hid, hw⟩ := hhs hold hmem hr
  cases succeeded with
  | true =>
    simp only [if_true, eq_ok] at hstep
    obtain ⟨txId, _, spent, hins, holds, hup, rfl⟩ := hstep
    obtain ⟨_, hrow, hall, _⟩ := insertAllocation_eq_ok hins
    rw [hall.refundHolds] at hup
    obtain ⟨hold', hset, rfl⟩ := update_of_mem hmem hup
    obtain ⟨hkey, hld, hrs, hcl⟩ := RefundCashAllocation.settle_eq_ok hset
    have hview : spent.lots.view CashLot.origin = cash.lots.view CashLot.origin := by
      rw [hall.lots]
    refine ⟨h.record hrow hall.inserted hview (fun lotId hbk => ?_) (by simp) fun other => ?_,
      ⟨hview, hall.fundingHolds, hold, hold', hmem, hr, hkey, hld, hrs, ⟨_, hcl⟩,
        rfl⟩⟩
    · cases hbk
      exact ⟨lot, hlot, hid, hw⟩
    · have hnet := netDebited_insert hall.inserted other
      unfold accounted
      simp only [netDebited] at hnet ⊢
      rw [heldOn_close _ hopen hmem hkey hcl, hall.lots, hall.fundingHolds, hnet,
        hrow.bucket, hrow.signed]
      simp only [CashHold.reservedAmount, decide_eq_true_eq, CashBucket.cash.injEq, Direction.signed]
      split <;> omega
  | false =>
    simp only [Bool.false_eq_true, if_false, eq_ok] at hstep
    obtain ⟨_, href, _, hmt, holds, hup, rfl⟩ := hstep
    obtain ⟨hold', hset, rfl⟩ := update_of_mem hmem hup
    obtain ⟨hkey, hld, hrs, hcl⟩ := RefundCashAllocation.settle_eq_ok hset
    rcases refillLot_eq_ok href with ⟨hfl, _⟩ | ⟨_, other, _, hmv⟩
    · rw [hfl] at hmt
      cases hmt
    · refine ⟨h.of_accounted hmv.view rfl fun other => ?_, ⟨hmv.view, rfl, hold, hold', hmem, hr,
        hkey, hld, hrs, ⟨_, hcl⟩, rfl⟩⟩
      unfold accounted netDebited
      rw [hmv.remainingAt, heldOn_close _ hopen hmem hkey hcl]
      simp only [CashHold.reservedAmount, decide_eq_true_eq]
      split <;> omega

section

variable (h : cash.Sound)
  (hfun : ∀ hold ∈ cash.fundingHolds.rows, ∃ lot ∈ cash.lots.rows, lot.id = hold.cashLotId)
  (hr : ∀ hold ∈ cash.refundHolds.rows, ∃ lot ∈ cash.lots.rows, lot.id = hold.cashLotId)
include h hfun hr

theorem Cash.Sound.accounted_eq_zero
    (hfr : ∀ lot ∈ cash.lots.rows, lot.id ≠ lotId) : cash.accounted lotId = 0 := by
  have hrem : remainingOn (fun lot => lot.id = lotId) cash.lots = 0 :=
    sum_eq_zero fun lot hlot => if_neg fun hid => hfr lot hlot (of_decide_eq_true hid)
  have hheld : heldOn (fun hold => hold.cashLotId = lotId) cash.fundingHolds = 0 := by
    refine sum_eq_zero fun hold hhold => if_neg fun hcn => ?_
    obtain ⟨lot, hlot, hid⟩ := hfun hold hhold
    exact hfr lot hlot (hid.trans (of_decide_eq_true hcn.2))
  have href : heldOn (fun hold => hold.cashLotId = lotId) cash.refundHolds = 0 := by
    refine sum_eq_zero fun hold hhold => if_neg fun hcn => ?_
    obtain ⟨lot, hlot, hid⟩ := hr hold hhold
    exact hfr lot hlot (hid.trans (of_decide_eq_true hcn.2))
  have hnet : cash.netDebited lotId = 0 := by
    refine sum_eq_zero fun row hrow => if_neg fun hbk => ?_
    obtain ⟨lot, hlot, hid, _⟩ := h.lot row hrow lotId hbk
    exact hfr lot hlot hid
  rw [accounted, hrem, hheld, href, hnet]
  rfl

theorem createCashLotTx_sound {rechargeOrderId? : Option Uuid} {sourceKind : LotSource}
    {sourceReference : SourceReference} {currency : Currency} {refundable : Bool}
    (hstep : createCashLotTx s walletId rechargeOrderId? transactionId sourceKind sourceReference amount
      currency refundable cash = .ok cash') :
    cash'.Sound ∧ (∀ lot ∈ cash.lots.rows, lot ∈ cash'.lots.rows) ∧
      cash'.fundingHolds = cash.fundingHolds ∧ cash'.refundHolds = cash.refundHolds := by
  obtain ⟨lot, hop, ⟨rfl, _⟩ | ⟨hins, hcash⟩⟩ := createCashLotTx_eq_ok hstep
  · exact ⟨h, fun lot hlot => hlot, rfl, rfl⟩
  have hkept (old : CashLot) (hold : old ∈ cash.lots.rows) : old ∈ cash'.lots.rows :=
    (mem_insert hins).mpr (.inr hold)
  have hhs : cash'.fundingHolds = cash.fundingHolds := by rw [hcash]
  have href : cash'.refundHolds = cash.refundHolds := by rw [hcash]
  have hall : cash'.allocations = cash.allocations := by rw [hcash]
  have hac (lotId : Uuid) : cash'.accounted lotId =
      cash.accounted lotId + if lot.id = lotId then lot.originalAmount.units else 0 := by
    have hrem : remainingOn (fun x => x.id = lotId) cash'.lots =
        (if lot.id = lotId then lot.originalAmount.units else 0) +
          remainingOn (fun x => x.id = lotId) cash.lots := by
      rw [remainingOn, sum_insert hins, remainingOn, hop.remaining]
      have hid : lot.origin.id = lot.id := rfl
      simp only [hid, decide_eq_true_eq]
    unfold accounted netDebited
    rw [hhs, href, hall]
    omega
  refine ⟨⟨?_, ?_, ?_, ?_⟩, hkept, hhs, href⟩
  · intro row hrow lotId hbk
    rw [hall] at hrow
    obtain ⟨old, hold, hrest⟩ := h.lot row hrow lotId hbk
    exact ⟨old, hkept old hold, hrest⟩
  · rw [hall]
    exact h.source
  · simp only [restoredOf, hall]
    exact h.restored_le
  · intro x hx
    rw [hac]
    have hfr (old : CashLot) (hold : old ∈ cash.lots.rows) : old.id ≠ lot.id := rowId_ne_of_insert hins hold
    rcases (mem_insert hins).mp hx with rfl | hold
    · rw [h.accounted_eq_zero hfun hr hfr, if_pos rfl, zero_add]
    · rw [if_neg fun heq => hfr x hold heq.symm, add_zero, h.conserved x hold]

end

end ModelDock.Store
