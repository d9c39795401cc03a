import ModelDock.Cash.Statements

/-!
# Every cash lot is accounted for

The money of a lot stays on it, is held by a request or a refund, or was spent and not restored: these parts
add up to its original amount. The guard of a restoration's update therefore always holds.
-/

namespace ModelDock.Store

open Relational Table CashAllocation List

variable {source : CashAllocation} {amount : ℤ} {bucket : CashBucket} {direction : Direction}
  {parts : List (CashAllocation × ℤ)}

/-- What the allocations took from a lot and did not restore. -/
def Cash.netDebited (cash : Cash) (lotId : Uuid) : ℤ :=
  cash.allocations.sum fun row => if row.bucket = .cash lotId then row.signed else 0

/-- All the places where the money of a lot can be. -/
def Cash.accounted (cash : Cash) (lotId : Uuid) : ℤ :=
  remainingOn (fun lot => lot.id = lotId) cash.lots +
    heldOn (fun hold => hold.cashLotId = lotId) cash.fundingHolds +
    heldOn (fun hold => hold.cashLotId = lotId) cash.refundHolds + cash.netDebited lotId

/-- Cash rows reference stored rows of their own wallet, no debit is restored beyond its amount,
and every lot is accounted for. -/
structure Cash.Sound (cash : Cash) : Prop where
  lot : ∀ row ∈ cash.allocations.rows, ∀ lotId, row.bucket = .cash lotId →
    ∃ lot ∈ cash.lots.rows, lot.id = lotId ∧ lot.walletId = row.walletId
  source : ∀ row ∈ cash.allocations.rows, ∀ id, row.direction = .restore id →
    ∃ debit ∈ cash.allocations.rows, debit.id = id ∧ debit.direction = .debit ∧
      debit.bucket = row.bucket ∧ debit.walletId = row.walletId
  restored_le : ∀ debit ∈ cash.allocations.rows, debit.direction = .debit →
    cash.restoredOf debit.id ≤ debit.amount.units
  conserved : ∀ lot ∈ cash.lots.rows, lot.originalAmount.units = cash.accounted lot.id

/-- Lots keep their origins, and no hold changed. -/
structure Cash.Framed (cash cash' : Cash) : Prop where
  lots : cash'.lots.view CashLot.origin = cash.lots.view CashLot.origin
  fundingHolds : cash'.fundingHolds = cash.fundingHolds
  refundHolds : cash'.refundHolds = cash.refundHolds

variable {s : Session} {txs : Table WalletTransaction} {cash cash' cash'' : Cash}
  {lots lots' : Table CashLot} {lot item : CashLot} {row : CashAllocation}
  {lotId walletId txId : Uuid} {units delta : ℤ}

theorem Cash.Framed.refl (cash : Cash) : cash.Framed cash := ⟨rfl, rfl, rfl⟩

theorem Cash.Framed.trans (h : cash.Framed cash') (h' : cash'.Framed cash'') : cash.Framed cash'' :=
  ⟨h'.lots.trans h.lots, h'.fundingHolds.trans h.fundingHolds, h'.refundHolds.trans h.refundHolds⟩

theorem exists_of_origin (hview : lots'.view CashLot.origin = lots.view CashLot.origin) (hlot : lot ∈ lots.rows) :
    ∃ lot' ∈ lots'.rows, lot'.id = lot.id ∧ lot'.walletId = lot.walletId := by
  obtain ⟨lot', hmem, hor⟩ := mem_of_view hview.symm hlot
  obtain ⟨hid, hw, _⟩ := CashLot.columns_of_origin hor
  exact ⟨lot', hmem, hid, hw⟩

theorem LotMoved.remainingAt (h : LotMoved lots lotId delta lot lots') (other : Uuid) :
    remainingOn (fun x => x.id = other) lots' =
      remainingOn (fun x => x.id = other) lots + if lotId = other then delta else 0 := by
  have hid : lot.origin.id = lotId := h.id
  rw [h.remainingOn_eq, hid]
  simp only [decide_eq_true_eq]

theorem netDebited_insert (h : Inserts cash.allocations row cash'.allocations) (lotId : Uuid) :
    cash'.netDebited lotId = cash.netDebited lotId + if row.bucket = .cash lotId then row.signed else 0 := by
  rw [Cash.netDebited, sum_insert h, add_comm, Cash.netDebited]

/-- No lot came, went or changed its origin. -/
abbrev SameLots (cash cash' : Cash) : Prop :=
  cash'.lots.view CashLot.origin = cash.lots.view CashLot.origin

theorem conserved_of_accounted (hview : SameLots cash cash')
    (hac : ∀ lotId, cash'.accounted lotId = cash.accounted lotId)
    (h : ∀ lot ∈ cash.lots.rows, lot.originalAmount.units = cash.accounted lot.id) :
    ∀ lot ∈ cash'.lots.rows, lot.originalAmount.units = cash'.accounted lot.id := by
  intro lot hlot
  obtain ⟨old, hold, hor⟩ := mem_of_view hview hlot
  obtain ⟨hid, _, ham⟩ := CashLot.columns_of_origin hor
  rw [← ham, ← hid, hac, h old hold]

theorem Cash.Sound.of_accounted (h : cash.Sound) (hview : SameLots cash cash')
    (hall : cash'.allocations = cash.allocations)
    (hac : ∀ lotId, cash'.accounted lotId = cash.accounted lotId) : cash'.Sound := by
  refine ⟨?_, ?_, ?_, conserved_of_accounted hview hac h.conserved⟩
  · intro row hrow lotId hbk
    rw [hall] at hrow
    obtain ⟨_, hlot, hid, hw⟩ := h.lot row hrow lotId hbk
    obtain ⟨lot', hmem, hid', hw'⟩ := exists_of_origin hview hlot
    exact ⟨lot', hmem, hid'.trans hid, hw'.trans hw⟩
  · rw [hall]
    exact h.source
  · simp only [Cash.restoredOf, hall]
    exact h.restored_le

theorem Cash.Sound.restoredOf_eq_zero (h : cash.Sound) {id : Uuid}
    (hfr : ∀ row ∈ cash.allocations.rows, row.id ≠ id) : cash.restoredOf id = 0 := by
  refine sum_eq_zero fun row hrow => if_neg fun hdr => ?_
  obtain ⟨debit, hdb, hid, _⟩ := h.source row hrow id hdr
  exact hfr debit hdb hid

theorem Cash.Sound.record (h : cash.Sound) (hrow : row.Records walletId txId bucket direction units)
    (hins : Inserts cash.allocations row cash'.allocations) (hview : SameLots cash cash')
    (hbk : ∀ lotId, bucket = .cash lotId → ∃ lot ∈ cash.lots.rows, lot.id = lotId ∧ lot.walletId = walletId)
    (hrs : ∀ id, direction = .restore id → ∃ source ∈ cash.allocations.rows, source.id = id ∧
      source.direction = .debit ∧ source.bucket = bucket ∧ source.walletId = walletId ∧
        units ≤ cash.unrestored source)
    (hac : ∀ lotId, cash'.accounted lotId = cash.accounted lotId) : cash'.Sound := by
  refine ⟨?_, ?_, ?_, conserved_of_accounted hview hac h.conserved⟩
  · intro x hx lotId hlot
    have hstor : ∃ lot ∈ cash.lots.rows, lot.id = lotId ∧ lot.walletId = x.walletId := by
      rcases (mem_insert hins).mp hx with rfl | hx
      · rw [hrow.walletId]
        exact hbk lotId (hrow.bucket ▸ hlot)
      · exact h.lot x hx lotId hlot
    obtain ⟨lot, hmem, hid, hw⟩ := hstor
    obtain ⟨lot', hmem', hid', hw'⟩ := exists_of_origin hview hmem
    exact ⟨lot', hmem', hid'.trans hid, hw'.trans hw⟩
  · intro x hx id hdr
    have hstor : ∃ debit ∈ cash.allocations.rows, debit.id = id ∧ debit.direction = .debit ∧
        debit.bucket = x.bucket ∧ debit.walletId = x.walletId := by
      rcases (mem_insert hins).mp hx with rfl | hx
      · obtain ⟨source, hsr, hid, hdb, hsame, hw, _⟩ := hrs id (hrow.direction ▸ hdr)
        exact ⟨source, hsr, hid, hdb, hsame.trans hrow.bucket.symm, hw.trans hrow.walletId.symm⟩
      · exact h.source x hx id hdr
    obtain ⟨debit, hmem, hrest⟩ := hstor
    exact ⟨debit, (mem_insert hins).mpr (.inr hmem), hrest⟩
  · intro debit hmem hdr
    rw [restoredOf_insert hins, hrow.amount]
    rcases (mem_insert hins).mp hmem with rfl | hmem
    · have hzero : cash.restoredOf debit.id = 0 := h.restoredOf_eq_zero fun x hx => rowId_ne_of_insert hins hx
      rw [hzero, if_neg (by simp [hdr])]
      exact debit.amount.nonneg
    · have hle := h.restored_le debit hmem hdr
      split
      · next hsame =>
        obtain ⟨source, hsr, hid, _, _, _, hu⟩ := hrs debit.id (hrow.direction ▸ hsame)
        obtain rfl := eq_of_rowId hsr hmem hid
        unfold Cash.unrestored at hu
        omega
      · omega

/-- The debit a row restores. -/
def CashAllocation.restores (row : CashAllocation) : Option Uuid :=
  match row.direction with
  | .debit => none
  | .restore id => some id

/-- What a row restores to a lot. -/
def CashAllocation.restoredTo (row : CashAllocation) (lotId : Uuid) : ℤ :=
  if row.bucket = .cash lotId then (if row.direction = .debit then 0 else row.amount.units) else 0

theorem Cash.Sound.restoredOf_eq (h : cash.Sound) {debit : CashAllocation}
    (hmem : debit ∈ cash.allocations.rows) (hbk : debit.bucket = .cash lotId) :
    (cash.allocations.sum fun row => if row.restores = some debit.id then row.restoredTo lotId else 0) =
      cash.restoredOf debit.id := by
  refine sum_congr fun row hrow => ?_
  cases hdr : row.direction with
  | debit => simp [restores, hdr]
  | restore id =>
    simp only [restores, hdr, Option.some.injEq, Direction.restore.injEq]
    split
    · next hid =>
      obtain ⟨source, hsrc, hsr, _, hsame, _⟩ := h.source row hrow id hdr
      have heq : source = debit := eq_of_rowId hsrc hmem (hsr.trans hid)
      have hrt : row.bucket = .cash lotId := by rw [← hsame, heq, hbk]
      simp [restoredTo, hrt, hdr]
    · rfl

theorem Cash.Sound.netDebited_eq (h : cash.Sound) (lotId : Uuid) :
    cash.netDebited lotId = cash.allocations.sum fun row =>
      if row.bucket = .cash lotId ∧ row.direction = .debit then cash.unrestored row else 0 := by
  have hjoin : (cash.allocations.sum fun debit =>
      if decide (debit.bucket = .cash lotId ∧ debit.direction = .debit) then
        (cash.allocations.sum fun row =>
          if row.restores = some (rowId debit) then row.restoredTo lotId else 0) else 0) =
      cash.allocations.sum fun row => row.restoredTo lotId := by
    refine sum_join fun row hrow hcn => ?_
    unfold restoredTo at hcn
    split at hcn
    · next hbk =>
      cases hdr : row.direction with
      | debit => simp [hdr] at hcn
      | restore id =>
        obtain ⟨debit, hdt, hid, hdb, hsame, _⟩ := h.source row hrow id hdr
        refine ⟨debit, hdt, ?_, ?_⟩
        · simp [hsame, hbk, hdb]
        · have hrd : rowId debit = id := hid
          simp [restores, hdr, hrd]
    · exact absurd rfl hcn
  have hrs : (cash.allocations.sum fun row => row.restoredTo lotId) =
      cash.allocations.sum fun debit =>
        if debit.bucket = .cash lotId ∧ debit.direction = .debit then cash.restoredOf debit.id else 0 := by
    rw [← hjoin]
    refine sum_congr fun debit hdt => ?_
    simp only [decide_eq_true_eq]
    split
    · next hcnt => exact h.restoredOf_eq hdt hcnt.1
    · rfl
  have hsp : cash.netDebited lotId + (cash.allocations.sum fun row => row.restoredTo lotId) =
      cash.allocations.sum fun row =>
        if row.bucket = .cash lotId ∧ row.direction = .debit then row.amount.units else 0 := by
    rw [Cash.netDebited, ← sum_add]
    refine sum_congr fun row _ => ?_
    cases hdr : row.direction <;>
      simp only [restoredTo, signed, Direction.signed] <;>
      split <;> simp_all
  have htt : (cash.allocations.sum fun row =>
        if row.bucket = .cash lotId ∧ row.direction = .debit then cash.unrestored row else 0) +
      (cash.allocations.sum fun debit =>
        if debit.bucket = .cash lotId ∧ debit.direction = .debit then cash.restoredOf debit.id else 0) =
      cash.allocations.sum fun row =>
        if row.bucket = .cash lotId ∧ row.direction = .debit then row.amount.units else 0 := by
    rw [← sum_add]
    refine sum_congr fun row _ => ?_
    unfold Cash.unrestored
    split <;> omega
  omega

theorem heldOn_nonneg {R K : Type} [Key K] [Keyed R K] [CashHold R] (p : R → Bool) (holds : Table R) :
    0 ≤ heldOn p holds :=
  sum_nonneg fun hold _ => ite_nonneg (CashHold.reservedAmount hold).nonneg le_rfl

theorem remainingAt_of_mem (hlot : lot ∈ lots.rows) :
    remainingOn (fun x => x.id = lot.id) lots = lot.remainingAmount.units := by
  refine (sum_eq_single hlot fun x hx hne => if_neg fun hid => hne ?_).trans (if_pos ?_)
  · exact eq_of_rowId hx hlot (of_decide_eq_true hid)
  · exact decide_eq_true rfl

/-- A lot has room for what is not yet restored of a debit. -/
theorem Cash.Sound.room (h : cash.Sound)
    (hsr : source ∈ cash.allocations.rows) (hdb : source.direction = .debit)
    (hlot : lot ∈ cash.lots.rows) (hbk : source.bucket = .cash lot.id) :
    lot.remainingAmount.units + cash.unrestored source ≤ lot.originalAmount.units := by
  have hle : cash.unrestored source ≤ cash.netDebited lot.id := by
    have hco := le_sum_of_mem (t := cash.allocations) (r := source)
      (f := fun row => if row.bucket = .cash lot.id ∧ row.direction = .debit then cash.unrestored row
        else 0) (fun row hrow => ?_) hsr
    · rw [h.netDebited_eq]
      simpa only [hbk, hdb, and_self, if_true] using hco
    · split
      · next hcnt => exact sub_nonneg.mpr (h.restored_le row hrow hcnt.2)
      · exact le_refl 0
  have hfn := heldOn_nonneg (fun hold => hold.cashLotId = lot.id) cash.fundingHolds
  have hr := heldOn_nonneg (fun hold => hold.cashLotId = lot.id) cash.refundHolds
  have hcn := h.conserved lot hlot
  unfold Cash.accounted at hcn
  rw [remainingAt_of_mem hlot] at hcn
  omega

theorem accounted_of_allocated (hmv : bucket = .credit ∧ cash'.lots = cash.lots ∨
      ∃ lotId lot, bucket = .cash lotId ∧ LotMoved cash.lots lotId (-direction.signed units) lot cash'.lots)
    (hrow : row.Records walletId txId bucket direction units)
    (hins : Inserts cash.allocations row cash'.allocations)
    (hfn : cash'.fundingHolds = cash.fundingHolds) (hr : cash'.refundHolds = cash.refundHolds)
    (other : Uuid) : cash'.accounted other = cash.accounted other := by
  unfold Cash.accounted
  rw [netDebited_insert hins, hrow.bucket, hrow.signed, hfn, hr]
  rcases hmv with ⟨hcr, hlots⟩ | ⟨lotId, lot, hcash, hmv⟩
  · rw [hcr, hlots]
    simp
  · rw [hmv.remainingAt, hcash]
    simp only [CashBucket.cash.injEq]
    split <;> omega

theorem debitLotFor_sound (h : cash.Sound)
    (hlot : ∃ lot, cash.lots.find? item.id = some lot ∧ lot.walletId = walletId)
    (hstep : debitLotFor s txs walletId txId cash item units = .ok cash') :
    cash'.Sound ∧ cash.Framed cash' := by
  obtain ⟨lot, hf, hw⟩ := hlot
  obtain ⟨_, hrow, hmv, hall, _⟩ := debitLotFor_eq_ok hf hstep
  obtain ⟨hmem, hid⟩ := found hf
  refine ⟨h.record hrow hall.inserted hmv.view ?_ (by simp) ?_, ⟨hmv.view, hall.fundingHolds,
    hall.refundHolds⟩⟩
  · intro _ hbk
    cases hbk
    exact ⟨lot, hmem, hid, hw⟩
  · refine accounted_of_allocated (.inr ⟨item.id, lot, rfl, ?_⟩) hrow hall.inserted
      hall.fundingHolds hall.refundHolds
    exact hmv

theorem creditDebit_sound {id : Uuid} (h : cash.Sound)
    (hstep : insertAllocation s txs id walletId txId .credit .debit units cash =
      .ok cash') : cash'.Sound ∧ cash.Framed cash' := by
  obtain ⟨_, hrow, hall, _⟩ := insertAllocation_eq_ok hstep
  have hview : cash'.lots.view CashLot.origin = cash.lots.view CashLot.origin := by rw [hall.lots]
  refine ⟨h.record hrow hall.inserted hview ?_ (by simp) ?_, ⟨hview, hall.fundingHolds,
    hall.refundHolds⟩⟩
  · intro _ hbk
    cases hbk
  · exact accounted_of_allocated (.inl ⟨rfl, hall.lots⟩) hrow hall.inserted
      hall.fundingHolds hall.refundHolds

theorem mem_openLots (h : item ∈ cash.openLots walletId) :
    item ∈ cash.lots.rows ∧ item.walletId = walletId ∧ 0 < item.remainingAmount.units := by
  have hmem := (oldestFirst_perm _ _).mem_iff.mp h
  simpa only [mem_filter, decide_eq_true_eq] using hmem

theorem find?_of_origin (hview : lots'.view CashLot.origin = lots.view CashLot.origin) (hlot : lot ∈ lots.rows) :
    ∃ lot', lots'.find? lot.id = some lot' ∧ lot'.walletId = lot.walletId := by
  obtain ⟨lot', hmem, hid, hw⟩ := exists_of_origin hview hlot
  exact ⟨lot', find?_eq_some.mpr ⟨hmem, hid⟩, hw⟩

theorem debitLots_sound (h : cash.Sound) {result : ℤ × Cash}
    (hloop : takeEach (fun lot : CashLot => lot.remainingAmount.units)
      (debitLotFor s txs walletId txId) (cash.openLots walletId) amount cash =
      .ok result) : result.2.Sound ∧ cash.Framed result.2 := by
  obtain ⟨hrun, _⟩ := takeEach_eq_ok.mp hloop
  refine foldlM_invariant (P := fun st => st.Sound ∧ cash.Framed st) ?_ ⟨h, Cash.Framed.refl cash⟩ hrun
  rintro part hpart st _ ⟨hsn, hfr⟩ hstep
  have hitem : part.1 ∈ cash.openLots walletId := takes_sublist.subset (mem_map_of_mem hpart)
  obtain ⟨hmem, hw, _⟩ := mem_openLots hitem
  obtain ⟨lot, hf, hown⟩ := find?_of_origin hfr.lots hmem
  obtain ⟨hsn', hfr'⟩ := debitLotFor_sound hsn ⟨lot, hf, hown.trans hw⟩ hstep
  exact ⟨hsn', hfr.trans hfr'⟩

/-- A debit spread over the lots keeps the cash sound. -/
theorem allocateCashDebitTx_sound (h : cash.Sound)
    (hstep : allocateCashDebitTx s txs walletId txId amount cash = .ok cash') :
    cash'.Sound ∧ cash.Framed cash' := by
  simp only [allocateCashDebitTx, bind_eq_ok] at hstep
  obtain ⟨_, hloop, hrest⟩ := hstep
  obtain ⟨hsn, hfr⟩ := debitLots_sound h hloop
  split at hrest
  · obtain ⟨hsn', hfr'⟩ := creditDebit_sound hsn hrest
    exact ⟨hsn', hfr.trans hfr'⟩
  · cases hrest
    exact ⟨hsn, hfr⟩

/-- The debits a restoration still has to visit: stored debits of the wallet with enough left. -/
structure RestoreReady (walletId : Uuid) (parts : List (CashAllocation × ℤ)) (cash : Cash) : Prop where
  sound : cash.Sound
  distinct : parts.Pairwise fun a b => a.1.id ≠ b.1.id
  stored : ∀ part ∈ parts, part.1 ∈ cash.allocations.rows ∧ part.1.direction = .debit ∧
    part.1.walletId = walletId ∧ part.2 ≤ cash.unrestored part.1

theorem refillLot_matches
    (h : RestoreReady walletId ((source, units) :: parts) cash) (hbk : source.bucket = .cash lotId) :
    ∃ lot, cash.lots.find? lotId = some lot ∧ lot.walletId = walletId ∧
      lot.remainingAmount.units + units ≤ lot.originalAmount.units := by
  obtain ⟨hsr, hdb, hw, _⟩ := h.stored (source, units) mem_cons_self
  obtain ⟨lot, hlot, hid, hown⟩ := h.sound.lot source hsr lotId hbk
  have hroom := h.sound.room hsr hdb hlot (hbk.trans (congrArg CashBucket.cash hid.symm))
  exact ⟨lot, find?_eq_some.mpr ⟨hlot, hid⟩, hown.trans hw, by omega⟩

theorem refillLot_matched {matched : Bool} (hf : lots.find? lotId = some lot) (hw : lot.walletId = walletId)
    (hroom : lot.remainingAmount.units + units ≤ lot.originalAmount.units)
    (h : refillLot lotId walletId units lots = .ok (matched, lots')) : matched := by
  unfold refillLot at h
  rw [hf] at h
  simp only [hw, hroom, and_self, if_true, eq_ok, Prod.mk.injEq] at h
  obtain ⟨_, _, hmt, _⟩ := h
  exact hmt.symm

theorem restoreAllocation_ready {part : CashAllocation × ℤ} (h : RestoreReady walletId (part :: parts) cash)
    (hstep : restoreAllocation s txs walletId txId cash part.1 part.2 = .ok cash') :
    RestoreReady walletId parts cash' ∧ cash.Framed cash' := by
  obtain ⟨source, units⟩ := part
  obtain ⟨row, hrow, hlots, hall⟩ := restoreAllocation_eq_ok hstep
  obtain ⟨hsr, hdb, hw, hu⟩ := h.stored (source, units) mem_cons_self
  obtain ⟨hfs, hd⟩ := pairwise_cons.mp h.distinct
  have hmv : source.bucket = .credit ∧ cash'.lots = cash.lots ∨ ∃ lotId lot,
      source.bucket = .cash lotId ∧ LotMoved cash.lots lotId units lot cash'.lots := by
    cases hbk : source.bucket with
    | credit =>
      rw [hbk] at hlots
      exact .inl ⟨rfl, (Except.ok.inj hlots).symm⟩
    | cash lotId =>
      simp only [hbk, restoreLot, eq_ok] at hlots
      obtain ⟨_, href, hsame⟩ := hlots
      obtain ⟨lot, hf, hown, hroom⟩ := refillLot_matches h hbk
      have hmt := refillLot_matched hf hown hroom href
      rcases refillLot_eq_ok href with ⟨hfl, _⟩ | ⟨_, lot', _, hmv⟩
      · rw [hmt] at hfl
        cases hfl
      · exact .inr ⟨lotId, lot', rfl, hsame ▸ hmv⟩
  have hview : cash'.lots.view CashLot.origin = cash.lots.view CashLot.origin := by
    rcases hmv with ⟨_, hsame⟩ | ⟨_, _, _, hmv⟩
    · rw [hsame]
    · exact hmv.view
  have hfr : cash.Framed cash' := ⟨hview, hall.fundingHolds, hall.refundHolds⟩
  refine ⟨⟨?_, hd, ?_⟩, hfr⟩
  · refine h.sound.record hrow hall.inserted hview
      (fun lotId hlot => hw ▸ h.sound.lot source hsr lotId hlot)
      (fun id hid => ⟨source, hsr, Direction.restore.inj hid, hdb, rfl, hw, hu⟩) ?_
    refine accounted_of_allocated ?_ hrow hall.inserted hfr.fundingHolds hfr.refundHolds
    simpa only [Direction.signed, neg_neg] using hmv
  · intro later hlr
    obtain ⟨hmem, hlate, hlat, hleft⟩ := h.stored later (mem_cons_of_mem _ hlr)
    have hne : row.direction ≠ .restore later.1.id := by
      rw [hrow.direction]
      exact fun heq => hfs later hlr (Direction.restore.inj heq)
    refine ⟨(mem_insert hall.inserted).mpr (.inr hmem), hlate, hlat, ?_⟩
    have hsame := restoredOf_insert hall.inserted later.1.id
    rw [if_neg hne, add_zero] at hsame
    rw [Cash.unrestored, hsame]
    exact hleft

theorem restoreReady_takes (h : cash.Sound) (walletId srcTxId : Uuid) (amount : ℤ) :
    RestoreReady walletId (takes cash.unrestored (cash.restorable walletId srcTxId) amount)
      cash := by
  have hstor (source : CashAllocation) (hsr : source ∈ cash.restorable walletId srcTxId) :
      source ∈ cash.allocations.rows ∧ source.walletId = walletId ∧ source.direction = .debit ∧
        0 < cash.unrestored source := by
    have hmem := (newestFirst_perm _ _).mem_iff.mp hsr
    simp only [mem_filter, decide_eq_true_eq] at hmem
    obtain ⟨hrow, hw, _, hdb, hleft⟩ := hmem
    exact ⟨hrow, hw, hdb, sub_pos.mpr hleft⟩
  refine ⟨h, ?_, ?_⟩
  · have hrows : cash.allocations.rows.Pairwise fun a b => a.id ≠ b.id :=
      cash.allocations.unique.imp fun hfree hid => by
        rw [Key.clash_of_id _ _ hid] at hfree
        exact Bool.noConfusion hfree
    have hor : (cash.restorable walletId srcTxId).Pairwise fun a b => a.id ≠ b.id :=
      ((newestFirst_perm _ _).pairwise_iff fun hne => hne.symm).mpr (hrows.filter _)
    have hvs : ((takes cash.unrestored (cash.restorable walletId srcTxId) amount).map
        Prod.fst).Pairwise fun a b => a.id ≠ b.id := hor.sublist takes_sublist
    rwa [pairwise_map] at hvs
  · intro part hpart
    obtain ⟨hmem, _, hle⟩ := takes_bounds (fun source hsr => (hstor source hsr).2.2.2) hpart
    obtain ⟨hrow, hw, hdb, _⟩ := hstor part.1 hmem
    exact ⟨hrow, hdb, hw, hle⟩

/-- Restoring what a transaction took keeps the cash sound. -/
theorem restoreCashAllocationTx_sound (h : cash.Sound) {srcTxId : Uuid}
    (hstep : restoreCashAllocationTx s txs walletId srcTxId txId amount
      cash = .ok cash') : cash'.Sound ∧ cash.Framed cash' := by
  simp only [restoreCashAllocationTx, eq_ok] at hstep
  obtain ⟨_, hloop, _, _, rfl⟩ := hstep
  obtain ⟨hrun, _⟩ := takeEach_eq_ok.mp hloop
  have hrd := foldlM_consumes (P := fun parts st => RestoreReady walletId parts st ∧ cash.Framed st)
    (fun part rest st st' hst hstep => by
      obtain ⟨hrd, hfr⟩ := restoreAllocation_ready hst.1 hstep
      exact ⟨hrd, hst.2.trans hfr⟩)
    ⟨restoreReady_takes h walletId srcTxId amount, Cash.Framed.refl cash⟩ hrun
  exact ⟨hrd.1.sound, hrd.2⟩

end ModelDock.Store
