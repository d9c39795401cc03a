import ModelDock.Cash.Statements

/-!
# What a money path attributes

Every helper that attributes money writes its allocations for one wallet transaction and in one direction.
`Cash.Attributes` says so for every weight of the wallet, the transaction and the direction at once.
-/

namespace ModelDock.Store

open Relational Table

/-- The allocation takes money, and does not give it back. -/
def Direction.isDebit : Direction → Bool
  | .debit => true
  | .restore _ => false

/-- The allocations, each weighted by its wallet, its transaction and its direction. -/
def tally (w : Uuid → Uuid → Bool → ℤ) (allocations : Table CashAllocation) : ℤ :=
  allocations.sum fun row =>
    w row.walletId row.walletTransactionId row.direction.isDebit * row.amount.units

/-- Allocations of an amount were added, all for one stored transaction and in one direction. -/
structure Cash.Attributes (cash : Cash) (transactions : Table WalletTransaction)
    (walletId transactionId : Uuid) (debit : Bool) (amount : ℤ) (cash' : Cash) : Prop where
  tally : ∀ w, tally w cash'.allocations = tally w cash.allocations + w walletId transactionId debit * amount
  rows : ∀ row ∈ cash'.allocations.rows, row ∈ cash.allocations.rows ∨
    row.walletTransactionId = transactionId ∧ (transactions.find? transactionId).isSome
  kept : ∀ row ∈ cash.allocations.rows, row ∈ cash'.allocations.rows
  restoredOf : debit → ∀ id, cash'.restoredOf id = cash.restoredOf id

variable {s : Session} {txs : Table WalletTransaction} {cash mid cash' : Cash}
  {row : CashAllocation} {bucket : CashBucket} {direction : Direction} {debit : Bool}
  {walletId transactionId opId : Uuid} {txId? : Option Uuid} {units amount amount' : ℤ}

theorem Cash.Attributes.of_same (h : cash'.allocations = cash.allocations) :
    cash.Attributes txs walletId transactionId debit 0 cash' := by
  refine ⟨fun w => ?_, fun row hrow => .inl (h ▸ hrow), fun row hrow => h ▸ hrow, fun _ id => ?_⟩
  · rw [h, mul_zero, add_zero]
  · rw [Cash.restoredOf, h]
    rfl

theorem Cash.Attributes.trans (h : cash.Attributes txs walletId transactionId debit amount mid)
    (h' : mid.Attributes txs walletId transactionId debit amount' cash') :
    cash.Attributes txs walletId transactionId debit (amount + amount') cash' := by
  refine ⟨fun w => ?_, fun row hrow => ?_, fun row hrow => h'.kept row (h.kept row hrow), fun hdb id => ?_⟩
  · rw [h'.tally, h.tally, mul_add, add_assoc]
  · rcases h'.rows row hrow with hrow | hnew
    · exact h.rows row hrow
    · exact .inr hnew
  · rw [h'.restoredOf hdb, h.restoredOf hdb]

theorem insertAllocation_attributes {id : Uuid}
    (h : insertAllocation s txs id walletId transactionId bucket direction units cash =
      .ok cash') :
    cash.Attributes txs walletId transactionId direction.isDebit units cash' := by
  obtain ⟨_, hrow, hall, hstor⟩ := insertAllocation_eq_ok h
  refine ⟨fun w => ?_, fun x hx => ?_, fun x hx => (mem_insert hall.inserted).mpr (.inr hx),
    fun hdb id => ?_⟩
  · rw [tally, sum_insert hall.inserted, add_comm, tally, hrow.walletId, hrow.transactionId,
      hrow.direction, hrow.amount]
  · rcases (mem_insert hall.inserted).mp hx with rfl | hx
    · exact .inr ⟨hrow.transactionId, hstor⟩
    · exact .inl hx
  · cases direction with
    | debit => rw [restoredOf_insert hall.inserted, hrow.direction, if_neg (by simp), add_zero]
    | restore _ => cases hdb

/-- Steps that each attribute their part attribute the sum. -/
theorem foldlM_attributes {ι : Type} {step : Cash → ι × ℤ → Except StoreError Cash} {parts : List (ι × ℤ)}
    (hstep : ∀ part ∈ parts, ∀ st st', step st part = .ok st' →
      st.Attributes txs walletId transactionId debit part.2 st')
    (hrun : parts.foldlM step cash = .ok cash') :
    cash.Attributes txs walletId transactionId debit (allocated parts) cash' := by
  induction parts generalizing cash with
  | nil =>
    rw [List.foldlM_nil, pure_eq_ok] at hrun
    exact .of_same (by rw [hrun])
  | cons part parts ih =>
    rw [List.foldlM_cons, bind_eq_ok] at hrun
    obtain ⟨_, hpart, hrest⟩ := hrun
    exact (hstep part List.mem_cons_self _ _ hpart).trans
      (ih (fun other hne => hstep other (List.mem_cons_of_mem _ hne)) hrest)

theorem debitLotFor_attributes {item : CashLot}
    (h : debitLotFor s txs walletId transactionId cash item units = .ok cash') :
    cash.Attributes txs walletId transactionId true units cash' := by
  simp only [debitLotFor, bind_eq_ok] at h
  obtain ⟨_, _, hins⟩ := h
  obtain ⟨htl, hrows, hkept, hrs⟩ := insertAllocation_attributes hins
  exact ⟨htl, hrows, hkept, hrs⟩

theorem allocateCashDebitTx_attributes (ham : 0 ≤ amount)
    (h : allocateCashDebitTx s txs walletId transactionId amount cash = .ok cash') :
    cash.Attributes txs walletId transactionId true amount cash' := by
  simp only [allocateCashDebitTx, bind_eq_ok] at h
  obtain ⟨_, hloop, hrest⟩ := h
  obtain ⟨hrun, hleft⟩ := takeEach_eq_ok.mp hloop
  have hlots := foldlM_attributes (fun part _ st st' hstep => debitLotFor_attributes hstep) hrun
  have hcv : allocated (takes (fun lot : CashLot => lot.remainingAmount.units)
      (cash.openLots walletId) amount) =
      min amount ((cash.openLots walletId).map fun lot => lot.remainingAmount.units).sum :=
    allocated_takes (fun lot _ => lot.remainingAmount.nonneg) ham
  split at hrest
  · have hboth := hlots.trans (insertAllocation_attributes hrest)
    rwa [hleft, add_sub_cancel] at hboth
  · next _ =>
    obtain rfl := Except.ok.inj hrest
    have hall : allocated (takes (fun lot : CashLot => lot.remainingAmount.units)
        (cash.openLots walletId) amount) = amount := by omega
    rwa [hall] at hlots

theorem settleHold_attributes {hold : FundingCashAllocation} {consumed released : ℤ}
    (htx : ∀ id, txId? = some id → id = transactionId) (hco : 0 ≤ consumed)
    (h : settleHold s txs walletId txId? cash hold consumed released = .ok cash') :
    cash.Attributes txs walletId transactionId true consumed cash' := by
  simp only [settleHold, eq_ok] at h
  obtain ⟨refilled, hrl, spent, hcn, _, _, rfl⟩ := h
  have hsame : refilled.allocations = cash.allocations := by
    unfold releaseHold at hrl
    split at hrl
    · simp only [eq_ok] at hrl
      obtain ⟨_, _, _, _, rfl⟩ := hrl
      rfl
    · rw [← Except.ok.inj hrl]
  have hsp : refilled.Attributes txs walletId transactionId true consumed spent := by
    unfold consumeHold at hcn
    split at hcn
    · simp only [eq_ok] at hcn
      obtain ⟨id, hid, hins⟩ := hcn
      obtain rfl := htx id hid
      exact insertAllocation_attributes hins
    · next hnone =>
      obtain rfl := le_antisymm (not_lt.mp hnone) hco
      exact .of_same (by rw [Except.ok.inj hcn])
  have hboth := (Cash.Attributes.of_same hsame).trans hsp
  rw [zero_add] at hboth
  exact ⟨hboth.tally, hboth.rows, hboth.kept, hboth.restoredOf⟩

theorem settleCashLotsTx_attributes (htx : ∀ id, txId? = some id → id = transactionId) (ham : 0 ≤ amount)
    (h : settleCashLotsTx s txs opId walletId txId? amount cash = .ok cash') :
    cash.Attributes txs walletId transactionId true amount cash' := by
  simp only [settleCashLotsTx, bind_eq_ok] at h
  obtain ⟨_, hloop, hrest⟩ := h
  obtain ⟨hrun, hleft⟩ := settleEach_eq_ok.mp hloop
  have hhs := foldlM_attributes (fun part hpart st st' hstep =>
    settleHold_attributes htx
      (consumptions_bounds (fun hold _ => hold.reservedAmount.nonneg) hpart).2.1 hstep) hrun
  have hcv : allocated (consumptions (fun hold : FundingCashAllocation => hold.reservedAmount.units)
      (cash.holdsOf opId) amount) =
      min amount ((cash.holdsOf opId).map fun hold => hold.reservedAmount.units).sum :=
    allocated_consumptions (fun hold _ => hold.reservedAmount.nonneg) ham
  split at hrest
  · next hover =>
    simp only [eq_ok] at hrest
    obtain ⟨id, hid, hsp⟩ := hrest
    obtain rfl := htx id hid
    have hboth := hhs.trans (allocateCashDebitTx_attributes hover.le hsp)
    rwa [hleft, add_sub_cancel] at hboth
  · next _ =>
    obtain rfl := Except.ok.inj hrest
    have hall : allocated (consumptions (fun hold : FundingCashAllocation => hold.reservedAmount.units)
        (cash.holdsOf opId) amount) = amount := by omega
    rwa [hall] at hhs

theorem restoreCashAllocationTx_attributes {srcTxId : Uuid} (ham : 0 ≤ amount)
    (h : restoreCashAllocationTx s txs walletId srcTxId transactionId amount cash =
      .ok cash') : cash.Attributes txs walletId transactionId false amount cash' := by
  simp only [restoreCashAllocationTx, eq_ok] at h
  obtain ⟨_, hloop, _, _, rfl⟩ := h
  obtain ⟨hrun, _⟩ := takeEach_eq_ok.mp hloop
  have hpos (source : CashAllocation) (hsr : source ∈ cash.restorable walletId srcTxId) :
      0 < cash.unrestored source := by
    have hmem := (newestFirst_perm _ _).mem_iff.mp hsr
    simp only [List.mem_filter, decide_eq_true_eq] at hmem
    exact sub_pos.mpr hmem.2.2.2.2
  have hall : allocated (takes cash.unrestored (cash.restorable walletId srcTxId) amount) =
      min amount ((cash.restorable walletId srcTxId).map cash.unrestored).sum :=
    allocated_takes (fun source hsr => (hpos source hsr).le) ham
  have hrs := foldlM_attributes (fun part _ st st' hstep => by
    simp only [restoreAllocation, bind_eq_ok] at hstep
    obtain ⟨_, _, hins⟩ := hstep
    obtain ⟨htl, hrows, hkept, hrs⟩ := insertAllocation_attributes hins
    exact (⟨htl, hrows, hkept, hrs⟩ :
      st.Attributes txs walletId transactionId false part.2 st')) hrun
  have hexac : allocated (takes cash.unrestored (cash.restorable walletId srcTxId) amount) =
      amount := by omega
  rwa [hexac] at hrs

theorem allocateChargebackTx_attributes {rechargeOrderId : Uuid} (ham : 0 ≤ amount)
    (h : allocateChargebackTx s txs walletId rechargeOrderId transactionId amount cash =
      .ok cash') : cash.Attributes txs walletId transactionId true amount cash' := by
  simp only [allocateChargebackTx, bind_eq_ok] at h
  obtain ⟨result, hlot, hrest⟩ := h
  have hfs : cash.Attributes txs walletId transactionId true result.1 result.2 ∧
      result.1 ≤ amount := by
    unfold debitRechargeCashLotTx at hlot
    split at hlot
    · cases hlot
      exact ⟨.of_same rfl, ham⟩
    · split at hlot
      · cases hlot
        exact ⟨.of_same rfl, ham⟩
      · simp only [eq_ok] at hlot
        obtain ⟨_, hdt, rfl⟩ := hlot
        exact ⟨debitLotFor_attributes hdt, min_le_left _ _⟩
  obtain ⟨hdb, _⟩ := hfs
  split at hrest
  · have hboth := hdb.trans (insertAllocation_attributes hrest)
    rwa [add_sub_cancel] at hboth
  · next _ =>
    obtain rfl := Except.ok.inj hrest
    have hall : result.1 = amount := by omega
    rwa [hall] at hdb

/-- A succeeded refund attributes what its hold reserved. -/
theorem settleRefundCashTx_attributes {refundOrderId : Uuid} {succeeded : Bool}
    (htx : ∀ id, txId? = some id → id = transactionId)
    (h : settleRefundCashTx s txs refundOrderId walletId txId? succeeded cash = .ok cash') :
    ∃ hold ∈ cash.refundHolds.rows, hold.refundOrderId = refundOrderId ∧
      cash.Attributes txs walletId transactionId true
        (if succeeded then hold.reservedAmount.units else 0) cash' := by
  simp only [settleRefundCashTx, eq_ok] at h
  obtain ⟨hold, hf, h⟩ := h
  obtain ⟨hmem, hr⟩ := queried hf
  refine ⟨hold, hmem, hr, ?_⟩
  cases succeeded with
  | true =>
    simp only [if_true, eq_ok] at h
    obtain ⟨id, hid, _, hins, _, _, rfl⟩ := h
    obtain rfl := htx id hid
    obtain ⟨htl, hrows, hkept, hrs⟩ := insertAllocation_attributes hins
    exact ⟨htl, hrows, hkept, hrs⟩
  | false =>
    simp only [Bool.false_eq_true, if_false, eq_ok] at h
    obtain ⟨_, _, _, _, _, _, rfl⟩ := h
    exact .of_same rfl

end ModelDock.Store
