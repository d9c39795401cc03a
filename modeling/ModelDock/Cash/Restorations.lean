import ModelDock.Cash.Allocations
import ModelDock.Store.Funding.Adjust

/-!
# What a money path restores

A restoration names the debit it gives back. A reversal or a lower late price restores debits of the charge of
its operation only; a debit of any other transaction stays as it was recorded.
-/

namespace ModelDock.Store

open Relational Table

/-- Allocations were added, and those that restore give back debits of the given transactions. -/
structure Cash.Extends (cash : Cash) (restores : Uuid → Prop) (cash' : Cash) : Prop where
  rows : ∀ row ∈ cash.allocations.rows, row ∈ cash'.allocations.rows
  restored : ∀ row ∈ cash.allocations.rows, ¬restores row.walletTransactionId →
    cash'.restoredOf row.id = cash.restoredOf row.id

/-- No transaction's debits are given back. -/
def restoresNothing (_ : Uuid) : Prop := False

variable {s : Session} {txs : Table WalletTransaction} {cash mid cash' : Cash}
  {restores : Uuid → Prop} {walletId txId opId : Uuid}
  {units amount : ℤ}

theorem Cash.Extends.of_same (h : cash'.allocations = cash.allocations) : cash.Extends restores cash' := by
  refine ⟨fun row hrow => h ▸ hrow, fun row _ _ => ?_⟩
  rw [Cash.restoredOf, h]
  rfl

theorem Cash.Extends.trans (h : cash.Extends restores mid) (h' : mid.Extends restores cash') :
    cash.Extends restores cash' := by
  refine ⟨fun row hrow => h'.rows row (h.rows row hrow), fun row hrow hne => ?_⟩
  rw [h'.restored row (h.rows row hrow) hne, h.restored row hrow hne]

theorem Cash.Attributes.extends (h : cash.Attributes txs walletId txId true amount cash') :
    cash.Extends restoresNothing cash' :=
  ⟨h.kept, fun row _ _ => h.restoredOf rfl row.id⟩

theorem restoreAllocation_extends {source : CashAllocation} (hsr : source ∈ cash.allocations.rows)
    (h : restoreAllocation s txs walletId txId cash source units = .ok cash') :
    cash.Extends (· = source.walletTransactionId) cash' := by
  obtain ⟨row, hrow, _, hall⟩ := restoreAllocation_eq_ok h
  have hins : Inserts cash.allocations row cash'.allocations := hall.inserted
  refine ⟨fun x hx => (mem_insert hins).mpr (.inr hx), fun x hx hne => ?_⟩
  rw [restoredOf_insert hins, hrow.direction, if_neg, add_zero]
  rintro hid
  have hsame : source.id = x.id := Direction.restore.inj hid
  rw [eq_of_rowId hsr hx hsame] at hne
  exact hne rfl

theorem restoreCashAllocationTx_extends {srcTxId : Uuid}
    (h : restoreCashAllocationTx s txs walletId srcTxId txId amount cash =
      .ok cash') : cash.Extends (· = srcTxId) cash' := by
  simp only [restoreCashAllocationTx, eq_ok] at h
  obtain ⟨_, hloop, _, _, rfl⟩ := h
  obtain ⟨hrun, _⟩ := takeEach_eq_ok.mp hloop
  refine foldlM_invariant (fun part hpart st st' hst hstep => hst.trans ?_) (.of_same rfl) hrun
  have hls : part.1 ∈ cash.restorable walletId srcTxId :=
    takes_sublist.subset (List.mem_map_of_mem hpart)
  have hmem := (newestFirst_perm _ _).mem_iff.mp hls
  simp only [List.mem_filter, decide_eq_true_eq] at hmem
  have hrs := restoreAllocation_extends (hst.rows part.1 hmem.1) hstep
  rwa [hmem.2.2.1] at hrs

theorem chargeTransaction?_operation {opId : Uuid} {source : WalletTransaction}
    (h : chargeTransaction? opId txs = some source) :
    source ∈ txs.rows ∧ source.fundingOperationId = some opId := by
  have hmem := (oldestFirst_perm _ _).mem_iff.mp (List.mem_of_head? h)
  simp only [List.mem_filter, decide_eq_true_eq] at hmem
  exact ⟨hmem.1, hmem.2.1⟩

/-- A late adjustment restores only transactions of its own operation. -/
theorem moveLateCash_extends {op : FundingOperation} {difference : ℤ}
    (h : moveLateCash s op difference txs cash = .ok cash') :
    ∃ restores : Uuid → Prop, cash.Extends restores cash' ∧ ∀ id, restores id →
      ∃ source ∈ txs.rows, source.id = id ∧ source.fundingOperationId = some op.id := by
  unfold moveLateCash at h
  split at h
  · next hpos =>
    exact ⟨restoresNothing, (allocateCashDebitTx_attributes hpos.le h).extends, fun _ hnone => hnone.elim⟩
  · simp only [eq_ok] at h
    obtain ⟨source, hsr, hrs⟩ := h
    obtain ⟨hmem, hop⟩ := chargeTransaction?_operation hsr
    exact ⟨_, restoreCashAllocationTx_extends hrs, fun id hid => ⟨source, hmem, hid.symm, hop⟩⟩

end ModelDock.Store
