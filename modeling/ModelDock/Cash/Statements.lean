import ModelDock.Relational.View
import ModelDock.Store.CashLots

/-!
# What single cash statements write

How each statement of the cash helpers moves the sums over the cash tables, whatever rows the sums select.
-/

namespace ModelDock.Store

open Relational Table

variable {consumed released : ℤ} {now : Timestamp} {txId? : Option Uuid}

/-- A lot without its remaining amount; nothing else of a lot ever changes. -/
def CashLot.origin (lot : CashLot) : CashLot :=
  { lot with remainingAmount := .zero, remaining_le := lot.originalAmount.nonneg }

/-- Cash left on the selected lots. -/
def remainingOn (p : CashLot → Bool) (lots : Table CashLot) : ℤ :=
  lots.sum fun lot => if p lot.origin then lot.remainingAmount.units else 0

/-- One lot's remaining amount moved, and nothing else. -/
structure LotMoved (lots : Table CashLot) (lotId : Uuid) (delta : ℤ) (lot : CashLot)
    (lots' : Table CashLot) : Prop where
  found : lots.find? lotId = some lot
  moved : ∃ lot', lot'.remainingAmount.units = lot.remainingAmount.units + delta ∧
    lot'.origin = lot.origin ∧ lots' = lots.replace lot'

variable {lots lots' : Table CashLot} {lot lot' : CashLot} {lotId walletId : Uuid} {units delta : ℤ}

theorem CashLot.setRemaining_eq_ok (h : lot.setRemaining units = .ok lot') :
    lot'.remainingAmount.units = units ∧ lot'.origin = lot.origin := by
  simp only [CashLot.setRemaining, eq_ok, money_eq_ok] at h
  obtain ⟨_, hrem, _, rfl⟩ := h
  exact ⟨hrem, rfl⟩

theorem CashLot.key_of_origin (h : lot'.origin = lot.origin) : Keyed.key lot' = Keyed.key lot := by
  have hkey : Keyed.key lot'.origin = Keyed.key lot.origin := by rw [h]
  exact hkey

theorem CashLot.columns_of_origin (h : lot'.origin = lot.origin) :
    lot'.id = lot.id ∧ lot'.walletId = lot.walletId ∧ lot'.originalAmount = lot.originalAmount := by
  have hcl : (lot'.origin.id, lot'.origin.walletId, lot'.origin.originalAmount) =
      (lot.origin.id, lot.origin.walletId, lot.origin.originalAmount) := by rw [h]
  simpa only [Prod.mk.injEq, CashLot.origin] using hcl

theorem lot_eq_of_order {orderId : Uuid} (hlot : lot ∈ lots.rows) (ho : lot.rechargeOrderId = some orderId)
    (hlot' : lot' ∈ lots.rows) (ho' : lot'.rechargeOrderId = some orderId) : lot' = lot := by
  have hcl : Key.clash (Keyed.key lot') (Keyed.key lot) := by
    have hsame : sameValue lot'.rechargeOrderId lot.rechargeOrderId := by
      rw [ho, sameValue_some, ho']
    simp only [Key.clash, Keyed.key, hsame, Bool.or_true]
  exact eq_of_clash hlot' hlot hcl

theorem debitLot_moved (hf : lots.find? lotId = some lot) (h : debitLot lotId units lots = .ok lots') :
    LotMoved lots lotId (-units) lot lots' := by
  obtain ⟨hmem, rfl⟩ := found hf
  obtain ⟨new, hnew, rfl⟩ := update_of_mem hmem h
  obtain ⟨_, hor⟩ := CashLot.setRemaining_eq_ok hnew
  exact ⟨hf, new, by omega, hor, rfl⟩

theorem debitLot_succeeds (hmem : lot ∈ lots.rows) (hu : 0 ≤ units)
    (hleft : units ≤ lot.remainingAmount.units) : ∃ lots', debitLot lot.id units lots = .ok lots' := by
  have hnn : 0 ≤ lot.remainingAmount.units - units := by omega
  have hfits : lot.remainingAmount.units - units < numericBound := by
    have := lot.remainingAmount.fits
    omega
  have hle : lot.remainingAmount.units - units ≤ lot.originalAmount.units := by
    have := lot.remaining_le
    omega
  have hset : lot.setRemaining (lot.remainingAmount.units - units) =
      .ok { lot with remainingAmount := ⟨_, hnn, hfits⟩, remaining_le := hle } := by
    simp only [CashLot.setRemaining, bind_eq_ok, money_eq_ok]
    exact ⟨⟨_, hnn, hfits⟩, rfl, dif_pos hle⟩
  exact ⟨_, update_succeeds (find?_of_mem hmem) hset⟩

theorem refillLot_eq_ok {matched : Bool} (h : refillLot lotId walletId units lots = .ok (matched, lots')) :
    matched = false ∧ lots' = lots ∨
      matched ∧ ∃ lot, lot.walletId = walletId ∧ LotMoved lots lotId units lot lots' := by
  unfold refillLot at h
  split at h
  · cases h
    exact .inl ⟨rfl, rfl⟩
  · next lot hf =>
    split at h
    · next hgr =>
      simp only [eq_ok] at h
      obtain ⟨new, hnew, rfl, rfl⟩ := h
      obtain ⟨hrem, hor⟩ := CashLot.setRemaining_eq_ok hnew
      exact .inr ⟨rfl, lot, hgr.1, hf, new, hrem, hor, rfl⟩
    · cases h
      exact .inl ⟨rfl, rfl⟩

section

variable (h : LotMoved lots lotId delta lot lots')
include h

theorem LotMoved.view : lots'.view CashLot.origin = lots.view CashLot.origin := by
  obtain ⟨_, _, hor, rfl⟩ := h.moved
  exact Table.view_replace (Table.found h.found).1 (CashLot.key_of_origin hor) hor

theorem LotMoved.remainingOn_eq (p : CashLot → Bool) :
    remainingOn p lots' = remainingOn p lots + if p lot.origin then delta else 0 := by
  obtain ⟨_, hrem, hor, rfl⟩ := h.moved
  rw [remainingOn, Table.sum_replace (Table.found h.found).1 (CashLot.key_of_origin hor), hor, remainingOn]
  split <;> omega

theorem LotMoved.id : lot.id = lotId :=
  (Table.found h.found).2

end

/-- The columns of a lot that its creator chose: it is untouched. -/
structure CashLot.Opened (lot : CashLot) (id walletId : Uuid) (rechargeOrderId : Option Uuid)
    (transactionId : Uuid) (sourceReference : SourceReference) (units : ℤ) : Prop where
  id : lot.id = id
  walletId : lot.walletId = walletId
  rechargeOrderId : lot.rechargeOrderId = rechargeOrderId
  sourceTransactionId : lot.sourceTransactionId = some transactionId
  sourceReference : lot.sourceReference = sourceReference
  original : lot.originalAmount.units = units
  remaining : lot.remainingAmount = lot.originalAmount

theorem createCashLotTx_eq_ok {s : Session} {rechargeOrderId : Option Uuid} {transactionId : Uuid}
    {sourceKind : LotSource} {sourceReference : SourceReference} {currency : Currency}
    {refundable : Bool} {cash cash' : Cash}
    (h : createCashLotTx s walletId rechargeOrderId transactionId sourceKind sourceReference units
      currency refundable cash = .ok cash') :
    ∃ lot : CashLot,
      lot.Opened (s.uuid .lot) walletId rechargeOrderId transactionId sourceReference units ∧
      (cash' = cash ∧ (∃ old ∈ cash.lots.rows, Key.clash (Keyed.key lot) (Keyed.key old)) ∨
        Inserts cash.lots lot cash'.lots ∧
          cash' = { cash with lots := cash'.lots }) := by
  simp only [createCashLotTx, eq_ok, money_eq_ok] at h
  obtain ⟨amount, ham, hpos, h⟩ := h
  refine ⟨⟨s.uuid .lot, walletId, rechargeOrderId, some transactionId, sourceKind, sourceReference,
    amount, amount, currency, refundable, s.now, hpos, le_refl _⟩, ⟨rfl, rfl, rfl, rfl, rfl, ham, rfl⟩, ?_⟩
  split at h
  · next lots hins =>
    cases h
    exact .inr ⟨hins, rfl⟩
  · next _ hfl =>
    cases h
    refine .inl ⟨rfl, ?_⟩
    by_contra hfree
    simp only [not_exists, not_and, Bool.not_eq_true] at hfree
    rw [Table.insert, dif_pos hfree] at hfl
    cases hfl

/-- The sign of a direction: restorations give back. -/
def Direction.signed (direction : Direction) (units : ℤ) : ℤ :=
  match direction with
  | .debit => units
  | .restore _ => -units

/-- What an allocation takes from its bucket. -/
def CashAllocation.signed (row : CashAllocation) : ℤ := row.direction.signed row.amount.units

/-- The columns of an allocation that the caller chose. -/
structure CashAllocation.Records (row : CashAllocation) (walletId transactionId : Uuid)
    (bucket : CashBucket) (direction : Direction) (units : ℤ) : Prop where
  walletId : row.walletId = walletId
  transactionId : row.walletTransactionId = transactionId
  bucket : row.bucket = bucket
  direction : row.direction = direction
  amount : row.amount.units = units

/-- One allocation was added to the cash tables, and nothing else. -/
structure Cash.Allocated (cash : Cash) (row : CashAllocation) (cash' : Cash) : Prop where
  inserted : cash.allocations.insert row StoreError.uniqueViolation = .ok cash'.allocations
  lots : cash'.lots = cash.lots
  fundingHolds : cash'.fundingHolds = cash.fundingHolds
  refundHolds : cash'.refundHolds = cash.refundHolds

variable {s : Session} {txs : Table WalletTransaction} {cash cash' : Cash}
  {id transactionId : Uuid} {bucket : CashBucket} {direction : Direction} {row : CashAllocation}

section

variable (h : insertAllocation s txs id walletId transactionId bucket direction units cash = .ok cash')
include h

theorem insertAllocation_eq_ok :
    ∃ row : CashAllocation, row.Records walletId transactionId bucket direction units ∧
      cash.Allocated row cash' ∧ (txs.find? transactionId).isSome := by
  simp only [insertAllocation, eq_ok, money_eq_ok] at h
  obtain ⟨_, ham, _, _, hstor, _, hins, rfl⟩ := h
  exact ⟨_, ⟨rfl, rfl, rfl, rfl, ham⟩, ⟨hins, rfl, rfl, rfl⟩, hstor⟩

theorem insertAllocation_key :
    ∃ row : CashAllocation, Keyed.key row = (⟨id, transactionId, bucket, direction⟩ : CashAllocationKey) ∧
      Inserts cash.allocations row cash'.allocations := by
  simp only [insertAllocation, eq_ok] at h
  obtain ⟨_, _, _, _, _, _, hins, rfl⟩ := h
  exact ⟨_, rfl, hins⟩

end

theorem insertAllocation_succeeds (hpos : 0 < units) (hfits : units < numericBound)
    (hstor : (txs.find? transactionId).isSome)
    (hnew : ∀ row ∈ cash.allocations.rows, Key.clash
      (⟨id, transactionId, bucket, direction⟩ : CashAllocationKey) (Keyed.key row) = false) :
    ∃ cash', insertAllocation s txs id walletId transactionId bucket direction units cash =
      .ok cash' := by
  let row : CashAllocation :=
    ⟨id, walletId, transactionId, bucket, direction, ⟨units, hpos.le, hfits⟩, s.now, hpos⟩
  have hrow : ∀ x ∈ cash.allocations.rows, Key.clash (Keyed.key row) (Keyed.key x) = false := hnew
  obtain ⟨allocations, hins⟩ := insert_succeeds hrow StoreError.uniqueViolation
  refine ⟨{ cash with allocations := allocations }, ?_⟩
  simp only [insertAllocation, eq_ok, money_eq_ok]
  exact ⟨⟨units, hpos.le, hfits⟩, rfl, hpos, (), hstor, allocations, hins, rfl⟩

theorem CashAllocation.Records.signed
    (h : row.Records walletId transactionId bucket direction units) : row.signed = direction.signed units := by
  rw [CashAllocation.signed, h.direction, h.amount]

theorem restoredOf_insert (h : Inserts cash.allocations row cash'.allocations) (id : Uuid) :
    cash'.restoredOf id =
      cash.restoredOf id + if row.direction = .restore id then row.amount.units else 0 := by
  rw [Cash.restoredOf, sum_insert h, add_comm, Cash.restoredOf]

/-- A row that holds cash of a lot until it is settled: of a request in flight, or of a pending refund. -/
class CashHold (R : Type) where
  settledAt : R → Option Timestamp
  reservedAmount : R → Money

instance : CashHold FundingCashAllocation := ⟨fun hold => hold.settledAt, fun hold => hold.reservedAmount⟩

instance : CashHold RefundCashAllocation := ⟨fun hold => hold.settledAt, fun hold => hold.reservedAmount⟩

/-- What the selected open holds of a table hold. -/
def heldOn {R K : Type} [Key K] [Keyed R K] [CashHold R] (p : R → Bool) (holds : Table R) : ℤ :=
  holds.sum fun hold => if CashHold.settledAt hold = none ∧ p hold then (CashHold.reservedAmount hold).units else 0

variable {opId refundOrderId : Uuid}

theorem insertRefundHold_eq_ok (h : insertRefundHold s id refundOrderId lotId units cash = .ok cash') :
    ∃ hold : RefundCashAllocation, hold.refundOrderId = refundOrderId ∧ hold.cashLotId = lotId ∧
      hold.reservedAmount.units = units ∧ hold.settledAt = none ∧ hold.releasedAmount = .zero ∧
      Inserts cash.refundHolds hold cash'.refundHolds ∧
      cash' = { cash with refundHolds := cash'.refundHolds } := by
  simp only [insertRefundHold, eq_ok, money_eq_ok] at h
  obtain ⟨_, ham, _, _, hins, rfl⟩ := h
  exact ⟨_, rfl, rfl, ham, rfl, rfl, hins, rfl⟩

theorem insertRefundHold_succeeds (hpos : 0 < units) (hfits : units < numericBound)
    (hnew : ∀ hold ∈ cash.refundHolds.rows, hold.id ≠ id ∧ hold.refundOrderId ≠ refundOrderId) :
    ∃ cash', insertRefundHold s id refundOrderId lotId units cash = .ok cash' := by
  let hold : RefundCashAllocation := ⟨id, refundOrderId, lotId, ⟨units, hpos.le, hfits⟩, .zero, .zero,
    s.now, none, hpos, .inr rfl⟩
  have hhold : ∀ x ∈ cash.refundHolds.rows, Key.clash (Keyed.key hold) (Keyed.key x) = false := by
    intro x hx
    obtain ⟨hid, hr⟩ := hnew x hx
    simp [Key.clash, Keyed.key, hold, hid.symm, hr.symm]
  obtain ⟨holds, hins⟩ := insert_succeeds hhold StoreError.uniqueViolation
  refine ⟨{ cash with refundHolds := holds }, ?_⟩
  simp only [insertRefundHold, eq_ok, money_eq_ok]
  exact ⟨⟨units, hpos.le, hfits⟩, rfl, hpos, holds, hins, rfl⟩

theorem FundingCashAllocation.settle_eq_ok {hold hold' : FundingCashAllocation}
    (h : hold.settle consumed released now = .ok hold') :
    Keyed.key hold' = Keyed.key hold ∧ hold'.reservedAmount = hold.reservedAmount ∧
      hold'.settledAt = some now := by
  simp only [FundingCashAllocation.settle, eq_ok] at h
  obtain ⟨_, _, _, _, _, _, _, rfl⟩ := h
  exact ⟨rfl, rfl, rfl⟩

theorem RefundCashAllocation.settle_eq_ok {hold hold' : RefundCashAllocation} {succeeded : Bool}
    (h : hold.settle succeeded now = .ok hold') :
    Keyed.key hold' = Keyed.key hold ∧ hold'.cashLotId = hold.cashLotId ∧
      hold'.reservedAmount = hold.reservedAmount ∧ hold'.settledAt = some now := by
  cases succeeded <;>
  · simp only [RefundCashAllocation.settle, eq_ok, Bool.false_eq_true] at h
    obtain ⟨_, _, _, rfl⟩ := h
    exact ⟨rfl, rfl, rfl, rfl⟩

theorem RefundCashAllocation.settle_succeeds {hold : RefundCashAllocation} (hopen : hold.settledAt = none)
    (hrl : hold.releasedAmount = .zero) (now : Timestamp) :
    ∃ hold', hold.settle true now = .ok hold' := by
  have hzero : hold.releasedAmount.units = 0 := congrArg Money.units hrl
  have hcn : hold.consumedAmount.units ≤ hold.reservedAmount.units := by
    rcases hold.covered with h | h <;> have := hold.reserved_pos <;> omega
  have hcv : hold.reservedAmount.units + hold.releasedAmount.units = hold.reservedAmount.units := by
    omega
  simp only [RefundCashAllocation.settle, eq_ok]
  exact ⟨_, (), ⟨hcn, le_refl _, hcv.le, .inr hopen⟩, .inl hcv, rfl⟩

variable {item : CashLot} {hold : FundingCashAllocation}

theorem reserveLot_eq_ok (hf : cash.lots.find? item.id = some lot)
    (h : reserveLot s opId cash item units = .ok cash') :
    LotMoved cash.lots item.id (-units) lot cash'.lots ∧
      (∃ hold : FundingCashAllocation, hold.operationId = opId ∧ hold.cashLotId = item.id ∧
        hold.reservedAmount.units = units ∧ hold.settledAt = none ∧
        Inserts cash.fundingHolds hold cash'.fundingHolds) ∧
      cash'.refundHolds = cash.refundHolds ∧ cash'.allocations = cash.allocations := by
  simp only [reserveLot, insertFundingHold, eq_ok, money_eq_ok] at h
  obtain ⟨_, hlots, _, hrs, _, _, hins, rfl⟩ := h
  exact ⟨debitLot_moved hf hlots, ⟨_, rfl, rfl, hrs, rfl, hins⟩, rfl, rfl⟩

theorem debitLotFor_eq_ok (hf : cash.lots.find? item.id = some lot)
    (h : debitLotFor s txs walletId transactionId cash item units = .ok cash') :
    ∃ row : CashAllocation, row.Records walletId transactionId (.cash item.id) .debit units ∧
      LotMoved cash.lots item.id (-units) lot cash'.lots ∧
      ({ cash with lots := cash'.lots } : Cash).Allocated row cash' ∧
      (txs.find? transactionId).isSome := by
  simp only [debitLotFor, bind_eq_ok] at h
  obtain ⟨lots, hlots, hins⟩ := h
  obtain ⟨row, hrow, hall, hstor⟩ := insertAllocation_eq_ok hins
  have hsame : cash'.lots = lots := hall.lots
  rw [hsame]
  exact ⟨row, hrow, debitLot_moved hf hlots, hall, hstor⟩

/-- What settling one hold writes: the lot gets the released part back, the consumed part is spent,
and the hold is closed. -/
structure SettlesHold (s : Session) (walletId : Uuid) (transactionId : Option Uuid)
    (hold : FundingCashAllocation) (lot : CashLot) (consumed released : ℤ) (cash cash' : Cash) : Prop where
  lots : LotMoved cash.lots hold.cashLotId released lot cash'.lots
  allocations : consumed = 0 ∧ cash'.allocations = cash.allocations ∨
    ∃ txId row, transactionId = some txId ∧
      CashAllocation.Records row walletId txId (.cash hold.cashLotId) .debit consumed ∧
      cash.allocations.insert row StoreError.uniqueViolation = .ok cash'.allocations
  closed : ∃ hold', Keyed.key hold' = Keyed.key hold ∧ hold'.reservedAmount = hold.reservedAmount ∧
    hold'.settledAt = some s.now ∧ cash'.fundingHolds = cash.fundingHolds.replace hold'
  refundHolds : cash'.refundHolds = cash.refundHolds

private theorem releaseHold_eq_ok (hf : cash.lots.find? hold.cashLotId = some lot)
    (hrl : 0 ≤ released) (h : releaseHold walletId hold released cash = .ok cash') :
    LotMoved cash.lots hold.cashLotId released lot cash'.lots ∧
      cash' = { cash with lots := cash'.lots } := by
  unfold releaseHold at h
  split at h
  · simp only [eq_ok] at h
    obtain ⟨⟨_, lots⟩, href, _, hmt, rfl⟩ := h
    rcases refillLot_eq_ok href with ⟨hfl, _⟩ | ⟨_, other, _, hmv⟩
    · rw [hfl] at hmt
      cases hmt
    · have hsame : other = lot := Option.mem_unique hmv.found hf
      exact ⟨hsame ▸ hmv, rfl⟩
  · next hpos =>
    cases h
    have hzero : released = 0 := le_antisymm (not_lt.mp hpos) hrl
    subst hzero
    exact ⟨⟨hf, _, (add_zero _).symm, rfl, (Table.replace_self (Table.found hf).1).symm⟩, rfl⟩

theorem consumeHold_eq_ok (hcn : 0 ≤ consumed)
    (h : consumeHold s txs walletId txId? hold consumed cash = .ok cash') :
    (consumed = 0 ∧ cash' = cash) ∨ ∃ txId row, txId? = some txId ∧
      CashAllocation.Records row walletId txId (.cash hold.cashLotId) .debit consumed ∧
      cash.Allocated row cash' := by
  unfold consumeHold at h
  split at h
  · simp only [eq_ok] at h
    obtain ⟨txId, htx, hins⟩ := h
    obtain ⟨row, hrow, hall, _⟩ := insertAllocation_eq_ok hins
    exact .inr ⟨txId, row, htx, hrow, hall⟩
  · next hpos =>
    cases h
    exact .inl ⟨le_antisymm (not_lt.mp hpos) hcn, rfl⟩

theorem settleHold_eq_ok (hmem : hold ∈ cash.fundingHolds.rows) (hf : cash.lots.find? hold.cashLotId = some lot)
    (hco : 0 ≤ consumed) (hrl : 0 ≤ released)
    (h : settleHold s txs walletId txId? cash hold consumed released = .ok cash') :
    SettlesHold s walletId txId? hold lot consumed released cash cash' := by
  simp only [settleHold, eq_ok] at h
  obtain ⟨refilled, hre, spent, hcn, _, hhs, rfl⟩ := h
  obtain ⟨hmv, href⟩ := releaseHold_eq_ok hf hrl hre
  have hfn : refilled.fundingHolds = cash.fundingHolds := by rw [href]
  have hr : refilled.refundHolds = cash.refundHolds := by rw [href]
  have hrows : refilled.allocations = cash.allocations := by rw [href]
  have hfr : spent.lots = refilled.lots ∧ spent.fundingHolds = refilled.fundingHolds ∧
      spent.refundHolds = refilled.refundHolds := by
    rcases consumeHold_eq_ok hco hcn with ⟨_, rfl⟩ | ⟨_, _, _, _, hall⟩
    · exact ⟨rfl, rfl, rfl⟩
    · exact ⟨hall.lots, hall.fundingHolds, hall.refundHolds⟩
  obtain ⟨hlots, hsps, hsp⟩ := hfr
  rw [hsps, hfn] at hhs
  obtain ⟨hold', hse, hrp⟩ := update_of_mem hmem hhs
  obtain ⟨hkey, hrs, hset⟩ := FundingCashAllocation.settle_eq_ok hse
  refine ⟨?_, ?_, ⟨hold', hkey, hrs, hset, hrp⟩, hsp.trans hr⟩
  · simpa only [hlots] using hmv
  · rcases consumeHold_eq_ok hco hcn with ⟨hzero, rfl⟩ | ⟨txId, row, htx, hrow, hall⟩
    · exact .inl ⟨hzero, hrows⟩
    · exact .inr ⟨txId, row, htx, hrow, hrows ▸ hall.inserted⟩

theorem restoreAllocation_eq_ok {source : CashAllocation}
    (h : restoreAllocation s txs walletId transactionId cash source units = .ok cash') :
    ∃ row : CashAllocation, row.Records walletId transactionId source.bucket (.restore source.id) units ∧
      restoreLot walletId units cash.lots source.bucket = .ok cash'.lots ∧
      ({ cash with lots := cash'.lots } : Cash).Allocated row cash' := by
  simp only [restoreAllocation, bind_eq_ok] at h
  obtain ⟨lots, hlots, hins⟩ := h
  obtain ⟨row, hrow, hall, _⟩ := insertAllocation_eq_ok hins
  have hsame : cash'.lots = lots := hall.lots
  rw [hsame]
  exact ⟨row, hrow, hlots, hall⟩

end ModelDock.Store
