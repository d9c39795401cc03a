import ModelDock.Relational.Allocation
import ModelDock.Store.Schema.Payments

/-!
# Moving cash between lots, holds and allocations

Each helper mirrors a change of a wallet's balances onto its cash lots, inside the transaction of its caller.
`refillLot` reports whether its guarded `UPDATE` matched; restoration does not check that.
-/

namespace ModelDock.Store

open Relational

/-- Write the remaining amount of a lot, within its CHECK. -/
def CashLot.setRemaining (lot : CashLot) (units : ℤ) : Except StoreError CashLot := do
  let remaining ← money units
  if h : remaining.units ≤ lot.originalAmount.units then
    return { lot with remainingAmount := remaining, remaining_le := h }
  else throw .checkViolation

/-- Lower the remaining amount of a lot. -/
def debitLot (lotId : Uuid) (units : ℤ) (lots : Table CashLot) : Except StoreError (Table CashLot) :=
  lots.update lotId fun lot => lot.setRemaining (lot.remainingAmount.units - units)

/-- Raise the remaining amount of a wallet's lot if it stays within the original amount. -/
def refillLot (lotId walletId : Uuid) (units : ℤ) (lots : Table CashLot) :
    Except StoreError (Bool × Table CashLot) :=
  match lots.find? lotId with
  | none => .ok (false, lots)
  | some lot =>
    if lot.walletId = walletId ∧ lot.remainingAmount.units + units ≤ lot.originalAmount.units then do
      let lot ← lot.setRemaining (lot.remainingAmount.units + units)
      return (true, lots.replace lot)
    else .ok (false, lots)

variable (cash : Cash) (s : Session) (transactions : Table WalletTransaction) (walletId : Uuid)

/-- Insert an allocation of a wallet transaction. -/
def insertAllocation (id walletId transactionId : Uuid) (bucket : CashBucket) (direction : Direction) (units : ℤ)
    (cash : Cash) : Except StoreError Cash := do
  let amount ← money units
  if h : 0 < amount.units then
    ensure ((transactions.find? transactionId).isSome) .foreignKeyViolation
    let allocations ← cash.allocations.insert
      ⟨id, walletId, transactionId, bucket, direction, amount, s.now, h⟩ .uniqueViolation
    return { cash with allocations := allocations }
  else throw .checkViolation

/-- Insert a hold of a request on a lot. -/
def insertFundingHold (id operationId lotId : Uuid) (units : ℤ) (cash : Cash) : Except StoreError Cash := do
  let amount ← money units
  if h : 0 < amount.units then
    let holds ← cash.fundingHolds.insert
      ⟨id, operationId, lotId, amount, .zero, .zero, s.now, none, h, .inr rfl⟩ .uniqueViolation
    return { cash with fundingHolds := holds }
  else throw .checkViolation

/-- Insert a hold of a refund on a lot. -/
def insertRefundHold (id refundOrderId lotId : Uuid) (units : ℤ) (cash : Cash) : Except StoreError Cash := do
  let amount ← money units
  if h : 0 < amount.units then
    let holds ← cash.refundHolds.insert
      ⟨id, refundOrderId, lotId, amount, .zero, .zero, s.now, none, h, .inr rfl⟩ .uniqueViolation
    return { cash with refundHolds := holds }
  else throw .checkViolation

variable (operationId : Uuid) (transactionId : Option Uuid) (hold : FundingCashAllocation)

/-- Close a hold of a request; a trigger refuses to rewrite one that is closed. -/
def FundingCashAllocation.settle (consumed released : ℤ)
    (now : Timestamp) : Except StoreError FundingCashAllocation := do
  let consumed ← money consumed
  let released ← money released
  ensure (hold.consumedAmount.units ≤ consumed.units ∧ hold.releasedAmount.units ≤ released.units ∧
    consumed.units + released.units ≤ hold.reservedAmount.units ∧
    (hold.settledAt = some now ∨ hold.settledAt = none)) .immutableEvidence
  if h : consumed.units + released.units = hold.reservedAmount.units ∨
      consumed.units + released.units = 0 then
    return { hold with
      consumedAmount := consumed, releasedAmount := released, settledAt := some now, covered := h }
  else throw .checkViolation

/-- Close a hold of a refund, as consumed or as released. -/
def RefundCashAllocation.settle (hold : RefundCashAllocation) (succeeded : Bool) (now : Timestamp) :
    Except StoreError RefundCashAllocation := do
  let consumed := if succeeded then hold.reservedAmount else hold.consumedAmount
  let released := if succeeded then hold.releasedAmount else hold.reservedAmount
  ensure (hold.consumedAmount.units ≤ consumed.units ∧ hold.releasedAmount.units ≤ released.units ∧
    consumed.units + released.units ≤ hold.reservedAmount.units ∧
    (hold.settledAt = some now ∨ hold.settledAt = none)) .immutableEvidence
  if h : consumed.units + released.units = hold.reservedAmount.units ∨
      consumed.units + released.units = 0 then
    return { hold with
      consumedAmount := consumed, releasedAmount := released, settledAt := some now, covered := h }
  else throw .checkViolation

/-- The lots of a wallet with cash left, oldest first. -/
def Cash.openLots : List CashLot :=
  Table.oldestFirst CashLot.createdAt (cash.lots.rows.filter fun lot =>
    lot.walletId = walletId ∧ 0 < lot.remainingAmount.units)

/-- The holds of a request, oldest first. -/
def Cash.holdsOf : List FundingCashAllocation :=
  Table.oldestFirst FundingCashAllocation.createdAt
    (cash.fundingHolds.rows.filter fun hold => hold.operationId = operationId)

/-- What has been restored of an allocation. -/
def Cash.restoredOf (allocationId : Uuid) : ℤ :=
  cash.allocations.sum fun row =>
    if row.direction = .restore allocationId then row.amount.units else 0

/-- What is left to restore of an allocation. -/
def Cash.unrestored (allocation : CashAllocation) : ℤ :=
  allocation.amount.units - cash.restoredOf allocation.id

/-- The debits of a transaction that are not fully restored, newest first. -/
def Cash.restorable (walletId transactionId : Uuid) : List CashAllocation :=
  Table.newestFirst CashAllocation.createdAt (cash.allocations.rows.filter fun row =>
    row.walletId = walletId ∧ row.walletTransactionId = transactionId ∧ row.direction = .debit ∧
      cash.restoredOf row.id < row.amount.units)

/-- The lot a recharge order created in a wallet. -/
def Cash.rechargeLot? (walletId rechargeOrderId : Uuid) : Option CashLot :=
  cash.lots.rows.find? fun lot => lot.walletId = walletId ∧ lot.rechargeOrderId = some rechargeOrderId

/-- The lot of a recharge order that may still be refunded. -/
def Cash.refundableLot? (walletId rechargeOrderId : Uuid) : Option CashLot :=
  cash.lots.rows.find? fun lot =>
    lot.walletId = walletId ∧ lot.rechargeOrderId = some rechargeOrderId ∧ lot.refundable

/-- Hold part of one lot for a request. -/
def reserveLot (cash : Cash) (lot : CashLot) (units : ℤ) : Except StoreError Cash := do
  let lots ← debitLot lot.id units cash.lots
  insertFundingHold s (s.uuid (.allocation lot.id)) operationId lot.id units { cash with lots := lots }

/-- Hold the oldest cash of the wallet for a request; what no lot covers is credit. -/
def reserveCashLotsTx (operationId walletId : Uuid) (amount : ℤ) (cash : Cash) : Except StoreError Cash := do
  let result ← takeEach (fun lot => lot.remainingAmount.units) (reserveLot s operationId)
    (cash.openLots walletId) amount cash
  return result.2

/-- Spend part of one lot. -/
def debitLotFor (walletId transactionId : Uuid)
    (cash : Cash) (lot : CashLot) (units : ℤ) : Except StoreError Cash := do
  let lots ← debitLot lot.id units cash.lots
  insertAllocation s transactions (s.uuid (.lotDebit lot.id)) walletId transactionId (.cash lot.id)
    .debit units { cash with lots := lots }

/-- Spend the oldest cash of the wallet; what no lot covers is recorded as credit. -/
def allocateCashDebitTx (walletId transactionId : Uuid) (amount : ℤ) (cash : Cash) : Except StoreError Cash := do
  let result ← takeEach (fun lot => lot.remainingAmount.units)
    (debitLotFor s transactions walletId transactionId) (cash.openLots walletId) amount cash
  if 0 < result.1 then
    insertAllocation s transactions (s.uuid .creditAllocation) walletId transactionId .credit .debit
      result.1 result.2
  else return result.2

/-- Return the released part of a hold to its lot. -/
def releaseHold (released : ℤ) (cash : Cash) : Except StoreError Cash :=
  if 0 < released then do
    let result ← refillLot hold.cashLotId walletId released cash.lots
    ensure (result.1) .financeState
    return { cash with lots := result.2 }
  else .ok cash

/-- Record the consumed part of a hold as spent. -/
def consumeHold (consumed : ℤ) (cash : Cash) : Except StoreError Cash :=
  if 0 < consumed then do
    let transactionId ← required transactionId .financeState
    insertAllocation s transactions (s.uuid (.allocation hold.id)) walletId transactionId
      (.cash hold.cashLotId) .debit consumed cash
  else .ok cash

/-- Settle one hold of a request. -/
def settleHold (cash : Cash) (hold : FundingCashAllocation) (consumed released : ℤ) : Except StoreError Cash := do
  let cash ← releaseHold walletId hold released cash
  let cash ← consumeHold s transactions walletId transactionId hold consumed cash
  let holds ← cash.fundingHolds.update hold.id fun row => row.settle consumed released s.now
  return { cash with fundingHolds := holds }

/-- Settle the holds of a request with the actual amount; an overage is spent like a direct debit. -/
def settleCashLotsTx (operationId walletId : Uuid) (transactionId : Option Uuid) (actual : ℤ) (cash : Cash) :
    Except StoreError Cash := do
  let result ← settleEach (fun hold => hold.reservedAmount.units)
    (settleHold s transactions walletId transactionId) (cash.holdsOf operationId) actual cash
  if 0 < result.1 then
    let transactionId ← required transactionId .foreignKeyViolation
    allocateCashDebitTx s transactions walletId transactionId result.1 result.2
  else return result.2

/-- Take up to an amount from the lot of a recharge order. -/
def debitRechargeCashLotTx (walletId rechargeOrderId transactionId : Uuid) (amount : ℤ) (cash : Cash) :
    Except StoreError (ℤ × Cash) :=
  match cash.rechargeLot? walletId rechargeOrderId with
  | none => .ok (0, cash)
  | some lot =>
    if min amount lot.remainingAmount.units ≤ 0 then .ok (0, cash)
    else do
      let cash ← debitLotFor s transactions walletId transactionId cash lot
        (min amount lot.remainingAmount.units)
      return (min amount lot.remainingAmount.units, cash)

/-- Attribute a chargeback: the unused cash of the order first, the rest as credit. -/
def allocateChargebackTx (walletId rechargeOrderId transactionId : Uuid) (amount : ℤ) (cash : Cash) :
    Except StoreError Cash := do
  let result ← debitRechargeCashLotTx s transactions walletId rechargeOrderId transactionId amount cash
  if 0 < amount - result.1 then
    insertAllocation s transactions (s.uuid .creditAllocation) walletId transactionId .credit .debit
      (amount - result.1) result.2
  else return result.2

/-- Hold the cash of a refund on the lot of its order. -/
def reserveRefundCashTx (refundOrderId walletId rechargeOrderId : Uuid) (amount : ℤ)
    (cash : Cash) : Except StoreError Cash := do
  let lot ← required (cash.refundableLot? walletId rechargeOrderId) .refundNotEligible
  ensure (amount ≤ lot.remainingAmount.units) .refundNotEligible
  let lots ← debitLot lot.id amount cash.lots
  insertRefundHold s (s.uuid (.allocation lot.id)) refundOrderId lot.id amount { cash with lots := lots }

/-- Close the hold of a refund: spend it when the refund succeeded, return it otherwise. -/
def settleRefundCashTx
    (refundOrderId walletId : Uuid) (transactionId : Option Uuid) (succeeded : Bool) (cash : Cash) :
    Except StoreError Cash := do
  let hold ← required (cash.refundHolds.rows.find? fun hold => hold.refundOrderId = refundOrderId)
    .financeState
  if succeeded then
    let transactionId ← required transactionId .financeState
    let cash ← insertAllocation s transactions (s.uuid (.allocation hold.id)) walletId transactionId
      (.cash hold.cashLotId) .debit hold.reservedAmount.units cash
    let holds ← cash.refundHolds.update hold.id fun row => row.settle true s.now
    return { cash with refundHolds := holds }
  else
    let result ← refillLot hold.cashLotId walletId hold.reservedAmount.units cash.lots
    ensure (result.1) .financeState
    let holds ← cash.refundHolds.update hold.id fun row => row.settle false s.now
    return { cash with lots := result.2, refundHolds := holds }

/-- Create the lot of money that enters a wallet; a lot that exists already is left alone. -/
def createCashLotTx (rechargeOrderId : Option Uuid)
    (transactionId : Uuid) (sourceKind : LotSource) (sourceReference : SourceReference) (amount : ℤ)
    (currency : Currency) (refundable : Bool) (cash : Cash) : Except StoreError Cash := do
  let amount ← money amount
  if h : 0 < amount.units then
    match cash.lots.insert ⟨s.uuid .lot, walletId, rechargeOrderId, some transactionId, sourceKind,
        sourceReference, amount, amount, currency, refundable, s.now, h, le_refl _⟩
        StoreError.uniqueViolation with
    | .ok lots => return { cash with lots := lots }
    | .error _ => return cash
  else throw .checkViolation

/-- Raise the lot a debit was taken from. Whether the guarded update matched is not checked. -/
def restoreLot (units : ℤ) (lots : Table CashLot) : CashBucket → Except StoreError (Table CashLot)
  | .cash lotId => do
    let result ← refillLot lotId walletId units lots
    return result.2
  | .credit => .ok lots

/-- Give back part of one recorded debit. -/
def restoreAllocation (walletId reversalTransactionId : Uuid) (cash : Cash) (item : CashAllocation) (units : ℤ) :
    Except StoreError Cash := do
  let lots ← restoreLot walletId units cash.lots item.bucket
  insertAllocation s transactions (s.uuid (.allocation item.id)) walletId reversalTransactionId
    item.bucket (.restore item.id) units { cash with lots := lots }

/-- Restore an amount from the debits one source transaction recorded. -/
def restoreCashAllocationTx (walletId sourceTransactionId reversalTransactionId : Uuid) (amount : ℤ) (cash : Cash) :
    Except StoreError Cash := do
  let result ← takeEach cash.unrestored (restoreAllocation s transactions walletId reversalTransactionId)
    (cash.restorable walletId sourceTransactionId) amount cash
  ensure (result.1 ≤ 0) .financeState
  return result.2

end ModelDock.Store
