import ModelDock.Store.Schema.Accounts

/-!
# Cash lots, cash holds and promotion credits

The remaining amount of a cash lot is lowered by holds and debits that name it; spending that no lot covered
stands in the credit bucket. `CashBucket` and `Direction` have the CHECK constraints built in.
-/

namespace ModelDock.Store

open Relational

/-- Where the money of a lot came from. -/
inductive LotSource
  | recharge
  | topup
  | adjustment
deriving DecidableEq

/-- The source reference of a lot: the order number, or `wallet-transaction:<id>`. -/
inductive SourceReference
  | platformOrderNo (no : String)
  | walletTransaction (transactionId : Uuid)
deriving DecidableEq

/-- A row of `wallet_cash_lot`. -/
structure CashLot where
  (id walletId : Uuid)
  (rechargeOrderId sourceTransactionId : Option Uuid)
  sourceKind : LotSource
  sourceReference : SourceReference
  (originalAmount remainingAmount : Money)
  currency : Currency
  refundable : Bool
  createdAt : Timestamp
  original_pos : 0 < originalAmount.units
  remaining_le : remainingAmount.units ≤ originalAmount.units

/-- Key columns of `wallet_cash_lot`. -/
structure CashLotKey where
  (id walletId : Uuid)
  sourceReference : SourceReference
  (sourceTransactionId rechargeOrderId : Option Uuid)
deriving DecidableEq

instance : Key CashLotKey where
  id := CashLotKey.id
  clash a b := a.id = b.id || (a.walletId = b.walletId && a.sourceReference = b.sourceReference) ||
    sameValue a.sourceTransactionId b.sourceTransactionId ||
    sameValue a.rechargeOrderId b.rechargeOrderId

instance : Keyed CashLot CashLotKey where
  key lot := ⟨lot.id, lot.walletId, lot.sourceReference, lot.sourceTransactionId, lot.rechargeOrderId⟩

/-- A row of `funding_cash_allocation`: what a request in flight holds of a lot. -/
structure FundingCashAllocation where
  (id operationId cashLotId : Uuid)
  (reservedAmount consumedAmount releasedAmount : Money)
  createdAt : Timestamp
  settledAt : Option Timestamp
  reserved_pos : 0 < reservedAmount.units
  covered : consumedAmount.units + releasedAmount.units = reservedAmount.units ∨
    consumedAmount.units + releasedAmount.units = 0

/-- Key columns of `funding_cash_allocation`. -/
structure FundingCashKey where
  (id operationId cashLotId : Uuid)
deriving DecidableEq

instance : Key FundingCashKey where
  id := FundingCashKey.id
  clash a b := a.id = b.id || (a.operationId = b.operationId && a.cashLotId = b.cashLotId)

instance : Keyed FundingCashAllocation FundingCashKey where
  key hold := ⟨hold.id, hold.operationId, hold.cashLotId⟩

/-- A row of `refund_cash_allocation`: what a pending refund holds of its lot. -/
structure RefundCashAllocation where
  (id refundOrderId cashLotId : Uuid)
  (reservedAmount consumedAmount releasedAmount : Money)
  createdAt : Timestamp
  settledAt : Option Timestamp
  reserved_pos : 0 < reservedAmount.units
  covered : consumedAmount.units + releasedAmount.units = reservedAmount.units ∨
    consumedAmount.units + releasedAmount.units = 0

/-- Key columns of `refund_cash_allocation`. -/
structure RefundCashKey where
  (id refundOrderId : Uuid)
deriving DecidableEq

instance : Key RefundCashKey where
  id := RefundCashKey.id
  clash a b := a.id = b.id || a.refundOrderId = b.refundOrderId

instance : Keyed RefundCashAllocation RefundCashKey where
  key hold := ⟨hold.id, hold.refundOrderId⟩

/-- What an allocation draws on: a lot, or the wallet's credit. -/
inductive CashBucket
  | cash (lotId : Uuid)
  | credit
deriving DecidableEq

/-- Whether an allocation spends, or gives back what another one spent. -/
inductive Direction
  | debit
  | restore (sourceAllocationId : Uuid)
deriving DecidableEq

/-- A row of `wallet_cash_allocation`. -/
structure CashAllocation where
  (id walletId walletTransactionId : Uuid)
  bucket : CashBucket
  direction : Direction
  amount : Money
  createdAt : Timestamp
  positive : 0 < amount.units

/-- Key columns of `wallet_cash_allocation`. -/
structure CashAllocationKey where
  (id walletTransactionId : Uuid)
  bucket : CashBucket
  direction : Direction
deriving DecidableEq

/-- `UNIQUE(source_allocation_id,wallet_transaction_id)` on the direction column pair. -/
def Direction.sameSource : Direction → Direction → Bool
  | .restore a, .restore b => a = b
  | _, _ => false

/-- Equal values of the column `direction` itself. -/
def Direction.sameKind : Direction → Direction → Bool
  | .debit, .debit => true
  | .restore _, .restore _ => true
  | _, _ => false

/-- Equal lots; a credit row has none, so it never collides on this column. -/
def CashBucket.sameLot : CashBucket → CashBucket → Bool
  | .cash a, .cash b => a = b
  | _, _ => false

instance : Key CashAllocationKey where
  id := CashAllocationKey.id
  clash a b := a.id = b.id || (a.walletTransactionId = b.walletTransactionId &&
    (a.direction.sameSource b.direction || (a.bucket.sameLot b.bucket && a.direction.sameKind b.direction)))
  clash_symm a b := by
    have hsource : a.direction.sameSource b.direction = b.direction.sameSource a.direction := by
      cases a.direction <;> cases b.direction <;> simp [Direction.sameSource, eq_comm]
    have hkind : a.direction.sameKind b.direction = b.direction.sameKind a.direction := by
      cases a.direction <;> cases b.direction <;> rfl
    have hlot : a.bucket.sameLot b.bucket = b.bucket.sameLot a.bucket := by
      cases a.bucket <;> cases b.bucket <;> simp [CashBucket.sameLot, eq_comm]
    simp [eq_comm, hsource, hkind, hlot]

instance : Keyed CashAllocation CashAllocationKey where
  key allocation := ⟨allocation.id, allocation.walletTransactionId, allocation.bucket, allocation.direction⟩

/-- The cash tables. -/
structure Cash where
  lots : Table CashLot
  fundingHolds : Table FundingCashAllocation
  refundHolds : Table RefundCashAllocation
  allocations : Table CashAllocation

/-- Whether a promotion credit may be used. -/
inductive CreditStatus
  | active
  | exhausted
  | expired
  | revoked
deriving DecidableEq

/-- A row of `promotion_credit`. -/
structure PromotionCredit where
  (id organizationId : Uuid)
  currency : Currency
  (amountGranted amountRemaining : Money)
  (idempotencyKey source : String)
  status : CreditStatus
  expiresAt : Option Timestamp
  createdAt : Timestamp
  granted_pos : 0 < amountGranted.units
  remaining_le : amountRemaining.units ≤ amountGranted.units

/-- Key columns of `promotion_credit`. -/
structure PromotionCreditKey where
  (id organizationId : Uuid)
  idempotencyKey : String
deriving DecidableEq

instance : Key PromotionCreditKey where
  id := PromotionCreditKey.id
  clash a b := a.id = b.id || (a.organizationId = b.organizationId && a.idempotencyKey = b.idempotencyKey)

instance : Keyed PromotionCredit PromotionCreditKey where
  key credit := ⟨credit.id, credit.organizationId, credit.idempotencyKey⟩

/-- A row of `funding_promotion_allocation`: what a request holds of a promotion credit. -/
structure PromotionAllocation where
  (id operationId promotionCreditId : Uuid)
  (reservedAmount consumedAmount releasedAmount reversedAmount : Money)
  createdAt : Timestamp
  settledAt : Option Timestamp
  reserved_pos : 0 < reservedAmount.units
  covered : consumedAmount.units + releasedAmount.units ≤ reservedAmount.units
  reversed_le : reversedAmount.units ≤ consumedAmount.units

/-- Key columns of `funding_promotion_allocation`. -/
structure PromotionAllocationKey where
  (id operationId promotionCreditId : Uuid)
deriving DecidableEq

instance : Key PromotionAllocationKey where
  id := PromotionAllocationKey.id
  clash a b := a.id = b.id ||
    (a.operationId = b.operationId && a.promotionCreditId = b.promotionCreditId)

instance : Keyed PromotionAllocation PromotionAllocationKey where
  key hold := ⟨hold.id, hold.operationId, hold.promotionCreditId⟩

/-- The promotion tables. -/
structure Promotions where
  credits : Table PromotionCredit
  allocations : Table PromotionAllocation

end ModelDock.Store
