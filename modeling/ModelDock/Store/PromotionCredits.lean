import ModelDock.Relational.Allocation
import ModelDock.Store.Schema.Payments

/-!
# Granting, holding, settling and reversing promotion credits

A reservation takes the promotion out of the credits that expire first, settlement consumes what the price used,
and a reversal returns consumed promotion.
-/

namespace ModelDock.Store

open Relational

variable (credit : PromotionCredit) (s : Session) (promotions : Promotions) (operationId : Uuid)
  (hold : PromotionAllocation) (a b : PromotionCredit) (units : ℤ)

/-- Write the remaining amount and the status of a credit. -/
def PromotionCredit.setRemaining (status : CreditStatus) : Except StoreError PromotionCredit := do
  let remaining ← money units
  if h : remaining.units ≤ credit.amountGranted.units then
    return { credit with amountRemaining := remaining, status := status, remaining_le := h }
  else throw .checkViolation

/-- Lower the remaining amount; an empty credit is exhausted. -/
def PromotionCredit.debit : Except StoreError PromotionCredit :=
  credit.setRemaining (credit.amountRemaining.units - units)
    (if credit.amountRemaining.units - units = 0 then .exhausted else credit.status)

/-- Return an unused hold; the credit becomes active. -/
def PromotionCredit.release : Except StoreError PromotionCredit :=
  credit.setRemaining (credit.amountRemaining.units + units) .active

/-- Return consumed promotion; a credit past its expiry is marked expired. -/
def PromotionCredit.giveBack (now : Timestamp) : Except StoreError PromotionCredit :=
  credit.setRemaining (credit.amountRemaining.units + units)
    (match credit.expiresAt with
      | some expiry => if expiry ≤ now then .expired else .active
      | none => .active)

/-- Write the used amounts of a hold; a trigger refuses to lower any of them. -/
def PromotionAllocation.write (consumed released reversed : ℤ)
    (settledAt : Option Timestamp) : Except StoreError PromotionAllocation := do
  let consumed ← money consumed
  let released ← money released
  let reversed ← money reversed
  ensure (hold.consumedAmount.units ≤ consumed.units ∧ hold.releasedAmount.units ≤ released.units ∧
    hold.reversedAmount.units ≤ reversed.units) .immutableEvidence
  if h : consumed.units + released.units ≤ hold.reservedAmount.units ∧
      reversed.units ≤ consumed.units then
    return { hold with
      consumedAmount := consumed, releasedAmount := released, reversedAmount := reversed,
      settledAt := settledAt, covered := h.1, reversed_le := h.2 }
  else throw .immutableEvidence

/-- Insert a hold of a request on a credit. -/
def insertPromotionHold (operationId creditId : Uuid) (units : ℤ)
    (promotions : Promotions) : Except StoreError Promotions := do
  let amount ← money units
  if h : 0 < amount.units then
    let allocations ← promotions.allocations.insert
      ⟨s.uuid (.promotionAllocation creditId), operationId, creditId, amount, .zero, .zero, .zero, s.now,
        none, h, by simpa [Money.zero] using amount.nonneg, le_refl _⟩ .uniqueViolation
    return { promotions with allocations := allocations }
  else throw .checkViolation

/-- `ORDER BY created_at, id`. -/
def PromotionCredit.createdBefore : Bool :=
  a.createdAt < b.createdAt || (a.createdAt = b.createdAt && a.id ≤ b.id)

/-- `ORDER BY expires_at NULLS LAST, created_at, id`. -/
def PromotionCredit.expiresBefore : Bool :=
  match a.expiresAt, b.expiresAt with
  | some x, some y => x < y || (x = y && a.createdBefore b)
  | some _, none => true
  | none, some _ => false
  | none, none => a.createdBefore b

/-- The usable credits of an organization, the first to expire first. -/
def Promotions.usable (organizationId : Uuid) (currency : Currency) (now : Timestamp) : List PromotionCredit :=
  (promotions.credits.rows.filter fun credit => credit.organizationId = organizationId ∧
    credit.currency = currency ∧ credit.status = .active ∧ 0 < credit.amountRemaining.units ∧
    (credit.expiresAt.all fun expiry => now < expiry)).insertionSort
      fun a b => a.expiresBefore b

/-- The promotion holds of a request, oldest first. -/
def Promotions.holdsOf : List PromotionAllocation :=
  Table.oldestFirst PromotionAllocation.createdAt
    (promotions.allocations.rows.filter fun hold => hold.operationId = operationId)

/-- What a reversal may still return of a hold. -/
def PromotionAllocation.unreversed : ℤ :=
  hold.consumedAmount.units - hold.reversedAmount.units

/-- The holds of a request with consumed promotion, newest first. -/
def Promotions.reversible : List PromotionAllocation :=
  Table.newestFirst PromotionAllocation.createdAt (promotions.allocations.rows.filter fun hold =>
    hold.operationId = operationId ∧ hold.reversedAmount.units < hold.consumedAmount.units)

/-- The arguments of a grant. A blank organization is `none`, and so is an amount that is no number. -/
structure PromotionCreditRequest where
  organizationId : Option Uuid
  currency : String
  amountGranted : Option ℚ
  (idempotencyKey source : String)
  expiresAt : Option Timestamp

variable (request : PromotionCreditRequest) (organizationId : Uuid)

/-- The row of a new credit: all of it remains. -/
def newCredit (amount : ℚ) : Except StoreError PromotionCredit := do
  let currency ← required (currency? (Text.toUpper request.currency)) .checkViolation
  let granted ← money (formatRat amount)
  if h : 0 < granted.units then
    return { id := s.uuid .promotionCredit, organizationId := organizationId, currency := currency
             amountGranted := granted, amountRemaining := granted
             idempotencyKey := request.idempotencyKey, source := request.source, status := .active
             expiresAt := request.expiresAt, createdAt := s.now, granted_pos := h
             remaining_le := Int.le_refl _ }
  else throw .checkViolation

/-- Grant a promotion credit, once for each idempotency key. -/
def createPromotionCredit (promotions : Promotions) : Except StoreError Promotions := do
  let organizationId ← required request.organizationId .invalidPromotionCredit
  let amount ← required request.amountGranted .invalidPromotionCredit
  ensure (request.currency ≠ "" ∧ request.source ≠ "" ∧ 0 < amount ∧ request.idempotencyKey ≠ "" ∧
    request.idempotencyKey.utf8ByteSize ≤ 200) .invalidPromotionCredit
  match promotions.credits.rows.find? fun row =>
      row.organizationId = organizationId ∧ row.idempotencyKey = request.idempotencyKey with
  | some existing =>
    ensure (existing.currency.code = Text.toUpper request.currency ∧
      rat existing.amountGranted.units = amount ∧ existing.source = request.source) .idempotencyConflict
    return promotions
  | none =>
    let credit ← newCredit s request organizationId amount
    let credits ← promotions.credits.insert credit .uniqueViolation
    return { promotions with credits := credits }

/-- Hold part of one credit. -/
def reserveCredit (promotions : Promotions)
    (credit : PromotionCredit) (units : ℤ) : Except StoreError Promotions := do
  let credits ← promotions.credits.update credit.id fun row => row.debit units
  insertPromotionHold s operationId credit.id units { promotions with credits := credits }

/-- Hold promotion for a request; returns how much could be held. -/
def reservePromotionTx (operationId organizationId : Uuid) (currency : Currency)
    (maximum : ℤ) (promotions : Promotions) : Except StoreError (ℤ × Promotions) := do
  let result ← takeEach (fun credit => credit.amountRemaining.units) (reserveCredit s operationId)
    (promotions.usable organizationId currency s.now) maximum promotions
  return (maximum - result.1, result.2)

/-- Return the released part of a hold to its credit. -/
def releaseCredit (creditId : Uuid) (released : ℤ) (credits : Table PromotionCredit) :
    Except StoreError (Table PromotionCredit) :=
  if 0 < released then credits.update creditId fun credit => credit.release released else .ok credits

/-- Settle one promotion hold. -/
def settlePromotionHold (used released : ℤ) : Except StoreError Promotions := do
  let allocations ← promotions.allocations.update hold.id fun row =>
    row.write used released row.reversedAmount.units (some s.now)
  let credits ← releaseCredit hold.promotionCreditId released promotions.credits
  return { promotions with credits := credits, allocations := allocations }

/-- Settle the promotion holds of a request; returns the promotion consumed. -/
def settlePromotionTx (actualPromotion : ℤ) (promotions : Promotions) : Except StoreError (ℤ × Promotions) := do
  let result ← settleEach (fun hold => hold.reservedAmount.units) (settlePromotionHold s)
    (promotions.holdsOf operationId) actualPromotion promotions
  return (actualPromotion - result.1, result.2)

/-- Return consumed promotion of one hold to its credit. -/
def reversePromotionHold : Except StoreError Promotions := do
  let allocations ← promotions.allocations.update hold.id fun row =>
    row.write row.consumedAmount.units row.releasedAmount.units (row.reversedAmount.units + units)
      row.settledAt
  let credits ← promotions.credits.update hold.promotionCreditId fun credit =>
    credit.giveBack units s.now
  return { promotions with credits := credits, allocations := allocations }

/-- Return the consumed promotion of a request; all of it must be there. -/
def reversePromotionTx (requested : ℤ) (promotions : Promotions) : Except StoreError (ℤ × Promotions) := do
  let result ← takeEach PromotionAllocation.unreversed (reversePromotionHold s)
    (promotions.reversible operationId) requested promotions
  ensure (result.1 ≤ 0) .financeState
  return (requested - result.1, result.2)

end ModelDock.Store
