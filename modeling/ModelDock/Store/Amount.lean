import ModelDock.Pricing.Calculate

/-!
# Errors and money columns of the store

Every money column is `numeric(30,12)`. `Numeric` and `Money` carry that range and `CHECK (column >= 0)`;
`numeric` and `money` are the writes that may be refused.
-/

namespace ModelDock.Store

open ModelDock.Numeric Relational
open Pricing (PricingError)

variable {x : ℤ}

/-- A row identifier drawn by `id.UUID()`. -/
abbrev Uuid := ℕ

/-- A point in time, in seconds. -/
abbrev Timestamp := ℕ

/-- Why a store call fails: the errors the code names, then those of the database. -/
inductive StoreError
  | notFound
  | walletUnavailable
  | idempotencyConflict
  | fundingInProgress
  | fundingTerminal
  | financeState
  | refundNotEligible
  | invoiceAmount
  | paymentState
  | paymentMismatch
  | pricingUnavailable
  | pricingCurrencyMismatch
  | providerBudgetExceeded
  | invalidFundingReservation
  | invalidMaximumAmount
  | invalidPromotionAmount
  | invalidSettlementUsage
  | negativeObservedBytes
  | invalidLateUsage
  | reversalReasonRequired
  | journalTooShort
  | journalAmountNotPositive
  | unresolvedJournalAccount
  | pricing (err : PricingError)
  | invalidDecimal
  | noRows
  | invalidTextRepresentation
  | uniqueViolation
  | checkViolation
  | foreignKeyViolation
  | numericOverflow
  | journalNotBalanced
  | immutableEvidence
  | dispatchRefused
  | invalidProviderCost
  | invalidAmount
  | invalidPromotionCredit
  | walletCurrencyMismatch (wallet retail : String)
deriving DecidableEq

/-- The units of one whole currency unit. -/
def unitsPerOne : ℤ := 10 ^ 12

/-- The first number of units a money column cannot hold. -/
def numericBound : ℤ := 10 ^ 30

/-- A signed `numeric(30,12)` value, in units. -/
@[ext] structure Numeric where
  units : ℤ
  fits : -numericBound < units ∧ units < numericBound
deriving DecidableEq

/-- A `numeric(30,12)` value with `CHECK (column >= 0)`, in units. -/
@[ext] structure Money where
  units : ℤ
  nonneg : 0 ≤ units
  fits : units < numericBound
deriving DecidableEq

variable (units : ℤ)

/-- Store a signed amount, or report an overflow. -/
def numeric : Except StoreError Numeric :=
  if h : -numericBound < units ∧ units < numericBound then .ok ⟨units, h⟩
  else .error .numericOverflow

/-- Store an amount in a column that must not be negative. -/
def money : Except StoreError Money :=
  if h : 0 ≤ units ∧ units < numericBound then .ok ⟨units, h.1, h.2⟩
  else .error (if units < 0 then .checkViolation else .numericOverflow)

/-- The zero amount. -/
def Money.zero : Money := ⟨0, le_refl 0, by decide⟩

/-- The zero signed amount. -/
def Numeric.zero : Numeric := ⟨0, by decide⟩

theorem numeric_eq_ok {n : Numeric} : numeric x = .ok n ↔ n.units = x := by
  unfold numeric
  split
  · next h => simp only [Except.ok.injEq, Numeric.ext_iff, eq_comm]
  · next h =>
    refine iff_of_false (by simp) ?_
    rintro rfl
    exact h n.fits

theorem money_eq_ok {m : Money} : money x = .ok m ↔ m.units = x := by
  unfold money
  split
  · next h => simp only [Except.ok.injEq, Money.ext_iff, eq_comm]
  · next h =>
    refine iff_of_false (by simp) ?_
    rintro rfl
    exact h ⟨m.nonneg, m.fits⟩

theorem money_of_range (h : 0 ≤ x) (hfits : x < numericBound) : money x = .ok ⟨x, h, hfits⟩ := money_eq_ok.mpr rfl

theorem numeric_of_range (h : -numericBound < x ∧ x < numericBound) :
    numeric x = .ok ⟨x, h⟩ := numeric_eq_ok.mpr rfl

/-- The exact value of an amount. -/
def rat : ℚ := decimalValue 12 units

/-- The amount an exact value is written as. -/
def formatRat (x : ℚ) : ℤ := quantize 12 x

@[simp] theorem formatRat_rat : formatRat (rat units) = units :=
  quantize_decimalValue units

@[simp] theorem formatRat_zero : formatRat 0 = 0 := by
  simpa [rat, decimalValue] using formatRat_rat 0

/-- A three-letter currency code, as every currency column checks it. -/
@[ext] structure Currency where
  code : String
  valid : code.toList.length = 3 ∧ code.toList.all Text.isCapital
deriving DecidableEq

/-- US dollars. -/
def usd : Currency := ⟨"USD", by decide⟩

/-- The currency a text names, when it is a code at all. -/
def currency? (code : String) : Option Currency :=
  if h : code.toList.length = 3 ∧ code.toList.all Text.isCapital then some ⟨code, h⟩ else none

end ModelDock.Store
