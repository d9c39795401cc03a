import Mathlib.Data.Nat.Pairing
import ModelDock.Store.Schema.Cash

/-!
# Funding operations, prices and provider budgets

A funding operation freezes its pricing terms at reservation and the fee terms of a customer credential at
dispatch. Price versions and the provider catalog are read only.
-/

namespace ModelDock.Store

open Relational Pricing

/-- The stored columns of a rate. -/
structure StoredRate where
  (input cached output fixed : Money)
  unit : ℤ
  currency : Currency
  unit_pos : 0 < unit

/-- A stored rate as the calculator reads it. -/
def StoredRate.toRate (rate : StoredRate) : Rate where
  input := .units rate.input.units
  cached := .units rate.cached.units
  output := .units rate.output.units
  fixed := .units rate.fixed.units
  unit := rate.unit
  currency := rate.currency.code

/-- A row of `model_price_version`. -/
structure PriceVersion where
  id : Uuid
  (provider retail : StoredRate)

instance : Keyed PriceVersion RowKey where
  key version := ⟨version.id⟩

/-- Who owns the credential a request runs on. -/
inductive CredentialOwner
  | platform
  | customer
deriving DecidableEq

/-- The service fee terms for a customer's own credential. -/
structure ByokFees where
  (fixedFee inputTokenFee cachedInputTokenFee outputTokenFee : Money)
  (unit serviceFeeBps : ℤ)
  monthlyFreeAllowance : Money
  unit_pos : 0 < unit
  bps_range : 0 ≤ serviceFeeBps ∧ serviceFeeBps ≤ 10000

/-- The column defaults of the fee terms. -/
def ByokFees.default : ByokFees :=
  ⟨.zero, .zero, .zero, .zero, 1000000, 0, .zero, by decide, by decide⟩

/-- The life of a funding operation. -/
inductive FundingStatus
  | pending
  | reserved
  | settled
  | partiallySettled
  | released
  | failed
  | reversed
deriving DecidableEq

/-- The reservation still holds its maximum amount. -/
def FundingStatus.isOpen (status : FundingStatus) : Bool := status = .pending || status = .reserved

/-- A row of `funding_operation`. -/
structure FundingOperation where
  (id walletId organizationId projectId : Uuid)
  apiKeyId : Option Uuid
  (requestId idempotencyKey requestFingerprint : String)
  pricingVersionId : Option Uuid
  status : FundingStatus
  currency : Currency
  (maximumAmount promotionAmount consumedPromotionAmount taxRate exchangeRate settledAmount : Money)
  releasedAmount : Money
  (estimatedInputTokens maxOutputTokens : ℤ)
  (actualInputTokens actualCachedInputTokens actualOutputTokens : Option ℤ)
  usageSource : String
  observedOutputBytes : ℤ
  failureCode : String
  (settledAt releasedAt : Option Timestamp)
  (heartbeatAt createdAt : Timestamp)
  credentialOwner : CredentialOwner
  providerCredentialId : Option Uuid
  fees : ByokFees
  (platformServiceFee byokShadowAmount : Money)
  consumed_le : consumedPromotionAmount.units ≤ promotionAmount.units
  exchange_pos : 0 < exchangeRate.units
  estimated_nonneg : 0 ≤ estimatedInputTokens
  observed_nonneg : 0 ≤ observedOutputBytes

/-- Key columns of `funding_operation`. -/
structure FundingOperationKey where
  id : Uuid
  requestId : String
  organizationId : Uuid
  idempotencyKey : String
deriving DecidableEq

instance : Key FundingOperationKey where
  id := FundingOperationKey.id
  clash a b := a.id = b.id || a.requestId = b.requestId ||
    (a.organizationId = b.organizationId && a.idempotencyKey = b.idempotencyKey)

instance : Keyed FundingOperation FundingOperationKey where
  key operation := ⟨operation.id, operation.requestId, operation.organizationId, operation.idempotencyKey⟩

/-- A row of `funding_usage_adjustment`. -/
structure UsageAdjustment where
  (id operationId : Uuid)
  idempotencyKey : String
  (inputTokens cachedInputTokens outputTokens : ℤ)
  (previousAmount correctedAmount : Money)
  differenceAmount : Numeric
  usageSource : String
  journalId : Option Uuid

/-- Key columns of `funding_usage_adjustment`. -/
structure UsageAdjustmentKey where
  (id operationId : Uuid)
  idempotencyKey : String
deriving DecidableEq

instance : Key UsageAdjustmentKey where
  id := UsageAdjustmentKey.id
  clash a b := a.id = b.id || (a.operationId = b.operationId && a.idempotencyKey = b.idempotencyKey)

instance : Keyed UsageAdjustment UsageAdjustmentKey where
  key adjustment := ⟨adjustment.id, adjustment.operationId, adjustment.idempotencyKey⟩

/-- Whether the usage of a request was charged. -/
inductive UsageStatus
  | recorded
  | charged
  | waived
  | refunded
deriving DecidableEq

/-- A row of `billing_usage_records`: what the usage of one request was billed with. -/
structure UsageRecord where
  id : Uuid
  requestId : String
  (organizationId projectId : Uuid)
  tokens : Tokens
  amount : Money
  currency : Currency
  status : UsageStatus
  usagePriceSnapshotId : Option Uuid
  (providerCostAmount customerSaleAmount : Option Money)
  (promotionAmount taxAmount finalUserAmount : Money)
  fundingOperationId : Option Uuid
  tokens_nonneg : tokens.Counted

/-- Key columns of `billing_usage_records`. -/
structure UsageRecordKey where
  id : Uuid
  requestId : String
deriving DecidableEq

instance : Key UsageRecordKey where
  id := UsageRecordKey.id
  clash a b := a.id = b.id || a.requestId = b.requestId

instance : Keyed UsageRecord UsageRecordKey where
  key usage := ⟨usage.id, usage.requestId⟩

/-- A calendar month in UTC, counted from year zero. -/
abbrev Month := ℕ

/-- A row of `provider_usage_budget`. -/
structure UsageBudget where
  providerId : Uuid
  periodMonth : Month
  requestCount : ℕ
  (reservedCost providerCost : Money)

/-- Key columns of `provider_usage_budget`. -/
structure UsageBudgetKey where
  providerId : Uuid
  periodMonth : Month
deriving DecidableEq

instance : Key UsageBudgetKey where
  id key := Nat.pair key.providerId key.periodMonth
  clash a b := a = b
  clash_of_id a b h := by
    obtain ⟨hprovider, hmonth⟩ := Nat.pair_eq_pair.mp h
    cases a; cases b
    simp_all

instance : Keyed UsageBudget UsageBudgetKey where
  key budget := ⟨budget.providerId, budget.periodMonth⟩

/-- Whether a budget reservation still counts. -/
inductive BudgetStatus
  | reserved
  | settled
  | released
deriving DecidableEq

/-- A row of `provider_budget_reservations`. -/
structure BudgetReservation where
  (id operationId providerId : Uuid)
  periodMonth : Month
  currency : Currency
  (maximumCost settledCost : Money)
  status : BudgetStatus

/-- Key columns of `provider_budget_reservations`. -/
structure BudgetReservationKey where
  (id operationId : Uuid)
deriving DecidableEq

instance : Key BudgetReservationKey where
  id := BudgetReservationKey.id
  clash a b := a.id = b.id || a.operationId = b.operationId

instance : Keyed BudgetReservation BudgetReservationKey where
  key reservation := ⟨reservation.id, reservation.operationId⟩

/-- The provider budget tables. -/
structure Budgets where
  usage : Table UsageBudget
  reservations : Table BudgetReservation

/-- A row of `byok_shadow_spend_monthly`. -/
structure ShadowSpend where
  (projectId credentialId : Uuid)
  periodMonth : Month
  currency : Currency
  (shadowAmount serviceFeeAmount : Money)
  requestCount : ℕ

/-- Key columns of `byok_shadow_spend_monthly`. -/
structure ShadowSpendKey where
  (projectId credentialId : Uuid)
  periodMonth : Month
deriving DecidableEq

instance : Key ShadowSpendKey where
  id key := Nat.pair key.projectId (Nat.pair key.credentialId key.periodMonth)
  clash a b := a = b
  clash_of_id a b h := by
    obtain ⟨hproject, hrest⟩ := Nat.pair_eq_pair.mp h
    obtain ⟨hcredential, hmonth⟩ := Nat.pair_eq_pair.mp hrest
    cases a; cases b
    simp_all

instance : Keyed ShadowSpend ShadowSpendKey where
  key spend := ⟨spend.projectId, spend.credentialId, spend.periodMonth⟩

/-- The columns of `providers` that a dispatch reads. -/
structure Provider where
  id : Uuid
  settlementCurrency : Currency
  costLimit : Option Money

/-- The columns of `provider_credentials` that a dispatch reads. -/
structure Credential where
  id : Uuid
  owner : CredentialOwner

/-- A row of `byok_service_fee_policies`. -/
structure ByokPolicy where
  id : Uuid
  (organizationId providerId : Option Uuid)
  fees : ByokFees
  currency : Currency
  effectiveAt : Timestamp
  expiresAt : Option Timestamp
  enabled : Bool

instance : Keyed Provider RowKey where
  key provider := ⟨provider.id⟩

instance : Keyed Credential RowKey where
  key credential := ⟨credential.id⟩

instance : Keyed ByokPolicy RowKey where
  key policy := ⟨policy.id⟩

/-- The configuration tables; the money paths only read them. -/
structure Catalog where
  priceVersions : Table PriceVersion
  providers : Table Provider
  credentials : Table Credential
  byokPolicies : Table ByokPolicy

end ModelDock.Store
