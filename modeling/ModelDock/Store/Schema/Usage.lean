import ModelDock.Store.Schema.Payments

/-!
# Request logs and the price of a usage

The request log, the immutable price snapshot of each usage, and direct redemptions of promotion credits.
-/

namespace ModelDock.Store

open Relational Pricing

/-- The columns of `request_logs` that billing reads or writes. -/
structure LoggedRequest where
  id : Uuid
  requestId : String
  statusCode : ℤ
  tokens : Tokens
  (fundingOperationId pricingVersionId usagePriceSnapshotId : Option Uuid)

/-- Key columns of `request_logs`. -/
structure LoggedRequestKey where
  id : Uuid
  requestId : String
deriving DecidableEq

instance : Key LoggedRequestKey where
  id := LoggedRequestKey.id
  clash a b := a.id = b.id || a.requestId = b.requestId

instance : Keyed LoggedRequest LoggedRequestKey where
  key row := ⟨row.id, row.requestId⟩

/-- A row of `usage_price_snapshot`. The rates are those the amounts were calculated with. -/
structure UsagePriceSnapshot where
  id : Uuid
  requestId : String
  pricingVersionId : Uuid
  tokens : Tokens
  (provider retail : StoredRate)
  (providerCostAmount customerSaleAmount exchangeRate : Money)
  platformGrossMargin : Numeric
  (promotionAmount preTaxAmount taxRate taxAmount finalUserAmount : Money)
  credentialOwner : CredentialOwner
  platformServiceFee : Money
  tokens_nonneg : tokens.Counted
  exchange_pos : 0 < exchangeRate.units

/-- Key columns of `usage_price_snapshot`. -/
structure UsagePriceSnapshotKey where
  id : Uuid
  requestId : String
deriving DecidableEq

instance : Key UsagePriceSnapshotKey where
  id := UsagePriceSnapshotKey.id
  clash a b := a.id = b.id || a.requestId = b.requestId

instance : Keyed UsagePriceSnapshot UsagePriceSnapshotKey where
  key snapshot := ⟨snapshot.id, snapshot.requestId⟩

/-- A row of `promotion_credit_redemptions`: what a request took of a credit without a reservation. -/
structure PromotionRedemption where
  (id promotionCreditId usageSnapshotId : Uuid)
  requestId : String
  amount : Money
  positive : 0 < amount.units

/-- Key columns of `promotion_credit_redemptions`. -/
structure PromotionRedemptionKey where
  id : Uuid
  requestId : String
  promotionCreditId : Uuid
deriving DecidableEq

instance : Key PromotionRedemptionKey where
  id := PromotionRedemptionKey.id
  clash a b := a.id = b.id || (a.requestId = b.requestId && a.promotionCreditId = b.promotionCreditId)

instance : Keyed PromotionRedemption PromotionRedemptionKey where
  key redemption := ⟨redemption.id, redemption.requestId, redemption.promotionCreditId⟩

/-- The store with the tables of the usage layer. -/
structure LoggedDb where
  db : Db
  requestLogs : Table LoggedRequest
  snapshots : Table UsagePriceSnapshot
  redemptions : Table PromotionRedemption

end ModelDock.Store
