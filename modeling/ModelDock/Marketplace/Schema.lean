import ModelDock.Relational.View
import ModelDock.Store.Schema.Accounts

/-!
# Suppliers and their place in the marketplace

`Market` is the state of suppliers, contracts, links, listings, launch reviews and settlements. A listing's
content is kept as its fingerprint; names, texts and audit rows are left out, and what gates read from other
tables is given with the call.
-/

namespace ModelDock.Marketplace

open Relational
open Store (Uuid Timestamp)

/-- Why a call fails. -/
inductive MarketError
  | notFound
  | supplierNotOwner
  | supplierNotReady
  | supplierApprovalRequired
  | marketplaceLaunchState
  | marketplaceGateEvidence
  | marketplacePayoutReadiness
  | supplierPayoutBlocked
  | supplierSettlementState
  | minimumSettlement
  | idempotencyConflict
  | message (text : String)
  | uniqueViolation
  | insufficientPrivilege
deriving DecidableEq

/-- The status of a supplier. -/
inductive SupplierStatus
  | draft
  | submitted
  | inReview
  | approved
  | rejected
  | suspended
  | exitRequested
  | exited
deriving DecidableEq

/-- How far a supplier's identity is verified. -/
inductive KybStatus
  | notStarted
  | pending
  | verified
  | rejected
  | expired
deriving DecidableEq

/-- The status of a supplier's contract. -/
inductive ContractStatus
  | notStarted
  | pending
  | active
  | expired
  | terminated
deriving DecidableEq

/-- What a supplier says about itself: its registration, its taxes, and the account it is paid to, which
is stored encrypted. -/
structure Profile where
  (legalName registrationNumber incorporationCountry taxId taxCountry taxFormType : String)
  payoutAccount : Option (List UInt8)
deriving DecidableEq

/-- A row of `supplier_organizations`. -/
structure Supplier where
  (id ownerUserId : Uuid)
  profile : Profile
  kybStatus : KybStatus
  contractStatus : ContractStatus
  contractVersion : String
  (contractStartAt contractEndAt : Option Timestamp)
  status : SupplierStatus
deriving DecidableEq

instance : Keyed Supplier RowKey where
  key supplier := ⟨supplier.id⟩

/-- A row of `supplier_endpoints`; `passed` says that it is verified and isolated. -/
structure SupplierEndpoint where
  (id supplierId : Uuid)
  passed : Bool

instance : Keyed SupplierEndpoint RowKey where
  key endpoint := ⟨endpoint.id⟩

/-- A row of `supplier_security_questionnaires`. -/
structure Questionnaire where
  (id supplierId : Uuid)
  approved : Bool

instance : Keyed Questionnaire RowKey where
  key questionnaire := ⟨questionnaire.id⟩

/-- The status of one part of the review for payouts. -/
inductive ReadinessStatus
  | pending
  | approved
  | rejected
deriving DecidableEq

/-- The four parts of the review for payouts. -/
structure ReadinessParts where
  (contract tax payment security : ReadinessStatus)
deriving DecidableEq

/-- A row of `supplier_payout_readiness_review`. -/
structure Readiness where
  supplierId : Uuid
  parts : ReadinessParts
  version : ℕ

instance : Keyed Readiness RowKey where
  key readiness := ⟨readiness.supplierId⟩

/-- The generated column `production_payout_enabled`. -/
def Readiness.enabled (readiness : Readiness) : Bool :=
  readiness.parts.contract = .approved && readiness.parts.tax = .approved &&
    readiness.parts.payment = .approved && readiness.parts.security = .approved

/-- The commercial status of a provider. -/
inductive CommercialStatus
  | technicallyAvailable
  | contractPending
  | commercialApproved
  | suspended
  | expired
  | terminated
deriving DecidableEq

/-- Whether a provider may be resold. -/
inductive ResaleStatus
  | notApproved
  | pending
  | approved
  | prohibited
deriving DecidableEq

/-- The columns of `providers` that decide whether requests may go there. -/
structure Provider where
  id : Uuid
  (enabled pricingDisabled emergencyKillSwitch : Bool)
  commercialStatus : CommercialStatus
  commercialResaleStatus : ResaleStatus
  (contractStartAt contractEndAt : Option Timestamp)
  (allowedCustomerRegions prohibitedRegions dataProcessingRegions : List String)
  costLimit : ℚ
deriving DecidableEq

instance : Keyed Provider RowKey where
  key provider := ⟨provider.id⟩

/-- The status of the link between a provider and its supplier. -/
inductive LinkStatus
  | active
  | suspended
  | ended
deriving DecidableEq

/-- A row of `supplier_provider_links`: a provider has at most one. -/
structure ProviderLink where
  (providerId supplierId : Uuid)
  status : LinkStatus
deriving DecidableEq

instance : Keyed ProviderLink RowKey where
  key link := ⟨link.providerId⟩

/-- The status of a listing. -/
inductive ListingStatus
  | draft
  | review
  | canary
  | active
  | suspended
  | rejected
  | exited
deriving DecidableEq

/-- A row of `provider_marketplace_listings`; the fingerprint stands for the released columns. -/
structure Listing where
  (id providerId : Uuid)
  (endpoint fingerprint : String)
  status : ListingStatus
deriving DecidableEq

/-- The key columns of a listing. -/
structure ListingKey where
  (id providerId : Uuid)
  endpoint : String
deriving DecidableEq

instance : Key ListingKey where
  id := ListingKey.id
  clash a b := a.id = b.id || (a.providerId = b.providerId && a.endpoint = b.endpoint)

instance : Keyed Listing ListingKey where
  key listing := ⟨listing.id, listing.providerId, listing.endpoint⟩

/-- The gates of a launch review. -/
inductive GateCode
  | supplierRegistration
  | qualificationReview
  | endpointVerification
  | modelPublication
  | priceApproval
  | healthTest
  | canaryRamp
  | routingRanking
  | userInvocation
  | userCharge
  | platformCommission
  | supplierPayable
  | refundAllocation
  | settlement
  | reconciliation
  | dispute
  | supplierSuspensionDrill
  | emergencyCutoverDrill
  | supplierExitDrill
  | contractReview
  | taxReview
  | paymentReview
  | securityReview
deriving DecidableEq

/-- All gates. -/
def marketplaceGateCodes : List GateCode :=
  [.supplierRegistration, .qualificationReview, .endpointVerification, .modelPublication, .priceApproval,
    .healthTest, .canaryRamp, .routingRanking, .userInvocation, .userCharge, .platformCommission, .supplierPayable,
    .refundAllocation, .settlement, .reconciliation, .dispute, .supplierSuspensionDrill, .emergencyCutoverDrill,
    .supplierExitDrill, .contractReview, .taxReview, .paymentReview, .securityReview]

/-- A gate that an administrator attests instead of the platform. -/
def GateCode.isManual (code : GateCode) : Bool :=
  code = .supplierSuspensionDrill || code = .emergencyCutoverDrill || code = .supplierExitDrill

/-- The gates that a canary needs. -/
def GateCode.isFoundation (code : GateCode) : Bool :=
  code = .supplierRegistration || code = .qualificationReview || code = .endpointVerification ||
    code = .modelPublication || code = .priceApproval || code = .healthTest

/-- The status of a gate. -/
inductive GateStatus
  | pending
  | passed
  | failed
deriving DecidableEq

/-- The status of a launch review. -/
inductive ReviewStatus
  | draft
  | inReview
  | approved
  | rejected
  | revoked
deriving DecidableEq

/-- A row of `marketplace_launch_review` with its gates, one for each code. -/
structure LaunchReview where
  (id listingId providerId supplierId : Uuid)
  fingerprint : String
  status : ReviewStatus
  createdBy : Uuid
  gates : GateCode → GateStatus

instance : Keyed LaunchReview RowKey where
  key review := ⟨review.id⟩

/-- Every gate has passed. -/
def LaunchReview.passed (review : LaunchReview) : Bool :=
  marketplaceGateCodes.all fun code => review.gates code = .passed

/-- Every gate that a canary needs has passed. -/
def LaunchReview.foundationPassed (review : LaunchReview) : Bool :=
  marketplaceGateCodes.all fun code => !code.isFoundation || review.gates code = .passed

/-- The status of a settlement. -/
inductive BatchStatus
  | pendingApproval
  | approved
  | processing
  | paid
  | failed
  | disputed
  | cancelled
deriving DecidableEq

/-- A row of `supplier_settlement_batch`. -/
structure SettlementBatch where
  (id supplierId : Uuid)
  status : BatchStatus
  sandbox : Bool
  payoutAmount : ℚ
  createdBy : Option Uuid
  (retryCount maxAttempts : ℕ)
  nextRetryAt : Option Timestamp
  payoutReference : String
  createdAt : Timestamp

instance : Keyed SettlementBatch RowKey where
  key batch := ⟨batch.id⟩

/-- The tables of the marketplace and the clock of the database. -/
structure Market where
  clock : Timestamp
  suppliers : Table Supplier
  endpoints : Table SupplierEndpoint
  questionnaires : Table Questionnaire
  readiness : Table Readiness
  providers : Table Provider
  links : Table ProviderLink
  listings : Table Listing
  reviews : Table LaunchReview
  batches : Table SettlementBatch

/-- A time is not before the start of a period and before its end, as far as they are given. -/
def within (startAt endAt : Option Timestamp) (now : Timestamp) : Bool :=
  startAt.all (· ≤ now) && endAt.all (now < ·)

/-- The supplier is approved, and its contract is active and contains the time. -/
def Supplier.inGoodStanding (supplier : Supplier) (now : Timestamp) : Bool :=
  supplier.status = .approved && supplier.contractStatus = .active &&
    within supplier.contractStartAt supplier.contractEndAt now

end ModelDock.Marketplace
