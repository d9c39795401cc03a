import ModelDock.Marketplace.Suppliers

/-!
# Listings, launch reviews and the life of a marketplace provider

A listing becomes active with an approved launch review and is then suspended, resumed, cut over and ended by
lifecycle actions. What the gates read from other tables, and a provider's quality, is given with the call.
-/

namespace ModelDock.Marketplace

open Relational
open Store (Uuid Timestamp)
open Text (trimSpace)

variable (m : Market) (providerId : Uuid) (listing : Listing) (link : ProviderLink) (supplier : Supplier)

/-- Write columns of one provider. -/
def Market.setProvider (set : Provider → Provider)
    (hkey : ∀ provider, Keyed.key (set provider) = Keyed.key provider := by intro; rfl) : Market :=
  { m with providers := m.providers.rewriteIf (fun provider => provider.id = providerId) set hkey }

variable (supplierId : Uuid) (provider : Provider) (review : LaunchReview) (s : Session) (reviewId : Uuid)

/-- Store a provider as an administrator describes it. -/
def updateProvider (m : Market) : Except MarketError Market := do
  let _ ← required (m.providers.find? provider.id) .notFound
  return { m with providers := m.providers.replace provider }

/-- Turn the emergency stop of a provider on or off. -/
def setProviderKillSwitch (enabled : Bool) (m : Market) : Except MarketError Market := do
  let _ ← required (m.providers.find? providerId) .notFound
  return m.setProvider providerId fun provider => { provider with emergencyKillSwitch := enabled }

/-- The trigger of the table of listings: a listing of a linked provider is a canary or active only with a
review of its content. -/
def Market.activationAllowed : Bool :=
  match listing.status with
  | .canary => (m.links.find? listing.providerId).isNone || m.reviews.rows.any fun review =>
      review.listingId = listing.id && review.providerId = listing.providerId && review.status = .inReview &&
        review.fingerprint = listing.fingerprint && review.foundationPassed
  | .active => (m.links.find? listing.providerId).isNone || m.reviews.rows.any fun review =>
      review.listingId = listing.id && review.providerId = listing.providerId && review.status = .approved &&
        review.fingerprint = listing.fingerprint && review.passed
  | _ => true

/-- Give a listing a status. -/
def Market.setListing (status : ListingStatus) : Except MarketError Market := do
  ensure (m.activationAllowed { listing with status := status }) .insufficientPrivilege
  return { m with listings := m.listings.replace { listing with status := status } }

/-- Store a listing. One that is not named is inserted, unless its provider has one for the endpoint. -/
def upsertMarketplaceListing (listingId : Option Uuid) (providerId : Uuid)
    (endpoint fingerprint : String) (status : ListingStatus) (m : Market) : Except MarketError Market :=
  match listingId with
  | some listingId => do
    let _ ← required (m.listings.find? listingId) .notFound
    let listing : Listing := ⟨listingId, providerId, endpoint, fingerprint, status⟩
    ensure (m.activationAllowed listing) .insufficientPrivilege
    let listings ← (m.listings.delete fun row => row.id = listingId).insert listing MarketError.uniqueViolation
    return { m with listings := listings }
  | none => do
    let listing : Listing := ⟨s.uuid, providerId, endpoint, fingerprint, status⟩
    ensure (m.activationAllowed listing) .insufficientPrivilege
    match m.listings.rows.find? fun row => row.providerId = providerId && row.endpoint = endpoint with
    | some row => do
      let listing := { row with fingerprint := fingerprint, status := status }
      ensure (m.activationAllowed listing) .insufficientPrivilege
      return { m with listings := m.listings.replace listing }
    | none => do
      let listings ← m.listings.insert listing MarketError.uniqueViolation
      return { m with listings := listings }

/-- Open a launch review for the listing of a provider with an active link. The review that was approved
before is revoked. -/
def createMarketplaceLaunchReview (listingId : Uuid) (m : Market) : Except MarketError Market := do
  let listing ← required (m.listings.find? listingId) .marketplaceLaunchState
  let link ← required ((m.links.find? listing.providerId).filter fun link => link.status = .active)
    .marketplaceLaunchState
  ensure (listing.status ≠ .exited ∧ listing.status ≠ .rejected) .marketplaceLaunchState
  ensure (m.reviews.rows.all fun review => review.listingId ≠ listingId ||
    (review.status ≠ .draft && review.status ≠ .inReview)) .marketplaceLaunchState
  let revoked := m.reviews.rewriteIf
    (fun review => review.listingId = listingId && review.status = .approved)
    fun review => { review with status := .revoked }
  let reviews ← revoked.insert ⟨s.uuid, listingId, listing.providerId, link.supplierId, listing.fingerprint,
    .inReview, s.actor, fun _ => .pending⟩ MarketError.uniqueViolation
  return { m with
    reviews := reviews
    listings := m.listings.rewriteIf
      (fun row => row.id = listingId && row.status ≠ .suspended && row.status ≠ .exited)
      fun row => { row with status := .review } }

/-- The contract of a supplier has started and has not ended. -/
def Supplier.contractRuns (now : Timestamp) : Bool :=
  supplier.contractStatus = .active && supplier.contractStartAt.isSome &&
    within supplier.contractStartAt supplier.contractEndAt now

/-- The supplier has an approved questionnaire. -/
def Market.hasQuestionnaire : Bool :=
  m.questionnaires.rows.any fun questionnaire => questionnaire.supplierId = supplierId && questionnaire.approved

/-- What a supplier has told about its taxes is complete. -/
def Supplier.taxComplete : Bool :=
  supplier.profile.taxId ≠ "" && supplier.profile.taxCountry ≠ "" && supplier.profile.taxFormType ≠ ""

/-- Whether an automatic gate holds. `facts` says it for the gates that read other tables. -/
def Market.gateHolds (facts : GateCode → Bool) (code : GateCode) : Bool :=
  let supplier (test : Supplier → Bool) := (m.suppliers.find? review.supplierId).any test
  let part (test : ReadinessParts → Bool) := (m.readiness.find? review.supplierId).any fun row => test row.parts
  match code with
  | .supplierRegistration => supplier fun row => row.profile.legalName ≠ "" &&
      row.profile.registrationNumber ≠ "" && row.profile.incorporationCountry ≠ ""
  | .qualificationReview => supplier fun row => row.status = .approved && row.kybStatus = .verified
  | .contractReview => part (fun parts => parts.contract = .approved) &&
      supplier fun row => row.kybStatus = .verified && row.contractRuns m.clock
  | .taxReview => part (fun parts => parts.tax = .approved) && supplier Supplier.taxComplete
  | .paymentReview => part (fun parts => parts.payment = .approved) &&
      supplier fun row => row.profile.payoutAccount.isSome
  | .securityReview => part (fun parts => parts.security = .approved) && m.hasQuestionnaire review.supplierId
  | _ => facts code

/-- Evaluate the automatic gates of a launch review. -/
def evaluateMarketplaceLaunchReview (facts : GateCode → Bool) (m : Market) : Except MarketError Market := do
  let review ← required (m.reviews.find? reviewId) .notFound
  ensure (review.status = .inReview ∨ review.status = .draft) .marketplaceLaunchState
  let gates code := if code.isManual then review.gates code
    else if m.gateHolds review facts code then .passed else .failed
  return { m with
    reviews := m.reviews.rewriteIf (fun row => row.id = reviewId)
      fun row => { row with status := .inReview, gates := gates } }

/-- Attest a gate of a launch review by hand. -/
def attestMarketplaceLaunchGate (code : GateCode) (passed : Bool) (reference reason : String)
    (m : Market) : Except MarketError Market := do
  ensure (code.isManual ∧ trimSpace reference ≠ "" ∧ (trimSpace reference).utf8ByteSize ≤ 300 ∧
    trimSpace reason ≠ "" ∧ (trimSpace reason).utf8ByteSize ≤ 500) .marketplaceGateEvidence
  let review ← required (m.reviews.find? reviewId) .notFound
  ensure (review.status = .inReview ∨ review.status = .draft) .marketplaceLaunchState
  let gates := Function.update review.gates code (if passed then .passed else .failed)
  return { m with
    reviews := m.reviews.rewriteIf (fun row => row.id = reviewId) fun row => { row with gates := gates } }

/-- The supplier and the provider of a review may be launched. -/
def Market.eligible : Bool :=
  (m.suppliers.find? review.supplierId).any (fun supplier => supplier.status = .approved &&
    supplier.kybStatus = .verified && supplier.contractRuns m.clock && supplier.taxComplete &&
    supplier.profile.payoutAccount.isSome) &&
  (m.links.find? review.providerId).any (fun link => link.supplierId = review.supplierId && link.status = .active) &&
  (m.providers.find? review.providerId).any (fun provider => provider.enabled && !provider.emergencyKillSwitch &&
    provider.commercialStatus = .commercialApproved && provider.commercialResaleStatus = .approved) &&
  (m.readiness.find? review.supplierId).any Readiness.enabled && m.hasQuestionnaire review.supplierId

/-- Approve a launch review: the listing becomes active. -/
def approveMarketplaceLaunchReview (reason : String) (m : Market) : Except MarketError Market := do
  ensure (trimSpace reason ≠ "" ∧ (trimSpace reason).utf8ByteSize ≤ 500) .marketplaceLaunchState
  let review ← required (m.reviews.find? reviewId) .notFound
  ensure (review.status = .inReview ∧ review.createdBy ≠ s.actor) .marketplaceLaunchState
  ensure (review.passed ∧ m.eligible review) .marketplaceLaunchState
  let listing ← required (m.listings.find? review.listingId) .notFound
  let approved : Market := { m with
    reviews := m.reviews.rewriteIf (fun row => row.id = reviewId) fun row => { row with status := .approved } }
  approved.setListing listing .active

/-- What may be done with a listing. -/
inductive LifecycleAction
  | canaryStart
  | suspend
  | resume
  | emergencyCutover
  | exit
deriving DecidableEq

/-- Give the links of a provider that have not ended the status of a stop. -/
def Market.suspendLinks : Market :=
  { m with
    links := m.links.rewriteIf (fun link => link.providerId = providerId && link.status ≠ .ended)
      fun link => { link with status := .suspended } }

/-- Start to send a small part of the traffic to a listing. -/
def canaryStart (qualityAllows : Bool) (m : Market) : Except MarketError Market := do
  ensure (qualityAllows ∧ m.reviews.rows.any fun review => review.listingId = listing.id &&
    review.status = .inReview && review.foundationPassed) .marketplaceLaunchState
  m.setListing listing .canary

/-- The supplier that a suspended listing leaves behind. -/
def Supplier.suspended (supplier : Supplier) : Supplier :=
  if supplier.status = .exited then supplier else { supplier with status := .suspended }

theorem Supplier.suspended_key : Keyed.key supplier.suspended = Keyed.key supplier := by
  unfold Supplier.suspended
  split <;> rfl

/-- Suspend a supplier with the provider of a listing. -/
def suspend (m : Market) : Except MarketError Market :=
  let m := m.setSupplier link.supplierId Supplier.suspended Supplier.suspended_key
  let m := m.suspendLinks listing.providerId
  let m := m.setProvider listing.providerId fun provider => { provider with enabled := false }
  m.setListing listing .suspended

/-- The supplier that a resumed listing leaves behind: only one that is suspended, verified and under
contract is approved again. -/
def Supplier.resumed : Supplier :=
  if supplier.kybStatus = .verified ∧ supplier.contractStatus = .active ∧ supplier.status = .suspended then
    { supplier with status := .approved }
  else supplier

theorem Supplier.resumed_key : Keyed.key supplier.resumed = Keyed.key supplier := by
  unfold Supplier.resumed
  split <;> rfl

/-- The provider that a resumed listing leaves behind. -/
def Provider.resumed : Provider :=
  { provider with enabled := true, emergencyKillSwitch := false }

/-- Activate the suspended links of a provider. -/
def Market.resumeLinks : Market :=
  { m with
    links := m.links.rewriteIf (fun link => link.providerId = providerId && link.status = .suspended)
      fun link => { link with status := .active } }

/-- Resume a listing whose launch review is approved. -/
def resume (m : Market) : Except MarketError Market := do
  ensure (m.reviews.rows.any fun review => review.listingId = listing.id && review.status = .approved &&
    review.passed) .marketplaceLaunchState
  let m := m.setSupplier link.supplierId Supplier.resumed Supplier.resumed_key
  let m := m.resumeLinks listing.providerId
  let m := m.setProvider listing.providerId Provider.resumed
  m.setListing listing .active

/-- Stop the provider of a listing at once. -/
def emergencyCutover (m : Market) : Except MarketError Market :=
  let m := m.setProvider listing.providerId fun provider =>
    { provider with enabled := false, emergencyKillSwitch := true }
  let m := m.suspendLinks listing.providerId
  m.setListing listing .suspended

/-- The supplier that an exit leaves behind. -/
def Supplier.exited (supplier : Supplier) : Supplier :=
  { supplier with status := .exited, contractStatus := .terminated }

theorem Supplier.exited_key : Keyed.key supplier.exited = Keyed.key supplier := rfl

/-- End the links of a supplier. -/
def Market.endLinks : Market :=
  { m with
    links := m.links.rewriteIf (fun link => link.supplierId = supplierId && link.status ≠ .ended)
      fun link => { link with status := .ended } }

/-- End the participation of a supplier with all its providers. -/
def exit (m : Market) : Except MarketError Market := do
  ensure (m.batches.rows.all fun batch => batch.supplierId ≠ link.supplierId || batch.status ≠ .processing)
    .marketplaceLaunchState
  let ofSupplier (providerId : Uuid) : Bool :=
    (m.links.find? providerId).any fun row => row.supplierId = link.supplierId
  let m := m.setSupplier link.supplierId Supplier.exited Supplier.exited_key
  let m := m.endLinks link.supplierId
  return { m with
    providers := m.providers.rewriteIf (fun provider => ofSupplier provider.id)
      fun provider => { provider with
        enabled := false, emergencyKillSwitch := true, commercialStatus := .terminated }
    listings := m.listings.rewriteIf (fun listing => ofSupplier listing.providerId)
      fun listing => { listing with status := .exited }
    reviews := m.reviews.rewriteIf (fun review => review.supplierId = link.supplierId && review.status = .approved)
      fun review => { review with status := .revoked } }

/-- Act on a listing. -/
def marketplaceLifecycleAction (listingId : Uuid) (action : LifecycleAction) (reason : String)
    (qualityAllows : Bool) (m : Market) : Except MarketError Market := do
  ensure (trimSpace reason ≠ "" ∧ (trimSpace reason).utf8ByteSize ≤ 500) .marketplaceLaunchState
  let listing ← required (m.listings.find? listingId) .notFound
  let link ← required (m.links.find? listing.providerId) .notFound
  ensure (listing.status ≠ .exited) .marketplaceLaunchState
  match action with
  | .canaryStart => canaryStart listing qualityAllows m
  | .suspend => suspend listing link m
  | .resume => resume listing link m
  | .emergencyCutover => emergencyCutover listing m
  | .exit => exit link m

/-- A call that changes the marketplace, or time that passes. `DeleteMarketplaceListing` is not among them. -/
inductive MarketCall
  | tick (seconds : ℕ)
  | createSupplier (profile : Profile)
  | updateSupplierProfile (supplierId : Uuid) (profile : Profile)
  | submitSupplier (supplierId : Uuid)
  | requestSupplierExit (supplierId : Uuid)
  | createSupplierEndpoint (supplierId : Uuid)
  | markSupplierEndpointVerification (endpointId : Uuid) (passed : Bool)
  | createSupplierQuestionnaire (supplierId : Uuid)
  | reviewSupplier (supplierId : Uuid) (decision : ReviewDecision) (reason : String)
  | updateSupplierCompliance (supplierId : Uuid) (compliance : Compliance)
  | reviewQuestionnaire (questionnaireId : Uuid) (approved : Bool)
  | linkSupplierProvider (providerId supplierId : Uuid) (reason : String) (qualityEnabled : Option Bool)
  | updateSupplierPayoutReadiness (supplierId : Uuid) (parts : ReadinessParts) (expectedVersion : ℕ)
  | updateProvider (provider : Provider)
  | setProviderKillSwitch (providerId : Uuid) (enabled : Bool)
  | upsertMarketplaceListing (listingId : Option Uuid) (providerId : Uuid) (endpoint fingerprint : String)
      (status : ListingStatus)
  | createMarketplaceLaunchReview (listingId : Uuid)
  | evaluateMarketplaceLaunchReview (reviewId : Uuid) (facts : GateCode → Bool)
  | attestMarketplaceLaunchGate (reviewId : Uuid) (code : GateCode) (passed : Bool) (reference reason : String)
  | approveMarketplaceLaunchReview (reviewId : Uuid) (reason : String)
  | marketplaceLifecycleAction (listingId : Uuid) (action : LifecycleAction) (reason : String)
      (qualityAllows : Bool)

/-- Run one call in its session. -/
def execMarket (invocation : Session × MarketCall) (m : Market) : Except MarketError Market :=
  let s := invocation.1
  match invocation.2 with
  | .tick seconds => .ok { m with clock := m.clock + seconds }
  | .createSupplier profile => createSupplier s profile m
  | .updateSupplierProfile supplierId profile => updateSupplierProfile s supplierId profile m
  | .submitSupplier supplierId => submitSupplier s supplierId m
  | .requestSupplierExit supplierId => requestSupplierExit s supplierId m
  | .createSupplierEndpoint supplierId => createSupplierEndpoint s supplierId m
  | .markSupplierEndpointVerification endpointId passed => markSupplierEndpointVerification s endpointId passed m
  | .createSupplierQuestionnaire supplierId => createSupplierQuestionnaire s supplierId m
  | .reviewSupplier supplierId decision reason => reviewSupplier s supplierId decision reason m
  | .updateSupplierCompliance supplierId compliance => updateSupplierCompliance s supplierId compliance m
  | .reviewQuestionnaire questionnaireId approved => reviewQuestionnaire s questionnaireId approved m
  | .linkSupplierProvider providerId supplierId reason qualityEnabled =>
    linkSupplierProvider providerId supplierId reason qualityEnabled m
  | .updateSupplierPayoutReadiness supplierId parts expectedVersion =>
    updateSupplierPayoutReadiness supplierId parts expectedVersion m
  | .updateProvider provider => updateProvider provider m
  | .setProviderKillSwitch providerId enabled => setProviderKillSwitch providerId enabled m
  | .upsertMarketplaceListing listingId providerId endpoint fingerprint status =>
    upsertMarketplaceListing s listingId providerId endpoint fingerprint status m
  | .createMarketplaceLaunchReview listingId => createMarketplaceLaunchReview s listingId m
  | .evaluateMarketplaceLaunchReview reviewId facts => evaluateMarketplaceLaunchReview reviewId facts m
  | .attestMarketplaceLaunchGate reviewId code passed reference reason =>
    attestMarketplaceLaunchGate reviewId code passed reference reason m
  | .approveMarketplaceLaunchReview reviewId reason => approveMarketplaceLaunchReview s reviewId reason m
  | .marketplaceLifecycleAction listingId action reason qualityAllows =>
    marketplaceLifecycleAction listingId action reason qualityAllows m

end ModelDock.Marketplace
