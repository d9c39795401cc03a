import ModelDock.Marketplace.Launch

/-!
# What the calls of the marketplace change

`MarketEffect` lists what calls do to suppliers, links, reviews and settlements; every call has one of these.
-/

namespace ModelDock.Marketplace

open Relational Table
open Store (Uuid)

variable {status : ListingStatus} {providerId : Uuid} {reason : String}

/-- Two markets agree on the clock, the suppliers, their links and reviews, and the settlements. -/
structure Market.Agrees (m m' : Market) : Prop where
  clock : m'.clock = m.clock
  suppliers : m'.suppliers = m.suppliers
  readiness : m'.readiness = m.readiness
  links : m'.links = m.links
  batches : m'.batches = m.batches

/-- What the calls change of the suppliers, their links and their reviews. -/
inductive MarketEffect (m : Market) : Session → MarketCall → Market → Prop
  | agrees {s : Session} {call : MarketCall} {m' : Market} (h : m.Agrees m') : MarketEffect m s call m'
  | tick {s : Session} (seconds : ℕ) : MarketEffect m s (.tick seconds) { m with clock := m.clock + seconds }
  | create {s : Session} {profile : Profile} {suppliers : Table Supplier} {readiness : Table Readiness}
      (hsup : m.suppliers.insert
        ⟨s.uuid, s.actor, profile, .notStarted, .notStarted, "", none, none, .draft⟩
          MarketError.uniqueViolation = .ok suppliers)
      (hread : m.readiness.insert ⟨s.uuid, ⟨.pending, .pending, .pending, .pending⟩, 0⟩
        MarketError.uniqueViolation = .ok readiness) :
      MarketEffect m s (.createSupplier profile) { m with suppliers := suppliers, readiness := readiness }
  | describe {s : Session} {supplierId : Uuid} {profile : Profile} :
      MarketEffect m s (.updateSupplierProfile supplierId profile)
        (m.setSupplier supplierId (Supplier.describe profile))
  | submit {s : Session} {supplierId : Uuid} {supplier : Supplier}
      (hf : m.suppliers.find? supplierId = some supplier)
      (hst : supplier.status = .draft ∨ supplier.status = .rejected) :
      MarketEffect m s (.submitSupplier supplierId) (m.setStatus supplierId .submitted)
  | requestExit {s : Session} {supplierId : Uuid} :
      MarketEffect m s (.requestSupplierExit supplierId) (m.setStatus supplierId .exitRequested)
  | review {s : Session} {supplierId : Uuid} {decision : ReviewDecision} {reason : String} :
      MarketEffect m s (.reviewSupplier supplierId decision reason) (m.setStatus supplierId decision.status)
  | comply {s : Session} {supplierId : Uuid} {compliance : Compliance} :
      MarketEffect m s (.updateSupplierCompliance supplierId compliance)
        (m.setSupplier supplierId (Supplier.comply compliance))
  | link {s : Session} {providerId supplierId : Uuid} {reason : String} {qualityEnabled : Option Bool}
      {links : Table ProviderLink}
      (hlin : ∀ link ∈ links.rows, link = ⟨providerId, supplierId, .active⟩ ∨ link ∈ m.links.rows) :
      MarketEffect m s (.linkSupplierProvider providerId supplierId reason qualityEnabled)
        { m with links := links }
  | readiness {s : Session} {supplierId : Uuid} {parts : ReadinessParts} {expectedVersion : ℕ}
      {supplier : Supplier} (hf : m.suppliers.find? supplierId = some supplier)
      (hpay : parts.payment = .approved → supplier.profile.payoutAccount.isSome) :
      MarketEffect m s (.updateSupplierPayoutReadiness supplierId parts expectedVersion)
        { m with
          readiness := m.readiness.rewriteIf (fun row => row.supplierId = supplierId)
            fun row => { row with parts := parts, version := row.version + 1 } }
  | suspend {s : Session} {listing : Listing} {link : ProviderLink} {reason : String} {qualityAllows : Bool}
      {m' : Market} (hlst : m.listings.find? listing.id = some listing)
      (hlink : m.links.find? listing.providerId = some link)
      (h : ((m.setSupplier link.supplierId Supplier.suspended Supplier.suspended_key).suspendLinks
        listing.providerId).Agrees m') :
      MarketEffect m s (.marketplaceLifecycleAction listing.id .suspend reason qualityAllows) m'
  | resume {s : Session} {listing : Listing} {link : ProviderLink} {reason : String} {qualityAllows : Bool}
      {m' : Market} (hlst : m.listings.find? listing.id = some listing)
      (hlink : m.links.find? listing.providerId = some link)
      (h : ((m.setSupplier link.supplierId Supplier.resumed Supplier.resumed_key).resumeLinks
        listing.providerId).Agrees m') :
      MarketEffect m s (.marketplaceLifecycleAction listing.id .resume reason qualityAllows) m'
  | cutover {s : Session} {listing : Listing} {reason : String} {qualityAllows : Bool} {m' : Market}
      (h : (m.suspendLinks listing.providerId).Agrees m') :
      MarketEffect m s (.marketplaceLifecycleAction listing.id .emergencyCutover reason qualityAllows) m'
  | exit {s : Session} {listing : Listing} {link : ProviderLink} {reason : String} {qualityAllows : Bool}
      {m' : Market} (hlink : m.links.find? listing.providerId = some link)
      (h : ((m.setSupplier link.supplierId Supplier.exited Supplier.exited_key).endLinks
        link.supplierId).Agrees m') :
      MarketEffect m s (.marketplaceLifecycleAction listing.id .exit reason qualityAllows) m'

variable {m m' : Market} {s : Session}

theorem setListing_frame {listing : Listing}
    (h : m.setListing listing status = .ok m') : ∃ listings, m' = { m with listings := listings } := by
  simp only [Market.setListing, eq_ok] at h
  obtain ⟨_, _, rfl⟩ := h
  exact ⟨_, rfl⟩

theorem linkSupplierProvider_effect {supplierId : Uuid} {qualityEnabled : Option Bool}
    (h : linkSupplierProvider providerId supplierId reason qualityEnabled m = .ok m') :
    MarketEffect m s (.linkSupplierProvider providerId supplierId reason qualityEnabled) m' := by
  simp only [linkSupplierProvider, bind_eq_ok] at h
  obtain ⟨_, _, _, _, _, _, _, _, _, _, h⟩ := h
  split at h
  · next old hold =>
    cases h
    obtain ⟨hmem, hid⟩ := found hold
    have hkey : Keyed.key (⟨providerId, supplierId, .active⟩ : ProviderLink) = Keyed.key old :=
      congrArg RowKey.mk hid.symm
    refine .link fun link hlink => ?_
    rcases (mem_replace hmem hkey).mp hlink with hnew | ⟨hkept, _⟩
    · exact .inl hnew
    · exact .inr hkept
  · simp only [eq_ok] at h
    obtain ⟨_, hins, rfl⟩ := h
    exact .link fun link hlink => (mem_insert hins).mp hlink

theorem upsertMarketplaceListing_agrees {listingId : Option Uuid} {endpoint fingerprint : String}
    (h : upsertMarketplaceListing s listingId providerId endpoint fingerprint status m = .ok m') : m.Agrees m' := by
  cases listingId with
  | some listingId =>
    simp only [upsertMarketplaceListing, eq_ok] at h
    obtain ⟨_, _, _, _, _, _, rfl⟩ := h
    exact ⟨rfl, rfl, rfl, rfl, rfl⟩
  | none =>
    simp only [upsertMarketplaceListing, bind_eq_ok] at h
    obtain ⟨_, _, h⟩ := h
    split at h <;> simp only [eq_ok] at h <;> obtain ⟨_, _, rfl⟩ := h <;>
      exact ⟨rfl, rfl, rfl, rfl, rfl⟩

theorem marketplaceLifecycleAction_effect {listingId : Uuid} {action : LifecycleAction}
    {qualityAllows : Bool} (h : marketplaceLifecycleAction listingId action reason qualityAllows m = .ok m') :
    MarketEffect m s (.marketplaceLifecycleAction listingId action reason qualityAllows) m' := by
  simp only [marketplaceLifecycleAction, eq_ok] at h
  obtain ⟨_, _, listing, hls, _, hlink, _, _, h⟩ := h
  obtain rfl : listing.id = listingId := (found hls).2
  cases action with
  | canaryStart =>
    simp only [canaryStart, bind_eq_ok] at h
    obtain ⟨_, _, hset⟩ := h
    obtain ⟨listings, rfl⟩ := setListing_frame hset
    exact .agrees ⟨rfl, rfl, rfl, rfl, rfl⟩
  | suspend =>
    obtain ⟨listings, rfl⟩ := setListing_frame h
    exact .suspend hls hlink ⟨rfl, rfl, rfl, rfl, rfl⟩
  | resume =>
    simp only [resume, bind_eq_ok] at h
    obtain ⟨_, _, hset⟩ := h
    obtain ⟨listings, rfl⟩ := setListing_frame hset
    exact .resume hls hlink ⟨rfl, rfl, rfl, rfl, rfl⟩
  | emergencyCutover =>
    obtain ⟨listings, rfl⟩ := setListing_frame h
    exact .cutover ⟨rfl, rfl, rfl, rfl, rfl⟩
  | exit =>
    simp only [exit, eq_ok] at h
    obtain ⟨_, _, rfl⟩ := h
    exact .exit hlink ⟨rfl, rfl, rfl, rfl, rfl⟩

/-- Every committed marketplace call has the effect its call allows. -/
theorem execMarket_effect {call : MarketCall} (h : execMarket (s, call) m = .ok m') : MarketEffect m s call m' := by
  cases call with
  | tick seconds =>
    cases h
    exact .tick seconds
  | createSupplier profile =>
    simp only [execMarket, createSupplier, eq_ok] at h
    obtain ⟨_, hsp, _, hread, rfl⟩ := h
    exact .create hsp hread
  | updateSupplierProfile supplierId profile =>
    simp only [execMarket, updateSupplierProfile, eq_ok] at h
    obtain ⟨_, _, _, _, rfl⟩ := h
    exact .describe
  | submitSupplier supplierId =>
    simp only [execMarket, submitSupplier, eq_ok] at h
    obtain ⟨supplier, hf, _, hst, rfl⟩ := h
    exact .submit (Option.filter_eq_some_iff.mp hf).1 hst
  | requestSupplierExit supplierId =>
    simp only [execMarket, requestSupplierExit, bind_eq_ok] at h
    obtain ⟨_, _, h⟩ := h
    split at h <;> cases h
    · exact .agrees ⟨rfl, rfl, rfl, rfl, rfl⟩
    · exact .requestExit
  | createSupplierEndpoint | createSupplierQuestionnaire | reviewQuestionnaire | evaluateMarketplaceLaunchReview =>
    simp only [execMarket, createSupplierEndpoint, createSupplierQuestionnaire, reviewQuestionnaire,
      evaluateMarketplaceLaunchReview, eq_ok] at h
    obtain ⟨_, _, _, _, rfl⟩ := h
    exact .agrees ⟨rfl, rfl, rfl, rfl, rfl⟩
  | markSupplierEndpointVerification | attestMarketplaceLaunchGate =>
    simp only [execMarket, markSupplierEndpointVerification, attestMarketplaceLaunchGate, eq_ok] at h
    obtain ⟨_, _, _, _, _, _, rfl⟩ := h
    exact .agrees ⟨rfl, rfl, rfl, rfl, rfl⟩
  | reviewSupplier supplierId _ reason =>
    simp only [execMarket, reviewSupplier, eq_ok] at h
    obtain ⟨_, _, _, _, _, _, _, _, rfl⟩ := h
    exact .review
  | updateSupplierCompliance supplierId _ =>
    simp only [execMarket, updateSupplierCompliance, eq_ok] at h
    obtain ⟨_, _, _, _, _, _, rfl⟩ := h
    exact .comply
  | linkSupplierProvider providerId supplierId reason _ => exact linkSupplierProvider_effect h
  | updateSupplierPayoutReadiness supplierId _ _ =>
    simp only [execMarket, updateSupplierPayoutReadiness, eq_ok] at h
    obtain ⟨supplier, hf, _, _, _, _, _, hpy, _, _, _, _, _, _, rfl⟩ := h
    exact .readiness hf hpy
  | updateProvider | setProviderKillSwitch =>
    simp only [execMarket, updateProvider, setProviderKillSwitch, eq_ok] at h
    obtain ⟨_, _, rfl⟩ := h
    exact .agrees ⟨rfl, rfl, rfl, rfl, rfl⟩
  | upsertMarketplaceListing listingId providerId _ _ _ =>
    exact .agrees (upsertMarketplaceListing_agrees h)
  | createMarketplaceLaunchReview listingId =>
    simp only [execMarket, createMarketplaceLaunchReview, eq_ok] at h
    obtain ⟨_, _, _, _, _, _, _, _, _, _, rfl⟩ := h
    exact .agrees ⟨rfl, rfl, rfl, rfl, rfl⟩
  | approveMarketplaceLaunchReview reviewId reason =>
    simp only [execMarket, approveMarketplaceLaunchReview, bind_eq_ok] at h
    obtain ⟨_, _, _, _, _, _, _, _, _, _, hset⟩ := h
    obtain ⟨_, rfl⟩ := setListing_frame hset
    exact .agrees ⟨rfl, rfl, rfl, rfl, rfl⟩
  | marketplaceLifecycleAction listingId _ reason _ => exact marketplaceLifecycleAction_effect h

end ModelDock.Marketplace
