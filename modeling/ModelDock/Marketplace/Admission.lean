import ModelDock.Marketplace.Effects
import ModelDock.Relational.History

/-!
# Traffic to the providers of suppliers

Neither the admission nor the dispatch of a request reads the supplier, and suppliers lose their standing
without their links being touched. Where that does not happen to an active link, requests are let through to
approved suppliers under contract only.
-/

namespace ModelDock.Marketplace

open Relational Text Table Supplier Option
open Store (Uuid Timestamp)

/-- Why a request is not let through. -/
inductive AdmissionError
  | notFound
  | commercialUnavailable
  | qualityCircuitOpen
  | regionDenied
  | policyDenied
  | dataResidencyDenied
  | marginInsufficient
  | budgetExceeded
deriving DecidableEq

variable (m : Market) (supplierId : Uuid) (providerId : Uuid)

/-- The marketplace lets requests through to a provider: it has no link, or an active one with a listing
that is released, or a canary. -/
def Market.marketplaceAllowed : Bool :=
  ((m.links.find? providerId).all fun link => link.status = .ended) ||
  (m.links.find? providerId).any fun link => link.status = .active &&
    m.listings.rows.any fun listing => listing.providerId = providerId &&
      m.reviews.rows.any fun review => review.listingId = listing.id && review.providerId = providerId &&
        review.supplierId = link.supplierId &&
        ((listing.status = .active && review.status = .approved && review.passed) ||
          (listing.status = .canary && review.status = .inReview && review.foundationPassed))

/-- The provider itself may be used commercially. -/
def Provider.available (provider : Provider) (now : Timestamp) : Bool :=
  provider.enabled && !provider.pricingDisabled && !provider.emergencyKillSwitch &&
    provider.commercialStatus = .commercialApproved && provider.commercialResaleStatus = .approved &&
    within provider.contractStartAt provider.contractEndAt now

/-- What the admission of a request reads besides the marketplace: the customer, the model, the quality
of the provider, its prices and its budget. -/
structure AdmissionRequest where
  (userRegion billingRegion : String)
  (allowedProviderIds prohibitedProviderIds : List Uuid)
  requiredDataRegions : List String
  /-- The regions of the enabled model of that name, if the provider has it. -/
  modelRegions : Option (List String)
  (qualityEnabled circuitClosed marginAllowed : Bool)
  (currentCost reservedCost : ℚ)

section Regions

variable (go : Runtime) (regions : List String) (region : String)

/-- A set of regions names a region. -/
def containsRegion : Bool :=
  regions.any fun candidate => go.equalFold (trimSpace candidate) (trimSpace region)

/-- A set of regions allows a region. -/
def allowsRegion : Bool :=
  containsRegion go regions "*" || (trimSpace region ≠ "" && containsRegion go regions region)

/-- Admit a request to a provider before it is routed there. -/
def checkProviderAdmission (request : AdmissionRequest) (providerId : Uuid) (m : Market) :
    Except AdmissionError Unit := do
  let provider ← required (m.providers.find? providerId) .notFound
  let modelRegions ← required request.modelRegions .notFound
  ensure (provider.available m.clock ∧ m.marketplaceAllowed providerId) .commercialUnavailable
  ensure (request.qualityEnabled → request.circuitClosed) .qualityCircuitOpen
  let userRegion := toUpper (trimSpace request.userRegion)
  let region := if userRegion = "" then toUpper (trimSpace request.billingRegion) else userRegion
  ensure (allowsRegion go provider.allowedCustomerRegions region ∧
    containsRegion go provider.prohibitedRegions region = false ∧ allowsRegion go modelRegions region)
    .regionDenied
  ensure ((request.allowedProviderIds = [] ∨ providerId ∈ request.allowedProviderIds) ∧
    providerId ∉ request.prohibitedProviderIds) .policyDenied
  ensure (∀ required ∈ request.requiredDataRegions, allowsRegion go provider.dataProcessingRegions required)
    .dataResidencyDenied
  ensure (request.marginAllowed) .marginInsufficient
  ensure (0 < provider.costLimit → request.currentCost + request.reservedCost < provider.costLimit) .budgetExceeded

end Regions

/-- Check the provider again when a request is dispatched with a credential, which belongs to the platform
or to the organization of the request. -/
def recheckProviderDispatchTx (credentialAllowed qualityAllowed : Bool) (m : Market) :
    Except AdmissionError Unit := do
  let provider ← required (m.providers.find? providerId) .commercialUnavailable
  ensure (provider.available m.clock ∧ credentialAllowed ∧ m.marketplaceAllowed providerId)
    .commercialUnavailable
  ensure (qualityAllowed) .qualityCircuitOpen

/-- Some request is let through to the provider, at its admission or at its dispatch. -/
def LetThrough (go : Runtime) (m : Market) (providerId : Uuid) : Prop :=
  (∃ request, checkProviderAdmission go request providerId m = .ok ()) ∨
    ∃ credentialAllowed qualityAllowed,
      recheckProviderDispatchTx providerId credentialAllowed qualityAllowed m = .ok ()

/-- The supplier has the standing that its providers need. -/
def Market.standing : Bool :=
  (m.suppliers.find? supplierId).any fun supplier => supplier.inGoodStanding m.clock

/-- The supplier of every active link has the standing. -/
def LinksStand : Prop :=
  ∀ link ∈ m.links.rows, link.status = .active → m.standing link.supplierId

/-- The supplier has no active link. -/
def Market.unlinked : Bool :=
  m.links.rows.all fun link => link.supplierId ≠ supplierId || link.status ≠ .active

/-- A call that takes the standing of a supplier away, or time that does, comes only after the links of
the supplier have ended or were suspended, and a link is activated only to a supplier with the
standing. -/
def KeepsStanding (invocation : Session × MarketCall) : Prop :=
  match invocation.2 with
  | .tick seconds => ∀ link ∈ m.links.rows, link.status = .active →
    Market.standing { m with clock := m.clock + seconds } link.supplierId
  | .requestSupplierExit supplierId => m.unlinked supplierId
  | .reviewSupplier supplierId decision _ => decision = .approved ∨ m.unlinked supplierId
  | .updateSupplierCompliance supplierId compliance =>
    (compliance.contractStatus = .active ∧ within compliance.startAt compliance.endAt m.clock) ∨
      m.unlinked supplierId
  | .linkSupplierProvider _ supplierId _ _ => m.standing supplierId
  | .marketplaceLifecycleAction listingId .suspend _ _ =>
    ∀ listing ∈ m.listings.find? listingId, ∀ link ∈ m.links.find? listing.providerId,
      ∀ other ∈ m.links.rows, other.status = .active → other.supplierId = link.supplierId →
        other.providerId = link.providerId
  | .marketplaceLifecycleAction listingId .resume _ _ =>
    ∀ listing ∈ m.listings.find? listingId, ∀ link ∈ m.links.find? listing.providerId, link.status = .suspended →
      (m.suppliers.find? link.supplierId).any (fun supplier => supplier.resumed.inGoodStanding m.clock)
  | _ => True

variable {go : Runtime} {m m' : Market} {s : Session} {providerId supplierId : Uuid} {link : ProviderLink}

theorem LetThrough.allowed (h : LetThrough go m providerId) : m.marketplaceAllowed providerId := by
  rcases h with ⟨_, h⟩ | ⟨_, _, h⟩
  · simp only [checkProviderAdmission, eq_ok] at h
    obtain ⟨_, _, _, _, _, hok, _⟩ := h
    exact hok.2
  · simp only [recheckProviderDispatchTx, eq_ok] at h
    obtain ⟨_, _, _, hok, _⟩ := h
    exact hok.2.2

theorem active_of_allowed (h : m.marketplaceAllowed providerId) (hlink : m.links.find? providerId = some link)
    (hend : link.status ≠ .ended) : link.status = .active := by
  simp only [Market.marketplaceAllowed, hlink, all_some, any_some, cond_iff, hend, false_or] at h
  exact h.1

theorem standing_eq_true : m.standing supplierId ↔
    ∃ supplier, m.suppliers.find? supplierId = some supplier ∧ supplier.inGoodStanding m.clock := by
  cases h : m.suppliers.find? supplierId <;> simp [Market.standing, h]

theorem LinksStand.agrees (h : LinksStand m) (hag : m.Agrees m') : LinksStand m' := by
  intro link hlink hac
  have hstan := h link (hag.links ▸ hlink) hac
  rwa [Market.standing, hag.suppliers, hag.clock]

theorem LinksStand.setSupplier {set : Supplier → Supplier} {hkey} (h : LinksStand m)
    (hset : m.unlinked supplierId ∨ ∀ supplier, m.suppliers.find? supplierId = some supplier →
      supplier.inGoodStanding m.clock → (set supplier).inGoodStanding m.clock) :
    LinksStand (m.setSupplier supplierId set hkey) := by
  intro link hlink hac
  obtain ⟨supplier, hf, hgood⟩ := standing_eq_true.mp (h link hlink hac)
  have hid : supplier.id = link.supplierId := (found hf).2
  refine standing_eq_true.mpr ⟨_, (find?_setSupplier m supplierId hkey _).trans (congrArg _ hf), ?_⟩
  dsimp only
  split
  · next hsame =>
    have hsp : link.supplierId = supplierId := hid.symm.trans hsame
    rcases hset with hun | hk
    · have hnot := List.all_eq_true.mp hun link hlink
      simp [hsp, hac] at hnot
    · exact hk supplier (hsp ▸ hf) hgood
  · exact hgood

theorem LinksStand.of_rewrite {f : ProviderLink → ProviderLink} {g : Supplier → Supplier}
    (hln : m'.links.rows = m.links.rows.map f) (hcl : m'.clock = m.clock)
    (hsp : ∀ id, m'.suppliers.find? id = (m.suppliers.find? id).map g)
    (hgood : ∀ old ∈ m.links.rows, (f old).status = .active →
      ∃ supplier, m.suppliers.find? (f old).supplierId = some supplier ∧ (g supplier).inGoodStanding m.clock) :
    LinksStand m' := by
  intro _ hlink hac
  rw [hln] at hlink
  obtain ⟨old, hold, rfl⟩ := List.mem_map.mp hlink
  obtain ⟨supplier, hf, hstan⟩ := hgood old hold hac
  refine standing_eq_true.mpr ⟨g supplier, ?_, hcl ▸ hstan⟩
  rw [hsp, hf, map_some]

theorem LinksStand.suspendLinks (h : LinksStand m) : LinksStand (m.suspendLinks providerId) := by
  refine .of_rewrite (m := m) rfl rfl (fun _ => map_id_apply.symm) fun old hold hac => ?_
  split at hac
  · cases hac
  · next hkept =>
    rw [if_neg hkept]
    exact standing_eq_true.mp (h old hold hac)

/-- A supplier without another active link can be suspended with its link. -/
theorem LinksStand.suspend (h : LinksStand m) (hlink : m.links.find? providerId = some link)
    (hoth : ∀ other ∈ m.links.rows, other.status = .active → other.supplierId = link.supplierId →
      other.providerId = link.providerId) :
    LinksStand ((m.setSupplier link.supplierId Supplier.suspended Supplier.suspended_key).suspendLinks
      providerId) := by
  have hid : link.providerId = providerId := (found hlink).2
  refine .of_rewrite (m := m) rfl rfl (find?_setSupplier m link.supplierId suspended_key)
    fun old hold hac => ?_
  split at hac
  · cases hac
  · next hkept =>
    rw [if_neg hkept]
    obtain ⟨supplier, hf, _⟩ := standing_eq_true.mp (h old hold hac)
    have hne : supplier.id ≠ link.supplierId := fun hsame => by
      have hsp : old.supplierId = link.supplierId := (found hf).2.symm.trans hsame
      have hpr := (hoth old hold hac hsp).trans hid
      simp [hpr, hac] at hkept
    exact ⟨supplier, hf, by rwa [if_neg hne]⟩

theorem LinksStand.resume (h : LinksStand m) (hlink : m.links.find? providerId = some link)
    (hgood : link.status = .suspended →
      (m.suppliers.find? link.supplierId).any (fun supplier => supplier.resumed.inGoodStanding m.clock)) :
    LinksStand ((m.setSupplier link.supplierId Supplier.resumed Supplier.resumed_key).resumeLinks providerId) := by
  obtain ⟨hmem, hid⟩ := found hlink
  refine .of_rewrite (m := m) rfl rfl (find?_setSupplier m link.supplierId resumed_key)
    fun old hold hac => ?_
  split at hac
  · -- The link that is activated is the one of the listing.
    next hsl =>
    simp only [cond_iff] at hsl
    obtain rfl : old = link := eq_of_rowId hold hmem (hsl.1.trans hid.symm)
    rw [if_pos (by simp [hsl])]
    obtain ⟨supplier, hf, hstan⟩ := (any_eq_true _ _).mp (hgood hsl.2)
    have hsame : supplier.id = old.supplierId := (found hf).2
    exact ⟨supplier, hf, by rwa [if_pos hsame]⟩
  · next hkept =>
    rw [if_neg hkept]
    obtain ⟨supplier, hf, hstan⟩ := standing_eq_true.mp (h old hold hac)
    refine ⟨supplier, hf, ?_⟩
    split
    · have hsame : supplier.resumed = supplier := by
        simp only [inGoodStanding, cond_iff] at hstan
        simp [resumed, hstan.1.1]
      rwa [hsame]
    · exact hstan

theorem LinksStand.exit (h : LinksStand m) :
    LinksStand ((m.setSupplier supplierId Supplier.exited Supplier.exited_key).endLinks supplierId) := by
  refine .of_rewrite (m := m) rfl rfl (find?_setSupplier m supplierId exited_key)
    fun old hold hac => ?_
  split at hac
  · cases hac
  · next hkept =>
    rw [if_neg hkept]
    obtain ⟨supplier, hf, _⟩ := standing_eq_true.mp (h old hold hac)
    have hne : supplier.id ≠ supplierId := fun hsame => by
      have hsp : old.supplierId = supplierId := (found hf).2.symm.trans hsame
      simp [hsp, hac] at hkept
    exact ⟨supplier, hf, by rwa [if_neg hne]⟩

theorem LinksStand.step {call : MarketCall} (h : LinksStand m) (hk : KeepsStanding m (s, call))
    (hexec : execMarket (s, call) m = .ok m') : LinksStand m' := by
  cases execMarket_effect hexec with
  | agrees hag => exact h.agrees hag
  | tick _ => exact hk
  | create hsp _ =>
    intro link hlink hac
    obtain ⟨old, hf, hgood⟩ := standing_eq_true.mp (h link hlink hac)
    obtain ⟨hmem, hid⟩ := found hf
    exact standing_eq_true.mpr ⟨old, find?_eq_some.mpr ⟨(mem_insert hsp).mpr (.inr hmem), hid⟩, hgood⟩
  | describe => exact h.setSupplier (.inr fun _ _ hgood => hgood)
  | submit hf hst =>
    refine h.setSupplier (.inr fun supplier hstor hgood => ?_)
    obtain rfl := mem_unique hstor hf
    simp only [inGoodStanding, cond_iff] at hgood
    rw [hgood.1.1] at hst
    simp at hst
  | requestExit => exact h.setSupplier (.inl hk)
  | review =>
    refine h.setSupplier (hk.symm.imp id fun hap supplier _ hgood => ?_)
    simp only [inGoodStanding, cond_iff] at hgood ⊢
    exact ⟨⟨by rw [hap, ReviewDecision.status], hgood.1.2⟩, hgood.2⟩
  | comply =>
    refine h.setSupplier (hk.symm.imp id fun hcn supplier _ hgood => ?_)
    simp only [inGoodStanding, cond_iff] at hgood ⊢
    exact ⟨⟨hgood.1.1, hcn.1⟩, hcn.2⟩
  | link hln =>
    intro link hlink hac
    rcases hln link hlink with rfl | hold
    · exact hk
    · exact h link hold hac
  | readiness hf _ => exact h
  | suspend hls hlink hag => exact (h.suspend hlink (hk _ hls _ hlink)).agrees hag
  | resume hls hlink hag => exact (h.resume hlink (hk _ hls _ hlink)).agrees hag
  | cutover hag => exact h.suspendLinks.agrees hag
  | exit hlink hag => exact h.exit.agrees hag

/-- In histories that keep the standing, a request that is let through to a linked provider is one for a
supplier that is approved and under contract. -/
theorem let_through_supplier_stands (go : Runtime) (m : Market) (hinit : LinksStand m)
    (calls : List (Session × MarketCall)) (hkeeps : AlongChanges execMarket KeepsStanding m calls) (providerId : Uuid)
    (link : ProviderLink) (hlink : (run execMarket m calls).links.find? providerId = some link)
    (hended : link.status ≠ .ended) (hthrough : LetThrough go (run execMarket m calls) providerId) :
    (run execMarket m calls).standing link.supplierId := by
  have hstan : LinksStand (run execMarket m calls) :=
    run_invariant_of_changes (fun _ _ _ h hcall hexec => h.step hcall hexec) hinit hkeeps
  have hac : link.status = .active := active_of_allowed hthrough.allowed hlink hended
  exact hstan link (found hlink).1 hac

/-- A market with one supplier in good standing, whose provider is launched. -/
def launchedMarket : Market where
  clock := 10
  suppliers := ⟨[⟨1, 2, ⟨"Supplier", "R1", "DE", "T1", "DE", "W8", some [1]⟩, .verified, .active, "v1", some 0,
    some 100, .approved⟩], List.pairwise_singleton _ _⟩
  endpoints := .empty
  questionnaires := .empty
  readiness := .empty
  providers := ⟨[⟨7, true, false, false, .commercialApproved, .approved, none, none, ["*"], [], ["*"], 0⟩],
    List.pairwise_singleton _ _⟩
  links := ⟨[⟨7, 1, .active⟩], List.pairwise_singleton _ _⟩
  listings := ⟨[⟨3, 7, "https://supplier", "f", .active⟩], List.pairwise_singleton _ _⟩
  reviews := ⟨[⟨4, 3, 7, 1, "f", .approved, 5, fun _ => .passed⟩], List.pairwise_singleton _ _⟩
  batches := .empty

/-- An administrator of the demonstrations. -/
def administrator : Session := ⟨9, true, 20⟩

/-- The listing of the demonstrations is suspended and resumed. -/
def suspendAndResume : List (Session × MarketCall) :=
  [(administrator, .marketplaceLifecycleAction 3 .suspend "incident" true),
    (administrator, .marketplaceLifecycleAction 3 .resume "resolved" true)]

/-- After its listing was suspended and resumed, requests are let through to the provider for a supplier in
good standing. -/
theorem let_through_supplier_stands_demo : (run execMarket launchedMarket suspendAndResume).standing 1 :=
  let_through_supplier_stands asciiRuntime launchedMarket (by unfold LinksStand; decide +kernel) suspendAndResume
    (Along.changes ⟨by unfold KeepsStanding; decide +kernel, by unfold KeepsStanding; decide +kernel, trivial⟩) 7
    ⟨7, 1, .active⟩ (by decide +kernel) (by decide) (.inr ⟨true, true, by decide +kernel⟩)

/-- A supplier is suspended by a review, asks to leave, has its contract terminated, or its contract ends by
itself. -/
def standingLost : List (Session × MarketCall) :=
  [(administrator, .reviewSupplier 1 .suspended "fraud"), (⟨2, false, 20⟩, .requestSupplierExit 1),
    (administrator, .updateSupplierCompliance 1 ⟨.expired, .terminated, "v1", some 0, some 100⟩),
    (administrator, .tick 100)]

/-- Each time a request is still let through to the provider of the supplier. -/
theorem suspended_supplier_let_through : standingLost ≠ [] ∧ ∀ call ∈ standingLost,
    (run execMarket launchedMarket [call]).links.find? 7 = some ⟨7, 1, .active⟩ ∧
      LetThrough asciiRuntime (run execMarket launchedMarket [call]) 7 ∧
      (run execMarket launchedMarket [call]).standing 1 = false := by
  have hch : ∀ call ∈ standingLost,
      recheckProviderDispatchTx 7 true true (run execMarket launchedMarket [call]) = .ok () := by decide +kernel
  refine ⟨by decide, fun call hcall => ⟨?_, .inr ⟨true, true, hch call hcall⟩, ?_⟩⟩
  · revert call
    decide +kernel
  · revert call
    decide +kernel

end ModelDock.Marketplace
