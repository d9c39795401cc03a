import ModelDock.Marketplace.Admission

/-!
# Resuming a listing

`RESUME` lifts a stop by updates that may match no row, so it also succeeds when the supplier or its link was
ended meanwhile.
-/

namespace ModelDock.Marketplace

open Relational Table Option
open Store (Uuid)

variable {listing : Listing} {provider : Provider}

/-- The listing, its provider, the link and the supplier are all in service. -/
def Market.inService (m : Market) (listing : Listing) (supplierId : Uuid) : Bool :=
  (m.suppliers.find? supplierId).any (fun supplier =>
    supplier.status = .approved && supplier.contractStatus = .active) &&
  (m.links.find? listing.providerId).any (fun link => link.supplierId = supplierId && link.status = .active) &&
  (m.providers.find? listing.providerId).any (fun provider => provider.enabled) &&
  (m.listings.find? listing.id).any (fun row => row.status = .active)

/-- The supplier and the link are such that the conditions of the updates leave them in service. -/
def Resumable (supplier : Supplier) (link : ProviderLink) : Prop :=
  supplier.contractStatus = .active ∧
    (supplier.status = .approved ∨ supplier.status = .suspended ∧ supplier.kybStatus = .verified) ∧
    link.status ≠ .ended

variable {m m' : Market} {s : Session} {providerId : Uuid} {link : ProviderLink} {supplier : Supplier}

theorem resumed_approved_iff : supplier.resumed.status = .approved ∧ supplier.resumed.contractStatus = .active ↔
    supplier.contractStatus = .active ∧
      (supplier.status = .approved ∨ supplier.status = .suspended ∧ supplier.kybStatus = .verified) := by
  unfold Supplier.resumed
  split
  · next h => simp [h]
  · next h =>
    constructor
    · rintro ⟨hst, hcn⟩
      exact ⟨hcn, .inl hst⟩
    · rintro ⟨hcn, hst | ⟨hss, hvr⟩⟩
      · exact ⟨hst, hcn⟩
      · exact absurd ⟨hvr, hcn, hss⟩ h

theorem resumedLink_active_iff (hid : link.providerId = providerId) :
    (if link.providerId = providerId ∧ link.status = .suspended then { link with status := .active }
      else link).status = .active ↔ link.status ≠ .ended := by
  cases hst : link.status <;> simp [hid, hst]

section

variable (hlisting : m.listings.find? listing.id = some listing)
  (hlink : m.links.find? listing.providerId = some link)
  (hsupplier : m.suppliers.find? link.supplierId = some supplier)
  (hprovider : m.providers.find? listing.providerId = some provider) (h : resume listing link m = .ok m')
include hlisting hlink hsupplier hprovider h

theorem resume_rows : m'.suppliers.find? link.supplierId = some supplier.resumed ∧
    m'.links.find? listing.providerId = some (if link.providerId = listing.providerId ∧ link.status = .suspended then
      { link with status := .active } else link) ∧
    m'.providers.find? listing.providerId = some provider.resumed ∧
    m'.listings.find? listing.id = some { listing with status := .active } := by
  simp only [resume, Market.setListing, eq_ok] at h
  obtain ⟨_, _, _, _, rfl⟩ := h
  have hsp : supplier.id = link.supplierId := (found hsupplier).2
  have hpr : provider.id = listing.providerId := (found hprovider).2
  refine ⟨?_, ?_, ?_, find?_replace_of_find? hlisting rfl⟩
  · refine (find?_setSupplier m link.supplierId Supplier.resumed_key _).trans ?_
    rw [hsupplier, Option.map_some, if_pos hsp]
  · refine (find?_rewriteIf (fun _ => by rfl) _).trans ((congrArg (Option.map _) hlink).trans ?_)
    simp only [Option.map_some, cond_iff]
  · have hkey (provider : Provider) : Keyed.key provider.resumed = Keyed.key provider := rfl
    refine (find?_rewriteIf hkey _).trans ((congrArg (Option.map _) hprovider).trans ?_)
    rw [Option.map_some, if_pos (decide_eq_true hpr)]

theorem resume_inService : m'.inService listing link.supplierId ↔ Resumable supplier link := by
  obtain ⟨hs, hl, hp, hrow⟩ := resume_rows hlisting hlink hsupplier hprovider h
  have hid : link.providerId = listing.providerId := (found hlink).2
  have hsame : (if link.providerId = listing.providerId ∧ link.status = .suspended then
      { link with status := .active } else link).supplierId = link.supplierId := by split <;> rfl
  simp only [Market.inService, hs, hl, hp, hrow, any_some, cond_iff, hsame, true_and,
    Provider.resumed, and_true, resumedLink_active_iff hid, resumed_approved_iff, Resumable, and_assoc]

end

/-- A listing that is resumed is in service afterwards exactly if its supplier is under contract and approved, or
suspended and verified, and its link has not ended. An action that fails changes nothing. -/
theorem resume_in_service_iff (m : Market) (s : Session) (listing : Listing) (reason : String) (qualityAllows : Bool)
    (link : ProviderLink) (supplier : Supplier) (provider : Provider)
    (hlisting : m.listings.find? listing.id = some listing) (hlink : m.links.find? listing.providerId = some link)
    (hsupplier : m.suppliers.find? link.supplierId = some supplier)
    (hprovider : m.providers.find? listing.providerId = some provider) :
    (∀ m', execMarket (s, .marketplaceLifecycleAction listing.id .resume reason qualityAllows) m = .ok m' →
      (m'.inService listing link.supplierId ↔ Resumable supplier link)) ∧
    ∀ err, execMarket (s, .marketplaceLifecycleAction listing.id .resume reason qualityAllows) m = .error err →
      run execMarket m [(s, .marketplaceLifecycleAction listing.id .resume reason qualityAllows)] = m := by
  constructor
  · intro m' h
    simp only [execMarket, marketplaceLifecycleAction, eq_ok] at h
    obtain ⟨_, _, _, hrow, _, hrk, _, _, h⟩ := h
    obtain rfl := mem_unique hlisting hrow
    obtain rfl := mem_unique hlink hrk
    exact resume_inService hlisting hlink hsupplier hprovider h
  · intro err h
    rw [run_cons, run_nil, h, commit]

/-- The launched listing after it was suspended. -/
def stoppedMarket : Market :=
  run execMarket launchedMarket [(administrator, .marketplaceLifecycleAction 3 .suspend "incident" true)]

/-- The suspended listing of a supplier that is verified and under contract is resumed into service. -/
theorem resume_in_service_demo : ∃ after,
    execMarket (administrator, .marketplaceLifecycleAction 3 .resume "resolved" true) stoppedMarket = .ok after ∧
      after.inService ⟨3, 7, "https://supplier", "f", .suspended⟩ 1 := by
  have hok : (execMarket (administrator, .marketplaceLifecycleAction 3 .resume "resolved" true)
      stoppedMarket).isOk := by decide +kernel
  obtain ⟨after, haf⟩ := exists_of_isOk hok
  refine ⟨after, haf, ?_⟩
  refine ((resume_in_service_iff stoppedMarket administrator ⟨3, 7, "https://supplier", "f", .suspended⟩ "resolved" true
    ⟨7, 1, .suspended⟩ ⟨1, 2, ⟨"Supplier", "R1", "DE", "T1", "DE", "W8", some [1]⟩, .verified, .active, "v1", some 0,
      some 100, .suspended⟩
    ⟨7, false, false, false, .commercialApproved, .approved, none, none, ["*"], [], ["*"], 0⟩ (by decide +kernel)
    (by decide +kernel) (by decide +kernel) (by decide +kernel)).1 after haf).mpr ?_
  exact ⟨rfl, .inr ⟨rfl, rfl⟩, by decide⟩

/-- While the listing is suspended, its supplier is rejected, asks to leave, or loses its contract or its
verification. -/
def reviewLost : List (Session × MarketCall) :=
  [(administrator, .reviewSupplier 1 .rejected "fraud"), (⟨2, false, 20⟩, .requestSupplierExit 1),
    (administrator, .updateSupplierCompliance 1 ⟨.verified, .terminated, "v1", some 0, some 100⟩),
    (administrator, .updateSupplierCompliance 1 ⟨.expired, .active, "v1", some 0, some 100⟩)]

/-- Each time the listing is resumed all the same: it is active and its provider enabled, and the supplier is not
approved under an active contract. -/
theorem rejected_supplier_resumed : reviewLost ≠ [] ∧ ∀ call ∈ reviewLost,
    (execMarket (administrator, .marketplaceLifecycleAction 3 .resume "resolved" true)
      (run execMarket stoppedMarket [call])).toOption.any (fun after =>
        (after.listings.find? 3).any (fun listing => listing.status = .active) &&
        (after.providers.find? 7).any (fun provider => provider.enabled) &&
        !after.inService ⟨3, 7, "https://supplier", "f", .suspended⟩ 1) := by
  decide +kernel

end ModelDock.Marketplace
