import ModelDock.Marketplace.Payouts

/-!
# Where payouts go

A supplier may change its account at any time, so that a settlement that is tried again goes to another
destination. If the account changes only before the review and the first claim, every production request
carries the reviewed destination.
-/

namespace ModelDock.Marketplace

open Relational Table Supplier List Bool
open Store (Uuid)

variable {vault : Vault} {m m' : Market} {p p' : Payouts} {s : Session} {batchId supplierId : Uuid}
  {destination : Option String} {supplier : Supplier} {old new : SettlementBatch}
  {attempts : Table PayoutAttempt}

/-- The account of the supplier is not free to change: its payments are approved, or one of its settlements
was claimed. -/
def Market.accountPinned (m : Market) (supplierId : Uuid) : Bool :=
  m.readiness.rows.any (fun row => row.supplierId = supplierId && row.parts.payment = .approved) ||
    m.batches.rows.any fun batch => batch.supplierId = supplierId && 0 < batch.retryCount

/-- A supplier gets another destination only while its account is free to change. -/
def KeepsDestination (vault : Vault) (p : Payouts) (invocation : Session × PayoutCall) : Prop :=
  match invocation.2 with
  | .market (.updateSupplierProfile supplierId profile) =>
    ∀ supplier ∈ p.market.suppliers.find? supplierId,
      (supplier.describe profile).destination vault = supplier.destination vault ∨
        p.market.accountPinned supplierId = false
  | _ => True

/-- A settlement of the supplier was claimed, and the account of the supplier has this destination. -/
def Market.Bound (vault : Vault) (m : Market) (batchId supplierId : Uuid) (destination : Option String) : Prop :=
  (∃ batch ∈ m.batches.rows, batch.id = batchId ∧ batch.supplierId = supplierId ∧ 0 < batch.retryCount) ∧
    ∃ supplier, m.suppliers.find? supplierId = some supplier ∧ supplier.destination vault = destination

/-- The payments of a supplier are approved for the account that is stored, jobs carry the account that is
stored and reviewed, and requests were sent where the account still points. -/
structure Payouts.Sound (vault : Vault) (p : Payouts) : Prop where
  reviewed : ∀ row ∈ p.market.readiness.rows, ∃ supplier,
    p.market.suppliers.find? row.supplierId = some supplier ∧
      (row.parts.payment = .approved → p.reviewed row.supplierId = supplier.destination vault)
  jobs : ∀ job ∈ p.jobs, p.market.Bound vault job.batchId job.supplierId (job.destination vault) ∧
    (job.sandbox = false → p.reviewed job.supplierId = job.destination vault)
  sent : ∀ request ∈ p.sent, (request.sandbox = false → request.reviewed = some request.destination) ∧
    ∃ supplierId, p.market.Bound vault request.settlementId supplierId (some request.destination)

/-- Suppliers stay stored, and those whose account is pinned keep their destination. -/
def KeepsSuppliers (vault : Vault) (m m' : Market) : Prop :=
  ∀ id supplier, m.suppliers.find? id = some supplier → ∃ supplier', m'.suppliers.find? id = some supplier' ∧
    (m.accountPinned id → supplier'.destination vault = supplier.destination vault)

theorem Market.Bound.pinned (h : m.Bound vault batchId supplierId destination) : m.accountPinned supplierId := by
  obtain ⟨⟨batch, hbt, _, hsp, hclaim⟩, _⟩ := h
  simp only [Market.accountPinned, cond_iff, any_eq_true]
  exact .inr ⟨batch, hbt, hsp, hclaim⟩

theorem Market.Bound.market (h : m.Bound vault batchId supplierId destination) (hbt : m'.batches = m.batches)
    (hsp : KeepsSuppliers vault m m') : m'.Bound vault batchId supplierId destination := by
  have hpn := h.pinned
  obtain ⟨hclaim, supplier, hf, hds⟩ := h
  obtain ⟨supplier', hf', hsame⟩ := hsp supplierId supplier hf
  exact ⟨hbt ▸ hclaim, supplier', hf', (hsame hpn).trans hds⟩

theorem KeepsSuppliers.setSupplier {set : Supplier → Supplier}
    {hkey : ∀ supplier, Keyed.key (set supplier) = Keyed.key supplier}
    (hset : ∀ supplier, m.suppliers.find? supplierId = some supplier → m.accountPinned supplierId →
      (set supplier).destination vault = supplier.destination vault) :
    KeepsSuppliers vault m (m.setSupplier supplierId set hkey) := by
  intro id supplier hf
  refine ⟨_, (find?_setSupplier m supplierId hkey id).trans (congrArg _ hf), fun hpn => ?_⟩
  dsimp only
  split
  · next hsame =>
    obtain rfl : id = supplierId := (found hf).2.symm.trans hsame
    exact hset supplier hf hpn
  · rfl

theorem KeepsSuppliers.of_eq (h : m'.suppliers = m.suppliers) : KeepsSuppliers vault m m' :=
  fun _ supplier hf => ⟨supplier, h ▸ hf, fun _ => rfl⟩

variable {call : MarketCall}

theorem MarketEffect.keepsSuppliers (h : MarketEffect p.market s call m')
    (hk : KeepsDestination vault p (s, .market call)) : KeepsSuppliers vault p.market m' := by
  cases h with
  | agrees hag | cutover hag => exact .of_eq hag.suppliers
  | tick _ | link _ | readiness hf _ => exact .of_eq rfl
  | create hsp _ =>
    intro id supplier hf
    obtain ⟨hmem, hid⟩ := found hf
    exact ⟨supplier, find?_eq_some.mpr ⟨(mem_insert hsp).mpr (.inr hmem), hid⟩, fun _ => rfl⟩
  | describe =>
    refine .setSupplier fun supplier hf hpn => ?_
    rcases hk supplier hf with hkept | hfree
    · exact hkept
    · rw [hpn] at hfree
      cases hfree
  | submit hf _ | requestExit | review | comply => exact .setSupplier fun _ _ _ => rfl
  | @suspend _ link _ _ _ _ _ hag =>
    have hset : KeepsSuppliers vault p.market (p.market.setSupplier link.supplierId suspended suspended_key) :=
      .setSupplier fun supplier _ _ => by unfold suspended; split <;> rfl
    exact fun id supplier hf => hag.suppliers ▸ hset id supplier hf
  | @resume _ link _ _ _ _ _ hag =>
    have hset : KeepsSuppliers vault p.market (p.market.setSupplier link.supplierId resumed resumed_key) :=
      .setSupplier fun supplier _ _ => by unfold resumed; split <;> rfl
    exact fun id supplier hf => hag.suppliers ▸ hset id supplier hf
  | @exit _ link _ _ _ _ hag =>
    have hset : KeepsSuppliers vault p.market (p.market.setSupplier link.supplierId exited exited_key) :=
      .setSupplier fun _ _ _ => rfl
    exact fun id supplier hf => hag.suppliers ▸ hset id supplier hf

theorem MarketEffect.batches (h : MarketEffect m s call m') : m'.batches = m.batches := by
  cases h with
  | agrees hag | suspend _ _ hag | resume _ _ hag | cutover hag | exit _ hag => exact hag.batches
  | _ => rfl

theorem reviewedAfter_eq (hf : p.market.suppliers.find? supplierId = some supplier)
    (h : p.reviewed supplierId = supplier.destination vault) :
    p.reviewedAfter vault call supplierId = supplier.destination vault := by
  unfold Payouts.reviewedAfter
  split
  · next id _ _ =>
    split
    · by_cases hid : supplierId = id
      · subst hid
        rw [Function.update_self, hf, Option.bind_some]
      · exact (Function.update_of_ne hid ..).trans h
    · exact h
  · exact h

theorem Payouts.Sound.reviewed_market (h : p.Sound vault)
    (hef : MarketEffect p.market s call m') (hsp : KeepsSuppliers vault p.market m') :
    ∀ row ∈ m'.readiness.rows, ∃ supplier, m'.suppliers.find? row.supplierId = some supplier ∧
      (row.parts.payment = .approved → p.reviewedAfter vault call row.supplierId = supplier.destination vault) := by
  -- A review that was there before is of the same destination.
  have hkept (row : Readiness) (hrow : row ∈ p.market.readiness.rows) : ∃ supplier,
      m'.suppliers.find? row.supplierId = some supplier ∧
        (row.parts.payment = .approved → p.reviewedAfter vault call row.supplierId = supplier.destination vault) := by
    obtain ⟨supplier, hf, hrv⟩ := h.reviewed row hrow
    obtain ⟨supplier', hf', hsame⟩ := hsp row.supplierId supplier hf
    refine ⟨supplier', hf', fun hap => ?_⟩
    have hpn : p.market.accountPinned row.supplierId := by
      simp only [Market.accountPinned, cond_iff, any_eq_true]
      exact .inl ⟨row, hrow, rfl, hap⟩
    rw [hsame hpn]
    exact reviewedAfter_eq hf (hrv hap)
  cases hef with
  | agrees hag | suspend _ _ hag | resume _ _ hag | cutover hag | exit _ hag =>
    rw [hag.readiness]
    exact hkept
  | create hins hread =>
    intro row hrow
    rcases (mem_insert hread).mp hrow with rfl | hold
    · refine ⟨_, find?_eq_some.mpr ⟨(mem_insert hins).mpr (.inl rfl), rfl⟩, ?_⟩
      intro hap
      cases hap
    · exact hkept row hold
  | @readiness supplierId _ _ supplier hf _ =>
    intro row hrow
    obtain ⟨old, hold, rfl⟩ := mem_map.mp hrow
    split
    · next hsame =>
      obtain rfl : old.supplierId = supplierId := of_decide_eq_true hsame
      refine ⟨supplier, hf, fun hap => ?_⟩
      simp only [Payouts.reviewedAfter]
      rw [if_pos hap, Function.update_self, hf, Option.bind_some]
    · exact hkept old hold
  | _ => exact hkept

theorem Payouts.Sound.market (h : p.Sound vault)
    (hk : KeepsDestination vault p (s, .market call)) (hexec : execMarket (s, call) p.market = .ok m') :
    Payouts.Sound vault { p with market := m', reviewed := p.reviewedAfter vault call } := by
  have hef := execMarket_effect hexec
  have hsp := hef.keepsSuppliers hk
  refine ⟨h.reviewed_market hef hsp, fun job hjob => ?_, fun req hrq => ?_⟩
  · obtain ⟨hbd, hrv⟩ := h.jobs job hjob
    refine ⟨hbd.market hef.batches hsp, fun hpr => ?_⟩
    obtain ⟨_, supplier, hf, hds⟩ := hbd
    have hsame : p.reviewed job.supplierId = supplier.destination vault := (hrv hpr).trans hds.symm
    exact (reviewedAfter_eq hf hsame).trans hds
  · obtain ⟨hrv, supplierId, hbd⟩ := h.sent req hrq
    exact ⟨hrv, supplierId, hbd.market hef.batches hsp⟩

theorem Market.Bound.replace (h : m.Bound vault batchId supplierId destination)
    (hold : old ∈ m.batches.rows) (hid : new.id = old.id) (hsp : new.supplierId = old.supplierId)
    (hcn : old.retryCount ≤ new.retryCount) :
    Market.Bound vault { m with batches := m.batches.replace new } batchId supplierId destination := by
  obtain ⟨⟨batch, hbt, rfl, rfl, hclaim⟩, hds⟩ := h
  refine ⟨?_, hds⟩
  have hmem (row : SettlementBatch) := mem_replace (x := row) hold (congrArg RowKey.mk hid)
  by_cases hsame : batch.id = new.id
  · obtain rfl : batch = old := eq_of_rowId hbt hold (hsame.trans hid)
    exact ⟨new, (hmem new).mpr (.inl rfl), hid, hsp, hclaim.trans_le hcn⟩
  · exact ⟨batch, (hmem batch).mpr (.inr ⟨hbt, hsame⟩), rfl, rfl, hclaim⟩

section

variable (h : p.Sound vault)
include h

theorem Payouts.Sound.of_bound
    (hsp : m'.suppliers = p.market.suppliers) (hread : m'.readiness = p.market.readiness)
    (hbd : ∀ batchId supplierId destination, p.market.Bound vault batchId supplierId destination →
      m'.Bound vault batchId supplierId destination) :
    Payouts.Sound vault { p with market := m', attempts := attempts } := by
  refine ⟨?_, fun job hjob => ?_, fun req hrq => ?_⟩
  · rw [hsp, hread]
    exact h.reviewed
  · exact ⟨hbd _ _ _ (h.jobs job hjob).1, (h.jobs job hjob).2⟩
  · obtain ⟨hrv, supplierId, hwas⟩ := h.sent req hrq
    exact ⟨hrv, supplierId, hbd _ _ _ hwas⟩

theorem Payouts.Sound.setBatch
    (hset : p.market.setBatch new = .ok m') (hold : old ∈ p.market.batches.rows) (hid : new.id = old.id)
    (hsp : new.supplierId = old.supplierId) (hcn : old.retryCount ≤ new.retryCount) :
    Payouts.Sound vault { p with market := m', attempts := attempts } := by
  simp only [Market.setBatch, eq_ok] at hset
  obtain ⟨_, _, rfl⟩ := hset
  exact h.of_bound rfl rfl fun _ _ _ hbd => hbd.replace hold hid hsp hcn

theorem Payouts.Sound.reviewed_of_ready (hrd : p.market.productionPayoutReady supplierId)
    (hf : p.market.suppliers.find? supplierId = some supplier) :
    p.reviewed supplierId = supplier.destination vault := by
  simp only [Market.productionPayoutReady, and_eq_true, Option.any_eq_true] at hrd
  obtain ⟨⟨row, hrow, hen⟩, _⟩ := hrd
  obtain ⟨hmem, rfl⟩ : row ∈ p.market.readiness.rows ∧ row.supplierId = supplierId := found hrow
  obtain ⟨_, hstor, hrv⟩ := h.reviewed row hmem
  obtain rfl := Option.mem_unique hstor hf
  simp only [Readiness.enabled, cond_iff] at hen
  exact hrv hen.1.2

/-- A claim keeps the payouts sound: its job carries the stored destination. -/
theorem Payouts.Sound.claim {locked appealed : List Uuid}
    (hexec : claimSupplierPayout s locked appealed p = .ok p') : p'.Sound vault := by
  simp only [claimSupplierPayout, eq_ok] at hexec
  obtain ⟨batch, hqu, supplier, hf, market, hset, attempts, _, rfl⟩ := hexec
  obtain ⟨hmem, hcl⟩ := mem_filter.mp (mem_of_find?_eq_some hqu)
  simp only [cond_iff, Market.claimable, Market.payoutAllowed] at hcl
  have hsn : Payouts.Sound vault { p with market := market, attempts := attempts } :=
    h.setBatch hset hmem rfl rfl (Nat.le_succ _)
  refine ⟨hsn.reviewed, fun job hjob => ?_, hsn.sent⟩
  rcases mem_cons.mp hjob with rfl | hold
  · simp only [Market.setBatch, eq_ok] at hset
    obtain ⟨_, _, rfl⟩ := hset
    have hkey : Keyed.key batch.claimed = Keyed.key batch := rfl
    have hclaim := (mem_replace hmem hkey).mpr (.inl rfl)
    refine ⟨⟨⟨batch.claimed, hclaim, rfl, rfl, Nat.succ_pos _⟩, supplier, hf, rfl⟩, fun hpr => ?_⟩
    have hrd := hcl.1.1.2.resolve_left (by simp [show batch.sandbox = false from hpr])
    exact h.reviewed_of_ready hrd hf
  · exact hsn.jobs job hold

theorem Payouts.Sound.send {attemptId : Uuid} {adapterAvailable : Bool}
    (hexec : sendPayout vault attemptId adapterAvailable p = .ok p') : p'.Sound vault := by
  simp only [sendPayout, eq_ok] at hexec
  obtain ⟨job, hjob, hexec⟩ := hexec
  have hjobs (row : SupplierPayoutJob) (hrow : row ∈ p.jobs.filter fun job => job.attemptId ≠ attemptId) :=
    h.jobs row (mem_filter.mp hrow).1
  split at hexec
  · next _ hds =>
    cases hexec
    refine ⟨h.reviewed, hjobs, fun req hrq => ?_⟩
    rcases mem_cons.mp hrq with rfl | hold
    · obtain ⟨hbd, hrv⟩ := h.jobs job (mem_of_find?_eq_some hjob)
      rw [hds] at hbd hrv
      exact ⟨hrv, job.supplierId, hbd⟩
    · exact h.sent req hold
  · cases hexec
    exact ⟨h.reviewed, hjobs, h.sent⟩

theorem Payouts.Sound.step {call : PayoutCall} (hk : KeepsDestination vault p (s, call))
    (hexec : execPayouts vault (s, call) p = .ok p') : p'.Sound vault := by
  cases call with
  | market call =>
    simp only [execPayouts, eq_ok] at hexec
    obtain ⟨market, hmr, rfl⟩ := hexec
    exact h.market hk hmr
  | createSupplierSettlementBatch _ _ _ =>
    simp only [execPayouts, createSupplierSettlementBatch, eq_ok] at hexec
    obtain ⟨_, ⟨_, _, _, _, _, hins, rfl⟩, rfl⟩ := hexec
    refine h.of_bound rfl rfl ?_
    rintro _ _ _ ⟨⟨batch, hbt, hclaim⟩, hds⟩
    exact ⟨⟨batch, (mem_insert hins).mpr (.inr hbt), hclaim⟩, hds⟩
  | approveSupplierSettlement batchId reason _ =>
    simp only [execPayouts, approveSupplierSettlement, eq_ok] at hexec
    obtain ⟨_, ⟨_, _, batch, hbt, _, _, _, _, _, _, _, _, _, _, _, _, _, _, hset⟩, rfl⟩ := hexec
    exact h.setBatch hset (found hbt).1 rfl rfl le_rfl
  | retrySupplierSettlement batchId reason =>
    simp only [execPayouts, retrySupplierSettlement, eq_ok] at hexec
    obtain ⟨_, ⟨_, _, batch, hbt, _, _, hset⟩, rfl⟩ := hexec
    have hf := (Option.filter_eq_some_iff.mp hbt).1
    exact h.setBatch hset (found hf).1 rfl rfl le_rfl
  | claimSupplierPayout _ _ => exact h.claim hexec
  | sendPayout attemptId _ => exact h.send hexec
  | failSupplierPayout batchId attemptId _ =>
    simp only [execPayouts, failSupplierPayout, eq_ok] at hexec
    obtain ⟨batch, hbt, hexec⟩ := hexec
    split at hexec
    · simp only [eq_ok] at hexec
      obtain ⟨_, _, _, _, rfl⟩ := hexec
      exact h
    · simp only [eq_ok] at hexec
      obtain ⟨_, hset, rfl⟩ := hexec
      exact h.setBatch hset (found hbt).1 rfl rfl le_rfl
    · cases hexec
  | completeSupplierPayout batchId attemptId _ _ =>
    simp only [execPayouts, completeSupplierPayout, eq_ok] at hexec
    obtain ⟨batch, hbt, hexec⟩ := hexec
    split at hexec <;> simp only [eq_ok] at hexec
    · obtain ⟨_, _, rfl⟩ := hexec
      exact h
    · obtain ⟨_, _, _, _, _, hset, rfl⟩ := hexec
      exact h.setBatch hset (found hbt).1 rfl rfl le_rfl

end

theorem Market.Bound.unique {other : Uuid} {elsewhere : Option String}
    (h : m.Bound vault batchId supplierId destination) (h' : m.Bound vault batchId other elsewhere) :
    destination = elsewhere := by
  obtain ⟨⟨batch, hbt, rfl, rfl, _⟩, _, hf, rfl⟩ := h
  obtain ⟨⟨batch', hbt', hid, rfl, _⟩, _, hf', rfl⟩ := h'
  obtain rfl : batch = batch' := eq_of_rowId hbt hbt' hid.symm
  obtain rfl := Option.mem_unique hf hf'
  rfl

/-- In histories that change destinations only while the accounts are free to change, every request to a
production adapter carries the destination that was stored when the payments of the supplier were last
approved, and all requests of a settlement carry the same one. -/
theorem payout_destination_reviewed (vault : Vault) (p : Payouts) (hinit : p.Sound vault)
    (calls : List (Session × PayoutCall)) (hkeeps : AlongChanges (execPayouts vault) (KeepsDestination vault) p calls) :
    (∀ req ∈ (run (execPayouts vault) p calls).sent,
      req.sandbox = false → req.reviewed = some req.destination) ∧
    ∀ first ∈ (run (execPayouts vault) p calls).sent, ∀ second ∈ (run (execPayouts vault) p calls).sent,
      first.settlementId = second.settlementId → first.destination = second.destination := by
  have hsn : (run (execPayouts vault) p calls).Sound vault :=
    run_invariant_of_changes (fun _ _ _ h hcall hexec => h.step hcall hexec) hinit hkeeps
  refine ⟨fun req hrq => (hsn.sent req hrq).1, fun first hfs second hsc hsame => ?_⟩
  obtain ⟨_, _, hbd⟩ := hsn.sent first hfs
  obtain ⟨_, _, hbd'⟩ := hsn.sent second hsc
  exact Option.some_inj.mp (hbd.unique (hsame ▸ hbd'))

/-- A vault of the demonstrations, that keeps the account as text. -/
def openVault : Vault where
  decrypt envelope _ := some (String.ofList (envelope.map fun byte => Char.ofNat byte.toNat))

/-- A supplier that is ready to be paid out but was not reviewed for it. -/
def unreviewedSupplier : Payouts where
  market :=
    { clock := 10
      suppliers := ⟨[⟨1, 2, ⟨"Supplier", "R1", "DE", "T1", "DE", "W8", some [65]⟩, .verified, .active, "v1", some 0,
        none, .approved⟩], List.pairwise_singleton _ _⟩
      endpoints := .empty
      questionnaires := ⟨[⟨6, 1, true⟩], List.pairwise_singleton _ _⟩
      readiness := ⟨[⟨1, ⟨.pending, .pending, .pending, .pending⟩, 0⟩], List.pairwise_singleton _ _⟩
      providers := .empty
      links := .empty
      listings := .empty
      reviews := .empty
      batches := .empty }
  attempts := .empty
  jobs := []
  sent := []
  reviewed := fun _ => none

/-- The supplier is reviewed, and a settlement is created, approved, claimed and sent, which fails. -/
def firstAttempt : List (Session × PayoutCall) :=
  [(⟨9, true, 20⟩, .market (.updateSupplierPayoutReadiness 1 ⟨.approved, .approved, .approved, .approved⟩ 0)),
    (⟨9, true, 30⟩, .createSupplierSettlementBatch 1 false 100),
    (⟨8, true, 21⟩, .approveSupplierSettlement 30 "checked" ⟨some 10, true, true, false⟩),
    (⟨0, false, 31⟩, .claimSupplierPayout [] []),
    (⟨0, false, 22⟩, .sendPayout 31 true),
    (⟨0, false, 23⟩, .failSupplierPayout 30 31 .sendFailed)]

/-- The settlement is tried again. -/
def secondAttempt : List (Session × PayoutCall) :=
  [(⟨8, true, 24⟩, .retrySupplierSettlement 30 "timeout"), (⟨0, false, 32⟩, .claimSupplierPayout [] []),
    (⟨0, false, 25⟩, .sendPayout 32 true)]

/-- The owner of the supplier changes the account. -/
def changeAccount : Session × PayoutCall :=
  (⟨2, false, 26⟩, .market (.updateSupplierProfile 1 ⟨"Supplier", "R1", "DE", "T1", "DE", "W8", some [66]⟩))

/-- A settlement that is sent twice is sent to the destination that was reviewed. -/
theorem payout_destination_reviewed_demo :
    (run (execPayouts openVault) unreviewedSupplier (firstAttempt ++ secondAttempt)).sent.length = 2 ∧
    ∀ req ∈ (run (execPayouts openVault) unreviewedSupplier (firstAttempt ++ secondAttempt)).sent,
      req.sandbox = false → req.reviewed = some req.destination := by
  have hinit : unreviewedSupplier.Sound openVault := by
    refine ⟨fun row hrow => ?_, fun _ hjob => (nomatch hjob), fun _ hrq => (nomatch hrq)⟩
    obtain rfl := mem_singleton.mp hrow
    exact ⟨_, rfl, fun hap => nomatch hap⟩
  exact ⟨by decide +kernel, (payout_destination_reviewed openVault unreviewedSupplier hinit
    (firstAttempt ++ secondAttempt)
    (Along.changes ⟨trivial, trivial, trivial, trivial, trivial, trivial, trivial, trivial, trivial, trivial⟩)).1⟩

/-- The account changes between two attempts: the second request carries the new destination under the key of
the first, and nobody has reviewed it. -/
theorem changed_account_paid :
    (run (execPayouts openVault) unreviewedSupplier (firstAttempt ++ changeAccount :: secondAttempt)).sent.map
      (fun req => (req.settlementId, req.sandbox, req.destination, req.reviewed)) =
    [(30, false, "B", some "A"), (30, false, "A", some "A")] := by
  decide +kernel

end ModelDock.Marketplace
