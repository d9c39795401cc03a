import ModelDock.Relational.View
import ModelDock.Store.PromotionCredits

/-!
# Promotion credits and what is out of them

What is out of a credit and what remains never exceed the grant, which is what makes every return fit.
-/

namespace ModelDock.Store

open Relational Table PromotionAllocation PromotionCredit

variable {holds : Table PromotionAllocation} {status : CreditStatus}

/-- A credit without its balance: what no statement changes. -/
def PromotionCredit.origin (credit : PromotionCredit) : PromotionCredit :=
  { credit with amountRemaining := .zero, status := .active, remaining_le := credit.amountGranted.nonneg }

/-- A credit marked exhausted has nothing left. -/
def PromotionCredit.ExhaustedEmpty (credit : PromotionCredit) : Prop :=
  credit.status = .exhausted → credit.amountRemaining.units = 0

/-- What is out of the credit because of a hold. -/
def PromotionAllocation.outstanding (hold : PromotionAllocation) : ℤ :=
  if hold.settledAt = none then hold.reservedAmount.units else hold.unreversed

/-- What remains of the credit with an identifier. -/
def creditLeft (creditId : Uuid) (credits : Table PromotionCredit) : ℤ :=
  credits.sum fun credit => if credit.id = creditId then credit.amountRemaining.units else 0

/-- What the selected holds keep out of their credits. -/
def outstandingOn (p : PromotionAllocation → Bool) (holds : Table PromotionAllocation) : ℤ :=
  holds.sum fun hold => if p hold then hold.outstanding else 0

/-- What a credit accounts for: its balance and what is out of it. -/
def Promotions.accounted (promotions : Promotions) (creditId : Uuid) : ℤ :=
  creditLeft creditId promotions.credits +
    outstandingOn (fun hold => hold.promotionCreditId = creditId) promotions.allocations

/-- Every hold stands on a stored credit, nothing of an open hold is used yet, and no credit accounts
for more than it granted. -/
structure Promotions.Sound (promotions : Promotions) : Prop where
  credit : ∀ hold ∈ promotions.allocations.rows,
    ∃ credit ∈ promotions.credits.rows, credit.id = hold.promotionCreditId
  unused : ∀ hold ∈ promotions.allocations.rows, hold.settledAt = none →
    hold.consumedAmount.units = 0 ∧ hold.releasedAmount.units = 0 ∧ hold.reversedAmount.units = 0
  granted : ∀ credit ∈ promotions.credits.rows,
    promotions.accounted credit.id ≤ credit.amountGranted.units

variable {s : Session} {promotions promotions' : Promotions} {credit credit' : PromotionCredit}
  {credits credits' : Table PromotionCredit} {hold hold' : PromotionAllocation}
  {creditId : Uuid} {units : ℤ}

theorem PromotionAllocation.outstanding_bounds (hold : PromotionAllocation) :
    0 ≤ hold.outstanding ∧ hold.outstanding ≤ hold.reservedAmount.units := by
  have hrl := hold.releasedAmount.nonneg
  have hrv := hold.reversedAmount.nonneg
  have hcv := hold.covered
  have hback := hold.reversed_le
  unfold outstanding unreversed
  split <;> omega

theorem PromotionAllocation.outstanding_le (hhold : hold ∈ holds.rows) :
    hold.outstanding ≤ outstandingOn (fun x => x.promotionCreditId = hold.promotionCreditId) holds := by
  have hle := le_sum_of_mem (f := fun x : PromotionAllocation =>
    if decide (x.promotionCreditId = hold.promotionCreditId) then x.outstanding else 0)
    (fun x _ => by
      split
      · exact x.outstanding_bounds.1
      · exact le_refl 0) hhold
  simpa [outstandingOn] using hle

theorem creditLeft_of_mem (hcr : credit ∈ credits.rows) :
    creditLeft credit.id credits = credit.amountRemaining.units := by
  rw [creditLeft, sum_eq_single hcr, if_pos rfl]
  exact fun x hx hne => if_neg fun hid => hne (eq_of_rowId hx hcr hid)

theorem PromotionCredit.setRemaining_eq_ok (h : credit.setRemaining units status = .ok credit') :
    credit'.amountRemaining.units = units ∧ credit'.status = status ∧ credit'.origin = credit.origin := by
  simp only [setRemaining, eq_ok, money_eq_ok] at h
  obtain ⟨_, hrem, _, rfl⟩ := h
  exact ⟨hrem, rfl, rfl⟩

theorem PromotionCredit.debit_exhaustedEmpty (hu : 0 ≤ units) (hem : credit.ExhaustedEmpty)
    (h : credit.debit units = .ok credit') : credit'.ExhaustedEmpty := by
  obtain ⟨hrem, hst, _⟩ := setRemaining_eq_ok h
  intro hexh
  rw [hst] at hexh
  split at hexh
  · next hzero => exact hrem.trans hzero
  · have hleft := hem hexh
    have hnn := credit'.amountRemaining.nonneg
    omega

theorem PromotionCredit.setRemaining_succeeds (credit : PromotionCredit) (status : CreditStatus)
    (hnn : 0 ≤ units) (hle : units ≤ credit.amountGranted.units) :
    ∃ credit', credit.setRemaining units status = .ok credit' := by
  have hfits : units < numericBound := lt_of_le_of_lt hle credit.amountGranted.fits
  refine ⟨{ credit with
    amountRemaining := ⟨units, hnn, hfits⟩, status := status, remaining_le := hle }, ?_⟩
  rw [setRemaining, money_of_range hnn hfits, ok_bind, dif_pos hle]
  rfl

theorem PromotionCredit.columns_of_origin (h : credit'.origin = credit.origin) :
    credit'.id = credit.id ∧ credit'.amountGranted = credit.amountGranted := by
  have hcl : (credit'.origin.id, credit'.origin.amountGranted) =
      (credit.origin.id, credit.origin.amountGranted) := by rw [h]
  simpa only [Prod.mk.injEq, origin] using hcl

/-- The balance of one credit moved, and nothing else. -/
structure CreditMoved (credits : Table PromotionCredit) (creditId : Uuid) (delta : ℤ)
    (credits' : Table PromotionCredit) : Prop where
  view : credits'.view PromotionCredit.origin = credits.view PromotionCredit.origin
  left : ∀ id, creditLeft id credits' = creditLeft id credits + if creditId = id then delta else 0
  exhausted : (∀ credit ∈ credits.rows, credit.ExhaustedEmpty) → ∀ credit ∈ credits'.rows, credit.ExhaustedEmpty

theorem CreditMoved.of_setRemaining {delta : ℤ} (hmem : credit ∈ credits.rows) (hid : credit.id = creditId)
    (hset : credit.setRemaining (credit.amountRemaining.units + delta) status = .ok credit')
    (hem : credit.ExhaustedEmpty → credit'.ExhaustedEmpty) :
    CreditMoved credits creditId delta (credits.replace credit') := by
  obtain ⟨hrem, _, hor⟩ := setRemaining_eq_ok hset
  have hsame := (columns_of_origin hor).1
  have hkey : Keyed.key credit' = Keyed.key credit :=
    show Keyed.key credit'.origin = Keyed.key credit.origin by rw [hor]
  refine ⟨view_replace hmem hkey hor, fun id => ?_, fun hall row hrow => ?_⟩
  · rw [creditLeft, sum_replace hmem hkey, creditLeft, hsame, hid]
    split <;> omega
  · rcases (mem_replace hmem hkey).mp hrow with rfl | ⟨hrow, _⟩
    · exact hem (hall credit hmem)
    · exact hall row hrow

theorem CreditMoved.of_returned {delta : ℤ} (hmem : credit ∈ credits.rows)
    (hid : credit.id = creditId) (hst : status ≠ .exhausted)
    (hset : credit.setRemaining (credit.amountRemaining.units + delta) status = .ok credit') :
    CreditMoved credits creditId delta (credits.replace credit') := by
  refine CreditMoved.of_setRemaining hmem hid hset fun _ hexh => absurd ?_ hst
  rw [← hexh, (setRemaining_eq_ok hset).2.1]

theorem CreditMoved.of_debit (hf : credits.find? creditId = some credit) (hu : 0 ≤ units)
    (h : credits.update creditId (fun row => row.debit units) = .ok credits') :
    CreditMoved credits creditId (-units) credits' := by
  obtain ⟨hmem, hid⟩ := found hf
  rcases update_eq_ok.mp h with ⟨hnone, _⟩ | ⟨row, _, hrow, hdb, rfl⟩
  · rw [hf] at hnone
    cases hnone
  · obtain rfl := Option.mem_unique hrow hf
    exact CreditMoved.of_setRemaining hmem hid hdb fun hem =>
      debit_exhaustedEmpty hu hem hdb

theorem PromotionAllocation.write_succeeds (consumed released reversed : ℤ)
    (settledAt : Option Timestamp) (hcn : hold.consumedAmount.units ≤ consumed)
    (hrl : hold.releasedAmount.units ≤ released)
    (hrv : hold.reversedAmount.units ≤ reversed) (hback : reversed ≤ consumed)
    (hcv : consumed + released ≤ hold.reservedAmount.units) :
    ∃ hold', hold.write consumed released reversed settledAt = .ok hold' ∧
      Keyed.key hold' = Keyed.key hold ∧ hold'.reservedAmount = hold.reservedAmount ∧
      hold'.consumedAmount.units = consumed ∧ hold'.releasedAmount.units = released ∧
      hold'.reversedAmount.units = reversed ∧ hold'.settledAt = settledAt := by
  have hrs := hold.reservedAmount.fits
  have hnn' := hold.releasedAmount.nonneg
  have hnn'' := hold.reversedAmount.nonneg
  refine ⟨{ hold with
    consumedAmount := ⟨consumed, by omega, by omega⟩, releasedAmount := ⟨released, by omega, by omega⟩
    reversedAmount := ⟨reversed, by omega, by omega⟩, settledAt := settledAt
    covered := hcv, reversed_le := hback }, ?_, rfl, rfl, rfl, rfl, rfl, rfl⟩
  rw [write, money_of_range (by omega : 0 ≤ consumed) (by omega), ok_bind,
    money_of_range (by omega : 0 ≤ released) (by omega), ok_bind,
    money_of_range (by omega : 0 ≤ reversed) (by omega), ok_bind,
    ensure_of ⟨hcn, hrl, hrv⟩, dif_pos ⟨hcv, hback⟩]
  rfl

/-- What one step does: it rewrites one hold, which keeps its key, and returns to the hold's credit
what is no longer out of it. -/
structure Promotions.Stepped (promotions : Promotions) (hold hold' : PromotionAllocation)
    (promotions' : Promotions) : Prop where
  moved : CreditMoved promotions.credits hold.promotionCreditId (hold.outstanding - hold'.outstanding)
    promotions'.credits
  mem : hold ∈ promotions.allocations.rows
  key : Keyed.key hold' = Keyed.key hold
  reserved : hold'.reservedAmount = hold.reservedAmount
  allocations : promotions'.allocations = promotions.allocations.replace hold'

theorem Promotions.Stepped.accounted (hstep : promotions.Stepped hold hold' promotions') (id : Uuid) :
    promotions'.accounted id = promotions.accounted id := by
  have hcr : hold'.promotionCreditId = hold.promotionCreditId :=
    congrArg PromotionAllocationKey.promotionCreditId hstep.key
  rw [Promotions.accounted, hstep.moved.left, hstep.allocations, outstandingOn,
    sum_replace hstep.mem hstep.key, hcr, Promotions.accounted, outstandingOn]
  simp only [decide_eq_true_eq]
  split <;> omega

theorem Promotions.credit_stored
    (hview : promotions'.credits.view PromotionCredit.origin = promotions.credits.view PromotionCredit.origin)
    (hstor : ∃ credit ∈ promotions.credits.rows, credit.id = creditId) :
    ∃ credit ∈ promotions'.credits.rows, credit.id = creditId := by
  obtain ⟨credit, hmem, rfl⟩ := hstor
  obtain ⟨new, hnew, hor⟩ := mem_of_view hview.symm hmem
  exact ⟨new, hnew, (columns_of_origin hor).1⟩

section

variable (h : promotions.Sound)
include h

theorem Promotions.granted_of_view
    (hview : promotions'.credits.view PromotionCredit.origin = promotions.credits.view PromotionCredit.origin)
    (hac : ∀ id, promotions'.accounted id ≤ promotions.accounted id) :
    ∀ credit ∈ promotions'.credits.rows, promotions'.accounted credit.id ≤ credit.amountGranted.units := by
  intro credit hmem
  obtain ⟨old, hold, hor⟩ := mem_of_view hview hmem
  obtain ⟨hid, hgr⟩ := columns_of_origin hor
  rw [← hid, ← hgr]
  exact (hac old.id).trans (h.granted old hold)

/-- A step that moves a hold and its credit together keeps the promotions sound. -/
theorem Promotions.Stepped.sound (hstep : promotions.Stepped hold hold' promotions')
    (hset : hold'.settledAt ≠ none) : promotions'.Sound := by
  have hcr : hold'.promotionCreditId = hold.promotionCreditId :=
    congrArg PromotionAllocationKey.promotionCreditId hstep.key
  have hcs (x : PromotionAllocation) (hx : x ∈ promotions'.allocations.rows) :
      x = hold' ∨ x ∈ promotions.allocations.rows := by
    rw [hstep.allocations, mem_replace hstep.mem hstep.key] at hx
    exact hx.imp id And.left
  refine ⟨fun x hx => Promotions.credit_stored hstep.moved.view ?_, fun x hx hopen => ?_,
    Promotions.granted_of_view h hstep.moved.view fun id => (hstep.accounted id).le⟩
  · rcases hcs x hx with rfl | hx
    · rw [hcr]
      exact h.credit hold hstep.mem
    · exact h.credit x hx
  · rcases hcs x hx with rfl | hx
    · exact absurd hopen hset
    · exact h.unused x hx hopen

section

variable (hmem : hold ∈ promotions.allocations.rows)
include hmem

/-- A credit has room for what a hold on it may return. -/
theorem Promotions.Sound.room : ∃ credit ∈ promotions.credits.rows, credit.id = hold.promotionCreditId ∧
      credit.amountRemaining.units + hold.outstanding ≤ credit.amountGranted.units := by
  obtain ⟨credit, hcr, hid⟩ := h.credit hold hmem
  have hbd := h.granted credit hcr
  have hout := outstanding_le hmem
  rw [Promotions.accounted, creditLeft_of_mem hcr, hid] at hbd
  exact ⟨credit, hcr, hid, by omega⟩

theorem releaseCredit_spec (hu : 0 ≤ units) (hle : units ≤ hold.outstanding) :
    ∃ credits, releaseCredit hold.promotionCreditId units promotions.credits = .ok credits ∧
      CreditMoved promotions.credits hold.promotionCreditId units credits := by
  by_cases hpos : 0 < units
  · obtain ⟨credit, hcr, hid, _⟩ := h.room hmem
    have hrem := credit.amountRemaining.nonneg
    obtain ⟨credit', hset⟩ := credit.setRemaining_succeeds .active
      (show 0 ≤ credit.amountRemaining.units + units by omega) (by omega)
    have hf : promotions.credits.find? hold.promotionCreditId = some credit := find?_eq_some.mpr ⟨hcr, hid⟩
    refine ⟨promotions.credits.replace credit', ?_, CreditMoved.of_returned hcr hid (by decide) hset⟩
    rw [releaseCredit, if_pos hpos]
    exact update_succeeds hf hset
  · have hzero : units = 0 := le_antisymm (not_lt.mp hpos) hu
    refine ⟨promotions.credits, if_neg hpos, ?_⟩
    rw [hzero]
    exact ⟨rfl, fun _ => by rw [ite_self, add_zero], id⟩

theorem settlePromotionHold_spec
    (hopen : hold.settledAt = none) (hu : 0 ≤ units) (hle : units ≤ hold.reservedAmount.units) :
    ∃ promotions' hold', settlePromotionHold s promotions hold units (hold.reservedAmount.units - units) =
        .ok promotions' ∧ promotions'.Sound ∧ promotions.Stepped hold hold' promotions' ∧
      hold'.consumedAmount.units = units ∧ hold'.reversedAmount.units = 0 ∧ hold'.settledAt = some s.now := by
  obtain ⟨_, _, hrv⟩ := h.unused hold hmem hopen
  obtain ⟨hold', hwr, hkey, hrs, hused, _, hback, hset⟩ :=
    write_succeeds units (hold.reservedAmount.units - units) hold.reversedAmount.units
      (some s.now) (by omega) (by omega) (le_refl _) (by omega) (by omega)
  obtain ⟨credits, hrl, hmv⟩ :=
    releaseCredit_spec h hmem (sub_nonneg.mpr hle) (by rw [outstanding, if_pos hopen]; omega)
  have hf : promotions.allocations.find? hold.id = some hold := find?_of_mem hmem
  have hout : hold.outstanding - hold'.outstanding = hold.reservedAmount.units - units := by
    rw [outstanding, if_pos hopen, outstanding, hset,
      if_neg (Option.some_ne_none _), unreversed, hused, hback, hrv, sub_zero]
  have hstep : promotions.Stepped hold hold'
      { credits := credits, allocations := promotions.allocations.replace hold' } :=
    ⟨hout ▸ hmv, hmem, hkey, hrs, rfl⟩
  refine ⟨_, hold', ?_, hstep.sound h (hset ▸ Option.some_ne_none _), hstep,
    hused, hback.trans hrv, hset⟩
  rw [settlePromotionHold, update_succeeds hf hwr, hrl]
  rfl

theorem reversePromotionHold_spec
    (hset : hold.settledAt ≠ none) (hu : 0 ≤ units) (hle : units ≤ hold.unreversed) :
    ∃ promotions' hold', reversePromotionHold s promotions hold units = .ok promotions' ∧
      promotions'.Sound ∧ promotions.Stepped hold hold' promotions' ∧
      hold'.unreversed = hold.unreversed - units ∧ hold'.settledAt = hold.settledAt := by
  have hcv := hold.covered
  unfold unreversed at hle
  obtain ⟨hold', hwr, hkey, hrs, hcn, _, hrv, hsame⟩ :=
    write_succeeds hold.consumedAmount.units hold.releasedAmount.units
      (hold.reversedAmount.units + units) hold.settledAt (le_refl _) (le_refl _) (by omega) (by omega)
      hcv
  have hrest : hold'.unreversed = hold.unreversed - units := by
    rw [unreversed, unreversed]
    omega
  have hout : hold.outstanding - hold'.outstanding = units := by
    rw [outstanding, if_neg hset, outstanding, hsame, if_neg hset]
    omega
  obtain ⟨credit, hcr, hid, _⟩ := h.room hmem
  have hrem := credit.amountRemaining.nonneg
  have hin : units ≤ hold.outstanding := by
    rw [outstanding, if_neg hset]
    exact hle
  have hf : promotions.allocations.find? hold.id = some hold := find?_of_mem hmem
  have hfn : promotions.credits.find? hold.promotionCreditId = some credit :=
    find?_eq_some.mpr ⟨hcr, hid⟩
  obtain ⟨credit', hgive⟩ : ∃ credit', credit.giveBack units s.now = .ok credit' :=
    credit.setRemaining_succeeds _ (by omega) (by omega)
  have hmv : CreditMoved promotions.credits hold.promotionCreditId units
      (promotions.credits.replace credit') := by
    refine CreditMoved.of_returned hcr hid ?_ hgive
    split
    · split <;> simp
    · simp
  have hstep : promotions.Stepped hold hold'
      { credits := promotions.credits.replace credit'
        allocations := promotions.allocations.replace hold' } :=
    ⟨hout ▸ hmv, hmem, hkey, hrs, rfl⟩
  refine ⟨_, hold', ?_, hstep.sound h (hsame ▸ hset), hstep, hrest, hsame⟩
  rw [reversePromotionHold, update_succeeds hf hwr, update_succeeds hfn hgive]
  rfl

end

end

end ModelDock.Store
