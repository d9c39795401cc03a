import ModelDock.Promotion.Sound

/-!
# Holding, consuming and returning promotion

The three loops over promotion rows change the holds of one request only; settling and reversing always succeed
on sound tables.
-/

namespace ModelDock.Store

open Relational Table PromotionAllocation Promotions Prod

variable {units : ℤ} {item : PromotionCredit} {part : PromotionAllocation × ℤ}
  {parts : List (PromotionAllocation × ℤ)} (operationId : Uuid) (holds : Table PromotionAllocation)

/-- What a request holds of promotion credits. -/
def promotionHeld : ℤ :=
  holds.sum fun hold => if hold.operationId = operationId then hold.reservedAmount.units else 0

/-- What a request consumed of promotion credits and no reversal returned. -/
def promotionUsed : ℤ :=
  holds.sum fun hold => if hold.operationId = operationId then hold.unreversed else 0

/-- Only holds of one request changed, no credit but in its balance, and no credit in what it accounts
for. -/
structure Promotions.Touched (promotions : Promotions) (operationId : Uuid) (promotions' : Promotions) :
    Prop where
  credits : promotions'.credits.view PromotionCredit.origin = promotions.credits.view PromotionCredit.origin
  holds : ∀ hold ∈ promotions'.allocations.rows,
    hold ∈ promotions.allocations.rows ∨ hold.operationId = operationId
  sums : ∀ f : PromotionAllocation → ℤ, (∀ hold, hold.operationId = operationId → f hold = 0) →
    promotions'.allocations.sum f = promotions.allocations.sum f
  accounted : ∀ id, promotions'.accounted id = promotions.accounted id
  exhausted : (∀ credit ∈ promotions.credits.rows, credit.ExhaustedEmpty) →
    ∀ credit ∈ promotions'.credits.rows, credit.ExhaustedEmpty

variable {s : Session} {promotions promotions' promotions'' : Promotions} {hold hold' : PromotionAllocation}
  {opId other orgId creditId : Uuid} {currency : Currency} {amount maximum : ℤ}

theorem Promotions.Touched.refl (promotions : Promotions) (opId : Uuid) :
    promotions.Touched opId promotions :=
  ⟨rfl, fun _ h => .inl h, fun _ _ => rfl, fun _ => rfl, id⟩

theorem Promotions.Touched.trans (h : promotions.Touched opId promotions')
    (h' : promotions'.Touched opId promotions'') : promotions.Touched opId promotions'' := by
  refine ⟨h'.credits.trans h.credits, fun hold hhold => ?_, fun f hf => (h'.sums f hf).trans (h.sums f hf),
    fun id => (h'.accounted id).trans (h.accounted id), fun hem => h'.exhausted (h.exhausted hem)⟩
  rcases h'.holds hold hhold with hold | hown
  · exact h.holds _ hold
  · exact .inr hown

theorem Promotions.Stepped.touched (h : promotions.Stepped hold hold' promotions')
    (hown : hold.operationId = opId) : promotions.Touched opId promotions' := by
  have hown' : hold'.operationId = opId := (congrArg PromotionAllocationKey.operationId h.key).trans hown
  refine ⟨h.moved.view, fun x hx => ?_, fun f hf => ?_, h.accounted, h.moved.exhausted⟩
  · rw [h.allocations, mem_replace h.mem h.key] at hx
    rcases hx with rfl | ⟨hx, _⟩
    · exact .inr hown'
    · exact .inl hx
  · rw [h.allocations, sum_replace h.mem h.key, hf hold hown, hf hold' hown', sub_zero, add_zero]

theorem Promotions.Touched.others (h : promotions.Touched opId promotions') (hoth : other ≠ opId) :
    promotionHeld other promotions'.allocations = promotionHeld other promotions.allocations ∧
      promotionUsed other promotions'.allocations = promotionUsed other promotions.allocations := by
  have hne (hold : PromotionAllocation) (hown : hold.operationId = opId) : hold.operationId ≠ other :=
    fun heq => hoth (heq.symm.trans hown)
  exact ⟨h.sums _ fun hold hown => if_neg (hne hold hown), h.sums _ fun hold hown => if_neg (hne hold hown)⟩

theorem Promotions.Stepped.used (h : promotions.Stepped hold hold' promotions')
    (hown : hold.operationId = opId) :
    promotionUsed opId promotions'.allocations =
      promotionUsed opId promotions.allocations - hold.unreversed + hold'.unreversed := by
  have hown' : hold'.operationId = opId := (congrArg PromotionAllocationKey.operationId h.key).trans hown
  rw [promotionUsed, h.allocations, sum_replace h.mem h.key, if_pos hown, if_pos hown', promotionUsed]

theorem Promotions.mem_holdsOf : hold ∈ promotions.holdsOf opId ↔
    hold ∈ promotions.allocations.rows ∧ hold.operationId = opId := by
  rw [holdsOf, (oldestFirst_perm _ _).mem_iff]
  simp only [List.mem_filter, decide_eq_true_eq]

theorem Promotions.find_credit {credits credits' : Table PromotionCredit} {credit : PromotionCredit}
    (hview : credits'.view PromotionCredit.origin = credits.view PromotionCredit.origin)
    (hmem : credit ∈ credits.rows) : ∃ credit', credits'.find? credit.id = some credit' := by
  obtain ⟨credit', hmem', hor⟩ := mem_of_view hview.symm hmem
  exact ⟨credit', find?_eq_some.mpr ⟨hmem', (PromotionCredit.columns_of_origin hor).1⟩⟩

theorem reserveCredit_sound (h : promotions.Sound)
    (hstor : ∃ credit, promotions.credits.find? item.id = some credit)
    (hstep : reserveCredit s opId promotions item units = .ok promotions') :
    promotions'.Sound ∧ promotions.Touched opId promotions' ∧
      promotionHeld opId promotions'.allocations =
        promotionHeld opId promotions.allocations + units ∧
      ∀ hold ∈ promotions'.allocations.rows, hold ∈ promotions.allocations.rows ∨ hold.settledAt = none := by
  obtain ⟨credit, hfn⟩ := hstor
  simp only [reserveCredit, insertPromotionHold, eq_ok, money_eq_ok] at hstep
  obtain ⟨credits, hcr, reserved, hrs, _, allocations, hins, rfl⟩ := hstep
  have hmv := CreditMoved.of_debit hfn (hrs ▸ reserved.nonneg) hcr
  have hcs (x : PromotionAllocation) (hx : x ∈ allocations.rows) := (mem_insert hins).mp hx
  have hac (id : Uuid) : Promotions.accounted ⟨credits, allocations⟩ id = promotions.accounted id := by
    rw [accounted, hmv.left, outstandingOn, sum_insert hins, ← outstandingOn, outstanding, if_pos rfl, accounted]
    simp only [decide_eq_true_eq]
    split <;> omega
  refine ⟨⟨fun x hx => credit_stored hmv.view ?_, fun x hx hxp => ?_,
    granted_of_view h hmv.view fun id => (hac id).le⟩,
    ⟨hmv.view, fun x hx => ?_, fun f hf => ?_, hac, hmv.exhausted⟩, ?_, fun x hx => ?_⟩
  · rcases hcs x hx with rfl | hx
    · exact ⟨credit, found hfn⟩
    · exact h.credit x hx
  · rcases hcs x hx with rfl | hx
    · exact ⟨rfl, rfl, rfl⟩
    · exact h.unused x hx hxp
  · rcases hcs x hx with rfl | hx
    · exact .inr rfl
    · exact .inl hx
  · rw [sum_insert hins, hf _ rfl, zero_add]
  · rw [promotionHeld, sum_insert hins, if_pos rfl, hrs, add_comm, promotionHeld]
  · rcases hcs x hx with rfl | hx
    · exact .inr rfl
    · exact .inl hx

theorem reservePromotionTx_sound {held : ℤ} (h : promotions.Sound)
    (hstep : reservePromotionTx s opId orgId currency maximum promotions =
      .ok (held, promotions')) :
    promotions'.Sound ∧ promotions.Touched opId promotions' ∧
      promotionHeld opId promotions'.allocations =
        promotionHeld opId promotions.allocations + held ∧
      ∀ hold ∈ promotions'.allocations.rows, hold ∈ promotions.allocations.rows ∨ hold.settledAt = none := by
  simp only [reservePromotionTx, eq_ok] at hstep
  obtain ⟨_, hloop, rfl, rfl⟩ := hstep
  obtain ⟨hrun, hleft⟩ := takeEach_eq_ok.mp hloop
  let parts := takes (fun credit : PromotionCredit => credit.amountRemaining.units)
    (promotions.usable orgId currency s.now) maximum
  have hstor (part : PromotionCredit × ℤ) (hpart : part ∈ parts) :
      part.1 ∈ promotions.credits.rows := by
    have hitem := takes_sublist.subset (List.mem_map_of_mem (f := fst) hpart)
    have hmem := (List.perm_insertionSort _ _).mem_iff.mp hitem
    exact (List.mem_filter.mp hmem).1
  have hinv := foldlM_invariant
    (P := fun st : Promotions => st.Sound ∧ promotions.Touched opId st ∧
      ∀ hold ∈ st.allocations.rows, hold ∈ promotions.allocations.rows ∨ hold.settledAt = none)
    (fun part hpart st st' hst hstep => by
      obtain ⟨hsn, htc, hopen⟩ := hst
      obtain ⟨hsn', htc', _, hopen'⟩ := reserveCredit_sound hsn
        (find_credit htc.credits (hstor part hpart)) hstep
      refine ⟨hsn', htc.trans htc', fun hold hhold => ?_⟩
      rcases hopen' hold hhold with hold | hopen'
      · exact hopen _ hold
      · exact .inr hopen') ⟨h, Touched.refl _ _, fun _ h => .inl h⟩ hrun
  have hmov := foldlM_moves
    (P := fun st : Promotions => st.Sound ∧ promotions.Touched opId st)
    (q := fun st => promotionHeld opId st.allocations) (d := snd)
    (fun part hpart st st' hst hstep => by
      obtain ⟨hsn', htc', hheld, _⟩ := reserveCredit_sound hst.1
        (find_credit hst.2.credits (hstor part hpart)) hstep
      exact ⟨⟨hsn', hst.2.trans htc'⟩, hheld⟩) ⟨h, Touched.refl _ _⟩ hrun
  refine ⟨hinv.1, hinv.2.1, ?_, hinv.2.2⟩
  rw [hmov, hleft, sub_sub_cancel]
  rfl

/-- The holds a settlement still has to visit are open holds of the request, and every hold of the
request is settled or still to be visited. -/
structure PromotionReady (operationId : Uuid) (parts : List (PromotionAllocation × ℤ))
    (promotions : Promotions) : Prop where
  sound : promotions.Sound
  distinct : parts.Pairwise fun a b => a.1.id ≠ b.1.id
  bounds : ∀ part ∈ parts, 0 ≤ part.2 ∧ part.2 ≤ part.1.reservedAmount.units
  stored : ∀ part ∈ parts, part.1 ∈ promotions.allocations.rows ∧ part.1.operationId = operationId ∧
    part.1.settledAt = none
  visited : ∀ hold ∈ promotions.allocations.rows, hold.operationId = operationId →
    hold.settledAt ≠ none ∧ hold.reversedAmount.units = 0 ∨ ∃ part ∈ parts, part.1 = hold

theorem settlePromotionHold_ready (h : PromotionReady opId (part :: parts) promotions) :
    ∃ promotions', settlePromotionHold s promotions part.1 part.2
        (part.1.reservedAmount.units - part.2) = .ok promotions' ∧
      PromotionReady opId parts promotions' ∧ promotions.Touched opId promotions' ∧
      promotionUsed opId promotions'.allocations =
        promotionUsed opId promotions.allocations + part.2 := by
  obtain ⟨hold, _⟩ := part
  obtain ⟨hmem, hown, hopen⟩ := h.stored _ List.mem_cons_self
  obtain ⟨hu, hle⟩ := h.bounds _ List.mem_cons_self
  obtain ⟨hfs, hd⟩ := List.pairwise_cons.mp h.distinct
  obtain ⟨promotions', _, hstep, hsn, hstd, hused, hback, hset⟩ :=
    settlePromotionHold_spec (s := s) h.sound hmem hopen hu hle
  have hun := h.sound.unused hold hmem hopen
  refine ⟨promotions', hstep, ⟨hsn, hd,
    fun later hlat => h.bounds later (List.mem_cons_of_mem _ hlat), fun later hlat => ?_,
    fun x hx hxown => ?_⟩, hstd.touched hown, ?_⟩
  · obtain ⟨hlm, hlate, hln⟩ := h.stored later (List.mem_cons_of_mem _ hlat)
    refine ⟨?_, hlate, hln⟩
    rw [hstd.allocations, mem_replace hmem hstd.key]
    exact .inr ⟨hlm, fun heq => hfs later hlat (heq.trans (congrArg Key.id hstd.key)).symm⟩
  · rw [hstd.allocations, mem_replace hmem hstd.key] at hx
    rcases hx with rfl | ⟨hx, hne⟩
    · exact .inl ⟨hset ▸ Option.some_ne_none _, hback⟩
    · rcases h.visited x hx hxown with hdone | ⟨part, hpart, rfl⟩
      · exact .inl hdone
      · rcases List.mem_cons.mp hpart with rfl | hpart
        · exact absurd (congrArg Key.id hstd.key).symm hne
        · exact .inr ⟨part, hpart, rfl⟩
  · rw [hstd.used hown, unreversed, unreversed, hun.1, hun.2.2]
    omega

/-- Settling open holds succeeds, and uses the amount as far as they reach. -/
theorem settlePromotionTx_spec (h : promotions.Sound) (ham : 0 ≤ amount)
    (hopen : ∀ hold ∈ promotions.allocations.rows, hold.operationId = opId → hold.settledAt = none) :
    ∃ promotions', settlePromotionTx s opId amount promotions =
        .ok (min amount (promotionHeld opId promotions.allocations), promotions') ∧
      promotions'.Sound ∧ promotions.Touched opId promotions' ∧
      promotionUsed opId promotions'.allocations =
        min amount (promotionHeld opId promotions.allocations) ∧
      ∀ hold ∈ promotions'.allocations.rows, hold.operationId = opId →
        hold.settledAt ≠ none ∧ hold.reversedAmount.units = 0 := by
  let parts := consumptions (fun hold : PromotionAllocation => hold.reservedAmount.units)
    (promotions.holdsOf opId) amount
  have hbn (part : PromotionAllocation × ℤ) (hpart : part ∈ parts) :=
    consumptions_bounds (fun hold _ => hold.reservedAmount.nonneg) hpart
  have hvs : parts.map fst = promotions.holdsOf opId := consumptions_fst
  have hheld : ((promotions.holdsOf opId).map fun hold => hold.reservedAmount.units).sum =
      promotionHeld opId promotions.allocations := by
    rw [holdsOf, sum_of_query (oldestFirst_perm _ _)]
    simp only [decide_eq_true_eq, promotionHeld]
  have htt : allocated parts = min amount (promotionHeld opId promotions.allocations) := by
    rw [← hheld]
    exact allocated_consumptions (fun hold _ => hold.reservedAmount.nonneg) ham
  have hrd : PromotionReady opId parts promotions := by
    refine ⟨h, ?_, fun part hpart => (hbn part hpart).2, fun part hpart => ?_, fun hold hhold hown => ?_⟩
    · have hd := distinct_of_query (oldestFirst_perm createdAt
        (promotions.allocations.rows.filter fun hold => hold.operationId = opId))
      rwa [← holdsOf, ← hvs, List.pairwise_map] at hd
    · obtain ⟨hmem, hown⟩ := Promotions.mem_holdsOf.mp (hbn part hpart).1
      exact ⟨hmem, hown, hopen part.1 hmem hown⟩
    · have hmem : hold ∈ parts.map fst := hvs ▸ Promotions.mem_holdsOf.mpr ⟨hhold, hown⟩
      obtain ⟨part, hpart, rfl⟩ := List.mem_map.mp hmem
      exact .inr ⟨part, hpart, rfl⟩
  have hun : promotionUsed opId promotions.allocations = 0 := by
    refine sum_eq_zero fun hold hhold => ?_
    split
    · next hown =>
      have hfr := h.unused hold hhold (hopen hold hhold hown)
      rw [unreversed, hfr.1, hfr.2.2, sub_zero]
    · rfl
  obtain ⟨last, hrun, hlast, htc, hused⟩ := foldlM_succeeds
    (P := fun rest st => PromotionReady opId rest st ∧ promotions.Touched opId st ∧
      promotionUsed opId st.allocations + allocated rest = allocated parts)
    (fun part rest st hst => by
      obtain ⟨hrd, htc, hused⟩ := hst
      obtain ⟨st', hstep, hrd', htc', hused'⟩ := settlePromotionHold_ready (s := s) hrd
      refine ⟨st', hstep, hrd', htc.trans htc', ?_⟩
      rw [← hused, allocated_cons]
      omega)
    ⟨hrd, Touched.refl _ _, by rw [hun, zero_add]⟩
  refine ⟨last, ?_, hlast.sound, htc, ?_, fun hold hhold hown => ?_⟩
  · have hloop : settleEach (fun hold => hold.reservedAmount.units) (settlePromotionHold s)
        (promotions.holdsOf opId) amount promotions = .ok (amount - allocated parts, last) :=
      settleEach_eq_ok.mpr ⟨hrun, rfl⟩
    rw [settlePromotionTx, hloop, ok_bind, htt, sub_sub_cancel]
    rfl
  · rw [← htt, ← hused, allocated_nil, add_zero]
  · rcases hlast.visited hold hhold hown with hdone | ⟨part, hpart, _⟩
    · exact hdone
    · exact absurd hpart List.not_mem_nil

/-- The holds a reversal still has to visit are settled holds of the request with enough consumed. -/
structure ReversalReady (operationId : Uuid) (parts : List (PromotionAllocation × ℤ))
    (promotions : Promotions) : Prop where
  sound : promotions.Sound
  distinct : parts.Pairwise fun a b => a.1.id ≠ b.1.id
  bounds : ∀ part ∈ parts, 0 ≤ part.2 ∧ part.2 ≤ part.1.unreversed
  stored : ∀ part ∈ parts, part.1 ∈ promotions.allocations.rows ∧ part.1.operationId = operationId
  settled : ∀ hold ∈ promotions.allocations.rows, hold.operationId = operationId → hold.settledAt ≠ none

theorem reversePromotionHold_ready (h : ReversalReady opId (part :: parts) promotions) :
    ∃ promotions', reversePromotionHold s promotions part.1 part.2 = .ok promotions' ∧
      ReversalReady opId parts promotions' ∧ promotions.Touched opId promotions' ∧
      promotionUsed opId promotions'.allocations =
        promotionUsed opId promotions.allocations - part.2 := by
  obtain ⟨hold, _⟩ := part
  obtain ⟨hmem, hown⟩ := h.stored _ List.mem_cons_self
  obtain ⟨hu, hle⟩ := h.bounds _ List.mem_cons_self
  obtain ⟨hfs, hd⟩ := List.pairwise_cons.mp h.distinct
  have hset := h.settled hold hmem hown
  obtain ⟨promotions', _, hstep, hsn, hstd, hrest, hsame⟩ :=
    reversePromotionHold_spec (s := s) h.sound hmem hset hu hle
  refine ⟨promotions', hstep, ⟨hsn, hd,
    fun later hlat => h.bounds later (List.mem_cons_of_mem _ hlat), fun later hlat => ?_,
    fun x hx hxown => ?_⟩, hstd.touched hown, ?_⟩
  · obtain ⟨hlm, hln⟩ := h.stored later (List.mem_cons_of_mem _ hlat)
    refine ⟨?_, hln⟩
    rw [hstd.allocations, mem_replace hmem hstd.key]
    exact .inr ⟨hlm, fun heq => hfs later hlat (heq.trans (congrArg Key.id hstd.key)).symm⟩
  · rw [hstd.allocations, mem_replace hmem hstd.key] at hx
    rcases hx with rfl | ⟨hx, _⟩
    · exact hsame ▸ hset
    · exact h.settled x hx hxown
  · rw [hstd.used hown]
    omega

/-- A reversal of no more than was used succeeds. -/
theorem reversePromotionTx_spec (h : promotions.Sound) (ham : 0 ≤ amount)
    (hle : amount ≤ promotionUsed opId promotions.allocations)
    (hset : ∀ hold ∈ promotions.allocations.rows, hold.operationId = opId →
      hold.settledAt ≠ none) :
    ∃ promotions', reversePromotionTx s opId amount promotions = .ok (amount, promotions') ∧
      promotions'.Sound ∧ promotions.Touched opId promotions' ∧
      promotionUsed opId promotions'.allocations =
        promotionUsed opId promotions.allocations - amount ∧
      ∀ hold ∈ promotions'.allocations.rows, hold.operationId = opId → hold.settledAt ≠ none := by
  let parts := takes unreversed (promotions.reversible opId) amount
  have hrv (hold : PromotionAllocation) (hhold : hold ∈ promotions.reversible opId) :
      hold ∈ promotions.allocations.rows ∧ hold.operationId = opId ∧ 0 < hold.unreversed := by
    have hmem := (newestFirst_perm _ _).mem_iff.mp hhold
    simp only [List.mem_filter, decide_eq_true_eq] at hmem
    exact ⟨hmem.1, hmem.2.1, sub_pos.mpr hmem.2.2⟩
  have hbn (part : PromotionAllocation × ℤ) (hpart : part ∈ parts) :=
    takes_bounds (fun hold hhold => (hrv hold hhold).2.2) hpart
  have hused : ((promotions.reversible opId).map unreversed).sum =
      promotionUsed opId promotions.allocations := by
    rw [reversible, sum_of_query (newestFirst_perm _ _)]
    refine sum_congr fun hold _ => ?_
    have hback := hold.reversed_le
    simp only [decide_eq_true_eq]
    by_cases hown : hold.operationId = opId
    · by_cases hleft : hold.reversedAmount.units < hold.consumedAmount.units
      · rw [if_pos ⟨hown, hleft⟩, if_pos hown]
      · rw [unreversed]
        omega
    · rw [if_neg fun hboth => hown hboth.1, if_neg hown]
  have htt : allocated parts = amount := by
    have hall : allocated parts = min amount _ :=
      allocated_takes (fun hold hhold => (hrv hold hhold).2.2.le) ham
    rw [hall, hused, min_eq_left hle]
  have hrd : ReversalReady opId parts promotions := by
    refine ⟨h, ?_, fun part hpart => ⟨(hbn part hpart).2.1.le, (hbn part hpart).2.2⟩,
      fun part hpart => ?_, hset⟩
    · have hd := distinct_of_query (newestFirst_perm createdAt
        (promotions.allocations.rows.filter fun hold => hold.operationId = opId ∧
          hold.reversedAmount.units < hold.consumedAmount.units))
      have hvs : (parts.map fst).Pairwise fun a b => a.id ≠ b.id := hd.sublist takes_sublist
      rwa [List.pairwise_map] at hvs
    · obtain ⟨hmem, hown, _⟩ := hrv part.1 (hbn part hpart).1
      exact ⟨hmem, hown⟩
  obtain ⟨last, hrun, hlast, htc, hleft⟩ := foldlM_succeeds
    (P := fun rest st => ReversalReady opId rest st ∧ promotions.Touched opId st ∧
      promotionUsed opId st.allocations =
        promotionUsed opId promotions.allocations - allocated parts + allocated rest)
    (fun part rest st hst => by
      obtain ⟨hrd, htc, hleft⟩ := hst
      obtain ⟨st', hstep, hrd', htc', hleft'⟩ := reversePromotionHold_ready (s := s) hrd
      refine ⟨st', hstep, hrd', htc.trans htc', ?_⟩
      rw [hleft', hleft, allocated_cons]
      omega)
    ⟨hrd, Touched.refl _ _, by omega⟩
  refine ⟨last, ?_, hlast.sound, htc, ?_, hlast.settled⟩
  · have hloop : takeEach unreversed (reversePromotionHold s)
        (promotions.reversible opId) amount promotions = .ok (amount - allocated parts, last) :=
      takeEach_eq_ok.mpr ⟨hrun, rfl⟩
    rw [reversePromotionTx, hloop, ok_bind, htt, sub_self, ensure_of (le_refl 0), sub_zero]
    rfl
  · rw [hleft, htt, allocated_nil, add_zero]

end ModelDock.Store
