import Mathlib.Data.Prod.Lex
import Mathlib.Data.String.Basic
import Mathlib.Tactic.FieldSimp
import Mathlib.Tactic.Linarith
import Mathlib.Tactic.Positivity
import ModelDock.Relational.StableSort
import ModelDock.Routing.Criteria

/-!
# Choosing one candidate

`chooseCandidate` scores the candidates of a rule and sorts them. Ranking by cost is a lexicographic order. A score
that is below zero rises when the multiplier of a degraded provider falls.
-/

namespace ModelDock.Routing

open Text Relational List

/-- How scores are rounded to floating-point numbers. -/
structure Rounding where
  toFun : ℚ → ℚ
  monotone : Monotone toFun
  zero : toFun 0 = 0

instance : CoeFun Rounding fun _ => ℚ → ℚ := ⟨Rounding.toFun⟩

/-- Exact scores. -/
def Rounding.exact : Rounding := ⟨id, monotone_id, rfl⟩

/-- How a rule ranks candidates; an unknown strategy is the balanced one. -/
inductive Strategy
  | costOptimized
  | qualityOptimized
  | latencyOptimized
  | throughputOptimized
  | balanced
  deriving DecidableEq

/-- A routing rule of a project. -/
structure RoutingRule where
  ruleAlias : String
  strategy : Strategy
  (qualityWeight priceWeight latencyWeight : ℚ)
  config : Config

/-- A candidate with its route and what the scores are made of. -/
structure ScoredCandidate extends RouteCandidate where
  (id modelRouteId routeAlias : String)
  (quality latency routingMultiplier : ℚ)
  trafficCapBps : ℤ
  score : ℚ := 0

/-- The price of input and output together. -/
def candidateCombinedPrice (candidate : ScoredCandidate) : ℚ := candidate.inputPrice + candidate.outputPrice

/-- The combined prices of the candidates that have one. -/
def combinedPrices (candidates : List ScoredCandidate) : List ℚ :=
  (candidates.filter (·.hasPrice)).map candidateCombinedPrice

/-- The greatest finite number of double precision. -/
def maxFloat64 : ℚ := 2 ^ 1024 - 2 ^ 971

/-- The multiplier of a score, one where there is none. -/
def ScoredCandidate.multiplier (candidate : ScoredCandidate) : ℚ :=
  if candidate.routingMultiplier ≤ 0 then 1 else candidate.routingMultiplier

variable (go : Runtime) (round : Rounding) (rule : RoutingRule) (candidates : List ScoredCandidate)
  (prices : List ℚ) (candidate : ScoredCandidate)

/-- Where a price lies between the least and the greatest one. -/
def pricePenalty : ℚ :=
  match prices.min?, prices.max? with
  | some minPrice, some maxPrice =>
    if candidate.hasPrice && minPrice < maxPrice then
      round ((candidateCombinedPrice candidate - minPrice) / (maxPrice - minPrice))
    else if !candidate.hasPrice then 1
    else 0
  | _, _ => 0

/-- The score of the quality and the balanced strategy before the multiplier, each operation rounded. -/
def weightedScore (penalty : ℚ) (candidate : ScoredCandidate) : ℚ :=
  if rule.strategy = .qualityOptimized then
    round (round (round (candidate.quality / 100) - round (penalty / 1000)) - round (candidate.latency / 100000))
  else
    round (round (round (rule.qualityWeight * round (candidate.quality / 100)) -
      round (rule.priceWeight * penalty)) - round (rule.latencyWeight * round (candidate.latency / 100)))

/-- The score of a candidate under a rule. -/
def scoreOf : ℚ :=
  let penalty := pricePenalty round prices candidate
  match rule.strategy with
  | .costOptimized => -penalty
  | .latencyOptimized => candidate.p95LatencyMs.elim (-maxFloat64) fun latency => -round latency
  | .throughputOptimized => round candidate.throughput
  | _ => round (weightedScore round rule penalty candidate * candidate.multiplier)

/-- A candidate with its score. -/
def scored : ScoredCandidate :=
  { candidate with score := scoreOf round rule prices candidate }

/-- The first entry of the provider order that names the provider. -/
def orderRank (providerOrder : List String) (candidate : ScoredCandidate) : ℕ :=
  (providerOrder.findIdx? fun provider => go.equalFold provider candidate.providerSlug ||
    go.equalFold provider candidate.providerId || go.equalFold provider candidate.providerType).getD
      (providerOrder.length + 1)

/-- Scores that differ by no more than this are tied. -/
def tolerance : ℚ := 1 / 10 ^ 12

/-- The higher score, and in a tie what decides it. -/
def byScore (a b : ℚ) (tie : Bool) : Bool := if round tolerance < |round (a - b)| then b < a else tie

/-- Whether the first candidate is sorted before the second. -/
def ranksBefore (a b : ScoredCandidate) : Bool :=
  let providerOrder := configStrings (rule.config.get "provider_order")
  let rankA := orderRank go providerOrder a
  let rankB := orderRank go providerOrder b
  let priceA := candidateCombinedPrice a
  let priceB := candidateCombinedPrice b
  if !providerOrder.isEmpty && rankA != rankB then rankA < rankB
  else if rule.strategy = .costOptimized && priceA != priceB then priceA < priceB
  else byScore round a.score b.score
    (if a.routeAlias ≠ b.routeAlias then a.routeAlias < b.routeAlias else a.id < b.id)

/-- The candidates that a rule compares. -/
def eligibleCandidates : List ScoredCandidate :=
  if rule.strategy = .costOptimized then candidates.filter (·.hasPrice) else candidates

/-- The candidate that a rule selects. -/
def chooseCandidate (rule : RoutingRule) : Option ScoredCandidate :=
  if candidates.isEmpty then none
  else
    let prices := combinedPrices candidates
    if rule.strategy = .costOptimized && prices.isEmpty then none
    else
      (sliceStable (ranksBefore go round rule)
        ((eligibleCandidates rule candidates).map (scored round rule prices))).head?

variable {go round} {rule : RoutingRule} {candidates : List ScoredCandidate} {c : ScoredCandidate}

/-- Where nothing is eligible nothing is sorted. -/
theorem chooseCandidate_eq (candidates : List ScoredCandidate) : chooseCandidate go round candidates rule =
    (sliceStable (ranksBefore go round rule)
      ((eligibleCandidates rule candidates).map (scored round rule (combinedPrices candidates)))).head? := by
  simp only [chooseCandidate]
  split
  · next hnone => simp [isEmpty_iff.mp hnone, eligibleCandidates, sliceStable]
  split
  · next hun =>
    obtain ⟨hcost, hpr⟩ : rule.strategy = .costOptimized ∧ combinedPrices candidates = [] := by
      simpa using hun
    have hnone : eligibleCandidates rule candidates = [] := by
      rw [eligibleCandidates, if_pos hcost, ← map_eq_nil_iff]
      exact hpr
    rw [hnone]
    rfl
  · rfl

theorem chooseCandidate_mem (h : chooseCandidate go round candidates rule = some c) :
    ∃ candidate ∈ candidates, scored round rule (combinedPrices candidates) candidate = c := by
  rw [chooseCandidate_eq] at h
  obtain ⟨candidate, hmem, hsc⟩ := mem_map.mp (mem_of_sliceStable_head? h)
  refine ⟨candidate, ?_, hsc⟩
  unfold eligibleCandidates at hmem
  split at hmem
  · exact mem_of_mem_filter hmem
  · exact hmem

/-- A route with a name and what its score is made of. -/
def demoRoute (name : String) (price quality latency multiplier : ℚ) : ScoredCandidate where
  providerId := name
  providerType := name
  providerSlug := name
  modelType := "text"
  capabilities := []
  inputPrice := price
  outputPrice := 0
  hasPrice := true
  providerConfig := []
  dataRetention := ""
  processingRegions := []
  throughput := 0
  p95LatencyMs := none
  id := name
  modelRouteId := name
  routeAlias := name
  quality := quality
  latency := latency
  routingMultiplier := multiplier
  trafficCapBps := 10000

/-- A rule with the weights of the built-in ones. -/
def demoRule (strategy : Strategy) : RoutingRule := ⟨"auto", strategy, 1 / 2, 3 / 10, 1 / 5, []⟩

/-- The strategies whose scores are multiplied. -/
def RoutingRule.IsWeighted (rule : RoutingRule) : Prop :=
  rule.strategy = .qualityOptimized ∨ rule.strategy = .balanced

theorem RoutingRule.IsWeighted.eligibleCandidates (h : rule.IsWeighted) :
    eligibleCandidates rule candidates = candidates := by
  rcases h with h | h <;> simp [Routing.eligibleCandidates, h]

/-- A candidate with another multiplier. -/
def ScoredCandidate.withMultiplier (c : ScoredCandidate) (multiplier : ℚ) : ScoredCandidate :=
  { c with routingMultiplier := multiplier }

/-- No list in which the candidate comes to be selected when its multiplier is lowered. -/
def NeverRaised (go : Runtime) (rule : RoutingRule) (c : ScoredCandidate) : Prop :=
  ∀ before after low high, 0 < low → low < high →
    (∀ other ∈ before ++ after, other.id ≠ c.id ∧ 0 ≤ other.inputPrice ∧ 0 ≤ other.outputPrice) →
    (chooseCandidate go .exact (before ++ c.withMultiplier low :: after) rule).map (·.id) = some c.id →
    (chooseCandidate go .exact (before ++ c.withMultiplier high :: after) rule).map (·.id) = some c.id

/-- The greatest penalty for the price; a model that costs nothing is never dearer than another. -/
def worstPenalty (c : ScoredCandidate) : ℚ := if c.hasPrice && candidateCombinedPrice c = 0 then 0 else 1

theorem pricePenalty_le_worst {prices : List ℚ} (hprs : ∀ price ∈ prices, 0 ≤ price)
    (hown : c.hasPrice → candidateCombinedPrice c ∈ prices) :
    pricePenalty .exact prices c ≤ worstPenalty c := by
  have hnn : 0 ≤ worstPenalty c := by
    unfold worstPenalty
    split <;> norm_num
  unfold pricePenalty
  split
  · next least most hls hmost =>
    split
    · next hsp =>
      obtain ⟨hpr, _⟩ : c.hasPrice ∧ least < most := by simpa using hsp
      have hle := (max?_eq_some_iff.mp hmost).2 _ (hown hpr)
      have hmin := hprs least (min?_eq_some_iff.mp hls).1
      unfold worstPenalty
      split
      · next hfree =>
        have hzero : candidateCombinedPrice c = 0 := by simpa [hpr] using hfree
        exact div_nonpos_of_nonpos_of_nonneg (by linarith) (by linarith)
      · exact (div_le_one (by linarith)).mpr (by linarith)
    · split
      · next hun =>
        have hnot : c.hasPrice = false := by simpa using hun
        simp [worstPenalty, hnot]
      · exact hnn
  · exact hnn

theorem weightedScore_antitone (hwg : 0 ≤ rule.priceWeight) {less more : ℚ} (h : less ≤ more) :
    weightedScore .exact rule more c ≤ weightedScore .exact rule less c := by
  have hmul := mul_le_mul_of_nonneg_left h hwg
  simp only [weightedScore, Rounding.exact, id]
  split <;> linarith

theorem scoreOf_withMultiplier (hrule : rule.IsWeighted)
    {multiplier : ℚ} (hpos : 0 < multiplier) (prices : List ℚ) :
    scoreOf .exact rule prices (c.withMultiplier multiplier) =
      weightedScore .exact rule (pricePenalty .exact prices c) c * multiplier := by
  have hmul : (c.withMultiplier multiplier).multiplier = multiplier := if_neg (not_le.mpr hpos)
  rcases hrule with hrule | hrule <;> simp only [scoreOf, hrule, hmul] <;> rfl

theorem byScore_exact_iff {a b : ℚ} {tie : Bool} :
    byScore .exact a b tie ↔ tolerance < a - b ∨ -tolerance ≤ a - b ∧ tie := by
  have htl : 0 < tolerance := by norm_num [tolerance]
  change (if tolerance < |a - b| then decide (b < a) else tie) ↔ _
  split
  · next hcl =>
    rw [decide_eq_true_eq]
    rcases lt_abs.mp hcl with hgap | hgap
    · exact ⟨fun _ => .inl hgap, fun _ => by linarith⟩
    · exact ⟨fun hlt => by linarith, fun h => by rcases h with h | h <;> linarith [h]⟩
  · next hnear =>
    obtain ⟨hlow, hhigh⟩ := abs_le.mp (not_lt.mp hnear)
    exact ⟨fun htie => .inr ⟨hlow, htie⟩, fun h => (h.resolve_left (not_lt.mpr hhigh)).2⟩

theorem ranksBefore_raise {low high : ℚ} (hsc : low ≤ high) (c other : ScoredCandidate) (m n : ℚ) :
    let lower := { c with routingMultiplier := m, score := low }
    let higher := { c with routingMultiplier := n, score := high }
    (ranksBefore go .exact rule lower other → ranksBefore go .exact rule higher other) ∧
      (ranksBefore go .exact rule other higher → ranksBefore go .exact rule other lower) := by
  simp only [ranksBefore, orderRank, candidateCombinedPrice]
  constructor <;> split
  · exact id
  · split
    · exact id
    · rw [byScore_exact_iff, byScore_exact_iff]
      exact Or.imp (fun h => by linarith) (And.imp_left fun h => by linarith)
  · exact id
  · split
    · exact id
    · rw [byScore_exact_iff, byScore_exact_iff]
      exact Or.imp (fun h => by linarith) (And.imp_left fun h => by linarith)

theorem lt_append_text (s : String) : s < s ++ "a" := by
  rw [String.lt_iff_toList_lt, String.toList_append]
  induction s.toList with
  | nil => decide
  | cons _ _ ih => exact cons_lt_cons_self.mpr ih

theorem combinedPrices_withMultiplier (before after : List ScoredCandidate) (multiplier : ℚ) :
    combinedPrices (before ++ c.withMultiplier multiplier :: after) = combinedPrices (before ++ c :: after) := by
  by_cases hpr : c.hasPrice <;>
    simp [combinedPrices, candidateCombinedPrice, ScoredCandidate.withMultiplier, hpr]

theorem neverRaised_of_nonneg (hrule : rule.IsWeighted)
    (hwg : 0 ≤ rule.priceWeight) (hc : 0 ≤ c.inputPrice ∧ 0 ≤ c.outputPrice)
    (h : 0 ≤ weightedScore .exact rule (worstPenalty c) c) : NeverRaised go rule c := by
  intro before after low high hlow hhigh hoth hsl
  rw [chooseCandidate_eq, hrule.eligibleCandidates, combinedPrices_withMultiplier] at hsl ⊢
  set prices := combinedPrices (before ++ c :: after) with hprs
  obtain ⟨_, hch, hid⟩ := Option.map_eq_some_iff.mp hsl
  obtain ⟨candidate, hcan, rfl⟩ := mem_map.mp (mem_of_sliceStable_head? hch)
  -- Only the candidate itself has its identifier.
  have hne {other : ScoredCandidate} (hmem : other ∈ before ++ after) : other.id ≠ c.id := (hoth other hmem).1
  have hsm : candidate.id = c.id := hid
  have hown : candidate = c.withMultiplier low := by
    rcases mem_append.mp hcan with hmem | hmem
    · exact absurd hsm (hne (mem_append_left _ hmem))
    · exact (mem_cons.mp hmem).resolve_right fun hmem =>
        hne (mem_append_right _ hmem) hsm
  subst hown
  have hpn : pricePenalty .exact prices c ≤ worstPenalty c := by
    refine pricePenalty_le_worst (fun price hpric => ?_) fun hpr => ?_
    · obtain ⟨other, hmem, rfl⟩ := mem_map.mp hpric
      have hin : other = c ∨ other ∈ before ++ after := by
        simpa [or_left_comm] using (mem_filter.mp hmem).1
      rcases hin with rfl | hin
      · exact add_nonneg hc.1 hc.2
      · exact add_nonneg (hoth other hin).2.1 (hoth other hin).2.2
    · exact mem_map_of_mem (mem_filter.mpr ⟨by simp, hpr⟩)
  have hnn := h.trans (weightedScore_antitone (c := c) hwg hpn)
  have hsc : scoreOf .exact rule prices (c.withMultiplier low) ≤
      scoreOf .exact rule prices (c.withMultiplier high) := by
    rw [scoreOf_withMultiplier hrule hlow, scoreOf_withMultiplier hrule (hlow.trans hhigh)]
    exact mul_le_mul_of_nonneg_left hhigh.le hnn
  set rescore := scored .exact rule prices
  rw [map_append, map_cons] at hch ⊢
  have hrs : (sliceStable (ranksBefore go .exact rule)
      (before.map rescore ++ rescore (c.withMultiplier high) :: after.map rescore)).head? =
        some (rescore (c.withMultiplier high)) := by
    refine sliceStable_head?_raise (fun other => (ranksBefore_raise hsc c other low high).1)
      (fun other => (ranksBefore_raise hsc c other low high).2) (fun hmem => ?_) hch
    obtain ⟨other, hin, hsame⟩ := mem_map.mp (map_append ▸ hmem)
    exact hne hin (congrArg (fun candidate => candidate.id) hsame)
  rw [hrs]
  rfl

/-- A free route of the same provider that scores nothing and comes after the candidate in a tie. -/
def ScoredCandidate.rival (c : ScoredCandidate) : ScoredCandidate :=
  { c with
    inputPrice := 0, outputPrice := 0, hasPrice := true, quality := 0, latency := 0, routingMultiplier := 1,
    id := c.id ++ "a", routeAlias := c.routeAlias ++ "a" }

theorem pricePenalty_rival (hc : 0 ≤ candidateCombinedPrice c) :
    pricePenalty .exact (combinedPrices [c.rival, c]) c = worstPenalty c ∧
      pricePenalty .exact (combinedPrices [c.rival, c]) c.rival = 0 := by
  have hrv : candidateCombinedPrice c.rival = 0 := by
    simp [candidateCombinedPrice, ScoredCandidate.rival]
  have hpr : c.rival.hasPrice := rfl
  by_cases hpric : c.hasPrice
  · have hprs : combinedPrices [c.rival, c] = [0, candidateCombinedPrice c] := by
      simp [combinedPrices, hpr, hpric, hrv]
    have hmin : [0, candidateCombinedPrice c].min? = some 0 := by simp [hc]
    have hmax : [0, candidateCombinedPrice c].max? = some (candidateCombinedPrice c) := by simp [hc]
    simp only [pricePenalty, hprs, hmin, hmax, hpric, hpr, hrv, worstPenalty]
    rcases hc.eq_or_lt with hzero | hpos
    · simp [← hzero]
    · simp [hpos, hpos.ne', Rounding.exact]
  · have hprs : combinedPrices [c.rival, c] = [0] := by simp [combinedPrices, hpr, hpric, hrv]
    have hun : c.hasPrice = false := by simpa using hpric
    simp [pricePenalty, hprs, hun, hpr, worstPenalty]

theorem ranksBefore_of_alias_lt (hcost : rule.strategy ≠ .costOptimized) {a b : ScoredCandidate}
    (hrank : ∀ order, orderRank go order a = orderRank go order b) (hal : a.routeAlias < b.routeAlias) :
    ranksBefore go .exact rule a b ↔ -tolerance ≤ a.score - b.score := by
  have htl : 0 < tolerance := by norm_num [tolerance]
  simp only [ranksBefore, hrank, hcost, bne_self_eq_false, Bool.and_false, Bool.false_eq_true, if_false,
    decide_false, Bool.false_and, byScore_exact_iff, hal.ne, ne_eq, not_false_eq_true, if_true, hal,
    decide_true, and_true]
  exact ⟨fun h => h.elim (fun hcl => by linarith) id, .inr⟩

theorem not_neverRaised_of_neg (hrule : rule.IsWeighted) (hc : 0 ≤ c.inputPrice ∧ 0 ≤ c.outputPrice)
    (h : weightedScore .exact rule (worstPenalty c) c < 0) : ¬NeverRaised go rule c := by
  have hcost : rule.strategy ≠ .costOptimized := by rcases hrule with hrule | hrule <;> simp [hrule]
  intro hnv
  obtain ⟨hpn, hrv⟩ := pricePenalty_rival (add_nonneg hc.1 hc.2)
  set base := weightedScore .exact rule (worstPenalty c) c with hbase
  have htl : 0 < tolerance := by norm_num [tolerance]
  -- At the lower multiplier the candidate ties with its rival, at the higher one it is clearly below.
  have hlow : 0 < tolerance / -base := div_pos htl (by linarith)
  have hpr : base * (tolerance / -base) = -tolerance := by field_simp [h.ne]
  have hch (multiplier : ℚ) (hpos : 0 < multiplier) :
      (chooseCandidate go .exact ([c.rival] ++ c.withMultiplier multiplier :: []) rule).map (·.id) = some c.id ↔
        -tolerance ≤ base * multiplier := by
    have hsc : scoreOf .exact rule (combinedPrices [c.rival, c]) (c.withMultiplier multiplier) =
        base * multiplier := by
      rw [scoreOf_withMultiplier hrule hpos, hpn]
    have hrl : scoreOf .exact rule (combinedPrices [c.rival, c]) c.rival = 0 := by
      rcases hrule with hrule | hrule <;>
        simp only [scoreOf, hrule, hrv, weightedScore] <;>
        simp [ScoredCandidate.rival, Rounding.exact]
    have hrn : ranksBefore go .exact rule
          (scored .exact rule (combinedPrices [c.rival, c]) (c.withMultiplier multiplier))
          (scored .exact rule (combinedPrices [c.rival, c]) c.rival) ↔ -tolerance ≤ base * multiplier := by
      rw [ranksBefore_of_alias_lt hcost]
      · simp only [scored, hsc, hrl, sub_zero]
      · exact fun _ => rfl
      · exact lt_append_text c.routeAlias
    rw [chooseCandidate_eq, hrule.eligibleCandidates, combinedPrices_withMultiplier, map_append,
      map_singleton, map_singleton, sliceStable_concat_head?]
    split
    · next hfs => exact ⟨fun _ => hrn.mp (hfs _ mem_cons_self), fun _ => rfl⟩
    · next hlat =>
      refine ⟨fun hid => absurd (Option.some.inj hid) (lt_append_text c.id).ne', fun hle => absurd ?_ hlat⟩
      exact forall_mem_singleton.mpr (hrn.mpr hle)
  have hsl := hnv [c.rival] [] _ (2 * (tolerance / -base)) hlow (by linarith) (by
    simp [ScoredCandidate.rival]) ((hch _ hlow).mpr hpr.ge)
  have hle := (hch _ (by linarith)).mp hsl
  linarith

/-- Under the quality and the balanced strategy, with exact scores, lowering the multiplier of a candidate never
makes it the selected one exactly when its score before the multiplier is not below zero at its worst price. -/
theorem neverRaised_iff (go : Runtime) (rule : RoutingRule) (hrule : rule.IsWeighted)
    (hweights : 0 ≤ rule.qualityWeight ∧ 0 ≤ rule.priceWeight ∧ 0 ≤ rule.latencyWeight) (c : ScoredCandidate)
    (hc : 0 ≤ c.inputPrice ∧ 0 ≤ c.outputPrice) :
    NeverRaised go rule c ↔ 0 ≤ weightedScore .exact rule (worstPenalty c) c :=
  ⟨fun hnv => not_lt.mp fun hneg => not_neverRaised_of_neg hrule hc hneg hnv,
    neverRaised_of_nonneg hrule hweights.2.1 hc⟩

theorem neverRaised_iff_degraded : NeverRaised asciiRuntime (demoRule .balanced) (demoRoute "b" 2 90 10 1) ↔
      0 ≤ weightedScore .exact (demoRule .balanced) (worstPenalty (demoRoute "b" 2 90 10 1))
        (demoRoute "b" 2 90 10 1) :=
  neverRaised_iff asciiRuntime (demoRule .balanced) (.inr rfl) (by norm_num [demoRule]) _
    (by norm_num [demoRoute])

/-- A slow route of the lowest quality is selected once its multiplier falls from one to a tenth. -/
theorem chooseCandidate_selects_downweighted :
    let routes (multiplier : ℚ) := [demoRoute "a" 1 20 100 1, demoRoute "b" 1 0 100 multiplier]
    (chooseCandidate asciiRuntime .exact (routes 1) (demoRule .balanced)).map (·.id) = some "a" ∧
      (chooseCandidate asciiRuntime .exact (routes (1 / 10)) (demoRule .balanced)).map (·.id) = some "b" := by
  decide +kernel

end ModelDock.Routing
