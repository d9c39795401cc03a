import Mathlib.Algebra.Order.Ring.Unbundled.Rat
import Mathlib.Tactic.Common
import ModelDock.Text.Normalize

/-!
# The circuit of a provider's quality

An evaluation with enough measurements reports what breaches the policy, and its critical breaches drive the circuit
breaker. The score, the grade and the traffic ramp do not act back on the circuit.
-/

namespace ModelDock.Quality

/-- The state of a circuit; an unknown one is closed. -/
inductive CircuitState
  | closed | halfOpen | opened
deriving DecidableEq

/-- A policy, with the numbers its decimals denote. -/
structure Policy where
  enabled : Bool
  minimumSamples : ℤ
  (availabilityTargetPct maximumErrorRatePct maximum429RatePct : ℚ)
  (maximumTTFTMS maximumFullLatencyMS : ℤ)
  (minimumThroughputTPS minimumOutputQuality : ℚ)
  autoCircuitBreaker : Bool
  (circuitFailureThreshold circuitRecoveryThreshold circuitOpenDuration : ℤ)

/-- What was measured of a provider. -/
structure Metrics where
  measurementCount : ℤ
  (availabilityPct errorRatePct rateLimitedPct : ℚ)
  (p95TTFTMS p95FullLatencyMS : Option ℤ)
  throughputTPS : Option ℚ
  (outputQualityScore priceTruthScore regionCoveragePct : ℚ)

/-- What a provider's state says of its circuit. -/
structure State where
  circuitState : CircuitState
  circuitOpenUntil : Option ℤ
  (consecutiveBreaches consecutiveRecoveries : ℤ)

/-- What a policy limits. -/
inductive Metric
  | availability | errorRate | rateLimitedRate | ttft | fullLatency | throughput | outputQuality | priceTruth
  | regionCoverage

/-- A limit that was not kept. -/
structure Breach where
  metric : Metric
  (observed threshold : ℚ)
  critical : Bool

/-- What an evaluation decides. -/
structure Decision extends State where
  breaches : List Breach
  sufficientMeasurements : Bool

/-- A breach if the observed number is too small. -/
def below (metric : Metric) (observed threshold : ℚ) (critical : Bool) : List Breach :=
  if observed < threshold then [⟨metric, observed, threshold, critical⟩] else []

/-- A breach if the observed number is too great. -/
def above (metric : Metric) (observed threshold : ℚ) (critical : Bool) : List Breach :=
  if threshold < observed then [⟨metric, observed, threshold, critical⟩] else []

variable (policy : Policy) (metrics : Metrics) (state : State) (now : ℤ)

/-- Everything that breaches the policy; a latency or throughput that was not measured breaches nothing. -/
def collectBreaches : List Breach :=
  below .availability metrics.availabilityPct policy.availabilityTargetPct true ++
  above .errorRate metrics.errorRatePct policy.maximumErrorRatePct true ++
  above .rateLimitedRate metrics.rateLimitedPct policy.maximum429RatePct true ++
  metrics.p95TTFTMS.elim [] (fun latency => above .ttft latency policy.maximumTTFTMS false) ++
  metrics.p95FullLatencyMS.elim [] (fun latency => above .fullLatency latency policy.maximumFullLatencyMS false) ++
  metrics.throughputTPS.elim [] (fun value => below .throughput value policy.minimumThroughputTPS false) ++
  below .outputQuality metrics.outputQualityScore policy.minimumOutputQuality false ++
  below .priceTruth metrics.priceTruthScore 100 false ++
  below .regionCoverage metrics.regionCoveragePct 100 false

/-- An open circuit is half open once its time is over. -/
def State.afterOpen : State :=
  if state.circuitState = .opened then { state with circuitState := .halfOpen, circuitOpenUntil := none } else state

/-- The circuit after an evaluation. It opens when the critical evaluations in a row reach the threshold, also while
it is half open. -/
def evaluateCircuit (critical : Bool) : State :=
  if state.circuitState = .opened ∧ state.circuitOpenUntil.any (now < ·) then state
  else if critical then
    if policy.circuitFailureThreshold ≤ state.consecutiveBreaches + 1 then
      ⟨.opened, some (now + policy.circuitOpenDuration), state.consecutiveBreaches + 1, 0⟩
    else { state.afterOpen with consecutiveBreaches := state.consecutiveBreaches + 1, consecutiveRecoveries := 0 }
  else if state.afterOpen.circuitState = .halfOpen ∧
      policy.circuitRecoveryThreshold ≤ state.consecutiveRecoveries + 1 then ⟨.closed, none, 0, 0⟩
  else { state.afterOpen with consecutiveBreaches := 0, consecutiveRecoveries := state.consecutiveRecoveries + 1 }

/-- `Evaluate`, without the score, the grade, the multiplier and the traffic cap. -/
def evaluate : Decision :=
  let sufficient : Bool := policy.enabled && policy.minimumSamples ≤ metrics.measurementCount
  let breaches := if sufficient then collectBreaches policy metrics else []
  ⟨if policy.autoCircuitBreaker && sufficient then evaluateCircuit policy state now (breaches.any (·.critical))
    else state, breaches, sufficient⟩

/-- An administrator puts a stored circuit half open, with nothing counted. -/
def resetProviderQualityCircuit (reason : String) (stored : Option State) : Except String State :=
  if Text.isBlank reason then .error "circuit reset reason is required"
  else if stored.isNone then .error "not found"
  else .ok ⟨.halfOpen, none, 0, 0⟩

/-- There are enough measurements, and they breach the policy critically. -/
def Fails : Prop :=
  policy.enabled ∧ policy.minimumSamples ≤ metrics.measurementCount ∧
    (collectBreaches policy metrics).any (·.critical)

/-- The circuit is half open after a reset, or after an evaluation with enough measurements and no critical breach. -/
def Restarted : Prop :=
  state.circuitState = .halfOpen ∧
    ((∃ reason stored, resetProviderQualityCircuit reason stored = .ok state) ∨
      ∃ metrics before now, (evaluate policy metrics before now).toState = state ∧ policy.enabled ∧
        policy.minimumSamples ≤ metrics.measurementCount ∧ ¬ Fails policy metrics)

/-- The circuit after a list of evaluations with their times. -/
def evaluateAll (evaluations : List (Metrics × ℤ)) : State :=
  evaluations.foldl (fun state evaluation => (evaluate policy evaluation.1 state evaluation.2).toState) state

variable {policy metrics state now} {trials : List (Metrics × ℤ)}

/-- A failing trial counts one more breach, and opens the circuit if that reaches the threshold. -/
theorem evaluate_failing (hau : policy.autoCircuitBreaker) (hhalf : state.circuitState = .halfOpen)
    (h : Fails policy metrics) : (evaluate policy metrics state now).toState =
      if policy.circuitFailureThreshold ≤ state.consecutiveBreaches + 1 then
        ⟨.opened, some (now + policy.circuitOpenDuration), state.consecutiveBreaches + 1, 0⟩
      else ⟨.halfOpen, state.circuitOpenUntil, state.consecutiveBreaches + 1, 0⟩ := by
  obtain ⟨hen, hsm, hbr⟩ := h
  simp [evaluate, evaluateCircuit, State.afterOpen, hau, hen, hsm, hbr, hhalf]

theorem evaluateAll_append (last : Metrics × ℤ) : evaluateAll policy state (trials ++ [last]) =
    (evaluate policy last.1 (evaluateAll policy state trials) last.2).toState := by
  simp only [evaluateAll, List.foldl_append, List.foldl_cons, List.foldl_nil]

/-- Failing trials that do not reach the threshold leave the circuit half open. -/
theorem trials_stay (hau : policy.autoCircuitBreaker) (hhalf : state.circuitState = .halfOpen)
    (htr : ∀ trial ∈ trials, Fails policy trial.1)
    (hfw : state.consecutiveBreaches + trials.length < policy.circuitFailureThreshold) :
    (evaluateAll policy state trials).circuitState = .halfOpen ∧
      (evaluateAll policy state trials).consecutiveBreaches = state.consecutiveBreaches + trials.length := by
  induction trials generalizing state with
  | nil => simp [evaluateAll, hhalf]
  | cons trial rest ih =>
    obtain ⟨htrl, hrest⟩ := List.forall_mem_cons.mp htr
    rw [List.length_cons, Nat.cast_succ] at hfw ⊢
    rw [evaluateAll, List.foldl_cons, evaluate_failing hau hhalf htrl, if_neg (by omega)]
    refine (ih rfl hrest ?_).imp_right fun hcn => hcn.trans ?_
    · dsimp only
      omega
    · dsimp only
      omega

/-- Failing trials open the circuit with the one that reaches the threshold. -/
theorem trials_open_iff (hau : policy.autoCircuitBreaker) (hhalf : state.circuitState = .halfOpen)
    (hshort : state.consecutiveBreaches < policy.circuitFailureThreshold)
    (htr : ∀ trial ∈ trials, Fails policy trial.1)
    (hmost : state.consecutiveBreaches + trials.length ≤ policy.circuitFailureThreshold) :
    (evaluateAll policy state trials).circuitState = .opened ↔
      state.consecutiveBreaches + trials.length = policy.circuitFailureThreshold := by
  rcases hmost.lt_or_eq with hfw | hall
  · rw [(trials_stay hau hhalf htr hfw).1]
    exact iff_of_false (by decide) hfw.ne
  · refine iff_of_true ?_ hall
    -- all but the last trial leave the circuit half open, one breach short of the threshold
    rcases List.eq_nil_or_concat trials with rfl | ⟨before, last, rfl⟩
    · rw [List.length_nil, Nat.cast_zero] at hall
      omega
    · rw [List.concat_eq_append] at htr ⊢
      obtain ⟨hbef, hlast⟩ := List.forall_mem_append.mp htr
      rw [List.length_concat, Nat.cast_succ] at hall
      obtain ⟨hsty, hcn⟩ := trials_stay hau hhalf hbef (by omega)
      rw [evaluateAll_append, evaluate_failing hau hsty (hlast last (List.mem_singleton_self last)),
        if_pos (by omega)]

/-- A restarted circuit has forgotten the breaches that opened it. -/
theorem Restarted.uncounted (hau : policy.autoCircuitBreaker) (h : Restarted policy state) :
    state.consecutiveBreaches = 0 := by
  obtain ⟨hhalf, ⟨reason, stored, hrs⟩ | ⟨metrics, before, now, rfl, hen, hsm, hok⟩⟩ := h
  · unfold resetProviderQualityCircuit at hrs
    split_ifs at hrs
    cases hrs
    rfl
  · have hnc : (collectBreaches policy metrics).any (·.critical) = false :=
      Bool.eq_false_iff.mpr fun hcr => hok ⟨hen, hsm, hcr⟩
    simp only [evaluate, hau, hen, decide_eq_true hsm, Bool.and_self, if_true, hnc] at hhalf ⊢
    simp only [evaluateCircuit, Bool.false_eq_true, if_false] at hhalf ⊢
    split_ifs at hhalf ⊢ with hop
    · exact absurd (hop.1.symm.trans hhalf) (by decide)
    · rfl

/-- A failing trial of a half-open circuit opens it again for the whole open time exactly if the breaker is automatic
and the trial completes the threshold of critical evaluations in a row. A recovery in the half-open time and a reset
set their count to zero, so that from there it takes as many failing trials as the threshold says. -/
theorem failed_trials_reopen (policy : Policy) :
    (∀ metrics state now, state.circuitState = .halfOpen → Fails policy metrics →
      ((evaluate policy metrics state now).circuitState = .opened ∧
          (evaluate policy metrics state now).circuitOpenUntil = some (now + policy.circuitOpenDuration) ↔
        policy.autoCircuitBreaker ∧ policy.circuitFailureThreshold ≤ state.consecutiveBreaches + 1)) ∧
    (∀ (state : State) (trials : List (Metrics × ℤ)), policy.autoCircuitBreaker → state.circuitState = .halfOpen →
      state.consecutiveBreaches < policy.circuitFailureThreshold →
      (∀ trial ∈ trials, Fails policy trial.1) →
      state.consecutiveBreaches + trials.length ≤ policy.circuitFailureThreshold →
      ((evaluateAll policy state trials).circuitState = .opened ↔
        state.consecutiveBreaches + trials.length = policy.circuitFailureThreshold)) ∧
    ∀ (state : State) (trials : List (Metrics × ℤ)), policy.autoCircuitBreaker → Restarted policy state →
      0 < policy.circuitFailureThreshold → (∀ trial ∈ trials, Fails policy trial.1) →
      trials.length ≤ policy.circuitFailureThreshold →
      ((evaluateAll policy state trials).circuitState = .opened ↔ trials.length = policy.circuitFailureThreshold) := by
  refine ⟨?_, ?_, ?_⟩
  · intro metrics state now hhalf hfl
    by_cases hau : policy.autoCircuitBreaker
    · rw [evaluate_failing hau hhalf hfl]
      split_ifs with hrc
      · exact iff_of_true ⟨rfl, rfl⟩ ⟨hau, hrc⟩
      · exact iff_of_false (fun hop => by simp at hop) fun h => hrc h.2
    · have hsame : (evaluate policy metrics state now).toState = state := by simp [evaluate, hau]
      rw [hsame, hhalf]
      exact iff_of_false (fun hop => by simp at hop) fun h => hau h.1
  · intro state trials hau hhalf hshort htr hmost
    exact trials_open_iff hau hhalf hshort htr hmost
  · intro state trials hau hrs hpos htr hmost
    have hzero := hrs.uncounted hau
    have hiff := trials_open_iff hau hrs.1 (by omega) htr (by omega)
    rwa [hzero, zero_add] at hiff

/-- Two failures open the circuit; after a recovery one failed trial leaves it half open. -/
theorem failed_trial_stays_half_open : ∃ (policy : Policy) (good bad : Metrics), policy.circuitFailureThreshold = 2 ∧
    ([(bad, 0), (bad, 1), (good, 20), (bad, 21)].scanl (fun state (evaluation : Metrics × ℤ) =>
      (evaluate policy evaluation.1 state evaluation.2).toState) ⟨.closed, none, 0, 0⟩).map State.circuitState =
      [.closed, .closed, .opened, .halfOpen, .halfOpen] :=
  ⟨⟨true, 1, 99, 1, 1, 100, 100, 1, 50, true, 2, 2, 10⟩, ⟨1, 100, 0, 0, none, none, none, 100, 100, 100⟩,
    ⟨1, 0, 100, 0, none, none, none, 100, 100, 100⟩, rfl, by decide +kernel⟩

end ModelDock.Quality
