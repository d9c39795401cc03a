import ModelDock.Routing.Policy
import ModelDock.Routing.Selection

/-!
# Resolving a route

A route is reached by its exact alias or as a candidate of a rule. The two ways apply the traffic ramp differently,
and a stored rule loses the price ceilings that were given as numbers.
-/

namespace ModelDock.Routing

open Text

/-- What the quality tables hold of a provider. -/
structure ProviderQuality where
  /-- Whether the policy and its ramp are enabled. -/
  policy : Option (Bool × Bool)
  /-- The traffic cap of the state. -/
  trafficCapBps : Option ℤ
  supplierLinked : Bool

variable (digest : String → ℕ) (requestId : String)

/-- The bucket of a request; the digest is the first eight bytes of SHA-256. -/
def rampBucket (providerId routeId : String) : ℕ :=
  digest (requestId ++ "\x00" ++ providerId ++ "\x00" ++ routeId) % 10000

/-- Whether a request is within a traffic cap. -/
def qualityTrafficAdmitted (providerId routeId : String) (capBps : ℤ) : Bool :=
  if 10000 ≤ capBps || requestId == "" then true
  else if capBps ≤ 0 then false
  else rampBucket digest requestId providerId routeId < capBps

/-- The traffic cap of a candidate; there is none to read where the policy is enabled without a state. -/
def ProviderQuality.candidateCap (quality : ProviderQuality) : Option ℤ :=
  if quality.policy.any (·.1) then quality.trafficCapBps else some 10000

/-- Whether a request is within the ramp of its provider. -/
def providerQualityTrafficAdmitted (quality : ProviderQuality) (providerId routeId : String) : Bool :=
  if requestId == "" then true
  else
    match quality.policy, quality.trafficCapBps with
    | some (enabled, rampEnabled), some capBps =>
      if !enabled || !rampEnabled || !quality.supplierLinked then true
      else qualityTrafficAdmitted digest requestId providerId routeId capBps
    | _, _ => true

variable (quality : ProviderQuality) (providerId routeId modelRouteId : String)

/-- The ramp decision for a route that is reached by its alias. -/
def manualRamp : Option Bool :=
  quality.candidateCap.map fun _ =>
    providerQualityTrafficAdmitted digest requestId quality providerId modelRouteId

/-- The ramp decision for a route that is a candidate of a rule. -/
def candidateRamp : Option Bool :=
  quality.candidateCap.map (qualityTrafficAdmitted digest requestId providerId routeId)

/-- What makes the two decisions agree under a policy that is enabled and a cap that is not full. -/
def RampAgrees (rampEnabled : Bool) (capBps : ℤ) : Prop :=
  if rampEnabled && quality.supplierLinked then
    capBps ≤ 0 ∨ ((rampBucket digest requestId providerId modelRouteId : ℤ) < capBps ↔
      (rampBucket digest requestId providerId routeId : ℤ) < capBps)
  else (rampBucket digest requestId providerId routeId : ℤ) < capBps

/-- The alias path and the rule path decide alike exactly when the request has no identifier, no cap applies, or the
ramp is in force on both paths and the two route identifiers fall on the same side of the cap. -/
theorem manualRamp_eq_candidateRamp_iff : manualRamp digest requestId quality providerId modelRouteId =
        candidateRamp digest requestId quality providerId routeId ↔
      requestId = "" ∨ ∀ rampEnabled, quality.policy = some (true, rampEnabled) →
        ∀ capBps ∈ quality.trafficCapBps, 10000 ≤ capBps ∨
          RampAgrees digest requestId quality providerId routeId modelRouteId rampEnabled capBps := by
  by_cases hrq : requestId = ""
  · cases hcap : quality.candidateCap <;>
      simp [manualRamp, candidateRamp, providerQualityTrafficAdmitted, qualityTrafficAdmitted, hrq, hcap]
  simp only [manualRamp, candidateRamp, ProviderQuality.candidateCap, providerQualityTrafficAdmitted, hrq]
  cases hpl : quality.policy with
  | none => simp [qualityTrafficAdmitted]
  | some policy =>
    obtain ⟨enabled, rampEnabled⟩ := policy
    cases enabled with
    | false => cases quality.trafficCapBps <;> simp [qualityTrafficAdmitted]
    | true =>
      cases quality.trafficCapBps with
      | none => simp
      | some capBps =>
        by_cases hfull : 10000 ≤ capBps
        · simp [qualityTrafficAdmitted, hfull]
        by_cases hem : capBps ≤ 0
        · have hbk : ¬((rampBucket digest requestId providerId routeId : ℤ) < capBps) := by omega
          cases rampEnabled <;> cases hln : quality.supplierLinked <;>
            simp [qualityTrafficAdmitted, RampAgrees, hrq, hem, hln, hbk]
        · cases rampEnabled <;> cases hln : quality.supplierLinked <;>
            simp [qualityTrafficAdmitted, RampAgrees, hrq, hfull, hem, hln]

/-- With the ramp switched off the alias is admitted and the candidate is held to the cap. -/
theorem manualRamp_bypasses_cap : let quality : ProviderQuality := ⟨some (true, false), some 0, true⟩
    manualRamp (fun _ => 0) "request" quality "provider" "model" = some true ∧
      candidateRamp (fun _ => 0) "request" quality "provider" "route" = some false := by
  decide

variable (go : Runtime)

mutual

/-- A value as it comes back from the store: every number is a floating-point one. -/
def Value.unmarshal : Value → Value
  | .number digits => .float (go.roundFloat ((go.ratOf digits).getD 0))
  | .integer value => .float (go.roundFloat value)
  | .strings values => .list (values.map .text)
  | .list values => .list (unmarshalAll values)
  | .object fields => .object (unmarshalFields fields)
  | value => value

/-- The values of a stored list. -/
def Value.unmarshalAll : List Value → List Value
  | [] => []
  | value :: rest => value.unmarshal :: unmarshalAll rest

/-- The fields of a stored object. -/
def Value.unmarshalFields : List (String × Value) → List (String × Value)
  | [] => []
  | (key, value) :: rest => (key, value.unmarshal) :: unmarshalFields rest

end

variable (rule : RoutingRule) (endpoint : String)

/-- A rule as it is read back. -/
def scanRoutingRule : RoutingRule :=
  { rule with config := Value.unmarshalFields go rule.config }

/-- The model type that an endpoint serves. -/
def endpointModelType : Option Value :=
  if endpoint = "/embeddings" then some (.text "embedding")
  else if endpoint = "/responses" ∨ endpoint = "/chat/completions" then some (.text "text")
  else none

/-- The configuration under which a rule is applied to a request that has no policy of its own. -/
def requestConfig : Config :=
  let config := if (rule.config.lookup "model_type").isSome then rule.config
    else rule.config.setSome "model_type" (endpointModelType endpoint)
  if go.equalFold (trimSpace rule.ruleAlias) "auto:free" then config.set "free_only" (.flag true) else config

/-- Why no route is found. -/
inductive RouteError
  | notFound
  | rampLimited
  deriving DecidableEq

/-- The routes that are admitted and match, and whether the ramp held one of them back. -/
def routingCandidates (admitted : ScoredCandidate → Bool) (config : Config) (rows : List ScoredCandidate) :
    List ScoredCandidate × Bool :=
  let matching := rows.filter fun c => admitted c && candidateMatches go c.toRouteCandidate config
  let within (c : ScoredCandidate) := qualityTrafficAdmitted digest requestId c.providerId c.id c.trafficCapBps
  (matching.filter within, matching.any fun c => !within c)

/-- The route that a stored rule selects. -/
def resolveByRule (round : Rounding) (admitted : ScoredCandidate → Bool) (rule : RoutingRule) (endpoint : String)
    (rows : List ScoredCandidate) : Except RouteError ScoredCandidate :=
  let rule := scanRoutingRule go rule
  let config := requestConfig go rule endpoint
  let (candidates, rampLimited) := routingCandidates digest requestId go admitted config rows
  if candidates.isEmpty && rampLimited then .error .rampLimited
  else
    match chooseCandidate go round candidates { rule with config } with
    | some selected => .ok selected
    | none => .error .notFound

variable {go} {rule : RoutingRule} {key endpoint : String}

theorem get_unmarshalFields (config : Config) :
    Config.get (Value.unmarshalFields go config) key = (config.get key).unmarshal go := by
  induction config with
  | nil => rfl
  | cons field _ ih =>
    obtain ⟨name, _⟩ := field
    have hread (fields : Config) (stored : Value) : Config.get ((name, stored) :: fields) key =
        if key = name then stored else fields.get key := Config.get_set fields name key stored
    rw [Value.unmarshalFields, hread, hread, ih]
    split <;> rfl

/-- The maximum that a value of a rule denotes. -/
def Value.maximum (go : Runtime) : Value → Option ℚ
  | .float value => some value
  | value => configDecimal go value

/-- The value is a number and not a text. -/
def Value.isNumber : Value → Bool
  | .number _ | .integer _ | .float _ => true
  | _ => false

theorem configDecimal_unmarshal (value : Value) :
    configDecimal go (value.unmarshal go) = if value.isNumber then none else value.maximum go := by
  cases value <;> simp [Value.unmarshal, configDecimal, Value.isNumber, Value.maximum]

/-- The demands of a stored rule, whatever the endpoint. -/
def storedCriteria (go : Runtime) (rule : RoutingRule) : Criteria :=
  (requestConfig go (scanRoutingRule go rule) "").criteria go

theorem requestConfig_criteria (go : Runtime) (rule : RoutingRule) (endpoint : String) : ∃ modelType,
    (requestConfig go (scanRoutingRule go rule) endpoint).criteria go =
      { storedCriteria go rule with modelType } := by
  refine ⟨((requestConfig go (scanRoutingRule go rule) endpoint).get "model_type").toText, ?_⟩
  simp only [storedCriteria, requestConfig, Config.criteria]
  split <;> split <;> simp

theorem storedCriteria_ceilings (go : Runtime) (rule : RoutingRule) : (storedCriteria go rule).maxInput =
        configDecimal go ((rule.config.get "max_input_price").unmarshal go) ∧
      (storedCriteria go rule).maxOutput =
        configDecimal go ((rule.config.get "max_output_price").unmarshal go) := by
  simp only [storedCriteria, requestConfig, Config.criteria, ← get_unmarshalFields]
  split <;> split <;> simp [scanRoutingRule]

/-- A price is known and within the maximum that a rule was given under a key. -/
def WithinMaximum (go : Runtime) (rule : RoutingRule) (key : String) (hasPrice : Bool) (price : ℚ) : Prop :=
  ∀ maximum ∈ (rule.config.get key).maximum go, hasPrice ∧ price ≤ maximum

/-- Every route that the stored rule selects is within the maxima that the rule was given. -/
def CeilingsKept (go : Runtime) (rule : RoutingRule) : Prop :=
  ∀ digest requestId round admitted endpoint rows selected,
    resolveByRule digest requestId go round admitted rule endpoint rows = .ok selected →
      WithinMaximum go rule "max_input_price" selected.hasPrice selected.inputPrice ∧
        WithinMaximum go rule "max_output_price" selected.hasPrice selected.outputPrice

theorem resolveByRule_accepts {digest : String → ℕ} {requestId : String} {round : Rounding}
    {admitted : ScoredCandidate → Bool} {rows : List ScoredCandidate} {selected : ScoredCandidate}
    (h : resolveByRule digest requestId go round admitted rule endpoint rows = .ok selected) :
    ∃ modelType, ({ storedCriteria go rule with modelType } : Criteria).Accepts go selected.toRouteCandidate := by
  simp only [resolveByRule] at h
  split at h
  · cases h
  split at h
  · next _ hch =>
    obtain rfl := Except.ok.inj h
    obtain ⟨candidate, hmem, rfl⟩ := chooseCandidate_mem hch
    have hmt : candidateMatches go candidate.toRouteCandidate
        (requestConfig go (scanRoutingRule go rule) endpoint) := by
      simp only [routingCandidates, List.mem_filter, Bool.and_eq_true] at hmem
      exact hmem.1.2.2
    obtain ⟨modelType, hcr⟩ := requestConfig_criteria go rule endpoint
    exact ⟨modelType, hcr ▸ (candidateMatches_iff _ _).mp hmt⟩
  · cases h

/-- A priced route that the stored rule admits is selected where there is no other. -/
theorem resolveByRule_of_accepts {c : RouteCandidate} (hpr : c.hasPrice)
    (h : (storedCriteria go rule).Accepts go c) : ∃ rows selected,
      resolveByRule (fun _ => 0) "" go .exact (fun _ => true) rule "" rows = .ok selected ∧
        selected.toRouteCandidate = c := by
  let row : ScoredCandidate := ⟨c, "", "", "", 0, 0, 1, 10000, 0⟩
  have hmt := (candidateMatches_iff _ _).mpr h
  have hcan : routingCandidates (fun _ => 0) "" go (fun _ => true)
      (requestConfig go (scanRoutingRule go rule) "") [row] = ([row], false) := by
    simp [routingCandidates, row, hmt, qualityTrafficAdmitted]
  have hel (config : Config) : eligibleCandidates { scanRoutingRule go rule with config } [row] = [row] := by
    unfold eligibleCandidates
    split <;> simp [row, hpr]
  refine ⟨[row], ?_⟩
  simp only [resolveByRule, hcan, chooseCandidate_eq, hel]
  exact ⟨_, rfl, rfl⟩

/-- No maximum of a rule is given as a number. -/
def TextualCeilings (go : Runtime) (rule : RoutingRule) : Prop :=
  ∀ key ∈ ["max_input_price", "max_output_price"], ∀ _maximum ∈ (rule.config.get key).maximum go,
    (rule.config.get key).isNumber = false

theorem withinMaximum_of_text {hasPrice : Bool} {price : ℚ} (htext : ∀ _maximum ∈ (rule.config.get key).maximum go,
      (rule.config.get key).isNumber = false)
    (h : ∀ ceiling ∈ configDecimal go ((rule.config.get key).unmarshal go), hasPrice ∧ price ≤ ceiling) :
    WithinMaximum go rule key hasPrice price := by
  intro maximum hmax
  refine h maximum ?_
  rw [configDecimal_unmarshal, htext maximum hmax]
  exact hmax

theorem CeilingsKept.within (h : CeilingsKept go rule) {c : RouteCandidate} (hpr : c.hasPrice)
    (hc : (storedCriteria go rule).Accepts go c) :
    WithinMaximum go rule "max_input_price" true c.inputPrice ∧
      WithinMaximum go rule "max_output_price" true c.outputPrice := by
  obtain ⟨_, _, hsl, rfl⟩ := resolveByRule_of_accepts hpr hc
  exact hpr ▸ h _ _ _ _ _ _ _ hsl

theorem CeilingsKept.textual (h : CeilingsKept go rule) (hsat : (storedCriteria go rule).Satisfiable go)
    (hpaid : (storedCriteria go rule).freeOnly = false) : TextualCeilings go rule := by
  obtain ⟨name, hname, hls⟩ := hsat.exists_name
  have hpr := Criteria.probe_accepts hsat hname hls
  have hceil := storedCriteria_ceilings go rule
  have hin {c : RouteCandidate} := h.within (c := c)
  generalize storedCriteria go rule = k at hpaid hpr hceil hin
  intro key hkey maximum hmax
  by_contra hnum
  -- A ceiling that was a number is not there, so that a dearer model is admitted.
  have hnone : configDecimal go ((rule.config.get key).unmarshal go) = none := by
    rw [configDecimal_unmarshal, if_pos (by simpa using hnum)]
  rcases List.mem_pair.mp hkey with rfl | rfl
  · have hdear := (hin (c := { k.probe name with inputPrice := maximum + 1 }) rfl
      { hpr with
        maxInput := by simp [hceil.1, hnone]
        free := by simp [hpaid] }).1 maximum hmax
    exact absurd hdear.2 (by simp)
  · have hdear := (hin (c := { k.probe name with outputPrice := maximum + 1 }) rfl
      { hpr with
        maxOutput := by simp [hceil.2, hnone]
        free := by simp [hpaid] }).2 maximum hmax
    exact absurd hdear.2 (by simp)

/-- The routes that a stored rule selects are within its maxima exactly when the rule admits no provider, admits free
models only, or gives no maximum as a number. -/
theorem ceilingsKept_iff (go : Runtime) (rule : RoutingRule)
    (hnonneg : ∀ key ∈ ["max_input_price", "max_output_price"],
      ∀ maximum ∈ (rule.config.get key).maximum go, 0 ≤ maximum) :
    CeilingsKept go rule ↔ ((storedCriteria go rule).Satisfiable go →
      (storedCriteria go rule).freeOnly ∨ TextualCeilings go rule) := by
  refine ⟨fun h hsat => ?_, fun h digest requestId round admitted endpoint rows selected hsl => ?_⟩
  · cases hfree : (storedCriteria go rule).freeOnly with
    | true => exact .inl rfl
    | false => exact .inr (h.textual hsat hfree)
  · obtain ⟨_, hac⟩ := resolveByRule_accepts hsl
    have hceil := storedCriteria_ceilings go rule
    generalize storedCriteria go rule = k at h hac hceil
    have hsat := hac.satisfiable
    rcases h ⟨hsat.providers, hsat.free⟩ with hfree | htext
    · obtain ⟨hpr, hzero, hzr⟩ := hac.free hfree
      exact ⟨fun maximum hmax => ⟨hpr, hzero ▸ hnonneg _ (by simp) maximum hmax⟩,
        fun maximum hmax => ⟨hpr, hzr ▸ hnonneg _ (by simp) maximum hmax⟩⟩
    · exact ⟨withinMaximum_of_text (htext _ (by simp)) (hceil.1 ▸ hac.maxInput),
        withinMaximum_of_text (htext _ (by simp)) (hceil.2 ▸ hac.maxOutput)⟩

/-- A rule with a maximum for the price of input. -/
def cappedRule (maximum : Value) : RoutingRule :=
  { demoRule .balanced with config := [("max_input_price", maximum)] }

theorem ceilingsKept_iff_five : CeilingsKept asciiRuntime (cappedRule (.float 5)) ↔
      ((storedCriteria asciiRuntime (cappedRule (.float 5))).Satisfiable asciiRuntime →
        (storedCriteria asciiRuntime (cappedRule (.float 5))).freeOnly ∨
          TextualCeilings asciiRuntime (cappedRule (.float 5))) :=
  ceilingsKept_iff asciiRuntime (cappedRule (.float 5)) (by decide +kernel)

/-- A rule with the maximum five as a number selects a route that costs nine. -/
theorem resolveByRule_exceeds_number :
    (resolveByRule (fun _ => 0) "" asciiRuntime .exact (fun _ => true) (cappedRule (.float 5)) ""
        [demoRoute "a" 9 50 0 1]).toOption.map (·.inputPrice) = some 9 ∧
      (Config.get (cappedRule (.float 5)).config "max_input_price").maximum asciiRuntime = some 5 := by
  decide +kernel

end ModelDock.Routing
