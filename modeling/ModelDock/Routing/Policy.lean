import ModelDock.Routing.Criteria

/-!
# Applying a provider policy to a routing rule

The router writes the policy into the configuration of the routing rule. Lists, ceilings, floors and classes
replace those of the rule, so that a policy can admit again what the rule excludes.
-/

namespace ModelDock.Routing

open Text

/-- A decimal that passed the parser. -/
structure Decimal (go : Runtime) where
  text : String
  value : ℚ
  parsed : go.ratOf (trimSpace text) = some value

/-- The routing contract of a request or a workspace. -/
structure RequestProviderPolicy (go : Runtime) where
  order : List String := []
  only : List String := []
  ignore : List String := []
  allowFallbacks : Option Bool := none
  requireParameters : Bool := false
  dataCollection : String := ""
  zdr : Bool := false
  quantizations : List String := []
  sort : String := ""
  preferredMinThroughput : Option (Decimal go) := none
  preferredMaxLatencyMs : Option ℤ := none
  maxInputPrice : Option (Decimal go) := none
  maxOutputPrice : Option (Decimal go) := none
  requiredCapabilities : List String := []
  processingRegions : List String := []
  useSharedCapacity : Option Bool := none

/-- Write a key when there is something to write. -/
def Config.setSome (config : Config) (key : String) (value : Option Value) : Config :=
  value.elim config (config.set key)

/-- A value to write under a condition. -/
def given (condition : Bool) (value : Value) : Option Value := if condition then some value else none

/-- A list to write if it has entries. -/
def listed (values : List String) : Option Value := given (!values.isEmpty) (.strings values)

variable {go : Runtime}

/-- A decimal as the configuration holds it. -/
def Decimal.toValue (decimal : Decimal go) : Value := .text decimal.text

/-- Write a policy into the configuration of a rule. -/
def applyProviderPolicyConfig (config : Config) (policy : RequestProviderPolicy go) : Config :=
  let config := config.setSome "providers" (listed policy.only)
  let config := config.setSome "ignore_providers" (listed policy.ignore)
  let config := config.setSome "provider_order" (listed policy.order)
  let existing := configStrings (config.get "required_capabilities")
  let config := config.setSome "required_capabilities"
    (given (!policy.requiredCapabilities.isEmpty) (.strings (existing ++ policy.requiredCapabilities)))
  let config := config.setSome "max_input_price" (policy.maxInputPrice.map Decimal.toValue)
  let config := config.setSome "max_output_price" (policy.maxOutputPrice.map Decimal.toValue)
  let config := config.setSome "zdr" (given policy.zdr (.flag true))
  let config := config.setSome "data_collection"
    (given (policy.dataCollection != "") (.text policy.dataCollection))
  let config := config.setSome "quantizations" (listed policy.quantizations)
  let config := config.setSome "processing_regions" (listed policy.processingRegions)
  let config := config.setSome "preferred_min_throughput"
    (policy.preferredMinThroughput.map Decimal.toValue)
  config.setSome "preferred_max_latency_ms" (policy.preferredMaxLatencyMs.map .integer)

@[simp]
theorem Config.get_setSome (config : Config) (key other : String) (value : Option Value) :
    (config.setSome key value).get other =
      if other = key then value.getD (config.get other) else config.get other := by
  cases value <;> simp [setSome]

/-- The list of a policy, or the rule's list where the policy has none. -/
def overriding (policy rule : List String) : List String := if policy = [] then rule else policy

theorem configStrings_listed (values : List String) (rule : Value) :
    configStrings ((listed values).getD rule) = overriding values (configStrings rule) := by
  cases values <;> rfl

theorem configDecimal_map (decimal : Option (Decimal go)) (rule : Value) :
    configDecimal go ((decimal.map Decimal.toValue).getD rule) =
      (decimal.map Decimal.value).or (configDecimal go rule) := by
  cases decimal with
  | none => rfl
  | some decimal => exact decimal.parsed

/-- The demands of a rule under a policy. -/
def Criteria.under (k : Criteria) (policy : RequestProviderPolicy go) : Criteria where
  modelType := k.modelType
  ignored := overriding policy.ignore k.ignored
  providers := overriding policy.only k.providers
  required := k.required ++ policy.requiredCapabilities
  maxInput := (policy.maxInputPrice.map Decimal.value).or k.maxInput
  maxOutput := (policy.maxOutputPrice.map Decimal.value).or k.maxOutput
  zdr := policy.zdr || k.zdr
  deny := if policy.dataCollection = "" then k.deny else go.equalFold policy.dataCollection "deny"
  quantizations := overriding policy.quantizations k.quantizations
  regions := overriding policy.processingRegions k.regions
  minThroughput := (policy.preferredMinThroughput.map Decimal.value).or k.minThroughput
  maxLatency := policy.preferredMaxLatencyMs.or k.maxLatency
  freeOnly := k.freeOnly

theorem applyProviderPolicyConfig_criteria (config : Config) (policy : RequestProviderPolicy go) :
    (applyProviderPolicyConfig config policy).criteria go = (config.criteria go).under policy := by
  simp only [applyProviderPolicyConfig, Config.criteria, Criteria.under, Config.get_setSome,
    String.reduceEq, if_true, if_false, configStrings_listed, configDecimal_map, Criteria.mk.injEq,
    true_and, and_true]
  refine ⟨?_, ?_, ?_, ?_⟩
  · cases policy.requiredCapabilities with
    | nil => exact (List.append_nil _).symm
    | cons => rfl
  · cases policy.zdr <;> rfl
  · by_cases hcl : policy.dataCollection = "" <;> simp [given, hcl]
  · cases policy.preferredMaxLatencyMs <;> rfl

variable (k : Criteria) (policy : RequestProviderPolicy go)

/-- The rule admits something under the policy: some name passes the effective lists, and a free
model is below the effective ceilings. -/
structure AdmitsSome : Prop where
  providers : overriding policy.only k.providers = [] ∨
    ∃ name ∈ overriding policy.only k.providers,
      containsFold go (overriding policy.ignore k.ignored) name = false
  free : k.freeOnly →
    (∀ price ∈ (policy.maxInputPrice.map Decimal.value).or k.maxInput, 0 ≤ price) ∧
      ∀ price ∈ (policy.maxOutputPrice.map Decimal.value).or k.maxOutput, 0 ≤ price

/-- What a policy gives in place of a demand of the rule is at least as strict. -/
structure KeepsRule : Prop where
  ignored : policy.ignore = [] ∨ ∀ name ∈ k.ignored, containsFold go policy.ignore name
  providers : policy.only = [] ∨ k.providers = [] ∨ ∀ name ∈ policy.only,
    containsFold go (overriding policy.ignore k.ignored) name = false →
      containsFold go k.providers name
  maxInput : ∀ new ∈ policy.maxInputPrice, ∀ old ∈ k.maxInput,
    if k.freeOnly then 0 ≤ old else new.value ≤ old
  maxOutput : ∀ new ∈ policy.maxOutputPrice, ∀ old ∈ k.maxOutput,
    if k.freeOnly then 0 ≤ old else new.value ≤ old
  retention : k.deny → policy.dataCollection = "" ∨
    go.equalFold policy.dataCollection "deny" ∨ policy.zdr ∨ k.zdr
  quantizations : policy.quantizations = [] ∨ k.quantizations = [] ∨
    ∀ name ∈ policy.quantizations, containsFold go k.quantizations name
  regions : policy.processingRegions = [] ∨ k.regions = [] ∨
    ∀ region ∈ policy.processingRegions, intersectsFold go k.regions [region]
  throughput : ∀ new ∈ policy.preferredMinThroughput, ∀ old ∈ k.minThroughput, old ≤ new.value
  latency : ∀ new ∈ policy.preferredMaxLatencyMs, ∀ old ∈ k.maxLatency, new ≤ old

variable {k policy}

theorem ceilingWithin_or {new : Option (Decimal go)} {old : Option ℚ} {free : Bool}
    (hfree : free → ∀ price ∈ (new.map Decimal.value).or old, 0 ≤ price) :
    CeilingWithin free ((new.map Decimal.value).or old) old ↔
      ∀ decimal ∈ new, ∀ price ∈ old, if free then 0 ≤ price else decimal.value ≤ price := by
  cases new with
  | none =>
    refine ⟨fun _ => nofun, fun _ price hpr => ?_⟩
    split
    · next hfr => exact hfree hfr price hpr
    · exact ⟨price, hpr, le_refl _⟩
  | some decimal => simp [CeilingWithin]

theorem overriding_within {new old : List String} {P : String → Prop} (hself : ∀ name ∈ old, P name) :
    (old = [] ∨ overriding new old ≠ [] ∧ ∀ name ∈ overriding new old, P name) ↔
      new = [] ∨ old = [] ∨ ∀ name ∈ new, P name := by
  unfold overriding
  by_cases hnew : new = []
  · simp only [hnew, true_or, iff_true]
    exact or_iff_not_imp_left.mpr fun hold => ⟨hold, hself⟩
  · simp [hnew]

theorem overriding_ignored {new old : List String} :
    (∀ name ∈ old, containsFold go (overriding new old) name) ↔
      new = [] ∨ ∀ name ∈ old, containsFold go new name := by
  unfold overriding
  by_cases hnew : new = []
  · simpa [hnew] using fun name => containsFold_of_mem
  · simp [hnew]

theorem or_within {α : Type} {new old : Option α} {R : α → α → Prop} (hrefl : ∀ bound, R bound bound) :
    (∀ bound ∈ old, ∃ stricter ∈ new.or old, R stricter bound) ↔
      ∀ stricter ∈ new, ∀ bound ∈ old, R stricter bound := by
  cases new with
  | none => exact ⟨fun _ => nofun, fun _ bound hbd => ⟨bound, hbd, hrefl bound⟩⟩
  | some stricter => simp

theorem deny_under_iff : (k.deny → (k.under policy).deny ∨ (k.under policy).zdr) ↔
    (k.deny → policy.dataCollection = "" ∨
      go.equalFold policy.dataCollection "deny" ∨ policy.zdr ∨ k.zdr) := by
  refine imp_congr_right fun hdeny => ?_
  by_cases hcl : policy.dataCollection = "" <;> simp [Criteria.under, hcl, hdeny]

theorem under_within_iff (hadm : AdmitsSome k policy) : (k.under policy).Within go k ↔ KeepsRule k policy := by
  have hinp := ceilingWithin_or fun hfree => (hadm.free hfree).1
  have hout := ceilingWithin_or fun hfree => (hadm.free hfree).2
  have hrg (region : String) (hrg : region ∈ k.regions) :
      intersectsFold go k.regions [region] :=
    intersectsFold_iff.mpr
      ⟨region, hrg, region, List.mem_singleton_self _, go.equalFold_refl _⟩
  have hth : (∀ minimum ∈ k.minThroughput,
      ∃ higher ∈ (policy.preferredMinThroughput.map Decimal.value).or k.minThroughput,
        minimum ≤ higher) ↔
      ∀ new ∈ policy.preferredMinThroughput, ∀ old ∈ k.minThroughput, old ≤ new.value :=
    (or_within (R := fun higher minimum => minimum ≤ higher) le_refl).trans (by simp)
  exact ⟨fun h =>
    { ignored := overriding_ignored.mp h.ignored
      providers := (overriding_within fun _ hname _ => containsFold_of_mem hname).mp h.providers
      maxInput := hinp.mp h.maxInput
      maxOutput := hout.mp h.maxOutput
      retention := deny_under_iff.mp h.retention
      quantizations := (overriding_within fun _ => containsFold_of_mem).mp h.quantizations
      regions := (overriding_within hrg).mp h.regions
      throughput := hth.mp h.throughput
      latency := (or_within le_refl).mp h.latency },
    fun h =>
    { ignored := overriding_ignored.mpr h.ignored
      providers := (overriding_within fun _ hname _ => containsFold_of_mem hname).mpr h.providers
      required := fun _ hcap => containsFold_of_mem (List.mem_append_left _ hcap)
      maxInput := hinp.mpr h.maxInput
      maxOutput := hout.mpr h.maxOutput
      zdr := fun hzdr => by simp [Criteria.under, hzdr]
      retention := deny_under_iff.mpr h.retention
      quantizations := (overriding_within fun _ => containsFold_of_mem).mpr h.quantizations
      regions := (overriding_within hrg).mpr h.regions
      throughput := hth.mpr h.throughput
      latency := (or_within le_refl).mpr h.latency }⟩

/-- A rule under a policy admits only what the rule admits, exactly when it admits nothing or
everything the policy puts in place of the rule's own demands is at least as strict. -/
theorem applyProviderPolicyConfig_narrows_iff (config : Config) (policy : RequestProviderPolicy go) :
    (∀ c, candidateMatches go c (applyProviderPolicyConfig config policy) →
        candidateMatches go c config) ↔
      (AdmitsSome (config.criteria go) policy → KeepsRule (config.criteria go) policy) := by
  simp only [candidateMatches_iff, applyProviderPolicyConfig_criteria]
  have hadm : ((config.criteria go).under policy).Satisfiable go ↔
      AdmitsSome (config.criteria go) policy :=
    ⟨fun h => ⟨h.providers, h.free⟩, fun h => ⟨h.providers, h.free⟩⟩
  calc
    _ ↔ (((config.criteria go).under policy).Satisfiable go →
        ((config.criteria go).under policy).Within go (config.criteria go)) :=
      Criteria.accepts_imp_iff _ _ rfl rfl
    _ ↔ (AdmitsSome (config.criteria go) policy →
        ((config.criteria go).under policy).Within go (config.criteria go)) := by rw [hadm]
    _ ↔ _ := imp_congr_right under_within_iff

/-- A provider with one name and no price. -/
def demoCandidate (name : String) : RouteCandidate where
  providerId := name
  providerType := name
  providerSlug := name
  modelType := "text"
  capabilities := []
  inputPrice := 0
  outputPrice := 0
  hasPrice := false
  providerConfig := []
  dataRetention := "30 days"
  processingRegions := []
  throughput := 0
  p95LatencyMs := none

/-- A rule admits one provider only; under a policy that names another one, the other is admitted. -/
theorem applyProviderPolicyConfig_readmits : let rule : Config := [("providers", .list [.text "openai"])]
    let policy : RequestProviderPolicy asciiRuntime := { only := ["anthropic"] }
    candidateMatches asciiRuntime (demoCandidate "anthropic") (applyProviderPolicyConfig rule policy) =
        true ∧
      candidateMatches asciiRuntime (demoCandidate "anthropic") rule = false := by
  decide +kernel

end ModelDock.Routing
