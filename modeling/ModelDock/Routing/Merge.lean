import ModelDock.Routing.Policy

/-!
# Narrowing a workspace's policy by a request

The policy of a request is merged into that of its workspace field by field and matched. An empty list restricts
nothing, so two lists without a common entry admit everything.
-/

namespace ModelDock.Routing

open Text List

section Lists

variable (go : Runtime)

/-- The distinct normal forms of a list, without blanks. -/
def uniqueLower (values : List String) : List String :=
  values.foldl
    (fun out value =>
      let value := go.normalize value
      if value = "" then out else if value ∈ out then out else out ++ [value]) []

/-- The entries two lists share; a list without entries is no restriction. -/
def restrictiveStrings (left right : List String) : List String :=
  let left := uniqueLower go left
  let right := uniqueLower go right
  if left.isEmpty then right
  else if right.isEmpty then left
  else left.flatMap fun value =>
    right.filterMap fun candidate => if value = candidate then some value else none

end Lists

/-- A flag that may only be tightened. -/
def restrictiveBool (left right : Option Bool) (defaultValue : Bool) : Option Bool :=
  let value := left.getD defaultValue
  some (match left, right with
    | _, some false => false
    | none, some right => right
    | _, _ => value)

variable {go : Runtime}

/-- The lower of two ceilings. -/
def lowerDecimal (left right : Option (Decimal go)) : Option (Decimal go) :=
  match left, right with
  | none, _ => right
  | _, none => left
  | some lower, some higher => if lower.value ≤ higher.value then some lower else some higher

/-- Merge the policy of a request into that of its workspace, under the regions and the privacy
settings of the workspace. -/
def mergeProviderPolicies (workspace request : RequestProviderPolicy go)
    (allowedRegions : List String) (privacy : Config) : RequestProviderPolicy go where
  order := if request.order.isEmpty then workspace.order else request.order
  only := restrictiveStrings go workspace.only request.only
  ignore := uniqueLower go (workspace.ignore ++ request.ignore)
  allowFallbacks := restrictiveBool workspace.allowFallbacks request.allowFallbacks true
  requireParameters := workspace.requireParameters || request.requireParameters
  dataCollection :=
    if go.equalFold workspace.dataCollection "deny" || go.equalFold request.dataCollection "deny" ||
        go.equalFold (privacy.get "data_collection").toText "deny" then "deny"
    else if request.dataCollection != "" then request.dataCollection
    else workspace.dataCollection
  zdr := workspace.zdr || request.zdr || (privacy.get "zdr").toBool
  quantizations :=
    if request.quantizations.isEmpty then workspace.quantizations
    else restrictiveStrings go workspace.quantizations request.quantizations
  sort := if request.sort != "" then request.sort else workspace.sort
  preferredMinThroughput := request.preferredMinThroughput.or workspace.preferredMinThroughput
  preferredMaxLatencyMs := request.preferredMaxLatencyMs.or workspace.preferredMaxLatencyMs
  maxInputPrice := lowerDecimal workspace.maxInputPrice request.maxInputPrice
  maxOutputPrice := lowerDecimal workspace.maxOutputPrice request.maxOutputPrice
  requiredCapabilities := uniqueLower go (workspace.requiredCapabilities ++ request.requiredCapabilities)
  processingRegions := restrictiveStrings go
    (restrictiveStrings go workspace.processingRegions allowedRegions) request.processingRegions
  useSharedCapacity := restrictiveBool workspace.useSharedCapacity request.useSharedCapacity true

variable (go) in
/-- The configuration of a route that is named by its alias, before the policy is written: what the
endpoint and the requested model demand. -/
def endpointConfig (endpoint requestedModel : String) : Config :=
  let config : Config :=
    if endpoint = "/embeddings" then [("model_type", .text "embedding")]
    else if endpoint = "/responses" ∨ endpoint = "/chat/completions" then
      [("model_type", .text "text")]
    else []
  if go.equalFold (trimSpace requestedModel) "auto:free" then config.set "free_only" (.flag true)
  else config

/-- A value that two restrictions admit; a restriction without values is none. -/
def Meet (p q : String → Prop) (value : String) : Prop :=
  ((∀ other, ¬p other) ∨ p value) ∧ ((∀ other, ¬q other) ∨ q value) ∧ (p value ∨ q value)

/-- A normal form that a list names. -/
def Named (go : Runtime) (values : List String) (name : String) : Prop :=
  name ≠ "" ∧ ∃ value ∈ values, go.normalize value = name

variable {values left right : List String} {name : String}

theorem named_cons {value : String} : Named go (value :: values) name ↔
    name ≠ "" ∧ go.normalize value = name ∨ Named go values name := by
  simp only [Named, exists_mem_cons_iff, and_or_left]

theorem mem_uniqueLower : name ∈ uniqueLower go values ↔ Named go values name := by
  unfold uniqueLower
  -- The loop keeps what it has collected and adds what the rest names.
  have hloop (out : List String) : name ∈ values.foldl
      (fun out value =>
        let value := go.normalize value
        if value = "" then out else if value ∈ out then out else out ++ [value]) out ↔
      name ∈ out ∨ Named go values name := by
    induction values generalizing out with
    | nil => simp [Named]
    | cons value values ih =>
      rw [foldl_cons, ih, named_cons, ← or_assoc]
      refine or_congr_left ?_
      dsimp only
      split
      · next hbl => simp [hbl]
      · split
        · next hseen =>
          refine ⟨Or.inl, fun h => h.elim id fun hnm => hnm.2 ▸ hseen⟩
        · next hpr _ =>
          rw [mem_append, mem_singleton]
          refine or_congr_right ⟨fun h => ⟨h ▸ hpr, h.symm⟩, fun h => h.2.symm⟩
  simpa using hloop []

theorem uniqueLower_eq_nil : uniqueLower go values = [] ↔ ∀ name, ¬Named go values name := by
  simp only [eq_nil_iff_forall_not_mem, mem_uniqueLower]

theorem mem_restrictiveStrings :
    name ∈ restrictiveStrings go left right ↔ Meet (Named go left) (Named go right) name := by
  unfold restrictiveStrings Meet
  simp only [List.isEmpty_iff]
  split
  · next hleft =>
    have hnone := uniqueLower_eq_nil.mp hleft
    simp only [mem_uniqueLower, hnone, not_false_eq_true, implies_true, true_or, true_and, false_or]
    exact ⟨fun h => ⟨.inr h, h⟩, And.right⟩
  · next hleft =>
    have hsome : ¬∀ name, ¬Named go left name := fun h => hleft (uniqueLower_eq_nil.mpr h)
    split
    · next hrg =>
      have hnone := uniqueLower_eq_nil.mp hrg
      simp only [mem_uniqueLower, hnone, hsome, not_false_eq_true, implies_true, true_and, false_or,
        or_false, and_self]
    · next hrg =>
      have hne : ¬∀ name, ¬Named go right name := fun h => hrg (uniqueLower_eq_nil.mpr h)
      simp only [hsome, hne, false_or, List.mem_flatMap, List.mem_filterMap, mem_uniqueLower]
      refine ⟨?_, fun ⟨hone, htwo, _⟩ => ⟨name, hone, name, htwo, if_pos rfl⟩⟩
      rintro ⟨_, hva, _, hcan, heq⟩
      obtain ⟨rfl, hvl⟩ := Option.ite_none_right_eq_some.mp heq
      obtain rfl := Option.some_inj.mp hvl
      exact ⟨hva, hcan, .inl hva⟩

theorem named_restrictiveStrings :
    Named go (restrictiveStrings go left right) = Meet (Named go left) (Named go right) := by
  funext name
  have hnr {value : String} (h : Meet (Named go left) (Named go right) value) :
      value ≠ "" ∧ go.normalize value = value := by
    obtain ⟨hpr, source, -, rfl⟩ | ⟨hpr, source, -, rfl⟩ := h.2.2
    · exact ⟨hpr, go.normalize_normalize source⟩
    · exact ⟨hpr, go.normalize_normalize source⟩
  refine propext ⟨?_, fun h => ⟨(hnr h).1, name, mem_restrictiveStrings.mpr h, (hnr h).2⟩⟩
  rintro ⟨-, value, hvl, rfl⟩
  have hmeet := mem_restrictiveStrings.mp hvl
  rwa [(hnr hmeet).2]

/-- The names of providers that both policies allow. -/
def AllowedNames (workspace request : RequestProviderPolicy go) : String → Prop :=
  Meet (Named go workspace.only) (Named go request.only)

/-- A name that one of the policies ignores. -/
def isIgnored (workspace request : RequestProviderPolicy go) (name : String) : Bool :=
  containsFold go (uniqueLower go (workspace.ignore ++ request.ignore)) name

/-- The regions that the policies and the workspace's settings leave. -/
def AllowedRegions (workspace request : RequestProviderPolicy go) (allowedRegions : List String) :
    String → Prop :=
  Meet (Meet (Named go workspace.processingRegions) (Named go allowedRegions))
    (Named go request.processingRegions)

/-- The quantizations that both policies allow. -/
def AllowedQuantizations (workspace request : RequestProviderPolicy go) : String → Prop :=
  Meet (Named go workspace.quantizations) (Named go request.quantizations)

variable (workspace request : RequestProviderPolicy go) (allowedRegions : List String)

/-- The two policies together admit something: a name that both allow is not ignored, and where only
free models are wanted, no ceiling is below zero. -/
structure MergeAdmitsSome (freeOnly : Bool) : Prop where
  providers : (∀ name, ¬AllowedNames workspace request name) ∨
    ∃ name, AllowedNames workspace request name ∧ isIgnored workspace request name = false
  free : freeOnly → ∀ ceiling,
    ceiling ∈ workspace.maxInputPrice ∨ ceiling ∈ request.maxInputPrice ∨
      ceiling ∈ workspace.maxOutputPrice ∨ ceiling ∈ request.maxOutputPrice → 0 ≤ ceiling.value

/-- The request leaves a value on every list of the workspace, nothing it leaves is read differently
in lower case, and the throughput and latency it prefers are no laxer. -/
structure KeepsWorkspace : Prop where
  ignored : ∀ name ∈ workspace.ignore, isIgnored workspace request name
  providers : workspace.only = [] ∨
    (∃ name, AllowedNames workspace request name) ∧ ∀ name, AllowedNames workspace request name →
      isIgnored workspace request name = false → containsFold go workspace.only name
  required : ∀ capability ∈ workspace.requiredCapabilities, containsFold go
    (uniqueLower go (workspace.requiredCapabilities ++ request.requiredCapabilities)) capability
  quantizations : request.quantizations = [] ∨ workspace.quantizations = [] ∨
    (∃ name, AllowedQuantizations workspace request name) ∧
      ∀ name, AllowedQuantizations workspace request name →
        containsFold go workspace.quantizations name
  regions : workspace.processingRegions = [] ∨
    (∃ region, AllowedRegions workspace request allowedRegions region) ∧
      ∀ region, AllowedRegions workspace request allowedRegions region →
        intersectsFold go workspace.processingRegions [region]
  throughput : ∀ new ∈ request.preferredMinThroughput, ∀ old ∈ workspace.preferredMinThroughput,
    old.value ≤ new.value
  latency : ∀ new ∈ request.preferredMaxLatencyMs, ∀ old ∈ workspace.preferredMaxLatencyMs, new ≤ old

/-- The demands of a policy alone, for a kind of model. -/
def RequestProviderPolicy.demands (policy : RequestProviderPolicy go) (modelType : String)
    (freeOnly : Bool) : Criteria where
  modelType := modelType
  ignored := policy.ignore
  providers := policy.only
  required := policy.requiredCapabilities
  maxInput := policy.maxInputPrice.map Decimal.value
  maxOutput := policy.maxOutputPrice.map Decimal.value
  zdr := policy.zdr
  deny := go.equalFold policy.dataCollection "deny"
  quantizations := policy.quantizations
  regions := policy.processingRegions
  minThroughput := policy.preferredMinThroughput.map Decimal.value
  maxLatency := policy.preferredMaxLatencyMs
  freeOnly := freeOnly

theorem endpointConfig_get {endpoint requestedModel key : String} (hmd : key ≠ "model_type")
    (hfree : key ≠ "free_only") : (endpointConfig go endpoint requestedModel).get key = .null := by
  have hkind (kind : String) : Config.get [("model_type", .text kind)] key = .null := by
    simp [Config.get, lookup_cons, beq_false_of_ne hmd]
  unfold endpointConfig
  split <;> split <;> (try split) <;> simp [hfree, hkind]

theorem endpointConfig_freeOnly (endpoint requestedModel : String) :
    ((endpointConfig go endpoint requestedModel).get "free_only").toBool =
      go.equalFold (trimSpace requestedModel) "auto:free" := by
  have hkind (kind : String) : Config.get [("model_type", .text kind)] "free_only" = .null := rfl
  unfold endpointConfig
  split <;> split <;> (try split) <;> simp_all [Value.toBool]

theorem endpointConfig_demands (endpoint requestedModel : String) (policy : RequestProviderPolicy go) :
    (applyProviderPolicyConfig (endpointConfig go endpoint requestedModel) policy).criteria go =
      policy.demands ((endpointConfig go endpoint requestedModel).get "model_type").toText
        (go.equalFold (trimSpace requestedModel) "auto:free") := by
  have hlist (values : List String) : overriding values (configStrings .null) = values := by
    cases values <;> rfl
  have hrq : configStrings .null ++ policy.requiredCapabilities = policy.requiredCapabilities :=
    nil_append _
  have hdc (decimal : Option ℚ) : decimal.or (configDecimal go .null) = decimal := by
    cases decimal <;> rfl
  have hflag : (policy.zdr || Value.null.toBool) = policy.zdr := Bool.or_false _
  have hdeny : (if policy.dataCollection = "" then go.equalFold Value.null.toText "deny"
      else go.equalFold policy.dataCollection "deny") = go.equalFold policy.dataCollection "deny" := by
    split
    · next hcl => rw [hcl]; rfl
    · rfl
  have hlat : policy.preferredMaxLatencyMs.or (configInt64 go .null) =
      policy.preferredMaxLatencyMs := by
    cases policy.preferredMaxLatencyMs <;> rfl
  rw [applyProviderPolicyConfig_criteria]
  simp only [Config.criteria, Criteria.under, RequestProviderPolicy.demands, endpointConfig_freeOnly,
    endpointConfig_get, ne_eq, String.reduceEq, not_false_eq_true, hlist, hrq, hdc, hflag,
    hdeny, hlat]

variable {workspace request allowedRegions}

theorem restrictive_within {old new : List String} {p : String → Prop} {Q : String → Prop}
    (hmem : ∀ name, name ∈ new ↔ p name) :
    (old = [] ∨ new ≠ [] ∧ ∀ name ∈ new, Q name) ↔
      (old = [] ∨ (∃ name, p name) ∧ ∀ name, p name → Q name) := by
  simp only [ne_eq, eq_nil_iff_forall_not_mem, not_forall, not_not, hmem]

theorem lowerDecimal_nonneg {left right : Option (Decimal go)} :
    (∀ price ∈ (lowerDecimal left right).map Decimal.value, 0 ≤ price) ↔
      (∀ ceiling ∈ left, 0 ≤ ceiling.value) ∧ ∀ ceiling ∈ right, 0 ≤ ceiling.value := by
  rcases left with _ | _ <;> rcases right with _ | _
  · simp [lowerDecimal]
  · simp [lowerDecimal]
  · simp [lowerDecimal]
  · simp only [lowerDecimal]
    split <;> simp <;> grind

theorem lowerDecimal_within {left right : Option (Decimal go)} {free : Bool}
    (hfree : free → ∀ ceiling ∈ left, 0 ≤ ceiling.value) :
    CeilingWithin free ((lowerDecimal left right).map Decimal.value) (left.map Decimal.value) := by
  intro _ hpr
  obtain ⟨ceiling, hceil, rfl⟩ := Option.mem_map.mp hpr
  split
  · next hfr => exact hfree hfr ceiling hceil
  · obtain rfl := hceil
    rcases right with _ | other
    · exact ⟨ceiling.value, rfl, le_refl _⟩
    · simp only [lowerDecimal]
      split
      · exact ⟨ceiling.value, rfl, le_refl _⟩
      · next hlow => exact ⟨other.value, rfl, (not_le.mp hlow).le⟩

variable {modelType : String} {freeOnly : Bool} {privacy : Config}

variable (allowedRegions privacy) in
/-- The merged allow list has the names that both policies allow. -/
theorem mem_merge_only {name : String} :
    name ∈ (mergeProviderPolicies workspace request allowedRegions privacy).only ↔
      AllowedNames workspace request name := mem_restrictiveStrings

variable (allowedRegions privacy) in
/-- The merged regions are those that the policies and the settings leave. -/
theorem mem_merge_processingRegions {region : String} :
    region ∈ (mergeProviderPolicies workspace request allowedRegions privacy).processingRegions ↔
      AllowedRegions workspace request allowedRegions region := by
  unfold AllowedRegions
  rw [← named_restrictiveStrings]
  exact mem_restrictiveStrings

theorem merge_satisfiable_iff :
    ((mergeProviderPolicies workspace request allowedRegions privacy).demands modelType
        freeOnly).Satisfiable go ↔ MergeAdmitsSome workspace request freeOnly := by
  have hpr :
      ((mergeProviderPolicies workspace request allowedRegions privacy).only = [] ∨
        ∃ name ∈ (mergeProviderPolicies workspace request allowedRegions privacy).only,
          isIgnored workspace request name = false) ↔
      ((∀ name, ¬AllowedNames workspace request name) ∨
        ∃ name, AllowedNames workspace request name ∧ isIgnored workspace request name = false) := by
    simp only [eq_nil_iff_forall_not_mem, mem_merge_only]
  refine ⟨fun h => ⟨hpr.mp h.providers, fun hfree => ?_⟩,
    fun h => ⟨hpr.mpr h.providers, fun hfree => ?_⟩⟩
  · obtain ⟨hinpu, hou⟩ := h.free hfree
    obtain ⟨hinp, hino⟩ := lowerDecimal_nonneg.mp hinpu
    obtain ⟨hout, houo⟩ := lowerDecimal_nonneg.mp hou
    rintro ceiling (hceil | hceil | hceil | hceil)
    · exact hinp ceiling hceil
    · exact hino ceiling hceil
    · exact hout ceiling hceil
    · exact houo ceiling hceil
  · have hnn := h.free hfree
    exact ⟨lowerDecimal_nonneg.mpr
      ⟨fun ceiling hceil => hnn ceiling (.inl hceil),
        fun ceiling hceil => hnn ceiling (.inr (.inl hceil))⟩,
      lowerDecimal_nonneg.mpr
      ⟨fun ceiling hceil => hnn ceiling (.inr (.inr (.inl hceil))),
        fun ceiling hceil => hnn ceiling (.inr (.inr (.inr hceil)))⟩⟩

variable (allowedRegions privacy) in
/-- The quantizations of the workspace are kept where the request names none, or leaves some and
only such that pass. -/
theorem merge_quantizations_iff : (workspace.quantizations = [] ∨
      (mergeProviderPolicies workspace request allowedRegions privacy).quantizations ≠ [] ∧
      ∀ name ∈ (mergeProviderPolicies workspace request allowedRegions privacy).quantizations,
        containsFold go workspace.quantizations name) ↔
    (request.quantizations = [] ∨ workspace.quantizations = [] ∨
      (∃ name, AllowedQuantizations workspace request name) ∧
        ∀ name, AllowedQuantizations workspace request name →
          containsFold go workspace.quantizations name) := by
  simp only [mergeProviderPolicies, List.isEmpty_iff]
  by_cases hnone : request.quantizations = []
  · simp only [hnone, true_or, iff_true]
    exact or_iff_not_imp_left.mpr fun hls => ⟨hls, fun _ => containsFold_of_mem⟩
  · simp only [hnone, false_or]
    exact restrictive_within fun _ => mem_restrictiveStrings

theorem merge_within_iff (hadm : MergeAdmitsSome workspace request freeOnly) :
    ((mergeProviderPolicies workspace request allowedRegions privacy).demands modelType
        freeOnly).Within go (workspace.demands modelType freeOnly) ↔
      KeepsWorkspace workspace request allowedRegions := by
  have hth :
      (∀ minimum ∈ workspace.preferredMinThroughput.map Decimal.value,
        ∃ higher ∈ (request.preferredMinThroughput.or workspace.preferredMinThroughput).map
          Decimal.value, minimum ≤ higher) ↔
      ∀ new ∈ request.preferredMinThroughput, ∀ old ∈ workspace.preferredMinThroughput,
        old.value ≤ new.value := by
    rw [Option.map_or]
    exact (or_within (R := fun higher minimum => minimum ≤ higher) le_refl).trans (by simp)
  refine ⟨fun h =>
    { ignored := h.ignored
      providers := (restrictive_within fun _ => mem_merge_only allowedRegions privacy).mp h.providers
      required := h.required
      quantizations := (merge_quantizations_iff allowedRegions privacy).mp h.quantizations
      regions := (restrictive_within fun _ => mem_merge_processingRegions allowedRegions privacy).mp h.regions
      throughput := hth.mp h.throughput
      latency := (or_within le_refl).mp h.latency },
    fun h =>
    { ignored := h.ignored
      providers := (restrictive_within fun _ => mem_merge_only allowedRegions privacy).mpr h.providers
      required := h.required
      maxInput := lowerDecimal_within fun hfree ceiling hceil =>
        hadm.free hfree ceiling (.inl hceil)
      maxOutput := lowerDecimal_within fun hfree ceiling hceil =>
        hadm.free hfree ceiling (.inr (.inr (.inl hceil)))
      zdr := fun hzdr => ?_
      retention := fun hdeny => .inl ?_
      quantizations := (merge_quantizations_iff allowedRegions privacy).mpr h.quantizations
      regions := (restrictive_within fun _ => mem_merge_processingRegions allowedRegions privacy).mpr h.regions
      throughput := hth.mpr h.throughput
      latency := (or_within le_refl).mpr h.latency }⟩
  · have hown : workspace.zdr := hzdr
    simp [RequestProviderPolicy.demands, mergeProviderPolicies, hown]
  · have hown : go.equalFold workspace.dataCollection "deny" := hdeny
    simp [RequestProviderPolicy.demands, mergeProviderPolicies, hown]

variable (workspace request allowedRegions privacy) in
/-- The merged policy admits only what the workspace's own policy admits, exactly when it admits
nothing or the request keeps every control of the workspace. -/
theorem mergeProviderPolicies_narrows_iff (endpoint requestedModel : String) : (∀ c,
        candidateMatches go c (applyProviderPolicyConfig (endpointConfig go endpoint requestedModel)
          (mergeProviderPolicies workspace request allowedRegions privacy)) →
        candidateMatches go c (applyProviderPolicyConfig (endpointConfig go endpoint requestedModel)
          workspace)) ↔
      (MergeAdmitsSome workspace request (go.equalFold (trimSpace requestedModel) "auto:free") →
        KeepsWorkspace workspace request allowedRegions) := by
  simp only [candidateMatches_iff, endpointConfig_demands]
  generalize ((endpointConfig go endpoint requestedModel).get "model_type").toText = modelType
  generalize go.equalFold (trimSpace requestedModel) "auto:free" = freeOnly
  calc
    _ ↔ (((mergeProviderPolicies workspace request allowedRegions privacy).demands modelType
          freeOnly).Satisfiable go →
        ((mergeProviderPolicies workspace request allowedRegions privacy).demands modelType
          freeOnly).Within go (workspace.demands modelType freeOnly)) :=
      Criteria.accepts_imp_iff _ _ rfl rfl
    _ ↔ (MergeAdmitsSome workspace request freeOnly →
        ((mergeProviderPolicies workspace request allowedRegions privacy).demands modelType
          freeOnly).Within go (workspace.demands modelType freeOnly)) := by rw [merge_satisfiable_iff]
    _ ↔ _ := imp_congr_right merge_within_iff

/-- A workspace allows one provider and a request another: the two lists have nothing in common, and
a provider that neither of them names is admitted. -/
theorem mergeProviderPolicies_readmits :
    let workspace : RequestProviderPolicy asciiRuntime := { only := ["openai"] }
    let request : RequestProviderPolicy asciiRuntime := { only := ["anthropic"] }
    let config := endpointConfig asciiRuntime "/chat/completions" "mistral-large"
    candidateMatches asciiRuntime (demoCandidate "mistral")
        (applyProviderPolicyConfig config (mergeProviderPolicies workspace request [] [])) ∧
      candidateMatches asciiRuntime (demoCandidate "mistral")
        (applyProviderPolicyConfig config workspace) = false := by
  decide +kernel

end ModelDock.Routing
