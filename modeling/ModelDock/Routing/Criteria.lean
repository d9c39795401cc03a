import Mathlib.Algebra.Order.Ring.Rat
import ModelDock.Routing.Config

/-!
# What a configuration demands, and when one demands at least as much as another

A configuration is read into `Criteria`. One admits only candidates of another exactly when it admits none, or
each of its demands implies the other's; the deny list can empty the allow list, and free models cost nothing.
-/

namespace ModelDock.Routing

open Text RouteCandidate List Option

variable {free : Bool} {first second : Option ℚ}

/-- The demands of a configuration. -/
structure Criteria where
  modelType : String
  (ignored providers required : List String)
  (maxInput maxOutput : Option ℚ)
  (zdr deny : Bool)
  (quantizations regions : List String)
  minThroughput : Option ℚ
  maxLatency : Option ℤ
  freeOnly : Bool

/-- The demands that the matcher reads from a configuration. -/
def Config.criteria (go : Runtime) (config : Config) : Criteria where
  modelType := (config.get "model_type").toText
  ignored := configStrings (config.get "ignore_providers")
  providers := configStrings (config.get "providers")
  required := configStrings (config.get "required_capabilities")
  maxInput := configDecimal go (config.get "max_input_price")
  maxOutput := configDecimal go (config.get "max_output_price")
  zdr := (config.get "zdr").toBool
  deny := go.equalFold (config.get "data_collection").toText "deny"
  quantizations := configStrings (config.get "quantizations")
  regions := configStrings (config.get "processing_regions")
  minThroughput := configDecimal go (config.get "preferred_min_throughput")
  maxLatency := configInt64 go (config.get "preferred_max_latency_ms")
  freeOnly := (config.get "free_only").toBool

/-- The names a provider can be listed under. -/
def RouteCandidate.names (c : RouteCandidate) : List String :=
  [c.providerSlug, c.providerId, c.providerType]

theorem RouteCandidate.exists_mem_names {c : RouteCandidate} {P : String → Prop} :
    (∃ name ∈ c.names, P name) ↔ P c.providerSlug ∨ P c.providerId ∨ P c.providerType := by
  simp [names]

variable {go : Runtime}

/-- A candidate meets every demand. -/
@[mk_iff]
structure Criteria.Accepts (go : Runtime) (k : Criteria) (c : RouteCandidate) : Prop where
  modelType : k.modelType = "" ∨ go.equalFold k.modelType c.modelType
  ignored : ∀ name ∈ c.names, containsFold go k.ignored name = false
  providers : k.providers = [] ∨ ∃ name ∈ c.names, containsFold go k.providers name
  required : ∀ capability ∈ k.required, containsFold go c.capabilities capability
  maxInput : ∀ price ∈ k.maxInput, c.hasPrice ∧ c.inputPrice ≤ price
  maxOutput : ∀ price ∈ k.maxOutput, c.hasPrice ∧ c.outputPrice ≤ price
  zdr : k.zdr → providerConfigBool c.providerConfig "zdr"
  retention : k.deny → providerMayRetain go c.dataRetention c.providerConfig = false
  quantization : k.quantizations = [] ∨
    containsFold go k.quantizations (providerConfigString c.providerConfig "quantization")
  regions : k.regions = [] ∨ intersectsFold go k.regions c.processingRegions
  throughput : ∀ minimum ∈ k.minThroughput, minimum ≤ c.throughput
  latency : ∀ maximum ∈ k.maxLatency, ∃ latency ∈ c.p95LatencyMs, latency ≤ maximum
  free : k.freeOnly → c.hasPrice ∧ c.inputPrice = 0 ∧ c.outputPrice = 0

theorem check_else_iff {check rest : Bool} :
    (if check then false else rest) ↔ check = false ∧ rest := by
  cases check <;> simp

theorem candidateMatches_iff (c : RouteCandidate) (config : Config) :
    candidateMatches go c config ↔ (config.criteria go).Accepts go c := by
  simp only [candidateMatches, check_else_iff, Criteria.accepts_iff, Config.criteria]
  refine and_congr ?_ (and_congr ?_ (and_congr ?_ (and_congr ?_ (and_congr ?_ (and_congr ?_
    (and_congr ?_ (and_congr ?_ (and_congr ?_ (and_congr ?_ (and_congr ?_ (and_congr ?_ ?_)))))))))))
  · simp [or_iff_not_imp_left]
  · simp [names, and_comm]
  · simp [exists_mem_names, or_iff_not_imp_left]
  · simp
  · simp [Option.any_eq_false]
  · simp [Option.any_eq_false]
  · simp
  · simp
  · simp [or_iff_not_imp_left]
  · simp [or_iff_not_imp_left]
  · simp [Option.any_eq_false]
  · simp [Option.any_eq_false, Option.any_eq_true]
  · simp [and_assoc]

variable {values others : List String} {name other : String}

theorem containsFold_iff :
    containsFold go values name ↔ ∃ value ∈ values, go.equalFold value name :=
  any_eq_true

theorem containsFold_of_mem (h : name ∈ values) : containsFold go values name :=
  containsFold_iff.mpr ⟨name, h, go.equalFold_refl name⟩

theorem containsFold_congr (h : go.equalFold name other) :
    containsFold go values name = containsFold go values other := by
  have hone {first second : String} (heq : go.equalFold first second)
      (hcn : containsFold go values first) : containsFold go values second := by
    obtain ⟨value, hvl, hsame⟩ := containsFold_iff.mp hcn
    exact containsFold_iff.mpr ⟨value, hvl, go.equalFold_trans hsame heq⟩
  exact Bool.eq_iff_iff.mpr ⟨hone h, hone (go.equalFold_comm name other ▸ h)⟩

theorem containsFold_trans (h : containsFold go values name) (hsub : ∀ value ∈ values, containsFold go others value) :
    containsFold go others name := by
  obtain ⟨value, hvl, heq⟩ := containsFold_iff.mp h
  exact containsFold_congr heq ▸ hsub value hvl

theorem exists_not_containsFold (values others : List String) :
    ∃ name, containsFold go values name = false ∧ containsFold go others name = false := by
  obtain ⟨fresh, hfr⟩ := go.exists_fresh (values ++ others)
  refine ⟨fresh, ?_, ?_⟩
  · exact any_eq_false.mpr fun value hvl => by
      simp [hfr value (mem_append_left _ hvl)]
  · exact any_eq_false.mpr fun value hvl => by
      simp [hfr value (mem_append_right _ hvl)]

theorem intersectsFold_iff : intersectsFold go values others ↔
    ∃ a ∈ values, ∃ b ∈ others, go.equalFold (trimSpace a) (trimSpace b) := by
  simp [intersectsFold]

/-- Some provider passes both name lists, and a free model can be below the price ceilings. -/
structure Criteria.Satisfiable (go : Runtime) (k : Criteria) : Prop where
  providers : k.providers = [] ∨ ∃ name ∈ k.providers, containsFold go k.ignored name = false
  free : k.freeOnly → (∀ price ∈ k.maxInput, 0 ≤ price) ∧ ∀ price ∈ k.maxOutput, 0 ≤ price

/-- The first ceiling is at most the second; where only free models pass, a ceiling below zero is the
only one that matters. -/
def CeilingWithin (free : Bool) (a b : Option ℚ) : Prop :=
  ∀ price ∈ b, if free then 0 ≤ price else ∃ lower ∈ a, lower ≤ price

/-- Each of the first demands implies the second's. -/
structure Criteria.Within (go : Runtime) (a b : Criteria) : Prop where
  ignored : ∀ name ∈ b.ignored, containsFold go a.ignored name
  providers : b.providers = [] ∨ a.providers ≠ [] ∧ ∀ name ∈ a.providers,
    containsFold go a.ignored name = false → containsFold go b.providers name
  required : ∀ capability ∈ b.required, containsFold go a.required capability
  maxInput : CeilingWithin a.freeOnly a.maxInput b.maxInput
  maxOutput : CeilingWithin a.freeOnly a.maxOutput b.maxOutput
  zdr : b.zdr → a.zdr
  retention : b.deny → a.deny ∨ a.zdr
  quantizations : b.quantizations = [] ∨ a.quantizations ≠ [] ∧
    ∀ name ∈ a.quantizations, containsFold go b.quantizations name
  regions : b.regions = [] ∨ a.regions ≠ [] ∧
    ∀ region ∈ a.regions, intersectsFold go b.regions [region]
  throughput : ∀ minimum ∈ b.minThroughput, ∃ higher ∈ a.minThroughput, minimum ≤ higher
  latency : ∀ maximum ∈ b.maxLatency, ∃ lower ∈ a.maxLatency, lower ≤ maximum

variable {a b : Criteria} {c : RouteCandidate}

theorem CeilingWithin.le {hasPrice : Bool} {price : ℚ} (h : CeilingWithin free first second)
    (hpr : ∀ ceiling ∈ first, hasPrice ∧ price ≤ ceiling) (hfree : free → hasPrice ∧ price = 0) :
    ∀ ceiling ∈ second, hasPrice ∧ price ≤ ceiling := by
  intro ceiling hceil
  have hin := h ceiling hceil
  split at hin
  · next hfr =>
    obtain ⟨hpric, hzero⟩ := hfree hfr
    exact ⟨hpric, hzero ▸ hin⟩
  · obtain ⟨lower, hlow, hle⟩ := hin
    exact ⟨(hpr lower hlow).1, (hpr lower hlow).2.trans hle⟩

theorem Criteria.Within.accepts (h : a.Within go b) (hmd : a.modelType = b.modelType)
    (hfree : a.freeOnly = b.freeOnly) (hc : a.Accepts go c) : b.Accepts go c where
  modelType := hmd ▸ hc.modelType
  ignored name hname := by
    rw [Bool.eq_false_iff]
    intro hig
    exact Bool.eq_false_iff.mp (hc.ignored name hname) (containsFold_trans hig h.ignored)
  providers := by
    rcases h.providers with hopen | ⟨hls, hpr⟩
    · exact .inl hopen
    · obtain ⟨name, hname, hcn⟩ := hc.providers.resolve_left hls
      obtain ⟨value, hvl, heq⟩ := containsFold_iff.mp hcn
      -- The entry under which the candidate is listed is no more ignored than the candidate is.
      have hadm : containsFold go a.ignored value = false := containsFold_congr heq ▸ hc.ignored name hname
      exact .inr ⟨name, hname, containsFold_congr heq ▸ hpr value hvl hadm⟩
  required capability hcap := by
    obtain ⟨value, hvl, heq⟩ := containsFold_iff.mp (h.required capability hcap)
    exact containsFold_congr heq ▸ hc.required value hvl
  maxInput := h.maxInput.le hc.maxInput fun hfr =>
    ⟨(hc.free hfr).1, (hc.free hfr).2.1⟩
  maxOutput := h.maxOutput.le hc.maxOutput fun hfr =>
    ⟨(hc.free hfr).1, (hc.free hfr).2.2⟩
  zdr hzdr := hc.zdr (h.zdr hzdr)
  retention hdeny := by
    rcases h.retention hdeny with hden | hzdr
    · exact hc.retention hden
    · simp [providerMayRetain, hc.zdr hzdr]
  quantization := by
    rcases h.quantizations with hopen | ⟨hls, hqn⟩
    · exact .inl hopen
    · exact .inr (containsFold_trans (hc.quantization.resolve_left hls) hqn)
  regions := by
    rcases h.regions with hopen | ⟨hls, hrg⟩
    · exact .inl hopen
    · obtain ⟨region, hrn, own, hown, heq⟩ := intersectsFold_iff.mp (hc.regions.resolve_left hls)
      obtain ⟨target, htr, _, hsame, htrim⟩ := intersectsFold_iff.mp (hrg region hrn)
      obtain rfl := mem_singleton.mp hsame
      exact .inr (intersectsFold_iff.mpr
        ⟨target, htr, own, hown, go.equalFold_trans htrim heq⟩)
  throughput minimum hmin := by
    obtain ⟨higher, hhg, hle⟩ := h.throughput minimum hmin
    exact hle.trans (hc.throughput higher hhg)
  latency maximum hmax := by
    obtain ⟨lower, hlow, hle⟩ := h.latency maximum hmax
    obtain ⟨latency, hlat, hbl⟩ := hc.latency lower hlow
    exact ⟨latency, hlat, hbl.trans hle⟩
  free := hfree ▸ hc.free

/-- A candidate at the limit of every demand. -/
def Criteria.probe (k : Criteria) (name : String) : RouteCandidate where
  providerId := name
  providerType := name
  providerSlug := name
  modelType := k.modelType
  capabilities := k.required
  inputPrice := if k.freeOnly then 0 else k.maxInput.getD 0
  outputPrice := if k.freeOnly then 0 else k.maxOutput.getD 0
  hasPrice := true
  providerConfig := [("zdr", .flag true), ("quantization", .text (k.quantizations.headD ""))]
  dataRetention := ""
  processingRegions := k.regions
  throughput := k.minThroughput.getD 0
  p95LatencyMs := k.maxLatency

theorem probe_price_le {ceiling : Option ℚ} (hfree : free → ∀ price ∈ ceiling, 0 ≤ price) :
    ∀ price ∈ ceiling, (if free then 0 else ceiling.getD 0) ≤ price := by
  intro price hpr
  cases free with
  | true => exact hfree rfl price hpr
  | false => simp [mem_def.mp hpr]

/-- The probe is a candidate that satisfiable criteria accept. -/
theorem Criteria.probe_accepts (hsat : a.Satisfiable go) {name : String}
    (hname : containsFold go a.ignored name = false)
    (hls : a.providers = [] ∨ containsFold go a.providers name) :
    a.Accepts go (a.probe name) where
  modelType := .inr (go.equalFold_refl _)
  ignored other hne := by
    have hsame : other = name := by simpa [names, probe] using hne
    exact hsame ▸ hname
  providers := hls.imp id fun hcn => ⟨name, by simp [names, probe], hcn⟩
  required _ hcap := containsFold_of_mem hcap
  maxInput price hpr := ⟨rfl, probe_price_le (fun hfree => (hsat.free hfree).1) price hpr⟩
  maxOutput price hpr := ⟨rfl, probe_price_le (fun hfree => (hsat.free hfree).2) price hpr⟩
  zdr _ := rfl
  retention _ := rfl
  quantization := by
    cases hlist : a.quantizations with
    | nil => exact .inl rfl
    | cons first rest =>
      refine .inr (containsFold_of_mem ?_)
      simp [probe, hlist, providerConfigString, Config.get, lookup_cons]
  regions := by
    cases hlist : a.regions with
    | nil => exact .inl rfl
    | cons first rest =>
      refine .inr (intersectsFold_iff.mpr ⟨first, mem_cons_self, first, ?_, go.equalFold_refl _⟩)
      simp [probe, hlist]
  throughput minimum hmin := by simp [probe, mem_def.mp hmin]
  latency maximum hmax := ⟨maximum, hmax, le_refl _⟩
  free hfree := by simp [probe, hfree]

theorem Criteria.Satisfiable.exists_name (hsat : a.Satisfiable go) :
    ∃ name, containsFold go a.ignored name = false ∧
      (a.providers = [] ∨ containsFold go a.providers name) := by
  rcases hsat.providers with hopen | ⟨name, hname, hadm⟩
  · obtain ⟨name, hname, -⟩ := exists_not_containsFold a.ignored []
    exact ⟨name, hname, .inl hopen⟩
  · exact ⟨name, hadm, .inr (containsFold_of_mem hname)⟩

theorem ceilingWithin_of_limit (hlm : ∀ price ∈ second, (if free then 0 else first.getD 0) ≤ price)
    (hopen : free = false → first = none → ∀ price ∈ second, price + 1 ≤ price) :
    CeilingWithin free first second := by
  intro price hpr
  have hle := hlm price hpr
  cases free with
  | true => exact hle
  | false =>
    cases first with
    | none => exact absurd (hopen rfl rfl price hpr) (by simp)
    | some lower => exact ⟨lower, rfl, hle⟩

theorem Criteria.within_of_accepts (hsat : a.Satisfiable go)
    (h : ∀ c, a.Accepts go c → b.Accepts go c) : a.Within go b := by
  obtain ⟨name, hname, hls⟩ := hsat.exists_name
  have hprob := probe_accepts hsat hname hls
  have hlm := h _ hprob
  refine ⟨?_, ?_, hlm.required, ?_, ?_, ?_, ?_, ?_, ?_, ?_, hlm.latency⟩
  · -- A provider that passes under one name and bears the other name too.
    intro other hne
    by_contra hadm
    have hboth := h { a.probe name with providerId := other }
      { hprob with
        ignored := by
          have hne := Bool.eq_false_iff.mpr hadm
          simp [names, probe, hname, hne]
        providers := hls.imp id fun hcn =>
          ⟨name, by simp [names, probe], hcn⟩ }
    have hps := hboth.ignored other (by simp [names])
    exact Bool.eq_false_iff.mp hps (containsFold_of_mem hne)
  · by_cases hopen : b.providers = []
    · exact .inl hopen
    · have hprov {other : String} (hne : containsFold go a.ignored other = false)
          (hin : a.providers = [] ∨ containsFold go a.providers other) :
          containsFold go b.providers other := by
        have hac := (h _ (probe_accepts hsat hne hin)).providers.resolve_left hopen
        simpa [exists_mem_names, probe] using hac
      refine .inr ⟨fun hany => ?_, fun other hne hadm =>
        hprov hadm (.inr (containsFold_of_mem hne))⟩
      obtain ⟨fresh, hfr, hun⟩ := exists_not_containsFold a.ignored b.providers
      exact Bool.eq_false_iff.mp hun (hprov hfr (.inl hany))
  · refine ceilingWithin_of_limit (fun price hpr => (hlm.maxInput price hpr).2)
      fun hpaid hnone price hpr => ?_
    have hdear := h { a.probe name with inputPrice := price + 1 }
      { hprob with
        maxInput := by simp [hnone]
        free := by simp [hpaid] }
    exact (hdear.maxInput price hpr).2
  · refine ceilingWithin_of_limit (fun price hpr => (hlm.maxOutput price hpr).2)
      fun hpaid hnone price hpr => ?_
    have hdear := h { a.probe name with outputPrice := price + 1 }
      { hprob with
        maxOutput := by simp [hnone]
        free := by simp [hpaid] }
    exact (hdear.maxOutput price hpr).2
  · intro hzdr
    by_contra hrt
    have hkept := h { a.probe name with
        providerConfig := (a.probe name).providerConfig.set "zdr" (.flag false), dataRetention := "0" }
      { hprob with
        zdr := fun hrq => absurd hrq hrt
        retention := fun _ => by simp [providerMayRetain, go.normalize_digit]
        quantization := by simpa using hprob.quantization }
    exact absurd (hkept.zdr hzdr) (by simp)
  · intro hdeny
    by_contra hok
    obtain ⟨hcl, hrt⟩ := not_or.mp hok
    have hkept := h { a.probe name with
        providerConfig := (a.probe name).providerConfig.set "zdr" (.flag false), dataRetention := "" }
      { hprob with
        zdr := fun hrq => absurd hrq hrt
        retention := fun hden => absurd hden hcl
        quantization := by simpa using hprob.quantization }
    exact absurd (hkept.retention hdeny) (by simp [providerMayRetain])
  · by_cases hopen : b.quantizations = []
    · exact .inl hopen
    · have hmd {other : String}
          (hin : a.quantizations = [] ∨ containsFold go a.quantizations other) :
          containsFold go b.quantizations other := by
        have hzdr := providerConfigBool_set_of_ne (a.probe name).providerConfig (.text other)
          (by decide : "zdr" ≠ "quantization") (by decide)
        have hac := h { a.probe name with
            providerConfig := (a.probe name).providerConfig.set "quantization" (.text other) }
          { hprob with
            zdr := fun hrq => hzdr.trans (hprob.zdr hrq)
            retention := fun hden => by
              simpa only [providerMayRetain, hzdr] using hprob.retention hden
            quantization := by simpa using hin }
        simpa using hac.quantization.resolve_left hopen
      refine .inr ⟨fun hany => ?_, fun other hne => hmd (.inr (containsFold_of_mem hne))⟩
      obtain ⟨fresh, hfr, -⟩ := exists_not_containsFold b.quantizations []
      exact Bool.eq_false_iff.mp hfr (hmd (.inl hany))
  · by_cases hopen : b.regions = []
    · exact .inl hopen
    · have hrg {others : List String}
          (hin : a.regions = [] ∨ intersectsFold go a.regions others) :
          intersectsFold go b.regions others :=
        (h { a.probe name with processingRegions := others }
          { hprob with regions := hin }).regions.resolve_left hopen
      refine .inr ⟨fun hany => ?_, fun region hmem => hrg (.inr ?_)⟩
      · have hnow : intersectsFold go b.regions [] := hrg (.inl hany)
        obtain ⟨-, -, _, hown, -⟩ := intersectsFold_iff.mp hnow
        exact not_mem_nil hown
      · exact intersectsFold_iff.mpr
          ⟨region, hmem, region, mem_singleton_self _, go.equalFold_refl _⟩
  · intro minimum hmin
    have hle := hlm.throughput minimum hmin
    cases hnone : a.minThroughput with
    | some higher => exact ⟨higher, rfl, by simpa [probe, hnone] using hle⟩
    | none =>
      have hslow := h { a.probe name with throughput := minimum - 1 }
        { hprob with throughput := by simp [hnone] }
      exact absurd (hslow.throughput minimum hmin) (by simp)

theorem Criteria.Accepts.satisfiable (hc : a.Accepts go c) : a.Satisfiable go := by
  refine ⟨?_, fun hfr => ?_⟩
  · rcases hc.providers with hopen | ⟨name, hname, hcn⟩
    · exact .inl hopen
    · obtain ⟨value, hvl, heq⟩ := containsFold_iff.mp hcn
      exact .inr ⟨value, hvl, containsFold_congr heq ▸ hc.ignored name hname⟩
  · obtain ⟨-, hinp, hout⟩ := hc.free hfr
    exact ⟨fun price hpr => hinp ▸ (hc.maxInput price hpr).2,
      fun price hpr => hout ▸ (hc.maxOutput price hpr).2⟩

/-- Criteria accept no more than others exactly if they are unsatisfiable or lie within them. -/
theorem Criteria.accepts_imp_iff (a b : Criteria) (hmd : a.modelType = b.modelType)
    (hfree : a.freeOnly = b.freeOnly) :
    (∀ c, a.Accepts go c → b.Accepts go c) ↔ (a.Satisfiable go → a.Within go b) :=
  ⟨fun h hsat => within_of_accepts hsat h, fun h _ hc => (h hc.satisfiable).accepts hmd hfree hc⟩

end ModelDock.Routing
