import Mathlib.Algebra.Group.Int.Defs
import ModelDock.Text.Runtime

/-!
# Routing configurations and the matcher

`candidateMatches` compares the keys it knows of a rule's object with one candidate; a key that is missing or of
another type restricts nothing.
-/

namespace ModelDock.Routing

open Text

/-- A value of a decoded JSON object, or one the router itself put there. -/
inductive Value
  | null
  | flag (value : Bool)
  | text (value : String)
  | float (value : ℚ)
  | number (digits : String)
  | integer (value : ℤ)
  | strings (values : List String)
  | list (values : List Value)
  | object (fields : List (String × Value))

/-- A JSON object. -/
abbrev Config := List (String × Value)

variable (config : Config) (key : String)

/-- The value under a key. -/
def Config.get : Value := (config.lookup key).getD .null

/-- Write a key. -/
def Config.set (value : Value) : Config := (key, value) :: config

@[simp]
theorem Config.get_set (key other : String) (value : Value) :
    (config.set key value).get other = if other = key then value else config.get other := by
  unfold Config.get Config.set
  rw [List.lookup_cons]
  by_cases hkey : other = key
  · simp [hkey]
  · simp [hkey, beq_false_of_ne hkey]

@[simp]
theorem Config.get_nil : Config.get [] key = .null := rfl

/-- A flag, false when there is none. -/
def Value.toBool : Value → Bool
  | .flag value => value
  | _ => false

/-- A text, empty when there is none. -/
def Value.toText : Value → String
  | .text value => value
  | _ => ""

/-- The texts of a list; other entries are passed over. -/
def configStrings : Value → List String
  | .strings values => values
  | .list values => values.filterMap fun
    | .text value => some value
    | _ => none
  | _ => []

variable (go : Runtime)

/-- A decimal; a binary floating-point number is none. -/
def configDecimal : Value → Option ℚ
  | .number digits => go.ratOf digits
  | .text value => go.ratOf (trimSpace value)
  | .integer value => some value
  | _ => none

/-- Whether a number fits sixty-four bits. -/
def isInt64 (value : ℤ) : Bool := -2 ^ 63 ≤ value && value < 2 ^ 63

/-- A whole number of sixty-four bits. -/
def configInt64 : Value → Option ℤ
  | .integer value => some value
  | .float value => some (go.intOfFloat value)
  | .number digits => (go.intOf digits).filter isInt64
  | .text value => (go.intOf value).filter isInt64
  | _ => none

@[simp]
theorem Value.toBool_flag (value : Bool) : (Value.flag value).toBool = value := rfl

@[simp]
theorem Value.toText_text (value : String) : (Value.text value).toText = value := rfl

/-- Whether a name is on a list. -/
def containsFold (values : List String) (expected : String) : Bool :=
  values.any fun value => go.equalFold value expected

/-- Whether two lists share a name. -/
def intersectsFold (left right : List String) : Bool :=
  left.any fun a => right.any fun b => go.equalFold (trimSpace a) (trimSpace b)

/-- A model of a provider that a request could be routed to, with what the matcher reads. Prices and
throughput are decimal columns. -/
structure RouteCandidate where
  (providerId providerType providerSlug modelType : String)
  capabilities : List String
  (inputPrice outputPrice : ℚ)
  hasPrice : Bool
  providerConfig : Config
  dataRetention : String
  processingRegions : List String
  throughput : ℚ
  p95LatencyMs : Option ℤ

/-- A flag of a provider, under its key or in its compliance section. -/
def providerConfigBool : Bool :=
  match config.get key with
  | .flag value => value
  | _ =>
    match config.get "compliance" with
    | .object compliance => (Config.get compliance key).toBool
    | _ => false

/-- A text of a provider. -/
def providerConfigString : String := (config.get key).toText

@[simp]
theorem providerConfigBool_set (value : Bool) :
    providerConfigBool (config.set key (.flag value)) key = value := by
  simp [providerConfigBool]

theorem providerConfigBool_set_of_ne {key other : String} (value : Value)
    (hkey : key ≠ other) (hcm : other ≠ "compliance") :
    providerConfigBool (config.set other value) key = providerConfigBool config key := by
  simp [providerConfigBool, hkey, hcm.symm]

@[simp]
theorem providerConfigString_set (key other : String) (value : Value) :
    providerConfigString (config.set key value) other =
      if other = key then value.toText else providerConfigString config other := by
  simp only [providerConfigString, Config.get_set]
  split <;> rfl

/-- Whether a provider may keep the data it is sent. -/
def providerMayRetain (retention : String) (config : Config) : Bool :=
  if providerConfigBool config "zdr" then false
  else
    let retention := go.normalize retention
    retention != "zero" && retention != "zdr" && retention != "none" && retention != "0"

/-- Whether a configuration admits a candidate. -/
def candidateMatches (candidate : RouteCandidate) (config : Config) : Bool :=
  let modelType := (config.get "model_type").toText
  let ignored := configStrings (config.get "ignore_providers")
  let providers := configStrings (config.get "providers")
  let quantizations := configStrings (config.get "quantizations")
  let regions := configStrings (config.get "processing_regions")
  if modelType != "" && !go.equalFold modelType candidate.modelType then false
  else if containsFold go ignored candidate.providerId ||
      containsFold go ignored candidate.providerType ||
      containsFold go ignored candidate.providerSlug then false
  else if !providers.isEmpty && !containsFold go providers candidate.providerSlug &&
      !containsFold go providers candidate.providerId &&
      !containsFold go providers candidate.providerType then false
  else if (configStrings (config.get "required_capabilities")).any fun capability =>
      !containsFold go candidate.capabilities capability then false
  else if (configDecimal go (config.get "max_input_price")).any fun maxPrice =>
      !candidate.hasPrice || maxPrice < candidate.inputPrice then false
  else if (configDecimal go (config.get "max_output_price")).any fun maxPrice =>
      !candidate.hasPrice || maxPrice < candidate.outputPrice then false
  else if (config.get "zdr").toBool && !providerConfigBool candidate.providerConfig "zdr" then false
  else if go.equalFold (config.get "data_collection").toText "deny" &&
      providerMayRetain go candidate.dataRetention candidate.providerConfig then false
  else if !quantizations.isEmpty && !containsFold go quantizations
      (providerConfigString candidate.providerConfig "quantization") then false
  else if !regions.isEmpty && !intersectsFold go regions candidate.processingRegions then false
  else if (configDecimal go (config.get "preferred_min_throughput")).any fun minimum =>
      candidate.throughput < minimum then false
  else if (configInt64 go (config.get "preferred_max_latency_ms")).any fun maximum =>
      !candidate.p95LatencyMs.any fun latency => latency ≤ maximum then false
  else if (config.get "free_only").toBool && (!candidate.hasPrice ||
      candidate.inputPrice != 0 || candidate.outputPrice != 0) then false
  else true

end ModelDock.Routing
