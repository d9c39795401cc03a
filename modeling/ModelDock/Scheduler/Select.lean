import ModelDock.Store.Schema.Funding
import ModelDock.Text.Runtime

/-!
# Choosing a credential from a group

The scheduler ranks the credentials of a group that fit the request and takes the first on which it acquires a
slot. The store and the counters are services that answer or fail; what they answer is a parameter.
-/

namespace ModelDock.Scheduler

open Relational Text
open Store (CredentialOwner)

/-- The stored status of a credential. -/
inductive CredentialStatus
  | active
  | disabled
  | rateLimited
  | cooldown
  | authFailed
  | unhealthy
  | unknown
deriving DecidableEq

/-- Whether platform capacity may stand in for a customer's credential. -/
inductive SharedCapacityFallback
  | always
  | outsideFilters
  | never
deriving DecidableEq

/-- Whether a customer's credential goes before or after platform capacity. -/
inductive PrioritySection
  | prioritized
  | fallback
deriving DecidableEq

/-- A row of `provider_credentials`, with the weight and priority of its group membership. -/
structure Credential where
  id : String
  organizationId : Option String := none
  status : CredentialStatus := .active
  priority : ℤ := 0
  weight : ℤ := 100
  maxConcurrency : ℕ := 10
  cooldownUntil : Option ℕ := none
  tags : List String := []
  owner : CredentialOwner := .platform
  ownerOrganizationId : Option String := none
  prioritySection : PrioritySection := .prioritized
  sharedCapacityFallback : SharedCapacityFallback := .always
  modelFilters : List String := []
  apiKeyFilters : List String := []
  memberFilters : List String := []
  effectiveWeight : ℤ := 0
  effectivePriority : ℤ := 0
  activeRequests : ℕ := 0
  maxConcurrency_pos : 0 < maxConcurrency := by decide
deriving DecidableEq

/-- A row of `credential_group_members`, joined with its credential and its provider. -/
structure Member where
  groupId : String
  credential : Credential
  providerEnabled : Bool := true
  weight : ℤ := 100
  priority : ℤ := 0
deriving DecidableEq

/-- The store at one selection. A group has a credential at most once. -/
structure Directory where
  now : ℕ
  members : List Member
  nodup : (members.map fun member => (member.groupId, member.credential.id)).Nodup

/-- Whether the store returns a member: its provider is enabled, its status allows it, and it is not
cooling down. -/
def Member.isSchedulable (now : ℕ) (member : Member) : Bool :=
  member.providerEnabled &&
    (match member.credential.status with
      | .active | .rateLimited | .cooldown => true
      | _ => false) &&
    member.credential.cooldownUntil.all (· ≤ now)

/-- The credential as the query returns it. -/
def Member.candidate (member : Member) : Credential :=
  { member.credential with
    effectiveWeight := member.weight
    effectivePriority := member.priority }

/-- The order of the query: by priority in the group, by the credential's own, by id. -/
def Member.before (a b : Member) : Bool :=
  b.priority < a.priority || a.priority = b.priority &&
    (b.credential.priority < a.credential.priority || a.credential.priority = b.credential.priority &&
      a.credential.id ≤ b.credential.id)

/-- The schedulable credentials of a group. -/
def Directory.candidates (directory : Directory) (groupId : String) : List Credential :=
  ((directory.members.filter fun member =>
    member.groupId = groupId && member.isSchedulable directory.now).mergeSort Member.before).map
      Member.candidate

/-- The constraints of a request on its credential. -/
structure CredentialConstraints where
  requiredTags : List String := []
  excludedTags : List String := []
  model : String := ""
  apiKeyId : String := ""
  memberId : String := ""
  useSharedCapacity : Option Bool := none
deriving DecidableEq

section Fits

variable (go : Runtime) (constraints : CredentialConstraints) (organizationId : String)

/-- A filter without entries lets everything through. -/
def stringFilterMatches (filters : List String) (value : String) : Bool :=
  filters.isEmpty || filters.any fun filter => go.normalize filter = go.normalize value

/-- The filters on who asks. -/
def credentialActorFiltersMatch (credential : Credential) : Bool :=
  stringFilterMatches go credential.apiKeyFilters constraints.apiKeyId &&
    stringFilterMatches go credential.memberFilters constraints.memberId

/-- All filters of a credential. -/
def credentialFiltersMatch (credential : Credential) : Bool :=
  credentialActorFiltersMatch go constraints credential &&
    stringFilterMatches go credential.modelFilters constraints.model

/-- Every required tag is there, and no excluded one. -/
def matchesCredentialTags (tags : List String) : Bool :=
  constraints.requiredTags.all (· ∈ tags) && constraints.excludedTags.all (· ∉ tags)

/-- Whether a credential of the organization forbids shared capacity to the request. -/
def forbidsShared (credential : Credential) : Bool :=
  credential.owner = .customer && credential.ownerOrganizationId = some organizationId &&
    credentialActorFiltersMatch go constraints credential &&
    match credential.sharedCapacityFallback with
    | .never => true
    | .outsideFilters => stringFilterMatches go credential.modelFilters constraints.model
    | .always => false

/-- Whether shared capacity is blocked, by the request or by one of the candidates. -/
def blockShared (candidates : List Credential) : Bool :=
  constraints.useSharedCapacity = some false ||
    candidates.any (forbidsShared go constraints organizationId)

/-- Whether a candidate fits the request. -/
def fits (blocked : Bool) (credential : Credential) : Bool :=
  credential.organizationId.all (· = organizationId) &&
    !(credential.owner = .customer && credential.ownerOrganizationId != some organizationId) &&
    !(credential.owner = .platform && blocked) &&
    credentialFiltersMatch go constraints credential &&
    matchesCredentialTags constraints credential.tags

end Fits

/-- The answers of the store and of the counters; none is a failure. -/
structure Services where
  reachable : Bool
  active : String → Option ℕ
  chooseWeighted : String → List (String × ℤ) → Option String
  tryAcquire : String → ℕ → Option (Bool × ℕ)

/-- How the candidates are ranked. -/
inductive SchedulingPolicy
  | priorityWeighted
  | leastLoaded
  | weightedRoundRobin
deriving DecidableEq

/-- The policy a route names; any other text is the default. -/
def schedulingPolicy (requested : String) : SchedulingPolicy :=
  if requested = "least_loaded" then .leastLoaded
  else if requested = "weighted_round_robin" then .weightedRoundRobin
  else .priorityWeighted

/-- A candidate with its load. -/
structure Ranked where
  credential : Credential
  active : ℕ
  score : ℚ
  tier : ℕ

/-- Why no credential was selected. -/
inductive SelectError
  | sourceUnavailable
  | noCredential
  | stateUnavailable
deriving DecidableEq

/-- The selected credential. -/
structure Selection where
  credential : Credential
  score : ℚ
  policy : SchedulingPolicy
  sharedCapacityBlocked : Bool

section Select

variable (go : Runtime) (services : Services)

/-- A candidate with the load the counters report. -/
def rank (credential : Credential) (active : ℕ) : Ranked :=
  let weight :=
    if credential.effectiveWeight ≤ 0 then credential.weight else credential.effectiveWeight
  let priority :=
    if credential.effectivePriority = 0 then credential.priority else credential.effectivePriority
  { credential :=
      { credential with
        activeRequests := active
        effectiveWeight := weight
        effectivePriority := priority }
    active := active
    score := go.roundFloat (go.roundFloat weight / go.roundFloat (active + 1))
    tier :=
      match credential.owner, credential.prioritySection with
      | .platform, _ => 2
      | .customer, .prioritized => 3
      | .customer, .fallback => 1 }

/-- The candidates that fit and have room. -/
def rankAll (fit : Credential → Bool) : List Credential → Except SelectError (List Ranked)
  | [] => .ok []
  | credential :: rest =>
    if fit credential then do
      let active ← required (services.active credential.id) .stateUnavailable
      let ranked ← rankAll fit rest
      pure (if credential.maxConcurrency ≤ active then ranked else rank go credential active :: ranked)
    else rankAll fit rest

/-- The share of its slots that a candidate has in use. -/
def Ranked.load (item : Ranked) : ℚ :=
  go.roundFloat
    (go.roundFloat item.active / go.roundFloat (max item.credential.maxConcurrency 1 : ℕ))

/-- Whether the first candidate is to be tried before the second. -/
def Ranked.less (policy : SchedulingPolicy) (a b : Ranked) : Bool :=
  if a.tier ≠ b.tier then b.tier < a.tier
  else
    match policy with
    | .leastLoaded =>
      if a.load go ≠ b.load go then a.load go < b.load go
      else if a.credential.effectivePriority ≠ b.credential.effectivePriority then
        b.credential.effectivePriority < a.credential.effectivePriority
      else a.credential.id < b.credential.id
    | _ =>
      if a.credential.effectivePriority ≠ b.credential.effectivePriority then
        b.credential.effectivePriority < a.credential.effectivePriority
      else if a.score ≠ b.score then b.score < a.score
      else a.credential.id < b.credential.id

/-- Exchange the first candidate with the chosen one. -/
def swapToFront (chosen : String) (list : List Ranked) : List Ranked :=
  match list.findIdx? fun item => item.credential.id = chosen with
  | some index => (list.toArray.swapIfInBounds 0 index).toList
  | none => list

/-- The order in which the candidates are tried. -/
def arrange (groupId : String) (policy : SchedulingPolicy) (list : List Ranked) :
    Except SelectError (List Ranked) :=
  let list := list.mergeSort fun a b => !b.less go policy a
  match policy, list with
  | .weightedRoundRobin, top :: next :: rest => do
    let weighted := ((top :: next :: rest).takeWhile fun item => item.tier = top.tier &&
      item.credential.effectivePriority = top.credential.effectivePriority).map fun item =>
        (item.credential.id, item.credential.effectiveWeight)
    let chosen ← required (services.chooseWeighted groupId weighted) .stateUnavailable
    pure (swapToFront chosen (top :: next :: rest))
  | _, list => pure list

/-- The first candidate on which a slot is acquired. -/
def acquireFirst (policy : SchedulingPolicy) (blocked : Bool) : List Ranked → Except SelectError Selection
  | [] => .error .noCredential
  | item :: rest => do
    let (acquired, active) ←
      required (services.tryAcquire item.credential.id item.credential.maxConcurrency) .stateUnavailable
    if acquired then
      pure
        { credential := { item.credential with activeRequests := active }
          score := item.score
          policy := policy
          sharedCapacityBlocked := blocked }
    else acquireFirst policy blocked rest

/-- Select a credential of a group for a request of an organization. -/
def selectConstrainedForOrganization (directory : Directory) (groupId requestedPolicy : String)
    (constraints : CredentialConstraints) (organizationId : String) : Except SelectError Selection := do
  let policy := schedulingPolicy requestedPolicy
  ensure (services.reachable) .sourceUnavailable
  let candidates := directory.candidates groupId
  ensure (candidates ≠ []) .noCredential
  let blocked := blockShared go constraints organizationId candidates
  let list ← rankAll go services (fits go constraints organizationId blocked) candidates
  let list ← arrange go services groupId policy list
  acquireFirst services policy blocked list

end Select

end ModelDock.Scheduler
