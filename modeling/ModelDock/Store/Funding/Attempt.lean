import ModelDock.Store.Funding.Settle

/-!
# Heartbeats, dispatch and recovery

Heartbeats and dispatches of a request in flight, and the recovery of operations whose heartbeat has stopped.
Whether the dispatch rules pass is an argument.
-/

namespace ModelDock.Store

open Relational Pricing

variable (s : Session) (staleBefore : Timestamp) (providerId : Uuid) (operation : FundingOperation)
  (catalog : Catalog)

/-- Record observed output of an operation in flight. -/
def heartbeatFunding (operationId : Uuid) (observedBytes : ℤ) (db : Db) : Except StoreError Db := do
  ensure (0 ≤ observedBytes) .negativeObservedBytes
  match db.operations.find? operationId with
  | none => return db
  | some operation =>
    if operation.status.isOpen then
      return { db with operations := db.operations.replace { operation with
        observedOutputBytes := max operation.observedOutputBytes observedBytes
        heartbeatAt := s.now
        observed_nonneg := le_trans operation.observed_nonneg (le_max_left _ _) } }
    else return db

/-- The arguments of a dispatch, and whether the dispatch rules let it pass. -/
structure FundingAttemptRequest where
  (operationId providerId credentialId : Uuid)
  dispatchAllowed : Bool

/-- The policy applies to the organization and provider at the given time. -/
def ByokPolicy.applies (policy : ByokPolicy) (organizationId providerId : Uuid) (now : Timestamp) : Bool :=
  policy.enabled && policy.organizationId.all (fun id => id = organizationId) &&
    policy.providerId.all (fun id => id = providerId) && policy.effectiveAt ≤ now &&
    policy.expiresAt.all fun expiry => now < expiry

/-- The more specific, then the newer policy first. -/
def ByokPolicy.precedes (a b : ByokPolicy) : Bool :=
  let rank (policy : ByokPolicy) : ℕ :=
    (if policy.organizationId.isSome then 2 else 0) + (if policy.providerId.isSome then 1 else 0)
  rank b < rank a || (rank a = rank b &&
    (b.effectiveAt < a.effectiveAt || (a.effectiveAt = b.effectiveAt && b.id ≤ a.id)))

/-- The fee policy of a customer credential. -/
def byokPolicy? (organizationId providerId : Uuid) (now : Timestamp) (catalog : Catalog) : Option ByokPolicy :=
  ((catalog.byokPolicies.rows.filter fun policy =>
    policy.applies organizationId providerId now).insertionSort fun a b => a.precedes b).head?

/-- Freeze the fee terms of a customer credential. -/
def freezeFees : Except StoreError FundingOperation := do
  let policy ← required (byokPolicy? operation.organizationId providerId s.now catalog)
    .pricingUnavailable
  ensure (policy.currency = operation.currency) .pricingCurrencyMismatch
  return { operation with fees := policy.fees }

/-- The row of a provider's monthly budget, inserted when the month has none. -/
def budgetRow (month : Month) (usage : Table UsageBudget) : Except StoreError (UsageBudget × Table UsageBudget) :=
  match usage.find? (Nat.pair providerId month) with
  | some budget => .ok (budget, usage)
  | none => do
    let budget : UsageBudget := ⟨providerId, month, 0, .zero, .zero⟩
    let usage ← usage.insert budget .uniqueViolation
    return (budget, usage)

/-- The budget has room for a cost; a limit of zero is no limit. -/
def UsageBudget.admits (budget : UsageBudget) (limit cost : ℤ) : Prop :=
  0 < limit → budget.providerCost.units + budget.reservedCost.units + cost ≤ limit

instance UsageBudget.decidableAdmits (budget : UsageBudget) (limit cost : ℤ) :
    Decidable (budget.admits limit cost) :=
  inferInstanceAs (Decidable (_ → _))

/-- Reserve the maximum provider cost of an operation that has no reservation yet. -/
def reserveBudget (budgets : Budgets) : Except StoreError Budgets := do
  let month := providerBudgetMonth s.clock
  let row ← budgetRow providerId month budgets.usage
  if budgets.reservations.rows.any fun row => row.operationId = operation.id then
    return { budgets with usage := row.2 }
  else
    let versionId ← required operation.pricingVersionId .noRows
    let version ← required (catalog.priceVersions.find? versionId) .noRows
    let provider ← required (catalog.providers.find? providerId) .noRows
    ensure (version.provider.currency = provider.settlementCurrency) .pricingCurrencyMismatch
    let cost ← providerCostForVersion versionId
      ⟨operation.estimatedInputTokens, 0, operation.maxOutputTokens⟩ catalog
    ensure (row.1.admits (provider.costLimit.getD .zero).units cost) .providerBudgetExceeded
    let maximumCost ← money cost
    let reservedCost ← money (row.1.reservedCost.units + cost)
    let reservations ← budgets.reservations.insert
      ⟨s.uuid .budgetReservation, operation.id, providerId, month, provider.settlementCurrency,
        maximumCost, .zero, .reserved⟩ .uniqueViolation
    return { usage := row.2.replace { row.1 with
               requestCount := row.1.requestCount + 1, reservedCost := reservedCost }
             reservations := reservations }

/-- Start an attempt at a provider. -/
def beginFundingAttempt (request : FundingAttemptRequest) (db : Db) : Except StoreError Db := do
  let operation ← required (db.operations.find? request.operationId) .noRows
  ensure (operation.status.isOpen) .fundingTerminal
  ensure (request.dispatchAllowed) .dispatchRefused
  let credential ← required (db.catalog.credentials.find? request.credentialId) .noRows
  let dispatched : FundingOperation := { operation with
    credentialOwner := credential.owner, providerCredentialId := some request.credentialId }
  match credential.owner with
  | .customer =>
    let dispatched ← freezeFees s request.providerId dispatched db.catalog
    return { db with operations := db.operations.replace dispatched }
  | .platform =>
    let budgets ← reserveBudget s request.providerId dispatched db.catalog db.budgets
    return { db with operations := db.operations.replace dispatched, budgets := budgets }

/-- The page size of a listing. -/
def clamp (n : ℤ) : ℕ := if n ≤ 0 then 50 else if 200 < n then 200 else n.toNat

/-- The operations in flight without a recent heartbeat, the stalest first; rows another
transaction holds locked are skipped. -/
def staleOperations (limit : ℤ) (locked : Uuid → Bool) (db : Db) : List FundingOperation :=
  (Table.oldestFirst FundingOperation.heartbeatAt (db.operations.rows.filter fun operation =>
    operation.status.isOpen ∧ operation.heartbeatAt < staleBefore ∧ locked operation.id = false)).take
      (clamp limit)

/-- Claim a batch of stale operations by renewing their heartbeats. -/
def claimStale (limit : ℤ) (locked : Uuid → Bool) (db : Db) : Db :=
  { db with
    operations := (staleOperations staleBefore limit locked db).foldl
      (fun operations operation => operations.replace { operation with heartbeatAt := s.now })
      db.operations }

/-- The settlement a recovery makes from the last observation of an operation. -/
def recoveryRequest : FundingSettlementRequest where
  operationId := operation.id
  tokens := ⟨operation.estimatedInputTokens, 0, operation.observedOutputBytes / 4⟩
  observedBytes := operation.observedOutputBytes
  usageSource := "ESTIMATED_CRASH_RECOVERY"
  failureCode := "settlement_recovered"
  partialFailure := 0 < operation.observedOutputBytes
  waive := false

/-- Settle claimed operations one by one, each in its own transaction, until one fails; returns
how many were recovered, the error that stopped the batch, and the state. -/
def settleClaimed (session : Uuid → Session) : List FundingOperation → ℕ → Db → ℕ × Option StoreError × Db
  | [], recovered, db => (recovered, none, db)
  | operation :: rest, recovered, db =>
    match settleFunding (session operation.id) (recoveryRequest operation) db with
    | .ok result => settleClaimed session rest (recovered + 1) result.2
    | .error .fundingTerminal => settleClaimed session rest (recovered + 1) db
    | .error err => (recovered, some err, db)

/-- Recover stale operations. -/
def recoverStaleFunding (session : Uuid → Session) (staleBefore : Timestamp) (limit : ℤ)
    (locked : Uuid → Bool) (db : Db) : ℕ × Option StoreError × Db :=
  settleClaimed session (staleOperations staleBefore limit locked db) 0
    (claimStale s staleBefore limit locked db)

end ModelDock.Store
