import ModelDock.Marketplace.Effects
import ModelDock.Relational.History

/-!
# Payouts to suppliers

A settlement is claimed by a worker and sent to a payout adapter under one key for all attempts. `Payouts` adds
what the workers hold and sent, and the destination each supplier had when its payments were last approved.
That approvals have their documents is given with the call.
-/

namespace ModelDock.Marketplace

open Relational
open Store (Uuid Timestamp)
open Text (trimSpace)

/-- The vault decrypts an envelope that was sealed for an owner. -/
structure Vault where
  decrypt : List UInt8 → Uuid → Option String

variable (batchId attemptId : Uuid) (s : Session) (m : Market) (batch : SettlementBatch) (vault : Vault)

/-- The account of a supplier as it is sent to an adapter. -/
def Supplier.destination (supplier : Supplier) : Option String :=
  supplier.profile.payoutAccount.bind fun envelope => vault.decrypt envelope supplier.ownerUserId

/-- The status of an attempt. -/
inductive AttemptStatus
  | started
  | succeeded
  | failed
deriving DecidableEq

/-- What a worker gives as the reason of a failure. -/
inductive FailureCode
  | destinationDecryptFailed
  | adapterUnavailable
  | sendFailed
deriving DecidableEq

/-- A row of `supplier_payout_attempt`. -/
structure PayoutAttempt where
  (id batchId : Uuid)
  attemptNo : ℕ
  status : AttemptStatus
  failureCode : Option FailureCode

/-- The key columns of an attempt. -/
structure AttemptKey where
  (id batchId : Uuid)
  attemptNo : ℕ
deriving DecidableEq

instance : Key AttemptKey where
  id := AttemptKey.id
  clash a b := a.id = b.id || (a.batchId = b.batchId && a.attemptNo = b.attemptNo)

instance : Keyed PayoutAttempt AttemptKey where
  key attempt := ⟨attempt.id, attempt.batchId, attempt.attemptNo⟩

/-- What a claim hands to a worker. -/
structure SupplierPayoutJob where
  (attemptId batchId supplierId : Uuid)
  sandbox : Bool
  amount : ℚ
  account : Option (List UInt8)
  owner : Uuid

/-- The account of a job as it is sent to an adapter. -/
def SupplierPayoutJob.destination (job : SupplierPayoutJob) : Option String :=
  job.account.bind fun envelope => vault.decrypt envelope job.owner

/-- A request that was sent. Its key for the adapter is the settlement; `reviewed` is the destination that
was stored when the payments of the supplier were last approved before. -/
structure PayoutRequest where
  settlementId : Uuid
  sandbox : Bool
  amount : ℚ
  destination : String
  reviewed : Option String

/-- The marketplace with the attempts, the jobs that workers hold, the requests that were sent and the
destinations that were reviewed. -/
structure Payouts where
  market : Market
  attempts : Table PayoutAttempt
  jobs : List SupplierPayoutJob
  sent : List PayoutRequest
  reviewed : Uuid → Option String

variable (p : Payouts) (supplierId : Uuid)

/-- The supplier may be paid out in production. -/
def Market.productionPayoutReady : Bool :=
  (m.readiness.find? supplierId).any Readiness.enabled &&
    (m.suppliers.find? supplierId).any fun supplier => supplier.kybStatus = .verified &&
      supplier.contractRuns m.clock && supplier.taxComplete && supplier.profile.payoutAccount.isSome &&
      m.hasQuestionnaire supplierId

/-- The adapter of a settlement may be used. -/
def Market.payoutAllowed : Bool :=
  batch.sandbox || m.productionPayoutReady batch.supplierId

/-- Write a settlement. A trigger refuses one that is on its way to a production adapter before the supplier
is ready. -/
def Market.setBatch : Except MarketError Market := do
  ensure (batch.status = .approved ∨ batch.status = .processing ∨ batch.status = .paid →
    m.payoutAllowed batch) .insufficientPrivilege
  return { m with batches := m.batches.replace batch }

/-- Create a settlement over what a supplier has earned. The checks of the policy, of a replay and of the minimum are
left out, so that it is created in more cases than in the source. -/
def createSupplierSettlementBatch (sandbox : Bool) (payoutAmount : ℚ) (m : Market) : Except MarketError Market := do
  let _ ← required (m.suppliers.find? supplierId) .notFound
  ensure (0 < payoutAmount) .minimumSettlement
  let batches ← m.batches.insert ⟨s.uuid, supplierId, .pendingApproval, sandbox, payoutAmount, some s.actor, 0, 8, none,
    "", m.clock⟩ MarketError.uniqueViolation
  return { m with batches := batches }

/-- What an approval reads from other tables: the minimum of the supplier's policy if that is enabled, whether
the tax and invoice documents it requires are there, whether every item is matched with a statement, and
whether an item is blocked. -/
structure ApprovalFacts where
  minimumPayout : Option ℚ
  (documents matched blocked : Bool)

/-- Approve a settlement. -/
def approveSupplierSettlement (batchId : Uuid) (reason : String) (facts : ApprovalFacts)
    (m : Market) : Except MarketError Market := do
  ensure (trimSpace reason ≠ "") .supplierSettlementState
  let batch ← required (m.batches.find? batchId) .supplierPayoutBlocked
  let minimum ← required facts.minimumPayout .supplierPayoutBlocked
  ensure ((m.suppliers.find? batch.supplierId).any fun supplier => supplier.status = .approved &&
    supplier.kybStatus = .verified && supplier.contractStatus = .active && supplier.profile.payoutAccount.isSome)
    .supplierPayoutBlocked
  ensure ((batch.status = .pendingApproval ∨ batch.status = .disputed ∨ batch.status = .failed) ∧
    batch.createdBy ≠ some s.actor ∧ 0 < batch.payoutAmount) .supplierSettlementState
  ensure (minimum ≤ batch.payoutAmount) .minimumSettlement
  ensure (facts.documents) .supplierPayoutBlocked
  ensure (m.payoutAllowed batch) .supplierPayoutBlocked
  ensure (facts.matched ∧ facts.blocked = false) .supplierPayoutBlocked
  m.setBatch { batch with status := .approved, nextRetryAt := some m.clock }

/-- Let a settlement that failed be tried again. -/
def retrySupplierSettlement (batchId : Uuid) (reason : String) (m : Market) : Except MarketError Market := do
  ensure (trimSpace reason ≠ "") .supplierSettlementState
  let batch ← required ((m.batches.find? batchId).filter fun batch => batch.status = .failed) .supplierSettlementState
  ensure (batch.retryCount < 100) .supplierPayoutBlocked
  m.setBatch { batch with
    status := .approved
    maxAttempts := max batch.maxAttempts (batch.retryCount + 1)
    nextRetryAt := some m.clock }

/-- The settlement is due, has attempts left and may be paid out. -/
def Market.claimable : Bool :=
  (batch.status = .approved || batch.status = .failed) && batch.nextRetryAt.all (· ≤ m.clock) &&
    batch.retryCount < batch.maxAttempts && m.payoutAllowed batch

/-- The order of the queue: by the time of the next attempt, those without one last, and then by age. -/
def SettlementBatch.precedes (a b : SettlementBatch) : Bool :=
  match a.nextRetryAt, b.nextRetryAt with
  | some x, some y => x < y || (x = y && a.createdAt ≤ b.createdAt)
  | some _, none => true
  | none, some _ => false
  | none, none => a.createdAt ≤ b.createdAt

/-- The settlement that a claim leaves behind. -/
def SettlementBatch.claimed : SettlementBatch :=
  { batch with status := .processing, retryCount := batch.retryCount + 1, nextRetryAt := none }

/-- Claim the first settlement of the queue, except for those that other workers hold locked and those with
an open appeal. -/
def claimSupplierPayout (locked appealed : List Uuid) (p : Payouts) : Except MarketError Payouts := do
  let queue := p.market.batches.rows.filter fun batch =>
    p.market.claimable batch && !appealed.contains batch.id && !locked.contains batch.id
  let batch ← required (queue.find? fun batch => queue.all batch.precedes) .notFound
  let supplier ← required (p.market.suppliers.find? batch.supplierId) .notFound
  let market ← p.market.setBatch batch.claimed
  let attempts ← p.attempts.insert ⟨s.uuid, batch.id, batch.retryCount + 1, .started, none⟩ MarketError.uniqueViolation
  let job : SupplierPayoutJob := ⟨s.uuid, batch.id, batch.supplierId, batch.sandbox, batch.payoutAmount,
    supplier.profile.payoutAccount, supplier.ownerUserId⟩
  return { p with market := market, attempts := attempts, jobs := job :: p.jobs }

/-- A worker decrypts the account of its job and sends the request, if the account can be decrypted and the
adapter may be used. -/
def sendPayout (attemptId : Uuid) (adapterAvailable : Bool) (p : Payouts) : Except MarketError Payouts := do
  let job ← required (p.jobs.find? fun job => job.attemptId = attemptId) .notFound
  let jobs := p.jobs.filter fun job => job.attemptId ≠ attemptId
  match job.destination vault, adapterAvailable with
  | some destination, true => return { p with
      jobs := jobs
      sent := ⟨job.batchId, job.sandbox, job.amount, destination, p.reviewed job.supplierId⟩ :: p.sent }
  | _, _ => return { p with jobs := jobs }

/-- Record how an attempt ended. -/
def Payouts.endAttempt (attemptId batchId : Uuid) (status : AttemptStatus)
    (failureCode : Option FailureCode) : Table PayoutAttempt :=
  p.attempts.rewriteIf
    (fun attempt => attempt.id = attemptId && attempt.batchId = batchId && attempt.status = .started)
    fun attempt => { attempt with status := status, failureCode := failureCode }

/-- Record that an attempt failed. The next one waits twice as long, up to 256 minutes. -/
def failSupplierPayout (failureCode : FailureCode) (p : Payouts) : Except MarketError Payouts := do
  let batch ← required (p.market.batches.find? batchId) .notFound
  match batch.status with
  | .failed => do
    let attempt ← required ((p.attempts.find? attemptId).filter fun attempt => attempt.batchId = batchId) .notFound
    ensure (attempt.status = .failed ∧ attempt.failureCode = some failureCode) .idempotencyConflict
    return p
  | .processing => do
    let next := if batch.retryCount < batch.maxAttempts then
      some (p.market.clock + 60 * 2 ^ min (batch.retryCount - 1) 8) else none
    let market ← p.market.setBatch { batch with status := .failed, nextRetryAt := next }
    return { p with market := market, attempts := p.endAttempt attemptId batchId .failed (some failureCode) }
  | _ => .error .supplierSettlementState

/-- Record that a settlement was paid. Whether an item is blocked is given with the call. -/
def completeSupplierPayout (reference : String) (blocked : Bool) (p : Payouts) : Except MarketError Payouts := do
  let batch ← required (p.market.batches.find? batchId) .notFound
  if batch.status = .paid then
    ensure (batch.payoutReference = reference) .idempotencyConflict
    return p
  else
    ensure (batch.status = .processing ∧ reference ≠ "") .supplierSettlementState
    ensure (p.market.payoutAllowed batch ∧ blocked = false) .supplierPayoutBlocked
    let market ← p.market.setBatch { batch with
      status := .paid
      payoutReference := reference
      nextRetryAt := none }
    return { p with market := market, attempts := p.endAttempt attemptId batchId .succeeded none }

/-- A step of the marketplace, of an administrator of settlements or of a worker. -/
inductive PayoutCall
  | market (call : MarketCall)
  | createSupplierSettlementBatch (supplierId : Uuid) (sandbox : Bool) (payoutAmount : ℚ)
  | approveSupplierSettlement (batchId : Uuid) (reason : String) (facts : ApprovalFacts)
  | retrySupplierSettlement (batchId : Uuid) (reason : String)
  | claimSupplierPayout (locked appealed : List Uuid)
  | sendPayout (attemptId : Uuid) (adapterAvailable : Bool)
  | failSupplierPayout (batchId attemptId : Uuid) (failureCode : FailureCode)
  | completeSupplierPayout (batchId attemptId : Uuid) (reference : String) (blocked : Bool)

/-- The destinations that are reviewed after a call of the marketplace: an approval of a supplier's payments
reviews the account that is stored. -/
def Payouts.reviewedAfter : MarketCall → Uuid → Option String
  | .updateSupplierPayoutReadiness supplierId parts _ =>
    if parts.payment = .approved then Function.update p.reviewed supplierId
      ((p.market.suppliers.find? supplierId).bind fun supplier => supplier.destination vault)
    else p.reviewed
  | _ => p.reviewed

/-- Run one step in its session. -/
def execPayouts (invocation : Session × PayoutCall) (p : Payouts) : Except MarketError Payouts :=
  let s := invocation.1
  match invocation.2 with
  | .market call => do
    let market ← execMarket (s, call) p.market
    return { p with market := market, reviewed := p.reviewedAfter vault call }
  | .createSupplierSettlementBatch supplierId sandbox payoutAmount => do
    let market ← createSupplierSettlementBatch s supplierId sandbox payoutAmount p.market
    return { p with market := market }
  | .approveSupplierSettlement batchId reason facts => do
    let market ← approveSupplierSettlement s batchId reason facts p.market
    return { p with market := market }
  | .retrySupplierSettlement batchId reason => do
    let market ← retrySupplierSettlement batchId reason p.market
    return { p with market := market }
  | .claimSupplierPayout locked appealed => claimSupplierPayout s locked appealed p
  | .sendPayout attemptId adapterAvailable => sendPayout vault attemptId adapterAvailable p
  | .failSupplierPayout batchId attemptId failureCode => failSupplierPayout batchId attemptId failureCode p
  | .completeSupplierPayout batchId attemptId reference blocked =>
    completeSupplierPayout batchId attemptId reference blocked p

end ModelDock.Marketplace
