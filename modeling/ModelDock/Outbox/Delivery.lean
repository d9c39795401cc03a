import Mathlib.Data.Prod.Lex
import ModelDock.Relational.Scan
import ModelDock.Text.Normalize

/-!
# The webhook and e-mail outboxes

An outbox item is claimed under a lease, and what the worker reports is recorded against the token of its claim.
Each effective statement uses up an attempt or ends one, so that `Item.remaining` drops with every one.
-/

namespace ModelDock.Outbox

open Relational Table List Option Bool
open Text (trimSpace)

/-- An identifier. -/
abbrev Uuid := ℕ

/-- Milliseconds. -/
abbrev Timestamp := ℕ

/-- Where an item is in its delivery. -/
inductive Status
  | pending | processing | retry | delivered | dead
deriving DecidableEq

/-- The item waits for a claim. -/
def Status.isWaiting (status : Status) : Bool := status = .pending || status = .retry

/-- The item is done with. -/
def Status.isFinal (status : Status) : Bool := status = .delivered || status = .dead

/-- A row of `webhook_outbox` or `email_outbox`. -/
structure Item where
  id : Uuid
  /-- The endpoint and event of a webhook, the `dedupe_key` of an e-mail. -/
  dedupeKey : String
  status : Status
  (attempts maxAttempts : ℕ)
  (availableAt createdAt : Timestamp)
  lockedUntil : Option Timestamp
  lockedBy : Option String
  claimToken : Option Uuid
  deliveredAt : Option Timestamp
  lastHttpStatus : Option ℕ
  (lastResponse lastError : Option String)
  attempts_le : attempts ≤ maxAttempts
  waiting_lt : status.isWaiting → attempts < maxAttempts
  locked : status = .processing → lockedUntil.isSome

instance : Keyed Item RowKey where key item := ⟨item.id⟩

/-- Why an outbox call is refused. -/
inductive OutboxError
  | workerRequired | notFound | duplicateId
deriving DecidableEq

/-- `NULLIF(text, '')`. -/
def nonempty (text : String) : Option String := if text = "" then none else some text

/-- A new item; a missing number of attempts is six. -/
def Item.enqueued (id : Uuid) (dedupeKey : String) (maxAttempts : ℤ) (availableAt : Option Timestamp)
    (now : Timestamp) : Item where
  id := id
  dedupeKey := dedupeKey
  status := .pending
  attempts := 0
  maxAttempts := if maxAttempts ≤ 0 then 6 else maxAttempts.toNat
  availableAt := availableAt.getD now
  createdAt := now
  lockedUntil := none
  lockedBy := none
  claimToken := none
  deliveredAt := none
  lastHttpStatus := none
  lastResponse := none
  lastError := none
  attempts_le := Nat.zero_le _
  waiting_lt _ := by split <;> omega
  locked h := (nomatch h)

variable (id token : Uuid) (now : Timestamp) (item : Item)

/-- `enqueueEmailTx` and `EnqueueWebhookOutbox`: an item that is there already is not added again. -/
def enqueueOutbox (t : Table Item) : Except OutboxError (Table Item) :=
  if t.rows.any fun other => other.dedupeKey = item.dedupeKey then .ok t else t.insert item .duplicateId

/-- The items a claim may take: due ones and ones whose lease ran out, with an attempt left. -/
def Item.isClaimable : Bool :=
  item.attempts < item.maxAttempts &&
    ((item.status.isWaiting && item.availableAt ≤ now) ||
      (item.status = .processing && item.lockedUntil.any (· ≤ now)))

variable (worker : String) (retryAt : Timestamp)

/-- The claim of an item uses up an attempt; without one left there is nothing to claim. -/
def Item.claim (token : Uuid) (lockedUntil : Timestamp) (item : Item) : Item :=
  if h : item.attempts < item.maxAttempts then
    { item with
      status := .processing, attempts := item.attempts + 1, lockedBy := some worker, claimToken := some token,
      lockedUntil := some lockedUntil, attempts_le := h, waiting_lt := fun h => (nomatch h), locked := fun _ => rfl }
  else item

/-- `ORDER BY available_at, created_at, id`. -/
def Item.place : ℕ ×ₗ ℕ ×ₗ ℕ := toLex (item.availableAt, toLex (item.createdAt, item.id))

/-- A batch has at most a hundred items, and twenty when no sensible size is given. -/
def batchSize (limit : ℤ) : ℕ := if limit ≤ 0 ∨ 100 < limit then 20 else limit.toNat

/-- A lease lasts a minute when no length is given. -/
def leaseLength (lease : ℤ) : ℕ := if lease ≤ 0 then 60000 else lease.toNat

/-- What a worker brings to a claim; rows that another transaction has locked are skipped. -/
structure ClaimCall where
  worker : String
  (limit lease : ℤ)
  now : Timestamp
  tokens : Uuid → Uuid
  isLocked : Uuid → Bool

variable (call : ClaimCall)

/-- The items a claim takes. -/
def ClaimCall.picked (t : Table Item) : List Item :=
  oldest (batchSize call.limit) Item.place
    (t.rows.filter fun item => item.isClaimable call.now && !call.isLocked item.id)

/-- The claimed item. -/
def ClaimCall.taken (item : Item) : Item :=
  item.claim call.worker (call.tokens item.id) (call.now + leaseLength call.lease)

theorem ClaimCall.key_taken (item : Item) : Keyed.key (call.taken item) = (Keyed.key item : RowKey) := by
  unfold ClaimCall.taken Item.claim
  split <;> rfl

variable (t : Table Item)

/-- The statement both outboxes claim with. -/
def claimPicked : Table Item :=
  t.rewriteIf (fun item => item.id ∈ (call.picked t).map Item.id) call.taken call.key_taken

/-- `ClaimWebhookOutbox`. -/
def claimWebhookOutbox : Except OutboxError (Table Item) := do
  ensure (call.worker ≠ "") .workerRequired
  return claimPicked call t

/-- `ClaimEmailOutbox`. -/
def claimEmailOutbox : Except OutboxError (Table Item) := do
  ensure (trimSpace call.worker ≠ "") .workerRequired
  return claimPicked call t

/-- The item is held under the given claim. -/
def Item.holds (token : Uuid) (item : Item) : Bool := item.status = .processing && item.claimToken = some token

/-- The delivered item, which nobody holds any more. -/
def Item.delivered (now : Timestamp) (item : Item) : Item :=
  { item with
    status := .delivered, deliveredAt := some now, lockedUntil := none, lockedBy := none, claimToken := none,
    attempts_le := item.attempts_le, waiting_lt := fun h => (nomatch h), locked := fun h => (nomatch h) }

/-- A failed attempt is followed by another one unless it was the last. -/
def Item.failed (item : Item) : Item :=
  { item with
    status := if item.maxAttempts ≤ item.attempts then .dead else .retry, availableAt := retryAt,
    lockedUntil := none, lockedBy := none, claimToken := none, attempts_le := item.attempts_le,
    waiting_lt := fun h => by
      split at h
      · nomatch h
      · next hleft => exact Nat.lt_of_not_le hleft,
    locked := fun h => by split at h <;> nomatch h }

/-- Write the item held under a claim; without one the transaction fails. -/
def recordHeld (write : Item → Item)
    (hkey : ∀ item, Keyed.key (write item) = (Keyed.key item : RowKey)) (t : Table Item) :
    Except OutboxError (Table Item) := do
  ensure (t.rows.any (fun item => item.id = id && item.holds token)) .notFound
  return t.rewriteIf (fun item => item.id = id && item.holds token) write hkey

/-- What a delivery reports: a status code, where zero stands for none, a response and an error. -/
structure Report where
  httpStatus : ℕ
  (response error : String)

variable (report : Report)

/-- `CompleteWebhookOutbox`, which is `RecordWebhookResult` of a delivery. -/
def completeWebhookOutbox (now : Timestamp) :=
  recordHeld id token
    (fun item => { item.delivered now with
      availableAt := now, lastHttpStatus := if report.httpStatus = 0 then none else some report.httpStatus,
      lastResponse := nonempty report.response, lastError := none })
    fun _ => rfl

/-- `CompleteEmailOutbox`. -/
def completeEmailOutbox :=
  recordHeld id token (fun item => { item.delivered now with lastError := none }) fun _ => rfl

/-- `RetryWebhookOutbox`, which is `RecordWebhookResult` of a failure. -/
def retryWebhookOutbox (retryAt : Option Timestamp) (now : Timestamp) :=
  recordHeld id token
    (fun item => { item.failed (retryAt.getD now) with
      lastHttpStatus := if report.httpStatus = 0 then none else some report.httpStatus,
      lastResponse := nonempty report.response, lastError := nonempty report.error })
    fun _ => rfl

/-- `RetryEmailOutbox`. -/
def retryEmailOutbox (failure : String) (retryAt : Timestamp) :=
  recordHeld id token (fun item => { item.failed retryAt with lastError := some failure }) fun _ => rfl

/-- The last attempt was started and its lease ran out. -/
def Item.isAbandoned : Bool :=
  item.status = .processing && item.lockedUntil.any (· ≤ now) && item.maxAttempts ≤ item.attempts

/-- The item is given up. -/
def Item.expired (item : Item) : Item :=
  { item with
    status := .dead, lastError := some (item.lastError.getD "worker lease expired"), lockedUntil := none,
    lockedBy := none, claimToken := none, attempts_le := item.attempts_le, waiting_lt := fun h => (nomatch h),
    locked := fun h => (nomatch h) }

theorem Item.key_expired : Keyed.key item.expired = (Keyed.key item : RowKey) := rfl

/-- `ExpireWebhookLeases` and `ExpireEmailLeases`. -/
def expireLeases : Table Item :=
  t.rewriteIf (Item.isAbandoned now) Item.expired Item.key_expired

/-- The two outboxes. -/
inductive Kind
  | webhook | email

/-- What producers, workers and sweeps do. A worker that dies does nothing more. -/
inductive Event
  | enqueue (id : Uuid) (dedupeKey : String) (maxAttempts : ℤ) (availableAt : Option Timestamp) (now : Timestamp)
  | claim (call : ClaimCall)
  | complete (id token : Uuid) (report : Report) (now : Timestamp)
  | retry (id token : Uuid) (report : Report) (retryAt : Option Timestamp) (now : Timestamp)
  | expire (now : Timestamp)

/-- One event at an outbox. An e-mail worker always says when to try again. -/
def exec (kind : Kind) (event : Event) (t : Table Item) : Except OutboxError (Table Item) :=
  match event, kind with
  | .enqueue id dedupeKey maxAttempts availableAt now, _ =>
    enqueueOutbox (.enqueued id dedupeKey maxAttempts availableAt now) t
  | .claim call, .webhook => claimWebhookOutbox call t
  | .claim call, .email => claimEmailOutbox call t
  | .complete id token report now, .webhook => completeWebhookOutbox id token report now t
  | .complete id token _ now, .email => completeEmailOutbox id token now t
  | .retry id token report retryAt now, .webhook => retryWebhookOutbox id token report retryAt now t
  | .retry id token report retryAt now, .email => retryEmailOutbox id token report.error (retryAt.getD now) t
  | .expire now, _ => .ok (expireLeases now t)

/-- When an event happens. -/
def Event.time : Event → Timestamp
  | .enqueue _ _ _ _ now => now
  | .claim call => call.now
  | .complete _ _ _ now => now
  | .retry _ _ _ _ now => now
  | .expire now => now

/-- The event adds an item. -/
def Event.isEnqueue : Event → Bool
  | .enqueue .. => true
  | _ => false

/-- The item and the claim token under which a worker reports. -/
def Event.reports : Event → Option (Uuid × Uuid)
  | .complete id token _ _ => some (id, token)
  | .retry id token _ _ _ => some (id, token)
  | _ => none

/-- The event reports that the item was delivered under the claim. -/
def Event.completes : Event → Prop
  | .complete id' token' _ _ => id' = id ∧ token' = token
  | _ => False

/-- The worker of a claim has a name. -/
def Kind.accepts : Kind → Prop
  | .webhook => worker ≠ ""
  | .email => trimSpace worker ≠ ""

/-- An unending run of an outbox. -/
structure Run where
  kind : Kind
  start : Table Item
  events : ℕ → Event

/-- The outbox before the given event. -/
def Run.stateAt (run : Run) : ℕ → Table Item
  | 0 => run.start
  | n + 1 => commit (run.stateAt n) (exec run.kind (run.events n) (run.stateAt n))

/-- An event claims the item: a named worker picks it. -/
def Claims (kind : Kind) (t : Table Item) (id : Uuid) (event : Event) : Prop :=
  ∃ call, event = .claim call ∧ kind.accepts call.worker ∧ id ∈ (call.picked t).map Item.id

/-- How often an item was claimed before the given event. -/
noncomputable def Run.claimCount (run : Run) (id : Uuid) (n : ℕ) : ℕ :=
  open Classical in (List.range n).countP fun k => decide (Claims run.kind (run.stateAt k) id (run.events k))

/-- Some worker keeps running: however late it is, it sweeps and claims again, and no item is locked by
another transaction at every one of its claims. -/
structure Run.KeepsRunning (run : Run) : Prop where
  sweeps : ∀ n time, ∃ m ≥ n, ∃ now ≥ time, run.events m = .expire now
  claims : ∀ n time id, ∃ m ≥ n, ∃ call : ClaimCall,
    call.now ≥ time ∧ call.isLocked id = false ∧ run.kind.accepts call.worker ∧ run.events m = .claim call

/-- An item that is held is let go of: it is reported under its token, or its lease has run out. -/
def Item.LetGo (event : Event) (item : Item) : Prop :=
  item.status = .processing → (∃ token, event.reports = some (item.id, token) ∧ item.holds token) ∨
    item.lockedUntil.any (· ≤ event.time)

/-- What an effective statement does to an item. -/
inductive ItemStep (event : Event) (item item' : Item) : Prop
  | claim (call : ClaimCall) (hev : event = .claim call) (hopen : item.status.isFinal = false)
      (hleft : item.attempts < item.maxAttempts) (hatt : item'.attempts = item.attempts + 1)
      (hmax : item'.maxAttempts = item.maxAttempts) (hst : item'.status = .processing) (hgo : item.LetGo event)
  | deliver (token : Uuid) (hev : event.completes item.id token) (hhs : item.holds token)
      (hatt : item'.attempts = item.attempts) (hmax : item'.maxAttempts = item.maxAttempts)
      (hst : item'.status = .delivered) (hgo : item.LetGo event)
  | giveBack (hheld : item.status = .processing) (hatt : item'.attempts = item.attempts)
      (hmax : item'.maxAttempts = item.maxAttempts) (hst : item'.status = .retry ∨ item'.status = .dead)
      (hgo : item.LetGo event)

/-- What may still happen to an item: a claim and the end of a claim for every attempt left. -/
def Item.remaining : ℕ :=
  match item.status with
  | .pending | .retry => 2 * (item.maxAttempts - item.attempts)
  | .processing => 2 * (item.maxAttempts - item.attempts) + 1
  | .delivered | .dead => 0

variable {kind : Kind} {event : Event} {item item' : Item} {t t' : Table Item} {id token : Uuid} {call : ClaimCall}
  {run : Run} {n : ℕ}

theorem Item.holds_iff : item.holds token ↔ item.status = .processing ∧ item.claimToken = some token := by
  simp [Item.holds]

section

variable (hstep : ItemStep event item item')
include hstep

theorem ItemStep.letGo : item.LetGo event := by
  cases hstep with
  | claim | deliver | giveBack => assumption

theorem ItemStep.isFinal : item.status.isFinal = false := by
  cases hstep with
  | claim _ _ hopen => exact hopen
  | deliver _ _ hhs =>
    rw [(Item.holds_iff.mp hhs).1]
    rfl
  | giveBack hheld =>
    rw [hheld]
    rfl

theorem ItemStep.attempts_le : item.attempts ≤ item'.attempts := by
  cases hstep with
  | claim _ _ _ _ hat => omega
  | deliver _ _ _ hat => omega
  | giveBack _ hat => omega

theorem ItemStep.remaining_lt : item'.remaining < item.remaining := by
  cases hstep with
  | claim _ _ hopen _ hat hmax hst =>
    unfold Item.remaining
    rw [hst]
    cases hbef : item.status with
    | pending | processing | retry =>
      dsimp only
      omega
    | delivered | dead =>
      rw [hbef] at hopen
      nomatch hopen
  | deliver _ _ hhs _ _ hst =>
    unfold Item.remaining
    rw [hst, (Item.holds_iff.mp hhs).1]
    exact Nat.succ_pos _
  | giveBack hheld hat hmax hst =>
    unfold Item.remaining
    rw [hheld, hat, hmax]
    rcases hst with hst | hst
    · rw [hst]
      exact Nat.lt_succ_self _
    · rw [hst]
      exact Nat.succ_pos _

end

/-- What a committed event does to an outbox. -/
inductive Effect (event : Event) (t : Table Item) : Table Item → Prop
  | same : Effect event t t
  | added {t' : Table Item} (item : Item) (hev : event.isEnqueue) (hst : item.status = .pending)
      (h : t.insert item OutboxError.duplicateId = .ok t') : Effect event t t'
  | written {p : Item → Bool} {f : Item → Item} (hkey : ∀ item, Keyed.key (f item) = (Keyed.key item : RowKey))
      (hsts : ∀ item ∈ t.rows, p item → ItemStep event item (f item)) : Effect event t (t.rewriteIf p f hkey)

theorem isClaimable_of_mem_picked (h : item ∈ call.picked t) :
    item ∈ t.rows ∧ item.isClaimable call.now := by
  obtain ⟨hitem, hpick⟩ := mem_filter.mp (mem_of_mem_oldest h)
  exact ⟨hitem, (and_eq_true_iff.mp hpick).1⟩

theorem claimPicked_effect : Effect (.claim call) t (claimPicked call t) := by
  refine .written call.key_taken fun item hitem hpc => ?_
  obtain ⟨picked, hpc, hid⟩ := mem_map.mp (of_decide_eq_true hpc)
  obtain ⟨hrow, hcl⟩ := isClaimable_of_mem_picked hpc
  obtain rfl : picked = item := eq_of_rowId hrow hitem hid
  simp only [Item.isClaimable, cond_iff] at hcl
  obtain ⟨hleft, hrd⟩ := hcl
  refine .claim call rfl ?_ hleft ?_ ?_ ?_ fun hheld => .inr ?_
  rotate_right
  · rcases hrd with ⟨hwt, _⟩ | ⟨_, hover⟩
    · rw [hheld] at hwt
      cases hwt
    · exact hover
  · rcases hrd with ⟨hwt, _⟩ | ⟨hpr, _⟩
    · revert hwt
      cases picked.status <;> simp [Status.isWaiting, Status.isFinal]
    · rw [hpr]
      rfl
  all_goals simp [ClaimCall.taken, Item.claim, hleft]

theorem recordHeld_effect {write : Item → Item} {hkey : ∀ item, Keyed.key (write item) = (Keyed.key item : RowKey)}
    (h : recordHeld id token write hkey t = .ok t')
    (hstep : ∀ item, item.id = id → item.holds token → ItemStep event item (write item)) :
    Effect event t t' := by
  obtain ⟨_, _, h⟩ := bind_eq_ok.mp h
  obtain rfl := pure_eq_ok.mp h
  refine .written hkey fun item _ hheld => ?_
  obtain ⟨hid, hhs⟩ := and_eq_true_iff.mp hheld
  exact hstep item (of_decide_eq_true hid) hhs

theorem failed_status (item : Item) :
    (item.failed retryAt).status = .retry ∨ (item.failed retryAt).status = .dead := by
  unfold Item.failed
  split
  · exact .inr rfl
  · exact .inl rfl

theorem exec_effect (h : exec kind event t = .ok t') : Effect event t t' := by
  match event, kind with
  | .enqueue id _ _ _ now, _ =>
    simp only [exec, enqueueOutbox] at h
    split at h
    · obtain rfl := Except.ok.inj h
      exact .same
    · exact .added _ rfl rfl h
  | .claim call, .webhook | .claim call, .email =>
    obtain ⟨_, _, h⟩ := bind_eq_ok.mp h
    obtain rfl := pure_eq_ok.mp h
    exact claimPicked_effect
  | .complete id token report now, .webhook | .complete id token report now, .email =>
    exact recordHeld_effect h fun item hid hhs => .deliver token ⟨hid.symm, rfl⟩ hhs rfl rfl rfl
      fun _ => .inl ⟨token, hid ▸ rfl, hhs⟩
  | .retry id token report retryAt now, .webhook | .retry id token report retryAt now, .email =>
    exact recordHeld_effect h fun item hid hhs =>
      .giveBack (Item.holds_iff.mp hhs).1 rfl rfl (failed_status (retryAt.getD now) item)
        fun _ => .inl ⟨token, hid ▸ rfl, hhs⟩
  | .expire now, _ =>
    obtain rfl := Except.ok.inj h
    refine .written _ fun item _ hab => ?_
    simp only [Item.isAbandoned, cond_iff] at hab
    exact .giveBack hab.1.1 rfl rfl (.inr rfl) fun _ => .inr hab.1.2

theorem Effect.find?_after (hef : Effect event t t') (id : Uuid) :
    t'.find? id = t.find? id ∨ (t.find? id = none ∧ ∃ item, t'.find? id = some item ∧ item.status = .pending) ∨
      ∃ item item', t.find? id = some item ∧ t'.find? id = some item' ∧ ItemStep event item item' := by
  cases hef with
  | same => exact .inl rfl
  | added item _ hst h =>
    rw [find?_insert h]
    split
    · next hid =>
      refine .inr (.inl ⟨?_, item, rfl, hst⟩)
      rw [← hid]
      exact find?_eq_none.mpr fun other hne => rowId_ne_of_insert h hne
    · exact .inl rfl
  | @written p f _ hsts =>
    rw [find?_rewriteIf]
    cases hf : t.find? id with
    | none => exact .inl rfl
    | some item =>
      by_cases hp : p item
      · refine .inr (.inr ⟨item, f item, rfl, ?_, hsts item (found hf).1 hp⟩)
        simp [hp]
      · exact .inl (by simp [hp])

theorem Effect.same_or_less (hef : Effect event t t') (hq : event.isEnqueue = false) :
    t' = t ∨ t'.sum Item.remaining < t.sum Item.remaining := by
  cases hef with
  | same => exact .inl rfl
  | added item hev => exact absurd hev (by simp [hq])
  | @written p _ hkey hsts =>
    by_cases hsl : ∃ item ∈ t.rows, p item
    · obtain ⟨item, hitem, hp⟩ := hsl
      exact .inr (sum_rewriteIf_lt hkey (fun row hrow hrowp => (hsts row hrow hrowp).remaining_lt) hitem hp)
    · push Not at hsl
      exact .inl (rewriteIf_eq_self hkey fun row hrow => eq_false_iff.mpr (hsl row hrow))

theorem commit_of_stale (hrp : event.reports = some (id, token))
    (hstal : ∀ item, t.find? id = some item → item.claimToken ≠ some token) :
    commit t (exec kind event t) = t := by
  have hnone : t.rows.any (fun item => item.id = id && item.holds token) = false := by
    refine any_eq_false.mpr fun item hitem hheld => ?_
    obtain ⟨hid, hhs⟩ := and_eq_true_iff.mp hheld
    exact hstal item (find?_eq_some.mpr ⟨hitem, of_decide_eq_true hid⟩) (Item.holds_iff.mp hhs).2
  have hfl (write : Item → Item) (hkey : ∀ item, Keyed.key (write item) = (Keyed.key item : RowKey)) :
      recordHeld id token write hkey t = .error .notFound := by
    rw [recordHeld, hnone]
    rfl
  match event, kind with
  | .complete .., .webhook | .complete .., .email | .retry .., .webhook | .retry .., .email =>
    obtain ⟨rfl, rfl⟩ := Prod.mk.inj (some.inj hrp)
    exact congrArg (commit t) (hfl _ _)

theorem exec_claim (hwr : kind.accepts call.worker) : exec kind (.claim call) t = .ok (claimPicked call t) := by
  cases kind with
  | webhook =>
    have hnm : call.worker ≠ "" := hwr
    rw [exec, claimWebhookOutbox, ensure_of hnm]
    rfl
  | email =>
    have hnm : trimSpace call.worker ≠ "" := hwr
    rw [exec, claimEmailOutbox, ensure_of hnm]
    rfl

theorem find?_claimed (hwr : kind.accepts call.worker) (hpc : item ∈ call.picked t) :
    (commit t (exec kind (.claim call) t)).find? item.id = some (call.taken item) := by
  have hf : t.find? item.id = some item := find?_eq_some.mpr ⟨(isClaimable_of_mem_picked hpc).1, rfl⟩
  rw [exec_claim hwr, commit, claimPicked, find?_rewriteIf, hf, map_some,
    if_pos (decide_eq_true (mem_map_of_mem hpc))]

theorem attempts_of_claims (hclaim : Claims kind t id event) : ∃ item item', t.find? id = some item ∧
    (commit t (exec kind event t)).find? id = some item' ∧ item'.attempts = item.attempts + 1 := by
  obtain ⟨call, rfl, hwr, hid⟩ := hclaim
  obtain ⟨item, hpc, rfl⟩ := mem_map.mp hid
  obtain ⟨hitem, hcl⟩ := isClaimable_of_mem_picked hpc
  refine ⟨item, call.taken item, find?_eq_some.mpr ⟨hitem, rfl⟩, find?_claimed hwr hpc, ?_⟩
  simp only [Item.isClaimable, cond_iff] at hcl
  simp [ClaimCall.taken, Item.claim, hcl.1]

theorem find?_stateAt_succ (id : Uuid) (n : ℕ) : (run.stateAt (n + 1)).find? id = (run.stateAt n).find? id ∨
      ((run.stateAt n).find? id = none ∧
        ∃ item, (run.stateAt (n + 1)).find? id = some item ∧ item.status = .pending) ∨
      ∃ item item', (run.stateAt n).find? id = some item ∧
        (run.stateAt (n + 1)).find? id = some item' ∧ ItemStep (run.events n) item item' := by
  rw [Run.stateAt]
  cases hexec : exec run.kind (run.events n) (run.stateAt n) with
  | error _ => exact .inl rfl
  | ok _ => exact (exec_effect hexec).find?_after id

theorem claimCount_le (id : Uuid) (n : ℕ) :
    run.claimCount id n ≤ ((run.stateAt n).find? id).elim 0 Item.attempts := by
  induction n with
  | zero => exact Nat.zero_le _
  | succ n ih =>
    rw [Run.claimCount, range_succ, countP_append, countP_singleton]
    by_cases hclaim : Claims run.kind (run.stateAt n) id (run.events n)
    · obtain ⟨item, item', hbef, haf, hat⟩ := attempts_of_claims hclaim
      rw [hbef] at ih
      rw [Run.stateAt, haf, if_pos (by simpa using hclaim)]
      exact (Nat.add_le_add_right ih 1).trans hat.ge
    · rw [if_neg (by simpa using hclaim)]
      refine ih.trans ?_
      rcases find?_stateAt_succ id n with hsame | ⟨hnone, _⟩ | ⟨item, item', hbef, haf, hstep⟩
      · rw [hsame]
      · rw [hnone]
        exact Nat.zero_le _
      · rw [hbef, haf]
        exact hstep.attempts_le

theorem isSome_of_le {m : ℕ} (hm : n ≤ m) (hf : ((run.stateAt n).find? id).isSome) :
    ((run.stateAt m).find? id).isSome := by
  induction m, hm using Nat.le_induction with
  | base => exact hf
  | succ m hm ih =>
    rcases find?_stateAt_succ id m with hsame | ⟨_, item, haf, _⟩ | ⟨_, item, _, haf, _⟩
    · rw [hsame, ih]
    · rw [haf, isSome_some]
    · rw [haf, isSome_some]

theorem final_kept {m : ℕ} (hm : n ≤ m) (hf : (run.stateAt n).find? id = some item)
    (hfn : item.status.isFinal) : (run.stateAt m).find? id = some item := by
  induction m, hm using Nat.le_induction with
  | base => exact hf
  | succ m hm ih =>
    rcases find?_stateAt_succ id m with hsame | ⟨hnone, _⟩ | ⟨old, _, hbef, _, hstep⟩
    · exact hsame.trans ih
    · rw [ih] at hnone
      nomatch hnone
    · obtain rfl := mem_unique hbef ih
      exact absurd hfn (by simp [hstep.isFinal])

theorem delivered_by_holder (hf : (run.stateAt (n + 1)).find? id = some item')
    (hdl : item'.status = .delivered)
    (hbef : ∀ item, (run.stateAt n).find? id = some item → item.status ≠ .delivered) :
    ∃ item token, (run.stateAt n).find? id = some item ∧ (run.events n).completes id token ∧
      item.status = .processing ∧ item.claimToken = some token := by
  rcases find?_stateAt_succ id n with hsame | ⟨_, new, hnew, hpn⟩ | ⟨item, after, hitem, haf, hstep⟩
  · exact absurd hdl (hbef item' (hsame.symm.trans hf))
  · obtain rfl := mem_unique hnew hf
    rw [hpn] at hdl
    nomatch hdl
  · obtain rfl := mem_unique haf hf
    cases hstep with
    | claim _ _ _ _ _ _ hst => exact absurd (hdl.symm.trans hst) (by decide)
    | deliver token hev hhs =>
      obtain ⟨hpr, htk⟩ := Item.holds_iff.mp hhs
      have hid : item.id = id := (found hitem).2
      exact ⟨item, token, hitem, hid ▸ hev, hpr, htk⟩
    | giveBack _ _ _ hst =>
      rw [hdl] at hst
      rcases hst with hst | hst <;> nomatch hst

theorem stateAt_fixed {first : ℕ} (hq : ∀ n ≥ first, (run.events n).isEnqueue = false) :
    ∃ last ≥ first, ∀ n ≥ last, run.stateAt n = run.stateAt last := by
  refine eventually_fixed (fun t => t.sum Item.remaining) fun n hn => ?_
  rw [Run.stateAt]
  cases hexec : exec run.kind (run.events n) (run.stateAt n) with
  | error _ => exact .inl rfl
  | ok _ => exact (exec_effect hexec).same_or_less (hq n hn)

theorem not_claimable_of_fixed (hwr : kind.accepts call.worker)
    (hfix : commit t (exec kind (.claim call) t) = t) (hitem : item ∈ t.rows)
    (hfree : call.isLocked item.id = false) : item.isClaimable call.now = false := by
  by_contra hcl
  have hrd : t.rows.filter (fun item => item.isClaimable call.now && !call.isLocked item.id) ≠ [] :=
    ne_nil_of_mem (mem_filter.mpr ⟨hitem, by simp [hfree, not_eq_false _ ▸ hcl]⟩)
  have hlm : batchSize call.limit ≠ 0 := by
    unfold batchSize
    split <;> omega
  have hps : call.picked t ≠ [] := oldest_ne_nil hlm hrd
  obtain ⟨_, hpc⟩ := exists_mem_of_ne_nil _ hps
  obtain ⟨_, _, hbef, haf, _⟩ := attempts_of_claims ⟨call, rfl, hwr, mem_map_of_mem hpc⟩
  rw [hfix, hbef] at haf
  obtain rfl := some.inj haf
  omega

theorem not_abandoned_of_fixed {now : Timestamp} (hfix : expireLeases now t = t) (hitem : item ∈ t.rows) :
    item.isAbandoned now = false := by
  have hkept : item ∈ (expireLeases now t).rows := hfix.symm ▸ hitem
  by_contra hab
  rw [not_eq_false] at hab
  have hheld : item.status = .processing := by
    simp only [Item.isAbandoned, cond_iff] at hab
    exact hab.1.1
  rw [← (mem_rewriteIf_iff Item.key_expired hitem).mp hkept hab] at hheld
  nomatch hheld

theorem isFinal_of_fixed (hruns : run.KeepsRunning)
    (hfix : ∀ m ≥ n, commit t (exec run.kind (run.events m) t) = t) (hitem : item ∈ t.rows) :
    item.status.isFinal := by
  -- a claim at any late time finds nothing to take
  have hcl (time : Timestamp) : ∃ now ≥ time, item.isClaimable now = false := by
    obtain ⟨m, hm, call, hnow, hfree, hwr, hev⟩ := hruns.claims n time item.id
    exact ⟨call.now, hnow, not_claimable_of_fixed hwr (hev ▸ hfix m hm) hitem hfree⟩
  -- and a sweep finds nothing to give up
  have hsw (time : Timestamp) : ∃ now ≥ time, item.isAbandoned now = false := by
    obtain ⟨m, hm, now, hnow, hev⟩ := hruns.sweeps n time
    refine ⟨now, hnow, ?_⟩
    have hsame := hfix m hm
    rw [hev] at hsame
    exact not_abandoned_of_fixed hsame hitem
  by_contra hopen
  by_cases hheld : item.status = .processing
  · obtain ⟨lease, hls⟩ := isSome_iff_exists.mp (item.locked hheld)
    by_cases hleft : item.attempts < item.maxAttempts
    · obtain ⟨now, hnow, hnone⟩ := hcl lease
      simp [Item.isClaimable, hheld, hls, hleft, hnow] at hnone
    · obtain ⟨now, hnow, hnone⟩ := hsw lease
      simp [Item.isAbandoned, hheld, hls, Nat.le_of_not_lt hleft, hnow] at hnone
  · have hwt : item.status.isWaiting := by
      revert hheld hopen
      cases item.status <;> simp [Status.isFinal, Status.isWaiting]
    obtain ⟨now, hnow, hnone⟩ := hcl item.availableAt
    simp [Item.isClaimable, hwt, item.waiting_lt hwt, hnow] at hnone

/-- In every run of an outbox, from every start and whatever workers do or leave undone: an item is claimed
at most as often as it may be attempted; a report under a claim that is not the current one changes
nothing; a delivered item is never touched again; it was delivered by the holder of the current claim; and
when no more items are added and some worker keeps running, every item is delivered or given up for good. -/
theorem outbox_items_settle (run : Run) : (∀ n id item, (run.stateAt n).find? id = some item →
      run.claimCount id n ≤ item.maxAttempts) ∧
    (∀ n id token, (run.events n).reports = some (id, token) →
      (∀ item, (run.stateAt n).find? id = some item → item.claimToken ≠ some token) →
        run.stateAt (n + 1) = run.stateAt n) ∧
    (∀ n m id item, n ≤ m → (run.stateAt n).find? id = some item → item.status = .delivered →
      (run.stateAt m).find? id = some item) ∧
    (∀ n id item', (run.stateAt (n + 1)).find? id = some item' → item'.status = .delivered →
      (∀ item, (run.stateAt n).find? id = some item → item.status ≠ .delivered) →
        ∃ item token, (run.stateAt n).find? id = some item ∧ (run.events n).completes id token ∧
          item.status = .processing ∧ item.claimToken = some token) ∧
    ((∃ first, ∀ n ≥ first, (run.events n).isEnqueue = false) → run.KeepsRunning →
      ∀ n id item, (run.stateAt n).find? id = some item →
        ∃ last, ∀ m ≥ last, ∃ item', (run.stateAt m).find? id = some item' ∧
          (item'.status = .delivered ∨ item'.status = .dead)) := by
  refine ⟨fun n id item hf => ?_, fun n id token hrp hstal => commit_of_stale hrp hstal,
    fun n m id item hm hf hdl => final_kept hm hf (by rw [hdl]; rfl),
    fun n id item' hf hdl hbef => delivered_by_holder hf hdl hbef, ?_⟩
  · have hcn : run.claimCount id n ≤ ((run.stateAt n).find? id).elim 0 Item.attempts := claimCount_le id n
    rw [hf] at hcn
    exact hcn.trans item.attempts_le
  · rintro ⟨first, hq⟩ hruns n id item hf
    obtain ⟨last, _, hfix⟩ := stateAt_fixed hq
    refine ⟨max n last, fun m hm => ?_⟩
    obtain ⟨item', hitem'⟩ := isSome_iff_exists.mp
      (isSome_of_le ((le_max_left n last).trans hm) (by rw [hf, isSome_some]))
    refine ⟨item', hitem', ?_⟩
    have hlate := (le_max_right n last).trans hm
    rw [hfix m hlate] at hitem'
    have hfn := isFinal_of_fixed hruns (n := last) (fun k hk => ?_) (found hitem').1
    · simpa [Status.isFinal] using hfn
    · have hnext := hfix (k + 1) (hk.trans k.le_succ)
      rw [Run.stateAt, hfix k hk] at hnext
      exact hnext

/-- One e-mail and a worker that claims it again and again and dies each time. -/
def crashingEvents (n : ℕ) : Event :=
  if n = 0 then .enqueue 1 "invite" 3 none 0
  else if n % 2 = 0 then .expire n
  else .claim ⟨"worker", 20, 60000, n, fun _ => n, fun _ => false⟩

/-- The run of these events. -/
def crashingRun : Run := ⟨.email, .empty, crashingEvents⟩

theorem crashingRun_events : crashingRun.events = crashingEvents := rfl

theorem crashingRun_keepsRunning : crashingRun.KeepsRunning where
  sweeps := fun (n time : ℕ) => by
    have hlate : time ≤ 2 * (n + time + 1) := by omega
    have hnew : ¬2 * (n + time + 1) = 0 := by omega
    refine ⟨2 * (n + time + 1), by omega, 2 * (n + time + 1), hlate, ?_⟩
    rw [crashingRun_events, crashingEvents, if_neg hnew, if_pos (Nat.mul_mod_right 2 _)]
  claims := fun (n time id : ℕ) => by
    have hodd : (2 * (n + time) + 1) % 2 ≠ 0 := by omega
    have hlate : time ≤ 2 * (n + time) + 1 := by omega
    have hnm : trimSpace "worker" ≠ "" := by decide +kernel
    refine ⟨2 * (n + time) + 1, by omega, _, ?_, ?_, ?_, by
      rw [crashingRun_events, crashingEvents, if_neg (Nat.succ_ne_zero _), if_neg hodd]⟩
    · exact hlate
    · rfl
    · exact hnm

/-- The e-mail of the crashing run is settled. -/
theorem outbox_items_settle_demo : ∃ last, ∀ m ≥ last, ∃ item,
    (crashingRun.stateAt m).find? 1 = some item ∧ (item.status = .delivered ∨ item.status = .dead) := by
  have hq : ∀ n ≥ 1, (crashingRun.events n).isEnqueue = false := by
    intro n hn
    rw [crashingRun_events, crashingEvents, if_neg (Nat.ne_of_gt hn)]
    split <;> rfl
  exact (outbox_items_settle crashingRun).2.2.2.2 ⟨1, hq⟩ crashingRun_keepsRunning 1 1
    (.enqueued 1 "invite" 3 none 0) rfl

/-- A worker delivers an item. -/
structure Attempt where
  item : Item
  (start finish : Timestamp)

variable (duration : Item → ℕ)

/-- `ProcessOnce` delivers one item after the other; only the deliveries take time. -/
def deliverEach : Timestamp → List Item → List Attempt
  | _, [] => []
  | time, item :: rest => ⟨item, time, time + duration item⟩ :: deliverEach (time + duration item) rest

/-- What the worker of a claim delivers. -/
def ClaimCall.attempts (call : ClaimCall) (t : Table Item) : List Attempt :=
  deliverEach duration call.now ((call.picked t).map call.taken)

/-- The lease on the item has not run out when the delivery ends. -/
def Attempt.withinLease (attempt : Attempt) : Bool := attempt.item.lockedUntil.any (attempt.finish < ·)

/-- A worker whose claim is the given event of a run delivers an item. -/
def Run.Delivers (run : Run) (n : ℕ) (attempt : Attempt) : Prop :=
  ∃ call, run.events n = .claim call ∧ run.kind.accepts call.worker ∧
    attempt ∈ call.attempts duration (run.stateAt n)

/-- Time does not run backwards, and no worker reports a delivery before its end. -/
structure Run.InOrder (run : Run) : Prop where
  clock : Monotone fun n => (run.events n).time
  reports : ∀ n m attempt token, n < m → run.Delivers duration n attempt → attempt.item.claimToken = some token →
    (run.events m).reports = some (attempt.item.id, token) → attempt.finish ≤ (run.events m).time

variable {duration}

theorem deliverEach_finish_lt {time deadline : Timestamp} {items : List Item} (h : time < deadline) :
    (∀ attempt ∈ deliverEach duration time items, attempt.finish < deadline) ↔
      time + (items.map duration).sum < deadline := by
  induction items generalizing time with
  | nil => simp [deliverEach, h]
  | cons item rest ih =>
    rw [deliverEach, forall_mem_cons, map_cons, sum_cons, ← Nat.add_assoc]
    constructor
    · rintro ⟨hfs, hrest⟩
      exact (ih hfs).mp hrest
    · intro hall
      have hfs := Nat.lt_of_le_of_lt (Nat.le_add_right _ _) hall
      exact ⟨hfs, (ih hfs).mpr hall⟩

theorem deliverEach_items (time : Timestamp) (items : List Item) :
    (deliverEach duration time items).map Attempt.item = items := by
  induction items generalizing time with
  | nil => rfl
  | cons item rest ih => rw [deliverEach, map_cons, ih]

/-- What is delivered was claimed, with the lease of the claim. -/
theorem ClaimCall.taken_of_mem {attempt : Attempt} (h : attempt ∈ call.attempts duration t) :
    ∃ item ∈ call.picked t, attempt.item = call.taken item ∧ (call.taken item).id = item.id ∧
      attempt.item.status = .processing ∧
      attempt.item.lockedUntil = some (call.now + leaseLength call.lease) := by
  have hitem := mem_map_of_mem (f := Attempt.item) h
  rw [ClaimCall.attempts, deliverEach_items] at hitem
  obtain ⟨item, hpc, hitem⟩ := mem_map.mp hitem
  have hcl := (isClaimable_of_mem_picked hpc).2
  simp only [Item.isClaimable, cond_iff] at hcl
  refine ⟨item, hpc, hitem.symm, ?_⟩
  rw [← hitem, ClaimCall.taken, Item.claim, dif_pos hcl.1]
  exact ⟨rfl, rfl, rfl⟩

theorem le_start_of_mem {time : Timestamp} {items : List Item} {attempt : Attempt}
    (h : attempt ∈ deliverEach duration time items) : time ≤ attempt.start := by
  induction items generalizing time with
  | nil => exact absurd h not_mem_nil
  | cons item rest ih =>
    rcases mem_cons.mp h with rfl | hrest
    · exact le_rfl
    · exact (Nat.le_add_right _ _).trans (ih hrest)

variable {deadline : Timestamp}

theorem Attempt.withinLease_iff {attempt : Attempt} (h : attempt.item.lockedUntil = some deadline) :
    attempt.withinLease ↔ attempt.finish < deadline := by
  rw [Attempt.withinLease, h, any_some, decide_eq_true_eq]

/-- An item that is held is taken only once its lease has run out. -/
theorem deadline_le_of_picked (hst : item.status = .processing) (hun : item.lockedUntil = some deadline)
    (hpc : item ∈ call.picked t) : deadline ≤ call.now := by
  have hcl := (isClaimable_of_mem_picked hpc).2
  simp [Item.isClaimable, hst, hun, Status.isWaiting] at hcl
  exact hcl.2

/-- A delivery that ends within its lease is over when the item is no longer held under its claim. -/
theorem Run.InOrder.held_or_over {attempt : Attempt} {m : ℕ} (ho : run.InOrder duration)
    (hdl : run.Delivers duration n attempt) (hfn : attempt.withinLease) (hm : n + 1 ≤ m) :
    (run.stateAt m).find? attempt.item.id = some attempt.item ∨ attempt.finish ≤ (run.events m).time := by
  obtain ⟨call, hev, hwr, hat⟩ := hdl
  obtain ⟨item, hpc, htk, hid, hst, hun⟩ := ClaimCall.taken_of_mem hat
  rw [Attempt.withinLease_iff hun] at hfn
  induction m, hm using Nat.le_induction with
  | base =>
    rw [Run.stateAt, hev, htk, hid]
    exact .inl (find?_claimed hwr hpc)
  | succ m hm ih =>
    have hcl : (run.events m).time ≤ (run.events (m + 1)).time := ho.clock (Nat.le_succ m)
    rcases ih with hheld | hover
    · rcases find?_stateAt_succ attempt.item.id m with hsame | ⟨hnone, _⟩ | ⟨held, _, hbef, _, hstep⟩
      · exact .inl (hsame.trans hheld)
      · cases hnone.symm.trans hheld
      · obtain rfl := some.inj (hheld.symm.trans hbef)
        rcases hstep.letGo hst with ⟨token, hrp, hhs⟩ | hexp
        · exact .inr ((ho.reports n m attempt token hm ⟨call, hev, hwr, hat⟩ (Item.holds_iff.mp hhs).2 hrp).trans
            hcl)
        · rw [hun, any_some, decide_eq_true_eq] at hexp
          exact .inr ((hfn.le.trans hexp).trans hcl)
    · exact .inr (hover.trans hcl)

/-- All leases of a batch start with the claim: a worker keeps to them, and the next to claim an item finds its
delivery over, exactly if the deliveries of the batch together take less time than one lease. If every batch of a
run is like that, no two of any number of workers deliver an item at the same time. -/
theorem batch_within_leases_iff (duration : Item → ℕ) :
    (∀ (call : ClaimCall) (t : Table Item), (∀ attempt ∈ call.attempts duration t, attempt.withinLease ∧
      ∀ (other : ClaimCall) (t' : Table Item), attempt.item ∈ other.picked t' → attempt.finish < other.now) ↔
      (((call.picked t).map call.taken).map duration).sum < leaseLength call.lease) ∧
    ∀ run : Run, run.InOrder duration → (∀ n call, run.events n = .claim call →
        ((((call.picked (run.stateAt n)).map call.taken).map duration).sum < leaseLength call.lease)) →
      ∀ n m first second, n < m → run.Delivers duration n first → run.Delivers duration m second →
        first.item.id = second.item.id → first.finish ≤ second.start := by
  have hexac (call : ClaimCall) (t : Table Item) : (∀ attempt ∈ call.attempts duration t, attempt.withinLease) ↔
      (((call.picked t).map call.taken).map duration).sum < leaseLength call.lease := by
    have hls : 0 < leaseLength call.lease := by
      unfold leaseLength
      split <;> omega
    rw [← Nat.add_lt_add_iff_left (k := call.now), ← deliverEach_finish_lt (Nat.lt_add_of_pos_right hls)]
    refine forall₂_congr fun attempt hat => ?_
    obtain ⟨_, _, _, _, _, hun⟩ := ClaimCall.taken_of_mem hat
    exact Attempt.withinLease_iff hun
  refine ⟨fun call t => ?_, fun run ho hbt n m first second hlt hfs hsc hsame => ?_⟩
  · rw [← hexac call t]
    refine forall₂_congr fun attempt hat => and_iff_left_of_imp fun hfn other t' hpc => ?_
    obtain ⟨_, _, _, _, hst, hun⟩ := ClaimCall.taken_of_mem hat
    exact ((Attempt.withinLease_iff hun).mp hfn).trans_le (deadline_le_of_picked hst hun hpc)
  · obtain ⟨call, hev, _, hat⟩ := id hfs
    have hin := (hexac call _).mpr (hbt n call hev) first hat
    obtain ⟨_, _, _, _, hst, hun⟩ := ClaimCall.taken_of_mem hat
    obtain ⟨call', hev', _, hat'⟩ := hsc
    refine le_trans ?_ (le_start_of_mem hat')
    rcases ho.held_or_over hfs hin hlt with hheld | hover
    · -- the item is still held, so that the claim has waited for its lease
      obtain ⟨item, hpc, htk, hid, _⟩ := ClaimCall.taken_of_mem hat'
      have hitem : item = first.item := eq_of_rowId (isClaimable_of_mem_picked hpc).1 (found hheld).1
        (hid.symm.trans ((congrArg Item.id htk).symm.trans hsame.symm))
      exact ((Attempt.withinLease_iff hun).mp hin).le.trans (deadline_le_of_picked hst hun (hitem ▸ hpc))
    · rwa [hev'] at hover

/-- Two webhooks take ten seconds each, with a lease of 15 seconds: the second delivery outlives its lease. -/
theorem second_delivery_outlives_lease : ∃ (t : Table Item) (call : ClaimCall), call.lease = 15000 ∧
    (call.attempts (fun _ => 10000) t).map Attempt.withinLease = [true, false] := by
  let rows : List Item := [.enqueued 1 "a" 3 none 0, .enqueued 2 "b" 3 none 0]
  have hsor : (rows.mergeSort fun a b => a.place ≤ b.place) = rows := by
    simp [rows, mergeSort, show Item.place (.enqueued 1 "a" 3 none 0) ≤
      Item.place (.enqueued 2 "b" 3 none 0) from by decide]
  refine ⟨⟨rows, by decide⟩, ⟨"worker", 20, 15000, 0, fun n => n, fun _ => false⟩, rfl, ?_⟩
  change (deliverEach _ 0 (((rows.mergeSort fun a b => a.place ≤ b.place).take 20).map _)).map _ = _
  rw [hsor]
  decide +kernel

end ModelDock.Outbox
