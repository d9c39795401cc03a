import ModelDock.Concurrency.Lease
import ModelDock.Relational.Transaction

/-!
# Requests and tokens counted by the minute

Every gateway adds to Redis counters that are named after the minute on its own clock. A script may run a while
after the clock was read; the counters outlive their minute by ten seconds to bridge that.
-/

namespace ModelDock.RateLimit

open Relational Concurrency

/-- What a counter of a minute counts. -/
inductive Counter
  | requests (keyId : String)
  | tokens (keyId : String)
  | organization (organizationId : String)
  | provider (providerId : String)
deriving DecidableEq

/-- The keys of one minute. -/
abbrev Counters := Counter → Option ActiveKey

/-- What a call adds to a counter, and the limit it asks for. -/
structure Charge where
  counter : Counter
  amount : ℕ
  limit : ℤ

/-- What a script answers. -/
structure Result where
  allowed : Bool
  counts : List ℤ
  retryAfter : ℕ

variable (now : ℕ)

/-- `INCRBY`; at its first amount the counter gets 70 seconds to live. -/
def bump (charge : Charge) (key : Option ActiveKey) : ActiveKey :=
  let value := activeCount now key + charge.amount
  ⟨value, if value = charge.amount then some (now + 70000) else (live now key).bind ActiveKey.expiresAt⟩

/-- Bump the counters of all charges, one after the other. -/
def bumpAll : List Charge → Counters → List ActiveKey × Counters
  | [], counters => ([], counters)
  | charge :: rest, counters =>
    let active := bump now charge (counters charge.counter)
    let result := bumpAll rest (Function.update counters charge.counter (some active))
    (active :: result.1, result.2)

/-- The seconds that `TTL` answers, or a minute if there are none. -/
def retryAfter (active : ActiveKey) : ℕ :=
  let ttl := active.expiresAt.elim 0 fun expiry => (expiry - now + 500) / 1000
  if ttl < 1 then 60 else ttl

/-- Both scripts: a call that is refused has counted as well. -/
def script (charges : List Charge) (counters : Counters) : Result × Counters :=
  let result := bumpAll now charges counters
  (⟨(charges.zip result.1).all fun pair => pair.2.value ≤ pair.1.limit, result.1.map ActiveKey.value,
    result.1.head?.elim 0 (retryAfter now)⟩, result.2)

/-- A call of the limiter. -/
inductive LimiterCall
  | allow (keyId : String) (rpm tpm estimatedTokens : ℤ)
  | allowOrganization (organizationId : String) (rpm : ℤ)
  | allowProvider (providerId : String) (rpm : ℤ)

/-- Why a call is not answered. -/
inductive LimiterError
  | unavailable

/-- The keys and arguments of a call's script; a provider without a limit is not counted. -/
def LimiterCall.charges : LimiterCall → Except LimiterError (List Charge)
  | .allow keyId rpm tpm estimatedTokens => .ok [
      ⟨.requests keyId, 1, if rpm ≤ 0 then 60 else rpm⟩,
      ⟨.tokens keyId, if estimatedTokens < 1 then 1 else estimatedTokens.toNat, if tpm ≤ 0 then 100000 else tpm⟩]
  | .allowOrganization organizationId rpm =>
    if rpm ≤ 0 then .error .unavailable else .ok [⟨.organization organizationId, 1, rpm⟩]
  | .allowProvider providerId rpm => .ok (if rpm ≤ 0 then [] else [⟨.provider providerId, 1, rpm⟩])

/-- The counters of a minute, and the charges allowed in it, newest first. -/
structure Minute where
  counters : Counters
  admitted : List Charge

/-- The clock of Redis, and its counters minute by minute. -/
structure LimiterState where
  now : ℕ
  minutes : ℕ → Minute

/-- Time passes, or a script runs less than ten seconds after its gateway read the clock. -/
inductive LimiterEvent
  | wait (milliseconds : ℕ)
  | call (call : LimiterCall) (delay : Fin 10000)

/-- Let time pass, or run the script of a call in the minute its gateway has read. -/
def limiterStep (event : LimiterEvent) (st : LimiterState) : Except LimiterError LimiterState :=
  match event with
  | .wait milliseconds => .ok { st with now := st.now + milliseconds }
  | .call call delay => do
    let charges ← call.charges
    let n := (st.now - delay) / 60000
    let result := script st.now charges (st.minutes n).counters
    return { st with minutes := Function.update st.minutes n ⟨result.2,
      if result.1.allowed then charges.reverse ++ (st.minutes n).admitted else (st.minutes n).admitted⟩ }

/-- The amount that was allowed on a counter. -/
def booked (counter : Counter) (admitted : List Charge) : ℕ :=
  (admitted.map fun charge => if charge.counter = counter then charge.amount else 0).sum

/-- Each charge was within its limit, together with all that was allowed on its counter before. -/
def WithinLimits : List Charge → Prop
  | [] => True
  | charge :: earlier => booked charge.counter (charge :: earlier) ≤ charge.limit ∧ WithinLimits earlier

/-- The counter is not below the amount, and lives until no script of its minute can run any more. -/
def Covers (n amount : ℕ) (key : Option ActiveKey) : Prop :=
  amount ≤ key.elim 0 ActiveKey.value ∧ ∀ active ∈ key, ∃ expiry ∈ active.expiresAt, n * 60000 + 70000 ≤ expiry

/-- The counters cover what was allowed, and that is within the limits. -/
structure Limited (n : ℕ) (minute : Minute) : Prop where
  covers : ∀ counter, Covers n (booked counter minute.admitted) (minute.counters counter)
  within : WithinLimits minute.admitted

variable {now n amount : ℕ} {log : List Charge} {counters : Counters} {key : Option ActiveKey}
  {st st' : LimiterState}

theorem booked_cons (charge : Charge) (counter : Counter) : booked counter (charge :: log) =
    (if charge.counter = counter then charge.amount else 0) + booked counter log := rfl

theorem Covers.bump (h : Covers n amount key) (hstar : n * 60000 ≤ now) (hlast : now < n * 60000 + 70000)
    (charge : Charge) : Covers n (charge.amount + amount) (some (bump now charge key)) := by
  obtain ⟨hvl, hexp⟩ := h
  have hlive : live now key = key := by
    cases key with
    | none => rfl
    | some active =>
      obtain ⟨expiry, hsome, hlate⟩ := hexp active rfl
      have hsome : active.expiresAt = some expiry := hsome
      simp [live, Option.filter, hsome, hlast.trans_le hlate]
  simp only [RateLimit.bump, activeCount, hlive]
  refine ⟨?_, ?_⟩
  · simp only [Option.elim_some]
    omega
  · rintro _ ⟨⟩
    by_cases hfs : key.elim 0 ActiveKey.value + charge.amount = charge.amount
    · rw [if_pos hfs]
      exact ⟨_, Option.mem_some_self _, Nat.add_le_add_right hstar _⟩
    · rw [if_neg hfs]
      cases key with
      | none => exact absurd (zero_add _) hfs
      | some active => exact hexp active rfl

theorem bumpAll_covers (hstar : n * 60000 ≤ now) (hlast : now < n * 60000 + 70000)
    (hcv : ∀ counter, Covers n (booked counter log) (counters counter)) (charges : List Charge) :
    (∀ counter, Covers n (booked counter (charges.reverse ++ log)) ((bumpAll now charges counters).2 counter)) ∧
      (WithinLimits log → (script now charges counters).1.allowed → WithinLimits (charges.reverse ++ log)) := by
  induction charges generalizing log counters with
  | nil => exact ⟨hcv, fun hin _ => hin⟩
  | cons charge rest ih =>
    have hbm := (hcv charge.counter).bump hstar hlast charge
    have hstep : ∀ counter, Covers n (booked counter (charge :: log))
        (Function.update counters charge.counter (some (bump now charge (counters charge.counter))) counter) := by
      intro counter
      rw [booked_cons]
      by_cases hsame : charge.counter = counter
      · subst hsame
        rwa [Function.update_self, if_pos rfl]
      · rw [Function.update_of_ne (Ne.symm hsame), if_neg hsame, zero_add]
        exact hcv counter
    obtain ⟨hcd, hok⟩ := ih hstep
    rw [List.reverse_cons, List.append_assoc, List.singleton_append]
    refine ⟨hcd, fun hin hall => ?_⟩
    simp only [script, bumpAll, List.zip_cons_cons, List.all_cons, Bool.and_eq_true, decide_eq_true_eq] at hall
    refine hok ⟨le_trans ?_ hall.1, hin⟩ hall.2
    rw [booked_cons, if_pos rfl]
    exact hbm.1

theorem Limited.step {event : LimiterEvent} (h : ∀ n, Limited n (st.minutes n))
    (hstep : limiterStep event st = .ok st') : ∀ n, Limited n (st'.minutes n) := by
  intro n
  cases event with
  | wait _ =>
    cases hstep
    exact h n
  | call call delay =>
    simp only [limiterStep, eq_ok] at hstep
    obtain ⟨charges, _, rfl⟩ := hstep
    simp only [Function.update_apply]
    split
    · next hsame =>
      have hdl := delay.isLt
      subst hsame
      have hstar : (st.now - delay) / 60000 * 60000 ≤ st.now := by omega
      obtain ⟨hcv, hin⟩ := bumpAll_covers hstar (by omega) (h _).covers charges
      split
      · next hok => exact ⟨hcv, hin (h _).within hok⟩
      · refine ⟨fun counter => ⟨le_trans ?_ (hcv counter).1, (hcv counter).2⟩, (h _).within⟩
        rw [booked, booked, List.map_append, List.sum_append]
        exact Int.ofNat_le.mpr (Nat.le_add_left _ _)
    · exact h n

/-- Redis before the first call. -/
def noCalls (now : ℕ) : LimiterState := ⟨now, fun _ => ⟨fun _ => none, []⟩⟩

theorem limited_run (now : ℕ) (events : List LimiterEvent) :
    ∀ n, Limited n ((run limiterStep (noCalls now) events).minutes n) := by
  have hnone (n : ℕ) : Limited n ((noCalls now).minutes n) :=
    ⟨fun _ => ⟨le_refl _, fun _ hac => by cases hac⟩, trivial⟩
  have hall : Along limiterStep (fun _ _ => True) (noCalls now) events := Along.of_forall fun _ _ => trivial
  exact run_invariant (fun _ _ _ hinv _ hstep => Limited.step hinv hstep) hnone hall

/-- However the calls of all gateways interleave, none is allowed that takes its minute above a limit. -/
theorem admitted_within_limits (now : ℕ) (events : List LimiterEvent) (n : ℕ) :
    WithinLimits ((run limiterStep (noCalls now) events).minutes n).admitted :=
  (limited_run now events n).within

/-- A client that waits as long as it is told is counted in a later minute. -/
theorem retryAfter_leaves_minute (now : ℕ) (events : List LimiterEvent) (charge : Charge) (rest : List Charge)
    (delay : Fin 10000) :
    let st := run limiterStep (noCalls now) events
    let n := (st.now - delay) / 60000
    n < (st.now + 1000 * (script st.now (charge :: rest) (st.minutes n).counters).1.retryAfter) / 60000 := by
  intro st n
  have hdl := delay.isLt
  have hstar : n * 60000 ≤ st.now := by omega
  have hcv := ((limited_run now events n).covers charge.counter).bump hstar (by omega) charge
  obtain ⟨expiry, hexp, hlate⟩ := hcv.2 _ rfl
  have hexp : (bump st.now charge ((st.minutes n).counters charge.counter)).expiresAt = some expiry := hexp
  simp only [script, bumpAll, List.head?_cons, Option.elim_some, retryAfter, hexp]
  split <;> omega

end ModelDock.RateLimit
