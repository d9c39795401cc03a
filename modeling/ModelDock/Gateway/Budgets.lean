import Mathlib.Algebra.Order.BigOperators.Group.Finset
import Mathlib.Algebra.Order.Monoid.Prod
import ModelDock.Relational.History
import ModelDock.Relational.Transaction

/-!
# Project budgets

A budget compares the usage logged so far with its limit and reserves nothing, so requests in flight together are
all compared with the same usage.
-/

namespace ModelDock.Gateway

open Relational

/-- How long a budget lasts. -/
inductive BudgetPeriod
  | daily
  | monthly

/-- A budget of a project, with the limits it sets on a period. -/
structure BudgetPolicy where
  (active enforceHardLimit : Bool)
  period : BudgetPeriod
  (tokenLimit costLimit : Option ℕ)

/-- A request, with the date its log is made under, the later one its budgets are checked at, and what the log
records: no more tokens than were estimated. -/
structure BudgetRequest where
  (createdAt now : ℕ × ℕ)
  (estimate tokens cost : ℕ)
  within : tokens ≤ estimate

/-- A request is admitted, or what it used is logged. -/
inductive BudgetCall (ι : Type)
  | start (i : ι)
  | log (i : ι)

/-- The first date of the period of a date, which is a month and a day of it. -/
def BudgetPeriod.from : BudgetPeriod → ℕ × ℕ → ℕ × ℕ
  | .daily, date => date
  | .monthly, date => (date.1, 1)

variable {ι : Type} (policies : List BudgetPolicy) (request : ι → BudgetRequest) (logged : Finset ι)

/-- The tokens and the cost logged in the period of a date. -/
def projectBudgetUsage (period : BudgetPeriod) (date : ℕ × ℕ) : ℕ × ℕ :=
  ∑ i ∈ logged with period.from (request i).createdAt = period.from date, ((request i).tokens, (request i).cost)

/-- Whether a budget blocks the request. -/
def admitProjectBudgets (i : ι) : Bool :=
  policies.any fun policy =>
    let usage := projectBudgetUsage request logged policy.period (request i).now
    policy.active && policy.enforceHardLimit &&
      (policy.tokenLimit.any (· < usage.1 + (request i).estimate) || policy.costLimit.any (· ≤ usage.2))

/-- The requests admitted and those logged. Each is logged once, after it was admitted. -/
def execBudget [DecidableEq ι] (call : BudgetCall ι) (st : Finset ι × Finset ι) :
    Except Unit (Finset ι × Finset ι) := do
  match call with
  | .start i =>
    ensure (admitProjectBudgets policies request st.2 i = false) ()
    return (insert i st.1, st.2)
  | .log i =>
    ensure (i ∈ st.1) ()
    return (st.1, insert i st.2)

/-- A request that a date's period records is admitted in that period, with few tokens of it in flight: of
requests that were admitted before and are not logged yet. -/
def OverlapWithin [DecidableEq ι] (period : BudgetPeriod) (date : ℕ × ℕ) (slack : ℕ) (st : Finset ι × Finset ι) :
    BudgetCall ι → Prop
  | .start i => period.from (request i).createdAt = period.from date →
    period.from (request i).now = period.from date ∧
      (projectBudgetUsage request (st.1 \ st.2) period date).1 ≤ slack
  | .log _ => True

variable {policies request logged} {i : ι} {admitted : Finset ι} {policy : BudgetPolicy} {period : BudgetPeriod}
  {date date' : ℕ × ℕ} {limit slack : ℕ}

/-- The usage of a period depends on its first date alone. -/
theorem projectBudgetUsage_congr (h : period.from date' = period.from date) :
    projectBudgetUsage request logged period date' = projectBudgetUsage request logged period date := by
  rw [projectBudgetUsage, projectBudgetUsage, h]

theorem projectBudgetUsage_mono (h : logged ⊆ admitted) :
    projectBudgetUsage request logged period date ≤ projectBudgetUsage request admitted period date :=
  Finset.sum_le_sum_of_subset (Finset.filter_subset_filter _ h)

/-- What a hard limit leaves room for when it lets a request pass. -/
theorem tokens_le_of_admitted (hpl : policy ∈ policies) (hac : policy.active)
    (hhard : policy.enforceHardLimit) (hlm : policy.tokenLimit = some limit)
    (h : admitProjectBudgets policies request logged i = false) :
    (projectBudgetUsage request logged policy.period (request i).now).1 + (request i).estimate ≤ limit := by
  have hps := List.any_eq_false.mp h policy hpl
  simp only [hac, hhard, hlm, Option.any_some, Bool.true_and, Bool.or_eq_true, decide_eq_true_eq, not_or,
    not_lt] at hps
  exact hps.1

variable [DecidableEq ι] {st st' : Finset ι × Finset ι} {call : BudgetCall ι}

theorem projectBudgetUsage_insert (hi : i ∉ logged) :
    projectBudgetUsage request (insert i logged) period date = projectBudgetUsage request logged period date +
      if period.from (request i).createdAt = period.from date then ((request i).tokens, (request i).cost)
      else (0, 0) := by
  simp only [projectBudgetUsage, Finset.sum_filter, Finset.sum_insert hi, Prod.mk_zero_zero, add_comm]

theorem projectBudgetUsage_sdiff (h : logged ⊆ admitted) :
    projectBudgetUsage request (admitted \ logged) period date + projectBudgetUsage request logged period date =
      projectBudgetUsage request admitted period date := by
  simp only [projectBudgetUsage, Finset.sum_filter, Finset.sum_sdiff h]

variable (request period date) in
/-- What is logged was admitted, and what was admitted stays near the limit. -/
structure NearLimit (bound : ℕ) (st : Finset ι × Finset ι) : Prop where
  logged : st.2 ⊆ st.1
  admitted : (projectBudgetUsage request st.1 period date).1 ≤ bound

theorem NearLimit.step (hpl : policy ∈ policies) (hac : policy.active) (hhard : policy.enforceHardLimit)
    (hlm : policy.tokenLimit = some limit) (hst : NearLimit request policy.period date (limit + slack) st)
    (hover : OverlapWithin request policy.period date slack st call)
    (h : execBudget policies request call st = .ok st') :
    NearLimit request policy.period date (limit + slack) st' := by
  cases call with
  | start i =>
    simp only [execBudget, eq_ok] at h
    obtain ⟨_, hps, rfl⟩ := h
    refine ⟨hst.logged.trans (Finset.subset_insert _ _), ?_⟩
    by_cases hi : i ∈ st.1
    · simpa only [Finset.insert_eq_of_mem hi] using hst.admitted
    rw [projectBudgetUsage_insert hi]
    split_ifs with hpr
    · -- the usage that was compared leaves out what is in flight
      obtain ⟨hnow, hfl⟩ := hover hpr
      have hroom := tokens_le_of_admitted hpl hac hhard hlm hps
      rw [projectBudgetUsage_congr hnow] at hroom
      have hsp : (projectBudgetUsage request (st.1 \ st.2) policy.period date).1 +
          (projectBudgetUsage request st.2 policy.period date).1 =
            (projectBudgetUsage request st.1 policy.period date).1 :=
        congrArg Prod.fst (projectBudgetUsage_sdiff hst.logged)
      have hin := (request i).within
      rw [Prod.fst_add]
      omega
    · simpa only [Prod.mk_zero_zero, add_zero] using hst.admitted
  | log i =>
    simp only [execBudget, eq_ok] at h
    obtain ⟨_, hi, rfl⟩ := h
    exact ⟨Finset.insert_subset hi hst.logged, hst.admitted⟩

/-- However requests interleave, what a period records exceeds the token limit of a hard budget by no more than
was in flight when one of its requests was admitted. -/
theorem recorded_within_limit_and_overlap (hpolicy : policy ∈ policies) (hactive : policy.active)
    (hhard : policy.enforceHardLimit) (hlimit : policy.tokenLimit = some limit)
    (hlogged : (projectBudgetUsage request logged policy.period date).1 ≤ limit) (calls : List (BudgetCall ι))
    (hcalls : AlongChanges (execBudget policies request) (OverlapWithin request policy.period date slack)
      (logged, logged) calls) :
    (projectBudgetUsage request (run (execBudget policies request) (logged, logged) calls).2 policy.period
      date).1 ≤ limit + slack := by
  have hrun : NearLimit request policy.period date (limit + slack)
      (run (execBudget policies request) (logged, logged) calls) :=
    run_invariant_of_changes (fun _ _ _ hst hover h => hst.step hpolicy hactive hhard hlimit hover h)
      ⟨Finset.Subset.rfl, le_add_right hlogged⟩ hcalls
  exact (projectBudgetUsage_mono hrun.logged).1.trans hrun.admitted

/-- A request of sixty tokens, as estimated. -/
def demoRequest (createdAt now : ℕ × ℕ) : BudgetRequest :=
  ⟨createdAt, now, 60, 60, 0, le_rfl⟩

/-- A hard limit of a hundred tokens a day. -/
def demoBudget : BudgetPolicy :=
  ⟨true, true, .daily, some 100, none⟩

/-- Two requests overlap by the sixty tokens of one. -/
theorem recorded_within_limit_and_overlap_demo :
    (projectBudgetUsage (fun _ : Fin 2 => demoRequest (1, 1) (1, 1)) (run (execBudget [demoBudget] fun _ : Fin 2 =>
      demoRequest (1, 1) (1, 1)) (∅, ∅) [.start 0, .start 1, .log 0, .log 1]).2 .daily (1, 1)).1 ≤ 100 + 60 := by
  have hpl : demoBudget ∈ [demoBudget] := List.mem_cons_self
  refine recorded_within_limit_and_overlap hpl rfl rfl rfl (by decide) _ ?_
  exact ⟨fun _ _ => by decide, fun _ _ => by decide, fun _ => trivial, fun _ => trivial, trivial⟩

/-- Two requests that overlap record more than the limit, and so does one that is admitted the day after the one
that records it. -/
theorem concurrent_requests_exceed_budget :
    (projectBudgetUsage (fun _ : Fin 2 => demoRequest (1, 1) (1, 1)) (run (execBudget [demoBudget] fun _ : Fin 2 =>
      demoRequest (1, 1) (1, 1)) (∅, ∅) [.start 0, .start 1, .log 0, .log 1]).2 .daily (1, 1)).1 = 120 ∧
    (projectBudgetUsage (fun i : Fin 2 => demoRequest (1, 1) (1, i + 1)) (run (execBudget [demoBudget]
      fun i : Fin 2 => demoRequest (1, 1) (1, i + 1)) (∅, ∅) [.start 0, .log 0, .start 1, .log 1]).2 .daily
        (1, 1)).1 = 120 := by
  decide +kernel

end ModelDock.Gateway
