import Mathlib.Algebra.Order.BigOperators.Group.List
import Mathlib.Algebra.Order.Ring.Int
import ModelDock.Relational.History
import ModelDock.Relational.Transaction

/-!
# Free-model quotas

A request of the free router reserves its estimate in the row of its day, and settles what it used in the same
row, after midnight too. Both hold the lock of the row, so requests in flight interleave as whole calls. The
request limit is a 32-bit column and estimates are small, so no sum overflows.
-/

namespace ModelDock.Gateway

open Relational List

/-- A row of `free_model_usage_daily`. -/
structure FreeUsage where
  (requests reserved settled : ℤ)

/-- The date, project and key of a row. -/
abbrev UsageScope := ℕ × ℕ × ℕ

/-- A request of the gateway, which uses no more than it estimated. -/
structure FreeRequest where
  scope : UsageScope
  (estimate actual : ℤ)
  within : actual ≤ estimate
deriving DecidableEq

/-- The rows, all zero where there is none, and the requests admitted and not yet settled. -/
structure FreeRouter where
  usage : UsageScope → FreeUsage
  admitted : List FreeRequest

/-- Why the free router refuses a call. -/
inductive FreeError
  | invalidEstimate | routeDisabled | quotaExceeded | invalidSettlement | notAdmitted

/-- The start of a free request, or its settlement. -/
inductive FreeCall
  | start (request : FreeRequest)
  | settle (request : FreeRequest)

-- The request and token limits in the settings of a project.
variable (limits : ℕ → Option (ℕ × ℕ)) (scope : UsageScope) (estimate actual : ℤ) (row : FreeUsage)

/-- Reserve the estimate of a request in its row, within the limits of the project. -/
def admitFreeModelUsage : Except FreeError FreeUsage := do
  ensure (0 ≤ estimate) .invalidEstimate
  let limit ← required (limits scope.2.1) .routeDisabled
  ensure (limit.1 ≠ 0 ∧ limit.2 ≠ 0) .routeDisabled
  ensure (row.requests + 1 ≤ limit.1 ∧ row.reserved + row.settled + estimate ≤ limit.2) .quotaExceeded
  return { row with requests := row.requests + 1, reserved := row.reserved + estimate }

/-- Turn the estimate of a request into its actual tokens. -/
def settleFreeModelUsage : Except FreeError FreeUsage := do
  ensure (0 ≤ estimate ∧ 0 ≤ actual) .invalidSettlement
  return { row with reserved := max 0 (row.reserved - estimate), settled := row.settled + actual }

/-- The gateway settles what it admitted, and settles it once. -/
def execFree (call : FreeCall) (st : FreeRouter) : Except FreeError FreeRouter := do
  match call with
  | .start request =>
    let row ← admitFreeModelUsage limits request.scope request.estimate (st.usage request.scope)
    return ⟨Function.update st.usage request.scope row, request :: st.admitted⟩
  | .settle request =>
    ensure (request ∈ st.admitted) .notAdmitted
    let row ← settleFreeModelUsage request.estimate request.actual (st.usage request.scope)
    return ⟨Function.update st.usage request.scope row, st.admitted.erase request⟩

/-- The estimates of the admitted requests of a row. -/
def pendingEstimates (admitted : List FreeRequest) : ℤ :=
  (admitted.map fun request => if request.scope = scope then request.estimate else 0).sum

/-- Every row reserves what is admitted and stays within its limits. -/
structure Accounted (st : FreeRouter) : Prop where
  nonneg : ∀ request ∈ st.admitted, 0 ≤ request.estimate
  row : ∀ scope, (st.usage scope).reserved = pendingEstimates scope st.admitted ∧
    ∀ limit ∈ limits scope.2.1, (st.usage scope).requests ≤ limit.1 ∧
      (st.usage scope).reserved + (st.usage scope).settled ≤ limit.2

variable {limits} {scope} {st st' : FreeRouter} {request : FreeRequest} {call : FreeCall}

theorem pendingEstimates_erase {admitted : List FreeRequest} (scope : UsageScope) (hmem : request ∈ admitted) :
    (if request.scope = scope then request.estimate else 0) + pendingEstimates scope (admitted.erase request) =
      pendingEstimates scope admitted :=
  sum_map_erase (fun other => if other.scope = scope then other.estimate else 0) hmem

/-- The clamp of a settlement is never needed. -/
theorem Accounted.estimate_le (h : Accounted limits st) (hmem : request ∈ st.admitted) :
    request.estimate ≤ (st.usage request.scope).reserved := by
  have hrest : 0 ≤ pendingEstimates request.scope (st.admitted.erase request) := by
    refine sum_nonneg fun x hx => ?_
    obtain ⟨other, hne, rfl⟩ := mem_map.mp hx
    split
    · exact h.nonneg other (mem_of_mem_erase hne)
    · exact le_rfl
  rw [(h.row _).1, ← pendingEstimates_erase _ hmem, if_pos rfl]
  omega

theorem Accounted.step (h : Accounted limits st) (hexec : execFree limits call st = .ok st') :
    Accounted limits st' := by
  cases call with
  | start request =>
    simp only [execFree, admitFreeModelUsage, eq_ok] at hexec
    obtain ⟨_, ⟨_, hnn, limit, hlm, _, _, _, hfits, rfl⟩, rfl⟩ := hexec
    refine ⟨forall_mem_cons.mpr ⟨hnn, h.nonneg⟩, fun scope => ?_⟩
    obtain ⟨hrs, hin⟩ := h.row scope
    by_cases hsc : request.scope = scope
    · subst hsc
      simp only [Function.update_self, pendingEstimates, map_cons, sum_cons, if_true] at hrs ⊢
      refine ⟨by omega, fun _ hne => ?_⟩
      obtain rfl := Option.mem_unique hlm hne
      omega
    · simpa [Function.update_of_ne (Ne.symm hsc), pendingEstimates, hsc] using h.row scope
  | settle request =>
    simp only [execFree, settleFreeModelUsage, eq_ok] at hexec
    obtain ⟨_, hmem, _, ⟨_, _, rfl⟩, rfl⟩ := hexec
    have hle := h.estimate_le hmem
    refine ⟨fun other hne => h.nonneg other (mem_of_mem_erase hne), fun scope => ?_⟩
    obtain ⟨hrs, hin⟩ := h.row scope
    have hsum := pendingEstimates_erase scope hmem
    by_cases hsc : request.scope = scope
    · subst hsc
      rw [if_pos rfl] at hsum
      simp only [Function.update_self]
      refine ⟨by omega, fun limit hlm => ?_⟩
      have hused := request.within
      have hbef := hin limit hlm
      omega
    · rw [if_neg hsc, zero_add] at hsum
      simp only [Function.update_of_ne (Ne.symm hsc), hsum]
      exact h.row scope

/-- Whatever requests are admitted and settled, in any order and over any days, every row reserves the estimates
still pending and passes none of its limits. -/
theorem free_quota_kept (calls : List FreeCall) :
    let st := run (execFree limits) ⟨fun _ => ⟨0, 0, 0⟩, []⟩ calls
    (st.usage scope).reserved = pendingEstimates scope st.admitted ∧
      (∀ request ∈ st.admitted, request.estimate ≤ (st.usage request.scope).reserved) ∧
      ∀ limit ∈ limits scope.2.1, (st.usage scope).requests ≤ limit.1 ∧
        (st.usage scope).reserved + (st.usage scope).settled ≤ limit.2 := by
  have h : Accounted limits (run (execFree limits) ⟨fun _ => ⟨0, 0, 0⟩, []⟩ calls) :=
    run_invariant (fun _ _ _ h (_ : True) hexec => h.step hexec) ⟨by simp, fun _ => ⟨rfl, by simp⟩⟩
      (.of_forall fun _ _ => trivial)
  exact ⟨(h.row scope).1, fun _ => h.estimate_le, (h.row scope).2⟩

end ModelDock.Gateway
