import ModelDock.Store.Funding.Attempt

/-!
# Settling provider budgets

`settleFunding` and `settleProviderBudgetReservation` move a reserved cost to the spent part of a month's budget:
the month of the application's clock, and the one the reservation was made in.
-/

namespace ModelDock.Store

open Relational Pricing

/-- Settle the open budget reservation of an operation with a cost, given as the number it parses as
and written with twelve digits. -/
def settleProviderBudgetReservation (operationId : Uuid) (actualCost : Option ℚ) (db : Db) :
    Except StoreError Db :=
  match db.budgets.reservations.rows.find? fun row => row.operationId = operationId with
  | none => .ok db
  | some reservation =>
    if reservation.status ≠ .reserved then .ok db
    else do
      let actual ← required actualCost .invalidProviderCost
      ensure (0 ≤ actual) .invalidProviderCost
      ensure (actual ≤ rat reservation.maximumCost.units) .providerBudgetExceeded
      let usage ← db.budgets.usage.update
        (Nat.pair reservation.providerId reservation.periodMonth) fun budget =>
          budget.settle reservation.maximumCost.units (formatRat actual)
      let settledCost ← money (formatRat actual)
      return { db with budgets :=
        { usage := usage
          reservations := db.budgets.reservations.replace { reservation with
            settledCost := settledCost, status := if 0 < actual then .settled else .released } } }

/-- A budget reservation is settled with a cost in the budget of a month. -/
structure SettlesReservation (reservation : BudgetReservation) (month : Month) (budgets budgets' : Budgets) :
    Prop where
  stored : reservation ∈ budgets.reservations.rows
  reserved : reservation.status = .reserved
  written : ∃ settled : BudgetReservation, budgets'.reservations = budgets.reservations.replace settled ∧
    settled.id = reservation.id ∧ settled.operationId = reservation.operationId ∧
    settled.providerId = reservation.providerId ∧ settled.periodMonth = reservation.periodMonth ∧
    settled.settledCost.units ≤ reservation.maximumCost.units ∧
    (settled.status = .settled ∨ settled.status = .released ∧ settled.settledCost.units = 0) ∧
    budgets.usage.update (Nat.pair reservation.providerId month) (fun budget =>
      budget.settle reservation.maximumCost.units settled.settledCost.units) = .ok budgets'.usage

variable {s : Session} {req : FundingSettlementRequest} {op : FundingOperation}
  {opId : Uuid} {actualCost : Option ℚ} {catalog : Catalog} {budgets budgets' : Budgets} {db db' : Db}

/-- A settlement settles the open reservation of its operation, if there is one. -/
theorem settleBudget_eq_ok (h : settleBudget s req op catalog budgets = .ok budgets') :
    (budgets' = budgets ∧ ∀ row ∈ budgets.reservations.rows, row.operationId = op.id →
      row.status ≠ .reserved) ∨
    ∃ resv, resv.operationId = op.id ∧
      SettlesReservation resv (providerBudgetMonth s.clock) budgets budgets' := by
  unfold settleBudget at h
  split at h
  · next hnone =>
    cases h
    refine .inl ⟨rfl, fun row hrow hid hrs => ?_⟩
    exact (List.find?_eq_none.mp hnone row hrow) (by simp [hid, hrs])
  · next resv hf =>
    obtain ⟨hmem, hid, hrs⟩ := queried hf
    simp only [eq_ok, money_eq_ok] at h
    obtain ⟨_, _, _, _, _, hle, _, hus, cost, hcost, rfl⟩ := h
    subst hcost
    refine .inr ⟨resv, hid, hmem, hrs, _, rfl, rfl, rfl, rfl, rfl, hle, ?_, hus⟩
    by_cases hpos : 0 < cost.units
    · exact .inl (if_pos hpos)
    · exact .inr ⟨if_neg hpos, le_antisymm (not_lt.mp hpos) cost.nonneg⟩

theorem settleProviderBudgetReservation_eq_ok
    (h : settleProviderBudgetReservation opId actualCost db = .ok db') :
    db' = db ∨ ∃ resv, SettlesReservation resv resv.periodMonth db.budgets db'.budgets := by
  unfold settleProviderBudgetReservation at h
  split at h
  · cases h
    exact .inl rfl
  · next resv hf =>
    split at h
    · cases h
      exact .inl rfl
    · next hrs =>
      simp only [eq_ok, money_eq_ok] at h
      obtain ⟨actual, _, _, hnn, _, hle, _, hus, cost, hcost, rfl⟩ := h
      have hbn : cost.units ≤ resv.maximumCost.units := by
        rw [hcost]
        exact Numeric.quantize_le_of_le hle
      rw [← hcost] at hus
      refine .inr ⟨resv, List.mem_of_find?_eq_some hf, not_not.mp hrs, _, rfl, rfl, rfl,
        rfl, rfl, hbn, ?_, hus⟩
      by_cases hpos : 0 < actual
      · exact .inl (if_pos hpos)
      · have hzero : actual = 0 := le_antisymm (not_lt.mp hpos) hnn
        refine .inr ⟨if_neg hpos, ?_⟩
        rw [hcost, hzero, formatRat_zero]

end ModelDock.Store
