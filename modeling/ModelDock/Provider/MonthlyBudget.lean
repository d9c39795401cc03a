import ModelDock.Store.ProviderGovernance
import ModelDock.Store.System

/-!
# Monthly provider budgets

The budget of a month counts the maxima of its open reservations and the costs of its settled ones, unless a
reservation is settled in another month than it was made in.
-/

namespace ModelDock.Store

open Relational Table BudgetReservation UsageBudget

/-- What a month's budget of a provider counts in a column; a month without budget counts nothing. -/
def budgetCounts (column : UsageBudget → Money) (usage : Table UsageBudget) (providerId : Uuid) (month : Month) : ℤ :=
  match usage.find? (Nat.pair providerId month) with
  | some budget => (column budget).units
  | none => 0

variable (reservation : BudgetReservation) (providerId : Uuid) (month : Month)

/-- What an open reservation holds of a provider's budget of a month. -/
def BudgetReservation.holds : ℤ :=
  if reservation.providerId = providerId ∧ reservation.periodMonth = month ∧
    reservation.status = .reserved then reservation.maximumCost.units else 0

/-- What a settled reservation spent of a provider's budget of a month. -/
def BudgetReservation.spent : ℤ :=
  if reservation.providerId = providerId ∧ reservation.periodMonth = month ∧
    reservation.status = .settled then reservation.settledCost.units else 0

/-- Every budget counts the maximum costs of its open and the costs of its settled reservations. -/
structure BudgetsExact (budgets : Budgets) : Prop where
  reserved : ∀ providerId month, budgetCounts UsageBudget.reservedCost budgets.usage providerId month =
    budgets.reservations.sum fun row => row.holds providerId month
  spent : ∀ providerId month, budgetCounts UsageBudget.providerCost budgets.usage providerId month =
    budgets.reservations.sum fun row => row.spent providerId month

variable {column : UsageBudget → Money} {usage usage' : Table UsageBudget} {budget new : UsageBudget}
  {reservation : BudgetReservation} {providerId other : Uuid} {month period : Month}
  {budgets budgets' : Budgets} {s : Session}

theorem budgetCounts_nonneg (column : UsageBudget → Money) (usage : Table UsageBudget) (providerId : Uuid)
    (month : Month) : 0 ≤ budgetCounts column usage providerId month := by
  unfold budgetCounts
  split
  · exact Money.nonneg _
  · exact le_refl 0

theorem budgetCounts_replace (hf : usage.find? (Nat.pair providerId month) = some budget)
    (hkey : Keyed.key new = Keyed.key budget) (other : Uuid) (period : Month) :
    budgetCounts column (usage.replace new) other period =
      if other = providerId ∧ period = month then (column new).units
      else budgetCounts column usage other period := by
  obtain ⟨hmem, hid⟩ := found hf
  have hnew : rowId new = Nat.pair providerId month := (congrArg Key.id hkey).trans hid
  unfold budgetCounts
  rw [find?_replace hmem hkey, hnew]
  by_cases hsame : other = providerId ∧ period = month
  · obtain ⟨rfl, rfl⟩ := hsame
    simp
  · have hne : Nat.pair providerId month ≠ Nat.pair other period := by
      intro heq
      obtain ⟨h₁, h₂⟩ := Nat.pair_eq_pair.mp heq
      exact hsame ⟨h₁.symm, h₂.symm⟩
    simp [hsame, hne]

theorem budgetCounts_reserved_settle {maximum cost : ℤ} (hmax : 0 ≤ maximum)
    (h : usage.update (Nat.pair providerId month) (fun row => row.settle maximum cost) = .ok usage')
    (other : Uuid) (period : Month) :
    budgetCounts UsageBudget.reservedCost usage' other period =
      if other = providerId ∧ period = month
      then max 0 (budgetCounts UsageBudget.reservedCost usage other period - maximum)
      else budgetCounts UsageBudget.reservedCost usage other period := by
  rcases update_eq_ok.mp h with ⟨hnone, rfl⟩ | ⟨budget, new, hf, hnew, rfl⟩
  · split
    · next hsame =>
      obtain ⟨rfl, rfl⟩ := hsame
      have hcn : budgetCounts reservedCost usage' other period = 0 := by
        rw [budgetCounts, hnone]
      omega
    · rfl
  · simp only [settle, eq_ok, money_eq_ok] at hnew
    obtain ⟨_, hrs, _, _, hnew⟩ := hnew
    have hkey : Keyed.key new = Keyed.key budget := by rw [← hnew]; rfl
    rw [budgetCounts_replace hf hkey]
    split
    · next hsame =>
      obtain ⟨rfl, rfl⟩ := hsame
      simp only [budgetCounts, hf, ← hnew, hrs]
    · rfl

theorem budgetCounts_spent_settle {maximum cost : ℤ}
    (hcost : usage.find? (Nat.pair providerId month) = none → cost = 0)
    (h : usage.update (Nat.pair providerId month) (fun row => row.settle maximum cost) = .ok usage')
    (other : Uuid) (period : Month) :
    budgetCounts UsageBudget.providerCost usage' other period =
      budgetCounts UsageBudget.providerCost usage other period +
        if other = providerId ∧ period = month then cost else 0 := by
  rcases update_eq_ok.mp h with ⟨hnone, rfl⟩ | ⟨budget, new, hf, hnew, rfl⟩
  · simp [hcost hnone]
  · simp only [settle, eq_ok, money_eq_ok] at hnew
    obtain ⟨_, _, _, hsp, hnew⟩ := hnew
    have hkey : Keyed.key new = Keyed.key budget := by rw [← hnew]; rfl
    rw [budgetCounts_replace hf hkey]
    split
    · next hsame =>
      obtain ⟨rfl, rfl⟩ := hsame
      simp only [budgetCounts, hf, ← hnew, hsp]
    · rw [add_zero]

theorem BudgetsExact.maximum_le (h : BudgetsExact budgets) (hmem : reservation ∈ budgets.reservations.rows)
    (hrs : reservation.status = .reserved) :
    reservation.maximumCost.units ≤ budgetCounts UsageBudget.reservedCost budgets.usage
      reservation.providerId reservation.periodMonth := by
  have hhs : reservation.holds reservation.providerId reservation.periodMonth =
      reservation.maximumCost.units := if_pos ⟨rfl, rfl, hrs⟩
  rw [h.reserved, ← hhs]
  refine le_sum_of_mem (fun row _ => ?_) hmem
  exact ite_nonneg row.maximumCost.nonneg le_rfl

theorem SettlesReservation.exact_iff (h : BudgetsExact budgets)
    (hset : SettlesReservation reservation month budgets budgets') :
    BudgetsExact budgets' ↔
      reservation.periodMonth = month ∨ reservation.maximumCost.units = 0 := by
  obtain ⟨settled, hrs, hid, hop, hpr, hpe, _, hst, hus⟩ := hset.written
  have hkey : Keyed.key settled = Keyed.key reservation := by
    simp only [Keyed.key, hid, hop]
  have hmax := h.maximum_le hset.stored hset.reserved
  have hnn := reservation.maximumCost.nonneg
  have hcost := settled.settledCost.nonneg
  have hrd (other : Uuid) (period : Month) :
      (budgets'.reservations.sum fun row => row.holds other period) =
        budgetCounts reservedCost budgets.usage other period -
          if other = reservation.providerId ∧ period = reservation.periodMonth
          then reservation.maximumCost.units else 0 := by
    have hold : reservation.holds other period =
        if other = reservation.providerId ∧ period = reservation.periodMonth
        then reservation.maximumCost.units else 0 := by
      simp only [holds, hset.reserved, and_true, eq_comm]
    have hnew : settled.holds other period = 0 := by
      rcases hst with hst | ⟨hst, _⟩ <;> simp [holds, hst]
    rw [hrs, sum_replace hset.stored hkey, ← h.reserved, hold, hnew, add_zero]
  have hsp (other : Uuid) (period : Month) :
      (budgets'.reservations.sum fun row => row.spent other period) =
        budgetCounts providerCost budgets.usage other period +
          if other = reservation.providerId ∧ period = reservation.periodMonth
          then settled.settledCost.units else 0 := by
    have hold : reservation.spent other period = 0 := by
      simp [spent, hset.reserved]
    have hnew : settled.spent other period =
        if other = reservation.providerId ∧ period = reservation.periodMonth
        then settled.settledCost.units else 0 := by
      rcases hst with hst | ⟨hst, hnone⟩
      · simp only [spent, hst, hpr, hpe, and_true, eq_comm]
      · simp [spent, hnone]
    rw [hrs, sum_replace hset.stored hkey, ← h.spent, hold, hnew, sub_zero]
  constructor
  · intro hexac
    by_contra hdr
    push Not at hdr
    -- The budget of the reservation's month is not written, but its open reservations shrink.
    have hun := budgetCounts_reserved_settle hnn hus reservation.providerId
      reservation.periodMonth
    rw [hexac.reserved, hrd, if_pos ⟨rfl, rfl⟩, if_neg fun hsame => hdr.1 hsame.2] at hun
    exact hdr.2 (by omega)
  · intro hco
    by_cases hsame : reservation.periodMonth = month
    · subst hsame
      refine ⟨fun other period => ?_, fun other period => ?_⟩
      · rw [hrd, budgetCounts_reserved_settle hnn hus]
        split
        · next hwh =>
          obtain ⟨rfl, rfl⟩ := hwh
          omega
        · rw [sub_zero]
      · have hrow : budgets.usage.find? (Nat.pair reservation.providerId reservation.periodMonth) = none →
            settled.settledCost.units = 0 := by
          intro hnone
          simp only [budgetCounts, hnone] at hmax
          omega
        rw [hsp, budgetCounts_spent_settle hrow hus]
    · have hnot := hco.resolve_left hsame
      have hfree : settled.settledCost.units = 0 := by omega
      refine ⟨fun other period => ?_, fun other period => ?_⟩
      · have hcn := budgetCounts_nonneg reservedCost budgets.usage other period
        rw [hrd, budgetCounts_reserved_settle hnn hus, hnot, sub_zero, max_eq_right hcn]
        simp
      · rw [hsp, budgetCounts_spent_settle (fun _ => hfree) hus, hfree]
        simp

theorem budgetRow_eq_ok {row : UsageBudget × Table UsageBudget} (h : budgetRow providerId month usage = .ok row) :
    row.2.find? (Nat.pair providerId month) = some row.1 ∧
      ∀ column : UsageBudget → Money, (column ⟨providerId, month, 0, .zero, .zero⟩).units = 0 →
        ∀ other period, budgetCounts column row.2 other period = budgetCounts column usage other period := by
  unfold budgetRow at h
  split at h
  · next _ hf =>
    cases h
    exact ⟨hf, fun _ _ _ _ => rfl⟩
  · next hnone =>
    simp only [eq_ok] at h
    obtain ⟨inserted, hins, rfl⟩ := h
    have hfind (id : ℕ) : inserted.find? id = if Nat.pair providerId month = id
        then some ⟨providerId, month, 0, .zero, .zero⟩ else usage.find? id :=
      find?_insert hins id
    refine ⟨(hfind _).trans (if_pos rfl), fun column hzero other period => ?_⟩
    unfold budgetCounts
    rw [hfind]
    by_cases hsame : Nat.pair providerId month = Nat.pair other period
    · rw [← hsame, hnone, if_pos rfl]
      exact hzero
    · rw [if_neg hsame]

theorem reserveBudget_exact {op : FundingOperation} {catalog : Catalog} (h : BudgetsExact budgets)
    (hrs : reserveBudget s providerId op catalog budgets = .ok budgets') :
    BudgetsExact budgets' := by
  simp only [reserveBudget, bind_eq_ok] at hrs
  obtain ⟨row, hrow, hrs⟩ := hrs
  obtain ⟨hf, hcn⟩ := budgetRow_eq_ok hrow
  split at hrs
  · cases hrs
    refine ⟨fun other period => ?_, fun other period => ?_⟩
    · rw [hcn _ rfl]
      exact h.reserved other period
    · rw [hcn _ rfl]
      exact h.spent other period
  · simp only [eq_ok, money_eq_ok] at hrs
    obtain ⟨_, _, _, _, _, _, _, _, _, _, _, _, _, hmax, reservedCost, hrd, _, hins, rfl⟩ := hrs
    have hrp (column : UsageBudget → Money) (other : Uuid) (period : Month) :
        budgetCounts column (row.2.replace { row.1 with
          requestCount := row.1.requestCount + 1, reservedCost := reservedCost }) other period =
        if other = providerId ∧ period = providerBudgetMonth s.clock then (column { row.1 with
          requestCount := row.1.requestCount + 1, reservedCost := reservedCost }).units
        else budgetCounts column row.2 other period := by
      refine budgetCounts_replace hf ?_ other period
      rfl
    refine ⟨fun other period => ?_, fun other period => ?_⟩
    · rw [sum_insert hins, ← h.reserved, hrp, ← hcn _ rfl]
      by_cases hsame : other = providerId ∧ period = providerBudgetMonth s.clock
      · obtain ⟨rfl, rfl⟩ := hsame
        simp [holds, budgetCounts, hf, hrd, hmax, add_comm]
      · have hne : ¬(providerId = other ∧ providerBudgetMonth s.clock = period) :=
          fun heq => hsame ⟨heq.1.symm, heq.2.symm⟩
        simp [holds, hsame, hne]
    · rw [sum_insert hins, ← h.spent, hrp, ← hcn _ rfl]
      by_cases hsame : other = providerId ∧ period = providerBudgetMonth s.clock
      · obtain ⟨rfl, rfl⟩ := hsame
        simp [spent, budgetCounts, hf]
      · simp [spent, hsame]

/-- A call that writes provider budgets. -/
inductive BudgetCall
  | beginFundingAttempt (request : FundingAttemptRequest)
  | settleFunding (request : FundingSettlementRequest)
  | settleProviderBudgetReservation (operationId : Uuid) (actualCost : Option ℚ)

/-- Run a call that writes provider budgets as one transaction. -/
def execBudget (invocation : Session × BudgetCall) (db : Db) : Except StoreError Db :=
  match invocation.2 with
  | .beginFundingAttempt request => Store.beginFundingAttempt invocation.1 request db
  | .settleFunding request => (Store.settleFunding invocation.1 request db).map Prod.snd
  | .settleProviderBudgetReservation operationId actualCost =>
    Store.settleProviderBudgetReservation operationId actualCost db

/-- A settlement of an operation in flight settles its open budget reservation in the month it was made
in, unless it reserved nothing. -/
def KeepsMonth (db : Db) (invocation : Session × BudgetCall) : Prop :=
  match invocation.2 with
  | .settleFunding request => ∀ operation ∈ db.operations.find? request.operationId,
    operation.status.isOpen → ∀ reservation ∈ db.budgets.reservations.rows,
      reservation.operationId = operation.id → reservation.status = .reserved →
      reservation.periodMonth = providerBudgetMonth invocation.1.clock ∨
        reservation.maximumCost.units = 0
  | _ => True

variable {db db' : Db} {call : BudgetCall}

theorem beginFundingAttempt_exact {req : FundingAttemptRequest} (h : BudgetsExact db.budgets)
    (hbg : beginFundingAttempt s req db = .ok db') : BudgetsExact db'.budgets := by
  simp only [beginFundingAttempt, bind_eq_ok] at hbg
  obtain ⟨_, _, _, _, _, _, _, _, hbg⟩ := hbg
  split at hbg <;> simp only [eq_ok] at hbg
  · obtain ⟨_, _, rfl⟩ := hbg
    exact h
  · obtain ⟨_, hbd, rfl⟩ := hbg
    exact reserveBudget_exact h hbd

theorem settleFunding_exact_iff {req : FundingSettlementRequest} {settled : FundingOperation}
    (h : BudgetsExact db.budgets) (hset : settleFunding s req db = .ok (settled, db')) :
    BudgetsExact db'.budgets ↔ KeepsMonth db (s, .settleFunding req) := by
  have hf := hset
  simp only [settleFunding, eq_ok] at hf
  obtain ⟨_, _, op, hf, hcase⟩ := hf
  simp only [KeepsMonth, hf, Option.mem_def, Option.some.injEq, forall_eq']
  cases hopen : op.status.isOpen with
  | false =>
    rw [isFundingTerminal_eq, hopen] at hcase
    cases hcase
    exact iff_of_true h fun htr => absurd htr Bool.false_ne_true
  | true =>
    obtain ⟨_, hop⟩ := (settleFunding_of_open hf hopen).mp hset
    obtain ⟨_, _, _, hss⟩ := settleOpen_eq_ok hop
    rcases settleBudget_eq_ok hss.budgets with ⟨hsame, hnone⟩ | ⟨reservation, hown, hrs⟩
    · rw [hsame]
      exact iff_of_true h fun _ row hrow hid hrd => absurd hrd (hnone row hrow hid)
    · rw [hrs.exact_iff h]
      constructor
      · intro hmn _ row hrow hid _
        -- An operation has one reservation.
        have hcl : Key.clash (Keyed.key row) (Keyed.key reservation) := by
          simp [Key.clash, Keyed.key, hid, hown]
        rwa [eq_of_clash hrow hrs.stored hcl]
      · intro hmn
        exact hmn rfl reservation hrs.stored hown hrs.reserved

theorem execBudget_exact_iff (h : BudgetsExact db.budgets) (hexec : execBudget (s, call) db = .ok db') :
    BudgetsExact db'.budgets ↔ KeepsMonth db (s, call) := by
  cases call with
  | beginFundingAttempt req => exact iff_of_true (beginFundingAttempt_exact h hexec) trivial
  | settleFunding req =>
    obtain ⟨_, hse, rfl⟩ := map_eq_ok.mp hexec
    exact settleFunding_exact_iff h hse
  | settleProviderBudgetReservation _ _ =>
    refine iff_of_true ?_ trivial
    rcases settleProviderBudgetReservation_eq_ok hexec with rfl | ⟨_, hset⟩
    · exact h
    · exact (hset.exact_iff h).mpr (.inl rfl)

/-- In every history in which no operation is settled in another month than the one its provider cost
was reserved in, every budget of a provider and month counts exactly the maximum costs of the month's
open reservations and the costs of its settled ones; and the next committed call keeps it so exactly
when it is no such settlement. -/
theorem providerBudgets_exact (h : BudgetsExact db.budgets) (calls : List (Session × BudgetCall))
    (hcalls : Along execBudget KeepsMonth db calls) :
    BudgetsExact (run execBudget db calls).budgets ∧
      ∀ s call st, execBudget (s, call) (run execBudget db calls) = .ok st →
        (BudgetsExact st.budgets ↔ KeepsMonth (run execBudget db calls) (s, call)) := by
  have hrun : BudgetsExact (run execBudget db calls).budgets :=
    run_invariant (fun st inv st' hinv hk hexec => (execBudget_exact_iff hinv hexec).mpr hk) h hcalls
  exact ⟨hrun, fun s call st hexec => execBudget_exact_iff hrun hexec⟩

/-- The small store with a provider that costs one unit a token, and 40 units reserved for a request of
at most 20 tokens. -/
def demoProviderDb : Db :=
  run exec { demoDb with catalog :=
      { priceVersions := tableOf [⟨1, demoRate 1, demoRate 1⟩] (by decide)
        providers := tableOf [⟨1, usd, none⟩] (by decide)
        credentials := tableOf [⟨1, .platform⟩] (by decide)
        byokPolicies := .empty } }
    [(demoSession 1, .creditPaidRecharge 1),
      (demoSession 2, .reserveFunding { demoReservation "a" 40 0 with estimatedInput := 20 })]

/-- The session of the `n`-th call at a time of the application's clock. -/
def demoSessionAt (n : ℕ) (clock : Timestamp) : Session := { demoSession n with clock := clock }

/-- The request is dispatched at a time and settled at another, with 15 tokens. -/
def demoDispatched (dispatched settled : Timestamp) : List (Session × BudgetCall) :=
  [(demoSessionAt 3 dispatched, .beginFundingAttempt ⟨(demoSession 2).uuid .operation, 1, 1, true⟩),
    (demoSessionAt 4 settled, .settleFunding (demoSettlement ((demoSession 2).uuid .operation) 15 false))]

theorem demoProviderDb_exact : BudgetsExact demoProviderDb.budgets := by
  have hem : demoProviderDb.budgets.usage.rows.length = 0 ∧
      demoProviderDb.budgets.reservations.rows.length = 0 := by decide +kernel
  obtain ⟨hus, hrs⟩ := hem
  rw [List.length_eq_zero_iff] at hus hrs
  constructor <;> intro _ _ <;>
    simp [budgetCounts, find?, sum, hus, hrs]

/-- A request that is dispatched and settled in January leaves its cost in January's budget. -/
theorem providerBudgets_exact_demo :
    (run execBudget demoProviderDb (demoDispatched 0 86400)).budgets.usage.rows.map (fun budget =>
        (budget.reservedCost.units, budget.providerCost.units)) = [(0, 15)] ∧
      BudgetsExact (run execBudget demoProviderDb (demoDispatched 0 86400)).budgets := by
  refine ⟨by decide +kernel, (providerBudgets_exact demoProviderDb_exact (demoDispatched 0 86400)
    ⟨trivial, ?_, trivial⟩).1⟩
  simp only [KeepsMonth]
  decide +kernel

/-- A request that is dispatched in January and settled on the tenth of February keeps its maximum of 20
units in January's budget for good, and its cost of 15 is in no budget. -/
theorem providerBudgets_drift_across_months :
    (run execBudget demoProviderDb (demoDispatched 0 (40 * 86400))).budgets.usage.rows.map (fun budget =>
        (budget.periodMonth, budget.reservedCost.units, budget.providerCost.units)) =
        [(providerBudgetMonth 0, 20, 0)] ∧
      (run execBudget demoProviderDb (demoDispatched 0 (40 * 86400))).budgets.reservations.rows.map
        (fun reservation => (reservation.periodMonth, reservation.settledCost.units,
          reservation.status)) = [(providerBudgetMonth 0, 15, .settled)] ∧
      ¬BudgetsExact (run execBudget demoProviderDb (demoDispatched 0 (40 * 86400))).budgets := by
  refine ⟨by decide +kernel, by decide +kernel, fun hexac => ?_⟩
  have hrs := hexac.reserved 1 (providerBudgetMonth 0)
  revert hrs
  decide +kernel

end ModelDock.Store
