import Mathlib.Data.Prod.Lex
import Mathlib.Algebra.Order.Group.Int
import Mathlib.Tactic.SplitIfs

/-!
# Billing periods and the calendar

`subscriptionPeriod` finds the end of a period with `AddDate`, and the lifecycle worker starts each
renewal at the previous end. A day that the next month lacks is carried into the month after it, and
every later renewal keeps the shifted day, so the renewals follow the calendar exactly for the starts
on one of the first 28 days of a month.
-/

namespace ModelDock.Subscription

/-- Whether a year has a leap day. -/
def isLeap (year : ℤ) : Bool := year % 4 = 0 ∧ (year % 100 ≠ 0 ∨ year % 400 = 0)

/-- The days of a month, counted in months from January of the year 0. -/
def daysIn (month : ℤ) : ℕ :=
  if month % 12 = 1 then if isLeap (month / 12) then 29 else 28
  else if month % 12 = 3 ∨ month % 12 = 5 ∨ month % 12 = 8 ∨ month % 12 = 10 then 30 else 31

/-- A moment in UTC: its calendar month, the day of the month and the nanosecond of the day. -/
structure Instant where
  month : ℤ
  day : ℕ
  clock : ℕ
  day_pos : 0 < day
  day_le : day ≤ daysIn month
  clock_lt : clock < 86400000000000

instance : DecidableEq Instant := fun t u =>
  decidable_of_iff (t.month = u.month ∧ t.day = u.day ∧ t.clock = u.clock) (by cases t; cases u; simp)

theorem daysIn_bounds (month : ℤ) : 28 ≤ daysIn month ∧ daysIn month ≤ 31 := by
  unfold daysIn
  split_ifs <;> omega

namespace Instant

variable {t : Instant} {years months : ℤ}

/-- `After`. -/
def after (t u : Instant) : Bool :=
  toLex (u.month, toLex (u.day, u.clock)) < toLex (t.month, toLex (t.day, t.clock))

/-- `AddDate` with no days to add: a day past the end of its month is carried into the next one. -/
def addDate (t : Instant) (years months : ℤ) : Instant :=
  let month := t.month + 12 * years + months
  if h : t.day ≤ daysIn month then { t with month := month, day_le := h }
  else
    { t with
      month := month + 1, day := t.day - daysIn month
      day_pos := Nat.sub_pos_of_lt (not_le.mp h)
      day_le := by
        have hold := t.day_le.trans (daysIn_bounds t.month).2
        have hmonth := (daysIn_bounds month).1
        have hnext := (daysIn_bounds (month + 1)).1
        omega }

/-- The day and the clock of `t` in another month, for a day that every month has. -/
def inMonth (t : Instant) (h : t.day ≤ 28) (month : ℤ) : Instant :=
  { t with month := month, day_le := h.trans (daysIn_bounds month).1 }

theorem inMonth_addDate (h : t.day ≤ 28) (month : ℤ) :
    (t.inMonth h month).addDate years months = t.inMonth h (month + 12 * years + months) :=
  dif_pos _

/-- A date that stays in the month it was moved to keeps its day. -/
theorem addDate_day (h : (t.addDate years months).month = t.month + 12 * years + months) :
    (t.addDate years months).day = t.day := by
  by_cases hday : t.day ≤ daysIn (t.month + 12 * years + months)
  · rw [addDate, dif_pos hday]
  · rw [addDate, dif_neg hday] at h
    simp at h

end Instant

/-- The `billing_interval` of a plan version. -/
inductive Interval
  | monthly
  | yearly
  | custom
  | unsupported
deriving DecidableEq

/-- The end of a billing period that begins at the given instant. -/
def subscriptionPeriod (start : Instant) (interval : Interval) (contractEnd : Option Instant) :
    Except String Instant :=
  match interval with
  | .monthly => .ok (start.addDate 0 1)
  | .yearly => .ok (start.addDate 1 0)
  | .custom =>
    match contractEnd.filter fun finish => finish.after start with
    | none => .error "a future contract_ends_at is required for CUSTOM billing"
    | some finish => .ok finish
  | .unsupported => .error "unsupported billing interval"

/-- The end of the `n`-th monthly period in a row, each one started at the end of the one before. -/
def renewed (start : Instant) : ℕ → Except String Instant
  | 0 => .ok start
  | n + 1 => renewed start n >>= fun finish => subscriptionPeriod finish .monthly none

variable {start : Instant}

theorem renewed_of_day_le (h : start.day ≤ 28) (n : ℕ) :
    renewed start n = .ok (start.inMonth h (start.month + n)) := by
  induction n with
  | zero => simp [renewed, Instant.inMonth]
  | succ n ih =>
    have hmn : start.month + (n + 1 : ℕ) = start.month + n + 12 * 0 + 1 := by omega
    rw [renewed, ih, hmn]
    exact congrArg Except.ok (Instant.inMonth_addDate h _)

/-- The `n`-th renewal ends in the `n`-th month after the start. -/
def OnCalendar (start : Instant) (n : ℕ) : Prop :=
  ∃ finish, renewed start n = .ok finish ∧ finish.month = start.month + n

/-- Renewals that follow the calendar all end on the day of the start. -/
theorem renewed_day (h : ∀ n, OnCalendar start n) (n : ℕ) {finish : Instant} (hfn : renewed start n = .ok finish) :
    finish.day = start.day := by
  induction n generalizing finish with
  | zero =>
    cases hfn
    rfl
  | succ n ih =>
    obtain ⟨previous, hpr, hmn⟩ := h n
    obtain ⟨next, hnext, haf⟩ := h (n + 1)
    rw [renewed, hpr] at hfn hnext
    cases hfn
    cases hnext
    rw [← ih hpr]
    exact Instant.addDate_day (by omega)

/-- Some month later than any given one has 28 days. -/
theorem exists_daysIn_eq (month : ℤ) : ∃ n : ℕ, daysIn (month + n) = 28 := by
  refine ⟨(48 * month.natAbs + 13 - month).toNat, ?_⟩
  have hmn : month + (48 * month.natAbs + 13 - month).toNat = 12 * (4 * month.natAbs + 1) + 1 := by omega
  have hyear : (12 * (4 * (month.natAbs : ℤ) + 1) + 1) / 12 % 4 ≠ 0 := by omega
  rw [hmn, daysIn, if_pos (by omega), if_neg fun hleap => hyear (of_decide_eq_true hleap).1]

/-- Monthly renewals keep the day of the month, and twelve make a year, exactly from the first 28 days of a month. -/
theorem renewals_follow_calendar_iff (start : Instant) :
    ((∀ n, OnCalendar start n) ∧ renewed start 12 = subscriptionPeriod start .yearly none) ↔ start.day ≤ 28 := by
  constructor
  · rintro ⟨h, -⟩
    obtain ⟨n, hn⟩ := exists_daysIn_eq start.month
    obtain ⟨finish, hfn, hmn⟩ := h n
    rw [← renewed_day h n hfn, ← hn, ← hmn]
    exact finish.day_le
  · intro h
    have hyear : start.addDate 1 0 = start.inMonth h (start.month + 12 * 1 + 0) := Instant.inMonth_addDate h _
    refine ⟨fun n => ⟨_, renewed_of_day_le h n, rfl⟩, ?_⟩
    rw [renewed_of_day_le h, subscriptionPeriod, hyear]
    simp

/-- A subscription of the 31st of January 2026, at midnight. -/
def lateJanuary : Instant := ⟨12 * 2026, 31, 0, by decide, by decide, by decide⟩

theorem lateJanuary_skips_february :
    renewed lateJanuary 1 = .ok ⟨12 * 2026 + 2, 3, 0, by decide, by decide, by decide⟩ ∧
      renewed lateJanuary 12 ≠ subscriptionPeriod lateJanuary .yearly none := by
  decide +kernel

end ModelDock.Subscription
