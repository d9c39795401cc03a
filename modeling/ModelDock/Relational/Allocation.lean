import Mathlib.Algebra.Order.BigOperators.Group.List
import Mathlib.Tactic.Linarith
import ModelDock.Relational.Transaction

/-!
# Allocating an amount over an ordered list of holders

Two loops divide an amount over items of limited capacity: one stops when the amount is covered, the other
visits every item and hands back the rest. How much each item gives does not depend on what the statements
write, so a loop is the run of its statements over a list computed beforehand.
-/

namespace ModelDock.Relational

open List

variable {ι σ ε : Type}

/-- Take from each item in turn until nothing remains; returns what could not be covered. -/
def takeEach (capacity : ι → ℤ) (take : σ → ι → ℤ → Except ε σ) : List ι → ℤ → σ → Except ε (ℤ × σ)
  | [], remaining, state => .ok (remaining, state)
  | item :: rest, remaining, state =>
    if remaining ≤ 0 then .ok (remaining, state)
    else do
      let state ← take state item (min (capacity item) remaining)
      takeEach capacity take rest (remaining - min (capacity item) remaining) state

/-- What a visit consumes of a reserved capacity when `remaining` is still owed. -/
def consumedOf (reserved remaining : ℤ) : ℤ := if 0 < remaining then min reserved remaining else 0

/-- Visit every item, consuming what is owed and releasing the rest of its capacity. -/
def settleEach (reserved : ι → ℤ) (settle : σ → ι → ℤ → ℤ → Except ε σ) : List ι → ℤ → σ → Except ε (ℤ × σ)
  | [], remaining, state => .ok (remaining, state)
  | item :: rest, remaining, state => do
    let consumed := consumedOf (reserved item) remaining
    let state ← settle state item consumed (reserved item - consumed)
    settleEach reserved settle rest (remaining - consumed) state

/-- The amounts `takeEach` takes, item by item. -/
def takes (capacity : ι → ℤ) : List ι → ℤ → List (ι × ℤ)
  | [], _ => []
  | item :: rest, remaining =>
    if remaining ≤ 0 then []
    else (item, min (capacity item) remaining) ::
      takes capacity rest (remaining - min (capacity item) remaining)

/-- The amounts `settleEach` consumes, item by item. -/
def consumptions (reserved : ι → ℤ) : List ι → ℤ → List (ι × ℤ)
  | [], _ => []
  | item :: rest, remaining =>
    (item, consumedOf (reserved item) remaining) ::
      consumptions reserved rest (remaining - consumedOf (reserved item) remaining)

/-- The total of a list of allocated amounts. -/
def allocated (parts : List (ι × ℤ)) : ℤ := (parts.map Prod.snd).sum

@[simp] theorem allocated_cons (part : ι × ℤ) (parts : List (ι × ℤ)) :
    allocated (part :: parts) = part.2 + allocated parts := by
  simp [allocated]

@[simp] theorem allocated_nil : allocated ([] : List (ι × ℤ)) = 0 := rfl

theorem sum_ite_allocated (p : Prop) [Decidable p] (parts : List (ι × ℤ)) :
    (parts.map fun part => if p then part.2 else 0).sum = if p then allocated parts else 0 := by
  split
  · rfl
  · simp

theorem sum_ite_neg_allocated (p : Prop) [Decidable p] (parts : List (ι × ℤ)) :
    (parts.map fun part => if p then -part.2 else 0).sum = if p then -allocated parts else 0 := by
  rw [allocated, sum_neg, map_map]
  split
  · rfl
  · simp

theorem takeEach_eq (capacity : ι → ℤ) (take : σ → ι → ℤ → Except ε σ) (items : List ι) (remaining : ℤ) (state : σ) :
    takeEach capacity take items remaining state =
      ((takes capacity items remaining).foldlM (fun st part => take st part.1 part.2) state).map
        fun st => (remaining - allocated (takes capacity items remaining), st) := by
  induction items generalizing remaining state with
  | nil => simp [takeEach, takes, Except.map, pure, Except.pure]
  | cons item _ ih =>
    unfold takeEach takes
    by_cases hrem : remaining ≤ 0
    · simp [hrem, Except.map, pure, Except.pure]
    · simp only [hrem, if_false, foldlM_cons, allocated_cons]
      cases take state item (min (capacity item) remaining) with
      | error _ => rfl
      | ok st =>
        simp only [ok_bind, ih]
        congr 2
        funext _
        rw [sub_sub]

/-- A loop over the items takes the greedy amounts and returns what is left. -/
theorem takeEach_eq_ok {capacity : ι → ℤ} {take : σ → ι → ℤ → Except ε σ} {items : List ι}
    {remaining : ℤ} {state : σ} {result : ℤ × σ} :
    takeEach capacity take items remaining state = .ok result ↔
      (takes capacity items remaining).foldlM (fun st part => take st part.1 part.2) state =
          .ok result.2 ∧ result.1 = remaining - allocated (takes capacity items remaining) := by
  rw [takeEach_eq]
  cases (takes capacity items remaining).foldlM (fun st part => take st part.1 part.2) state with
  | error _ => simp [Except.map]
  | ok st => simp [Except.map, Prod.ext_iff, and_comm, eq_comm]

theorem settleEach_eq_ok {reserved : ι → ℤ} {settle : σ → ι → ℤ → ℤ → Except ε σ} {items : List ι}
    {remaining : ℤ} {state : σ} {result : ℤ × σ} :
    settleEach reserved settle items remaining state = .ok result ↔
      (consumptions reserved items remaining).foldlM
          (fun st part => settle st part.1 part.2 (reserved part.1 - part.2)) state = .ok result.2 ∧
        result.1 = remaining - allocated (consumptions reserved items remaining) := by
  induction items generalizing remaining state with
  | nil => simp [settleEach, consumptions, pure, Except.pure, Prod.ext_iff, and_comm, eq_comm]
  | cons _ _ ih =>
    simp [settleEach, consumptions, bind_eq_ok, ih, sub_sub, ← exists_and_right, and_assoc]

variable {capacity : ι → ℤ} {items : List ι} {remaining : ℤ} {part : ι × ℤ}

theorem takes_sublist : ((takes capacity items remaining).map Prod.fst).Sublist items := by
  induction items generalizing remaining with
  | nil => exact Sublist.refl []
  | cons item _ ih =>
    unfold takes
    split
    · exact nil_sublist _
    · exact ih.cons_cons item

theorem takes_bounds (hcap : ∀ item ∈ items, 0 < capacity item) (hpart : part ∈ takes capacity items remaining) :
    part.1 ∈ items ∧ 0 < part.2 ∧ part.2 ≤ capacity part.1 := by
  induction items generalizing remaining with
  | nil => exact absurd hpart not_mem_nil
  | cons item _ ih =>
    unfold takes at hpart
    split at hpart
    · exact absurd hpart not_mem_nil
    · next _ =>
      rcases mem_cons.mp hpart with rfl | hrest
      · have hitem := hcap item mem_cons_self
        exact ⟨mem_cons_self, by simp only; omega, min_le_left _ _⟩
      · obtain ⟨hmem, hbn⟩ := ih (fun it hit => hcap it (mem_cons_of_mem _ hit)) hrest
        exact ⟨mem_cons_of_mem _ hmem, hbn⟩

theorem sum_takes_le {α : Type} [DecidableEq α] (label : ι → α) (a : α) {bound : ℤ} (hbd : 0 ≤ bound)
    (hlb : (items.map label).Nodup) (hcap : ∀ item ∈ items, label item = a → capacity item ≤ bound) :
    ((takes capacity items remaining).map fun part => if label part.1 = a then part.2 else 0).sum ≤ bound := by
  induction items generalizing remaining with
  | nil => exact hbd
  | cons item rest ih =>
    obtain ⟨hfs, hrest⟩ := nodup_cons.mp hlb
    unfold takes
    split
    · exact hbd
    · rw [map_cons, sum_cons]
      by_cases hitem : label item = a
      · -- No later item has the label, so the rest takes nothing under it.
        have hnone : ((takes capacity rest (remaining - min (capacity item) remaining)).map fun part =>
            if label part.1 = a then part.2 else 0).sum = 0 := by
          refine sum_eq_zero fun value hvl => ?_
          obtain ⟨part, hpart, rfl⟩ := mem_map.mp hvl
          have hmem := takes_sublist.subset (mem_map_of_mem hpart)
          refine if_neg fun hll => hfs ?_
          rw [hitem, ← hll]
          exact mem_map_of_mem hmem
        rw [hnone, if_pos hitem, add_zero]
        exact (min_le_left _ _).trans (hcap item mem_cons_self hitem)
      · rw [if_neg hitem, zero_add]
        exact ih hrest fun other hne => hcap other (mem_cons_of_mem _ hne)

theorem allocated_takes (hcap : ∀ item ∈ items, 0 ≤ capacity item) (hrem : 0 ≤ remaining) :
    allocated (takes capacity items remaining) = min remaining (items.map capacity).sum := by
  induction items generalizing remaining with
  | nil => simp [takes, hrem]
  | cons item rest ih =>
    obtain ⟨hitem, hrest⟩ := forall_mem_cons.mp hcap
    have hsum : 0 ≤ (rest.map capacity).sum := sum_nonneg (by simpa using hrest)
    unfold takes
    by_cases hzero : remaining ≤ 0
    · simp only [hzero, if_true, allocated_nil, map_cons, sum_cons]
      omega
    · simp only [hzero, if_false, allocated_cons, map_cons, sum_cons]
      rw [ih hrest (by omega)]
      omega

theorem consumptions_fst : (consumptions capacity items remaining).map Prod.fst = items := by
  induction items generalizing remaining with
  | nil => rfl
  | cons _ _ ih => simp [consumptions, ih]

theorem consumptions_bounds (hcap : ∀ item ∈ items, 0 ≤ capacity item)
    (hpart : part ∈ consumptions capacity items remaining) :
    part.1 ∈ items ∧ 0 ≤ part.2 ∧ part.2 ≤ capacity part.1 := by
  induction items generalizing remaining with
  | nil => exact absurd hpart not_mem_nil
  | cons item _ ih =>
    rcases mem_cons.mp hpart with rfl | hrest
    · have hitem := hcap item mem_cons_self
      refine ⟨mem_cons_self, ?_⟩
      simp only [consumedOf]
      split <;> omega
    · obtain ⟨hmem, hbn⟩ := ih (fun it hit => hcap it (mem_cons_of_mem _ hit)) hrest
      exact ⟨mem_cons_of_mem _ hmem, hbn⟩

theorem allocated_consumptions (hcap : ∀ item ∈ items, 0 ≤ capacity item) (hrem : 0 ≤ remaining) :
    allocated (consumptions capacity items remaining) = min remaining (items.map capacity).sum := by
  induction items generalizing remaining with
  | nil => simp [consumptions, hrem]
  | cons item rest ih =>
    obtain ⟨hitem, hrest⟩ := forall_mem_cons.mp hcap
    have hsum : 0 ≤ (rest.map capacity).sum := sum_nonneg (by simpa using hrest)
    have hcn : consumedOf (capacity item) remaining = min (capacity item) remaining := by
      unfold consumedOf
      split <;> omega
    simp only [consumptions, allocated_cons, map_cons, sum_cons]
    rw [ih hrest (by omega)]
    omega

theorem released_consumptions (capacity : ι → ℤ) (items : List ι) (remaining : ℤ) :
    ((consumptions capacity items remaining).map fun part => capacity part.1 - part.2).sum =
      (items.map capacity).sum - allocated (consumptions capacity items remaining) := by
  induction items generalizing remaining with
  | nil => rfl
  | cons _ _ ih =>
    simp only [consumptions, map_cons, sum_cons, allocated_cons, ih]
    omega

end ModelDock.Relational
