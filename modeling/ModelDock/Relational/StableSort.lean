import Mathlib.Data.List.Induction
import Mathlib.Order.Lattice

/-!
# Sorting by insertion

A value is appended and moves forward past every neighbour it precedes. What stands first is read off without any
law of the comparison: a value comes first when it precedes all before it.
-/

namespace ModelDock.Relational

open List

variable {α : Type*} (less : α → α → Bool)

/-- Move a value forward past what it precedes. The list is held back to front. -/
def insertBack (x : α) : List α → List α
  | [] => [x]
  | y :: rest => if less x y then y :: insertBack x rest else x :: y :: rest

/-- Sort a list by insertion, as `sort.SliceStable` sorts up to twenty elements. Where `less` is no strict weak order,
as one with a tolerance, a longer slice may be sorted otherwise. -/
def sliceStable (list : List α) : List α :=
  (list.foldl (fun sorted x => insertBack less x sorted) []).reverse

variable {less} {list : List α} {x y : α}

theorem mem_insertBack : y ∈ insertBack less x list ↔ y = x ∨ y ∈ list := by
  induction list with
  | nil => simp [insertBack]
  | cons _ _ ih =>
    unfold insertBack
    split
    · simp only [mem_cons, ih]
      exact or_left_comm
    · exact mem_cons

theorem insertBack_getLast? : (insertBack less x list).getLast? =
    if list.all (less x) then some x else list.getLast? := by
  induction list with
  | nil => rfl
  | cons first rest ih =>
    unfold insertBack
    by_cases hless : less x first
    · obtain ⟨_, others, hmv⟩ := exists_cons_of_ne_nil
        (ne_nil_of_mem (mem_insertBack.mpr (.inl rfl) : x ∈ insertBack less x rest))
      rw [if_pos hless, hmv, getLast?_cons_cons, ← hmv, ih, all_cons, hless, Bool.true_and]
      cases rest with
      | nil => rfl
      | cons _ others => rw [getLast?_cons_cons]
    · simp [hless]

theorem sliceStable_concat : sliceStable less (list ++ [x]) =
    (insertBack less x (sliceStable less list).reverse).reverse := by
  simp [sliceStable]

theorem mem_sliceStable : y ∈ sliceStable less list ↔ y ∈ list := by
  induction list using reverseRecOn with
  | nil => rfl
  | append_singleton list _ ih =>
    rw [sliceStable_concat, mem_reverse, mem_insertBack, mem_reverse, ih, mem_append,
      mem_singleton, or_comm]

theorem sliceStable_concat_head? : (sliceStable less (list ++ [x])).head? =
    if ∀ y ∈ list, less x y then some x else (sliceStable less list).head? := by
  rw [sliceStable_concat, head?_reverse, insertBack_getLast?]
  simp [mem_sliceStable]

theorem mem_of_sliceStable_head? (h : (sliceStable less list).head? = some x) : x ∈ list :=
  mem_sliceStable.mp (mem_of_head? h)

/-- A value that stands first still does when it precedes more and fewer precede it. -/
theorem sliceStable_head?_raise {before after : List α} {low high : α} (hpr : ∀ y, less low y → less high y)
    (hprd : ∀ y, less y high → less y low) (hlow : low ∉ before ++ after)
    (h : (sliceStable less (before ++ low :: after)).head? = some low) :
    (sliceStable less (before ++ high :: after)).head? = some high := by
  induction after using reverseRecOn with
  | nil =>
    rw [sliceStable_concat_head?] at h ⊢
    split at h
    · next hfs => rw [if_pos fun y hy => hpr y (hfs y hy)]
    · exact absurd (mem_append_left _ (mem_of_sliceStable_head? h)) hlow
  | append_singleton after last ih =>
    have hass (x : α) : before ++ x :: (after ++ [last]) = (before ++ x :: after) ++ [last] := by simp
    rw [hass, sliceStable_concat_head?] at h ⊢
    split at h
    · exact absurd (Option.some.inj h) fun hsame => hlow (by simp [hsame])
    · next hlat =>
      rw [if_neg]
      · exact ih (fun hmem => hlow (by simpa using (mem_append.mp hmem).imp_right .inl)) h
      · intro hfs
        refine hlat fun y hy => ?_
        rcases mem_append.mp hy with hy | hy
        · exact hfs y (mem_append_left _ hy)
        · rcases mem_cons.mp hy with rfl | hy
          · exact hprd _ (hfs high (by simp))
          · exact hfs y (by simp [hy])

end ModelDock.Relational
