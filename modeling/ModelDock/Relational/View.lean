import Mathlib.Algebra.Notation.Lemmas
import Mathlib.Algebra.Order.BigOperators.Group.List
import Mathlib.Algebra.Order.Ring.Int
import Mathlib.Algebra.Order.Ring.Nat
import ModelDock.Relational.Table

/-!
# Views and joins

A view shows some columns of every row; "nothing else changed" is stated as an unchanged view. An aggregate over
referencing rows is grouped by the referenced row.
-/

namespace ModelDock.Relational.Table

open List

variable {R K : Type} [Key K] [Keyed R K] {C : Type} {t t' : Table R} {r : R} {A : Type}

/-- Some columns of every row. -/
def view (columns : R → C) (t : Table R) : List C := t.rows.map columns

variable {columns : R → C}

theorem mem_of_view (h : t'.view columns = t.view columns) (hr : r ∈ t'.rows) :
    ∃ old ∈ t.rows, columns old = columns r := by
  have hmem : columns r ∈ t'.view columns := mem_map_of_mem hr
  rw [h] at hmem
  exact mem_map.mp hmem

theorem sum_of_view [AddCommMonoid A] (h : t'.view columns = t.view columns) (f : C → A) :
    (t'.sum fun row => f (columns row)) = t.sum fun row => f (columns row) := by
  have hmap (u : Table R) : (u.sum fun row => f (columns row)) = ((u.view columns).map f).sum := by
    rw [view, map_map]
    rfl
  rw [hmap, hmap, h]

theorem view_replace [DecidableEq K] {old new : R} (hold : old ∈ t.rows)
    (hkey : Keyed.key new = Keyed.key old) (hcl : columns new = columns old) :
    (t.replace new).view columns = t.view columns := by
  simp only [view, replace, map_map]
  refine map_congr_left fun x hx => ?_
  simp only [Function.comp]
  split
  · next hx' =>
    have hsame : x = old := eq_of_rowId hx hold (congrArg Key.id (hx'.trans hkey))
    rw [hcl, hsame]
  · rfl

theorem view_rewrite {f : R → R} (hkey : ∀ r, Keyed.key (f r) = Keyed.key r)
    (hcl : ∀ r, columns (f r) = columns r) :
    (t.rewrite f hkey).view columns = t.view columns := by
  simp only [view, rewrite, map_map]
  exact map_congr_left fun x _ => hcl x

/-- Every row is still there, as a row that is later than it. -/
def Kept (Later : R → R → Prop) (t t' : Table R) : Prop := ∀ r ∈ t.rows, ∃ r' ∈ t'.rows, Later r r'

variable {Later : R → R → Prop}

theorem Kept.of_eq (hrefl : ∀ r, Later r r) (h : t' = t) : Kept Later t t' := by
  subst h
  exact fun r hr => ⟨r, hr, hrefl r⟩

theorem Kept.trans {t'' : Table R} (htr : ∀ a b c, Later a b → Later b c → Later a c) (h : Kept Later t t')
    (h' : Kept Later t' t'') : Kept Later t t'' := by
  intro r hr
  obtain ⟨r', hr', hlat⟩ := h r hr
  obtain ⟨r'', hr'', hlat'⟩ := h' r' hr'
  exact ⟨r'', hr'', htr r r' r'' hlat hlat'⟩

theorem Kept.of_view (hcl : ∀ r r', columns r' = columns r → Later r r')
    (h : t'.view columns = t.view columns) : Kept Later t t' := by
  intro r hr
  obtain ⟨r', hr', hsame⟩ := mem_of_view h.symm hr
  exact ⟨r', hr', hcl r r' hsame⟩

theorem Kept.of_insert {ε : Type} {err : ε} (hrefl : ∀ r, Later r r) (h : t.insert r err = .ok t') :
    Kept Later t t' :=
  fun x hx => ⟨x, (mem_insert h).mpr (.inr hx), hrefl x⟩

theorem Kept.of_replace [DecidableEq K] {old new : R} (hrefl : ∀ r, Later r r) (hold : old ∈ t.rows)
    (hkey : Keyed.key new = Keyed.key old) (hlat : Later old new) : Kept Later t (t.replace new) := by
  intro x hx
  by_cases hid : rowId x = rowId new
  · have hsame : x = old := eq_of_rowId hx hold (hid.trans (congrArg Key.id hkey))
    exact ⟨new, (mem_replace hold hkey).mpr (.inl rfl), hsame ▸ hlat⟩
  · exact ⟨x, (mem_replace hold hkey).mpr (.inr ⟨hx, hid⟩), hrefl x⟩

theorem sum_congr [AddCommMonoid A] {f g : R → A} (h : ∀ r ∈ t.rows, f r = g r) : t.sum f = t.sum g :=
  congrArg List.sum (List.map_congr_left h)

theorem sum_rewrite [AddCommMonoid A] {f : R → R} (hkey : ∀ r, Keyed.key (f r) = Keyed.key r)
    (g : R → A) : (t.rewrite f hkey).sum g = t.sum fun r => g (f r) := by
  simp [sum, rewrite, Function.comp_def]

variable {p : R → Bool} {f : R → R} (hkey : ∀ r, Keyed.key (f r) = Keyed.key r)

theorem rewriteIf_eq_self (hp : ∀ r ∈ t.rows, p r = false) : t.rewriteIf p f hkey = t := by
  ext1
  refine (map_congr_left fun r hr => ?_).trans (map_id _)
  simp [hp r hr]

theorem sum_rewriteIf_lt {g : R → ℕ} (hless : ∀ r ∈ t.rows, p r → g (f r) < g r) (hr : r ∈ t.rows)
    (hp : p r) : (t.rewriteIf p f hkey).sum g < t.sum g := by
  rw [rewriteIf, sum_rewrite]
  refine sum_lt_sum _ _ (fun row hrow => ?_) ⟨r, hr, ?_⟩
  · split
    · next hrowp => exact (hless row hrow hrowp).le
    · exact le_rfl
  · rw [if_pos hp]
    exact hless r hr hp

theorem sum_add [AddCommMonoid A] (t : Table R) (f g : R → A) : (t.sum fun r => f r + g r) = t.sum f + t.sum g :=
  sum_map_add

theorem sum_eq_zero [AddCommMonoid A] {f : R → A} (h : ∀ r ∈ t.rows, f r = 0) : t.sum f = 0 := by
  rw [sum_congr h]
  simp [sum]

variable {f : R → ℤ}

theorem sum_nonneg (h : ∀ r ∈ t.rows, 0 ≤ f r) : 0 ≤ t.sum f :=
  List.sum_nonneg (by simpa using h)

theorem sum_le_sum {f g : R → ℤ} (h : ∀ r ∈ t.rows, f r ≤ g r) : t.sum f ≤ t.sum g :=
  List.sum_le_sum h

theorem le_sum_of_mem (h : ∀ r ∈ t.rows, 0 ≤ f r) (hr : r ∈ t.rows) : f r ≤ t.sum f := by
  refine single_le_sum ?_ (f r) (mem_map_of_mem hr)
  simpa using h

theorem not_of_count_eq_zero (p : R → Prop) [DecidablePred p]
    (h : t.sum (fun r => if p r then (1 : ℤ) else 0) = 0) (hr : r ∈ t.rows) : ¬p r := by
  intro hp
  have hle := le_sum_of_mem (t := t) (f := fun r => if p r then (1 : ℤ) else 0)
    (fun r _ => by split <;> decide) hr
  rw [if_pos hp, h] at hle
  exact absurd hle (by decide)

theorem nodup_label {α : Type} (p : R → Bool) {label : R → α}
    (h : ∀ a b, label a = label b → rowId a = rowId b) : ((t.rows.filter p).map label).Nodup := by
  refine pairwise_map.mpr ((t.unique.sublist filter_sublist).imp fun {a b} hcl hsame => ?_)
  rw [Key.clash_of_id _ _ (h a b hsame)] at hcl
  exact Bool.noConfusion hcl

private theorem ne_of_clash_free {a b : R} (h : Key.clash (Keyed.key a) (Keyed.key b) = false) : a ≠ b := by
  rintro rfl
  rw [Key.clash_of_id _ _ rfl] at h
  exact Bool.noConfusion h

theorem sum_eq_single [AddCommMonoid A] {f : R → A} (hr : r ∈ t.rows)
    (h : ∀ x ∈ t.rows, x ≠ r → f x = 0) : t.sum f = f r := by
  obtain ⟨rows, hun⟩ := t
  change (rows.map f).sum = f r
  induction rows with
  | nil => exact absurd hr List.not_mem_nil
  | cons y rest ih =>
    obtain ⟨hy, hrest⟩ := List.pairwise_cons.mp hun
    rw [List.map_cons, List.sum_cons]
    rcases List.mem_cons.mp hr with rfl | hmem
    · have htail : (rest.map f).sum = 0 := by
        refine List.sum_eq_zero fun value hvl => ?_
        obtain ⟨x, hx, rfl⟩ := List.mem_map.mp hvl
        exact h x (List.mem_cons_of_mem _ hx) (ne_of_clash_free (hy x hx)).symm
      rw [htail, add_zero]
    · rw [h y List.mem_cons_self (ne_of_clash_free (hy r hmem)), zero_add]
      exact ih hrest hmem fun x hx => h x (List.mem_cons_of_mem _ hx)

theorem sum_of_query [AddCommMonoid A] {list : List R} {p : R → Bool}
    (hperm : list.Perm (t.rows.filter p)) (f : R → A) :
    (list.map f).sum = t.sum fun r => if p r then f r else 0 := by
  rw [(hperm.map f).sum_eq, sum]
  induction t.rows with
  | nil => rfl
  | cons r _ ih =>
    rw [filter_cons, map_cons, sum_cons, ← ih]
    split <;> simp

theorem distinct_of_query {list : List R} {p : R → Bool} (hperm : list.Perm (t.rows.filter p)) :
    list.Pairwise fun a b => rowId a ≠ rowId b := by
  have hrows : t.rows.Pairwise fun a b => rowId a ≠ rowId b :=
    t.unique.imp fun hfree hid => by
      rw [Key.clash_of_id _ _ hid] at hfree
      exact Bool.noConfusion hfree
  exact (hperm.pairwise_iff fun hne => hne.symm).mpr (hrows.filter _)

variable {D L : Type} [Key L] [Keyed D L] {u : Table D}

theorem sum_comm [AddCommMonoid A] (t : Table R) (u : Table D) (f : R → D → A) :
    (t.sum fun r => u.sum fun d => f r d) = u.sum fun d => t.sum fun r => f r d := by
  obtain ⟨rows, hun⟩ := t
  change (rows.map fun r => u.sum fun d => f r d).sum = u.sum fun d => (rows.map fun r => f r d).sum
  clear hun
  induction rows with
  | nil => exact (sum_eq_zero fun _ _ => rfl).symm
  | cons r _ ih =>
    simp only [map_cons, sum_cons]
    rw [ih, ← sum_add]

private theorem sum_group [AddCommMonoid A] (t : Table R) (u : Table D) (f : R → A)
    (reference : R → Option ℕ) (counted : D → Bool) :
    (u.sum fun d => if counted d then (t.sum fun r => if reference r = some (rowId d) then f r else 0)
      else 0) =
      t.sum fun r => u.sum fun d => if counted d ∧ reference r = some (rowId d) then f r else 0 := by
  have hinn (d : D) : (if counted d then
      (t.sum fun r => if reference r = some (rowId d) then f r else 0) else 0) =
      t.sum fun r => if counted d ∧ reference r = some (rowId d) then f r else 0 := by
    by_cases hd : counted d
    · simp [hd]
    · simp only [hd]
      exact (sum_eq_zero fun _ _ => rfl).symm
  rw [sum_congr fun d _ => hinn d, sum_comm]

private theorem sum_of_reference [AddCommMonoid A] {d : D} {counted : D → Bool}
    {reference : Option ℕ} (a : A) (hd : d ∈ u.rows) (hcn : counted d) (href : reference = some (rowId d)) :
    (u.sum fun x => if counted x ∧ reference = some (rowId x) then a else 0) = a := by
  rw [sum_eq_single hd, if_pos ⟨hcn, href⟩]
  intro x hx hne
  refine if_neg fun hboth => hne (eq_of_rowId hx hd ?_)
  rw [href] at hboth
  exact (Option.some.inj hboth.2).symm

/-- Grouped by the row it refers to, every row is summed once. -/
theorem sum_join [AddCommMonoid A] {f : R → A} {reference : R → Option ℕ} {counted : D → Bool}
    (h : ∀ r ∈ t.rows, f r ≠ 0 → ∃ d ∈ u.rows, counted d ∧ reference r = some (rowId d)) :
    (u.sum fun d => if counted d then (t.sum fun r => if reference r = some (rowId d) then f r else 0)
      else 0) = t.sum f := by
  rw [sum_group]
  refine sum_congr fun r hr => ?_
  by_cases hzero : f r = 0
  · rw [hzero]
    exact sum_eq_zero fun d _ => by split <;> rfl
  · obtain ⟨d, hd, hcn, href⟩ := h r hr hzero
    exact sum_of_reference (f r) hd hcn href

theorem sum_join_le (reference : R → Option ℕ) (counted : D → Bool) (h : ∀ r ∈ t.rows, 0 ≤ f r) :
    (u.sum fun d => if counted d then (t.sum fun r => if reference r = some (rowId d) then f r else 0)
      else 0) ≤ t.sum f := by
  rw [sum_group]
  refine sum_le_sum fun r hr => ?_
  by_cases hf : ∃ d ∈ u.rows, counted d ∧ reference r = some (rowId d)
  · obtain ⟨d, hd, hcn, href⟩ := hf
    exact (sum_of_reference (f r) hd hcn href).le
  · rw [sum_eq_zero fun d hd => if_neg fun hboth => hf ⟨d, hd, hboth⟩]
    exact h r hr

end ModelDock.Relational.Table
