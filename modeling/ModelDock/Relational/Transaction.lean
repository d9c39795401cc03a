import Mathlib.Algebra.BigOperators.Group.List.Basic

/-!
# Transactions as fallible computations

A transaction returns its result or aborts and writes nothing: the exception monad. The lemmas read a successful
computation backwards, one statement at a time.
-/

namespace ModelDock.Relational

open List

variable {ε α β : Type}

/-- Abort with `err` unless the condition holds. -/
def ensure (p : Prop) [Decidable p] (err : ε) : Except ε Unit :=
  if p then .ok () else .error err

/-- The row a query has to return, or `err` when it returned none. -/
def required (row : Option α) (err : ε) : Except ε α :=
  match row with
  | some a => .ok a
  | none => .error err

variable {err : ε}

@[simp] theorem ensure_eq_ok {p : Prop} [Decidable p] {u : Unit} : ensure p err = .ok u ↔ p := by
  by_cases h : p <;> simp [ensure]

theorem ensure_of {p : Prop} [Decidable p] (h : p) : ensure p err = .ok () :=
  ensure_eq_ok.mpr h

@[simp] theorem required_eq_ok {row : Option α} {a : α} : required row err = .ok a ↔ row = some a := by
  cases row <;> simp [required]

variable {first : Except ε α}

theorem bind_eq_ok {next : α → Except ε β} {result : β} :
    (first >>= next) = .ok result ↔ ∃ value, first = .ok value ∧ next value = .ok result := by
  rcases first with _ | value
  · constructor
    · intro h
      cases h
    · rintro ⟨_, h, _⟩
      cases h
  · constructor
    · exact fun h => ⟨value, rfl, h⟩
    · rintro ⟨_, h, hnext⟩
      cases h
      exact hnext

theorem pure_eq_ok {value result : α} : (pure value : Except ε α) = .ok result ↔ value = result :=
  ⟨Except.ok.inj, congrArg Except.ok⟩

theorem dite_eq_ok {p : Prop} [Decidable p] {next : p → Except ε α} {result : α} :
    (if h : p then next h else throw err) = .ok result ↔ ∃ h, next h = .ok result := by
  by_cases h : p <;> simp [h, throw, throwThe]

/-- The rules that read a block that succeeds, as one set. -/
theorem eq_ok : (∀ {α β : Type} {first : Except ε α} {next : α → Except ε β} {result : β},
        (first >>= next) = .ok result ↔ ∃ value, first = .ok value ∧ next value = .ok result) ∧
      (∀ {α : Type} {value result : α}, (pure value : Except ε α) = .ok result ↔ value = result) ∧
      (∀ {p : Prop} [Decidable p] {err : ε} {u : Unit}, ensure p err = .ok u ↔ p) ∧
      (∀ {α : Type} {p : Prop} [Decidable p] {next : p → Except ε α} {err : ε} {result : α},
        (if h : p then next h else throw err) = .ok result ↔ ∃ h, next h = .ok result) ∧
      ∀ {α : Type} {row : Option α} {err : ε} {a : α}, required row err = .ok a ↔ row = some a :=
  ⟨bind_eq_ok, pure_eq_ok, ensure_eq_ok, dite_eq_ok, required_eq_ok⟩

/-- The rules that read a condition of a query, as one set. -/
theorem cond_iff : (∀ {a b : Bool}, (a && b) ↔ a ∧ b) ∧
    (∀ {a b : Bool}, (a || b) ↔ a ∨ b) ∧ ∀ {p : Prop} [Decidable p], decide p ↔ p :=
  ⟨Bool.and_eq_true_iff, Bool.or_eq_true_iff, decide_eq_true_iff⟩

theorem map_eq_ok {read : α → β} {result : β} :
    first.map read = .ok result ↔ ∃ value, first = .ok value ∧ read value = result := by
  cases first <;> simp [Except.map]

theorem exists_of_isOk (h : first.isOk) : ∃ value, first = .ok value := by
  cases first with
  | error _ => cases h
  | ok value => exact ⟨value, rfl⟩

@[simp] theorem ok_bind {a : α} {f : α → Except ε β} : ((.ok a : Except ε α) >>= f) = f a := rfl

variable {ι σ : Type} {step : σ → ι → Except ε σ} {items : List ι} {state state' : σ}

theorem foldlM_invariant {P : σ → Prop} (hstep : ∀ item ∈ items, ∀ st st', P st → step st item = .ok st' → P st')
    (hinit : P state) (hrun : items.foldlM step state = .ok state') : P state' := by
  induction items generalizing state with
  | nil =>
    rw [foldlM_nil, pure_eq_ok] at hrun
    exact hrun ▸ hinit
  | cons item _ ih =>
    rw [foldlM_cons, bind_eq_ok] at hrun
    obtain ⟨_, hitem, hrest⟩ := hrun
    have hmid := hstep item mem_cons_self _ _ hinit hitem
    exact ih (fun it hit => hstep it (mem_cons_of_mem _ hit)) hmid hrest

variable {P : List ι → σ → Prop}

theorem foldlM_consumes
    (hstep : ∀ item rest st st', P (item :: rest) st → step st item = .ok st' → P rest st')
    (hinit : P items state) (hrun : items.foldlM step state = .ok state') : P [] state' := by
  induction items generalizing state with
  | nil =>
    rw [foldlM_nil, pure_eq_ok] at hrun
    exact hrun ▸ hinit
  | cons item rest ih =>
    rw [foldlM_cons, bind_eq_ok] at hrun
    obtain ⟨mid, hitem, hrest⟩ := hrun
    exact ih (hstep item rest state mid hinit hitem) hrest

theorem foldlM_congr {step' : σ → ι → Except ε σ}
    (hsame : ∀ item rest st, P (item :: rest) st → step st item = step' st item)
    (hstep : ∀ item rest st st', P (item :: rest) st → step st item = .ok st' → P rest st')
    (hinit : P items state) : items.foldlM step state = items.foldlM step' state := by
  induction items generalizing state with
  | nil => rfl
  | cons item rest ih =>
    rw [foldlM_cons, foldlM_cons, ← hsame item rest state hinit]
    cases hitem : step state item with
    | error _ => rfl
    | ok mid => exact ih (hstep item rest state mid hinit hitem)

theorem foldlM_moves {A : Type} [AddCommMonoid A] {P : σ → Prop} {q : σ → A} {d : ι → A}
    (hstep : ∀ item ∈ items, ∀ st st', P st → step st item = .ok st' →
      P st' ∧ q st' = q st + d item)
    (hinit : P state) (hrun : items.foldlM step state = .ok state') :
    q state' = q state + (items.map d).sum := by
  induction items generalizing state with
  | nil =>
    rw [foldlM_nil, pure_eq_ok] at hrun
    simp [hrun]
  | cons item _ ih =>
    rw [foldlM_cons, bind_eq_ok] at hrun
    obtain ⟨_, hitem, hrest⟩ := hrun
    obtain ⟨hmid, hmv⟩ := hstep item mem_cons_self _ _ hinit hitem
    rw [ih (fun it hit => hstep it (mem_cons_of_mem _ hit)) hmid hrest, hmv,
      map_cons, sum_cons, add_assoc]

theorem foldlM_succeeds (hstep : ∀ item rest st, P (item :: rest) st →
      ∃ st', step st item = .ok st' ∧ P rest st')
    (hinit : P items state) : ∃ st', items.foldlM step state = .ok st' ∧ P [] st' := by
  induction items generalizing state with
  | nil => exact ⟨state, rfl, hinit⟩
  | cons item rest ih =>
    obtain ⟨_, hitem, hmid⟩ := hstep item rest state hinit
    obtain ⟨last, hrest, hlast⟩ := ih hmid
    exact ⟨last, by rw [foldlM_cons, hitem, ok_bind, hrest], hlast⟩

end ModelDock.Relational
