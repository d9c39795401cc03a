import Mathlib.Order.Interval.Set.Basic
import Mathlib.Order.WellFounded
import Mathlib.Tactic.Common

/-!
# Histories of transactions

A history is a list of whole transactions; one that aborts leaves the state as it was. `Along` restricts each
call by the state it runs in, `AlongChanges` only those that change it, and `run_invariant` is the induction every
safety result rests on.
-/

namespace ModelDock.Relational

variable {ε S L : Type}

/-- The state a transaction leaves behind, committed or rolled back. -/
def commit (before : S) : Except ε S → S
  | .ok after => after
  | .error _ => before

/-- The state after a list of calls. -/
def run (exec : L → S → Except ε S) (s : S) (calls : List L) : S :=
  calls.foldl (fun st call => commit st (exec call st)) s

/-- Every call of the history is allowed in the state it runs in. -/
def Along (exec : L → S → Except ε S) (Allowed : S → L → Prop) : S → List L → Prop
  | _, [] => True
  | s, call :: rest => Allowed s call ∧ Along exec Allowed (commit s (exec call s)) rest

/-- Every call of the history that changes the state is allowed; what is refused or replayed need not be. -/
def AlongChanges (exec : L → S → Except ε S) (Allowed : S → L → Prop) : S → List L → Prop :=
  Along exec fun s call => commit s (exec call s) ≠ s → Allowed s call

variable {exec : L → S → Except ε S} {Allowed Wider : S → L → Prop} {Inv : S → Prop} {s : S}
  {calls : List L}

@[simp] theorem run_nil : run exec s [] = s := rfl

@[simp] theorem run_cons (call : L) : run exec s (call :: calls) = run exec (commit s (exec call s)) calls := rfl

theorem run_invariant (hstep : ∀ st call st', Inv st → Allowed st call → exec call st = .ok st' → Inv st')
    (hinit : Inv s) (hok : Along exec Allowed s calls) : Inv (run exec s calls) := by
  induction calls generalizing s with
  | nil => exact hinit
  | cons call _ ih =>
    obtain ⟨hcall, hrest⟩ := hok
    rw [run_cons]
    refine ih ?_ hrest
    cases hexec : exec call s with
    | error _ => exact hinit
    | ok st' => exact hstep s call st' hinit hcall hexec

/-- The same induction where only the calls that change the state are restricted. -/
theorem run_invariant_of_changes
    (hstep : ∀ st call st', Inv st → Allowed st call → exec call st = .ok st' → Inv st') (hinit : Inv s)
    (hok : AlongChanges exec Allowed s calls) : Inv (run exec s calls) := by
  refine run_invariant (fun st call st' hst hcall h => ?_) hinit hok
  by_cases hsame : st' = st
  · rwa [hsame]
  · refine hstep st call st' hst (hcall ?_) h
    rwa [h]

theorem run_unchanged {V : Type} (view : S → V) (hstep : ∀ st call st', exec call st = .ok st' → view st' = view st) :
    view (run exec s calls) = view s := by
  induction calls generalizing s with
  | nil => rfl
  | cons call _ ih =>
    rw [run_cons, ih]
    cases hexec : exec call s with
    | error _ => rfl
    | ok st' => exact hstep s call st' hexec

theorem Along.imp (h : ∀ st call, Allowed st call → Wider st call)
    (hok : Along exec Allowed s calls) : Along exec Wider s calls := by
  induction calls generalizing s with
  | nil => trivial
  | cons call _ ih => exact ⟨h s call hok.1, ih hok.2⟩

theorem Along.changes (h : Along exec Allowed s calls) : AlongChanges exec Allowed s calls :=
  h.imp fun _ _ hcall _ => hcall

theorem Along.of_forall (h : ∀ st call, Allowed st call) : Along exec Allowed s calls := by
  induction calls generalizing s with
  | nil => trivial
  | cons call _ ih => exact ⟨h s call, ih⟩

theorem Along.of_length_le_one (hln : calls.length ≤ 1) (h : ∀ call ∈ calls, Allowed s call) :
    Along exec Allowed s calls := by
  match calls, hln with
  | [], _ => trivial
  | [call], _ => exact ⟨h call List.mem_cons_self, trivial⟩

theorem Along.and (hok : Along exec Allowed s calls) (hwd : Along exec Wider s calls) :
    Along exec (fun st call => Allowed st call ∧ Wider st call) s calls := by
  induction calls generalizing s with
  | nil => trivial
  | cons call _ ih => exact ⟨⟨hok.1, hwd.1⟩, ih hok.2 hwd.2⟩

theorem Along.and_mem {P : L → Prop} (hok : Along exec Allowed s calls) (h : ∀ call ∈ calls, P call) :
    Along exec (fun st call => Allowed st call ∧ P call) s calls := by
  induction calls generalizing s with
  | nil => trivial
  | cons call _ ih =>
    obtain ⟨hcall, hrest⟩ := List.forall_mem_cons.mp h
    exact ⟨⟨hok.1, hcall⟩, ih hok.2 hrest⟩

theorem AlongChanges.and (hok : AlongChanges exec Allowed s calls) (hwd : AlongChanges exec Wider s calls) :
    AlongChanges exec (fun st call => Allowed st call ∧ Wider st call) s calls :=
  (Along.and hok hwd).imp fun _ _ hcall hch => ⟨hcall.1 hch, hcall.2 hch⟩

theorem AlongChanges.and_mem {P : L → Prop} (hok : AlongChanges exec Allowed s calls)
    (h : ∀ call ∈ calls, P call) : AlongChanges exec (fun st call => Allowed st call ∧ P call) s calls :=
  (Along.and_mem hok h).imp fun _ _ hcall hch => ⟨hcall.1 hch, hcall.2⟩

theorem eventually_fixed {states : ℕ → S} (measure : S → ℕ) {first : ℕ}
    (hstep : ∀ n ≥ first, states (n + 1) = states n ∨ measure (states (n + 1)) < measure (states n)) :
    ∃ last ≥ first, ∀ n ≥ last, states n = states last := by
  obtain ⟨last, hlast, hmin⟩ := (InvImage.wf (fun n => measure (states n)) Nat.lt_wfRel.wf).has_min
    (Set.Ici first) ⟨first, Set.self_mem_Ici⟩
  refine ⟨last, hlast, fun n hn => ?_⟩
  induction n, hn using Nat.le_induction with
  | base => rfl
  | succ n hn ih =>
    -- where the measure is least nothing can take from it
    rcases hstep n (hlast.trans hn) with hsame | hless
    · exact hsame.trans ih
    · rw [ih] at hless
      exact absurd hless (hmin (n + 1) (hlast.trans (hn.trans n.le_succ)))

end ModelDock.Relational
