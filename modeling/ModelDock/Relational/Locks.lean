import Mathlib.Tactic.Common

/-!
# Transactions that overlap

At READ COMMITTED a statement reads what is committed when it starts, and locks are held until the transaction
ends. What a transaction has locked is read off how far it is; one that waits makes no step.
-/

namespace ModelDock.Relational

/-- Committed data and the transactions that run on them. -/
structure Concurrent (D T : Type) where
  data : D
  running : List (ℕ × T) := []

namespace Concurrent

variable {D T L : Type}

/-- The transaction with a number. -/
def transaction? (st : Concurrent D T) (number : ℕ) : Option T :=
  (st.running.find? fun entry => entry.1 = number).map Prod.snd

/-- The transactions besides the one with a number. -/
def others (st : Concurrent D T) (number : ℕ) : List (ℕ × T) :=
  st.running.filter fun entry => entry.1 ≠ number

/-- No other transaction holds any of some locks. -/
def free [DecidableEq L] (held : T → List L) (st : Concurrent D T) (number : ℕ) (locks : List L) : Bool :=
  locks.all fun lock => (st.others number).all fun entry => lock ∉ held entry.2

/-- The transaction has ended, with its changes committed or rolled back. -/
def finish (st : Concurrent D T) (number : ℕ) (data : D) : Concurrent D T := ⟨data, st.others number⟩

/-- The transaction goes on. -/
def put (st : Concurrent D T) (number : ℕ) (t : T) : Concurrent D T :=
  ⟨st.data, (number, t) :: st.others number⟩

variable {st : Concurrent D T} {number : ℕ} {t : T} {entry : ℕ × T}

theorem mem_of_transaction? (h : st.transaction? number = some t) : (number, t) ∈ st.running := by
  obtain ⟨entry, hf, rfl⟩ := Option.map_eq_some_iff.mp h
  have hnum : entry.1 = number := by simpa using List.find?_some hf
  exact hnum ▸ List.mem_of_find?_eq_some hf

theorem mem_others : entry ∈ st.others number ↔ entry ∈ st.running ∧ entry.1 ≠ number := by
  simp [others]

/-- Nobody else holds a lock that is free. -/
theorem not_held_of_free [DecidableEq L] {held : T → List L} {locks : List L} {lock : L}
    (h : st.free held number locks) (hlock : lock ∈ locks) (hent : entry ∈ st.others number) :
    lock ∉ held entry.2 := by
  simpa using List.all_eq_true.mp (List.all_eq_true.mp h lock hlock) entry hent

end Concurrent

end ModelDock.Relational
