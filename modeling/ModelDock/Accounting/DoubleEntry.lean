import Mathlib.Algebra.BigOperators.Group.List.Basic
import Mathlib.Tactic.Abel
import Mathlib.Tactic.Linarith

/-!
# Double-entry postings

A posting moves an amount on one side of one account. A list of postings is balanced when its debits and
credits have one total; flipping every side negates its net effect and keeps it balanced.
-/

namespace ModelDock.Accounting

/-- The side of an account a posting stands on. -/
inductive Side
  | debit
  | credit
deriving DecidableEq

/-- The opposite side. -/
def Side.flip : Side → Side
  | .debit => .credit
  | .credit => .debit

/-- An amount on one side of an account. -/
structure Posting (A : Type) where
  account : A
  side : Side
  amount : ℤ
deriving DecidableEq

variable {A : Type}

/-- The effect of a posting on its account: credits raise it, debits lower it. -/
def Posting.signed (p : Posting A) : ℤ :=
  match p.side with
  | .credit => p.amount
  | .debit => -p.amount

/-- The posting that undoes this one. -/
def Posting.flip (p : Posting A) : Posting A := { p with side := p.side.flip }

/-- The total on one side. -/
def total (side : Side) (postings : List (Posting A)) : ℤ :=
  (postings.map fun p => if p.side = side then p.amount else 0).sum

/-- Debits and credits have one total. -/
def Balanced (postings : List (Posting A)) : Prop := total .debit postings = total .credit postings

instance (postings : List (Posting A)) : Decidable (Balanced postings) :=
  inferInstanceAs (Decidable (_ = _))

/-- Credits minus debits on one account. -/
def net [DecidableEq A] (account : A) (postings : List (Posting A)) : ℤ :=
  (postings.map fun p => if p.account = account then p.signed else 0).sum

@[simp] theorem Posting.signed_flip (p : Posting A) : p.flip.signed = -p.signed := by
  rcases p with ⟨_, side, _⟩
  cases side <;> simp [flip, Side.flip, signed]

@[simp] theorem Posting.account_flip (p : Posting A) : p.flip.account = p.account := rfl

section Net

variable [DecidableEq A]

@[simp] theorem net_cons (account : A) (p : Posting A) (rest : List (Posting A)) :
    net account (p :: rest) = (if p.account = account then p.signed else 0) + net account rest := by
  simp [net]

/-- Reversed postings net to the opposite. -/
theorem net_flip (account : A) (postings : List (Posting A)) :
    net account (postings.map Posting.flip) = -net account postings := by
  induction postings with
  | nil => rfl
  | cons _ _ ih =>
    simp only [List.map_cons, net_cons, Posting.account_flip, Posting.signed_flip]
    split <;> omega

end Net

theorem total_congr {B : Type} {postings : List (Posting A)} {postings' : List (Posting B)}
    (h : postings.map (fun p => (p.side, p.amount)) = postings'.map fun p => (p.side, p.amount))
    (side : Side) : total side postings = total side postings' := by
  have hsum := congrArg (fun list => (list.map fun p : Side × ℤ => if p.1 = side then p.2 else 0).sum) h
  simpa only [total, List.map_map, Function.comp_def] using hsum

end ModelDock.Accounting
