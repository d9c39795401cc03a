import Mathlib.Tactic.Linarith
import ModelDock.Routing.Config

/-!
# Verifying observed prices

The greatest deviation of four observed prices from the price book is compared with a tolerance. A deviation that
does not fit sixty-four bits is passed over, so that it counts as none.
-/

namespace ModelDock.Quality

open Text
open Routing (isInt64)

/-- The prices of a price book entry or of an observation. -/
structure TokenCosts (α : Type) where
  (inputTokenCost cachedInputTokenCost outputTokenCost requestFixedCost : α)

/-- The prices in their order. -/
def TokenCosts.toList {α : Type} (costs : TokenCosts α) : List α :=
  [costs.inputTokenCost, costs.cachedInputTokenCost, costs.outputTokenCost, costs.requestFixedCost]

/-- An approved entry of the price book. -/
structure PriceBookEntry where
  costs : TokenCosts ℚ
  currency : String
  unit : ℤ
  nonneg : ∀ cost ∈ costs.toList, 0 ≤ cost

/-- An observation with the decimals that its texts denote; the currency is in upper case. -/
structure PriceVerification where
  observed : TokenCosts (Option ℚ)
  currency : String
  unit : ℤ

/-- How an observed price compares with the price book. -/
inductive VerificationResult
  | unverifiable
  | mismatch
  | matched
  deriving DecidableEq

/-- A deviation in basis points, rounded up. -/
def deviationBps (left right : ℚ) : ℤ :=
  let bps := |right - left| / left * 10000
  bps.num / bps.den + if bps.num % bps.den ≠ 0 then 1 else 0

/-- The greatest deviation, from the greatest one so far. -/
def maximumPriceDeviationBPS (maximum : ℤ) : List (ℚ × Option ℚ) → ℤ
  | [] => maximum
  | (_, none) :: _ => 2 ^ 62 - 1
  | (left, some right) :: rest =>
    if left < 0 ∨ right < 0 then 2 ^ 62 - 1
    else if left = 0 then
      if 0 < right then 2 ^ 62 - 1 else maximumPriceDeviationBPS maximum rest
    else
      let quotient := deviationBps left right
      maximumPriceDeviationBPS (if isInt64 quotient && maximum < quotient then quotient else maximum) rest

/-- Each price of the book with the observed one. -/
def components (book : PriceBookEntry) (verification : PriceVerification) : List (ℚ × Option ℚ) :=
  book.costs.toList.zip verification.observed.toList

/-- The currencies and the units are the same. -/
def Agrees (go : Runtime) (book : PriceBookEntry) (verification : PriceVerification) : Prop :=
  go.equalFold book.currency verification.currency ∧ book.unit = verification.unit

instance (go : Runtime) (book : PriceBookEntry) (verification : PriceVerification) :
    Decidable (Agrees go book verification) := instDecidableAnd

/-- The result that is recorded; without a policy there is no tolerance and nothing is recorded. -/
def verificationResult (go : Runtime) (book : Option PriceBookEntry) (toleranceBps : Option ℤ)
    (verification : PriceVerification) : Option VerificationResult :=
  match book with
  | none => some .unverifiable
  | some book => toleranceBps.map fun tolerance =>
    if Agrees go book verification ∧ maximumPriceDeviationBPS 0 (components book verification) ≤ tolerance then
      .matched
    else .mismatch

theorem deviationBps_le_iff {left : ℚ} (hleft : 0 < left) (right : ℚ) (n : ℤ) :
    deviationBps left right ≤ n ↔ |right - left| * 10000 ≤ n * left := by
  have hbps : |right - left| / left * 10000 ≤ n ↔ |right - left| * 10000 ≤ n * left := by
    rw [div_mul_eq_mul_div, div_le_iff₀ hleft]
  rw [← hbps, deviationBps]
  generalize |right - left| / left * 10000 = bps
  have hden : (0 : ℤ) < bps.den := by exact_mod_cast bps.den_pos
  have hle : bps ≤ n ↔ bps.num ≤ n * bps.den := by
    conv_lhs => rw [← Rat.num_div_den bps]
    rw [div_le_iff₀ (by exact_mod_cast bps.den_pos)]
    exact_mod_cast Iff.rfl
  rw [hle]
  split
  · next hrem =>
    -- The quotient is not exact, so that its bound is a strict one.
    rw [Int.add_one_le_iff, Int.ediv_lt_iff_lt_mul hden]
    refine ⟨le_of_lt, fun hnum => lt_of_le_of_ne hnum fun heq => hrem ?_⟩
    rw [heq]
    exact Int.mul_emod_left _ _
  · next hexac =>
    have hqt := Int.ediv_mul_cancel (Int.dvd_of_emod_eq_zero (not_not.mp hexac))
    rw [add_zero, ← mul_le_mul_iff_of_pos_right hden, hqt]

/-- A component deviates by no more than a number of basis points. -/
def Within (bps : ℤ) (component : ℚ × Option ℚ) : Prop :=
  ∀ observed ∈ component.2, |observed - component.1| * 10000 ≤ bps * component.1

/-- The deviation of a component fits sixty-four bits, or there is nothing to divide by. -/
def Fits (component : ℚ × Option ℚ) : Prop := component.1 = 0 ∨ Within (2 ^ 63 - 1) component

/-- Both decimals of a component are there and not negative. -/
def Valid (component : ℚ × Option ℚ) : Prop := 0 ≤ component.1 ∧ ∃ observed ∈ component.2, 0 ≤ observed

theorem deviation_step_le_iff {left right : ℚ} (hleft : 0 < left) (maximum tolerance : ℤ) :
    (if isInt64 (deviationBps left right) && maximum < deviationBps left right then deviationBps left right
        else maximum) ≤ tolerance ↔
      maximum ≤ tolerance ∧ (Fits (left, some right) → Within tolerance (left, some right)) := by
  have hnn : -2 ^ 63 ≤ deviationBps left right := by
    by_contra hlow
    have hneg := (deviationBps_le_iff hleft right (-1)).mp (by omega)
    have hpos : 0 ≤ |right - left| := abs_nonneg _
    push_cast at hneg
    linarith
  have hfits : isInt64 (deviationBps left right) ↔ Fits (left, some right) := by
    have hle := deviationBps_le_iff hleft right (2 ^ 63 - 1)
    simp only [isInt64, Fits, Within, hleft.ne', false_or, Option.mem_some_iff, forall_eq', ← hle]
    simp only [Bool.and_eq_true, decide_eq_true_eq, hnn, true_and]
    omega
  have hin : Within tolerance (left, some right) ↔ deviationBps left right ≤ tolerance := by
    simp [Within, deviationBps_le_iff hleft]
  rw [hin, ← hfits]
  cases isInt64 (deviationBps left right) with
  | false => simp
  | true =>
    simp only [Bool.true_and, decide_eq_true_eq, forall_const]
    split <;> omega

theorem maximumPriceDeviationBPS_le_iff {tolerance : ℤ} (htl : tolerance ≤ 10000)
    {pairs : List (ℚ × Option ℚ)} (hvl : ∀ pair ∈ pairs, Valid pair) (maximum : ℤ) :
    maximumPriceDeviationBPS maximum pairs ≤ tolerance ↔
      maximum ≤ tolerance ∧ ∀ pair ∈ pairs, Fits pair → Within tolerance pair := by
  induction pairs generalizing maximum with
  | nil => simp [maximumPriceDeviationBPS]
  | cons pair _ ih =>
    obtain ⟨_, _⟩ := pair
    obtain ⟨hleft, right, rfl, hrg⟩ := hvl _ List.mem_cons_self
    have ih := ih fun pair hpair => hvl pair (List.mem_cons_of_mem _ hpair)
    rw [List.forall_mem_cons, maximumPriceDeviationBPS, if_neg (by simp [hleft, hrg])]
    rcases hleft.eq_or_lt with rfl | hpos
    · rw [if_pos rfl]
      split
      · next hch =>
        have hexc : ¬Within tolerance (0, some right) := by simp [Within, abs_of_pos hch, hch]
        exact ⟨fun h => absurd h (by omega), fun h => absurd (h.2.1 (.inl rfl)) hexc⟩
      · next hfree =>
        have hzero : right = 0 := le_antisymm (not_lt.mp hfree) hrg
        simp [ih, Within, hzero]
    · rw [if_neg hpos.ne', ih, deviation_step_le_iff hpos, and_assoc]

/-- A recorded match is one, exactly when no component deviates by more than sixty-four bits hold while the others
are within the tolerance. -/
theorem verificationResult_matched_sound_iff (go : Runtime) (book : PriceBookEntry) (tolerance : ℤ)
    (htolerance : 0 ≤ tolerance ∧ tolerance ≤ 10000) (verification : PriceVerification)
    (hvalid : ∀ component ∈ components book verification, ∃ observed ∈ component.2, 0 ≤ observed) :
    (verificationResult go (some book) (some tolerance) verification = some .matched →
        Agrees go book verification ∧ ∀ component ∈ components book verification, Within tolerance component) ↔
      (Agrees go book verification →
        (∀ component ∈ components book verification, Fits component → Within tolerance component) →
          ∀ component ∈ components book verification, Fits component) := by
  have hvalid : ∀ component ∈ components book verification, Valid component := fun component hcm =>
    ⟨book.nonneg _ (List.of_mem_zip hcm).1, hvalid component hcm⟩
  have hmt : verificationResult go (some book) (some tolerance) verification = some .matched ↔
      Agrees go book verification ∧
        ∀ component ∈ components book verification, Fits component → Within tolerance component := by
    simp [verificationResult, maximumPriceDeviationBPS_le_iff htolerance.2 hvalid, htolerance.1]
  have hfits {component : ℚ × Option ℚ} (hcm : component ∈ components book verification)
      (hin : Within tolerance component) : Fits component := by
    refine .inr fun observed hob => (hin observed hob).trans ?_
    refine mul_le_mul_of_nonneg_right ?_ (hvalid component hcm).1
    exact_mod_cast (by omega : tolerance ≤ 2 ^ 63 - 1)
  rw [hmt]
  exact ⟨fun h hag hsm component hcm => hfits hcm ((h ⟨hag, hsm⟩).2 _ hcm),
    fun h hsm => ⟨hsm.1, fun component hcm =>
      hsm.2 component hcm (h hsm.1 hsm.2 component hcm)⟩⟩

/-- A price book entry with the smallest price. -/
def tinyPrice : PriceBookEntry := ⟨⟨1 / 10 ^ 12, 0, 0, 0⟩, "USD", 1000000, by decide +kernel⟩

/-- An observation of that entry with another price of input. -/
def observedPrice (price : ℚ) : PriceVerification := ⟨⟨some price, some 0, some 0, some 0⟩, "USD", 1000000⟩

theorem verificationResult_matched_sound_iff_tiny :
    (verificationResult asciiRuntime (some tinyPrice) (some 0) (observedPrice 1) = some .matched →
        Agrees asciiRuntime tinyPrice (observedPrice 1) ∧
          ∀ component ∈ components tinyPrice (observedPrice 1), Within 0 component) ↔
      (Agrees asciiRuntime tinyPrice (observedPrice 1) →
        (∀ component ∈ components tinyPrice (observedPrice 1), Fits component → Within 0 component) →
          ∀ component ∈ components tinyPrice (observedPrice 1), Fits component) :=
  verificationResult_matched_sound_iff asciiRuntime tinyPrice 0 (by decide) (observedPrice 1)
    (by simp [components, observedPrice, TokenCosts.toList])

/-- A million observed where the book has the smallest price is a match under the tolerance zero. -/
theorem verificationResult_matched_huge :
    verificationResult asciiRuntime (some tinyPrice) (some 0) (observedPrice (10 ^ 6)) = some .matched ∧
      ¬∀ component ∈ components tinyPrice (observedPrice (10 ^ 6)), Within 0 component := by
  refine ⟨by decide +kernel, fun h => ?_⟩
  have hfs := h (1 / 10 ^ 12, some (10 ^ 6)) (by simp [components, tinyPrice, observedPrice, TokenCosts.toList])
    (10 ^ 6) rfl
  norm_num [abs_of_pos] at hfs

end ModelDock.Quality
