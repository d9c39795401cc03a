import ModelDock.Settlement.Split
import ModelDock.Text.Runtime

/-!
# The text of a decimal

`domain.Decimal` is a text. An operation reads two of them as rationals, writes the result with twelve digits
after the point, and checks the new text again.
-/

namespace ModelDock.Domain

open Numeric Store Text List Nat

/-- A decimal as it is written. -/
abbrev Decimal := List Char

/-- The sign of a number, and its digits before and after the point. -/
structure Parts where
  negative : Bool
  (whole fraction : List Char)

/-- `decimalPattern`: an optional sign, up to 18 digits without a leading zero, and up to 12 after a point. -/
def decimalPattern (text : List Char) : Option Parts :=
  let body := if text.head? = some '+' ∨ text.head? = some '-' then text.tail else text
  let whole := body.takeWhile Char.isDigit
  let rest := body.dropWhile Char.isDigit
  if (whole = ['0'] ∨ whole ≠ [] ∧ whole.head? ≠ some '0' ∧ whole.length ≤ 18) ∧
      (rest = [] ∨ rest.head? = some '.' ∧ rest.tail ≠ [] ∧ rest.tail.all Char.isDigit) ∧ rest.tail.length ≤ 12 then
    some ⟨text.head? = some '-', whole, rest.tail⟩
  else none

/-- `ParseDecimal`: the trimmed text, if it is a decimal. -/
def parseDecimal (text : Decimal) : Option Decimal := (decimalPattern (trimChars text)).map fun _ => trimChars text

/-- `SetString`. -/
def Parts.value (parts : Parts) : ℚ := (if parts.negative then -1 else 1) *
  (ofDigitChars 10 (parts.whole ++ parts.fraction) 0 : ℕ) / 10 ^ parts.fraction.length

/-- The number a decimal denotes. -/
def decimalRat (text : Decimal) : Option ℚ := do return (← decimalPattern (← parseDecimal text)).value

/-- What `FloatString(12)` writes. -/
def floatParts (x : ℚ) : Parts :=
  let units := (formatRat x).natAbs
  let fraction := toDigits 10 (units % 10 ^ 12)
  ⟨x < 0, toDigits 10 (units / 10 ^ 12), replicate (12 - fraction.length) '0' ++ fraction⟩

/-- The text of a number. -/
def Parts.text (parts : Parts) : List Char :=
  (if parts.negative then ['-'] else []) ++ (parts.whole ++ '.' :: parts.fraction)

/-- Read two decimals and write what they give. -/
def combine (operation : ℚ → ℚ → ℚ) (a b : Decimal) : Option Decimal := do
  parseDecimal (floatParts (operation (← decimalRat a) (← decimalRat b))).text

/-- `Add`. -/
def add : Decimal → Decimal → Option Decimal := combine (· + ·)

variable {text : Decimal} {parts : Parts} {x : ℚ}

end ModelDock.Domain
