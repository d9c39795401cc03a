import Mathlib.Data.List.Basic

/-!
# Trimming and upper-casing request text

Upper-casing is spelled out for the letters that become one of `A`–`Z`, which is all a comparison with an
upper-case code can see.
-/

namespace ModelDock.Text

open List

variable {c : Char}

/-- Unicode white space. -/
def isSpace (c : Char) : Bool :=
  c.toNat ∈ [0x09, 0x0A, 0x0B, 0x0C, 0x0D, 0x20, 0x85, 0xA0, 0x1680, 0x2028, 0x2029, 0x202F, 0x205F,
    0x3000] || (0x2000 ≤ c.toNat && c.toNat ≤ 0x200A)

/-- The characters without leading and trailing white space. -/
def trimChars (cs : List Char) : List Char :=
  ((cs.dropWhile isSpace).reverse.dropWhile isSpace).reverse

/-- The text without leading and trailing white space. -/
def trimSpace (s : String) : String := String.ofList (trimChars s.toList)

/-- A text is blank when nothing but white space is in it. -/
def isBlank (s : String) : Bool := s.toList.all isSpace

/-- The upper-case letter of a character, where that letter is one of `A`–`Z`. -/
def upperChar (c : Char) : Char :=
  if 0x61 ≤ c.toNat ∧ c.toNat ≤ 0x7A then Char.ofNat (c.toNat - 0x20)
  else if c.toNat = 0x131 then 'I'
  else if c.toNat = 0x17F then 'S'
  else c

/-- The text in upper case. -/
def toUpper (s : String) : String := String.ofList (s.toList.map upperChar)

/-- A capital letter of the basic alphabet. -/
def isCapital (c : Char) : Bool := 0x41 ≤ c.toNat && c.toNat ≤ 0x5A

theorem isSpace_of_visible (h : 0x21 ≤ c.toNat ∧ c.toNat ≤ 0x7E) : isSpace c = false := by
  simp only [isSpace, mem_cons, not_mem_nil, or_false, Bool.or_eq_false_iff,
    decide_eq_false_iff_not, Bool.and_eq_false_iff]
  omega

theorem isSpace_of_isCapital (h : isCapital c) : isSpace c = false := by
  simp only [isCapital, Bool.and_eq_true, decide_eq_true_eq] at h
  exact isSpace_of_visible (by omega)

theorem isSpace_of_isDigit (h : c.isDigit) : isSpace c = false := by
  have hcode : 0x30 ≤ c.toNat ∧ c.toNat ≤ 0x39 := by
    simpa [Char.isDigit, UInt32.le_iff_toNat_le] using h
  exact isSpace_of_visible (by omega)

theorem upperChar_of_isCapital (h : isCapital c) : upperChar c = c := by
  simp only [isCapital, Bool.and_eq_true, decide_eq_true_eq] at h
  unfold upperChar
  rw [if_neg (by omega), if_neg (by omega), if_neg (by omega)]

theorem trimChars_eq_self {cs : List Char} (h : ∀ c ∈ cs, isSpace c = false) : trimChars cs = cs := by
  have hdrop (l : List Char) (hl : ∀ c ∈ l, isSpace c = false) : l.dropWhile isSpace = l := by
    cases l with
    | nil => rfl
    | cons c _ => exact dropWhile_cons_of_neg (by simp [hl c mem_cons_self])
  unfold trimChars
  rw [hdrop cs h, hdrop cs.reverse fun c hc => h c (mem_reverse.mp hc), reverse_reverse]

theorem toUpper_trimSpace_of_capitals {s : String} (h : s.toList.all isCapital) :
    toUpper (trimSpace s) = s := by
  have hcap := all_eq_true.mp h
  have htrim : trimChars s.toList = s.toList := trimChars_eq_self fun c hc => isSpace_of_isCapital (hcap c hc)
  have hup : s.toList.map upperChar = s.toList :=
    (map_congr_left fun c hc => upperChar_of_isCapital (hcap c hc)).trans (map_id _)
  rw [toUpper, trimSpace, String.toList_ofList, htrim, hup, String.ofList_toList]

end ModelDock.Text
