import Mathlib.Data.List.DropRight
import Mathlib.Data.Rat.Defs
import ModelDock.Text.Normalize

/-!
# Text functions of the language runtime

Case tables and parsers of the language runtime: lower-casing is idempotent, keeps white space and digits, and
is not related to case folding.
-/

namespace ModelDock.Text

open List

/-- The character tables and the number parsers of a runtime. -/
structure Runtime where
  lowerRune : Char → Char
  /-- One representative of all characters that are equal under simple case folding. -/
  foldRune : Char → Char
  /-- The exact rational number a text denotes. -/
  ratOf : String → Option ℚ
  /-- The integer a decimal text denotes. -/
  intOf : String → Option ℤ
  /-- A binary floating-point number as an integer. -/
  intOfFloat : ℚ → ℤ
  /-- The binary floating-point number that stands for a rational number. -/
  roundFloat : ℚ → ℚ
  lower_lower : ∀ c, lowerRune (lowerRune c) = lowerRune c
  isSpace_lower : ∀ c, isSpace (lowerRune c) = isSpace c
  lower_digit : ∀ c, c.isDigit → lowerRune c = c

variable (go : Runtime)

/-- Equality under simple case folding. -/
def Runtime.equalFold (s t : String) : Bool := s.toList.map go.foldRune == t.toList.map go.foldRune

variable (s : String) (c : Char)

/-- Every character in lower case. -/
def Runtime.toLower : String := String.ofList (s.toList.map go.lowerRune)

/-- A text as names are compared: trimmed and in lower case. -/
def Runtime.normalize : String := go.toLower (trimSpace s)

variable {go} {s t r : String}

theorem Runtime.equalFold_iff :
    go.equalFold s t ↔ s.toList.map go.foldRune = t.toList.map go.foldRune := beq_iff_eq

@[simp]
theorem Runtime.equalFold_refl (s : String) : go.equalFold s s := equalFold_iff.mpr rfl

theorem Runtime.equalFold_comm (s t : String) : go.equalFold s t = go.equalFold t s := by
  rw [Bool.eq_iff_iff, equalFold_iff, equalFold_iff, eq_comm]

theorem Runtime.equalFold_trans (hst : go.equalFold s t) (htr : go.equalFold t r) :
    go.equalFold s r :=
  equalFold_iff.mpr ((equalFold_iff.mp hst).trans (equalFold_iff.mp htr))

theorem Runtime.exists_fresh (texts : List String) :
    ∃ fresh, ∀ text ∈ texts, go.equalFold text fresh = false := by
  have hbd : ∃ n, ∀ text ∈ texts, text.toList.length < n := by
    induction texts with
    | nil => exact ⟨0, nofun⟩
    | cons text texts ih =>
      obtain ⟨n, hn⟩ := ih
      refine ⟨max n (text.toList.length + 1), fun other hne => ?_⟩
      rcases mem_cons.mp hne with rfl | hne
      · exact lt_of_lt_of_le (Nat.lt_succ_self _) (le_max_right _ _)
      · exact lt_of_lt_of_le (hn other hne) (le_max_left _ _)
  obtain ⟨n, hn⟩ := hbd
  refine ⟨String.ofList (replicate n 'a'), fun text htext => ?_⟩
  rw [Bool.eq_false_iff]
  intro heq
  have hln := congrArg length (equalFold_iff.mp heq)
  rw [length_map, length_map, String.toList_ofList, length_replicate] at hln
  exact absurd hln (hn text htext).ne

theorem trimChars_trimChars (cs : List Char) : trimChars (trimChars cs) = trimChars cs := by
  have hstar : (trimChars cs).dropWhile isSpace = trimChars cs := by
    cases hcut : trimChars cs with
    | nil => rfl
    | cons c rest =>
      -- What is left starts as the text without its leading white space does.
      obtain ⟨tail, htail⟩ : ∃ tail, cs.dropWhile isSpace = c :: tail := by
        obtain ⟨ending, hend⟩ := rdropWhile_prefix isSpace (cs.dropWhile isSpace)
        refine ⟨rest ++ ending, ?_⟩
        rw [← hend, ← cons_append, ← hcut]
        rfl
      have hhead := head_dropWhile_not isSpace (by rw [htail]; exact cons_ne_nil _ _)
      simp only [htail, head_cons] at hhead
      exact dropWhile_cons_of_neg (by simp [hhead])
  calc
    trimChars (trimChars cs) = ((trimChars cs).dropWhile isSpace).rdropWhile isSpace := rfl
    _ = (trimChars cs).rdropWhile isSpace := by rw [hstar]
    _ = trimChars cs := rdropWhile_idempotent _ _

theorem Runtime.trimSpace_toLower (s : String) : trimSpace (go.toLower s) = go.toLower (trimSpace s) := by
  have hsp : isSpace ∘ go.lowerRune = isSpace := funext go.isSpace_lower
  simp only [trimSpace, trimChars, toLower, String.toList_ofList, dropWhile_map, hsp, ← map_reverse]

theorem Runtime.toLower_toLower (s : String) : go.toLower (go.toLower s) = go.toLower s := by
  simp only [toLower, String.toList_ofList, map_map]
  exact congrArg _ (map_congr_left fun c _ => go.lower_lower c)

/-- A normalized text is its own normal form. -/
theorem Runtime.normalize_normalize (s : String) : go.normalize (go.normalize s) = go.normalize s := by
  have htrim : trimSpace (trimSpace s) = trimSpace s := by
    rw [trimSpace, trimSpace, String.toList_ofList, trimChars_trimChars]
  rw [normalize, normalize, trimSpace_toLower, toLower_toLower, htrim]

@[simp]
theorem Runtime.normalize_empty : go.normalize "" = "" := rfl

theorem Runtime.normalize_digit {c : Char} (h : c.isDigit) :
    go.normalize (String.ofList [c]) = String.ofList [c] := by
  simp [normalize, toLower, trimSpace, trimChars, isSpace_of_isDigit h, go.lower_digit c h]

theorem isSpace_toLower : isSpace c.toLower = isSpace c := by
  delta Char.toLower
  split
  · next hup =>
    have hcode : 0x41 ≤ c.val.toNat ∧ c.val.toNat ≤ 0x5A := hup
    have hlow : (c.val + 32).toNat = c.val.toNat + 32 := by
      exact Nat.mod_eq_of_lt (Nat.lt_of_le_of_lt (Nat.add_le_add_right hcode.2 32) (by decide))
    rw [isSpace_of_visible, isSpace_of_visible]
    · exact ⟨(by decide : 0x21 ≤ 0x41).trans hcode.1, hcode.2.trans (by decide)⟩
    · change 0x21 ≤ (c.val + 32).toNat ∧ (c.val + 32).toNat ≤ 0x7E
      omega
  · rfl

theorem toLower_toLower : c.toLower.toLower = c.toLower := by
  delta Char.toLower
  grind

theorem toLower_of_isDigit (h : c.isDigit) : c.toLower = c := by
  delta Char.toLower
  grind [Char.isDigit]

/-- The tables of the ASCII characters, with parsers that read integers only and exact division. -/
def asciiRuntime : Runtime where
  lowerRune := Char.toLower
  foldRune := Char.toLower
  ratOf text := text.toInt?.map (↑)
  intOf := String.toInt?
  intOfFloat value := value.num.tdiv value.den
  roundFloat := id
  lower_lower := toLower_toLower
  isSpace_lower := isSpace_toLower
  lower_digit := toLower_of_isDigit

end ModelDock.Text
