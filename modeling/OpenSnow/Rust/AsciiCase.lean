import Mathlib
import OpenSnow.Rust.Text

/-!
# Letter case in ASCII

Keywords are compared in ASCII upper or lower case.  Both comparisons say the
same, and they leave everything but letters as it is.
-/

namespace OpenSnow.Rust.Text

/-- Only a letter has a letter in upper case. -/
theorem toUpper_eq_iff {ch other : Char} (notLetter : ¬ other.isAlpha) :
    ch.toUpper = other ↔ ch = other := by
  constructor
  · intro upper
    by_cases lower : ch.isLower
    · have letter : ch.toUpper.isAlpha := by
        rw [Char.isAlpha_toUpper_eq_isAlpha, Char.isAlpha, lower, Bool.or_true]
      rw [upper] at letter
      exact absurd letter notLetter
    · rwa [Char.toUpper_eq_of_not_isLower lower] at upper
  · rintro rfl
    apply Char.toUpper_eq_of_not_isLower
    intro lower
    exact notLetter (by rw [Char.isAlpha, lower, Bool.or_true])

/-- A character is the upper or the lower case of its letter. -/
theorem eq_or_eq_of_toUpper {ch other : Char}
    (same : ch.toUpper = other.toUpper) :
    ch = other.toUpper ∨ ch = other.toLower := by
  by_cases lower : ch.isLower
  · right
    calc
      ch = ch.toLower :=
        (Char.toLower_eq_of_not_isUpper (Char.not_isUpper_of_isLower lower)).symm
      _ = ch.toUpper.toLower := (Char.toLower_toUpper_eq_toLower ch).symm
      _ = other.toLower := by rw [same, Char.toLower_toUpper_eq_toLower]
  · left
    rw [← same, Char.toUpper_eq_of_not_isLower lower]

theorem map_toUpper_map_toLower (text : List Char) :
    (text.map Char.toLower).map Char.toUpper = text.map Char.toUpper := by
  rw [List.map_map]
  exact List.map_congr_left fun ch _ => Char.toUpper_toLower_eq_toUpper ch

theorem map_toLower_map_toUpper (text : List Char) :
    (text.map Char.toUpper).map Char.toLower = text.map Char.toLower := by
  rw [List.map_map]
  exact List.map_congr_left fun ch _ => Char.toLower_toUpper_eq_toLower ch

theorem map_toLower_eq_iff {text word : List Char}
    (upper : word.map Char.toUpper = word) :
    text.map Char.toLower = word.map Char.toLower ↔
      text.map Char.toUpper = word := by
  constructor
  · intro same
    rw [← map_toUpper_map_toLower text, same, map_toUpper_map_toLower, upper]
  · intro same
    rw [← map_toLower_map_toUpper text, same]

theorem eqIgnoreAsciiCase_iff {text : String} {word : String}
    (upper : word.toList.map Char.toUpper = word.toList) :
    eqIgnoreAsciiCase text word ↔
      text.toList.map Char.toUpper = word.toList := by
  rw [eqIgnoreAsciiCase, beq_iff_eq, toAsciiLowercase, toAsciiLowercase,
    String.ofList_inj, map_toLower_eq_iff upper]

theorem isAscii_of_alphanum {ch : Char} (named : ch.isAlphanum || ch == '_') :
    ch.toNat < 0x80 := by
  simp only [Char.isAlphanum, Char.isAlpha, Char.isUpper, Char.isLower,
    Char.isDigit, Bool.or_eq_true, Bool.and_eq_true, decide_eq_true_eq,
    beq_iff_eq, UInt32.le_iff_toNat_le, ge_iff_le] at named
  rcases named with ((bounds | bounds) | bounds) | rfl
  · exact Nat.lt_of_le_of_lt bounds.2 (by decide)
  · exact Nat.lt_of_le_of_lt bounds.2 (by decide)
  · exact Nat.lt_of_le_of_lt bounds.2 (by decide)
  · decide

theorem not_isWhitespace_of_alphanum {ch : Char}
    (named : ch.isAlphanum || ch == '_') : isWhitespace ch = false := by
  have table : ∀ code < 0x80, isWhitespace (Char.ofNat code) →
      ¬ ((Char.ofNat code).isAlphanum || Char.ofNat code == '_') := by
    decide
  rw [Bool.eq_false_iff]
  intro blank
  have same : Char.ofNat ch.toNat = ch := Char.ofNat_toNat ch
  exact
    table ch.toNat (isAscii_of_alphanum named) (by rwa [same]) (by rwa [same])

/-- The code points of white space. -/
def blankCodes : List Nat :=
  [0x9, 0xA, 0xB, 0xC, 0xD, 0x20, 0x85, 0xA0, 0x1680, 0x2000, 0x2001, 0x2002,
    0x2003, 0x2004, 0x2005, 0x2006, 0x2007, 0x2008, 0x2009, 0x200A, 0x2028,
    0x2029, 0x202F, 0x205F, 0x3000]

theorem mem_blankCodes {ch : Char} (blank : isWhitespace ch) :
    ch.toNat ∈ blankCodes := by
  simp only [isWhitespace, Bool.or_eq_true, Bool.and_eq_true, beq_iff_eq,
    decide_eq_true_eq] at blank
  simp only [blankCodes, List.mem_cons, List.not_mem_nil, or_false]
  omega

theorem charToUppercase_of_blank {ch : Char} (blank : isWhitespace ch) :
    charToUppercase ch = [ch] := by
  have table : ∀ code ∈ blankCodes,
      charToUppercase (Char.ofNat code) = [Char.ofNat code] := by
    decide
  have same := table ch.toNat (mem_blankCodes blank)
  rwa [Char.ofNat_toNat] at same

theorem upperChars_of_blank {text : List Char}
    (blank : ∀ ch ∈ text, isWhitespace ch) : upperChars text = text := by
  induction text with
  | nil => rfl
  | cons ch rest ih =>
      rw [upperChars, List.flatMap_cons, ← upperChars,
        charToUppercase_of_blank (blank ch List.mem_cons_self),
        ih fun other member => blank other (List.mem_cons_of_mem ch member)]
      rfl

end OpenSnow.Rust.Text
