import Mathlib.Data.List.Basic
import Mathlib.Data.String.Basic
import Mathlib.Data.Nat.Digits.Defs
import Mathlib.Tactic.Common

/-!
# The dictionary order of decimal numerals

Numerals of one length are ordered in a dictionary like the numbers they
denote; numerals of different lengths are not.  If a numeral is followed by a
character below all digits, then `n` comes last in the dictionary of the
numerals `1, …, n` exactly when all its digits but the last are nines.
-/

namespace OpenSnow.Foundation.DecimalOrder

/-- The first word comes before the second one in the dictionary. -/
def Precedes (left right : List Char) : Prop :=
  left < right

theorem string_lt_iff {left right : String} :
    left < right ↔ Precedes left.toList right.toList :=
  String.lt_iff_toList_lt

theorem precedes_cons_iff {first first' : Char} {rest rest' : List Char} :
    Precedes (first :: rest) (first' :: rest') ↔
      first < first' ∨ first = first' ∧ Precedes rest rest' :=
  List.cons_lt_cons_iff

theorem Precedes.append_left {left right : List Char}
    (precedes : Precedes left right) (front : List Char) :
    Precedes (front ++ left) (front ++ right) :=
  List.append_left_lt precedes

theorem Precedes.asymm {left right : List Char}
    (precedes : Precedes left right) : ¬ Precedes right left :=
  List.lt_asymm precedes

/-- The decimal numeral of a number, followed by further characters. -/
def numeral (number : Nat) (tail : List Char) : List Char :=
  Nat.toDigits 10 number ++ tail

theorem numeral_of_lt {number : Nat} (small : number < 10)
    (tail : List Char) :
    numeral number tail = number.digitChar :: tail := by
  rw [numeral, Nat.toDigits_of_lt_base small, List.singleton_append]

theorem numeral_of_le {number : Nat} (large : 10 ≤ number)
    (tail : List Char) :
    numeral number tail =
      numeral (number / 10) ((number % 10).digitChar :: tail) := by
  rw [numeral, Nat.toDigits_of_base_le (by decide) large, List.append_assoc,
    List.singleton_append, numeral]

theorem digitChar_lt_digitChar {low high : Nat}
    (less : low < high) (digit : high < 10) :
    low.digitChar < high.digitChar := by
  have all : ∀ high : Fin 10, ∀ low : Fin 10, low < high →
      Nat.digitChar low < Nat.digitChar high := by
    decide
  exact all ⟨high, digit⟩ ⟨low, less.trans digit⟩ less

/-- The two numbers have equally many decimal digits. -/
def SameLength (left right : Nat) : Prop :=
  ∀ exponent, left < 10 ^ (exponent + 1) ↔ right < 10 ^ (exponent + 1)

theorem SameLength.div {left right : Nat} (same : SameLength left right) :
    SameLength (left / 10) (right / 10) := by
  intro exponent
  have next := same (exponent + 1)
  rw [Nat.pow_succ 10 (exponent + 1)] at next
  rwa [Nat.div_lt_iff_lt_mul (by decide), Nat.div_lt_iff_lt_mul (by decide)]

/-- Among numerals of one length the smaller number comes first. -/
theorem numeral_lt_numeral {left right : Nat}
    (same : SameLength left right) (less : left < right)
    (leftTail rightTail : List Char) :
    Precedes (numeral left leftTail) (numeral right rightTail) := by
  induction right using Nat.strongRecOn generalizing left leftTail rightTail with
  | ind right ih =>
      by_cases small : right < 10
      · have leftSmall := less.trans small
        rw [numeral_of_lt leftSmall, numeral_of_lt small,
          precedes_cons_iff]
        exact Or.inl (digitChar_lt_digitChar less small)
      · have rightLarge : 10 ≤ right := Nat.le_of_not_lt small
        have leftLarge : 10 ≤ left := by
          have lengths := same 0
          simp only [Nat.zero_add, Nat.pow_one] at lengths
          omega
        rw [numeral_of_le leftLarge, numeral_of_le rightLarge]
        rcases Nat.lt_or_ge (left / 10) (right / 10) with divLess | divGe
        · exact ih (right / 10) (Nat.div_lt_self (by omega) (by decide))
            same.div divLess _ _
        · have divEqual : left / 10 = right / 10 := by omega
          have lastLess : left % 10 < right % 10 := by omega
          rw [divEqual]
          apply Precedes.append_left
          rw [precedes_cons_iff]
          exact Or.inl
            (digitChar_lt_digitChar lastLess (Nat.mod_lt _ (by decide)))

/-- A run of nines. -/
theorem numeral_nines (exponent : Nat) (tail : List Char) :
    numeral (10 ^ (exponent + 2) - 1) tail =
      numeral (10 ^ (exponent + 1) - 1) ('9' :: tail) := by
  have power : 10 ^ (exponent + 2) = 10 * 10 ^ (exponent + 1) :=
    Nat.pow_succ'
  have positive : 0 < 10 ^ (exponent + 1) := by positivity
  have quotient :
      (10 ^ (exponent + 2) - 1) / 10 = 10 ^ (exponent + 1) - 1 := by
    omega
  have remainder : (10 ^ (exponent + 2) - 1) % 10 = 9 := by omega
  have large : 10 ≤ 10 ^ (exponent + 2) - 1 := by
    rw [power]
    have : 10 ≤ 10 ^ (exponent + 1) := by
      rw [Nat.pow_succ]
      have : 0 < 10 ^ exponent := by positivity
      omega
    omega
  rw [numeral_of_le large, quotient, remainder]
  rfl

theorem sameLength_of_bounds {exponent left right : Nat}
    (leftLow : 10 ^ (exponent + 1) ≤ left) (leftHigh : left < 10 ^ (exponent + 2))
    (rightLow : 10 ^ (exponent + 1) ≤ right)
    (rightHigh : right < 10 ^ (exponent + 2)) :
    SameLength left right := by
  intro other
  rcases Nat.lt_or_ge exponent other with above | below
  · have power : 10 ^ (exponent + 2) ≤ 10 ^ (other + 1) :=
      Nat.pow_le_pow_right (by decide) (by omega)
    exact ⟨fun _ => rightHigh.trans_le power, fun _ => leftHigh.trans_le power⟩
  · have power : 10 ^ (other + 1) ≤ 10 ^ (exponent + 1) :=
      Nat.pow_le_pow_right (by decide) (by omega)
    exact
      ⟨fun small => absurd (power.trans leftLow) (Nat.not_le_of_lt small),
        fun small => absurd (power.trans rightLow) (Nat.not_le_of_lt small)⟩

/-- The number and its successor have one length unless a digit is added. -/
theorem sameLength_succ {number : Nat}
    (noPower : ∀ exponent, number + 1 ≠ 10 ^ exponent) :
    SameLength number (number + 1) := by
  intro exponent
  have different := noPower (exponent + 1)
  omega

section Stop

variable {stop : Char}

/--
With a stop character below all digits behind it, no numeral of at most
`exponent + 1` digits comes after a run of nines that goes on with a digit.
-/
theorem numeral_lt_nines
    (belowDigits : ∀ digit < 10, stop < Nat.digitChar digit)
    {exponent number digit : Nat} (isDigit : digit < 10)
    (positive : 0 < number) (fits : number < 10 ^ (exponent + 1))
    (tail nineTail : List Char) :
    Precedes (numeral number (stop :: tail))
      (numeral (10 ^ (exponent + 1) - 1)
        (digit.digitChar :: nineTail)) := by
  induction exponent generalizing digit nineTail with
  | zero =>
      rw [numeral_of_lt fits, numeral_of_lt (by decide),
        precedes_cons_iff]
      by_cases nine : number = 9
      · refine Or.inr ⟨by rw [nine]; rfl, ?_⟩
        rw [precedes_cons_iff]
        exact Or.inl (belowDigits digit isDigit)
      · exact Or.inl (digitChar_lt_digitChar (by omega) (by decide))
  | succ exponent ih =>
      by_cases shorter : number < 10 ^ (exponent + 1)
      · rw [numeral_nines]
        have nine : Nat.digitChar 9 = '9' := rfl
        rw [← nine]
        exact ih (by decide) shorter _
      · by_cases allNines : number = 10 ^ (exponent + 2) - 1
        · rw [allNines]
          apply Precedes.append_left
          rw [precedes_cons_iff]
          exact Or.inl (belowDigits digit isDigit)
        · have power : 10 ^ (exponent + 2) = 10 * 10 ^ (exponent + 1) :=
            Nat.pow_succ'
          have same :=
            sameLength_of_bounds (Nat.le_of_not_lt shorter) fits
              (by omega : 10 ^ (exponent + 1) ≤ 10 ^ (exponent + 2) - 1)
              (by omega)
          exact numeral_lt_numeral same (by omega) _ _

/-- The successor of a number without its last digit comes later. -/
theorem numeral_lt_numeral_quotient_succ {count : Nat}
    (noPower : ∀ exponent, count / 10 + 1 ≠ 10 ^ exponent)
    (tail : List Char) :
    Precedes (numeral count (stop :: tail))
      (numeral (count / 10 + 1) (stop :: tail)) := by
  have large : 10 ≤ count := by
    have notOne := noPower 0
    rw [Nat.pow_zero] at notOne
    omega
  rw [numeral_of_le large]
  exact numeral_lt_numeral (sameLength_succ noPower) (by omega) _ _

/-- Nothing below a number whose leading digits are nines comes later. -/
theorem numeral_lt_of_leadingNines
    (belowDigits : ∀ digit < 10, stop < Nat.digitChar digit)
    {count number exponent : Nat}
    (isPower : count / 10 + 1 = 10 ^ exponent) (positive : 0 < number)
    (below : number < count) (tail : List Char) :
    Precedes (numeral number (stop :: tail))
      (numeral count (stop :: tail)) := by
  cases exponent with
  | zero =>
      rw [Nat.pow_zero] at isPower
      rw [numeral_of_lt (by omega), numeral_of_lt (by omega),
        precedes_cons_iff]
      exact Or.inl (digitChar_lt_digitChar below (by omega))
  | succ exponent =>
      have power : 10 ^ (exponent + 2) = 10 * 10 ^ (exponent + 1) :=
        Nat.pow_succ'
      by_cases shorter : number < 10 ^ (exponent + 1)
      · have quotient : count / 10 = 10 ^ (exponent + 1) - 1 := by omega
        have large : 10 ≤ count := by
          have : 0 < 10 ^ exponent := by positivity
          rw [Nat.pow_succ'] at isPower
          omega
        rw [numeral_of_le large, quotient]
        exact
          numeral_lt_nines belowDigits (Nat.mod_lt _ (by decide))
            positive shorter _ _
      · have same :=
          sameLength_of_bounds (Nat.le_of_not_lt shorter)
            (by omega) (by omega : 10 ^ (exponent + 1) ≤ count) (by omega)
        exact numeral_lt_numeral same below _ _

/--
Among the numerals of `1, …, count` the last one in the dictionary is that of
`count` exactly when all digits of `count` but the last are nines.
-/
theorem numeral_last_iff
    (belowDigits : ∀ digit < 10, stop < Nat.digitChar digit)
    {count : Nat} (positive : 0 < count) (tail : List Char) :
    (∀ number, 0 < number → number ≤ count →
        ¬ Precedes (numeral count (stop :: tail))
          (numeral number (stop :: tail))) ↔
      ∃ exponent, count / 10 + 1 = 10 ^ exponent := by
  constructor
  · intro last
    by_contra noPower
    -- below ten the quotient is zero, and its successor the power `10 ^ 0`
    have large : 10 ≤ count := by
      by_contra small
      exact noPower ⟨0, by rw [Nat.pow_zero]; omega⟩
    exact
      last (count / 10 + 1) (by omega) (by omega)
        (numeral_lt_numeral_quotient_succ (not_exists.mp noPower) tail)
  · rintro ⟨exponent, isPower⟩ number numberPositive bound
    rcases Nat.eq_or_lt_of_le bound with same | below
    · rw [same]
      exact fun precedes => precedes.asymm precedes
    · exact
        (numeral_lt_of_leadingNines belowDigits isPower numberPositive below
          tail).asymm

end Stop

end OpenSnow.Foundation.DecimalOrder
