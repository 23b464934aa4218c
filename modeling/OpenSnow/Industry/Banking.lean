import Mathlib.Data.Nat.ModEq
import OpenSnow.Rust.AsciiCase
import OpenSnow.Rust.Integer
import OpenSnow.Rust.Slice

/-!
# Account numbers and bank codes

The check of international account numbers (IBAN), the check of bank codes
(SWIFT/BIC), and the parts that both are cut into.  Lengths are counted in
bytes, and so are the places of the cuts.
-/

namespace OpenSnow.Industry.Banking

open Rust.Integer
open Rust.Text

/-! ## The check of account numbers -/

/-- The text without its white space. -/
def cleaned (text : List Char) : List Char := text.filter (!isWhitespace ·)

/-- A digit stands for itself, a letter for two digits. -/
def expand (ch : Char) : Panics (List Char) :=
  if ch.isDigit then some [ch]
  else
    (difference ch.toUpper.toNat 'A'.toNat).map fun val =>
      Nat.toDigits 10 (val + 10)

def numeric : List Char → Panics (List Char)
  | [] => some []
  | ch :: rest =>
      (expand ch).bind fun digits => (numeric rest).map (digits ++ ·)

/-- The remainder of a number by 97, digit by digit on 64 bits. -/
def remainder : Nat → List Char → Panics Nat
  | acc, [] => some acc
  | acc, ch :: rest =>
      (toDigit ch).bind fun digit =>
        (unsigned 64 (acc * 10)).bind fun shifted =>
          (unsigned 64 (shifted + digit)).bind fun sum =>
            remainder (sum % 97) rest

def validateIbanValue (iban : List Char) : Panics Bool :=
  let cleaned := cleaned iban
  if utf8Len cleaned < 5 then some false
  else if ¬ cleaned.all Char.isAlphanum then some false
  else
    (sliceFrom cleaned 4).bind fun back =>
      (sliceTo cleaned 4).bind fun front =>
        (numeric (back ++ front)).bind fun digits =>
          (remainder 0 digits).map (· == 1)

/-! ## The parts of account numbers and bank codes -/

structure IbanParts where
  country : List Char
  checkDigits : List Char
  bankCode : List Char
  accountNumber : List Char
deriving DecidableEq, Repr

/-- The number of bytes of a bank code in a country. -/
def bankCodeLen (country : List Char) : Nat :=
  if country = ['S', 'E'] then 3
  else if country = ['D', 'E'] then 8
  else if country = ['G', 'B'] then 4
  else if country = ['F', 'R'] then 5
  else 4

def parseIbanValue (iban : List Char) : Panics IbanParts :=
  let cleaned := cleaned iban
  if utf8Len cleaned < 5 then some ⟨[], [], [], []⟩
  else
    (slice cleaned 0 2).bind fun country =>
      (slice cleaned 2 4).bind fun checkDigits =>
        let bankEnd := min (4 + bankCodeLen country) (utf8Len cleaned)
        (slice cleaned 4 bankEnd).bind fun bankCode =>
          if bankEnd < utf8Len cleaned then
            (sliceFrom cleaned bankEnd).map fun accountNumber =>
              ⟨country, checkDigits, bankCode, accountNumber⟩
          else some ⟨country, checkDigits, bankCode, []⟩

def validateSwiftValue (bic : List Char) : Panics Bool :=
  let len := utf8Len bic
  if len ≠ 8 ∧ len ≠ 11 then some false
  else
    (slice bic 0 4).bind fun bank =>
      if ¬ bank.all Char.isAlpha then some false
      else
        (slice bic 4 6).bind fun country =>
          if ¬ country.all Char.isAlpha then some false
          else
            (slice bic 6 8).bind fun location =>
              if ¬ location.all Char.isAlphanum then some false
              else if len = 11 then
                (slice bic 8 11).map fun branch => branch.all Char.isAlphanum
              else some true

structure SwiftParts where
  bank : List Char
  country : List Char
  location : List Char
  branch : List Char
deriving DecidableEq, Repr

def parseSwiftValue (bic : List Char) : Panics SwiftParts :=
  (validateSwiftValue bic).bind fun valid =>
    if ¬ valid then some ⟨[], [], [], []⟩
    else
      (slice bic 0 4).bind fun bank =>
        (slice bic 4 6).bind fun country =>
          (slice bic 6 8).bind fun location =>
            if utf8Len bic = 11 then
              (slice bic 8 11).map fun branch =>
                ⟨bank, country, location, branch⟩
            else some ⟨bank, country, location, ['X', 'X', 'X']⟩

/-! ## The number of an account -/

/-- What a symbol stands for: letters follow the digits, in either case. -/
def symbolValue (ch : Char) : Nat :=
  if ch.isDigit then ch.toNat - '0'.toNat
  else ch.toUpper.toNat - 'A'.toNat + 10

def expansion (ch : Char) : List Char := Nat.toDigits 10 (symbolValue ch)

/-- The first four characters at the end. -/
def moved (text : List Char) : List Char := text.drop 4 ++ text.take 4

/-- The number of which the account number is made. -/
def ibanNumber (text : List Char) : Nat :=
  Nat.ofDigitChars 10 ((moved text).flatMap expansion) 0

/-- A text without white space that is a valid account number. -/
structure IsIban (text : List Char) : Prop where
  long : 5 ≤ text.length
  alphanumeric : ∀ ch ∈ text, ch.isAlphanum
  remainder : ibanNumber text % 97 = 1

theorem isIban_iff {text : List Char} :
    IsIban text ↔
      5 ≤ text.length ∧ (∀ ch ∈ text, ch.isAlphanum) ∧
        ibanNumber text % 97 = 1 :=
  ⟨fun iban => ⟨iban.long, iban.alphanumeric, iban.remainder⟩,
    fun ⟨long, alphanumeric, remainder⟩ => ⟨long, alphanumeric, remainder⟩⟩

instance (text : List Char) : Decidable (IsIban text) :=
  decidable_of_iff _ isIban_iff.symm

/-- Two different digits, or two letters that differ in more than case. -/
def Differ (ch other : Char) : Prop :=
  ch.isDigit ∧ other.isDigit ∧ ch ≠ other ∨
    ch.isAlpha ∧ other.isAlpha ∧ ch.toUpper ≠ other.toUpper

/-! ## Symbols -/

section

variable {ch other : Char}

theorem ascii_of_alphanum (alphanum : ch.isAlphanum) : ch.toNat < 0x80 :=
  isAscii_of_alphanum (by simp [alphanum])

/-- A letter or digit is one of the table of them. -/
theorem alphanum_induct {motive : Char → Prop}
    (table : ∀ code < 0x80, (Char.ofNat code).isAlphanum →
      motive (Char.ofNat code)) (alphanum : ch.isAlphanum) : motive ch := by
  have same : Char.ofNat ch.toNat = ch := Char.ofNat_toNat ch
  rw [← same]
  exact table ch.toNat (ascii_of_alphanum alphanum) (by rwa [same])

theorem expand_eq (alphanum : ch.isAlphanum) :
    expand ch = some (expansion ch) :=
  alphanum_induct (motive := fun ch => expand ch = some (expansion ch))
    (by decide) alphanum

theorem expansion_length (alphanum : ch.isAlphanum) :
    (expansion ch).length = if ch.isDigit then 1 else 2 :=
  alphanum_induct
    (motive := fun ch => (expansion ch).length = if ch.isDigit then 1 else 2)
    (by decide) alphanum

theorem symbolValue_bounds (alphanum : ch.isAlphanum) :
    if ch.isDigit then symbolValue ch < 10
    else 10 ≤ symbolValue ch ∧ symbolValue ch < 36 :=
  alphanum_induct
    (motive := fun ch =>
      if ch.isDigit then symbolValue ch < 10
      else 10 ≤ symbolValue ch ∧ symbolValue ch < 36)
    (by decide) alphanum

theorem not_isDigit_of_isAlpha (letter : ch.isAlpha) : ch.isDigit = false :=
  alphanum_induct
    (motive := fun ch => ch.isAlpha → ch.isDigit = false)
    (by decide) (by simp [Char.isAlphanum, letter]) letter

theorem Differ.alphanum (differ : Differ ch other) :
    ch.isAlphanum ∧ other.isAlphanum := by
  rcases differ with ⟨digit, digitToo, -⟩ | ⟨letter, letterToo, -⟩
  · simp [Char.isAlphanum, digit, digitToo]
  · simp [Char.isAlphanum, letter, letterToo]

/-- Such symbols are of one kind. -/
theorem Differ.isDigit_eq (differ : Differ ch other) :
    ch.isDigit = other.isDigit := by
  rcases differ with ⟨digit, digitToo, -⟩ | ⟨letter, letterToo, -⟩
  · rw [digit, digitToo]
  · rw [not_isDigit_of_isAlpha letter, not_isDigit_of_isAlpha letterToo]

theorem Differ.length_eq (differ : Differ ch other) :
    (expansion ch).length = (expansion other).length := by
  rw [expansion_length differ.alphanum.1, expansion_length differ.alphanum.2,
    differ.isDigit_eq]

theorem toNat_isDigit (digit : ch.isDigit) : '0'.toNat ≤ ch.toNat := by
  simp only [Char.isDigit, Bool.and_eq_true, decide_eq_true_eq, ge_iff_le,
    UInt32.le_iff_toNat_le] at digit
  exact digit.1

theorem toNat_toUpper (letter : ch.isAlpha) : 'A'.toNat ≤ ch.toUpper.toNat :=
  alphanum_induct
    (motive := fun ch => ch.isAlpha → 'A'.toNat ≤ ch.toUpper.toNat)
    (by decide) (by simp [Char.isAlphanum, letter]) letter

theorem Differ.symbolValue_ne (differ : Differ ch other) :
    symbolValue ch ≠ symbolValue other := by
  intro same
  rw [symbolValue, symbolValue] at same
  rcases differ with ⟨digit, digitToo, apart⟩ | ⟨letter, letterToo, apart⟩
  · have least := toNat_isDigit digit
    have leastToo := toNat_isDigit digitToo
    rw [if_pos digit, if_pos digitToo] at same
    exact apart (Char.toNat_inj.mp (by omega))
  · have least := toNat_toUpper letter
    have leastToo := toNat_toUpper letterToo
    rw [not_isDigit_of_isAlpha letter, not_isDigit_of_isAlpha letterToo] at same
    rw [if_neg Bool.false_ne_true, if_neg Bool.false_ne_true] at same
    exact apart (Char.toNat_inj.mp (by omega))

end

/-! ## Remainders -/

theorem number_expansion (ch : Char) :
    Nat.ofDigitChars 10 (expansion ch) 0 = symbolValue ch :=
  Nat.ofDigitChars_ten_toDigits

theorem ofDigitChars_mod (digits : List Char) (front : Nat) :
    Nat.ofDigitChars 10 digits (front % 97) % 97 =
      Nat.ofDigitChars 10 digits front % 97 := by
  rw [Nat.ofDigitChars_eq_ofDigitChars_zero,
    @Nat.ofDigitChars_eq_ofDigitChars_zero digits front]
  exact ((Nat.mod_modEq front 97).mul_left _).add_right _

theorem remainder_eq {digits : List Char} {acc : Nat} (small : acc < 97)
    (isDigits : ∀ ch ∈ digits, ch.isDigit) :
    remainder acc digits = some (Nat.ofDigitChars 10 digits acc % 97) := by
  induction digits generalizing acc with
  | nil =>
      rw [remainder, Nat.ofDigitChars_nil, Nat.mod_eq_of_lt small]
  | cons ch rest ih =>
      rw [List.forall_mem_cons] at isDigits
      have digit : toDigit ch = some (ch.toNat - '0'.toNat) :=
        if_pos isDigits.1
      have value : ch.toNat - '0'.toNat < 10 := by
        have bounds :=
          @symbolValue_bounds ch (by simp [Char.isAlphanum, isDigits.1])
        rwa [if_pos isDigits.1, symbolValue, if_pos isDigits.1] at bounds
      rw [remainder, digit, Option.bind_some, unsigned, if_pos (by omega),
        Option.bind_some, unsigned, if_pos (by omega), Option.bind_some,
        ih (Nat.mod_lt _ (by decide)) isDigits.2, ofDigitChars_mod,
        Nat.ofDigitChars_cons, Nat.mul_comm]

theorem numeric_eq {text : List Char} (alphanum : ∀ ch ∈ text, ch.isAlphanum) :
    numeric text = some (text.flatMap expansion) := by
  induction text with
  | nil => rfl
  | cons ch rest ih =>
      rw [List.forall_mem_cons] at alphanum
      rw [numeric, expand_eq alphanum.1, ih alphanum.2]
      rfl

/-- The value of the middle decides what remains of a number. -/
theorem remainder_middle {before middle other behind : List Char}
    (same : middle.length = other.length)
    (equal : Nat.ofDigitChars 10 (before ++ (middle ++ behind)) 0 % 97 =
      Nat.ofDigitChars 10 (before ++ (other ++ behind)) 0 % 97) :
    Nat.ofDigitChars 10 middle 0 % 97 = Nat.ofDigitChars 10 other 0 % 97 := by
  have coprime : Nat.gcd 97 (10 ^ behind.length) = 1 :=
    Nat.Coprime.pow_right _ (by decide)
  simp only [Nat.ofDigitChars_append] at equal
  rw [@Nat.ofDigitChars_eq_ofDigitChars_zero behind,
    @Nat.ofDigitChars_eq_ofDigitChars_zero middle,
    @Nat.ofDigitChars_eq_ofDigitChars_zero behind (Nat.ofDigitChars 10 other _),
    @Nat.ofDigitChars_eq_ofDigitChars_zero other, same] at equal
  have inner := Nat.ModEq.add_right_cancel' _ equal
  exact Nat.ModEq.add_left_cancel' _ (inner.cancel_left_of_coprime coprime)

/-! ## The verdict -/

section

variable {text : List Char}

theorem utf8Len_of_alphanum (alphanum : ∀ ch ∈ text, ch.isAlphanum) :
    utf8Len text = text.length :=
  utf8Len_of_ascii fun ch member => ascii_of_alphanum (alphanum ch member)

theorem length_le_utf8Len (text : List Char) : text.length ≤ utf8Len text := by
  induction text with
  | nil => exact Nat.le_refl 0
  | cons ch rest ih =>
      have positive := ch.utf8Size_pos
      rw [List.length_cons, utf8Len_cons]
      omega

theorem utf8Len_eq_zero (empty : utf8Len text = 0) : text = [] := by
  have short := length_le_utf8Len text
  exact List.length_eq_zero_iff.mp (by omega)

theorem isDigit_of_expansion :
    ∀ digit ∈ text.flatMap expansion, digit.isDigit := by
  intro digit member
  rcases List.mem_flatMap.mp member with ⟨symbol, -, inExpansion⟩
  exact Nat.isDigit_of_mem_toDigits (by decide) (by decide) inExpansion

/-- The check says whether the text without white space is an account number. -/
theorem validateIbanValue_eq (iban : List Char) :
    validateIbanValue iban = some (decide (IsIban (cleaned iban))) := by
  rw [validateIbanValue]
  by_cases alphanum : ∀ ch ∈ cleaned iban, ch.isAlphanum
  · have bytes := utf8Len_of_alphanum alphanum
    by_cases short : utf8Len (cleaned iban) < 5
    · have not : ¬ IsIban (cleaned iban) := fun valid => by
        have long := valid.long
        omega
      rw [if_pos short, decide_eq_false not]
    · have front : utf8Len ((cleaned iban).take 4) = 4 := by
        rw [utf8Len_of_alphanum fun ch member =>
          alphanum ch (List.mem_of_mem_take member), List.length_take]
        omega
      have whole := List.take_append_drop 4 (cleaned iban)
      have back : sliceFrom (cleaned iban) 4 = some ((cleaned iban).drop 4) :=
        sliceFrom_eq_some_iff.mpr ⟨_, whole.symm, front⟩
      have start : sliceTo (cleaned iban) 4 = some ((cleaned iban).take 4) :=
        sliceTo_eq_some_iff.mpr ⟨_, whole.symm, front⟩
      have digits : numeric (moved (cleaned iban)) =
          some ((moved (cleaned iban)).flatMap expansion) := by
        apply numeric_eq
        intro ch member
        rcases List.mem_append.mp member with behind | ahead
        · exact alphanum ch (List.mem_of_mem_drop behind)
        · exact alphanum ch (List.mem_of_mem_take ahead)
      have checked : IsIban (cleaned iban) ↔
          ibanNumber (cleaned iban) % 97 = 1 := by
        rw [isIban_iff]
        exact
          ⟨fun valid => valid.2.2, fun valid => ⟨by omega, alphanum, valid⟩⟩
      rw [if_neg short, if_neg (by simpa using alphanum), back,
        Option.bind_some, start, Option.bind_some, ← moved, digits,
        Option.bind_some,
        remainder_eq (by decide) isDigit_of_expansion, Option.map_some,
        ← ibanNumber]
      simp only [checked, Option.some.injEq]
      rfl
  · have not : ¬ IsIban (cleaned iban) := fun valid =>
      alphanum valid.alphanumeric
    rw [decide_eq_false not]
    split
    · rfl
    · rw [if_pos]
      simpa using alphanum

end

/-! ## Mistakes -/

/-- A part on one side of the fourth character stays in one piece. -/
theorem moved_around {front back : List Char} {width : Nat}
    (sameSide : front.length + width ≤ 4 ∨ 4 ≤ front.length) :
    ∃ before behind, ∀ middle : List Char, middle.length = width →
      moved (front ++ (middle ++ back)) = before ++ (middle ++ behind) := by
  rcases sameSide with inside | outside
  · refine
      ⟨back.drop (4 - front.length - width) ++ front,
        back.take (4 - front.length - width), ?_⟩
    rintro middle rfl
    have front4 : front.drop 4 = [] := List.drop_eq_nil_of_le (by omega)
    have front4' : front.take 4 = front := List.take_of_length_le (by omega)
    have middle4 : middle.drop (4 - front.length) = [] :=
      List.drop_eq_nil_of_le (by omega)
    have middle4' : middle.take (4 - front.length) = middle :=
      List.take_of_length_le (by omega)
    rw [moved, List.drop_append, List.take_append, List.drop_append,
      List.take_append, front4, front4', middle4, middle4', List.nil_append,
      List.nil_append, List.append_assoc]
  · refine ⟨front.drop 4, back ++ front.take 4, ?_⟩
    rintro middle rfl
    rw [moved, List.drop_append_of_le_length outside,
      List.take_append_of_le_length outside]
    simp only [List.append_assoc]

/-- A change of the middle that changes what remains of its value is found. -/
theorem not_isIban_middle {front middle other back : List Char}
    (sameSide : front.length + middle.length ≤ 4 ∨ 4 ≤ front.length)
    (same : other.length = middle.length)
    (width : (middle.flatMap expansion).length =
      (other.flatMap expansion).length)
    (apart : Nat.ofDigitChars 10 (middle.flatMap expansion) 0 % 97 ≠
      Nat.ofDigitChars 10 (other.flatMap expansion) 0 % 97)
    (valid : IsIban (front ++ (middle ++ back))) :
    ¬ IsIban (front ++ (other ++ back)) := by
  intro validToo
  rcases @moved_around front back _ sameSide with ⟨before, behind, around⟩
  have equal := valid.remainder.trans validToo.remainder.symm
  rw [ibanNumber, ibanNumber, around middle rfl, around other same,
    List.flatMap_append, List.flatMap_append, List.flatMap_append,
    List.flatMap_append] at equal
  exact apart (remainder_middle width equal)

section

variable {front back : List Char} {ch other : Char}

theorem not_isIban_replace (differ : Differ ch other)
    (valid : IsIban (front ++ ch :: back)) :
    ¬ IsIban (front ++ other :: back) := by
  have bounds := symbolValue_bounds differ.alphanum.1
  have boundsToo := symbolValue_bounds differ.alphanum.2
  have apart := differ.symbolValue_ne
  apply @not_isIban_middle front [ch] [other] back
  · rw [List.length_singleton]
    omega
  · rfl
  · rw [List.flatMap_singleton, List.flatMap_singleton, differ.length_eq]
  · rw [List.flatMap_singleton, List.flatMap_singleton, number_expansion,
      number_expansion]
    split_ifs at bounds boundsToo <;> omega
  · exact valid

theorem number_pair (ch other : Char) :
    Nat.ofDigitChars 10 ([ch, other].flatMap expansion) 0 =
      10 ^ (expansion other).length * symbolValue ch + symbolValue other := by
  rw [List.flatMap_cons, List.flatMap_singleton, Nat.ofDigitChars_append,
    Nat.ofDigitChars_eq_ofDigitChars_zero, number_expansion, number_expansion]

theorem not_isIban_swap (differ : Differ ch other)
    (sameSide : front.length + 2 ≤ 4 ∨ 4 ≤ front.length)
    (valid : IsIban (front ++ ch :: other :: back)) :
    ¬ IsIban (front ++ other :: ch :: back) := by
  have bounds := symbolValue_bounds differ.alphanum.1
  have boundsToo := symbolValue_bounds differ.alphanum.2
  have length := expansion_length differ.alphanum.1
  have apart := differ.symbolValue_ne
  apply @not_isIban_middle front [ch, other] [other, ch] back
  · exact sameSide
  · rfl
  · simp only [List.flatMap_cons, List.length_append, Nat.add_comm, differ.length_eq]
  · -- The two differ by 9 or 99 times the difference of the values.
    rw [number_pair, number_pair, ← differ.length_eq, length]
    rw [← differ.isDigit_eq] at boundsToo
    split_ifs at bounds boundsToo ⊢ <;> omega
  · exact valid

end

theorem cleaned_append (front back : List Char) :
    cleaned (front ++ back) = cleaned front ++ cleaned back :=
  List.filter_append front back

theorem cleaned_cons_alphanum {ch : Char} (alphanum : ch.isAlphanum)
    (rest : List Char) : cleaned (ch :: rest) = ch :: cleaned rest := by
  apply List.filter_cons_of_pos
  rw [not_isWhitespace_of_alphanum (by simp [alphanum])]
  rfl

theorem cleaned_blank {blank : List Char} (isBlank : Blank blank) :
    cleaned blank = [] := by
  apply List.filter_eq_nil_iff.mpr
  intro ch member
  simp [isBlank ch member]

/--
The check accepts exactly the account numbers, and finds every wrong digit and
letter and every swap of neighbours on one side of the fourth character.
-/
theorem ibanLaws (iban : List Char) :
    validateIbanValue iban = some (decide (IsIban (cleaned iban))) ∧
    (validateIbanValue iban = some true →
      (∀ front ch other back, iban = front ++ ch :: back → Differ ch other →
        validateIbanValue (front ++ other :: back) = some false) ∧
      ∀ front ch blank other back,
        iban = front ++ ch :: (blank ++ other :: back) → Blank blank →
          Differ ch other →
            (cleaned front).length + 2 ≤ 4 ∨ 4 ≤ (cleaned front).length →
              validateIbanValue (front ++ other :: (blank ++ ch :: back)) =
                some false) := by
  refine ⟨validateIbanValue_eq iban, fun accepted => ?_⟩
  rw [validateIbanValue_eq, Option.some.injEq, decide_eq_true_eq] at accepted
  constructor
  · rintro front ch other back rfl differ
    rw [cleaned_append, cleaned_cons_alphanum differ.alphanum.1] at accepted
    rw [validateIbanValue_eq, cleaned_append,
      cleaned_cons_alphanum differ.alphanum.2,
      decide_eq_false (not_isIban_replace differ accepted)]
  · rintro front ch blank other back rfl isBlank differ sameSide
    rw [cleaned_append, cleaned_cons_alphanum differ.alphanum.1,
      cleaned_append, cleaned_blank isBlank, List.nil_append,
      cleaned_cons_alphanum differ.alphanum.2] at accepted
    rw [validateIbanValue_eq, cleaned_append,
      cleaned_cons_alphanum differ.alphanum.2, cleaned_append,
      cleaned_blank isBlank, List.nil_append,
      cleaned_cons_alphanum differ.alphanum.1,
      decide_eq_false (not_isIban_swap differ sameSide accepted)]

end OpenSnow.Industry.Banking
