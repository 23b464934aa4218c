import OpenSnow.Rust.AsciiCase
import OpenSnow.Rust.Slice

/-!
# Phone numbers

Bringing a phone number to one form (E.164), and taking a number apart again.
The one knows the dialing codes of some countries; the other guesses the
length of a code from the number of digits.
-/

namespace OpenSnow.Industry.Phones

open Rust.Text

/-! ## One form -/

def dialingCode (country : List Char) : List Char :=
  if country = ['S', 'E'] then ['4', '6']
  else if country = ['U', 'S'] ∨ country = ['C', 'A'] then ['1']
  else if country = ['G', 'B'] then ['4', '4']
  else if country = ['D', 'E'] then ['4', '9']
  else if country = ['N', 'O'] then ['4', '7']
  else if country = ['D', 'K'] then ['4', '5']
  else if country = ['F', 'I'] then ['3', '5', '8']
  else if country = ['F', 'R'] then ['3', '3']
  else []

def digits (text : List Char) : List Char := text.filter Char.isDigit

/-- One row of `format_e164`. -/
def formatE164 (phone country : List Char) : List Char :=
  let digits := digits phone
  let cc := dialingCode (upperChars country)
  if cc = [] ∨ cc <+: digits then '+' :: digits
  else
    match digits with
    | '0' :: stripped => '+' :: (cc ++ stripped)
    | _ => '+' :: (cc ++ digits)

/-! ## Taking a number apart -/

structure MsisdnParts where
  countryCode : List Char
  ndc : List Char
  subscriberNumber : List Char
deriving DecidableEq, Repr

/-- The country code of ten digits or more, and what follows it. -/
def splitCountryCode (digits : List Char) : Panics (List Char × List Char) :=
  if ['4', '6'] <+: digits ∧ 11 ≤ utf8Len digits then
    (sliceFrom digits 2).map fun rest => (['4', '6'], rest)
  else if ['1'] <+: digits ∧ utf8Len digits = 11 then
    (sliceFrom digits 1).map fun rest => (['1'], rest)
  else if ['4', '4'] <+: digits ∧ 12 ≤ utf8Len digits then
    (sliceFrom digits 2).map fun rest => (['4', '4'], rest)
  else if 10 < utf8Len digits then
    let ccLen := min (utf8Len digits - 10) 3
    (sliceTo digits ccLen).bind fun cc =>
      (sliceFrom digits ccLen).map fun rest => (cc, rest)
  else some ([], digits)

/-- One row of `parse_msisdn`. -/
def parseMsisdn (raw : List Char) : Panics MsisdnParts :=
  let digits := digits raw
  if 10 ≤ utf8Len digits then
    (splitCountryCode digits).bind fun (cc, rest) =>
      let ndcLen := if 7 < utf8Len rest then utf8Len rest - 7 else 0
      (sliceTo rest ndcLen).bind fun ndc =>
        (sliceFrom rest ndcLen).map fun sn => ⟨cc, ndc, sn⟩
  else some ⟨[], [], digits⟩

/-! ## The laws -/

/-- A country whose dialing code is known. -/
structure Country where
  name : List Char
  supported : dialingCode (upperChars name) ≠ []

def Country.code (country : Country) : List Char :=
  dialingCode (upperChars country.name)

/-- A number within a country. -/
structure National (country : Country) where
  digits : List Char
  isDigit : ∀ digit ∈ digits, digit.isDigit
  noTrunk : ¬ ['0'] <+: digits
  noCode : ¬ country.code <+: digits

/-- The ways to dial a number; a plus sign is punctuation. -/
inductive Dialing where
  /-- With the zero of long-distance calls. -/
  | trunk
  /-- With the dialing code of the country. -/
  | code
  /-- With two zeros in front of the dialing code. -/
  | international
deriving DecidableEq, Repr

def Dialing.digits (dialing : Dialing) (code national : List Char) : List Char :=
  match dialing with
  | .trunk => '0' :: national
  | .code => code ++ national
  | .international => '0' :: '0' :: (code ++ national)

/-- The lengths at which the code of a country is guessed right. -/
def Guessed (code : List Char) (length : Nat) : Prop :=
  code = ['4', '6'] ∨ code = ['1'] ∧ length = 11 ∨
    code = ['4', '4'] ∧ 12 ≤ length ∨
    code ∈ [['4', '9'], ['4', '7'], ['4', '5'], ['3', '3']] ∧ length = 12 ∨
    code = ['3', '5', '8'] ∧ 13 ≤ length

/-- A phone number in the form of a country. -/
def InForm (country : Country) (phone : List Char) : Prop :=
  ∃ rest, (∀ digit ∈ rest, digit.isDigit) ∧ phone = '+' :: (country.code ++ rest)

/--
However a number of a country is dialed, it has one form, which is kept, and
which is taken apart behind the code of the country.
-/
structure PhoneLaws (country : Country) (national : National country)
    (dialing : Dialing) (phone : List Char) : Prop where
  canonical : digits phone = dialing.digits country.code national.digits →
    formatE164 phone country.name = '+' :: (country.code ++ national.digits)
  idempotent : ∀ name,
    formatE164 (formatE164 phone name) name = formatE164 phone name
  lossless : ∃ parts, parseMsisdn phone = some parts ∧
    parts.countryCode ++ parts.ndc ++ parts.subscriberNumber = digits phone
  code : (∃ source, formatE164 source country.name = phone) →
    11 ≤ (digits phone).length →
      (parseMsisdn phone).map MsisdnParts.countryCode = some country.code

/-- A number is dialed without two zeros, and its form has a right length. -/
def Regular (country : Country) (national : National country)
    (dialing : Dialing) (phone : List Char) : Prop :=
  (digits phone = dialing.digits country.code national.digits →
    dialing ≠ .international) ∧
  (InForm country phone → 11 ≤ (digits phone).length →
    Guessed country.code (digits phone).length)

/-! ## Forms -/

/-- The dialing codes, and none. -/
def dialingCodes : List (List Char) :=
  [['4', '6'], ['1'], ['4', '4'], ['4', '9'], ['4', '7'], ['4', '5'],
    ['3', '5', '8'], ['3', '3'], []]

theorem dialingCode_mem (country : List Char) :
    dialingCode country ∈ dialingCodes := by
  rw [dialingCode]
  split_ifs <;> decide

/-- A dialing code consists of digits, and the first one is not zero. -/
theorem dialingCode_digits (country : List Char) :
    (∀ digit ∈ dialingCode country, digit.isDigit) ∧
      ∀ rest, dialingCode country ≠ '0' :: rest := by
  have table : dialingCodes.all fun code =>
      code.all Char.isDigit && code.head? != some '0' := by
    decide
  have isCode := List.all_eq_true.mp table _ (dialingCode_mem country)
  rw [Bool.and_eq_true, List.all_eq_true, bne_iff_ne] at isCode
  refine ⟨isCode.1, fun rest shape => isCode.2 ?_⟩
  rw [shape]
  rfl

theorem digits_isDigit (text : List Char) :
    ∀ digit ∈ digits text, digit.isDigit := fun _ member =>
  (List.mem_filter.mp member).2

theorem digits_of_isDigit {text : List Char}
    (isDigit : ∀ digit ∈ text, digit.isDigit) : digits text = text :=
  List.filter_eq_self.mpr isDigit

theorem digits_plus {text : List Char}
    (isDigit : ∀ digit ∈ text, digit.isDigit) : digits ('+' :: text) = text := by
  rw [digits, List.filter_cons_of_neg (by decide)]
  exact digits_of_isDigit isDigit

theorem not_prefix_zero {code rest : List Char} (nonempty : code ≠ [])
    (noZero : ∀ rest, code ≠ '0' :: rest) : ¬ code <+: '0' :: rest := by
  cases code with
  | nil => exact absurd rfl nonempty
  | cons first others =>
      rw [List.cons_prefix_cons]
      rintro ⟨rfl, -⟩
      exact noZero others rfl

/-- A number that starts with the code is left as it is, and so is any other
without a code. -/
theorem formatE164_kept {phone name : List Char}
    (kept : dialingCode (upperChars name) = [] ∨
      dialingCode (upperChars name) <+: digits phone) :
    formatE164 phone name = '+' :: digits phone := by
  rw [formatE164]
  exact if_pos kept

/-- In any other number the code takes the place of a zero. -/
theorem formatE164_added {phone name : List Char}
    (added : ¬ (dialingCode (upperChars name) = [] ∨
      dialingCode (upperChars name) <+: digits phone)) :
    formatE164 phone name =
      '+' :: (dialingCode (upperChars name) ++
        (if (digits phone).head? = some '0' then (digits phone).tail
        else digits phone)) := by
  rw [formatE164]
  refine (if_neg added).trans ?_
  split
  · rename_i stripped shape
    rw [shape]
    rfl
  · rename_i other
    rw [if_neg]
    intro zero
    rcases List.head?_eq_some_iff.mp zero with ⟨rest, shape⟩
    exact other rest shape

theorem inForm_formatE164 (country : Country) (phone : List Char) :
    InForm country (formatE164 phone country.name) := by
  have isDigit := digits_isDigit phone
  by_cases kept : dialingCode (upperChars country.name) = [] ∨
      dialingCode (upperChars country.name) <+: digits phone
  · rw [formatE164_kept kept]
    rcases kept.resolve_left country.supported with ⟨rest, shape⟩
    rw [← shape] at isDigit ⊢
    exact ⟨rest, fun digit member => isDigit digit (by simp [member]), rfl⟩
  · rw [formatE164_added kept]
    refine ⟨_, ?_, rfl⟩
    split
    · exact fun digit member => isDigit digit (List.mem_of_mem_tail member)
    · exact isDigit

/-- What is in form is formatted into itself. -/
theorem formatE164_inForm {country : Country} {phone : List Char}
    (inForm : InForm country phone) : formatE164 phone country.name = phone := by
  rcases inForm with ⟨rest, isDigit, rfl⟩
  have whole : digits ('+' :: (country.code ++ rest)) = country.code ++ rest := by
    apply digits_plus
    intro digit member
    rcases List.mem_append.mp member with inCode | inRest
    · exact (dialingCode_digits _).1 digit inCode
    · exact isDigit digit inRest
  rw [formatE164_kept, whole]
  rw [whole]
  exact Or.inr (List.prefix_append _ _)

theorem formatE164_idempotent (phone name : List Char) :
    formatE164 (formatE164 phone name) name = formatE164 phone name := by
  by_cases none : dialingCode (upperChars name) = []
  · have same : digits ('+' :: digits phone) = digits phone :=
      digits_plus (digits_isDigit phone)
    rw [formatE164_kept (Or.inl none), formatE164_kept (Or.inl none), same]
  · exact @formatE164_inForm ⟨name, none⟩ _ (inForm_formatE164 ⟨name, none⟩ phone)

/-- Dialed with one zero or with the code, a number has its form. -/
theorem formatE164_dialed {country : Country} {national phone : List Char}
    {dialing : Dialing}
    (dialed : digits phone = dialing.digits country.code national) :
    formatE164 phone country.name = '+' :: (country.code ++ national) ↔
      dialing ≠ .international := by
  have noZero := (dialingCode_digits (upperChars country.name)).2
  cases dialing with
  | code =>
      rw [Dialing.digits] at dialed
      rw [formatE164_kept, dialed]
      · exact iff_of_true rfl nofun
      · rw [dialed]
        exact Or.inr (List.prefix_append _ _)
  | trunk =>
      rw [Dialing.digits] at dialed
      rw [formatE164_added, dialed]
      · exact iff_of_true rfl nofun
      · rw [dialed, not_or]
        exact ⟨country.supported, not_prefix_zero country.supported noZero⟩
  | international =>
      rw [Dialing.digits] at dialed
      rw [formatE164_added, dialed]
      · refine iff_of_false (fun same => ?_) (fun other => other rfl)
        have lengths := congrArg List.length same
        simp [Country.code] at lengths
        omega
      · rw [dialed, not_or]
        exact ⟨country.supported, not_prefix_zero country.supported noZero⟩

/-! ## Parts -/

/-- The number of digits that are taken as the code of a country. -/
def codeLength (digits : List Char) : Nat :=
  if ['4', '6'] <+: digits ∧ 11 ≤ digits.length then 2
  else if ['1'] <+: digits ∧ digits.length = 11 then 1
  else if ['4', '4'] <+: digits ∧ 12 ≤ digits.length then 2
  else if 10 < digits.length then min (digits.length - 10) 3
  else 0

section

variable {text : List Char} (isDigit : ∀ digit ∈ text, digit.isDigit)

include isDigit

theorem utf8Len_digits : utf8Len text = text.length := by
  refine utf8Len_of_ascii fun ch member => isAscii_of_alphanum ?_
  simp [Char.isAlphanum, isDigit ch member]

theorem sliceFrom_digits {start : Nat} (inside : start ≤ text.length) :
    sliceFrom text start = some (text.drop start) := by
  refine sliceFrom_eq_some_iff.mpr
    ⟨text.take start, (List.take_append_drop _ _).symm, ?_⟩
  rw [utf8Len_digits fun digit member => isDigit digit (List.mem_of_mem_take member),
    List.length_take, Nat.min_eq_left inside]

theorem sliceTo_digits {stop : Nat} (inside : stop ≤ text.length) :
    sliceTo text stop = some (text.take stop) := by
  refine sliceTo_eq_some_iff.mpr
    ⟨text.drop stop, (List.take_append_drop _ _).symm, ?_⟩
  rw [utf8Len_digits fun digit member => isDigit digit (List.mem_of_mem_take member),
    List.length_take, Nat.min_eq_left inside]

theorem splitCountryCode_eq :
    splitCountryCode text =
      some (text.take (codeLength text), text.drop (codeLength text)) := by
  have fixed : ∀ code : List Char, code <+: text →
      (sliceFrom text code.length).map (fun rest => (code, rest)) =
        some (text.take code.length, text.drop code.length) := by
    intro code isPrefix
    rw [sliceFrom_digits isDigit isPrefix.length_le,
      ← List.prefix_iff_eq_take.mp isPrefix]
    rfl
  rw [splitCountryCode, codeLength, utf8Len_digits isDigit]
  split_ifs with sweden america britain long
  · exact fixed ['4', '6'] sweden.1
  · exact fixed ['1'] america.1
  · exact fixed ['4', '4'] britain.1
  · have inside : min (text.length - 10) 3 ≤ text.length := by omega
    dsimp only
    rw [sliceTo_digits isDigit inside, sliceFrom_digits isDigit inside]
    rfl
  · rfl

end

/-- The parts of ten digits or more make them up, the code coming first. -/
theorem parseMsisdn_eq (raw : List Char) :
    ∃ parts, parseMsisdn raw = some parts ∧
      parts.countryCode ++ parts.ndc ++ parts.subscriberNumber = digits raw ∧
        (10 ≤ (digits raw).length →
          parts.countryCode = (digits raw).take (codeLength (digits raw))) := by
  have isDigit := digits_isDigit raw
  rw [parseMsisdn]
  dsimp only
  rw [utf8Len_digits isDigit]
  generalize digits raw = text at isDigit ⊢
  by_cases long : 10 ≤ text.length
  · have isDigit' : ∀ digit ∈ text.drop (codeLength text), digit.isDigit :=
      fun digit member => isDigit digit (List.mem_of_mem_drop member)
    have inside :
        (if 7 < (text.drop (codeLength text)).length then
          (text.drop (codeLength text)).length - 7 else 0) ≤
          (text.drop (codeLength text)).length := by
      split <;> omega
    rw [if_pos long, splitCountryCode_eq isDigit, Option.bind_some,
      utf8Len_digits isDigit', sliceTo_digits isDigit' inside,
      sliceFrom_digits isDigit' inside]
    refine ⟨_, rfl, ?_, fun _ => rfl⟩
    dsimp only
    rw [List.append_assoc, List.take_append_drop, List.take_append_drop]
  · exact
      ⟨⟨[], [], text⟩, by rw [if_neg long], rfl, fun enough =>
        absurd enough long⟩

/-! ## The code of a country -/

/-- The code of a country is guessed at exactly some lengths. -/
theorem codeLength_eq_iff {code rest : List Char} (isCode : code ∈ dialingCodes)
    (nonempty : code ≠ []) (long : 11 ≤ (code ++ rest).length) :
    codeLength (code ++ rest) = code.length ↔
      Guessed code (code ++ rest).length := by
  have eleven : 10 < (code ++ rest).length := long
  rw [codeLength, if_pos eleven]
  simp only [dialingCodes, List.mem_cons, List.not_mem_nil, or_false] at isCode
  -- Which branch a code takes is known from its digits and the length.
  rcases isCode with rfl | rfl | rfl | rfl | rfl | rfl | rfl | rfl | rfl
  all_goals simp [Guessed] at long nonempty ⊢
  all_goals omega

theorem parseMsisdn_inForm {country : Country} {phone : List Char}
    (inForm : InForm country phone) (long : 11 ≤ (digits phone).length) :
    (parseMsisdn phone).map MsisdnParts.countryCode = some country.code ↔
      Guessed country.code (digits phone).length := by
  rcases inForm with ⟨rest, isDigit, rfl⟩
  have whole : digits ('+' :: (country.code ++ rest)) = country.code ++ rest := by
    apply digits_plus
    intro digit member
    rcases List.mem_append.mp member with inCode | inRest
    · exact (dialingCode_digits _).1 digit inCode
    · exact isDigit digit inRest
  rcases parseMsisdn_eq ('+' :: (country.code ++ rest)) with
    ⟨parts, parsed, -, code⟩
  rw [whole] at long code ⊢
  have guessed : codeLength (country.code ++ rest) = country.code.length ↔
      Guessed country.code (country.code ++ rest).length :=
    codeLength_eq_iff (dialingCode_mem _) country.supported long
  rw [parsed, Option.map_some, Option.some.injEq, code (by omega), ← guessed]
  constructor
  · intro same
    have lengths := congrArg List.length same
    have bound : codeLength (country.code ++ rest) ≤ 3 := by
      rw [codeLength]
      split_ifs <;> omega
    rw [List.length_take] at lengths
    omega
  · intro same
    rw [same, List.take_left]

def sweden : Country := ⟨['S', 'E'], by decide⟩

def mobile : National sweden where
  digits := ['7', '0', '1', '2', '3', '4', '5', '6', '7']
  isDigit := List.all_eq_true.mp (by decide)
  noTrunk := by decide
  noCode := by decide

/-- Dialed from abroad, a Swedish number gets its code twice. -/
theorem international_not_lawful :
    ¬ PhoneLaws sweden mobile .international
      ['0', '0', '4', '6', '7', '0', '1', '2', '3', '4', '5', '6', '7'] := by
  intro laws
  have dialed :
      digits ['0', '0', '4', '6', '7', '0', '1', '2', '3', '4', '5', '6', '7'] =
        Dialing.international.digits sweden.code mobile.digits := by
    decide
  exact (formatE164_dialed dialed).mp (laws.canonical dialed) rfl

/-- The laws hold of exactly the numbers that are dialed and sized regularly. -/
theorem phoneLaws_iff (country : Country) (national : National country)
    (dialing : Dialing) (phone : List Char) :
    PhoneLaws country national dialing phone ↔
      Regular country national dialing phone := by
  constructor
  · intro laws
    constructor
    · intro dialed
      exact (formatE164_dialed dialed).mp (laws.canonical dialed)
    · intro inForm long
      exact
        (parseMsisdn_inForm inForm long).mp
          (laws.code ⟨phone, formatE164_inForm inForm⟩ long)
  · rintro ⟨dialedRight, sized⟩
    refine ⟨?_, formatE164_idempotent phone, ?_, ?_⟩
    · intro dialed
      exact (formatE164_dialed dialed).mpr (dialedRight dialed)
    · rcases parseMsisdn_eq phone with ⟨parts, parsed, lossless, -⟩
      exact ⟨parts, parsed, lossless⟩
    · rintro ⟨source, rfl⟩ long
      have inForm := inForm_formatE164 country source
      exact (parseMsisdn_inForm inForm long).mpr (sized inForm long)

end OpenSnow.Industry.Phones
