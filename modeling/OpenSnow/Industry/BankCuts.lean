import OpenSnow.Industry.Banking

/-!
# Cutting account numbers and bank codes

The parts are cut at offsets in bytes.  The functions panic on exactly the
texts in which such an offset lies inside of a character; on all others the
parts make up the text.
-/

namespace OpenSnow.Industry.Banking

open Rust.Text

/-- The parts of an account number end between two characters. -/
structure IbanCuts (text : List Char) : Prop where
  country : IsBoundary text 2
  checkDigits : IsBoundary text 4
  bankCode :
    IsBoundary text (min (4 + bankCodeLen (text.take 2)) (utf8Len text))

/--
The parts of a bank code end between two characters, as far as letters lead to
them.
-/
structure SwiftCuts (bic : List Char) : Prop where
  bank : IsBoundary bic 4
  country : (bic.take 4).all Char.isAlpha → IsBoundary bic 6
  location : (bic.take 6).all Char.isAlpha → IsBoundary bic 8

/-- Texts of such lengths are cut. -/
def CutsFit (text : List Char) : Prop :=
  (5 ≤ utf8Len (cleaned text) → IbanCuts (cleaned text)) ∧
    (utf8Len text = 8 ∨ utf8Len text = 11 → SwiftCuts text)

/-- The text that is cut off after some bytes consists of letters alike. -/
theorem all_take {text front back : List Char} {width : Nat}
    (cut : text = front ++ back) (length : utf8Len front = width) :
    (text.take width).all Char.isAlpha = front.all Char.isAlpha := by
  have short : front.length ≤ width := length ▸ length_le_utf8Len front
  rw [Bool.eq_iff_iff, List.all_eq_true, List.all_eq_true]
  constructor
  · intro letters ch member
    have inside : front <+: text.take width :=
      List.prefix_take_iff.mpr ⟨⟨back, cut.symm⟩, short⟩
    exact letters ch (inside.subset member)
  · intro letters
    have bytes : utf8Len front = front.length :=
      utf8Len_of_alphanum fun ch member => by
        simp [Char.isAlphanum, letters ch member]
    rw [cut, ← length, bytes, List.take_left]
    exact letters

/-! ## Account numbers -/

theorem bankCodeLen_take {country rest : List Char}
    (length : utf8Len country = 2) :
    bankCodeLen ((country ++ rest).take 2) = bankCodeLen country := by
  have other : ∀ ch tail, ch.utf8Size ≠ 1 → bankCodeLen (ch :: tail) = 4 := by
    intro ch tail wide
    have notAscii : ∀ letter, letter.utf8Size = 1 → ch ≠ letter := by
      rintro letter narrow rfl
      exact wide narrow
    simp [bankCodeLen, notAscii 'S' rfl, notAscii 'D' rfl, notAscii 'G' rfl,
      notAscii 'F' rfl]
  match country with
  | [] => cases length
  | [ch] =>
      have wide : ch.utf8Size ≠ 1 := by
        rw [utf8Len_cons, utf8Len_nil] at length
        omega
      rw [List.singleton_append, List.take_succ_cons, other _ _ wide,
        other _ _ wide]
  | [_, _] => rfl
  | first :: second :: third :: others =>
      have positive := first.utf8Size_pos
      have positive' := second.utf8Size_pos
      have positive'' := third.utf8Size_pos
      simp only [utf8Len_cons] at length
      omega

theorem parseIbanValue_eq_some_iff {iban : List Char} {parts : IbanParts}
    (long : 5 ≤ utf8Len (cleaned iban)) :
    parseIbanValue iban = some parts ↔
      cleaned iban =
          parts.country ++ (parts.checkDigits ++
            (parts.bankCode ++ parts.accountNumber)) ∧
        utf8Len parts.country = 2 ∧ utf8Len parts.checkDigits = 2 ∧
          4 + utf8Len parts.bankCode =
            min (4 + bankCodeLen parts.country) (utf8Len (cleaned iban)) := by
  rw [parseIbanValue, if_neg (by omega)]
  dsimp only
  generalize cleaned iban = text at long ⊢
  constructor
  · intro parsed
    rcases Option.bind_eq_some_iff.mp parsed with ⟨country, first, parsed⟩
    rcases Option.bind_eq_some_iff.mp parsed with ⟨checkDigits, second, parsed⟩
    rcases Option.bind_eq_some_iff.mp parsed with ⟨bankCode, third, last⟩
    have ordered : 4 ≤ min (4 + bankCodeLen country) (utf8Len text) := by omega
    rw [slice_zero] at first
    rcases sliceTo_eq_some_iff.mp first with ⟨behind, shape, width⟩
    rw [shape, slice_behind width (by decide)] at second
    rcases sliceTo_eq_some_iff.mp second with ⟨more, rfl, width'⟩
    rw [← List.append_assoc] at shape
    have front : utf8Len (country ++ checkDigits) = 4 := by
      rw [utf8Len_append, width, width']
    have sliced :
        sliceTo more (min (4 + bankCodeLen country) (utf8Len text) - 4) =
          some bankCode := by
      rw [← slice_behind front ordered, ← shape]
      exact third
    rcases sliceTo_eq_some_iff.mp sliced with ⟨account, rfl, width''⟩
    rw [← List.append_assoc] at shape
    have stop : utf8Len (country ++ checkDigits ++ bankCode) =
        min (4 + bankCodeLen country) (utf8Len text) := by
      rw [utf8Len_append, front, width'']
      omega
    have behind : sliceFrom text
        (min (4 + bankCodeLen country) (utf8Len text)) = some account :=
      sliceFrom_eq_some_iff.mpr ⟨_, shape.symm ▸ rfl, stop⟩
    have total := congrArg utf8Len shape
    rw [utf8Len_append, stop] at total
    have parsed : some ⟨country, checkDigits, bankCode, account⟩ = some parts := by
      split at last
      · rw [behind] at last
        exact last
      · have none : account = [] := utf8Len_eq_zero (by omega)
        rw [none]
        exact last
    rw [Option.some.injEq] at parsed
    rw [← parsed]
    refine ⟨?_, width, width', ?_⟩
    · rw [shape, List.append_assoc, List.append_assoc]
    · change 4 + utf8Len bankCode = min (4 + bankCodeLen country) (utf8Len text)
      omega
  · rintro ⟨shape, country, checkDigits, bankCode⟩
    have front : utf8Len (parts.country ++ parts.checkDigits) = 4 := by
      rw [utf8Len_append, country, checkDigits]
    have total := congrArg utf8Len shape
    rw [utf8Len_append, utf8Len_append, utf8Len_append, country,
      checkDigits] at total
    have first : slice text 0 2 = some parts.country := by
      rw [slice_zero]
      exact sliceTo_eq_some_iff.mpr ⟨_, shape, country⟩
    have second : slice text 2 4 = some parts.checkDigits := by
      rw [shape, slice_behind country (by decide)]
      exact sliceTo_eq_some_iff.mpr ⟨_, rfl, checkDigits⟩
    have third : slice text 4
        (min (4 + bankCodeLen parts.country) (utf8Len text)) =
          some parts.bankCode := by
      rw [← bankCode]
      rw [shape, ← List.append_assoc, slice_behind front (by omega)]
      exact sliceTo_eq_some_iff.mpr ⟨_, rfl, by omega⟩
    have last : sliceFrom text
        (min (4 + bankCodeLen parts.country) (utf8Len text)) =
          some parts.accountNumber :=
      sliceFrom_eq_some_iff.mpr
        ⟨parts.country ++ parts.checkDigits ++ parts.bankCode,
          by rw [shape]; simp, by rw [utf8Len_append, front, bankCode]⟩
    rw [first, Option.bind_some, second, Option.bind_some, third,
      Option.bind_some, last]
    split
    · rfl
    · have none : parts.accountNumber = [] := utf8Len_eq_zero (by omega)
      rw [← none]

/-- The parts of an account number exist exactly when it can be cut. -/
theorem parseIbanValue_isSome_iff {iban : List Char} :
    (parseIbanValue iban).isSome ↔
      (5 ≤ utf8Len (cleaned iban) → IbanCuts (cleaned iban)) := by
  by_cases long : 5 ≤ utf8Len (cleaned iban)
  · rw [Option.isSome_iff_exists]
    simp only [parseIbanValue_eq_some_iff long, long, forall_const]
    generalize cleaned iban = text at long ⊢
    constructor
    · rintro ⟨⟨country, checkDigits, bankCode, account⟩, shape, width, width',
        width''⟩
      have codeLen : bankCodeLen (text.take 2) = bankCodeLen country := by
        rw [shape, bankCodeLen_take width]
      refine ⟨⟨country, _, shape, width⟩,
        ⟨country ++ checkDigits, bankCode ++ account, ?_, ?_⟩,
        ⟨country ++ checkDigits ++ bankCode, account, ?_, ?_⟩⟩
      · rw [shape, List.append_assoc]
      · rw [utf8Len_append, width, width']
      · rw [shape, List.append_assoc, List.append_assoc]
      · rw [utf8Len_append, utf8Len_append, width, width', codeLen]
        exact width''
    · rintro ⟨⟨country, behind, shape, width⟩, ⟨front, more, shape', width'⟩,
        ⟨before, account, shape'', width''⟩⟩
      have codeLen : bankCodeLen (text.take 2) = bankCodeLen country := by
        rw [shape, bankCodeLen_take width]
      rw [codeLen] at width''
      rcases prefix_of_utf8Len_le shape shape' (by omega) with
        ⟨checkDigits, rfl⟩
      rcases prefix_of_utf8Len_le shape' shape'' (by omega) with
        ⟨bankCode, rfl⟩
      rw [utf8Len_append] at width'
      rw [utf8Len_append, utf8Len_append] at width''
      refine ⟨⟨country, checkDigits, bankCode, account⟩, ?_, width, ?_, ?_⟩
      · rw [shape'', List.append_assoc, List.append_assoc]
      · change utf8Len checkDigits = 2
        omega
      · change 4 + utf8Len bankCode = min (4 + bankCodeLen country) (utf8Len text)
        omega
  · rw [parseIbanValue, if_pos (by omega)]
    simp [long]

/-! ## Bank codes -/

/-- A bank code in its parts; the last one may be left out. -/
structure IsSwift (bic : List Char) (parts : SwiftParts) : Prop where
  shape : bic = parts.bank ++ (parts.country ++ (parts.location ++ parts.branch))
  bank : utf8Len parts.bank = 4
  country : utf8Len parts.country = 2
  location : utf8Len parts.location = 2
  branch : utf8Len parts.branch = 0 ∨ utf8Len parts.branch = 3

theorem exists_of_isSome_bind {First Second : Type} {first : Panics First}
    {next : First → Panics Second} (returns : (first.bind next).isSome) :
    ∃ value, first = some value ∧ (next value).isSome := by
  rcases Option.isSome_iff_exists.mp returns with ⟨result, ran⟩
  rcases Option.bind_eq_some_iff.mp ran with ⟨value, isFirst, isNext⟩
  exact ⟨value, isFirst, Option.isSome_iff_exists.mpr ⟨result, isNext⟩⟩

section

variable {bic : List Char}

theorem swiftCuts_of_isSome (sized : utf8Len bic = 8 ∨ utf8Len bic = 11)
    (returns : (validateSwiftValue bic).isSome) : SwiftCuts bic := by
  rw [validateSwiftValue, if_neg (by omega)] at returns
  rcases exists_of_isSome_bind returns with ⟨bank, first, returns⟩
  rw [slice_zero] at first
  rcases sliceTo_eq_some_iff.mp first with ⟨behind, shape, width⟩
  have country : (bic.take 4).all Char.isAlpha →
      ∃ country more, bic = bank ++ country ++ more ∧
        utf8Len (bank ++ country) = 6 ∧
          (country.all Char.isAlpha → IsBoundary bic 8) := by
    intro letters
    rw [all_take shape width] at letters
    rw [if_neg (by simpa using letters)] at returns
    rcases exists_of_isSome_bind returns with ⟨country, second, returns⟩
    rw [shape, slice_behind width (by decide)] at second
    rcases sliceTo_eq_some_iff.mp second with ⟨more, rfl, width'⟩
    refine ⟨country, more, by rw [shape, List.append_assoc], ?_, ?_⟩
    · rw [utf8Len_append, width, width']
    · intro letters'
      rw [if_neg (by simpa using letters')] at returns
      rcases exists_of_isSome_bind returns with ⟨location, third, -⟩
      exact (slice_isSome_iff.mp (Option.isSome_iff_exists.mpr ⟨_, third⟩)).2.2
  refine ⟨⟨bank, behind, shape, width⟩, fun letters => ?_, fun letters => ?_⟩
  · rcases country letters with ⟨country, more, shape', width', -⟩
    exact ⟨_, more, shape', width'⟩
  · have first : bic.take 4 <+: bic.take 6 := List.take_prefix_take_left (by decide)
    have start : (bic.take 4).all Char.isAlpha :=
      List.all_eq_true.mpr fun ch member =>
        List.all_eq_true.mp letters ch (first.subset member)
    rcases country start with ⟨country, more, shape', width', ends⟩
    rw [all_take shape' width', List.all_append, Bool.and_eq_true] at letters
    exact ends letters.2

theorem isSome_of_swiftCuts (sized : utf8Len bic = 8 ∨ utf8Len bic = 11)
    (cuts : SwiftCuts bic) : (validateSwiftValue bic).isSome := by
  rcases cuts.bank with ⟨bank, behind, shape, width⟩
  have first : slice bic 0 4 = some bank := by
    rw [slice_zero]
    exact sliceTo_eq_some_iff.mpr ⟨behind, shape, width⟩
  rw [validateSwiftValue, if_neg (by omega), first, Option.bind_some]
  by_cases letters : bank.all Char.isAlpha
  · have isBoundary := cuts.country (by rwa [all_take shape width])
    rcases Option.isSome_iff_exists.mp (slice_isSome_iff.mpr
      ⟨(by decide : 4 ≤ 6), cuts.bank, isBoundary⟩) with ⟨country, second⟩
    rw [if_neg (not_not.mpr letters), second, Option.bind_some]
    by_cases letters' : country.all Char.isAlpha
    · rw [shape, slice_behind width (by decide)] at second
      rcases sliceTo_eq_some_iff.mp second with ⟨more, rfl, width'⟩
      rw [← List.append_assoc] at shape
      have isBoundary' : IsBoundary bic 8 := by
        apply cuts.location
        rw [all_take shape (by rw [utf8Len_append, width, width']),
          List.all_append, letters, letters']
        rfl
      rcases Option.isSome_iff_exists.mp (slice_isSome_iff.mpr
        ⟨(by decide : 6 ≤ 8), isBoundary, isBoundary'⟩) with ⟨location, third⟩
      rw [if_neg (not_not.mpr letters'), third, Option.bind_some]
      split
      · rfl
      · split
        · rename_i long
          rw [Option.isSome_map, slice_isSome_iff, ← long]
          exact ⟨by omega, isBoundary', isBoundary_end bic⟩
        · rfl
    · rw [if_pos letters']
      rfl
  · rw [if_pos letters]
    rfl

/-- What is accepted has the parts of a bank code. -/
theorem isSwift_of_valid (valid : validateSwiftValue bic = some true) :
    (utf8Len bic = 8 ∨ utf8Len bic = 11) ∧ ∃ parts, IsSwift bic parts := by
  rw [validateSwiftValue] at valid
  split at valid
  · cases valid
  · rename_i sized
    have sized : utf8Len bic = 8 ∨ utf8Len bic = 11 := by omega
    refine ⟨sized, ?_⟩
    rcases Option.bind_eq_some_iff.mp valid with ⟨bank, first, valid⟩
    rw [slice_zero] at first
    rcases sliceTo_eq_some_iff.mp first with ⟨behind, shape, width⟩
    split at valid
    · cases valid
    · rcases Option.bind_eq_some_iff.mp valid with ⟨country, second, valid⟩
      rw [shape, slice_behind width (by decide)] at second
      rcases sliceTo_eq_some_iff.mp second with ⟨more, rfl, width'⟩
      split at valid
      · cases valid
      · rcases Option.bind_eq_some_iff.mp valid with ⟨location, third, -⟩
        have front : utf8Len (bank ++ country) = 6 := by
          rw [utf8Len_append, width, width']
        rw [shape, ← List.append_assoc, slice_behind front (by decide)] at third
        rcases sliceTo_eq_some_iff.mp third with ⟨branch, rfl, width''⟩
        have total := congrArg utf8Len shape
        simp only [utf8Len_append, width, width', width''] at total
        refine ⟨⟨bank, country, location, branch⟩, shape, width, width', width'', ?_⟩
        change utf8Len branch = 0 ∨ utf8Len branch = 3
        omega

/-- The parts of a valid bank code are returned. -/
theorem parseSwiftValue_of_isSwift {parts : SwiftParts}
    (valid : validateSwiftValue bic = some true) (swift : IsSwift bic parts) :
    parseSwiftValue bic =
      some
        { parts with
          branch := if utf8Len bic = 11 then parts.branch else ['X', 'X', 'X'] } := by
  have shape := swift.shape
  have front : utf8Len (parts.bank ++ parts.country) = 6 := by
    rw [utf8Len_append, swift.bank, swift.country]
  have front' : utf8Len (parts.bank ++ parts.country ++ parts.location) = 8 := by
    rw [utf8Len_append, front, swift.location]
  have first : slice bic 0 4 = some parts.bank := by
    rw [slice_zero]
    exact sliceTo_eq_some_iff.mpr ⟨_, shape, swift.bank⟩
  have second : slice bic 4 6 = some parts.country := by
    rw [shape, slice_behind swift.bank (by decide)]
    exact sliceTo_eq_some_iff.mpr ⟨_, rfl, swift.country⟩
  rw [← List.append_assoc] at shape
  have third : slice bic 6 8 = some parts.location := by
    rw [shape, slice_behind front (by decide)]
    exact sliceTo_eq_some_iff.mpr ⟨_, rfl, swift.location⟩
  rw [← List.append_assoc] at shape
  rw [parseSwiftValue, valid, Option.bind_some, if_neg (by decide), first,
    Option.bind_some, second, Option.bind_some, third, Option.bind_some]
  by_cases long : utf8Len bic = 11
  · have last : slice bic 8 11 = some parts.branch := by
      have total := congrArg utf8Len shape
      rw [utf8Len_append, front', long] at total
      rw [shape, slice_behind front' (by decide)]
      exact sliceTo_eq_some_iff.mpr ⟨[], (List.append_nil _).symm, by omega⟩
    rw [if_pos long, if_pos long, last]
    rfl
  · rw [if_neg long, if_neg long]

end

/-! ## Every text -/

/-- None of the four functions panics, and the parts make up the text. -/
structure IdentifierLaws (text : List Char) : Prop where
  checked : (validateIbanValue text).isSome
  iban : ∃ parts, parseIbanValue text = some parts ∧
    (5 ≤ (cleaned text).length →
      parts.country ++ parts.checkDigits ++ parts.bankCode ++
        parts.accountNumber = cleaned text)
  swift : ∃ valid parts, validateSwiftValue text = some valid ∧
    parseSwiftValue text = some parts ∧
      if valid then
        parts.bank ≠ [] ∧ parts.country ≠ [] ∧ parts.location ≠ [] ∧
          parts.branch ≠ [] ∧
            parts.bank ++ parts.country ++ parts.location ++
              (if utf8Len text = 11 then parts.branch else []) = text
      else parts = ⟨[], [], [], []⟩

/-- The second character of such a text goes over the end of the country. -/
theorem umlaut_panics : ¬ IdentifierLaws ['K', 'ö', 'l', 'n', '1'] := by
  intro laws
  rcases laws.iban with ⟨parts, parsed, -⟩
  have panics : parseIbanValue ['K', 'ö', 'l', 'n', '1'] = none := by decide
  rw [panics] at parsed
  cases parsed

theorem ne_nil_of_utf8Len {text : List Char} {width : Nat}
    (length : utf8Len text = width + 1) : text ≠ [] := by
  rintro rfl
  cases length

theorem swift_laws {text : List Char} {valid : Bool}
    (validated : validateSwiftValue text = some valid) :
    ∃ parts, parseSwiftValue text = some parts ∧
      if valid then
        parts.bank ≠ [] ∧ parts.country ≠ [] ∧ parts.location ≠ [] ∧
          parts.branch ≠ [] ∧
            parts.bank ++ parts.country ++ parts.location ++
              (if utf8Len text = 11 then parts.branch else []) = text
      else parts = ⟨[], [], [], []⟩ := by
  cases valid with
  | false =>
      refine ⟨⟨[], [], [], []⟩, ?_, rfl⟩
      rw [parseSwiftValue, validated]
      rfl
  | true =>
      rcases isSwift_of_valid validated with ⟨sized, parts, swift⟩
      refine ⟨_, parseSwiftValue_of_isSwift validated swift, ?_⟩
      have total := congrArg utf8Len swift.shape
      have whole := swift.shape
      rw [utf8Len_append, utf8Len_append, utf8Len_append, swift.bank,
        swift.country, swift.location] at total
      rw [← List.append_assoc, ← List.append_assoc] at whole
      rw [if_pos rfl]
      refine
        ⟨ne_nil_of_utf8Len swift.bank, ne_nil_of_utf8Len swift.country,
          ne_nil_of_utf8Len swift.location, ?_⟩
      by_cases long : utf8Len text = 11
      · have branch : utf8Len parts.branch = 3 := by omega
        simp only [if_pos long]
        exact ⟨ne_nil_of_utf8Len branch, whole.symm⟩
      · have none : parts.branch = [] := utf8Len_eq_zero (by omega)
        rw [none] at whole
        simp only [if_neg long]
        exact ⟨List.cons_ne_nil _ _, whole.symm⟩

/-- The functions keep their laws exactly where all cuts fit the text. -/
theorem identifierLaws_iff (text : List Char) :
    IdentifierLaws text ↔ CutsFit text := by
  constructor
  · intro laws
    constructor
    · rcases laws.iban with ⟨parts, parsed, -⟩
      exact
        parseIbanValue_isSome_iff.mp (Option.isSome_iff_exists.mpr ⟨_, parsed⟩)
    · intro sized
      rcases laws.swift with ⟨valid, parts, validated, -⟩
      exact
        swiftCuts_of_isSome sized (Option.isSome_iff_exists.mpr ⟨_, validated⟩)
  · rintro ⟨ibanCuts, swiftCuts⟩
    refine ⟨?_, ?_, ?_⟩
    · rw [validateIbanValue_eq]
      rfl
    · rcases Option.isSome_iff_exists.mp
        (parseIbanValue_isSome_iff.mpr ibanCuts) with ⟨parts, parsed⟩
      refine ⟨parts, parsed, fun long => ?_⟩
      have bytes := length_le_utf8Len (cleaned text)
      have shape := ((parseIbanValue_eq_some_iff (by omega)).mp parsed).1
      rw [shape, List.append_assoc, List.append_assoc]
    · have returns : (validateSwiftValue text).isSome := by
        by_cases sized : utf8Len text = 8 ∨ utf8Len text = 11
        · exact isSome_of_swiftCuts sized (swiftCuts sized)
        · rw [validateSwiftValue, if_pos (by omega)]
          rfl
      rcases Option.isSome_iff_exists.mp returns with ⟨valid, validated⟩
      rcases swift_laws validated with ⟨parts, parsed, laws⟩
      exact ⟨valid, parts, validated, parsed, laws⟩

end OpenSnow.Industry.Banking
