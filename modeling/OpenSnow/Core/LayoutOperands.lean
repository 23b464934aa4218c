import OpenSnow.Core.LayoutDispatch

/-!
# The operands of a layout

The readers cut their operands out of a layout in different ways.  A name that
ends the statement takes the semicolons along that stick to it, unless the
reader takes semicolons off the end first.
-/

namespace OpenSnow.Core.Commands

open Foundation
open Rust.Text

/-! ## Names at the end -/

/-- What of a trailer sticks to the word before it. -/
def stuck (trailer : List Char) : List Char :=
  trailer.takeWhile (!isWhitespace ·)

/-- What of a trailer sticks once semicolons are taken off the end. -/
def stuckTrimmed (trailer : List Char) : List Char :=
  stuck (trimEndMatches ';' (trimEnd trailer))

/-- A trailer that is taken off completely, or does not stick. -/
def StripsOff (trailer : List Char) : Prop :=
  trailer.head? = some ';' → ∀ ch ∈ trim trailer, ch = ';'

variable {trailer : List Char}

theorem stuck_eq_nil_iff (isTrailer : IsTrailer trailer) :
    stuck trailer = [] ↔ trailer.head? ≠ some ';' := by
  rw [stuck, takeWhile_eq_nil_iff_stops]
  cases trailer with
  | nil => simp
  | cons ch rest =>
      rw [stops_cons, List.head?_cons, ne_eq, Option.some.injEq]
      rcases isTrailer ch List.mem_cons_self with rfl | blank
      · simp [isWhitespace]
      · simp only [blank, Bool.not_true, true_iff]
        rintro rfl
        revert blank
        decide

theorem trimEndMatches_leads (pattern : Char) (text : List Char) :
    trimEndMatches pattern text <+: text := by
  rcases trimEndMatches_shape pattern text with ⟨after, shape, -⟩
  exact ⟨after, shape.symm⟩

variable (text : List Char)

theorem trimEnd_leads : trimEnd text <+: text := by
  rcases trimEnd_shape text with ⟨after, shape, -⟩
  exact ⟨after, shape.symm⟩

theorem trimEndMatches_eq_nil_iff {pattern : Char} {text : List Char} :
    trimEndMatches pattern text = [] ↔ ∀ ch ∈ text, ch = pattern := by
  rw [trimEndMatches, List.reverse_eq_nil_iff, List.dropWhile_eq_nil_iff]
  simp

theorem stops_of_leading {Element : Type} {kind : Element → Bool}
    {front list : List Element} (part : front <+: list)
    (stops : Stops kind list) : Stops kind front := by
  rcases part with ⟨rest, rfl⟩
  cases front with
  | nil => exact stops_nil
  | cons first front => exact stops_cons.mpr (stops_cons.mp stops)

theorem stuckTrimmed_eq_nil_iff (isTrailer : IsTrailer trailer) :
    stuckTrimmed trailer = [] ↔ StripsOff trailer := by
  rw [StripsOff]
  by_cases sticks : trailer.head? = some ';'
  · have starts : Stops isWhitespace trailer := by
      intro ch isHead
      rw [Option.mem_def, sticks, Option.some.injEq] at isHead
      rw [← isHead]
      decide
    have whole : trim trailer = trimEnd trailer := by
      rw [trim, trimStart_of_stops starts]
    rw [whole, ← trimEndMatches_eq_nil_iff, stuckTrimmed, stuck,
      takeWhile_eq_nil_iff_stops]
    constructor
    · intro stops _
      have part :=
        (trimEndMatches_leads ';' (trimEnd trailer)).trans
          (trimEnd_leads trailer)
      cases form : trimEndMatches ';' (trimEnd trailer) with
      | nil => rfl
      | cons ch rest =>
          rw [form] at part stops
          have solid := stops_cons.mp (stops_of_leading part starts)
          have blank := stops_cons.mp stops
          rw [solid] at blank
          cases blank
    · intro empty
      rw [empty sticks]
      exact stops_nil
  · refine iff_of_true ?_ fun head => absurd head sticks
    rw [stuckTrimmed, stuck, takeWhile_eq_nil_iff_stops]
    apply stops_of_leading
      ((trimEndMatches_leads ';' (trimEnd trailer)).trans
        (trimEnd_leads trailer))
    rw [← takeWhile_eq_nil_iff_stops]
    exact (stuck_eq_nil_iff isTrailer).mpr sticks

theorem Gap.stuck (gap : Gap) (rest : List Char) :
    stuck (gap.text ++ rest) = [] :=
  takeWhile_eq_nil_iff_stops.mpr (gap.stops rest)

theorem Gap.dropWhile (gap : Gap) (rest : List Char) :
    (gap.text ++ rest).dropWhile (!isWhitespace ·) = gap.text ++ rest :=
  dropWhile_of_stops (gap.stops rest)

theorem IsTrailer.of_prefix {front trailer : List Char}
    (isTrailer : IsTrailer trailer) (part : front <+: trailer) :
    IsTrailer front :=
  fun ch member => isTrailer ch (part.subset member)

theorem stuck_semicolons
    (isTrailer : IsTrailer trailer) : ∀ ch ∈ stuck trailer, ch = ';' := by
  intro ch member
  have solid := List.mem_takeWhile_imp member
  have inTrailer := (List.takeWhile_prefix _).subset member
  rcases isTrailer ch inTrailer with semicolon | blank
  · exact semicolon
  · simp [blank] at solid

theorem stuckTrimmed_semicolons
    (isTrailer : IsTrailer trailer) : ∀ ch ∈ stuckTrimmed trailer, ch = ';' :=
  stuck_semicolons
    (isTrailer.of_prefix
      ((trimEndMatches_leads ';' _).trans (trimEnd_leads trailer)))

/-! ## Words of a text -/

theorem splitWhitespace_eq :
    splitWhitespace text = fields isWhitespace text :=
  rfl

theorem fields_trim :
    fields isWhitespace (trim text) = fields isWhitespace text := by
  rcases trim_shape text with ⟨before, after, shape, front, back⟩
  conv_rhs => rw [shape]
  rw [fields_breaks_append front, fields_append_breaks back]

/-- The first word of a text that starts with a name. -/
theorem fields_name {blanks name rest : List Char} (blank : Blank blanks)
    (nonempty : name ≠ [])
    (solid : ∀ ch ∈ name, isWhitespace ch = false) :
    fields isWhitespace (blanks ++ (name ++ rest)) =
      (name ++ stuck rest) ::
        fields isWhitespace (rest.dropWhile (!isWhitespace ·)) := by
  have parts :
      name ++ rest =
        (name ++ stuck rest) ++ rest.dropWhile (!isWhitespace ·) := by
    rw [List.append_assoc, stuck, List.takeWhile_append_dropWhile]
  rw [fields_breaks_append blank, parts,
    fields_run_append _ _ (stops_dropWhile rest)]
  · simp [nonempty]
  · intro ch member
    rcases List.mem_append.mp member with inName | inRest
    · exact solid ch inName
    · have notBlank := List.mem_takeWhile_imp inRest
      simpa using notBlank

theorem firstWord_name {blanks name rest : List Char} (blank : Blank blanks)
    (nonempty : name ≠ [])
    (solid : ∀ ch ∈ name, isWhitespace ch = false) :
    firstWord (blanks ++ (name ++ rest)) = some (name ++ stuck rest) := by
  rw [firstWord, splitWhitespace_eq, fields_name blank nonempty solid]
  rfl

theorem firstWord_trim {blanks name rest : List Char} (blank : Blank blanks)
    (nonempty : name ≠ [])
    (solid : ∀ ch ∈ name, isWhitespace ch = false) :
    firstWord (trim (blanks ++ (name ++ rest))) = some (name ++ stuck rest) := by
  rw [firstWord, splitWhitespace_eq, fields_trim, ← splitWhitespace_eq,
    ← firstWord, firstWord_name blank nonempty solid]

theorem firstWord_trimEnd :
    firstWord (trimEnd text) = firstWord text := by
  rcases trimEnd_shape text with ⟨after, shape, blank⟩
  rw [firstWord, firstWord, splitWhitespace_eq, splitWhitespace_eq]
  conv_rhs => rw [shape]
  rw [fields_append_breaks blank]

theorem trimEnd_append {text rest : List Char}
    (stops : Stops isWhitespace text.reverse) :
    trimEnd (text ++ rest) = text ++ trimEnd rest := by
  rw [trimEnd, trimEnd, List.reverse_append, dropWhile_append_of_stops stops,
    List.reverse_append, List.reverse_reverse]

theorem trimEndMatches_append {pattern : Char} {text rest : List Char}
    (stops : Stops (· == pattern) text.reverse) :
    trimEndMatches pattern (text ++ rest) =
      text ++ trimEndMatches pattern rest := by
  rw [trimEndMatches, trimEndMatches, List.reverse_append,
    dropWhile_append_of_stops stops, List.reverse_append, List.reverse_reverse]

theorem trim_append {blanks text rest : List Char} (blank : Blank blanks)
    (nonempty : text ≠ []) (trimmed : Trimmed text) :
    trim (blanks ++ (text ++ rest)) = text ++ trimEnd rest := by
  have starts : Stops isWhitespace (text ++ rest) := by
    cases text with
    | nil => exact absurd rfl nonempty
    | cons ch text => exact stops_cons.mpr (stops_cons.mp trimmed.1)
  rw [trim, trimStart_blank_append blank, trimStart_of_stops starts,
    trimEnd_append trimmed.2]

/-- A statement that ends in a name, with its semicolons taken off. -/
theorem trimStatement_append {blanks text rest : List Char}
    (blank : Blank blanks) (nonempty : text ≠ []) (trimmed : Trimmed text)
    (noSemicolon : Stops (· == ';') text.reverse) :
    trimStatement (blanks ++ (text ++ rest)) =
      text ++ trimEnd (trimEndMatches ';' (trimEnd rest)) := by
  have again := @trim_append [] text (trimEndMatches ';' (trimEnd rest))
    blank_nil nonempty trimmed
  rw [List.nil_append] at again
  rw [trimStatement, trim_append blank nonempty trimmed,
    trimEndMatches_append noSemicolon, again]

/-- White space at the end does not stick. -/
theorem stuck_append_blank {text blanks : List Char} (blank : Blank blanks) :
    stuck (text ++ blanks) = stuck text := by
  induction text with
  | nil =>
      rw [List.nil_append, stuck, takeWhile_eq_nil_iff_stops.mpr]
      · rfl
      · intro ch isHead
        simp [blank ch (List.mem_of_mem_head? isHead)]
  | cons ch text ih =>
      rw [List.cons_append, stuck, stuck, List.takeWhile_cons,
        List.takeWhile_cons]
      split
      · exact congrArg (ch :: ·) ih
      · rfl

theorem stuck_trimEnd (trailer : List Char) :
    stuck (trimEnd trailer) = stuck trailer := by
  rcases trimEnd_shape trailer with ⟨after, shape, blank⟩
  conv_rhs => rw [shape]
  rw [stuck_append_blank blank]

theorem firstWord_trimStatement {blanks name trailer : List Char}
    (blank : Blank blanks) (nonempty : name ≠ [])
    (named : ∀ ch ∈ name, isSqlIdentifierChar ch) :
    firstWord (trimStatement (blanks ++ (name ++ trailer))) =
      some (name ++ stuckTrimmed trailer) := by
  have noSemicolon : Stops (· == ';') name.reverse := by
    intro ch isHead
    have isNamed :=
      named ch (List.mem_reverse.mp (List.mem_of_mem_head? isHead))
    rw [beq_eq_false_iff_ne]
    rintro rfl
    revert isNamed
    decide
  have solid : ∀ ch ∈ name, isWhitespace ch = false := fun ch member =>
    not_isWhitespace_of_alphanum (named ch member)
  have first :=
    @fields_name [] name (trimEnd (trimEndMatches ';' (trimEnd trailer)))
      blank_nil nonempty solid
  rw [List.nil_append] at first
  rw [trimStatement_append blank nonempty (trimmed_of_named named) noSemicolon,
    firstWord, splitWhitespace_eq, first, stuck_trimEnd]
  rfl

/-! ## Upper case -/

theorem isSqlIdentifierChar_toUpper {ch : Char}
    (named : isSqlIdentifierChar ch) : isSqlIdentifierChar ch.toUpper := by
  by_cases letter : ch.isAlpha
  · rw [isSqlIdentifierChar, Char.isAlphanum, Char.isAlpha_toUpper_eq_isAlpha,
      letter, Bool.true_or, Bool.true_or]
  · have same : ch.toUpper = ch := (toUpper_eq_iff letter).mpr rfl
    rwa [same]

theorem upper_named {name : List Char}
    (named : ∀ ch ∈ name, isSqlIdentifierChar ch) :
    ∀ ch ∈ name.map Char.toUpper, isSqlIdentifierChar ch := by
  intro ch member
  rcases List.mem_map.mp member with ⟨other, inName, rfl⟩
  exact isSqlIdentifierChar_toUpper (named other inName)

/-! ## Slices behind keywords -/

theorem Spells.utf8Len {word : List Char} {keyword : String}
    (spells : Spells word keyword) : utf8Len word = keyword.length := by
  rw [utf8Len_of_ascii fun ch member =>
      isAscii_of_alphanum (spells.named ch member),
    ← String.length_toList, ← spells.upper, List.length_map]

/-- What stands behind two keywords that are one blank apart. -/
theorem sliceFrom_two {first second rest : List Char}
    {keyword next start : String} (spells : Spells first keyword)
    (spellsNext : Spells second next)
    (words : start.toList = keyword.toList ++ ' ' :: next.toList) :
    sliceFrom (first ++ ([' '] ++ (second ++ rest))) start.length =
      some rest := by
  apply sliceFrom_eq_some_iff.mpr
  refine ⟨first ++ ' ' :: second, by simp, ?_⟩
  have blank : ' '.utf8Size = 1 := rfl
  have length := congrArg List.length words
  simp only [List.length_append, List.length_cons,
    String.length_toList] at length
  rw [utf8Len_append, utf8Len_cons, spells.utf8Len, spellsNext.utf8Len, blank]
  omega

/-- What stands behind three keywords that are one blank apart. -/
theorem sliceFrom_three {first second third rest : List Char}
    {keyword next last start : String} (spells : Spells first keyword)
    (spellsNext : Spells second next) (spellsLast : Spells third last)
    (words : start.toList =
      keyword.toList ++ ' ' :: (next.toList ++ ' ' :: last.toList)) :
    sliceFrom (first ++ ([' '] ++ (second ++ ([' '] ++ (third ++ rest)))))
        start.length =
      some rest := by
  apply sliceFrom_eq_some_iff.mpr
  refine ⟨first ++ ' ' :: (second ++ ' ' :: third), by simp, ?_⟩
  have blank : ' '.utf8Size = 1 := rfl
  have length := congrArg List.length words
  simp only [List.length_append, List.length_cons,
    String.length_toList] at length
  rw [utf8Len_append, utf8Len_cons, utf8Len_append, utf8Len_cons,
    spells.utf8Len, spellsNext.utf8Len, spellsLast.utf8Len, blank]
  omega

/-!
## The code of a layout

What a handler is given of a layout, piece by piece, and when two layouts of a
statement are dispatched alike.
-/

/-! ### The same dispatch -/

/-- The command of a text, if its handler accepts the operands. -/
def accepted (sql : String) : Panics (Option (Option Command)) :=
  (dispatch sql).map fun dispatched => dispatched.map Except.toOption

/-- Two texts have the same handler, and it reads the same operands of them. -/
structure SameDispatch (sql other : String) : Prop where
  handler : handlerOf sql = handlerOf other
  operands : accepted sql = accepted other

namespace Layout

variable {pieces : List Piece}

/-- What stands behind the leading comments. -/
def code (layout : Layout pieces) : List Char :=
  layout.body ++ layout.trailer

/-- A layout up to its second piece. -/
theorem opened {first second : Piece} {more : List Piece}
    (layout : Layout (first :: second :: more)) :
    ∃ (word : List Char) (gap : Gap) (later : Layout (second :: more)),
      first.SpelledBy word ∧
        layout.code = word ++ (gap.text ++ later.code) ∧
        layout.gaps = gap :: later.gaps ∧
        later.trailer = layout.trailer ∧
        layout.spelled = word :: later.spelled := by
  rcases layout with
    ⟨lead, isLead, spelled, spells, gaps, gapCount, trailer, isTrailer⟩
  rcases spells with _ | ⟨spellsFirst, spells⟩
  rename_i word words
  cases gaps with
  | nil => cases gapCount
  | cons gap gaps =>
      have laterCount : gaps.length + 1 = (second :: more).length := by
        simpa using gapCount
      refine
        ⟨word, gap,
          ⟨[], .nil, words, spells, gaps, laterCount, trailer, isTrailer⟩,
          spellsFirst, ?_, rfl, rfl, rfl⟩
      rcases spells with _ | ⟨spellsSecond, spells⟩
      simp [code, body, spread]

theorem last {piece : Piece} (layout : Layout [piece]) :
    ∃ word, piece.SpelledBy word ∧ layout.code = word ++ layout.trailer := by
  rcases layout with
    ⟨lead, isLead, spelled, spells, gaps, gapCount, trailer, isTrailer⟩
  rcases spells with _ | ⟨spellsPiece, ⟨⟩⟩
  exact ⟨_, spellsPiece, by simp [code, body, spread]⟩

theorem stripped_text {keyword : String}
    (layout : Layout (.keyword keyword :: pieces)) :
    stripped layout.text.toList = layout.code := by
  have opens : ∃ word rest, Spells word keyword ∧
      layout.code = word ++ rest := by
    cases pieces with
    | nil =>
        rcases layout.last with ⟨word, spells, shape⟩
        exact ⟨word, _, spells, shape⟩
    | cons second more =>
        rcases layout.opened with ⟨word, gap, later, spells, shape, -⟩
        exact ⟨word, _, spells, shape⟩
  rcases opens with ⟨word, rest, spells, shape⟩
  rw [text, String.toList_ofList, layout.isLead.stripped_append, ← code, shape,
    stripped_word spells]

end Layout

theorem Statement.opens (statement : Statement) :
    ∃ keyword more, statement.pieces = .keyword keyword :: more := by
  cases statement with
  | dropTable ifExists table => cases ifExists <;> exact ⟨_, _, rfl⟩
  | _ => exact ⟨_, _, rfl⟩

variable {statement : Statement}

variable (layout : Layout statement.pieces)

theorem Statement.stripped_text :
    stripped layout.text.toList = layout.code := by
  rcases statement.opens with ⟨keyword, more, shape⟩
  revert layout
  rw [shape]
  exact fun layout => layout.stripped_text

/-- A handler that takes some layouts of a statement reads them on its own. -/
theorem sameDispatch_iff {handler : Handler} {fits : Prop} [Decidable fits]
    (chosen : chosenHandler layout.code = if fits then some handler else none)
    (own : chosenHandler statement.documented.code = some handler) :
    SameDispatch layout.text statement.documented.text ↔
      fits ∧
        (operands handler layout.code).map Except.toOption =
          (operands handler statement.documented.code).map
            Except.toOption := by
  have handlers :
      handlerOf layout.text = handlerOf statement.documented.text ↔ fits := by
    rw [handlerOf_eq, handlerOf_eq, Statement.stripped_text,
      Statement.stripped_text, chosen, own]
    simp
  have commands : fits →
      (accepted layout.text = accepted statement.documented.text ↔
        (operands handler layout.code).map Except.toOption =
          (operands handler statement.documented.code).map
            Except.toOption) := by
    intro fit
    rw [accepted, accepted, dispatch_eq, dispatch_eq, Statement.stripped_text,
      Statement.stripped_text, chosen, own, if_pos fit]
    simp only [Option.map_map]
    cases operands handler layout.code <;>
      cases operands handler statement.documented.code <;> simp
  constructor
  · intro same
    have fit := handlers.mp same.handler
    exact ⟨fit, (commands fit).mp same.operands⟩
  · rintro ⟨fit, same⟩
    exact ⟨handlers.mpr fit, (commands fit).mpr same⟩

/-- Texts without a handler are dispatched alike. -/
theorem sameDispatch_of_none (chosen : chosenHandler layout.code = none)
    (own : chosenHandler statement.documented.code = none) :
    SameDispatch layout.text statement.documented.text := by
  constructor
  · rw [handlerOf_eq, handlerOf_eq, Statement.stripped_text,
      Statement.stripped_text, chosen, own]
  · rw [accepted, accepted, dispatch_eq, dispatch_eq, Statement.stripped_text,
      Statement.stripped_text, chosen, own]

/-! ### Ends and gaps -/

/-- Whether a name ends the statement without a semicolon that sticks to it. -/
def Layout.EndsFree {pieces : List Piece} (layout : Layout pieces) : Prop :=
  layout.trailer.head? ≠ some ';'

theorem Layout.endsFree_iff {pieces : List Piece} (layout : Layout pieces) :
    layout.EndsFree ↔ stuck layout.trailer = [] :=
  (stuck_eq_nil_iff layout.isTrailer).symm

theorem Statement.documented_gap {index : Nat}
    (inside : index + 1 < statement.pieces.length) :
    statement.documented.gap index = [' '] := by
  rw [Layout.gap, Statement.documented,
    List.getElem?_replicate_of_lt (by omega)]
  rfl

theorem Identifier.ne_nil (name : Identifier) : name.text ≠ [] := by
  intro empty
  have start := name.isIdentifier.start
  rw [empty] at start
  cases start

theorem Identifier.solid (name : Identifier) :
    ∀ ch ∈ name.text, isWhitespace ch = false := fun ch member =>
  not_isWhitespace_of_alphanum (name.isIdentifier.named ch member)

end OpenSnow.Core.Commands
