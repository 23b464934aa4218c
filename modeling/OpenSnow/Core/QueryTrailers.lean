import OpenSnow.Core.LayoutOperands
import OpenSnow.Rust.Search

/-!
# Queries with semicolons behind them

The semicolons behind a query end its statement, unless the query leaves a
quote or a comment open that takes them in.
-/

namespace OpenSnow.Core.Commands

open Foundation
open Rust.Text
open Sql

/-! ## What a query leaves open -/

/-- What is open behind a text. -/
def readingAfter : Reading → List Char → Reading
  | reading, [] => reading
  | reading, ch :: rest => readingAfter (reading.next true ch rest) rest

/-- The first semicolon of a trailer ends the statement, if there is one. -/
def EndsStatement (query trailer : List Char) : Prop :=
  ';' ∈ trailer →
    readingAfter .plain (query ++ trailer.takeWhile isWhitespace) = .plain

/-! ### Seams -/

section

variable {reading : Reading} {front back : List Char}

theorem readingAfter_seam (quotes : QuotesOnly reading) (seam : Seam front back) :
    readingAfter reading (front ++ back) =
      readingAfter (readingAfter reading front) back := by
  induction front generalizing reading with
  | nil => rfl
  | cons ch front ih =>
      rw [List.cons_append, readingAfter, readingAfter,
        next_append_seam quotes seam,
        ih (quotes.next true ch front) (seam_of_cons seam)]

theorem oneStatement_seam (quotes : QuotesOnly reading)
    (seam : Seam front back) :
    OneStatement reading (front ++ back) ↔
      OneStatement reading front ∧
        OneStatement (readingAfter reading front) back := by
  induction front generalizing reading with
  | nil => simp [OneStatement, readingAfter]
  | cons ch front ih =>
      rw [List.cons_append, OneStatement, OneStatement, readingAfter,
        next_append_seam quotes seam,
        ih (quotes.next true ch front) (seam_of_cons seam), and_assoc]

/-- A text that is empty or starts with white space or a semicolon. -/
def Separated (tail : List Char) : Prop :=
  ∀ ahead ∈ tail.head?, ahead = ';' ∨ isWhitespace ahead

theorem IsTrailer.separated {trailer : List Char}
    (isTrailer : IsTrailer trailer) : Separated trailer := fun ahead isHead =>
  isTrailer ahead (List.mem_of_mem_head? isHead)

theorem Separated.seam (separated : Separated back) : Seam front back :=
  seam_of_head (fun ch => ch == ';' || isWhitespace ch) (by decide)
    fun ahead isHead => by simpa using separated ahead isHead

end

/-- Splitting goes through one statement to what follows it. -/
theorem splitLoop_append {reading : Reading} {current text trailer : List Char}
    (quotes : QuotesOnly reading) (one : OneStatement reading text)
    (separated : Separated trailer) :
    splitLoop reading current (text ++ trailer) =
      splitLoop (readingAfter reading text) (current ++ text) trailer := by
  induction text generalizing reading current with
  | nil => rw [List.nil_append, List.append_nil, readingAfter]
  | cons ch text ih =>
      rw [List.cons_append, splitLoop, if_neg one.1,
        next_append_seam quotes separated.seam,
        ih (quotes.next true ch text) one.2,
        readingAfter, List.append_assoc]
      rfl

theorem quotesOnly_readingAfter {reading : Reading} (text : List Char)
    (quotes : QuotesOnly reading) : QuotesOnly (readingAfter reading text) := by
  induction text generalizing reading with
  | nil => exact quotes
  | cons ch text ih => exact ih (quotes.next true ch text)

variable {text : List Char}

theorem Blank.isTrailer (blank : Blank text) :
    IsTrailer text := fun ch member => Or.inr (blank ch member)

theorem oneStatement_blank {reading : Reading}
    (blank : Blank text) : OneStatement reading text := by
  induction text generalizing reading with
  | nil => trivial
  | cons ch text ih =>
      rw [blank_cons] at blank
      refine ⟨?_, ih blank.2⟩
      rintro ⟨-, rfl⟩
      have white := blank.1
      revert white
      decide

theorem keepStatement_blank (blank : Blank text)
    (statements : List (List Char)) :
    keepStatement text statements = statements := by
  have empty : trim text = [] := by
    rw [trim, trimStart_of_blank blank]
    rfl
  rw [keepStatement, empty]
  rfl

theorem keepStatement_solid (solid : ¬ Blank text)
    (statements : List (List Char)) :
    keepStatement text statements = trim text :: statements := by
  rw [keepStatement, if_neg]
  intro empty
  rw [List.isEmpty_iff] at empty
  rcases trim_shape text with ⟨before, after, shape, front, back⟩
  rw [empty, List.nil_append] at shape
  exact solid (by rw [shape]; exact blank_append.mpr ⟨front, back⟩)

theorem next_plain_blank {ch : Char} (white : isWhitespace ch)
    (rest : List Char) : Reading.plain.next true ch rest = .plain := by
  have noQuote := not_quote_of_blank white
  have noDash : ch ≠ '-' := by
    rintro rfl
    revert white
    decide
  have noSlash : ch ≠ '/' := by
    rintro rfl
    revert white
    decide
  simp [Reading.next, noQuote, noDash, noSlash]

/-- White space and semicolons hold no statement. -/
theorem splitLoop_trailer {current trailer : List Char} (blank : Blank current)
    (isTrailer : IsTrailer trailer) :
    splitLoop .plain current trailer = [] := by
  induction trailer generalizing current with
  | nil => rw [splitLoop, keepStatement_blank blank]
  | cons ch rest ih =>
      have others : IsTrailer rest := fun other member =>
        isTrailer other (List.mem_cons_of_mem ch member)
      rw [splitLoop]
      rcases isTrailer ch List.mem_cons_self with rfl | white
      · rw [if_pos ⟨rfl, rfl⟩, keepStatement_blank blank, ih blank_nil others]
      · rw [if_neg, next_plain_blank white, ih (blank_append.mpr ⟨blank, by simpa using white⟩)
          others]
        rintro ⟨-, rfl⟩
        revert white
        decide

/-- A text that is not blank is the start of the first statement. -/
theorem splitLoop_starts {reading : Reading} {current : List Char}
    (text : List Char) (solid : ¬ Blank current) :
    ∃ more others, more <+: text ∧
      splitLoop reading current text = trim (current ++ more) :: others := by
  induction text generalizing reading current with
  | nil =>
      refine ⟨[], [], List.nil_prefix, ?_⟩
      rw [splitLoop, keepStatement_solid solid, List.append_nil]
  | cons ch rest ih =>
      rw [splitLoop]
      split
      · refine ⟨[], splitLoop .plain [] rest, List.nil_prefix, ?_⟩
        rw [keepStatement_solid solid, List.append_nil]
      · rcases @ih (reading.next true ch rest) (current ++ [ch])
          (fun blank => solid (blank_append.mp blank).1) with
          ⟨more, others, part, split⟩
        refine ⟨ch :: more, others, List.cons_prefix_cons.mpr ⟨rfl, part⟩, ?_⟩
        rw [split, List.append_assoc]
        rfl

/-! ## The statements of a query with a trailer -/

theorem IsQuery.not_blank {query : List Char} (isQuery : IsQuery query) :
    ¬ Blank query := by
  intro blank
  cases form : query with
  | nil => exact isQuery.ne_nil form
  | cons ch text =>
      have trimmed := isQuery.trimmed
      rw [form] at trimmed blank
      have solid := stops_cons.mp trimmed.1
      rw [blank ch List.mem_cons_self] at solid
      cases solid

/-- What follows the white space of a trailer is a semicolon. -/
theorem semicolon_of_trailer {ch : Char} {trailer rest : List Char}
    (isTrailer : IsTrailer trailer)
    (form : trailer.dropWhile isWhitespace = ch :: rest) : ch = ';' := by
  have member : ch ∈ trailer := by
    apply (List.dropWhile_suffix isWhitespace).subset
    rw [form]
    exact List.mem_cons_self
  have solid : isWhitespace ch = false := by
    have stops : Stops isWhitespace (trailer.dropWhile isWhitespace) :=
      stops_dropWhile trailer
    rw [form] at stops
    exact stops_cons.mp stops
  rcases isTrailer ch member with semicolon | blank
  · exact semicolon
  · rw [solid] at blank
    cases blank

section Statements

variable {query trailer : List Char} (isQuery : IsQuery query)
  (isTrailer : IsTrailer trailer)

include isQuery isTrailer

theorem split_trailer :
    splitSqlStatements (query ++ trailer) =
      splitLoop
        (readingAfter .plain (query ++ trailer.takeWhile isWhitespace))
        (query ++ trailer.takeWhile isWhitespace)
        (trailer.dropWhile isWhitespace) := by
  have blank := blank_takeWhile trailer
  have plain : QuotesOnly .plain := trivial
  have rest : IsTrailer (trailer.dropWhile isWhitespace) := fun ch member =>
    isTrailer ch ((List.dropWhile_suffix _).subset member)
  have first :=
    @splitLoop_append .plain [] query trailer plain isQuery.one
      isTrailer.separated
  have onwards :=
    @splitLoop_append (readingAfter .plain query) query _ _
      (quotesOnly_readingAfter query plain) (oneStatement_blank blank)
      rest.separated
  rw [List.takeWhile_append_dropWhile] at onwards
  rw [splitSqlStatements, first, List.nil_append, onwards,
    readingAfter_seam plain ((Blank.isTrailer blank).separated.seam)]

/-- A trailer that ends the statement is left out of it. -/
theorem split_ended (ends : EndsStatement query trailer) :
    splitSqlStatements (query ++ trailer) = [query] := by
  have whole : trim (query ++ trailer.takeWhile isWhitespace) = query :=
    @trim_surrounded [] _ _ blank_nil (blank_takeWhile trailer)
      isQuery.trimmed
  have solid : ¬ Blank (query ++ trailer.takeWhile isWhitespace) :=
    fun blank => isQuery.not_blank (blank_append.mp blank).1
  rw [split_trailer isQuery isTrailer]
  cases form : trailer.dropWhile isWhitespace with
  | nil => rw [splitLoop, keepStatement_solid solid, whole]
  | cons ch rest =>
      have semicolon := semicolon_of_trailer isTrailer form
      have inside : ch ∈ trailer ∧ IsTrailer rest := by
        have suffix : trailer.dropWhile isWhitespace <:+ trailer :=
          List.dropWhile_suffix _
        rw [form] at suffix
        exact
          ⟨suffix.subset List.mem_cons_self, fun other member =>
            isTrailer other (suffix.subset (List.mem_cons_of_mem ch member))⟩
      rw [semicolon] at inside ⊢
      rw [ends inside.1, splitLoop, if_pos ⟨rfl, rfl⟩,
        keepStatement_solid solid, splitLoop_trailer blank_nil inside.2, whole]

/-- A trailer that does not end the statement is a part of it. -/
theorem split_open (stays : ¬ EndsStatement query trailer) :
    ∃ tail others, tail ≠ [] ∧
      splitSqlStatements (query ++ trailer) = (query ++ tail) :: others := by
  rw [EndsStatement, Classical.not_imp] at stays
  rcases stays with ⟨member, notPlain⟩
  rw [split_trailer isQuery isTrailer]
  cases form : trailer.dropWhile isWhitespace with
  | nil =>
      have white := List.dropWhile_eq_nil_iff.mp form ';' member
      have solid : isWhitespace ';' = false := by decide
      rw [solid] at white
      cases white
  | cons ch rest =>
      rw [semicolon_of_trailer isTrailer form, splitLoop,
        if_neg fun ended => notPlain ended.1]
      have solid :
          ¬ Blank (query ++ trailer.takeWhile isWhitespace ++ [';']) :=
        fun blank =>
          isQuery.not_blank (blank_append.mp (blank_append.mp blank).1).1
      rcases splitLoop_starts rest solid with ⟨more, others, -, split⟩
      refine
        ⟨trailer.takeWhile isWhitespace ++ ';' :: trimEnd more, others,
          by simp, ?_⟩
      rw [split]
      have trimmed :
          Trimmed (query ++ (trailer.takeWhile isWhitespace ++ [';'])) := by
        constructor
        · have starts := isQuery.trimmed.1
          cases shape : query with
          | nil => exact absurd shape isQuery.ne_nil
          | cons first others =>
              rw [shape] at starts
              exact stops_cons.mpr (stops_cons.mp starts)
        · rw [List.reverse_append, List.reverse_append]
          exact stops_cons.mpr (by decide)
      have parts := @trim_append [] _ more blank_nil (by simp) trimmed
      simpa using parts

end Statements

/-! ## The first word -/

/-- What stands behind the word of a query does not change what is in front. -/
theorem stripped_append {query : List Char} (isQuery : IsQuery query)
    (rest : List Char) :
    stripped (query ++ rest) = stripped query ++ rest := by
  have blanks : ∀ text : List Char,
      stripped (trimStart text ++ rest) = stripped (text ++ rest) := by
    intro text
    induction text with
    | nil => rfl
    | cons ch text ih =>
        by_cases blank : isWhitespace ch
        · rw [List.cons_append, stripped_blank blank, ← ih, trimStart,
            List.dropWhile_cons_of_pos blank]
          rfl
        · rw [trimStart_of_stops (stops_cons.mpr (Bool.eq_false_iff.mpr blank))]
  have same : stripped (query ++ rest) = stripped (stripped query ++ rest) ∨
      stripped query = [] := by
    refine @stripped_induct
      (fun text => stripped (query ++ rest) = stripped (text ++ rest) ∨
        text = []) ?_ ?_ ?_ ?_ query (Or.inl rfl)
    · rintro text (same | rfl)
      · exact Or.inl (same.trans (blanks text).symm)
      · exact Or.inr rfl
    · rintro behind stop after found sliced (same | none)
      · rcases find_first found with ⟨comment, more, shape, length, first⟩
        have width : utf8Len ['*', '/'] = 2 := rfl
        have isAfter : after = more := by
          have cut : sliceFrom behind (stop + 2) = some more :=
            sliceFrom_eq_some_iff.mpr
              ⟨comment ++ ['*', '/'], by rw [shape]; simp, by
                rw [utf8Len_append, length, width]⟩
          rw [cut, Option.some.injEq] at sliced
          exact sliced.symm
        left
        rw [same, isAfter, shape]
        have taken := @stripped_block comment (more ++ rest) (first (by simp))
        simpa using taken
      · cases none
    · rintro behind stop after found sliced (same | none)
      · rcases find_first found with ⟨comment, more, shape, length, first⟩
        have width : utf8Len ['\n'] = 1 := rfl
        have isAfter : after = more := by
          have cut : sliceFrom behind (stop + 1) = some more :=
            sliceFrom_eq_some_iff.mpr
              ⟨comment ++ ['\n'], by rw [shape]; simp, by
                rw [utf8Len_append, length, width]⟩
          rw [cut, Option.some.injEq] at sliced
          exact sliced.symm
        have oneLine : '\n' ∉ comment := fun member =>
          first (by simp) (List.singleton_infix_iff _ _ |>.mpr member)
        left
        rw [same, isAfter, shape]
        have taken := @stripped_line comment (more ++ rest) oneLine
        simpa using taken
      · cases none
    · exact fun behind _ _ => Or.inr rfl
  have nonempty : leadingWord query ≠ [] := by
    rcases leadingWord_spells isQuery with spells | spells <;>
      exact spells.ne_nil
  have word := leadingWord_append query
  rcases same with same | none
  · rw [same, ← word, List.append_assoc]
    rcases leadingWord_spells isQuery with spells | spells <;>
      exact stripped_word spells
  · rw [none, List.append_eq_nil_iff] at word
    exact absurd word.1 nonempty

/-- The first keyword of a text that starts with a word. -/
theorem firstKeyword_word {word behind : List Char} {keyword : String}
    (spells : Spells word keyword) :
    (firstKeyword (word ++ behind)).toList =
      keyword.toList ++
        (behind.takeWhile (!isKeywordBreak ·)).map Char.toUpper := by
  have starts : ∀ kind : Char → Bool,
      (∀ ch, isSqlIdentifierChar ch → kind ch = false) →
        Stops kind (word ++ behind) := by
    intro kind others
    cases form : word with
    | nil => exact absurd form spells.ne_nil
    | cons ch more =>
        refine stops_cons.mpr (others ch (spells.named ch ?_))
        rw [form]
        exact List.mem_cons_self
  have noBlank := starts isWhitespace fun ch => not_isWhitespace_of_alphanum
  have noBreak := starts isKeywordBreak fun ch => isKeywordBreak_of_named
  have solid : ∀ ch ∈ word, !isKeywordBreak ch := by
    intro ch member
    rw [isKeywordBreak_of_named (spells.named ch member)]
    rfl
  rw [firstKeyword, trimStart_of_stops noBlank, dropWhile_of_stops noBreak,
    List.takeWhile_append_of_pos solid, toAsciiUppercase,
    String.toList_ofList, String.toList_ofList, List.map_append, spells.upper]

/-- One statement is accepted if its first word ends at a break. -/
theorem validate_statement {text statement word behind : List Char}
    (split : splitSqlStatements text = [statement])
    (starts : Stops isWhitespace statement)
    (notParenthesis : hasPrefix statement "(" = false)
    (shape : stripped statement = word ++ behind)
    (spells : Spells word "SELECT" ∨ Spells word "WITH") (command : String) :
    (validateMaterializationQuery text command).map Except.toOption =
      some
        (if behind.takeWhile (!isKeywordBreak ·) = [] then some statement
        else none) := by
  have keyword : ∀ expected : String, Spells word expected →
      behind.takeWhile (!isKeywordBreak ·) = [] →
        firstKeyword (stripped statement) = expected := by
    intro expected spells ends
    rw [shape, ← String.toList_inj, firstKeyword_word spells, ends]
    simp
  have ends : firstKeyword (stripped statement) = "SELECT" ∨
      firstKeyword (stripped statement) = "WITH" →
        behind.takeWhile (!isKeywordBreak ·) = [] := by
    intro isKeyword
    rw [shape, ← String.toList_inj, ← String.toList_inj] at isKeyword
    rcases spells with spells | spells <;>
      rw [firstKeyword_word spells] at isKeyword <;>
        simpa using isKeyword
  rw [validateMaterializationQuery, split]
  simp only [trimStart_of_stops starts, notParenthesis, Bool.false_eq_true,
    if_false, stripLeadingSqlComments_eq, Option.bind_eq_bind,
    Option.bind_some]
  by_cases none : behind.takeWhile (!isKeywordBreak ·) = []
  · rw [if_pos none]
    rcases spells with spells | spells
    · rw [keyword _ spells none]
      rfl
    · rw [keyword _ spells none]
      rfl
  · rw [if_neg none]
    split
    · rename_i select
      exact absurd (ends (Or.inl select)) none
    · rename_i withList
      exact absurd (ends (Or.inr withList)) none
    · rfl

/-! ## The query with a trailer -/

/-- The query is read alike unless an accepted one takes the trailer in. -/
theorem validate_trailer_iff {query trailer : List Char}
    (isQuery : IsQuery query) (isTrailer : IsTrailer trailer)
    (command : String) :
    (validateMaterializationQuery (query ++ trailer) command).map
          Except.toOption =
        (validateMaterializationQuery query command).map Except.toOption ↔
      (Stops (!isKeywordBreak ·) (behindLeadingWord query) →
        EndsStatement query trailer) := by
  have own :=
    validate_statement isQuery.split isQuery.trimmed.1
      (hasPrefix_parenthesis isQuery) (leadingWord_append query).symm
      (leadingWord_spells isQuery) command
  by_cases ends : EndsStatement query trailer
  · simp [validateMaterializationQuery, split_ended isQuery isTrailer ends,
      isQuery.split, ends]
  · rcases split_open isQuery isTrailer ends with
      ⟨tail, others, nonempty, split⟩
    rw [own, ← takeWhile_eq_nil_iff_stops]
    have refused : ∀ statement : Option (List Char),
        statement ≠ some query →
          (¬ (behindLeadingWord query).takeWhile (!isKeywordBreak ·) = [] →
            statement = none) →
          (some statement =
              some
                (if (behindLeadingWord query).takeWhile
                    (!isKeywordBreak ·) = [] then some query
                else none) ↔
            ((behindLeadingWord query).takeWhile (!isKeywordBreak ·) = [] →
              EndsStatement query trailer)) := by
      intro statement other none
      by_cases word :
          (behindLeadingWord query).takeWhile (!isKeywordBreak ·) = []
      · simp [word, ends, other]
      · simp [word, none word]
    cases others with
    | cons second others =>
        have many :
            (validateMaterializationQuery (query ++ trailer) command).map
                Except.toOption =
              some none := by
          rw [validateMaterializationQuery, split]
          rfl
        rw [many]
        exact refused none (by simp) fun _ => rfl
    | nil =>
        have starts : Stops isWhitespace (query ++ tail) := by
          have first := isQuery.trimmed.1
          cases form : query with
          | nil => exact absurd form isQuery.ne_nil
          | cons ch rest =>
              rw [form] at first
              exact stops_cons.mpr (stops_cons.mp first)
        have notParenthesis : hasPrefix (query ++ tail) "(" = false := by
          have first := hasPrefix_parenthesis isQuery
          cases form : query with
          | nil => exact absurd form isQuery.ne_nil
          | cons ch rest =>
              rw [form] at first
              exact first
        have shape : stripped (query ++ tail) =
            leadingWord query ++ (behindLeadingWord query ++ tail) := by
          rw [stripped_append isQuery, ← leadingWord_append,
            List.append_assoc]
        rw [validate_statement split starts notParenthesis shape
          (leadingWord_spells isQuery)]
        apply refused
        · split
          · rw [ne_eq, Option.some.injEq]
            intro same
            exact nonempty (List.append_right_eq_self.mp same)
          · exact fun same => by cases same
        · intro word
          rw [if_neg]
          intro none
          apply word
          rw [takeWhile_eq_nil_iff_stops] at none ⊢
          exact stops_of_leading (List.prefix_append _ tail) none

end OpenSnow.Core.Commands
