import OpenSnow.Core.QueryTrailers

/-!
# The statements of a text

The splitter of SQL texts, on any text.  Every statement is trimmed and is left
whole by the splitter, and the statements behind each other, with a line break
and a semicolon between any two, split into themselves.  What the leading
comments leave is an end of the text that has none.
-/

namespace OpenSnow.Core.Commands

open Foundation
open Rust.Text
open Sql

/-- A text that the splitter can return. -/
structure IsStatement (text : List Char) : Prop where
  nonempty : text ≠ []
  trimmed : Trimmed text
  one : OneStatement .plain text

/-- A line break ends everything that the text leaves open. -/
def Closes (text : List Char) : Prop := readingAfter .plain (text ++ ['\n']) = .plain

/-- The statements of a script: all but the last are closed by a line break. -/
def IsScript : List (List Char) → Prop
  | [] => True
  | [text] => IsStatement text
  | text :: rest => IsStatement text ∧ Closes text ∧ IsScript rest

/-- A text that starts with nothing that is skipped in front of a command. -/
structure Uncommented (text : List Char) : Prop where
  solid : Stops isWhitespace text
  noLine : ∀ rest, text ≠ '-' :: '-' :: rest
  noBlock : ∀ rest, text = '/' :: '*' :: rest → ¬ ['*', '/'] <:+: rest

/-- The statements with a line break and a semicolon between any two. -/
def script (statements : List (List Char)) : List Char :=
  ['\n', ';'].intercalate statements

/-! ## Parts of one statement -/

section

variable {reading : Reading} {front back text : List Char}

/-- A text is one statement, or its first separator follows one. -/
theorem oneStatement_or_separator (quotes : QuotesOnly reading)
    (text : List Char) :
    OneStatement reading text ∨
      ∃ front back, text = front ++ ';' :: back ∧ OneStatement reading front ∧
        readingAfter reading front = .plain := by
  induction text generalizing reading with
  | nil => exact Or.inl trivial
  | cons ch rest ih =>
      by_cases ends : reading = .plain ∧ ch = ';'
      · rcases ends with ⟨rfl, rfl⟩
        exact Or.inr ⟨[], rest, rfl, trivial, rfl⟩
      · rcases ih (quotes.next true ch rest) with one | ⟨front, back, rfl, one, plain⟩
        · exact Or.inl ⟨ends, one⟩
        · have separated : Separated (';' :: back) := by
            rintro ahead ⟨⟩
            exact Or.inl rfl
          rw [next_append_seam quotes separated.seam] at one plain
          exact Or.inr ⟨ch :: front, back, rfl, ⟨ends, one⟩, plain⟩

theorem separated_of_blank (blank : Blank text) : Separated text :=
  fun ahead isHead => Or.inr (blank ahead (List.mem_of_mem_head? isHead))

theorem oneStatement_blank_append (blank : Blank front) :
    OneStatement .plain (front ++ text) ↔ OneStatement .plain text := by
  induction front with
  | nil => rfl
  | cons ch front ih =>
      rw [blank_cons] at blank
      rw [List.cons_append, OneStatement, next_plain_blank blank.1, ih blank.2]
      refine and_iff_right ?_
      rintro ⟨-, rfl⟩
      exact absurd blank.1 (by decide)

theorem readingAfter_blank_append (blank : Blank front) :
    readingAfter .plain (front ++ text) = readingAfter .plain text := by
  induction front with
  | nil => rfl
  | cons ch front ih =>
      rw [blank_cons] at blank
      rw [List.cons_append, readingAfter, next_plain_blank blank.1, ih blank.2]

theorem oneStatement_trim (one : OneStatement .plain text) :
    OneStatement .plain (trim text) := by
  have quotes : QuotesOnly .plain := trivial
  rcases trim_shape text with ⟨before, after, shape, blank, blankAfter⟩
  rw [shape, oneStatement_blank_append blank,
    oneStatement_seam quotes (separated_of_blank blankAfter).seam] at one
  exact one.1

/-! ## What a line break closes -/

theorem blank_newline : Blank ['\n'] :=
  blank_cons.mpr ⟨by decide, blank_nil⟩

/-- Nothing is half read: not the second one of two characters comes next. -/
def Settled : Reading → Prop
  | .plain | .quoted _ | .line | .block => True
  | _ => False

theorem settled_next (reading : Reading) (ch : Char) :
    Settled (reading.next true ch []) := by
  cases reading with
  | plain =>
      simp only [Reading.next, List.head?_nil, reduceCtorEq, and_false, if_false]
      split_ifs <;> trivial
  | quoted quote =>
      simp only [Reading.next, List.head?_nil, reduceCtorEq, if_false]
      split_ifs <;> trivial
  | quotePair quote => trivial
  | lineOpening => trivial
  | line =>
      rw [Reading.next]
      split_ifs <;> trivial
  | blockOpening => trivial
  | block =>
      simp only [Reading.next, List.head?_nil, reduceCtorEq, and_false, if_false]
      trivial
  | blockClosing => trivial

/-- A text that is read to its end leaves nothing half read. -/
theorem settled_readingAfter (nonempty : text ≠ []) :
    Settled (readingAfter reading text) := by
  induction text generalizing reading with
  | nil => exact absurd rfl nonempty
  | cons ch rest ih =>
      cases rest with
      | nil => exact settled_next reading ch
      | cons next rest => exact ih (List.cons_ne_nil _ _)

theorem readingAfter_blank (blank : Blank text)
    (stays : ∀ ch, isWhitespace ch → ∀ rest,
      reading.next true ch rest = reading) :
    readingAfter reading text = reading := by
  induction text with
  | nil => rfl
  | cons ch rest ih =>
      rw [blank_cons] at blank
      rw [readingAfter, stays ch blank.1, ih blank.2]

/-- White space keeps quotes and block comments open. -/
theorem closed_of_blank (settled : Settled reading) (quotes : QuotesOnly reading)
    (blank : Blank text) (closed : readingAfter reading text = .plain) :
    readingAfter reading ['\n'] = .plain := by
  cases reading with
  | plain => rfl
  | quoted quote =>
      rw [readingAfter_blank blank] at closed
      · cases closed
      · intro ch white rest
        have other := not_quote_of_blank white
        rw [Reading.next, if_neg]
        rintro rfl
        exact not_or.mpr other quotes
  | line => rfl
  | block =>
      rw [readingAfter_blank blank] at closed
      · cases closed
      · intro ch white rest
        rw [Reading.next, if_neg]
        rintro ⟨rfl, -⟩
        exact absurd white (by decide)
  | quotePair | lineOpening | blockOpening | blockClosing => cases settled

/-- A statement that ends with nothing open is closed by a line break. -/
theorem closes_trim (solid : trim text ≠ [])
    (closed : readingAfter .plain text = .plain) : Closes (trim text) := by
  have quotes : QuotesOnly .plain := trivial
  rcases trim_shape text with ⟨before, after, shape, blank, blankAfter⟩
  rw [shape, readingAfter_blank_append blank,
    readingAfter_seam quotes (separated_of_blank blankAfter).seam] at closed
  rw [Closes,
    readingAfter_seam quotes (separated_of_blank blank_newline).seam]
  exact
    closed_of_blank (settled_readingAfter solid)
      (quotesOnly_readingAfter _ quotes) blankAfter closed

end

/-! ## Splitting -/

variable {text : List Char}

theorem keepStatement_one (one : OneStatement .plain text)
    (statements : List (List Char)) :
    keepStatement text statements = statements ∨
      IsStatement (trim text) ∧
        keepStatement text statements = trim text :: statements := by
  rw [keepStatement]
  by_cases empty : (trim text).isEmpty
  · exact Or.inl (if_pos empty)
  · refine Or.inr ⟨⟨?_, trimmed_trim text, oneStatement_trim one⟩, if_neg empty⟩
    rwa [List.isEmpty_iff] at empty

/-- What the splitter returns is a script. -/
theorem isScript_split (sql : List Char) : IsScript (splitSqlStatements sql) := by
  induction length : sql.length using Nat.strong_induction_on generalizing sql with
  | _ size ih =>
      have quotes : QuotesOnly .plain := trivial
      rcases oneStatement_or_separator quotes sql with
        one | ⟨front, back, rfl, one, closed⟩
      · rw [splitSqlStatements, splitLoop_one one, List.nil_append]
        rcases keepStatement_one one [] with none | ⟨isStatement, kept⟩
        · rw [none]
          trivial
        · rw [kept]
          exact isStatement
      · have shorter := ih back.length (by simp [← length]; omega) back rfl
        have separated : Separated (';' :: back) := by
          rintro ahead ⟨⟩
          exact Or.inl rfl
        rw [splitSqlStatements, splitLoop_append quotes one separated, closed,
          splitLoop, if_pos ⟨rfl, rfl⟩, List.nil_append]
        rcases keepStatement_one one (splitLoop .plain [] back) with
          none | ⟨isStatement, kept⟩
        · rw [none]
          exact shorter
        · rw [kept]
          change IsScript (splitLoop .plain [] back) at shorter
          cases pieces : splitLoop .plain [] back with
          | nil => exact isStatement
          | cons second others =>
              rw [pieces] at shorter
              exact ⟨isStatement, closes_trim isStatement.nonempty closed, shorter⟩

theorem IsStatement.not_blank (isStatement : IsStatement text) :
    ¬ Blank text := by
  intro blank
  apply isStatement.nonempty
  rw [← trim_of_trimmed isStatement.trimmed, trim, trimStart_of_blank blank]
  rfl

theorem IsStatement.split (isStatement : IsStatement text) :
    splitSqlStatements text = [text] := by
  rw [splitSqlStatements, splitLoop_one isStatement.one, List.nil_append,
    keepStatement, trim_of_trimmed isStatement.trimmed, if_neg]
  rw [List.isEmpty_iff]
  exact isStatement.nonempty

/-- A script is split into its statements. -/
theorem IsScript.split {statements : List (List Char)}
    (isScript : IsScript statements) :
    splitSqlStatements (script statements) = statements := by
  induction statements with
  | nil => rfl
  | cons text rest ih =>
      cases rest with
      | nil =>
          rw [script, List.intercalate_singleton]
          exact IsStatement.split isScript
      | cons second others =>
          rcases isScript with ⟨isStatement, closes, isScript⟩
          have quotes : QuotesOnly .plain := trivial
          have separated : Separated (';' :: script (second :: others)) := by
            rintro ahead ⟨⟩
            exact Or.inl rfl
          have one : OneStatement .plain (text ++ ['\n']) :=
            (oneStatement_seam quotes
              (separated_of_blank blank_newline).seam).mpr
              ⟨isStatement.one, oneStatement_blank blank_newline⟩
          have solid : ¬ Blank (text ++ ['\n']) := fun blank =>
            isStatement.not_blank (blank_append.mp blank).1
          have whole : trim (text ++ ['\n']) = text :=
            @trim_surrounded [] _ _ blank_nil blank_newline isStatement.trimmed
          have shape :
              script (text :: second :: others) =
                (text ++ ['\n']) ++ ';' :: script (second :: others) := by
            simp [script, List.intercalate]
          rw [shape, splitSqlStatements, splitLoop_append quotes one separated,
            closes, splitLoop, if_pos ⟨rfl, rfl⟩, List.nil_append,
            keepStatement_solid solid, whole]
          exact congrArg (text :: ·) (ih isScript)

/-! ## Leading comments -/

/-- Enough rounds take every comment off. -/
theorem uncommented_nil : Uncommented [] where
  solid := stops_nil
  noLine rest := (List.cons_ne_nil _ _).symm
  noBlock rest slash := by cases slash

theorem uncommented_stripLoop {fuel : Nat} {text result : List Char}
    (solid : Stops isWhitespace text) (enough : text.length ≤ fuel)
    (ran : stripLoop fuel text = some result) : Uncommented result := by
  induction fuel generalizing text with
  | zero =>
      rw [stripLoop, Option.some.injEq] at ran
      rw [← ran, List.length_eq_zero_iff.mp (Nat.le_zero.mp enough)]
      exact uncommented_nil
  | succ fuel ih =>
      rw [stripLoop.eq_def] at ran
      dsimp only at ran
      split at ran
      · rename_i rest
        split at ran
        · rename_i stop found
          rcases Option.bind_eq_some_iff.mp ran with ⟨after, sliced, later⟩
          have shorter := sliceFrom_length_le sliced
          have trimmed := trimStart_length_le after
          rw [List.length_cons, List.length_cons] at enough
          have enoughToo : (trimStart after).length ≤ fuel := by omega
          exact ih (stops_dropWhile after) enoughToo later
        · rename_i unended
          rw [Option.some.injEq] at ran
          rw [← ran]
          refine ⟨solid, fun rest dashes => (by cases dashes), ?_⟩
          rintro _ ⟨⟩
          exact find_eq_none_iff.mp unended
      · rename_i rest
        split at ran
        · rename_i stop found
          rcases Option.bind_eq_some_iff.mp ran with ⟨after, sliced, later⟩
          have shorter := sliceFrom_length_le sliced
          have trimmed := trimStart_length_le after
          rw [List.length_cons, List.length_cons] at enough
          have enoughToo : (trimStart after).length ≤ fuel := by omega
          exact ih (stops_dropWhile after) enoughToo later
        · rw [Option.some.injEq] at ran
          rw [← ran]
          exact uncommented_nil
      · rename_i noBlock noLine
        rw [Option.some.injEq] at ran
        rw [← ran]
        exact
          ⟨solid, fun rest => noLine rest, fun rest shape =>
            absurd shape (noBlock rest)⟩

theorem uncommented_stripped (sql : List Char) : Uncommented (stripped sql) :=
  uncommented_stripLoop (stops_dropWhile sql) (trimStart_length_le sql)
    (stripLeadingSqlComments_eq sql)

theorem Uncommented.stripped (uncommented : Uncommented text) :
    stripped text = text := by
  have solid : trimStart text = text := trimStart_of_stops uncommented.solid
  apply @stripped_unique _ _ text.length (trimStart_length_le text)
  rw [solid]
  cases length : text.length with
  | zero => rfl
  | succ fuel =>
      rw [stripLoop.eq_def]
      dsimp only
      split
      · rename_i rest
        rw [find_eq_none_iff.mpr (uncommented.noBlock rest rfl)]
      · rename_i rest
        exact absurd rfl (uncommented.noLine rest)
      · rfl

theorem stripped_suffix (sql : List Char) : stripped sql <:+ sql := by
  apply @stripped_induct (· <:+ sql)
  · exact fun text suffix => (List.dropWhile_suffix _).trans suffix
  · intro rest stop after found sliced suffix
    rcases sliceFrom_eq_some_iff.mp sliced with ⟨before, rfl, -⟩
    exact List.IsSuffix.trans ⟨'/' :: '*' :: before, rfl⟩ suffix
  · intro rest stop after found sliced suffix
    rcases sliceFrom_eq_some_iff.mp sliced with ⟨before, rfl, -⟩
    exact List.IsSuffix.trans ⟨'-' :: '-' :: before, rfl⟩ suffix
  · exact fun rest unended suffix => List.nil_suffix
  · exact List.suffix_refl sql

/-! ## The laws -/

theorem IsScript.isStatement {statements : List (List Char)}
    (isScript : IsScript statements) {statement : List Char}
    (member : statement ∈ statements) : IsStatement statement := by
  induction statements with
  | nil => cases member
  | cons text rest ih =>
      cases rest with
      | nil =>
          rw [List.mem_singleton.mp member]
          exact isScript
      | cons second others =>
          rcases isScript with ⟨isStatement, closes, isScript⟩
          rcases List.mem_cons.mp member with rfl | later
          · exact isStatement
          · exact ih isScript later

/--
The splitter and the skipping of comments in front: each statement is a
trimmed text that is one statement, the script of the statements has the same
statements, and what is left behind the comments is a solid end of the text of
which nothing more is skipped.
-/
theorem statementLaws (sql : List Char) :
    (∀ statement ∈ splitSqlStatements sql,
      statement ≠ [] ∧ Trimmed statement ∧ OneStatement .plain statement ∧
        splitSqlStatements statement = [statement]) ∧
    splitSqlStatements (script (splitSqlStatements sql)) =
      splitSqlStatements sql ∧
    ∃ rest, stripLeadingSqlComments sql = some rest ∧ rest <:+ sql ∧
      Uncommented rest ∧ stripLeadingSqlComments rest = some rest := by
  have isScript := isScript_split sql
  refine ⟨?_, isScript.split, ?_⟩
  · intro statement member
    have isStatement := isScript.isStatement member
    exact
      ⟨isStatement.nonempty, isStatement.trimmed, isStatement.one,
        isStatement.split⟩
  · have uncommented := uncommented_stripped sql
    refine
      ⟨stripped sql, stripLeadingSqlComments_eq sql, stripped_suffix sql,
        uncommented, ?_⟩
    rw [stripLeadingSqlComments_eq, uncommented.stripped]

end OpenSnow.Core.Commands
