import OpenSnow.Core.CreateTableAs
import OpenSnow.Foundation.Effect
import OpenSnow.Ingest.Registration
import OpenSnow.Rust.Json
import OpenSnow.Sql.Literals

/-!
# The values that the ingest route writes

A lexer that undoes the doubling of quotes reads the cells of a row back from
the literals that they were written as, and no statement ends inside of them.
-/

namespace OpenSnow.Server.Rest

open Core.Commands
open Foundation
open Ingest.Registration (isValidIdent)
open Rust.Json
open Rust.Text
open Sql (Reading isWordChar isWordStart)
open Sql.Literals

structure IngestRequest where
  table : String
  columns : List String
  rows : List (List Value)
  replace : Bool := false
  /-- A number is written in the grammar of JSON. -/
  numbers : ∀ row ∈ rows, ∀ text, Value.number text ∈ row →
    IsNumber text.toList

/-- What `/api/v1/ingest` answers. -/
inductive IngestResponse where
  | ok (table : String) (rowsIngested : Nat)
  | error (message : String)
deriving DecidableEq, Repr

/-- `str::replace` of a character. -/
def replaceChar (text : String) (pattern : Char) (new : String) :
    String :=
  String.ofList
    (text.toList.flatMap fun ch => if ch = pattern then new.toList else [ch])

/-- Render a JSON scalar as a SQL literal. -/
def jsonToSqlLiteral : Value → Except String String
  | .null => .ok "NULL"
  | .bool value => .ok (if value then "TRUE" else "FALSE")
  | .number text => .ok text
  | .string text => .ok ("'" ++ replaceChar text '\'' "''" ++ "'")
  | _ => .error "only scalar values are supported in ingest rows"

/-- The cells of a row, up to the first that is no scalar. -/
def rowLiteral (row : List Value) : Except String String :=
  (row.mapM jsonToSqlLiteral).map fun cells =>
    "(" ++ ", ".intercalate cells ++ ")"

namespace IngestRequest

/-- The checks before a cell is looked at. -/
def check (req : IngestRequest) : Except String Unit :=
  if !isValidIdent req.table then .error "invalid table name"
  else if req.columns.isEmpty then .error "columns must be non-empty"
  else
    match req.columns.find? (!isValidIdent ·) with
    | some column => .error ("invalid column: " ++ column)
    | none =>
        if req.rows.isEmpty then .error "rows must be non-empty"
        else if req.rows.any (·.length != req.columns.length) then
          .error "row length mismatch"
        else .ok ()

/-- The rows as SQL, if the request passes all checks. -/
def rowLiterals (req : IngestRequest) : Except String (List String) :=
  req.check.bind fun () => req.rows.mapM rowLiteral

def dropSql (req : IngestRequest) : String :=
  "DROP TABLE IF EXISTS " ++ req.table

def columnList (req : IngestRequest) : String :=
  ", ".intercalate req.columns

def createSql (req : IngestRequest) (rowLiterals : List String) : String :=
  "CREATE TABLE " ++ req.table ++ " AS SELECT * FROM (VALUES " ++
    ", ".intercalate rowLiterals ++ ") AS t(" ++ req.columnList ++ ")"

end IngestRequest

variable {State Batches : Type}

/--
The route on an engine.  Whether the `DROP TABLE` fails is not looked at.
-/
def ingest (executeSql : String → Effect State String Batches)
    (req : IngestRequest) (state : State) : IngestResponse × State :=
  match req.rowLiterals with
  | .error message => (.error message, state)
  | .ok rowLiterals =>
      let cleared :=
        if req.replace then (executeSql req.dropSql state).2 else state
      match executeSql (req.createSql rowLiterals) cleared with
      | (.ok _, after) => (.ok req.table req.rows.length, after)
      | (.error message, after) => (.error message, after)

/-! ## The values that the ingest route writes -/

/-! ### Reading a block of values -/

/-- The scalar that a few lexemes stand for. -/
def decodeCell : List Lexeme → Option Value
  | [.word text] =>
      if text.map Char.toUpper = "NULL".toList then some .null
      else if text.map Char.toUpper = "TRUE".toList then some (.bool true)
      else if text.map Char.toUpper = "FALSE".toList then some (.bool false)
      else none
  | [.number text] => some (.number (String.ofList text))
  | [.symbol '-', .number text] =>
      some (.number (String.ofList ('-' :: text)))
  | [.text chars] => some (.string (String.ofList chars))
  | _ => none

/-- Where a reader stands in a block of values. -/
inductive Place where
  /-- A row comes next. -/
  | opening
  /-- Inside a row: its cells so far, and the lexemes of the one under way. -/
  | cell (row : List Value) (current : List Lexeme)
  /-- Behind a row. -/
  | closed

/-- The rows of `(…, …), (…, …)`. -/
def readRows : Place → List Lexeme → Option (List (List Value))
  | .opening, .symbol '(' :: rest => readRows (.cell [] []) rest
  | .cell row current, .symbol ',' :: rest =>
      (decodeCell current).bind fun value =>
        readRows (.cell (row ++ [value]) []) rest
  | .cell row current, .symbol ')' :: rest =>
      (decodeCell current).bind fun value =>
        (readRows .closed rest).map ((row ++ [value]) :: ·)
  | .cell row current, lexeme :: rest =>
      readRows (.cell row (current ++ [lexeme])) rest
  | .closed, [] => some []
  | .closed, .symbol ',' :: rest => readRows .opening rest
  | _, _ => none

/-- A lexeme that does not end a cell. -/
def Inner (lexeme : Lexeme) : Prop :=
  lexeme ≠ .symbol ',' ∧ lexeme ≠ .symbol ')'

theorem readRows_inner {row : List Value} {current : List Lexeme}
    {lexeme : Lexeme} (inner : Inner lexeme) (rest : List Lexeme) :
    readRows (.cell row current) (lexeme :: rest) =
      readRows (.cell row (current ++ [lexeme])) rest := by
  rw [readRows]
  · exact inner.1
  · exact inner.2

theorem readRows_cell {row : List Value} {current cell : List Lexeme}
    (inner : ∀ lexeme ∈ cell, Inner lexeme) (rest : List Lexeme) :
    readRows (.cell row current) (cell ++ rest) =
      readRows (.cell row (current ++ cell)) rest := by
  induction cell generalizing current with
  | nil => rw [List.nil_append, List.append_nil]
  | cons lexeme cell ih =>
      rw [List.cons_append, readRows_inner (inner lexeme List.mem_cons_self),
        ih fun other member => inner other (List.mem_cons_of_mem lexeme member),
        List.append_assoc]
      rfl

/-! ### Texts that end no statement -/

/-- No statement ends in a text if none ends in what follows it. -/
def Quiet (text : List Char) : Prop :=
  ∀ rest, OneStatement .plain rest → OneStatement .plain (text ++ rest)

/-- The text is quiet before one of these characters. -/
def QuietBefore (stops text : List Char) : Prop :=
  ∀ ch ∈ stops, ∀ rest, OneStatement .plain (ch :: rest) →
    OneStatement .plain (text ++ ch :: rest)

/-- The character opens nothing and ends no statement. -/
def isQuiet (ch : Char) : Bool :=
  ch ∉ ['\'', '"', ';', '-', '/']

variable {ch : Char} {rest : List Char}

theorem oneStatement_quiet (quiet : isQuiet ch)
    (one : OneStatement .plain rest) : OneStatement .plain (ch :: rest) := by
  simp only [isQuiet, List.mem_cons, List.not_mem_nil, or_false, not_or,
    decide_eq_true_eq] at quiet
  rcases quiet with ⟨notSingle, notDouble, notEnd, notDash, notSlash⟩
  have stays : Reading.plain.next true ch rest = .plain := by
    simp [Reading.next, notSingle, notDouble, notDash, notSlash]
  exact ⟨fun ends => notEnd ends.2, by rwa [stays]⟩

variable {text : List Char}

theorem quiet_of_all (quiet : ∀ ch ∈ text, isQuiet ch) :
    Quiet text := by
  intro rest one
  induction text with
  | nil => exact one
  | cons ch text ih =>
      exact
        oneStatement_quiet (quiet ch List.mem_cons_self)
          (ih fun other member => quiet other (List.mem_cons_of_mem ch member))

theorem Quiet.append {front back : List Char} (quiet : Quiet front)
    (quietNext : Quiet back) : Quiet (front ++ back) := by
  intro rest one
  rw [List.append_assoc]
  exact quiet _ (quietNext rest one)

theorem QuietBefore.cons {stops text back : List Char} {ch : Char}
    (quiet : QuietBefore stops text) (member : ch ∈ stops)
    (quietNext : Quiet (ch :: back)) : Quiet (text ++ ch :: back) := by
  intro rest one
  rw [List.append_assoc, List.cons_append]
  exact quiet ch member _ (quietNext rest one)

/-- A `-` that another character follows. -/
theorem oneStatement_dash (other : ch ≠ '-')
    (one : OneStatement .plain (ch :: rest)) :
    OneStatement .plain ('-' :: ch :: rest) := by
  have stays : Reading.plain.next true '-' (ch :: rest) = .plain := by
    simp [Reading.next, other]
  exact ⟨by simp, by rwa [stays]⟩

theorem oneStatement_doubled {quote : Char} (chars : List Char)
    (one : OneStatement (.quoted quote) (quote :: rest)) :
    OneStatement (.quoted quote) (doubled quote chars ++ quote :: rest) := by
  induction chars with
  | nil => exact one
  | cons ch chars ih =>
      rw [doubled, List.flatMap_cons, List.append_assoc, ← doubled]
      by_cases isQuote : ch = quote
      · subst isQuote
        rw [if_pos rfl, List.cons_append, List.singleton_append]
        have pair :
            Reading.next true (.quoted ch) ch
                (ch :: (doubled ch chars ++ ch :: rest)) = .quotePair ch := by
          simp [Reading.next]
        refine ⟨by simp, ?_⟩
        rw [pair]
        exact ⟨by simp, ih⟩
      · rw [if_neg isQuote, List.singleton_append]
        have stays :
            Reading.next true (.quoted quote) ch
                (doubled quote chars ++ quote :: rest) = .quoted quote := by
          simp [Reading.next, isQuote]
        refine ⟨by simp, ?_⟩
        rw [stays]
        exact ih

theorem oneStatement_quoted (chars : List Char) (other : ch ≠ '\'')
    (one : OneStatement .plain (ch :: rest)) :
    OneStatement .plain
      ('\'' :: (doubled '\'' chars ++ '\'' :: ch :: rest)) := by
  have opens :
      Reading.plain.next true '\''
          (doubled '\'' chars ++ '\'' :: ch :: rest) = .quoted '\'' := by
    simp [Reading.next]
  have closes :
      Reading.next true (.quoted '\'') '\'' (ch :: rest) = .plain := by
    simp [Reading.next, other]
  refine ⟨by simp, ?_⟩
  rw [opens]
  apply oneStatement_doubled
  exact ⟨by simp, by rwa [closes]⟩

/-! ### Numbers -/

/-- What ends a cell in a row. -/
def cellEnds : List Char := [',', ')']

theorem isNumberChar_cellEnd (member : ch ∈ cellEnds)
    (text : List Char) : isNumberChar text ch = false := by
  rcases List.mem_pair.mp member with rfl | rfl <;> rfl

theorem isPlainNumberChar_of_digit (digit : ch.isDigit) :
    isPlainNumberChar ch := by
  rw [isPlainNumberChar, digit]
  rfl

theorem isQuiet_of_number (plain : isPlainNumberChar ch) :
    isQuiet ch := by
  simp only [isQuiet, List.mem_cons, List.not_mem_nil, or_false, not_or,
    decide_eq_true_eq]
  refine ⟨?_, ?_, ?_, ?_, ?_⟩ <;> rintro rfl <;> revert plain <;> decide

/--
The digits of a number in two runs, between which there can be the sign of its
exponent.
-/
structure NumberRuns (text : List Char) : Prop where
  runs : ∃ first front plus back, text = first :: (front ++ (plus ++ back)) ∧
    first.isDigit ∧ (∀ ch ∈ front, isPlainNumberChar ch) ∧
    (∀ ch ∈ back, isPlainNumberChar ch) ∧
    (plus = [] ∨ ∃ before mark sign later digits,
      front = before ++ [mark] ∧ (mark = 'e' ∨ mark = 'E') ∧ plus = [sign] ∧
        (sign = '+' ∨ sign = '-') ∧ back = later :: digits ∧ later ≠ '-')

theorem isPlainNumberChar_of_fraction {fraction : List Char}
    (isFraction : fraction = [] ∨
      ∃ digits, fraction = '.' :: digits ∧ IsDigits digits) :
    ∀ ch ∈ fraction, isPlainNumberChar ch := by
  rcases isFraction with rfl | ⟨places, rfl, -, isDigits⟩
  · simp
  · intro ch member
    rcases List.mem_cons.mp member with rfl | member
    · decide
    · exact isPlainNumberChar_of_digit (isDigits ch member)

/-- An exponent goes on in the first run up to its sign. -/
theorem numberRuns_exponent {first : Char} {front exponent : List Char}
    (isFirst : first.isDigit) (isFront : ∀ ch ∈ front, isPlainNumberChar ch)
    (isExponent : exponent = [] ∨ ∃ mark plus digits,
      exponent = mark :: (plus ++ digits) ∧ (mark = 'e' ∨ mark = 'E') ∧
        (plus = [] ∨ plus = ['+'] ∨ plus = ['-']) ∧ IsDigits digits) :
    NumberRuns (first :: (front ++ exponent)) := by
  rcases isExponent with
    rfl | ⟨mark, plus, powers, rfl, isMark, isPlus, nonempty, isDigits⟩
  · exact
      ⟨first, front, [], [], by simp, isFirst, isFront, by simp, Or.inl rfl⟩
  · have markPlain : isPlainNumberChar mark := by
      rcases isMark with rfl | rfl <;> decide
    have frontPlain : ∀ ch ∈ front ++ [mark], isPlainNumberChar ch := by
      intro ch member
      rcases List.mem_append.mp member with member | member
      · exact isFront ch member
      · rw [List.mem_singleton.mp member]
        exact markPlain
    refine
      ⟨first, front ++ [mark], plus, powers, by simp, isFirst, frontPlain,
        fun ch member => isPlainNumberChar_of_digit (isDigits ch member), ?_⟩
    cases powers with
    | nil => exact absurd rfl nonempty
    | cons later powers =>
        have notDash : later ≠ '-' := by
          rintro rfl
          have digit := isDigits '-' List.mem_cons_self
          revert digit
          decide
        rcases isPlus with rfl | rfl | rfl
        · exact Or.inl rfl
        · exact
            Or.inr ⟨_, mark, '+', later, powers, rfl, isMark, rfl,
              Or.inl rfl, rfl, notDash⟩
        · exact
            Or.inr ⟨_, mark, '-', later, powers, rfl, isMark, rfl,
              Or.inr rfl, rfl, notDash⟩

theorem numberRuns_of_isNumber (number : IsNumber text) :
    NumberRuns text ∨ ∃ digits, text = '-' :: digits ∧ NumberRuns digits := by
  rcases number with
    ⟨sign, whole, fraction, exponent, rfl, isSign, ⟨some, digits⟩, isFraction,
      isExponent⟩
  have runs : NumberRuns (whole ++ (fraction ++ exponent)) := by
    cases whole with
    | nil => exact absurd rfl some
    | cons first whole =>
        have frontPlain :
            ∀ ch ∈ whole ++ fraction, isPlainNumberChar ch := by
          intro ch member
          rcases List.mem_append.mp member with member | member
          · exact
              isPlainNumberChar_of_digit
                (digits ch (List.mem_cons_of_mem first member))
          · exact isPlainNumberChar_of_fraction isFraction ch member
        rw [List.cons_append, ← List.append_assoc]
        exact
          numberRuns_exponent (digits first List.mem_cons_self) frontPlain
            isExponent
  rcases isSign with rfl | rfl
  · exact Or.inl runs
  · exact Or.inr ⟨_, rfl, runs⟩

theorem NumberRuns.reads (number : NumberRuns text) :
    ReadsBefore cellEnds text [.number text] := by
  rcases number with
    ⟨first, front, plus, back, rfl, digit, isFront, isBack, isPlus⟩
  intro ch member rest
  have opened :
      lexemes (first :: (front ++ (plus ++ back)) ++ ch :: rest) =
        lexFrom (.number [first]) (front ++ (plus ++ (back ++ ch :: rest))) := by
    rw [lexemes, List.cons_append, lexFrom, Scan.step, opening_digit digit,
      List.nil_append]
    simp only [List.append_assoc]
  have passed :
      lexFrom (.number ([first] ++ front)) (plus ++ (back ++ ch :: rest)) =
        lexFrom (.number ([first] ++ front ++ plus)) (back ++ ch :: rest) := by
    rcases isPlus with rfl | ⟨before, mark, sign, -, -, rfl, isMark, rfl, isSign, -⟩
    · rw [List.nil_append, List.append_nil]
    · rw [← List.append_assoc]
      exact lexFrom_exponentSign isMark isSign _
  rw [opened, lexFrom_numberRun [first] isFront, passed,
    lexFrom_numberRun _ isBack,
    lexFrom_numberEnd (isNumberChar_cellEnd member _)]
  simp

theorem NumberRuns.quiet (number : NumberRuns text) :
    QuietBefore cellEnds text := by
  rcases number with
    ⟨first, front, plus, back, rfl, digit, isFront, isBack, isPlus⟩
  intro ch _ rest one
  have behind : OneStatement .plain (back ++ ch :: rest) :=
    quiet_of_all (fun other inside => isQuiet_of_number (isBack other inside))
      _ one
  have signed : OneStatement .plain (plus ++ (back ++ ch :: rest)) := by
    rcases isPlus with
      rfl | ⟨before, mark, sign, later, digits, rfl, -, rfl, isSign, rfl, notDash⟩
    · exact behind
    · rcases isSign with rfl | rfl
      · exact oneStatement_quiet (by decide) behind
      · exact oneStatement_dash notDash behind
  have whole : ∀ other ∈ first :: front, isQuiet other := by
    intro other inside
    rcases List.mem_cons.mp inside with rfl | inside
    · exact isQuiet_of_number (isPlainNumberChar_of_digit digit)
    · exact isQuiet_of_number (isFront other inside)
  have started := quiet_of_all whole _ signed
  simpa only [List.cons_append, List.append_assoc] using started

theorem NumberRuns.head (number : NumberRuns text) (rest : List Char) :
    ∃ first more, text ++ rest = first :: more ∧ first ≠ '-' := by
  rcases number with ⟨first, front, plus, back, rfl, digit, -⟩
  refine ⟨first, _, rfl, ?_⟩
  rintro rfl
  revert digit
  decide

/-! ### Cells -/

/-- The text of a cell is quiet, and read and decoded as the cell. -/
structure ReadsCell (text : List Char) (cell : Value) : Prop where
  quiet : QuietBefore cellEnds text
  reads : ∃ read, ReadsBefore cellEnds text read ∧
    (∀ lexeme ∈ read, Inner lexeme) ∧ decodeCell read = some cell

theorem NumberRuns.readsCell (number : NumberRuns text) :
    ReadsCell text (.number (String.ofList text)) :=
  ⟨number.quiet, [.number text], number.reads, by simp [Inner], rfl⟩

theorem NumberRuns.readsNegative {digits : List Char}
    (number : NumberRuns digits) :
    ReadsCell ('-' :: digits) (.number (String.ofList ('-' :: digits))) := by
  refine ⟨?_, [.symbol '-', .number digits], ?_, by simp [Inner], rfl⟩
  · intro ch member rest one
    have behind := number.quiet ch member rest one
    rcases number.head (ch :: rest) with ⟨first, more, shape, notDash⟩
    rw [shape] at behind
    rw [List.cons_append, shape]
    exact oneStatement_dash notDash behind
  · intro ch member rest
    have behind := number.reads ch member rest
    rcases number.head (ch :: rest) with ⟨first, more, shape, notDash⟩
    have opens : opening '-' = (.dash, []) := by decide
    rw [shape] at behind
    rw [List.cons_append, shape, lexemes, lexFrom, Scan.step, opens,
      List.nil_append, lexFrom, Scan.step, if_neg notDash]
    exact congrArg (Lexeme.symbol '-' :: ·) behind

theorem readsCell_number (number : IsNumber text) :
    ReadsCell text (.number (String.ofList text)) := by
  rcases numberRuns_of_isNumber number with runs | ⟨digits, rfl, runs⟩
  · exact runs.readsCell
  · exact runs.readsNegative

variable {cell : Value}

/-- A keyword is read as the scalar that it stands for. -/
theorem readsCell_word {first : Char} {run : List Char}
    (starts : isWordStart first) (notBlank : first.isWhitespace = false)
    (isRun : ∀ ch ∈ run, isWordChar ch) (quiet : ∀ ch ∈ first :: run, isQuiet ch)
    (decodes : decodeCell [.word (first :: run)] = some cell) :
    ReadsCell (first :: run) cell := by
  refine ⟨?_, [.word (first :: run)], ?_, by simp [Inner], decodes⟩
  · intro ch _ rest one
    exact quiet_of_all quiet _ one
  · intro ch member rest
    have stops : Stops isWordChar (ch :: rest) := by
      rcases List.mem_pair.mp member with rfl | rfl <;>
        exact stops_cons.mpr (by decide)
    rw [List.cons_append]
    exact lexemes_word starts notBlank isRun stops

theorem readsCell_text (chars : List Char) :
    ReadsCell ('\'' :: (doubled '\'' chars ++ ['\'']))
      (.string (String.ofList chars)) := by
  have apart : ∀ ch ∈ cellEnds, ch ≠ '\'' := by
    rintro ch member rfl
    revert member
    decide
  refine ⟨?_, [.text chars], ?_, by simp [Inner], rfl⟩
  · intro ch member rest one
    have quoted := oneStatement_quoted chars (apart ch member) one
    simpa using quoted
  · intro ch member rest
    have read := lexemes_quoted chars (apart ch member) rest
    simpa using read

/-- Every literal is read back as the scalar that it was made of. -/
theorem readsCell_of_literal {literal : String}
    (written : jsonToSqlLiteral cell = .ok literal)
    (isNumber : ∀ text, cell = .number text → IsNumber text.toList) :
    ReadsCell literal.toList cell := by
  cases cell with
  | null =>
      cases written
      exact
        readsCell_word (by decide) (by decide)
          (List.all_eq_true.mp (by decide)) (List.all_eq_true.mp (by decide))
          rfl
  | bool value =>
      cases written
      cases value <;>
        exact
          readsCell_word (by decide) (by decide)
            (List.all_eq_true.mp (by decide))
            (List.all_eq_true.mp (by decide)) rfl
  | number text =>
      cases written
      have reads := readsCell_number (isNumber literal rfl)
      rwa [String.ofList_toList] at reads
  | string text =>
      cases written
      have reads := readsCell_text text.toList
      rw [String.ofList_toList] at reads
      have shape :
          ("'" ++ replaceChar text '\'' "''" ++ "'").toList =
            '\'' :: (doubled '\'' text.toList ++ ['\'']) := by
        simp [replaceChar, doubled]
      rwa [shape]
  | array items => cases written
  | object fields => cases written

/-! ### Rows -/

/-- A comma and a blank, which stand between cells and between rows. -/
def comma : List Char := [',', ' ']

theorem readsAs_comma : ReadsAs comma [.symbol ','] :=
  readsAs_cons (by decide : opening ',' = (.plain, [.symbol ',']))
    (readsAs_single (by decide : opening ' ' = (.plain, [])))

theorem quiet_comma : Quiet comma :=
  quiet_of_all (List.all_eq_true.mp (by decide))

/-- The rest of a row, from the beginning of a cell. -/
structure ReadsCells (text : List Char) (cells : List Value) : Prop where
  quiet : Quiet text
  reads : ∃ read, ReadsAs text read ∧ ∀ row rest,
    readRows (.cell row []) (read ++ rest) =
      (readRows .closed rest).map ((row ++ cells) :: ·)

theorem ReadsCell.last
    (reads : ReadsCell text cell) : ReadsCells (text ++ [')']) [cell] := by
  rcases reads with ⟨quiet, read, isRead, inner, decodes⟩
  have close : opening ')' = (.plain, [.symbol ')']) := by decide
  have quietClose : Quiet [')'] :=
    quiet_of_all (List.all_eq_true.mp (by decide))
  refine
    ⟨quiet.cons (by simp [cellEnds]) quietClose, read ++ [.symbol ')'],
      isRead.cons (by simp [cellEnds]) (readsAs_single close), ?_⟩
  intro row rest
  rw [List.append_assoc, readRows_cell inner, List.nil_append,
    List.singleton_append, readRows, decodes]
  rfl

variable {cells : List Value}

theorem ReadsCell.more {text back : List Char} (reads : ReadsCell text cell)
    (others : ReadsCells back cells) :
    ReadsCells (text ++ (comma ++ back)) (cell :: cells) := by
  rcases reads with ⟨quiet, read, isRead, inner, decodes⟩
  rcases others with ⟨quietBack, later, isLater, rows⟩
  have goesOn : ReadsAs (',' :: ' ' :: back) ([.symbol ','] ++ later) :=
    readsAs_comma.append isLater
  have readsMore := isRead.cons (by simp [cellEnds]) goesOn
  refine
    ⟨quiet.cons (by simp [cellEnds]) (quiet_comma.append quietBack), _,
      readsMore, ?_⟩
  intro row rest
  rw [List.append_assoc, List.append_assoc, readRows_cell inner,
    List.nil_append, List.singleton_append, readRows, decodes,
    Option.bind_some, rows, List.append_assoc]
  rfl

theorem readsCells_of_literals {texts : List (List Char)}
    (reads : List.Forall₂ ReadsCell texts cells) (some : texts ≠ []) :
    ReadsCells (comma.intercalate texts ++ [')']) cells := by
  induction reads with
  | nil => exact absurd rfl some
  | @cons text cell texts cells first others ih =>
      cases others with
      | nil =>
          rw [List.intercalate_singleton]
          exact first.last
      | cons second more =>
          rw [List.intercalate_cons_cons, List.append_assoc, List.append_assoc]
          exact first.more (ih (List.cons_ne_nil _ _))

/-- A row in parentheses. -/
structure ReadsRow (text : List Char) (row : List Value) : Prop where
  quiet : Quiet text
  reads : ∃ read, ReadsAs text read ∧ ∀ rest,
    readRows .opening (read ++ rest) =
      (readRows .closed rest).map (row :: ·)

theorem ReadsCells.row
    (reads : ReadsCells text cells) : ReadsRow ('(' :: text) cells := by
  rcases reads with ⟨quiet, read, isRead, rows⟩
  have opens : opening '(' = (.plain, [.symbol '(']) := by decide
  have quietOpen : Quiet ['('] :=
    quiet_of_all (List.all_eq_true.mp (by decide))
  refine ⟨quietOpen.append quiet, _, readsAs_cons opens isRead, ?_⟩
  intro rest
  rw [List.append_assoc, List.singleton_append, readRows, rows,
    List.nil_append]

/-- A block of values. -/
structure ReadsRows (text : List Char) (rows : List (List Value)) : Prop where
  quiet : Quiet text
  reads : ∃ read, ReadsAs text read ∧ readRows .opening read = some rows

theorem readsRows_of_rows {texts : List (List Char)}
    {rows : List (List Value)} (reads : List.Forall₂ ReadsRow texts rows)
    (some : texts ≠ []) : ReadsRows (comma.intercalate texts) rows := by
  induction reads with
  | nil => exact absurd rfl some
  | @cons text row texts rows first others ih =>
      rcases first with ⟨quiet, read, isRead, isRow⟩
      cases others with
      | nil =>
          rw [List.intercalate_singleton]
          have whole := isRow []
          rw [List.append_nil] at whole
          exact ⟨quiet, read, isRead, whole⟩
      | cons second more =>
          rcases ih (List.cons_ne_nil _ _) with ⟨quietBack, later, isLater, areRows⟩
          rw [List.intercalate_cons_cons, List.append_assoc]
          refine
            ⟨quiet.append (quiet_comma.append quietBack), _,
              isRead.append (readsAs_comma.append isLater), ?_⟩
          rw [isRow, List.singleton_append, readRows, areRows]
          rfl

end OpenSnow.Server.Rest
