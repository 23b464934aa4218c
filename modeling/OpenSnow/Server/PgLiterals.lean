import Mathlib.Data.Rat.Defs
import OpenSnow.Rust.Integer
import OpenSnow.Server.IngestTexts
import OpenSnow.Server.PgSink

/-!
# The literals of an export

The text of an `INSERT` is read with the lexical rules of Postgres, and the
lexemes of each cell as a literal of the declared type of its column.  Most
values are read back as they are; numerals and times have values only as far as
the target can hold them, and some texts without quotes are no literals.
-/

namespace OpenSnow.Server.PgSink

open Rust.Integer
open Rust.Json (IsNumber IsDigits)
open Server.Rest (numberRuns_of_isNumber)
open Sql.Literals

/-! ## Values -/

/-- A value of `double precision`. -/
inductive Double where
  | nan
  | infinity (negative : Bool)
  | finite (value : ℚ)
deriving DecidableEq

/-- A value of a target column that is not null. -/
inductive Stored where
  | boolean (value : Bool)
  | integer (value : Int)
  | double (value : Double)
  | instant (nanos : Int)
  | text (text : String)
deriving DecidableEq

variable {Floating Row : Type}

/-- The value that a cell has. -/
def Datum.value (magnitude : Floating → ℚ) : Datum Floating → Stored
  | .boolean value => .boolean value
  | .integer value => .integer value
  | .nan => .double .nan
  | .infinity negative => .double (.infinity negative)
  | .finite value => .double (.finite (magnitude value))
  | .instant nanos _ => .instant nanos
  | .displayed text => .text text

/-- A cell with the type of its column. -/
abbrev Cell (Floating : Type) := DataType × Option (Datum Floating)

def RecordBatch.row (batch : RecordBatch Floating) (row : Nat) :
    List (Cell Floating) :=
  batch.columns.map fun column =>
    (column.field.dataType, column.cells[row]?.join)

def ResultSet.rows (result : ResultSet Floating) : List (List (Cell Floating)) :=
  result.batches.flatMap fun batch =>
    (List.range batch.numRows).map batch.row

/-! ## Reading an `INSERT` -/

/-- What the target makes of the texts of literals. -/
structure Postgres where
  /-- The double that a numeral is rounded to. -/
  numeral : List Char → Option ℚ
  /-- The midnight that a text is read as in a column of dates. -/
  readDate : List Char → Option Int
  readTimestamp : List Char → Option Int

/-- Decimal digits behind at most a minus sign. -/
def integerOf : List Char → Option Int
  | '-' :: digits => (parseDigits digits).map fun value : Nat => -(value : Int)
  | digits => (parseDigits digits).map fun value : Nat => (value : Int)

/-- A numeral in a column of the type. -/
def Postgres.number (postgres : Postgres) : PgType → List Char → Option Stored
  | .bigint, text =>
      ((integerOf text).filter fun value => FitsI64 value).map .integer
  | .doublePrecision, text =>
      (postgres.numeral text).map fun value => .double (.finite value)
  | _, _ => none

/-- A quoted text in a column of the type; no text has a NUL. -/
def Postgres.quoted (postgres : Postgres) : PgType → List Char → Option Stored
  | .text, chars =>
      if '\x00' ∈ chars then none else some (.text (String.ofList chars))
  | .date, chars => (postgres.readDate chars).map .instant
  | .timestamp, chars => (postgres.readTimestamp chars).map .instant
  | _, _ => none

/-- The value of a literal in a column of the type, or null. -/
def Postgres.decode (postgres : Postgres) (type : PgType) :
    List Lexeme → Option (Option Stored)
  | [.word text] =>
      if text.map Char.toUpper = "NULL".toList then some none
      else if type = .boolean ∧ text.map Char.toUpper = "TRUE".toList then
        some (some (.boolean true))
      else if type = .boolean ∧ text.map Char.toUpper = "FALSE".toList then
        some (some (.boolean false))
      else none
  | [.number text] => (postgres.number type text).map some
  | [.symbol '-', .number text] =>
      (postgres.number type ('-' :: text)).map some
  | [.text chars] => (postgres.quoted type chars).map some
  | _ => none

/-- A row has one literal for each column. -/
def Postgres.decodeRow (postgres : Postgres) :
    List PgType → List (List Lexeme) → Option (List (Option Stored))
  | [], [] => some []
  | type :: types, cell :: cells =>
      (postgres.decode type cell).bind fun value =>
        (postgres.decodeRow types cells).map (value :: ·)
  | _, _ => none

/-- Names up to a closing parenthesis, and what follows it. -/
def readNames : List Lexeme → Option (List (List Char) × List Lexeme)
  | .symbol ')' :: rest => some ([], rest)
  | .name name :: .symbol ',' :: rest =>
      (readNames rest).map fun read => (name :: read.1, read.2)
  | .name name :: .symbol ')' :: rest => some ([name], rest)
  | _ => none

/-- An `INSERT` with the lexemes of its cells. -/
structure Insertion where
  schema : List Char
  table : List Char
  names : List (List Char)
  rows : List (List (List Lexeme))
deriving DecidableEq, Repr

def readInsert : List Lexeme → Option Insertion
  | .word insert :: .word into :: .name schema :: .symbol '.' ::
      .name table :: .symbol '(' :: rest =>
      if insert = "INSERT".toList ∧ into = "INTO".toList then
        match readNames rest with
        | some (names, .word values :: block) =>
            if values = "VALUES".toList then
              (rowsOf .opening block).map (⟨schema, table, names, ·⟩)
            else none
        | _ => none
      else none
  | _ => none

/-- The rows that a text inserts into these columns of the table. -/
def Postgres.insertedRows (postgres : Postgres) (schema table : String)
    (cols : List TargetColumn) (text : String) :
    Option (List (List (Option Stored))) :=
  (readInsert (lexemes text.toList)).bind fun insertion =>
    if insertion.schema = schema.toList ∧ insertion.table = table.toList ∧
        insertion.names = cols.map (·.1.toList) then
      insertion.rows.mapM (postgres.decodeRow (cols.map Prod.snd))
    else none

/-! ## Cells that the target can hold -/

/-- The years 1 to 9999, in nanoseconds from 1970 on. -/
def InYears (nanos : Int) : Prop :=
  -62135596800000000000 ≤ nanos ∧ nanos < 253402300800000000000

instance (nanos : Int) : Decidable (InYears nanos) :=
  inferInstanceAs (Decidable (_ ∧ _))

/-- The steps in which columns of the type count time. -/
def DataType.precision : DataType → Int
  | .date32 | .date64 => dayNanos
  | _ => 1000

/--
The value is one of its target column: no NaN and no infinity, no integer above
the range of `bigint`, no float that its shortest numeral rounds to another
double, no time off the years, the UTC offset or the steps of the target, and no
text with a NUL.
-/
def Datum.Fits (casts : Casts Floating) (postgres : Postgres)
    (magnitude : Floating → ℚ) (dataType : DataType) : Datum Floating → Prop
  | .boolean _ => True
  | .integer value => value < 2 ^ 63
  | .nan | .infinity _ => False
  | .finite value =>
      dataType = .float64 ∨
        postgres.numeral (casts.shownFinite dataType value).toList =
          some (magnitude value)
  | .instant nanos offset =>
      InYears nanos ∧ offset = 0 ∧ dataType.precision ∣ nanos
  | .displayed text => '\x00' ∉ text.toList

/-- The local time in nanoseconds. -/
def localNanos (nanos offset : Int) : Int := nanos + offset * 1000000000

/--
How the casts display numbers and times, and how the target reads what they
display: shortest numerals that round to the double they were made of, and the
dates and times of ISO 8601, in which a year before 1 or after 9999 has a sign
or is 0000.  A time is rounded to microseconds, and its zone is ignored.
-/
structure Documented (casts : Casts Floating) (postgres : Postgres)
    (magnitude : Floating → ℚ) : Prop where
  shownNumber : ∀ dataType value, pgType dataType = .doublePrecision →
    IsNumber (casts.shownFinite dataType value).toList
  roundTrip : ∀ value,
    postgres.numeral (casts.shownFinite .float64 value).toList =
      some (magnitude value)
  date : ∀ dataType nanos offset, pgType dataType = .date →
    (Datum.instant nanos offset : Datum Floating).InType dataType →
      postgres.readDate (casts.shownInstant dataType nanos offset).toList =
        if InYears nanos then some (nanos / dayNanos * dayNanos) else none
  timestamp : ∀ dataType nanos offset, pgType dataType = .timestamp →
    (Datum.instant nanos offset : Datum Floating).InType dataType →
      if InYears (localNanos nanos offset) then
        ∃ read,
          postgres.readTimestamp
              (casts.shownInstant dataType nanos offset).toList =
            some read ∧
          1000 ∣ read ∧ |read - localNanos nanos offset| ≤ 500
      else
        postgres.readTimestamp
            (casts.shownInstant dataType nanos offset).toList =
          none

/-! ## Numerals -/

theorem toList_toString_nonneg {value : Int} (nonneg : 0 ≤ value) :
    (toString value).toList = Nat.toDigits 10 value.toNat := by
  cases value with
  | ofNat number => exact Nat.toList_repr
  | negSucc number => exact absurd nonneg (Int.negSucc_not_nonneg number).mp

theorem toList_toString_neg {value : Int} (negative : value < 0) :
    (toString value).toList = '-' :: Nat.toDigits 10 value.natAbs := by
  cases value with
  | ofNat number => exact absurd negative (Int.not_lt.mpr (Int.natCast_nonneg _))
  | negSucc number =>
      have shape :
          toString (Int.negSucc number) = "-" ++ (number + 1).repr := rfl
      rw [shape, String.toList_append, Nat.toList_repr]
      rfl

theorem isDigits_toDigits (number : Nat) : IsDigits (Nat.toDigits 10 number) :=
  ⟨Nat.toDigits_ne_nil, fun _ member =>
    Nat.isDigit_of_mem_toDigits (by decide) (by decide) member⟩

theorem parseDigits_toDigits (number : Nat) :
    parseDigits (Nat.toDigits 10 number) = some number := by
  have digits := isDigits_toDigits number
  rw [parseDigits, if_pos ⟨digits.1, List.all_eq_true.mpr digits.2⟩,
    Nat.ofDigitChars_ten_toDigits]

variable {digits : List Char}

theorem integerOf_digits (isDigits : IsDigits digits) :
    integerOf digits = (parseDigits digits).map fun value : Nat => (value : Int) := by
  cases digits with
  | nil => exact absurd rfl isDigits.1
  | cons first rest =>
      rw [integerOf]
      rintro other same
      have digit := isDigits.2 first List.mem_cons_self
      rw [List.cons.injEq] at same
      rw [same.1] at digit
      revert digit
      decide

theorem integerOf_toString (value : Int) :
    integerOf (toString value).toList = some value := by
  by_cases negative : value < 0
  · rw [toList_toString_neg negative, integerOf, parseDigits_toDigits,
      Option.map_some, Option.some.injEq]
    omega
  · have nonneg := Int.not_lt.mp negative
    rw [toList_toString_nonneg nonneg,
      integerOf_digits (isDigits_toDigits _), parseDigits_toDigits,
      Option.map_some, Option.some.injEq]
    omega

theorem isNumber_of_digits (isDigits : IsDigits digits) :
    IsNumber digits :=
  ⟨[], digits, [], [], by simp, Or.inl rfl, isDigits, Or.inl rfl, Or.inl rfl⟩

theorem isNumber_of_negative
    (isDigits : IsDigits digits) : IsNumber ('-' :: digits) :=
  ⟨['-'], digits, [], [], by simp, Or.inr rfl, isDigits, Or.inl rfl, Or.inl rfl⟩

theorem isNumber_toString (value : Int) : IsNumber (toString value).toList := by
  by_cases negative : value < 0
  · rw [toList_toString_neg negative]
    exact isNumber_of_negative (isDigits_toDigits _)
  · rw [toList_toString_nonneg (Int.not_lt.mp negative)]
    exact isNumber_of_digits (isDigits_toDigits _)

/-- The lexemes of a numeral, of which the sign is one. -/
def numberLexemes : List Char → List Lexeme
  | '-' :: digits => [.symbol '-', .number digits]
  | text => [.number text]

/-- What a list begins with is not a sign. -/
theorem numberLexemes_of_digit {first : Char} (digit : first.isDigit)
    (rest : List Char) :
    numberLexemes (first :: rest) = [.number (first :: rest)] := by
  rw [numberLexemes]
  rintro digits same
  rw [List.cons.injEq] at same
  rw [same.1] at digit
  revert digit
  decide

theorem numberRuns_head {text : List Char}
    (runs : Server.Rest.NumberRuns text) :
    ∃ first rest, text = first :: rest ∧ first.isDigit := by
  rcases runs with ⟨first, front, plus, back, rfl, digit, -⟩
  exact ⟨first, _, rfl, digit⟩

theorem readsBefore_number {text : List Char} (number : IsNumber text) :
    ReadsBefore [',', ')'] text (numberLexemes text) := by
  rcases numberRuns_of_isNumber number with runs | ⟨digits, rfl, runs⟩
  · rcases numberRuns_head runs with ⟨first, rest, rfl, digit⟩
    rw [numberLexemes_of_digit digit]
    exact runs.reads
  · rcases numberRuns_head runs with ⟨first, rest, rfl, digit⟩
    have notSign : first ≠ '-' := by
      rintro rfl
      revert digit
      decide
    exact runs.reads.negative notSign

theorem decode_number (postgres : Postgres) (type : PgType)
    {text : List Char} (number : IsNumber text) :
    postgres.decode type (numberLexemes text) =
      (postgres.number type text).map some := by
  rcases numberRuns_of_isNumber number with runs | ⟨digits, rfl, runs⟩
  · rcases numberRuns_head runs with ⟨first, rest, rfl, digit⟩
    rw [numberLexemes_of_digit digit, Postgres.decode]
  · rfl

theorem isCell_number (text : List Char) : IsCell (numberLexemes text) := by
  rw [numberLexemes.eq_def]
  split <;> simp [IsCell]

/-! ## Types of values -/

/-- The type of the target column that a value comes to. -/
theorem pgType_of_inType {dataType : DataType} {datum : Datum Floating}
    (typed : datum.InType dataType) :
    match datum with
    | .boolean _ => pgType dataType = .boolean
    | .integer value => pgType dataType = .bigint ∧ -2 ^ 63 ≤ value
    | .nan | .infinity _ | .finite _ => pgType dataType = .doublePrecision
    | .instant _ _ => pgType dataType = .date ∨ pgType dataType = .timestamp
    | .displayed _ => pgType dataType = .text := by
  cases datum with
  | boolean value => cases dataType <;> first | exact typed.elim | rfl
  | integer value =>
      cases dataType <;> first
        | exact typed.elim
        | exact ⟨rfl, by rw [Datum.InType] at typed; omega⟩
  | nan => cases dataType <;> first | exact typed.elim | rfl
  | infinity negative => cases dataType <;> first | exact typed.elim | rfl
  | finite value => cases dataType <;> first | exact typed.elim | rfl
  | instant nanos offset =>
      cases dataType <;> first
        | exact typed.elim
        | exact Or.inl rfl
        | exact Or.inr rfl
  | displayed text => cases dataType <;> first | exact typed.elim | rfl

/-! ## Cells -/

section Cells

variable {casts : Casts Floating} {postgres : Postgres}
variable {magnitude : Floating → ℚ}

def cellLiteral (casts : Casts Floating) (cell : Cell Floating) : String :=
  cellText ("", pgType cell.1) (cell.2.map (casts.shown cell.1))

/-- What a value without quotes is read as. -/
def bareLexemes (casts : Casts Floating) (dataType : DataType) :
    Datum Floating → List Lexeme
  | .boolean value => [.word (if value then "true" else "false").toList]
  | .nan => [.word "NaN".toList]
  | .infinity false => [.word "inf".toList]
  | .infinity true => [.symbol '-', .word "inf".toList]
  | datum => numberLexemes (casts.shown dataType datum).toList

/-- What the literal of a value is read as. -/
def datumLexemes (casts : Casts Floating) (dataType : DataType)
    (datum : Datum Floating) : List Lexeme :=
  if needsQuote (pgType dataType) then
    [.text (casts.shown dataType datum).toList]
  else bareLexemes casts dataType datum

def cellLexemes (casts : Casts Floating) (cell : Cell Floating) :
    List Lexeme :=
  match cell.2 with
  | none => [.word "NULL".toList]
  | some datum => datumLexemes casts cell.1 datum

theorem isCell_datum (dataType : DataType) (datum : Datum Floating) :
    IsCell (datumLexemes casts dataType datum) := by
  rw [datumLexemes]
  split
  · simp [IsCell]
  · rw [bareLexemes.eq_def]
    split <;> first | exact isCell_number _ | simp [IsCell]

theorem isCell_cell (cell : Cell Floating) :
    IsCell (cellLexemes casts cell) := by
  rw [cellLexemes]
  split
  · simp [IsCell]
  · exact isCell_datum _ _

theorem readsBefore_quoted (text : String) :
    ReadsBefore [',', ')'] (sqlLiteral text true).toList
      [.text text.toList] := by
  have shape :
      (sqlLiteral text true).toList =
        '\'' :: (doubled '\'' text.toList ++ ['\'']) := by
    simp [sqlLiteral, doubleQuotes, doubled]
  rw [shape]
  exact readsBefore_text text.toList (by decide)

variable {dataType : DataType} {datum : Datum Floating}

theorem readsBefore_datum (documented : Documented casts postgres magnitude)
    (typed : datum.InType dataType) :
    ReadsBefore [',', ')']
      (sqlLiteral (casts.shown dataType datum)
        (needsQuote (pgType dataType))).toList
      (datumLexemes casts dataType datum) := by
  have type := pgType_of_inType typed
  rw [datumLexemes]
  cases quoted : needsQuote (pgType dataType) with
  | true =>
      rw [if_pos rfl]
      exact readsBefore_quoted _
  | false =>
      rw [if_neg Bool.false_ne_true, sqlLiteral, if_neg Bool.false_ne_true]
      cases datum with
      | boolean value =>
          have yes : ReadsBefore [',', ')'] "true".toList [.word "true".toList] :=
            readsBefore_bare (by decide) (by decide) (by decide)
          have no : ReadsBefore [',', ')'] "false".toList [.word "false".toList] :=
            readsBefore_bare (by decide) (by decide) (by decide)
          cases value
          · exact no
          · exact yes
      | integer value => exact readsBefore_number (isNumber_toString value)
      | nan =>
          have bare : ReadsBefore [',', ')'] "NaN".toList [.word "NaN".toList] :=
            readsBefore_bare (by decide) (by decide) (by decide)
          exact bare
      | infinity negative =>
          have bare : ReadsBefore [',', ')'] "inf".toList [.word "inf".toList] :=
            readsBefore_bare (by decide) (by decide) (by decide)
          have shape : "inf".toList = ['i', 'n', 'f'] := by decide
          have signed :
              ReadsBefore [',', ')'] "-inf".toList
                [.symbol '-', .word "inf".toList] := by
            rw [shape] at bare ⊢
            exact bare.negative (by decide)
          cases negative
          · exact bare
          · exact signed
      | finite value =>
          exact readsBefore_number (documented.shownNumber dataType value type)
      | instant nanos offset =>
          rcases type with type | type <;> rw [type] at quoted <;> cases quoted
      | displayed text =>
          dsimp only at type
          rw [type] at quoted
          cases quoted

theorem readsBefore_cell (documented : Documented casts postgres magnitude)
    {cell : Cell Floating}
    (typed : ∀ datum, cell.2 = some datum → datum.InType cell.1) :
    ReadsBefore [',', ')'] (cellLiteral casts cell).toList
      (cellLexemes casts cell) := by
  rcases cell with ⟨dataType, _ | datum⟩
  · have bare : ReadsBefore [',', ')'] "NULL".toList [.word "NULL".toList] :=
      readsBefore_bare (by decide) (by decide) (by decide)
    exact bare
  · exact readsBefore_datum documented (typed datum rfl)

/-! ## Literals and their values -/

/-- A time that is rounded to microseconds keeps its value only if it has none below. -/
theorem rounded_eq_iff {read nanos offset : Int} (step : 1000 ∣ read)
    (near : |read - localNanos nanos offset| ≤ 500) :
    read = nanos ↔ offset = 0 ∧ 1000 ∣ nanos := by
  rw [localNanos, abs_le] at near
  constructor
  · rintro rfl
    exact ⟨by omega, step⟩
  · rintro ⟨rfl, whole⟩
    omega

theorem precision_of_date
    (isDate : pgType dataType = .date) : dataType.precision = dayNanos := by
  cases dataType <;> first | rfl | cases isDate

theorem precision_of_timestamp (isTimestamp : pgType dataType = .timestamp) :
    dataType.precision = 1000 := by
  cases dataType <;> first | rfl | cases isTimestamp

variable {nanos offset : Int}

theorem offset_of_date (isDate : pgType dataType = .date)
    (typed : (Datum.instant nanos offset : Datum Floating).InType dataType) :
    offset = 0 := by
  cases dataType <;> first | exact typed.2 | cases isDate

theorem decode_date (documented : Documented casts postgres magnitude)
    (isDate : pgType dataType = .date)
    (typed : (Datum.instant nanos offset : Datum Floating).InType dataType) :
    postgres.readDate (casts.shownInstant dataType nanos offset).toList =
        some nanos ↔
      InYears nanos ∧ offset = 0 ∧ dataType.precision ∣ nanos := by
  rw [documented.date dataType nanos offset isDate typed,
    precision_of_date isDate, and_iff_right (offset_of_date isDate typed)]
  by_cases years : InYears nanos
  · rw [if_pos years, and_iff_right years, Option.some.injEq]
    exact ⟨fun same => ⟨_, by rw [mul_comm, same]⟩, Int.ediv_mul_cancel⟩
  · rw [if_neg years]
    exact iff_of_false (nomatch ·) fun both => years both.1

theorem decode_timestamp (documented : Documented casts postgres magnitude)
    (isTimestamp : pgType dataType = .timestamp)
    (typed : (Datum.instant nanos offset : Datum Floating).InType dataType) :
    postgres.readTimestamp (casts.shownInstant dataType nanos offset).toList =
        some nanos ↔
      InYears nanos ∧ offset = 0 ∧ dataType.precision ∣ nanos := by
  have reads := documented.timestamp dataType nanos offset isTimestamp typed
  rw [precision_of_timestamp isTimestamp]
  by_cases years : InYears (localNanos nanos offset)
  · rw [if_pos years] at reads
    rcases reads with ⟨read, isRead, step, near⟩
    rw [isRead, Option.some.injEq, rounded_eq_iff step near]
    refine ⟨fun both => ⟨?_, both⟩, And.right⟩
    rwa [both.1, localNanos, zero_mul, add_zero] at years
  · rw [if_neg years] at reads
    rw [reads]
    refine iff_of_false (nomatch ·) ?_
    rintro ⟨inYears, rfl, -⟩
    rw [localNanos, zero_mul, add_zero] at years
    exact years inYears

theorem decode_integer {type : PgType} (isBigint : type = .bigint)
    {value : Int} (low : -2 ^ 63 ≤ value) :
    postgres.decode type (numberLexemes (toString value).toList) =
        some (some (.integer value)) ↔
      value < 2 ^ 63 := by
  rw [decode_number postgres type (isNumber_toString value), isBigint,
    Postgres.number, integerOf_toString, Option.filter_some]
  by_cases below : value < 2 ^ 63
  · rw [if_pos (decide_eq_true (show FitsI64 value from ⟨low, below⟩))]
    exact iff_of_true rfl below
  · have outside : ¬ decide (FitsI64 value) = true := fun fits =>
      below (of_decide_eq_true fits).2
    rw [if_neg outside]
    exact iff_of_false (nomatch ·) below

theorem decode_finite (documented : Documented casts postgres magnitude)
    {value : Floating} (isDouble : pgType dataType = .doublePrecision) :
    postgres.decode (pgType dataType)
        (numberLexemes (casts.shownFinite dataType value).toList) =
        some (some (.double (.finite (magnitude value)))) ↔
      dataType = .float64 ∨
        postgres.numeral (casts.shownFinite dataType value).toList =
          some (magnitude value) := by
  have roundTrip : dataType = .float64 →
      postgres.numeral (casts.shownFinite dataType value).toList =
        some (magnitude value) := by
    rintro rfl
    exact documented.roundTrip value
  rw [decode_number postgres _ (documented.shownNumber dataType value isDouble),
    isDouble, Postgres.number, or_iff_right_of_imp roundTrip]
  cases postgres.numeral (casts.shownFinite dataType value).toList with
  | none => exact iff_of_false (nomatch ·) (nomatch ·)
  | some read => simp

theorem map_instant_eq_iff {read : Option Int} {nanos : Int} :
    (read.map Stored.instant).map some = some (some (.instant nanos)) ↔
      read = some nanos := by
  cases read with
  | none => exact iff_of_false (nomatch ·) (nomatch ·)
  | some value => simp

/-- A literal has the value that it was made of exactly if it fits. -/
theorem decode_datum_iff (documented : Documented casts postgres magnitude)
    (typed : datum.InType dataType) :
    postgres.decode (pgType dataType) (datumLexemes casts dataType datum) =
        some (some (datum.value magnitude)) ↔
      datum.Fits casts postgres magnitude dataType := by
  have type := pgType_of_inType typed
  rw [datumLexemes]
  cases datum with
  | boolean value =>
      have notQuoted : needsQuote (pgType dataType) = false := by
        dsimp only at type
        rw [type]
        rfl
      dsimp only at type
      rw [notQuoted, if_neg Bool.false_ne_true, type]
      cases value <;> exact iff_of_true rfl trivial
  | integer value =>
      have notQuoted : needsQuote (pgType dataType) = false := by
        rw [type.1]
        rfl
      rw [notQuoted, if_neg Bool.false_ne_true]
      exact decode_integer type.1 type.2
  | nan =>
      have notQuoted : needsQuote (pgType dataType) = false := by
        dsimp only at type
        rw [type]
        rfl
      dsimp only at type
      rw [notQuoted, if_neg Bool.false_ne_true, type]
      exact iff_of_false (fun same => by cases same) id
  | infinity negative =>
      have notQuoted : needsQuote (pgType dataType) = false := by
        dsimp only at type
        rw [type]
        rfl
      dsimp only at type
      rw [notQuoted, if_neg Bool.false_ne_true, type]
      cases negative <;> exact iff_of_false (fun same => by cases same) id
  | finite value =>
      have notQuoted : needsQuote (pgType dataType) = false := by
        dsimp only at type
        rw [type]
        rfl
      rw [notQuoted, if_neg Bool.false_ne_true]
      exact decode_finite documented type
  | instant nanos offset =>
      rcases type with isDate | isTimestamp
      · rw [isDate, needsQuote, if_pos rfl, Postgres.decode, Postgres.quoted]
        exact
          map_instant_eq_iff.trans (decode_date documented isDate typed)
      · rw [isTimestamp, needsQuote, if_pos rfl, Postgres.decode,
          Postgres.quoted]
        exact
          map_instant_eq_iff.trans
            (decode_timestamp documented isTimestamp typed)
  | displayed text =>
      dsimp only at type
      rw [type, needsQuote, if_pos rfl, Postgres.decode, Postgres.quoted,
        Datum.Fits, Casts.shown]
      by_cases nul : '\x00' ∈ text.toList
      · rw [if_pos nul]
        exact iff_of_false (fun same => by cases same) fun without => without nul
      · rw [if_neg nul, String.ofList_toList]
        exact iff_of_true rfl nul

/-- The cell fits if it is null or its value does. -/
def Cell.Fits (casts : Casts Floating) (postgres : Postgres)
    (magnitude : Floating → ℚ) (cell : Cell Floating) : Prop :=
  ∀ datum, cell.2 = some datum → datum.Fits casts postgres magnitude cell.1

@[simp]
theorem cell_none_fits (dataType : DataType) :
    Cell.Fits casts postgres magnitude (dataType, none) :=
  fun _ impossible => nomatch impossible

@[simp]
theorem cell_some_fits_iff :
    Cell.Fits casts postgres magnitude (dataType, some datum) ↔
      datum.Fits casts postgres magnitude dataType :=
  ⟨fun fits => fits datum rfl, fun fits _ same => Option.some.inj same ▸ fits⟩

/-- The value of a cell is of the type of its column. -/
def Cell.Typed (cell : Cell Floating) : Prop :=
  ∀ datum, cell.2 = some datum → datum.InType cell.1

theorem decode_cell_iff (documented : Documented casts postgres magnitude)
    {cell : Cell Floating} (typed : cell.Typed) :
    postgres.decode (pgType cell.1) (cellLexemes casts cell) =
        some (cell.2.map (·.value magnitude)) ↔
      cell.Fits casts postgres magnitude := by
  rcases cell with ⟨dataType, _ | datum⟩
  · exact iff_of_true rfl (cell_none_fits dataType)
  · rw [cellLexemes, Option.map_some,
      decode_datum_iff documented (typed datum rfl), cell_some_fits_iff]

/-- The lexemes of a row; without columns, the parentheses hold an empty cell. -/
def rowCells (casts : Casts Floating) (row : List (Cell Floating)) :
    List (List Lexeme) :=
  if row = [] then [[]] else row.map (cellLexemes casts)

theorem decodeRow_iff (documented : Documented casts postgres magnitude)
    {row : List (Cell Floating)} (typed : ∀ cell ∈ row, cell.Typed) :
    postgres.decodeRow (row.map fun cell => pgType cell.1)
        (row.map (cellLexemes casts)) =
        some (row.map fun cell => cell.2.map (·.value magnitude)) ↔
      ∀ cell ∈ row, cell.Fits casts postgres magnitude := by
  induction row with
  | nil => exact iff_of_true rfl fun _ member => absurd member List.not_mem_nil
  | cons cell row ih =>
      rw [List.forall_mem_cons] at typed
      rw [List.forall_mem_cons, ← ih typed.2,
        ← decode_cell_iff documented typed.1, List.map_cons, List.map_cons,
        List.map_cons, Postgres.decodeRow, Option.bind_eq_some_iff]
      constructor
      · rintro ⟨value, first, later⟩
        rcases Option.map_eq_some_iff.mp later with ⟨others, areOthers, same⟩
        rw [List.cons.injEq] at same
        rw [first, areOthers, same.1, same.2]
        exact ⟨rfl, rfl⟩
      · rintro ⟨first, others⟩
        refine ⟨_, first, ?_⟩
        rw [others]
        rfl

/-- A row is read back exactly if it has columns and each of its cells fits. -/
theorem decodeRow_rowCells_iff
    (documented : Documented casts postgres magnitude)
    {row : List (Cell Floating)} (typed : ∀ cell ∈ row, cell.Typed) :
    postgres.decodeRow (row.map fun cell => pgType cell.1)
        (rowCells casts row) =
        some (row.map fun cell => cell.2.map (·.value magnitude)) ↔
      row ≠ [] ∧ ∀ cell ∈ row, cell.Fits casts postgres magnitude := by
  rw [rowCells]
  by_cases empty : row = []
  · rw [if_pos empty, empty]
    exact iff_of_false (nomatch ·) fun both => both.1 rfl
  · rw [if_neg empty, decodeRow_iff documented typed, and_iff_right empty]

end Cells

end OpenSnow.Server.PgSink
