import Mathlib.Algebra.Group.Int.Defs
import Mathlib.Algebra.GroupWithZero.Nat
import Mathlib.Data.List.Basic
import OpenSnow.Foundation.Effect
import OpenSnow.Rust.Text

/-!
# Exports to Postgres

A result set is sent to a table of another database, as texts of statements:
the table is dropped and created again, and its rows are inserted in groups.
Every statement is answered for itself, and what an answer does not say is
whether a statement that failed was carried out.
-/

namespace OpenSnow.Server.PgSink

open Foundation
open Rust.Text

/-! ## Types and texts -/

/-- How to treat an existing target table. -/
inductive WriteMode where
  | replace
  | append
deriving DecidableEq, Repr

def WriteMode.parse (s : String) : Except String WriteMode :=
  match toAsciiLowercase s with
  | "replace" | "" => .ok .replace
  | "append" => .ok .append
  | other =>
      .error ("unknown mode '" ++ other ++ "' (expected 'replace' or 'append')")

inductive TimeUnit where
  | second
  | millisecond
  | microsecond
  | nanosecond
deriving DecidableEq, Repr

/-- The types of result columns that the sink tells apart. -/
inductive DataType where
  | boolean
  | int8
  | int16
  | int32
  | int64
  | uInt8
  | uInt16
  | uInt32
  | uInt64
  | float16
  | float32
  | float64
  | date32
  | date64
  | timestamp (unit : TimeUnit) (zone : Option String)
  | other (debug : String)
deriving DecidableEq, Repr

/-- The types of target columns. -/
inductive PgType where
  | boolean
  | bigint
  | doublePrecision
  | date
  | timestamp
  | text
deriving DecidableEq, Repr

def PgType.name : PgType → String
  | .boolean => "boolean"
  | .bigint => "bigint"
  | .doublePrecision => "double precision"
  | .date => "date"
  | .timestamp => "timestamp"
  | .text => "text"

def pgType : DataType → PgType
  | .boolean => .boolean
  | .int8 | .int16 | .int32 | .int64 => .bigint
  | .uInt8 | .uInt16 | .uInt32 | .uInt64 => .bigint
  | .float16 | .float32 | .float64 => .doublePrecision
  | .date32 | .date64 => .date
  | .timestamp _ _ => .timestamp
  | .other _ => .text

def needsQuote : PgType → Bool
  | .text | .date | .timestamp => true
  | _ => false

/-- The Rust code counts bytes; a name that passes is ASCII. -/
def isSafeIdent (name : String) : Bool :=
  !name.isEmpty && decide (name.utf8ByteSize ≤ 128) &&
    (name.toList.head?.any fun c => c.isAlpha || c == '_') &&
    name.toList.all fun c => c.isAlphanum || c == '_'

/-- `str::replace` of a quote by two of them. -/
def doubleQuotes (quote : Char) (text : String) : String :=
  String.ofList
    (text.toList.flatMap fun ch => if ch = quote then [quote, quote] else [ch])

def quoteIdent (name : String) : String :=
  "\"" ++ doubleQuotes '"' name ++ "\""

def sqlLiteral (value : String) (quote : Bool) : String :=
  if quote then "'" ++ doubleQuotes '\'' value ++ "'" else value

/-! ## Result sets -/

/-- What a cell that is not null holds. -/
inductive Datum (Floating : Type) where
  | boolean (value : Bool)
  | integer (value : Int)
  | nan
  | infinity (negative : Bool)
  | finite (value : Floating)
  /-- A point of time in nanoseconds, and how far local clocks are ahead. -/
  | instant (nanos offset : Int)
  /-- A value of another type, with the text that displays it. -/
  | displayed (text : String)
deriving DecidableEq, Repr

def TimeUnit.nanos : TimeUnit → Int
  | .second => 1000000000
  | .millisecond => 1000000
  | .microsecond => 1000
  | .nanosecond => 1

/-- The nanoseconds of a day. -/
def dayNanos : Int := 86400000000000

variable {Floating Row : Type}

/-- The values that a column of the type can hold. -/
def Datum.InType : DataType → Datum Floating → Prop
  | .boolean, .boolean _ => True
  | .int8, .integer value => -2 ^ 7 ≤ value ∧ value < 2 ^ 7
  | .int16, .integer value => -2 ^ 15 ≤ value ∧ value < 2 ^ 15
  | .int32, .integer value => -2 ^ 31 ≤ value ∧ value < 2 ^ 31
  | .int64, .integer value => -2 ^ 63 ≤ value ∧ value < 2 ^ 63
  | .uInt8, .integer value => 0 ≤ value ∧ value < 2 ^ 8
  | .uInt16, .integer value => 0 ≤ value ∧ value < 2 ^ 16
  | .uInt32, .integer value => 0 ≤ value ∧ value < 2 ^ 32
  | .uInt64, .integer value => 0 ≤ value ∧ value < 2 ^ 64
  | .float16, .nan | .float32, .nan | .float64, .nan => True
  | .float16, .infinity _ | .float32, .infinity _ | .float64, .infinity _ =>
      True
  | .float16, .finite _ | .float32, .finite _ | .float64, .finite _ => True
  | .date32, .instant nanos offset => dayNanos ∣ nanos ∧ offset = 0
  | .date64, .instant nanos offset =>
      TimeUnit.millisecond.nanos ∣ nanos ∧ offset = 0
  | .timestamp unit zone, .instant nanos offset =>
      unit.nanos ∣ nanos ∧ (zone = none → offset = 0)
  | .other _, .displayed _ => True
  | _, _ => False

structure Field where
  name : String
  dataType : DataType
deriving DecidableEq, Repr

/-- A column of a batch: every cell is null or of the column's type. -/
structure Column (Floating : Type) where
  field : Field
  cells : List (Option (Datum Floating))
  typed : ∀ datum, some datum ∈ cells → datum.InType field.dataType

/-- Columns of one length. -/
structure RecordBatch (Floating : Type) where
  numRows : Nat
  columns : List (Column Floating)
  aligned : ∀ column ∈ columns, column.cells.length = numRows

def RecordBatch.fields (batch : RecordBatch Floating) : List Field :=
  batch.columns.map Column.field

/-- Batches under one schema. -/
structure ResultSet (Floating : Type) where
  fields : List Field
  batches : List (RecordBatch Floating)
  uniform : ∀ batch ∈ batches, batch.fields = fields

/-- The casts of columns to texts. -/
structure Casts (Floating : Type) where
  shownFinite : DataType → Floating → String
  shownInstant : DataType → Int → Int → String
  /-- Why a column is not cast, if it is not. -/
  castError : Column Floating → Option String

/-- The text that a value is displayed as. -/
def Casts.shown (casts : Casts Floating) (dataType : DataType) :
    Datum Floating → String
  | .boolean value => if value then "true" else "false"
  | .integer value => toString value
  | .nan => "NaN"
  | .infinity negative => if negative then "-inf" else "inf"
  | .finite value => casts.shownFinite dataType value
  | .instant nanos offset => casts.shownInstant dataType nanos offset
  | .displayed text => text

/-- `cast(column, Utf8)`. -/
def Casts.cast (casts : Casts Floating) (column : Column Floating) :
    Except String (List (Option String)) :=
  match casts.castError column with
  | some reason => .error reason
  | none =>
      .ok (column.cells.map (Option.map (casts.shown column.field.dataType)))

/-! ## Statements -/

/-- A column of the target, by name and type. -/
abbrev TargetColumn := String × PgType

inductive Statement where
  | createSchema (schema : String)
  | dropTable (schema table : String)
  | createTable (schema table : String) (cols : List TargetColumn)
  | insert (schema table : String) (cols : List TargetColumn)
      (tuples : List (List String))
deriving DecidableEq, Repr

def qualified (schema table : String) : String :=
  quoteIdent schema ++ "." ++ quoteIdent table

/-- The text of a row. -/
def tupleText (cells : List String) : String :=
  "(" ++ ", ".intercalate cells ++ ")"

def Statement.text : Statement → String
  | .createSchema schema => "CREATE SCHEMA IF NOT EXISTS " ++ quoteIdent schema
  | .dropTable schema table =>
      "DROP TABLE IF EXISTS " ++ qualified schema table
  | .createTable schema table cols =>
      "CREATE TABLE " ++ qualified schema table ++ " (" ++
        ", ".intercalate
          (cols.map fun col => quoteIdent col.1 ++ " " ++ col.2.name) ++ ")"
  | .insert schema table cols tuples =>
      "INSERT INTO " ++ qualified schema table ++ " (" ++
        ", ".intercalate (cols.map fun col => quoteIdent col.1) ++
        ") VALUES " ++ ", ".intercalate (tuples.map tupleText)

/-! ## The target -/

/-- A table with what defines it and its rows. -/
structure Table (Row : Type) where
  columns : List TargetColumn
  /-- What its definition says besides the columns. -/
  constraints : List String
  rows : List Row
deriving DecidableEq, Repr

/-- How the target answers a statement that was sent. -/
inductive Reply where
  | carriedOut
  /-- It is rejected, or the connection is lost; then it can have been applied. -/
  | failed (applied : Bool)
  | timedOut (applied : Bool)
deriving DecidableEq, Repr

structure Target (Row : Type) where
  /-- The row that a tuple of literals under column names is stored as. -/
  stored : List TargetColumn → List TargetColumn → List String → Row
  /-- The answer to each statement of the session. -/
  replies : Nat → Reply

structure Session (Row : Type) where
  /-- The target table, if there is one. -/
  table : Option (Table Row)
  sent : List Statement
deriving DecidableEq, Repr

/-- What a statement does to the target table. -/
def Target.apply (target : Target Row) (table : Option (Table Row)) :
    Statement → Option (Table Row)
  | .createSchema _ => table
  | .dropTable _ _ => none
  | .createTable _ _ cols => some ⟨cols, [], []⟩
  | .insert _ _ cols tuples =>
      table.map fun held =>
        { held with
          rows := held.rows ++ tuples.map (target.stored held.columns cols) }

def timedOutMessage : String := "load rows into target Postgres timed out"

/-- Send a statement and wait for its answer. -/
def Target.batchExecute (target : Target Row) (context : String)
    (statement : Statement) : Effect (Session Row) String Unit := fun session =>
  let sent := session.sent ++ [statement]
  let applied : Session Row := ⟨target.apply session.table statement, sent⟩
  let ignored : Session Row := ⟨session.table, sent⟩
  match target.replies session.sent.length with
  | .carriedOut => (.ok (), applied)
  | .failed isApplied =>
      (.error context, if isApplied then applied else ignored)
  | .timedOut isApplied =>
      (.error timedOutMessage, if isApplied then applied else ignored)

/-! ## Loading -/

/-- `slice::chunks`: groups of `size`, of which the last can be shorter. -/
def chunks {Item : Type} (size : Nat) : List Item → List (List Item)
  | [] => []
  | first :: rest =>
      (first :: rest.take (size - 1)) :: chunks size (rest.drop (size - 1))
termination_by items => items.length
decreasing_by simp only [List.length_drop, List.length_cons]; omega

/-- The literal of a cell, from the text that its column is cast to. -/
def cellText (col : TargetColumn) : Option String → String
  | none => "NULL"
  | some value => sqlLiteral value (needsQuote col.2)

/-- The literals of the rows of a batch. -/
def RecordBatch.tuples (casts : Casts Floating) (cols : List TargetColumn)
    (batch : RecordBatch Floating) : Except String (List (List String)) :=
  (batch.columns.mapM casts.cast).map fun textCols =>
    (List.range batch.numRows).map fun row =>
      (cols.zip textCols).map fun col => cellText col.1 (col.2[row]?.join)

section Loading

variable (casts : Casts Floating) (target : Target Row)
variable (cols : List TargetColumn) (schema table : String)

/-- Insert the groups one after the other, and count the rows. -/
def insertChunks :
    Nat → List (List (List String)) → Effect (Session Row) String Nat
  | written, [] => pure written
  | written, chunk :: rest => do
      target.batchExecute "insert rows" (.insert schema table cols chunk)
      insertChunks (written + chunk.length) rest

def loadBatches :
    Nat → List (RecordBatch Floating) → Effect (Session Row) String Nat
  | written, [] => pure written
  | written, batch :: rest =>
      if batch.numRows = 0 then loadBatches written rest
      else
        match batch.tuples casts cols with
        | .error _ => .fail "cast result column to text"
        | .ok tuples => do
            let written ←
              insertChunks target cols schema table written (chunks 500 tuples)
            loadBatches written rest

def load (batches : List (RecordBatch Floating)) (mode : WriteMode) :
    Effect (Session Row) String Nat := do
  target.batchExecute "create schema" (.createSchema schema)
  if mode = .replace then
    target.batchExecute "drop existing table" (.dropTable schema table)
    target.batchExecute "create target table" (.createTable schema table cols)
  loadBatches casts target cols schema table 0 batches

end Loading

inductive Connection where
  | connected
  | timedOut
  | refused
deriving DecidableEq, Repr

/-- What an export is given, and what it meets before it loads rows. -/
structure Export (Floating : Type) where
  schema : String
  table : String
  /-- What the query gives. -/
  queried : Except String (ResultSet Floating)
  connection : Connection

def targetColumns (fields : List Field) : List TargetColumn :=
  fields.map fun field => (field.name, pgType field.dataType)

def exportToPostgres (casts : Casts Floating) (target : Target Row)
    (request : Export Floating) (mode : WriteMode) :
    Effect (Session Row) String Nat :=
  if !isSafeIdent request.schema || !isSafeIdent request.table then
    .fail "invalid schema/table identifier"
  else
    match request.queried with
    | .error _ => .fail "query failed in OpenSnow"
    | .ok result =>
        match result.batches with
        | [] => .fail "query returned no schema (no result batches)"
        | first :: _ =>
            match request.connection with
            | .timedOut => .fail "connect to target Postgres timed out"
            | .refused => .fail "connect to target Postgres"
            | .connected =>
                load casts target (targetColumns first.fields) request.schema
                  request.table result.batches mode

/-! ## Groups -/

theorem flatten_chunks {Item : Type} (size : Nat)
    (items : List Item) : (chunks size items).flatten = items := by
  fun_induction chunks size items with
  | case1 => rfl
  | case2 first rest ih =>
      rw [List.flatten_cons, ih, List.cons_append, List.take_append_drop]

theorem length_of_mem_chunks {Item : Type} {size : Nat} (positive : 0 < size)
    (items : List Item) {chunk : List Item} (member : chunk ∈ chunks size items) :
    0 < chunk.length ∧ chunk.length ≤ size := by
  fun_induction chunks size items with
  | case1 => exact absurd member List.not_mem_nil
  | case2 first rest ih =>
      rcases List.mem_cons.mp member with rfl | member
      · have taken : (rest.take (size - 1)).length + 1 ≤ size - 1 + 1 :=
          Nat.succ_le_succ (List.length_take_le _ _)
        rw [Nat.sub_add_cancel positive] at taken
        exact ⟨Nat.succ_pos _, taken⟩
      · exact ih member

/-! ## The literals of a result set -/

/-- The literals of a row. -/
def RecordBatch.literals (casts : Casts Floating)
    (batch : RecordBatch Floating) (row : Nat) : List String :=
  batch.columns.map fun column =>
    cellText (column.field.name, pgType column.field.dataType)
      ((column.cells[row]?.join).map (casts.shown column.field.dataType))

/-- The literals of all rows. -/
def literalRows (casts : Casts Floating)
    (batches : List (RecordBatch Floating)) : List (List String) :=
  batches.flatMap fun batch =>
    (List.range batch.numRows).map (batch.literals casts)

variable {casts : Casts Floating}

theorem cast_eq_ok {column : Column Floating}
    {texts : List (Option String)} (ok : casts.cast column = .ok texts) :
    texts =
      column.cells.map (Option.map (casts.shown column.field.dataType)) := by
  rw [Casts.cast] at ok
  split at ok
  · cases ok
  · cases ok
    rfl

theorem tuples_eq_ok {batch : RecordBatch Floating}
    {tuples : List (List String)}
    (ok : batch.tuples casts (targetColumns batch.fields) = .ok tuples) :
    tuples = (List.range batch.numRows).map (batch.literals casts) := by
  rw [RecordBatch.tuples] at ok
  cases areCast : batch.columns.mapM casts.cast with
  | error reason =>
      rw [areCast] at ok
      cases ok
  | ok textCols =>
      have texts := eq_map_of_mapM (fun _ _ => cast_eq_ok) areCast
      rw [areCast] at ok
      cases ok
      apply List.map_congr_left
      intro row _
      rw [texts, RecordBatch.literals, targetColumns, RecordBatch.fields,
        List.map_map, List.zip_map', List.map_map]
      apply List.map_congr_left
      intro column _
      simp only [Function.comp_apply, List.getElem?_map]
      cases column.cells[row]? with
      | none => rfl
      | some cell => rfl

/-! ## The statements of a load -/

/-- Send statements one after the other, up to the first that fails. -/
def Target.sendAll (target : Target Row) :
    List (String × Statement) → Effect (Session Row) String Unit
  | [] => pure ()
  | step :: rest => do
      target.batchExecute step.1 step.2
      target.sendAll rest

theorem sendAll_append (target : Target Row)
    (first second : List (String × Statement)) :
    target.sendAll (first ++ second) =
      (target.sendAll first >>= fun _ => target.sendAll second) := by
  induction first with
  | nil => rfl
  | cons step first ih =>
      rw [List.cons_append, Target.sendAll, Target.sendAll, ih,
        Effect.bind_assoc]

/-- The groups of rows up to the first batch with a column that is not cast. -/
def groups (casts : Casts Floating) (cols : List TargetColumn) :
    List (RecordBatch Floating) → List (List (List String)) × Bool
  | [] => ([], false)
  | batch :: rest =>
      if batch.numRows = 0 then groups casts cols rest
      else
        match batch.tuples casts cols with
        | .error _ => ([], true)
        | .ok tuples =>
            (chunks 500 tuples ++ (groups casts cols rest).1,
              (groups casts cols rest).2)

variable {batches : List (RecordBatch Floating)}

/-- If every column is cast, the groups have all the rows in their order. -/
theorem flatten_groups {fields : List Field}
    (uniform : ∀ batch ∈ batches, batch.fields = fields)
    (areCast : (groups casts (targetColumns fields) batches).2 = false) :
    (groups casts (targetColumns fields) batches).1.flatten =
      literalRows casts batches := by
  induction batches with
  | nil => rfl
  | cons batch rest ih =>
      rw [List.forall_mem_cons] at uniform
      rw [groups] at areCast ⊢
      rw [literalRows, List.flatMap_cons, ← literalRows]
      by_cases empty : batch.numRows = 0
      · rw [if_pos empty] at areCast ⊢
        rw [ih uniform.2 areCast, empty]
        rfl
      · rw [if_neg empty] at areCast ⊢
        cases areTuples : batch.tuples casts (targetColumns fields) with
        | error reason =>
            rw [areTuples] at areCast
            cases areCast
        | ok tuples =>
            rw [areTuples] at areCast
            rw [← uniform.1] at areTuples
            dsimp only at areCast ⊢
            rw [List.flatten_append, flatten_chunks, tuples_eq_ok areTuples,
              ih uniform.2 areCast]

theorem length_of_mem_groups {cols : List TargetColumn}
    {chunk : List (List String)}
    (member : chunk ∈ (groups casts cols batches).1) :
    0 < chunk.length ∧ chunk.length ≤ 500 := by
  induction batches with
  | nil => exact absurd member List.not_mem_nil
  | cons batch rest ih =>
      rw [groups] at member
      split at member
      · exact ih member
      · split at member
        · exact absurd member List.not_mem_nil
        · rcases List.mem_append.mp member with here | later
          · exact length_of_mem_chunks (by decide) _ here
          · exact ih later

/-- The insertion of a group, with what its failure is reported as. -/
def insertion (cols : List TargetColumn) (schema table : String)
    (chunk : List (List String)) : String × Statement :=
  ("insert rows", .insert schema table cols chunk)

def rowCount (chunks : List (List (List String))) : Nat :=
  (chunks.map List.length).sum

theorem insertChunks_eq (target : Target Row) (cols : List TargetColumn)
    (schema table : String) (written : Nat) (chunks : List (List (List String))) :
    insertChunks target cols schema table written chunks =
      (target.sendAll (chunks.map (insertion cols schema table)) >>= fun _ =>
        pure (written + rowCount chunks)) := by
  induction chunks generalizing written with
  | nil => rfl
  | cons chunk chunks ih =>
      have total :
          written + rowCount (chunk :: chunks) =
            written + chunk.length + rowCount chunks := by
        rw [rowCount, List.map_cons, List.sum_cons, rowCount]
        omega
      rw [insertChunks, ih, List.map_cons, Target.sendAll, Effect.bind_assoc,
        total]
      rfl

/-- What follows the last group: the count, or the failure of a cast. -/
def finish (castFails : Bool) (written : Nat) :
    Effect (Session Row) String Nat :=
  if castFails then .fail "cast result column to text" else pure written

theorem loadBatches_eq (casts : Casts Floating) (target : Target Row)
    (cols : List TargetColumn) (schema table : String) (written : Nat)
    (batches : List (RecordBatch Floating)) :
    loadBatches casts target cols schema table written batches =
      (target.sendAll
          ((groups casts cols batches).1.map (insertion cols schema table))
        >>= fun _ =>
          finish (groups casts cols batches).2
            (written + rowCount (groups casts cols batches).1)) := by
  induction batches generalizing written with
  | nil => rfl
  | cons batch rest ih =>
      rw [loadBatches, groups]
      by_cases empty : batch.numRows = 0
      · rw [if_pos empty, if_pos empty]
        exact ih written
      · rw [if_neg empty, if_neg empty]
        cases batch.tuples casts cols with
        | error reason => rfl
        | ok tuples =>
            have total :
                rowCount (chunks 500 tuples ++ (groups casts cols rest).1) =
                  rowCount (chunks 500 tuples) +
                    rowCount (groups casts cols rest).1 := by
              simp [rowCount]
            dsimp only
            rw [insertChunks_eq, Effect.bind_assoc, List.map_append,
              sendAll_append, Effect.bind_assoc, total]
            congr 1
            funext _
            rw [Effect.pure_bind, ih, Nat.add_assoc]

/-- The statements that a load sends if all are carried out. -/
def steps (cols : List TargetColumn) (schema table : String) (mode : WriteMode)
    (chunks : List (List (List String))) : List (String × Statement) :=
  ("create schema", .createSchema schema) ::
    ((if mode = .replace then
        [("drop existing table", .dropTable schema table),
          ("create target table", .createTable schema table cols)]
      else []) ++
      chunks.map (insertion cols schema table))

theorem load_eq (casts : Casts Floating) (target : Target Row)
    (cols : List TargetColumn) (schema table : String)
    (batches : List (RecordBatch Floating)) (mode : WriteMode) :
    load casts target cols schema table batches mode =
      (target.sendAll
          (steps cols schema table mode (groups casts cols batches).1)
        >>= fun _ =>
          finish (groups casts cols batches).2
            (rowCount (groups casts cols batches).1)) := by
  rw [load, steps, Target.sendAll, Effect.bind_assoc, sendAll_append,
    loadBatches_eq, Nat.zero_add]
  congr 1
  funext _
  cases mode with
  | replace =>
      rw [if_pos rfl, if_pos rfl, Target.sendAll, Target.sendAll,
        Target.sendAll]
      simp only [Effect.bind_assoc, Effect.pure_bind]
  | append =>
      rw [if_neg (by decide), if_neg (by decide), Target.sendAll]
      simp only [Effect.pure_bind]

/-! ## Answers -/

def Reply.applied : Reply → Bool
  | .carriedOut => true
  | .failed isApplied => isApplied
  | .timedOut isApplied => isApplied

/-- How many of so many statements are carried out, from one on. -/
def carriedOut (replies : Nat → Reply) (start : Nat) : Nat → Nat
  | 0 => 0
  | count + 1 =>
      match replies start with
      | .carriedOut => carriedOut replies (start + 1) count + 1
      | reply => if reply.applied then 1 else 0

/-- None of so many statements fails, from one on. -/
def NoneFails (replies : Nat → Reply) (start count : Nat) : Prop :=
  ∀ index < count, replies (start + index) = .carriedOut

theorem noneFails_succ_iff {replies : Nat → Reply} {start count : Nat} :
    NoneFails replies start (count + 1) ↔
      replies start = .carriedOut ∧ NoneFails replies (start + 1) count := by
  constructor
  · intro none
    refine ⟨none 0 (Nat.succ_pos count), ?_⟩
    intro index below
    have later := none (index + 1) (Nat.succ_lt_succ below)
    rwa [show start + (index + 1) = start + 1 + index by omega] at later
  · rintro ⟨first, later⟩ index below
    cases index with
    | zero => exact first
    | succ index =>
        rw [show start + (index + 1) = start + 1 + index by omega]
        exact later index (Nat.lt_of_succ_lt_succ below)

theorem carriedOut_of_noneFails {replies : Nat → Reply} {start count : Nat}
    (none : NoneFails replies start count) :
    carriedOut replies start count = count := by
  induction count generalizing start with
  | zero => rfl
  | succ count ih =>
      rcases noneFails_succ_iff.mp none with ⟨first, later⟩
      rw [carriedOut, first]
      exact congrArg (· + 1) (ih later)

theorem sendAll_of_noneFails {target : Target Row} {session : Session Row}
    {steps : List (String × Statement)}
    (none : NoneFails target.replies session.sent.length steps.length) :
    target.sendAll steps session =
      (.ok (),
        ⟨(steps.map Prod.snd).foldl target.apply session.table,
          session.sent ++ steps.map Prod.snd⟩) := by
  induction steps generalizing session with
  | nil => simp [Target.sendAll]
  | cons step steps ih =>
      rcases noneFails_succ_iff.mp none with ⟨first, later⟩
      have sends :
          target.batchExecute step.1 step.2 session =
            (.ok (), ⟨target.apply session.table step.2,
              session.sent ++ [step.2]⟩) := by
        rw [Target.batchExecute, first]
      have grown :
          (session.sent ++ [step.2]).length = session.sent.length + 1 :=
        List.length_append
      rw [Target.sendAll, Effect.bind_ok sends, ih (by rwa [grown])]
      simp

/-- What is left when a statement fails: what was carried out until then. -/
theorem sendAll_of_failure {target : Target Row} {session : Session Row}
    {steps : List (String × Statement)}
    (fails : ¬ NoneFails target.replies session.sent.length steps.length) :
    ∃ failure after, target.sendAll steps session = (.error failure, after) ∧
      after.table =
        ((steps.map Prod.snd).take
          (carriedOut target.replies session.sent.length steps.length)).foldl
            target.apply session.table := by
  induction steps generalizing session with
  | nil => exact absurd (fun _ below => absurd below (Nat.not_lt_zero _)) fails
  | cons step steps ih =>
      rw [List.length_cons, noneFails_succ_iff, not_and] at fails
      rw [Target.sendAll, List.length_cons, carriedOut, List.map_cons]
      cases answer : target.replies session.sent.length with
      | carriedOut =>
          have sends :
              target.batchExecute step.1 step.2 session =
                (.ok (), ⟨target.apply session.table step.2,
                  session.sent ++ [step.2]⟩) := by
            rw [Target.batchExecute, answer]
          have grown :
              (session.sent ++ [step.2]).length = session.sent.length + 1 :=
            List.length_append
          have later :
              ¬ NoneFails target.replies (session.sent ++ [step.2]).length
                steps.length := by
            rw [grown]
            exact fails answer
          rw [Effect.bind_ok sends]
          rcases @ih ⟨target.apply session.table step.2, _⟩ later with
            ⟨failure, after, ran, left⟩
          refine ⟨failure, after, ran, ?_⟩
          rw [left, grown]
          rfl
      | failed isApplied =>
          refine
            ⟨step.1, _, Effect.bind_error (by rw [Target.batchExecute, answer]),
              ?_⟩
          cases isApplied <;> rfl
      | timedOut isApplied =>
          refine
            ⟨timedOutMessage, _,
              Effect.bind_error (by rw [Target.batchExecute, answer]), ?_⟩
          cases isApplied <;> rfl

end OpenSnow.Server.PgSink
