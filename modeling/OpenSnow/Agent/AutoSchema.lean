import OpenSnow.Foundation.Lists
import OpenSnow.Rust.Integer
import OpenSnow.Rust.Json
import OpenSnow.Rust.Slice

/-!
# Schemas inferred from a sample

The columns of a table are read off the first row of a sample: a column for each
of its keys, with a type that its value looks like.
-/

namespace OpenSnow.Agent.AutoSchema

open Foundation
open Rust.Integer
open Rust.Json
open Rust.Text

/-! ## Values and their texts -/

/-- A character as it stands in the text of a JSON string. -/
def escape (ch : Char) : List Char :=
  match ch with
  | '"' => ['\\', '"']
  | '\\' => ['\\', '\\']
  | '\n' => ['\\', 'n']
  | '\r' => ['\\', 'r']
  | '\t' => ['\\', 't']
  | ch =>
      if ch.toNat = 0x08 then ['\\', 'b']
      else if ch.toNat = 0x0C then ['\\', 'f']
      else if ch.toNat < 0x20 then
        ['\\', 'u', '0', '0', Nat.digitChar (ch.toNat / 16),
          Nat.digitChar (ch.toNat % 16)]
      else [ch]

def printString (text : String) : List Char :=
  '"' :: (text.toList.flatMap escape ++ ['"'])

mutual

/-- `Value::to_string`. -/
def print : Value → List Char
  | .null => "null".toList
  | .bool value => (if value then "true" else "false").toList
  | .number text => text.toList
  | .string text => printString text
  | .array items => '[' :: (printItems items ++ [']'])
  | .object fields => '{' :: (printFields fields ++ ['}'])

def printItems : List Value → List Char
  | [] => []
  | [item] => print item
  | item :: rest => print item ++ ',' :: printItems rest

def printFields : List (String × Value) → List Char
  | [] => []
  | [(key, value)] => printString key ++ ':' :: print value
  | (key, value) :: rest =>
      printString key ++ ':' :: (print value ++ ',' :: printFields rest)

end

/-- `Number::is_f64`: such a number is printed with a point or an exponent. -/
def isF64 (number : String) : Bool :=
  number.toList.any fun ch => ch == '.' || ch == 'e'

/-- The integer that a number without these is. -/
def integerOf (number : String) : Option Int :=
  match number.toList with
  | '-' :: digits => (parseDigits digits).map fun value => -(value : Int)
  | digits => (parseDigits digits).map fun value => (value : Int)

/-- `Number::is_i64`. -/
def isI64 (number : String) : Bool :=
  !isF64 number && (integerOf number).any fun value => decide (FitsI64 value)

/-! ## Inference -/

inductive SqlType where
  | bigint
  | double
  | boolean
  | timestamp
  | date
  | varchar
deriving DecidableEq, Repr

/-- A column; the texts of the types are the upper-case names of the cases. -/
structure ColumnSuggestion where
  name : String
  dataType : SqlType
  nullable : Bool
  description : String
deriving DecidableEq, Repr

def looksLikeTimestamp (text : String) : Bool :=
  let chars := text.toList
  19 ≤ utf8Len chars && (chars.contains 'T' || chars.contains ' ') &&
    chars.contains ':'

def looksLikeDate (text : String) : Bool :=
  utf8Len text.toList == 10 && text.toList.count '-' == 2

def truncate (value : Value) (max : Nat) : Panics (List Char) :=
  let shown := print value
  if max < utf8Len shown then (sliceTo shown max).map (· ++ "...".toList)
  else some shown

def dataTypeOf : Value → SqlType
  | .number number =>
      if isI64 number then .bigint
      else if isF64 number then .double
      else .varchar
  | .bool _ => .boolean
  | .string text =>
      if looksLikeTimestamp text then .timestamp
      else if looksLikeDate text then .date
      else .varchar
  | .null | .array _ | .object _ => .varchar

def inferColumn (field : String × Value) : Panics ColumnSuggestion := do
  let shown ← truncate field.2 50
  some
    { name := field.1
      dataType := dataTypeOf field.2
      nullable := field.2.isNull
      description := "Inferred from sample value: " ++ String.ofList shown }

/-- The columns of an object, or why there are none. -/
def inferColumns (object : Value) (expected : String) :
    Panics (Except String (List ColumnSuggestion)) :=
  match object with
  | .object fields => (fields.mapM inferColumn).map .ok
  | _ => some (.error expected)

/-- `fromStr` reads a text as a JSON value, or says what is wrong with it. -/
def inferSchemaFromJson (fromStr : String → Except String Value)
    (jsonStr : String) : Panics (Except String (List ColumnSuggestion)) :=
  match fromStr jsonStr with
  | .error problem => some (.error ("Invalid JSON: " ++ problem))
  | .ok (.array (first :: _)) => inferColumns first "Expected array of objects"
  | .ok value => inferColumns value "Expected JSON object or array of objects"

/-! ## What the columns promise -/

/-- Which texts denote points of time, and which denote days. -/
structure Readings where
  timestamp : String → Prop
  date : String → Prop

/-- The values of a type. -/
def SqlType.Admits (readings : Readings) : SqlType → Value → Prop
  | .bigint, value => ∃ number, value = .number number ∧ isI64 number
  | .double, value => ∃ number, value = .number number
  | .boolean, value => ∃ held, value = .bool held
  | .timestamp, value => ∃ text, value = .string text ∧ readings.timestamp text
  | .date, value => ∃ text, value = .string text ∧ readings.date text
  | .varchar, _ => True

/-- A missing value and a null need a column that takes them. -/
def ColumnSuggestion.Takes (readings : Readings) (column : ColumnSuggestion) :
    Option Value → Prop
  | none | some .null => column.nullable
  | some value => column.dataType.Admits readings value

/-- Every key of the row is a column, and every column takes its value. -/
structure Conforms (readings : Readings) (columns : List ColumnSuggestion)
    (row : Fields) : Prop where
  known : ∀ field ∈ row, ∃ column ∈ columns, column.name = field.1
  taken : ∀ column ∈ columns, column.Takes readings (row.get column.name)

def fieldsOf : Value → Option Fields
  | .object fields => some fields
  | _ => none

/-- The rows of a sample: an object, or an array of at least one object. -/
def rowsOf : Value → Option (Fields × List Fields)
  | .object fields => some (fields, [])
  | .array (first :: others) => do
      some (← fieldsOf first, ← others.mapM fieldsOf)
  | _ => none

/-- The call returns columns that all rows of the sample conform to. -/
def FitsSample (readings : Readings) (fromStr : String → Except String Value)
    (jsonStr : String) : Prop :=
  ∀ value first others, fromStr jsonStr = .ok value →
    rowsOf value = some (first, others) →
      ∃ columns, inferSchemaFromJson fromStr jsonStr = some (.ok columns) ∧
        ∀ row ∈ first :: others, Conforms readings columns row

/-! ## What the first row shows -/

/-- Another value is of the kind that this one looks like. -/
def Alike (readings : Readings) : Value → Value → Prop
  | .number number, other =>
      if isI64 number then ∃ found, other = .number found ∧ isI64 found
      else isF64 number → ∃ found, other = .number found
  | .bool _, other => ∃ found, other = .bool found
  | .string text, other =>
      if looksLikeTimestamp text then
        ∃ found, other = .string found ∧ readings.timestamp found
      else looksLikeDate text → ∃ found, other = .string found ∧ readings.date found
  | .null, _ | .array _, _ | .object _, _ => True

/-- The text of the value can be cut for a description. -/
def CanCut (value : Value) : Prop :=
  utf8Len (print value) ≤ 50 ∨ IsBoundary (print value) 50

/-- A row has no other keys than the first, and values like those of the first. -/
structure LikeFirst (readings : Readings) (first row : Fields) : Prop where
  keys : ∀ field ∈ row, ∃ shown ∈ first, shown.1 = field.1
  values : ∀ shown ∈ first, shown.2.isNull = false →
    ∃ value, row.get shown.1 = some value ∧ value.isNull = false ∧
      Alike readings shown.2 value

/-! ## Columns -/

/-- The column of a field, if its value can be described. -/
def columnOf (field : String × Value) : ColumnSuggestion where
  name := field.1
  dataType := dataTypeOf field.2
  nullable := field.2.isNull
  description :=
    "Inferred from sample value: " ++
      String.ofList ((truncate field.2 50).getD [])

theorem truncate_isSome_iff {value : Value} :
    (truncate value 50).isSome ↔ CanCut value := by
  rw [truncate, CanCut]
  split_ifs with long
  · rw [Option.isSome_map, sliceTo_isSome_iff]
    exact (or_iff_right (Nat.not_le.mpr long)).symm
  · exact iff_of_true rfl (Or.inl (Nat.not_lt.mp long))

theorem inferColumn_eq_some_iff {field : String × Value}
    {column : ColumnSuggestion} :
    inferColumn field = some column ↔
      column = columnOf field ∧ CanCut field.2 := by
  rw [← truncate_isSome_iff, inferColumn, columnOf]
  cases truncate field.2 50 with
  | none => simp
  | some shown => simp [eq_comm]

theorem inferred_iff {first : Fields} {columns : List ColumnSuggestion} :
    first.mapM inferColumn = some columns ↔
      columns = first.map columnOf ∧ ∀ shown ∈ first, CanCut shown.2 := by
  rw [mapM_eq_some_iff]
  constructor
  · intro inferred
    induction inferred with
    | nil => exact ⟨rfl, nofun⟩
    | cons head tail ih =>
        rcases inferColumn_eq_some_iff.mp head with ⟨rfl, canCut⟩
        rcases ih with ⟨rfl, others⟩
        exact ⟨rfl, List.forall_mem_cons.mpr ⟨canCut, others⟩⟩
  · rintro ⟨rfl, canCut⟩
    rw [List.forall₂_map_right_iff]
    exact List.forall₂_same.mpr fun shown member =>
      inferColumn_eq_some_iff.mpr ⟨rfl, canCut shown member⟩

variable (readings : Readings)

/-- The values of the type of a value are those like it. -/
theorem admits_dataTypeOf_iff (shown value : Value) :
    (dataTypeOf shown).Admits readings value ↔ Alike readings shown value := by
  cases shown with
  | number number =>
      rw [dataTypeOf, Alike]
      split_ifs with integer float
      · rfl
      · exact ⟨fun admits _ => admits, fun alike => alike float⟩
      · exact iff_of_true trivial fun isFloat => absurd isFloat float
  | string text =>
      rw [dataTypeOf, Alike]
      split_ifs with timestamp date
      · rfl
      · exact ⟨fun admits _ => admits, fun alike => alike date⟩
      · exact iff_of_true trivial fun isDate => absurd isDate date
  | null => exact Iff.rfl
  | bool held => exact Iff.rfl
  | array items => exact Iff.rfl
  | object fields => exact Iff.rfl

theorem takes_columnOf_iff (shown : String × Value) (held : Option Value) :
    (columnOf shown).Takes readings held ↔
      (shown.2.isNull = false →
        ∃ value, held = some value ∧ value.isNull = false ∧
          Alike readings shown.2 value) := by
  have nullable : (columnOf shown).nullable = shown.2.isNull := rfl
  have missing : (columnOf shown).nullable ↔ shown.2.isNull ≠ false := by
    rw [nullable, ne_eq, Bool.not_eq_false]
  have admits := admits_dataTypeOf_iff readings shown.2
  cases held with
  | none =>
      rw [ColumnSuggestion.Takes, missing]
      simp
  | some value =>
      cases isNull : value.isNull with
      | true =>
          cases value with
          | null =>
              rw [ColumnSuggestion.Takes, missing]
              simp [Value.isNull]
          | _ => cases isNull
      | false =>
          have takes : (columnOf shown).Takes readings (some value) ↔
              (dataTypeOf shown.2).Admits readings value := by
            cases value with
            | null => cases isNull
            | _ => exact Iff.rfl
          rw [takes, admits]
          constructor
          · exact fun alike _ => ⟨value, rfl, isNull, alike⟩
          · intro like
            cases empty : shown.2.isNull with
            | true =>
                -- A null shows nothing of the other values.
                cases null : shown.2 with
                | null => trivial
                | _ =>
                    rw [null] at empty
                    cases empty
            | false =>
                rcases like empty with ⟨found, same, -, alike⟩
                rw [Option.some.inj same]
                exact alike

theorem conforms_iff (first row : Fields) :
    Conforms readings (first.map columnOf) row ↔ LikeFirst readings first row := by
  have known (key : String) :
      (∃ column ∈ first.map columnOf, column.name = key) ↔
        ∃ shown ∈ first, shown.1 = key := by
    simp [columnOf]
  have taken :
      (∀ column ∈ first.map columnOf, column.Takes readings (row.get column.name)) ↔
        ∀ shown ∈ first, shown.2.isNull = false →
          ∃ value, row.get shown.1 = some value ∧ value.isNull = false ∧
            Alike readings shown.2 value := by
    rw [List.forall_mem_map]
    exact forall₂_congr fun shown _ => takes_columnOf_iff readings shown _
  constructor
  · intro conforms
    exact ⟨fun field member => (known _).mp (conforms.known field member),
      taken.mp conforms.taken⟩
  · intro like
    exact ⟨fun field member => (known _).mpr (like.keys field member),
      taken.mpr like.values⟩

/-- The columns are those of the first row. -/
theorem inferSchemaFromJson_eq {fromStr : String → Except String Value}
    {jsonStr : String} {value : Value} {first : Fields} {others : List Fields}
    (parsed : fromStr jsonStr = .ok value)
    (sample : rowsOf value = some (first, others)) :
    inferSchemaFromJson fromStr jsonStr = (first.mapM inferColumn).map .ok := by
  rw [inferSchemaFromJson, parsed]
  cases value with
  | object fields =>
      cases sample
      rfl
  | array items =>
      cases items with
      | nil => cases sample
      | cons item items =>
          cases item with
          | object fields =>
              simp only [rowsOf, fieldsOf, bind, Option.bind] at sample
              split at sample
              · cases sample
              · cases sample
                rfl
          | _ => cases sample
  | _ => cases sample

/--
A sample fits the columns that are inferred from it exactly when its first row
shows what the others hold and can be described.
-/
theorem inferredSchema_iff (readings : Readings)
    (fromStr : String → Except String Value) (jsonStr : String) :
    FitsSample readings fromStr jsonStr ↔
      ∀ value first others, fromStr jsonStr = .ok value →
        rowsOf value = some (first, others) →
          (∀ shown ∈ first, CanCut shown.2) ∧
            ∀ row ∈ first :: others, LikeFirst readings first row := by
  have perSample {value : Value} {first : Fields} {others : List Fields}
      (parsed : fromStr jsonStr = .ok value)
      (sample : rowsOf value = some (first, others)) :
      (∃ columns, inferSchemaFromJson fromStr jsonStr = some (.ok columns) ∧
          ∀ row ∈ first :: others, Conforms readings columns row) ↔
        (∀ shown ∈ first, CanCut shown.2) ∧
          ∀ row ∈ first :: others, LikeFirst readings first row := by
    rw [inferSchemaFromJson_eq parsed sample]
    have returned (columns : List ColumnSuggestion) :
        ((first.mapM inferColumn).map Except.ok : Panics (Except String _)) =
            some (.ok columns) ↔
          columns = first.map columnOf ∧ ∀ shown ∈ first, CanCut shown.2 := by
      rw [← inferred_iff, Option.map_eq_some_iff]
      constructor
      · rintro ⟨found, inferred, same⟩
        rw [inferred, Except.ok.inj same]
      · exact fun inferred => ⟨columns, inferred, rfl⟩
    simp only [returned]
    constructor
    · rintro ⟨columns, ⟨rfl, canCut⟩, conforms⟩
      exact ⟨canCut, fun row member =>
        (conforms_iff readings first row).mp (conforms row member)⟩
    · rintro ⟨canCut, like⟩
      exact ⟨_, ⟨rfl, canCut⟩, fun row member =>
        (conforms_iff readings first row).mpr (like row member)⟩
  exact forall₃_congr fun value first others => forall₂_congr perSample

/-- The first row shows an integer, and the second holds a text. -/
theorem text_in_bigint :
    ¬ FitsSample ⟨fun _ => True, fun _ => True⟩
      (fun _ => .ok
        (.array [.object [("a", .number "1")], .object [("a", .string "x")]]))
      "[\x7b\"a\":1\x7d,\x7b\"a\":\"x\"\x7d]" := by
  intro fits
  rcases fits _ _ _ rfl rfl with ⟨columns, inferred, conforms⟩
  rw [inferSchemaFromJson_eq rfl rfl, Option.map_eq_some_iff] at inferred
  rcases inferred with ⟨found, inferred, same⟩
  cases same
  rcases inferred_iff.mp inferred with ⟨rfl, -⟩
  have second := conforms _ (List.mem_cons_of_mem _ List.mem_cons_self)
  rw [conforms_iff] at second
  rcases second.values _ List.mem_cons_self rfl with ⟨value, held, -, alike⟩
  have isText : value = .string "x" := (Option.some.inj held).symm
  have integer : isI64 "1" := by decide
  rw [isText, Alike, if_pos integer] at alike
  rcases alike with ⟨number, isNumber, -⟩
  cases isNumber

end OpenSnow.Agent.AutoSchema
