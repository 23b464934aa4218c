import Mathlib.Algebra.Order.Ring.Int
import Mathlib.Data.List.Forall2
import Mathlib.Data.Set.Basic
import Mathlib.Tactic.Positivity

/-!
# Result rows of the wire protocol

Batches are columns of cells.  A row is announced by the types of its schema
and encoded as texts, cell by cell; whether a cell is null is read off the text
that displays it.
-/

namespace OpenSnow.Server.PgRows

/-! ## Types -/

/-- The types of columns. -/
inductive DataType where
  | boolean
  | int8
  | int16
  | int32
  | int64
  | uInt8
  | uInt16
  | uInt32
  | uInt64
  | float32
  | float64
  | utf8
  | largeUtf8
  | date32
  | date64
  | timestamp (unit : String) (zone : Option String)
  | other (debug : String)
deriving DecidableEq, Repr

/-- The types that are announced. -/
inductive PgType where
  | bool
  | int2
  | int4
  | int8
  | float4
  | float8
  | varchar
  | date
  | timestamp
deriving DecidableEq, Repr

def arrowTypeToPg : DataType → PgType
  | .boolean => .bool
  | .int8 | .int16 => .int2
  | .int32 => .int4
  | .int64 => .int8
  | .uInt8 | .uInt16 => .int2
  | .uInt32 => .int4
  | .uInt64 => .int8
  | .float32 => .float4
  | .float64 => .float8
  | .utf8 | .largeUtf8 => .varchar
  | .date32 | .date64 => .date
  | .timestamp _ _ => .timestamp
  | .other _ => .varchar

inductive FieldFormat where
  | text
  | binary
deriving DecidableEq, Repr

structure FieldInfo where
  name : String
  tableId : Option Int
  columnId : Option Int
  datatype : PgType
  format : FieldFormat
deriving DecidableEq, Repr

/-- A column of a schema. -/
structure ColumnField where
  name : String
  dataType : DataType
deriving DecidableEq, Repr

def schemaToFieldInfo (schema : List ColumnField) : List FieldInfo :=
  schema.map fun field =>
    ⟨field.name, none, none, arrowTypeToPg field.dataType, .text⟩

/-! ## Batches -/

/-- A cell: null, a string, or a value of another type. -/
inductive Cell (Value : Type) where
  | null
  | string (text : String)
  | value (value : Value)
deriving DecidableEq, Repr

/-- Columns of one length, one for each field of the schema. -/
structure ColumnBatch (Value : Type) where
  schema : List ColumnField
  numRows : Nat
  columns : List (Fin numRows → Cell Value)
  aligned : columns.length = schema.length

variable {Value Encoder Row : Type}

/-- The cells of a row. -/
def ColumnBatch.row (batch : ColumnBatch Value) (index : Fin batch.numRows) :
    List (Cell Value) :=
  batch.columns.map (· index)

def ColumnBatch.rows (batch : ColumnBatch Value) : List (List (Cell Value)) :=
  (List.finRange batch.numRows).map batch.row

/-! ## Encoding -/

/-- The encoder of data rows. -/
structure RowEncoder (Encoder Row : Type) where
  new : List FieldInfo → Encoder
  /-- The encoder behind a field, which is null without a text. -/
  encodeField : Encoder → Option String → Encoder
  finish : Encoder → Row
  /-- The fields that a data row carries to the client. -/
  read : Row → Option (List (Option String))

/-- As many text fields as are announced are what the data row carries. -/
def RowEncoder.Faithful (encoder : RowEncoder Encoder Row) : Prop :=
  ∀ (fields : List FieldInfo) (texts : List (Option String)),
    (∀ field ∈ fields, field.format = .text) →
      texts.length = fields.length →
        encoder.read
            (encoder.finish
              (texts.foldl encoder.encodeField (encoder.new fields))) =
          some texts

/-- The text that a cell is encoded as, from how it is displayed. -/
def encodedText (displayed : Except String String) : Option String :=
  let val := displayed.toOption.getD "NULL"
  if val = "NULL" ∨ val.isEmpty then none else some val

def encodeRow (encoder : RowEncoder Encoder Row)
    (display : Cell Value → Except String String) (fields : List FieldInfo)
    (batch : ColumnBatch Value) (rowIdx : Fin batch.numRows) : Row :=
  encoder.finish
    (batch.columns.foldl
      (fun state col =>
        encoder.encodeField state (encodedText (display (col rowIdx))))
      (encoder.new fields))

def encodeBatches (encoder : RowEncoder Encoder Row)
    (display : Cell Value → Except String String)
    (batches : List (ColumnBatch Value)) (fields : List FieldInfo) :
    List Row :=
  batches.flatMap fun batch =>
    (List.finRange batch.numRows).map
      (encodeRow encoder display fields batch)

/-! ## What is expected -/

/-- A null cell has no text, and a string cell its own. -/
structure Renders (display : Cell Value → Except String String) : Prop where
  null : display .null = .ok ""
  string : ∀ text, display (.string text) = .ok text

/-- A field is null for a null cell alone, and else what displays the cell. -/
def Carries (display : Cell Value → Except String String)
    (cell : Cell Value) (field : Option String) : Prop :=
  (field = none ↔ cell = .null) ∧
    ∀ text, field = some text → display cell = .ok text

/-- There is one data row for each row, with one field for each cell. -/
def RowsCarried (encoder : RowEncoder Encoder Row)
    (display : Cell Value → Except String String)
    (batches : List (ColumnBatch Value)) (rows : List Row) : Prop :=
  List.Forall₂
    (fun cells row => ∃ fields, encoder.read row = some fields ∧
      List.Forall₂ (Carries display) cells fields)
    (batches.flatMap ColumnBatch.rows) rows

/-- The integers in two's complement. -/
def signed (bits : Nat) : Set Int :=
  {value | -2 ^ (bits - 1) ≤ value ∧ value < 2 ^ (bits - 1)}

def unsigned (bits : Nat) : Set Int := {value | 0 ≤ value ∧ value < 2 ^ bits}

/-- The values of an integer type. -/
def DataType.integers : DataType → Set Int
  | .int8 => signed 8
  | .int16 => signed 16
  | .int32 => signed 32
  | .int64 => signed 64
  | .uInt8 => unsigned 8
  | .uInt16 => unsigned 16
  | .uInt32 => unsigned 32
  | .uInt64 => unsigned 64
  | _ => ∅

def PgType.integers : PgType → Set Int
  | .int2 => signed 16
  | .int4 => signed 32
  | .int8 => signed 64
  | _ => ∅

/-- Every integer of the type is one of the type that is announced. -/
def Fits (dataType : DataType) : Prop :=
  dataType.integers ⊆ (arrowTypeToPg dataType).integers

/-- A cell that is not null is displayed by a text that is not taken for null. -/
def Shown (display : Cell Value → Except String String) (cell : Cell Value) :
    Prop :=
  cell ≠ .null → ∃ text, display cell = .ok text ∧ text ≠ "" ∧ text ≠ "NULL"

/-- The unsigned types that are announced as signed ones of their size. -/
def IsNarrowed (dataType : DataType) : Prop :=
  dataType = .uInt16 ∨ dataType = .uInt32 ∨ dataType = .uInt64

/-! ## The types that are announced -/

theorem signed_mono {bits more : Nat} (fewer : bits ≤ more) :
    signed bits ⊆ signed more := by
  rintro value ⟨low, high⟩
  have powers : (2 : Int) ^ (bits - 1) ≤ 2 ^ (more - 1) :=
    pow_le_pow_right₀ (by decide) (by omega)
  exact ⟨by omega, by omega⟩

theorem unsigned_subset_signed {bits more : Nat} (fewer : bits < more) :
    unsigned bits ⊆ signed more := by
  rintro value ⟨low, high⟩
  have powers : (2 : Int) ^ bits ≤ 2 ^ (more - 1) :=
    pow_le_pow_right₀ (by decide) (by omega)
  exact ⟨by omega, by omega⟩

/-- The largest unsigned integer has no place among as many signed bits. -/
theorem not_unsigned_subset_signed {bits : Nat} (positive : 0 < bits) :
    ¬ unsigned bits ⊆ signed bits := by
  intro inside
  have powers : (2 : Int) ^ bits = 2 * 2 ^ (bits - 1) := by
    rw [← pow_succ', Nat.sub_add_cancel positive]
  have large : (0 : Int) < 2 ^ (bits - 1) := by positivity
  have member : (2 : Int) ^ bits - 1 ∈ unsigned bits :=
    ⟨by omega, by omega⟩
  have high := (inside member).2
  omega

theorem fits_iff (dataType : DataType) :
    Fits dataType ↔ ¬ IsNarrowed dataType := by
  cases dataType with
  | int8 => exact iff_of_true (signed_mono (by decide)) (by simp [IsNarrowed])
  | int16 | int32 | int64 =>
      exact iff_of_true (signed_mono le_rfl) (by simp [IsNarrowed])
  | uInt8 =>
      exact
        iff_of_true (unsigned_subset_signed (by decide))
          (by simp [IsNarrowed])
  | uInt16 | uInt32 | uInt64 =>
      exact
        iff_of_false (not_unsigned_subset_signed (by decide))
          (by simp [IsNarrowed])
  | _ => exact iff_of_true (Set.empty_subset _) (by simp [IsNarrowed])

/-! ## The rows that are encoded -/

section Rows

variable {encoder : RowEncoder Encoder Row}
  {display : Cell Value → Except String String} {schema : List ColumnField}
  {batches : List (ColumnBatch Value)}

theorem format_schemaToFieldInfo {field : FieldInfo}
    (announced : field ∈ schemaToFieldInfo schema) : field.format = .text := by
  obtain ⟨column, _, rfl⟩ := List.mem_map.mp announced
  rfl

/-- A data row carries the encoded texts of the cells of its row. -/
theorem read_encodeRow (faithful : encoder.Faithful)
    (batch : ColumnBatch Value) (rowIdx : Fin batch.numRows) :
    encoder.read
        (encodeRow encoder display (schemaToFieldInfo batch.schema) batch
          rowIdx) =
      some ((batch.row rowIdx).map (encodedText ∘ display)) := by
  have lengths :
      ((batch.row rowIdx).map (encodedText ∘ display)).length =
        (schemaToFieldInfo batch.schema).length := by
    simp [ColumnBatch.row, schemaToFieldInfo, batch.aligned]
  have carried :=
    faithful _ _ (fun _ announced => format_schemaToFieldInfo announced) lengths
  simpa only [encodeRow, ColumnBatch.row, List.foldl_map,
    Function.comp_apply] using carried

/-- The rows of all batches are encoded in order, each as one data row. -/
theorem read_encodeBatches (faithful : encoder.Faithful)
    (common : ∀ batch ∈ batches, batch.schema = schema) :
    (encodeBatches encoder display batches (schemaToFieldInfo schema)).map
        encoder.read =
      (batches.flatMap ColumnBatch.rows).map fun cells =>
        some (cells.map (encodedText ∘ display)) := by
  rw [encodeBatches, List.map_flatMap, List.map_flatMap]
  refine List.flatMap_congr fun batch member => ?_
  rw [ColumnBatch.rows, List.map_map, List.map_map]
  refine List.map_congr_left fun rowIdx _ => ?_
  rw [← common batch member]
  exact read_encodeRow faithful batch rowIdx

theorem rowsCarried_encodeBatches_iff (faithful : encoder.Faithful)
    (common : ∀ batch ∈ batches, batch.schema = schema) :
    RowsCarried encoder display batches
        (encodeBatches encoder display batches (schemaToFieldInfo schema)) ↔
      ∀ cells ∈ batches.flatMap ColumnBatch.rows, ∀ cell ∈ cells,
        Carries display cell (encodedText (display cell)) := by
  unfold RowsCarried
  rw [← List.forall₂_map_right_iff (f := encoder.read)
      (R := fun cells reading => ∃ fields, reading = some fields ∧
        List.Forall₂ (Carries display) cells fields),
    read_encodeBatches faithful common, List.forall₂_map_right_iff,
    List.forall₂_same]
  simp only [Option.some.injEq, exists_eq_left', List.forall₂_map_right_iff,
    List.forall₂_same, Function.comp_apply]

end Rows

/-! ## The cells that are read back -/

theorem encodedText_eq_none_iff {displayed : Except String String} :
    encodedText displayed = none ↔
      ∀ text, displayed = .ok text → text = "" ∨ text = "NULL" := by
  cases displayed with
  | error message => simp [encodedText, Except.toOption]
  | ok text =>
      simp [encodedText, Except.toOption, String.isEmpty_iff,
        ← or_iff_not_imp_left, or_comm]

theorem encodedText_eq_some {displayed : Except String String} {text : String}
    (encoded : encodedText displayed = some text) : displayed = .ok text := by
  cases displayed with
  | error message => simp [encodedText, Except.toOption] at encoded
  | ok val =>
      rw [encodedText, Option.ite_none_left_eq_some] at encoded
      simpa [Except.toOption] using encoded.2

variable {display : Cell Value → Except String String}

/-- A cell is carried exactly when its text does not pass for null. -/
theorem carries_encodedText_iff
    (renders : Renders display) (cell : Cell Value) :
    Carries display cell (encodedText (display cell)) ↔ Shown display cell := by
  have texts : ∀ text, encodedText (display cell) = some text →
      display cell = .ok text :=
    fun _ => encodedText_eq_some
  rw [Carries, and_iff_left texts]
  constructor
  · intro nulls present
    have some := mt nulls.mp present
    rw [encodedText_eq_none_iff] at some
    push Not at some
    exact some
  · intro shown
    rw [encodedText_eq_none_iff]
    constructor
    · intro hidden
      by_contra present
      obtain ⟨text, displayed, nonempty, notNull⟩ := shown present
      exact (hidden text displayed).elim nonempty notNull
    · rintro rfl text displayed
      rw [renders.null] at displayed
      cases displayed
      exact .inl rfl

theorem shown_string_iff (renders : Renders display) (text : String) :
    Shown display (.string text) ↔ text ≠ "" ∧ text ≠ "NULL" := by
  simp [Shown, renders.string]

/-! ## Results -/

/-- Results arrive as they are exactly when no text that displays a cell passes
for null and no column is narrowed. -/
theorem encodeBatches_faithful_iff {encoder : RowEncoder Encoder Row}
    {display : Cell Value → Except String String} {schema : List ColumnField}
    {batches : List (ColumnBatch Value)} (faithful : encoder.Faithful)
    (renders : Renders display)
    (common : ∀ batch ∈ batches, batch.schema = schema) :
    (RowsCarried encoder display batches
        (encodeBatches encoder display batches (schemaToFieldInfo schema)) ∧
      ∀ field ∈ schema, Fits field.dataType) ↔
    (∀ cells ∈ batches.flatMap ColumnBatch.rows, ∀ cell ∈ cells,
        Shown display cell) ∧
      ∀ field ∈ schema, ¬ IsNarrowed field.dataType := by
  rw [rowsCarried_encodeBatches_iff faithful common]
  simp only [carries_encodedText_iff renders, fits_iff]

/-- The encoder that keeps the fields, for one row. -/
def listEncoder : RowEncoder (List (Option String)) (List (Option String)) where
  new _ := []
  encodeField fields text := fields ++ [text]
  finish := id
  read := some

theorem foldl_listEncoder (texts done : List (Option String)) :
    texts.foldl listEncoder.encodeField done = done ++ texts := by
  induction texts generalizing done with
  | nil => exact (List.append_nil done).symm
  | cons text rest ih =>
      rw [List.foldl_cons, ih]
      exact List.append_assoc done [text] rest

theorem listEncoder_faithful : listEncoder.Faithful :=
  fun _ texts _ _ => congrArg some (foldl_listEncoder texts [])

/-- Integers are displayed in decimal digits. -/
def displayInt : Cell Int → Except String String
  | .null => .ok ""
  | .string text => .ok text
  | .value value => .ok (toString value)

theorem displayInt_renders : Renders displayInt := ⟨rfl, fun _ => rfl⟩

def namesSchema : List ColumnField := [⟨"ID", .int64⟩, ⟨"NAME", .utf8⟩]

/-- One row of an identifier and a name. -/
def namesBatch (name : Cell Int) : ColumnBatch Int where
  schema := namesSchema
  numRows := 1
  columns := [fun _ => .value 7, fun _ => name]
  aligned := rfl

theorem encodeBatches_faithful_iff_name :
    (RowsCarried listEncoder displayInt [namesBatch (.string "Ada")]
        (encodeBatches listEncoder displayInt [namesBatch (.string "Ada")]
          (schemaToFieldInfo namesSchema)) ∧
      ∀ field ∈ namesSchema, Fits field.dataType) ↔
    (∀ cells ∈ [namesBatch (.string "Ada")].flatMap ColumnBatch.rows,
        ∀ cell ∈ cells, Shown displayInt cell) ∧
      ∀ field ∈ namesSchema, ¬ IsNarrowed field.dataType :=
  encodeBatches_faithful_iff listEncoder_faithful displayInt_renders
    (by simp [namesBatch])

/-- A name of the four letters of `NULL` reaches the client as no name. -/
theorem encodeBatches_nulls_name :
    listEncoder.Faithful ∧ Renders displayInt ∧
      encodeBatches listEncoder displayInt [namesBatch (.string "NULL")]
          (schemaToFieldInfo namesSchema) =
        [[some "7", none]] ∧
      ¬ RowsCarried listEncoder displayInt [namesBatch (.string "NULL")]
          (encodeBatches listEncoder displayInt [namesBatch (.string "NULL")]
            (schemaToFieldInfo namesSchema)) ∧
      ¬ ∀ dataType, Fits dataType := by
  refine ⟨listEncoder_faithful, displayInt_renders, by decide, ?_, ?_⟩
  · rw [rowsCarried_encodeBatches_iff listEncoder_faithful
      (by simp [namesBatch])]
    intro carried
    have name := carried [.value 7, .string "NULL"] (by decide)
      (.string "NULL") (List.mem_cons_of_mem _ List.mem_cons_self)
    rw [carries_encodedText_iff displayInt_renders,
      shown_string_iff displayInt_renders] at name
    exact name.2 rfl
  · intro fits
    exact (fits_iff _).mp (fits .uInt64) (.inr (.inr rfl))

end OpenSnow.Server.PgRows
