import Mathlib.Data.List.Basic
import Mathlib.Tactic.Common

/-!
# Conditional functions

`IFF`, `NVL` and `NVL2` choose between columns row by row.  An Arrow column has
a buffer of values and a mark for each row that says whether it holds a value;
the buffer has some value under a NULL, too.
-/

namespace OpenSnow.Compat

/-! ## Columns -/

/-- A row of a column: its value in the buffer, and whether it is one. -/
structure Slot (Value : Type) where
  isValid : Bool
  value : Value
deriving DecidableEq, Repr

namespace Slot

variable {Value : Type}

def valid (value : Value) : Slot Value := ⟨true, value⟩

/-- The value, or NULL. -/
def cell (slot : Slot Value) : Option Value :=
  if slot.isValid then some slot.value else none

@[simp]
theorem cell_valid (value : Value) : (valid value).cell = some value := rfl

end Slot

/--
An array of booleans, of strings, or of another type, whose values can be NULL
without a mark (as those of dictionaries).
-/
inductive ArrayRef (Value : Type) where
  | boolean (slots : List (Slot Bool))
  | utf8 (slots : List (Slot String))
  | other (dataType : String) (slots : List (Slot (Option Value)))
deriving DecidableEq, Repr

inductive DataType where
  | boolean
  | utf8
  | other (dataType : String)
deriving DecidableEq, Repr

/-- What a row holds. -/
inductive Cell (Value : Type) where
  | boolean (value : Bool)
  | text (value : String)
  | other (value : Value)
deriving DecidableEq, Repr

section

variable {Value : Type}

def ArrayRef.dataType : ArrayRef Value → DataType
  | .boolean _ => .boolean
  | .utf8 _ => .utf8
  | .other dataType _ => .other dataType

/-- The rows of an array, where NULL is `none`. -/
def ArrayRef.cells : ArrayRef Value → List (Option (Cell Value))
  | .boolean slots => slots.map fun slot => slot.cell.map .boolean
  | .utf8 slots => slots.map fun slot => slot.cell.map .text
  | .other _ slots => slots.map fun slot => slot.cell.join.map .other

/-- The marks of an array. -/
def ArrayRef.marks : ArrayRef Value → List Bool
  | .boolean slots => slots.map Slot.isValid
  | .utf8 slots => slots.map Slot.isValid
  | .other _ slots => slots.map Slot.isValid

/-- One value for all rows. -/
inductive ScalarValue (Value : Type) where
  | boolean (value : Option Bool)
  | utf8 (value : Option String)
  | other (dataType : String) (slot : Slot (Option Value))
deriving DecidableEq, Repr

/-- The row of a scalar; the buffer is empty under a NULL. -/
def ScalarValue.slot {Value : Type} (empty : Value) : Option Value → Slot Value
  | some value => .valid value
  | none => ⟨false, empty⟩

def ScalarValue.toArrayOfSize (size : Nat) : ScalarValue Value → ArrayRef Value
  | .boolean value => .boolean (List.replicate size (slot false value))
  | .utf8 value => .utf8 (List.replicate size (slot "" value))
  | .other dataType slot => .other dataType (List.replicate size slot)

inductive ColumnarValue (Value : Type) where
  | array (array : ArrayRef Value)
  | scalar (scalar : ScalarValue Value)
deriving DecidableEq, Repr

def ColumnarValue.intoArray (numRows : Nat) :
    ColumnarValue Value → ArrayRef Value
  | .array whole => whole
  | .scalar one => one.toArrayOfSize numRows

/-! ## The functions -/

inductive Failure where
  | internal (message : String)
  | panicked
deriving DecidableEq, Repr

/-- `value` of an array: what the buffer has, whatever the mark says. -/
def value {Element : Type} (slots : List (Slot Element)) (row : Nat) :
    Except Failure Element :=
  match slots[row]? with
  | some slot => .ok slot.value
  | none => .error .panicked

/-- The mark of a row, of which `is_null` is the negation. -/
def isValid (marks : List Bool) (row : Nat) : Except Failure Bool :=
  match marks[row]? with
  | some mark => .ok mark
  | none => .error .panicked

/--
The branch that the functions share: of two string arrays a text is picked for
each row; other arrays are not looked at, and the first is returned.
-/
def pickBatch (pick : Nat → Except Failure Bool) (numRows : Nat) :
    ArrayRef Value → ArrayRef Value → Except Failure (ColumnarValue Value)
  | .utf8 first, .utf8 second => do
      let texts ← (List.range numRows).mapM fun row => do
        if ← pick row then value first row else value second row
      return .array (.utf8 (texts.map Slot.valid))
  | first, _ => .ok (.array first)

def iffInvokeBatch (condition trueVal falseVal : ColumnarValue Value)
    (numRows : Nat) : Except Failure (ColumnarValue Value) :=
  match condition.intoArray numRows with
  | .boolean cond =>
      pickBatch (value cond) numRows (trueVal.intoArray numRows)
        (falseVal.intoArray numRows)
  | _ => .error (.internal "IFF: first arg must be boolean")

def nvlInvokeBatch (expr default : ColumnarValue Value) (numRows : Nat) :
    Except Failure (ColumnarValue Value) :=
  pickBatch (isValid (expr.intoArray numRows).marks) numRows
    (expr.intoArray numRows) (default.intoArray numRows)

def nvl2InvokeBatch (expr notNull nullVal : ColumnarValue Value)
    (numRows : Nat) : Except Failure (ColumnarValue Value) :=
  pickBatch (isValid (expr.intoArray numRows).marks) numRows
    (notNull.intoArray numRows) (nullVal.intoArray numRows)

/-! ## What is meant -/

/-- The cell of a row. -/
def ArrayRef.cell (array : ArrayRef Value) (row : Nat) : Option (Cell Value) :=
  array.cells[row]?.join

/-- A column with the expected cell in each row, and no other rows. -/
def Follows (numRows : Nat) (result : Except Failure (ColumnarValue Value))
    (expected : Nat → Option (Cell Value)) : Prop :=
  ∃ array, result = .ok (.array array) ∧ array.cells.length = numRows ∧
    ∀ row < numRows, array.cell row = expected row

/-- Two arguments of one type with a cell for every row. -/
structure Operands (Value : Type) (numRows : Nat) where
  first : ColumnarValue Value
  second : ColumnarValue Value
  sameType : (first.intoArray numRows).dataType =
    (second.intoArray numRows).dataType
  firstRows : (first.intoArray numRows).cells.length = numRows
  secondRows : (second.intoArray numRows).cells.length = numRows

/-- The cell of the first operand where it is to be chosen. -/
def Operands.choice {numRows : Nat} (operands : Operands Value numRows)
    (isFirst : Nat → Bool) (row : Nat) : Option (Cell Value) :=
  if isFirst row then (operands.first.intoArray numRows).cell row
  else (operands.second.intoArray numRows).cell row

/-- A condition with a row for every row of the operands. -/
structure Condition (Value : Type) (numRows : Nat) where
  column : ColumnarValue Value
  slots : List (Slot Bool)
  isBoolean : column.intoArray numRows = .boolean slots
  rows : slots.length = numRows

/-- The condition is true; it is not where it is NULL. -/
def Condition.isTrue {numRows : Nat} (condition : Condition Value numRows)
    (row : Nat) : Bool :=
  condition.slots[row]?.bind Slot.cell == some true

/-- The bit of the condition in the buffer. -/
def Condition.bit {numRows : Nat} (condition : Condition Value numRows)
    (row : Nat) : Bool :=
  condition.slots[row]?.any Slot.value

/-- The expression has a value. -/
def hasValue (expr : ColumnarValue Value) (numRows row : Nat) : Bool :=
  ((expr.intoArray numRows).cell row).isSome

/-! ## When it is done -/

/-- Both rows have the same text in the buffer. -/
def SameText (first second : List (Slot String)) (row : Nat) : Prop :=
  first[row]?.map Slot.value = second[row]?.map Slot.value

/--
A row of strings is right if the chosen cell is not NULL and the code picks
this operand, or one with the same text in its buffer.  A row of another type
is right if the first operand is chosen, or the second has the same cell.
-/
def Operands.Spared {numRows : Nat} (operands : Operands Value numRows)
    (picked isFirst : Nat → Bool) (row : Nat) : Prop :=
  match operands.first.intoArray numRows,
      operands.second.intoArray numRows with
  | .utf8 first, .utf8 second =>
      operands.choice isFirst row ≠ none ∧
        (picked row = isFirst row ∨ SameText first second row)
  | first, second => isFirst row = true ∨ first.cell row = second.cell row

/-! ## Rows of strings -/

theorem exists_slot {Element : Type} {slots : List (Slot Element)}
    {numRows row : Nat} (rows : slots.length = numRows)
    (inside : row < numRows) : ∃ slot, slots[row]? = some slot :=
  ⟨_, List.getElem?_eq_getElem (rows.symm ▸ inside)⟩

theorem cell_utf8 {slots : List (Slot String)} {row : Nat}
    {slot : Slot String} (here : slots[row]? = some slot) :
    (ArrayRef.utf8 slots : ArrayRef Value).cell row =
      slot.cell.map .text := by
  rw [ArrayRef.cell, ArrayRef.cells, List.getElem?_map, here]
  rfl

/-- A chosen slot is copied if it is valid and the picked one has its text. -/
theorem cell_eq_iff {isFirst picked : Bool} {first second : Slot String} :
    (if isFirst then first.cell else second.cell) =
        some (if picked then first.value else second.value) ↔
      (if isFirst then first.cell else second.cell) ≠ none ∧
        (picked = isFirst ∨ first.value = second.value) := by
  obtain ⟨isValid, text⟩ := first
  obtain ⟨isValid', text'⟩ := second
  cases isFirst <;> cases picked <;> cases isValid <;> cases isValid' <;>
    simp [Slot.cell, eq_comm]

theorem mapM_eq_ok {Element Result : Type}
    {perform : Element → Except Failure Result} {result : Element → Result} :
    ∀ {list : List Element},
      (∀ element ∈ list, perform element = .ok (result element)) →
        list.mapM perform = .ok (list.map result)
  | [], _ => rfl
  | first :: rest, performs => by
      rw [List.forall_mem_cons] at performs
      rw [List.mapM_cons, performs.1, mapM_eq_ok performs.2]
      rfl

/-! ## All rows -/

variable {numRows : Nat}

theorem follows_ok_iff {array : ArrayRef Value}
    {expected : Nat → Option (Cell Value)}
    (rows : array.cells.length = numRows) :
    Follows numRows (.ok (.array array)) expected ↔
      ∀ row < numRows, array.cell row = expected row := by
  constructor
  · rintro ⟨other, isResult, -, follows⟩
    cases isResult
    exact follows
  · intro follows
    exact ⟨array, rfl, rows, follows⟩

/-- The text in the buffer. -/
def bufferText (slots : List (Slot String)) (row : Nat) : String :=
  slots[row]?.elim "" Slot.value

theorem pickBatch_utf8 {first second : List (Slot String)}
    (firstRows : first.length = numRows) (secondRows : second.length = numRows)
    {pick : Nat → Except Failure Bool} {picked : Nat → Bool}
    (picks : ∀ row < numRows, pick row = .ok (picked row)) :
    pickBatch pick numRows (.utf8 first) (.utf8 second) =
      (.ok (.array (.utf8 ((List.range numRows).map fun row =>
        .valid (if picked row then bufferText first row
          else bufferText second row)))) :
        Except Failure (ColumnarValue Value)) := by
  have texts : (List.range numRows).mapM (fun row => do
      if ← pick row then value first row else value second row) =
      .ok ((List.range numRows).map fun row =>
        if picked row then bufferText first row
        else bufferText second row) := by
    apply mapM_eq_ok
    intro row member
    have inside := List.mem_range.mp member
    obtain ⟨slot, here⟩ := exists_slot firstRows inside
    obtain ⟨slot', here'⟩ := exists_slot secondRows inside
    simp only [picks row inside, bind, Except.bind, value, here, here',
      bufferText, Option.elim_some]
    cases picked row <;> rfl
  rw [pickBatch, texts]
  simp only [bind, Except.bind, List.map_map]
  rfl

theorem texts_injective : Function.Injective (@Cell.text Value) := by
  rintro left right ⟨⟩
  rfl

variable (operands : Operands Value numRows)

/-- A batch is right if every row is. -/
theorem follows_pickBatch_iff {pick : Nat → Except Failure Bool}
    {picked isFirst : Nat → Bool}
    (picks : ∀ slots, operands.first.intoArray numRows = .utf8 slots →
      ∀ row < numRows, pick row = .ok (picked row)) :
    Follows numRows
        (pickBatch pick numRows (operands.first.intoArray numRows)
          (operands.second.intoArray numRows))
        (operands.choice isFirst) ↔
      ∀ row < numRows, operands.Spared picked isFirst row := by
  obtain ⟨first, second, sameType, firstRows, secondRows⟩ := operands
  unfold Operands.Spared Operands.choice
  dsimp only at picks ⊢
  have fallback : Follows numRows (.ok (.array (first.intoArray numRows)))
      (fun row => if isFirst row then (first.intoArray numRows).cell row
        else (second.intoArray numRows).cell row) ↔
      ∀ row < numRows, isFirst row = true ∨
        (first.intoArray numRows).cell row =
          (second.intoArray numRows).cell row := by
    rw [follows_ok_iff firstRows]
    refine forall₂_congr fun row _ => ?_
    cases isFirst row <;> simp
  match isLeft : first.intoArray numRows, isRight : second.intoArray numRows
  with
  | .utf8 left, .utf8 right =>
      rw [isLeft, ArrayRef.cells, List.length_map] at firstRows
      rw [isRight, ArrayRef.cells, List.length_map] at secondRows
      rw [pickBatch_utf8 firstRows secondRows (picks left isLeft),
        follows_ok_iff (by simp [ArrayRef.cells])]
      refine forall₂_congr fun row inside => ?_
      obtain ⟨slot, here⟩ := exists_slot firstRows inside
      obtain ⟨slot', here'⟩ := exists_slot secondRows inside
      have copied : ((List.range numRows).map fun row => Slot.valid
          (if picked row then bufferText left row
            else bufferText right row))[row]? =
          some (.valid (if picked row then slot.value else slot'.value)) := by
        simp [inside, bufferText, here, here']
      have chosen : (if isFirst row then slot.cell.map Cell.text
          else slot'.cell.map Cell.text) =
          ((if isFirst row then slot.cell else slot'.cell).map .text :
            Option (Cell Value)) := by
        cases isFirst row <;> rfl
      dsimp only
      rw [cell_utf8 copied, cell_utf8 here, cell_utf8 here', chosen,
        SameText, here, here', Slot.cell_valid,
        (Option.map_injective texts_injective).eq_iff, eq_comm, cell_eq_iff,
        ne_eq, ne_eq, Option.map_eq_none_iff, Option.map_some,
        Option.map_some, Option.some_inj]
  | .boolean left, _ =>
      rw [isLeft, isRight] at fallback
      exact fallback
  | .other dataType left, _ =>
      rw [isLeft, isRight] at fallback
      exact fallback
  | .utf8 left, .boolean right =>
      rw [isLeft, isRight] at fallback
      exact fallback
  | .utf8 left, .other dataType right =>
      rw [isLeft, isRight] at fallback
      exact fallback

/-! ## The functions -/

theorem iff_follows_iff (condition : Condition Value numRows)
    (operands : Operands Value numRows) :
    Follows numRows
        (iffInvokeBatch condition.column operands.first operands.second
          numRows)
        (operands.choice condition.isTrue) ↔
      ∀ row < numRows, operands.Spared condition.bit condition.isTrue row := by
  rw [iffInvokeBatch, condition.isBoolean]
  refine follows_pickBatch_iff operands fun _ _ row inside => ?_
  obtain ⟨slot, here⟩ := exists_slot condition.rows inside
  rw [value, Condition.bit, here]
  rfl

/-- The mark of a string says whether it is NULL. -/
theorem isValid_marks {expr : ColumnarValue Value}
    {slots : List (Slot String)} (isText : expr.intoArray numRows = .utf8 slots)
    (rows : (expr.intoArray numRows).cells.length = numRows) {row : Nat}
    (inside : row < numRows) :
    isValid (expr.intoArray numRows).marks row =
      .ok (hasValue expr numRows row) := by
  rw [isText, ArrayRef.cells, List.length_map] at rows
  obtain ⟨slot, here⟩ := exists_slot rows inside
  rw [hasValue, isText, isValid, ArrayRef.marks, List.getElem?_map, here,
    cell_utf8 here, Slot.cell]
  cases mark : slot.isValid <;> simp [mark]

theorem nvl_follows_iff :
    Follows numRows
        (nvlInvokeBatch operands.first operands.second numRows)
        (operands.choice (hasValue operands.first numRows)) ↔
      ∀ row < numRows,
        operands.Spared (hasValue operands.first numRows)
          (hasValue operands.first numRows) row :=
  follows_pickBatch_iff operands fun _ isText _ inside =>
    isValid_marks isText operands.firstRows inside

/-- An expression of the type of the operands. -/
structure Expression (Value : Type) {numRows : Nat}
    (operands : Operands Value numRows) where
  column : ColumnarValue Value
  sameType : (column.intoArray numRows).dataType =
    (operands.first.intoArray numRows).dataType
  rows : (column.intoArray numRows).cells.length = numRows

theorem eq_utf8_of_dataType {array : ArrayRef Value}
    (isText : array.dataType = .utf8) : ∃ slots, array = .utf8 slots := by
  cases array with
  | utf8 slots => exact ⟨slots, rfl⟩
  | boolean | other => cases isText

theorem nvl2_follows_iff (expr : Expression Value operands) :
    Follows numRows
        (nvl2InvokeBatch expr.column operands.first operands.second numRows)
        (operands.choice (hasValue expr.column numRows)) ↔
      ∀ row < numRows,
        operands.Spared (hasValue expr.column numRows)
          (hasValue expr.column numRows) row := by
  refine follows_pickBatch_iff operands fun slots isText row inside => ?_
  have sameType := expr.sameType
  rw [isText] at sameType
  obtain ⟨texts, isText⟩ := eq_utf8_of_dataType sameType
  exact isValid_marks isText expr.rows inside

end

/--
`IFF`, `NVL` and `NVL2` choose row by row exactly when no row has one of the
shapes that they do not choose in.
-/
theorem conditionals_follow_iff {Value : Type} {numRows : Nat}
    (operands : Operands Value numRows) (condition : Condition Value numRows)
    (expr : Expression Value operands) :
    (Follows numRows
        (iffInvokeBatch condition.column operands.first operands.second
          numRows)
        (operands.choice condition.isTrue) ↔
      ∀ row < numRows,
        operands.Spared condition.bit condition.isTrue row) ∧
    (Follows numRows
        (nvlInvokeBatch operands.first operands.second numRows)
        (operands.choice (hasValue operands.first numRows)) ↔
      ∀ row < numRows,
        operands.Spared (hasValue operands.first numRows)
          (hasValue operands.first numRows) row) ∧
    (Follows numRows
        (nvl2InvokeBatch expr.column operands.first operands.second numRows)
        (operands.choice (hasValue expr.column numRows)) ↔
      ∀ row < numRows,
        operands.Spared (hasValue expr.column numRows)
          (hasValue expr.column numRows) row) :=
  ⟨iff_follows_iff condition operands, nvl_follows_iff operands,
    nvl2_follows_iff operands expr⟩

/-! ## Wrong choices -/

/-- The numbers 1 and 2. -/
def oneAndTwo : Operands Nat 1 where
  first := .array (.other "Int64" [.valid (some 1)])
  second := .scalar (.other "Int64" (.valid (some 2)))
  sameType := rfl
  firstRows := rfl
  secondRows := rfl

/-- NULL twice, as strings. -/
def nullTexts : Operands Nat 1 where
  first := .scalar (.utf8 none)
  second := .scalar (.utf8 none)
  sameType := rfl
  firstRows := rfl
  secondRows := rfl

def alwaysFalse : Condition Nat 1 where
  column := .scalar (.boolean (some false))
  slots := [.valid false]
  isBoolean := rfl
  rows := rfl

/-- `IFF(false, 1, 2)` is 1, and `NVL(NULL, NULL)` is an empty string. -/
theorem conditionals_misread :
    ¬ Follows 1
        (iffInvokeBatch alwaysFalse.column oneAndTwo.first oneAndTwo.second 1)
        (oneAndTwo.choice alwaysFalse.isTrue) ∧
      ¬ Follows 1 (nvlInvokeBatch nullTexts.first nullTexts.second 1)
        (nullTexts.choice (hasValue nullTexts.first 1)) := by
  rw [iff_follows_iff, nvl_follows_iff]
  constructor
  · intro spared
    rcases spared 0 Nat.zero_lt_one with isTrue | same
    · exact absurd isTrue (by decide)
    · exact absurd same (by decide)
  · intro spared
    exact (spared 0 Nat.zero_lt_one).1 (by decide)

end OpenSnow.Compat
