import OpenSnow.Foundation.Lists
import OpenSnow.Industry.Phones

/-!
# Functions of several arguments

An argument of a scalar function is a column of a batch or a literal.  Each
function makes arrays of its literals in its own way: most make arrays of one
row, and some make one as long as the array of the first argument.
-/

namespace OpenSnow.Industry.Broadcast

open Foundation
open Industry.Phones
open Rust.Text

/-! ## Arrays -/

/-- An array of values; without a null buffer none of them is null. -/
structure ArrowArray (Value : Type) where
  values : List Value
  nulls : Option (List Bool)
  sized : ∀ buffer ∈ nulls, buffer.length = values.length

variable {Value : Type}

def ArrowArray.len (array : ArrowArray Value) : Nat := array.values.length

/-- Only a null buffer is asked, and it panics behind its end. -/
def ArrowArray.isNull (array : ArrowArray Value) (row : Nat) : Panics Bool :=
  match array.nulls with
  | some buffer => buffer[row]?
  | none => some false

/-- The value of a row, also of one that is null; it panics behind the end. -/
def ArrowArray.value (array : ArrowArray Value) (row : Nat) : Panics Value :=
  array.values[row]?

/-- An argument of a function. -/
inductive ColumnarValue (Value : Type) where
  | column (array : ArrowArray Value)
  | literal (scalar : Option Value)

variable [Inhabited Value]

/-- `ScalarValue::to_array_of_size`. -/
def toArrayOfSize (scalar : Option Value) (size : Nat) : ArrowArray Value :=
  match scalar with
  | some value => ⟨List.replicate size value, none, nofun⟩
  | none =>
      ⟨List.replicate size default, some (List.replicate size true), by
        rintro buffer ⟨⟩
        rw [List.length_replicate, List.length_replicate]⟩

/-- The array of an argument, in which a literal takes so many rows. -/
def ColumnarValue.toArray (size : Nat) : ColumnarValue Value → ArrowArray Value
  | .column array => array
  | .literal scalar => toArrayOfSize scalar size

/-- Whether one of some arrays is null in a row: the first that is ends the search. -/
def anyNull : List (Nat → Panics Bool) → Nat → Panics Bool
  | [], _ => some false
  | isNull :: rest, row =>
      (isNull row).bind fun null => if null then some true else anyNull rest row

/-! ## Functions -/

/-- Arithmetic on floats. -/
structure Floats (Float : Type) where
  num : Nat → Float
  ofI32 : Int → Float
  add : Float → Float → Float
  sub : Float → Float → Float
  mul : Float → Float → Float
  div : Float → Float → Float
  powf : Float → Float → Float
  powi : Float → Nat → Float
  sqrt : Float → Float
  sin : Float → Float
  cos : Float → Float
  asin : Float → Float
  ceil : Float → Float
  toRadians : Float → Float

section

variable {Float : Type} [Inhabited Float] (floats : Floats Float)

def fxConvertValue (amount : Float) (_from _to : List Char) (rate : Float) : Float :=
  floats.mul amount rate

def compoundInterestValue (principal rate periods : Float) : Float :=
  floats.mul principal (floats.powf (floats.add (floats.num 1) rate) periods)

def haversine (lat1 lon1 lat2 lon2 : Float) : Float :=
  let half (angle : Float) : Float :=
    floats.powi (floats.sin (floats.div angle (floats.num 2))) 2
  let dLat := floats.toRadians (floats.sub lat2 lat1)
  let dLon := floats.toRadians (floats.sub lon2 lon1)
  let lat1R := floats.toRadians lat1
  let lat2R := floats.toRadians lat2
  let a :=
    floats.add (half dLat)
      (floats.mul (floats.mul (floats.cos lat1R) (floats.cos lat2R)) (half dLon))
  let c := floats.mul (floats.num 2) (floats.asin (floats.sqrt a))
  floats.mul (floats.num 6371) c

/-- What a call costs, rounded up to a hundredth. -/
def callCostValue (duration : Int) (rate : Float) : Float :=
  let minutes := floats.div (floats.ofI32 duration) (floats.num 60)
  floats.div (floats.ceil (floats.mul (floats.mul minutes rate) (floats.num 100)))
    (floats.num 100)

def fxConvert (amounts : ColumnarValue Float)
    (fromCurrencies toCurrencies : ColumnarValue (List Char))
    (rates : ColumnarValue Float) : Panics (List (Option Float)) :=
  let amounts := amounts.toArray 1
  let fromCurrencies := fromCurrencies.toArray 1
  let toCurrencies := toCurrencies.toArray 1
  let rates := rates.toArray 1
  (List.range amounts.len).mapM fun row =>
    (anyNull [amounts.isNull, rates.isNull] row).bind fun null =>
      if null then some none
      else
        (fromCurrencies.value row).bind fun fromC =>
          (toCurrencies.value row).bind fun toC =>
            (amounts.value row).bind fun amount =>
              (rates.value row).map fun rate =>
                some (fxConvertValue floats amount fromC toC rate)

def compoundInterest (principals rates periods : ColumnarValue Float) :
    Panics (List (Option Float)) :=
  let principals := principals.toArray 1
  let rates := rates.toArray 1
  let periods := periods.toArray 1
  (List.range principals.len).mapM fun row =>
    (anyNull [principals.isNull, rates.isNull, periods.isNull] row).bind
      fun null =>
        if null then some none
        else
          (principals.value row).bind fun principal =>
            (rates.value row).bind fun rate =>
              (periods.value row).map fun period =>
                some (compoundInterestValue floats principal rate period)

def towerDistance (lat1 lon1 lat2 lon2 : ColumnarValue Float) :
    Panics (List (Option Float)) :=
  let lat1 := lat1.toArray 1
  let lon1 := lon1.toArray 1
  let lat2 := lat2.toArray 1
  let lon2 := lon2.toArray 1
  (List.range lat1.len).mapM fun row =>
    (anyNull [lat1.isNull, lon1.isNull, lat2.isNull, lon2.isNull] row).bind
      fun null =>
        if null then some none
        else
          (lat1.value row).bind fun lat1 =>
            (lon1.value row).bind fun lon1 =>
              (lat2.value row).bind fun lat2 =>
                (lon2.value row).map fun lon2 =>
                  some (haversine floats lat1 lon1 lat2 lon2)

def callCost (durations : ColumnarValue Int) (rates : ColumnarValue Float) :
    Panics (List (Option Float)) :=
  let durations := durations.toArray 1
  let rates := rates.toArray durations.len
  (List.range durations.len).mapM fun row =>
    (anyNull [durations.isNull, rates.isNull] row).bind fun null =>
      if null then some none
      else
        (durations.value row).bind fun duration =>
          (rates.value row).map fun rate =>
            some (callCostValue floats duration rate)

end

def formatE164Rows (phones countries : ColumnarValue (List Char)) :
    Panics (List (Option (List Char))) :=
  let phones := phones.toArray 1
  let countries := countries.toArray phones.len
  (List.range phones.len).mapM fun row =>
    (anyNull [phones.isNull, countries.isNull] row).bind fun null =>
      if null then some none
      else
        (phones.value row).bind fun phone =>
          (countries.value row).map fun country =>
            some (formatE164 phone country)

/-! ## Rows -/

namespace ColumnarValue

/-- What the functions know of a row: a literal is the same in every row. -/
def nullAt (argument : ColumnarValue Value) (row : Nat) : Bool :=
  match argument with
  | .column array => (array.isNull row).getD false
  | .literal scalar => scalar.isNone

def valueAt (argument : ColumnarValue Value) (row : Nat) : Value :=
  match argument with
  | .column array => (array.value row).getD default
  | .literal scalar => scalar.getD default

omit [Inhabited Value]

def isColumn : ColumnarValue Value → Bool
  | .column _ => true
  | .literal _ => false

/-- A column has a value in every row of the batch. -/
def Fits (argument : ColumnarValue Value) (rows : Nat) : Prop :=
  match argument with
  | .column array => array.len = rows
  | .literal _ => True

end ColumnarValue

/-- An argument, as far as its kind and its nulls go. -/
structure Operand where
  isColumn : Bool
  null : Nat → Bool

omit [Inhabited Value] in
def ColumnarValue.operand (argument : ColumnarValue Value) : Operand :=
  ⟨argument.isColumn, argument.nullAt⟩

/-- A literal has an array of one row: a null buffer of one bit, or none. -/
def Operand.isNull (operand : Operand) (row : Nat) : Panics Bool :=
  if operand.isColumn ∨ row = 0 then some (operand.null row)
  else if operand.null row then none
  else some false

/-- A null column is found before a null literal is asked. -/
def Spared (tested : List Operand) (row : Nat) : Prop :=
  ∃ before operand after, tested = before ++ operand :: after ∧
    operand.isColumn ∧ operand.null row ∧
      ∀ earlier ∈ before, earlier.isColumn ∨ earlier.null row = false

/-- What a function makes of a row from arrays of its literals with one row. -/
def outcome {Result : Type} (tested : List Operand) (columns : Bool) (row : Nat)
    (result : Result) : Panics (Option Result) :=
  (anyNull (tested.map Operand.isNull) row).bind fun null =>
    if null then some none
    else if columns ∨ row = 0 then some (some result)
    else none

/-- What a function should make of a row. -/
def expected {Result : Type} (tested : List Operand) (row : Nat)
    (result : Result) : Option Result :=
  if tested.any (·.null row) then none else some result

section

variable {Result : Type} {tested : List Operand} {columns : Bool} {row : Nat}
  {result : Result}

theorem outcome_cons (operand : Operand) :
    outcome (operand :: tested) columns row result =
      (operand.isNull row).bind fun null =>
        if null then some none else outcome tested columns row result := by
  rw [outcome, List.map_cons, anyNull]
  cases operand.isNull row with
  | none => rfl
  | some null => cases null <;> rfl

theorem expected_cons (operand : Operand) :
    expected (operand :: tested) row result =
      if operand.null row then none else expected tested row result := by
  rw [expected, expected, List.any_cons]
  cases operand.null row <;> rfl

theorem spared_cons {operand : Operand} :
    Spared (operand :: tested) row ↔
      operand.isColumn ∧ operand.null row ∨
        (operand.isColumn ∨ operand.null row = false) ∧ Spared tested row := by
  constructor
  · rintro ⟨_ | ⟨first, before⟩, found, after, shape, column, null, earlier⟩
    · rw [List.nil_append, List.cons.injEq] at shape
      rw [shape.1]
      exact Or.inl ⟨column, null⟩
    · rw [List.cons_append, List.cons.injEq] at shape
      rw [List.forall_mem_cons] at earlier
      rw [shape.1]
      exact Or.inr ⟨earlier.1, before, found, after, shape.2, column, null, earlier.2⟩
  · rintro (⟨column, null⟩ | ⟨here, before, found, after, rfl, column, null, earlier⟩)
    · exact ⟨[], operand, tested, rfl, column, null, nofun⟩
    · exact
        ⟨operand :: before, found, after, rfl, column, null,
          List.forall_mem_cons.mpr ⟨here, earlier⟩⟩

theorem not_spared_nil : ¬ Spared [] row := by
  rintro ⟨before, found, after, shape, -⟩
  exact List.append_ne_nil_of_right_ne_nil before (List.cons_ne_nil _ _) shape.symm

theorem outcome_first :
    outcome tested columns 0 result = some (expected tested 0 result) := by
  induction tested with
  | nil => simp [outcome, expected, anyNull]
  | cons operand rest ih =>
      rw [outcome_cons, expected_cons, Operand.isNull, if_pos (Or.inr rfl),
        Option.bind_some]
      split
      · rfl
      · exact ih

/-- Behind the first row a function needs columns, or a null one of them. -/
theorem outcome_iff (later : row ≠ 0)
    (allColumns : columns → ∀ operand ∈ tested, operand.isColumn) :
    outcome tested columns row result = some (expected tested row result) ↔
      Spared tested row ∨ columns := by
  induction tested with
  | nil => cases columns <;> simp [outcome, expected, anyNull, later, not_spared_nil]
  | cons operand rest ih =>
      have others := ih fun isColumns =>
        (List.forall_mem_cons.mp (allColumns isColumns)).2
      rw [outcome_cons, expected_cons, spared_cons, Operand.isNull]
      cases isNull : operand.null row with
      | false => simpa using others
      | true =>
          cases isColumn : operand.isColumn with
          | true => simp
          | false =>
              have notColumns : columns = false := by
                cases columns with
                | false => rfl
                | true =>
                    have column := allColumns rfl operand List.mem_cons_self
                    rw [isColumn] at column
                    cases column
              simp [later, notColumns]

end

/-! ## Arrays of arguments -/

section

variable {argument : ColumnarValue Value} {rows row : Nat}
  (fits : argument.Fits rows)

omit [Inhabited Value] in
theorem isNull_of_inside {array : ArrowArray Value} (inside : row < array.len) :
    array.isNull row = some ((array.isNull row).getD false) := by
  rw [ArrowArray.isNull]
  cases nulls : array.nulls with
  | none => rfl
  | some buffer =>
      have bound : row < buffer.length :=
        (array.sized buffer nulls).symm ▸ inside
      simp [List.getElem?_eq_getElem bound]

theorem value_of_inside {array : ArrowArray Value} (inside : row < array.len) :
    array.value row = some ((array.value row).getD default) := by
  rw [ArrowArray.value, List.getElem?_eq_getElem inside]
  rfl

include fits

/-- The array of a literal with one row. -/
theorem toArray_isNull (inside : row < rows) :
    (argument.toArray 1).isNull row = argument.operand.isNull row := by
  cases argument with
  | column array =>
      have isColumn : (ColumnarValue.column array).operand.isColumn := rfl
      rw [Operand.isNull, if_pos (Or.inl isColumn)]
      exact isNull_of_inside (fits.symm ▸ inside)
  | literal scalar =>
      cases scalar with
      | some value => simp [Operand.isNull, ColumnarValue.toArray, toArrayOfSize,
          ArrowArray.isNull, ColumnarValue.operand, ColumnarValue.nullAt]
      | none =>
          cases row with
          | zero => rfl
          | succ row => rfl

theorem toArray_value (inside : row < rows) :
    (argument.toArray 1).value row =
      if argument.isColumn ∨ row = 0 then some (argument.valueAt row)
      else none := by
  cases argument with
  | column array =>
      have isColumn : (ColumnarValue.column array).isColumn := rfl
      rw [if_pos (Or.inl isColumn)]
      exact value_of_inside (fits.symm ▸ inside)
  | literal scalar =>
      cases scalar with
      | some value =>
          cases row with
          | zero => rfl
          | succ row => rfl
      | none =>
          cases row with
          | zero => rfl
          | succ row => rfl

theorem toArray_len :
    (argument.toArray 1).len = if argument.isColumn then rows else 1 := by
  cases argument with
  | column array => exact fits
  | literal scalar => cases scalar <;> rfl

/-- The array of a literal with as many rows as the batch. -/
theorem toArray_rows_isNull (inside : row < rows) :
    (argument.toArray rows).isNull row = some (argument.nullAt row) := by
  cases argument with
  | column array => exact isNull_of_inside (fits.symm ▸ inside)
  | literal scalar =>
      cases scalar with
      | some value => rfl
      | none =>
          simp [ColumnarValue.toArray, toArrayOfSize, ArrowArray.isNull,
            ColumnarValue.nullAt, inside]

theorem toArray_rows_value (inside : row < rows) :
    (argument.toArray rows).value row = some (argument.valueAt row) := by
  cases argument with
  | column array => exact value_of_inside (fits.symm ▸ inside)
  | literal scalar =>
      cases scalar <;>
        simp [ColumnarValue.toArray, toArrayOfSize, ArrowArray.value,
          ColumnarValue.valueAt, inside]

end

/-! ## Calls -/

/-- A call of one of the functions. -/
inductive Call (Float : Type) where
  | fxConvert (amount : ColumnarValue Float)
      (fromCurrency toCurrency : ColumnarValue (List Char))
      (rate : ColumnarValue Float)
  | compoundInterest (principal rate periods : ColumnarValue Float)
  | towerDistance (lat1 lon1 lat2 lon2 : ColumnarValue Float)
  | callCost (duration : ColumnarValue Int) (rate : ColumnarValue Float)
  | formatE164 (phone country : ColumnarValue (List Char))

section

variable {Float : Type} [Inhabited Float]

namespace Call

/-- The arguments in their order. -/
def operands : Call Float → List Operand
  | .fxConvert amount fromCurrency toCurrency rate =>
      [amount.operand, fromCurrency.operand, toCurrency.operand, rate.operand]
  | .compoundInterest principal rate periods =>
      [principal.operand, rate.operand, periods.operand]
  | .towerDistance lat1 lon1 lat2 lon2 =>
      [lat1.operand, lon1.operand, lat2.operand, lon2.operand]
  | .callCost duration rate => [duration.operand, rate.operand]
  | .formatE164 phone country => [phone.operand, country.operand]

/-- The arguments that are tested for nulls; the currencies are not. -/
def tested : Call Float → List Operand
  | .fxConvert amount _ _ rate => [amount.operand, rate.operand]
  | call => call.operands

omit [Inhabited Float] in
/-- Columns have as many rows as the batch. -/
def Fits (rows : Nat) : Call Float → Prop
  | .fxConvert amount fromCurrency toCurrency rate =>
      amount.Fits rows ∧ fromCurrency.Fits rows ∧ toCurrency.Fits rows ∧
        rate.Fits rows
  | .compoundInterest principal rate periods =>
      principal.Fits rows ∧ rate.Fits rows ∧ periods.Fits rows
  | .towerDistance lat1 lon1 lat2 lon2 =>
      lat1.Fits rows ∧ lon1.Fits rows ∧ lat2.Fits rows ∧ lon2.Fits rows
  | .callCost duration rate => duration.Fits rows ∧ rate.Fits rows
  | .formatE164 phone country => phone.Fits rows ∧ country.Fits rows

/-- The literal behind the first argument gets as many rows as that one. -/
def Follows : Call Float → Prop
  | .callCost _ _ | .formatE164 _ _ => True
  | _ => False

/-- The call returns a row for each row of the batch, the one it should. -/
def Broadcasts (floats : Floats Float) (rows : Nat) (call : Call Float) : Prop :=
  match call with
  | .fxConvert amount fromCurrency toCurrency rate =>
      Broadcast.fxConvert floats amount fromCurrency toCurrency rate =
        some ((List.range rows).map fun row =>
          expected call.tested row
            (fxConvertValue floats (amount.valueAt row)
              (fromCurrency.valueAt row) (toCurrency.valueAt row)
              (rate.valueAt row)))
  | .compoundInterest principal rate periods =>
      Broadcast.compoundInterest floats principal rate periods =
        some ((List.range rows).map fun row =>
          expected call.tested row
            (compoundInterestValue floats (principal.valueAt row)
              (rate.valueAt row) (periods.valueAt row)))
  | .towerDistance lat1 lon1 lat2 lon2 =>
      Broadcast.towerDistance floats lat1 lon1 lat2 lon2 =
        some ((List.range rows).map fun row =>
          expected call.tested row
            (haversine floats (lat1.valueAt row) (lon1.valueAt row)
              (lat2.valueAt row) (lon2.valueAt row)))
  | .callCost duration rate =>
      Broadcast.callCost floats duration rate =
        some ((List.range rows).map fun row =>
          expected call.tested row
            (callCostValue floats (duration.valueAt row) (rate.valueAt row)))
  | .formatE164 phone country =>
      formatE164Rows phone country =
        some ((List.range rows).map fun row =>
          expected call.tested row
            (Phones.formatE164 (phone.valueAt row) (country.valueAt row)))

end Call

/-- A call on a batch; some argument is a column of it. -/
structure Batch (Float : Type) [Inhabited Float] where
  call : Call Float
  rows : Nat
  positive : 0 < rows
  fits : call.Fits rows
  column : call.operands.any Operand.isColumn

/--
The batch has one row, or the first argument is a column and, where literals
have one row, every row but the first has a null column before any null literal
unless there are no literals.
-/
def Batch.Aligned (batch : Batch Float) : Prop :=
  batch.rows = 1 ∨
    batch.call.operands.head?.any Operand.isColumn ∧
      (batch.call.Follows ∨
        ∀ row, row ≠ 0 → row < batch.rows →
          Spared batch.call.tested row ∨
            batch.call.operands.all Operand.isColumn)

/-! ## Every batch -/

section

variable {Result : Type} {first : ColumnarValue Value} {rows : Nat}
  {tested operands : List Operand} {read : Nat → Panics (Option Result)}
  {result : Nat → Result} (fits : first.Fits rows)

include fits

/-- A call in which literals have one row. -/
theorem rows_iff (inside : tested ⊆ operands)
    (reads : ∀ row < rows,
      read row = outcome tested (operands.all Operand.isColumn) row (result row)) :
    (List.range (first.toArray 1).len).mapM read =
        some ((List.range rows).map fun row => expected tested row (result row)) ↔
      rows = 1 ∨ first.isColumn ∧
        ∀ row, row ≠ 0 → row < rows →
          Spared tested row ∨ operands.all Operand.isColumn := by
  have allColumns : operands.all Operand.isColumn → ∀ operand ∈ tested,
      operand.isColumn := fun columns operand member =>
    List.all_eq_true.mp columns operand (inside member)
  rw [mapM_range_eq_some_iff, toArray_len fits]
  constructor
  · rintro ⟨length, each⟩
    rw [or_iff_not_imp_left]
    intro many
    have isColumn : first.isColumn := by
      by_contra literal
      rw [if_neg literal] at length
      exact many length.symm
    refine ⟨isColumn, fun row later below => ?_⟩
    rw [← outcome_iff later allColumns, ← reads row below]
    exact each row below
  · intro aligned
    constructor
    · rcases aligned with one | ⟨isColumn, -⟩
      · rw [one, ite_self]
      · rw [if_pos isColumn]
    · intro row below
      rw [reads row below]
      rcases Nat.eq_zero_or_pos row with rfl | later
      · exact outcome_first
      · refine (outcome_iff (Nat.pos_iff_ne_zero.mp later) allColumns).mpr ?_
        rcases aligned with one | ⟨-, spared⟩
        · omega
        · exact spared row (Nat.pos_iff_ne_zero.mp later) below

/-- A call in which the literal behind the first argument follows it. -/
theorem rows_iff_of_follows
    (reads : first.isColumn ∨ rows = 1 → ∀ row < rows,
      read row = some (expected tested row (result row))) :
    (List.range (first.toArray 1).len).mapM read =
        some ((List.range rows).map fun row => expected tested row (result row)) ↔
      rows = 1 ∨ first.isColumn := by
  have length : (first.toArray 1).len = rows ↔ rows = 1 ∨ first.isColumn := by
    rw [toArray_len fits]
    cases first.isColumn with
    | false => simp [eq_comm]
    | true => simp
  rw [mapM_range_eq_some_iff, length]
  exact and_iff_left_of_imp fun sized => reads sized.symm

end

section

variable {Float : Type} [Inhabited Float]

/-- Values are read one after the other, from arrays of one row. -/
theorem bind_gate {Inner Outer : Type} {column columns : Bool} {row : Nat}
    {value : Inner} {next : Inner → Panics Outer} {result : Outer}
    (onwards : next value = if columns ∨ row = 0 then some result else none) :
    (if column ∨ row = 0 then some value else none).bind next =
      if (column && columns) ∨ row = 0 then some result else none := by
  by_cases zero : row = 0
  · simp only [zero, or_true, if_true, Option.bind_some] at onwards ⊢
    exact onwards
  · simp only [zero, or_false] at onwards ⊢
    cases column with
    | false => rfl
    | true => exact onwards

theorem map_gate {Inner Outer : Type} {column : Bool} {row : Nat}
    {value : Inner} {apply : Inner → Outer} :
    (if column ∨ row = 0 then some value else none).map apply =
      if (column && true) ∨ row = 0 then some (apply value) else none := by
  rw [Bool.and_true]
  split <;> rfl

theorem row_of_two {Result : Type} (first second : Operand) (row : Nat)
    (result : Result) :
    (((if first.null row then some true
        else if second.null row then some true else some false) : Panics Bool).bind
      fun null => if null then some none else some (some result)) =
      some (expected [first, second] row result) := by
  rw [expected_cons, expected_cons]
  cases first.null row with
  | true => rfl
  | false => cases second.null row <;> rfl

section

variable {rows : Nat}

variable (floats : Floats Float)

theorem fxConvert_iff {amount rate : ColumnarValue Float}
    {fromCurrency toCurrency : ColumnarValue (List Char)}
    (fits : amount.Fits rows) (fitsFrom : fromCurrency.Fits rows)
    (fitsTo : toCurrency.Fits rows) (fitsRate : rate.Fits rows) :
    fxConvert floats amount fromCurrency toCurrency rate =
        some ((List.range rows).map fun row =>
          expected [amount.operand, rate.operand] row
            (fxConvertValue floats (amount.valueAt row)
              (fromCurrency.valueAt row) (toCurrency.valueAt row)
              (rate.valueAt row))) ↔
      rows = 1 ∨ amount.isColumn ∧
        ∀ row, row ≠ 0 → row < rows →
          Spared [amount.operand, rate.operand] row ∨
            [amount.operand, fromCurrency.operand, toCurrency.operand,
              rate.operand].all Operand.isColumn := by
  have order :
      [amount.operand, fromCurrency.operand, toCurrency.operand,
          rate.operand].all Operand.isColumn =
        [fromCurrency.operand, toCurrency.operand, amount.operand,
          rate.operand].all Operand.isColumn := by
    simp only [List.all_cons, Bool.and_left_comm]
  rw [order]
  refine rows_iff fits (by simp) fun row below => ?_
  simp only [outcome, List.map, anyNull, toArray_isNull fits below,
    toArray_isNull fitsRate below, toArray_value fits below,
    toArray_value fitsFrom below, toArray_value fitsTo below,
    toArray_value fitsRate below]
  congr 1
  funext null
  congr 1
  exact bind_gate (bind_gate (bind_gate map_gate))

theorem compoundInterest_iff {principal rate periods : ColumnarValue Float}
    (fits : principal.Fits rows) (fitsRate : rate.Fits rows)
    (fitsPeriods : periods.Fits rows) :
    compoundInterest floats principal rate periods =
        some ((List.range rows).map fun row =>
          expected [principal.operand, rate.operand, periods.operand] row
            (compoundInterestValue floats (principal.valueAt row)
              (rate.valueAt row) (periods.valueAt row))) ↔
      rows = 1 ∨ principal.isColumn ∧
        ∀ row, row ≠ 0 → row < rows →
          Spared [principal.operand, rate.operand, periods.operand] row ∨
            [principal.operand, rate.operand, periods.operand].all
              Operand.isColumn := by
  refine rows_iff fits (by simp) fun row below => ?_
  simp only [outcome, List.map, anyNull, toArray_isNull fits below,
    toArray_isNull fitsRate below, toArray_isNull fitsPeriods below,
    toArray_value fits below, toArray_value fitsRate below,
    toArray_value fitsPeriods below]
  congr 1
  funext null
  congr 1
  exact bind_gate (bind_gate map_gate)

theorem towerDistance_iff
    {lat1 lon1 lat2 lon2 : ColumnarValue Float} (fits : lat1.Fits rows)
    (fitsLon1 : lon1.Fits rows) (fitsLat2 : lat2.Fits rows)
    (fitsLon2 : lon2.Fits rows) :
    towerDistance floats lat1 lon1 lat2 lon2 =
        some ((List.range rows).map fun row =>
          expected [lat1.operand, lon1.operand, lat2.operand, lon2.operand] row
            (haversine floats (lat1.valueAt row) (lon1.valueAt row)
              (lat2.valueAt row) (lon2.valueAt row))) ↔
      rows = 1 ∨ lat1.isColumn ∧
        ∀ row, row ≠ 0 → row < rows →
          Spared [lat1.operand, lon1.operand, lat2.operand, lon2.operand] row ∨
            [lat1.operand, lon1.operand, lat2.operand, lon2.operand].all
              Operand.isColumn := by
  refine rows_iff fits (by simp) fun row below => ?_
  simp only [outcome, List.map, anyNull, toArray_isNull fits below,
    toArray_isNull fitsLon1 below, toArray_isNull fitsLat2 below,
    toArray_isNull fitsLon2 below, toArray_value fits below,
    toArray_value fitsLon1 below, toArray_value fitsLat2 below,
    toArray_value fitsLon2 below]
  congr 1
  funext null
  congr 1
  exact bind_gate (bind_gate (bind_gate map_gate))

/-- Where the batch has one row, or the first argument is a column. -/
theorem toArray_sized {first : ColumnarValue Value}
    (sized : first.isColumn ∨ rows = 1) : first.toArray 1 = first.toArray rows := by
  rcases sized with isColumn | rfl
  · cases first with
    | column array => rfl
    | literal scalar => cases isColumn
  · rfl

theorem toArray_rows_len {argument : ColumnarValue Value}
    (fits : argument.Fits rows) : (argument.toArray rows).len = rows := by
  cases argument with
  | column array => exact fits
  | literal scalar =>
      cases scalar <;> exact List.length_replicate

theorem callCost_iff {duration : ColumnarValue Int}
    {rate : ColumnarValue Float} (fits : duration.Fits rows)
    (fitsRate : rate.Fits rows) :
    callCost floats duration rate =
        some ((List.range rows).map fun row =>
          expected [duration.operand, rate.operand] row
            (callCostValue floats (duration.valueAt row) (rate.valueAt row))) ↔
      rows = 1 ∨ duration.isColumn := by
  refine rows_iff_of_follows fits fun sized row below => ?_
  simp only [anyNull, toArray_sized sized, toArray_rows_len fits,
    toArray_rows_isNull fits below, toArray_rows_isNull fitsRate below,
    toArray_rows_value fits below, toArray_rows_value fitsRate below,
    Option.bind_some, Option.map_some]
  exact row_of_two duration.operand rate.operand row _

theorem formatE164Rows_iff {phone country : ColumnarValue (List Char)}
    (fits : phone.Fits rows) (fitsCountry : country.Fits rows) :
    formatE164Rows phone country =
        some ((List.range rows).map fun row =>
          expected [phone.operand, country.operand] row
            (formatE164 (phone.valueAt row) (country.valueAt row))) ↔
      rows = 1 ∨ phone.isColumn := by
  refine rows_iff_of_follows fits fun sized row below => ?_
  simp only [anyNull, toArray_sized sized, toArray_rows_len fits,
    toArray_rows_isNull fits below, toArray_rows_isNull fitsCountry below,
    toArray_rows_value fits below, toArray_rows_value fitsCountry below,
    Option.bind_some, Option.map_some]
  exact row_of_two phone.operand country.operand row _

end

/-- Whole numbers in place of floats. -/
def wholes : Floats Int where
  num count := count
  ofI32 number := number
  add := (· + ·)
  sub := (· - ·)
  mul := (· * ·)
  div := (· / ·)
  powf base exponent := base ^ exponent.toNat
  powi base exponent := base ^ exponent
  sqrt := id
  sin := id
  cos := id
  asin := id
  ceil := id
  toRadians := id

/-- Two amounts that are converted at a literal rate. -/
def literalRate : Batch Int where
  call :=
    .fxConvert (.column ⟨[100, 200], none, nofun⟩)
      (.literal (some ['U', 'S', 'D'])) (.literal (some ['S', 'E', 'K']))
      (.literal (some 10))
  rows := 2
  positive := by decide
  fits := ⟨rfl, trivial, trivial, trivial⟩
  column := rfl

/-- The literals have no second row. -/
theorem literalRate_panics :
    ¬ literalRate.call.Broadcasts wholes literalRate.rows := by
  intro broadcasts
  have panics :
      fxConvert wholes (.column ⟨[100, 200], none, nofun⟩)
        (.literal (some ['U', 'S', 'D'])) (.literal (some ['S', 'E', 'K']))
        (.literal (some 10)) = none :=
    rfl
  cases panics.symm.trans broadcasts

/-- A call is right on exactly the batches with which it is aligned. -/
theorem broadcasts_iff (floats : Floats Float) (batch : Batch Float) :
    batch.call.Broadcasts floats batch.rows ↔ batch.Aligned := by
  rcases batch with ⟨call, rows, positive, fits, column⟩
  cases call with
  | fxConvert amount fromCurrency toCurrency rate =>
      rcases fits with ⟨fits, fitsFrom, fitsTo, fitsRate⟩
      refine (fxConvert_iff floats fits fitsFrom fitsTo fitsRate).trans ?_
      exact or_congr_right (and_congr_right' (iff_of_eq (false_or _)).symm)
  | compoundInterest principal rate periods =>
      rcases fits with ⟨fits, fitsRate, fitsPeriods⟩
      refine (compoundInterest_iff floats fits fitsRate fitsPeriods).trans ?_
      exact or_congr_right (and_congr_right' (iff_of_eq (false_or _)).symm)
  | towerDistance lat1 lon1 lat2 lon2 =>
      rcases fits with ⟨fits, fitsLon1, fitsLat2, fitsLon2⟩
      refine (towerDistance_iff floats fits fitsLon1 fitsLat2 fitsLon2).trans ?_
      exact or_congr_right (and_congr_right' (iff_of_eq (false_or _)).symm)
  | callCost duration rate =>
      refine (callCost_iff floats fits.1 fits.2).trans ?_
      exact or_congr_right (and_iff_left (Or.inl trivial)).symm
  | formatE164 phone country =>
      refine (formatE164Rows_iff fits.1 fits.2).trans ?_
      exact or_congr_right (and_iff_left (Or.inl trivial)).symm

end

end

end OpenSnow.Industry.Broadcast
