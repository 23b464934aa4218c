import Mathlib.Data.String.Basic
import Mathlib.Tactic.Common

/-!
# JSON values

The values of `serde_json`.  An object keeps its fields sorted by key.
-/

namespace OpenSnow.Rust.Json

inductive Value where
  | null
  | bool (value : Bool)
  | number (text : String)
  | string (text : String)
  | array (items : List Value)
  | object (fields : List (String × Value))
deriving Repr

/-- One digit or more. -/
def IsDigits (run : List Char) : Prop := run ≠ [] ∧ ∀ ch ∈ run, ch.isDigit

/-- `-`, digits, a fraction and an exponent; only the digits have to be there. -/
def IsNumber (text : List Char) : Prop :=
  ∃ sign whole fraction exponent,
    text = sign ++ (whole ++ (fraction ++ exponent)) ∧
      (sign = [] ∨ sign = ['-']) ∧ IsDigits whole ∧
      (fraction = [] ∨ ∃ digits, fraction = '.' :: digits ∧ IsDigits digits) ∧
      (exponent = [] ∨ ∃ mark plus digits,
        exponent = mark :: (plus ++ digits) ∧ (mark = 'e' ∨ mark = 'E') ∧
          (plus = [] ∨ plus = ['+'] ∨ plus = ['-']) ∧ IsDigits digits)

/-- The fields of an object. -/
abbrev Fields := List (String × Value)

/-- `Map::insert`. -/
def Fields.insert (key : String) (value : Value) : Fields → Fields
  | [] => [(key, value)]
  | (held, old) :: rest =>
      if key < held then (key, value) :: (held, old) :: rest
      else if key = held then (key, value) :: rest
      else (held, old) :: Fields.insert key value rest

/-- `Map::get`. -/
def Fields.get (fields : Fields) (key : String) : Option Value :=
  (fields.find? fun field => field.1 = key).map Prod.snd

theorem Fields.get_cons (key wanted : String) (value : Value)
    (rest : Fields) :
    Fields.get ((key, value) :: rest) wanted =
      if key = wanted then some value else Fields.get rest wanted := by
  unfold Fields.get
  split_ifs with same
  · rw [List.find?_cons_of_pos (by simpa using same)]
    rfl
  · rw [List.find?_cons_of_neg (by simpa using same)]

theorem Fields.get_insert (key wanted : String) (value : Value)
    (fields : Fields) :
    Fields.get (Fields.insert key value fields) wanted =
      if key = wanted then some value else Fields.get fields wanted := by
  induction fields with
  | nil => exact get_cons key wanted value []
  | cons field rest ih =>
      obtain ⟨held, old⟩ := field
      rw [Fields.insert]
      by_cases before : key < held
      · rw [if_pos before, get_cons]
      · rw [if_neg before]
        by_cases same : key = held
        · subst same
          rw [if_pos rfl, get_cons, get_cons]
          split_ifs <;> rfl
        · rw [if_neg same, get_cons, get_cons, ih]
          split_ifs with isHeld isKey
          · exact absurd (isKey.trans isHeld.symm) same
          · rfl
          · rfl
          · rfl

/-- The fields of a `json!` literal. -/
def Fields.of (fields : Fields) : Fields :=
  fields.foldl (fun held field => Fields.insert field.1 field.2 held) []

namespace Value

/-- A `json!` object literal. -/
def record (fields : Fields) : Value := .object (Fields.of fields)

def ofOption : Option String → Value
  | some text => .string text
  | none => .null

def strings (texts : List String) : Value := .array (texts.map .string)

def isNull : Value → Bool
  | .null => true
  | _ => false

/-- `Value::get` with a key. -/
def get (value : Value) (key : String) : Option Value :=
  match value with
  | .object fields => Fields.get fields key
  | _ => none

def asStr : Value → Option String
  | .string text => some text
  | _ => none

def asBool : Value → Option Bool
  | .bool value => some value
  | _ => none

def asArray : Value → Option (List Value)
  | .array items => some items
  | _ => none

/--
`value[key] = new`: null becomes an object, and what is no object panics.
-/
def setIndex (value : Value) (key : String) (new : Value) : Option Value :=
  match value with
  | .null => some (.object [(key, new)])
  | .object fields => some (.object (Fields.insert key new fields))
  | _ => none

/-! ### Changing parts of a value -/

/-- Change the value of a field, if the value is an object that has it. -/
def mapField (key : String) (change : Value → Value) : Value → Value
  | .object fields =>
      .object (fields.map fun field =>
        (field.1, if field.1 = key then change field.2 else field.2))
  | other => other

/-- Change the items of an array. -/
def mapItems (change : Value → Value) : Value → Value
  | .array items => .array (items.map change)
  | other => other

def mapText (change : String → String) : Value → Value
  | .string text => .string (change text)
  | other => other

theorem get_mapField (key wanted : String) (change : Value → Value)
    (value : Value) :
    (value.mapField key change).get wanted =
      if wanted = key then (value.get wanted).map change
      else value.get wanted := by
  cases value with
  | object fields =>
      change Fields.get _ wanted = if wanted = key then
        (Fields.get fields wanted).map change else Fields.get fields wanted
      induction fields with
      | nil => split_ifs <;> rfl
      | cons field rest ih =>
          obtain ⟨held, old⟩ := field
          rw [List.map_cons, Fields.get_cons, Fields.get_cons, ih]
          by_cases isHeld : held = wanted
          · subst isHeld
            rw [if_pos rfl, if_pos rfl]
            split_ifs <;> rfl
          · rw [if_neg isHeld, if_neg isHeld]
  | _ => split_ifs <;> rfl

theorem asArray_mapItems (change : Value → Value) (value : Value) :
    (value.mapItems change).asArray =
      value.asArray.map fun items => items.map change := by
  cases value <;> rfl

theorem asStr_mapText (change : String → String) (value : Value) :
    (value.mapText change).asStr = value.asStr.map change := by
  cases value <;> rfl

end Value

end OpenSnow.Rust.Json
