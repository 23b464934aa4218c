import Mathlib.Algebra.Group.Nat.Defs
import Mathlib.Data.List.Basic
import Mathlib.Data.Set.Function
import Mathlib.Tactic.Common

/-!
# Self-delimiting encodings

An encoding is self-delimiting on a set of values when two encoded values,
each followed by arbitrary further symbols, can only agree if the values and
the further symbols agree.  Concatenation of self-delimiting fields therefore
never lets a field boundary move.

The module gives the constructions that hash preimages and wire formats are
built from: fixed-width fields, fields preceded by their length, and optional
fields preceded by a presence byte.
-/

namespace OpenSnow.Foundation.SelfDelimiting

variable {Value Symbol : Type*}

/-- Encoded values of `domain` can be read back without seeing where they end. -/
def SelfDelimitingOn
    (encode : Value → List Symbol) (domain : Set Value) : Prop :=
  ∀ left ∈ domain, ∀ right ∈ domain, ∀ leftRest rightRest : List Symbol,
    encode left ++ leftRest = encode right ++ rightRest →
      left = right ∧ leftRest = rightRest

variable {domain : Set Value}

theorem SelfDelimitingOn.injOn {encode : Value → List Symbol}
    (delimiting : SelfDelimitingOn encode domain) :
    Set.InjOn encode domain := by
  intro left leftMem right rightMem equal
  exact
    (delimiting left leftMem right rightMem [] []
      (by rw [equal])).1

variable (width : Nat)

/-- A field of constant width is self-delimiting as soon as it is injective. -/
theorem selfDelimitingOn_of_length {encode : Value → List Symbol}
    (length : ∀ value ∈ domain, (encode value).length = width)
    (injective : Set.InjOn encode domain) :
    SelfDelimitingOn encode domain := by
  intro left leftMem right rightMem leftRest rightRest equal
  have sameLength : (encode left).length = (encode right).length := by
    rw [length left leftMem, length right rightMem]
  obtain ⟨fieldEqual, restEqual⟩ := List.append_inj equal sameLength
  exact ⟨injective leftMem rightMem fieldEqual, restEqual⟩

/-! ## Little-endian machine words -/

/-- The `width` low-order bytes of a number, least significant first. -/
def leBytes : (width : Nat) → Nat → List UInt8
  | 0, _ => []
  | width + 1, number =>
      UInt8.ofNat (number % 256) :: leBytes width (number / 256)

@[simp]
theorem length_leBytes (width number : Nat) :
    (leBytes width number).length = width := by
  induction width generalizing number with
  | zero => rfl
  | succ width ih => simp [leBytes, ih]

/-- Distinct numbers that fit into `width` bytes have distinct bytes. -/
theorem leBytes_injOn :
    Set.InjOn (leBytes width) { number | number < 256 ^ width } := by
  induction width with
  | zero =>
      intro left leftFits right rightFits _
      change left < 256 ^ 0 at leftFits
      change right < 256 ^ 0 at rightFits
      omega
  | succ width ih =>
      intro left leftFits right rightFits equal
      change left < 256 ^ (width + 1) at leftFits
      change right < 256 ^ (width + 1) at rightFits
      rw [Nat.pow_succ'] at leftFits rightFits
      simp only [leBytes, List.cons.injEq] at equal
      obtain ⟨lowEqual, highEqual⟩ := equal
      have lowNumbers : left % 256 = right % 256 := by
        have byteNumbers := congrArg UInt8.toNat lowEqual
        simpa using byteNumbers
      have highNumbers : left / 256 = right / 256 := by
        apply ih _ _ highEqual
        · exact Nat.div_lt_of_lt_mul leftFits
        · exact Nat.div_lt_of_lt_mul rightFits
      omega

theorem leBytes_selfDelimiting :
    SelfDelimitingOn (leBytes width) { number | number < 256 ^ width } :=
  selfDelimitingOn_of_length width
    (fun number _ => length_leBytes width number)
    (leBytes_injOn width)

/-! ## Length prefixes and optional fields -/

/-- A byte string preceded by its length as a `width`-byte word. -/
def lengthPrefixed (width : Nat) (field : List UInt8) : List UInt8 :=
  leBytes width field.length ++ field

theorem lengthPrefixed_selfDelimiting :
    SelfDelimitingOn (lengthPrefixed width)
      { field | field.length < 256 ^ width } := by
  intro left leftFits right rightFits leftRest rightRest equal
  simp only [lengthPrefixed, List.append_assoc] at equal
  obtain ⟨sameLength, bodyEqual⟩ :=
    leBytes_selfDelimiting width _ leftFits _ rightFits _ _ equal
  exact List.append_inj bodyEqual sameLength

/-- An optional field: a presence byte, then the field when it is there. -/
def optionTagged (encode : Value → List UInt8) : Option Value → List UInt8
  | none => [0]
  | some value => 1 :: encode value

/-- Tagging an optional field keeps it self-delimiting. -/
theorem optionTagged_selfDelimiting {encode : Value → List UInt8}
    (delimiting : SelfDelimitingOn encode domain) :
    SelfDelimitingOn (optionTagged encode)
      { field | ∀ value ∈ field, value ∈ domain } := by
  intro left leftMem right rightMem leftRest rightRest equal
  cases left with
  | none =>
      cases right with
      | none => simpa [optionTagged] using equal
      | some right => simp [optionTagged] at equal
  | some left =>
      cases right with
      | none => simp [optionTagged] at equal
      | some right =>
          simp only [optionTagged, List.cons_append,
            List.cons.injEq, true_and] at equal
          obtain ⟨valueEqual, restEqual⟩ :=
            delimiting left (leftMem left rfl)
              right (rightMem right rfl) _ _ equal
          exact ⟨congrArg some valueEqual, restEqual⟩

end OpenSnow.Foundation.SelfDelimiting
