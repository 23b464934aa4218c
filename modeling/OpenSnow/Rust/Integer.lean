import Mathlib.Algebra.Group.Int.Defs
import Mathlib.Data.String.Basic
import Mathlib.Tactic.Common

/-!
# Rust integer primitives

The signed integers of 32 and of 64 bits, and conversions to them.
-/

namespace OpenSnow.Rust.Integer

/-- `value as i32`, which keeps the low 32 bits. -/
def asI32 (value : Int) : Int :=
  value.bmod (2 ^ 32)

/-- The low 64 bits of a number, as arithmetic on `i64` keeps them. -/
def wrapI64 (value : Int) : Int :=
  value.bmod (2 ^ 64)

/-- The number is a 32-bit signed integer. -/
def FitsI32 (value : Int) : Prop :=
  -2 ^ 31 ≤ value ∧ value < 2 ^ 31

instance (value : Int) : Decidable (FitsI32 value) :=
  inferInstanceAs (Decidable (_ ∧ _))

/-- The number is a 64-bit signed integer. -/
def FitsI64 (value : Int) : Prop :=
  -2 ^ 63 ≤ value ∧ value < 2 ^ 63

instance (value : Int) : Decidable (FitsI64 value) :=
  inferInstanceAs (Decidable (_ ∧ _))

/--
The result of unsigned arithmetic on so many bits; there is none when it
overflows, which panics.
-/
def unsigned (bits value : Nat) : Option Nat :=
  if value < 2 ^ bits then some value else none

/-- The difference of unsigned integers, which panics below zero. -/
def difference (left right : Nat) : Option Nat :=
  if right ≤ left then some (left - right) else none

/-- `char::to_digit(10)`. -/
def toDigit (ch : Char) : Option Nat :=
  if ch.isDigit then some (ch.toNat - '0'.toNat) else none

/-- The number that decimal digits stand for; at least one is needed. -/
def parseDigits (chars : List Char) : Option Nat :=
  if chars ≠ [] ∧ chars.all Char.isDigit then
    some (Nat.ofDigitChars 10 chars 0)
  else none

/-- `str::parse::<i32>`: decimal digits behind at most one sign. -/
def parseI32 (text : String) : Option Int :=
  let value : Option Int :=
    match text.toList with
    | '-' :: digits => (parseDigits digits).map fun value => -value
    | '+' :: digits => (parseDigits digits).map fun value => value
    | digits => (parseDigits digits).map fun value => value
  value.filter fun value => FitsI32 value

end OpenSnow.Rust.Integer
