import Mathlib.Data.List.Infix
import Mathlib.Data.List.TakeWhile
import OpenSnow.Foundation.Spans
import OpenSnow.Rust.Uppercase

/-!
# Rust text primitives

The parts of Rust's `char`, `str` and `String` that OpenSnow's hand-written
scanners use.  A Rust string is a Lean `String`; scanners run over its list of
characters.  Only the operations whose Unicode behaviour differs from Lean's
own are defined here.
-/

namespace OpenSnow.Rust.Text

open Foundation

/-! ## Characters -/

/-- `char::is_whitespace`: the Unicode `White_Space` property. -/
def isWhitespace (ch : Char) : Bool :=
  let code := ch.toNat
  (0x9 ≤ code && code ≤ 0xD) || code == 0x20 || code == 0x85 ||
    code == 0xA0 || code == 0x1680 || (0x2000 ≤ code && code ≤ 0x200A) ||
    code == 0x2028 || code == 0x2029 || code == 0x202F ||
    code == 0x205F || code == 0x3000

/-! ## Strings -/

/-- The bytes of a string, as `str::as_bytes` gives them. -/
def utf8Bytes (text : String) : List UInt8 :=
  text.toByteArray.data.toList

theorem utf8Bytes_injective : Function.Injective utf8Bytes := by
  intro left right equal
  apply String.toByteArray_inj.mp
  apply ByteArray.ext
  exact Array.toList_inj.mp equal

def toUppercase (text : String) : String :=
  String.ofList (upperChars text.toList)

def toAsciiUppercase (text : String) : String :=
  String.ofList (text.toList.map Char.toUpper)

def toAsciiLowercase (text : String) : String :=
  String.ofList (text.toList.map Char.toLower)

def eqIgnoreAsciiCase (left right : String) : Bool :=
  toAsciiLowercase left == toAsciiLowercase right

/-- `str::trim_start` on the characters of a string. -/
def trimStart (chars : List Char) : List Char :=
  chars.dropWhile isWhitespace

/-- `str::trim_end` on the characters of a string. -/
def trimEnd (chars : List Char) : List Char :=
  (chars.reverse.dropWhile isWhitespace).reverse

/-- `str::trim` on the characters of a string. -/
def trim (chars : List Char) : List Char :=
  trimEnd (trimStart chars)

/-- `str::trim_end_matches` for one character. -/
def trimEndMatches (pattern : Char) (chars : List Char) : List Char :=
  (chars.reverse.dropWhile (· == pattern)).reverse

/-- `str::trim_matches` for one character. -/
def trimMatches (pattern : Char) (chars : List Char) : List Char :=
  trimEndMatches pattern (chars.dropWhile (· == pattern))

/-- The last piece of `str::split` at one character. -/
def lastSplit (separator : Char) (chars : List Char) : List Char :=
  (chars.reverse.takeWhile (· != separator)).reverse

/-- `str::contains` for a string. -/
def contains (text piece : String) : Bool :=
  decide (piece.toList <:+: text.toList)

def startsWith (text start : String) : Bool :=
  start.toList.isPrefixOf text.toList

def isAsciiWhitespace (ch : Char) : Bool :=
  ch ∈ [' ', '\t', '\n', '\x0c', '\r']

/-- Characters of `str::escape_debug` as the `Debug` form of a string uses it. -/
def escapeDebug (ch : Char) : List Char :=
  if ch = '"' then ['\\', '"']
  else if ch = '\\' then ['\\', '\\']
  else if ch = '\n' then ['\\', 'n']
  else if ch = '\r' then ['\\', 'r']
  else if ch = '\t' then ['\\', 't']
  else if ch.toNat = 0 then ['\\', '0']
  else if ch.toNat < 0x20 ∨ ch.toNat = 0x7F then
    ['\\', 'u', '\x7b'] ++ Nat.toDigits 16 ch.toNat ++ ['\x7d']
  else [ch]

/-- The `Debug` form of a string: quoted, with quotes and controls escaped. -/
def debugText (text : String) : String :=
  String.ofList (['"'] ++ text.toList.flatMap escapeDebug ++ ['"'])

/-!
## Splitting at a separator

`str::splitn` for one character, on the characters of a string.
-/

/-- `str::splitn`: at most `limit` parts, the last of them unsplit. -/
def splitn (separator : Char) : (limit : Nat) → List Char → List (List Char)
  | 0, _ => []
  | 1, text => [text]
  | limit + 2, text =>
      match text.dropWhile (· != separator) with
      | [] => [text]
      | _ :: back =>
          text.takeWhile (· != separator) :: splitn separator (limit + 1) back

/-- The first part of `str::split`. -/
def firstPart (separator : Char) (text : List Char) : List Char :=
  text.takeWhile (· != separator)

variable {separator : Char} {front : List Char}

theorem firstPart_append (plain : separator ∉ front) (back : List Char) :
    firstPart separator (front ++ separator :: back) = front := by
  have pass : ∀ ch ∈ front, ch != separator := by
    intro ch member
    rw [bne_iff_ne]
    rintro rfl
    exact plain member
  rw [firstPart, List.takeWhile_append_of_pos pass, List.takeWhile_cons,
    if_neg (by simp), List.append_nil]

/-- A separator behind a part without one splits the text there. -/
theorem splitn_append (plain : separator ∉ front) (limit : Nat)
    (back : List Char) :
    splitn separator (limit + 2) (front ++ separator :: back) =
      front :: splitn separator (limit + 1) back := by
  have pass : ∀ ch ∈ front, ch != separator := by
    intro ch member
    rw [bne_iff_ne]
    rintro rfl
    exact plain member
  have dropped :
      (front ++ separator :: back).dropWhile (· != separator) =
        separator :: back := by
    rw [List.dropWhile_append_of_pos pass, List.dropWhile_cons,
      if_neg (by simp)]
  rw [splitn, dropped]
  exact congrArg (· :: splitn separator (limit + 1) back)
    (firstPart_append plain back)

theorem splitn_plain (plain : separator ∉ front) (limit : Nat) :
    splitn separator (limit + 1) front = [front] := by
  cases limit with
  | zero => rfl
  | succ limit =>
      have dropped : front.dropWhile (· != separator) = [] := by
        rw [List.dropWhile_eq_nil_iff]
        intro ch member
        rw [bne_iff_ne]
        rintro rfl
        exact plain member
      rw [splitn, dropped]

/-!
## Trimmed texts

What `str::trim` and its siblings take off and what they leave.
-/

/-- A text of white space only, which may be empty. -/
def Blank (text : List Char) : Prop := ∀ ch ∈ text, isWhitespace ch

/-- A text that neither starts nor ends with white space. -/
def Trimmed (text : List Char) : Prop :=
  Stops isWhitespace text ∧ Stops isWhitespace text.reverse

@[simp]
theorem blank_nil : Blank [] := by
  rintro ch ⟨⟩

@[simp]
theorem blank_cons {ch : Char} {rest : List Char} :
    Blank (ch :: rest) ↔ isWhitespace ch ∧ Blank rest := by
  simp [Blank]

@[simp]
theorem blank_append {front back : List Char} :
    Blank (front ++ back) ↔ Blank front ∧ Blank back := by
  simp [Blank, or_imp, forall_and]

variable {text : List Char}

theorem Blank.reverse (blank : Blank text) :
    Blank text.reverse := by
  intro ch member
  exact blank ch (List.mem_reverse.mp member)

theorem blank_takeWhile (text : List Char) :
    Blank (text.takeWhile isWhitespace) := fun _ member =>
  List.mem_takeWhile_imp member

theorem trimStart_blank_append {blanks rest : List Char}
    (blank : Blank blanks) : trimStart (blanks ++ rest) = trimStart rest := by
  rw [trimStart, trimStart, List.dropWhile_append_of_pos blank]

theorem trimStart_of_stops
    (stops : Stops isWhitespace text) : trimStart text = text :=
  dropWhile_of_stops stops

theorem trimStart_of_blank (blank : Blank text) :
    trimStart text = [] :=
  List.dropWhile_eq_nil_iff.mpr blank

theorem trimEnd_of_stops
    (stops : Stops isWhitespace text.reverse) : trimEnd text = text := by
  rw [trimEnd, dropWhile_of_stops stops, List.reverse_reverse]

theorem trimEnd_append_blank {text blanks : List Char} (blank : Blank blanks) :
    trimEnd (text ++ blanks) = trimEnd text := by
  rw [trimEnd, trimEnd, List.reverse_append,
    List.dropWhile_append_of_pos blank.reverse]

theorem trimEnd_shape (text : List Char) :
    ∃ after, text = trimEnd text ++ after ∧ Blank after :=
  ⟨_, (dropWhile_reverse_append isWhitespace text).symm,
    (blank_takeWhile text.reverse).reverse⟩

theorem trimEndMatches_shape (pattern : Char) (text : List Char) :
    ∃ after, text = trimEndMatches pattern text ++ after ∧
      ∀ ch ∈ after, ch = pattern := by
  refine ⟨_, (dropWhile_reverse_append (· == pattern) text).symm, ?_⟩
  intro ch member
  have same := List.mem_takeWhile_imp (List.mem_reverse.mp member)
  exact beq_iff_eq.mp same

theorem trim_of_trimmed (trimmed : Trimmed text) :
    trim text = text := by
  rw [trim, trimStart_of_stops trimmed.1, trimEnd_of_stops trimmed.2]

theorem trim_surrounded {before text after : List Char}
    (front : Blank before) (back : Blank after) (trimmed : Trimmed text) :
    trim (before ++ (text ++ after)) = text := by
  rw [trim, trimStart_blank_append front]
  cases text with
  | nil =>
      rw [List.nil_append, trimStart_of_blank back]
      rfl
  | cons ch rest =>
      have stops : Stops isWhitespace (ch :: rest ++ after) :=
        stops_cons.mpr (stops_cons.mp trimmed.1)
      rw [trimStart_of_stops stops, trimEnd_append_blank back,
        trimEnd_of_stops trimmed.2]

theorem trimmed_trim (text : List Char) : Trimmed (trim text) := by
  have ends : Stops isWhitespace (trim text).reverse := by
    rw [trim, trimEnd, List.reverse_reverse]
    exact stops_dropWhile _
  refine ⟨?_, ends⟩
  rcases trimEnd_shape (trimStart text) with ⟨after, shape, -⟩
  rw [← trim] at shape
  have starts : Stops isWhitespace (text.dropWhile isWhitespace) :=
    stops_dropWhile text
  rw [← trimStart, shape] at starts
  cases form : trim text with
  | nil => exact stops_nil
  | cons ch rest =>
      rw [form] at starts
      exact stops_cons.mpr (stops_cons.mp starts)

theorem trim_shape (text : List Char) :
    ∃ before after, text = before ++ (trim text ++ after) ∧
      Blank before ∧ Blank after := by
  rcases trimEnd_shape (trimStart text) with ⟨after, shape, back⟩
  refine
    ⟨text.takeWhile isWhitespace, after, ?_, blank_takeWhile text, back⟩
  rw [trim, ← shape, trimStart, List.takeWhile_append_dropWhile]

end OpenSnow.Rust.Text
