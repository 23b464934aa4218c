import Mathlib.Data.String.Basic
import Mathlib.Tactic.Common

/-!
# Reading SQL with one character of lookahead

Scanners that take one character at a time and peek at the next one share what
they have open: nothing, a quoted text, a `--` comment or a block comment.  A
quote inside a quoted text is doubled.  Block comments do not nest.
-/

namespace OpenSnow.Sql

/-- What is open before a character. -/
inductive Reading where
  | plain
  | quoted (quote : Char)
  /-- The second of two quotes comes next. -/
  | quotePair (quote : Char)
  /-- The second character of `--` comes next. -/
  | lineOpening
  | line
  /-- The second character of the opening of a block comment comes next. -/
  | blockOpening
  | block
  /-- The second character of the end of a block comment comes next. -/
  | blockClosing
deriving DecidableEq, Repr

/--
What is open after a character, given the text that follows it.  Without
`comments` the scanner knows quotes alone.
-/
def Reading.next (comments : Bool) (reading : Reading) (ch : Char)
    (rest : List Char) : Reading :=
  match reading with
  | .plain =>
      if comments ∧ ch = '-' ∧ rest.head? = some '-' then .lineOpening
      else if comments ∧ ch = '/' ∧ rest.head? = some '*' then .blockOpening
      else if ch = '\'' ∨ ch = '"' then .quoted ch
      else .plain
  | .quoted quote =>
      if ch = quote then
        if rest.head? = some quote then .quotePair quote else .plain
      else .quoted quote
  | .quotePair quote => .quoted quote
  | .lineOpening => .line
  | .line => if ch = '\n' then .plain else .line
  | .blockOpening => .block
  | .block =>
      if ch = '*' ∧ rest.head? = some '/' then .blockClosing else .block
  | .blockClosing => .plain

/-! ## Quotes -/

/-- What is quoted is quoted by such a character. -/
def Reading.QuotedBy (kind : Char → Prop) : Reading → Prop
  | .quoted quote | .quotePair quote => kind quote
  | _ => True

/-- No other quotes are opened than the two of SQL. -/
theorem Reading.QuotedBy.next {kind : Char → Prop} {reading : Reading}
    (quoted : reading.QuotedBy kind) (single : kind '\'')
    (double : kind '"') (comments : Bool) (ch : Char) (rest : List Char) :
    (reading.next comments ch rest).QuotedBy kind := by
  cases reading with
  | plain =>
      rw [Reading.next]
      split_ifs with line block quote
      · trivial
      · trivial
      · rcases quote with rfl | rfl
        · exact single
        · exact double
      · trivial
  | quoted quote =>
      rw [Reading.next]
      split_ifs
      · exact quoted
      · trivial
      · exact quoted
  | quotePair quote => exact quoted
  | lineOpening => trivial
  | line =>
      rw [Reading.next]
      split_ifs <;> trivial
  | blockOpening => trivial
  | block =>
      rw [Reading.next]
      split_ifs <;> trivial
  | blockClosing => trivial

/-- Quotes that are open are quotes of SQL. -/
def QuotesOnly (reading : Reading) : Prop :=
  reading.QuotedBy fun quote => quote = '\'' ∨ quote = '"'

theorem QuotesOnly.next {reading : Reading} (quotes : QuotesOnly reading)
    (comments : Bool) (ch : Char) (rest : List Char) :
    QuotesOnly (reading.next comments ch rest) :=
  Reading.QuotedBy.next quotes (.inl rfl) (.inr rfl) comments ch rest

/-! ## Seams -/

/-- Two characters that are read together between statements. -/
def IsMark (first second : Char) : Prop :=
  first = second ∧ (first = '\'' ∨ first = '"' ∨ first = '-') ∨
    first = '/' ∧ second = '*' ∨ first = '*' ∧ second = '/'

/-- No such characters meet where two texts do. -/
def Seam (front back : List Char) : Prop :=
  ∀ first ∈ front.getLast?, ∀ second ∈ back.head?, ¬ IsMark first second

section

variable {reading : Reading} {comments : Bool} {front back : List Char}

theorem next_seam (quotes : QuotesOnly reading) {ch : Char}
    (seam : ∀ second ∈ back.head?, ¬ IsMark ch second) :
    reading.next comments ch back = reading.next comments ch [] := by
  cases back with
  | nil => rfl
  | cons second back =>
      have apart := seam second rfl
      rw [IsMark, not_or, not_or] at apart
      rcases apart with ⟨notPair, notOpening, notClosing⟩
      cases reading with
      | plain =>
          have notDashes : ¬ (ch = '-' ∧ second = '-') := fun dashes =>
            notPair ⟨dashes.1.trans dashes.2.symm, Or.inr (Or.inr dashes.1)⟩
          simp [Reading.next, notDashes, notOpening]
      | quoted quote =>
          by_cases isQuote : ch = quote
          · have notQuotes : second ≠ quote := by
              rintro rfl
              subst isQuote
              exact notPair ⟨rfl, quotes.imp_right Or.inl⟩
            simp [Reading.next, notQuotes]
          · simp [Reading.next, isQuote]
      | block => simp [Reading.next, notClosing]
      | quotePair | lineOpening | line | blockOpening | blockClosing => rfl

theorem seam_of_cons {ch : Char} (seam : Seam (ch :: front) back) :
    Seam front back := by
  cases front with
  | nil => exact nofun
  | cons next front =>
      rwa [Seam, List.getLast?_cons_cons] at seam

/-- Across a seam a reading goes on as if the text ended there. -/
theorem next_append_seam (quotes : QuotesOnly reading) {ch : Char}
    (seam : Seam (ch :: front) back) :
    reading.next comments ch (front ++ back) = reading.next comments ch front := by
  cases front with
  | nil =>
      have apart : ∀ second ∈ back.head?, ¬ IsMark ch second :=
        seam ch List.getLast?_singleton
      exact next_seam quotes apart
  | cons next front => rfl

/-- A text that starts with another kind of character is behind a seam. -/
theorem seam_of_head (kind : Char → Bool)
    (other : ['\'', '"', '-', '/', '*'].all (!kind ·))
    (heads : ∀ ahead ∈ back.head?, kind ahead) : Seam front back := by
  intro first _ second isHead mark
  have member : second ∈ ['\'', '"', '-', '/', '*'] := by
    rcases mark with ⟨rfl, rfl | rfl | rfl⟩ | ⟨-, rfl⟩ | ⟨-, rfl⟩ <;> decide
  have notKind := List.all_eq_true.mp other second member
  rw [heads second isHead] at notKind
  cases notKind

end

end OpenSnow.Sql
