import Mathlib.Data.String.Basic
import Mathlib.Tactic.Common

/-!
# A lexer for SQL

Words, quoted names, literals and symbols.  Blanks, `--` comments and nested
block comments stand between tokens and leave no trace.  Inside a string or a
quoted name the quote itself is written twice.  The lexer is an automaton that
reads one character at a time; what it still has open at the end of the text
is dropped, except for a word.
-/

namespace OpenSnow.Sql

/-- A token.  A quoted name keeps its text as written between the quotes. -/
inductive Token where
  | word (text : List Char)
  | quoted (text : List Char)
  | literal
  | symbol (ch : Char)
deriving DecidableEq, Repr

/-- What is open at a point of the text. -/
inductive Scan where
  | plain
  | word (text : List Char)
  | number
  /-- One `-`, which may start a comment. -/
  | dash
  /-- One `/`, which may start a comment. -/
  | slash
  | string
  /-- A quote inside a string, which ends it unless it is doubled. -/
  | stringQuote
  | quoted (text : List Char)
  /-- A quote inside a quoted name, which ends it unless it is doubled. -/
  | quotedQuote (text : List Char)
  | lineComment
  /-- The number of comments around this one, and the character before. -/
  | blockComment (depth : Nat) (last : Char)
deriving DecidableEq, Repr

/-- A word starts with a letter, an underscore or any non-ASCII character. -/
def isWordStart (ch : Char) : Bool :=
  ch.isAlpha || ch == '_' || 0x80 ≤ ch.toNat

/-- A word goes on with these, digits and `$`. -/
def isWordChar (ch : Char) : Bool :=
  isWordStart ch || ch.isDigit || ch == '$'

/-- Read a character with nothing open. -/
def opening (ch : Char) : Scan × List Token :=
  if ch.isWhitespace then (.plain, [])
  else if isWordStart ch then (.word [ch], [])
  else if ch.isDigit then (.number, [])
  else
    match ch with
    | '\'' => (.string, [])
    | '"' => (.quoted [], [])
    | '-' => (.dash, [])
    | '/' => (.slash, [])
    | _ => (.plain, [.symbol ch])

/-- Read a character after the end of `token`. -/
def openingAfter (token : Token) (ch : Char) : Scan × List Token :=
  ((opening ch).1, token :: (opening ch).2)

/-- Read one character. -/
def Scan.step : Scan → Char → Scan × List Token
  | .plain, ch => opening ch
  | .word text, ch =>
      if isWordChar ch then (.word (text ++ [ch]), [])
      else openingAfter (.word text) ch
  | .number, ch =>
      if isWordChar ch then (.number, []) else openingAfter .literal ch
  | .dash, ch =>
      if ch = '-' then (.lineComment, []) else openingAfter (.symbol '-') ch
  | .slash, ch =>
      if ch = '*' then (.blockComment 0 ' ', [])
      else openingAfter (.symbol '/') ch
  | .string, ch => (if ch = '\'' then .stringQuote else .string, [])
  | .stringQuote, ch =>
      if ch = '\'' then (.string, []) else openingAfter .literal ch
  | .quoted text, ch =>
      (if ch = '"' then .quotedQuote text else .quoted (text ++ [ch]), [])
  | .quotedQuote text, ch =>
      if ch = '"' then (.quoted (text ++ ['"', '"']), [])
      else openingAfter (.quoted text) ch
  | .lineComment, ch => (if ch = '\n' then .plain else .lineComment, [])
  | .blockComment depth last, ch =>
      if last = '*' ∧ ch = '/' then
        match depth with
        | 0 => (.plain, [])
        | outer + 1 => (.blockComment outer ' ', [])
      else if last = '/' ∧ ch = '*' then (.blockComment (depth + 1) ' ', [])
      else (.blockComment depth ch, [])

/-- The token that the end of the text completes. -/
def Scan.finish : Scan → List Token
  | .word text => [.word text]
  | .number => [.literal]
  | .dash => [.symbol '-']
  | .slash => [.symbol '/']
  | .stringQuote => [.literal]
  | .quotedQuote text => [.quoted text]
  | _ => []

/-- The tokens of a text that is read with `scan` open. -/
def lexFrom (scan : Scan) : List Char → List Token
  | [] => scan.finish
  | ch :: rest => (scan.step ch).2 ++ lexFrom (scan.step ch).1 rest

/-- The tokens of a text. -/
def lex (text : String) : List Token := lexFrom .plain text.toList

/-- A word in upper case, as keywords are compared. -/
def keyword (text : List Char) : String :=
  String.ofList (text.map Char.toUpper)

/-- The keyword that a text starts with. -/
def leadingKeyword (text : String) : Option String :=
  match lex text with
  | .word first :: _ => some (keyword first)
  | _ => none

end OpenSnow.Sql
