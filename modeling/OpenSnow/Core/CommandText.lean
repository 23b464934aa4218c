import OpenSnow.Rust.Slice
import OpenSnow.Sql.Reading

/-!
# The text of SQL commands

How the engine's command handlers read a statement: leading comments, the first
keywords, the `AS` of a creation and the one query behind it.  Offsets into the
text are byte offsets, and every slice can panic.
-/

namespace OpenSnow.Core.Commands

open Rust.Text
open Sql

/-- `str::starts_with`. -/
def hasPrefix (text : List Char) (start : String) : Bool :=
  start.toList.isPrefixOf text

/-- `str::eq_ignore_ascii_case`. -/
def eqIgnoreCase (text : List Char) (expected : String) : Bool :=
  text.map Char.toLower == expected.toList.map Char.toLower

/-! ## Leading comments -/

/--
The loop of `strip_leading_sql_comments`.  Every round drops two characters or
more, so a text is shorter than the rounds it takes.
-/
def stripLoop : Nat → List Char → Panics (List Char)
  | 0, text => some text
  | fuel + 1, text =>
      match text with
      | '/' :: '*' :: rest =>
          match find ['*', '/'] rest with
          | some stop =>
              (sliceFrom rest (stop + 2)).bind fun after =>
                stripLoop fuel (trimStart after)
          | none => some text
      | '-' :: '-' :: rest =>
          match find ['\n'] rest with
          | some stop =>
              (sliceFrom rest (stop + 1)).bind fun after =>
                stripLoop fuel (trimStart after)
          | none => some []
      | _ => some text

def stripLeadingSqlComments (sql : List Char) : Panics (List Char) :=
  stripLoop sql.length (trimStart sql)

/-! ## Identifiers -/

def isSqlIdentifierChar (ch : Char) : Bool := ch.isAlphanum || ch == '_'

def isSafeUnqualifiedIdentifier (name : List Char) : Bool :=
  !name.isEmpty && utf8Len name ≤ 128 && name.all isSqlIdentifierChar &&
    name.head?.any fun ch => ch.isAlpha || ch == '_'

/--
The checks of the names of output tables and of warehouses, which differ in
what they call the object.
-/
def validateIdentifier (object : String) (name : List Char)
    (command : String) : Except String Unit :=
  if isSafeUnqualifiedIdentifier name then .ok ()
  else
    .error
      ("Invalid " ++ command ++ " target identifier '" ++
        String.ofList name ++ "'. Use an unquoted " ++ object ++
        " name with letters, numbers, and underscores only")

def validateOutputTableIdentifier : List Char → String → Except String Unit :=
  validateIdentifier "table"

def validateWarehouseIdentifier : List Char → String → Except String Unit :=
  validateIdentifier "warehouse"

/-! ## Statements and keywords -/

/-- A statement is kept if it is more than blanks. -/
def keepStatement (current : List Char) (statements : List (List Char)) :
    List (List Char) :=
  if (trim current).isEmpty then statements else trim current :: statements

/-- The loop of `split_sql_statements`. -/
def splitLoop (reading : Reading) (current : List Char) :
    List Char → List (List Char)
  | [] => keepStatement current []
  | ch :: rest =>
      if reading = .plain ∧ ch = ';' then
        keepStatement current (splitLoop .plain [] rest)
      else splitLoop (reading.next true ch rest) (current ++ [ch]) rest

def splitSqlStatements (sql : List Char) : List (List Char) :=
  splitLoop .plain [] sql

/-- Characters that end the first keyword. -/
def isKeywordBreak (ch : Char) : Bool := isWhitespace ch || ch == '('

def firstKeyword (sql : List Char) : String :=
  let onwards := (trimStart sql).dropWhile isKeywordBreak
  toAsciiUppercase (String.ofList (onwards.takeWhile (!isKeywordBreak ·)))

def containsKeyword (sql : List Char) (expected : String) : Bool :=
  (sql.splitOnP (!isSqlIdentifierChar ·)).any (eqIgnoreCase · expected)

/-- The `AS` at an offset: the offset itself and that of the query behind. -/
def asAt (sql : List Char) (idx : Nat) (ch : Char) :
    Panics (Option (Nat × Nat)) := do
  let afterA := idx + ch.utf8Size
  let onwards ← sliceFrom sql afterA
  match onwards.head? with
  | none => some none
  | some sChar =>
      if sChar ≠ 's' ∧ sChar ≠ 'S' then some none
      else
        let asEnd := afterA + sChar.utf8Size
        let before ← sliceTo sql idx
        let after ← sliceFrom sql asEnd
        if before.getLast?.any isSqlIdentifierChar ||
            after.head?.any isSqlIdentifierChar then
          some none
        else
          some (some (idx, asEnd + utf8Len (after.takeWhile isWhitespace)))

/-- The loop of `find_as_clause` over the characters and their offsets. -/
def findAsLoop (sql : List Char) (start : Nat) (reading : Reading)
    (idx : Nat) : List Char → Panics (Option (Nat × Nat))
  | [] => some none
  | ch :: rest =>
      if idx < start then
        findAsLoop sql start reading (idx + ch.utf8Size) rest
      else if reading = .plain ∧ (ch = 'A' ∨ ch = 'a') then do
        match ← asAt sql idx ch with
        | some clause => some (some clause)
        | none => findAsLoop sql start .plain (idx + ch.utf8Size) rest
      else
        findAsLoop sql start (reading.next false ch rest)
          (idx + ch.utf8Size) rest

def findAsClause (sql : List Char) (start : Nat) :
    Panics (Option (Nat × Nat)) :=
  findAsLoop sql start .plain 0 sql

/-- The loop of `keyword_sequence_end` over the expected keywords. -/
def keywordSequenceLoop (sql : List Char) (offset : Nat) :
    List String → Panics (Option Nat)
  | [] => some (some offset)
  | expected :: more => do
      let onwards ← sliceFrom sql offset
      let tokenStart := offset + utf8Len (onwards.takeWhile isWhitespace)
      let rest ← sliceFrom sql tokenStart
      let tokenLen := utf8Len (rest.takeWhile (!isWhitespace ·))
      let token ← sliceTo rest tokenLen
      if eqIgnoreCase token expected then
        keywordSequenceLoop sql (tokenStart + tokenLen) more
      else some none

def keywordSequenceEnd (sql : List Char) (expected : List String) :
    Panics (Option Nat) :=
  keywordSequenceLoop sql 0 expected

/-- The one statement of a query, if it starts with `SELECT` or `WITH`. -/
def validateMaterializationQuery (querySql : List Char) (command : String) :
    Panics (Except String (List Char)) :=
  match splitSqlStatements querySql with
  | [statement] => do
      let trimmed := trimStart statement
      let head ← stripLeadingSqlComments
        (if hasPrefix trimmed "(" then trimmed.drop 1 else trimmed)
      match firstKeyword head with
      | "SELECT" | "WITH" => some (.ok statement)
      | keyword =>
          some
            (.error
              ("Invalid " ++ command ++ " materialization query: expected " ++
                "SELECT or WITH, got " ++ keyword))
  | _ =>
      some
        (.error
          ("Invalid " ++ command ++ " materialization query: expected " ++
            "exactly one SELECT or WITH statement"))

end OpenSnow.Core.Commands
