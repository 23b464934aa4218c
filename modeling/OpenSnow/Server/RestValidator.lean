import OpenSnow.Server.DemoSql
import OpenSnow.Sql.Reading

/-!
# The SQL validator of the REST routes

It accepts the same kinds of statements as the guardrails of the wire
protocol, with scanners of its own that know quotes and no comments.
-/

namespace OpenSnow.Server.Rest

open Rust.Text
open Sql

/-! ## Statements -/

/-- A statement is kept if it is more than blanks. -/
def keepStatement (current : List Char) (statements : List String) :
    List String :=
  if (trim current).isEmpty then statements
  else String.ofList (trim current) :: statements

/-- The loop of `split_sql_statements`. -/
def splitLoop (reading : Reading) (current : List Char) :
    List Char → List String
  | [] => keepStatement current []
  | ch :: rest =>
      if reading = .plain ∧ ch = ';' then
        keepStatement current (splitLoop .plain [] rest)
      else splitLoop (reading.next false ch rest) (current ++ [ch]) rest

def splitSqlStatements (sql : String) : List String :=
  splitLoop .plain [] sql.toList

/-! ## Keywords -/

def firstKeyword (sql : String) : String :=
  let isBreak := fun ch => isWhitespace ch || ch == '('
  let onwards := (trimStart sql.toList).dropWhile isBreak
  toAsciiUppercase (String.ofList (onwards.takeWhile (!isBreak ·)))

def isSqlIdentifierChar (ch : Char) : Bool := ch.isAlphanum || ch == '_'

def containsKeyword (sql expected : String) : Bool :=
  (sql.toList.splitOnP (!isSqlIdentifierChar ·)).any fun token =>
    eqIgnoreAsciiCase (String.ofList token) expected

def splitWhitespace (sql : String) : List String :=
  ((sql.toList.splitOnP isWhitespace).filter (!·.isEmpty)).map String.ofList

def startsWithKeywordSequence (sql : String) (expected : List String) : Bool :=
  let tokens := splitWhitespace sql
  expected.length ≤ tokens.length &&
    (tokens.zip expected).all fun (actual, expected) =>
      eqIgnoreAsciiCase actual expected

/-- The text behind an `AS` that starts a list of characters. -/
def behindAs : List Char → Option (List Char)
  | first :: second :: rest =>
      if (first = 'A' ∨ first = 'a') ∧ (second = 'S' ∨ second = 's') ∧
          !rest.head?.any isSqlIdentifierChar then
        some rest
      else none
  | _ => none

/-- The loop of `find_as_clause`, behind the character `last`. -/
def findAsLoop (reading : Reading) (last : Option Char) :
    List Char → Option (List Char)
  | [] => none
  | ch :: rest =>
      let found :=
        if reading = .plain ∧ !last.any isSqlIdentifierChar then
          behindAs (ch :: rest)
        else none
      match found with
      | some onwards => some (trimStart onwards)
      | none => findAsLoop (reading.next false ch rest) (some ch) rest

def findAsClause (sql : String) : Option String :=
  (findAsLoop .plain none sql.toList).map String.ofList

/-! ## Targets of creations -/

/-- A token is there and is this keyword. -/
def tokenEq (token : Option String) (expected : String) : Bool :=
  token.any (eqIgnoreAsciiCase · expected)

def relationTokenAfterCreatePrefix (tokens : List String) (prefixLen : Nat) :
    Option String :=
  if tokenEq tokens[prefixLen]? "IF" && tokenEq tokens[prefixLen + 1]? "NOT" &&
      tokenEq tokens[prefixLen + 2]? "EXISTS" then
    tokens[prefixLen + 3]?
  else tokens[prefixLen]?

def createRelationTarget (sql : String) : Option String :=
  let tokens := splitWhitespace sql
  if tokenEq tokens[0]? "CREATE" && tokenEq tokens[1]? "TABLE" then
    relationTokenAfterCreatePrefix tokens 2
  else if tokenEq tokens[0]? "CREATE" && tokenEq tokens[1]? "MATERIALIZED" &&
      tokenEq tokens[2]? "VIEW" then
    relationTokenAfterCreatePrefix tokens 3
  else none

def createMaterializationQuery (sql : String) : Option String :=
  if startsWithKeywordSequence sql ["CREATE", "TABLE"] ||
      startsWithKeywordSequence sql ["CREATE", "MATERIALIZED", "VIEW"] then
    findAsClause sql
  else none

/-! ## Validation -/

def isSupportedDemoStatement (sql : String) : Bool :=
  let upper := toAsciiUppercase sql
  match firstKeyword sql with
  | "SELECT" | "WITH" | "EXPLAIN" | "SHOW" | "DESCRIBE" | "DESC" => true
  | "CREATE" =>
      (startsWith upper "CREATE TABLE" && containsKeyword sql "AS") ||
        startsWith upper "CREATE MATERIALIZED VIEW" ||
        startsWith upper "CREATE WAREHOUSE"
  | "REFRESH" => startsWith upper "REFRESH MATERIALIZED VIEW"
  | "ALTER" => startsWith upper "ALTER WAREHOUSE"
  | "USE" => startsWith upper "USE WAREHOUSE"
  | _ => false

/-- What `validate_demo_sql` uses here. -/
def scanners : DemoSql.Scanners where
  splitSqlStatements := splitSqlStatements
  firstKeyword := firstKeyword
  createRelationTarget := createRelationTarget
  createMaterializationQuery := createMaterializationQuery
  isSupportedDemoStatement := isSupportedDemoStatement

def validateDemoSql : String → Except String String :=
  scanners.validateDemoSql

end OpenSnow.Server.Rest
