import OpenSnow.Server.DemoSql
import OpenSnow.Sql.Reading

/-!
# The SQL guardrails of the wire protocol

The validator splits a text into statements, accepts one supported statement
and returns its text.  It looks at words outside of quotes and comments.
-/

namespace OpenSnow.Server.SqlGuardrails

open Rust.Text
open Sql

/-! ## Tokens -/

inductive TokenKind where
  | word
  | symbol (ch : Char)
deriving DecidableEq, Repr

/--
A token.  The source finds the place of a token by the address of its text;
here the token keeps the text of the statement from its first character on.
-/
structure Token where
  text : String
  kind : TokenKind
  onwards : List Char
deriving DecidableEq, Repr

def isWordChar (ch : Char) : Bool := ch.isAlphanum || ch == '_'

/-- The loop of `lex_sql`; `inWord` is set behind a character of a word. -/
def lexLoop (reading : Reading) (inWord : Bool) : List Char → List Token
  | [] => []
  | ch :: rest =>
      let next := reading.next true ch rest
      if reading = .plain ∧ next = .plain then
        if isWhitespace ch then lexLoop next false rest
        else if isWordChar ch then
          if inWord then lexLoop next true rest
          else
            ⟨String.ofList ((ch :: rest).takeWhile isWordChar), .word,
                ch :: rest⟩ ::
              lexLoop next true rest
        else ⟨ch.toString, .symbol ch, ch :: rest⟩ :: lexLoop next false rest
      else lexLoop next false rest

def lexSql (sql : String) : List Token := lexLoop .plain false sql.toList

/-- The words among tokens. -/
def words (tokens : List Token) : List Token :=
  tokens.filter (·.kind = .word)

/-! ## Statements -/

/-- A piece of a text that ends with `;`, without it and without blanks. -/
def statementText (current : List Char) : List Char :=
  trim (trimEndMatches ';' (trim current))

/-- A statement is kept if it is more than blanks and comments. -/
def keepStatement (statement : List Char) (statements : List String) :
    List String :=
  if statement.isEmpty || (lexSql (String.ofList statement)).isEmpty then
    statements
  else String.ofList statement :: statements

/-- The loop of `split_sql_statements`. -/
def splitLoop (reading : Reading) (current : List Char) :
    List Char → List String
  | [] => keepStatement (trim current) []
  | ch :: rest =>
      if reading = .plain ∧ ch = ';' then
        keepStatement (statementText (current ++ [ch]))
          (splitLoop .plain [] rest)
      else splitLoop (reading.next true ch rest) (current ++ [ch]) rest

def splitSqlStatements (sql : String) : List String :=
  splitLoop .plain [] sql.toList

/-! ## Keywords -/

def firstKeyword (sql : String) : String :=
  match words (lexSql sql) with
  | [] => ""
  | first :: _ => toAsciiUppercase first.text

def tokenEq (token : Option Token) (expected : String) : Bool :=
  token.any fun token =>
    token.kind = .word && eqIgnoreAsciiCase token.text expected

def containsKeyword (sql expected : String) : Bool :=
  (words (lexSql sql)).any fun token => eqIgnoreAsciiCase token.text expected

def startsWithKeywordSequence (sql : String) (expected : List String) : Bool :=
  let found := words (lexSql sql)
  expected.length ≤ found.length &&
    (found.zip expected).all fun (actual, expected) =>
      eqIgnoreAsciiCase actual.text expected

/-! ## Targets of creations -/

def relationNameFromTokenStart (token : Token) : String :=
  String.ofList (token.onwards.takeWhile (!isWhitespace ·))

def relationTokenAfterCreatePrefix (tokens : List Token) (prefixLen : Nat) :
    Option String :=
  match tokens[prefixLen]? with
  | none => none
  | some target =>
      if eqIgnoreAsciiCase target.text "IF" &&
          tokenEq tokens[prefixLen + 1]? "NOT" &&
          tokenEq tokens[prefixLen + 2]? "EXISTS" then
        tokens[prefixLen + 3]?.map relationNameFromTokenStart
      else some (relationNameFromTokenStart target)

def createRelationTarget (sql : String) : Option String :=
  let tokens := lexSql sql
  if tokenEq tokens[0]? "CREATE" && tokenEq tokens[1]? "TABLE" then
    relationTokenAfterCreatePrefix tokens 2
  else if tokenEq tokens[0]? "CREATE" && tokenEq tokens[1]? "MATERIALIZED" &&
      tokenEq tokens[2]? "VIEW" then
    relationTokenAfterCreatePrefix tokens 3
  else none

def createMaterializationQuery (sql : String) : Option String :=
  if startsWithKeywordSequence sql ["CREATE", "TABLE"] ||
      startsWithKeywordSequence sql ["CREATE", "MATERIALIZED", "VIEW"] then
    ((words (lexSql sql)).find? (eqIgnoreAsciiCase ·.text "AS")).map
      fun token =>
        String.ofList (trimStart (token.onwards.drop token.text.length))
  else none

/-! ## Validation -/

def isSupportedDemoStatement (sql : String) : Bool :=
  match firstKeyword sql with
  | "SELECT" | "WITH" | "EXPLAIN" | "SHOW" | "DESCRIBE" | "DESC" => true
  | "CREATE" =>
      (startsWithKeywordSequence sql ["CREATE", "TABLE"] &&
          containsKeyword sql "AS") ||
        startsWithKeywordSequence sql ["CREATE", "MATERIALIZED", "VIEW"] ||
        startsWithKeywordSequence sql ["CREATE", "WAREHOUSE"]
  | "REFRESH" =>
      startsWithKeywordSequence sql ["REFRESH", "MATERIALIZED", "VIEW"]
  | "ALTER" => startsWithKeywordSequence sql ["ALTER", "WAREHOUSE"]
  | "USE" => startsWithKeywordSequence sql ["USE", "WAREHOUSE"]
  | _ => false

/-- What `validate_demo_sql` uses here. -/
def scanners : DemoSql.Scanners where
  splitSqlStatements := splitSqlStatements
  firstKeyword := firstKeyword
  createRelationTarget := createRelationTarget
  createMaterializationQuery := createMaterializationQuery
  isSupportedDemoStatement := isSupportedDemoStatement

def validateDemoSql : String → Except String String :=
  scanners.validateDemoSql

end OpenSnow.Server.SqlGuardrails
