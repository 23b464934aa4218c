import OpenSnow.Rust.Json
import OpenSnow.Server.Policy

/-!
# The object policy of the MCP server

A second analyser, which skips comments and knows no quotes, collects what a
text must be allowed to do.  Tools are allowed by scope, and the text of the
`query` tool by the analyser as well.
-/

namespace OpenSnow.Mcp

open Auth
open Rust.Json
open Rust.Text
open Server (Claims flush isIdentifierToken
  isReadKeyword isSeparator isSkippedWord normalizeObjectName)

/-! ## Tokens -/

/-- What the loop of `tokenize_sql` is in the middle of. -/
inductive Scan where
  | word (current : List Char)
  /-- The second character of `--` comes next. -/
  | lineOpening
  | line
  /-- The second character of the opening of a block comment comes next. -/
  | blockOpening
  /-- In a block comment, behind this character. -/
  | block (previous : Char)
deriving DecidableEq, Repr

/-- The loop of `tokenize_sql`. -/
def tokenizeLoop : Scan → List Char → List String
  | .word current, [] => flush current []
  | .word current, ch :: rest =>
      if ch = '-' ∧ rest.head? = some '-' then
        flush current (tokenizeLoop .lineOpening rest)
      else if ch = '/' ∧ rest.head? = some '*' then
        flush current (tokenizeLoop .blockOpening rest)
      else if isSeparator ch then
        flush current (tokenizeLoop (.word []) rest)
      else tokenizeLoop (.word (current ++ [ch])) rest
  | .lineOpening, _ :: rest => tokenizeLoop .line rest
  | .line, ch :: rest =>
      if ch = '\n' then tokenizeLoop (.word []) rest
      else tokenizeLoop .line rest
  | .blockOpening, _ :: rest => tokenizeLoop (.block '\x00') rest
  | .block previous, ch :: rest =>
      if previous = '*' ∧ ch = '/' then tokenizeLoop (.word []) rest
      else tokenizeLoop (.block ch) rest
  | _, [] => []

def tokenizeSql (sql : String) : List String :=
  tokenizeLoop (.word []) sql.toList

/--
`next_sql_object`, on the tokens from the index on.  A token that can be no
name is an error, and the end of the text is none.
-/
def nextSqlObject : List String → Except Unit (Option String)
  | [] => .ok none
  | token :: rest =>
      if isSkippedWord token then nextSqlObject rest
      else if isIdentifierToken token then .ok (some token)
      else .error ()

def isSafeTableIdentifier (table : String) : Bool :=
  !table.isEmpty && table.toList.all (fun ch => ch.isAlphanum || ch == '_') &&
    table.toList.head?.any fun ch => ch.isAlpha || ch == '_'

/-! ## Requirements -/

abbrev Requirement : Type := Privilege × ObjectType × String

def pushTableReq (reqs : List Requirement) (privilege : Privilege)
    (raw : String) : Except Unit (List Requirement) :=
  let name := normalizeObjectName raw
  if !isSafeTableIdentifier name then .error ()
  else if reqs.any fun req => req.1 == privilege && req.2.2 == name then
    .ok reqs
  else .ok (reqs ++ [(privilege, .table, name)])

/-- `next_sql_object(…)?.ok_or(())?`, pushed with a privilege. -/
def requireObject (tokens : List String) (privilege : Privilege)
    (reqs : List Requirement) : Except Unit (List Requirement) :=
  match nextSqlObject tokens with
  | .ok (some name) => pushTableReq reqs privilege name
  | .ok none | .error () => .error ()

def collectSelectReqs :
    List String → List Requirement → Except Unit (List Requirement)
  | [], reqs => .ok reqs
  | token :: rest, reqs =>
      if isReadKeyword token then
        (requireObject rest .select reqs).bind (collectSelectReqs rest)
      else collectSelectReqs rest reqs

/-- The `INTO` target of an `INSERT`, if it has one. -/
def insertReqs (tokens : List String) : Except Unit (List Requirement) :=
  match tokens.findIdx? (eqIgnoreAsciiCase · "INTO") with
  | none => .ok []
  | some idx => requireObject (tokens.drop (idx + 1)) .insert []

/-- The table that a `CREATE`, a `DROP` or an `ALTER` is about, if it is one. -/
def tableReqs (privilege : Privilege) (tokens : List String) :
    Except Unit (List Requirement) :=
  if tokens[1]?.any (eqIgnoreAsciiCase · "TABLE") then
    requireObject (tokens.drop 2) privilege []
  else .ok []

def analyzeMcpSql (sql : String) : Except Unit (List Requirement) :=
  let tokens := tokenizeSql sql
  match tokens with
  | [] => .ok []
  | first :: _ =>
      match toAsciiUppercase first with
      | "SELECT" | "WITH" => collectSelectReqs tokens []
      | "INSERT" => (insertReqs tokens).bind (collectSelectReqs tokens)
      | "CREATE" =>
          (tableReqs .create tokens).bind (collectSelectReqs tokens)
      | "DROP" => (tableReqs .drop tokens).bind (collectSelectReqs tokens)
      | "ALTER" => (tableReqs .alter tokens).bind (collectSelectReqs tokens)
      | _ => .ok []

def isSafeObjectlessQuery (sql : String) : Bool :=
  (tokenizeSql sql).head?.any fun first =>
    toAsciiUppercase first ∈ ["SELECT", "WITH"]

/-! ## Claims -/

def hasScope (claims : Claims) (scope : String) : Bool :=
  claims.scopes.any fun held => held == scope || held == "*"

/-- `is_platform_admin`, also under the name of `claims_is_admin`. -/
def isPlatformAdmin (claims : Claims) : Bool :=
  claims.role ∈ ["ACCOUNTADMIN", "SYSADMIN"] ||
    hasScope claims "policy.admin" || hasScope claims "admin"

def claimsSatisfy (claims : Claims) (allScopes anyScopes : List String) :
    Bool :=
  isPlatformAdmin claims ||
    (!allScopes.isEmpty && allScopes.all (hasScope claims)) ||
    (!anyScopes.isEmpty && anyScopes.any (hasScope claims))

/-- The status that a refused request is answered with. -/
inductive Refusal where
  | badRequest
  | unauthorized
  | forbidden
deriving DecidableEq, Repr

/-! ## Decisions -/

/-- The loop over the requirements: a failed check denies like a missing grant. -/
def checkRequirements (policy : PrivilegeStore) (role : String) :
    List Requirement → Except Refusal Unit
  | [] => .ok ()
  | (privilege, objectType, objectName) :: rest =>
      match policy.checkPrivilege role privilege objectType objectName with
      | .ok true => checkRequirements policy role rest
      | .ok false | .error _ => .error .forbidden

def authorizeSqlForClaims (claims : Claims) (policy : Option PrivilegeStore)
    (sql : String) : Except Refusal Unit :=
  if isPlatformAdmin claims then .ok ()
  else
    match analyzeMcpSql sql with
    | .error () => .error .forbidden
    | .ok [] =>
        if isSafeObjectlessQuery sql then .ok () else .error .forbidden
    | .ok (req :: reqs) =>
        match policy with
        | none => .error .forbidden
        | some policy => checkRequirements policy claims.role (req :: reqs)

/-- Scopes that grant read access to retrieval and metadata tools. -/
def readScopes : List String := ["sql.query", "table.select", "mcp.read"]

/-- The tools that a read scope is enough for. -/
def readTools : List String :=
  ["list_tables", "describe_table", "schema_introspect", "query_history",
    "migration_planner", "refactor_test", "analytics_schema_refactor",
    "suggest_schema", "dbt_list_models", "dbt_get_model", "pipeline_status",
    "schedule_get", "dashboard_list", "chart_list", "warehouse_list"]

/-- The tools that write and need a control scope. -/
def controlTools : List String :=
  ["dbt_write_model", "dbt_delete_model", "pipeline_run", "schedule_set",
    "table_drop", "warehouse_create", "materialized_view_create",
    "materialized_view_refresh", "materialized_view_drop"]

/-- `arguments.get("sql").and_then(as_str).unwrap_or("")`. -/
def sqlArgument (arguments : Value) : String :=
  ((arguments.get "sql").bind Value.asStr).getD ""

def allowIf (allowed : Bool) : Except Refusal Unit :=
  if allowed then .ok () else .error .forbidden

/-- Without claims a mode carries no scopes, and no tool is checked. -/
def authorizeClaimsForTool (claims : Option Claims)
    (policy : Option PrivilegeStore) (tool : String) (arguments : Value) :
    Except Refusal Unit :=
  match claims with
  | none => .ok ()
  | some claims =>
      if tool ∈ readTools then allowIf (claimsSatisfy claims [] readScopes)
      else if tool = "query" then
        if !claimsSatisfy claims [] ["sql.query", "table.select"] then
          .error .forbidden
        else authorizeSqlForClaims claims policy (sqlArgument arguments)
      else if tool ∈ ["create_table", "register_table"] then
        allowIf (claimsSatisfy claims ["table.create"] [])
      else if tool ∈ controlTools then
        allowIf (claimsSatisfy claims [] ["pipeline.admin"])
      else if tool ∈ ["dashboard_create", "chart_create"] then
        allowIf (claimsSatisfy claims [] ["dashboard.admin"])
      -- an unknown tool is answered by the JSON-RPC handler
      else .ok ()

end OpenSnow.Mcp
