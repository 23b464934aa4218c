import OpenSnow.Core.CommandText
import OpenSnow.Mcp.Policy

/-!
# The SQL that the agent's tools run

What a tool call, a resource and an agent task hand to the engine.  Some tools
build a fixed query, others embed the text of the caller or run it as it is.
-/

namespace OpenSnow.Mcp

open Core.Commands (isSafeUnqualifiedIdentifier)
open Rust.Json
open Rust.Text

/-! ## Statements -/

/-- A text and how it reaches the engine. -/
inductive Statement where
  /-- `execute_sql`: the command handlers see it first. -/
  | sql (text : String)
  /-- `execute_sql_raw`: past the command handlers. -/
  | raw (text : String)
deriving DecidableEq, Repr

def Statement.text : Statement → String
  | .sql text | .raw text => text

/-- `is_safe_identifier` makes the checks of `is_safe_table_identifier`. -/
def isSafeIdentifier (identifier : String) : Bool :=
  isSafeTableIdentifier identifier

/-- `name.replace('\'', "")`. -/
def withoutQuotes (name : String) : String :=
  String.ofList (name.toList.filter (· ≠ '\''))

def isBlank (text : String) : Bool := (trim text.toList).isEmpty

/-- A parameter that is a string. -/
def strParam (params : Value) (key : String) : Option String :=
  (params.get key).bind Value.asStr

/-- The strings of a parameter that is an array. -/
def strsParam (params : Value) (key : String) : List String :=
  (((params.get key).bind Value.asArray).getD []).filterMap Value.asStr

def requiredStr (params : Value) (key : String) : Option String :=
  (strParam params key).filter (!isBlank ·)

/-- `safe_ident`, without the text of its error. -/
def safeIdent (name : String) : Option String :=
  if isSafeUnqualifiedIdentifier name.toList then some name else none

/-! ## Analytics tools -/

/-- What the agent's tools find outside the request. -/
structure AgentWorld where
  /-- The tables named in recent queries, the most frequent ones first. -/
  hotTables : List String
  /--
  The planner, if one is enabled: the actions of its answer, if it gives a list
  of them.
  -/
  planner : Option (String → Option (List Value))

/-- The start of the queries about the columns of public tables. -/
def publicColumns (columns : String) : String :=
  "SELECT table_name, column_name, data_type" ++ columns ++
    " FROM information_schema.columns WHERE table_schema = 'public'"

def schemaIntrospect (params : Value) : List Statement :=
  match strParam params "table_name" with
  | some name =>
      [.raw
        (publicColumns ", is_nullable" ++ " AND table_name = '" ++
          withoutQuotes name ++ "' ORDER BY ordinal_position")]
  | none =>
      [.raw
        (publicColumns ", is_nullable" ++
          " ORDER BY table_name, ordinal_position")]

/-- The query of `schema_summary`. -/
def schemaSummary : List Statement :=
  [.raw (publicColumns "" ++ " ORDER BY table_name, ordinal_position")]

def heuristicActions (target : String) : List Value :=
  let name := if target.isEmpty then "fact" else target
  [.record
    [("kind", .string "ctas_mart"),
      ("sql",
        .string
          ("CREATE TABLE " ++ name ++ "_mart AS SELECT * FROM " ++ name ++
            ";")),
      ("rationale",
        .string "heuristic: materialize a mart from the source table")]]

/-- `migration_planner`: what it runs, and the actions of its plan. -/
def migrationPlanner (world : AgentWorld) (params : Value) :
    List Statement × List Value :=
  let target :=
    ((strParam params "target_table").filter (!isBlank ·)).getD "fact"
  match world.planner with
  | none => ([], heuristicActions target)
  | some complete =>
      (schemaSummary, (complete target).getD (heuristicActions target))

/-- `refactor_test` runs every query of the caller as it is. -/
def refactorTest (queries : List String) : List Statement :=
  queries.map .sql

/-! ## The schema refactoring task -/

/-- What follows the first occurrence of a text. -/
def behindFirst (needle : List Char) : List Char → Option (List Char)
  | [] => none
  | ch :: rest =>
      if needle <+: ch :: rest then some ((ch :: rest).drop needle.length)
      else behindFirst needle rest

/-- A creation as the query that it would materialize. -/
def smokeQuery (sql : String) : String :=
  match behindFirst "AS SELECT".toList sql.toList with
  | some rest => "SELECT" ++ String.ofList (trimEndMatches ';' rest)
  | none => "SELECT 1"

/-- The smoke test of an action, if it creates a mart. -/
def actionQuery (action : Value) : Option String :=
  if strParam action "kind" = some "ctas_mart" then
    (strParam action "sql").map smokeQuery
  else none

/-- The tables that the task looks at. -/
def refactorCandidates (world : AgentWorld) (params : Value) : List String :=
  let tables := strsParam params "tables"
  if tables.isEmpty then world.hotTables.take 10 else tables

def analyticsSchemaRefactor (world : AgentWorld) (params : Value) :
    List Statement :=
  let plans := (refactorCandidates world params).map fun table =>
    migrationPlanner world (.record [("target_table", .string table)])
  schemaIntrospect (.record []) ++ plans.flatMap Prod.fst ++
    refactorTest ((plans.flatMap Prod.snd).filterMap actionQuery)

/-- `run_task`: any other task is an error. -/
def runTask (world : AgentWorld) (taskName : String) (params : Value) :
    List Statement :=
  if taskName = "analytics_schema_refactor" then
    analyticsSchemaRefactor world params
  else []

/-! ## Tool calls -/

/-- The tools that read, and those that embed the SQL of the caller. -/
inductive Tool where
  | query
  | listTables
  | describeTable
  | createTable
  | suggestSchema
  | analyticsSchemaRefactor
  | schemaIntrospect
  | queryHistory
  | migrationPlanner
  | refactorTest
  | dbtListModels
  | dbtGetModel
  | pipelineStatus
  | scheduleGet
  | dashboardList
  | chartList
  | warehouseList
  | materializedViewCreate
deriving DecidableEq, Repr

def Tool.name : Tool → String
  | .query => "query"
  | .listTables => "list_tables"
  | .describeTable => "describe_table"
  | .createTable => "create_table"
  | .suggestSchema => "suggest_schema"
  | .analyticsSchemaRefactor => "analytics_schema_refactor"
  | .schemaIntrospect => "schema_introspect"
  | .queryHistory => "query_history"
  | .migrationPlanner => "migration_planner"
  | .refactorTest => "refactor_test"
  | .dbtListModels => "dbt_list_models"
  | .dbtGetModel => "dbt_get_model"
  | .pipelineStatus => "pipeline_status"
  | .scheduleGet => "schedule_get"
  | .dashboardList => "dashboard_list"
  | .chartList => "chart_list"
  | .warehouseList => "warehouse_list"
  | .materializedViewCreate => "materialized_view_create"

def describeTable (args : Value) : List Statement :=
  let table := (strParam args "table_name").getD ""
  if isSafeIdentifier table then [.sql ("DESCRIBE " ++ table)] else []

def createTable (args : Value) : List Statement :=
  let table := (strParam args "table_name").getD "new_table"
  if isSafeIdentifier table then
    match strParam args "select_sql" with
    | some sql => [.sql ("CREATE TABLE " ++ table ++ " AS " ++ sql)]
    | none => []
  else []

def materializedViewCreate (params : Value) : List Statement :=
  match (requiredStr params "name").bind safeIdent, requiredStr params "sql" with
  | some name, some sql =>
      [.sql ("CREATE MATERIALIZED VIEW " ++ name ++ " AS " ++ sql)]
  | _, _ => []

/--
The statements of `handle_tool_call`, up to the first one that fails where the
tool stops there.  A call with a wrong parameter runs nothing.
-/
def handleToolCall (world : AgentWorld) (args : Value) :
    Tool → List Statement
  | .query =>
      match strParam args "sql" with
      | some sql => [.sql sql]
      | none => []
  | .listTables => [.sql "SHOW TABLES"]
  | .describeTable => describeTable args
  | .createTable => createTable args
  | .analyticsSchemaRefactor =>
      runTask world "analytics_schema_refactor" args
  | .schemaIntrospect => schemaIntrospect args
  | .migrationPlanner => (migrationPlanner world args).1
  | .refactorTest => refactorTest (strsParam args "queries")
  | .warehouseList => [.sql "SHOW WAREHOUSES"]
  | .materializedViewCreate => materializedViewCreate args
  | .suggestSchema | .queryHistory | .dbtListModels | .dbtGetModel
  | .pipelineStatus | .scheduleGet | .dashboardList | .chartList => []

end OpenSnow.Mcp
