import Mathlib.Algebra.GroupWithZero.Nat
import OpenSnow.Distributed.Executor
import OpenSnow.Server.Policy
import OpenSnow.Server.RestValidator
import OpenSnow.Server.SqlGuardrails

/-!
# The handlers of queries

`executeQuery` validates a text and asks the object policy before it runs.
`distributedQuery` hands its text to the scatter-gather executor.  Both routes
sit behind the same scope guard.  The simple query of the wire protocol
validates a text and authorises it against the scopes of the connection's
caller and the object policy; trusted mode replaces the validator by a list of
statements that are acknowledged without being run.
-/

namespace OpenSnow.Server

open Arrow
open Distributed
open Rust.Text
open Sql

variable {Row : Type}

/-- The texts a handler runs on the engine, and what it answers. -/
structure Handled (Response : Type) where
  executed : List String
  response : Response

def requireQueryScope (auth : AuthContext) : Bool :=
  auth.authorize ["sql.query", "table.select"] []

def maxQueryTimeoutSecs : Nat := 300

def userFacingQueryError (raw : String) : String :=
  if contains raw "This feature is not implemented" ||
      contains raw "Unsupported logical plan" ||
      contains raw "not implemented" then
    "OpenSnow does not support this SQL shape yet. " ++ raw ++ ". See " ++
      DemoSql.sqlCompatibilityDoc ++ " for supported SQL and known limits."
  else "OpenSnow could not execute this SQL: " ++ raw

/-- What `/api/v1/query` answers. -/
inductive QueryResponse (Row : Type) where
  | ok (rows : Nat) (data : List (RecordBatch Row))
  | error (message : String)
deriving DecidableEq, Repr

/--
The answer to a text that ran.  The engine gives no result when the timeout
passes first.
-/
def queryResponse (timeoutSecs : Nat) :
    Option (Except String (List (RecordBatch Row))) → QueryResponse Row
  | some (.ok batches) =>
      .ok (batches.map RecordBatch.numRows).sum batches
  | some (.error message) => .error (userFacingQueryError message)
  | none =>
      .error
        ("Query exceeded the external-demo timeout of " ++
          toString timeoutSecs ++ " seconds. Narrow the scan, add LIMIT, " ++
          "or raise OPENSNOW_QUERY_TIMEOUT_SECS for trusted local testing " ++
          "(max " ++ toString maxQueryTimeoutSecs ++ " seconds).")

/-- The engine behind a timeout. -/
abbrev TimedEngine (Row : Type) :=
  String → Option (Except String (List (RecordBatch Row)))

/--
The object policy in `execute_query`.  The caller and the policy are there
when authentication is on.
-/
def routeDecision (auth : Option AuthContext)
    (policy : Option ObjectPolicyStore) (sql : String) : PolicyDecision :=
  match auth, policy with
  | some auth, some policy => policy.checkSql auth sql
  | _, _ => .allow

def executeQuery (engine : TimedEngine Row) (timeoutSecs : Nat)
    (auth : Option AuthContext) (policy : Option ObjectPolicyStore)
    (requestSql : String) : Handled (QueryResponse Row) :=
  match Rest.validateDemoSql requestSql with
  | .error message => ⟨[], .error message⟩
  | .ok sql =>
      match routeDecision auth policy sql with
      | .deny denial => ⟨[], .error denial.message⟩
      | .allow => ⟨[sql], queryResponse timeoutSecs (engine sql)⟩

structure DistributedQueryRequest where
  sql : String
  partitions : Option UInt32
  hashColumn : Option String
deriving DecidableEq, Repr

namespace DistributedQueryRequest

/-- How many partitions the query is fanned out across. -/
def partitionCount (request : DistributedQueryRequest) : Nat :=
  max (request.partitions.getD 2).toNat 1

/-- The strategy of a request; an empty column counts as none. -/
def strategy (request : DistributedQueryRequest) : PartitionStrategy :=
  match request.hashColumn with
  | some column => if column.isEmpty then .replicate else .hashColumn column
  | none => .replicate

end DistributedQueryRequest

/-- What `/api/v1/distributed_query` answers. -/
inductive DistributedQueryResponse (Row : Type) where
  | ok (partitions rows : Nat) (data : List (RecordBatch Row))
  | error (error : ExecuteError String)
deriving DecidableEq, Repr

/--
`distributed_query`.  All fragments are started together, so the engine runs
every one of them.
-/
def distributedQuery (engine : Engine Row String) (queryId : String)
    (request : DistributedQueryRequest) :
    Handled (DistributedQueryResponse Row) :=
  let count := request.partitionCount
  let workers := (List.range count).map fun index =>
    localWorkerExecutor engine ("local-" ++ toString index)
  { executed :=
      (assignments workers queryId request.sql request.strategy).map
        (·.1.sql)
    response :=
      match
        executeWithStrategy workers queryId request.sql request.strategy
      with
      | .ok batches =>
          .ok count (batches.map RecordBatch.numRows).sum batches
      | .error error => .error error }

/-- The loop of `strip_leading_sql_noise`. -/
def stripNoiseLoop (reading : Reading) : List Char → List Char
  | [] => []
  | ch :: rest =>
      let next := reading.next true ch rest
      if reading = .plain then
        if isWhitespace ch ∨ next = .lineOpening ∨ next = .blockOpening then
          stripNoiseLoop next rest
        else ch :: rest
      else stripNoiseLoop next rest

def stripLeadingSqlNoise (sql : String) : String :=
  String.ofList (stripNoiseLoop .plain sql.toList)

def noopKeywords : List String :=
  ["BEGIN", "COMMIT", "ROLLBACK", "START TRANSACTION", "END TRANSACTION",
    "SAVEPOINT", "RELEASE SAVEPOINT", "SET", "RESET", "DISCARD",
    "CREATE SCHEMA", "DROP SCHEMA"]

def startsWithKeyword (sql keyword : String) : Bool :=
  startsWith sql keyword &&
    (sql.toList.drop keyword.length).head?.all fun ch =>
      isAsciiWhitespace ch || ch == ';'

def isPgSessionNoop (sql : String) : Bool :=
  let upper := toAsciiUppercase (stripLeadingSqlNoise sql)
  noopKeywords.any (startsWithKeyword upper ·)

def authorizePgwireSql (policy : ObjectPolicyStore) (auth : AuthContext)
    (sql : String) : Except String Unit :=
  if !auth.hasAllScopes ["sql.query", "table.select"] then
    .error "pgwire query requires sql.query and table.select scopes"
  else
    match policy.checkSql auth sql with
    | .allow => .ok ()
    | .deny denial => .error denial.message

/-- What a simple query is answered with. -/
inductive PgResponse (Row : Type) where
  /-- The tag "OK". -/
  | ok
  | query (batches : List (RecordBatch Row))
  | error (code message : String)
deriving DecidableEq, Repr

/--
The authentication of a connection: the policy, and the caller that the
startup left in the metadata, if it can be read.
-/
structure PgAuth where
  policy : ObjectPolicyStore
  metadata : Option (Except String AuthContext)

/-- The text that `do_query` goes on with, or its answer. -/
def acceptPgQuery (trusted : Bool) (query : String) :
    Except (PgResponse Row) String :=
  if trusted then
    if isPgSessionNoop query then .error .ok else .ok query
  else (SqlGuardrails.validateDemoSql query).mapError (.error "0A000")

/-- The authorisation in `do_query`. -/
def authorizePgQuery (auth : Option PgAuth) (query : String) :
    Except (PgResponse Row) Unit :=
  match auth with
  | none => .ok ()
  | some ⟨_, none⟩ =>
      .error
        (.error "28000" "pgwire connection is missing authenticated subject")
  | some ⟨_, some (.error message)⟩ => .error (.error "28000" message)
  | some ⟨policy, some (.ok caller)⟩ =>
      (authorizePgwireSql policy caller query).mapError (.error "42501")

/-- The answer to a text that ran. -/
def pgResponse : Except String (List (RecordBatch Row)) → PgResponse Row
  | .ok batches => if batches.isEmpty then .ok else .query batches
  | .error message => .error "XX000" message

def doQuery (engine : Engine Row String) (trusted : Bool)
    (auth : Option PgAuth) (rawQuery : String) : Handled (PgResponse Row) :=
  match acceptPgQuery trusted rawQuery with
  | .error response => ⟨[], response⟩
  | .ok query =>
      match authorizePgQuery auth query with
      | .error response => ⟨[], response⟩
      | .ok () => ⟨[query], pgResponse (engine query)⟩

end OpenSnow.Server
