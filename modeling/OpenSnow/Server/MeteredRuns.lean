import OpenSnow.Server.AuthState
import OpenSnow.Server.Surfaces

/-!
# Metered runs

Runs of a server in which every statement that the engine runs is written down
with the client that it ran for.  Bearer tokens are those that the server
issued, and a connection of the wire protocol stays open after its startup.
-/

namespace OpenSnow.Server

open Distributed
open Server.ControlPlane

variable {Row : Type}

/-! ## Requests -/

/-- What the surfaces run statements with. -/
structure QuerySurfaces (Row : Type) where
  engine : Engine Row String
  timedEngine : TimedEngine Row
  timeoutSecs : Nat
  policy : ObjectPolicyStore
  /-- `trusted_sql_enabled`, which only the wire protocol looks at. -/
  trusted : Bool

/-- The guards that ask for one scope of several. -/
inductive RouteGuard where
  | ingestWrite
  | ingestRead
  | auditRead
  | admin
deriving DecidableEq, Repr

def RouteGuard.scopes : RouteGuard → List String
  | ingestWrite => ["ingest.write", "table.insert", "table.create"]
  | ingestRead => ["ingest.read", "ingest.write"]
  | auditRead => ["audit.read", "policy.admin"]
  | admin => ["policy.admin"]

def RouteGuard.passes (guard : RouteGuard) (auth : AuthContext) : Bool :=
  auth.authorize [] guard.scopes

/-- A request behind the token check of the HTTP server. -/
inductive HttpRequest where
  | executeQuery (sql : String)
  | distributedQuery (queryId : String) (request : DistributedQueryRequest)
  | dbtCatalog
  /-- Another route, with the statements that run behind its guard. -/
  | guarded (guard : RouteGuard) (statements : List String)

/-- The statement of the dbt catalog. -/
def dbtColumnsSql : String :=
  "SELECT table_name, column_name, data_type, ordinal_position " ++
    "FROM information_schema.columns WHERE table_schema = 'public' " ++
    "ORDER BY table_name, ordinal_position"

/-- The statements that a request of a caller runs. -/
def HttpRequest.executed (surfaces : QuerySurfaces Row) (auth : AuthContext) :
    HttpRequest → List String
  | executeQuery sql =>
      (SurfaceRequest.executeQuery sql).executed surfaces.engine
        surfaces.timedEngine surfaces.timeoutSecs surfaces.policy auth
  | distributedQuery queryId request =>
      (SurfaceRequest.distributedQuery queryId request).executed
        surfaces.engine surfaces.timedEngine surfaces.timeoutSecs
        surfaces.policy auth
  | dbtCatalog => if requireQueryScope auth then [dbtColumnsSql] else []
  | guarded guard statements => if guard.passes auth then statements else []

/-- The statements that a simple query of a caller runs. -/
def queryExecuted (surfaces : QuerySurfaces Row) (auth : AuthContext)
    (query : String) : List String :=
  (doQuery surfaces.engine surfaces.trusted
    (some ⟨surfaces.policy, some (.ok auth)⟩) query).executed

/-! ## States and steps -/

/-- An open connection of the wire protocol. -/
structure PgConnection where
  claims : Claims
  /-- How many statements ran on it. -/
  statements : Nat

structure MeteredState where
  auth : AuthState
  /-- The claims of the tokens of clients that were issued. -/
  issued : List Claims
  connections : List PgConnection
  /-- For each statement that ran, its client. -/
  ran : List String

/-- The server holds the token to be valid. -/
def MeteredState.validates (state : MeteredState) (claims : Claims) : Bool :=
  isOidc claims || claims ∈ state.issued

/-- One entry for each statement, unless a user of the SSO ran them. -/
def ranFor (claims : Claims) (statements : List String) : List String :=
  if isOidc claims then []
  else List.replicate statements.length claims.username

inductive MeteredStep (Row : Type) where
  | operation (action : Operation)
  | http (surfaces : QuerySurfaces Row) (moment : Moment) (claims : Claims)
      (accountHeaders : List String) (request : HttpRequest)
  | startup (moment : Moment) (startupUser : String)
      (startupDatabase : Option String) (claims : Claims)
  | query (surfaces : QuerySurfaces Row) (connection : Nat) (query : String)
  | terminate (connection : Nat)

namespace MeteredState

/-- An operation, which may issue a token; a start ends all connections. -/
def operate (state : MeteredState) (action : Operation) : MeteredState :=
  { state with
    auth := action.perform state.auth
    issued :=
      match action with
      | .token moment request =>
          match (tokenEndpoint moment request state.auth.control).1 with
          | .ok claims => claims :: state.issued
          | .error _ => state.issued
      | _ => state.issued
    connections :=
      match action with
      | .restart _ _ => []
      | _ => state.connections }

/-- A request over HTTP, behind `jwt_required`. -/
def http (state : MeteredState) (surfaces : QuerySurfaces Row)
    (moment : Moment) (claims : Claims) (accountHeaders : List String)
    (request : HttpRequest) : MeteredState :=
  if state.validates claims then
    match jwtRequired moment claims accountHeaders state.auth.control with
    | (.ok caller, control) =>
        { state with
          auth := { state.auth with control }
          ran :=
            ranFor claims (request.executed surfaces caller) ++ state.ran }
    | (.error _, control) => { state with auth := { state.auth with control } }
  else state

/-- The startup of a connection. -/
def startup (state : MeteredState) (moment : Moment) (startupUser : String)
    (startupDatabase : Option String) (claims : Claims) : MeteredState :=
  if state.validates claims then
    match authenticatePgwireBearer moment startupUser startupDatabase claims
        state.auth.control with
    | (.ok _, control) =>
        { state with
          auth := { state.auth with control }
          connections := ⟨claims, 0⟩ :: state.connections }
    | (.error _, control) => { state with auth := { state.auth with control } }
  else state

/-- A simple query on an open connection, which looks at no token. -/
def query (state : MeteredState) (surfaces : QuerySurfaces Row)
    (connection : Nat) (query : String) : MeteredState :=
  match state.connections[connection]? with
  | none => state
  | some held =>
      let executed :=
        queryExecuted surfaces (AuthContext.ofClaims held.claims) query
      { state with
        connections :=
          state.connections.set connection
            { held with statements := held.statements + executed.length }
        ran := ranFor held.claims executed ++ state.ran }

def terminate (state : MeteredState) (connection : Nat) : MeteredState :=
  { state with connections := state.connections.eraseIdx connection }

def perform (state : MeteredState) : MeteredStep Row → MeteredState
  | .operation action => state.operate action
  | .http surfaces moment claims accountHeaders request =>
      state.http surfaces moment claims accountHeaders request
  | .startup moment startupUser startupDatabase claims =>
      state.startup moment startupUser startupDatabase claims
  | .query surfaces connection query =>
      state.query surfaces connection query
  | .terminate connection => state.terminate connection

def fresh : MeteredState := ⟨.fresh, [], [], []⟩

end MeteredState

/-! ## What a request runs -/

section Executed

variable {surfaces : QuerySurfaces Row} {auth : AuthContext}

theorem length_executeQuery_le (sql : String) :
    ((HttpRequest.executeQuery sql).executed surfaces auth).length ≤ 1 := by
  rw [HttpRequest.executed, SurfaceRequest.executed, executeQuery]
  split_ifs
  · split
    · exact Nat.zero_le 1
    · split
      · exact Nat.zero_le 1
      · exact Nat.le_refl 1
  · exact Nat.zero_le 1

/-- A distributed query runs one statement for each partition. -/
theorem length_distributedQuery_le (queryId : String)
    (request : DistributedQueryRequest) :
    ((HttpRequest.distributedQuery queryId request).executed surfaces
      auth).length ≤ request.partitionCount := by
  rw [HttpRequest.executed, SurfaceRequest.executed]
  split_ifs
  · rw [executed_distributedQuery, List.length_map, List.length_range]
  · exact Nat.zero_le _

theorem length_queryExecuted_le (query : String) :
    (queryExecuted surfaces auth query).length ≤ 1 := by
  unfold queryExecuted doQuery
  split
  · exact Nat.zero_le 1
  · split
    · exact Nat.zero_le 1
    · exact Nat.le_refl 1

/-- The validator, the scopes or the policy refuse the query. -/
def Refused (surfaces : QuerySurfaces Row) (auth : AuthContext)
    (query : String) : Prop :=
  ∀ statement,
    (acceptPgQuery surfaces.trusted query : Except (PgResponse Row) String) =
        .ok statement →
      (authorizePgQuery (some ⟨surfaces.policy, some (.ok auth)⟩) statement :
        Except (PgResponse Row) Unit) ≠ .ok ()

theorem queryExecuted_of_refused {query : String}
    (refused : Refused surfaces auth query) :
    queryExecuted surfaces auth query = [] := by
  unfold queryExecuted doQuery
  split
  · rfl
  · rename_i statement accepted
    split
    · rfl
    · rename_i authorized
      exact absurd authorized (refused statement accepted)

/-- The request gets a statement to the engine, for a caller with scopes. -/
def HttpRequest.Runs (surfaces : QuerySurfaces Row) (auth : AuthContext) :
    HttpRequest → Prop
  | executeQuery sql =>
      ∃ statement, Rest.validateDemoSql sql = .ok statement ∧
        routeDecision (some auth) (some surfaces.policy) statement = .allow
  | distributedQuery _ _ => True
  | dbtCatalog => True
  | guarded _ _ => False

theorem HttpRequest.Runs.executed_ne_nil {request : HttpRequest}
    (runs : request.Runs surfaces auth) (mayQuery : requireQueryScope auth) :
    request.executed surfaces auth ≠ [] := by
  cases request with
  | executeQuery sql =>
      obtain ⟨statement, valid, allowed⟩ := runs
      rw [HttpRequest.executed, SurfaceRequest.executed, Server.executeQuery,
        if_pos mayQuery, valid]
      dsimp only
      rw [allowed]
      exact List.cons_ne_nil _ _
  | distributedQuery queryId request =>
      rw [HttpRequest.executed, SurfaceRequest.executed, if_pos mayQuery,
        executed_distributedQuery]
      intro none
      have positive := partitionCount_pos request
      rw [List.map_eq_nil_iff, List.range_eq_nil] at none
      omega
  | dbtCatalog =>
      rw [HttpRequest.executed, if_pos mayQuery]
      exact List.cons_ne_nil _ _
  | guarded guard statements => exact runs.elim

end Executed

end OpenSnow.Server
