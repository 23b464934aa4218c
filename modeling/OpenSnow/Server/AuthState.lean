import OpenSnow.Foundation.Runs
import OpenSnow.Server.ScimRoutes
import OpenSnow.Server.Tokens

/-!
# The state of authentication

Evaluation accounts, the start of a server, and the operations on the catalog,
the registry of clients and the SCIM directory that the other modules describe
one by one.
-/

namespace OpenSnow.Server

open Catalog.ControlPlane
open Foundation
open Server.ControlPlane
open Server.Scim

/-! ## Evaluation accounts -/

/-- What the registration of an evaluation account meets. -/
structure EvaluationMoment where
  /-- The nanoseconds since the epoch. -/
  nonce : Nat
  hashSecret : String → String
  /-- `OPENSNOW_EVALUATION_QUERY_QUOTA`, if it is a number. -/
  quota : Option Nat

def defaultEvaluationQueryQuota : Nat := 100

/-- `format!("{nonce:x}")`. -/
def EvaluationMoment.suffix (moment : EvaluationMoment) : String :=
  String.ofList (Nat.toDigits 16 moment.nonce)

def EvaluationMoment.clientId (moment : EvaluationMoment) : String :=
  "eval-" ++ moment.suffix

def EvaluationMoment.tenantId (moment : EvaluationMoment) : String :=
  "eval-tenant-" ++ moment.suffix

def EvaluationMoment.clientSecret (moment : EvaluationMoment) : String :=
  "opensnow-eval-" ++ moment.suffix ++ "-sandbox-secret"

def EvaluationMoment.queryQuota (moment : EvaluationMoment) : Nat :=
  (moment.quota.filter fun quota => decide (0 < quota)).getD
    defaultEvaluationQueryQuota

inductive EvaluationRequest where
  | register (email : Option String)
  | suspend (clientId : String) (reason : Option String)
  | revoke (clientId : String) (reason : Option String)

inductive EvaluationReply where
  | registered (clientId clientSecret tenantId : String) (queryQuota : Nat)
      (requestedEmail : Option String)
  | changed (clientId accountStatus : String)
deriving DecidableEq, Repr

/-- `register_evaluation_account`. -/
def registerEvaluationAccount (moment : EvaluationMoment)
    (email : Option String) : Handler EvaluationReply := do
  Effect.modify fun state =>
    { state with
      clients := state.clients.registerEvaluationClient moment.clientId
        (moment.hashSecret moment.clientSecret) moment.tenantId
        moment.queryQuota }
  pure (.registered moment.clientId moment.clientSecret moment.tenantId
    moment.queryQuota email)

/-- Change the status of a client in the registry only. -/
def changeStatus (clientId : String) (status : ClientStatus)
    (reason : String) : Handler Unit := fun state =>
  match state.clients.setStatus clientId status reason with
  | .ok clients => (.ok (), { state with clients })
  | .error message => (.error (notFound message), state)

/-- `suspend_evaluation_account`. -/
def suspendEvaluationAccount (clientId : String) (reason : Option String) :
    Handler EvaluationReply := do
  changeStatus clientId .suspended
    (reason.getD "operator suspended evaluation account")
  pure (.changed clientId "suspended")

/-- `revoke_evaluation_account`. -/
def revokeEvaluationAccount (clientId : String) (reason : Option String) :
    Handler EvaluationReply := do
  changeStatus clientId .revoked
    (reason.getD "operator revoked evaluation account")
  pure (.changed clientId "revoked")

/-- Everyone may register, and administrators suspend and revoke. -/
def evaluationServe (moment : EvaluationMoment) (actor : AuthContext) :
    EvaluationRequest → Handler EvaluationReply
  | .register email => registerEvaluationAccount moment email
  | .suspend clientId reason => do
      Effect.look fun _ => requireAdminScope actor
      suspendEvaluationAccount clientId reason
  | .revoke clientId reason => do
      Effect.look fun _ => requireAdminScope actor
      revokeEvaluationAccount clientId reason

/-! ## Starting a server -/

/-- An entry of `OPENSNOW_CLIENTS`. -/
structure ClientConfigEntry where
  clientId : String
  secret : String
  role : String
  tenantId : String
  scopes : List String

/-- The clients of the configuration. -/
def configuredClients (deployment : Deployment)
    (entries : List ClientConfigEntry) : ClientRegistry :=
  entries.foldl
    (fun registry entry =>
      registry.registerWithMetadata entry.clientId
        (deployment.hashSecret entry.secret) entry.role entry.tenantId
        entry.scopes)
    .empty

/-- `load_durable_clients_from_catalog`, if a catalog is configured. -/
def loadFromCatalog (deployment : Deployment) (identities : IdentityTable)
    (registry : ClientRegistry) : Except String Unit × ClientRegistry :=
  match deployment.catalog with
  | .error message => (.error message, registry)
  | .ok false => (.ok (), registry)
  | .ok true =>
      match deployment.fault .listIdentities with
      | some message => (.error message, registry)
      | none =>
          registry.loadDurableClients
            (listServiceIdentityClients identities none)

/-! ## The state and its operations -/

/-- The catalog, the registry and the SCIM directory. -/
structure AuthState where
  control : ControlState
  scim : ScimDirectory

def AuthState.fresh : AuthState := ⟨.fresh, .empty⟩

/-- What the SCIM routes see of the state. -/
def AuthState.scimServer (state : AuthState) : ScimServer :=
  ⟨state.control.clients, state.scim⟩

def AuthState.withScimServer (state : AuthState) (server : ScimServer) :
    AuthState where
  control := { state.control with clients := server.clients }
  scim := server.directory

/--
`AuthState::from_env`: the registry is built again, and the maps of the
process are lost.  A failure to load the clients of the catalog is a warning.
-/
def AuthState.restart (deployment : Deployment)
    (entries : List ClientConfigEntry) (state : AuthState) : AuthState where
  control :=
    { state.control with
      clients :=
        (loadFromCatalog deployment state.control.identities
          (configuredClients deployment entries)).2 }
  scim := { state.scim with inner := .empty }

/-- What is done with the state, apart from admitting a bearer. -/
inductive Operation where
  | control (deployment : Deployment) (actor : AuthContext)
      (request : Request)
  | evaluation (moment : EvaluationMoment) (actor : AuthContext)
      (request : EvaluationRequest)
  | scim (call : ScimCall)
  | token (moment : Moment) (request : TokenRequest)
  | restart (deployment : Deployment) (entries : List ClientConfigEntry)

/-- Run a handler of the control plane. -/
def AuthState.run {Failure Reply : Type} (state : AuthState)
    (handler : Effect ControlState Failure Reply) : AuthState :=
  { state with control := (handler state.control).2 }

/-- The state after an operation. -/
def Operation.perform (state : AuthState) : Operation → AuthState
  | control deployment actor request =>
      state.run (serve deployment actor request)
  | evaluation moment actor request =>
      state.run (evaluationServe moment actor request)
  | scim call => state.withScimServer (scimServe call state.scimServer).2
  | token moment request => state.run (tokenEndpoint moment request)
  | restart deployment entries => state.restart deployment entries

/-- An operation, or a bearer of a valid token on one of the surfaces. -/
inductive AuthCall where
  | operation (action : Operation)
  | http (moment : Moment) (claims : Claims) (accountHeaders : List String)
  | pgwire (moment : Moment) (startupUser : String)
      (startupDatabase : Option String) (claims : Claims)

def AuthCall.perform (state : AuthState) : AuthCall → AuthState
  | operation action => action.perform state
  | http moment claims accountHeaders =>
      state.run (jwtRequired moment claims accountHeaders)
  | pgwire moment startupUser startupDatabase claims =>
      state.run
        (authenticatePgwireBearer moment startupUser startupDatabase claims)

end OpenSnow.Server
