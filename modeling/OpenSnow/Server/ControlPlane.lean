import OpenSnow.Foundation.Effect
import OpenSnow.Server.AuthContext
import OpenSnow.Server.Clients
import OpenSnow.Server.SecretPayloads

/-!
# The control-plane routes

The handlers that create accounts, organizations, workspaces and their
resources, and the handlers that list, create, rotate and revoke service
clients.  Each reads and checks first, and writes then.

The catalog's faults, the time and the generated secrets are what a
deployment provides.  Audit events are left out.
-/

namespace OpenSnow.Server.ControlPlane

open Catalog.ControlPlane
open Foundation
open Rust
open Rust.Text
open Server.SecretPayloads

/-! ## Deployments and states -/

/-- A statement of the catalog that can fail. -/
inductive CatalogOp where
  | registerAccount
  | upsertResource (resourceType id : String)
  | getResource (resourceType id : String)
  | createIdentity
  | getIdentity
  | listIdentities
  | rotateIdentity
  | revokeIdentity
  | markIdentityUsed
deriving DecidableEq, Repr

/-- What a request meets outside the server. -/
structure Deployment where
  /-- Opening the catalog fails, or says whether one is configured. -/
  catalog : Except String Bool
  fault : CatalogOp → Option String
  now : String
  generatedClientSecret : String
  hashSecret : String → String

inductive Failure where
  | http (status : Nat) (message : String)
  /-- The handler panics and the connection is closed. -/
  | panic
deriving DecidableEq, Repr

def serverError (message : String) : Failure := .http 500 message

def forbidden (message : String) : Failure := .http 403 message

def notFound (message : String) : Failure := .http 404 message

/-- What a route does to a service identity or with it. -/
inductive Administered where
  | returned (record : ServiceIdentityClient)
  | created (record : ServiceIdentityClient)
  | secretSet (record : ServiceIdentityClient)
  | revoked (record : ServiceIdentityClient)
  /-- The record is copied into the registry. -/
  | registered (record : ServiceIdentityClient)
deriving DecidableEq, Repr

def Administered.record : Administered → ServiceIdentityClient
  | returned record => record
  | created record => record
  | secretSet record => record
  | revoked record => record
  | registered record => record

/-- The tables of the catalog and the registry of the server. -/
structure ControlState where
  resources : ResourceTable
  identities : IdentityTable
  clients : ClientRegistry
  /-- What was done to service identities, the last first. -/
  administered : List Administered

namespace ControlState

def fresh : ControlState where
  resources := .empty
  identities := .empty
  clients := .empty
  administered := []

def note (state : ControlState) (entry : Administered) : ControlState :=
  { state with administered := entry :: state.administered }

end ControlState

abbrev Handler (Reply : Type) := Effect ControlState Failure Reply

/-! ## Requests -/

structure AccountCreateRequest where
  slug : String
  legalName : Option String
  ownerEmail : Option String

structure OrganizationCreateRequest where
  slug : String
  displayName : Option String
  verifiedDomains : List String

structure WorkspaceCreateRequest where
  slug : String
  deploymentMode : Option String
  warehouseNamespace : Option String

structure ServiceClientCreateRequest where
  clientId : String
  accountId : String
  workspaceId : Option String
  role : String
  scopes : List String
  expiresAt : Option String
  clientSecret : Option String

/-- `slug.replace(…)`: what is neither alphanumeric nor a dash is a dash. -/
def slugText (slug : String) : String :=
  String.ofList (slug.toList.map fun ch =>
    if ch.isAlphanum || ch == '-' then ch else '-')

def slugId (kind parent slug : String) : String :=
  kind ++ "_" ++ parent ++ "_" ++ slugText slug

/-! ## Checks -/

def isBreakGlassAdmin (actor : AuthContext) : Bool :=
  actor.hasExplicitScope "break_glass.admin"

/-- A statement of the catalog, answered with `status` when it fails. -/
def attempt (deployment : Deployment) (op : CatalogOp) (status : Nat) :
    Except Failure Unit :=
  match deployment.fault op with
  | some message => .error (.http status message)
  | none => .ok ()

/-- The catalog is configured and opens. -/
def requireCatalogOr (absent : String) (deployment : Deployment) :
    Except Failure Unit :=
  match deployment.catalog with
  | .error message => .error (serverError message)
  | .ok false => .error (.http 503 absent)
  | .ok true => .ok ()

def requireCatalog : Deployment → Except Failure Unit :=
  requireCatalogOr "durable control-plane catalog is not configured"

/-- The same check, as the service client routes make it. -/
def requireServiceCatalog : Deployment → Except Failure Unit :=
  requireCatalogOr "durable service identity catalog is not configured"

def ensureAccountActor (actor : AuthContext) (accountId : String) :
    Except Failure Unit :=
  if actor.tenantId = accountId ∨ isBreakGlassAdmin actor then .ok ()
  else
    .error (forbidden
      "authenticated subject cannot mutate a different account")

/-- The row of a parent, by its kind and its id. -/
def ownerRow (kind missing : String) (deployment : Deployment)
    (resources : ResourceTable) (id : String) :
    Except Failure ControlPlaneResource := do
  attempt deployment (.getResource kind id) 500
  match resources.find (kind, id) with
  | some row => .ok row
  | none => .error (notFound missing)

def organizationOwner : Deployment → ResourceTable → String →
    Except Failure ControlPlaneResource :=
  ownerRow "organization" "organization not found"

def workspaceOwner : Deployment → ResourceTable → String →
    Except Failure ControlPlaneResource :=
  ownerRow "workspace" "workspace not found"

/-- The message for a payload with a secret in it. -/
def plaintextSecretMessage (key : String) : String :=
  "plaintext secret-bearing field `" ++ key ++ "` is not accepted; store " ++
    "it in a secret manager and pass a *_handle reference"

def rejectPlaintextSecretPayload (payload : Json.Value) :
    Except Failure Unit :=
  match containsPlaintextSecret payload with
  | some key => .error (.http 400 (plaintextSecretMessage key))
  | none => .ok ()

/-! ## Planned writes -/

/--
The id of a resource: the payload's own, or a slug of the first of the keys
that the payload has.
-/
def payloadId (payload : Json.Value) (resourceType parent : String)
    (keys : List String) : String :=
  ((payload.get "id").bind Json.Value.asStr).getD
    (slugId resourceType parent
      (((keys.findSome? payload.get).bind Json.Value.asStr).getD
        resourceType))

/-- `resource[key] = value` for each of the fields. -/
def withFields : Json.Fields → Json.Value → Except Failure Json.Value
  | [], resource => .ok resource
  | (key, value) :: rest, resource =>
      match resource.setIndex key value with
      | some resource => withFields rest resource
      | none => .error .panic

def organizationPlan (deployment : Deployment) (actor : AuthContext)
    (accountId : String) (request : OrganizationCreateRequest) :
    Except Failure ResourceWrite := do
  requireCatalog deployment
  ensureAccountActor actor accountId
  let orgId := slugId "org" accountId request.slug
  .ok
    { resourceType := "organization", id := orgId, accountId
      organizationId := some orgId, workspaceId := none
      resource := .record
        [("id", .string orgId), ("account_id", .string accountId),
          ("slug", .string request.slug),
          ("display_name", .ofOption request.displayName),
          ("verified_domains", .strings request.verifiedDomains),
          ("lifecycle_state", .string "active")] }

def workspacePlan (deployment : Deployment) (actor : AuthContext)
    (resources : ResourceTable) (orgId : String)
    (request : WorkspaceCreateRequest) : Except Failure ResourceWrite := do
  requireCatalog deployment
  let org ← organizationOwner deployment resources orgId
  ensureAccountActor actor org.accountId
  let workspaceId := slugId "ws" org.accountId request.slug
  .ok
    { resourceType := "workspace", id := workspaceId
      accountId := org.accountId, organizationId := some orgId
      workspaceId := some workspaceId
      resource := .record
        [("id", .string workspaceId), ("account_id", .string org.accountId),
          ("organization_id", .string orgId), ("slug", .string request.slug),
          ("deployment_mode",
            .string (request.deploymentMode.getD "self_hosted_k8s")),
          ("warehouse_namespace", .ofOption request.warehouseNamespace),
          ("lifecycle_state", .string "active")] }

def orgResourceType : String → Option String
  | "idp-connections" => some "idp_connection"
  | "scim-connections" => some "scim_connection"
  | "entitlement-bindings" => some "entitlement_binding"
  | _ => none

def orgResourcePlan (deployment : Deployment) (actor : AuthContext)
    (resources : ResourceTable) (orgId kind : String) (payload : Json.Value) :
    Except Failure ResourceWrite := do
  requireCatalog deployment
  let org ← organizationOwner deployment resources orgId
  ensureAccountActor actor org.accountId
  match orgResourceType kind with
  | none => .error (notFound "unsupported organization resource")
  | some resourceType =>
      rejectPlaintextSecretPayload payload
      let id := payloadId payload resourceType orgId
        ["label", "client_id", "entitlement_id"]
      let resource ← withFields
        [("id", .string id), ("account_id", .string org.accountId),
          ("organization_id", .string orgId)] payload
      .ok
        { resourceType, id, accountId := org.accountId
          organizationId := some orgId, workspaceId := none, resource }

def auditExportPlan (deployment : Deployment) (actor : AuthContext)
    (resources : ResourceTable) (orgId : String) (payload : Json.Value) :
    Except Failure ResourceWrite := do
  requireCatalog deployment
  let org ← organizationOwner deployment resources orgId
  ensureAccountActor actor org.accountId
  rejectPlaintextSecretPayload payload
  let id := "audit_export_" ++ orgId
  let resource ← withFields
    [("id", .string id), ("account_id", .string org.accountId),
      ("organization_id", .string orgId)] payload
  .ok
    { resourceType := "audit_export", id, accountId := org.accountId
      organizationId := some orgId, workspaceId := none, resource }

def workspaceResourceType : String → Option String
  | "warehouse-bindings" => some "warehouse_binding"
  | "object-storage-bindings" => some "object_storage_binding"
  | "secret-handles" => some "secret_handle"
  | _ => none

def workspaceResourcePlan (deployment : Deployment) (actor : AuthContext)
    (resources : ResourceTable) (workspaceId kind : String)
    (payload : Json.Value) : Except Failure ResourceWrite := do
  requireCatalog deployment
  let workspace ← workspaceOwner deployment resources workspaceId
  ensureAccountActor actor workspace.accountId
  match workspaceResourceType kind with
  | none => .error (notFound "unsupported workspace resource")
  | some resourceType =>
      rejectPlaintextSecretPayload payload
      let id := payloadId payload resourceType workspaceId
        ["warehouse_name", "handle", "bucket"]
      let resource ← withFields
        [("id", .string id), ("account_id", .string workspace.accountId),
          ("organization_id", .ofOption workspace.organizationId),
          ("workspace_id", .string workspaceId)] payload
      .ok
        { resourceType, id, accountId := workspace.accountId
          organizationId := workspace.organizationId
          workspaceId := some workspaceId, resource }

end OpenSnow.Server.ControlPlane
