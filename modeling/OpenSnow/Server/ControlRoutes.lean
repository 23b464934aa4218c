import OpenSnow.Server.ControlPlane

/-!
# The routes and what they write

The writes of the control-plane handlers, the handlers themselves and the
router with its admin check.
-/

namespace OpenSnow.Server.ControlPlane

open Catalog.ControlPlane
open Foundation
open Rust

/-! ## Writes -/

/-- `upsert_control_plane_resource`, which reads the row back. -/
def upsertResource (deployment : Deployment) (write : ResourceWrite) :
    Handler ControlPlaneResource := fun state =>
  match attempt deployment (.upsertResource write.resourceType write.id)
      500 with
  | .error failure => (.error failure, state)
  | .ok () =>
      let row := write.row deployment.now (state.resources.find write.key)
      let resources :=
        upsertControlPlaneResource state.resources deployment.now write
      ((attempt deployment (.getResource write.resourceType write.id)
          500).map fun _ => row,
        { state with resources })

/-- The message of SQLite for a service identity with a taken id. -/
def identityTaken : String :=
  "UNIQUE constraint failed: service_identities.id"

/-- `create_service_identity_client`, whose failure is a bad request. -/
def createIdentity (deployment : Deployment)
    (input : ServiceIdentityClientInput) : Handler ServiceIdentityClient :=
  fun state =>
    match attempt deployment .createIdentity 400 with
    | .error failure => (.error failure, state)
    | .ok () =>
        match createServiceIdentityClient state.identities deployment.now
            input with
        | none => (.error (.http 400 identityTaken), state)
        | some identities =>
            let record := input.record deployment.now
            (.ok record,
              { state with identities }.note (.created record))

/-- `register_durable_client`. -/
def registerRecord (record : ServiceIdentityClient) : Handler Unit :=
  fun state =>
    match state.clients.registerDurableClient record with
    | .error message => (.error (serverError message), state)
    | .ok clients =>
        (.ok (), { state with clients }.note (.registered record))

/-- The message for an update of a service identity that does not exist. -/
def identityNotFound (id : String) : String :=
  "service identity client not found: " ++ id

/-- An update of one service identity, noted as what it does. -/
def changeIdentity (deployment : Deployment) (op : CatalogOp)
    (clientId : String)
    (change : ServiceIdentityClient → ServiceIdentityClient)
    (noted : ServiceIdentityClient → Administered) : Handler Unit :=
  fun state =>
    match attempt deployment op 404 with
    | .error failure => (.error failure, state)
    | .ok () =>
        match state.identities.find clientId with
        | none => (.error (notFound (identityNotFound clientId)), state)
        | some record =>
            (.ok (),
              { state with
                identities := state.identities.put (change record) }.note
                (noted (change record)))

/-- `rotate_service_identity_secret`. -/
def rotateIdentity (deployment : Deployment) (clientId secretHash : String) :
    Handler Unit :=
  changeIdentity deployment .rotateIdentity clientId
    (·.rotated deployment.now secretHash) .secretSet

/-- `revoke_service_identity_client`. -/
def revokeIdentity (deployment : Deployment) (clientId reason : String) :
    Handler Unit :=
  changeIdentity deployment .revokeIdentity clientId
    (·.revoked deployment.now reason) .revoked

/-- `get_service_identity_client`. -/
def getIdentity (deployment : Deployment) (clientId : String) :
    Handler (Option ServiceIdentityClient) :=
  Effect.look fun state =>
    (attempt deployment .getIdentity 500).map fun _ =>
      state.identities.find clientId

/-! ## Replies -/

/-- A service client as the routes show it. -/
structure ServiceClientApiSnapshot where
  clientId : String
  accountId : String
  workspaceId : Option String
  role : String
  scopes : List String
  status : String
  statusReason : Option String
  expiresAt : Option String
  lastUsedAt : Option String
  rotatedAt : Option String
  revokedAt : Option String
  createdAt : String
deriving DecidableEq, Repr

namespace ServiceClientApiSnapshot

def ofRecord (record : ServiceIdentityClient) : ServiceClientApiSnapshot where
  clientId := record.id
  accountId := record.accountId
  workspaceId := record.workspaceId
  role := record.role
  scopes := record.scopes
  status := record.status
  statusReason := record.statusReason
  expiresAt := record.expiresAt
  lastUsedAt := record.lastUsedAt
  rotatedAt := record.rotatedAt
  revokedAt := record.revokedAt
  createdAt := record.createdAt

def toValue (client : ServiceClientApiSnapshot) : Json.Value :=
  .record
    [("client_id", .string client.clientId),
      ("account_id", .string client.accountId),
      ("workspace_id", .ofOption client.workspaceId),
      ("role", .string client.role), ("scopes", .strings client.scopes),
      ("status", .string client.status),
      ("status_reason", .ofOption client.statusReason),
      ("expires_at", .ofOption client.expiresAt),
      ("last_used_at", .ofOption client.lastUsedAt),
      ("rotated_at", .ofOption client.rotatedAt),
      ("revoked_at", .ofOption client.revokedAt),
      ("created_at", .string client.createdAt)]

end ServiceClientApiSnapshot

/-- The body of an answer with the status "ok". -/
inductive Reply where
  | account (bootstrap : AccountBootstrap)
  /-- One field with a saved resource. -/
  | resource (responseKey : String) (resource : Json.Value)
  | clients (clients : List ServiceClientApiSnapshot)
  /-- A client with its secret, which is shown once. -/
  | issued (client : ServiceClientApiSnapshot) (clientSecret : String)
  | revoked (clientId : String)

/-! ## Handlers -/

/-- Only a break-glass administrator may create accounts. -/
def requireBreakGlass (actor : AuthContext) : Except Failure Unit :=
  if isBreakGlassAdmin actor then .ok ()
  else
    .error (forbidden
      "account bootstrap requires platform break-glass/admin authority")

/-- `create_account_control_plane`. -/
def createAccount (deployment : Deployment) (actor : AuthContext)
    (request : AccountCreateRequest) : Handler Reply := do
  Effect.look fun _ => requireBreakGlass actor
  Effect.look fun _ => requireCatalog deployment
  Effect.look fun _ => attempt deployment .registerAccount 500
  let bootstrap :=
    registerAccount deployment.now request.slug
      (request.ownerEmail.getD ("owner@" ++ request.slug ++ ".example"))
  let account ← Effect.look fun _ =>
    withFields [("legal_name", .string (request.legalName.getD request.slug))]
      bootstrap.account.toValue
  let _ ← upsertResource deployment
    { resourceType := "account", id := bootstrap.account.id
      accountId := bootstrap.account.id
      organizationId := some bootstrap.organization.id, workspaceId := none
      resource := account }
  let _ ← upsertResource deployment
    { resourceType := "organization", id := bootstrap.organization.id
      accountId := bootstrap.account.id
      organizationId := some bootstrap.organization.id, workspaceId := none
      resource := bootstrap.organization.toValue }
  let _ ← upsertResource deployment
    { resourceType := "workspace", id := bootstrap.workspace.id
      accountId := bootstrap.account.id
      organizationId := some bootstrap.organization.id
      workspaceId := some bootstrap.workspace.id
      resource := bootstrap.workspace.toValue }
  pure (.account bootstrap)

/-- Check a request and save the resource that it plans. -/
def savePlan (deployment : Deployment)
    (plan : ResourceTable → Except Failure ResourceWrite) :
    Handler Reply := do
  let write ← Effect.look fun state => plan state.resources
  let saved ← upsertResource deployment write
  pure (.resource write.resourceType saved.resource)

/-- `create_organization_control_plane`. -/
def createOrganization (deployment : Deployment) (actor : AuthContext)
    (accountId : String) (request : OrganizationCreateRequest) :
    Handler Reply :=
  savePlan deployment fun _ =>
    organizationPlan deployment actor accountId request

/-- `create_workspace_control_plane`. -/
def createWorkspace (deployment : Deployment) (actor : AuthContext)
    (orgId : String) (request : WorkspaceCreateRequest) : Handler Reply :=
  savePlan deployment fun resources =>
    workspacePlan deployment actor resources orgId request

/-- `create_org_resource_control_plane`. -/
def createOrgResource (deployment : Deployment) (actor : AuthContext)
    (orgId kind : String) (payload : Json.Value) : Handler Reply :=
  savePlan deployment fun resources =>
    orgResourcePlan deployment actor resources orgId kind payload

/-- `upsert_audit_export_control_plane`. -/
def upsertAuditExport (deployment : Deployment) (actor : AuthContext)
    (orgId : String) (payload : Json.Value) : Handler Reply :=
  savePlan deployment fun resources =>
    auditExportPlan deployment actor resources orgId payload

/-- `create_workspace_resource_control_plane`. -/
def createWorkspaceResource (deployment : Deployment) (actor : AuthContext)
    (workspaceId kind : String) (payload : Json.Value) : Handler Reply :=
  savePlan deployment fun resources =>
    workspaceResourcePlan deployment actor resources workspaceId kind payload

/-- The secret of a request, or a generated one. -/
def secretOf (deployment : Deployment) (clientSecret : Option String) :
    String :=
  clientSecret.getD deployment.generatedClientSecret

def ServiceClientCreateRequest.input (request : ServiceClientCreateRequest)
    (secretHash : String) : ServiceIdentityClientInput where
  id := request.clientId
  accountId := request.accountId
  workspaceId := request.workspaceId
  secretHash := secretHash
  role := request.role
  scopes := request.scopes
  expiresAt := request.expiresAt

/-- The row of a parent workspace, for an actor of its account. -/
def workspaceOf (deployment : Deployment) (actor : AuthContext)
    (resources : ResourceTable) (workspaceId : String) :
    Except Failure ControlPlaneResource := do
  requireCatalog deployment
  let workspace ← workspaceOwner deployment resources workspaceId
  ensureAccountActor actor workspace.accountId
  .ok workspace

/-- `create_workspace_service_client_control_plane`. -/
def createWorkspaceServiceClient (deployment : Deployment)
    (actor : AuthContext) (workspaceId : String)
    (request : ServiceClientCreateRequest) : Handler Reply := do
  let workspace ← Effect.look fun state =>
    workspaceOf deployment actor state.resources workspaceId
  let request :=
    { request with
      accountId := workspace.accountId, workspaceId := some workspaceId }
  let clientSecret := secretOf deployment request.clientSecret
  let record ← createIdentity deployment
    (request.input (deployment.hashSecret clientSecret))
  registerRecord record
  let snapshot := ServiceClientApiSnapshot.ofRecord record
  let _ ← upsertResource deployment
    { resourceType := "service_client", id := record.id
      accountId := record.accountId
      organizationId := workspace.organizationId
      workspaceId := record.workspaceId, resource := snapshot.toValue }
  pure (.issued snapshot clientSecret)

/-- `list_service_clients`. -/
def listServiceClients (deployment : Deployment) : Handler Reply := do
  Effect.look fun _ => requireServiceCatalog deployment
  Effect.look fun _ => attempt deployment .listIdentities 500
  let records ← Effect.look fun state =>
    .ok (listServiceIdentityClients state.identities none)
  Effect.modify fun state =>
    { state with
      administered := records.map .returned ++ state.administered }
  pure (.clients (records.map .ofRecord))

/-- `create_service_client`. -/
def createServiceClient (deployment : Deployment)
    (request : ServiceClientCreateRequest) : Handler Reply := do
  Effect.look fun _ => requireServiceCatalog deployment
  let clientSecret := secretOf deployment request.clientSecret
  let record ← createIdentity deployment
    (request.input (deployment.hashSecret clientSecret))
  registerRecord record
  pure (.issued (.ofRecord record) clientSecret)

/-- `rotate_service_client`. -/
def rotateServiceClient (deployment : Deployment) (clientId : String)
    (clientSecret : Option String) : Handler Reply := do
  Effect.look fun _ => requireServiceCatalog deployment
  let clientSecret := secretOf deployment clientSecret
  rotateIdentity deployment clientId (deployment.hashSecret clientSecret)
  match ← getIdentity deployment clientId with
  | none => Effect.fail (notFound "service client not found")
  | some record =>
      registerRecord record
      pure (.issued (.ofRecord record) clientSecret)

/-- `revoke_service_client`. -/
def revokeServiceClient (deployment : Deployment) (clientId : String)
    (reason : Option String) : Handler Reply := do
  Effect.look fun _ => requireServiceCatalog deployment
  revokeIdentity deployment clientId
    (reason.getD "operator revoked service client")
  match ← getIdentity deployment clientId with
  | none => pure (.revoked clientId)
  | some record =>
      registerRecord record
      pure (.revoked clientId)

/-! ## The router -/

/-- A request to the control-plane and service-client routes. -/
inductive Request where
  | createAccount (request : AccountCreateRequest)
  | createOrganization (accountId : String)
      (request : OrganizationCreateRequest)
  | createWorkspace (orgId : String) (request : WorkspaceCreateRequest)
  | createOrgResource (orgId kind : String) (payload : Json.Value)
  | upsertAuditExport (orgId : String) (payload : Json.Value)
  | createWorkspaceResource (workspaceId kind : String) (payload : Json.Value)
  | createWorkspaceServiceClient (workspaceId : String)
      (request : ServiceClientCreateRequest)
  | listServiceClients
  | createServiceClient (request : ServiceClientCreateRequest)
  | rotateServiceClient (clientId : String) (clientSecret : Option String)
  | revokeServiceClient (clientId : String) (reason : Option String)

def handler (deployment : Deployment) (actor : AuthContext) :
    Request → Handler Reply
  | .createAccount request => createAccount deployment actor request
  | .createOrganization accountId request =>
      createOrganization deployment actor accountId request
  | .createWorkspace orgId request =>
      createWorkspace deployment actor orgId request
  | .createOrgResource orgId kind payload =>
      createOrgResource deployment actor orgId kind payload
  | .upsertAuditExport orgId payload =>
      upsertAuditExport deployment actor orgId payload
  | .createWorkspaceResource workspaceId kind payload =>
      createWorkspaceResource deployment actor workspaceId kind payload
  | .createWorkspaceServiceClient workspaceId request =>
      createWorkspaceServiceClient deployment actor workspaceId request
  | .listServiceClients => listServiceClients deployment
  | .createServiceClient request => createServiceClient deployment request
  | .rotateServiceClient clientId clientSecret =>
      rotateServiceClient deployment clientId clientSecret
  | .revokeServiceClient clientId reason =>
      revokeServiceClient deployment clientId reason

/-- `require_admin_scope`. -/
def requireAdminScope (actor : AuthContext) : Except Failure Unit :=
  if actor.authorize [] ["policy.admin"] then .ok () else .error (forbidden "")

/-- A request behind the admin check of the router. -/
def serve (deployment : Deployment) (actor : AuthContext)
    (request : Request) : Handler Reply := do
  Effect.look fun _ => requireAdminScope actor
  handler deployment actor request

end OpenSnow.Server.ControlPlane
