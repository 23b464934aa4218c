import OpenSnow.Server.ControlRoutes

/-!
# Ownership of control-plane rows

A request of an actor writes at most one row of `control_plane_resources`,
and writes it into the actor's own account.  The row is chosen by its type and
id alone, so it can be a row of another account.
-/

namespace OpenSnow.Server.ControlPlane

open Catalog.ControlPlane
open Foundation

/-- A state that some requests of some actors lead to. -/
inductive Reachable : ControlState → Prop where
  | fresh : Reachable .fresh
  | step {state : ControlState} (reached : Reachable state)
      (deployment : Deployment) (actor : AuthContext) (request : Request) :
      Reachable (serve deployment actor request state).2

/-! ## What a request writes -/

/-- The write of a plan that succeeds, if the catalog takes it. -/
def acceptedWrite (deployment : Deployment)
    (plan : Except Failure ResourceWrite) : Option ResourceWrite :=
  match plan with
  | .error _ => none
  | .ok write =>
      match deployment.fault
          (.upsertResource write.resourceType write.id) with
      | some _ => none
      | none => some write

/-- The row for a service client of a workspace. -/
def serviceClientWrite (deployment : Deployment)
    (workspace : ControlPlaneResource) (workspaceId : String)
    (request : ServiceClientCreateRequest) : ResourceWrite :=
  let record :=
    ({ request with
        accountId := workspace.accountId
        workspaceId := some workspaceId }.input
      (deployment.hashSecret
        (secretOf deployment request.clientSecret))).record deployment.now
  { resourceType := "service_client", id := record.id
    accountId := record.accountId
    organizationId := workspace.organizationId
    workspaceId := record.workspaceId
    resource := (ServiceClientApiSnapshot.ofRecord record).toValue }

/-- The plan for that row: the service identity must be new. -/
def serviceClientPlan (deployment : Deployment) (actor : AuthContext)
    (state : ControlState) (workspaceId : String)
    (request : ServiceClientCreateRequest) : Except Failure ResourceWrite := do
  let workspace ← workspaceOf deployment actor state.resources workspaceId
  attempt deployment .createIdentity 400
  if (state.identities.find request.clientId).isSome then
    .error (.http 400 identityTaken)
  else .ok (serviceClientWrite deployment workspace workspaceId request)

/-- The checks that a request passes on its way to its write. -/
def planOf (deployment : Deployment) (actor : AuthContext)
    (state : ControlState) : Request → Except Failure ResourceWrite
  | .createOrganization accountId request =>
      organizationPlan deployment actor accountId request
  | .createWorkspace orgId request =>
      workspacePlan deployment actor state.resources orgId request
  | .createOrgResource orgId kind payload =>
      orgResourcePlan deployment actor state.resources orgId kind payload
  | .upsertAuditExport orgId payload =>
      auditExportPlan deployment actor state.resources orgId payload
  | .createWorkspaceResource workspaceId kind payload =>
      workspaceResourcePlan deployment actor state.resources workspaceId kind
        payload
  | .createWorkspaceServiceClient workspaceId request =>
      serviceClientPlan deployment actor state workspaceId request
  | _ => .error (forbidden "")

/-- The write of a request, if it comes to one. -/
def writeOf (deployment : Deployment) (actor : AuthContext)
    (state : ControlState) (request : Request) : Option ResourceWrite :=
  acceptedWrite deployment do
    requireAdminScope actor
    planOf deployment actor state request

/-- The resources after a write that may not take place. -/
def afterWrite (now : String) (resources : ResourceTable) :
    Option ResourceWrite → ResourceTable
  | none => resources
  | some write => upsertControlPlaneResource resources now write

/-! ## The writes of the handlers -/

variable (deployment : Deployment)

theorem upsertResource_resources
    (write : ResourceWrite) (state : ControlState) :
    (upsertResource deployment write state).2.resources =
      afterWrite deployment.now state.resources
        (acceptedWrite deployment (.ok write)) := by
  cases fault : deployment.fault
      (.upsertResource write.resourceType write.id) with
  | some message =>
      simp only [upsertResource, attempt, acceptedWrite, fault]
      rfl
  | none =>
      simp only [upsertResource, attempt, acceptedWrite, fault]
      rfl

/-- A step behind a write keeps the resources as the write left them. -/
theorem upsertResource_bind_resources {Reply : Type}
    (write : ResourceWrite) (state : ControlState)
    (reply : ControlPlaneResource → Reply) :
    ((do
        let saved ← upsertResource deployment write
        pure (reply saved) : Handler Reply) state).2.resources =
      (upsertResource deployment write state).2.resources := by
  cases saved : upsertResource deployment write state with
  | mk result after =>
      cases result with
      | ok row => rw [Effect.bind_ok saved, Effect.pure_apply]
      | error failure => rw [Effect.bind_error saved]

theorem savePlan_resources
    (plan : ResourceTable → Except Failure ResourceWrite)
    (state : ControlState) :
    (savePlan deployment plan state).2.resources =
      afterWrite deployment.now state.resources
        (acceptedWrite deployment (plan state.resources)) := by
  unfold savePlan
  rw [Effect.look_bind]
  cases plan state.resources with
  | error failure => rfl
  | ok write =>
      exact (upsertResource_bind_resources _ _ _ _).trans
        (upsertResource_resources _ _ _)

/-- A new identity is written as its record, and nothing else changes. -/
theorem createIdentity_eq
    (input : ServiceIdentityClientInput) (state : ControlState) :
    createIdentity deployment input state =
      match attempt deployment .createIdentity 400 with
      | .error failure => (.error failure, state)
      | .ok () =>
          if (state.identities.find input.id).isSome then
            (.error (.http 400 identityTaken), state)
          else
            (.ok (input.record deployment.now),
              { state with
                identities :=
                  state.identities.put (input.record deployment.now) }.note
                (.created (input.record deployment.now))) := by
  unfold createIdentity createServiceIdentityClient
  cases attempt deployment .createIdentity 400 with
  | error failure => rfl
  | ok value =>
      dsimp only
      split_ifs
      · rfl
      · rfl

/-- A new record has a status that the registry knows. -/
theorem registerRecord_new (input : ServiceIdentityClientInput)
    (now : String) (state : ControlState) :
    ∃ client, RegisteredClient.fromDurable (input.record now) = some client ∧
      registerRecord (input.record now) state =
        (.ok (),
          { state with
            clients := state.clients.insert input.id client }.note
            (.registered (input.record now))) :=
  ⟨_, rfl, rfl⟩

theorem createWorkspaceServiceClient_resources
    (actor : AuthContext) (workspaceId : String)
    (request : ServiceClientCreateRequest) (state : ControlState) :
    (createWorkspaceServiceClient deployment actor workspaceId request
        state).2.resources =
      afterWrite deployment.now state.resources
        (acceptedWrite deployment
          (serviceClientPlan deployment actor state workspaceId request)) := by
  unfold createWorkspaceServiceClient serviceClientPlan
  rw [Effect.look_bind]
  cases workspaceOf deployment actor state.resources workspaceId with
  | error failure => rfl
  | ok workspace =>
  dsimp only
  set input := ServiceClientCreateRequest.input
    { request with
      accountId := workspace.accountId, workspaceId := some workspaceId }
    (deployment.hashSecret (secretOf deployment request.clientSecret))
    with inputDef
  have created := createIdentity_eq deployment input state
  cases faulty : attempt deployment .createIdentity 400 with
  | error failure =>
      rw [faulty] at created
      rw [Effect.bind_error created]
      rfl
  | ok value =>
  rw [faulty] at created
  dsimp only at created
  have sameId : input.id = request.clientId := rfl
  rw [sameId] at created
  by_cases taken : (state.identities.find request.clientId).isSome
  · rw [if_pos taken] at created
    rw [Effect.bind_error created]
    change state.resources =
      afterWrite _ _ (acceptedWrite _ (if _ then _ else _))
    rw [if_pos taken]
    rfl
  · rw [if_neg taken] at created
    rw [Effect.bind_ok created]
    obtain ⟨client, -, registered⟩ :=
      registerRecord_new input deployment.now _
    rw [Effect.bind_ok registered, upsertResource_bind_resources,
      upsertResource_resources]
    change _ = afterWrite _ _ (acceptedWrite _ (if _ then _ else _))
    rw [if_neg taken]
    rfl

/-! ### Routes that write no resource -/

/-- The step keeps the control-plane resources, whether it fails or not. -/
def SparesResources {Reply : Type} (step : Handler Reply) : Prop :=
  ∀ resources, Effect.Keeps (fun state => state.resources = resources) step

theorem createIdentity_spares (input : ServiceIdentityClientInput) :
    SparesResources (createIdentity deployment input) := by
  intro resources before start
  rw [createIdentity_eq]
  cases attempt deployment .createIdentity 400 with
  | error failure => exact start
  | ok value =>
      dsimp only
      split_ifs
      · exact start
      · exact start

theorem registerRecord_spares (record : ServiceIdentityClient) :
    SparesResources (registerRecord record) := by
  intro resources before start
  unfold registerRecord
  cases before.clients.registerDurableClient record with
  | error message => exact start
  | ok clients => exact start

theorem changeIdentity_spares (op : CatalogOp) (clientId : String)
    (change : ServiceIdentityClient → ServiceIdentityClient)
    (noted : ServiceIdentityClient → Administered) :
    SparesResources (changeIdentity deployment op clientId change noted) := by
  intro resources before start
  unfold changeIdentity
  cases attempt deployment op 404 with
  | error failure => exact start
  | ok value =>
      cases before.identities.find clientId with
      | none => exact start
      | some record => exact start

theorem listServiceClients_spares :
    SparesResources (listServiceClients deployment) := by
  intro resources
  refine Effect.Keeps.look.bind fun _ => Effect.Keeps.look.bind fun _ =>
    Effect.Keeps.look.bind fun records =>
      Effect.Keeps.bind ?_ fun _ => Effect.Keeps.pure
  exact Effect.Keeps.modify fun _ kept => kept

theorem createServiceClient_spares (request : ServiceClientCreateRequest) :
    SparesResources (createServiceClient deployment request) := fun _ =>
  Effect.Keeps.look.bind fun _ =>
    (createIdentity_spares deployment _ _).bind fun record =>
      (registerRecord_spares record _).bind fun _ => Effect.Keeps.pure

theorem rotateServiceClient_spares
    (clientId : String) (clientSecret : Option String) :
    SparesResources
      (rotateServiceClient deployment clientId clientSecret) := by
  intro resources
  refine Effect.Keeps.look.bind fun _ =>
    (changeIdentity_spares deployment _ _ _ _ _).bind fun _ =>
      Effect.Keeps.look.bind fun found => ?_
  cases found with
  | none => exact Effect.Keeps.fail
  | some record =>
      exact (registerRecord_spares record _).bind fun _ => Effect.Keeps.pure

theorem revokeServiceClient_spares
    (clientId : String) (reason : Option String) :
    SparesResources (revokeServiceClient deployment clientId reason) := by
  intro resources
  refine Effect.Keeps.look.bind fun _ =>
    (changeIdentity_spares deployment _ _ _ _ _).bind fun _ =>
      Effect.Keeps.look.bind fun found => ?_
  cases found with
  | none => exact Effect.Keeps.pure
  | some record =>
      exact (registerRecord_spares record _).bind fun _ => Effect.Keeps.pure

variable {actor : AuthContext}

section

variable (plain : isBreakGlassAdmin actor = false)

include plain

/-- The first check of `create_account_control_plane` stops the actor. -/
theorem createAccount_refused (deployment : Deployment)
    (request : AccountCreateRequest) (state : ControlState) :
    (createAccount deployment actor request state).2 = state := by
  unfold createAccount requireBreakGlass
  rw [Effect.look_bind, plain]
  rfl

/-! ### All routes -/

/-- The resources after a request of an actor are those with its write. -/
theorem serve_resources (deployment : Deployment)
    (request : Request) (state : ControlState) :
    (serve deployment actor request state).2.resources =
      afterWrite deployment.now state.resources
        (writeOf deployment actor state request) := by
  unfold serve writeOf
  rw [Effect.look_bind]
  cases requireAdminScope actor with
  | error failure => rfl
  | ok value =>
  change (handler deployment actor request state).2.resources =
    afterWrite _ _ (acceptedWrite _ (planOf deployment actor state request))
  cases request with
  | createAccount request =>
      exact congrArg ControlState.resources
        (createAccount_refused plain deployment request state)
  | createOrganization accountId request => exact savePlan_resources _ _ _
  | createWorkspace orgId request => exact savePlan_resources _ _ _
  | createOrgResource orgId kind payload => exact savePlan_resources _ _ _
  | upsertAuditExport orgId payload => exact savePlan_resources _ _ _
  | createWorkspaceResource workspaceId kind payload =>
      exact savePlan_resources _ _ _
  | createWorkspaceServiceClient workspaceId request =>
      exact createWorkspaceServiceClient_resources _ _ _ _ _
  | listServiceClients =>
      exact (listServiceClients_spares deployment _).after rfl
  | createServiceClient request =>
      exact (createServiceClient_spares deployment request _).after rfl
  | rotateServiceClient clientId clientSecret =>
      exact (rotateServiceClient_spares deployment clientId clientSecret
        _).after rfl
  | revokeServiceClient clientId reason =>
      exact (revokeServiceClient_spares deployment clientId reason _).after
        rfl

/-! ## The account of a write -/

theorem ensureAccountActor_ok {accountId : String}
    (ok : ensureAccountActor actor accountId = .ok ()) :
    accountId = actor.tenantId := by
  unfold ensureAccountActor at ok
  split_ifs at ok with owner
  rw [plain] at owner
  exact (owner.resolve_right Bool.false_ne_true).symm

end

variable {deployment : Deployment}

section

variable (plain : isBreakGlassAdmin actor = false)

include plain

theorem workspaceOf_account {resources : ResourceTable} {workspaceId : String}
    {workspace : ControlPlaneResource} (ok :
      workspaceOf deployment actor resources workspaceId = .ok workspace) :
    workspace.accountId = actor.tenantId := by
  obtain ⟨-, -, ok⟩ := except_bind_ok ok
  obtain ⟨row, -, ok⟩ := except_bind_ok ok
  obtain ⟨value, owner, ok⟩ := except_bind_ok ok
  cases ok
  exact ensureAccountActor_ok plain owner

/-- Whatever a plan writes, it writes into the account of the actor. -/
theorem planOf_account
    {state : ControlState} {request : Request} {write : ResourceWrite}
    (planned : planOf deployment actor state request = .ok write) :
    write.accountId = actor.tenantId := by
  cases request with
  | createOrganization accountId request =>
      obtain ⟨-, -, planned⟩ := except_bind_ok planned
      obtain ⟨value, owner, planned⟩ := except_bind_ok planned
      cases planned
      exact ensureAccountActor_ok plain owner
  | createWorkspace orgId request =>
      obtain ⟨-, -, planned⟩ := except_bind_ok planned
      obtain ⟨org, -, planned⟩ := except_bind_ok planned
      obtain ⟨value, owner, planned⟩ := except_bind_ok planned
      cases planned
      exact ensureAccountActor_ok plain owner
  | createOrgResource orgId kind payload =>
      obtain ⟨-, -, planned⟩ := except_bind_ok planned
      obtain ⟨org, -, planned⟩ := except_bind_ok planned
      obtain ⟨value, owner, planned⟩ := except_bind_ok planned
      split at planned
      · cases planned
      · obtain ⟨-, -, planned⟩ := except_bind_ok planned
        obtain ⟨resource, -, planned⟩ := except_bind_ok planned
        cases planned
        exact ensureAccountActor_ok plain owner
  | upsertAuditExport orgId payload =>
      obtain ⟨-, -, planned⟩ := except_bind_ok planned
      obtain ⟨org, -, planned⟩ := except_bind_ok planned
      obtain ⟨value, owner, planned⟩ := except_bind_ok planned
      obtain ⟨-, -, planned⟩ := except_bind_ok planned
      obtain ⟨resource, -, planned⟩ := except_bind_ok planned
      cases planned
      exact ensureAccountActor_ok plain owner
  | createWorkspaceResource workspaceId kind payload =>
      obtain ⟨-, -, planned⟩ := except_bind_ok planned
      obtain ⟨workspace, -, planned⟩ := except_bind_ok planned
      obtain ⟨value, owner, planned⟩ := except_bind_ok planned
      split at planned
      · cases planned
      · obtain ⟨-, -, planned⟩ := except_bind_ok planned
        obtain ⟨resource, -, planned⟩ := except_bind_ok planned
        cases planned
        exact ensureAccountActor_ok plain owner
  | createWorkspaceServiceClient workspaceId request =>
      obtain ⟨workspace, owned, planned⟩ := except_bind_ok planned
      obtain ⟨-, -, planned⟩ := except_bind_ok planned
      split_ifs at planned
      cases planned
      exact workspaceOf_account plain owned
  | createAccount request => cases planned
  | listServiceClients => cases planned
  | createServiceClient request => cases planned
  | rotateServiceClient clientId clientSecret => cases planned
  | revokeServiceClient clientId reason => cases planned

theorem writeOf_account
    {state : ControlState} {request : Request} {write : ResourceWrite}
    (writes : writeOf deployment actor state request = some write) :
    write.accountId = actor.tenantId := by
  unfold writeOf acceptedWrite at writes
  split at writes
  · cases writes
  · rename_i planned
    obtain ⟨-, -, planned⟩ := except_bind_ok planned
    split at writes
    · cases writes
    · cases writes
      exact planOf_account plain planned

end

/-! ## Ownership -/

/-- The rows of other accounts are as they were. -/
def SparesOthers (actor : AuthContext) (before after : ResourceTable) :
    Prop :=
  ∀ row ∈ before.rows, row.accountId ≠ actor.tenantId → row ∈ after.rows

/-- The row with the key of the request's write is absent or the actor's. -/
def AddressesOwn (deployment : Deployment) (actor : AuthContext)
    (state : ControlState) (request : Request) : Prop :=
  ∀ write, writeOf deployment actor state request = some write →
    ∀ row, state.resources.find write.key = some row →
      row.accountId = actor.tenantId

/--
A request of an actor without an explicit break-glass scope leaves the rows of
other accounts as they were exactly if the row that it addresses, by its type
and id, is absent or one of the actor's account.
-/
theorem control_plane_ownership (deployment : Deployment)
    (actor : AuthContext) (state : ControlState) (request : Request)
    (plain : isBreakGlassAdmin actor = false) :
    SparesOthers actor state.resources
        (serve deployment actor request state).2.resources ↔
      AddressesOwn deployment actor state request := by
  unfold AddressesOwn
  rw [serve_resources plain]
  cases writes : writeOf deployment actor state request with
  | none => exact ⟨fun _ => nofun, fun _ row member _ => member⟩
  | some write =>
  constructor
  · rintro spared _ ⟨⟩ row found
    by_contra foreign
    have kept := Keyed.find_of_mem
      (spared row (Keyed.mem_of_find found) foreign)
    have sameKey : write.key = row.key := (Keyed.key_of_find found).symm
    change (upsertControlPlaneResource _ _ write).find row.key = _ at kept
    rw [find_upsert, if_pos sameKey] at kept
    cases kept
    exact foreign (writeOf_account plain writes)
  · intro own row member foreign
    refine Keyed.mem_of_find (?_ : Keyed.find _ row.key = some row)
    change (upsertControlPlaneResource _ _ write).find row.key = _
    rw [find_upsert, if_neg]
    · exact Keyed.find_of_mem member
    · intro sameKey
      refine foreign (own write rfl row ?_)
      rw [sameKey]
      exact Keyed.find_of_mem member

/-! ## A connection that changes hands -/

/-- A catalog that opens and never fails. -/
def calm : Deployment where
  catalog := .ok true
  fault := fun _ => none
  now := "2026-01-01T00:00:00Z"
  generatedClientSecret := "osk_secret"
  hashSecret := fun secret => "argon2:" ++ secret

def root : AuthContext :=
  ⟨1, "root", "SYSADMIN", "platform", ["break_glass.admin"]⟩

def accountAdmin (account : String) : AuthContext :=
  ⟨2, "admin", "ACCOUNTADMIN", account, ["policy.admin"]⟩

/-- An identity provider connection of an organization, with a chosen id. -/
def connection (account : String) : Request :=
  .createOrgResource ("org_" ++ account) "idp-connections"
    (.object [("id", .string "okta")])

/-- Two accounts, and a connection of the second one. -/
def twoAccounts : ControlState :=
  [(root, Request.createAccount ⟨"acme", none, none⟩),
    (root, .createAccount ⟨"globex", none, none⟩),
    (accountAdmin "globex", connection "globex")].foldl
    (fun state step => (serve calm step.1 step.2 state).2) .fresh

theorem twoAccounts_reachable : Reachable twoAccounts :=
  .step (.step (.step .fresh calm root _) calm root _) calm _ _

/-- The connection of `globex` and what a request of `acme` makes of it. -/
theorem connection_owners :
    ((twoAccounts.resources.find ("idp_connection", "okta")).map
        ControlPlaneResource.accountId = some "globex") ∧
      (((serve calm (accountAdmin "acme") (connection "acme")
          twoAccounts).2.resources.find ("idp_connection", "okta")).map
        ControlPlaneResource.accountId = some "acme") := by
  decide

/-- An administrator of `acme` takes the connection of `globex` over. -/
theorem control_plane_ownership_fails :
    ¬ ∀ deployment actor state request, Reachable state →
      isBreakGlassAdmin actor = false →
      SparesOthers actor state.resources
        (serve deployment actor request state).2.resources := by
  intro holds
  have spared := holds calm (accountAdmin "acme") twoAccounts
    (connection "acme") twoAccounts_reachable (by decide)
  obtain ⟨row, found, owner⟩ :=
    Option.map_eq_some_iff.mp connection_owners.1
  have kept := Keyed.find_of_mem (spared row (Keyed.mem_of_find found)
    (by rw [owner]; decide))
  rw [Keyed.key_of_find found] at kept
  have taken := connection_owners.2
  rw [kept, Option.map_some, owner] at taken
  exact absurd taken (by decide)

/-- A second connection of the actor's own account takes nothing over. -/
theorem control_plane_ownership_globex :
    SparesOthers (accountAdmin "globex") twoAccounts.resources
      (serve calm (accountAdmin "globex") (connection "globex")
        twoAccounts).2.resources := by
  refine (control_plane_ownership calm (accountAdmin "globex") twoAccounts
    (connection "globex") (by decide)).mpr ?_
  intro write writes row found
  have sameKey : write.key = ("idp_connection", "okta") := by
    have key : (writeOf calm (accountAdmin "globex") twoAccounts
        (connection "globex")).map ResourceWrite.key =
          some ("idp_connection", "okta") := by
      decide
    rw [writes] at key
    exact Option.some.inj key
  rw [sameKey] at found
  have owner := connection_owners.1
  rw [found] at owner
  exact Option.some.inj owner

end OpenSnow.Server.ControlPlane
