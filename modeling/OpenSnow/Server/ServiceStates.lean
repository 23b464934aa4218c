import OpenSnow.Server.Ownership

/-!
# Service identities after a request

The part of the state that the service-client routes act on, and that part
after each request, as a function of the request.
-/

namespace OpenSnow.Server.ControlPlane

open Catalog.ControlPlane
open Foundation

/-- The identities, the registry and what was done to them. -/
structure ServiceState where
  identities : IdentityTable
  clients : ClientRegistry
  administered : List Administered

def ControlState.services (state : ControlState) : ServiceState where
  identities := state.identities
  clients := state.clients
  administered := state.administered

namespace ServiceState

/-- Store a record, with an entry about it. -/
def store (services : ServiceState) (record : ServiceIdentityClient)
    (entry : Administered) : ServiceState :=
  { services with
    identities := services.identities.put record
    administered := entry :: services.administered }

/-- Copy a record with a known status into the registry. -/
def register (services : ServiceState) (record : ServiceIdentityClient) :
    ServiceState :=
  match RegisteredClient.fromDurable record with
  | none => services
  | some client =>
      { services with
        clients := services.clients.insert record.id client
        administered := .registered record :: services.administered }

/-- A new identity, if the catalog takes it. -/
def issue (services : ServiceState) (deployment : Deployment)
    (input : ServiceIdentityClientInput) : ServiceState :=
  match attempt deployment .createIdentity 400 with
  | .error _ => services
  | .ok () =>
      if (services.identities.find input.id).isSome then services
      else
        (services.store (input.record deployment.now)
          (.created (input.record deployment.now))).register
          (input.record deployment.now)

/-- A changed identity, if there is one and the catalog takes the change. -/
def change (services : ServiceState) (deployment : Deployment)
    (op : CatalogOp) (clientId : String)
    (update : ServiceIdentityClient → ServiceIdentityClient)
    (noted : ServiceIdentityClient → Administered) : ServiceState :=
  match attempt deployment op 404 with
  | .error _ => services
  | .ok () =>
      match services.identities.find clientId with
      | none => services
      | some record =>
          let stored := services.store (update record) (noted (update record))
          match attempt deployment .getIdentity 500 with
          | .error _ => stored
          | .ok () => stored.register (update record)

def list (services : ServiceState) (deployment : Deployment) : ServiceState :=
  match attempt deployment .listIdentities 500 with
  | .error _ => services
  | .ok () =>
      { services with
        administered :=
          (listServiceIdentityClients services.identities none).map
            .returned ++ services.administered }

end ServiceState

/-- The input for a service client of a workspace. -/
def workspaceInput (deployment : Deployment)
    (workspace : ControlPlaneResource) (workspaceId : String)
    (request : ServiceClientCreateRequest) : ServiceIdentityClientInput :=
  { request with
      accountId := workspace.accountId
      workspaceId := some workspaceId }.input
    (deployment.hashSecret (secretOf deployment request.clientSecret))

/-- The input of `create_service_client`. -/
def clientInput (deployment : Deployment)
    (request : ServiceClientCreateRequest) : ServiceIdentityClientInput :=
  request.input
    (deployment.hashSecret (secretOf deployment request.clientSecret))

def rotation (deployment : Deployment) (clientSecret : Option String)
    (record : ServiceIdentityClient) : ServiceIdentityClient :=
  record.rotated deployment.now
    (deployment.hashSecret (secretOf deployment clientSecret))

def revocation (deployment : Deployment) (reason : Option String)
    (record : ServiceIdentityClient) : ServiceIdentityClient :=
  record.revoked deployment.now
    (reason.getD "operator revoked service client")

/-- Take a step of the services if a check succeeds. -/
def whenOk {Value : Type} (check : Except Failure Value)
    (services : ServiceState) (step : Value → ServiceState) : ServiceState :=
  match check with
  | .error _ => services
  | .ok value => step value

/-- The services after a request that passed the admin check. -/
def handledServices (deployment : Deployment) (actor : AuthContext)
    (state : ControlState) : Request → ServiceState
  | .createWorkspaceServiceClient workspaceId request =>
      whenOk (workspaceOf deployment actor state.resources workspaceId)
        state.services fun workspace =>
          state.services.issue deployment
            (workspaceInput deployment workspace workspaceId request)
  | .listServiceClients =>
      whenOk (requireServiceCatalog deployment) state.services fun _ =>
        state.services.list deployment
  | .createServiceClient request =>
      whenOk (requireServiceCatalog deployment) state.services fun _ =>
        state.services.issue deployment (clientInput deployment request)
  | .rotateServiceClient clientId clientSecret =>
      whenOk (requireServiceCatalog deployment) state.services fun _ =>
        state.services.change deployment .rotateIdentity clientId
          (rotation deployment clientSecret) .secretSet
  | .revokeServiceClient clientId reason =>
      whenOk (requireServiceCatalog deployment) state.services fun _ =>
        state.services.change deployment .revokeIdentity clientId
          (revocation deployment reason) .revoked
  | _ => state.services

/-- The services after a request. -/
def servicesAfter (deployment : Deployment) (actor : AuthContext)
    (state : ControlState) (request : Request) : ServiceState :=
  whenOk (requireAdminScope actor) state.services fun _ =>
    handledServices deployment actor state request

theorem whenOk_cases {Value : Type} {check : Except Failure Value}
    {services : ServiceState} {step : Value → ServiceState} :
    whenOk check services step = services ∨
      ∃ value, whenOk check services step = step value := by
  cases check with
  | error failure => exact Or.inl rfl
  | ok value => exact Or.inr ⟨value, rfl⟩

variable (deployment : Deployment)

/-- All that a request can do to the services. -/
theorem servicesAfter_cases (actor : AuthContext)
    (state : ControlState) (request : Request) :
    servicesAfter deployment actor state request = state.services ∨
      (∃ input, servicesAfter deployment actor state request =
        state.services.issue deployment input) ∨
      servicesAfter deployment actor state request =
        state.services.list deployment ∨
      (∃ clientId clientSecret,
        servicesAfter deployment actor state request =
          state.services.change deployment .rotateIdentity clientId
            (rotation deployment clientSecret) .secretSet) ∨
      ∃ clientId reason, servicesAfter deployment actor state request =
        state.services.change deployment .revokeIdentity clientId
          (revocation deployment reason) .revoked := by
  unfold servicesAfter
  rcases @whenOk_cases _ (requireAdminScope actor) state.services
      (fun _ => handledServices deployment actor state request) with
    refused | ⟨value, admitted⟩
  · exact Or.inl refused
  rw [admitted]
  cases request with
  | createWorkspaceServiceClient workspaceId request =>
      rcases whenOk_cases with refused | ⟨workspace, issued⟩
      · exact Or.inl refused
      · exact Or.inr (Or.inl ⟨_, issued⟩)
  | listServiceClients =>
      rcases whenOk_cases with refused | ⟨value, listed⟩
      · exact Or.inl refused
      · exact Or.inr (Or.inr (Or.inl listed))
  | createServiceClient request =>
      rcases whenOk_cases with refused | ⟨value, issued⟩
      · exact Or.inl refused
      · exact Or.inr (Or.inl ⟨_, issued⟩)
  | rotateServiceClient clientId clientSecret =>
      rcases whenOk_cases with refused | ⟨value, rotated⟩
      · exact Or.inl refused
      · exact Or.inr (Or.inr (Or.inr (Or.inl ⟨_, _, rotated⟩)))
  | revokeServiceClient clientId reason =>
      rcases whenOk_cases with refused | ⟨value, revoked⟩
      · exact Or.inl refused
      · exact Or.inr (Or.inr (Or.inr (Or.inr ⟨_, _, revoked⟩)))
  | _ => exact Or.inl rfl

/-- Listing only adds entries. -/
theorem ServiceState.list_same (services : ServiceState)
    (deployment : Deployment) :
    (services.list deployment).identities = services.identities ∧
      (services.list deployment).clients = services.clients := by
  unfold list
  cases attempt deployment .listIdentities 500 with
  | error failure => exact ⟨rfl, rfl⟩
  | ok value => exact ⟨rfl, rfl⟩

/-! ## The handlers -/

theorem upsertResource_services
    (write : ResourceWrite) (state : ControlState) :
    (upsertResource deployment write state).2.services = state.services := by
  unfold upsertResource
  cases attempt deployment
    (.upsertResource write.resourceType write.id) 500 with
  | error failure => rfl
  | ok value => rfl

theorem upsertResource_bind_services {Reply : Type}
    (write : ResourceWrite) (state : ControlState)
    (reply : ControlPlaneResource → Reply) :
    ((do
        let saved ← upsertResource deployment write
        pure (reply saved) : Handler Reply) state).2.services =
      state.services := by
  rw [← upsertResource_services deployment write state]
  cases saved : upsertResource deployment write state with
  | mk result after =>
      cases result with
      | ok row => rw [Effect.bind_ok saved, Effect.pure_apply]
      | error failure => rw [Effect.bind_error saved]

theorem savePlan_services (plan : ResourceTable → Except Failure ResourceWrite)
    (state : ControlState) :
    (savePlan deployment plan state).2.services = state.services := by
  unfold savePlan
  rw [Effect.look_bind]
  cases plan state.resources with
  | error failure => rfl
  | ok write => exact upsertResource_bind_services _ _ _ _

theorem registerRecord_services {record : ServiceIdentityClient}
    {client : RegisteredClient}
    (known : RegisteredClient.fromDurable record = some client)
    (state : ControlState) :
    ∃ after, registerRecord record state = (.ok (), after) ∧
      after.services = state.services.register record := by
  unfold registerRecord ClientRegistry.registerDurableClient
    ServiceState.register
  rw [known]
  exact ⟨_, rfl, rfl⟩

/-- Creating an identity and going on with steps that leave the services. -/
theorem creation_services {Reply : Type}
    (input : ServiceIdentityClientInput) (state : ControlState)
    (next : ServiceIdentityClient → Handler Reply) (silent : ∀ record after,
      (next record after).2.services = after.services) :
    ((do
        let record ← createIdentity deployment input
        registerRecord record
        next record : Handler Reply) state).2.services =
      state.services.issue deployment input := by
  have created := createIdentity_eq deployment input state
  unfold ServiceState.issue
  cases faulty : attempt deployment .createIdentity 400 with
  | error failure =>
      rw [faulty] at created
      rw [Effect.bind_error created]
  | ok value =>
  rw [faulty] at created
  change _ = (if (state.identities.find input.id).isSome then _ else _ :
    Except Failure _ × _) at created
  change _ = if (state.identities.find input.id).isSome then _ else _
  split_ifs at created ⊢ with taken
  · rw [Effect.bind_error created]
  · rw [Effect.bind_ok created]
    have known : RegisteredClient.fromDurable (input.record deployment.now) =
        some _ := rfl
    obtain ⟨after, registered, services⟩ := registerRecord_services known _
    rw [Effect.bind_ok registered, silent, services]
    rfl

/-- Changing an identity, reading it back and registering it. -/
theorem change_services {Reply : Type} (op : CatalogOp) (clientId : String)
    (update : ServiceIdentityClient → ServiceIdentityClient)
    (noted : ServiceIdentityClient → Administered) (state : ControlState)
    (absent : Handler Reply) (reply : ServiceIdentityClient → Reply)
    (sameId : ∀ record, (update record).id = record.id)
    (known : ∀ record, ∃ client,
      RegisteredClient.fromDurable (update record) = some client) :
    ((do
        changeIdentity deployment op clientId update noted
        match ← getIdentity deployment clientId with
        | none => absent
        | some record =>
            registerRecord record
            pure (reply record) : Handler Reply) state).2.services =
      state.services.change deployment op clientId update noted := by
  unfold ServiceState.change
  cases faulty : attempt deployment op 404 with
  | error failure =>
      have failed : changeIdentity deployment op clientId update noted
          state = (.error failure, state) := by
        simp only [changeIdentity, faulty]
      rw [Effect.bind_error failed]
  | ok value =>
  change _ = match state.identities.find clientId with
    | none => state.services
    | some record => _
  cases found : state.identities.find clientId with
  | none =>
      have failed : changeIdentity deployment op clientId update noted
          state =
            (.error (notFound (identityNotFound clientId)), state) := by
        simp only [changeIdentity, faulty, found]
      rw [Effect.bind_error failed]
  | some record =>
      have changed : changeIdentity deployment op clientId update noted
          state =
            (.ok (),
              { state with
                identities := state.identities.put (update record) }.note
                (noted (update record))) := by
        simp only [changeIdentity, faulty, found]
      rw [Effect.bind_ok changed]
      unfold getIdentity
      rw [Effect.look_bind]
      cases attempt deployment .getIdentity 500 with
      | error failure => rfl
      | ok value =>
          have readBack :
              (state.identities.put (update record)).find clientId =
                some (update record) := by
            rw [Keyed.find_put, if_pos]
            rw [sameId, Keyed.key_of_find found]
          change ((match (state.identities.put (update record)).find
              clientId with
            | none => absent
            | some record => do
                registerRecord record
                pure (reply record)) _).2.services = _
          rw [readBack]
          obtain ⟨client, durable⟩ := known record
          obtain ⟨after, registered, services⟩ :=
            registerRecord_services durable
              ({ state with
                identities := state.identities.put (update record) }.note
                (noted (update record)))
          dsimp only
          rw [Effect.bind_ok registered, Effect.pure_apply, services]
          rfl

theorem upsertResource_keeps_services
    (write : ResourceWrite) (services : ServiceState) :
    Effect.Keeps (fun state => state.services = services)
      (upsertResource deployment write) := by
  intro before start
  have same := upsertResource_services deployment write before
  cases saved : upsertResource deployment write before with
  | mk result after =>
      rw [saved] at same
      cases result with
      | ok row => exact same.trans start
      | error failure => exact same.trans start

theorem createAccount_services
    (actor : AuthContext) (request : AccountCreateRequest)
    (state : ControlState) :
    (createAccount deployment actor request state).2.services =
      state.services := by
  have keeps : Effect.Keeps (fun after => after.services = state.services)
      (createAccount deployment actor request) := by
    unfold createAccount
    exact Effect.Keeps.look.bind fun _ => Effect.Keeps.look.bind fun _ =>
      Effect.Keeps.look.bind fun _ => Effect.Keeps.look.bind fun _ =>
        (upsertResource_keeps_services _ _ _).bind fun _ =>
          (upsertResource_keeps_services _ _ _).bind fun _ =>
            (upsertResource_keeps_services _ _ _).bind fun _ =>
              Effect.Keeps.pure
  exact keeps.after rfl

/-- The services after a request of any actor. -/
theorem serve_services (actor : AuthContext)
    (request : Request) (state : ControlState) :
    (serve deployment actor request state).2.services =
      servicesAfter deployment actor state request := by
  unfold serve servicesAfter whenOk
  rw [Effect.look_bind]
  cases requireAdminScope actor with
  | error failure => rfl
  | ok value =>
  change (handler deployment actor request state).2.services =
    handledServices deployment actor state request
  cases request with
  | createAccount request =>
      exact createAccount_services deployment actor request state
  | createOrganization accountId request => exact savePlan_services _ _ _
  | createWorkspace orgId request => exact savePlan_services _ _ _
  | createOrgResource orgId kind payload => exact savePlan_services _ _ _
  | upsertAuditExport orgId payload => exact savePlan_services _ _ _
  | createWorkspaceResource workspaceId kind payload =>
      exact savePlan_services _ _ _
  | createWorkspaceServiceClient workspaceId request =>
      change (createWorkspaceServiceClient deployment actor workspaceId
        request state).2.services = _
      unfold createWorkspaceServiceClient
      rw [Effect.look_bind]
      dsimp only [handledServices]
      cases workspaceOf deployment actor state.resources workspaceId with
      | error failure => rfl
      | ok workspace =>
          exact creation_services _ _ _ _ fun record after =>
            upsertResource_bind_services _ _ _ _
  | listServiceClients =>
      change (listServiceClients deployment state).2.services = _
      unfold listServiceClients
      rw [Effect.look_bind]
      dsimp only [handledServices]
      cases requireServiceCatalog deployment with
      | error failure => rfl
      | ok value =>
          dsimp only [whenOk]
          rw [Effect.look_bind]
          unfold ServiceState.list
          cases attempt deployment .listIdentities 500 with
          | error failure => rfl
          | ok value => rfl
  | createServiceClient request =>
      change (createServiceClient deployment request state).2.services = _
      unfold createServiceClient
      rw [Effect.look_bind]
      dsimp only [handledServices]
      cases requireServiceCatalog deployment with
      | error failure => rfl
      | ok value => exact creation_services _ _ _ _ fun record after => rfl
  | rotateServiceClient clientId clientSecret =>
      change (rotateServiceClient deployment clientId clientSecret
        state).2.services = _
      unfold rotateServiceClient
      rw [Effect.look_bind]
      dsimp only [handledServices]
      cases requireServiceCatalog deployment with
      | error failure => rfl
      | ok value =>
          exact change_services _ _ _ _ _ _ _ _ (fun _ => rfl)
            fun record => ⟨_, rfl⟩
  | revokeServiceClient clientId reason =>
      change (revokeServiceClient deployment clientId reason
        state).2.services = _
      unfold revokeServiceClient
      rw [Effect.look_bind]
      dsimp only [handledServices]
      cases requireServiceCatalog deployment with
      | error failure => rfl
      | ok value =>
          exact change_services _ _ _ _ _ _ _ _ (fun _ => rfl)
            fun record => ⟨_, rfl⟩

end OpenSnow.Server.ControlPlane
