import OpenSnow.Server.ServiceClients
import OpenSnow.Server.Tokens

/-!
# Authority of issued tokens

What a token says is copied from the record of its client, and the record from
the request that created it.  Runs of requests whose grants stay below the
authority of the actor lead to tokens that stay below it.
-/

namespace OpenSnow.Server.ControlPlane

open Catalog.ControlPlane
open Foundation

/-! ## Authority -/

/-- The tenant is the account of the actor or one of its workspaces. -/
def OwnTenant (resources : ResourceTable) (actor : AuthContext)
    (tenant : String) : Prop :=
  tenant = actor.tenantId ∨
    ∃ row, resources.find ("workspace", tenant) = some row ∧
      row.accountId = actor.tenantId

/-- The scopes and the tenant give no more than the actor's account. -/
def Harmless (resources : ResourceTable) (actor : AuthContext)
    (scopes : List String) (tenant : String) : Prop :=
  "break_glass.admin" ∉ scopes ∧ OwnTenant resources actor tenant

/-- The client of the record would have no more. -/
def HarmlessRecord (resources : ResourceTable) (actor : AuthContext)
    (record : ServiceIdentityClient) : Prop :=
  Harmless resources actor
    (RegisteredClient.effectiveScopes record.role record.scopes)
    (record.workspaceId.getD record.accountId)

def HarmlessClient (resources : ResourceTable) (actor : AuthContext)
    (client : RegisteredClient) : Prop :=
  Harmless resources actor client.scopes client.tenantId

variable {actor : AuthContext} {record : ServiceIdentityClient}

theorem HarmlessRecord.client {resources : ResourceTable}
    {client : RegisteredClient}
    (harmless : HarmlessRecord resources actor record)
    (known : RegisteredClient.fromDurable record = some client) :
    HarmlessClient resources actor client := by
  obtain ⟨status, -, rfl⟩ := Option.map_eq_some_iff.mp known
  exact harmless

/-- Every workspace of the actor's account is still one. -/
def KeepsWorkspaces (actor : AuthContext) (before after : ResourceTable) :
    Prop :=
  ∀ tenant, OwnTenant before actor tenant → OwnTenant after actor tenant

theorem serve_keepsWorkspaces
    (plain : isBreakGlassAdmin actor = false) (deployment : Deployment)
    (request : Request) (state : ControlState) :
    KeepsWorkspaces actor state.resources
      (serve deployment actor request state).2.resources := by
  rw [serve_resources plain]
  rintro tenant (isAccount | ⟨row, found, owner⟩)
  · exact Or.inl isAccount
  · cases writes : writeOf deployment actor state request with
    | none => exact Or.inr ⟨row, found, owner⟩
    | some write =>
        by_cases sameKey : write.key = ("workspace", tenant)
        · refine Or.inr ⟨write.row deployment.now
            (state.resources.find write.key), ?_,
            writeOf_account plain writes⟩
          exact (find_upsert _ _ _ _).trans (if_pos sameKey)
        · refine Or.inr ⟨row, ?_, owner⟩
          exact ((find_upsert _ _ _ _).trans (if_neg sameKey)).trans found

/-! ## Grants -/

/-- The client that the entry gives a secret to. -/
def Administered.grants : Administered → Option String
  | created record => some record.id
  | secretSet record => some record.id
  | _ => none

/-- The client was created or rotated. -/
def Granted (services : ServiceState) (clientId : String) : Prop :=
  ∃ entry ∈ services.administered, entry.grants = some clientId

variable {services : ServiceState}

theorem granted_store {entry : Administered} {clientId : String} :
    Granted (services.store record entry) clientId ↔
      entry.grants = some clientId ∨ Granted services clientId := by
  simp [Granted, ServiceState.store]

theorem granted_register {clientId : String} :
    Granted (services.register record) clientId ↔
      Granted services clientId := by
  unfold ServiceState.register
  cases RegisteredClient.fromDurable record with
  | none => exact Iff.rfl
  | some client => simp [Granted, Administered.grants]

/-- Whatever was granted is harmless, in the catalog and in the registry. -/
def Contained (resources : ResourceTable) (actor : AuthContext)
    (services : ServiceState) : Prop :=
  ∀ clientId, Granted services clientId →
    (∀ record, services.identities.find clientId = some record →
      HarmlessRecord resources actor record) ∧
    ∀ client, services.clients clientId = some client →
      HarmlessClient resources actor client

theorem Contained.mono {before after : ResourceTable}
    (contained : Contained before actor services)
    (keeps : KeepsWorkspaces actor before after) :
    Contained after actor services := by
  intro clientId granted
  obtain ⟨records, clients⟩ := contained clientId granted
  exact ⟨fun record found => ⟨(records record found).1,
      keeps _ (records record found).2⟩,
    fun client found => ⟨(clients client found).1,
      keeps _ (clients client found).2⟩⟩

section Steps

variable {resources : ResourceTable} {actor : AuthContext}
  {services : ServiceState} {record : ServiceIdentityClient}
  {entry : Administered} {client : RegisteredClient}

/-- A stored record that is not registered, with the client that stays. -/
theorem Contained.store (contained : Contained resources actor services)
    (own : ∀ clientId, entry.grants = some clientId → clientId = record.id)
    (harmless : entry.grants = some record.id ∨ Granted services record.id →
      HarmlessRecord resources actor record)
    (registered : entry.grants = some record.id →
      ∀ client, services.clients record.id = some client →
        HarmlessClient resources actor client) :
    Contained resources actor (services.store record entry) := by
  intro clientId granted
  rw [granted_store] at granted
  by_cases same : clientId = record.id
  · subst same
    refine ⟨fun found isFound => ?_, fun client isClient => ?_⟩
    · change (services.identities.put record).find record.id = _ at isFound
      rw [Keyed.find_put, if_pos rfl] at isFound
      cases isFound
      exact harmless granted
    · exact granted.elim (fun grants => registered grants client isClient)
        fun earlier => (contained _ earlier).2 client isClient
  · have earlier := granted.resolve_left fun grants => same (own _ grants)
    refine ⟨fun found isFound => ?_, (contained _ earlier).2⟩
    change (services.identities.put record).find clientId = _ at isFound
    rw [Keyed.find_put, if_neg fun sameId => same sameId.symm] at isFound
    exact (contained _ earlier).1 found isFound

/-- A stored record that is registered. -/
theorem Contained.storeRegister
    (contained : Contained resources actor services)
    (own : ∀ clientId, entry.grants = some clientId → clientId = record.id)
    (harmless : entry.grants = some record.id ∨ Granted services record.id →
      HarmlessRecord resources actor record)
    (known : RegisteredClient.fromDurable record = some client) :
    Contained resources actor
      ((services.store record entry).register record) := by
  intro clientId granted
  rw [granted_register, granted_store] at granted
  unfold ServiceState.register
  rw [known]
  by_cases same : clientId = record.id
  · subst same
    refine ⟨fun found isFound => ?_, fun other isClient => ?_⟩
    · change (services.identities.put record).find record.id = _ at isFound
      rw [Keyed.find_put, if_pos rfl] at isFound
      cases isFound
      exact harmless granted
    · change services.clients.insert record.id client record.id = _
        at isClient
      rw [ClientRegistry.insert_self] at isClient
      cases isClient
      exact (harmless granted).client known
  · have earlier := granted.resolve_left fun grants => same (own _ grants)
    refine ⟨fun found isFound => ?_, fun other isClient => ?_⟩
    · change (services.identities.put record).find clientId = _ at isFound
      rw [Keyed.find_put, if_neg fun sameId => same sameId.symm] at isFound
      exact (contained _ earlier).1 found isFound
    · change services.clients.insert record.id client clientId = _
        at isClient
      rw [ClientRegistry.insert_of_ne same] at isClient
      exact (contained _ earlier).2 other isClient

variable {deployment : Deployment}

section

variable (contained : Contained resources actor services)

include contained

theorem Contained.issue {input : ServiceIdentityClientInput}
    (harmless : deployment.fault .createIdentity = none →
      services.identities.find input.id = none →
      HarmlessRecord resources actor (input.record deployment.now)) :
    Contained resources actor (services.issue deployment input) := by
  unfold ServiceState.issue
  cases faulty : attempt deployment .createIdentity 400 with
  | error failure => exact contained
  | ok value =>
  dsimp only
  split_ifs with taken
  · exact contained
  · refine contained.storeRegister ?_ (fun _ => harmless ?_ ?_) rfl
    · exact fun clientId grants => (Option.some.inj grants).symm
    · exact (attempt_ok_iff 400).mp faulty
    · exact Option.not_isSome_iff_eq_none.mp taken

/-- A change that keeps what a record grants, and says so in its entry. -/
theorem Contained.change {op : CatalogOp} {clientId : String}
    {update : ServiceIdentityClient → ServiceIdentityClient}
    {noted : ServiceIdentityClient → Administered}
    (sameId : ∀ record, (update record).id = record.id)
    (sameGrant : ∀ record, HarmlessRecord resources actor record →
      HarmlessRecord resources actor (update record))
    (known : ∀ record, ∃ client,
      RegisteredClient.fromDurable (update record) = some client)
    (own : ∀ record clientId, (noted record).grants = some clientId →
      clientId = record.id)
    (harmless : deployment.fault op = none → ∀ record,
      services.identities.find clientId = some record →
      (noted (update record)).grants.isSome →
      HarmlessRecord resources actor record ∧
        (deployment.fault .getIdentity ≠ none →
          ∀ client, services.clients clientId = some client →
            HarmlessClient resources actor client)) :
    Contained resources actor
      (services.change deployment op clientId update noted) := by
  unfold ServiceState.change
  cases faulty : attempt deployment op 404 with
  | error failure => exact contained
  | ok value =>
  dsimp only
  cases found : services.identities.find clientId with
  | none => exact contained
  | some record =>
  have noFault := (attempt_ok_iff 404).mp faulty
  have isId : (update record).id = clientId := by
    rw [sameId, Keyed.key_of_find found]
  have safe : (noted (update record)).grants = some (update record).id ∨
      Granted services (update record).id →
      HarmlessRecord resources actor (update record) := by
    rintro (grants | granted)
    · exact sameGrant _
        (harmless noFault record found (by rw [grants]; rfl)).1
    · rw [isId] at granted
      exact sameGrant _ ((contained _ granted).1 record found)
  dsimp only
  cases reading : attempt deployment .getIdentity 500 with
  | error failure =>
      refine contained.store (own _) safe fun grants client isClient => ?_
      rw [isId] at isClient
      refine (harmless noFault record found (by rw [grants]; rfl)).2 ?_
        client isClient
      intro readable
      rw [(attempt_ok_iff 500).mpr readable] at reading
      cases reading
  | ok value =>
      obtain ⟨client, durable⟩ := known record
      exact contained.storeRegister (own _) safe durable

theorem Contained.list :
    Contained resources actor (services.list deployment) := by
  unfold ServiceState.list
  cases attempt deployment .listIdentities 500 with
  | error failure => exact contained
  | ok value =>
      rintro clientId ⟨entry, member, grants⟩
      refine contained clientId ⟨entry, ?_, grants⟩
      rcases List.mem_append.mp member with returned | earlier
      · obtain ⟨record, -, rfl⟩ := List.mem_map.mp returned
        cases grants
      · exact earlier

end

end Steps

/-! ## Requests -/

/--
What a request must ask for: a new client without the break-glass scope in a
tenant of the actor, and a new secret for such a client only.
-/
def Cautious (deployment : Deployment) (actor : AuthContext)
    (state : ControlState) : Request → Prop
  | .createServiceClient request =>
      deployment.fault .createIdentity = none →
        state.identities.find request.clientId = none →
        Harmless state.resources actor
          (RegisteredClient.effectiveScopes request.role request.scopes)
          (request.workspaceId.getD request.accountId)
  | .createWorkspaceServiceClient _ request =>
      deployment.fault .createIdentity = none →
        state.identities.find request.clientId = none →
        "break_glass.admin" ∉
          RegisteredClient.effectiveScopes request.role request.scopes
  | .rotateServiceClient clientId _ =>
      deployment.fault .rotateIdentity = none → ∀ record,
        state.identities.find clientId = some record →
        HarmlessRecord state.resources actor record ∧
          -- the registry keeps its client if the record is not read back
          (deployment.fault .getIdentity ≠ none →
            ∀ client, state.clients clientId = some client →
              HarmlessClient state.resources actor client)
  | _ => True

variable {deployment : Deployment}

theorem workspaceOf_find {resources : ResourceTable} {workspaceId : String}
    {workspace : ControlPlaneResource} (ok :
      workspaceOf deployment actor resources workspaceId = .ok workspace) :
    resources.find ("workspace", workspaceId) = some workspace := by
  obtain ⟨-, -, ok⟩ := except_bind_ok ok
  obtain ⟨row, owned, ok⟩ := except_bind_ok ok
  obtain ⟨value, -, ok⟩ := except_bind_ok ok
  cases ok
  obtain ⟨-, -, owned⟩ := except_bind_ok owned
  split at owned
  · rename_i found
    cases owned
    exact found
  · cases owned

theorem handledServices_contained {state : ControlState} {request : Request}
    (plain : isBreakGlassAdmin actor = false)
    (contained : Contained state.resources actor state.services)
    (cautious : requireServiceCatalog deployment = .ok () →
      Cautious deployment actor state request) :
    Contained state.resources actor
      (handledServices deployment actor state request) := by
  cases request with
  | createWorkspaceServiceClient workspaceId request =>
      dsimp only [handledServices, whenOk]
      cases owned : workspaceOf deployment actor state.resources
          workspaceId with
      | error failure => exact contained
      | ok workspace =>
          have available : requireServiceCatalog deployment = .ok () := by
            obtain ⟨value, catalog, -⟩ := except_bind_ok owned
            unfold requireCatalog requireCatalogOr at catalog
            unfold requireServiceCatalog requireCatalogOr
            split at catalog
            · cases catalog
            · cases catalog
            · rfl
          refine contained.issue fun noFault free =>
            ⟨cautious available noFault free, Or.inr ⟨workspace, ?_, ?_⟩⟩
          · exact workspaceOf_find owned
          · exact workspaceOf_account plain owned
  | listServiceClients =>
      dsimp only [handledServices, whenOk]
      split
      · exact contained
      · exact contained.list
  | createServiceClient request =>
      dsimp only [handledServices, whenOk]
      split
      · exact contained
      · rename_i available
        exact contained.issue (cautious available)
  | rotateServiceClient clientId clientSecret =>
      dsimp only [handledServices, whenOk]
      split
      · exact contained
      · rename_i available
        refine contained.change (fun _ => rfl) (fun _ harmless => harmless)
          (fun _ => ⟨_, rfl⟩)
          (fun _ _ grants => (Option.some.inj grants).symm)
          fun noFault record found _ =>
            cautious available noFault record found
  | revokeServiceClient clientId reason =>
      dsimp only [handledServices, whenOk]
      split
      · exact contained
      · exact contained.change (fun _ => rfl) (fun _ harmless => harmless)
          (fun _ => ⟨_, rfl⟩) (fun _ _ grants => nomatch grants)
          fun _ _ _ grants => nomatch grants
  | createAccount request => exact contained
  | createOrganization accountId request => exact contained
  | createWorkspace orgId request => exact contained
  | createOrgResource orgId kind payload => exact contained
  | upsertAuditExport orgId payload => exact contained
  | createWorkspaceResource workspaceId kind payload => exact contained

/-- A cautious request keeps everything that was granted harmless. -/
theorem serve_contained {state : ControlState} {request : Request}
    (plain : isBreakGlassAdmin actor = false)
    (contained : Contained state.resources actor state.services)
    (cautious : requireAdminScope actor = .ok () →
      requireServiceCatalog deployment = .ok () →
      Cautious deployment actor state request) :
    Contained (serve deployment actor request state).2.resources actor
      (serve deployment actor request state).2.services := by
  refine Contained.mono ?_
    (serve_keepsWorkspaces plain deployment request state)
  rw [serve_services]
  unfold servicesAfter whenOk
  split
  · exact contained
  · rename_i admitted
    exact handledServices_contained plain contained (cautious admitted)

/-! ## Tokens -/

/-- What the use of a client leaves of the state. -/
structure OnlyUsed (before after : ControlState) : Prop where
  resources : after.resources = before.resources
  clients : after.clients = before.clients
  administered : after.administered = before.administered
  identities : ∀ clientId record,
    after.identities.find clientId = some record →
    ∃ held, before.identities.find clientId = some held ∧
      (record = held ∨ ∃ now, record = held.used now)

theorem OnlyUsed.refl (state : ControlState) : OnlyUsed state state where
  resources := rfl
  clients := rfl
  administered := rfl
  identities := fun _ record found => ⟨record, found, Or.inl rfl⟩

theorem markUsed_onlyUsed (deployment : Deployment) (clientId : String)
    (start : ControlState) :
    Effect.Keeps (OnlyUsed start) (markUsed deployment clientId) := by
  intro before kept
  unfold markUsed
  cases deployment.catalog with
  | error message => exact kept
  | ok configured =>
  cases configured with
  | false => exact kept
  | true =>
  cases attempt deployment .getIdentity 500 with
  | error failure => exact kept
  | ok value =>
  dsimp only
  split_ifs with known
  · cases attempt deployment .markIdentityUsed 500 with
    | error failure => exact kept
    | ok value =>
      refine ⟨kept.resources, kept.clients, kept.administered,
        fun other record found => ?_⟩
      obtain ⟨held, isHeld⟩ := Option.isSome_iff_exists.mp known
      change (markServiceIdentityUsed before.identities _ clientId).find
        other = _ at found
      rw [markServiceIdentityUsed, updateServiceIdentity, isHeld,
        Option.map_some, Option.getD_some, Keyed.find_put] at found
      split_ifs at found with same
      · cases found
        have sameId : clientId = other :=
          (Keyed.key_of_find isHeld).symm.trans same
        obtain ⟨first, isFirst, origin⟩ :=
          kept.identities clientId held isHeld
        refine ⟨first, sameId ▸ isFirst, Or.inr ?_⟩
        rcases origin with rfl | ⟨now, rfl⟩
        · exact ⟨_, rfl⟩
        · exact ⟨_, rfl⟩
      · exact kept.identities other record found
  · exact kept

theorem tokenEndpoint_onlyUsed (moment : Moment) (request : TokenRequest)
    (state : ControlState) :
    OnlyUsed state (tokenEndpoint moment request state).2 := by
  have keeps : Effect.Keeps (OnlyUsed state)
      (tokenEndpoint moment request) := by
    refine Effect.Keeps.look.bind fun client =>
      (markUsed_onlyUsed _ _ _).bind fun _ => ?_
    cases moment.signingError with
    | some message => exact Effect.Keeps.fail
    | none => exact Effect.Keeps.pure
  exact keeps.after (OnlyUsed.refl state)

theorem OnlyUsed.contained
    {before after : ControlState} (used : OnlyUsed before after)
    (contained : Contained before.resources actor before.services) :
    Contained after.resources actor after.services := by
  rintro clientId ⟨entry, member, grants⟩
  change entry ∈ after.administered at member
  rw [used.administered] at member
  obtain ⟨records, clients⟩ := contained clientId ⟨entry, member, grants⟩
  rw [used.resources]
  refine ⟨fun record found => ?_, fun client registered => ?_⟩
  · obtain ⟨held, isHeld, rfl | ⟨now, rfl⟩⟩ :=
      used.identities clientId record found
    · exact records _ isHeld
    · exact records held isHeld
  · change after.clients clientId = _ at registered
    rw [used.clients] at registered
    exact clients client registered

/-- A token that is issued copies the client of the registry. -/
theorem tokenEndpoint_ok {moment : Moment} {request : TokenRequest}
    {state after : ControlState} {claims : Claims}
    (issued :
      tokenEndpoint moment request state = (.ok claims, after)) :
    ∃ client, state.clients request.clientId = some client ∧
      client.status = .active ∧
      claims = clientClaims request.clientId client := by
  unfold tokenEndpoint at issued
  rw [Effect.look_bind] at issued
  cases admitted : tokenClient moment request state.clients with
  | error failure =>
      rw [admitted] at issued
      cases issued
  | ok client =>
  rw [admitted] at issued
  dsimp only at issued
  unfold tokenClient at admitted
  split_ifs at admitted
  split at admitted
  · cases admitted
  rename_i authenticated
  cases admitted
  obtain ⟨registered, active⟩ :=
    ClientRegistry.authenticateClient_some authenticated
  refine ⟨client, registered, active, ?_⟩
  cases marked : markUsed moment.deployment request.clientId state with
  | mk result middle =>
  cases result with
  | error failure =>
      rw [Effect.bind_error marked] at issued
      cases issued
  | ok value =>
      rw [Effect.bind_ok marked] at issued
      cases signing : moment.signingError with
      | some message =>
          rw [signing] at issued
          cases issued
      | none =>
          rw [signing] at issued
          cases issued
          rfl

/-- The bearer of the claims is admitted by one of the surfaces. -/
def Accepted (claims : Claims) (context : AuthContext) : Prop :=
  (∃ moment headers state after,
    jwtRequired moment claims headers state = (.ok context, after)) ∨
  ∃ moment user database state after,
    authenticatePgwireBearer moment user database claims state =
      (.ok context, after)

/-- The context of a bearer is what its claims say. -/
theorem Accepted.context {claims : Claims} {context : AuthContext}
    (accepted : Accepted claims context) :
    context = AuthContext.ofClaims claims := by
  rcases accepted with ⟨moment, headers, state, after, accepted⟩ |
    ⟨moment, user, database, state, after, accepted⟩
  · unfold jwtRequired at accepted
    obtain ⟨_, _, -, accepted⟩ := Effect.of_bind_ok accepted
    obtain ⟨_, _, -, accepted⟩ := Effect.of_bind_ok accepted
    cases accepted
    rfl
  · unfold authenticatePgwireBearer at accepted
    obtain ⟨_, _, -, accepted⟩ := Effect.of_bind_ok accepted
    obtain ⟨_, _, -, accepted⟩ := Effect.of_bind_ok accepted
    cases accepted
    rfl

/-! ## Runs -/

/-- What is done with the actor's tokens and the secrets that it is shown. -/
inductive Action where
  | request (deployment : Deployment) (request : Request)
  | token (moment : Moment) (request : TokenRequest)

def act (actor : AuthContext) (state : ControlState) :
    Action → ControlState
  | .request deployment request => (serve deployment actor request state).2
  | .token moment request => (tokenEndpoint moment request state).2

/-- A state whose entries are those of the run that starts there. -/
def ControlState.unadministered (state : ControlState) : ControlState :=
  { state with administered := [] }

def run (actor : AuthContext) (start : ControlState)
    (actions : List Action) : ControlState :=
  actions.foldl (act actor) start.unadministered

/-- Every request that is served asks for harmless grants only. -/
def CautiousRun (actor : AuthContext) : ControlState → List Action → Prop
  | _, [] => True
  | state, action :: rest =>
      (match action with
        | .request deployment request =>
            requireAdminScope actor = .ok () →
              requireServiceCatalog deployment = .ok () →
              Cautious deployment actor state request
        | .token _ _ => True) ∧
        CautiousRun actor (act actor state action) rest

theorem run_contained
    (plain : isBreakGlassAdmin actor = false) (actions : List Action) :
    ∀ state : ControlState,
      Contained state.resources actor state.services →
      CautiousRun actor state actions →
      Contained (actions.foldl (act actor) state).resources actor
        (actions.foldl (act actor) state).services := by
  induction actions with
  | nil => exact fun state contained _ => contained
  | cons action rest ih =>
      rintro state contained ⟨cautious, cautiousRest⟩
      refine ih _ ?_ cautiousRest
      cases action with
      | request deployment request =>
          exact serve_contained plain contained cautious
      | token moment request =>
          exact (tokenEndpoint_onlyUsed moment request state).contained
            contained

/--
In a run of an actor without an explicit break-glass scope, in which every
request asks for harmless grants, no token of a client that the run created or
rotated is accepted with a break-glass scope or for a foreign tenant.
-/
theorem no_authority_amplification (actor : AuthContext)
    (plain : isBreakGlassAdmin actor = false) (start : ControlState)
    (actions : List Action)
    (cautious : CautiousRun actor start.unadministered actions)
    (moment : Moment) (request : TokenRequest)
    (granted :
      Granted (run actor start actions).services request.clientId)
    (claims : Claims) (after : ControlState)
    (issued :
      tokenEndpoint moment request (run actor start actions) =
        (.ok claims, after))
    (context : AuthContext) (accepted : Accepted claims context) :
    isBreakGlassAdmin context = false ∧
      OwnTenant (run actor start actions).resources actor
        context.tenantId := by
  have contained := run_contained plain actions start.unadministered
    (fun clientId nothing => by
      obtain ⟨entry, member, -⟩ := nothing
      cases member) cautious
  obtain ⟨client, registered, -, rfl⟩ := tokenEndpoint_ok issued
  obtain ⟨plainScopes, ownTenant⟩ := (contained _ granted).2 client registered
  rw [accepted.context]
  refine ⟨?_, ownTenant⟩
  rw [isBreakGlassAdmin, AuthContext.hasExplicitScope, List.any_eq_false]
  intro scope member isBreakGlass
  exact plainScopes (beq_iff_eq.mp isBreakGlass ▸ member)

/-! ## A service client with a break-glass scope -/

/-- Argon2 on the hashes of the calm deployment. -/
def calmMoment : Moment where
  deployment := calm
  clock := ⟨0, fun _ => none⟩
  verify := fun hash secret => hash == "argon2:" ++ secret
  sessionError := fun _ => none
  signingError := none

/-- A service client that a request asks for, with the given scopes. -/
def loaderRequest (scopes : List String) : Request :=
  .createServiceClient
    { clientId := "loader", accountId := "acme", workspaceId := none
      role := "ANALYST", scopes, expiresAt := none
      clientSecret := some "s3cret" }

def loaderRun (scopes : List String) : ControlState :=
  run (accountAdmin "acme") .fresh [.request calm (loaderRequest scopes)]

def loaderToken : TokenRequest :=
  ⟨"client_credentials", "loader", "s3cret"⟩

/-- The claims of the loader's token. -/
def loaderClaims (scopes : List String) : Claims :=
  ⟨0, "loader", "ANALYST", "acme", scopes, none, some "client_credentials"⟩

/-- An administrator of `acme` makes itself a break-glass administrator. -/
theorem no_authority_amplification_fails :
    ¬ ∀ actor start actions moment request claims after context,
      isBreakGlassAdmin actor = false →
      Granted (run actor start actions).services request.clientId →
      tokenEndpoint moment request (run actor start actions) =
        (.ok claims, after) →
      Accepted claims context →
      isBreakGlassAdmin context = false ∧
        OwnTenant (run actor start actions).resources actor
          context.tenantId := by
  intro holds
  have amplified := holds (accountAdmin "acme") .fresh
    [.request calm (loaderRequest ["break_glass.admin"])] calmMoment
    loaderToken (loaderClaims ["break_glass.admin"]) _
    (AuthContext.ofClaims (loaderClaims ["break_glass.admin"]))
    (by decide)
    ⟨.created _, List.mem_cons_of_mem _ List.mem_cons_self, rfl⟩ rfl
    (Or.inl ⟨calmMoment, [], .fresh, _, rfl⟩)
  exact absurd amplified.1 (by decide)

/-- A loader that may only query stays an ordinary client of `acme`. -/
theorem no_authority_amplification_loader :
    isBreakGlassAdmin (AuthContext.ofClaims (loaderClaims ["sql.query"])) =
        false ∧
      OwnTenant (loaderRun ["sql.query"]).resources (accountAdmin "acme")
        "acme" :=
  no_authority_amplification (accountAdmin "acme") (by decide) .fresh
    [.request calm (loaderRequest ["sql.query"])]
    ⟨fun _ _ _ _ => ⟨by decide, Or.inl rfl⟩, trivial⟩ calmMoment loaderToken
    ⟨.created _, List.mem_cons_of_mem _ List.mem_cons_self, rfl⟩
    (loaderClaims ["sql.query"]) _ rfl _
    (Or.inl ⟨calmMoment, [], .fresh, _, rfl⟩)

end OpenSnow.Server.ControlPlane
