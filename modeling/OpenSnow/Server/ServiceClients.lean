import OpenSnow.Server.ServiceStates

/-!
# Administration of service clients

What each route does to service identities, entry by entry, and when all of it
concerns the actor's own account.  Only the workspace route compares accounts.
-/

namespace OpenSnow.Server.ControlPlane

open Catalog.ControlPlane
open Foundation

/-! ## Whose identities are administered -/

/-- Every entry that was added concerns an identity of the actor's account. -/
def AdministersOwn (actor : AuthContext) (before after : ServiceState) :
    Prop :=
  ∃ new, after.administered = new ++ before.administered ∧
    ∀ entry ∈ new, entry.record.accountId = actor.tenantId

variable {actor : AuthContext}

/-- The entries that were added decide the question. -/
theorem administersOwn_iff
    {before after : ServiceState} {new : List Administered}
    (notes : after.administered = new ++ before.administered) :
    AdministersOwn actor before after ↔
      ∀ entry ∈ new, entry.record.accountId = actor.tenantId := by
  constructor
  · rintro ⟨other, otherNotes, own⟩
    rw [notes] at otherNotes
    rwa [List.append_cancel_right otherNotes]
  · intro own
    exact ⟨new, notes, own⟩

theorem administersOwn_refl (actor : AuthContext)
    (services : ServiceState) : AdministersOwn actor services services :=
  ⟨[], rfl, fun _ member => nomatch member⟩

/-- The identity with the id, if there is one, is of the actor's account. -/
def OwnIdentity (actor : AuthContext) (identities : IdentityTable)
    (clientId : String) : Prop :=
  ∀ record, identities.find clientId = some record →
    record.accountId = actor.tenantId

variable {deployment : Deployment}

theorem attempt_ok_iff {op : CatalogOp} (status : Nat) :
    attempt deployment op status = .ok () ↔ deployment.fault op = none := by
  unfold attempt
  cases deployment.fault op with
  | none => exact iff_of_true rfl rfl
  | some message =>
      exact iff_of_false (fun ok => nomatch ok) fun none => nomatch none

variable {services : ServiceState}

theorem issue_own_iff {input : ServiceIdentityClientInput} :
    AdministersOwn actor services (services.issue deployment input) ↔
      (deployment.fault .createIdentity = none →
        services.identities.find input.id = none →
        input.accountId = actor.tenantId) := by
  rw [← attempt_ok_iff 400]
  unfold ServiceState.issue
  cases attempt deployment .createIdentity 400 with
  | error failure =>
      exact iff_of_true (administersOwn_refl actor services)
        fun ok => nomatch ok
  | ok value =>
  dsimp only
  cases services.identities.find input.id with
  | some record =>
      exact iff_of_true (administersOwn_refl actor services)
        fun _ taken => nomatch taken
  | none =>
      have notes :
          ((services.store (input.record deployment.now)
            (.created (input.record deployment.now))).register
            (input.record deployment.now)).administered =
          [.registered (input.record deployment.now),
            .created (input.record deployment.now)] ++
            services.administered :=
        rfl
      refine (administersOwn_iff notes).trans ?_
      constructor
      · intro own _ _
        exact own _ List.mem_cons_self
      · intro own entry member
        rcases List.mem_pair.mp member with rfl | rfl
        · exact own rfl rfl
        · exact own rfl rfl

/-- A stored record that may then be registered is the actor's exactly so. -/
theorem stored_own_iff {record : ServiceIdentityClient} {entry : Administered}
    (isRecord : entry.record = record) :
    (AdministersOwn actor services (services.store record entry) ↔
        record.accountId = actor.tenantId) ∧
      (AdministersOwn actor services
          ((services.store record entry).register record) ↔
        record.accountId = actor.tenantId) := by
  have stored : (services.store record entry).administered =
      [entry] ++ services.administered := rfl
  refine ⟨(administersOwn_iff stored).trans ?_, ?_⟩
  · rw [List.forall_mem_singleton, isRecord]
  · unfold ServiceState.register
    cases RegisteredClient.fromDurable record with
    | none =>
        refine (administersOwn_iff stored).trans ?_
        rw [List.forall_mem_singleton, isRecord]
    | some client =>
        have notes : Administered.registered record ::
            (services.store record entry).administered =
              [.registered record, entry] ++ services.administered := rfl
        refine (administersOwn_iff notes).trans ?_
        rw [List.forall_mem_cons, List.forall_mem_singleton, isRecord]
        exact and_self_iff

theorem change_own_iff {op : CatalogOp} {clientId : String}
    {update : ServiceIdentityClient → ServiceIdentityClient}
    {noted : ServiceIdentityClient → Administered}
    (isRecord : ∀ record, (noted record).record = record)
    (sameAccount : ∀ record, (update record).accountId = record.accountId) :
    AdministersOwn actor services
        (services.change deployment op clientId update noted) ↔
      (deployment.fault op = none →
        OwnIdentity actor services.identities clientId) := by
  rw [← attempt_ok_iff 404]
  unfold ServiceState.change OwnIdentity
  cases attempt deployment op 404 with
  | error failure =>
      exact iff_of_true (administersOwn_refl actor services)
        fun ok => nomatch ok
  | ok value =>
  dsimp only
  rw [forall_prop_of_true rfl]
  cases services.identities.find clientId with
  | none =>
      exact iff_of_true (administersOwn_refl actor services)
        fun _ found => nomatch found
  | some record =>
  have owner : (∀ found, some record = some found →
      found.accountId = actor.tenantId) ↔
        (update record).accountId = actor.tenantId := by
    rw [sameAccount]
    exact ⟨fun own => own record rfl, fun own _ found =>
      Option.some.inj found ▸ own⟩
  rw [owner]
  dsimp only
  cases attempt deployment .getIdentity 500 with
  | error failure => exact (stored_own_iff (isRecord _)).1
  | ok value => exact (stored_own_iff (isRecord _)).2

theorem list_own_iff :
    AdministersOwn actor services (services.list deployment) ↔
      (deployment.fault .listIdentities = none →
        ∀ record ∈ services.identities.rows,
          record.accountId = actor.tenantId) := by
  rw [← attempt_ok_iff 500]
  unfold ServiceState.list
  cases attempt deployment .listIdentities 500 with
  | error failure =>
      exact iff_of_true (administersOwn_refl actor services)
        fun ok => nomatch ok
  | ok value =>
      rw [forall_prop_of_true rfl]
      refine (administersOwn_iff rfl).trans ?_
      simp [listServiceIdentityClients, Administered.record]

theorem whenOk_own_iff
    {check : Except Failure Unit} {after : ServiceState} {names : Prop}
    (behind : AdministersOwn actor services after ↔ names) :
    AdministersOwn actor services (whenOk check services fun _ => after) ↔
      (check = .ok () → names) := by
  cases check with
  | error failure =>
      exact iff_of_true (administersOwn_refl actor services)
        fun ok => nomatch ok
  | ok value =>
      rw [forall_prop_of_true rfl]
      exact behind

/--
What a request must name: an identity of the actor's account, and for a new
one the account.
-/
def NamesOwn (deployment : Deployment) (actor : AuthContext)
    (state : ControlState) : Request → Prop
  | .listServiceClients =>
      deployment.fault .listIdentities = none →
        ∀ record ∈ state.identities.rows, record.accountId = actor.tenantId
  | .createServiceClient request =>
      deployment.fault .createIdentity = none →
        state.identities.find request.clientId = none →
          request.accountId = actor.tenantId
  | .rotateServiceClient clientId _ =>
      deployment.fault .rotateIdentity = none →
        OwnIdentity actor state.identities clientId
  | .revokeServiceClient clientId _ =>
      deployment.fault .revokeIdentity = none →
        OwnIdentity actor state.identities clientId
  | _ => True

/-- The workspace route keeps to the account of the actor. -/
theorem createWorkspaceServiceClient_own
    (plain : isBreakGlassAdmin actor = false) (deployment : Deployment)
    (workspaceId : String) (request : ServiceClientCreateRequest)
    (state : ControlState) :
    AdministersOwn actor state.services
      (handledServices deployment actor state
        (.createWorkspaceServiceClient workspaceId request)) := by
  dsimp only [handledServices, whenOk]
  cases owned : workspaceOf deployment actor state.resources workspaceId with
  | error failure => exact administersOwn_refl _ _
  | ok workspace =>
      exact issue_own_iff.mpr fun _ _ => workspaceOf_account plain owned

theorem handledServices_own_iff {state : ControlState} {request : Request}
    (plain : isBreakGlassAdmin actor = false) :
    AdministersOwn actor state.services
        (handledServices deployment actor state request) ↔
      (requireServiceCatalog deployment = .ok () →
        NamesOwn deployment actor state request) := by
  have untouched : AdministersOwn actor state.services state.services ↔
      (requireServiceCatalog deployment = .ok () → True) :=
    iff_of_true (administersOwn_refl _ _) fun _ => trivial
  cases request with
  | createWorkspaceServiceClient workspaceId request =>
      exact iff_of_true
        (createWorkspaceServiceClient_own plain _ _ _ _) fun _ => trivial
  | listServiceClients => exact whenOk_own_iff list_own_iff
  | createServiceClient request => exact whenOk_own_iff issue_own_iff
  | rotateServiceClient clientId clientSecret =>
      exact whenOk_own_iff (change_own_iff (fun _ => rfl) fun _ => rfl)
  | revokeServiceClient clientId reason =>
      exact whenOk_own_iff (change_own_iff (fun _ => rfl) fun _ => rfl)
  | createAccount request => exact untouched
  | createOrganization accountId request => exact untouched
  | createWorkspace orgId request => exact untouched
  | createOrgResource orgId kind payload => exact untouched
  | upsertAuditExport orgId payload => exact untouched
  | createWorkspaceResource workspaceId kind payload => exact untouched

/--
A request of an actor without an explicit break-glass scope returns, creates,
rotates, revokes and registers identities of the actor's account only, exactly
if it is refused or names such identities.
-/
theorem service_clients_within_account (deployment : Deployment)
    (actor : AuthContext) (state : ControlState) (request : Request)
    (plain : isBreakGlassAdmin actor = false) :
    AdministersOwn actor state.services
        (serve deployment actor request state).2.services ↔
      (requireAdminScope actor = .ok () →
        requireServiceCatalog deployment = .ok () →
        NamesOwn deployment actor state request) := by
  rw [serve_services]
  exact whenOk_own_iff (handledServices_own_iff plain)

/-! ## A secret for a client of another account -/

/-- A service client of the account `globex`. -/
def globexLoader : ServiceIdentityClient :=
  ServiceIdentityClientInput.record
    ⟨"loader", "globex", none, "argon2:old", "ANALYST", ["sql.query"], none⟩
    "2026-01-01T00:00:00Z"

def withLoader : ControlState :=
  { ControlState.fresh with identities := Keyed.empty.put globexLoader }

theorem withLoader_find :
    withLoader.identities.find "loader" = some globexLoader := by
  decide

/-- An administrator of `acme` is shown a working secret of the loader. -/
theorem service_clients_within_account_fails :
    ¬ ∀ deployment actor state request,
      isBreakGlassAdmin actor = false →
      AdministersOwn actor state.services
        (serve deployment actor request state).2.services := by
  intro holds
  have own := holds calm (accountAdmin "acme") withLoader
    (.rotateServiceClient "loader" none) (by decide)
  rw [serve_services] at own
  have names := (whenOk_own_iff (handledServices_own_iff (by decide))).mp own
    (by decide) rfl
  exact absurd (names rfl globexLoader withLoader_find) (by decide)

/-- The administrator of the loader's own account may rotate it. -/
theorem service_clients_within_account_globex :
    AdministersOwn (accountAdmin "globex") withLoader.services
      (serve calm (accountAdmin "globex")
        (.rotateServiceClient "loader" none) withLoader).2.services := by
  refine (service_clients_within_account calm (accountAdmin "globex")
    withLoader (.rotateServiceClient "loader" none) (by decide)).mpr ?_
  rintro - - - record found
  rw [withLoader_find] at found
  cases found
  rfl

end OpenSnow.Server.ControlPlane
