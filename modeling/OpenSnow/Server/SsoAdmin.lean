import OpenSnow.Auth.Sso
import OpenSnow.Server.AuthContext

/-!
# SSO administration

The admin routes for identity providers and role mappings.  The admin check
asks for a role and not for an account, and the handlers take the account
that the request names.
-/

namespace OpenSnow.Server.SsoAdmin

open Auth.Sso
open Foundation
open Rust.Text

/-! ## Routes -/

structure TenantRequest where
  accountId : Option String
  slug : String
  name : String
  ssoEnabled : Option Bool
  protocol : Option SsoProtocol
  oidcIssuer : Option String
  oidcClientId : Option String
  oidcClientSecret : Option String
  oidcClientSecretHandle : Option String
  allowedDomains : Option (List String)

structure SsoMappingRequest where
  connectionId : Option String
  idpClaimKey : String
  idpClaimValue : String
  roleId : String

inductive SsoRequest where
  | listTenants
  | upsertTenant (request : TenantRequest)
  | listSsoMappings (tenantId : String)
  | createSsoMapping (tenantId : String) (request : SsoMappingRequest)
  | deleteSsoMapping (tenantId mappingId : String)

/-- The bodies of replies; failures are answered with the status 200, too. -/
inductive SsoReply where
  | connections (accountId : String)
      (connections : List RedactedIdpConnection)
  | connection (connection : RedactedIdpConnection)
  | mappings (accountId : String) (mappings : List RedactedIdpRoleMapping)
  | mapping (mapping : RedactedIdpRoleMapping)
  | deleted (mappingId : String) (deleted : Bool)
  | failed (accountId mappingId : Option String) (message : String)
  /-- The status 403 of the admin check. -/
  | forbidden
deriving DecidableEq, Repr

/-- What the environment of a server contributes. -/
structure SsoServer where
  moment : SsoMoment
  /-- `OPENSNOW_DEFAULT_ACCOUNT_ID`. -/
  defaultAccountId : Option String

def SsoServer.account (server : SsoServer) : String :=
  server.defaultAccountId.getD "default"

/-- The account of an upsert is its slug unless one is named. -/
def TenantRequest.account (request : TenantRequest) : String :=
  request.accountId.getD request.slug

/-- The domain behind the last `@` of the name, unless domains are named. -/
def TenantRequest.domains (request : TenantRequest) : List String :=
  request.allowedDomains.getD
    (if '@' ∈ request.name.toList then
      [String.ofList (lastSplit '@' request.name.toList)]
    else [])

def TenantRequest.upsert (request : TenantRequest) : IdpConnectionUpsert where
  accountId := request.account
  connectionId := request.slug
  protocol := request.protocol.getD .oidc
  enabled := request.ssoEnabled.getD true
  issuer := request.oidcIssuer.getD ""
  clientId := request.oidcClientId.getD ""
  clientSecret := request.oidcClientSecret
  clientSecretHandle := request.oidcClientSecretHandle
  allowedDomains := request.domains
  scopes := none

def SsoMappingRequest.mapping (request : SsoMappingRequest)
    (tenantId : String) : RedactedIdpRoleMapping :=
  mappingOf tenantId (request.connectionId.getD "default")
    request.idpClaimKey request.idpClaimValue request.roleId

def listTenants (server : SsoServer) (catalog : SsoCatalog) : SsoReply :=
  match listIdpConnections server.moment server.account catalog with
  | .ok connections => .connections server.account connections
  | .error message => .failed none none message

def upsertTenant (server : SsoServer) (request : TenantRequest)
    (catalog : SsoCatalog) : SsoReply × SsoCatalog :=
  match upsertIdpConnection server.moment request.upsert catalog with
  | (.ok connection, after) => (.connection connection.redacted, after)
  | (.error message, after) => (.failed none none message, after)

def listSsoMappings (server : SsoServer) (tenantId : String)
    (catalog : SsoCatalog) : SsoReply :=
  match listIdpRoleMappings server.moment tenantId catalog with
  | .ok mappings => .mappings tenantId mappings
  | .error message => .failed (some tenantId) none message

def createSsoMapping (server : SsoServer) (tenantId : String)
    (request : SsoMappingRequest) (catalog : SsoCatalog) :
    SsoReply × SsoCatalog :=
  match upsertIdpRoleMapping server.moment (request.mapping tenantId)
      catalog with
  | (.ok mapping, after) => (.mapping mapping, after)
  | (.error message, after) => (.failed none none message, after)

def deleteSsoMapping (server : SsoServer) (tenantId mappingId : String)
    (catalog : SsoCatalog) : SsoReply × SsoCatalog :=
  match deleteIdpRoleMapping server.moment tenantId mappingId catalog with
  | (.ok deleted, after) => (.deleted mappingId deleted, after)
  | (.error message, after) => (.failed none (some mappingId) message, after)

def handle (server : SsoServer) (catalog : SsoCatalog) :
    SsoRequest → SsoReply × SsoCatalog
  | .listTenants => (listTenants server catalog, catalog)
  | .upsertTenant request => upsertTenant server request catalog
  | .listSsoMappings tenantId =>
      (listSsoMappings server tenantId catalog, catalog)
  | .createSsoMapping tenantId request =>
      createSsoMapping server tenantId request catalog
  | .deleteSsoMapping tenantId mappingId =>
      deleteSsoMapping server tenantId mappingId catalog

/-- A request behind `require_admin_scope`. -/
def ssoServe (server : SsoServer) (actor : AuthContext)
    (request : SsoRequest) (catalog : SsoCatalog) : SsoReply × SsoCatalog :=
  if actor.authorize [] ["policy.admin"] then handle server catalog request
  else (.forbidden, catalog)

/-! ## Isolation -/

/-- The accounts whose rows a reply shows. -/
def SsoReply.shown : SsoReply → List String
  | connections _ rows => rows.map (·.accountId)
  | connection row => [row.accountId]
  | mappings _ rows => rows.map (·.accountId)
  | mapping row => [row.accountId]
  | _ => []

/-- Rows of other accounts are neither changed nor shown. -/
structure KeepsOthers (tenant : String) (before : SsoCatalog)
    (outcome : SsoReply × SsoCatalog) : Prop where
  connections : ∀ connection : IdpConnection, connection.accountId ≠ tenant →
    (connection ∈ outcome.2.connections.rows ↔
      connection ∈ before.connections.rows)
  mappings : ∀ mapping : RedactedIdpRoleMapping, mapping.accountId ≠ tenant →
    (mapping ∈ outcome.2.mappings.rows ↔ mapping ∈ before.mappings.rows)
  shown : ∀ accountId ∈ outcome.1.shown, accountId = tenant

def SsoIsolated (server : SsoServer) (actor : AuthContext)
    (request : SsoRequest) (catalog : SsoCatalog) : Prop :=
  KeepsOthers actor.tenantId catalog (ssoServe server actor request catalog)

/-- The connection that an upsert would write. -/
def written (request : TenantRequest) (catalog : SsoCatalog) :
    IdpConnection :=
  connectionRow request.upsert
    (catalog.connections.find (request.account, request.slug))

/-- The mapping is held, or its id is new and its connection is known. -/
def Insertable (mapping : RedactedIdpRoleMapping) (catalog : SsoCatalog) :
    Prop :=
  (∃ held ∈ catalog.mappings.rows, held.columns = mapping.columns) ∨
    catalog.mappings.find mapping.id = none ∧
      catalog.connections.find (mapping.accountId, mapping.connectionId) ≠ none

/--
The request names an account and, behind its checks, there is something of
the account that it changes, deletes or shows.
-/
def Touches (server : SsoServer) (catalog : SsoCatalog) :
    SsoRequest → String → Prop
  | .listTenants, accountId =>
      server.account = accountId ∧
        server.moment.fault .listConnections = none ∧
          ∃ connection ∈ catalog.connections.rows,
            connection.accountId = accountId
  | .upsertTenant request, accountId =>
      request.account = accountId ∧
        checkConnection server.moment request.upsert = .ok () ∧
          (server.moment.fault .getConnection = none ∨
            written request catalog ∉ catalog.connections.rows)
  | .listSsoMappings tenantId, accountId =>
      tenantId = accountId ∧ isSafeId tenantId ∧
        server.moment.fault .listMappings = none ∧
          ∃ mapping ∈ catalog.mappings.rows, mapping.accountId = accountId
  | .createSsoMapping tenantId request, accountId =>
      tenantId = accountId ∧
        checkMapping server.moment (request.mapping tenantId) = .ok () ∧
          Insertable (request.mapping tenantId) catalog
  | .deleteSsoMapping tenantId mappingId, accountId =>
      tenantId = accountId ∧ checkDelete server.moment tenantId = .ok () ∧
        ∃ mapping ∈ catalog.mappings.rows,
          mapping.accountId = accountId ∧ mapping.id = mappingId

/-- The request touches no other account than the one given. -/
def KeepsTo (tenant : String) (server : SsoServer) (request : SsoRequest)
    (catalog : SsoCatalog) : Prop :=
  ∀ accountId, Touches server catalog request accountId → accountId = tenant

/-! ### What the handlers do -/

section Handlers

variable {server : SsoServer} {tenant : String} {catalog : SsoCatalog}

/-- A list of tenants shows one account, if it shows anything. -/
theorem mem_shown_listTenants {accountId : String} :
    accountId ∈ (listTenants server catalog).shown ↔
      Touches server catalog .listTenants accountId := by
  unfold listTenants listIdpConnections Touches
  cases faulty : server.moment.fault .listConnections with
  | some message =>
      simp [attempt, faulty, SsoReply.shown, bind, Except.bind]
  | none =>
      simp only [attempt, faulty, bind, Except.bind, SsoReply.shown,
        List.map_map, List.mem_map, Function.comp_apply, mem_orderBy,
        List.mem_filter, decide_eq_true_eq, IdpConnection.redacted,
        true_and]
      constructor
      · rintro ⟨connection, ⟨member, own⟩, rfl⟩
        exact ⟨own.symm, connection, member, rfl⟩
      · rintro ⟨rfl, connection, member, own⟩
        exact ⟨connection, ⟨member, own⟩, own⟩

theorem mem_orderMappings {mapping : RedactedIdpRoleMapping}
    {mappings : List RedactedIdpRoleMapping} :
    mapping ∈ orderMappings mappings ↔ mapping ∈ mappings := by
  simp only [orderMappings, mem_orderBy]

theorem mem_shown_listSsoMappings {tenantId accountId : String} :
    accountId ∈ (listSsoMappings server tenantId catalog).shown ↔
      Touches server catalog (.listSsoMappings tenantId) accountId := by
  unfold listSsoMappings listIdpRoleMappings Touches validateSafeId require
  cases safe : isSafeId tenantId with
  | false => simp [SsoReply.shown, bind, Except.bind, safe]
  | true =>
  cases faulty : server.moment.fault .listMappings with
  | some message =>
      simp [attempt, faulty, SsoReply.shown, bind, Except.bind]
  | none =>
      simp only [attempt, faulty, bind, Except.bind, SsoReply.shown,
        List.mem_map, mem_orderMappings, List.mem_filter, if_true,
        decide_eq_true_eq, true_and]
      constructor
      · rintro ⟨mapping, ⟨member, own⟩, rfl⟩
        exact ⟨own.symm, safe, mapping, member, rfl⟩
      · rintro ⟨rfl, -, mapping, member, own⟩
        exact ⟨mapping, ⟨member, own⟩, own⟩

/-- An upsert that passes its checks writes its row and reads it back. -/
theorem upsertTenant_eq (server : SsoServer) (request : TenantRequest)
    (catalog : SsoCatalog) :
    upsertTenant server request catalog =
      match checkConnection server.moment request.upsert with
      | .error message => (.failed none none message, catalog)
      | .ok () =>
          (match server.moment.fault .getConnection with
            | some message => .failed none none message
            | none => .connection (written request catalog).redacted,
            { catalog with
              connections :=
                catalog.connections.put (written request catalog) }) := by
  unfold upsertTenant upsertIdpConnection
  cases checkConnection server.moment request.upsert with
  | error message => rfl
  | ok value =>
      have found : (catalog.connections.put (written request catalog)).find
          (request.upsert.accountId, request.upsert.connectionId) =
            some (written request catalog) := by
        rw [Keyed.find_put]
        exact if_pos rfl
      cases faulty : server.moment.fault .getConnection with
      | some message =>
          simp only [readBack, getIdpConnection, attempt, faulty, bind,
            Except.bind]
          rfl
      | none =>
          have isRead : readBack server.moment
              { catalog with
                connections :=
                  catalog.connections.put (written request catalog) }
              request.upsert.accountId request.upsert.connectionId =
                .ok (written request catalog) := by
            simp only [readBack, getIdpConnection, attempt, faulty, bind,
              Except.bind, found]
          have row : connectionRow request.upsert (catalog.connections.find
              (request.upsert.accountId, request.upsert.connectionId)) =
                written request catalog := rfl
          dsimp only
          rw [row, isRead]

/-! ### Who is touched -/

theorem KeepsOthers.unchanged {reply : SsoReply} :
    KeepsOthers tenant catalog (reply, catalog) ↔
      ∀ accountId ∈ reply.shown, accountId = tenant :=
  ⟨fun keeps => keeps.shown,
    fun shown => ⟨fun _ _ => Iff.rfl, fun _ _ => Iff.rfl, shown⟩⟩

theorem listTenants_keeps_iff :
    KeepsOthers tenant catalog (handle server catalog .listTenants) ↔
      KeepsTo tenant server .listTenants catalog := by
  rw [handle, KeepsOthers.unchanged, KeepsTo]
  exact forall_congr' fun _ => imp_congr_left mem_shown_listTenants

theorem listSsoMappings_keeps_iff {tenantId : String} :
    KeepsOthers tenant catalog
        (handle server catalog (.listSsoMappings tenantId)) ↔
      KeepsTo tenant server (.listSsoMappings tenantId) catalog := by
  rw [handle, KeepsOthers.unchanged, KeepsTo]
  exact forall_congr' fun _ => imp_congr_left mem_shown_listSsoMappings

theorem upsertTenant_keeps_iff {request : TenantRequest} :
    KeepsOthers tenant catalog
        (handle server catalog (.upsertTenant request)) ↔
      KeepsTo tenant server (.upsertTenant request) catalog := by
  rw [handle, upsertTenant_eq, KeepsTo]
  cases checked : checkConnection server.moment request.upsert with
  | error message =>
      refine iff_of_true ?_ ?_
      · exact KeepsOthers.unchanged.mpr (fun _ shown => nomatch shown)
      · rintro _ ⟨-, passed, -⟩
        rw [checked] at passed
        cases passed
  | ok value =>
      constructor
      · rintro keeps _ ⟨rfl, -, read | new⟩
        · have shown := keeps.shown request.account
          rw [read] at shown
          exact shown (List.mem_singleton.mpr rfl)
        · by_contra foreign
          exact new ((keeps.connections (written request catalog)
            foreign).mp (Keyed.mem_put.mpr (Or.inl rfl)))
      · intro touched
        refine ⟨?_, fun _ _ => Iff.rfl, ?_⟩
        · intro connection foreign
          by_cases held : written request catalog ∈ catalog.connections.rows
          · exact Keyed.mem_put_of_mem held
          · have own : request.account = tenant :=
              touched _ ⟨rfl, checked, Or.inr held⟩
            refine Keyed.mem_put_of_ne fun same => foreign ?_
            exact (congrArg Prod.fst same).trans own
        · intro accountId shown
          cases faulty : server.moment.fault .getConnection with
          | some message =>
              rw [faulty] at shown
              cases shown
          | none =>
              rw [faulty] at shown
              exact touched accountId
                ⟨(List.mem_singleton.mp shown).symm, checked, Or.inl faulty⟩

/-- An insert adds the mapping at most. -/
theorem insertMapping_spec (mapping : RedactedIdpRoleMapping)
    (catalog : SsoCatalog) :
    (∃ after, insertMapping mapping catalog = .ok after ∧
      Insertable mapping catalog ∧
        after.connections = catalog.connections ∧
          ∀ other, other.accountId ≠ mapping.accountId →
            (other ∈ after.mappings.rows ↔
              other ∈ catalog.mappings.rows)) ∨
      ∃ message, insertMapping mapping catalog = .error message ∧
        ¬ Insertable mapping catalog := by
  unfold insertMapping Insertable
  split_ifs with held taken unknown
  · refine Or.inl ⟨catalog, rfl, Or.inl ?_, rfl, fun _ _ => Iff.rfl⟩
    simpa using held
  · refine Or.inr ⟨_, rfl, ?_⟩
    rintro (same | ⟨absent, -⟩)
    · exact held (by simpa using same)
    · rw [absent] at taken
      cases taken
  · refine Or.inr ⟨_, rfl, ?_⟩
    rintro (same | ⟨-, known⟩)
    · exact held (by simpa using same)
    · exact known (Option.isNone_iff_eq_none.mp unknown)
  · refine Or.inl ⟨_, rfl, Or.inr ⟨?_, ?_⟩, rfl, ?_⟩
    · exact Option.not_isSome_iff_eq_none.mp taken
    · exact fun absent => unknown (Option.isNone_iff_eq_none.mpr absent)
    · intro other foreign
      have fresh := Keyed.find_eq_none.mp
        (Option.not_isSome_iff_eq_none.mp taken)
      rw [Keyed.mem_put]
      constructor
      · rintro (rfl | ⟨member, -⟩)
        · exact absurd rfl foreign
        · exact member
      · intro member
        exact Or.inr ⟨member, fresh other member⟩

theorem createSsoMapping_keeps_iff {tenantId : String}
    {request : SsoMappingRequest} :
    KeepsOthers tenant catalog
        (handle server catalog (.createSsoMapping tenantId request)) ↔
      KeepsTo tenant server (.createSsoMapping tenantId request) catalog := by
  rw [handle, createSsoMapping, upsertIdpRoleMapping, KeepsTo]
  cases checked : checkMapping server.moment (request.mapping tenantId) with
  | error message =>
      refine iff_of_true ?_ ?_
      · exact KeepsOthers.unchanged.mpr (fun _ shown => nomatch shown)
      · rintro _ ⟨-, passed, -⟩
        rw [checked] at passed
        cases passed
  | ok value =>
      rcases insertMapping_spec (request.mapping tenantId) catalog with
        ⟨after, inserted, insertable, connections, others⟩ |
        ⟨message, refused, blocked⟩
      · dsimp only
        rw [inserted]
        constructor
        · rintro keeps _ ⟨rfl, -, -⟩
          exact keeps.shown tenantId (List.mem_singleton.mpr rfl)
        · intro touched
          have own : tenantId = tenant :=
            touched tenantId ⟨rfl, checked, insertable⟩
          refine ⟨?_, ?_, ?_⟩
          · intro connection _
            dsimp only
            rw [connections]
          · intro mapping foreign
            refine others mapping fun same => foreign ?_
            exact same.trans own
          · intro accountId shown
            exact (List.mem_singleton.mp shown).trans own
      · dsimp only
        rw [refused]
        refine iff_of_true ?_ ?_
        · exact KeepsOthers.unchanged.mpr (fun _ shown => nomatch shown)
        · rintro _ ⟨-, -, insertable⟩
          exact absurd insertable blocked

theorem isNamed_iff {accountId mappingId : String}
    {mapping : RedactedIdpRoleMapping} :
    isNamed accountId mappingId mapping = true ↔
      mapping.accountId = accountId ∧ mapping.id = mappingId := by
  simp [isNamed]

theorem deleteSsoMapping_keeps_iff {tenantId mappingId : String} :
    KeepsOthers tenant catalog
        (handle server catalog (.deleteSsoMapping tenantId mappingId)) ↔
      KeepsTo tenant server (.deleteSsoMapping tenantId mappingId)
        catalog := by
  rw [handle, deleteSsoMapping, deleteIdpRoleMapping, KeepsTo]
  cases checked : checkDelete server.moment tenantId with
  | error message =>
      refine iff_of_true ?_ ?_
      · exact KeepsOthers.unchanged.mpr (fun _ shown => nomatch shown)
      · rintro _ ⟨-, passed, -⟩
        rw [checked] at passed
        cases passed
  | ok value =>
      constructor
      · rintro keeps _ ⟨rfl, -, mapping, member, own, named⟩
        by_contra foreign
        have kept := (keeps.mappings mapping
          (fun same => foreign (own.symm.trans same))).mpr member
        have spared := (Keyed.mem_keep.mp kept).2
        rw [isNamed_iff.mpr ⟨own, named⟩] at spared
        cases spared
      · intro touched
        refine ⟨fun _ _ => Iff.rfl, ?_, (fun _ shown => nomatch shown)⟩
        intro mapping foreign
        refine Keyed.mem_keep.trans (and_iff_left_of_imp fun member => ?_)
        cases named : isNamed tenantId mappingId mapping with
        | false => rfl
        | true =>
            obtain ⟨own, isIt⟩ := isNamed_iff.mp named
            exact absurd (own.trans (touched tenantId
              ⟨rfl, checked, mapping, member, own, isIt⟩)) foreign

end Handlers

/-- An admin's request is isolated exactly if it touches no other account. -/
theorem sso_isolated_iff {server : SsoServer} {actor : AuthContext}
    {request : SsoRequest} {catalog : SsoCatalog}
    (admin : actor.authorize [] ["policy.admin"]) :
    SsoIsolated server actor request catalog ↔
      KeepsTo actor.tenantId server request catalog := by
  rw [SsoIsolated, ssoServe, if_pos admin]
  cases request with
  | listTenants => exact listTenants_keeps_iff
  | upsertTenant request => exact upsertTenant_keeps_iff
  | listSsoMappings tenantId => exact listSsoMappings_keeps_iff
  | createSsoMapping tenantId request => exact createSsoMapping_keeps_iff
  | deleteSsoMapping tenantId mappingId => exact deleteSsoMapping_keeps_iff

/-! ### An administrator of one account -/

def quiet : SsoServer where
  moment := ⟨fun _ => none, fun _ _ _ _ => none⟩
  defaultAccountId := none

/-- An administrator of `acme`, without a scope that breaks glass. -/
def acmeAdmin : AuthContext :=
  ⟨7, "ada", "ACCOUNTADMIN", "acme", ["sql.query"]⟩

/-- The account `globex` logs in at its own issuer. -/
def globexLogin : SsoCatalog where
  connections := Keyed.empty.put
    ⟨"globex", "okta", .oidc, true, "https://globex.example", "snow", none,
      ["globex.example"], "openid email profile"⟩
  mappings := Keyed.empty

/-- The administrator names his own issuer for an account. -/
def pointAt (accountId : String) : SsoRequest :=
  .upsertTenant
    { accountId := some accountId
      slug := "okta"
      name := "ada@acme.example"
      ssoEnabled := none
      protocol := none
      oidcIssuer := some "https://acme.example"
      oidcClientId := some "snow"
      oidcClientSecret := none
      oidcClientSecretHandle := none
      allowedDomains := none }

theorem sso_isolated_acme :
    SsoIsolated quiet acmeAdmin (pointAt "acme") globexLogin := by
  refine (sso_isolated_iff (by decide)).mpr ?_
  rintro _ ⟨rfl, -, -⟩
  rfl

/-- The login of `globex` is pointed at the issuer of `acme`. -/
theorem sso_isolated_fails :
    acmeAdmin.authorize [] ["policy.admin"] = true ∧
      acmeAdmin.hasExplicitScope "break_glass.admin" = false ∧
        ¬ SsoIsolated quiet acmeAdmin (pointAt "globex") globexLogin := by
  refine ⟨by decide, by decide, fun isolated => ?_⟩
  have shown := isolated.shown "globex"
  revert shown
  decide

end OpenSnow.Server.SsoAdmin
