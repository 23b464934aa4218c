import OpenSnow.Server.StopDecisions

/-!
# The expiry of service clients

A service client is created with the text of an expiry, which no handler
reads.  Every check parses it again, and a text that does not parse is no
expiry.  The text stays with the client through everything that happens to the
registry and to the catalog.
-/

namespace OpenSnow.Server

open Catalog.ControlPlane
open Foundation
open Server.ControlPlane
open Server.Scim

/-! ## The expiry of a client -/

/-- The id and the expiry of a client that a request asks for. -/
def ControlPlane.Request.expiring : Request → Option (String × String)
  | .createWorkspaceServiceClient _ request =>
      request.expiresAt.map fun text => (request.clientId, text)
  | .createServiceClient request =>
      request.expiresAt.map fun text => (request.clientId, text)
  | _ => none

/-- The catalog has the client with this expiry, and the registry no other. -/
structure Dated (clientId text : String) (services : ServiceState) : Prop where
  client : ∀ client, services.clients clientId = some client →
    client.expiresAt = some text
  record : ∃ record, services.identities.find clientId = some record ∧
    record.expiresAt = some text

variable {client : RegisteredClient}

theorem fromDurable_expiresAt {record : ServiceIdentityClient}
    (known : RegisteredClient.fromDurable record = some client) :
    client.expiresAt = record.expiresAt := by
  obtain ⟨status, -, rfl⟩ := Option.map_eq_some_iff.mp known
  rfl

/-- A client whose expiry is read and has come is expired. -/
theorem isExpired_of_read {clock : Clock}
    {text : String} {time : Int} (dated : client.expiresAt = some text)
    (isRead : clock.parseRfc3339 text = some time)
    (passed : time ≤ clock.now) : client.isExpired clock = true := by
  rw [RegisteredClient.isExpired, dated, Option.bind_some, isRead]
  exact decide_eq_true passed

/-- A text that is not read is no expiry. -/
theorem not_isExpired_of_unread {clock : Clock}
    {text : String} (dated : client.expiresAt = some text)
    (unread : clock.parseRfc3339 text = none) :
    client.isExpired clock = false := by
  rw [RegisteredClient.isExpired, dated, Option.bind_some, unread]
  rfl

/-! ## What keeps the expiry -/

section Services

variable {clientId text : String} {services : ServiceState}
  {record : ServiceIdentityClient}

theorem Dated.store (dated : Dated clientId text services)
    (same : record.id = clientId → record.expiresAt = some text)
    (entry : Administered) :
    Dated clientId text (services.store record entry) where
  client := dated.client
  record := by
    change ∃ found, (services.identities.put record).find clientId = _ ∧ _
    rw [Keyed.find_put]
    split_ifs with isClient
    · exact ⟨record, rfl, same isClient⟩
    · exact dated.record

/-- Copying a record into the registry gives the client its expiry. -/
theorem dated_insert {clients : ClientRegistry}
    (dated : ∀ client, clients clientId = some client →
      client.expiresAt = some text)
    (same : record.id = clientId → record.expiresAt = some text)
    {client : RegisteredClient}
    (known : RegisteredClient.fromDurable record = some client) :
    ∀ held, clients.insert record.id client clientId = some held →
      held.expiresAt = some text := by
  intro held isHeld
  by_cases isClient : record.id = clientId
  · rw [isClient, ClientRegistry.insert_self] at isHeld
    cases isHeld
    rw [fromDurable_expiresAt known, same isClient]
  · rw [ClientRegistry.insert_of_ne fun isSame => isClient isSame.symm]
      at isHeld
    exact dated held isHeld

section

variable (dated : Dated clientId text services)

include dated

theorem Dated.register
    (same : record.id = clientId → record.expiresAt = some text) :
    Dated clientId text (services.register record) := by
  unfold ServiceState.register
  cases known : RegisteredClient.fromDurable record with
  | none => exact dated
  | some client =>
      exact ⟨dated_insert dated.client same known, dated.record⟩

/-- An identity that exists is not created again. -/
theorem Dated.issue
    (deployment : Deployment) (input : ServiceIdentityClientInput) :
    Dated clientId text (services.issue deployment input) := by
  unfold ServiceState.issue
  cases attempt deployment .createIdentity 400 with
  | error failure => exact dated
  | ok value =>
  dsimp only
  split_ifs with taken
  · exact dated
  · have other : (input.record deployment.now).id ≠ clientId := by
      rintro rfl
      obtain ⟨held, isHeld, -⟩ := dated.record
      exact taken (Option.isSome_iff_exists.mpr ⟨held, isHeld⟩)
    exact (dated.store (fun same => absurd same other) _).register
      fun same => absurd same other

theorem Dated.change
    (deployment : Deployment) (op : CatalogOp) (changed : String)
    {update : ServiceIdentityClient → ServiceIdentityClient}
    (keeps : ∀ record, (update record).id = record.id ∧
      (update record).expiresAt = record.expiresAt)
    (noted : ServiceIdentityClient → Administered) :
    Dated clientId text
      (services.change deployment op changed update noted) := by
  unfold ServiceState.change
  cases attempt deployment op 404 with
  | error failure => exact dated
  | ok value =>
  cases found : services.identities.find changed with
  | none => exact dated
  | some record =>
      have same : (update record).id = clientId →
          (update record).expiresAt = some text := by
        intro isClient
        obtain ⟨held, isHeld, isText⟩ := dated.record
        rw [(keeps record).1, Keyed.key_of_find found] at isClient
        subst isClient
        rw [found] at isHeld
        cases isHeld
        rw [(keeps record).2, isText]
      have stored := dated.store same (noted (update record))
      dsimp only
      cases attempt deployment .getIdentity 500 with
      | error failure => exact stored
      | ok value => exact stored.register same

end

/-- No request to the control plane changes the expiry of a client. -/
theorem Dated.serve {state : ControlState}
    (dated : Dated clientId text state.services) (deployment : Deployment)
    (actor : AuthContext) (request : Request) :
    Dated clientId text
      (serve deployment actor request state).2.services := by
  rw [serve_services]
  rcases servicesAfter_cases deployment actor state request with
    same | ⟨input, issued⟩ | listed | ⟨changed, clientSecret, rotated⟩ |
    ⟨changed, reason, revoked⟩
  · rw [same]
    exact dated
  · rw [issued]
    exact dated.issue _ _
  · rw [listed]
    obtain ⟨identities, clients⟩ := state.services.list_same deployment
    exact ⟨clients ▸ dated.client, identities ▸ dated.record⟩
  · rw [rotated]
    refine dated.change _ _ _ ?_ _
    exact fun _ => ⟨rfl, rfl⟩
  · rw [revoked]
    refine dated.change _ _ _ ?_ _
    exact fun _ => ⟨rfl, rfl⟩

theorem not_grants_same : ¬ Grants services services clientId := by
  rintro ⟨new, entries, entry, member, -⟩
  rw [List.self_eq_append_left.mp entries] at member
  cases member

/-- A client that is created has the expiry it was asked for, and is active. -/
theorem dated_of_issued {deployment : Deployment}
    {input : ServiceIdentityClientInput}
    (expires : input.expiresAt = some text)
    (created : Grants services (services.issue deployment input) clientId) :
    Dated clientId text (services.issue deployment input) ∧
      ∃ client, (services.issue deployment input).clients clientId =
          some client ∧
        client.status = .active := by
  unfold ServiceState.issue at created ⊢
  cases faulty : attempt deployment .createIdentity 400 with
  | error failure =>
      rw [faulty] at created
      exact absurd created not_grants_same
  | ok value =>
  rw [faulty] at created
  dsimp only at created ⊢
  split_ifs at created ⊢ with taken
  · exact absurd created not_grants_same
  · obtain ⟨new, entries, entry, member, grants⟩ := created
    have isNew : [.registered (input.record deployment.now),
        .created (input.record deployment.now)] = new :=
      (List.append_left_inj services.administered).mp entries
    subst isNew
    have isClient : input.id = clientId := by
      rcases List.mem_pair.mp member with rfl | rfl
      · cases grants
      · exact Option.some.inj grants
    subst isClient
    refine ⟨⟨?_, ?_⟩, _, ClientRegistry.insert_self _ _ _, rfl⟩
    · intro held isHeld
      cases (ClientRegistry.insert_self _ _ _).symm.trans isHeld
      exact expires
    · refine ⟨input.record deployment.now, ?_, expires⟩
      change (services.identities.put _).find input.id = _
      rw [Keyed.find_put]
      exact if_pos rfl

/-- What a request that created the client leaves. -/
theorem dated_of_created {deployment : Deployment} {actor : AuthContext}
    {request : Request} {state : ControlState}
    (expiring : request.expiring = some (clientId, text))
    (created : Grants state.services
      (serve deployment actor request state).2.services clientId) :
    Dated clientId text (serve deployment actor request state).2.services ∧
      ∃ client,
        (serve deployment actor request state).2.services.clients clientId =
            some client ∧
          client.status = .active := by
  rw [serve_services] at created ⊢
  unfold servicesAfter whenOk at created ⊢
  cases admitted : requireAdminScope actor with
  | error failure =>
      rw [admitted] at created
      exact absurd created not_grants_same
  | ok value =>
  rw [admitted] at created
  dsimp only at created ⊢
  cases request with
  | createWorkspaceServiceClient workspaceId request =>
      obtain ⟨isText, expires, isSame⟩ := Option.map_eq_some_iff.mp expiring
      cases isSame
      dsimp only [handledServices, whenOk] at created ⊢
      cases owned : workspaceOf deployment actor state.resources
          workspaceId with
      | error failure =>
          rw [owned] at created
          exact absurd created not_grants_same
      | ok workspace =>
          rw [owned] at created
          exact dated_of_issued expires created
  | createServiceClient request =>
      obtain ⟨isText, expires, isSame⟩ := Option.map_eq_some_iff.mp expiring
      cases isSame
      dsimp only [handledServices, whenOk] at created ⊢
      cases available : requireServiceCatalog deployment with
      | error failure =>
          rw [available] at created
          exact absurd created not_grants_same
      | ok value =>
          rw [available] at created
          exact dated_of_issued expires created
  | _ => cases expiring

end Services

/-! ### Bearers and tokens -/

section Bearers

variable {clientId text : String}

theorem refreshClient_keeps_dated (deployment : Deployment)
    (username : String) :
    Effect.Keeps (fun state => Dated clientId text state.services)
      (refreshClient deployment username) := by
  refine Effect.Keeps.of_after fun before dated => ?_
  rcases refreshClient_after deployment username before with
    same | ⟨record, client, found, known, after⟩
  · rw [same]
    exact dated
  · rw [after]
    have same : record.id = clientId → record.expiresAt = some text := by
      rintro rfl
      obtain ⟨held, isHeld, isText⟩ := dated.record
      have own := Keyed.find_of_mem (Keyed.mem_of_find found)
      cases own.symm.trans isHeld
      exact isText
    exact ⟨dated_insert dated.client same known, dated.record⟩

/-- A refresh from a catalog that has the client registers it. -/
theorem refreshClient_registers {deployment : Deployment}
    (configured : deployment.catalog ≠ .ok false) :
    Effect.Triple (fun state => Dated clientId text state.services)
      (refreshClient deployment clientId)
      (fun _ state => Dated clientId text state.services ∧
        ∃ client, state.clients clientId = some client)
      fun _ state => Dated clientId text state.services := by
  intro before dated
  have kept := refreshClient_keeps_dated deployment clientId before dated
  unfold refreshClient at kept ⊢
  cases catalog : deployment.catalog with
  | error message => exact dated
  | ok isConfigured =>
  cases isConfigured with
  | false => exact absurd catalog configured
  | true =>
  simp only [catalog] at kept
  cases fault : deployment.fault .getIdentity with
  | some message => exact dated
  | none =>
  obtain ⟨record, found, isText⟩ := dated.record
  change before.identities.find clientId = some record at found
  simp only [fault, ClientRegistry.refreshDurableClient, found,
    ClientRegistry.registerDurableClient] at kept ⊢
  cases known : RegisteredClient.fromDurable record with
  | none => exact dated
  | some client =>
      rw [known] at kept
      have isClient := Keyed.key_of_find found
      subst isClient
      exact ⟨kept, client, ClientRegistry.insert_self _ _ _⟩

theorem authorizeBearer_keeps_dated (clock : Clock) (claims : Claims) :
    Effect.Keeps (fun state => Dated clientId text state.services)
      (authorizeBearer clock claims) := by
  refine Effect.Keeps.of_after fun before dated => ?_
  rcases authorizeBearer_after clock claims before with
    same | ⟨client, registered, -, after⟩
  · rw [same]
    exact dated
  · rw [after]
    refine ⟨fun held isHeld => ?_, dated.record⟩
    by_cases same : clientId = claims.username
    · subst same
      cases (ClientRegistry.insert_self _ _ _).symm.trans isHeld
      exact dated.client client registered
    · exact dated.client held
        ((ClientRegistry.insert_of_ne same).symm.trans isHeld)

variable {claims : Claims}

/-- The bearer of a registered client whose expiry has come is refused. -/
theorem authorizeBearer_expired {clock : Clock}
    {time : Int} (own : claims.username = clientId)
    (isRead : clock.parseRfc3339 text = some time)
    (passed : time ≤ clock.now) :
    Effect.Triple
      (fun state => Dated clientId text state.services ∧
        ∃ client, state.clients clientId = some client)
      (authorizeBearer clock claims) (fun _ _ => False)
      fun _ state => Dated clientId text state.services := by
  rintro before ⟨dated, client, registered⟩
  have expired := isExpired_of_read (dated.client client registered) isRead
    passed
  unfold authorizeBearer ClientRegistry.authorizeBearerClient
  rw [own, registered]
  dsimp only
  split_ifs
  · exact dated
  · exact dated

theorem jwtRequired_keeps_dated (moment : Moment) (claims : Claims)
    (accountHeaders : List String) :
    Effect.Keeps (fun state => Dated clientId text state.services)
      (jwtRequired moment claims accountHeaders) :=
  jwtRequired_keeps (fun _ => refreshClient_keeps_dated _ _)
    (fun _ => authorizeBearer_keeps_dated _ _) accountHeaders

theorem jwtRequired_expired {moment : Moment} {time : Int}
    (own : claims.username = clientId) (isClient : isOidc claims = false)
    (configured : moment.deployment.catalog ≠ .ok false)
    (isRead : moment.clock.parseRfc3339 text = some time)
    (passed : time ≤ moment.clock.now) (accountHeaders : List String) :
    Effect.Triple (fun state => Dated clientId text state.services)
      (jwtRequired moment claims accountHeaders) (fun _ _ => False)
      fun _ state => Dated clientId text state.services := by
  refine Effect.Triple.stop ?_
  unfold checkBearer
  rw [isClient, own]
  exact Effect.Triple.bind
    (Effect.Triple.mapFailure (refreshClient_registers configured)) fun _ =>
      Effect.Triple.mapFailure (authorizeBearer_expired own isRead passed)

theorem pgwire_keeps_dated (moment : Moment) (startupUser : String)
    (startupDatabase : Option String) (claims : Claims) :
    Effect.Keeps (fun state => Dated clientId text state.services)
      (authenticatePgwireBearer moment startupUser startupDatabase
        claims) :=
  pgwire_keeps (fun _ => refreshClient_keeps_dated _ _)
    (fun _ => authorizeBearer_keeps_dated _ _) startupUser startupDatabase

theorem pgwire_expired {moment : Moment} {time : Int}
    (own : claims.username = clientId) (isClient : isOidc claims = false)
    (configured : moment.deployment.catalog ≠ .ok false)
    (isRead : moment.clock.parseRfc3339 text = some time)
    (passed : time ≤ moment.clock.now) (startupUser : String)
    (startupDatabase : Option String) :
    Effect.Triple (fun state => Dated clientId text state.services)
      (authenticatePgwireBearer moment startupUser startupDatabase claims)
      (fun _ _ => False) fun _ state => Dated clientId text state.services := by
  refine Effect.Triple.bind Effect.Keeps.look fun _ =>
    Effect.Triple.stop ?_
  unfold checkPgwireBearer
  rw [isClient, own]
  exact Effect.Triple.bind (refreshClient_registers configured) fun _ =>
    Effect.Triple.mapFailure (authorizeBearer_expired own isRead passed)

/-- The use of a client does not touch its expiry. -/
theorem markUsed_keeps_dated (deployment : Deployment) (used : String) :
    Effect.Keeps (fun state => Dated clientId text state.services)
      (markUsed deployment used) := by
  intro before dated
  unfold markUsed
  cases deployment.catalog with
  | error message => exact dated
  | ok configured =>
  cases configured with
  | false => exact dated
  | true =>
  cases attempt deployment .getIdentity 500 with
  | error failure => exact dated
  | ok value =>
  dsimp only
  split_ifs with known
  · cases attempt deployment .markIdentityUsed 500 with
    | error failure => exact dated
    | ok value =>
        obtain ⟨held, isHeld⟩ := Option.isSome_iff_exists.mp known
        refine ⟨dated.client, ?_⟩
        change ∃ record,
          (markServiceIdentityUsed before.identities deployment.now used).find
            clientId = some record ∧ _
        rw [markServiceIdentityUsed, updateServiceIdentity, isHeld,
          Option.map_some, Option.getD_some, Keyed.find_put]
        split_ifs with same
        · refine ⟨_, rfl, ?_⟩
          obtain ⟨record, found, isText⟩ := dated.record
          have own : used = clientId :=
            (Keyed.key_of_find isHeld).symm.trans same
          change before.identities.find clientId = some record at found
          rw [← own, isHeld] at found
          cases found
          exact isText
        · exact dated.record
  · exact dated

theorem tokenEndpoint_keeps_dated (moment : Moment) (request : TokenRequest) :
    Effect.Keeps (fun state => Dated clientId text state.services)
      (tokenEndpoint moment request) := by
  refine Effect.Keeps.look.bind fun client =>
    (markUsed_keeps_dated _ _).bind fun _ => ?_
  cases moment.signingError with
  | none => exact Effect.Keeps.pure
  | some message => exact Effect.Keeps.fail

/-- A client whose expiry has come gets no token. -/
theorem Dated.no_token {moment : Moment} {request : TokenRequest}
    {state after : ControlState} {time : Int}
    (dated : Dated request.clientId text state.services)
    (isRead : moment.clock.parseRfc3339 text = some time)
    (passed : time ≤ moment.clock.now) :
    tokenEndpoint moment request state ≠ (.ok claims, after) := by
  intro issued
  obtain ⟨client, _, found, -⟩ := Effect.of_bind_ok issued
  obtain ⟨admitted, -⟩ := Effect.of_look_ok found
  unfold tokenClient at admitted
  split_ifs at admitted
  split at admitted
  · cases admitted
  · rename_i authenticated
    rw [ClientRegistry.authenticateClient, Option.filter_eq_some_iff]
      at authenticated
    obtain ⟨registered, verified⟩ := authenticated
    have expired := isExpired_of_read (dated.client _ registered) isRead
      passed
    rw [RegisteredClient.verifySecret, expired] at verified
    simp at verified

end Bearers

/-! ### The other operations -/

section Operations

variable {clientId text : String}

theorem changeStatus_keeps_dated (changed : String) (status : ClientStatus)
    (reason : String) :
    Effect.Keeps (fun state => Dated clientId text state.services)
      (changeStatus changed status reason) := by
  intro before dated
  unfold changeStatus ClientRegistry.setStatus
  cases registered : before.clients changed with
  | none => exact dated
  | some client =>
      refine ⟨?_, dated.record⟩
      intro held isHeld
      by_cases same : clientId = changed
      · subst same
        cases (ClientRegistry.insert_self _ _ _).symm.trans isHeld
        exact dated.client client registered
      · exact dated.client held
          ((ClientRegistry.insert_of_ne same).symm.trans isHeld)

theorem evaluationServe_keeps_dated {moment : EvaluationMoment}
    {actor : AuthContext} {request : EvaluationRequest}
    (others : ∀ email, request = .register email →
      moment.clientId ≠ clientId) :
    Effect.Keeps (fun state => Dated clientId text state.services)
      (evaluationServe moment actor request) := by
  cases request with
  | register email =>
      refine Effect.Keeps.bind (Effect.Keeps.modify fun state dated => ?_)
        fun _ => Effect.Keeps.pure
      refine ⟨?_, dated.record⟩
      intro held isHeld
      exact dated.client held
        ((ClientRegistry.insert_of_ne (others email rfl).symm).symm.trans
          isHeld)
  | suspend changed reason =>
      exact Effect.Keeps.look.bind fun _ => Effect.Keeps.bind
        (changeStatus_keeps_dated _ _ _) fun _ => Effect.Keeps.pure
  | revoke changed reason =>
      exact Effect.Keeps.look.bind fun _ => Effect.Keeps.bind
        (changeStatus_keeps_dated _ _ _) fun _ => Effect.Keeps.pure

/-- A client that a SCIM route revokes keeps its expiry. -/
theorem stopIn_dated {clients : ClientRegistry} {name : Option String}
    (dated : ∀ client, clients clientId = some client →
      client.expiresAt = some text) :
    ∀ client, stopIn clients name clientId = some client →
      client.expiresAt = some text := by
  intro client isClient
  unfold stopIn at isClient
  split_ifs at isClient
  · obtain ⟨held, isHeld, rfl⟩ := Option.map_eq_some_iff.mp isClient
    exact dated held isHeld
  · exact dated client isClient

/-- The configuration registers the clients that it names, and no others. -/
theorem configuredClients_other {deployment : Deployment} :
    ∀ {entries : List ClientConfigEntry} {registry : ClientRegistry},
      (∀ entry ∈ entries, entry.clientId ≠ clientId) →
        registry clientId = none →
          entries.foldl
            (fun registry entry =>
              registry.registerWithMetadata entry.clientId
                (deployment.hashSecret entry.secret) entry.role
                entry.tenantId entry.scopes)
            registry clientId = none
  | [], _, _, absent => absent
  | entry :: rest, registry, others, absent => by
      rw [List.forall_mem_cons] at others
      rw [List.foldl_cons]
      refine configuredClients_other others.2 ?_
      rw [ClientRegistry.registerWithMetadata,
        ClientRegistry.insert_of_ne others.1.symm, absent]

/-- Loading records gives the client the expiry of its record. -/
theorem loadDurableClients_dated :
    ∀ {records : List ServiceIdentityClient} {registry : ClientRegistry},
      (∀ record ∈ records, record.id = clientId →
        record.expiresAt = some text) →
      (∀ client, registry clientId = some client →
        client.expiresAt = some text) →
      ∀ client, (registry.loadDurableClients records).2 clientId =
          some client →
        client.expiresAt = some text
  | [], _, _, dated => dated
  | record :: rest, registry, same, dated => by
      rw [List.forall_mem_cons] at same
      unfold ClientRegistry.loadDurableClients
        ClientRegistry.registerDurableClient
      cases known : RegisteredClient.fromDurable record with
      | none => exact dated
      | some client =>
          exact loadDurableClients_dated same.2
            (dated_insert dated same.1 known)

theorem restart_dated {deployment : Deployment} {identities : IdentityTable}
    {entries : List ClientConfigEntry}
    (others : ∀ entry ∈ entries, entry.clientId ≠ clientId)
    (record : ∃ record, identities.find clientId = some record ∧
      record.expiresAt = some text) :
    ∀ client,
      (loadFromCatalog deployment identities
          (configuredClients deployment entries)).2 clientId = some client →
        client.expiresAt = some text := by
  have configured : ∀ client,
      configuredClients deployment entries clientId = some client →
        client.expiresAt = some text := by
    intro client isClient
    cases (configuredClients_other others rfl).symm.trans isClient
  have same : ∀ listed ∈ listServiceIdentityClients identities none,
      listed.id = clientId → listed.expiresAt = some text := by
    rintro listed member rfl
    obtain ⟨held, isHeld, isText⟩ := record
    have row : listed ∈ identities.rows := List.mem_mergeSort.mp member
    have own : identities.find listed.id = some listed :=
      Keyed.find_of_mem row
    rw [isHeld] at own
    cases own
    exact isText
  unfold loadFromCatalog
  split
  · exact configured
  · exact configured
  · split
    · exact configured
    · exact loadDurableClients_dated same configured

end Operations

/-! ## Steps and runs -/

/--
The id stays with the client, the catalog stays configured, and times are read
in one way.
-/
def AuthCall.Leaves (parseRfc3339 : String → Option Int) (clientId : String) :
    AuthCall → Prop
  | .operation (.evaluation moment _ (.register _)) =>
      moment.clientId ≠ clientId
  | .operation (.restart _ entries) =>
      ∀ entry ∈ entries, entry.clientId ≠ clientId
  | .operation (.token moment _) => moment.clock.parseRfc3339 = parseRfc3339
  | .http moment _ _ =>
      moment.clock.parseRfc3339 = parseRfc3339 ∧
        moment.deployment.catalog ≠ .ok false
  | .pgwire moment _ _ _ =>
      moment.clock.parseRfc3339 = parseRfc3339 ∧
        moment.deployment.catalog ≠ .ok false
  | _ => True

/-- The time at which a call asks for admission. -/
def AuthCall.now : AuthCall → Option Int
  | .operation (.token moment _) => some moment.clock.now
  | .http moment _ _ => some moment.clock.now
  | .pgwire moment _ _ _ => some moment.clock.now
  | _ => none

variable {parseRfc3339 : String → Option Int} {clientId text : String}
  {state : AuthState}

theorem Dated.perform {call : AuthCall}
    (dated : Dated clientId text state.control.services)
    (leaves : call.Leaves parseRfc3339 clientId) :
    Dated clientId text (call.perform state).control.services := by
  cases call with
  | operation action =>
      cases action with
      | control deployment actor request =>
          exact dated.serve deployment actor request
      | evaluation moment actor request =>
          refine (evaluationServe_keeps_dated ?_).after dated
          rintro email rfl
          exact leaves
      | scim call =>
          obtain ⟨name, clients⟩ := scimServe_clients call state.scimServer
          refine ⟨?_, dated.record⟩
          change ∀ client,
            (scimServe call state.scimServer).2.clients clientId =
              some client → _
          rw [clients]
          exact stopIn_dated dated.client
      | token moment request =>
          exact (tokenEndpoint_keeps_dated moment request).after dated
      | restart deployment entries =>
          exact ⟨restart_dated leaves dated.record, dated.record⟩
  | http moment claims accountHeaders =>
      exact (jwtRequired_keeps_dated moment claims accountHeaders).after
        dated
  | pgwire moment startupUser startupDatabase claims =>
      exact (pgwire_keeps_dated moment startupUser startupDatabase
        claims).after dated

/-- From the time that is read the client is not admitted. -/
theorem Dated.not_admitted {call : AuthCall}
    {time : Int} (dated : Dated clientId text state.control.services)
    (leaves : call.Leaves parseRfc3339 clientId)
    (isRead : parseRfc3339 text = some time)
    (passed : ∀ now, call.now = some now → time ≤ now) :
    ¬ call.Admits clientId state := by
  cases call with
  | operation action =>
      cases action with
      | token moment request =>
          rintro ⟨rfl, claims, after, issued⟩
          refine dated.no_token ?_ (passed _ rfl) issued
          exact (congrFun leaves text).trans isRead
      | control deployment actor request => exact id
      | evaluation moment actor request => exact id
      | scim call => exact id
      | restart deployment entries => exact id
  | http moment claims accountHeaders =>
      rintro ⟨own, isClient, context, after, admitted⟩
      have isReadHere := (congrFun leaves.1 text).trans isRead
      exact (jwtRequired_expired own isClient leaves.2 isReadHere
        (passed _ rfl) accountHeaders).fails dated admitted
  | pgwire moment startupUser startupDatabase claims =>
      rintro ⟨own, isClient, context, after, admitted⟩
      have isReadHere := (congrFun leaves.1 text).trans isRead
      exact (pgwire_expired own isClient leaves.2 isReadHere (passed _ rfl)
        startupUser startupDatabase).fails dated admitted

/-- Whatever happens, the client is not admitted from a time on. -/
def ShutFrom (parseRfc3339 : String → Option Int) (clientId : String)
    (start : AuthState) (time : Int) : Prop :=
  ∀ calls,
    Along AuthCall.perform (fun _ => AuthCall.Leaves parseRfc3339 clientId)
        start calls →
      ∀ call : AuthCall, call.Leaves parseRfc3339 clientId →
        (∀ now, call.now = some now → time ≤ now) →
          ¬ call.Admits clientId (calls.foldl AuthCall.perform start)

/--
The expiry shuts the client out from the time that its text denotes, and from
some time in any case.
-/
def ExpiryFailsClosed (parseRfc3339 denotes : String → Option Int)
    (clientId text : String) (start : AuthState) : Prop :=
  (∀ time, denotes text = some time →
      ShutFrom parseRfc3339 clientId start time) ∧
    ∃ time, ShutFrom parseRfc3339 clientId start time

/-- Without faults the use of a client is noted. -/
theorem markUsed_calm (clientId : String) (state : ControlState) :
    ∃ after, markUsed calm clientId state = (.ok (), after) := by
  change ∃ after,
    (if (state.identities.find clientId).isSome then _ else _) =
      (Except.ok (), after)
  split_ifs
  · exact ⟨_, rfl⟩
  · exact ⟨_, rfl⟩

/-- A calm moment at which every secret fits. -/
def fittingMoment (parseRfc3339 : String → Option Int) (now : Int) :
    Moment where
  deployment := calm
  clock := ⟨now, parseRfc3339⟩
  verify := fun _ _ => true
  sessionError := fun _ => none
  signingError := none

/-- A request for a token of the client. -/
def tokenCall (parseRfc3339 : String → Option Int) (clientId : String)
    (now : Int) : AuthCall :=
  .operation (.token (fittingMoment parseRfc3339 now)
    ⟨"client_credentials", clientId, ""⟩)

/-- An active client whose expiry is not read gets a token at any time. -/
theorem admits_of_unread (dated : Dated clientId text state.control.services)
    (registered : state.control.services.clients clientId = some client)
    (active : client.status = .active) (unread : parseRfc3339 text = none)
    (now : Int) :
    (tokenCall parseRfc3339 clientId now).Admits clientId state := by
  refine ⟨rfl, clientClaims clientId client, ?_⟩
  have current : client.isExpired ⟨now, parseRfc3339⟩ = false :=
    not_isExpired_of_unread (dated.client client registered) unread
  have verified : client.verifySecret (fun _ _ => true)
      ⟨now, parseRfc3339⟩ "" = true := by
    rw [RegisteredClient.verifySecret, current, active]
    rfl
  have isClient : tokenClient (fittingMoment parseRfc3339 now)
      ⟨"client_credentials", clientId, ""⟩ state.control.clients =
        .ok client := by
    change state.control.clients clientId = some client at registered
    unfold tokenClient
    rw [if_neg fun differs => differs rfl]
    dsimp only [fittingMoment]
    rw [ClientRegistry.authenticateClient, registered, Option.filter_some,
      if_pos verified]
  obtain ⟨after, marked⟩ := markUsed_calm clientId state.control
  refine ⟨after, ?_⟩
  unfold tokenEndpoint
  rw [Effect.look_bind, isClient]
  exact Effect.bind_ok marked

/-- A client whose expiry is not read is never shut out. -/
theorem not_shutFrom_of_unread
    (dated : Dated clientId text state.control.services)
    (registered : state.control.services.clients clientId = some client)
    (active : client.status = .active) (unread : parseRfc3339 text = none)
    (time : Int) : ¬ ShutFrom parseRfc3339 clientId state time := by
  intro shut
  refine shut [] trivial (tokenCall parseRfc3339 clientId time) rfl ?_
    (admits_of_unread dated registered active unread time)
  intro now isNow
  exact (Option.some.inj isNow).le

/--
A client that a create handler has made with an expiry is shut out, whatever
happens, exactly when the text of the expiry is read as an RFC 3339 time.
-/
theorem expiryFailsClosed_iff {parseRfc3339 denotes : String → Option Int}
    (reads : ∀ text time, parseRfc3339 text = some time →
      denotes text = some time)
    {deployment : Deployment} {actor : AuthContext} {request : Request}
    {start : AuthState} {clientId text : String}
    (expiring : request.expiring = some (clientId, text))
    (created : Grants start.control.services
      (serve deployment actor request start.control).2.services clientId) :
    ExpiryFailsClosed parseRfc3339 denotes clientId text
        (AuthCall.perform start
          (.operation (.control deployment actor request))) ↔
      (parseRfc3339 text).isSome := by
  obtain ⟨dated, client, registered, active⟩ :=
    dated_of_created expiring created
  constructor
  · rintro ⟨-, time, shut⟩
    rw [Option.isSome_iff_ne_none]
    intro unread
    exact not_shutFrom_of_unread dated registered active unread time shut
  · intro isRead
    obtain ⟨time, isTime⟩ := Option.isSome_iff_exists.mp isRead
    have shut : ShutFrom parseRfc3339 clientId
        (AuthCall.perform start
          (.operation (.control deployment actor request))) time := by
      intro calls leaves call leavesCall passed
      have keeps : ∀ (state : AuthState) (call : AuthCall),
          Dated clientId text state.control.services →
            call.Leaves parseRfc3339 clientId →
              Dated clientId text (call.perform state).control.services :=
        fun _ _ dated leaves => dated.perform leaves
      have kept := leaves.invariant keeps dated
      exact kept.not_admitted leavesCall isTime passed
    refine ⟨?_, time, shut⟩
    intro denoted isDenoted
    rw [reads text time isTime] at isDenoted
    cases isDenoted
    exact shut

/-! ## Two texts of one day -/

/-- RFC 3339 on a time and on a date, which is none. -/
def newYear : String → Option Int := fun text =>
  if text = "2026-01-01T00:00:00Z" then some 1767225600000 else none

/-- What an operator means by the two texts. -/
def newYearMeant : String → Option Int := fun text =>
  if text = "2026-01-01T00:00:00Z" ∨ text = "2026-01-01" then
    some 1767225600000
  else none

/-- The loader is created with the text of an expiry. -/
def expiringLoader (text : String) : Request :=
  .createServiceClient
    { clientId := "loader", accountId := "acme", workspaceId := none
      role := "ANALYST", scopes := [], expiresAt := some text
      clientSecret := some "s3cret" }

theorem expiringLoader_created (text : String) :
    Grants AuthState.fresh.control.services
      (serve calm (accountAdmin "acme") (expiringLoader text)
        AuthState.fresh.control).2.services "loader" :=
  ⟨[.registered _, .created _], rfl, .created _,
    List.mem_cons_of_mem _ (List.mem_singleton_self _), rfl⟩

/-- A client that should expire on a date never does. -/
theorem expiry_dateOnly_open :
    ¬ ExpiryFailsClosed newYear newYearMeant "loader" "2026-01-01"
      (AuthCall.perform .fresh (.operation
        (.control calm (accountAdmin "acme")
          (expiringLoader "2026-01-01")))) := by
  rintro ⟨-, time, shut⟩
  obtain ⟨dated, client, registered, active⟩ :=
    dated_of_created rfl (expiringLoader_created "2026-01-01")
  have unread : newYear "2026-01-01" = none := by decide
  exact not_shutFrom_of_unread dated registered active unread time shut

theorem expiryFailsClosed_iff_newYear :
    ExpiryFailsClosed newYear newYearMeant "loader" "2026-01-01T00:00:00Z"
        (AuthCall.perform .fresh (.operation
          (.control calm (accountAdmin "acme")
            (expiringLoader "2026-01-01T00:00:00Z")))) ↔
      (newYear "2026-01-01T00:00:00Z").isSome := by
  refine expiryFailsClosed_iff ?_ rfl (expiringLoader_created _)
  intro text time isRead
  unfold newYear at isRead
  split_ifs at isRead with isTime
  rw [newYearMeant, if_pos (Or.inl isTime)]
  exact isRead

end OpenSnow.Server
