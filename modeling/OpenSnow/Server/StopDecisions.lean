import OpenSnow.Server.AuthState
import OpenSnow.Server.Authority
import OpenSnow.Server.ScimIsolation

/-!
# Stop decisions

A client is kept twice, in the registry and in the catalog, and every bearer
request copies the catalog's record over the registry.  A stopped client stays
out as long as neither of the two has it as active.
-/

namespace OpenSnow.Server

open Catalog.ControlPlane
open Foundation
open Server.ControlPlane
open Server.Scim

/-! ## What is done to a client -/

/-- New entries say that the client was created or rotated. -/
def Grants (before after : ServiceState) (clientId : String) : Prop :=
  ∃ new, after.administered = new ++ before.administered ∧
    ∃ entry ∈ new, entry.grants = some clientId

/-- An operator registers, creates or rotates the client. -/
def AuthCall.Renews (clientId : String) (state : AuthState) :
    AuthCall → Prop
  | .operation (.control deployment actor request) =>
      Grants state.control.services
        (serve deployment actor request state.control).2.services clientId
  | .operation (.evaluation moment _ (.register _)) =>
      moment.clientId = clientId
  | _ => False

/-- A decision to stop the client, which is answered with success. -/
def AuthCall.Stops (clientId : String) (state : AuthState) :
    AuthCall → Prop
  | .operation (.control deployment actor
      (.revokeServiceClient stopped reason)) =>
      stopped = clientId ∧
        ∃ reply after,
          serve deployment actor (.revokeServiceClient stopped reason)
            state.control = (.ok reply, after)
  | .operation (.evaluation moment actor (.suspend stopped reason)) =>
      stopped = clientId ∧
        ∃ reply after,
          evaluationServe moment actor (.suspend stopped reason)
            state.control = (.ok reply, after)
  | .operation (.evaluation moment actor (.revoke stopped reason)) =>
      stopped = clientId ∧
        ∃ reply after,
          evaluationServe moment actor (.revoke stopped reason)
            state.control = (.ok reply, after)
  | .operation (.scim call) =>
      ∃ accountId,
        scimAccountFromHeaders call.checking call.verify call.headers
            state.scim = .ok accountId ∧
          stoppedName call.acting accountId state.scim call.request =
            some clientId
  | _ => False

/-- A token is issued to the client, or one of its tokens is accepted. -/
def AuthCall.Admits (clientId : String) (state : AuthState) :
    AuthCall → Prop
  | .operation (.token moment request) =>
      request.clientId = clientId ∧
        ∃ claims after,
          tokenEndpoint moment request state.control = (.ok claims, after)
  | .http moment claims accountHeaders =>
      claims.username = clientId ∧ isOidc claims = false ∧
        ∃ context after,
          jwtRequired moment claims accountHeaders state.control =
            (.ok context, after)
  | .pgwire moment startupUser startupDatabase claims =>
      claims.username = clientId ∧ isOidc claims = false ∧
        ∃ context after,
          authenticatePgwireBearer moment startupUser startupDatabase claims
            state.control = (.ok context, after)
  | _ => False

/-! ## When a decision sticks -/

/-- The registry has the client, and not as active. -/
def IsStopped (clientId : String) (clients : ClientRegistry) : Prop :=
  ∃ client, clients clientId = some client ∧ client.status ≠ .active

/-- The catalog does not have the client as active. -/
def NoActiveRecord (clientId : String) (identities : IdentityTable) : Prop :=
  ∀ record, identities.find clientId = some record →
    record.status ≠ "active"

/-- The records that a start registers: those before an unknown status. -/
def loadedRecords (identities : IdentityTable) :
    List ServiceIdentityClient :=
  (listServiceIdentityClients identities none).takeWhile fun record =>
    (RegisteredClient.statusOf record.status).isSome

/-- A start finds the client stopped in the catalog. -/
def FindsStopped (clientId : String) (deployment : Deployment)
    (identities : IdentityTable) : Prop :=
  deployment.catalog = .ok true ∧ deployment.fault .listIdentities = none ∧
    ∃ record ∈ loadedRecords identities,
      record.id = clientId ∧ record.status ≠ "active"

/--
The condition on a step.  The evaluation and the SCIM routes stop a client in
the registry only, so the catalog must not have it as active; the SCIM routes
succeed without a client in the registry; and a start forgets the registry.
-/
def AuthCall.Sticks (clientId : String) (state : AuthState)
    (call : AuthCall) : Prop :=
  match call with
  | .operation (.evaluation _ _ _) =>
      call.Stops clientId state →
        NoActiveRecord clientId state.control.identities
  | .operation (.scim _) =>
      call.Stops clientId state →
        NoActiveRecord clientId state.control.identities ∧
          (state.control.clients clientId).isSome
  | .operation (.restart deployment _) =>
      IsStopped clientId state.control.clients →
        FindsStopped clientId deployment state.control.identities
  | _ => True

/-! ## Halted clients -/

/-- Neither the registry nor the catalog has the client as active. -/
structure Halted (clientId : String) (services : ServiceState) : Prop where
  client : IsStopped clientId services.clients
  record : NoActiveRecord clientId services.identities

theorem fromDurable_inactive {record : ServiceIdentityClient}
    {client : RegisteredClient}
    (known : RegisteredClient.fromDurable record = some client)
    (inactive : record.status ≠ "active") : client.status ≠ .active := by
  obtain ⟨status, isStatus, rfl⟩ := Option.map_eq_some_iff.mp known
  rintro rfl
  unfold RegisteredClient.statusOf at isStatus
  split at isStatus
  · exact inactive ‹_›
  · cases isStatus
  · cases isStatus
  · cases isStatus

section Services

variable {clientId : String} {services : ServiceState}
  {record : ServiceIdentityClient}

theorem Halted.store (halted : Halted clientId services)
    (inactive : record.id = clientId → record.status ≠ "active")
    (entry : Administered) : Halted clientId (services.store record entry) where
  client := halted.client
  record := by
    intro found isFound
    change (services.identities.put record).find clientId = _ at isFound
    rw [Keyed.find_put] at isFound
    split_ifs at isFound with same
    · cases isFound
      exact inactive same
    · exact halted.record found isFound

theorem Halted.register (halted : Halted clientId services)
    (inactive : record.id = clientId → record.status ≠ "active") :
    Halted clientId (services.register record) := by
  unfold ServiceState.register
  cases known : RegisteredClient.fromDurable record with
  | none => exact halted
  | some client =>
      refine ⟨?_, halted.record⟩
      by_cases same : record.id = clientId
      · subst same
        exact ⟨client, ClientRegistry.insert_self _ _ _,
          fromDurable_inactive known (inactive rfl)⟩
      · obtain ⟨held, isHeld, stopped⟩ := halted.client
        exact ⟨held, (ClientRegistry.insert_of_ne fun isSame =>
          same isSame.symm).trans isHeld, stopped⟩

variable {deployment : Deployment}

theorem Halted.issue (halted : Halted clientId services)
    {input : ServiceIdentityClientInput}
    (renewed : ¬ Grants services (services.issue deployment input)
      clientId) :
    Halted clientId (services.issue deployment input) := by
  unfold ServiceState.issue at renewed ⊢
  cases faulty : attempt deployment .createIdentity 400 with
  | error failure => exact halted
  | ok value =>
  rw [faulty] at renewed
  dsimp only at renewed ⊢
  split_ifs at renewed ⊢ with taken
  · exact halted
  · have other : (input.record deployment.now).id ≠ clientId := by
      rintro isClient
      refine renewed ⟨[.registered (input.record deployment.now),
        .created (input.record deployment.now)], rfl,
        .created (input.record deployment.now), by simp, ?_⟩
      exact congrArg some isClient
    exact (halted.store (fun same => absurd same other) _).register
      fun same => absurd same other

variable {update : ServiceIdentityClient → ServiceIdentityClient}

theorem Halted.change (halted : Halted clientId services)
    {op : CatalogOp} {changed : String}
    {noted : ServiceIdentityClient → Administered}
    (inactive : ∀ record, attempt deployment op 404 = .ok () →
      services.identities.find changed = some record →
      (update record).id = clientId → (update record).status ≠ "active") :
    Halted clientId
      (services.change deployment op changed update noted) := by
  unfold ServiceState.change
  cases faulty : attempt deployment op 404 with
  | error failure => exact halted
  | ok value =>
  cases found : services.identities.find changed with
  | none => exact halted
  | some record =>
      have stored := halted.store (inactive record faulty found)
        (noted (update record))
      dsimp only
      cases attempt deployment .getIdentity 500 with
      | error failure => exact stored
      | ok value => exact stored.register (inactive record faulty found)

/-- A rotation that finds its record is noted. -/
theorem grants_change {op : CatalogOp} {changed : String}
    (passes : attempt deployment op 404 = .ok ())
    (found : services.identities.find changed = some record) :
    Grants services
      (services.change deployment op changed update .secretSet)
      (update record).id := by
  unfold ServiceState.change
  rw [passes, found]
  dsimp only
  have stored : Grants services
      (services.store (update record) (.secretSet (update record)))
      (update record).id :=
    ⟨[.secretSet (update record)], rfl, _, List.mem_singleton_self _, rfl⟩
  cases attempt deployment .getIdentity 500 with
  | error failure => exact stored
  | ok value =>
  unfold ServiceState.register
  cases RegisteredClient.fromDurable (update record) with
  | none => exact stored
  | some client =>
      exact ⟨[.registered (update record), .secretSet (update record)], rfl,
        .secretSet (update record), by simp, rfl⟩

end Services

variable {clientId : String} {deployment : Deployment}

/-- A request that does not create or rotate the client leaves it halted. -/
theorem Halted.serve
    {actor : AuthContext} {request : Request} {state : ControlState}
    (halted : Halted clientId state.services)
    (renewed : ¬ Grants state.services
      (serve deployment actor request state).2.services clientId) :
    Halted clientId (serve deployment actor request state).2.services := by
  rw [serve_services] at renewed ⊢
  rcases servicesAfter_cases deployment actor state request with
    same | ⟨input, issued⟩ | listed | ⟨changed, clientSecret, rotated⟩ |
    ⟨changed, reason, revoked⟩
  · rw [same]
    exact halted
  · rw [issued] at renewed ⊢
    exact halted.issue renewed
  · rw [listed]
    obtain ⟨identities, clients⟩ := state.services.list_same deployment
    exact ⟨clients ▸ halted.client, identities ▸ halted.record⟩
  · rw [rotated] at renewed ⊢
    refine halted.change fun record passes found isClient => ?_
    exact absurd (isClient ▸ grants_change passes found) renewed
  · rw [revoked]
    exact halted.change fun _ _ _ _ isActive =>
      absurd isActive (show "revoked" ≠ "active" by decide)

/-! ### Bearers and tokens -/

section Bearers

variable {clientId : String}

theorem refreshClient_keeps_halted (deployment : Deployment)
    (username : String) :
    Effect.Keeps (fun state => Halted clientId state.services)
      (refreshClient deployment username) := by
  refine Effect.Keeps.of_after fun before halted => ?_
  rcases refreshClient_after deployment username before with
    same | ⟨record, client, found, known, after⟩
  · rw [same]
    exact halted
  · rw [after]
    refine ⟨?_, halted.record⟩
    by_cases same : record.id = clientId
    · have inactive := halted.record record
        (same ▸ Keyed.find_of_mem (Keyed.mem_of_find found))
      subst same
      exact ⟨client, ClientRegistry.insert_self _ _ _,
        fromDurable_inactive known inactive⟩
    · obtain ⟨held, isHeld, stopped⟩ := halted.client
      exact ⟨held, (ClientRegistry.insert_of_ne fun isSame =>
        same isSame.symm).trans isHeld, stopped⟩

theorem authorizeBearer_keeps_halted (clock : Clock) (claims : Claims) :
    Effect.Keeps (fun state => Halted clientId state.services)
      (authorizeBearer clock claims) := by
  refine Effect.Keeps.of_after fun before halted => ?_
  rcases authorizeBearer_after clock claims before with
    same | ⟨client, registered, active, after⟩
  · rw [same]
    exact halted
  · rw [after]
    refine ⟨?_, halted.record⟩
    obtain ⟨held, isHeld, stopped⟩ := halted.client
    by_cases same : clientId = claims.username
    · subst same
      cases registered.symm.trans isHeld
      exact absurd active stopped
    · exact ⟨held, (ClientRegistry.insert_of_ne same).trans isHeld, stopped⟩

variable {claims : Claims}

/-- A bearer of a halted client is refused. -/
theorem authorizeBearer_refuses (clock : Clock)
    (own : claims.username = clientId) :
    Effect.Triple (fun state => Halted clientId state.services)
      (authorizeBearer clock claims) (fun _ _ => False)
      fun _ state => Halted clientId state.services := by
  intro before halted
  obtain ⟨held, isHeld, stopped⟩ := halted.client
  change before.clients clientId = some held at isHeld
  unfold authorizeBearer ClientRegistry.authorizeBearerClient
  rw [own, isHeld]
  dsimp only
  rw [if_pos stopped]
  exact halted

variable (moment : Moment)

theorem jwtRequired_keeps_halted (claims : Claims)
    (accountHeaders : List String) :
    Effect.Keeps (fun state => Halted clientId state.services)
      (jwtRequired moment claims accountHeaders) :=
  jwtRequired_keeps (fun _ => refreshClient_keeps_halted _ _)
    (fun _ => authorizeBearer_keeps_halted _ _) accountHeaders

theorem jwtRequired_refuses
    (own : claims.username = clientId) (isClient : isOidc claims = false)
    (accountHeaders : List String) :
    Effect.Triple (fun state => Halted clientId state.services)
      (jwtRequired moment claims accountHeaders) (fun _ _ => False)
      fun _ state => Halted clientId state.services := by
  refine Effect.Triple.stop ?_
  unfold checkBearer
  rw [isClient]
  exact Effect.Triple.bind
    (Effect.Triple.mapFailure (refreshClient_keeps_halted _ _)) fun _ =>
      Effect.Triple.mapFailure (authorizeBearer_refuses _ own)

theorem pgwire_keeps_halted (startupUser : String)
    (startupDatabase : Option String) (claims : Claims) :
    Effect.Keeps (fun state => Halted clientId state.services)
      (authenticatePgwireBearer moment startupUser startupDatabase
        claims) :=
  pgwire_keeps (fun _ => refreshClient_keeps_halted _ _)
    (fun _ => authorizeBearer_keeps_halted _ _) startupUser startupDatabase

theorem pgwire_refuses
    (own : claims.username = clientId) (isClient : isOidc claims = false)
    (startupUser : String) (startupDatabase : Option String) :
    Effect.Triple (fun state => Halted clientId state.services)
      (authenticatePgwireBearer moment startupUser startupDatabase claims)
      (fun _ _ => False) fun _ state => Halted clientId state.services := by
  refine Effect.Triple.bind Effect.Keeps.look fun _ =>
    Effect.Triple.stop ?_
  unfold checkPgwireBearer
  rw [isClient]
  exact Effect.Triple.bind (refreshClient_keeps_halted _ _) fun _ =>
    Effect.Triple.mapFailure (authorizeBearer_refuses _ own)

/-- The use of a client does not touch its status. -/
theorem halted_of_onlyUsed {before after : ControlState}
    (used : OnlyUsed before after)
    (halted : Halted clientId before.services) :
    Halted clientId after.services := by
  constructor
  · change IsStopped clientId after.clients
    rw [used.clients]
    exact halted.client
  · intro record found
    obtain ⟨held, isHeld, rfl | ⟨now, rfl⟩⟩ :=
      used.identities clientId record found
    · exact halted.record _ isHeld
    · exact halted.record held isHeld

theorem Halted.no_token {moment : Moment} {request : TokenRequest}
    {state after : ControlState}
    (halted : Halted request.clientId state.services) :
    tokenEndpoint moment request state ≠ (.ok claims, after) := by
  intro issued
  obtain ⟨client, registered, active, -⟩ := tokenEndpoint_ok issued
  obtain ⟨held, isHeld, stopped⟩ := halted.client
  rw [show state.services.clients = state.clients from rfl, registered]
    at isHeld
  cases isHeld
  exact stopped active

end Bearers

variable {state : AuthState}

/-- A halted client is not admitted. -/
theorem Halted.not_admitted
    (halted : Halted clientId state.control.services) (call : AuthCall) :
    ¬ call.Admits clientId state := by
  cases call with
  | operation action =>
      cases action with
      | token moment request =>
          rintro ⟨rfl, claims, after, issued⟩
          exact halted.no_token issued
      | control deployment actor request => exact id
      | evaluation moment actor request => exact id
      | scim call => exact id
      | restart deployment entries => exact id
  | http moment claims accountHeaders =>
      rintro ⟨own, isClient, context, after, admitted⟩
      exact (jwtRequired_refuses moment own isClient accountHeaders).fails
        halted admitted
  | pgwire moment startupUser startupDatabase claims =>
      rintro ⟨own, isClient, context, after, admitted⟩
      exact (pgwire_refuses moment own isClient startupUser
        startupDatabase).fails halted admitted

/-! ### The other operations -/

section Operations

variable {clientId : String}

/-- A changed status is not active. -/
theorem changeStatus_keeps_halted {changed : String} {status : ClientStatus}
    (inactive : status ≠ .active) (reason : String) :
    Effect.Keeps (fun state => Halted clientId state.services)
      (changeStatus changed status reason) := by
  intro before halted
  unfold changeStatus ClientRegistry.setStatus
  cases registered : before.clients changed with
  | none => exact halted
  | some client =>
      refine ⟨?_, halted.record⟩
      obtain ⟨held, isHeld, stopped⟩ := halted.client
      by_cases same : clientId = changed
      · subst same
        exact ⟨_, ClientRegistry.insert_self _ _ _, inactive⟩
      · exact ⟨held, (ClientRegistry.insert_of_ne same).trans isHeld,
          stopped⟩

/-- A changed status halts a client that the catalog does not activate. -/
theorem changeStatus_halts {status : ClientStatus}
    (inactive : status ≠ .active) (reason : String) :
    Effect.Triple
      (fun state => NoActiveRecord clientId state.identities)
      (changeStatus clientId status reason)
      (fun _ state => Halted clientId state.services)
      fun _ state => NoActiveRecord clientId state.identities := by
  intro before record
  unfold changeStatus ClientRegistry.setStatus
  cases registered : before.clients clientId with
  | none => exact record
  | some client =>
      exact ⟨⟨_, ClientRegistry.insert_self _ _ _, inactive⟩, record⟩

theorem evaluationServe_halts {request : EvaluationRequest}
    {reason : Option String} (stops : request = .suspend clientId reason ∨
      request = .revoke clientId reason)
    (moment : EvaluationMoment) (actor : AuthContext) :
    Effect.Triple
      (fun state => NoActiveRecord clientId state.identities)
      (evaluationServe moment actor request)
      (fun _ state => Halted clientId state.services)
      fun _ state => NoActiveRecord clientId state.identities := by
  rcases stops with rfl | rfl
  all_goals exact
    Effect.Triple.bind Effect.Keeps.look fun _ =>
      Effect.Triple.bind (changeStatus_halts (by decide) _) fun _ =>
        Effect.Triple.pure fun _ halted => halted

theorem evaluationServe_keeps_halted {moment : EvaluationMoment}
    {actor : AuthContext} {request : EvaluationRequest}
    (others : ∀ email, request = .register email →
      moment.clientId ≠ clientId) :
    Effect.Keeps (fun state => Halted clientId state.services)
      (evaluationServe moment actor request) := by
  cases request with
  | register email =>
      refine Effect.Keeps.bind (Effect.Keeps.modify fun state halted => ?_)
        fun _ => Effect.Keeps.pure
      obtain ⟨held, isHeld, stopped⟩ := halted.client
      exact ⟨⟨held, (ClientRegistry.insert_of_ne
        (others email rfl).symm).trans isHeld, stopped⟩, halted.record⟩
  | suspend changed reason =>
      exact Effect.Keeps.look.bind fun _ => Effect.Keeps.bind
        (changeStatus_keeps_halted (by decide) _) fun _ => Effect.Keeps.pure
  | revoke changed reason =>
      exact Effect.Keeps.look.bind fun _ => Effect.Keeps.bind
        (changeStatus_keeps_halted (by decide) _) fun _ => Effect.Keeps.pure

/-- The SCIM routes only ever revoke clients. -/
theorem scimServe_clients (call : ScimCall) (server : ScimServer) :
    ∃ name, (scimServe call server).2.clients =
      stopIn server.clients name := by
  unfold scimServe
  split
  · exact ⟨none, rfl⟩
  · exact ⟨_, ScimServer.clients_handle _ _ _ _⟩

theorem stopIn_isStopped {clients : ClientRegistry} {name : Option String}
    (stopped : IsStopped clientId clients) :
    IsStopped clientId (stopIn clients name) := by
  obtain ⟨held, isHeld, inactive⟩ := stopped
  unfold IsStopped stopIn
  split_ifs
  · rw [isHeld]
    exact ⟨_, rfl, fun isActive => nomatch isActive⟩
  · exact ⟨held, isHeld, inactive⟩

theorem stopIn_halts {clients : ClientRegistry}
    (registered : (clients clientId).isSome) :
    IsStopped clientId (stopIn clients (some clientId)) := by
  obtain ⟨held, isHeld⟩ := Option.isSome_iff_exists.mp registered
  unfold IsStopped stopIn
  rw [if_pos rfl, isHeld]
  exact ⟨_, rfl, fun isActive => nomatch isActive⟩

/-! ### Starts -/

/-- Records with other ids leave a client as it is. -/
theorem loadDurableClients_other {records : List ServiceIdentityClient}
    (others : ∀ record ∈ records, record.id ≠ clientId) :
    ∀ registry : ClientRegistry,
      (registry.loadDurableClients records).2 clientId =
        registry clientId := by
  induction records with
  | nil => exact fun _ => rfl
  | cons record rest ih =>
      intro registry
      rw [List.forall_mem_cons] at others
      unfold ClientRegistry.loadDurableClients
        ClientRegistry.registerDurableClient
      cases RegisteredClient.fromDurable record with
      | none => rfl
      | some client =>
          dsimp only
          rw [ih others.2]
          exact ClientRegistry.insert_of_ne others.1.symm

theorem fromDurable_isSome_iff {record : ServiceIdentityClient} :
    (RegisteredClient.fromDurable record).isSome ↔
      (RegisteredClient.statusOf record.status).isSome := by
  rw [RegisteredClient.fromDurable, Option.isSome_map]

/-- The client of a record that is reached. -/
theorem loadDurableClients_reached {record : ServiceIdentityClient} :
    ∀ {records : List ServiceIdentityClient},
      (records.map (·.id)).Nodup →
      (record ∈ records.takeWhile fun record =>
        (RegisteredClient.statusOf record.status).isSome) →
      ∀ registry : ClientRegistry,
        (registry.loadDurableClients records).2 record.id =
          RegisteredClient.fromDurable record := by
  intro records
  induction records with
  | nil => exact fun _ reached => nomatch reached
  | cons first rest ih =>
      intro distinct reached registry
      rw [List.map_cons, List.nodup_cons] at distinct
      rw [List.takeWhile_cons] at reached
      split_ifs at reached with known
      · obtain ⟨client, isClient⟩ := Option.isSome_iff_exists.mp
          (fromDurable_isSome_iff.mpr known)
        unfold ClientRegistry.loadDurableClients
          ClientRegistry.registerDurableClient
        rw [isClient]
        rcases List.mem_cons.mp reached with rfl | later
        · have others : ∀ other ∈ rest, other.id ≠ record.id :=
            fun other member same =>
              distinct.1 (same.symm ▸ List.mem_map_of_mem member)
          rw [isClient, loadDurableClients_other others]
          exact ClientRegistry.insert_self _ _ _
        · exact ih distinct.2 later _
      · cases reached

theorem listed_distinct (identities : IdentityTable) :
    ((listServiceIdentityClients identities none).map (·.id)).Nodup :=
  ((List.mergeSort_perm _ _).map _).nodup_iff.mpr identities.distinct

theorem restart_isStopped {deployment : Deployment}
    {identities : IdentityTable}
    (finds : FindsStopped clientId deployment identities)
    (registry : ClientRegistry) :
    IsStopped clientId
      (loadFromCatalog deployment identities registry).2 := by
  obtain ⟨opens, noFault, record, reached, rfl, inactive⟩ := finds
  unfold loadFromCatalog
  simp only [opens, noFault]
  have known := List.mem_takeWhile_imp reached
  obtain ⟨client, isClient⟩ := Option.isSome_iff_exists.mp
    (fromDurable_isSome_iff.mpr known)
  refine ⟨client, ?_, fromDurable_inactive isClient inactive⟩
  rw [← isClient]
  exact loadDurableClients_reached (listed_distinct identities) reached
    registry

end Operations

/-! ## Steps and runs -/

/-- A step that does not renew the client leaves it halted. -/
theorem Halted.perform
    {call : AuthCall} (halted : Halted clientId state.control.services)
    (sticks : call.Sticks clientId state)
    (renewed : ¬ call.Renews clientId state) :
    Halted clientId (call.perform state).control.services := by
  cases call with
  | operation action =>
      cases action with
      | control deployment actor request => exact halted.serve renewed
      | evaluation moment actor request =>
          refine (evaluationServe_keeps_halted ?_).after halted
          rintro email rfl isClient
          exact renewed isClient
      | scim call =>
          obtain ⟨name, clients⟩ := scimServe_clients call state.scimServer
          refine ⟨?_, halted.record⟩
          change IsStopped clientId
            (scimServe call state.scimServer).2.clients
          rw [clients]
          exact stopIn_isStopped halted.client
      | token moment request =>
          exact halted_of_onlyUsed
            (tokenEndpoint_onlyUsed moment request state.control) halted
      | restart deployment entries =>
          exact ⟨restart_isStopped (sticks halted.client) _, halted.record⟩
  | http moment claims accountHeaders =>
      exact (jwtRequired_keeps_halted moment claims accountHeaders).after
        halted
  | pgwire moment startupUser startupDatabase claims =>
      exact (pgwire_keeps_halted moment startupUser startupDatabase
        claims).after halted

/-- A revoked identity is in the catalog. -/
theorem revokeIdentity_ok {clientId reason : String}
    {state after : ControlState}
    (changed : revokeIdentity deployment clientId reason state =
      (.ok (), after)) :
    ∃ record, after.identities.find clientId = some record ∧
      record.status = "revoked" := by
  unfold revokeIdentity changeIdentity at changed
  split at changed
  · cases changed
  split at changed
  · cases changed
  · rename_i record found
    cases changed
    have isClient : record.id = clientId := Keyed.key_of_find found
    refine ⟨record.revoked deployment.now reason, ?_, rfl⟩
    change (state.identities.put _).find clientId = _
    rw [Keyed.find_put, if_pos]
    exact isClient

/-- The record of the catalog halts its client when it is registered. -/
theorem registerRecord_halts
    {record : ServiceIdentityClient} {before after : ControlState}
    (found : before.identities.find clientId = some record)
    (revoked : record.status = "revoked")
    (registered : registerRecord record before = (.ok (), after)) :
    Halted clientId after.services := by
  have isClient := Keyed.key_of_find found
  have inactive : record.status ≠ "active" := by
    rw [revoked]
    decide
  unfold registerRecord ClientRegistry.registerDurableClient at registered
  cases known : RegisteredClient.fromDurable record with
  | none =>
      rw [known] at registered
      cases registered
  | some client =>
      rw [known] at registered
      cases registered
      subst isClient
      refine ⟨⟨client, ClientRegistry.insert_self _ _ _,
        fromDurable_inactive known inactive⟩, ?_⟩
      intro other isOther
      change before.identities.find record.id = _ at isOther
      rw [found] at isOther
      cases isOther
      exact inactive

/-- A revocation that succeeds is written to the catalog and the registry. -/
theorem revokeServiceClient_halts
    {actor : AuthContext} {reason : Option String}
    {state after : ControlState} {reply : Reply}
    (served : serve deployment actor (.revokeServiceClient clientId reason)
      state = (.ok reply, after)) :
    Halted clientId after.services := by
  obtain ⟨_, _, admitted, handled⟩ := Effect.of_bind_ok served
  obtain ⟨_, _, available, handled⟩ := Effect.of_bind_ok handled
  obtain ⟨_, middle, changed, handled⟩ := Effect.of_bind_ok handled
  obtain ⟨found, _, looked, handled⟩ := Effect.of_bind_ok handled
  obtain ⟨readBack, rfl⟩ := Effect.of_look_ok looked
  obtain ⟨record, held, revoked⟩ := revokeIdentity_ok changed
  cases fault : attempt deployment .getIdentity 500 with
  | error failure =>
      rw [fault] at readBack
      cases readBack
  | ok value =>
      rw [fault, held] at readBack
      cases readBack
      obtain ⟨_, _, registered, replied⟩ := Effect.of_bind_ok handled
      cases replied
      exact registerRecord_halts held revoked registered

/-- A decision that meets its condition halts the client. -/
theorem AuthCall.Stops.halts
    {call : AuthCall} (stops : call.Stops clientId state)
    (sticks : call.Sticks clientId state) :
    Halted clientId (call.perform state).control.services := by
  cases call with
  | operation action =>
      cases action with
      | control deployment actor request =>
          cases request with
          | revokeServiceClient stopped reason =>
              obtain ⟨rfl, reply, after, served⟩ := stops
              change Halted stopped (serve deployment actor
                (.revokeServiceClient stopped reason) state.control).2.services
              rw [served]
              exact revokeServiceClient_halts served
          | _ => exact stops.elim
      | evaluation moment actor request =>
          have record := sticks stops
          cases request with
          | register email => exact stops.elim
          | suspend stopped reason =>
              obtain ⟨rfl, reply, after, served⟩ := stops
              change Halted stopped (evaluationServe moment actor
                (.suspend stopped reason) state.control).2.services
              rw [served]
              exact (evaluationServe_halts (.inl rfl) moment actor).of_ok record
                served
          | revoke stopped reason =>
              obtain ⟨rfl, reply, after, served⟩ := stops
              change Halted stopped (evaluationServe moment actor
                (.revoke stopped reason) state.control).2.services
              rw [served]
              exact (evaluationServe_halts (.inr rfl) moment actor).of_ok record
                served
      | scim call =>
          obtain ⟨record, registered⟩ := sticks stops
          obtain ⟨accountId, authenticated, stopped⟩ := stops
          refine ⟨?_, record⟩
          change IsStopped clientId
            (scimServe call state.scimServer).2.clients
          unfold scimServe
          rw [show state.scimServer.directory = state.scim from rfl,
            authenticated]
          dsimp only
          rw [ScimServer.clients_handle]
          change IsStopped clientId (stopIn state.control.clients
            (stoppedName call.acting accountId state.scim call.request))
          rw [stopped]
          exact stopIn_halts registered
      | token moment request => exact stops.elim
      | restart deployment entries => exact stops.elim
  | http moment claims accountHeaders => exact stops.elim
  | pgwire moment startupUser startupDatabase claims => exact stops.elim

/--
Once a decision to stop the client has succeeded, and as long as nobody renews
the client, it is not admitted.
-/
def DecisionsStick (clientId : String) (start : AuthState)
    (calls : List AuthCall) : Prop :=
  ∀ earlier stop later, calls = earlier ++ stop :: later →
    stop.Stops clientId (earlier.foldl AuthCall.perform start) →
    Along AuthCall.perform (fun state call => ¬ call.Renews clientId state)
      (stop.perform (earlier.foldl AuthCall.perform start)) later →
    ∀ call, ¬ AuthCall.Admits clientId
      (calls.foldl AuthCall.perform start) call

/-- In a run whose steps all meet the condition, decisions stick. -/
theorem decisions_stick {clientId : String} {start : AuthState}
    {calls : List AuthCall}
    (sticks : Along AuthCall.perform (AuthCall.Sticks clientId) start calls) :
    DecisionsStick clientId start calls := by
  rintro earlier stop later rfl stops unrenewed call
  obtain ⟨-, sticksStop, sticksLater⟩ := along_append.mp sticks
  have kept : ∀ (state : AuthState) (call : AuthCall),
      Halted clientId state.control.services →
      call.Sticks clientId state ∧ ¬ call.Renews clientId state →
      Halted clientId (call.perform state).control.services :=
    fun _ _ halted meets => halted.perform meets.1 meets.2
  have halted := (sticksLater.and unrenewed).invariant kept
    (stops.halts sticksStop)
  rw [List.foldl_append, List.foldl_cons]
  exact halted.not_admitted call

/-! ### Two clients -/

def evalMoment : EvaluationMoment := ⟨10, calm.hashSecret, some 5⟩

/-- The claims of a token of the evaluation client. -/
def evalClaims : Claims where
  userId := 0
  username := "eval-a"
  role := "EVALUATION"
  tenantId := "eval-tenant-a"
  scopes := ["sql.query", "table.select"]
  sessionId := none
  authMethod := some "client_credentials"

/-- Somebody registers, and an administrator suspends the account. -/
def suspendedEvaluation : List AuthCall :=
  [.operation (.evaluation evalMoment analyst (.register none)),
    .operation (.evaluation evalMoment (accountAdmin "acme")
      (.suspend "eval-a" none))]

/-- A suspended evaluation account is shut out with the tokens it has. -/
theorem decisions_stick_evaluation :
    ¬ (AuthCall.http calmMoment evalClaims []).Admits "eval-a"
      (suspendedEvaluation.foldl AuthCall.perform .fresh) := by
  have sticks : Along AuthCall.perform (AuthCall.Sticks "eval-a") .fresh
      suspendedEvaluation := by
    refine ⟨fun stops => stops.elim, fun _ record found => ?_, trivial⟩
    change Keyed.empty.find "eval-a" = some record at found
    rw [Keyed.find_empty] at found
    cases found
  refine decisions_stick sticks [_] _ [] rfl ⟨rfl, ?_⟩ trivial _
  exact ⟨.changed "eval-a" "suspended", _, rfl⟩

/-- A service client that is revoked like an evaluation account. -/
def revokedLoader : AuthCall :=
  .operation (.evaluation evalMoment (accountAdmin "acme")
    (.revoke "loader" none))

/-- The catalog still has the client, and its token is accepted. -/
theorem decisions_stick_fails :
    ¬ DecisionsStick "loader" ⟨loaderRun ["sql.query"], .empty⟩
      [revokedLoader] := by
  intro sticks
  refine sticks [] revokedLoader [] rfl
    ⟨rfl, .changed "loader" "revoked", _, rfl⟩ trivial
    (.http calmMoment (loaderClaims ["sql.query"]) []) ⟨rfl, rfl, ?_⟩
  exact ⟨AuthContext.ofClaims (loaderClaims ["sql.query"]), _, rfl⟩

end OpenSnow.Server
