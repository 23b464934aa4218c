import OpenSnow.Server.MeteredRuns
import OpenSnow.Server.StopDecisions

/-!
# Evaluation accounts

What operations and bearers leave of the registration of an evaluation client,
and what the token checks do with the client's own tokens: they refuse them or
count one request.
-/

namespace OpenSnow.Server

open Catalog.ControlPlane
open Foundation
open Server.ControlPlane
open Server.Scim

/-! ## Accounts -/

/-- A token of the client, and not of a user with its name. -/
def IsOwn (clientId : String) (claims : Claims) : Prop :=
  claims.username = clientId ∧ isOidc claims = false

def evaluationScopes : List String := ["sql.query", "table.select"]

/-- An evaluation client within its quota. -/
structure IsAccount (quota : Nat) (client : RegisteredClient) : Prop where
  kind : client.kind = .evaluation
  queryQuota : client.queryQuota = some quota
  role : client.role = "EVALUATION"
  ownScopes : client.scopes = evaluationScopes
  within : client.queriesUsed ≤ quota

/-- An open connection of the client that no statement ran on. -/
def isUnspent (clientId : String) (connection : PgConnection) : Bool :=
  connection.claims.username = clientId && !isOidc connection.claims &&
    connection.statements = 0

def unspent (clientId : String) (connections : List PgConnection) : Nat :=
  connections.countP (isUnspent clientId)

/-- The requests that the client has used. -/
def MeteredState.used (state : MeteredState) (clientId : String) : Nat :=
  ((state.auth.control.clients clientId).map (·.queriesUsed)).getD 0

/-- Nothing was done under the id. -/
structure Unused (clientId : String) (state : MeteredState) : Prop where
  record : state.auth.control.identities.find clientId = none
  issued : ∀ claims ∈ state.issued, claims.username ≠ clientId
  connections : ∀ connection ∈ state.connections,
    ¬ IsOwn clientId connection.claims
  ran : clientId ∉ state.ran

/-- The registration of the client is still in force. -/
structure Account (clientId : String) (quota : Nat) (state : MeteredState) :
    Prop where
  client : ∃ client, state.auth.control.clients clientId = some client ∧
    IsAccount quota client
  record : state.auth.control.identities.find clientId = none
  issued : ∀ claims ∈ state.issued, claims.username = clientId →
    claims.role = "EVALUATION" ∧ claims.scopes = evaluationScopes

/-- The catalog can be read for a bearer, if there is one. -/
def Reads (deployment : Deployment) : Prop :=
  deployment.catalog = .ok false ∨
    deployment.catalog = .ok true ∧ deployment.fault .getIdentity = none

/-- A bearer of the client is metered: it is active and has quota left. -/
def Spends (clock : Clock) (client : RegisteredClient) : Prop :=
  client.status = .active ∧ client.isExpired clock = false ∧
    ∀ quota, client.queryQuota = some quota → client.queriesUsed < quota

/-! ## Operations -/

/-- At most the status of the client changes. -/
structure KeepsAccount (clientId : String) (before after : ControlState) :
    Prop where
  record : after.identities.find clientId = none
  client : ∀ held, before.clients clientId = some held →
    ∃ status reason, after.clients clientId =
      some { held with status := status, statusReason := reason }

theorem KeepsAccount.of_eq {clientId : String} {before after : ControlState}
    (record : after.identities.find clientId = none)
    (same : after.clients clientId = before.clients clientId) :
    KeepsAccount clientId before after :=
  ⟨record, fun held isHeld => ⟨held.status, held.statusReason,
    same.trans isHeld⟩⟩

section Operations

variable {clientId : String}

variable {deployment : Deployment}

/-- Without a record, a request that grants nothing leaves the client. -/
theorem issue_keeps {services : ServiceState}
    {input : ServiceIdentityClientInput}
    (record : services.identities.find clientId = none)
    (renewed : ¬ Grants services (services.issue deployment input)
      clientId) :
    (services.issue deployment input).identities.find clientId = none ∧
      (services.issue deployment input).clients clientId =
        services.clients clientId := by
  unfold ServiceState.issue at renewed ⊢
  cases faulty : attempt deployment .createIdentity 400 with
  | error failure => exact ⟨record, rfl⟩
  | ok value =>
  rw [faulty] at renewed
  dsimp only at renewed ⊢
  split_ifs at renewed ⊢ with taken
  · exact ⟨record, rfl⟩
  · have other : input.id ≠ clientId := by
      rintro isClient
      refine renewed ⟨[.registered (input.record deployment.now),
        .created (input.record deployment.now)], rfl,
        .created (input.record deployment.now), by simp, ?_⟩
      exact congrArg some isClient
    constructor
    · change (services.identities.put _).find clientId = none
      rw [Keyed.find_put, if_neg]
      · exact record
      · exact other
    · exact ClientRegistry.insert_of_ne fun same => other same.symm

theorem change_keeps {services : ServiceState}
    {op : CatalogOp} {changed : String}
    {update : ServiceIdentityClient → ServiceIdentityClient}
    {noted : ServiceIdentityClient → Administered}
    (sameId : ∀ record, (update record).id = record.id)
    (record : services.identities.find clientId = none) :
    (services.change deployment op changed update noted).identities.find
        clientId = none ∧
      (services.change deployment op changed update noted).clients clientId =
        services.clients clientId := by
  unfold ServiceState.change
  cases attempt deployment op 404 with
  | error failure => exact ⟨record, rfl⟩
  | ok value =>
  cases found : services.identities.find changed with
  | none => exact ⟨record, rfl⟩
  | some held =>
  have other : (update held).id ≠ clientId := by
    rintro isClient
    have isHeld : held.id = changed := Keyed.key_of_find found
    rw [← isHeld, ← sameId, isClient, record] at found
    cases found
  have stored : (services.identities.put (update held)).find clientId =
      none := by
    rw [Keyed.find_put, if_neg]
    · exact record
    · exact other
  dsimp only
  cases attempt deployment .getIdentity 500 with
  | error failure => exact ⟨stored, rfl⟩
  | ok value =>
  unfold ServiceState.register
  cases RegisteredClient.fromDurable (update held) with
  | none => exact ⟨stored, rfl⟩
  | some client =>
      exact ⟨stored, ClientRegistry.insert_of_ne fun same =>
        other same.symm⟩

variable {state : ControlState}

theorem serve_keepsAccount {actor : AuthContext} {request : Request}
    (record : state.identities.find clientId = none)
    (renewed : ¬ Grants state.services
      (serve deployment actor request state).2.services clientId) :
    KeepsAccount clientId state (serve deployment actor request state).2 := by
  suffices keeps :
      (serve deployment actor request state).2.services.identities.find
          clientId = none ∧
        (serve deployment actor request state).2.services.clients clientId =
          state.services.clients clientId from
    KeepsAccount.of_eq keeps.1 keeps.2
  rw [serve_services] at renewed ⊢
  rcases servicesAfter_cases deployment actor state request with
    same | ⟨input, issued⟩ | listed | ⟨changed, clientSecret, rotated⟩ |
    ⟨changed, reason, revoked⟩
  · rw [same]
    exact ⟨record, rfl⟩
  · rw [issued] at renewed ⊢
    exact issue_keeps record renewed
  · rw [listed]
    obtain ⟨identities, clients⟩ := state.services.list_same deployment
    exact ⟨identities ▸ record, congrFun clients clientId⟩
  · rw [rotated]
    exact change_keeps (fun _ => rfl) record
  · rw [revoked]
    exact change_keeps (fun _ => rfl) record

variable {start : ControlState}

theorem changeStatus_keepsAccount (changed : String)
    (status : ClientStatus) (reason : String) :
    Effect.Keeps (KeepsAccount clientId start)
      (changeStatus changed status reason) := by
  intro before kept
  unfold changeStatus ClientRegistry.setStatus
  cases registered : before.clients changed with
  | none => exact kept
  | some client =>
      refine ⟨kept.record, fun held isHeld => ?_⟩
      obtain ⟨heldStatus, heldReason, isKept⟩ := kept.client held isHeld
      by_cases same : clientId = changed
      · subst same
        rw [isKept] at registered
        cases registered
        exact ⟨status, some reason, ClientRegistry.insert_self _ _ _⟩
      · exact ⟨heldStatus, heldReason,
          (ClientRegistry.insert_of_ne same).trans isKept⟩

theorem evaluationServe_keepsAccount
    {moment : EvaluationMoment} {actor : AuthContext}
    {request : EvaluationRequest}
    (others : ∀ email, request = .register email →
      moment.clientId ≠ clientId) :
    Effect.Keeps (KeepsAccount clientId start)
      (evaluationServe moment actor request) := by
  cases request with
  | register email =>
      refine Effect.Keeps.bind (Effect.Keeps.modify fun state kept =>
        ⟨kept.record, fun held isHeld => ?_⟩) fun _ => Effect.Keeps.pure
      obtain ⟨status, reason, isKept⟩ := kept.client held isHeld
      exact ⟨status, reason, (ClientRegistry.insert_of_ne
        (others email rfl).symm).trans isKept⟩
  | suspend changed reason =>
      exact Effect.Keeps.look.bind fun _ => Effect.Keeps.bind
        (changeStatus_keepsAccount _ _ _) fun _ => Effect.Keeps.pure
  | revoke changed reason =>
      exact Effect.Keeps.look.bind fun _ => Effect.Keeps.bind
        (changeStatus_keepsAccount _ _ _) fun _ => Effect.Keeps.pure

theorem KeepsAccount.refl (record : state.identities.find clientId = none) :
    KeepsAccount clientId state state :=
  KeepsAccount.of_eq record rfl

/-- Every operation but a start keeps an account that it does not renew. -/
theorem Operation.keepsAccount {state : AuthState} {action : Operation}
    (record : state.control.identities.find clientId = none)
    (renewed : ¬ (AuthCall.operation action).Renews clientId state)
    (running : ∀ deployment entries, action ≠ .restart deployment entries) :
    KeepsAccount clientId state.control (action.perform state).control := by
  cases action with
  | control deployment actor request => exact serve_keepsAccount record renewed
  | evaluation moment actor request =>
      refine (evaluationServe_keepsAccount ?_).after
        (KeepsAccount.refl record)
      rintro email rfl isClient
      exact renewed isClient
  | scim call =>
      obtain ⟨name, clients⟩ := scimServe_clients call state.scimServer
      refine ⟨record, fun held isHeld => ?_⟩
      change ∃ status reason,
        (scimServe call state.scimServer).2.clients clientId = _
      rw [clients, stopIn]
      split_ifs
      · exact ⟨.revoked, some deactivatedReason,
          congrArg (Option.map stopped) isHeld⟩
      · exact ⟨held.status, held.statusReason, isHeld⟩
  | token moment request =>
      have used := tokenEndpoint_onlyUsed moment request state.control
      refine KeepsAccount.of_eq ?_ (congrFun used.clients clientId)
      by_contra found
      obtain ⟨record', isRecord⟩ := Option.ne_none_iff_exists'.mp found
      obtain ⟨held, isHeld, -⟩ := used.identities clientId record' isRecord
      rw [record] at isHeld
      cases isHeld
  | restart deployment entries => exact absurd rfl (running _ _)

/-! ### Bearers of others -/

theorem refreshClient_keepsAccount
    (deployment : Deployment) (username : String) :
    Effect.Keeps (KeepsAccount clientId start)
      (refreshClient deployment username) := by
  refine Effect.Keeps.of_after fun before kept => ?_
  rcases refreshClient_after deployment username before with
    same | ⟨record, client, found, -, after⟩
  · rw [same]
    exact kept
  · rw [after]
    refine ⟨kept.record, fun held isHeld => ?_⟩
    have other : record.id ≠ clientId := by
      rintro isClient
      rw [← Keyed.key_of_find found, isClient, kept.record] at found
      cases found
    obtain ⟨status, reason, isKept⟩ := kept.client held isHeld
    exact ⟨status, reason, (ClientRegistry.insert_of_ne
      fun same => other same.symm).trans isKept⟩

variable {claims : Claims}

theorem authorizeBearer_keepsAccount (clock : Clock)
    (other : claims.username ≠ clientId) :
    Effect.Keeps (KeepsAccount clientId start)
      (authorizeBearer clock claims) := by
  refine Effect.Keeps.of_after fun before kept => ?_
  rcases authorizeBearer_after clock claims before with
    same | ⟨client, -, -, after⟩
  · rw [same]
    exact kept
  · rw [after]
    refine ⟨kept.record, fun held isHeld => ?_⟩
    obtain ⟨status, reason, isKept⟩ := kept.client held isHeld
    exact ⟨status, reason,
      (ClientRegistry.insert_of_ne other.symm).trans isKept⟩

theorem jwtRequired_keepsAccount
    (other : ¬ IsOwn clientId claims) (moment : Moment)
    (accountHeaders : List String) :
    Effect.Keeps (KeepsAccount clientId start)
      (jwtRequired moment claims accountHeaders) :=
  jwtRequired_keeps (fun _ => refreshClient_keepsAccount _ _)
    (fun isClient => authorizeBearer_keepsAccount _ fun same =>
      other ⟨same, isClient⟩) accountHeaders

theorem pgwire_keepsAccount (other : ¬ IsOwn clientId claims) (moment : Moment)
    (startupUser : String) (startupDatabase : Option String) :
    Effect.Keeps (KeepsAccount clientId start)
      (authenticatePgwireBearer moment startupUser startupDatabase
        claims) :=
  pgwire_keeps (fun _ => refreshClient_keepsAccount _ _)
    (fun isClient => authorizeBearer_keepsAccount _ fun same =>
      other ⟨same, isClient⟩) startupUser startupDatabase

/-! ### Bearers of the client -/

/-- The client after one more request. -/
def spent (client : RegisteredClient) : RegisteredClient :=
  { client with queriesUsed := client.queriesUsed + 1 }

def ControlState.spend (state : ControlState) (clientId : String)
    (client : RegisteredClient) : ControlState :=
  { state with clients := state.clients.insert clientId (spent client) }

theorem refreshClient_own (deployment : Deployment)
    (record : state.identities.find clientId = none) :
    (∃ message, refreshClient deployment clientId state =
        (.error message, state)) ∨
      Reads deployment ∧
        refreshClient deployment clientId state = (.ok (), state) := by
  unfold refreshClient Reads
  cases deployment.catalog with
  | error message => exact Or.inl ⟨message, rfl⟩
  | ok configured =>
  cases configured with
  | false => exact Or.inr ⟨Or.inl rfl, rfl⟩
  | true =>
  cases deployment.fault .getIdentity with
  | some message => exact Or.inl ⟨message, rfl⟩
  | none =>
      dsimp only [ClientRegistry.refreshDurableClient]
      rw [record]
      exact Or.inr ⟨Or.inr ⟨rfl, rfl⟩, rfl⟩

variable {client : RegisteredClient}

theorem authorizeBearer_own (clock : Clock) {quota : Nat}
    (isClient : claims.username = clientId)
    (metered : ClientRegistry.isMetered claims.scopes)
    (registered : state.clients clientId = some client)
    (account : IsAccount quota client) :
    (∃ status, authorizeBearer clock claims state =
        (.error status, state)) ∨
      Spends clock client ∧
        authorizeBearer clock claims state =
          (.ok (), ControlState.spend state clientId client) := by
  unfold authorizeBearer ClientRegistry.authorizeBearerClient
  rw [isClient, registered]
  dsimp only
  by_cases inactive : client.status = .active
  · rw [if_neg (not_not.mpr inactive)]
    cases expired : client.isExpired clock with
    | true => exact Or.inl ⟨403, rfl⟩
    | false =>
        rw [if_neg Bool.false_ne_true, if_pos ⟨account.kind, metered⟩]
        by_cases left : client.queriesUsed < quota
        · have passes : ¬ (client.queryQuota.map fun quota =>
              decide (quota ≤ client.queriesUsed)).getD false = true := by
            rw [account.queryQuota]
            simpa using left
          rw [if_neg passes]
          refine Or.inr ⟨⟨inactive, expired, fun held isHeld => ?_⟩, rfl⟩
          rw [account.queryQuota] at isHeld
          cases isHeld
          exact left
        · have exhausted : (client.queryQuota.map fun quota =>
              decide (quota ≤ client.queriesUsed)).getD false = true := by
            rw [account.queryQuota]
            simpa using left
          rw [if_pos exhausted]
          exact Or.inl ⟨429, rfl⟩
  · rw [if_pos inactive]
    exact Or.inl ⟨403, rfl⟩

/-- What `jwt_required` does with a token of the client. -/
theorem jwtRequired_own (moment : Moment) {quota : Nat}
    (own : IsOwn clientId claims)
    (metered : ClientRegistry.isMetered claims.scopes)
    (record : state.identities.find clientId = none)
    (registered : state.clients clientId = some client)
    (account : IsAccount quota client) (accountHeaders : List String) :
    (∃ failure, jwtRequired moment claims accountHeaders state =
        (.error failure, state)) ∨
      Reads moment.deployment ∧ Spends moment.clock client ∧
        jwtRequired moment claims accountHeaders state =
          (if accountHeaders.all fun account => account == claims.tenantId
            then .ok (AuthContext.ofClaims claims)
            else .error (forbidden ""),
            ControlState.spend state clientId client) := by
  obtain ⟨isClient, notOidc⟩ := own
  have checked : checkBearer moment claims = (do
      (refreshClient moment.deployment claims.username).mapFailure
        fun message => Failure.http 401 message
      (authorizeBearer moment.clock claims).mapFailure
        fun status => Failure.http status "") := by
    unfold checkBearer
    rw [if_neg (by rw [notOidc]; exact Bool.false_ne_true)]
  unfold jwtRequired
  rw [checked, isClient]
  rcases refreshClient_own moment.deployment record with
    ⟨message, failed⟩ | ⟨reads, refreshed⟩
  · refine Or.inl ⟨.http 401 message, ?_⟩
    refine Effect.bind_error (Effect.bind_error ?_)
    rw [Effect.mapFailure, failed]
  · have front : ((refreshClient moment.deployment clientId).mapFailure
        fun message => Failure.http 401 message) state =
          (.ok (), state) := by
      rw [Effect.mapFailure, refreshed]
    rcases authorizeBearer_own moment.clock isClient metered
        registered account with ⟨status, failed⟩ | ⟨spends, authorized⟩
    · refine Or.inl ⟨.http status "", ?_⟩
      refine Effect.bind_error ?_
      rw [Effect.bind_ok front, Effect.mapFailure, failed]
    · refine Or.inr ⟨reads, spends, ?_⟩
      have both : ((do
          (refreshClient moment.deployment clientId).mapFailure
            fun message => Failure.http 401 message
          (authorizeBearer moment.clock claims).mapFailure
            fun status => Failure.http status "") :
            Handler Unit) state =
          (.ok (), ControlState.spend state clientId client) := by
        rw [Effect.bind_ok front, Effect.mapFailure, authorized]
      rw [Effect.bind_ok both, Effect.look_bind]
      split_ifs <;> rfl

/-- What the startup of a connection does with a token of the client. -/
theorem pgwire_own (moment : Moment) {quota : Nat}
    (own : IsOwn clientId claims)
    (metered : ClientRegistry.isMetered claims.scopes)
    (record : state.identities.find clientId = none)
    (registered : state.clients clientId = some client)
    (account : IsAccount quota client) (startupUser : String)
    (startupDatabase : Option String) :
    (∃ message, authenticatePgwireBearer moment startupUser startupDatabase
        claims state = (.error message, state)) ∨
      (checkStartup startupUser startupDatabase claims = .ok () ∧
        Reads moment.deployment ∧ Spends moment.clock client) ∧
        authenticatePgwireBearer moment startupUser startupDatabase claims
            state =
          (.ok (AuthContext.ofClaims claims),
            ControlState.spend state clientId client) := by
  obtain ⟨isClient, notOidc⟩ := own
  have checked : checkPgwireBearer moment claims = (do
      refreshClient moment.deployment claims.username
      (authorizeBearer moment.clock claims).mapFailure fun status =>
        "bearer client is not authorized: " ++ toString status) := by
    unfold checkPgwireBearer
    rw [if_neg (by rw [notOidc]; exact Bool.false_ne_true)]
  unfold authenticatePgwireBearer
  rw [Effect.look_bind]
  cases started : checkStartup startupUser startupDatabase claims with
  | error message => exact Or.inl ⟨message, rfl⟩
  | ok value =>
  dsimp only
  rw [checked, isClient]
  rcases refreshClient_own moment.deployment record with
    ⟨message, failed⟩ | ⟨reads, refreshed⟩
  · exact Or.inl ⟨message, Effect.bind_error (Effect.bind_error failed)⟩
  · rcases authorizeBearer_own moment.clock isClient metered
        registered account with ⟨status, failed⟩ | ⟨spends, authorized⟩
    · refine Or.inl
        ⟨"bearer client is not authorized: " ++ toString status,
          Effect.bind_error ?_⟩
      rw [Effect.bind_ok refreshed, Effect.mapFailure, failed]
    · refine Or.inr ⟨⟨rfl, reads, spends⟩, ?_⟩
      have both : ((do
          refreshClient moment.deployment clientId
          (authorizeBearer moment.clock claims).mapFailure fun status =>
            "bearer client is not authorized: " ++ toString status) :
            Effect ControlState String Unit) state =
          (.ok (), ControlState.spend state clientId client) := by
        rw [Effect.bind_ok refreshed, Effect.mapFailure, authorized]
      rw [Effect.bind_ok both]
      rfl

end Operations

end OpenSnow.Server
