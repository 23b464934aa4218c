import OpenSnow.Server.EvaluationAccounts

/-!
# The quota of an evaluation client

The token check meters requests and startups, and not statements.  What the
quota bounds are therefore requests over HTTP and connections of the wire
protocol; it bounds statements where each of these runs one at most.
-/

namespace OpenSnow.Server

open Foundation
open Server.ControlPlane

variable {Row : Type}

/-! ## Conditions on steps -/

/-- The registration is not lost, and the client not registered again. -/
def Stands (clientId : String) (state : MeteredState) :
    MeteredStep Row → Prop
  | .operation (.restart _ _) => False
  | .operation action =>
      ¬ (AuthCall.operation action).Renews clientId state.auth
  | _ => True

/--
A request of the client runs one statement at most, and so does a connection.
-/
def OneStatement (clientId : String) (state : MeteredState) :
    MeteredStep Row → Prop
  | .http _ _ claims _ (.distributedQuery _ request) =>
      IsOwn clientId claims → request.partitionCount = 1
  | .query surfaces connection query =>
      ∀ held, state.connections[connection]? = some held →
        IsOwn clientId held.claims →
          held.statements = 0 ∨
            Refused surfaces (AuthContext.ofClaims held.claims) query
  | _ => True

/-- A bearer of the client would be metered. -/
def Meters (clientId : String) (moment : Moment) (state : MeteredState) :
    Prop :=
  Reads moment.deployment ∧
    ∃ client, state.auth.control.clients clientId = some client ∧
      Spends moment.clock client

/--
What is metered names no other account and gets a statement to the engine, so
that it is no startup of a connection.
-/
def NeverIdle (clientId : String) (state : MeteredState) :
    MeteredStep Row → Prop
  | .http surfaces moment claims accountHeaders request =>
      IsOwn clientId claims → state.validates claims →
        Meters clientId moment state →
          (accountHeaders.all fun account => account == claims.tenantId) ∧
            request.Runs surfaces (AuthContext.ofClaims claims)
  | .startup moment startupUser startupDatabase claims =>
      IsOwn clientId claims → state.validates claims →
        Meters clientId moment state →
          checkStartup startupUser startupDatabase claims ≠ .ok ()
  | _ => True

/-- An open connection of a stopped client gets no statement through. -/
def QuietWhenStopped (clientId : String) (state : MeteredState) :
    MeteredStep Row → Prop
  | .query surfaces connection query =>
      ∀ held, state.connections[connection]? = some held →
        IsOwn clientId held.claims →
          IsStopped clientId state.auth.control.clients →
            Refused surfaces (AuthContext.ofClaims held.claims) query
  | _ => True

/-! ## What is promised -/

/-- A step that runs no statement of the client takes nothing off its quota. -/
def IdleIsFree (clientId : String) (state : MeteredState)
    (step : MeteredStep Row) : Prop :=
  (state.perform step).ran.count clientId = state.ran.count clientId →
    (state.perform step).used clientId = state.used clientId

/-- No statement of a stopped client runs. -/
def StoppedIsStill (clientId : String) (state : MeteredState)
    (step : MeteredStep Row) : Prop :=
  IsStopped clientId state.auth.control.clients →
    (state.perform step).ran.count clientId = state.ran.count clientId

/-! ## Steps -/

/-- What a step that is not the client's leaves of its account. -/
structure Untouched (clientId : String) (before after : MeteredState) :
    Prop where
  account : KeepsAccount clientId before.auth.control after.auth.control
  issued : ∀ claims ∈ after.issued, claims ∈ before.issued ∨
    (claims.username = clientId →
      ∃ client, before.auth.control.clients clientId = some client ∧
        claims.role = client.role ∧ claims.scopes = client.scopes)
  ran : after.ran.count clientId = before.ran.count clientId
  connections : unspent clientId after.connections ≤
    unspent clientId before.connections

variable {clientId : String}

theorem Untouched.of_control {state : MeteredState} {control : ControlState}
    (account : KeepsAccount clientId state.auth.control control) :
    Untouched clientId state
      { state with auth := { state.auth with control } } where
  account := account
  issued := fun _ member => Or.inl member
  ran := rfl
  connections := Nat.le_refl _

theorem count_ranFor_other {claims : Claims}
    (other : ¬ IsOwn clientId claims) (statements : List String) :
    (ranFor claims statements).count clientId = 0 := by
  unfold ranFor
  split_ifs with oidc
  · rfl
  · rw [List.count_replicate, if_neg]
    rw [beq_iff_eq]
    exact fun isClient => other ⟨isClient, Bool.eq_false_of_not_eq_true oidc⟩

theorem count_ranFor_own {claims : Claims}
    (own : IsOwn clientId claims) (statements : List String) :
    (ranFor claims statements).count clientId = statements.length := by
  unfold ranFor
  rw [if_neg (by rw [own.2]; exact Bool.false_ne_true), own.1, List.count_replicate_self]

theorem isUnspent_other {connection : PgConnection}
    (other : ¬ IsOwn clientId connection.claims) :
    isUnspent clientId connection = false := by
  rw [Bool.eq_false_iff]
  intro counts
  simp only [isUnspent, Bool.and_eq_true, decide_eq_true_eq,
    Bool.not_eq_true'] at counts
  exact other counts.1

theorem unspent_set (clientId : String) {connections : List PgConnection}
    {index : Nat} {held : PgConnection} (connection : PgConnection)
    (isHeld : connections[index]? = some held) :
    unspent clientId (connections.set index connection) +
        (if isUnspent clientId held then 1 else 0) =
      unspent clientId connections +
        (if isUnspent clientId connection then 1 else 0) := by
  obtain ⟨within, rfl⟩ := List.getElem?_eq_some_iff.mp isHeld
  have positive : isUnspent clientId connections[index] = true →
      0 < List.countP (isUnspent clientId) connections :=
    fun counts => List.countP_pos_iff.mpr
      ⟨connections[index], List.getElem_mem within, counts⟩
  unfold unspent
  rw [List.countP_set within]
  split_ifs with first second second
  · have := positive first
    omega
  · have := positive first
    omega
  · omega
  · omega

section Steps

variable {clientId : String} {quota : Nat} {state : MeteredState}

theorem untouched_operation {action : Operation}
    (account : Account clientId quota state)
    (stands : Stands clientId state
      (.operation action : MeteredStep Row)) :
    Untouched clientId state (state.operate action) := by
  have renewed : ¬ (AuthCall.operation action).Renews clientId
      state.auth := by
    cases action with
    | restart deployment entries => exact id
    | _ => exact stands
  have running : ∀ deployment entries,
      action ≠ .restart deployment entries := by
    rintro deployment entries rfl
    exact stands
  refine ⟨Operation.keepsAccount account.record renewed running, ?_, rfl, ?_⟩
  · intro claims member
    cases action with
    | token moment request =>
        cases ran : tokenEndpoint moment request state.auth.control with
        | mk result after =>
        unfold MeteredState.operate at member
        simp only [ran] at member
        cases result with
        | error failure => exact Or.inl member
        | ok issued =>
            rcases List.mem_cons.mp member with rfl | earlier
            · obtain ⟨client, registered, -, rfl⟩ := tokenEndpoint_ok ran
              refine Or.inr fun isClient => ⟨client, ?_, rfl, rfl⟩
              rw [← isClient]
              exact registered
            · exact Or.inl earlier
    | _ => exact Or.inl member
  · cases action with
    | restart deployment entries => exact Nat.zero_le _
    | _ => exact Nat.le_refl _

variable {surfaces : QuerySurfaces Row} {moment : Moment} {claims : Claims}
  {accountHeaders : List String} {request : HttpRequest}

theorem untouched_http (account : Account clientId quota state)
    (other : ¬ IsOwn clientId claims) :
    Untouched clientId state
      (state.http surfaces moment claims accountHeaders request) := by
  have kept := (jwtRequired_keepsAccount other moment accountHeaders).after
    (KeepsAccount.refl account.record)
  unfold MeteredState.http
  split_ifs with valid
  · split
    · rename_i caller control admitted
      rw [admitted] at kept
      refine ⟨kept, fun _ member => Or.inl member, ?_, Nat.le_refl _⟩
      rw [List.count_append, count_ranFor_other other, Nat.zero_add]
    · rename_i control refused
      rw [refused] at kept
      exact Untouched.of_control kept
  · exact Untouched.of_control (KeepsAccount.refl account.record)

variable {startupUser : String} {startupDatabase : Option String}

theorem untouched_startup (account : Account clientId quota state)
    (other : ¬ IsOwn clientId claims) :
    Untouched clientId state
      (state.startup moment startupUser startupDatabase claims) := by
  have kept := (pgwire_keepsAccount other moment startupUser
    startupDatabase).after (KeepsAccount.refl account.record)
  unfold MeteredState.startup
  split_ifs with valid
  · split
    · rename_i control admitted
      rw [admitted] at kept
      refine ⟨kept, fun _ member => Or.inl member, rfl, ?_⟩
      change List.countP (isUnspent clientId) (_ :: _) ≤ _
      have notUnspent : isUnspent clientId ⟨claims, 0⟩ = false :=
        isUnspent_other other
      rw [List.countP_cons_of_neg (by rw [notUnspent]; exact Bool.false_ne_true)]
      exact Nat.le_refl _
    · rename_i control refused
      rw [refused] at kept
      exact Untouched.of_control kept
  · exact Untouched.of_control (KeepsAccount.refl account.record)

theorem untouched_query {connection : Nat}
    {query : String} (account : Account clientId quota state)
    (other : ∀ held, state.connections[connection]? = some held →
      ¬ IsOwn clientId held.claims) :
    Untouched clientId state (state.query surfaces connection query) := by
  unfold MeteredState.query
  split
  · exact Untouched.of_control (KeepsAccount.refl account.record)
  · rename_i held isHeld
    have foreign := other held isHeld
    refine ⟨KeepsAccount.refl account.record, fun _ member => Or.inl member,
      ?_, ?_⟩
    · dsimp only
      rw [List.count_append, count_ranFor_other foreign, Nat.zero_add]
    · have sum := unspent_set clientId
        { held with statements := held.statements +
          (queryExecuted surfaces (AuthContext.ofClaims held.claims)
            query).length } isHeld
      rw [isUnspent_other foreign] at sum
      have after : isUnspent clientId
          { held with statements := held.statements +
            (queryExecuted surfaces (AuthContext.ofClaims held.claims)
              query).length } = false :=
        isUnspent_other foreign
      rw [after] at sum
      exact Nat.le_of_eq sum

theorem untouched_terminate (connection : Nat)
    (account : Account clientId quota state) :
    Untouched clientId state (state.terminate connection) where
  account := KeepsAccount.refl account.record
  issued := fun _ member => Or.inl member
  ran := rfl
  connections := (List.eraseIdx_sublist _ _).countP_le

/-! ### Steps of the client -/

theorem Account.token (account : Account clientId quota state)
    (own : IsOwn clientId claims) (valid : state.validates claims) :
    claims.role = "EVALUATION" ∧ claims.scopes = evaluationScopes := by
  unfold MeteredState.validates at valid
  rw [own.2, Bool.false_or, decide_eq_true_eq] at valid
  exact account.issued claims valid own.1

theorem isMetered_evaluation {scopes : List String}
    (evaluation : scopes = evaluationScopes) :
    ClientRegistry.isMetered scopes := by
  rw [evaluation]
  decide

/-- The state after the client was metered. -/
def MeteredState.spend (state : MeteredState) (clientId : String)
    (client : RegisteredClient) : MeteredState :=
  { state with
    auth :=
      { state.auth with
        control := ControlState.spend state.auth.control clientId client } }

/-- A request of the client is refused, or it is metered. -/
theorem http_own (account : Account clientId quota state)
    (own : IsOwn clientId claims) :
    state.http surfaces moment claims accountHeaders request = state ∨
      state.validates claims ∧ Reads moment.deployment ∧
        ∃ client, state.auth.control.clients clientId = some client ∧
          IsAccount quota client ∧ Spends moment.clock client ∧
            state.http surfaces moment claims accountHeaders request =
              { state.spend clientId client with
                ran :=
                  ranFor claims
                    (if accountHeaders.all fun account =>
                        account == claims.tenantId then
                      request.executed surfaces (AuthContext.ofClaims claims)
                    else []) ++ state.ran } := by
  unfold MeteredState.http
  by_cases valid : state.validates claims
  · rw [if_pos valid]
    obtain ⟨client, registered, isAccount⟩ := account.client
    rcases jwtRequired_own moment own
        (isMetered_evaluation (account.token own valid).2) account.record
        registered isAccount accountHeaders with
      ⟨failure, refused⟩ | ⟨reads, spends, admitted⟩
    · rw [refused]
      exact Or.inl rfl
    · refine Or.inr
        ⟨valid, reads, client, registered, isAccount, spends, ?_⟩
      rw [admitted]
      by_cases fits : accountHeaders.all fun account =>
          account == claims.tenantId
      · rw [if_pos fits, if_pos fits]
        rfl
      · rw [if_neg fits, if_neg fits, ranFor,
          if_neg (by rw [own.2]; exact Bool.false_ne_true)]
        rfl
  · exact Or.inl (if_neg valid)

/-- A startup of the client is refused, or it is metered. -/
theorem startup_own (account : Account clientId quota state)
    (own : IsOwn clientId claims) :
    state.startup moment startupUser startupDatabase claims = state ∨
      state.validates claims ∧
        checkStartup startupUser startupDatabase claims = .ok () ∧
          Reads moment.deployment ∧
            ∃ client, state.auth.control.clients clientId = some client ∧
              IsAccount quota client ∧ Spends moment.clock client ∧
                state.startup moment startupUser startupDatabase claims =
                  { state.spend clientId client with
                    connections := ⟨claims, 0⟩ :: state.connections } := by
  unfold MeteredState.startup
  split_ifs with valid
  · obtain ⟨client, registered, isAccount⟩ := account.client
    rcases pgwire_own moment own
        (isMetered_evaluation (account.token own valid).2) account.record
        registered isAccount startupUser startupDatabase with
      ⟨failure, refused⟩ | ⟨⟨started, reads, spends⟩, admitted⟩
    · rw [refused]
      exact Or.inl rfl
    · rw [admitted]
      exact Or.inr
        ⟨valid, started, reads, client, registered, isAccount, spends, rfl⟩
  · exact Or.inl rfl

/-! ### The account along a run -/

variable {client : RegisteredClient}

theorem used_of_registered
    (registered : state.auth.control.clients clientId = some client) :
    state.used clientId = client.queriesUsed := by
  unfold MeteredState.used
  rw [registered]
  rfl

theorem spend_registered (client : RegisteredClient) :
    (state.spend clientId client).auth.control.clients clientId =
      some (spent client) :=
  ClientRegistry.insert_self _ _ _

variable {after : MeteredState}

theorem Account.of_untouched (account : Account clientId quota state)
    (untouched : Untouched clientId state after) :
    Account clientId quota after := by
  obtain ⟨client, registered, isAccount⟩ := account.client
  obtain ⟨status, reason, kept⟩ :=
    untouched.account.client client registered
  refine ⟨⟨_, kept, ?_⟩, untouched.account.record, ?_⟩
  · exact ⟨isAccount.kind, isAccount.queryQuota, isAccount.role,
      isAccount.ownScopes, isAccount.within⟩
  · intro claims member isClient
    rcases untouched.issued claims member with earlier | new
    · exact account.issued claims earlier isClient
    · obtain ⟨holder, isHolder, role, copied⟩ := new isClient
      rw [registered] at isHolder
      cases isHolder
      exact ⟨role.trans isAccount.role, copied.trans isAccount.ownScopes⟩

theorem Untouched.used (untouched : Untouched clientId state after)
    (account : Account clientId quota state) :
    after.used clientId = state.used clientId := by
  obtain ⟨client, registered, -⟩ := account.client
  obtain ⟨status, reason, kept⟩ :=
    untouched.account.client client registered
  rw [used_of_registered registered, used_of_registered kept]

theorem Account.spend {clock : Clock} (account : Account clientId quota state)
    (isAccount : IsAccount quota client) (spends : Spends clock client) :
    Account clientId quota (state.spend clientId client) where
  client := by
    refine ⟨spent client, spend_registered client, isAccount.kind,
      isAccount.queryQuota, isAccount.role, isAccount.ownScopes, ?_⟩
    exact spends.2.2 quota isAccount.queryQuota
  record := account.record
  issued := account.issued

variable {step : MeteredStep Row}

/-- The registration and its bound survive every step. -/
theorem Account.perform (account : Account clientId quota state)
    (stands : Stands clientId state step) :
    Account clientId quota (state.perform step) := by
  cases step with
  | operation action =>
      exact account.of_untouched (untouched_operation account stands)
  | http surfaces moment claims accountHeaders request =>
      by_cases own : IsOwn clientId claims
      · change Account clientId quota
          (state.http surfaces moment claims accountHeaders request)
        rcases http_own account own with
          same | ⟨-, -, client, -, isAccount, spends, metered⟩
        · rw [same]
          exact account
        · rw [metered]
          have after := account.spend isAccount spends
          exact ⟨after.client, after.record, after.issued⟩
      · exact account.of_untouched (untouched_http account own)
  | startup moment startupUser startupDatabase claims =>
      by_cases own : IsOwn clientId claims
      · change Account clientId quota
          (state.startup moment startupUser startupDatabase claims)
        rcases startup_own account own with
          same | ⟨-, -, -, client, -, isAccount, spends, metered⟩
        · rw [same]
          exact account
        · rw [metered]
          have after := account.spend isAccount spends
          exact ⟨after.client, after.record, after.issued⟩
      · exact account.of_untouched (untouched_startup account own)
  | query surfaces connection query =>
      change Account clientId quota (state.query surfaces connection query)
      unfold MeteredState.query
      split
      · exact account
      · exact ⟨account.client, account.record, account.issued⟩
  | terminate connection =>
      exact account.of_untouched (untouched_terminate connection account)

/-! ### Statements and quota -/

section Caller

variable {claims : Claims} (ownScopes : claims.scopes = evaluationScopes)

include ownScopes

theorem requireQueryScope_evaluation :
    requireQueryScope (AuthContext.ofClaims claims) := by
  have mayQuery : (AuthContext.ofClaims claims).hasAllScopes
      ["sql.query", "table.select"] = true := by
    simp [AuthContext.hasAllScopes, AuthContext.hasScope,
      AuthContext.ofClaims, ownScopes, evaluationScopes]
  simp [requireQueryScope, AuthContext.authorize, mayQuery]

variable (role : claims.role = "EVALUATION")

include role

/-- An evaluation client passes no other guard than that of queries. -/
theorem guard_refuses (guard : RouteGuard) :
    guard.passes (AuthContext.ofClaims claims) = false := by
  cases guard <;>
    simp [RouteGuard.passes, RouteGuard.scopes, AuthContext.authorize,
      AuthContext.isPlatformAdmin, AuthContext.hasAnyScope,
      AuthContext.hasScope, AuthContext.ofClaims, role, ownScopes,
      evaluationScopes]

/-- A request that is no distributed query runs one statement at most. -/
theorem length_executed_le {surfaces : QuerySurfaces Row}
    {request : HttpRequest}
    (single : ∀ queryId distributed,
      request = .distributedQuery queryId distributed →
        distributed.partitionCount = 1) :
    (request.executed surfaces (AuthContext.ofClaims claims)).length ≤ 1 := by
  cases request with
  | executeQuery sql => exact length_executeQuery_le sql
  | distributedQuery queryId distributed =>
      exact (length_distributedQuery_le queryId distributed).trans
        (Nat.le_of_eq (single queryId distributed rfl))
  | dbtCatalog =>
      rw [HttpRequest.executed]
      split_ifs
      · exact Nat.le_refl 1
      · exact Nat.zero_le 1
  | guarded guard statements =>
      rw [HttpRequest.executed, guard_refuses ownScopes role,
        if_neg Bool.false_ne_true]
      exact Nat.zero_le 1

end Caller

/-- Statements and unspent connections are paid for. -/
def Ledger (clientId : String) (state : MeteredState) : Prop :=
  state.ran.count clientId + unspent clientId state.connections ≤
    state.used clientId

theorem Ledger.of_untouched
    (ledger : Ledger clientId state) (account : Account clientId quota state)
    (untouched : Untouched clientId state after) :
    Ledger clientId after := by
  unfold Ledger at ledger ⊢
  rw [untouched.ran, untouched.used account]
  have fewer := untouched.connections
  omega

theorem used_spend
    (registered : state.auth.control.clients clientId = some client) :
    (state.spend clientId client).used clientId = state.used clientId + 1 := by
  rw [used_of_registered (spend_registered client),
    used_of_registered registered]
  rfl

section

variable (ledger : Ledger clientId state)

include ledger

theorem Ledger.http (account : Account clientId quota state)
    (own : IsOwn clientId claims) (single : ∀ queryId distributed,
      request = .distributedQuery queryId distributed →
        distributed.partitionCount = 1) :
    Ledger clientId
      (state.http surfaces moment claims accountHeaders request) := by
  rcases http_own account own with
    same | ⟨valid, -, client, registered, -, -, metered⟩
  · rw [same]
    exact ledger
  · obtain ⟨role, ownScopes⟩ := account.token own valid
    have atMost : (if accountHeaders.all fun account =>
        account == claims.tenantId then
          request.executed surfaces (AuthContext.ofClaims claims)
        else []).length ≤ 1 := by
      split_ifs
      · exact length_executed_le ownScopes role single
      · exact Nat.zero_le 1
    have paid := used_spend registered
    rw [metered]
    unfold Ledger at ledger ⊢
    change (ranFor claims _ ++ state.ran).count clientId +
      unspent clientId state.connections ≤
        (state.spend clientId client).used clientId
    rw [List.count_append, count_ranFor_own own, paid]
    omega

theorem Ledger.startup (account : Account clientId quota state)
    (own : IsOwn clientId claims) :
    Ledger clientId
      (state.startup moment startupUser startupDatabase claims) := by
  rcases startup_own account own with
    same | ⟨-, -, -, client, registered, -, -, metered⟩
  · rw [same]
    exact ledger
  · have paid := used_spend registered
    rw [metered]
    unfold Ledger at ledger ⊢
    change state.ran.count clientId +
      List.countP (isUnspent clientId) (⟨claims, 0⟩ :: state.connections) ≤
        (state.spend clientId client).used clientId
    have atMost : List.countP (isUnspent clientId)
        (⟨claims, 0⟩ :: state.connections) ≤
          unspent clientId state.connections + 1 := by
      rw [List.countP_cons]
      unfold unspent
      split_ifs <;> omega
    rw [paid]
    omega

/-- The first statement on a connection uses up its entry. -/
theorem Ledger.query {connection : Nat} {query : String} {held : PgConnection}
    (isHeld : state.connections[connection]? = some held)
    (own : IsOwn clientId held.claims) (first : held.statements = 0 ∨
      Refused surfaces (AuthContext.ofClaims held.claims) query) :
    Ledger clientId (state.query surfaces connection query) := by
  unfold MeteredState.query
  rw [isHeld]
  dsimp only
  generalize executes :
    queryExecuted surfaces (AuthContext.ofClaims held.claims) query =
      statements
  have sum := unspent_set clientId
    { held with statements := held.statements + statements.length } isHeld
  have isOwn : isUnspent clientId held =
      decide (held.statements = 0) := by
    simp [isUnspent, own.1, own.2]
  have isOwnAfter : isUnspent clientId
      { held with statements := held.statements + statements.length } =
        decide (held.statements + statements.length = 0) := by
    simp [isUnspent, own.1, own.2]
  have atMost : statements.length ≤ 1 := by
    rw [← executes]
    exact length_queryExecuted_le query
  have paid : statements.length = 0 ∨ held.statements = 0 := by
    rcases first with unused | refused
    · exact Or.inr unused
    · refine Or.inl ?_
      rw [← executes, queryExecuted_of_refused refused]
      rfl
  rw [isOwn, isOwnAfter] at sum
  simp only [decide_eq_true_eq] at sum
  unfold Ledger at ledger ⊢
  change (ranFor held.claims statements ++ state.ran).count clientId + _ ≤
    state.used clientId
  rw [List.count_append, count_ranFor_own own]
  dsimp only
  split_ifs at sum <;> omega

/-- Where requests and connections run one statement, the ledger is kept. -/
theorem Ledger.perform (account : Account clientId quota state)
    (stands : Stands clientId state step)
    (single : OneStatement clientId state step) :
    Ledger clientId (state.perform step) := by
  cases step with
  | operation action =>
      exact ledger.of_untouched account (untouched_operation account stands)
  | http surfaces moment claims accountHeaders request =>
      by_cases own : IsOwn clientId claims
      · refine ledger.http account own ?_
        rintro queryId distributed rfl
        exact single own
      · exact ledger.of_untouched account (untouched_http account own)
  | startup moment startupUser startupDatabase claims =>
      by_cases own : IsOwn clientId claims
      · exact ledger.startup account own
      · exact ledger.of_untouched account (untouched_startup account own)
  | query surfaces connection query =>
      cases isHeld : state.connections[connection]? with
      | none =>
          refine ledger.of_untouched account
            (untouched_query account fun held found => ?_)
          rw [isHeld] at found
          cases found
      | some held =>
          by_cases own : IsOwn clientId held.claims
          · exact ledger.query isHeld own (single held isHeld own)
          · refine ledger.of_untouched account
              (untouched_query account fun other found => ?_)
            rw [isHeld] at found
            cases found
            exact own
  | terminate connection =>
      exact ledger.of_untouched account
        (untouched_terminate connection account)

end

/-! ### Idle requests and stopped clients -/

theorem Account.idleIsFree (account : Account clientId quota state)
    (stands : Stands clientId state step)
    (busy : NeverIdle clientId state step) :
    IdleIsFree clientId state step := by
  intro idle
  cases step with
  | operation action => exact (untouched_operation account stands).used account
  | http surfaces moment claims accountHeaders request =>
      by_cases own : IsOwn clientId claims
      · change MeteredState.used
          (state.http surfaces moment claims accountHeaders request)
            clientId = _
        change (state.http surfaces moment claims accountHeaders
          request).ran.count clientId = _ at idle
        rcases http_own account own with
          same | ⟨valid, reads, client, registered, -, spends, metered⟩
        · rw [same]
        · obtain ⟨fits, runs⟩ :=
            busy own valid ⟨reads, client, registered, spends⟩
          obtain ⟨role, ownScopes⟩ := account.token own valid
          have statements := runs.executed_ne_nil
            (requireQueryScope_evaluation ownScopes)
          rw [metered] at idle
          dsimp only at idle
          rw [List.count_append, if_pos fits, count_ranFor_own own] at idle
          have some := List.length_pos_iff.mpr statements
          change _ + state.ran.count clientId = _ at idle
          omega
      · exact (untouched_http account own).used account
  | startup moment startupUser startupDatabase claims =>
      by_cases own : IsOwn clientId claims
      · change MeteredState.used
          (state.startup moment startupUser startupDatabase claims)
            clientId = _
        rcases startup_own account own with
          same | ⟨valid, started, reads, client, registered, -, spends, -⟩
        · rw [same]
        · exact absurd started
            (busy own valid ⟨reads, client, registered, spends⟩)
      · exact (untouched_startup account own).used account
  | query surfaces connection query =>
      change MeteredState.used (state.query surfaces connection query)
        clientId = _
      unfold MeteredState.query
      split <;> rfl
  | terminate connection =>
      exact (untouched_terminate connection account).used account

theorem Account.stoppedIsStill (account : Account clientId quota state)
    (stands : Stands clientId state step)
    (quiet : QuietWhenStopped clientId state step) :
    StoppedIsStill clientId state step := by
  rintro ⟨stopped, isStopped, inactive⟩
  cases step with
  | operation action => exact (untouched_operation account stands).ran
  | http surfaces moment claims accountHeaders request =>
      by_cases own : IsOwn clientId claims
      · change (state.http surfaces moment claims accountHeaders
          request).ran.count clientId = _
        rcases http_own account own with
          same | ⟨-, -, client, registered, -, spends, -⟩
        · rw [same]
        · rw [registered] at isStopped
          cases isStopped
          exact absurd spends.1 inactive
      · exact (untouched_http account own).ran
  | startup moment startupUser startupDatabase claims =>
      by_cases own : IsOwn clientId claims
      · change (state.startup moment startupUser startupDatabase
          claims).ran.count clientId = _
        rcases startup_own account own with
          same | ⟨-, -, -, client, -, -, -, metered⟩
        · rw [same]
        · rw [metered]
          rfl
      · exact (untouched_startup account own).ran
  | query surfaces connection query =>
      cases isHeld : state.connections[connection]? with
      | none =>
          refine (untouched_query account fun held found => ?_).ran
          rw [isHeld] at found
          cases found
      | some held =>
          by_cases own : IsOwn clientId held.claims
          · have refused := quiet held isHeld own
              ⟨stopped, isStopped, inactive⟩
            change (state.query surfaces connection query).ran.count
              clientId = _
            unfold MeteredState.query
            rw [isHeld]
            dsimp only
            rw [queryExecuted_of_refused refused, List.count_append,
              count_ranFor_own own]
            exact Nat.zero_add _
          · refine (untouched_query account fun other found => ?_).ran
            rw [isHeld] at found
            cases found
            exact own
  | terminate connection => exact (untouched_terminate connection account).ran

end Steps

/-! ## The quota along a run -/

/-- An evaluation account is registered. -/
def MeteredState.register (state : MeteredState) (moment : EvaluationMoment)
    (actor : AuthContext) (email : Option String) : MeteredState :=
  state.operate (.evaluation moment actor (.register email))

section Runs

variable {moment : EvaluationMoment} {actor : AuthContext}
  {email : Option String} {start : MeteredState}

theorem register_account (unused : Unused moment.clientId start) :
    Account moment.clientId moment.queryQuota
      (start.register moment actor email) where
  client :=
    ⟨_, ClientRegistry.insert_self _ _ _, rfl, rfl, rfl, rfl, Nat.zero_le _⟩
  record := unused.record
  issued := fun claims member isClient =>
    absurd isClient (unused.issued claims member)

theorem register_ledger (unused : Unused moment.clientId start) :
    Ledger moment.clientId (start.register moment actor email) := by
  have noConnection : unspent moment.clientId start.connections = 0 := by
    refine List.countP_eq_zero.mpr fun connection member => ?_
    rw [isUnspent_other (unused.connections connection member)]
    exact Bool.false_ne_true
  have noStatement : start.ran.count moment.clientId = 0 :=
    List.count_eq_zero.mpr unused.ran
  unfold Ledger
  change start.ran.count moment.clientId +
    unspent moment.clientId start.connections ≤ _
  rw [noStatement, noConnection]
  exact Nat.zero_le _

/--
As long as its registration stands, an evaluation client never uses more
requests than its quota.  Where a request and a connection run one statement
at most, it has no more statements run than its quota; where no request of it
is idle, idle steps are free; and where its open connections are quiet once it
is stopped, nothing runs for it from then on.
-/
theorem query_quota (steps : List (MeteredStep Row))
    (unused : Unused moment.clientId start)
    (stands : Along MeteredState.perform (Stands moment.clientId)
      (start.register moment actor email) steps) :
    (steps.foldl MeteredState.perform
        (start.register moment actor email)).used moment.clientId ≤
          moment.queryQuota ∧
      (Along MeteredState.perform (OneStatement moment.clientId)
          (start.register moment actor email) steps →
        (steps.foldl MeteredState.perform
          (start.register moment actor email)).ran.count moment.clientId ≤
            moment.queryQuota) ∧
      (Along MeteredState.perform (NeverIdle moment.clientId)
          (start.register moment actor email) steps →
        Along MeteredState.perform (IdleIsFree moment.clientId)
          (start.register moment actor email) steps) ∧
      (Along MeteredState.perform (QuietWhenStopped moment.clientId)
          (start.register moment actor email) steps →
        Along MeteredState.perform (StoppedIsStill moment.clientId)
          (start.register moment actor email) steps) := by
  have opened : Account moment.clientId moment.queryQuota
      (start.register moment actor email) := register_account unused
  have kept : ∀ (state : MeteredState) (step : MeteredStep Row),
      Account moment.clientId moment.queryQuota state →
      Stands moment.clientId state step →
      Account moment.clientId moment.queryQuota (state.perform step) :=
    fun _ _ account stands => account.perform stands
  have within : (steps.foldl MeteredState.perform
      (start.register moment actor email)).used moment.clientId ≤
        moment.queryQuota := by
    obtain ⟨client, registered, isAccount⟩ :=
      (stands.invariant kept opened).client
    rw [used_of_registered registered]
    exact isAccount.within
  refine ⟨within, fun single => ?_, fun busy => ?_, fun quiet => ?_⟩
  · have balanced : ∀ (state : MeteredState) (step : MeteredStep Row),
        Account moment.clientId moment.queryQuota state ∧
          Ledger moment.clientId state →
        Stands moment.clientId state step ∧
          OneStatement moment.clientId state step →
        Account moment.clientId moment.queryQuota (state.perform step) ∧
          Ledger moment.clientId (state.perform step) :=
      fun _ _ holds meets => ⟨holds.1.perform meets.1,
        holds.2.perform holds.1 meets.1 meets.2⟩
    obtain ⟨-, ledger⟩ := (stands.and single).invariant balanced
      ⟨opened, register_ledger unused⟩
    unfold Ledger at ledger
    omega
  · exact (stands.and busy).imply
      (fun state step account meets => kept state step account meets.1)
      (fun _ _ account meets => account.idleIsFree meets.1 meets.2) opened
  · exact (stands.and quiet).imply
      (fun state step account meets => kept state step account meets.1)
      (fun _ _ account meets => account.stoppedIsStill meets.1 meets.2) opened

end Runs

/-! ### Two runs of an evaluation client -/

/-- A trial of one query. -/
def trialMoment : EvaluationMoment := ⟨10, calm.hashSecret, some 1⟩

def trialSurfaces : QuerySurfaces Unit where
  engine := idleEngine
  timedEngine := (some <| idleEngine ·)
  timeoutSecs := 30
  policy := noGrants
  trusted := false

/-- The client gets a token with the secret of its registration. -/
def trialToken : MeteredStep Unit :=
  .operation (.token calmMoment
    ⟨"client_credentials", "eval-a", "opensnow-eval-a-sandbox-secret"⟩)

def trialStart : MeteredState :=
  MeteredState.fresh.register trialMoment analyst none

theorem fresh_unused (clientId : String) :
    Unused clientId MeteredState.fresh where
  record := Keyed.find_empty _
  issued := fun _ member => nomatch member
  connections := fun _ member => nomatch member
  ran := List.not_mem_nil

/-- The trial's one query over HTTP. -/
def trialRun : List (MeteredStep Unit) :=
  [trialToken,
    .http trialSurfaces calmMoment evalClaims []
      (.executeQuery "SELECT 1")]

theorem query_quota_trial :
    (trialRun.foldl MeteredState.perform trialStart).used "eval-a" ≤ 1 ∧
      (trialRun.foldl MeteredState.perform trialStart).ran.count "eval-a" ≤
        1 := by
  have stands : Along MeteredState.perform (Stands "eval-a") trialStart
      trialRun := ⟨id, trivial, trivial⟩
  have kept := query_quota trialRun (fresh_unused trialMoment.clientId) stands
  exact ⟨kept.1, kept.2.1 ⟨trivial, trivial, trivial⟩⟩

/-- Two statements on one connection, which is metered once. -/
def overrun : List (MeteredStep Unit) :=
  [trialToken, .startup calmMoment "eval-a" none evalClaims,
    .query trialSurfaces 0 "SELECT 1", .query trialSurfaces 0 "SELECT 1"]

theorem query_quota_fails :
    ¬ (overrun.foldl MeteredState.perform trialStart).ran.count
        trialMoment.clientId ≤ trialMoment.queryQuota := by
  decide

end OpenSnow.Server
