import OpenSnow.Server.QueryHandlers

/-!
# Surfaces that run a caller's SQL

Three surfaces run SQL for an authenticated caller when trusted SQL is off.
A text that reaches the engine should have passed the surface's validator and
the object policy.  Two surfaces keep to that; the distributed one does so
only for texts that would have passed anyway.
-/

namespace OpenSnow.Server

open Distributed

variable {Row : Type} (engine : Engine Row String)
  (timedEngine : TimedEngine Row) (timeoutSecs : Nat)
  (policy : ObjectPolicyStore) (auth : AuthContext)

/-- A request of an authenticated caller. -/
inductive SurfaceRequest where
  | executeQuery (sql : String)
  | distributedQuery (queryId : String) (request : DistributedQueryRequest)
  | doQuery (query : String)
deriving DecidableEq, Repr

/-- The validator of a surface. -/
def SurfaceRequest.validateDemoSql :
    SurfaceRequest → String → Except String String
  | .executeQuery _ | .distributedQuery _ _ => Rest.validateDemoSql
  | .doQuery _ => SqlGuardrails.validateDemoSql

/-- The texts that reach the engine, behind the route guard. -/
def SurfaceRequest.executed : SurfaceRequest → List String
  | .executeQuery sql =>
      if requireQueryScope auth then
        (Server.executeQuery timedEngine timeoutSecs (some auth) (some policy)
          sql).executed
      else []
  | .distributedQuery queryId request =>
      if requireQueryScope auth then
        (Server.distributedQuery engine queryId request).executed
      else []
  | .doQuery query =>
      (Server.doQuery engine false (some ⟨policy, some (.ok auth)⟩)
        query).executed

/-- The validator accepted the text, or returned it for one it accepted. -/
def Accepted (validate : String → Except String String) (text : String) :
    Prop :=
  ∃ raw statement, validate raw = .ok statement ∧
    (text = raw ∨ text = statement)

/-- The text passed the validator and the object policy. -/
def Gated (validate : String → Except String String) (text : String) : Prop :=
  Accepted validate text ∧ policy.checkSql auth text = .allow

/-- The texts that a distributed query is made of. -/
def DistributedQueryRequest.texts (request : DistributedQueryRequest) :
    List String :=
  if request.partitionCount = 1 ∨ request.strategy = .replicate then
    [request.sql]
  else
    (List.range request.partitionCount).map fun index =>
      fragmentSql request.sql request.partitionCount index request.strategy

/-! ## What reaches the engine -/

theorem executed_executeQuery {auth : AuthContext} {raw text : String}
    (member :
      text ∈ (executeQuery timedEngine timeoutSecs (some auth) (some policy)
        raw).executed) :
    Gated policy auth Rest.validateDemoSql text := by
  rw [executeQuery] at member
  split at member
  · cases member
  · rename_i sql valid
    split at member
    · cases member
    · rename_i allowed
      rw [List.mem_singleton.mp member]
      exact ⟨⟨raw, sql, valid, Or.inr rfl⟩, allowed⟩

theorem authorizePgwireSql_ok {auth : AuthContext} {sql : String}
    (authorised : authorizePgwireSql policy auth sql = .ok ()) :
    policy.checkSql auth sql = .allow := by
  rw [authorizePgwireSql] at authorised
  split at authorised
  · cases authorised
  · split at authorised
    · assumption
    · cases authorised

theorem executed_doQuery {auth : AuthContext} {raw text : String}
    (member :
      text ∈ (doQuery engine false (some ⟨policy, some (.ok auth)⟩)
        raw).executed) :
    Gated policy auth SqlGuardrails.validateDemoSql text := by
  rw [doQuery] at member
  split at member
  · cases member
  · rename_i query accepted
    split at member
    · cases member
    · rename_i authorised
      rw [List.mem_singleton.mp member]
      constructor
      · refine ⟨raw, query, ?_, Or.inr rfl⟩
        cases valid : SqlGuardrails.validateDemoSql raw with
        | error message => simp [acceptPgQuery, valid, Except.mapError] at accepted
        | ok statement =>
            simp only [acceptPgQuery, valid, Except.mapError, Bool.false_eq_true,
              if_false, Except.ok.injEq] at accepted
            rw [accepted]
      · apply authorizePgwireSql_ok
        cases checked : authorizePgwireSql policy auth query with
        | error reason =>
            simp [authorizePgQuery, checked, Except.mapError] at authorised
        | ok _ => rfl

theorem partitionCount_pos (request : DistributedQueryRequest) :
    0 < request.partitionCount := by
  rw [DistributedQueryRequest.partitionCount]
  omega

theorem partitionCount_lt (request : DistributedQueryRequest) :
    request.partitionCount < 2 ^ 32 := by
  have bound := (request.partitions.getD 2).toNat_lt
  rw [DistributedQueryRequest.partitionCount]
  omega

theorem executed_distributedQuery (queryId : String)
    (request : DistributedQueryRequest) :
    (distributedQuery engine queryId request).executed =
      (List.range request.partitionCount).map fun index =>
        if request.partitionCount = 1 then request.sql
        else
          fragmentSql request.sql request.partitionCount index
            request.strategy := by
  have positive := partitionCount_pos request
  have wraps :
      request.partitionCount % 2 ^ 32 = request.partitionCount :=
    Nat.mod_eq_of_lt (partitionCount_lt request)
  have atLeastOne : max request.partitionCount 1 = request.partitionCount :=
    Nat.max_eq_left positive
  simp only [distributedQuery, assignments, List.length_map,
    List.length_range, wraps]
  have sqlOfZip : ∀ (fragments : List PartitionedFragment)
      (workers : List (WorkerExecutor Row String)),
      fragments.length ≤ workers.length →
        (fragments.zip workers).map (·.1.sql) = fragments.map (·.sql) := by
    intro fragments workers enough
    rw [← List.map_fst_zip enough, List.map_map, List.map_fst_zip enough]
    rfl
  rw [sqlOfZip]
  · simp only [splitQuery, atLeastOne, List.map_map]
    rfl
  · simp [length_splitQuery, atLeastOne]

/-- A distributed query runs all its texts and no others. -/
theorem mem_executed_distributedQuery {queryId text : String}
    {request : DistributedQueryRequest} :
    text ∈ (distributedQuery engine queryId request).executed ↔
      text ∈ request.texts := by
  have positive := partitionCount_pos request
  rw [executed_distributedQuery, DistributedQueryRequest.texts]
  by_cases same :
      request.partitionCount = 1 ∨ request.strategy = .replicate
  · have constant : ∀ index,
        (if request.partitionCount = 1 then request.sql
          else
            fragmentSql request.sql request.partitionCount index
              request.strategy) =
          request.sql := by
      intro index
      rcases same with single | replicated
      · rw [if_pos single]
      · rw [replicated]
        exact ite_self _
    rw [if_pos same, List.mem_singleton, List.mem_map]
    simp only [constant]
    constructor
    · rintro ⟨-, -, rfl⟩
      rfl
    · rintro rfl
      exact ⟨0, List.mem_range.mpr positive, rfl⟩
  · rw [if_neg same]
    simp only [if_neg (not_or.mp same).1]

/-! ## The gate -/

/--
Every text of a request that reaches the engine has passed the surface's
validator and the object policy.
-/
def UniformGate (request : SurfaceRequest) : Prop :=
  ∀ text ∈ request.executed engine timedEngine timeoutSecs policy auth,
    Gated policy auth request.validateDemoSql text

/--
The gate holds on every request but a distributed one that the route guard
lets through, and on that one exactly when its texts would pass.
-/
theorem uniformGate_iff (request : SurfaceRequest) :
    UniformGate engine timedEngine timeoutSecs policy auth request ↔
      ∀ queryId distributed,
        request = .distributedQuery queryId distributed →
          requireQueryScope auth →
            ∀ text ∈ distributed.texts,
              Gated policy auth Rest.validateDemoSql text := by
  cases request with
  | executeQuery sql =>
      constructor
      · intro _ queryId distributed other
        cases other
      · intro _ text member
        rw [SurfaceRequest.executed] at member
        split at member
        · exact executed_executeQuery timedEngine timeoutSecs policy member
        · cases member
  | distributedQuery queryId distributed =>
      constructor
      · intro gate otherId other same admitted text member
        rw [SurfaceRequest.distributedQuery.injEq] at same
        apply gate text
        rw [SurfaceRequest.executed, if_pos admitted,
          mem_executed_distributedQuery, same.2]
        exact member
      · intro passes text member
        rw [SurfaceRequest.executed] at member
        split at member
        · rename_i admitted
          rw [mem_executed_distributedQuery] at member
          exact passes queryId distributed rfl admitted text member
        · cases member
  | doQuery query =>
      constructor
      · intro _ queryId distributed other
        cases other
      · intro _ text member
        exact executed_doQuery engine policy member

/-- An engine that answers everything with nothing. -/
def idleEngine : Engine Unit String := fun _ => .ok []

/-- A policy with an empty table. -/
def noGrants : ObjectPolicyStore := ⟨.empty⟩

theorem restrictedOrders_not_uniformGate :
    ¬ analyst.isPlatformAdmin ∧
      (executeQuery (some <| idleEngine ·) 30 (some analyst) (some noGrants)
          "SELECT * FROM restricted_orders").response =
        .error
          ("object policy denied: role lacks SELECT on TABLE " ++
            "restricted_orders") ∧
      (distributedQuery idleEngine "query"
          ⟨"SELECT * FROM restricted_orders", none, none⟩).response =
        .ok 2 0 [] ∧
      ¬ UniformGate idleEngine (some <| idleEngine ·) 30 noGrants analyst
          (.distributedQuery "query"
            ⟨"SELECT * FROM restricted_orders", none, none⟩) := by
  refine ⟨by decide, by decide, by decide, ?_⟩
  intro gate
  have denied :
      noGrants.checkSql analyst "SELECT * FROM restricted_orders" ≠
        .allow := by
    decide
  exact denied (gate _ (by decide)).2

/--
Whatever the policy denies to a caller behind the route guard, the caller runs
it as it stands through the distributed surface, and through no other.
-/
theorem denied_text_runs_distributed {sql : String}
    (admitted : requireQueryScope auth)
    (denied : policy.checkSql auth sql ≠ .allow)
    (queryId : String) (partitions : Option UInt32) :
    (sql ∈ (SurfaceRequest.distributedQuery queryId
        ⟨sql, partitions, none⟩).executed engine timedEngine timeoutSecs
          policy auth) ∧
      ∀ request : SurfaceRequest,
        sql ∈ request.executed engine timedEngine timeoutSecs policy auth →
          ∃ queryId distributed,
            request = .distributedQuery queryId distributed := by
  constructor
  · have replicated :
        (⟨sql, partitions, none⟩ : DistributedQueryRequest).strategy =
          .replicate := rfl
    rw [SurfaceRequest.executed, if_pos admitted,
      mem_executed_distributedQuery, DistributedQueryRequest.texts,
      if_pos (Or.inr replicated)]
    exact List.mem_singleton.mpr rfl
  · intro request member
    cases request with
    | distributedQuery queryId distributed => exact ⟨_, _, rfl⟩
    | executeQuery raw =>
        rw [SurfaceRequest.executed, if_pos admitted] at member
        exact
          absurd
            (executed_executeQuery timedEngine timeoutSecs policy member).2
            denied
    | doQuery raw =>
        exact absurd (executed_doQuery engine policy member).2 denied

theorem restrictedOrders_runs_distributed :
    "SELECT * FROM restricted_orders" ∈
      (SurfaceRequest.distributedQuery "query"
        ⟨"SELECT * FROM restricted_orders", none, none⟩).executed idleEngine
          (some <| idleEngine ·) 30 noGrants analyst :=
  (denied_text_runs_distributed idleEngine (some <| idleEngine ·) 30
    noGrants analyst (by decide) (by decide) "query" none).1

end OpenSnow.Server
