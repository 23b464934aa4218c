import OpenSnow.Mcp.Sessions
import OpenSnow.Sql.Relations

/-!
# One object policy for every route

Every table that a request reads is one that the caller may read.  The routes
that hand the caller's text to the analyser keep this up to what the analyser
misses; the others keep it when they read no table at all.
-/

namespace OpenSnow.Mcp

open Auth
open Rust.Json
open Rust.Text
open Server (Claims normalizeObjectName)
open Sql

/-! ## What is promised -/

/-- The relation is a view of the information schema. -/
def isSchemaView (relation : String) : Bool :=
  startsWith (toAsciiLowercase relation) "information_schema."

/-- The tables and views of users that a text reads. -/
def baseRelations (sql : String) : List String :=
  (relationsRead sql).filter (!isSchemaView ·)

/-- The arguments of a `query` call. -/
def queryArguments (sql : String) : Value := .record [("sql", .string sql)]

/-- The object policy holds for a request of any caller of the mode. -/
structure Uniform (world : AgentWorld) (mode : Mode) (request : Request) :
    Prop where
  /-- Every table read is one that the role of the claims may `SELECT` from. -/
  reads : ∀ session : Session, session.mode = mode → session.Accepts request →
    ∀ statement ∈ request.statements world,
      ∀ relation ∈ baseRelations statement.text,
        session.policy.Authorises session.claims.role .select .table
          (normalizeObjectName relation)
  /-- No SQL of the caller is executed that its analysis does not let pass. -/
  analysed : ∀ session : Session, session.mode = mode →
    session.Accepts request → request.statements world ≠ [] →
      ∀ sql ∈ request.embedded,
        authorizeSqlForClaims session.claims session.policy sql = .ok ()
  /-- For a provider's token `/query` decides as the `query` tool does. -/
  parity : mode ≠ .hs256 → ∀ sql, request = .query sql →
    ∀ session : Session, session.mode = mode →
      (session.Accepts (.query sql) ↔
        session.Accepts (.toolsCall .query (queryArguments sql)))

/-- Some caller can be let through with the text by the analyser. -/
def Passable (sql : String) : Prop :=
  ∃ reqs, analyzeMcpSql sql = .ok reqs ∧
    (reqs ≠ [] ∨ isSafeObjectlessQuery sql)

/-- If a text can pass, every table it reads stands behind a `FROM` or `JOIN`. -/
def ReadsIntroduced (sql : String) : Prop :=
  Passable sql →
    ∀ relation ∈ baseRelations sql,
      Introduced (tokenizeSql sql) (normalizeObjectName relation)

/-- The text is a query that asks for nothing. -/
def AsksNothing (sql : String) : Prop :=
  analyzeMcpSql sql = .ok [] ∧ isSafeObjectlessQuery sql

/-- No table is read, and no SQL of the caller asks for anything. -/
structure Request.Harmless (world : AgentWorld) (request : Request) :
    Prop where
  reads : ∀ statement ∈ request.statements world,
    baseRelations statement.text = []
  embedded : request.statements world ≠ [] →
    ∀ sql ∈ request.embedded, AsksNothing sql

/-- When a request of the mode is covered by the policy. -/
def Request.Covered (world : AgentWorld) : Mode → Request → Prop
  | .hs256, .query sql => ReadsIntroduced sql
  | .external, .query _ => False
  | .beside, .query sql => ¬ Passable sql
  | .hs256, .safeRunSql sql => startsAsQuery sql → ReadsIntroduced sql
  | .external, .safeRunSql sql =>
      startsAsQuery sql → (Request.safeRunSql sql).Harmless world
  | .beside, .safeRunSql _ => True
  | _, .toolsCall .query arguments => ReadsIntroduced (sqlArgument arguments)
  | _, request => request.Harmless world

/-! ## Callers -/

/-- Claims with every scope that a tool asks for and that makes no admin. -/
def workerClaims : Claims :=
  ⟨1, "test-user", "ANALYST", "default",
    ["sql.query", "table.select", "mcp.read", "table.create",
      "pipeline.admin"],
    none, none⟩

/-- Claims without a scope. -/
def strangerClaims : Claims :=
  ⟨1, "test-user", "ANALYST", "default", [], none, none⟩

theorem worker_not_admin : ¬ isPlatformAdmin workerClaims := by
  decide

theorem stranger_not_admin : ¬ isPlatformAdmin strangerClaims := by
  decide

/-- A caller of the mode who has every such scope. -/
def worker (mode : Mode) (policy : PrivilegeStore) : Session :=
  .for mode workerClaims policy worker_not_admin

theorem worker_mode (mode : Mode) (policy : PrivilegeStore) :
    (worker mode policy).mode = mode :=
  Session.for_mode worker_not_admin

/-! ## Texts that the analyser sees -/

/-- The table that lets analysts do just what these requirements ask for. -/
def granted (reqs : List Requirement) : PrivilegeStore :=
  .granting "ANALYST" reqs

variable {sql : String}

theorem authorizeSql_granted {reqs : List Requirement}
    (ok : analyzeMcpSql sql = .ok reqs)
    (asked : reqs ≠ [] ∨ isSafeObjectlessQuery sql) :
    authorizeSqlForClaims workerClaims (granted reqs) sql = .ok () := by
  rw [authorizeSqlForClaims_ok_iff worker_not_admin]
  exact
    ⟨reqs, ok, asked, fun req member =>
      ⟨granted reqs, rfl, granting_authorises member⟩⟩

variable {session : Session}

theorem passable_of_authorised
    (ok : authorizeSqlForClaims session.claims session.policy sql = .ok ()) :
    Passable sql := by
  rcases (authorizeSqlForClaims_ok_iff session.notAdmin).mp ok with
    ⟨reqs, analysed, asked, -⟩
  exact ⟨reqs, analysed, asked⟩

/-- What is read behind a `FROM` or `JOIN` of a text that passed is authorised. -/
theorem authorises_of_introduced {sql name : String}
    (ok : authorizeSqlForClaims session.claims session.policy sql = .ok ())
    (introduced : Introduced (tokenizeSql sql) name) :
    session.policy.Authorises session.claims.role .select .table name := by
  rcases (authorizeSqlForClaims_ok_iff session.notAdmin).mp ok with
    ⟨reqs, analysed, asked, authorised⟩
  rcases looked_of_asked analysed asked with ⟨first, rest, tokens, looked⟩
  rw [tokens] at introduced
  have member :=
    ((analysed_of_ok tokens looked analysed).select _ rfl).mpr
      ⟨name, introduced, rfl⟩
  rcases authorised _ member with ⟨store, ⟨⟩, allowed⟩
  exact allowed

/-- What the requirements of a text let an analyst read is introduced. -/
theorem introduced_of_granted {sql name : String} {reqs : List Requirement}
    (ok : analyzeMcpSql sql = .ok reqs)
    (asked : reqs ≠ [] ∨ isSafeObjectlessQuery sql)
    (authorised : (granted reqs).Authorises "ANALYST" .select .table name) :
    Introduced (tokenizeSql sql) name := by
  rcases of_granting_authorises (by decide) authorised with
    ⟨privilege, member, covers⟩
  rcases looked_of_asked ok asked with ⟨first, rest, tokens, looked⟩
  rw [tokens]
  rcases ((analysed_of_ok tokens looked ok).select _ covers).mp member with
    ⟨other, introduced, same⟩
  simp only [Prod.mk.injEq, true_and] at same
  rwa [same.2]

variable {mode : Mode} {request : Request}

/-- What a guarded text needs, if the mode has callers that are let through. -/
theorem readsIntroduced_iff {extra : Session → Prop}
    (accepts : ∀ session : Session, session.mode = mode →
      (session.Accepts request ↔
        extra session ∧
          authorizeSqlForClaims session.claims session.policy sql = .ok ()))
    (worker_extra : ∀ policy, extra (worker mode policy)) :
    (∀ session : Session, session.mode = mode → session.Accepts request →
      ∀ relation ∈ baseRelations sql,
        session.policy.Authorises session.claims.role .select .table
          (normalizeObjectName relation)) ↔
      ReadsIntroduced sql := by
  constructor
  · rintro reads ⟨reqs, ok, asked⟩ relation member
    have accepted : (worker mode (granted reqs)).Accepts request :=
      (accepts _ (worker_mode mode _)).mpr
        ⟨worker_extra _, authorizeSql_granted ok asked⟩
    exact
      introduced_of_granted ok asked
        (reads _ (worker_mode mode _) accepted relation member)
  · intro introduced session is accepted relation member
    have ok := ((accepts session is).mp accepted).2
    exact
      authorises_of_introduced ok
        (introduced (passable_of_authorised ok) relation member)

/-! ## Requests that nothing is checked for -/

theorem asksNothing_iff :
    AsksNothing sql ↔
      authorizeSqlForClaims workerClaims PrivilegeStore.empty sql = .ok () := by
  rw [authorizeSqlForClaims_ok_iff worker_not_admin]
  constructor
  · rintro ⟨ok, query⟩
    exact ⟨[], ok, Or.inr query, by simp⟩
  · rintro ⟨reqs, ok, asked, authorised⟩
    have nothing : reqs = [] := by
      rw [List.eq_nil_iff_forall_not_mem]
      intro req member
      rcases authorised req member with ⟨store, ⟨⟩, allowed⟩
      rw [authorises_iff (by decide)] at allowed
      rcases allowed with ⟨-, row, known, -⟩
      cases known
    rw [nothing] at ok asked
    exact ⟨ok, asked.resolve_left (by simp)⟩

theorem authorizeSql_of_asksNothing (nothing : AsksNothing sql) :
    authorizeSqlForClaims session.claims session.policy sql = .ok () := by
  rw [authorizeSqlForClaims_ok_iff session.notAdmin]
  exact ⟨[], nothing.1, Or.inr nothing.2, by simp⟩

theorem not_authorises_empty (name : String) :
    ¬ PrivilegeStore.empty.Authorises "ANALYST" .select .table name := by
  rw [authorises_iff (by decide)]
  rintro ⟨-, row, known, -⟩
  cases known

variable {world : AgentWorld}

/-- A request that is let through unseen must be harmless. -/
theorem uniform_iff_harmless
    (opens : (worker mode PrivilegeStore.empty).Accepts request)
    (other : mode ≠ .hs256 → ∀ sql, request ≠ .query sql) :
    Uniform world mode request ↔ request.Harmless world := by
  constructor
  · intro uniform
    constructor
    · intro statement member
      rw [List.eq_nil_iff_forall_not_mem]
      intro relation read
      exact
        not_authorises_empty _
          (uniform.reads _ (worker_mode mode _) opens statement member
            relation read)
    · intro runs sql member
      rw [asksNothing_iff]
      exact uniform.analysed _ (worker_mode mode _) opens runs sql member
  · intro harmless
    constructor
    · intro session is accepted statement member relation read
      rw [harmless.reads statement member] at read
      cases read
    · intro session is accepted runs sql member
      exact authorizeSql_of_asksNothing (harmless.embedded runs sql member)
    · intro provider sql same
      exact absurd same (other provider sql)

/-- A request that is never let through, or none but `/query` could be. -/
theorem uniform_of_refused
    (refused : ∀ session : Session, session.mode = mode →
      ¬ session.Accepts request)
    (other : mode ≠ .hs256 → ∀ sql, request ≠ .query sql) :
    Uniform world mode request where
  reads := fun session is accepted => absurd accepted (refused session is)
  analysed := fun session is accepted => absurd accepted (refused session is)
  parity := fun provider sql same => absurd same (other provider sql)

/-- A request whose one statement the analyser sees first. -/
theorem uniform_iff_guarded {world : AgentWorld} {mode : Mode}
    {request : Request} {sql : String} {extra : Session → Prop}
    (accepts : ∀ session : Session, session.mode = mode →
      (session.Accepts request ↔
        extra session ∧
          authorizeSqlForClaims session.claims session.policy sql = .ok ()))
    (worker_extra : ∀ policy, extra (worker mode policy))
    (runs : request.statements world = [.sql sql])
    (embeds : request.embedded = [sql])
    (other : mode ≠ .hs256 → ∀ sql, request ≠ .query sql) :
    Uniform world mode request ↔ ReadsIntroduced sql := by
  rw [← readsIntroduced_iff accepts worker_extra]
  constructor
  · intro uniform session is accepted
    have reads := uniform.reads session is accepted
    rw [runs, List.forall_mem_singleton] at reads
    exact reads
  · intro reads
    constructor
    · intro session is accepted
      rw [runs, List.forall_mem_singleton]
      exact reads session is accepted
    · intro session is accepted _
      rw [embeds, List.forall_mem_singleton]
      exact ((accepts session is).mp accepted).2
    · intro provider sql same
      exact absurd same (other provider sql)

/-! ## When the policy is uniform -/

theorem accepts_queryTool_iff (session : Session) (arguments : Value) :
    session.Accepts (.toolsCall .query arguments) ↔
      claimsSatisfy session.claims [] queryScopes ∧
        authorizeSqlForClaims session.claims session.policy
            (sqlArgument arguments) = .ok () := by
  rw [session.accepts_toolsCall_iff, authorizeClaimsForTool,
    if_neg (by decide), if_pos (by rfl)]
  cases satisfied : claimsSatisfy session.claims [] queryScopes with
  | false =>
      rw [show ["sql.query", "table.select"] = queryScopes from rfl, satisfied]
      simp
  | true =>
      rw [show ["sql.query", "table.select"] = queryScopes from rfl, satisfied]
      simp

theorem worker_calls {tool : Tool} (other : tool ≠ .query) (mode : Mode)
    (policy : PrivilegeStore) (arguments : Value) :
    (worker mode policy).Accepts (.toolsCall tool arguments) := by
  rw [Session.accepts_toolsCall_iff, authorizeClaimsForTool]
  have kinds : tool.name ∈ readTools ∨
      tool.name ∈ ["create_table", "materialized_view_create"] := by
    revert other
    cases tool <;> decide
  change (if tool.name ∈ readTools then _ else _) = _
  rcases kinds with reads | writes
  · rw [if_pos reads]
    rfl
  · simp only [List.mem_cons, List.not_mem_nil, or_false] at writes
    rcases writes with creates | creates
    · rw [creates]
      rfl
    · rw [creates]
      rfl

theorem uniform_query_iff :
    Uniform world mode (.query sql) ↔ (Request.query sql).Covered world mode := by
  cases mode with
  | hs256 =>
      apply
        @uniform_iff_guarded _ _ _ _
          (fun session => claimsSatisfy session.claims queryScopes [])
      · intro session is
        rw [session.accepts_query_iff, is]
      · intro policy
        change (claimsSatisfy workerClaims queryScopes [] : Prop)
        decide
      · rfl
      · rfl
      · intro provider
        exact absurd rfl provider
  | external =>
      apply iff_of_false _ not_false
      intro uniform
      let stranger :=
        Session.for .external strangerClaims .empty stranger_not_admin
      have is : stranger.mode = .external := Session.for_mode stranger_not_admin
      have same := uniform.parity (by decide) sql rfl stranger is
      rw [stranger.accepts_query_iff, is, accepts_queryTool_iff] at same
      have satisfied := (same.mp trivial).1
      revert satisfied
      change ¬ (claimsSatisfy strangerClaims [] queryScopes : Prop)
      decide
  | beside =>
      constructor
      · rintro uniform ⟨reqs, ok, asked⟩
        have is := worker_mode .beside (granted reqs)
        have same := uniform.parity (by decide) sql rfl _ is
        rw [Session.accepts_query_iff, is, accepts_queryTool_iff] at same
        apply same.mpr
        constructor
        · change (claimsSatisfy workerClaims [] queryScopes : Prop)
          decide
        · exact authorizeSql_granted ok asked
      · intro impassable
        have refused : ∀ session : Session, session.mode = .beside →
            ¬ session.Accepts (.query sql) := by
          intro session is
          rw [session.accepts_query_iff, is]
          exact not_false
        constructor
        · intro session is accepted
          exact absurd accepted (refused session is)
        · intro session is accepted
          exact absurd accepted (refused session is)
        · rintro - other ⟨⟩ session is
          apply iff_of_false (refused session is)
          rw [accepts_queryTool_iff]
          rintro ⟨-, ok⟩
          exact impassable (passable_of_authorised ok)

theorem uniform_safeRunSql_iff :
    Uniform world mode (.safeRunSql sql) ↔
      (Request.safeRunSql sql).Covered world mode := by
  by_cases starts : startsAsQuery sql
  · cases mode with
    | hs256 =>
        rw [Request.Covered, forall_prop_of_true starts]
        apply
          @uniform_iff_guarded _ _ _ _
            (fun session =>
              claimsSatisfy session.claims queryScopes [] ∧ startsAsQuery sql)
        · intro session is
          rw [session.accepts_safeRunSql_iff, is]
          exact and_assoc.symm
        · intro policy
          refine ⟨?_, starts⟩
          change (claimsSatisfy workerClaims queryScopes [] : Prop)
          decide
        · rfl
        · rfl
        · intro provider
          exact absurd rfl provider
    | external =>
        rw [Request.Covered, forall_prop_of_true starts]
        apply uniform_iff_harmless
        · rw [Session.accepts_safeRunSql_iff, worker_mode]
          exact ⟨by decide, starts⟩
        · rintro - other ⟨⟩
    | beside =>
        apply iff_of_true _ trivial
        apply uniform_of_refused
        · intro session is
          rw [session.accepts_safeRunSql_iff, is]
          exact not_false
        · rintro - other ⟨⟩
  · have refused : ∀ session : Session, session.mode = mode →
        ¬ session.Accepts (.safeRunSql sql) := by
      intro session is
      rw [session.accepts_safeRunSql_iff]
      cases session.mode with
      | hs256 => exact fun accepted => starts accepted.2.1
      | external => exact fun accepted => starts accepted.2
      | beside => exact not_false
    apply iff_of_true (uniform_of_refused refused (by rintro - other ⟨⟩))
    cases mode with
    | hs256 => exact fun query => absurd query starts
    | external => exact fun query => absurd query starts
    | beside => trivial

theorem not_passable_empty : ¬ Passable "" := by
  rintro ⟨reqs, ok, asked⟩
  have nothing : analyzeMcpSql "" = .ok [] := rfl
  rw [nothing, Except.ok.injEq] at ok
  rcases asked with nonempty | query
  · exact nonempty ok.symm
  · revert query
    decide

theorem uniform_queryTool_iff {arguments : Value} :
    Uniform world mode (.toolsCall .query arguments) ↔
      ReadsIntroduced (sqlArgument arguments) := by
  cases given : strParam arguments "sql" with
  | none =>
      have empty : sqlArgument arguments = "" := by
        change (strParam arguments "sql").getD "" = ""
        rw [given]
        rfl
      rw [empty]
      apply iff_of_true
      · apply uniform_of_refused
        · intro session is
          rw [accepts_queryTool_iff, empty]
          rintro ⟨-, ok⟩
          exact not_passable_empty (passable_of_authorised ok)
        · rintro - other ⟨⟩
      · intro passable
        exact absurd passable not_passable_empty
  | some sql =>
      have isSql : sqlArgument arguments = sql := by
        change (strParam arguments "sql").getD "" = sql
        rw [given]
        rfl
      rw [isSql]
      apply
        @uniform_iff_guarded _ _ _ _
          (fun session => claimsSatisfy session.claims [] queryScopes)
      · intro session is
        rw [accepts_queryTool_iff, isSql]
      · intro policy
        change (claimsSatisfy workerClaims [] queryScopes : Prop)
        decide
      · rw [Request.statements, handleToolCall, given]
      · rw [Request.embedded, given]
        rfl
      · rintro - other ⟨⟩

/--
A request keeps to the object policy exactly when the analyser sees its text
and misses none of its tables, or nothing of it needs to be seen.  A provider's
token on `/query` never does where there is no shared secret; beside one it is
refused whatever the tool would answer.
-/
theorem uniform_iff (world : AgentWorld) (mode : Mode) (request : Request) :
    Uniform world mode request ↔ request.Covered world mode := by
  cases request with
  | query sql => exact uniform_query_iff
  | safeRunSql sql => exact uniform_safeRunSql_iff
  | toolsCall tool arguments =>
      by_cases queries : tool = .query
      · rw [queries]
        have same : (Request.toolsCall .query arguments).Covered world mode =
            ReadsIntroduced (sqlArgument arguments) := by
          cases mode <;> rfl
        rw [same]
        exact uniform_queryTool_iff
      · have same : (Request.toolsCall tool arguments).Covered world mode =
            (Request.toolsCall tool arguments).Harmless world := by
          cases tool with
          | query => exact absurd rfl queries
          | _ => cases mode <;> rfl
        rw [same]
        apply uniform_iff_harmless (worker_calls queries mode _ arguments)
        rintro - other ⟨⟩
  | resourcesRead uri =>
      have same : (Request.resourcesRead uri).Covered world mode =
          (Request.resourcesRead uri).Harmless world := by
        cases mode <;> rfl
      rw [same]
      apply uniform_iff_harmless
      · rw [Session.accepts_resourcesRead_iff]
        change (claimsSatisfy workerClaims [] readScopes : Prop)
        decide
      · rintro - other ⟨⟩
  | agentTask | tableSchema | sampleData | explain =>
      cases mode <;>
        exact
          uniform_iff_harmless ((Session.accepts_iff _ _).mpr rfl)
            (by rintro - other ⟨⟩)

/-! ## Tables that are read without a grant -/

theorem not_uniform_of_read {statement : Statement} {relation : String}
    (accepted : session.Accepts request)
    (runs : statement ∈ request.statements world)
    (read : relation ∈ baseRelations statement.text) (unauthorised :
      ¬ session.policy.Authorises session.claims.role .select .table
          (normalizeObjectName relation)) :
    ¬ Uniform world session.mode request := fun uniform =>
  unauthorised
    (uniform.reads session rfl accepted statement runs relation read)

/-- Requests for a table that the caller may not read, each let through. -/
theorem secret_read_ungranted :
    let world : AgentWorld := ⟨[], none⟩
    let arguments : Value :=
      .record
        [("table_name", .string "copy"),
          ("select_sql", .string "SELECT * FROM secret")]
    ¬ Uniform world .external (.query "SELECT * FROM secret") ∧
      ¬ Uniform world .hs256 (.toolsCall .createTable arguments) ∧
      ¬ Uniform world .hs256 (.sampleData "secret") := by
  intro world arguments
  let policy := PrivilegeStore.reading "ANALYST" ["allowed"]
  have unauthorised :
      ¬ policy.Authorises "ANALYST" .select .table
          (normalizeObjectName "secret") := by
    decide
  refine ⟨?_, ?_, ?_⟩
  · have is := worker_mode .external policy
    have accepted :
        (worker .external policy).Accepts (.query "SELECT * FROM secret") := by
      rw [Session.accepts_query_iff, is]
      trivial
    have read : "secret" ∈ baseRelations "SELECT * FROM secret" := by
      decide
    rw [← is]
    exact not_uniform_of_read accepted List.mem_cons_self read unauthorised
  · have is := worker_mode .hs256 policy
    have accepted := @worker_calls .createTable (by decide) .hs256 policy
      arguments
    have read : "secret" ∈
        baseRelations "CREATE TABLE copy AS SELECT * FROM secret" := by
      decide
    have runs : Statement.sql "CREATE TABLE copy AS SELECT * FROM secret" ∈
        (Request.toolsCall .createTable arguments).statements world := by
      change _ ∈ createTable arguments
      decide
    rw [← is]
    exact not_uniform_of_read accepted runs read unauthorised
  · have is := worker_mode .hs256 policy
    have accepted : (worker .hs256 policy).Accepts (.sampleData "secret") :=
      (Session.accepts_iff _ _).mpr rfl
    have read : "secret" ∈ baseRelations "SELECT * FROM secret LIMIT 5" := by
      decide
    rw [← is]
    exact not_uniform_of_read accepted List.mem_cons_self read unauthorised

end OpenSnow.Mcp
