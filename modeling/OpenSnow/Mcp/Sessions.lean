import OpenSnow.Mcp.PolicyCoverage
import OpenSnow.Mcp.Tools

/-!
# The routes of the MCP server

Who may call a route, as the middleware, the JSON-RPC handler and the handlers
that look at the headers decide it, and the SQL that a request makes the
engine execute.  The middleware lets every caller with claims through; what the
handlers then know of the claims depends on the token, since some of them look
for the shared secret alone.
-/

namespace OpenSnow.Mcp

open Auth
open Rust.Json
open Rust.Text
open Server (Claims)

/-! ## Authentication -/

/-- The role of each token; a token that has none is anonymous. -/
structure RoleMap where
  roleFor : String → Option String

def RoleMap.canWrite (roles : RoleMap) (token : String) : Bool :=
  (roles.roleFor token).getD "anonymous" ∈ ["admin", "analyst"]

/--
The configuration.  A validator gives the claims of the tokens that it accepts:
the provider's accepts signatures with a private key alone, the other one those
with the shared secret alone.
-/
structure AuthConfig where
  /-- `JwtManager::validate_token` under the secret, if there is one. -/
  jwt : Option (String → Option Claims)
  authToken : Option String
  roles : RoleMap
  objectPolicy : Option PrivilegeStore
  /-- `ExternalIdpVerifier::verify`, if a provider is configured. -/
  externalIdp : Option (String → Option Claims)
  separate : ∀ validate ∈ jwt, ∀ verify ∈ externalIdp, ∀ token,
    (validate token).isSome → verify token = none

/-- `extract_bearer` and `bearer_from_headers`, on the authorization header. -/
def bearerFromHeaders (authorization : Option String) : Option String :=
  authorization.bind fun value =>
    if startsWith value "Bearer " then
      some (String.ofList (trim (value.toList.drop 7)))
    else none

/-- What the provider's verifier says of the token. -/
def AuthConfig.verified (config : AuthConfig)
    (authorization : Option String) : Option Claims :=
  config.externalIdp.bind fun verify =>
    (bearerFromHeaders authorization).bind verify

/-- A provider is configured, and no other mode could accept the token. -/
def AuthConfig.failsClosed (config : AuthConfig) : Bool :=
  config.externalIdp.isSome && config.jwt.isNone && config.authToken.isNone

def claimsFromHeaders (validate : String → Option Claims)
    (authorization : Option String) : Except Refusal Claims :=
  match (bearerFromHeaders authorization).bind validate with
  | some claims => .ok claims
  | none => .error .unauthorized

/-- The middleware in front of every route. -/
def AuthConfig.requireAuth (config : AuthConfig)
    (authorization : Option String) : Except Refusal Unit :=
  if (config.verified authorization).isSome then .ok ()
  else if config.failsClosed then .error .unauthorized
  else
    match config.jwt with
    | some validate =>
        (claimsFromHeaders validate authorization).map fun _ => ()
    | none =>
        match config.authToken with
        | none => .ok ()
        | some expected =>
            if bearerFromHeaders authorization = some expected then .ok ()
            else .error .unauthorized

/-- The claims that the JSON-RPC handler acts on. -/
def AuthConfig.authenticate (config : AuthConfig)
    (authorization : Option String) : Except Refusal (Option Claims) :=
  match config.verified authorization with
  | some claims => .ok (some claims)
  | none =>
      if config.failsClosed then .error .unauthorized
      else
        match config.jwt with
        | some validate => (claimsFromHeaders validate authorization).map some
        | none => .ok none

/-! ## Helpers that look at the headers -/

def AuthConfig.claimsFromHeaders (config : AuthConfig)
    (authorization : Option String) : Except Refusal (Option Claims) :=
  match config.jwt with
  | none => .ok none
  | some validate => (Mcp.claimsFromHeaders validate authorization).map some

def AuthConfig.authorizeHeaders (config : AuthConfig)
    (authorization : Option String) (allScopes anyScopes : List String) :
    Except Refusal Unit :=
  match config.jwt with
  | none => .ok ()
  | some validate =>
      (Mcp.claimsFromHeaders validate authorization).bind fun claims =>
        allowIf (claimsSatisfy claims allScopes anyScopes)

def AuthConfig.authorizeMcpSql (config : AuthConfig)
    (authorization : Option String) (sql : String) : Except Refusal Unit :=
  (config.claimsFromHeaders authorization).bind fun claims =>
    match claims with
    | none => .ok ()
    | some claims => authorizeSqlForClaims claims config.objectPolicy sql

/-! ## Requests -/

/-- The requests whose SQL embeds what the caller wrote, and the tool calls. -/
inductive Request where
  /-- `/query`. -/
  | query (sql : String)
  /-- `/tools/safe_run_sql`. -/
  | safeRunSql (sql : String)
  /-- `/mcp` with the method `tools/call`. -/
  | toolsCall (tool : Tool) (arguments : Value)
  /-- `/mcp` with the method `resources/read`. -/
  | resourcesRead (uri : String)
  /-- `/agent/tasks/{task_name}`. -/
  | agentTask (taskName : String) (params : Value)
  /-- `/agent/v1/tables/{name}`. -/
  | tableSchema (name : String)
  /-- `/agent/v1/tables/{name}/sample`. -/
  | sampleData (name : String)
  /-- `/agent/v1/explain`. -/
  | explain (sql : String)

/--
The text that `safe_run_sql` looks at begins with `select` or `with` when it is
lowered.  Of the other characters none lowers to a text that these words go on
with.
-/
def startsAsQuery (sql : String) : Bool :=
  let trimmed := toAsciiLowercase (String.ofList (trim sql.toList))
  startsWith trimmed "select" || startsWith trimmed "with"

/-- The scopes that the routes with SQL ask for. -/
def queryScopes : List String := ["sql.query", "table.select"]

def AuthConfig.safeRunSql (config : AuthConfig)
    (authorization : Option String) (sql : String) : Except Refusal Unit :=
  let permitted :=
    if config.jwt.isSome then
      config.authorizeHeaders authorization queryScopes []
    else
      allowIf
        (config.roles.canWrite ((bearerFromHeaders authorization).getD ""))
  permitted.bind fun () =>
    if !startsAsQuery sql then .error .badRequest
    else if config.jwt.isSome then config.authorizeMcpSql authorization sql
    else .ok ()

/-- What the handler of a request checks before anything is executed. -/
def AuthConfig.authorize (config : AuthConfig)
    (authorization : Option String) : Request → Except Refusal Unit
  | .query sql =>
      (config.authorizeHeaders authorization queryScopes []).bind fun () =>
        config.authorizeMcpSql authorization sql
  | .safeRunSql sql => config.safeRunSql authorization sql
  | .toolsCall tool arguments =>
      (config.authenticate authorization).bind fun claims =>
        authorizeClaimsForTool claims config.objectPolicy tool.name arguments
  | .resourcesRead _ =>
      (config.authenticate authorization).bind fun claims =>
        match claims with
        | some claims => allowIf (claimsSatisfy claims [] readScopes)
        | none => .ok ()
  -- these handlers look at neither the headers nor the configuration
  | .agentTask _ _ | .tableSchema _ | .sampleData _ | .explain _ => .ok ()

/-- The middleware and the handler let the request through. -/
def AuthConfig.Accepts (config : AuthConfig)
    (authorization : Option String) (request : Request) : Prop :=
  config.requireAuth authorization = .ok () ∧
    config.authorize authorization request = .ok ()

/-! ## What is executed -/

/-- The query about the columns of one table. -/
def columnsOf (table : String) : String :=
  "SELECT column_name, data_type, is_nullable FROM " ++
    "information_schema.columns WHERE table_name = '" ++ table ++
    "' ORDER BY ordinal_position"

/-- `opensnow://tables/{name}`, if the name is a safe identifier. -/
def resourceTable (uri : String) : Option String :=
  if startsWith uri "opensnow://tables/" then
    some (String.ofList (uri.toList.drop 18)) |>.filter isSafeIdentifier
  else none

/--
The statements of a request that is let through, up to the first one that fails
where the handler stops there.
-/
def Request.statements (world : AgentWorld) : Request → List Statement
  | .query sql | .safeRunSql sql => [.sql sql]
  | .toolsCall tool arguments => handleToolCall world arguments tool
  | .resourcesRead uri =>
      match resourceTable uri with
      | some table =>
          [.raw (columnsOf table), .raw ("SELECT * FROM " ++ table ++ " LIMIT 5")]
      | none => []
  | .agentTask taskName params => runTask world taskName params
  | .tableSchema name =>
      [.sql (columnsOf (withoutQuotes name)),
        .sql ("SELECT * FROM " ++ name ++ " LIMIT 3")]
  | .sampleData name => [.sql ("SELECT * FROM " ++ name ++ " LIMIT 5")]
  | .explain sql => [.sql ("EXPLAIN " ++ sql)]

/-- The SQL of the caller that a tool executes or embeds in what it executes. -/
def Request.embedded : Request → List String
  | .query sql | .safeRunSql sql | .explain sql => [sql]
  | .toolsCall .query arguments => (strParam arguments "sql").toList
  | .toolsCall .createTable arguments =>
      (strParam arguments "select_sql").toList
  | .toolsCall .materializedViewCreate arguments =>
      (strParam arguments "sql").toList
  | .toolsCall .refactorTest arguments => strsParam arguments "queries"
  | .toolsCall _ _ | .resourcesRead _ | .agentTask _ _ | .tableSchema _
  | .sampleData _ => []

/-! ## Modes -/

/-- How a token that carries claims is accepted. -/
inductive Mode where
  /-- It is signed with the shared secret. -/
  | hs256
  /-- It is a provider's, and there is no shared secret. -/
  | external
  /-- It is a provider's, beside a shared secret. -/
  | beside
deriving DecidableEq, Repr

/-- A caller with claims that are no admin's, under an object policy. -/
structure Session where
  config : AuthConfig
  authorization : Option String
  claims : Claims
  policy : PrivilegeStore
  carries : config.authenticate authorization = .ok (some claims)
  governed : config.objectPolicy = some policy
  notAdmin : ¬ isPlatformAdmin claims

def Session.mode (session : Session) : Mode :=
  if (session.config.verified session.authorization).isNone then .hs256
  else if session.config.jwt.isNone then .external
  else .beside

def Session.Accepts (session : Session) (request : Request) : Prop :=
  session.config.Accepts session.authorization request

/-- What a mode says of the configuration and the token. -/
def Session.Carried (session : Session) : Mode → Prop
  | .hs256 =>
      session.config.verified session.authorization = none ∧
        ¬ session.config.failsClosed ∧
        ∃ validate, session.config.jwt = some validate ∧
          claimsFromHeaders validate session.authorization = .ok session.claims
  | .external =>
      session.config.verified session.authorization = some session.claims ∧
        session.config.jwt = none
  | .beside =>
      session.config.verified session.authorization = some session.claims ∧
        ∃ validate, session.config.jwt = some validate ∧
          claimsFromHeaders validate session.authorization =
            .error .unauthorized

theorem claimsFromHeaders_of_verified {config : AuthConfig}
    {authorization : Option String} {claims : Claims}
    {validate : String → Option Claims} (jwt : config.jwt = some validate)
    (verified : config.verified authorization = some claims) :
    claimsFromHeaders validate authorization = .error .unauthorized := by
  rcases Option.bind_eq_some_iff.mp verified with ⟨verify, provider, found⟩
  rcases Option.bind_eq_some_iff.mp found with ⟨token, bearer, accepted⟩
  have refused : validate token = none := by
    by_contra valid
    rw [← ne_eq, Option.ne_none_iff_isSome] at valid
    have other := config.separate validate jwt verify provider token valid
    rw [other] at accepted
    cases accepted
  rw [claimsFromHeaders, bearer, Option.bind_some, refused]

variable (session : Session)

theorem Session.carried : session.Carried session.mode := by
  have carries := session.carries
  rw [AuthConfig.authenticate] at carries
  rw [Session.mode]
  cases verified : session.config.verified session.authorization with
  | some claims =>
      rw [verified, Except.ok.injEq, Option.some.injEq] at carries
      rw [carries] at verified
      cases jwt : session.config.jwt with
      | none => exact ⟨verified, jwt⟩
      | some validate =>
          exact
            ⟨verified, validate, jwt,
              claimsFromHeaders_of_verified jwt verified⟩
  | none =>
      rw [verified] at carries
      dsimp only at carries
      split at carries
      · cases carries
      · rename_i opens
        split at carries
        · rename_i validate jwt
          refine ⟨verified, opens, validate, jwt, ?_⟩
          cases found : claimsFromHeaders validate session.authorization with
          | error refused =>
              rw [found] at carries
              cases carries
          | ok claims =>
              rw [found, Except.map, Except.ok.injEq,
                Option.some.injEq] at carries
              rw [carries]
        · cases carries

/-- The middleware lets every caller with claims through. -/
theorem Session.admitted :
    session.config.requireAuth session.authorization = .ok () := by
  have carried := session.carried
  rw [AuthConfig.requireAuth]
  generalize session.mode = mode at carried
  cases mode with
  | hs256 =>
      rcases carried with ⟨verified, opens, validate, jwt, found⟩
      rw [verified, if_neg (by decide), if_neg opens, jwt]
      dsimp only
      rw [found]
      rfl
  | external => rw [carried.1, if_pos (by rfl)]
  | beside => rw [carried.1, if_pos (by rfl)]

theorem Session.accepts_iff (request : Request) :
    session.Accepts request ↔
      session.config.authorize session.authorization request = .ok () :=
  and_iff_right session.admitted

/-! ## What handlers decide -/

theorem allowIf_eq_ok_iff {allowed : Bool} :
    allowIf allowed = .ok () ↔ allowed := by
  cases allowed <;> simp [allowIf]

theorem bind_eq_ok_iff {result : Except Refusal Unit}
    {next : Unit → Except Refusal Unit} :
    result.bind next = .ok () ↔ result = .ok () ∧ next () = .ok () := by
  cases result with
  | error refused => simp [Except.bind]
  | ok done => simp [Except.bind]

theorem Session.authorizeHeaders_eq (allScopes anyScopes : List String) :
    session.config.authorizeHeaders session.authorization allScopes anyScopes =
      match session.mode with
      | .hs256 => allowIf (claimsSatisfy session.claims allScopes anyScopes)
      | .external => .ok ()
      | .beside => .error .unauthorized := by
  have carried := session.carried
  rw [AuthConfig.authorizeHeaders]
  generalize session.mode = mode at carried ⊢
  cases mode with
  | hs256 =>
      rcases carried with ⟨-, -, validate, jwt, found⟩
      rw [jwt]
      dsimp only
      rw [found]
      rfl
  | external => rw [carried.2]
  | beside =>
      rcases carried with ⟨-, validate, jwt, refused⟩
      rw [jwt]
      dsimp only
      rw [refused]
      rfl

theorem Session.authorizeMcpSql_eq (sql : String) :
    session.config.authorizeMcpSql session.authorization sql =
      match session.mode with
      | .hs256 => authorizeSqlForClaims session.claims session.policy sql
      | .external => .ok ()
      | .beside => .error .unauthorized := by
  have carried := session.carried
  rw [AuthConfig.authorizeMcpSql, AuthConfig.claimsFromHeaders]
  generalize session.mode = mode at carried ⊢
  cases mode with
  | hs256 =>
      rcases carried with ⟨-, -, validate, jwt, found⟩
      rw [jwt]
      dsimp only
      rw [found, session.governed]
      rfl
  | external =>
      rw [carried.2]
      rfl
  | beside =>
      rcases carried with ⟨-, validate, jwt, refused⟩
      rw [jwt]
      dsimp only
      rw [refused]
      rfl

theorem Session.jwt_isSome_iff :
    session.config.jwt.isSome ↔ session.mode ≠ .external := by
  have carried := session.carried
  generalize session.mode = mode at carried ⊢
  cases mode with
  | hs256 =>
      rcases carried with ⟨-, -, validate, jwt, -⟩
      simp [jwt]
  | external => simp [carried.2]
  | beside =>
      rcases carried with ⟨-, validate, jwt, -⟩
      simp [jwt]

/-- The handler of `/query` looks at tokens of the shared secret alone. -/
theorem Session.accepts_query_iff (sql : String) :
    session.Accepts (.query sql) ↔
      match session.mode with
      | .hs256 =>
          claimsSatisfy session.claims queryScopes [] ∧
            authorizeSqlForClaims session.claims session.policy sql = .ok ()
      | .external => True
      | .beside => False := by
  rw [session.accepts_iff, AuthConfig.authorize, bind_eq_ok_iff,
    session.authorizeHeaders_eq, session.authorizeMcpSql_eq]
  cases session.mode with
  | hs256 => rw [allowIf_eq_ok_iff]
  | external => simp
  | beside => simp

theorem Session.accepts_safeRunSql_iff (sql : String) :
    session.Accepts (.safeRunSql sql) ↔
      match session.mode with
      | .hs256 =>
          claimsSatisfy session.claims queryScopes [] ∧ startsAsQuery sql ∧
            authorizeSqlForClaims session.claims session.policy sql = .ok ()
      | .external =>
          session.config.roles.canWrite
              ((bearerFromHeaders session.authorization).getD "") ∧
            startsAsQuery sql
      | .beside => False := by
  rw [session.accepts_iff, AuthConfig.authorize, AuthConfig.safeRunSql,
    bind_eq_ok_iff]
  have secret := session.jwt_isSome_iff
  cases mode : session.mode with
  | hs256 =>
      have isSome := secret.mpr (by rw [mode]; decide)
      rw [if_pos isSome, if_pos isSome, session.authorizeHeaders_eq,
        session.authorizeMcpSql_eq, mode, allowIf_eq_ok_iff]
      cases startsAsQuery sql <;> simp
  | external =>
      have isNone : ¬ session.config.jwt.isSome := by
        rw [secret, mode]
        decide
      rw [if_neg isNone, if_neg isNone, allowIf_eq_ok_iff]
      cases startsAsQuery sql <;> simp
  | beside =>
      have isSome := secret.mpr (by rw [mode]; decide)
      rw [if_pos isSome, session.authorizeHeaders_eq, mode]
      simp

theorem Session.accepts_toolsCall_iff (tool : Tool) (arguments : Value) :
    session.Accepts (.toolsCall tool arguments) ↔
      authorizeClaimsForTool (some session.claims) session.policy tool.name
          arguments = .ok () := by
  rw [session.accepts_iff, AuthConfig.authorize, session.carries,
    session.governed]
  rfl

theorem Session.accepts_resourcesRead_iff (uri : String) :
    session.Accepts (.resourcesRead uri) ↔
      claimsSatisfy session.claims [] readScopes := by
  rw [session.accepts_iff, AuthConfig.authorize, session.carries]
  exact allowIf_eq_ok_iff

/-! ## Sessions of every mode -/

/-- A session of the mode with these claims, whose token may write. -/
def Session.for (mode : Mode) (claims : Claims) (policy : PrivilegeStore)
    (notAdmin : ¬ isPlatformAdmin claims) : Session where
  config :=
    { jwt :=
        match mode with
        | .hs256 => some fun _ => some claims
        | .external => none
        | .beside => some fun _ => none
      authToken := none
      roles := ⟨fun _ => some "analyst"⟩
      objectPolicy := some policy
      externalIdp :=
        match mode with
        | .hs256 => none
        | .external | .beside => some fun _ => some claims
      separate := by
        cases mode with
        | hs256 => rintro validate - verify ⟨⟩
        | external => rintro validate ⟨⟩
        | beside =>
            rintro validate ⟨⟩ verify - token valid
            cases valid }
  authorization := some "Bearer token"
  claims := claims
  policy := policy
  carries := by
    have bearer : bearerFromHeaders (some "Bearer token") = some "token" := by
      decide
    cases mode <;>
      simp [AuthConfig.authenticate, AuthConfig.verified,
        AuthConfig.failsClosed, claimsFromHeaders, bearer, Except.map]
  governed := rfl
  notAdmin := notAdmin

theorem Session.for_mode {mode : Mode} {claims : Claims}
    {policy : PrivilegeStore} (notAdmin : ¬ isPlatformAdmin claims) :
    (Session.for mode claims policy notAdmin).mode = mode := by
  have bearer : bearerFromHeaders (some "Bearer token") = some "token" := by
    decide
  cases mode <;>
    simp [Session.mode, Session.for, AuthConfig.verified, bearer]

end OpenSnow.Mcp
