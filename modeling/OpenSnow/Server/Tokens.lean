import OpenSnow.Server.ControlRoutes

/-!
# Tokens and bearers

The token endpoint of the client credentials grant, and the checks that admit
a bearer on the HTTP routes and on the wire protocol of PostgreSQL.

A token is what it says: its claims are handed over, and how they are signed
and validated is left out.  The SSO session store is a parameter.
-/

namespace OpenSnow.Server.ControlPlane

open Catalog.ControlPlane
open Foundation
open Rust.Text

/-- What a request meets that has to do with tokens. -/
structure Moment where
  deployment : Deployment
  clock : Clock
  /-- Argon2: does a secret fit a hash. -/
  verify : String → String → Bool
  /-- The message of the SSO session store about a session. -/
  sessionError : Claims → Option String
  /-- The message of the signer about a token. -/
  signingError : Option String

/-! ## The token endpoint -/

structure TokenRequest where
  grantType : String
  clientId : String
  clientSecret : String

/-- The claims of a token for a machine client, which has the user id zero. -/
def clientClaims (clientId : String) (client : RegisteredClient) : Claims where
  userId := 0
  username := clientId
  role := client.role
  tenantId := client.tenantId
  scopes := client.scopes
  sessionId := none
  authMethod := some "client_credentials"

/-- Note in the catalog that a durable client was used. -/
def markUsed (deployment : Deployment) (clientId : String) : Handler Unit :=
  fun state =>
    match deployment.catalog with
    | .error message => (.error (serverError message), state)
    | .ok false => (.ok (), state)
    | .ok true =>
        match attempt deployment .getIdentity 500 with
        | .error failure => (.error failure, state)
        | .ok () =>
            if (state.identities.find clientId).isSome then
              match attempt deployment .markIdentityUsed 500 with
              | .error failure => (.error failure, state)
              | .ok () =>
                  (.ok (),
                    { state with
                      identities :=
                        markServiceIdentityUsed state.identities
                          deployment.now clientId })
            else (.ok (), state)

/-- The client of a token request, by its id and its secret. -/
def tokenClient (moment : Moment) (request : TokenRequest)
    (registry : ClientRegistry) : Except Failure RegisteredClient :=
  if request.grantType ≠ "client_credentials" then
    .error (.http 400 ("only client_credentials supported, got " ++
      request.grantType))
  else
    match registry.authenticateClient moment.verify moment.clock
        request.clientId request.clientSecret with
    | none => .error (.http 401 "unknown client_id or wrong secret")
    | some client => .ok client

/-- `POST /auth/token`. -/
def tokenEndpoint (moment : Moment) (request : TokenRequest) :
    Handler Claims := do
  let client ← Effect.look fun state =>
    tokenClient moment request state.clients
  markUsed moment.deployment request.clientId
  match moment.signingError with
  | some message => Effect.fail (serverError message)
  | none => pure (clientClaims request.clientId client)

/-! ## Bearers -/

/-- `refresh_durable_client_from_catalog`, if a catalog is configured. -/
def refreshClient (deployment : Deployment) (clientId : String) :
    Effect ControlState String Unit := fun state =>
  match deployment.catalog with
  | .error message => (.error message, state)
  | .ok false => (.ok (), state)
  | .ok true =>
      match deployment.fault .getIdentity with
      | some message => (.error message, state)
      | none =>
          match state.clients.refreshDurableClient state.identities
              clientId with
          | .error message => (.error message, state)
          | .ok clients => (.ok (), { state with clients })

/-- `authorize_bearer_client`, which answers with a status code. -/
def authorizeBearer (clock : Clock) (claims : Claims) :
    Effect ControlState Nat Unit := fun state =>
  match state.clients.authorizeBearerClient clock claims.username
      claims.scopes with
  | .error status => (.error status, state)
  | .ok clients => (.ok (), { state with clients })

/-- The token belongs to a session of the SSO. -/
def isOidc (claims : Claims) : Bool := claims.authMethod == some "oidc"

/-- The session of an OIDC token. -/
def checkSession (moment : Moment) (claims : Claims) :
    Effect ControlState String Unit :=
  Effect.look fun _ =>
    match moment.sessionError claims with
    | some message => .error message
    | none => .ok ()

/-- The session or the client behind a token, as `jwt_required` checks it. -/
def checkBearer (moment : Moment) (claims : Claims) : Handler Unit :=
  if isOidc claims then
    (checkSession moment claims).mapFailure fun message => .http 401 message
  else do
    (refreshClient moment.deployment claims.username).mapFailure
      fun message => .http 401 message
    (authorizeBearer moment.clock claims).mapFailure
      fun status => .http status ""

/-- `jwt_required`, for the claims of a valid token. -/
def jwtRequired (moment : Moment) (claims : Claims)
    (accountHeaders : List String) : Handler AuthContext := do
  checkBearer moment claims
  Effect.look fun _ =>
    if accountHeaders.all fun account => account == claims.tenantId then
      .ok ()
    else .error (forbidden "")
  pure (AuthContext.ofClaims claims)

/-- The startup database, unless it is blank. -/
def startupAccount (startupDatabase : Option String) : Option (List Char) :=
  (startupDatabase.map fun database => trim database.toList).filter
    fun account => !account.isEmpty

/-- The startup parameters fit the token. -/
def checkStartup (startupUser : String) (startupDatabase : Option String)
    (claims : Claims) : Except String Unit :=
  if claims.username ≠ startupUser then
    .error "pgwire startup user does not match bearer subject"
  else if (startupAccount startupDatabase).all
      fun account => account == claims.tenantId.toList then .ok ()
  else .error "pgwire startup database/account does not match bearer tenant"

/-- The session or the client behind a token, as pgwire checks it. -/
def checkPgwireBearer (moment : Moment) (claims : Claims) :
    Effect ControlState String Unit :=
  if isOidc claims then checkSession moment claims
  else do
    refreshClient moment.deployment claims.username
    (authorizeBearer moment.clock claims).mapFailure
      fun status => "bearer client is not authorized: " ++ toString status

/-- `authenticate_pgwire_bearer`, for the claims of a valid token. -/
def authenticatePgwireBearer (moment : Moment) (startupUser : String)
    (startupDatabase : Option String) (claims : Claims) :
    Effect ControlState String AuthContext := do
  Effect.look fun _ => checkStartup startupUser startupDatabase claims
  checkPgwireBearer moment claims
  pure (AuthContext.ofClaims claims)

/-! ### What bearers leave -/

/-- A refresh copies the record of a client into the registry, or nothing. -/
theorem refreshClient_after (deployment : Deployment) (username : String)
    (before : ControlState) :
    (refreshClient deployment username before).2 = before ∨
      ∃ record client, before.identities.find username = some record ∧
        RegisteredClient.fromDurable record = some client ∧
          (refreshClient deployment username before).2 =
            { before with
              clients := before.clients.insert record.id client } := by
  unfold refreshClient
  cases deployment.catalog with
  | error message => exact Or.inl rfl
  | ok configured =>
  cases configured with
  | false => exact Or.inl rfl
  | true =>
  cases deployment.fault .getIdentity with
  | some message => exact Or.inl rfl
  | none =>
  dsimp only [ClientRegistry.refreshDurableClient]
  cases found : before.identities.find username with
  | none => exact Or.inl rfl
  | some record =>
  dsimp only [ClientRegistry.registerDurableClient]
  cases known : RegisteredClient.fromDurable record with
  | none => exact Or.inl rfl
  | some client => exact Or.inr ⟨record, client, rfl, known, rfl⟩

/-- Admitting a token counts a query of an active client, or nothing. -/
theorem authorizeBearer_after (clock : Clock) (claims : Claims)
    (before : ControlState) :
    (authorizeBearer clock claims before).2 = before ∨
      ∃ client, before.clients claims.username = some client ∧
        client.status = .active ∧
          (authorizeBearer clock claims before).2 =
            { before with
              clients := before.clients.insert claims.username
                { client with queriesUsed := client.queriesUsed + 1 } } := by
  unfold authorizeBearer ClientRegistry.authorizeBearerClient
  cases registered : before.clients claims.username with
  | none => exact Or.inl rfl
  | some client =>
  dsimp only
  split_ifs with inactive
  · exact Or.inl rfl
  · exact Or.inl rfl
  · exact Or.inl rfl
  · exact Or.inr ⟨client, rfl, not_not.mp inactive, rfl⟩
  · exact Or.inl rfl

section

variable {invariant : ControlState → Prop} {moment : Moment} {claims : Claims}
  (refresh : isOidc claims = false →
    Effect.Keeps invariant (refreshClient moment.deployment claims.username))
  (bearer : isOidc claims = false →
    Effect.Keeps invariant (authorizeBearer moment.clock claims))

include refresh bearer

theorem jwtRequired_keeps (accountHeaders : List String) :
    Effect.Keeps invariant (jwtRequired moment claims accountHeaders) := by
  refine Effect.Keeps.bind ?_ fun _ => Effect.Keeps.look.bind fun _ =>
    Effect.Keeps.pure
  unfold checkBearer
  split_ifs with oidc
  · exact Effect.Triple.mapFailure Effect.Keeps.look
  · have isClient := Bool.eq_false_of_not_eq_true oidc
    exact Effect.Keeps.bind (Effect.Triple.mapFailure (refresh isClient))
      fun _ => Effect.Triple.mapFailure (bearer isClient)

theorem pgwire_keeps (startupUser : String)
    (startupDatabase : Option String) :
    Effect.Keeps invariant
      (authenticatePgwireBearer moment startupUser startupDatabase claims) := by
  refine Effect.Keeps.look.bind fun _ => Effect.Keeps.bind ?_ fun _ =>
    Effect.Keeps.pure
  unfold checkPgwireBearer
  split_ifs with oidc
  · exact Effect.Keeps.look
  · have isClient := Bool.eq_false_of_not_eq_true oidc
    exact Effect.Keeps.bind (refresh isClient) fun _ =>
      Effect.Triple.mapFailure (bearer isClient)

end

end OpenSnow.Server.ControlPlane
