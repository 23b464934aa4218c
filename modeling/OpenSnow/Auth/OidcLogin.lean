import Mathlib.Logic.Function.Basic
import OpenSnow.Auth.Sso
import OpenSnow.Foundation.Runs
import OpenSnow.Rust.Json

/-!
# OIDC logins

A login is started for a connection and completed by its state.  The manager
takes its lock once for each access to the database, so the calls interleave
at their accesses with each other and with the writes of an administrator.

The digest of the PKCE challenge is a parameter.  A call meets at each access
a fault of SQLite, if there is one, the random tokens it draws, and the claims
that it is given by the provider.
-/

namespace OpenSnow.Auth.OidcLogin

open Auth.Sso
open Foundation
open Rust.Json
open Rust.Text

/-! ## Tables -/

/-- A row of `sso_oidc_login_transactions`. -/
structure LoginTransaction where
  state : String
  accountId : String
  connectionId : String
  nonce : String
  pkceVerifier : String
  redirectUri : String
  consumed : Bool
deriving DecidableEq, Repr

structure LoginTables where
  catalog : SsoCatalog
  transactions : Keyed LoginTransaction.state

/-- The connection that a mapping refers to. -/
def mappingConnection (mapping : RedactedIdpRoleMapping) : String × String :=
  (mapping.accountId, mapping.connectionId)

def LoginTransaction.connectionKey (transaction : LoginTransaction) :
    String × String :=
  (transaction.accountId, transaction.connectionId)

/-- Delete a connection, and with it all rows that refer to it. -/
def LoginTables.deleteIdpConnection (tables : LoginTables)
    (accountId connectionId : String) : LoginTables where
  catalog :=
    { connections := tables.catalog.connections.keep fun connection =>
        connection.key ≠ (accountId, connectionId)
      mappings := tables.catalog.mappings.keep fun mapping =>
        mappingConnection mapping ≠ (accountId, connectionId) }
  transactions := tables.transactions.keep fun transaction =>
    transaction.connectionKey ≠ (accountId, connectionId)

/-- The mappings of a connection, `ORDER BY role_id`. -/
def mappingRows (catalog : SsoCatalog) (key : String × String) :
    List RedactedIdpRoleMapping :=
  orderBy RedactedIdpRoleMapping.roleId
    (catalog.mappings.rows.filter fun mapping =>
      mappingConnection mapping = key)

/-! ## Texts -/

def percentByte (byte : UInt8) : List Char :=
  let ch := Char.ofNat byte.toNat
  if ch.isAlphanum || ch == '-' || ch == '_' || ch == '.' || ch == '~' then
    [ch]
  else
    ['%', (Nat.digitChar (byte.toNat / 16)).toUpper,
      (Nat.digitChar (byte.toNat % 16)).toUpper]

def percentEncode (input : String) : String :=
  String.ofList ((utf8Bytes input).flatMap percentByte)

/-- What is random in a login. -/
structure LoginTokens where
  state : String
  nonce : String
  pkceVerifier : String
deriving DecidableEq, Repr

def authorizationUrl (challenge : String → String)
    (connection : IdpConnection) (redirectUri : String)
    (tokens : LoginTokens) : String :=
  String.ofList (trimEndMatches '/' connection.issuer.toList) ++
    "/authorize?response_type=code&client_id=" ++
    percentEncode connection.clientId ++
    "&redirect_uri=" ++ percentEncode redirectUri ++
    "&scope=" ++ percentEncode connection.scopes ++
    "&state=" ++ percentEncode tokens.state ++
    "&nonce=" ++ percentEncode tokens.nonce ++
    "&code_challenge=" ++ percentEncode (challenge tokens.pkceVerifier) ++
    "&code_challenge_method=S256"

/-- The domain of an e-mail address: what stands behind its last `@`. -/
def emailDomain (email : String) : Option String :=
  if '@' ∈ email.toList then
    some (toAsciiLowercase (String.ofList (lastSplit '@' email.toList)))
  else none

/-! ## Requests and answers -/

structure VerifiedOidcClaims where
  issuer : String
  audience : String
  subject : String
  email : String
  emailVerified : Bool
  nonce : String
  extra : Fields
deriving Repr

/-- What `complete_oidc_login` is given. -/
structure Login where
  state : String
  pkceVerifier : String
  claims : VerifiedOidcClaims
deriving Repr

structure OidcLoginStart where
  accountId : String
  connectionId : String
  authorizationUrl : String
  state : String
  nonce : String
  pkceVerifier : String
deriving DecidableEq, Repr

structure SsoSession where
  accountId : String
  connectionId : String
  subject : String
  email : String
  roles : List String
deriving DecidableEq, Repr

inductive LoginRequest where
  | startOidcLogin (accountId connectionId redirectUri : String)
  | completeOidcLogin (login : Login)
  | completeOidcCodeLogin (state code : String)

inductive LoginAnswer where
  | started (start : OidcLoginStart)
  | session (session : SsoSession)
deriving DecidableEq, Repr

/-- An access to the database or the provider, with what a call has read. -/
inductive Access where
  /-- `start_oidc_login` reads the connection. -/
  | startRead (accountId connectionId redirectUri : String)
  | startInsert (accountId connectionId redirectUri : String)
      (connection : IdpConnection)
  /-- `complete_oidc_code_login` reads the pending login. -/
  | pendingLogin (state code : String)
  | codeRead (pending : LoginTransaction) (code : String)
  /-- The code is exchanged for a token, and the token verified. -/
  | exchange (pending : LoginTransaction) (connection : IdpConnection)
      (code : String)
  /-- `complete_oidc_login` reads the transaction. -/
  | readTransaction (login : Login)
  | readConnection (login : Login) (transaction : LoginTransaction)
  | readMappings (login : Login) (transaction : LoginTransaction)
      (connection : IdpConnection)
  | consume (login : Login) (transaction : LoginTransaction)
      (connection : IdpConnection) (mappings : List RedactedIdpRoleMapping)

/-- How a call goes on: with an access, or by returning. -/
inductive Next where
  | access (access : Access)
  | returned (outcome : SsoResult LoginAnswer)

def LoginRequest.start : LoginRequest → Access
  | .startOidcLogin accountId connectionId redirectUri =>
      .startRead accountId connectionId redirectUri
  | .completeOidcLogin login => .readTransaction login
  | .completeOidcCodeLogin state code => .pendingLogin state code

/-! ## Roles -/

def claimMatches (value : Value) (expected : String) : Bool :=
  match value with
  | .string text => eqIgnoreAsciiCase text expected
  | .array values =>
      values.any fun value =>
        (value.asStr.map (eqIgnoreAsciiCase · expected)).getD false
  | _ => false

/-- Whether the claims earn the role of a mapping. -/
def isEarned (claims : Fields)
    (mapping : RedactedIdpRoleMapping) : Bool :=
  match claims.get mapping.idpClaimKey with
  | some value => claimMatches value mapping.idpClaimValue
  | none => false

/-- The loop of `apply_idp_role_mappings`. -/
def applyIdpRoleMappings (mappings : List RedactedIdpRoleMapping)
    (claims : Fields) : List String :=
  mappings.foldl
    (fun roles mapping =>
      if isEarned claims mapping && !roles.contains mapping.roleId then
        roles ++ [mapping.roleId]
      else roles)
    []

def grantedRoles (mappings : List RedactedIdpRoleMapping)
    (claims : Fields) : List String :=
  let roles := applyIdpRoleMappings mappings claims
  if roles.isEmpty then ["PUBLIC"] else roles

/-! ## Accesses -/

/-- What a call meets at an access. -/
structure LoginMoment where
  fault : Option String
  tokens : LoginTokens
  reply : SsoResult VerifiedOidcClaims

/-- What a completion had read, and the catalog when it returned. -/
structure Completion where
  login : Login
  session : SsoSession
  connection : IdpConnection
  mappings : List RedactedIdpRoleMapping
  catalog : SsoCatalog

inductive Event where
  | started (transaction : LoginTransaction)
  | completed (completion : Completion)

/-- What an access leaves behind. -/
structure Effect where
  transactions : Keyed LoginTransaction.state
  recorded : Option Event
  next : Next

/-- An access that goes on when a check holds. -/
def checked (tables : LoginTables) (check : SsoResult Unit) (next : Access) :
    Effect where
  transactions := tables.transactions
  recorded := none
  next :=
    match check with
    | .ok () => .access next
    | .error message => .returned (.error message)

def failed (tables : LoginTables) (message : String) : Effect where
  transactions := tables.transactions
  recorded := none
  next := .returned (.error message)

def checkStart (connection : IdpConnection) : SsoResult Unit := do
  require connection.enabled "idp connection is disabled"
  require (connection.protocol == .oidc)
    ("SAML SSO is not supported by OpenSnow's embedded enterprise auth " ++
      "yet; configure an external broker or use OIDC")

def checkCodeLogin (connection : IdpConnection) : SsoResult Unit :=
  require (connection.protocol == .oidc && connection.enabled)
    "OIDC connection is disabled or unsupported"

/-- What a transaction has to agree with. -/
def checkTransaction (login : Login) (transaction : LoginTransaction) :
    SsoResult Unit := do
  require (transaction.pkceVerifier == login.pkceVerifier)
    "invalid OIDC PKCE verifier"
  require (transaction.nonce == login.claims.nonce) "invalid OIDC nonce"
  require login.claims.emailVerified
    "OIDC email_verified claim is required"

/-- What a connection has to agree with. -/
def checkClaims (claims : VerifiedOidcClaims) (connection : IdpConnection) :
    SsoResult Unit := do
  require (claims.issuer == connection.issuer) "OIDC issuer mismatch"
  require (claims.audience == connection.clientId) "OIDC audience mismatch"
  match emailDomain claims.email with
  | none => .error "invalid OIDC email"
  | some domain =>
      require (connection.allowedDomains.any (eqIgnoreAsciiCase · domain))
        "OIDC email domain is not allowed"

/-- The transaction that a login starts with. -/
def newTransaction (tokens : LoginTokens)
    (accountId connectionId redirectUri : String) : LoginTransaction where
  state := tokens.state
  accountId := accountId
  connectionId := connectionId
  nonce := tokens.nonce
  pkceVerifier := tokens.pkceVerifier
  redirectUri := redirectUri
  consumed := false

/-- The row of a state that was not consumed. -/
def LoginTables.unconsumed (tables : LoginTables) (state : String) :
    Option LoginTransaction :=
  (tables.transactions.find state).filter fun transaction =>
    !transaction.consumed

/-- The UPDATE of a state, of whatever row it finds. -/
def LoginTables.consumed (tables : LoginTables) (state : String) :
    Keyed LoginTransaction.state :=
  match tables.transactions.find state with
  | some transaction =>
      tables.transactions.put { transaction with consumed := true }
  | none => tables.transactions

def sessionOf (login : Login) (transaction : LoginTransaction)
    (mappings : List RedactedIdpRoleMapping) : SsoSession where
  accountId := transaction.accountId
  connectionId := transaction.connectionId
  subject := login.claims.subject
  email := login.claims.email
  roles := grantedRoles mappings login.claims.extra

def Access.perform (challenge : String → String) (moment : LoginMoment)
    (tables : LoginTables) : Access → Effect
  | .startRead accountId connectionId redirectUri =>
      match tables.catalog.connections.find (accountId, connectionId) with
      | none => failed tables "idp connection not found"
      | some connection =>
          checked tables (checkStart connection)
            (.startInsert accountId connectionId redirectUri connection)
  | .startInsert accountId connectionId redirectUri connection =>
      let row :=
        newTransaction moment.tokens accountId connectionId redirectUri
      if (tables.transactions.find row.state).isSome then
        failed tables
          "UNIQUE constraint failed: sso_oidc_login_transactions.state"
      else if (tables.catalog.connections.find row.connectionKey).isNone then
        failed tables "FOREIGN KEY constraint failed"
      else
        { transactions := tables.transactions.put row
          recorded := some (.started row)
          next :=
            .returned
              (.ok
                (.started
                  { accountId := accountId
                    connectionId := connectionId
                    authorizationUrl :=
                      authorizationUrl challenge connection redirectUri
                        moment.tokens
                    state := moment.tokens.state
                    nonce := moment.tokens.nonce
                    pkceVerifier := moment.tokens.pkceVerifier })) }
  | .pendingLogin state code =>
      match tables.unconsumed state with
      | none => failed tables "invalid or consumed OIDC state"
      | some pending => checked tables (.ok ()) (.codeRead pending code)
  | .codeRead pending code =>
      match tables.catalog.connections.find pending.connectionKey with
      | none => failed tables "idp connection not found"
      | some connection =>
          checked tables (checkCodeLogin connection)
            (.exchange pending connection code)
  | .exchange pending _ _ =>
      match moment.reply with
      | .error message => failed tables message
      | .ok claims =>
          checked tables (.ok ())
            (.readTransaction ⟨pending.state, pending.pkceVerifier, claims⟩)
  | .readTransaction login =>
      match tables.unconsumed login.state with
      | none => failed tables "invalid or consumed OIDC state"
      | some transaction =>
          checked tables (checkTransaction login transaction)
            (.readConnection login transaction)
  | .readConnection login transaction =>
      match tables.catalog.connections.find transaction.connectionKey with
      | none => failed tables "idp connection not found"
      | some connection =>
          checked tables (checkClaims login.claims connection)
            (.readMappings login transaction connection)
  | .readMappings login transaction connection =>
      checked tables (.ok ())
        (.consume login transaction connection
          (mappingRows tables.catalog transaction.connectionKey))
  | .consume login transaction connection mappings =>
      let session := sessionOf login transaction mappings
      { transactions := tables.consumed login.state
        recorded :=
          some
            (.completed
              ⟨login, session, connection, mappings, tables.catalog⟩)
        next := .returned (.ok (.session session)) }

/-! ## Interleavings -/

structure LoginStore where
  tables : LoginTables
  calls : Nat → Option Access
  /-- What was recorded, the newest event first. -/
  history : List Event

inductive Step where
  | upsertConnection (moment : SsoMoment) (request : IdpConnectionUpsert)
  | deleteConnection (accountId connectionId : String)
  | upsertMapping (moment : SsoMoment)
      (accountId connectionId claimKey claimValue roleId : String)
  | deleteMapping (moment : SsoMoment) (accountId mappingId : String)
  | call (number : Nat) (request : LoginRequest)
  | proceed (number : Nat) (moment : LoginMoment)

def LoginStore.initial (catalog : SsoCatalog) : LoginStore where
  tables := ⟨catalog, .empty⟩
  calls _ := none
  history := []

def LoginStore.withCatalog (store : LoginStore) (catalog : SsoCatalog) :
    LoginStore :=
  { store with tables := { store.tables with catalog := catalog } }

/-- Record the effect of an access, and what remains of its call. -/
def LoginStore.settle (store : LoginStore) (number : Nat)
    (effect : Effect) : LoginStore where
  tables := { store.tables with transactions := effect.transactions }
  calls :=
    Function.update store.calls number
      (match effect.next with
        | .access access => some access
        | .returned _ => none)
  history := effect.recorded.toList ++ store.history

def LoginStore.perform (challenge : String → String) (store : LoginStore) :
    Step → LoginStore
  | .upsertConnection moment request =>
      store.withCatalog
        (upsertIdpConnection moment request store.tables.catalog).2
  | .deleteConnection accountId connectionId =>
      { store with
        tables := store.tables.deleteIdpConnection accountId connectionId }
  | .upsertMapping moment accountId connectionId claimKey claimValue roleId =>
      store.withCatalog
        (upsertIdpRoleMapping moment
          (mappingOf accountId connectionId claimKey claimValue roleId)
          store.tables.catalog).2
  | .deleteMapping moment accountId mappingId =>
      store.withCatalog
        (deleteIdpRoleMapping moment accountId mappingId
          store.tables.catalog).2
  | .call number request =>
      match store.calls number with
      -- the number is that of a call under way
      | some _ => store
      | none =>
          { store with
            calls := Function.update store.calls number request.start }
  | .proceed number moment =>
      match store.calls number with
      | none => store
      | some access =>
          store.settle number
            (match moment.fault with
              | some message => failed store.tables message
              | none => access.perform challenge moment store.tables)

def LoginStore.run (challenge : String → String) (store : LoginStore)
    (steps : List Step) : LoginStore :=
  steps.foldl (LoginStore.perform challenge) store

end OpenSnow.Auth.OidcLogin
