import OpenSnow.Foundation.Columns
import OpenSnow.Foundation.Keyed
import OpenSnow.Rust.Text

/-!
# The SSO catalog

The identity providers of accounts and the roles that their claims are mapped
to, with the operations of the manager that read and write them.

Faults of SQLite and of the secret store are parameters.  The secrets
themselves, the legacy table of tenants and the sessions are left out.
-/

namespace OpenSnow.Auth.Sso

open Foundation
open Rust.Text

/-! ## Tables -/

inductive SsoProtocol where
  | oidc
  | saml
deriving DecidableEq, Repr

/-- A row of `sso_idp_connections`. -/
structure IdpConnection where
  accountId : String
  id : String
  protocol : SsoProtocol
  enabled : Bool
  issuer : String
  clientId : String
  clientSecretHandle : Option String
  allowedDomains : List String
  scopes : String
deriving DecidableEq, Repr

/-- The primary key of a connection. -/
def IdpConnection.key (connection : IdpConnection) : String × String :=
  (connection.accountId, connection.id)

/-- A connection that tells only whether it has a secret. -/
structure RedactedIdpConnection where
  accountId : String
  id : String
  protocol : SsoProtocol
  enabled : Bool
  issuer : String
  clientId : String
  clientSecretConfigured : Bool
  allowedDomains : List String
  scopes : String
deriving DecidableEq, Repr

def IdpConnection.redacted (connection : IdpConnection) :
    RedactedIdpConnection where
  accountId := connection.accountId
  id := connection.id
  protocol := connection.protocol
  enabled := connection.enabled
  issuer := connection.issuer
  clientId := connection.clientId
  clientSecretConfigured := connection.clientSecretHandle.isSome
  allowedDomains := connection.allowedDomains
  scopes := connection.scopes

/-- A row of `sso_idp_role_mappings`. -/
structure RedactedIdpRoleMapping where
  id : String
  accountId : String
  connectionId : String
  idpClaimKey : String
  idpClaimValue : String
  roleId : String
deriving DecidableEq, Repr

/-- The columns of a mapping that are unique together. -/
def RedactedIdpRoleMapping.columns (mapping : RedactedIdpRoleMapping) :
    String × String × String × String × String :=
  (mapping.accountId, mapping.connectionId, mapping.idpClaimKey,
    mapping.idpClaimValue, mapping.roleId)

structure SsoCatalog where
  connections : Keyed IdpConnection.key
  mappings : Keyed RedactedIdpRoleMapping.id

/-- A statement of the catalog that can fail. -/
inductive SsoOp where
  | upsertConnection
  | getConnection
  | listConnections
  | upsertMapping
  | listMappings
  | deleteMapping
deriving DecidableEq, Repr

/-- What a call meets outside the catalog. -/
structure SsoMoment where
  fault : SsoOp → Option String
  /-- The failure to seal a secret, for its account, issuer and handle. -/
  sealing : String → String → String → String → Option String

abbrev SsoResult (Value : Type) := Except String Value

/-! ## Checks -/

/-- The check, with its message when it fails. -/
def require (holds : Bool) (message : String) : SsoResult Unit :=
  if holds then .ok () else .error message

theorem require_ok_iff {holds : Bool} {message : String} :
    require holds message = .ok () ↔ holds := by
  cases holds <;> simp [require]

theorem check_bind_ok_iff {check : SsoResult Unit}
    {rest : Unit → SsoResult Unit} :
    (check >>= rest) = .ok () ↔ check = .ok () ∧ rest () = .ok () := by
  cases check with
  | error message => exact iff_of_false nofun fun both => nomatch both.1
  | ok _ => exact (and_iff_right rfl).symm

def isSafeChar (ch : Char) : Bool :=
  ch.isAlphanum || ch == '-' || ch == '_' || ch == '.'

def isSafeId (value : String) : Bool :=
  !value.isEmpty && value.toList.all isSafeChar

def validateSafeId (field value : String) : SsoResult Unit :=
  require (isSafeId value) (field ++ " must contain only [A-Za-z0-9_.-]")

def attempt (moment : SsoMoment) (op : SsoOp) : SsoResult Unit :=
  match moment.fault op with
  | some message => .error message
  | none => .ok ()

def isBlank (text : String) : Bool := (trim text.toList).isEmpty

/-! ## Connections -/

structure IdpConnectionUpsert where
  accountId : String
  connectionId : String
  protocol : SsoProtocol
  enabled : Bool
  issuer : String
  clientId : String
  clientSecret : Option String
  clientSecretHandle : Option String
  allowedDomains : List String
  scopes : Option String

def idpClientSecretHandle (accountId connectionId : String) : String :=
  "secret://sso/" ++ accountId ++ "/" ++ connectionId ++ "/client_secret"

/-- The handle that is given, or one for a secret that is given. -/
def secretHandle (request : IdpConnectionUpsert) : Option String :=
  (((request.clientSecretHandle.map fun handle =>
      String.ofList (trim handle.toList)).filter fun handle =>
        !handle.isEmpty)).or
    ((request.clientSecret.filter fun secret => !isBlank secret).map
      fun _ =>
        idpClientSecretHandle request.accountId request.connectionId)

/-- Seal the secret under its handle, if there are both. -/
def sealSecret (moment : SsoMoment) (request : IdpConnectionUpsert) :
    SsoResult Unit :=
  match request.clientSecret, secretHandle request with
  | some secret, some handle =>
      match moment.sealing request.accountId request.issuer handle secret with
      | some message => .error message
      | none => .ok ()
  | _, _ => .ok ()

def domainText (domain : String) : String :=
  toAsciiLowercase
    (String.ofList ((trim domain.toList).dropWhile (· == '@')))

/-- The row that an upsert leaves: a missing handle keeps the held one. -/
def connectionRow (request : IdpConnectionUpsert)
    (held : Option IdpConnection) : IdpConnection where
  accountId := request.accountId
  id := request.connectionId
  protocol := request.protocol
  enabled := request.enabled
  issuer := request.issuer
  clientId := request.clientId
  clientSecretHandle :=
    (secretHandle request).or (held.bind (·.clientSecretHandle))
  allowedDomains :=
    (request.allowedDomains.map domainText).filter fun domain =>
      !domain.isEmpty
  scopes :=
    (request.scopes.filter fun scopes => !isBlank scopes).getD
      "openid email profile"

/-- What has to succeed before the row is written. -/
def checkConnection (moment : SsoMoment) (request : IdpConnectionUpsert) :
    SsoResult Unit := do
  validateSafeId "account_id" request.accountId
  validateSafeId "connection_id" request.connectionId
  require (!isBlank request.issuer && !isBlank request.clientId)
    "issuer and client_id are required"
  require (!request.allowedDomains.isEmpty)
    "at least one allowed domain is required"
  require
    (!(request.clientSecret.any (!isBlank ·) &&
      request.clientSecretHandle.any (!isBlank ·)))
    ("provide either oidc client_secret for local sealing or " ++
      "client_secret_handle, not both")
  sealSecret moment request
  attempt moment .upsertConnection

/-- The connection as it is read back. -/
def getIdpConnection (moment : SsoMoment) (catalog : SsoCatalog)
    (accountId connectionId : String) :
    SsoResult (Option IdpConnection) := do
  attempt moment .getConnection
  .ok (catalog.connections.find (accountId, connectionId))

def readBack (moment : SsoMoment) (catalog : SsoCatalog)
    (accountId connectionId : String) : SsoResult IdpConnection := do
  match ← getIdpConnection moment catalog accountId connectionId with
  | some connection => .ok connection
  | none => .error "idp connection was not persisted"

def upsertIdpConnection (moment : SsoMoment) (request : IdpConnectionUpsert)
    (catalog : SsoCatalog) : SsoResult IdpConnection × SsoCatalog :=
  match checkConnection moment request with
  | .error message => (.error message, catalog)
  | .ok () =>
      let row := connectionRow request
        (catalog.connections.find (request.accountId, request.connectionId))
      let after :=
        { catalog with connections := catalog.connections.put row }
      (readBack moment after request.accountId request.connectionId, after)

def listIdpConnections (moment : SsoMoment) (accountId : String)
    (catalog : SsoCatalog) : SsoResult (List RedactedIdpConnection) := do
  attempt moment .listConnections
  .ok ((orderBy IdpConnection.id (catalog.connections.rows.filter
    fun connection => connection.accountId = accountId)).map
      IdpConnection.redacted)

/-! ## Role mappings -/

def mappingOf (accountId connectionId claimKey claimValue roleId : String) :
    RedactedIdpRoleMapping where
  id :=
    accountId ++ ":" ++ connectionId ++ ":" ++ claimKey ++ ":" ++
      claimValue ++ ":" ++ roleId
  accountId := accountId
  connectionId := connectionId
  idpClaimKey := claimKey
  idpClaimValue := claimValue
  roleId := roleId

def checkMapping (moment : SsoMoment) (mapping : RedactedIdpRoleMapping) :
    SsoResult Unit := do
  validateSafeId "account_id" mapping.accountId
  validateSafeId "connection_id" mapping.connectionId
  validateSafeId "role_id" mapping.roleId
  attempt moment .upsertMapping

/--
The insert of a mapping.  One with the same columns is left as it is; the id
has to be new and the connection has to exist.
-/
def insertMapping (mapping : RedactedIdpRoleMapping) (catalog : SsoCatalog) :
    SsoResult SsoCatalog :=
  if catalog.mappings.rows.any fun held =>
      held.columns = mapping.columns then .ok catalog
  else if (catalog.mappings.find mapping.id).isSome then
    .error "UNIQUE constraint failed: sso_idp_role_mappings.id"
  else if (catalog.connections.find
      (mapping.accountId, mapping.connectionId)).isNone then
    .error "FOREIGN KEY constraint failed"
  else .ok { catalog with mappings := catalog.mappings.put mapping }

def upsertIdpRoleMapping (moment : SsoMoment)
    (mapping : RedactedIdpRoleMapping) (catalog : SsoCatalog) :
    SsoResult RedactedIdpRoleMapping × SsoCatalog :=
  match checkMapping moment mapping with
  | .error message => (.error message, catalog)
  | .ok () =>
      match insertMapping mapping catalog with
      | .error message => (.error message, catalog)
      | .ok after => (.ok mapping, after)

/-- `ORDER BY connection_id, idp_claim_key, idp_claim_value, role_id`. -/
def orderMappings (mappings : List RedactedIdpRoleMapping) :
    List RedactedIdpRoleMapping :=
  orderBy RedactedIdpRoleMapping.connectionId
    (orderBy RedactedIdpRoleMapping.idpClaimKey
      (orderBy RedactedIdpRoleMapping.idpClaimValue
        (orderBy RedactedIdpRoleMapping.roleId mappings)))

def listIdpRoleMappings (moment : SsoMoment) (accountId : String)
    (catalog : SsoCatalog) : SsoResult (List RedactedIdpRoleMapping) := do
  validateSafeId "account_id" accountId
  attempt moment .listMappings
  .ok (orderMappings (catalog.mappings.rows.filter fun mapping =>
    mapping.accountId = accountId))

def checkDelete (moment : SsoMoment) (accountId : String) :
    SsoResult Unit := do
  validateSafeId "account_id" accountId
  attempt moment .deleteMapping

/-- The mapping that a deletion names. -/
def isNamed (accountId mappingId : String)
    (mapping : RedactedIdpRoleMapping) : Bool :=
  mapping.accountId = accountId ∧ mapping.id = mappingId

/-- Delete a mapping, and tell whether there was one. -/
def deleteIdpRoleMapping (moment : SsoMoment) (accountId mappingId : String)
    (catalog : SsoCatalog) : SsoResult Bool × SsoCatalog :=
  match checkDelete moment accountId with
  | .error message => (.error message, catalog)
  | .ok () =>
      (.ok (catalog.mappings.rows.any (isNamed accountId mappingId)),
        { catalog with
          mappings := catalog.mappings.keep fun mapping =>
            !isNamed accountId mappingId mapping })

end OpenSnow.Auth.Sso
