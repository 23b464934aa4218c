import Mathlib.Logic.Function.Basic
import OpenSnow.Catalog.ControlPlane

/-!
# Registered clients

The registry of API clients: registration, the copy of a durable service
identity, stopping a client, and the two checks that admit one, by its secret
and by a bearer token.

The clock, the parser of RFC 3339 times and the verification of Argon2 hashes
are parameters.
-/

namespace OpenSnow.Server

open Catalog.ControlPlane
open Rust.Text

/-! ## A client -/

inductive ClientAccountKind where
  | enterprise
  | evaluation
deriving DecidableEq, Repr

inductive ClientStatus where
  | active
  | suspended
  | revoked
deriving DecidableEq, Repr

/-- The time, and how the time of an expiry is read. -/
structure Clock where
  now : Int
  parseRfc3339 : String → Option Int

structure RegisteredClient where
  secretHash : String
  role : String
  tenantId : String
  scopes : List String
  kind : ClientAccountKind
  status : ClientStatus
  statusReason : Option String
  queryQuota : Option Nat
  queriesUsed : Nat
  accountId : Option String
  workspaceId : Option String
  expiresAt : Option String
  lastUsedAt : Option String
  rotatedAt : Option String
  revokedAt : Option String
  createdAt : Option String
deriving DecidableEq, Repr

namespace RegisteredClient

/-- A client of the default tenant, with the hash of its secret. -/
def new (secretHash role : String) : RegisteredClient where
  secretHash := secretHash
  role := role
  tenantId := "default"
  scopes := [role]
  kind :=
    if eqIgnoreAsciiCase role "EVALUATION" then .evaluation else .enterprise
  status := .active
  statusReason := none
  queryQuota := none
  queriesUsed := 0
  accountId := none
  workspaceId := none
  expiresAt := none
  lastUsedAt := none
  rotatedAt := none
  revokedAt := none
  createdAt := none

/-- The scopes of a client that names none are its role. -/
def effectiveScopes (role : String) (scopes : List String) : List String :=
  if scopes.isEmpty then [role] else scopes

def statusOf : String → Option ClientStatus
  | "active" => some .active
  | "suspended" => some .suspended
  | "revoked" => some .revoked
  | _ => none

/-- The client of a record, unless the record has an unknown status. -/
def fromDurable (record : ServiceIdentityClient) : Option RegisteredClient :=
  (statusOf record.status).map fun status =>
    { secretHash := record.secretHash
      role := record.role
      tenantId := record.workspaceId.getD record.accountId
      scopes := effectiveScopes record.role record.scopes
      kind := .enterprise
      status
      statusReason := record.statusReason
      queryQuota := none
      queriesUsed := 0
      accountId := some record.accountId
      workspaceId := record.workspaceId
      expiresAt := record.expiresAt
      lastUsedAt := record.lastUsedAt
      rotatedAt := record.rotatedAt
      revokedAt := record.revokedAt
      createdAt := some record.createdAt }

def isExpired (clock : Clock) (client : RegisteredClient) : Bool :=
  ((client.expiresAt.bind clock.parseRfc3339).map fun expires =>
    decide (expires ≤ clock.now)).getD false

/-- The secret fits an active client that is not expired. -/
def verifySecret (verify : String → String → Bool) (clock : Clock)
    (client : RegisteredClient) (secret : String) : Bool :=
  client.status = .active && !client.isExpired clock &&
    verify client.secretHash secret

end RegisteredClient

/-! ## The registry -/

/-- The registered client of an id. -/
abbrev ClientRegistry := String → Option RegisteredClient

namespace ClientRegistry

def empty : ClientRegistry := fun _ => none

def insert (registry : ClientRegistry) (clientId : String)
    (client : RegisteredClient) : ClientRegistry :=
  Function.update registry clientId (some client)

@[simp]
theorem insert_self (registry : ClientRegistry) (clientId : String)
    (client : RegisteredClient) :
    registry.insert clientId client clientId = some client := by
  simp [insert]

theorem insert_of_ne {registry : ClientRegistry} {clientId other : String}
    {client : RegisteredClient} (differs : other ≠ clientId) :
    registry.insert clientId client other = registry other :=
  Function.update_of_ne differs _ _

def registerWithMetadata (registry : ClientRegistry)
    (clientId secretHash role tenantId : String) (scopes : List String) :
    ClientRegistry :=
  registry.insert clientId
    { RegisteredClient.new secretHash role with
      tenantId, scopes := RegisteredClient.effectiveScopes role scopes }

/-- Register an isolated evaluation client. -/
def registerEvaluationClient (registry : ClientRegistry)
    (clientId secretHash tenantId : String) (queryQuota : Nat) :
    ClientRegistry :=
  registry.insert clientId
    { RegisteredClient.new secretHash "EVALUATION" with
      tenantId
      scopes := ["sql.query", "table.select"]
      kind := .evaluation
      queryQuota := some queryQuota }

/-- The message for a record with a status that no client has. -/
def unsupportedStatus (status : String) : String :=
  "unsupported service identity status: " ++ status

def registerDurableClient (registry : ClientRegistry)
    (record : ServiceIdentityClient) : Except String ClientRegistry :=
  match RegisteredClient.fromDurable record with
  | some client => .ok (registry.insert record.id client)
  | none => .error (unsupportedStatus record.status)

/--
The loop of `load_durable_clients_from_catalog`.  The records in front of one
with an unknown status stay registered.
-/
def loadDurableClients (registry : ClientRegistry) :
    List ServiceIdentityClient → Except String Unit × ClientRegistry
  | [] => (.ok (), registry)
  | record :: rest =>
      match registry.registerDurableClient record with
      | .ok registry => loadDurableClients registry rest
      | .error message => (.error message, registry)

/-- Copy the record of one client, if the catalog has one. -/
def refreshDurableClient (registry : ClientRegistry)
    (identities : IdentityTable) (clientId : String) :
    Except String ClientRegistry :=
  match identities.find clientId with
  | some record => registry.registerDurableClient record
  | none => .ok registry

def setStatus (registry : ClientRegistry) (clientId : String)
    (status : ClientStatus) (reason : String) :
    Except String ClientRegistry :=
  match registry clientId with
  | some client =>
      .ok (registry.insert clientId
        { client with status, statusReason := some reason })
  | none => .error ("unknown client_id: " ++ clientId)

def suspendClient (registry : ClientRegistry) (clientId reason : String) :
    Except String ClientRegistry :=
  registry.setStatus clientId .suspended reason

def revokeClient (registry : ClientRegistry) (clientId reason : String) :
    Except String ClientRegistry :=
  registry.setStatus clientId .revoked reason

/-- A token with one of these scopes is metered. -/
def isMetered (scopes : List String) : Bool :=
  scopes.any fun scope => scope == "sql.query" || scope == "*"

/--
Admit a bearer token of a client, or answer with a status code.  A client
that is not registered is a human and passes.
-/
def authorizeBearerClient (clock : Clock) (registry : ClientRegistry)
    (clientId : String) (scopes : List String) :
    Except Nat ClientRegistry :=
  match registry clientId with
  | none => .ok registry
  | some client =>
      if client.status ≠ .active then .error 403
      else if client.isExpired clock then .error 403
      else if client.kind = .evaluation ∧ isMetered scopes then
        if (client.queryQuota.map fun quota =>
            decide (quota ≤ client.queriesUsed)).getD false then .error 429
        else
          .ok (registry.insert clientId
            { client with queriesUsed := client.queriesUsed + 1 })
      else .ok registry

/-- The client with this id and secret. -/
def authenticateClient (verify : String → String → Bool) (clock : Clock)
    (registry : ClientRegistry) (clientId secret : String) :
    Option RegisteredClient :=
  (registry clientId).filter fun client =>
    client.verifySecret verify clock secret

/-! ### What admission says of a client -/

theorem authenticateClient_some {verify : String → String → Bool}
    {clock : Clock} {registry : ClientRegistry} {clientId secret : String}
    {client : RegisteredClient}
    (admitted :
      authenticateClient verify clock registry clientId secret =
        some client) :
    registry clientId = some client ∧ client.status = .active := by
  rw [authenticateClient, Option.filter_eq_some_iff] at admitted
  obtain ⟨registered, verified⟩ := admitted
  simp only [RegisteredClient.verifySecret, Bool.and_eq_true,
    decide_eq_true_eq] at verified
  exact ⟨registered, verified.1.1⟩

end ClientRegistry

end OpenSnow.Server
