import OpenSnow.Catalog.Tenants
import OpenSnow.Foundation.Keyed
import OpenSnow.Rust.Json

/-!
# The control-plane tables

The resources of accounts and the service identities, with the statements
that read and write them.
-/

namespace OpenSnow.Catalog.ControlPlane

open Catalog.Tenants
open Foundation
open Rust

/-! ## Resources -/

/-- A row of `control_plane_resources`. -/
structure ControlPlaneResource where
  resourceType : String
  id : String
  accountId : String
  organizationId : Option String
  workspaceId : Option String
  resource : Json.Value
  createdAt : String
  updatedAt : String

/-- The primary key of a resource. -/
def ControlPlaneResource.key (row : ControlPlaneResource) : String × String :=
  (row.resourceType, row.id)

abbrev ResourceTable := Keyed ControlPlaneResource.key

/-- The arguments of `upsert_control_plane_resource`. -/
structure ResourceWrite where
  resourceType : String
  id : String
  accountId : String
  organizationId : Option String
  workspaceId : Option String
  resource : Json.Value

def ResourceWrite.key (write : ResourceWrite) : String × String :=
  (write.resourceType, write.id)

/-- The row that an upsert leaves: it keeps the time of its creation. -/
def ResourceWrite.row (write : ResourceWrite) (now : String)
    (held : Option ControlPlaneResource) : ControlPlaneResource where
  resourceType := write.resourceType
  id := write.id
  accountId := write.accountId
  organizationId := write.organizationId
  workspaceId := write.workspaceId
  resource := write.resource
  createdAt := (held.map ControlPlaneResource.createdAt).getD now
  updatedAt := now

def upsertControlPlaneResource (table : ResourceTable) (now : String)
    (write : ResourceWrite) : ResourceTable :=
  table.put (write.row now (table.find write.key))

@[simp]
theorem find_upsert (table : ResourceTable) (now : String)
    (write : ResourceWrite) (key : String × String) :
    (upsertControlPlaneResource table now write).find key =
      if write.key = key then some (write.row now (table.find write.key))
      else table.find key :=
  Keyed.find_put _ _ _

/-! ## Service identities -/

/-- A row of `service_identities`. -/
structure ServiceIdentityClient where
  id : String
  accountId : String
  workspaceId : Option String
  secretHash : String
  role : String
  scopes : List String
  status : String
  statusReason : Option String
  expiresAt : Option String
  lastUsedAt : Option String
  rotatedAt : Option String
  revokedAt : Option String
  createdAt : String
deriving DecidableEq, Repr

abbrev IdentityTable := Keyed ServiceIdentityClient.id

structure ServiceIdentityClientInput where
  id : String
  accountId : String
  workspaceId : Option String
  secretHash : String
  role : String
  scopes : List String
  expiresAt : Option String
deriving DecidableEq, Repr

/-- The record that `create_service_identity_client` inserts. -/
def ServiceIdentityClientInput.record (input : ServiceIdentityClientInput)
    (now : String) : ServiceIdentityClient where
  id := input.id
  accountId := input.accountId
  workspaceId := input.workspaceId
  secretHash := input.secretHash
  role := input.role
  scopes := input.scopes
  status := "active"
  statusReason := none
  expiresAt := input.expiresAt
  lastUsedAt := none
  rotatedAt := none
  revokedAt := none
  createdAt := now

/-- `INSERT INTO service_identities …`: the id must be free. -/
def createServiceIdentityClient (table : IdentityTable) (now : String)
    (input : ServiceIdentityClientInput) : Option IdentityTable :=
  if (table.find input.id).isSome then none
  else some (table.put (input.record now))

/-- `SELECT … ORDER BY id`, of one account or of all. -/
def listServiceIdentityClients (table : IdentityTable)
    (accountId : Option String) : List ServiceIdentityClient :=
  let rows :=
    match accountId with
    | some accountId =>
        table.rows.filter fun record : ServiceIdentityClient =>
          record.accountId = accountId
    | none => table.rows
  rows.mergeSort fun earlier later => earlier.id ≤ later.id

def ServiceIdentityClient.used (record : ServiceIdentityClient)
    (now : String) : ServiceIdentityClient :=
  { record with lastUsedAt := some now }

def ServiceIdentityClient.rotated (record : ServiceIdentityClient)
    (now secretHash : String) : ServiceIdentityClient :=
  { record with
    secretHash, rotatedAt := some now, status := "active"
    revokedAt := none, statusReason := none }

def ServiceIdentityClient.revoked (record : ServiceIdentityClient)
    (now reason : String) : ServiceIdentityClient :=
  { record with
    status := "revoked", statusReason := some reason, revokedAt := some now }

/-- `UPDATE service_identities … WHERE id = ?1`, if there is such a row. -/
def updateServiceIdentity (table : IdentityTable) (id : String)
    (change : ServiceIdentityClient → ServiceIdentityClient) :
    Option IdentityTable :=
  (table.find id).map fun record => table.put (change record)

def markServiceIdentityUsed (table : IdentityTable) (now id : String) :
    IdentityTable :=
  (updateServiceIdentity table id (·.used now)).getD table

def rotateServiceIdentitySecret (table : IdentityTable)
    (now id secretHash : String) : Option IdentityTable :=
  updateServiceIdentity table id (·.rotated now secretHash)

def revokeServiceIdentityClient (table : IdentityTable)
    (now id reason : String) : Option IdentityTable :=
  updateServiceIdentity table id (·.revoked now reason)

/-! ## Accounts -/

def accountIdFromName (name : String) : String :=
  let slug := slugifyTenantId name
  if slug = "" then "account" else slug

structure AccountRecord where
  id : String
  name : String
  ownerEmail : String
  createdAt : String
deriving DecidableEq, Repr

structure OrganizationRecord where
  id : String
  accountId : String
  name : String
  createdAt : String
deriving DecidableEq, Repr

structure AccountWorkspace where
  id : String
  accountId : String
  organizationId : String
  name : String
  createdAt : String
deriving DecidableEq, Repr

structure AccountBootstrap where
  account : AccountRecord
  organization : OrganizationRecord
  workspace : AccountWorkspace
deriving DecidableEq, Repr

/-- The account, the organization and the workspace of a new account. -/
def registerAccount (now accountName ownerEmail : String) :
    AccountBootstrap :=
  let accountId := accountIdFromName accountName
  let organizationId := "org_" ++ accountId
  let workspaceId := "ws_" ++ accountId ++ "_default"
  { account :=
      { id := accountId, name := accountName, ownerEmail, createdAt := now }
    organization :=
      { id := organizationId, accountId, name := accountName
        createdAt := now }
    workspace :=
      { id := workspaceId, accountId, organizationId, name := "default"
        createdAt := now } }

def AccountRecord.toValue (account : AccountRecord) : Json.Value :=
  .record
    [("id", .string account.id), ("name", .string account.name),
      ("owner_email", .string account.ownerEmail),
      ("created_at", .string account.createdAt)]

def OrganizationRecord.toValue (organization : OrganizationRecord) :
    Json.Value :=
  .record
    [("id", .string organization.id),
      ("account_id", .string organization.accountId),
      ("name", .string organization.name),
      ("created_at", .string organization.createdAt)]

def AccountWorkspace.toValue (workspace : AccountWorkspace) : Json.Value :=
  .record
    [("id", .string workspace.id),
      ("account_id", .string workspace.accountId),
      ("organization_id", .string workspace.organizationId),
      ("name", .string workspace.name),
      ("created_at", .string workspace.createdAt)]

end OpenSnow.Catalog.ControlPlane
