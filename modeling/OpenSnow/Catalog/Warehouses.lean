import OpenSnow.Auth.Entitlements
import OpenSnow.Catalog.AuditEvents
import OpenSnow.Foundation.Effect

/-!
# Warehouses of accounts

The `warehouses` table and the two operations that add to it.  An enterprise
warehouse is owned by an account and needs an entitlement; the decision is
recorded in the audit chain of the account.
-/

namespace OpenSnow.Catalog.Warehouses

open Auth
open Catalog.AuditEvents
open Foundation
open Rust

/-! ## The table -/

/-- A row of `warehouses`. -/
structure WarehouseRow where
  id : Int
  name : String
  size : String
  state : String
  minNodes : Int
  maxNodes : Int
  autoSuspendSeconds : Int
  accountId : Option String
  organizationId : Option String
deriving DecidableEq, Repr

/-- The columns that an `INSERT INTO warehouses` names. -/
structure WarehouseColumns where
  name : String
  size : String
  minNodes : Int
  maxNodes : Int
  autoSuspendSeconds : Int
  accountId : Option String
  organizationId : Option String
deriving DecidableEq, Repr

/-- The row that an insert stores: it starts suspended. -/
def WarehouseColumns.row (columns : WarehouseColumns) (id : Int) :
    WarehouseRow where
  id := id
  name := columns.name
  size := columns.size
  state := "SUSPENDED"
  minNodes := columns.minNodes
  maxNodes := columns.maxNodes
  autoSuspendSeconds := columns.autoSuspendSeconds
  accountId := columns.accountId
  organizationId := columns.organizationId

/-- Every text column can be stored. -/
def WarehouseColumns.Fits (columns : WarehouseColumns) : Prop :=
  TextFits columns.name ∧ TextFits columns.size ∧
    TextFits (columns.accountId.getD "") ∧
    TextFits (columns.organizationId.getD "")

instance (columns : WarehouseColumns) : Decidable columns.Fits :=
  inferInstanceAs (Decidable (_ ∧ _ ∧ _ ∧ _))

/-- The `warehouses` table: names are unique, ids are never used again. -/
structure WarehouseTable where
  rows : List WarehouseRow
  sequence : Int
  namesDistinct : (rows.map WarehouseRow.name).Nodup

/-- The table after the migration, which seeds the default warehouse. -/
def WarehouseTable.seeded : WarehouseTable where
  rows := [⟨1, "default", "small", "SUSPENDED", 0, 4, 300, none, none⟩]
  sequence := 1
  namesDistinct := List.nodup_singleton _

inductive InsertError where
  /-- `UNIQUE(name)`. -/
  | nameTaken
  | textTooBig
  | full
deriving DecidableEq, Repr

def WarehouseTable.insert (table : WarehouseTable)
    (columns : WarehouseColumns) : Except InsertError WarehouseTable :=
  if columns.Fits then
    if table.sequence < maxRowId then
      if taken : columns.name ∈ table.rows.map WarehouseRow.name then
        .error .nameTaken
      else
        .ok
          { rows := table.rows ++ [columns.row (table.sequence + 1)]
            sequence := table.sequence + 1
            namesDistinct := by
              rw [List.map_append, List.map_singleton,
                ← List.concat_eq_append]
              exact table.namesDistinct.concat taken }
    else .error .full
  else .error .textTooBig

theorem WarehouseTable.insert_ok {table after : WarehouseTable}
    {columns : WarehouseColumns} (ok : table.insert columns = .ok after) :
    after.rows = table.rows ++ [columns.row (table.sequence + 1)] := by
  unfold WarehouseTable.insert at ok
  split_ifs at ok
  simp only [Except.ok.injEq] at ok
  rw [← ok]

/-! ## The catalog -/

structure CatalogState where
  warehouses : WarehouseTable
  auditEvents : AuditTable

/-- A freshly migrated catalog. -/
def CatalogState.fresh : CatalogState where
  warehouses := .seeded
  auditEvents := .empty

inductive Failure where
  /-- "enterprise warehouse activation denied: {reason}". -/
  | denied (reason : String)
  | insert (error : InsertError)
  | audit (error : AppendError)
deriving DecidableEq, Repr

structure EnterpriseWarehouseRequest where
  accountId : String
  name : String
  size : String
  minNodes : Int
  maxNodes : Int
  autoSuspendSeconds : Int
deriving DecidableEq, Repr

/-- `INSERT INTO warehouses …`. -/
def insertWarehouse (columns : WarehouseColumns) :
    Effect CatalogState Failure Unit := fun catalog =>
  match catalog.warehouses.insert columns with
  | .ok warehouses => (.ok (), { catalog with warehouses })
  | .error error => (.error (.insert error), catalog)

/-- Create a new virtual warehouse. -/
def createWarehouse (name size : String)
    (minNodes maxNodes autoSuspendSeconds : Int) :
    Effect CatalogState Failure Unit :=
  insertWarehouse
    { name, size, minNodes, maxNodes, autoSuspendSeconds
      accountId := none, organizationId := none }

/-- `SELECT COUNT(*) … WHERE account_id = ?1 AND organization_id = ?2`. -/
def countEnterpriseWarehouses (table : WarehouseTable)
    (accountId organizationId : String) : Nat :=
  table.rows.countP fun row =>
    row.accountId = some accountId ∧ row.organizationId = some organizationId

/-- The columns of a warehouse of the requesting account. -/
def EnterpriseWarehouseRequest.columns (request : EnterpriseWarehouseRequest)
    (organizationId : String) : WarehouseColumns where
  name := request.name
  size := request.size
  minNodes := request.minNodes
  maxNodes := request.maxNodes
  autoSuspendSeconds := request.autoSuspendSeconds
  accountId := some request.accountId
  organizationId := some organizationId

def createEnterpriseWarehouseRecord (request : EnterpriseWarehouseRequest)
    (organizationId : String) : Effect CatalogState Failure Unit :=
  insertWarehouse (request.columns organizationId)

def entitlementDenialReason (entitlement : Option EntitlementCheck)
    (expectedOrg requiredFeature : String) : String :=
  match entitlement with
  | none => "missing_entitlement"
  | some entitlement =>
      if !entitlement.isActive then "inactive_entitlement"
      else if !entitlement.hasFeature requiredFeature then "missing_feature"
      else if entitlement.marketplaceIdentity.organizationId ≠ expectedOrg
      then "identity_mismatch"
      else "denied"

def entitlementMetadata (reason : Option String)
    (entitlement : Option EntitlementCheck) : Json.Fields :=
  let metadata :=
    match reason with
    | some reason => Json.Fields.insert "reason" (.string reason) []
    | none => []
  match entitlement with
  | none => metadata
  | some entitlement =>
      let identity := entitlement.marketplaceIdentity
      metadata
        |> Json.Fields.insert "provider" (.string identity.provider.asStr)
        |> Json.Fields.insert "external_customer_id"
            (.string identity.externalCustomerId)
        |> Json.Fields.insert "product_code" (.string identity.productCode)
        |> Json.Fields.insert "entitlement_id"
            (.string identity.entitlementId)

structure ActivationAuditInput where
  accountId : String
  organizationId : String
  action : String
  resourceType : String
  resourceId : String
  result : AuditResult
  metadataRedacted : Json.Fields

/-- The event that `append_activation_audit` appends. -/
def ActivationAuditInput.event (input : ActivationAuditInput) (now : String) :
    AuditEvent where
  eventTime := now
  organizationId := input.organizationId
  tenantId := some input.accountId
  actorType := "marketplace"
  actorId := "entitlement-gate"
  actorDisplay := none
  actorAuthMethod := some "marketplace_entitlement"
  action := input.action
  resourceType := input.resourceType
  resourceId := input.resourceId
  resourceName := none
  result := input.result
  traceId := none
  secretHandleRefs := []
  metadataRedacted := input.metadataRedacted

section Auditing

variable (sha256 : List UInt8 → List UInt8)
  (serialize : AuditEvent → Option String)

def appendActivationAudit (now : String) (input : ActivationAuditInput) :
    Effect CatalogState Failure Unit := fun catalog =>
  match appendAuditEvent sha256 serialize catalog.auditEvents input.accountId
      (some input.organizationId) (input.event now) with
  | .ok (auditEvents, _) => (.ok (), { catalog with auditEvents })
  | .error error => (.error (.audit error), catalog)

def organizationOf (accountId : String) : String := "org_" ++ accountId

/-- The activation that the request asks for in the state of the catalog. -/
def activationOf (table : WarehouseTable)
    (request : EnterpriseWarehouseRequest) : WarehouseActivation where
  organizationId := organizationOf request.accountId
  tenantId := request.accountId
  warehouseId := request.name
  requestedWarehouseCount :=
    countEnterpriseWarehouses table request.accountId
      (organizationOf request.accountId) + 1

/-- The entitlement lets the account activate one more warehouse. -/
def activationAllowed (table : WarehouseTable)
    (request : EnterpriseWarehouseRequest)
    (entitlement : Option EntitlementCheck) : Bool :=
  (entitlement.map (activationOf table request).isAllowed).getD false

/-- The audit record of a decision about the request. -/
def activationAudit (request : EnterpriseWarehouseRequest)
    (result : AuditResult) (metadata : Json.Fields) :
    ActivationAuditInput where
  accountId := request.accountId
  organizationId := organizationOf request.accountId
  action := "warehouse.activate"
  resourceType := "warehouse"
  resourceId := request.name
  result := result
  metadataRedacted := metadata

def createEnterpriseWarehouse (now : String)
    (request : EnterpriseWarehouseRequest)
    (entitlement : Option EntitlementCheck) :
    Effect CatalogState Failure Unit := fun catalog =>
  let organizationId := organizationOf request.accountId
  if !activationAllowed catalog.warehouses request entitlement then
    let reason :=
      entitlementDenialReason entitlement organizationId "warehouse.activate"
    (do
      appendActivationAudit sha256 serialize now
        (activationAudit request .denied
          (entitlementMetadata (some reason) entitlement))
      Effect.fail (.denied reason)) catalog
  else
    (do
      createEnterpriseWarehouseRecord request organizationId
      appendActivationAudit sha256 serialize now
        (activationAudit request .allowed
          (entitlementMetadata none entitlement))) catalog

variable {sha256 serialize}

/-- An audit record that is appended is one more row in its account's chain. -/
theorem appendActivationAudit_ok {now : String}
    {input : ActivationAuditInput} {catalog after : CatalogState}
    (ok :
      appendActivationAudit sha256 serialize now input catalog =
        (.ok (), after)) :
    after.warehouses = catalog.warehouses ∧
      ∃ eventJson, serialize (input.event now) = some eventJson ∧
        after.auditEvents.rows =
          catalog.auditEvents.rows ++
            [chainedRow sha256 catalog.auditEvents input.accountId
              (some input.organizationId) eventJson] := by
  unfold appendActivationAudit at ok
  cases appended :
      appendAuditEvent sha256 serialize catalog.auditEvents input.accountId
        (some input.organizationId) (input.event now) with
  | error error =>
      rw [appended] at ok
      cases ok
  | ok result =>
      obtain ⟨auditEvents, id⟩ := result
      rw [appended] at ok
      cases ok
      obtain ⟨eventJson, serialized, rows, -⟩ := appendAuditEvent_ok appended
      exact ⟨rfl, eventJson, serialized, rows⟩

/-- An audit record that is not appended leaves the catalog as it was. -/
theorem appendActivationAudit_error {now : String}
    {input : ActivationAuditInput} {catalog after : CatalogState}
    {failure : Failure}
    (failed :
      appendActivationAudit sha256 serialize now input catalog =
        (.error failure, after)) :
    after = catalog ∧ ∃ error, failure = .audit error := by
  unfold appendActivationAudit at failed
  cases appended :
      appendAuditEvent sha256 serialize catalog.auditEvents input.accountId
        (some input.organizationId) (input.event now) with
  | ok result =>
      obtain ⟨auditEvents, id⟩ := result
      rw [appended] at failed
      cases failed
  | error error =>
      rw [appended] at failed
      cases failed
      exact ⟨rfl, error, rfl⟩

end Auditing

/-- An insert that succeeds adds its row and no audit event. -/
theorem insertWarehouse_ok {columns : WarehouseColumns}
    {catalog after : CatalogState}
    (ok : insertWarehouse columns catalog = (.ok (), after)) :
    after.auditEvents = catalog.auditEvents ∧
      after.warehouses.rows =
        catalog.warehouses.rows ++
          [columns.row (catalog.warehouses.sequence + 1)] := by
  unfold insertWarehouse at ok
  cases inserted : catalog.warehouses.insert columns with
  | error error =>
      rw [inserted] at ok
      cases ok
  | ok warehouses =>
      rw [inserted] at ok
      cases ok
      exact ⟨rfl, WarehouseTable.insert_ok inserted⟩

theorem insertWarehouse_error {columns : WarehouseColumns}
    {catalog after : CatalogState} {failure : Failure}
    (failed : insertWarehouse columns catalog = (.error failure, after)) :
    after = catalog ∧ ∃ error, failure = .insert error := by
  unfold insertWarehouse at failed
  cases inserted : catalog.warehouses.insert columns with
  | ok warehouses =>
      rw [inserted] at failed
      cases failed
  | error error =>
      rw [inserted] at failed
      cases failed
      exact ⟨rfl, error, rfl⟩

end OpenSnow.Catalog.Warehouses
