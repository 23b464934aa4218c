import OpenSnow.Catalog.Warehouses

/-!
# The entitlement limit

What one call does to the table and to the audit chain, and the bound on the
warehouses of an account that every run of calls keeps.
-/

namespace OpenSnow.Catalog.Warehouses

open Auth
open Catalog.AuditEvents
open Foundation
open Rust

/-! ## Calls -/

/-- A call that adds a warehouse. -/
inductive Call where
  | enterprise (now : String) (request : EnterpriseWarehouseRequest)
      (entitlement : Option EntitlementCheck)
  | plain (name size : String) (minNodes maxNodes autoSuspendSeconds : Int)

/-- The warehouses that an account owns. -/
def WarehouseTable.owned (table : WarehouseTable) (accountId : String) :
    Nat :=
  table.rows.countP fun row => row.accountId = some accountId

/-- The row is added to the chain of the account and records the decision. -/
def Records (serialize : AuditEvent → Option String)
    (before after : AuditTable) (accountId : String) (result : AuditResult) :
    Prop :=
  ∃ row event, after.rows = before.rows ++ [row] ∧
    row.accountId = accountId ∧ serialize event = some row.eventJson ∧
    event.tenantId = some accountId ∧ event.action = "warehouse.activate" ∧
    event.result = result

/-- The row that a request of an account adds. -/
def enterpriseRow (table : WarehouseTable)
    (request : EnterpriseWarehouseRequest) : WarehouseRow :=
  (request.columns (organizationOf request.accountId)).row
    (table.sequence + 1)

/-- A refused activation: one denied event and no other change. -/
def Refused (serialize : AuditEvent → Option String)
    (request : EnterpriseWarehouseRequest) (before after : CatalogState) :
    Prop :=
  after.warehouses = before.warehouses ∧
    Records serialize before.auditEvents after.auditEvents
      request.accountId .denied

/-- The table has the row of the request and no other new row. -/
def Gains (request : EnterpriseWarehouseRequest)
    (before after : WarehouseTable) : Prop :=
  after.rows = before.rows ++ [enterpriseRow before request]

/-- A granted activation: one row of the account and one allowed event. -/
def Granted (serialize : AuditEvent → Option String)
    (request : EnterpriseWarehouseRequest) (before after : CatalogState) :
    Prop :=
  Gains request before.warehouses after.warehouses ∧
    Records serialize before.auditEvents after.auditEvents
      request.accountId .allowed

section Runs

variable (sha256 : List UInt8 → List UInt8)
  (serialize : AuditEvent → Option String)

def perform : Call → Effect CatalogState Failure Unit
  | .enterprise now request entitlement =>
      createEnterpriseWarehouse sha256 serialize now request entitlement
  | .plain name size minNodes maxNodes autoSuspendSeconds =>
      createWarehouse name size minNodes maxNodes autoSuspendSeconds

/-- The catalog after calls, whether they succeed or fail. -/
def run (catalog : CatalogState) (calls : List Call) : CatalogState :=
  calls.foldl (fun catalog call => (perform sha256 serialize call catalog).2)
    catalog

variable {sha256 serialize}

/-! ## One call -/

variable {request : EnterpriseWarehouseRequest} {catalog after : CatalogState}

theorem records_of_append {now : String} {result : AuditResult}
    {metadata : Json.Fields} (ok :
      appendActivationAudit sha256 serialize now
        (activationAudit request result metadata) catalog = (.ok (), after)) :
    after.warehouses = catalog.warehouses ∧
      Records serialize catalog.auditEvents after.auditEvents
        request.accountId result := by
  obtain ⟨warehouses, eventJson, serialized, rows⟩ :=
    appendActivationAudit_ok ok
  exact ⟨warehouses, _, _, rows, rfl, serialized, rfl, rfl, rfl⟩

variable {entitlement : Option EntitlementCheck}

/-- What a call without an entitlement for it does. -/
theorem createEnterpriseWarehouse_refused {now : String}
    {result : Except Failure Unit} (refused :
      activationAllowed catalog.warehouses request entitlement = false)
    (ran :
      createEnterpriseWarehouse sha256 serialize now request entitlement
        catalog = (result, after)) :
    (result = .error (.denied (entitlementDenialReason entitlement
          (organizationOf request.accountId) "warehouse.activate")) ∧
        Refused serialize request catalog after) ∨
      (∃ error, result = .error (.audit error)) ∧ after = catalog := by
  unfold createEnterpriseWarehouse at ran
  rw [if_pos (by rw [refused]; rfl)] at ran
  cases appended :
      appendActivationAudit sha256 serialize now
        (activationAudit request .denied
          (entitlementMetadata
            (some (entitlementDenialReason entitlement
              (organizationOf request.accountId) "warehouse.activate"))
            entitlement)) catalog with
  | mk outcome middle =>
      cases outcome with
      | ok value =>
          rw [Effect.bind_ok appended] at ran
          cases ran
          exact Or.inl ⟨rfl, records_of_append appended⟩
      | error failure =>
          rw [Effect.bind_error appended] at ran
          cases ran
          obtain ⟨unchanged, error, rfl⟩ :=
            appendActivationAudit_error appended
          exact Or.inr ⟨⟨error, rfl⟩, unchanged⟩

/-- What a call with an entitlement for it does. -/
theorem createEnterpriseWarehouse_allowed {now : String}
    {result : Except Failure Unit} (allowed :
      activationAllowed catalog.warehouses request entitlement = true)
    (ran :
      createEnterpriseWarehouse sha256 serialize now request entitlement
        catalog = (result, after)) :
    (result = .ok () ∧ Granted serialize request catalog after) ∨
      ((∃ error, result = .error (.insert error)) ∧ after = catalog) ∨
      (∃ error, result = .error (.audit error)) ∧
        after.auditEvents = catalog.auditEvents ∧
        Gains request catalog.warehouses after.warehouses := by
  unfold createEnterpriseWarehouse at ran
  rw [if_neg (by rw [allowed]; decide)] at ran
  cases inserted :
      createEnterpriseWarehouseRecord request
        (organizationOf request.accountId) catalog with
  | mk outcome middle =>
  cases outcome with
  | error failure =>
      rw [Effect.bind_error inserted] at ran
      cases ran
      obtain ⟨unchanged, error, rfl⟩ := insertWarehouse_error inserted
      exact Or.inr (Or.inl ⟨⟨error, rfl⟩, unchanged⟩)
  | ok value =>
      rw [Effect.bind_ok inserted] at ran
      obtain ⟨sameChain, rows⟩ := insertWarehouse_ok inserted
      cases result with
      | ok value =>
          obtain ⟨sameRows, recorded⟩ := records_of_append ran
          rw [sameChain] at recorded
          exact Or.inl ⟨rfl, by rw [Gains, sameRows]; exact rows, recorded⟩
      | error failure =>
          obtain ⟨rfl, error, rfl⟩ := appendActivationAudit_error ran
          exact Or.inr (Or.inr ⟨⟨error, rfl⟩, sameChain, rows⟩)

/-! ## Runs -/

/-- What a call can do to the table. -/
inductive Extends (before after : WarehouseTable) : Call → Prop where
  | same {call : Call} (unchanged : after = before) : Extends before after call
  | unowned {call : Call} {row : WarehouseRow} (plain : row.accountId = none)
      (rows : after.rows = before.rows ++ [row]) : Extends before after call
  | owned {now : String} {request : EnterpriseWarehouseRequest}
      {entitlement : Option EntitlementCheck}
      (allowed : activationAllowed before request entitlement = true)
      (gains : Gains request before after) :
      Extends before after (.enterprise now request entitlement)

theorem perform_extends (call : Call) (catalog : CatalogState) :
    Extends catalog.warehouses
      (perform sha256 serialize call catalog).2.warehouses call := by
  cases ran : perform sha256 serialize call catalog with
  | mk result after =>
  cases call with
  | enterprise now request entitlement =>
      cases decision :
          activationAllowed catalog.warehouses request entitlement with
      | false =>
          obtain ⟨-, unchanged, -⟩ | ⟨-, rfl⟩ :=
            createEnterpriseWarehouse_refused decision ran
          · exact .same unchanged
          · exact .same rfl
      | true =>
          obtain ⟨-, gains, -⟩ | ⟨-, rfl⟩ | ⟨-, -, gains⟩ :=
            createEnterpriseWarehouse_allowed decision ran
          · exact .owned decision gains
          · exact .same rfl
          · exact .owned decision gains
  | plain name size minNodes maxNodes autoSuspendSeconds =>
      cases result with
      | ok value => exact .unowned rfl (insertWarehouse_ok ran).2
      | error failure => exact .same (by rw [(insertWarehouse_error ran).1])

/-- Every owned row is a row that the limit of its account counts. -/
def Counted (table : WarehouseTable) : Prop :=
  ∀ row ∈ table.rows, ∀ accountId, row.accountId = some accountId →
    row.organizationId = some (organizationOf accountId)

theorem counted_seeded : Counted .seeded := by
  intro row member accountId owner
  rw [List.mem_singleton.mp member] at owner
  cases owner

theorem Extends.counted {before after : WarehouseTable} {call : Call}
    (step : Extends before after call) (counted : Counted before) :
    Counted after := by
  intro row member accountId owner
  cases step with
  | same unchanged =>
      rw [unchanged] at member
      exact counted row member accountId owner
  | unowned plain rows =>
      rw [rows] at member
      rcases List.mem_append.mp member with old | new
      · exact counted row old accountId owner
      · rw [List.mem_singleton.mp new, plain] at owner
        cases owner
  | owned allowed gains =>
      rw [gains] at member
      rcases List.mem_append.mp member with old | new
      · exact counted row old accountId owner
      · rw [List.mem_singleton.mp new] at owner ⊢
        cases owner
        rfl

theorem Counted.owned {table : WarehouseTable} (counted : Counted table)
    (accountId : String) :
    countEnterpriseWarehouses table accountId (organizationOf accountId) =
      table.owned accountId := by
  unfold countEnterpriseWarehouses WarehouseTable.owned
  refine List.countP_congr fun row member => ?_
  simp only [decide_eq_true_eq, and_iff_left_iff_imp]
  exact counted row member accountId

/-- The limits under which the calls act for an account are at most `limit`. -/
def CallsWithin (limit : Nat) (accountId : String) (calls : List Call) :
    Prop :=
  ∀ now request entitlement,
    Call.enterprise now request (some entitlement) ∈ calls →
      request.accountId = accountId →
      ∃ granted ≤ limit, entitlement.warehouseLimit = some granted

/-- One call within the limit keeps the account within the limit. -/
theorem Extends.within {before after : WarehouseTable} {call : Call}
    {limit : Nat} {accountId : String}
    (step : Extends before after call) (counted : Counted before)
    (within : CallsWithin limit accountId [call])
    (bounded : before.owned accountId ≤ limit) :
    after.owned accountId ≤ limit := by
  cases step with
  | same unchanged => rwa [unchanged]
  | unowned plain rows =>
      rw [WarehouseTable.owned, rows, List.countP_append,
        List.countP_singleton, plain]
      simpa [WarehouseTable.owned] using bounded
  | @owned now request entitlement allowed gains =>
      rw [WarehouseTable.owned, gains, List.countP_append,
        List.countP_singleton]
      by_cases same : request.accountId = accountId
      · cases entitlement with
        | none => cases allowed
        | some entitlement =>
            obtain ⟨granted, small, limited⟩ :=
              within now request entitlement List.mem_cons_self same
            have count :=
              WarehouseActivation.isAllowed_count allowed limited
            change countEnterpriseWarehouses before request.accountId
              (organizationOf request.accountId) + 1 ≤ granted at count
            rw [counted.owned, same] at count
            split_ifs
            · exact count.trans small
            · exact bounded
      · have other : (enterpriseRow before request).accountId ≠
            some accountId := fun owner => same (Option.some.inj owner)
        rw [if_neg (by simpa using other)]
        exact bounded

theorem run_within {limit : Nat} {accountId : String} (calls : List Call)
    (within : CallsWithin limit accountId calls) :
    ∀ catalog : CatalogState, Counted catalog.warehouses →
      catalog.warehouses.owned accountId ≤ limit →
      (run sha256 serialize catalog calls).warehouses.owned accountId ≤
        limit := by
  induction calls with
  | nil => exact fun catalog _ bounded => bounded
  | cons call rest ih =>
      intro catalog counted bounded
      have step : Extends catalog.warehouses
          (perform sha256 serialize call catalog).2.warehouses call :=
        perform_extends call catalog
      refine ih (fun now request entitlement member =>
        within now request entitlement (List.mem_cons_of_mem _ member))
        _ (step.counted counted) (step.within counted ?_ bounded)
      intro now request entitlement member
      obtain rfl := List.mem_singleton.mp member
      exact within now request entitlement List.mem_cons_self

end Runs

/-- A trial that covers one warehouse of the account `acme`. -/
def acmeTrial : EntitlementCheck where
  marketplaceIdentity := ⟨"org_acme", .aws, "customer", "opensnow", "ent-1"⟩
  state := .trialing
  features := ["warehouse.activate"]
  warehouseLimit := some 1

def acmeRequest (name : String) : EnterpriseWarehouseRequest where
  accountId := "acme"
  name := name
  size := "small"
  minNodes := 0
  maxNodes := 4
  autoSuspendSeconds := 300

/-- Two activations, with a warehouse of nobody between them. -/
def acmeCalls : List Call :=
  [.enterprise "t0" (acmeRequest "etl") (some acmeTrial),
    .plain "shared" "small" 0 1 60,
    .enterprise "t1" (acmeRequest "bi") (some acmeTrial)]

theorem acmeCalls_within : CallsWithin 1 "acme" acmeCalls := by
  intro now request entitlement member owner
  refine ⟨1, le_rfl, ?_⟩
  simp only [acmeCalls, List.mem_cons, Call.enterprise.injEq, reduceCtorEq,
    Option.some.injEq, List.not_mem_nil, or_false, false_or] at member
  obtain ⟨-, -, rfl⟩ | ⟨-, -, rfl⟩ := member
  · rfl
  · rfl

end OpenSnow.Catalog.Warehouses
