import OpenSnow.Rust.Json

/-!
# Marketplace entitlements

The audit events of the catalog and the check that an entitlement lets an
account activate one more warehouse.
-/

namespace OpenSnow.Auth

open Rust

/-! ## Audit events -/

inductive AuditResult where
  | allowed
  | denied
  | succeeded
  | failed
deriving DecidableEq, Repr

structure AuditEvent where
  eventTime : String
  organizationId : String
  tenantId : Option String
  actorType : String
  actorId : String
  actorDisplay : Option String
  actorAuthMethod : Option String
  action : String
  resourceType : String
  resourceId : String
  resourceName : Option String
  result : AuditResult
  traceId : Option String
  secretHandleRefs : List String
  metadataRedacted : Json.Fields
deriving Repr

/-! ## Entitlements -/

inductive MarketplaceProvider where
  | aws
  | gcp
  | azure
deriving DecidableEq, Repr

def MarketplaceProvider.asStr : MarketplaceProvider → String
  | aws => "aws"
  | gcp => "gcp"
  | azure => "azure"

structure MarketplaceIdentity where
  organizationId : String
  provider : MarketplaceProvider
  externalCustomerId : String
  productCode : String
  entitlementId : String
deriving DecidableEq, Repr

inductive EntitlementState where
  | active
  | trialing
  | expired
  | suspended
  | cancelled
deriving DecidableEq, Repr

structure EntitlementCheck where
  marketplaceIdentity : MarketplaceIdentity
  state : EntitlementState
  features : List String
  warehouseLimit : Option Nat
deriving DecidableEq, Repr

namespace EntitlementCheck

def isActive (entitlement : EntitlementCheck) : Bool :=
  entitlement.state = .active || entitlement.state = .trialing

def hasFeature (entitlement : EntitlementCheck) (feature : String) : Bool :=
  entitlement.features.any fun held => held == feature

end EntitlementCheck

/-- The activation of one more warehouse of a tenant. -/
structure WarehouseActivation where
  organizationId : String
  tenantId : String
  warehouseId : String
  requestedWarehouseCount : Nat
deriving DecidableEq, Repr

namespace WarehouseActivation

def isAllowed (activation : WarehouseActivation)
    (entitlement : EntitlementCheck) : Bool :=
  entitlement.isActive && entitlement.hasFeature "warehouse.activate" &&
    entitlement.marketplaceIdentity.organizationId ==
      activation.organizationId &&
    (entitlement.warehouseLimit.map fun limit =>
      decide (activation.requestedWarehouseCount ≤ limit)).getD true

theorem isAllowed_count {activation : WarehouseActivation}
    {entitlement : EntitlementCheck} {limit : Nat}
    (allowed : activation.isAllowed entitlement)
    (limited : entitlement.warehouseLimit = some limit) :
    activation.requestedWarehouseCount ≤ limit := by
  simp only [isAllowed, limited, Option.map_some, Option.getD_some,
    Bool.and_eq_true, decide_eq_true_eq] at allowed
  exact allowed.2

end WarehouseActivation

end OpenSnow.Auth
