import OpenSnow.Catalog.Warehouses
import OpenSnow.Foundation.Columns
import OpenSnow.Rust.Integer

/-!
# The operator's plan

The warehouses of the catalog are turned into specifications, and from these
and the replicas seen in the cluster a plan is made: one action for every
warehouse.
-/

namespace OpenSnow.Distributed

open Catalog.Warehouses
open Foundation
open Rust

/-- Desired configuration for a virtual warehouse. -/
structure WarehouseSpec where
  name : String
  size : String
  minReplicas : Int
  maxReplicas : Int
  autoSuspendSeconds : Int
  state : String
deriving DecidableEq, Repr

inductive PlanAction where
  | scale (warehouse : String) (current target : Int)
  | noop (warehouse : String) (replicas : Int)
deriving DecidableEq, Repr

/-- Plan of actions to reconcile the cluster with the warehouses. -/
structure ReconcilePlan where
  actions : List PlanAction
deriving DecidableEq, Repr

/-- The replicas that a warehouse should have. -/
def desiredReplicas (spec : WarehouseSpec) : Int :=
  let min := Max.max spec.minReplicas 0
  let max := Max.max spec.maxReplicas 0
  -- An inconsistent configuration is a fixed size of `min` replicas.
  let max := if max < min then min else max
  let desired :=
    if spec.state = "RUNNING" then
      if max = 0 then 0 else Min.min (Max.max (Max.max min 1) min) max
    else 0
  if desired < 0 then 0 else desired

/-- The action for a warehouse, given the replicas counted by name. -/
def planAction (currentWorkerReplicas : String → Option Int)
    (spec : WarehouseSpec) : PlanAction :=
  let current := (currentWorkerReplicas spec.name).getD 0
  let desired := desiredReplicas spec
  if current = desired then .noop spec.name current
  else .scale spec.name current desired

def buildReconcilePlan (specs : List WarehouseSpec)
    (currentWorkerReplicas : String → Option Int) : ReconcilePlan where
  actions := specs.map (planAction currentWorkerReplicas)

/-! ## What is desired -/

/--
Workers are wanted for a running warehouse unless both of its bounds are
zero, and for no other warehouse.
-/
def WantsWorkers (spec : WarehouseSpec) : Prop :=
  spec.state = "RUNNING" ∧ 0 < max spec.minReplicas spec.maxReplicas

instance (spec : WarehouseSpec) : Decidable (WantsWorkers spec) :=
  inferInstanceAs (Decidable (_ ∧ _))

theorem desiredReplicas_eq_zero_iff {spec : WarehouseSpec} :
    desiredReplicas spec = 0 ↔ ¬ WantsWorkers spec := by
  unfold desiredReplicas WantsWorkers
  by_cases running : spec.state = "RUNNING"
  · simp only [running, ↓reduceIte, true_and]
    split_ifs <;> omega
  · simp [running]

/-- A warehouse gets between its bounds, and never less than nothing. -/
theorem desiredReplicas_nonneg (spec : WarehouseSpec) :
    0 ≤ desiredReplicas spec := by
  unfold desiredReplicas
  by_cases running : spec.state = "RUNNING"
  · simp only [running, ↓reduceIte]
    split_ifs <;> omega
  · simp [running]

/-! ## From the catalog -/

/-- The rows in the order of their names. -/
def listWarehouses (table : WarehouseTable) : List WarehouseRow :=
  orderBy WarehouseRow.name table.rows

/-- The specification that the reconcile loop makes of a row. -/
def specOf (row : WarehouseRow) : WarehouseSpec where
  name := row.name
  size := row.size
  minReplicas := Integer.asI32 row.minNodes
  maxReplicas := Integer.asI32 row.maxNodes
  autoSuspendSeconds := Integer.asI32 row.autoSuspendSeconds
  state := row.state

/-- The specifications of one iteration; none when the catalog is not read. -/
def reconciledSpecs (listed : Except String WarehouseTable) :
    List WarehouseSpec :=
  match listed with
  | .ok table => (listWarehouses table).map specOf
  | .error _ => []

theorem reconciledSpecs_names_nodup (listed : Except String WarehouseTable) :
    ((reconciledSpecs listed).map WarehouseSpec.name).Nodup := by
  cases listed with
  | error failure => exact List.nodup_nil
  | ok table =>
      have sorted :
          (listWarehouses table).Perm table.rows :=
        List.perm_insertionSort _ _
      have names :
          (((listWarehouses table).map specOf).map WarehouseSpec.name).Perm
            (table.rows.map WarehouseRow.name) := by
        rw [List.map_map]
        exact sorted.map _
      exact names.nodup_iff.mpr table.namesDistinct

end OpenSnow.Distributed
