import OpenSnow.Distributed.Operator

/-!
# What a plan does

A plan has one action for every warehouse and converges: once its targets are
reached, the next plan has nothing to do.  Two adapters turn the catalog into
specifications; one narrows the 64-bit columns by saturating, the other by
wrapping, and they agree on the columns where the two come to the same.
-/

namespace OpenSnow.Distributed

open Catalog.Warehouses
open Rust

/-! ## Actions -/

@[simp]
def PlanAction.warehouse : PlanAction → String
  | .scale warehouse _ _ => warehouse
  | .noop warehouse _ => warehouse

/-- The replicas that the warehouse has once the action is done. -/
@[simp]
def PlanAction.replicas : PlanAction → Int
  | .scale _ _ target => target
  | .noop _ replicas => replicas

@[simp]
def PlanAction.isNoop : PlanAction → Bool
  | .scale _ _ _ => false
  | .noop _ _ => true

@[simp]
theorem planAction_warehouse (observed : String → Option Int)
    (spec : WarehouseSpec) :
    (planAction observed spec).warehouse = spec.name := by
  rw [planAction]
  split <;> rfl

@[simp]
theorem planAction_replicas (observed : String → Option Int)
    (spec : WarehouseSpec) :
    (planAction observed spec).replicas = desiredReplicas spec := by
  rw [planAction]
  split
  · assumption
  · rfl

variable {observed : String → Option Int} {spec : WarehouseSpec}

theorem planAction_isNoop_iff :
    (planAction observed spec).isNoop = true ↔
      (observed spec.name).getD 0 = desiredReplicas spec := by
  rw [planAction]
  split
  · exact iff_of_true rfl ‹_›
  · exact iff_of_false Bool.false_ne_true ‹_›

/-- Within the bounds of the warehouse, an inconsistent upper one raised. -/
theorem desiredReplicas_bounds (running : spec.state = "RUNNING") :
    max spec.minReplicas 0 ≤ desiredReplicas spec ∧
      desiredReplicas spec ≤
        max (max spec.minReplicas spec.maxReplicas) 0 := by
  unfold desiredReplicas
  simp only [running, ↓reduceIte]
  split_ifs <;> omega

/--
The action for a warehouse: nothing is wanted unless it runs, a running one
gets at least one replica within its bounds, and the action scales exactly
when there are other than the wanted replicas.
-/
structure ActionFor (observed : String → Option Int) (spec : WarehouseSpec)
    (action : PlanAction) : Prop where
  warehouse : action.warehouse = spec.name
  stopped : spec.state ≠ "RUNNING" → action.replicas = 0
  bounds : spec.state = "RUNNING" →
    max spec.minReplicas 0 ≤ action.replicas ∧
      action.replicas ≤ max (max spec.minReplicas spec.maxReplicas) 0
  atLeastOne : spec.state = "RUNNING" →
    max (max spec.minReplicas spec.maxReplicas) 0 ≠ 0 → 1 ≤ action.replicas
  scales : (observed spec.name).getD 0 ≠ action.replicas ↔
    action = .scale spec.name ((observed spec.name).getD 0) action.replicas
  rests : (observed spec.name).getD 0 = action.replicas ↔
    action = .noop spec.name action.replicas

theorem actionFor_planAction (observed : String → Option Int)
    (spec : WarehouseSpec) :
    ActionFor observed spec (planAction observed spec) := by
  have wanted := @desiredReplicas_eq_zero_iff spec
  have nonneg := desiredReplicas_nonneg spec
  refine ⟨planAction_warehouse observed spec, ?_, ?_, ?_, ?_, ?_⟩
  · intro stopped
    rw [planAction_replicas, wanted]
    exact fun wants => stopped wants.1
  · intro running
    rw [planAction_replicas]
    exact desiredReplicas_bounds running
  · intro running nonzero
    rw [planAction_replicas]
    by_contra below
    have none : desiredReplicas spec = 0 := by omega
    exact wanted.mp none ⟨running, by omega⟩
  · rw [planAction_replicas, planAction]
    split <;> simp [*]
  · rw [planAction_replicas, planAction]
    split <;> simp [*]

/-! ## Reaching the targets -/

/-- The counts after a warehouse was scaled. -/
def settle (observed : String → Option Int) :
    PlanAction → String → Option Int
  | .scale warehouse _ target =>
      Function.update observed warehouse (some target)
  | .noop _ _ => observed

/-- The counts after every scaled warehouse has its target. -/
def ReconcilePlan.settled (plan : ReconcilePlan)
    (observed : String → Option Int) : String → Option Int :=
  plan.actions.foldl settle observed

theorem settle_other {action : PlanAction}
    {name : String} (other : name ≠ action.warehouse) :
    settle observed action name = observed name := by
  cases action with
  | scale warehouse current target => exact Function.update_of_ne other _ _
  | noop => rfl

theorem foldl_settle_other {name : String} :
    ∀ {actions : List PlanAction} {observed : String → Option Int},
      name ∉ actions.map PlanAction.warehouse →
        actions.foldl settle observed name = observed name
  | [], _, _ => rfl
  | action :: rest, observed, absent => by
      rw [List.map_cons, List.mem_cons, not_or] at absent
      rw [List.foldl_cons, foldl_settle_other absent.2, settle_other absent.1]

theorem map_planAction_warehouse (observed : String → Option Int)
    (specs : List WarehouseSpec) :
    (specs.map (planAction observed)).map PlanAction.warehouse =
      specs.map WarehouseSpec.name := by
  rw [List.map_map]
  exact List.map_congr_left fun spec _ => planAction_warehouse observed spec

/-- The action for a warehouse brings it to what is wanted. -/
theorem settle_planAction {observed state : String → Option Int}
    (seen : state spec.name = observed spec.name) :
    (settle state (planAction observed spec) spec.name).getD 0 =
      desiredReplicas spec := by
  rw [planAction]
  split
  · rename_i same
    rw [settle, seen, same]
  · rw [settle, Function.update_self]
    rfl

/-- The actions of a plan bring every warehouse to what is wanted. -/
theorem foldl_settle_planAction :
    ∀ {specs : List WarehouseSpec} {state : String → Option Int},
      (specs.map WarehouseSpec.name).Nodup →
        (∀ spec ∈ specs, state spec.name = observed spec.name) →
          ∀ spec ∈ specs,
            ((specs.map (planAction observed)).foldl settle state
                spec.name).getD 0 =
              desiredReplicas spec
  | [], _, _, _ => fun _ => nofun
  | first :: rest, state, distinct, seen => by
      rw [List.map_cons, List.nodup_cons] at distinct
      intro spec member
      rw [List.map_cons, List.foldl_cons]
      rcases List.mem_cons.mp member with rfl | later
      · rw [foldl_settle_other]
        · exact settle_planAction (seen spec member)
        · rw [map_planAction_warehouse]
          exact distinct.1
      · refine foldl_settle_planAction distinct.2 ?_ spec later
        intro other isLater
        have different : other.name ≠ first.name := by
          intro same
          exact distinct.1 (same ▸ List.mem_map_of_mem isLater)
        rw [settle_other (by rwa [planAction_warehouse])]
        exact seen other (List.mem_cons_of_mem first isLater)

/--
A plan has one action for every warehouse, in order; and a second plan, made
when the targets of the first are reached, has nothing to do.
-/
theorem buildReconcilePlan_converges {specs : List WarehouseSpec}
    (distinct : (specs.map WarehouseSpec.name).Nodup)
    (observed : String → Option Int) :
    let plan := buildReconcilePlan specs observed
    List.Forall₂ (ActionFor observed) specs plan.actions ∧
      ∀ action ∈ (buildReconcilePlan specs (plan.settled observed)).actions,
        action.isNoop = true := by
  intro plan
  constructor
  · change List.Forall₂ _ specs (specs.map (planAction observed))
    rw [List.forall₂_map_right_iff, List.forall₂_same]
    exact fun spec _ => actionFor_planAction observed spec
  · intro action member
    obtain ⟨spec, isSpec, rfl⟩ := List.mem_map.mp member
    rw [planAction_isNoop_iff]
    exact foldl_settle_planAction distinct (fun _ _ => rfl) spec isSpec

/-- A running warehouse without replicas and a suspended one with two. -/
theorem buildReconcilePlan_converges_two :
    let specs : List WarehouseSpec :=
      [⟨"etl", "small", 0, 3, 300, "RUNNING"⟩,
        ⟨"adhoc", "small", 1, 2, 300, "SUSPENDED"⟩]
    let observed : String → Option Int := fun name =>
      if name = "adhoc" then some 2 else none
    let plan := buildReconcilePlan specs observed
    plan.actions = [.scale "etl" 0 1, .scale "adhoc" 2 0] ∧
      List.Forall₂ (ActionFor observed) specs plan.actions ∧
        ∀ action ∈
            (buildReconcilePlan specs (plan.settled observed)).actions,
          action.isNoop = true :=
  ⟨by decide, buildReconcilePlan_converges (by decide) _⟩

/-! ## The two adapters -/

def i64ToI32Clamped (value : Int) : Int :=
  if value > 2 ^ 31 - 1 then 2 ^ 31 - 1
  else if value < -2 ^ 31 then -2 ^ 31
  else Integer.asI32 value

/-- The specification that `load_warehouse_specs` makes of a row. -/
def loadedSpecOf (row : WarehouseRow) : WarehouseSpec where
  name := row.name
  size := row.size
  minReplicas := i64ToI32Clamped row.minNodes
  maxReplicas := i64ToI32Clamped row.maxNodes
  autoSuspendSeconds := i64ToI32Clamped row.autoSuspendSeconds
  state := row.state

/-- `load_warehouse_specs`, which fails when the catalog is not read. -/
def loadWarehouseSpecs (listed : Except String WarehouseTable) :
    Except String (List WarehouseSpec) :=
  listed.map fun table => (listWarehouses table).map loadedSpecOf

/--
The number fits 32 bits, or its low 32 bits are those of the bound that it
exceeds.
-/
def NarrowsAlike (value : Int) : Prop :=
  Integer.FitsI32 value ∨
    (2 ^ 31 - 1 < value ∧ (value - (2 ^ 31 - 1)) % 2 ^ 32 = 0) ∨
      (value < -2 ^ 31 ∧ (value + 2 ^ 31) % 2 ^ 32 = 0)

theorem asI32_eq_clamped_iff {value : Int} :
    Integer.asI32 value = i64ToI32Clamped value ↔ NarrowsAlike value := by
  unfold i64ToI32Clamped NarrowsAlike Integer.FitsI32 Integer.asI32
  rw [Int.bmod_def]
  split_ifs <;> omega

/-- The columns of a row that both adapters narrow. -/
def RowNarrowsAlike (row : WarehouseRow) : Prop :=
  NarrowsAlike row.minNodes ∧ NarrowsAlike row.maxNodes ∧
    NarrowsAlike row.autoSuspendSeconds

theorem loadedSpecOf_eq_iff {row : WarehouseRow} :
    loadedSpecOf row = specOf row ↔ RowNarrowsAlike row := by
  rw [eq_comm, specOf, loadedSpecOf, RowNarrowsAlike, WarehouseSpec.mk.injEq,
    asI32_eq_clamped_iff, asI32_eq_clamped_iff, asI32_eq_clamped_iff]
  simp only [true_and, and_true]

/-- The two adapters build the same specifications and the same plans. -/
def AdaptersAgree (table : WarehouseTable) : Prop :=
  loadWarehouseSpecs (.ok table) = .ok (reconciledSpecs (.ok table)) ∧
    ∀ specs, loadWarehouseSpecs (.ok table) = .ok specs →
      ∀ observed,
        buildReconcilePlan (reconciledSpecs (.ok table)) observed =
          buildReconcilePlan specs observed

/--
The two adapters agree on a catalog exactly when saturating and wrapping come
to the same on every column of every warehouse.
-/
theorem adaptersAgree_iff (table : WarehouseTable) :
    AdaptersAgree table ↔ ∀ row ∈ table.rows, RowNarrowsAlike row := by
  have listed : ∀ row, row ∈ listWarehouses table ↔ row ∈ table.rows :=
    fun row => (List.perm_insertionSort _ table.rows).mem_iff
  have same : loadWarehouseSpecs (.ok table) =
        .ok (reconciledSpecs (.ok table)) ↔
      ∀ row ∈ table.rows, RowNarrowsAlike row := by
    change Except.ok ((listWarehouses table).map loadedSpecOf) =
      Except.ok ((listWarehouses table).map specOf) ↔ _
    rw [Except.ok.injEq, List.map_inj_left]
    simp only [listed, loadedSpecOf_eq_iff]
  rw [AdaptersAgree, same]
  refine and_iff_left_of_imp ?_
  intro alike specs loaded observed
  rw [same.mpr alike] at loaded
  cases loaded
  rfl

/-- A running warehouse of at most 2^32 nodes. -/
def wideTable : WarehouseTable where
  rows := [⟨1, "wide", "small", "RUNNING", 0, 4294967296, 300, none, none⟩]
  sequence := 1
  namesDistinct := List.nodup_singleton _

/-- One adapter starts a worker; the other, which reads zero, wants none. -/
theorem adapters_disagree :
    ¬ AdaptersAgree wideTable ∧
      (loadWarehouseSpecs (.ok wideTable)).toOption.map
          (fun specs => (buildReconcilePlan specs fun _ => none).actions) =
        some [.scale "wide" 0 1] ∧
      (buildReconcilePlan (reconciledSpecs (.ok wideTable))
          fun _ => none).actions =
        [.noop "wide" 0] := by
  refine ⟨?_, by decide, by decide⟩
  rintro ⟨same, -⟩
  have limits := congrArg
    (fun specs => specs.toOption.map (List.map WarehouseSpec.maxReplicas)) same
  revert limits
  decide

end OpenSnow.Distributed
