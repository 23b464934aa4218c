import Mathlib.Data.String.Lemmas
import OpenSnow.Distributed.Operator

/-!
# The Kubernetes reconcile loop

The controller asks `kubectl` for the replicas of every warehouse, lets the
operator plan with the answers that were numbers, and commands what the plan
says.  An answer that is missing counts as no replicas at all, so the loop acts
on what it does not know whenever a warehouse wants workers.
-/

namespace OpenSnow.Distributed

open Catalog.Warehouses
open Rust

/-- A command line. -/
structure Command where
  program : String
  args : List String
deriving DecidableEq, Repr

/--
A runner of commands.  What a command answers can depend on the commands that
were run before it.
-/
abbrev CommandRunner :=
  List Command → Command → Except String String

/-- The outcome of one action of a plan. -/
inductive ApplyOutcome where
  | scaled (warehouse : String) (current target : Int)
  | noop (warehouse : String) (replicas : Int)
  | failed (warehouse error : String)
deriving DecidableEq, Repr

structure KubeController where
  namespaceName : String
  kubectlBin : String
  runner : CommandRunner

namespace KubeController

def statefulsetName (warehouse : String) : String :=
  "opensnow-worker-" ++ warehouse

/-- The query for the replicas of a warehouse. -/
def getCommand (controller : KubeController) (warehouse : String) :
    Command where
  program := controller.kubectlBin
  args :=
    ["get", "statefulset", statefulsetName warehouse, "-n",
      controller.namespaceName, "-o", "jsonpath=\x7b.spec.replicas\x7d",
      "--ignore-not-found"]

/-- The command that scales a warehouse. -/
def scaleCommand (controller : KubeController) (warehouse : String)
    (replicas : Int) : Command where
  program := controller.kubectlBin
  args :=
    ["scale", "statefulset", statefulsetName warehouse, "--replicas",
      toString replicas, "-n", controller.namespaceName]

/-- Run a command and note that it was run. -/
def run (controller : KubeController) (command : Command)
    (ran : List Command) : Except String String × List Command :=
  (controller.runner ran command, ran ++ [command])

/-- What one answer adds to the replicas counted so far. -/
def recordAnswer (warehouse : String) (answer : Except String String)
    (counted : String → Option Int) : String → Option Int :=
  match answer with
  | .ok output =>
      if output = "" then counted
      else
        match Integer.parseI32 output with
        | some replicas => Function.update counted warehouse (some replicas)
        | none => counted
  | .error _ => counted

/-- The loop of `observe_replicas`. -/
def observeLoop (controller : KubeController) :
    List WarehouseSpec → (String → Option Int) → List Command →
      (String → Option Int) × List Command
  | [], counted, ran => (counted, ran)
  | spec :: rest, counted, ran =>
      let (answer, ran) := controller.run (controller.getCommand spec.name) ran
      controller.observeLoop rest (recordAnswer spec.name answer counted) ran

/-- Query the current replicas of the StatefulSet of each warehouse. -/
def observeReplicas (controller : KubeController)
    (warehouses : List WarehouseSpec) (ran : List Command) :
    (String → Option Int) × List Command :=
  controller.observeLoop warehouses (fun _ => none) ran

def applyScale (controller : KubeController) (warehouse : String)
    (replicas : Int) (ran : List Command) :
    Except String Unit × List Command :=
  let (answer, ran) :=
    controller.run (controller.scaleCommand warehouse replicas) ran
  (answer.map fun _ => (), ran)

/-- Apply one action of a plan. -/
def applyAction (controller : KubeController) (action : PlanAction)
    (ran : List Command) : ApplyOutcome × List Command :=
  match action with
  | .noop warehouse replicas => (.noop warehouse replicas, ran)
  | .scale warehouse current target =>
      match controller.applyScale warehouse target ran with
      | (.ok (), ran) => (.scaled warehouse current target, ran)
      | (.error error, ran) => (.failed warehouse error, ran)

/-- The loop of `apply_plan`; a failure does not stop it. -/
def applyActions (controller : KubeController) :
    List PlanAction → List Command → List ApplyOutcome × List Command
  | [], ran => ([], ran)
  | action :: rest, ran =>
      let (outcome, ran) := controller.applyAction action ran
      let (outcomes, ran) := controller.applyActions rest ran
      (outcome :: outcomes, ran)

def applyPlan (controller : KubeController) (plan : ReconcilePlan)
    (ran : List Command) : List ApplyOutcome × List Command :=
  controller.applyActions plan.actions ran

/-- One iteration of `run_reconcile_loop`. -/
def reconcile (controller : KubeController)
    (listed : Except String WarehouseTable) (ran : List Command) :
    List ApplyOutcome × List Command :=
  let warehouses := reconciledSpecs listed
  let (current, ran) := controller.observeReplicas warehouses ran
  let plan := buildReconcilePlan warehouses current
  controller.applyPlan plan ran

/-! ## What was seen of a warehouse -/

end KubeController

/-- What the answer to the query for a warehouse says. -/
inductive Observation where
  | replicas (count : Int)
  /-- Empty output: there is no StatefulSet. -/
  | missing
  | unparsable
  | failed
deriving DecidableEq, Repr

def Observation.of (answer : Except String String) : Observation :=
  match answer with
  | .ok output =>
      if output = "" then .missing
      else
        match Integer.parseI32 output with
        | some count => .replicas count
        | none => .unparsable
  | .error _ => .failed

/-- The replicas that were seen, if anything was. -/
def Observation.seen : Observation → Option Int
  | .replicas count => some count
  | .missing => some 0
  | .unparsable => none
  | .failed => none

namespace KubeController

/-- What is seen of each warehouse, in the order of the queries. -/
def observations (controller : KubeController) :
    List WarehouseSpec → List Command → List (WarehouseSpec × Observation)
  | [], _ => []
  | spec :: rest, ran =>
      (spec, .of (controller.runner ran (controller.getCommand spec.name))) ::
        controller.observations rest
          (ran ++ [controller.getCommand spec.name])

/-- What one iteration sees. -/
def seen (controller : KubeController)
    (listed : Except String WarehouseTable) (ran : List Command) :
    List (WarehouseSpec × Observation) :=
  controller.observations (reconciledSpecs listed) ran

/-- The commands that one iteration issues. -/
def issued (controller : KubeController)
    (listed : Except String WarehouseTable) (ran : List Command) :
    List Command :=
  (controller.reconcile listed ran).2.drop ran.length

variable {controller : KubeController}

theorem specs_observations (controller : KubeController)
    (specs : List WarehouseSpec) (ran : List Command) :
    (controller.observations specs ran).map Prod.fst = specs := by
  induction specs generalizing ran with
  | nil => rfl
  | cons spec rest ih => rw [observations, List.map_cons, ih]

theorem ran_observeLoop (specs : List WarehouseSpec)
    (counted : String → Option Int) (ran : List Command) :
    (controller.observeLoop specs counted ran).2 =
      ran ++ specs.map fun spec => controller.getCommand spec.name := by
  induction specs generalizing counted ran with
  | nil => exact (List.append_nil ran).symm
  | cons spec rest ih =>
      rw [observeLoop, run, ih, List.append_assoc, List.singleton_append,
        List.map_cons]

variable {warehouse other : String}

theorem recordAnswer_of_ne
    (differs : other ≠ warehouse) (answer : Except String String)
    (counted : String → Option Int) :
    recordAnswer warehouse answer counted other = counted other := by
  unfold recordAnswer
  cases answer with
  | error failure => rfl
  | ok output =>
      by_cases empty : output = ""
      · simp [empty]
      · cases parsed : Integer.parseI32 output with
        | none => simp [empty, parsed]
        | some count => simp [empty, parsed, differs]

/-- The planner's reading of an answer: nothing seen is no replicas. -/
theorem recordAnswer_getD (warehouse : String)
    (answer : Except String String) {counted : String → Option Int}
    (fresh : counted warehouse = none) :
    (recordAnswer warehouse answer counted warehouse).getD 0 =
      (Observation.of answer).seen.getD 0 := by
  unfold recordAnswer Observation.of
  cases answer with
  | error failure => simp [fresh, Observation.seen]
  | ok output =>
      by_cases empty : output = ""
      · simp [empty, fresh, Observation.seen]
      · cases parsed : Integer.parseI32 output with
        | none => simp [empty, parsed, fresh, Observation.seen]
        | some count => simp [empty, parsed, Observation.seen]

theorem observeLoop_of_not_mem {specs : List WarehouseSpec} {name : String}
    (absent : name ∉ specs.map WarehouseSpec.name)
    (counted : String → Option Int) (ran : List Command) :
    (controller.observeLoop specs counted ran).1 name = counted name := by
  induction specs generalizing counted ran with
  | nil => rfl
  | cons spec rest ih =>
      rw [List.map_cons, List.mem_cons, not_or] at absent
      rw [observeLoop, run, ih absent.2, recordAnswer_of_ne absent.1]

/-- The planner reads for every warehouse what was seen of it, or zero. -/
theorem observeLoop_getD {specs : List WarehouseSpec}
    (distinct : (specs.map WarehouseSpec.name).Nodup)
    {counted : String → Option Int}
    (fresh : ∀ spec ∈ specs, counted spec.name = none) (ran : List Command) :
    ∀ pair ∈ controller.observations specs ran,
      ((controller.observeLoop specs counted ran).1 pair.1.name).getD 0 =
        pair.2.seen.getD 0 := by
  induction specs generalizing counted ran with
  | nil => exact fun _ => nofun
  | cons spec rest ih =>
      rw [List.map_cons, List.nodup_cons] at distinct
      rw [observations, List.forall_mem_cons, observeLoop, run]
      constructor
      · rw [observeLoop_of_not_mem distinct.1]
        exact recordAnswer_getD spec.name _ (fresh spec List.mem_cons_self)
      · apply ih distinct.2
        intro other member
        have differs : other.name ≠ spec.name := fun same =>
          distinct.1 (same ▸ List.mem_map_of_mem member)
        rw [recordAnswer_of_ne differs]
        exact fresh other (List.mem_cons_of_mem _ member)

/-! ## What an iteration commands -/

/-- The command that an action of the plan comes down to. -/
def commandOf (controller : KubeController) : PlanAction → Option Command
  | .noop _ _ => none
  | .scale warehouse _ target =>
      some (controller.scaleCommand warehouse target)

theorem ran_applyActions (actions : List PlanAction) (ran : List Command) :
    (controller.applyActions actions ran).2 =
      ran ++ actions.filterMap controller.commandOf := by
  induction actions generalizing ran with
  | nil => exact (List.append_nil ran).symm
  | cons action rest ih =>
      rw [applyActions, ih]
      cases action with
      | noop warehouse replicas =>
          rw [applyAction, List.filterMap_cons_none rfl]
      | scale warehouse current target =>
          have logged :
              (controller.applyAction (.scale warehouse current target)
                ran).2 =
                ran ++ [controller.scaleCommand warehouse target] := by
            rw [applyAction, applyScale, run]
            cases controller.runner ran
              (controller.scaleCommand warehouse target) <;> rfl
          rw [logged, List.filterMap_cons_some (by rfl), List.append_assoc,
            List.singleton_append]

/-- An iteration asks for every warehouse and then does what it planned. -/
theorem issued_eq (listed : Except String WarehouseTable)
    (ran : List Command) :
    controller.issued listed ran =
      ((reconciledSpecs listed).map fun spec =>
        controller.getCommand spec.name) ++
        ((reconciledSpecs listed).map
          (planAction
            (controller.observeReplicas (reconciledSpecs listed) ran).1)
          ).filterMap controller.commandOf := by
  have planned :
      (controller.reconcile listed ran).2 =
        (controller.observeReplicas (reconciledSpecs listed) ran).2 ++
          (buildReconcilePlan (reconciledSpecs listed)
            (controller.observeReplicas (reconciledSpecs listed)
              ran).1).actions.filterMap controller.commandOf :=
    ran_applyActions _ _
  rw [issued, planned, buildReconcilePlan, observeReplicas, ran_observeLoop,
    List.append_assoc, List.drop_left]

theorem getCommand_ne_scaleCommand {replicas : Int} :
    controller.getCommand warehouse ≠
      controller.scaleCommand other replicas := by
  intro same
  have args := congrArg Command.args same
  have verbs : "get" = "scale" := (List.cons.inj args).1
  exact absurd verbs (by decide)

theorem warehouse_of_scaleCommand {replicas count : Int} (same :
      controller.scaleCommand warehouse replicas =
        controller.scaleCommand other count) :
    warehouse = other := by
  have args := congrArg Command.args same
  simp only [scaleCommand, statefulsetName, List.cons.injEq, true_and] at args
  exact (String.append_right_inj _).mp args.1

/-- The iteration issues a command that scales the warehouse. -/
def Scales (controller : KubeController)
    (listed : Except String WarehouseTable) (ran : List Command)
    (warehouse : String) : Prop :=
  ∃ replicas,
    controller.scaleCommand warehouse replicas ∈ controller.issued listed ran

/--
A warehouse is scaled exactly when what was seen of it, or else zero, differs
from what it should have.
-/
theorem scales_iff {listed : Except String WarehouseTable}
    {ran : List Command} {warehouse : String} :
    controller.Scales listed ran warehouse ↔
      ∃ pair ∈ controller.seen listed ran, pair.1.name = warehouse ∧
        pair.2.seen.getD 0 ≠ desiredReplicas pair.1 := by
  have distinct := reconciledSpecs_names_nodup listed
  have counted : ∀ pair ∈ controller.seen listed ran,
      ((controller.observeReplicas (reconciledSpecs listed) ran).1
        pair.1.name).getD 0 = pair.2.seen.getD 0 :=
    observeLoop_getD distinct (fun _ _ => rfl) ran
  constructor
  · rintro ⟨replicas, command⟩
    rw [issued_eq, List.mem_append] at command
    rcases command with query | planned
    · obtain ⟨spec, -, isQuery⟩ := List.mem_map.mp query
      exact absurd isQuery getCommand_ne_scaleCommand
    · obtain ⟨action, planned, commanded⟩ := List.mem_filterMap.mp planned
      obtain ⟨spec, member, rfl⟩ := List.mem_map.mp planned
      rw [← specs_observations controller
        (reconciledSpecs listed) ran] at member
      obtain ⟨pair, observed, rfl⟩ := List.mem_map.mp member
      refine ⟨pair, observed, ?_⟩
      rw [← counted pair observed]
      unfold planAction at commanded
      simp only at commanded
      split_ifs at commanded with same
      · cases commanded
      · exact ⟨warehouse_of_scaleCommand (Option.some.inj commanded), same⟩
  · rintro ⟨pair, observed, rfl, differs⟩
    refine ⟨desiredReplicas pair.1, ?_⟩
    rw [← counted pair observed] at differs
    have member : pair.1 ∈ reconciledSpecs listed := by
      rw [← specs_observations controller
        (reconciledSpecs listed) ran]
      exact List.mem_map_of_mem observed
    rw [issued_eq]
    apply List.mem_append_right
    refine List.mem_filterMap.mpr ⟨_, List.mem_map_of_mem member, ?_⟩
    rw [planAction, if_neg differs]
    rfl

/--
An iteration scales a warehouse only if its replicas were seen and are not the
ones it should have, and leaves alone every warehouse of which nothing was
seen.
-/
def ActsOnWhatItSees (controller : KubeController)
    (listed : Except String WarehouseTable) (ran : List Command) : Prop :=
  (∀ warehouse, controller.Scales listed ran warehouse →
    ∃ pair ∈ controller.seen listed ran, pair.1.name = warehouse ∧
      ∃ current, pair.2.seen = some current ∧
        current ≠ desiredReplicas pair.1) ∧
  ∀ pair ∈ controller.seen listed ran, pair.2.seen = none →
    ¬ controller.Scales listed ran pair.1.name

/--
The loop acts only on what it sees exactly when every warehouse that it cannot
see wants no workers.
-/
theorem actsOnWhatItSees_iff (controller : KubeController)
    (listed : Except String WarehouseTable) (ran : List Command) :
    controller.ActsOnWhatItSees listed ran ↔
      ∀ pair ∈ controller.seen listed ran, pair.2.seen = none →
        ¬ WantsWorkers pair.1 := by
  constructor
  · rintro ⟨-, unseenAlone⟩ pair observed unseen wants
    apply unseenAlone pair observed unseen
    refine scales_iff.mpr ⟨pair, observed, rfl, ?_⟩
    rw [unseen]
    intro none
    exact desiredReplicas_eq_zero_iff.mp none.symm wants
  · intro unwanted
    -- what differs from the planner's reading was seen
    have wasSeen : ∀ pair ∈ controller.seen listed ran,
        pair.2.seen.getD 0 ≠ desiredReplicas pair.1 →
          ∃ current, pair.2.seen = some current ∧
            current ≠ desiredReplicas pair.1 := by
      intro pair observed differs
      cases seen : pair.2.seen with
      | none =>
          rw [seen] at differs
          exact absurd
            (desiredReplicas_eq_zero_iff.mpr
              (unwanted pair observed seen)).symm differs
      | some current =>
          rw [seen] at differs
          exact ⟨current, rfl, differs⟩
    constructor
    · intro warehouse scaled
      obtain ⟨pair, observed, named, differs⟩ := scales_iff.mp scaled
      exact ⟨pair, observed, named, wasSeen pair observed differs⟩
    · intro pair observed unseen scaled
      obtain ⟨other, alsoObserved, named, differs⟩ := scales_iff.mp scaled
      obtain ⟨current, seen, -⟩ := wasSeen other alsoObserved differs
      -- names are unique, so the scaled warehouse is the unseen one
      have samePair : other = pair := by
        have distinct : ((controller.seen listed ran).map
            fun pair => pair.1.name).Nodup := by
          have names := reconciledSpecs_names_nodup listed
          rw [← specs_observations controller
            (reconciledSpecs listed) ran, List.map_map] at names
          exact names
        exact List.inj_on_of_nodup_map distinct alsoObserved observed named
      rw [samePair, unseen] at seen
      cases seen

/-- The default warehouse, resumed and with one node at least. -/
def runningTable : WarehouseTable where
  rows := [⟨1, "default", "small", "RUNNING", 1, 4, 300, none, none⟩]
  sequence := 1
  namesDistinct := List.nodup_singleton _

/-- A cluster that three workers run in, and that does not answer. -/
def silentController : KubeController where
  namespaceName := "opensnow"
  kubectlBin := "kubectl"
  runner := fun _ _ => .error "kubectl exited non-zero: i/o timeout"

/-- The warehouse that could not be observed is scaled to one replica. -/
theorem silent_warehouse_scaled :
    ¬ silentController.ActsOnWhatItSees (.ok runningTable) [] := by
  rintro ⟨-, unseenAlone⟩
  have observed :
      silentController.seen (.ok runningTable) [] =
        [(⟨"default", "small", 1, 4, 300, "RUNNING"⟩, .failed)] := by
    decide
  refine unseenAlone _ (by rw [observed]; exact List.mem_singleton_self _)
    rfl ⟨1, ?_⟩
  decide

end KubeController

end OpenSnow.Distributed
