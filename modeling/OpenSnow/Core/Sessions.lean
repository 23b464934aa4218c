import OpenSnow.Core.InBounds
import OpenSnow.Core.Outcomes

/-!
# Commands on a session

A statement is carried out on the state that the earlier ones have left.  The
names that a command writes under have been checked by then, in the statement
or in the one that recorded the view.
-/

namespace OpenSnow.Core

open Core.Commands
open Rust.Text

namespace Commands

/-! ## Checked names -/

/-- The target of a command that creates a table or a view is checked. -/
def Command.TargetChecked : Command → Prop
  | .copyInto name _ | .ctas name _ | .createMaterializedView name _ =>
      isSafeUnqualifiedIdentifier name.toList
  | _ => True

theorem isSafe_of_validated {object command : String} {name : List Char}
    (valid : validateIdentifier object name command = .ok ()) :
    isSafeUnqualifiedIdentifier name := by
  rw [validateIdentifier] at valid
  split at valid
  · assumption
  · cases valid

variable {sql : List Char} {command : Command}

theorem copyIntoOperands_checked
    (read : copyIntoOperands sql = some (.ok command)) :
    command.TargetChecked := by
  rw [copyIntoOperands] at read
  split at read
  · cases read
  · dsimp only at read
    split at read
    · cases read
    · rcases Option.bind_eq_some_iff.mp read with ⟨target, sliced, checked⟩
      split at checked
      · cases checked
      · rename_i valid
        rcases Option.bind_eq_some_iff.mp checked with
          ⟨rest, behind, located⟩
        rcases Option.bind_eq_some_iff.mp located with
          ⟨path, quoted, made⟩
        cases made
        rw [Command.TargetChecked, String.toList_ofList]
        exact isSafe_of_validated valid

theorem ctasOperands_checked (creates : createsTable sql)
    (read : ctasOperands sql = some (.ok command)) :
    command.TargetChecked := by
  rw [createsTable] at creates
  split at creates
  · cases creates
  · rename_i rest follows
    rw [Bool.and_eq_true] at creates
    rcases Option.isSome_iff_exists.mp creates.2 with
      ⟨⟨front, behind⟩, clause⟩
    rw [ctasOperands_eq follows clause] at read
    split at read
    · cases read
    · rename_i valid
      rcases Option.map_eq_some_iff.mp read with ⟨checked, validated, made⟩
      cases checked with
      | error message => cases made
      | ok query =>
          cases made
          rw [Command.TargetChecked, String.toList_ofList]
          exact isSafe_of_validated valid

theorem createMaterializedViewOperands_checked
    (read : createMaterializedViewOperands sql = some (.ok command)) :
    command.TargetChecked := by
  cases follows : afterKeywords sql ["CREATE", "MATERIALIZED", "VIEW"] with
  | none =>
      rw [createMaterializedViewOperands, keywordSequenceEnd_eq, follows]
        at read
      cases read
  | some rest =>
      rw [createMaterializedViewOperands_eq follows] at read
      split at read
      · cases read
      · rename_i front behind clause
        rcases Option.map_eq_some_iff.mp read with
          ⟨checked, validated, made⟩
        cases checked with
        | error message => cases made
        | ok query =>
            rw [Except.bind] at made
            split at made
            · cases made
            · cases valid : validateOutputTableIdentifier (trim front)
                  "CREATE MATERIALIZED VIEW" with
              | error message =>
                  rw [valid] at made
                  cases made
              | ok isValid =>
                  rw [valid] at made
                  cases made
                  rw [Command.TargetChecked, String.toList_ofList]
                  exact isSafe_of_validated valid

theorem viewOperand_made {keywords : String} {make : String → Command}
    (read : viewOperand keywords make sql = some (.ok command)) :
    ∃ name, make name = command := by
  rcases Option.map_eq_some_iff.mp read with ⟨rest, sliced, named⟩
  split at named
  · cases named
  · rename_i name word
    cases named
    exact ⟨_, rfl⟩

theorem alterWarehouseOperands_made
    (read : alterWarehouseOperands sql = some (.ok command)) :
    ∃ name state, command = .alterWarehouse name state := by
  have altered : ∀ {state : Except String String} {name : List Char},
      (state.bind fun state =>
        if state = "RUNNING" ∨ state = "SUSPENDED" then
          Except.ok (Command.alterWarehouse (String.ofList name) state)
        else
          .error
            ("Invalid state '" ++ state ++
              "'. Use RUNNING or SUSPENDED")) = .ok command →
        ∃ name state, command = .alterWarehouse name state := by
    intro state name made
    cases state with
    | error message => cases made
    | ok state =>
        rw [Except.bind] at made
        split at made
        · cases made
          exact ⟨_, _, rfl⟩
        · cases made
  rw [alterWarehouseOperands] at read
  rcases Option.bind_eq_some_iff.mp read with ⟨rest, sliced, read⟩
  dsimp only [Option.bind_eq_bind, Option.bind_some] at read
  split at read
  · cases read
  · split at read
    · exact altered (Option.some.inj read)
    · split at read
      · exact altered (Option.some.inj read)
      · rcases Option.bind_eq_some_iff.mp read with ⟨state, asked, made⟩
        exact altered (Option.some.inj made)

theorem createWarehouseOperands_made
    (read : createWarehouseOperands sql = some (.ok command)) :
    ∃ spec, command = .createWarehouse spec := by
  rcases Option.map_eq_some_iff.mp read with ⟨rest, sliced, made⟩
  cases asked : warehouseSpec sql (trimStatement rest) with
  | error message =>
      rw [asked] at made
      cases made
  | ok spec =>
      rw [asked] at made
      cases made
      exact ⟨spec, rfl⟩

/-- No command is carried out on a target that was not checked. -/
theorem dispatch_checked {sql : String}
    (dispatched : dispatch sql = some (some (.ok command))) :
    command.TargetChecked := by
  rw [dispatch_eq] at dispatched
  cases chosen : chosenHandler (stripped sql.toList) with
  | none =>
      rw [chosen] at dispatched
      cases dispatched
  | some handler =>
      rw [chosen] at dispatched
      rcases Option.map_eq_some_iff.mp dispatched with ⟨outcome, read, same⟩
      cases same
      cases handler with
      | copyInto => exact copyIntoOperands_checked read
      | ctas =>
          exact ctasOperands_checked (createsTable_of_chosen chosen) read
      | createMaterializedView =>
          exact createMaterializedViewOperands_checked read
      | refreshMaterializedView | dropMaterializedView =>
          rcases viewOperand_made read with ⟨name, rfl⟩
          trivial
      | createWarehouse =>
          rcases createWarehouseOperands_made read with ⟨spec, rfl⟩
          trivial
      | alterWarehouse =>
          rcases alterWarehouseOperands_made read with ⟨name, state, rfl⟩
          trivial
      | useWarehouse =>
          rcases Option.map_eq_some_iff.mp read with ⟨rest, sliced, named⟩
          split at named
          · cases named
          · cases named
            trivial
      | showWarehouses | showTables | showDatabases | describe | dropTable =>
          cases read
          trivial

end Commands

/-! ## Statements on a state -/

variable {Row Key Location Contents : Type} [DecidableEq Key]
  [DecidableEq Location] (platform : Platform Row Key Location Contents)

/-- A statement is a command, and carried out on a state it comes to this. -/
def Carries (sql : String) (before : EngineState Row Key Location Contents)
    (result : Except Failure (Reply Row) ×
      EngineState Row Key Location Contents) : Prop :=
  ∃ action, handleCommand platform sql = some (some action) ∧
    action before = result

variable {platform}

/-- Either the operands are refused or the command is performed. -/
theorem Carries.cases {sql : String}
    {before : EngineState Row Key Location Contents}
    {result : Except Failure (Reply Row) ×
      EngineState Row Key Location Contents}
    (carries : Carries platform sql before result) :
    (∃ message, dispatch sql = some (some (.error message)) ∧
        result = (.error (.statement message), before)) ∨
      ∃ command, dispatch sql = some (some (.ok command)) ∧
        result = perform platform command before := by
  rcases carries with ⟨action, handled, rfl⟩
  rcases Option.map_eq_some_iff.mp handled with
    ⟨dispatched, isDispatched, handled⟩
  rcases Option.map_eq_some_iff.mp handled with ⟨parsed, rfl, rfl⟩
  cases parsed with
  | error message => exact .inl ⟨message, isDispatched, rfl⟩
  | ok command => exact .inr ⟨command, isDispatched, rfl⟩

theorem carries_of_dispatch {sql : String} {command : Command}
    (dispatched : dispatch sql = some (some (.ok command)))
    (before : EngineState Row Key Location Contents) :
    Carries platform sql before (perform platform command before) := by
  refine ⟨perform platform command, ?_, rfl⟩
  rw [handleCommand, dispatched]
  rfl

end OpenSnow.Core
