import OpenSnow.Core.Confinement

/-!
# Tables and views under one set of names

A row of the catalog and a registration of the session say the same thing about
a view as long as no command takes a name that the other kind has.
-/

namespace OpenSnow.Core

open Arrow
open Core.Commands

variable {Row Key Location Contents : Type}
  (platform : Platform Row Key Location Contents)

/-! ## Registered files -/

/-- The registration of a view. -/
def Platform.viewSource (name : String) : TableSource Row :=
  .file .parquet (platform.warehouseUri (viewFile name))

/-- The registration of a table that was created or loaded. -/
def Platform.publicSource (name : String) : TableSource Row :=
  .file .parquet (platform.warehouseUri (publicFile name))

variable {platform}

theorem warehouseUri_inj {first second : String}
    (same : platform.warehouseUri first = platform.warehouseUri second) :
    first.toList.dropWhile (· == '/') = second.toList.dropWhile (· == '/') := by
  have texts := congrArg String.toList same
  rw [Platform.warehouseUri, Platform.warehouseUri, String.toList_ofList,
    String.toList_ofList] at texts
  exact (List.cons.inj (List.append_cancel_left texts)).2

theorem viewSource_inj {first second : String}
    (same : platform.viewSource first = platform.viewSource second) :
    first = second := by
  rw [Platform.viewSource, Platform.viewSource, TableSource.file.injEq] at same
  have texts := warehouseUri_inj same.2
  rw [viewFile_relative, viewFile_relative, viewFile_toList, viewFile_toList]
    at texts
  have names := List.append_cancel_left texts
  rw [List.cons.injEq] at names
  have behind := List.append_cancel_left names.2
  rw [List.cons.injEq] at behind
  exact String.toList_injective (List.append_cancel_right behind.2)

theorem publicFile_ne_viewFile (table view : String) :
    publicFile table ≠ viewFile view := by
  intro same
  have texts := congrArg String.toList same
  rw [publicFile_toList, viewFile_toList] at texts
  have directories := List.append_cancel_left texts
  rw [List.cons.injEq] at directories
  exact Char.ne_of_val_ne (by decide) (List.cons.inj directories.2).1

theorem publicSource_ne_viewSource (table view : String) :
    platform.publicSource table ≠ platform.viewSource view := by
  intro same
  rw [Platform.publicSource, Platform.viewSource, TableSource.file.injEq]
    at same
  have texts := warehouseUri_inj same.2
  rw [publicFile_relative, viewFile_relative] at texts
  exact publicFile_ne_viewFile table view (String.toList_injective texts)

/-! ## The invariant -/

/-- A view has a row exactly if its name is registered on its file. -/
def Namespaced (platform : Platform Row Key Location Contents)
    (state : EngineState Row Key Location Contents) : Prop :=
  ∀ name, (state.views name).isSome ↔
    state.tables (platform.tableKey name) = some (platform.viewSource name)

/-- A base table is registered under a key. -/
def IsBaseTable (platform : Platform Row Key Location Contents)
    (state : EngineState Row Key Location Contents) (key : Key) : Prop :=
  ∃ name, platform.tableKey name = key ∧
    state.tables key = some (platform.publicSource name)

/-- The commands of one kind leave the objects of the other alone. -/
def LeavesApart (platform : Platform Row Key Location Contents)
    (before after : EngineState Row Key Location Contents) : Command → Prop
  | .createMaterializedView _ _ | .refreshMaterializedView _
  | .dropMaterializedView _ =>
      ∀ key, IsBaseTable platform before key →
        after.tables key = before.tables key
  | .ctas _ _ | .copyInto _ _ | .dropTable _ =>
      ∀ view, (before.views view).isSome →
        after.tables (platform.tableKey view) =
            before.tables (platform.tableKey view) ∧
          after.views view = before.views view
  | _ => True

/-- A command does not take a name that the other kind has. -/
def TakesNoName (platform : Platform Row Key Location Contents)
    (state : EngineState Row Key Location Contents) : Command → Prop
  | .ctas name selectSql =>
      platform.query state selectSql = .ok [] ∨
        ∀ view, (state.views view).isSome →
          platform.tableKey view ≠ platform.tableKey name
  | .createMaterializedView name _ =>
      state.tables (platform.tableKey name) = none
  | .dropTable table =>
      ∀ view, (state.views view).isSome →
        platform.tableKey view ≠ platform.tableKey table
  | _ => True

section Steps

variable {before after : EngineState Row Key Location Contents}

theorem Namespaced.of_same (namespaced : Namespaced platform before)
    (tables : after.tables = before.tables)
    (views : after.views = before.views) : Namespaced platform after := by
  intro name
  rw [tables, views]
  exact namespaced name

variable [DecidableEq Key]

variable {source : Option (TableSource Row)}

/-- A name that no view has is registered as something else. -/
theorem Namespaced.rebase {key : Key} (namespaced : Namespaced platform before)
    (free : ∀ view, (before.views view).isSome →
      platform.tableKey view ≠ key)
    (isBase : ∀ view, source ≠ some (platform.viewSource view))
    (tables : after.tables = Function.update before.tables key source)
    (views : after.views = before.views) : Namespaced platform after := by
  intro name
  rw [tables, views, Function.update_apply]
  split
  · rename_i same
    exact iff_of_false (fun row => free name row same) (isBase name)
  · exact namespaced name

/-- A row and a registration change together. -/
theorem Namespaced.rerecord {name : String} {row : Option MaterializedView}
    (namespaced : Namespaced platform before)
    (agree : row.isSome ↔ source = some (platform.viewSource name))
    (own : ∀ view, view ≠ name → source ≠ some (platform.viewSource view))
    (alone : ∀ view, view ≠ name →
      platform.tableKey view = platform.tableKey name →
        ¬ (before.views view).isSome)
    (tables : after.tables =
      Function.update before.tables (platform.tableKey name) source)
    (views : after.views = Function.update before.views name row) :
    Namespaced platform after := by
  intro view
  rw [tables, views, Function.update_apply, Function.update_apply]
  by_cases same : view = name
  · rw [if_pos same, if_pos (congrArg platform.tableKey same), same]
    exact agree
  · rw [if_neg same]
    split
    · rename_i sameKey
      exact iff_of_false (alone view same sameKey) (own view same)
    · exact namespaced view

omit [DecidableEq Key] in
/-- The views of one key are one view. -/
theorem Namespaced.alone {name : String}
    (namespaced : Namespaced platform before)
    (row : (before.views name).isSome) (view : String) (other : view ≠ name)
    (sameKey : platform.tableKey view = platform.tableKey name) :
    ¬ (before.views view).isSome := by
  intro also
  have first := (namespaced name).mp row
  have second := (namespaced view).mp also
  rw [sameKey, first, Option.some.injEq] at second
  exact other (viewSource_inj second).symm

theorem kept_of_free {key : Key} (free : ∀ view, (before.views view).isSome →
      platform.tableKey view ≠ key)
    (tables : after.tables = Function.update before.tables key source)
    (views : after.views = before.views) (view : String)
    (row : (before.views view).isSome) :
    after.tables (platform.tableKey view) =
        before.tables (platform.tableKey view) ∧
      after.views view = before.views view := by
  rw [tables, views, Function.update_of_ne (free view row)]
  exact ⟨rfl, rfl⟩

theorem base_kept {key : Key} (notBase : ¬ IsBaseTable platform before key)
    (tables : after.tables = Function.update before.tables key source)
    (other : Key) (isBase : IsBaseTable platform before other) :
    after.tables other = before.tables other := by
  rw [tables]
  refine Function.update_of_ne (fun same => ?_) _ _
  exact notBase (same ▸ isBase)

omit [DecidableEq Key] in
theorem not_base_of_view {name : String}
    (namespaced : Namespaced platform before)
    (row : (before.views name).isSome) :
    ¬ IsBaseTable platform before (platform.tableKey name) := by
  rintro ⟨table, sameKey, registered⟩
  rw [(namespaced name).mp row, Option.some.injEq] at registered
  exact publicSource_ne_viewSource table name registered.symm

end Steps

/-! ## Successful commands -/

variable [DecidableEq Key] [DecidableEq Location]

/-- What a successful command keeps. -/
structure Orderly (platform : Platform Row Key Location Contents)
    (command : Command)
    (before after : EngineState Row Key Location Contents) : Prop where
  namespaced : Namespaced platform after
  apart : LeavesApart platform before after command

section Outcomes

variable {name selectSql : String} {reply : Reply Row}
  {before after : EngineState Row Key Location Contents}

section

variable (namespaced : Namespaced platform before)

include namespaced

theorem CtasOutcome.orderly
    (free : TakesNoName platform before (.ctas name selectSql))
    (outcome : CtasOutcome platform name selectSql before (.ok reply, after)) :
    Orderly platform (.ctas name selectSql) before after := by
  cases outcome with
  | empty query => exact ⟨namespaced, fun view row => ⟨rfl, rfl⟩⟩
  | created query nonempty replaces =>
      rcases free with yieldsNothing | free
      · rw [query, Except.ok.injEq] at yieldsNothing
        exact absurd yieldsNothing nonempty
      · exact
          ⟨namespaced.rebase free
              (fun view same =>
                publicSource_ne_viewSource name view (Option.some.inj same))
              replaces.tables replaces.views,
            kept_of_free free replaces.tables replaces.views⟩

theorem CopyOutcome.orderly {sourcePath : String}
    (outcome : CopyOutcome platform name sourcePath before
      (.ok reply, after)) :
    Orderly platform (.copyInto name sourcePath) before after := by
  cases outcome with
  | empty loads =>
      exact
        ⟨namespaced.of_same loads.deregistered rfl, fun view row =>
          ⟨congrFun loads.deregistered _, rfl⟩⟩
  | @loaded format batches _ loads unregistered =>
      have copied :
          (platform.copied name batches
            (platform.sourceRegistered name sourcePath format
              before)).tables = before.tables :=
        loads.deregistered
      have free : ∀ view, (before.views view).isSome →
          platform.tableKey view ≠ platform.tableKey name := by
        intro view row sameKey
        rw [copied, ← sameKey, (namespaced view).mp row] at unregistered
        cases unregistered
      have tables := congrArg
        (Function.update · (platform.tableKey name)
          (some (platform.publicSource name))) copied
      exact
        ⟨namespaced.rebase free
            (fun view same =>
              publicSource_ne_viewSource name view (Option.some.inj same))
            tables rfl,
          kept_of_free free tables rfl⟩

theorem DropTableOutcome.orderly
    (free : TakesNoName platform before (.dropTable name))
    (outcome : DropTableOutcome platform name before (.ok reply, after)) :
    Orderly platform (.dropTable name) before after := by
  have dropped : ∀ {left : EngineState Row Key Location Contents},
      left.tables =
          Function.update before.tables (platform.tableKey name) none →
        left.views = before.views →
          Orderly platform (.dropTable name) before left :=
    fun tables views =>
      ⟨namespaced.rebase free
          (fun view same => Option.some_ne_none _ same.symm) tables views,
        kept_of_free free tables views⟩
  cases outcome with
  | absent none => exact dropped rfl rfl
  | removed present works => exact dropped rfl rfl

/-- A view is recorded on a key that no other view and no table has. -/
theorem RecordOutcome.orderly (alone : ∀ view, view ≠ name →
      platform.tableKey view = platform.tableKey name →
        ¬ (before.views view).isSome)
    (notBase : ¬ IsBaseTable platform before (platform.tableKey name))
    (outcome : RecordOutcome platform name selectSql before
      (.ok reply, after)) :
    Namespaced platform after ∧
      ∀ key, IsBaseTable platform before key →
        after.tables key = before.tables key := by
  cases outcome with
  | @recorded _ _ written replaces =>
      have own : ∀ view, view ≠ name →
          some (platform.viewSource name) ≠
            some (platform.viewSource view) :=
        fun view other same =>
          other (viewSource_inj (Option.some.inj same)).symm
      have views := congrArg
        (Function.update · name
          (some
            (⟨selectSql, platform.warehouseUri (viewFile name)⟩ :
              MaterializedView))) replaces.views
      exact
        ⟨namespaced.rerecord (iff_of_true rfl rfl) own alone replaces.tables
            views,
          fun key isBase => base_kept notBase replaces.tables key isBase⟩

theorem CreateViewOutcome.orderly (free : TakesNoName platform before
      (.createMaterializedView name selectSql))
    (outcome : CreateViewOutcome platform name selectSql before
      (.ok reply, after)) :
    Orderly platform (.createMaterializedView name selectSql) before
      after := by
  have alone : ∀ view, view ≠ name →
      platform.tableKey view = platform.tableKey name →
        ¬ (before.views view).isSome := by
    intro view other sameKey row
    have registered := (namespaced view).mp row
    rw [sameKey, free] at registered
    cases registered
  have notBase : ¬ IsBaseTable platform before (platform.tableKey name) := by
    rintro ⟨table, sameKey, registered⟩
    rw [free] at registered
    cases registered
  cases outcome with
  | ran unrecorded outcome =>
      have orderly := outcome.orderly namespaced alone notBase
      exact ⟨orderly.1, orderly.2⟩

theorem RefreshOutcome.orderly
    (outcome : RefreshOutcome platform name before (.ok reply, after)) :
    Orderly platform (.refreshMaterializedView name) before after := by
  cases outcome with
  | ran row outcome =>
      have there : (before.views name).isSome := by rw [row]; rfl
      have orderly :=
        outcome.orderly namespaced (namespaced.alone there)
          (not_base_of_view namespaced there)
      exact ⟨orderly.1, orderly.2⟩

theorem DropViewOutcome.orderly
    (outcome : DropViewOutcome platform name before (.ok reply, after)) :
    Orderly platform (.dropMaterializedView name) before after := by
  cases outcome with
  | @dropped left row drops =>
      have views := congrArg
        (Function.update · name (none : Option MaterializedView)) drops.views
      have agree : (none : Option MaterializedView).isSome ↔
          (none : Option (TableSource Row)) =
            some (platform.viewSource name) := by
        constructor
        · intro row
          cases row
        · intro same
          cases same
      have own : ∀ view, view ≠ name →
          (none : Option (TableSource Row)) ≠
            some (platform.viewSource view) :=
        fun view other same => Option.some_ne_none _ same.symm
      exact
        ⟨namespaced.rerecord agree own (namespaced.alone row) drops.tables
            views,
          fun key isBase =>
            base_kept (not_base_of_view namespaced row) drops.tables key
              isBase⟩

end

end Outcomes

variable {before after : EngineState Row Key Location Contents}

/-- A successful command that takes no name keeps the names apart. -/
theorem perform_orderly {command : Command} {reply : Reply Row}
    (namespaced : Namespaced platform before)
    (free : TakesNoName platform before command)
    (ran : perform platform command before = (.ok reply, after)) :
    Orderly platform command before after := by
  cases written : command.writesData with
  | false =>
      have same := perform_sameData platform written before
      rw [ran] at same
      refine ⟨namespaced.of_same same.tables same.views, ?_⟩
      cases command with
      | copyInto | ctas | createMaterializedView | refreshMaterializedView
      | dropMaterializedView | dropTable => cases written
      | _ => trivial
  | true =>
      cases command with
      | copyInto name sourcePath =>
          have outcome := handleCopyInto_outcome platform name sourcePath before
          rw [perform] at ran
          rw [ran] at outcome
          exact outcome.orderly namespaced
      | ctas name selectSql =>
          have outcome := handleCtas_outcome platform name selectSql before
          rw [perform] at ran
          rw [ran] at outcome
          exact outcome.orderly namespaced free
      | createMaterializedView name selectSql =>
          have outcome :=
            handleCreateMaterializedView_outcome platform name selectSql before
          rw [perform] at ran
          rw [ran] at outcome
          exact outcome.orderly namespaced free
      | refreshMaterializedView name =>
          have outcome :=
            handleRefreshMaterializedView_outcome platform name before
          rw [perform] at ran
          rw [ran] at outcome
          exact outcome.orderly namespaced
      | dropMaterializedView name =>
          have outcome :=
            handleDropMaterializedView_outcome platform name before
          rw [perform] at ran
          rw [ran] at outcome
          exact outcome.orderly namespaced
      | dropTable table =>
          have outcome := handleDropTable_outcome platform table before
          rw [perform] at ran
          rw [ran] at outcome
          exact outcome.orderly namespaced free
      | _ => cases written

/-! ## Runs -/

/-- A statement that is carried out with success. -/
structure Succeeds (platform : Platform Row Key Location Contents)
    (command : Command)
    (before after : EngineState Row Key Location Contents) : Prop where
  spelled : ∃ sql, dispatch sql = some (some (.ok command)) ∧
    ∃ reply, Carries platform sql before (.ok reply, after)

theorem Succeeds.ran {command : Command}
    (succeeds : Succeeds platform command before after) :
    ∃ reply, perform platform command before = (.ok reply, after) := by
  rcases succeeds.spelled with ⟨sql, dispatched, reply, carries⟩
  rcases carries.cases with ⟨message, refused, same⟩ | ⟨other, also, ran⟩
  · cases same
  · rw [dispatched] at also
    cases also
    exact ⟨reply, ran.symm⟩

/--
The states that successful commands lead to from an empty engine, when each of
them satisfies a condition.  Other files may change in between.
-/
inductive CommandRun (platform : Platform Row Key Location Contents)
    (allowed : EngineState Row Key Location Contents → Command → Prop) :
    EngineState Row Key Location Contents → Prop where
  | empty {state : EngineState Row Key Location Contents} :
      (∀ key, state.tables key = none) → (∀ name, state.views name = none) →
        CommandRun platform allowed state
  | command {command : Command}
      {before after : EngineState Row Key Location Contents} :
      CommandRun platform allowed before → allowed before command →
        Succeeds platform command before after →
          CommandRun platform allowed after
  | files {before after : EngineState Row Key Location Contents} :
      CommandRun platform allowed before →
        after.tables = before.tables → after.views = before.views →
          CommandRun platform allowed after

theorem CommandRun.namespaced
    {state : EngineState Row Key Location Contents}
    (run : CommandRun platform (TakesNoName platform) state) :
    Namespaced platform state := by
  induction run with
  | @empty state tables views =>
      intro name
      rw [tables, views]
      exact iff_of_false Bool.false_ne_true nofun
  | command before free succeeds namespaced =>
      rcases succeeds.ran with ⟨reply, ran⟩
      exact (perform_orderly namespaced free ran).namespaced
  | files before tables views namespaced =>
      exact namespaced.of_same tables views

/--
While no command takes a name of the other kind, rows and registrations agree
and the commands of one kind leave the objects of the other alone.
-/
theorem views_apart {state : EngineState Row Key Location Contents}
    (run : CommandRun platform (TakesNoName platform) state) :
    Namespaced platform state ∧
      ∀ command after, TakesNoName platform state command →
        Succeeds platform command state after →
          LeavesApart platform state after command := by
  refine ⟨run.namespaced, fun command after free succeeds => ?_⟩
  rcases succeeds.ran with ⟨reply, ran⟩
  exact (perform_orderly run.namespaced free ran).apart

/-! ## A view that is dropped as a table -/

/-- An empty session without files. -/
def emptyEngine :
    EngineState Nat String (List String) (List (RecordBatch Nat)) where
  tables _ := none
  files _ := none
  views _ := none
  warehouses := []
  touched := []

theorem small_succeeds {sql : String} {command : Command} {reply : Reply Nat}
    {before after :
      EngineState Nat String (List String) (List (RecordBatch Nat))}
    (dispatched : dispatch sql = some (some (.ok command)))
    (ran : perform smallPlatform command before = (.ok reply, after)) :
    Succeeds smallPlatform command before after :=
  ⟨sql, dispatched, reply, ran ▸ carries_of_dispatch dispatched before⟩

/-- The session in which a view was created. -/
def viewCreated :
    EngineState Nat String (List String) (List (RecordBatch Nat)) :=
  (perform smallPlatform (.createMaterializedView "v" "SELECT 1")
    emptyEngine).2

theorem createView_succeeds :
    Succeeds smallPlatform (.createMaterializedView "v" "SELECT 1")
      emptyEngine viewCreated :=
  @small_succeeds "CREATE MATERIALIZED VIEW v AS SELECT 1" _
    (.viewCreated "v" 1) _ _ (by decide) rfl

/-- The session in which the view was dropped as a table. -/
def viewDropped :
    EngineState Nat String (List String) (List (RecordBatch Nat)) :=
  (perform smallPlatform (.dropTable "v") viewCreated).2

theorem dropView_succeeds :
    Succeeds smallPlatform (.dropTable "v") viewCreated viewDropped :=
  @small_succeeds "DROP TABLE v" _ .dropped _ _ (by decide) rfl

theorem viewCreated_run {allowed : EngineState Nat String (List String)
      (List (RecordBatch Nat)) → Command → Prop}
    (free : allowed emptyEngine (.createMaterializedView "v" "SELECT 1")) :
    CommandRun smallPlatform allowed viewCreated :=
  .command (.empty (fun _ => rfl) fun _ => rfl) free createView_succeeds

/-- `DROP TABLE` leaves the row of a view without its registration. -/
theorem dropTable_leaves_row :
    ¬ ∀ state, CommandRun smallPlatform (fun _ _ => True) state →
      Namespaced smallPlatform state ∧
        ∀ command after, Succeeds smallPlatform command state after →
          LeavesApart smallPlatform state after command := by
  intro apart
  have run : CommandRun smallPlatform (fun _ _ => True) viewDropped :=
    .command (viewCreated_run trivial) trivial dropView_succeeds
  have registered := ((apart viewDropped run).1 "v").mp rfl
  cases registered

/-- A run in which a view takes a free name. -/
theorem views_apart_created :
    Namespaced smallPlatform viewCreated ∧
      ∀ command after, TakesNoName smallPlatform viewCreated command →
        Succeeds smallPlatform command viewCreated after →
          LeavesApart smallPlatform viewCreated after command :=
  views_apart (viewCreated_run rfl)

end OpenSnow.Core
