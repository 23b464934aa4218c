import OpenSnow.Core.Execution

/-!
# What a command can come to

Every handler with all its outcomes: where it stops, what it answers there, and
which registrations, files and rows it has changed by then.
-/

namespace OpenSnow.Core

open Arrow
open Core.Commands
open Foundation

variable {Row Key Location Contents : Type}

/-! ## Changes of the state -/

namespace EngineState

@[simps]
def registered [DecidableEq Key]
    (state : EngineState Row Key Location Contents) (key : Key)
    (source : TableSource Row) : EngineState Row Key Location Contents where
  tables := Function.update state.tables key (some source)
  files := state.files
  views := state.views
  warehouses := state.warehouses
  touched := state.touched

@[simps]
def deregistered [DecidableEq Key]
    (state : EngineState Row Key Location Contents) (key : Key) :
    EngineState Row Key Location Contents where
  tables := Function.update state.tables key none
  files := state.files
  views := state.views
  warehouses := state.warehouses
  touched := state.touched

/-- A file that was written or, without contents, removed. -/
@[simps]
def stored [DecidableEq Location]
    (state : EngineState Row Key Location Contents) (location : Location)
    (contents : Option Contents) :
    EngineState Row Key Location Contents where
  tables := state.tables
  files := Function.update state.files location contents
  views := state.views
  warehouses := state.warehouses
  touched := location :: state.touched

/-- A row of `materialized_views` that was written or deleted. -/
@[simps]
def recorded (state : EngineState Row Key Location Contents) (name : String)
    (row : Option MaterializedView) :
    EngineState Row Key Location Contents where
  tables := state.tables
  files := state.files
  views := Function.update state.views name row
  warehouses := state.warehouses
  touched := state.touched

end EngineState

/-! ## Primitive steps -/

variable (platform : Platform Row Key Location Contents)

variable {state : EngineState Row Key Location Contents}

theorem runQuery_failed
    {sql message : String} (failed : platform.query state sql = .error message) :
    runQuery platform sql state = (.error (.query message), state) := by
  rw [runQuery, Effect.look_apply, failed]
  rfl

theorem runQuery_yielded {sql : String} {batches : List (RecordBatch Row)}
    (yielded : platform.query state sql = .ok batches) :
    runQuery platform sql state = (.ok batches, state) := by
  rw [runQuery, Effect.look_apply, yielded]
  rfl

section Registrations

variable [DecidableEq Key]

variable {state : EngineState Row Key Location Contents}

theorem registerTable_unreadable {format : Format}
    {path message : String} (name : String)
    (schema : platform.inferSchema format
      (state.files (platform.locate path)) = .error message) :
    registerTable platform format name path state =
      (.error (.query message), state) := by
  rw [registerTable, schema]

theorem registerTable_taken {format : Format}
    {name path : String} {source : TableSource Row}
    (schema : platform.inferSchema format
      (state.files (platform.locate path)) = .ok ())
    (taken : state.tables (platform.tableKey name) = some source) :
    registerTable platform format name path state =
      (.error (.duplicate ("The table " ++ name ++ " already exists")),
        state) := by
  rw [registerTable, schema]
  simp only
  rw [taken]

theorem registerTable_free {format : Format} {name path : String}
    (schema : platform.inferSchema format
      (state.files (platform.locate path)) = .ok ())
    (free : state.tables (platform.tableKey name) = none) :
    registerTable platform format name path state =
      (.ok (),
        state.registered (platform.tableKey name) (.file format path)) := by
  rw [registerTable, schema]
  simp only
  rw [free]
  rfl

theorem deregisterTable_bind {Value : Type} (name : String)
    (next : Unit → Handling Row Key Location Contents Value)
    (state : EngineState Row Key Location Contents) :
    (deregisterTable platform name >>= next) state =
      next () (state.deregistered (platform.tableKey name)) :=
  rfl

end Registrations

section Writes

variable [DecidableEq Location]

variable {state : EngineState Row Key Location Contents}

theorem writeWarehouseParquet_fault
    {relative : String} {wrong : WriteFault Contents} (what : String)
    (batches : List (RecordBatch Row))
    (faulty : platform.writeFault state (platform.warehouseUri relative) =
      some wrong) :
    writeWarehouseParquet platform what relative batches state =
      (.error (.fault (what ++ ": " ++ wrong.message)),
        state.stored (platform.writeLocation (platform.warehouseUri relative))
          wrong.left) := by
  simp only [writeWarehouseParquet, faulty]
  rfl

theorem writeWarehouseParquet_written {relative : String}
    (what : String) (batches : List (RecordBatch Row))
    (works : platform.writeFault state (platform.warehouseUri relative) =
      none) :
    writeWarehouseParquet platform what relative batches state =
      (.ok (platform.warehouseUri relative),
        state.stored (platform.writeLocation (platform.warehouseUri relative))
          (some (platform.encodeParquet batches))) := by
  simp only [writeWarehouseParquet, works]
  rfl

end Writes

variable [DecidableEq Key] [DecidableEq Location]

/-! ## Replacing a table -/

/--
A file is written and a name registered on it anew.  With a failure the
replacement stopped there.
-/
inductive Replaces (name relative : String)
    (state : EngineState Row Key Location Contents)
    (batches : List (RecordBatch Row)) :
    EngineState Row Key Location Contents → Option Failure → Prop where
  | writeFault {wrong : WriteFault Contents} (message : String) :
      platform.writeFault state (platform.warehouseUri relative) =
          some wrong →
        Replaces name relative state batches
          (state.stored
            (platform.writeLocation (platform.warehouseUri relative))
            wrong.left)
          (some (.fault message))
  | unreadable {message : String} :
      platform.inferSchema .parquet
          ((state.stored
            (platform.writeLocation (platform.warehouseUri relative))
            (some (platform.encodeParquet batches))).files
              (platform.locate (platform.warehouseUri relative))) =
          .error message →
        Replaces name relative state batches
          ((state.stored
            (platform.writeLocation (platform.warehouseUri relative))
            (some (platform.encodeParquet batches))).deregistered
              (platform.tableKey name))
          (some (.query message))
  | replaced :
      Replaces name relative state batches
        (((state.stored
          (platform.writeLocation (platform.warehouseUri relative))
          (some (platform.encodeParquet batches))).deregistered
            (platform.tableKey name)).registered
              (platform.tableKey name)
              (.file .parquet (platform.warehouseUri relative)))
        none

variable {Value : Type}

/-- Writing, deregistering and registering replaces a table. -/
theorem replace_outcome (what name relative : String)
    (state : EngineState Row Key Location Contents)
    (batches : List (RecordBatch Row))
    (next : String → Handling Row Key Location Contents Value) :
    ∃ after stopped, Replaces platform name relative state batches after stopped ∧
      (do
        let outPath ← writeWarehouseParquet platform what relative batches
        deregisterTable platform name
        registerTable platform .parquet name outPath
        next outPath) state =
      match stopped with
      | some failure => (.error failure, after)
      | none => next (platform.warehouseUri relative) after := by
  cases faulty :
      platform.writeFault state (platform.warehouseUri relative) with
  | some wrong =>
      refine ⟨_, _, .writeFault (what ++ ": " ++ wrong.message) faulty, ?_⟩
      exact
        Effect.bind_error
          (writeWarehouseParquet_fault platform what batches faulty)
  | none =>
      rw [Effect.bind_ok
        (writeWarehouseParquet_written platform what batches faulty)]
      rw [deregisterTable_bind]
      cases schema :
          platform.inferSchema .parquet
            ((state.stored
              (platform.writeLocation (platform.warehouseUri relative))
              (some (platform.encodeParquet batches))).files
                (platform.locate (platform.warehouseUri relative))) with
      | error message =>
          refine ⟨_, _, .unreadable schema, ?_⟩
          exact
            Effect.bind_error
              (registerTable_unreadable platform name schema)
      | ok readable =>
          refine ⟨_, _, .replaced, ?_⟩
          exact
            Effect.bind_ok
              (registerTable_free platform schema
                (Function.update_self _ _ _))

section Replacing

variable {platform} {name relative : String}
  {state after : EngineState Row Key Location Contents}
  {batches : List (RecordBatch Row)} {stopped : Option Failure}

theorem Replaces.views
    (replaces : Replaces platform name relative state batches after stopped) :
    after.views = state.views := by
  cases replaces <;> rfl

theorem Replaces.touched
    (replaces : Replaces platform name relative state batches after stopped) :
    after.touched =
      platform.writeLocation (platform.warehouseUri relative) ::
        state.touched := by
  cases replaces <;> rfl

theorem Replaces.tables
    (replaces : Replaces platform name relative state batches after none) :
    after.tables =
      Function.update state.tables (platform.tableKey name)
        (some (.file .parquet (platform.warehouseUri relative))) := by
  cases replaces
  exact Function.update_idem _ _ _

end Replacing

/-! ## Tables -/

/-- What `CREATE TABLE AS` can come to. -/
inductive CtasOutcome (name selectSql : String)
    (state : EngineState Row Key Location Contents) :
    Except Failure (Reply Row) × EngineState Row Key Location Contents →
      Prop where
  | failed {message : String} :
      platform.query state selectSql = .error message →
        CtasOutcome name selectSql state (.error (.query message), state)
  | empty : platform.query state selectSql = .ok [] →
      CtasOutcome name selectSql state (.ok (.batches []), state)
  | stopped {batches : List (RecordBatch Row)} {failure : Failure}
      {after : EngineState Row Key Location Contents} :
      platform.query state selectSql = .ok batches → batches ≠ [] →
        Replaces platform name (publicFile name) state batches after
            (some failure) →
          CtasOutcome name selectSql state (.error failure, after)
  | created {batches : List (RecordBatch Row)}
      {after : EngineState Row Key Location Contents} :
      platform.query state selectSql = .ok batches → batches ≠ [] →
        Replaces platform name (publicFile name) state batches after none →
          CtasOutcome name selectSql state
            (.ok (.created (totalRows batches)), after)

theorem handleCtas_outcome (name selectSql : String)
    (state : EngineState Row Key Location Contents) :
    CtasOutcome platform name selectSql state
      (handleCtas platform name selectSql state) := by
  rw [handleCtas]
  cases run : platform.query state selectSql with
  | error message =>
      rw [Effect.bind_error (runQuery_failed platform run)]
      exact .failed run
  | ok batches =>
      rw [Effect.bind_ok (runQuery_yielded platform run)]
      cases batches with
      | nil => exact .empty run
      | cons batch more =>
          rcases replace_outcome platform ("CREATE TABLE " ++ name) name
              (publicFile name) state (batch :: more)
              (fun _ => pure (Reply.created (totalRows (batch :: more)))) with
            ⟨after, stopped, replaces, outcome⟩
          simp only [List.isEmpty_cons, Bool.false_eq_true, if_false]
          rw [outcome]
          cases stopped with
          | some failure =>
              exact .stopped run (List.cons_ne_nil _ _) replaces
          | none => exact .created run (List.cons_ne_nil _ _) replaces

/-- The state in which the source of `COPY INTO` is registered. -/
def Platform.sourceRegistered (tableName sourcePath : String)
    (format : Format) (state : EngineState Row Key Location Contents) :
    EngineState Row Key Location Contents :=
  state.registered (platform.tableKey (copySourceName tableName))
    (.file format sourcePath)

/-- The source of `COPY INTO` can be registered. -/
structure LoadsSource (tableName sourcePath : String) (format : Format)
    (state : EngineState Row Key Location Contents) : Prop where
  supported : sourceFormat (sourceExtension sourcePath) = some format
  readable : platform.inferSchema format
    (state.files (platform.locate sourcePath)) = .ok ()
  free : state.tables (platform.tableKey (copySourceName tableName)) = none

section Sources

variable {platform} {tableName sourcePath : String} {format : Format}
  {state : EngineState Row Key Location Contents}

omit [DecidableEq Location] in
/-- The name a source is registered under was free. -/
theorem LoadsSource.deregistered
    (loads : LoadsSource platform tableName sourcePath format state) :
    Function.update
        (platform.sourceRegistered tableName sourcePath format state).tables
        (platform.tableKey (copySourceName tableName)) none =
      state.tables := by
  change
    Function.update (Function.update state.tables _ _) _ none = state.tables
  rw [Function.update_idem, ← loads.free, Function.update_eq_self]

omit [DecidableEq Key] [DecidableEq Location] in
theorem LoadsSource.unique {other : Format}
    (loads : LoadsSource platform tableName sourcePath format state)
    (also : LoadsSource platform tableName sourcePath other state) :
    other = format :=
  Option.some.inj (also.supported.symm.trans loads.supported)

end Sources

/-- The state in which `COPY INTO` has written its file. -/
def Platform.copied (tableName : String) (batches : List (RecordBatch Row))
    (state : EngineState Row Key Location Contents) :
    EngineState Row Key Location Contents :=
  (state.stored
    (platform.writeLocation (platform.warehouseUri (publicFile tableName)))
    (some (platform.encodeParquet batches))).deregistered
      (platform.tableKey (copySourceName tableName))

/-- What `COPY INTO` can come to. -/
inductive CopyOutcome (tableName sourcePath : String)
    (state : EngineState Row Key Location Contents) :
    Except Failure (Reply Row) × EngineState Row Key Location Contents →
      Prop where
  | refused {failure : Failure} :
      (∀ format, ¬ LoadsSource platform tableName sourcePath format state) →
        CopyOutcome tableName sourcePath state (.error failure, state)
  | failed {format : Format} {message : String} :
      LoadsSource platform tableName sourcePath format state →
        platform.query
            (platform.sourceRegistered tableName sourcePath format state)
            ("SELECT * FROM " ++ copySourceName tableName) =
          .error message →
        CopyOutcome tableName sourcePath state
          (.error (.query message),
            platform.sourceRegistered tableName sourcePath format state)
  | empty {format : Format} :
      LoadsSource platform tableName sourcePath format state →
        CopyOutcome tableName sourcePath state
          (.ok (.batches []),
            (platform.sourceRegistered tableName sourcePath format
              state).deregistered
                (platform.tableKey (copySourceName tableName)))
  | writeFault {format : Format} {wrong : WriteFault Contents}
      {message : String} :
      LoadsSource platform tableName sourcePath format state →
        CopyOutcome tableName sourcePath state
          (.error (.fault message),
            (platform.sourceRegistered tableName sourcePath format
              state).stored
                (platform.writeLocation
                  (platform.warehouseUri (publicFile tableName)))
                wrong.left)
  | stopped {format : Format} {batches : List (RecordBatch Row)}
      {failure : Failure} :
      LoadsSource platform tableName sourcePath format state →
        platform.query
            (platform.sourceRegistered tableName sourcePath format state)
            ("SELECT * FROM " ++ copySourceName tableName) =
          .ok batches →
        CopyOutcome tableName sourcePath state
          (.error failure,
            platform.copied tableName batches
              (platform.sourceRegistered tableName sourcePath format state))
  | loaded {format : Format} {batches : List (RecordBatch Row)}
      {reply : Reply Row} :
      LoadsSource platform tableName sourcePath format state →
        (platform.copied tableName batches
            (platform.sourceRegistered tableName sourcePath format
              state)).tables (platform.tableKey tableName) =
          none →
        CopyOutcome tableName sourcePath state
          (.ok reply,
            (platform.copied tableName batches
              (platform.sourceRegistered tableName sourcePath format
                state)).registered (platform.tableKey tableName)
                  (.file .parquet
                    (platform.warehouseUri (publicFile tableName))))

/-- `COPY INTO` once its source is registered. -/
theorem copyLoaded_outcome {tableName sourcePath : String} {format : Format}
    (loads : LoadsSource platform tableName sourcePath format state) :
    CopyOutcome platform tableName sourcePath state
      ((do
        let batches ←
          runQuery platform ("SELECT * FROM " ++ copySourceName tableName)
        if batches.isEmpty then
          deregisterTable platform (copySourceName tableName)
          pure (Reply.batches [])
        else
          let outPath ←
            writeWarehouseParquet platform ("COPY INTO " ++ tableName)
              (publicFile tableName) batches
          deregisterTable platform (copySourceName tableName)
          registerTable platform .parquet tableName outPath
          pure (Reply.loaded (totalRows batches) outPath))
        (platform.sourceRegistered tableName sourcePath format state)) := by
  cases run :
      platform.query
        (platform.sourceRegistered tableName sourcePath format state)
        ("SELECT * FROM " ++ copySourceName tableName) with
  | error message =>
      rw [Effect.bind_error (runQuery_failed platform run)]
      exact .failed loads run
  | ok batches =>
      rw [Effect.bind_ok (runQuery_yielded platform run)]
      cases batches with
      | nil => exact .empty loads
      | cons batch more =>
          simp only [List.isEmpty_cons, Bool.false_eq_true, if_false]
          cases faulty :
              platform.writeFault
                (platform.sourceRegistered tableName sourcePath format state)
                (platform.warehouseUri (publicFile tableName)) with
          | some wrong =>
              rw [Effect.bind_error
                (writeWarehouseParquet_fault platform _ _ faulty)]
              exact .writeFault loads
          | none =>
              rw [Effect.bind_ok
                (writeWarehouseParquet_written platform _ _ faulty)]
              rw [deregisterTable_bind, ← Platform.copied]
              cases schema : platform.inferSchema .parquet
                  ((platform.copied tableName (batch :: more)
                    (platform.sourceRegistered tableName sourcePath format
                      state)).files
                    (platform.locate
                      (platform.warehouseUri (publicFile tableName)))) with
              | error message =>
                  rw [Effect.bind_error
                    (registerTable_unreadable platform tableName schema)]
                  exact .stopped loads run
              | ok readable =>
                  cases taken :
                      (platform.copied tableName (batch :: more)
                        (platform.sourceRegistered tableName sourcePath format
                          state)).tables (platform.tableKey tableName) with
                  | some source =>
                      rw [Effect.bind_error
                        (registerTable_taken platform schema taken)]
                      exact .stopped loads run
                  | none =>
                      rw [Effect.bind_ok
                        (registerTable_free platform schema taken)]
                      exact .loaded loads taken

theorem handleCopyInto_outcome (tableName sourcePath : String)
    (state : EngineState Row Key Location Contents) :
    CopyOutcome platform tableName sourcePath state
      (handleCopyInto platform tableName sourcePath state) := by
  rw [handleCopyInto]
  cases supported : sourceFormat (sourceExtension sourcePath) with
  | none =>
      refine .refused fun format loads => ?_
      have some := loads.supported
      rw [supported] at some
      cases some
  | some format =>
      simp only
      have refused : ∀ {other}, LoadsSource platform tableName sourcePath other
          state → other = format := by
        intro other loads
        have same := loads.supported
        rw [supported, Option.some.injEq] at same
        exact same.symm
      cases schema : platform.inferSchema format
          (state.files (platform.locate sourcePath)) with
      | error message =>
          rw [Effect.bind_error
            (registerTable_unreadable platform (copySourceName tableName)
              schema)]
          refine .refused fun other loads => ?_
          have readable := loads.readable
          rw [refused loads, schema] at readable
          cases readable
      | ok isReadable =>
          cases taken : state.tables
              (platform.tableKey (copySourceName tableName)) with
          | some source =>
              rw [Effect.bind_error
                (registerTable_taken platform schema taken)]
              refine .refused fun other loads => ?_
              have free := loads.free
              rw [taken] at free
              cases free
          | none =>
              have loads : LoadsSource platform tableName sourcePath format
                  state :=
                ⟨supported, schema, taken⟩
              rw [Effect.bind_ok (registerTable_free platform schema taken)]
              change CopyOutcome platform tableName sourcePath state
                ((runQuery platform
                  ("SELECT * FROM " ++ copySourceName tableName) >>= _)
                    (platform.sourceRegistered tableName sourcePath format
                      state))
              exact copyLoaded_outcome platform loads

omit [DecidableEq Key] [DecidableEq Location] in
theorem pathExists_bind (path : String)
    (next : Bool → Handling Row Key Location Contents Value)
    (state : EngineState Row Key Location Contents) :
    (pathExists platform path >>= next) state =
      next (state.files (platform.fileAt path)).isSome state :=
  rfl

/-- What `DROP TABLE` can come to. -/
inductive DropTableOutcome (table : String)
    (state : EngineState Row Key Location Contents) :
    Except Failure (Reply Row) × EngineState Row Key Location Contents →
      Prop where
  | absent :
      state.files (platform.fileAt (platform.droppedPath table)) = none →
        DropTableOutcome table state
          (.ok .dropped, state.deregistered (platform.tableKey table))
  | removeFault {message : String} :
      (state.files (platform.fileAt (platform.droppedPath table))).isSome →
        platform.removeFault (state.deregistered (platform.tableKey table))
            (platform.droppedPath table) =
          some message →
        DropTableOutcome table state
          (.error (.fault message),
            state.deregistered (platform.tableKey table))
  | removed :
      (state.files (platform.fileAt (platform.droppedPath table))).isSome →
        platform.removeFault (state.deregistered (platform.tableKey table))
            (platform.droppedPath table) =
          none →
        DropTableOutcome table state
          (.ok .dropped,
            (state.deregistered (platform.tableKey table)).stored
              (platform.fileAt (platform.droppedPath table)) none)

theorem handleDropTable_outcome (table : String)
    (state : EngineState Row Key Location Contents) :
    DropTableOutcome platform table state
      (handleDropTable platform table state) := by
  rw [handleDropTable, deregisterTable_bind, pathExists_bind]
  simp only [EngineState.deregistered_files]
  cases file : state.files (platform.fileAt (platform.droppedPath table)) with
  | none => exact .absent file
  | some contents =>
      simp only [Option.isSome_some, if_true]
      have present :
          (state.files (platform.fileAt (platform.droppedPath table))).isSome := by
        rw [file]
        rfl
      cases faulty :
          platform.removeFault (state.deregistered (platform.tableKey table))
            (platform.droppedPath table) with
      | some message =>
          have left : removeFile platform (platform.droppedPath table)
              (state.deregistered (platform.tableKey table)) =
                (.ok (some message),
                  state.deregistered (platform.tableKey table)) := by
            simp only [removeFile, faulty]
          rw [Effect.bind_ok left]
          exact .removeFault present faulty
      | none =>
          have gone : removeFile platform (platform.droppedPath table)
              (state.deregistered (platform.tableKey table)) =
                (.ok none,
                  (state.deregistered (platform.tableKey table)).stored
                    (platform.fileAt (platform.droppedPath table)) none) := by
            simp only [removeFile, faulty]
            rfl
          rw [Effect.bind_ok gone]
          exact .removed present faulty

/-! ## Materialized views -/

/-- What materializing a query can come to. -/
inductive MaterializeOutcome (name selectSql : String)
    (state : EngineState Row Key Location Contents) :
    Except Failure (Nat × String) × EngineState Row Key Location Contents →
      Prop where
  | refused {message : String} :
      MaterializeOutcome name selectSql state (.error (.query message), state)
  | stopped {batches : List (RecordBatch Row)} {failure : Failure}
      {after : EngineState Row Key Location Contents} :
      Replaces platform name (viewFile name) state batches after
          (some failure) →
        MaterializeOutcome name selectSql state (.error failure, after)
  | materialized {batches : List (RecordBatch Row)}
      {after : EngineState Row Key Location Contents} :
      Replaces platform name (viewFile name) state batches after none →
        MaterializeOutcome name selectSql state
          (.ok
            (totalRows batches, platform.warehouseUri (viewFile name)), after)

theorem materializeQueryToParquet_outcome (name selectSql : String)
    (state : EngineState Row Key Location Contents) :
    MaterializeOutcome platform name selectSql state
      (materializeQueryToParquet platform name selectSql state) := by
  rw [materializeQueryToParquet]
  cases run : platform.query state selectSql with
  | error message =>
      rw [Effect.bind_error (runQuery_failed platform run)]
      exact .refused
  | ok batches =>
      rw [Effect.bind_ok (runQuery_yielded platform run)]
      cases batches with
      | nil => exact .refused
      | cons batch more =>
          rcases replace_outcome platform ("materialized view " ++ name) name
              (viewFile name) state (batch :: more)
              (fun outPath => pure (totalRows (batch :: more), outPath)) with
            ⟨after, stopped, replaces, outcome⟩
          simp only [List.isEmpty_cons, Bool.false_eq_true, if_false]
          rw [outcome]
          cases stopped with
          | some failure => exact .stopped replaces
          | none => exact .materialized replaces

omit [DecidableEq Key] [DecidableEq Location] in
/-- A catalog call lets the next step follow, unless it has a fault. -/
theorem catalogCall_bind (call : CatalogCall) (what : String)
    (next : Unit → Handling Row Key Location Contents Value)
    (state : EngineState Row Key Location Contents) :
    (catalogCall platform call what >>= next) state = next () state ∨
      ∃ message,
        (catalogCall platform call what >>= next) state =
          (.error (.fault message), state) := by
  cases faulty : platform.catalogFault state call with
  | none =>
      left
      apply Effect.bind_ok
      rw [catalogCall, Effect.look_apply, faulty]
  | some message =>
      right
      refine ⟨what ++ ": " ++ message, ?_⟩
      apply Effect.bind_error
      rw [catalogCall, Effect.look_apply, faulty]

omit [DecidableEq Key] [DecidableEq Location] in
/-- The catalog answers with its row or with a fault. -/
theorem getMaterializedView_bind (name : String)
    (next : Option MaterializedView → Handling Row Key Location Contents Value)
    (state : EngineState Row Key Location Contents) :
    (getMaterializedView platform name >>= next) state =
        next (state.views name) state ∨
      ∃ message,
        (getMaterializedView platform name >>= next) state =
          (.error (.fault message), state) := by
  rw [getMaterializedView, Effect.bind_assoc]
  exact catalogCall_bind platform _ _ _ state

omit [DecidableEq Key] [DecidableEq Location] in
theorem upsertMaterializedView_bind (what name sql parquetPath : String)
    (next : Unit → Handling Row Key Location Contents Value)
    (state : EngineState Row Key Location Contents) :
    (upsertMaterializedView platform what name sql parquetPath >>= next) state =
        next () (state.recorded name (some ⟨sql, parquetPath⟩)) ∨
      ∃ message,
        (upsertMaterializedView platform what name sql parquetPath >>= next)
            state =
          (.error (.fault message), state) := by
  rw [upsertMaterializedView, Effect.bind_assoc]
  exact catalogCall_bind platform _ _ _ state

/-- What recording a materialized query can come to. -/
inductive RecordOutcome (name selectSql : String)
    (state : EngineState Row Key Location Contents) :
    Except Failure (Reply Row) × EngineState Row Key Location Contents →
      Prop where
  | stopped {failure : Failure}
      {after : EngineState Row Key Location Contents} :
      MaterializeOutcome platform name selectSql state (.error failure, after) →
        RecordOutcome name selectSql state (.error failure, after)
  | unrecorded {batches : List (RecordBatch Row)} {message : String}
      {after : EngineState Row Key Location Contents} :
      Replaces platform name (viewFile name) state batches after none →
        RecordOutcome name selectSql state (.error (.fault message), after)
  | recorded {batches : List (RecordBatch Row)} {reply : Reply Row}
      {after : EngineState Row Key Location Contents} :
      Replaces platform name (viewFile name) state batches after none →
        RecordOutcome name selectSql state
          (.ok reply,
            after.recorded name
              (some ⟨selectSql, platform.warehouseUri (viewFile name)⟩))

/-- Materializing a query and recording it as a row. -/
theorem record_outcome (what name selectSql : String)
    (reply : Nat → Reply Row)
    (state : EngineState Row Key Location Contents) :
    RecordOutcome platform name selectSql state
      ((do
        let (rows, outPath) ← materializeQueryToParquet platform name selectSql
        upsertMaterializedView platform what name selectSql outPath
        pure (reply rows)) state) := by
  have materialize :=
    materializeQueryToParquet_outcome platform name selectSql state
  cases run : materializeQueryToParquet platform name selectSql state with
  | mk result after =>
      rw [run] at materialize
      cases result with
      | error failure =>
          rw [Effect.bind_error run]
          exact .stopped materialize
      | ok value =>
          rw [Effect.bind_ok run]
          cases materialize with
          | @materialized batches _ replaces =>
              dsimp only
              rcases upsertMaterializedView_bind platform what name selectSql
                  (platform.warehouseUri (viewFile name))
                  (fun _ => pure (reply (totalRows batches))) after with
                recorded | ⟨message, failed⟩
              · rw [recorded]
                exact .recorded replaces
              · rw [failed]
                exact .unrecorded replaces

/-- What `CREATE MATERIALIZED VIEW` can come to. -/
inductive CreateViewOutcome (name selectSql : String)
    (state : EngineState Row Key Location Contents) :
    Except Failure (Reply Row) × EngineState Row Key Location Contents →
      Prop where
  | fault {message : String} :
      CreateViewOutcome name selectSql state (.error (.fault message), state)
  | duplicate {message : String} :
      CreateViewOutcome name selectSql state
        (.error (.duplicate message), state)
  | ran {result : Except Failure (Reply Row) ×
        EngineState Row Key Location Contents} :
      state.views name = none →
        RecordOutcome platform name selectSql state result →
          CreateViewOutcome name selectSql state result

theorem handleCreateMaterializedView_outcome (name selectSql : String)
    (state : EngineState Row Key Location Contents) :
    CreateViewOutcome platform name selectSql state
      (handleCreateMaterializedView platform name selectSql state) := by
  rw [handleCreateMaterializedView]
  rcases getMaterializedView_bind platform name _ state with
    found | ⟨message, failed⟩
  · rw [found]
    cases row : state.views name with
    | some view => exact .duplicate
    | none =>
        exact
          .ran row
            (record_outcome platform
              "Failed to record materialized view in catalog" name selectSql
              (.viewCreated name) state)
  · rw [failed]
    exact .fault

/-- What `REFRESH MATERIALIZED VIEW` can come to. -/
inductive RefreshOutcome (name : String)
    (state : EngineState Row Key Location Contents) :
    Except Failure (Reply Row) × EngineState Row Key Location Contents →
      Prop where
  | fault {message : String} :
      RefreshOutcome name state (.error (.fault message), state)
  | missing : RefreshOutcome name state (.error (viewNotFound name), state)
  | ran {view : MaterializedView}
      {result : Except Failure (Reply Row) ×
        EngineState Row Key Location Contents} :
      state.views name = some view →
        RecordOutcome platform name view.sql state result →
          RefreshOutcome name state result

theorem handleRefreshMaterializedView_outcome (name : String)
    (state : EngineState Row Key Location Contents) :
    RefreshOutcome platform name state
      (handleRefreshMaterializedView platform name state) := by
  rw [handleRefreshMaterializedView]
  rcases getMaterializedView_bind platform name _ state with
    found | ⟨message, failed⟩
  · rw [found]
    cases row : state.views name with
    | none => exact .missing
    | some view =>
        exact
          .ran row
            (record_outcome platform
              "Failed to update materialized view in catalog" name view.sql
              (.viewRefreshed name) state)
  · rw [failed]
    exact .fault

/-- The file of a view is removed, or left where it cannot be. -/
inductive DropsFile (view : Option MaterializedView)
    (state : EngineState Row Key Location Contents) :
    EngineState Row Key Location Contents → Prop where
  | kept : DropsFile view state state
  | removed {row : MaterializedView} : view = some row →
      DropsFile view state
        (state.stored (platform.fileAt row.parquetPath) none)

omit [DecidableEq Key] in
theorem removeViewFile_outcome (view : MaterializedView)
    (state : EngineState Row Key Location Contents) :
    ∃ after, DropsFile platform (some view) state after ∧
      removeViewFile platform view state = (.ok (), after) := by
  rw [removeViewFile, pathExists_bind]
  cases state.files (platform.fileAt view.parquetPath) with
  | none => exact ⟨state, .kept, rfl⟩
  | some contents =>
      simp only [Option.isSome_some, if_true]
      cases faulty : platform.removeFault state view.parquetPath with
      | some message =>
          have left : removeFile platform view.parquetPath state =
              (.ok (some message), state) := by
            simp only [removeFile, faulty]
          exact ⟨state, .kept, Effect.bind_ok left⟩
      | none =>
          have gone : removeFile platform view.parquetPath state =
              (.ok none,
                state.stored (platform.fileAt view.parquetPath) none) := by
            simp only [removeFile, faulty]
            rfl
          exact ⟨_, .removed rfl, Effect.bind_ok gone⟩

/-- What `DROP MATERIALIZED VIEW` can come to. -/
inductive DropViewOutcome (name : String)
    (state : EngineState Row Key Location Contents) :
    Except Failure (Reply Row) × EngineState Row Key Location Contents →
      Prop where
  | fault {message : String} :
      DropViewOutcome name state (.error (.fault message), state)
  | undeleted {message : String}
      {after : EngineState Row Key Location Contents} :
      DropsFile platform (state.views name)
          (state.deregistered (platform.tableKey name)) after →
        DropViewOutcome name state (.error (.fault message), after)
  | missing : state.views name = none →
      DropViewOutcome name state
        (.error (viewNotFound name),
          (state.deregistered (platform.tableKey name)).recorded name none)
  | dropped {after : EngineState Row Key Location Contents} :
      (state.views name).isSome →
        DropsFile platform (state.views name)
            (state.deregistered (platform.tableKey name)) after →
          DropViewOutcome name state
            (.ok (.viewDropped name), after.recorded name none)

omit [DecidableEq Key] [DecidableEq Location] in
theorem deleteMaterializedView_bind (name : String)
    (next : Bool → Handling Row Key Location Contents Value)
    (state : EngineState Row Key Location Contents) :
    (deleteMaterializedView platform name >>= next) state =
        next (state.views name).isSome (state.recorded name none) ∨
      ∃ message,
        (deleteMaterializedView platform name >>= next) state =
          (.error (.fault message), state) := by
  rw [deleteMaterializedView, Effect.bind_assoc]
  exact catalogCall_bind platform _ _ _ state

variable {view : Option MaterializedView}
  {state after : EngineState Row Key Location Contents}

omit [DecidableEq Key] in
theorem DropsFile.tables (drops : DropsFile platform view state after) :
    after.tables = state.tables := by
  cases drops <;> rfl

omit [DecidableEq Key] in
theorem DropsFile.views (drops : DropsFile platform view state after) :
    after.views = state.views := by
  cases drops <;> rfl

/-- The end of `DROP MATERIALIZED VIEW`, when the file has been dealt with. -/
theorem deletesView_outcome {name : String} (row : state.views name = view)
    (drops : DropsFile platform view
      (state.deregistered (platform.tableKey name)) after) :
    DropViewOutcome platform name state
      ((deleteMaterializedView platform name >>= fun removed =>
        if !removed && view.isNone then Effect.fail (viewNotFound name)
        else pure (Reply.viewDropped name)) after) := by
  have rows : after.views name = view :=
    (congrFun drops.views name).trans row
  rcases deleteMaterializedView_bind platform name
      (fun removed =>
        if !removed && view.isNone then Effect.fail (viewNotFound name)
        else pure (Reply.viewDropped name)) after with
    deleted | ⟨message, failed⟩
  · rw [deleted, rows]
    cases view with
    | none =>
        cases drops with
        | kept => exact .missing row
        | removed found => cases found
    | some view =>
        have there : (state.views name).isSome := by rw [row]; rfl
        exact .dropped there (row ▸ drops)
  · rw [failed]
    exact .undeleted (row ▸ drops)

theorem handleDropMaterializedView_outcome (name : String)
    (state : EngineState Row Key Location Contents) :
    DropViewOutcome platform name state
      (handleDropMaterializedView platform name state) := by
  rw [handleDropMaterializedView]
  rcases getMaterializedView_bind platform name _ state with
    found | ⟨message, failed⟩
  · rw [found, deregisterTable_bind]
    cases row : state.views name with
    | none => exact deletesView_outcome platform row .kept
    | some view =>
        rcases removeViewFile_outcome platform view
            (state.deregistered (platform.tableKey name)) with
          ⟨after, drops, removed⟩
        change DropViewOutcome platform name state
          ((removeViewFile platform view >>= _)
            (state.deregistered (platform.tableKey name)))
        rw [Effect.bind_ok removed]
        exact deletesView_outcome platform row drops
  · rw [failed]
    exact .fault

/-! ## Commands about other things -/

/-- Tables, files and rows of views are as they were. -/
structure SameData (before after : EngineState Row Key Location Contents) :
    Prop where
  tables : after.tables = before.tables
  files : after.files = before.files
  views : after.views = before.views
  touched : after.touched = before.touched

omit [DecidableEq Key] [DecidableEq Location] in
theorem SameData.refl (state : EngineState Row Key Location Contents) :
    SameData state state :=
  ⟨rfl, rfl, rfl, rfl⟩

/-- The commands that write tables, files or rows of views. -/
def Commands.Command.writesData : Command → Bool
  | .copyInto _ _ | .ctas _ _ | .createMaterializedView _ _
  | .refreshMaterializedView _ | .dropMaterializedView _ | .dropTable _ =>
      true
  | _ => false

omit [DecidableEq Key] [DecidableEq Location] in
theorem keeps_warehouses (state : EngineState Row Key Location Contents)
    (change : List Warehouse → List Warehouse) :
    @Effect.Keeps _ Failure _ (SameData state)
      (Effect.modify fun current =>
        { current with warehouses := change current.warehouses }) :=
  Effect.Keeps.modify fun _ same =>
    ⟨same.tables, same.files, same.views, same.touched⟩

/-- The other commands leave the data alone. -/
theorem perform_sameData {command : Command}
    (other : command.writesData = false)
    (state : EngineState Row Key Location Contents) :
    SameData state (perform platform command state).2 := by
  refine Effect.Keeps.after ?_ (SameData.refl state)
  cases command with
  | showWarehouses => exact .bind .look fun _ => .look
  | createWarehouse spec =>
      refine .bind .look fun _ => .bind .look fun taken => ?_
      cases taken with
      | true => exact .fail
      | false =>
          exact
            .bind (keeps_warehouses state (· ++ [⟨spec, "SUSPENDED"⟩]))
              fun _ => .pure
  | alterWarehouse name newState =>
      refine .bind .look fun _ => .bind .look fun found => ?_
      cases found with
      | true =>
          exact .bind (keeps_warehouses state _) fun _ => .pure
      | false => exact .fail
  | useWarehouse name =>
      refine .bind .look fun _ => .bind .look fun found => ?_
      cases found with
      | true => exact .pure
      | false => exact .fail
  | showTables => exact .bind .look fun _ => .pure
  | showDatabases => exact .bind .look fun _ => .pure
  | describe table => exact .bind .look fun _ => .pure
  | copyInto _ _ | ctas _ _ | createMaterializedView _ _
  | refreshMaterializedView _ | dropMaterializedView _ | dropTable _ =>
      cases other

end OpenSnow.Core
