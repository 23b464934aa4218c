import OpenSnow.Core.Confinement

/-!
# What a failed command leaves behind

A command fails because of its text, of an object that is missing or exists
already, or of a query.  The handlers check before they write, except that
loading writes its file before it registers the table, and that dropping a view
deregisters the name before it looks at the row.
-/

namespace OpenSnow.Core

open Arrow
open Core.Commands

/-- The file system, the object store and the catalog can fail at any time. -/
def Failure.isFault : Failure → Bool
  | .fault _ => true
  | _ => false

variable {Row Key Location Contents : Type}
  (platform : Platform Row Key Location Contents)

/-! ## Intact data -/

/-- A registered table reads the file at a location. -/
def ReadsFrom (state : EngineState Row Key Location Contents)
    (location : Location) : Prop :=
  ∃ key format path, state.tables key = some (.file format path) ∧
    platform.locate path = location

/-- The tables, their rows and the rows of the catalog are as they were. -/
structure Intact (before after : EngineState Row Key Location Contents) :
    Prop where
  tables : after.tables = before.tables
  rows : platform.scan after = platform.scan before
  views : after.views = before.views
  /-- The file of no table was written or removed. -/
  spared :
    TouchesOnly (fun location => ¬ ReadsFrom platform before location) before
      after

variable {platform}

section Comparing

variable {before after : EngineState Row Key Location Contents}

theorem Intact.of_same (tables : after.tables = before.tables)
    (files : after.files = before.files) (views : after.views = before.views)
    (touched : after.touched = before.touched) :
    Intact platform before after := by
  refine ⟨tables, ?_, views, touchesOnly_of_same touched⟩
  funext key
  rw [Platform.scan, Platform.scan, tables, files]

theorem Intact.refl (state : EngineState Row Key Location Contents) :
    Intact platform state state :=
  .of_same rfl rfl rfl rfl

/-- Writing a file that no table reads. -/
theorem intact_of_written [DecidableEq Location] {location : Location}
    {contents : Option Contents} (tables : after.tables = before.tables)
    (files : after.files = Function.update before.files location contents)
    (views : after.views = before.views)
    (touched : after.touched = location :: before.touched)
    (unread : ¬ ReadsFrom platform before location) :
    Intact platform before after := by
  refine ⟨tables, ?_, views, (touchesOnly_one touched).mpr unread⟩
  funext key
  rw [Platform.scan, Platform.scan, tables]
  cases registered : before.tables key with
  | none => rfl
  | some source =>
      cases source with
      | memory batches => rfl
      | file format path =>
          have elsewhere : platform.locate path ≠ location :=
            fun same => unread ⟨key, format, path, registered, same⟩
          simp only [Option.map_some, files,
            Function.update_of_ne elsewhere]

end Comparing

/-! ## When a failure is clean -/

/-- A file that was just written can be registered. -/
structure Platform.ReadsBack (platform : Platform Row Key Location Contents) :
    Prop where
  place : ∀ relative,
    platform.locate (platform.warehouseUri relative) =
      platform.writeLocation (platform.warehouseUri relative)
  schema : ∀ batches,
    platform.inferSchema .parquet (some (platform.encodeParquet batches)) =
      .ok ()

variable [DecidableEq Key] [DecidableEq Location]

/--
What has to hold of the state for a failure of the command to leave it intact.
-/
def FailsCleanly (platform : Platform Row Key Location Contents)
    (state : EngineState Row Key Location Contents) : Command → Prop
  | .copyInto name sourcePath =>
      ∀ format, LoadsSource platform name sourcePath format state →
        (∃ batches,
          platform.query
              (platform.sourceRegistered name sourcePath format state)
              ("SELECT * FROM " ++ copySourceName name) =
            .ok batches) ∧
          ¬ ReadsFrom platform state
            (platform.writeLocation
              (platform.warehouseUri (publicFile name)))
  | .dropMaterializedView name =>
      state.views name = none →
        state.tables (platform.tableKey name) = none
  | _ => True

section Failing

variable {name : String} {failure : Failure}
  {before after : EngineState Row Key Location Contents}

theorem Replaces.fault (reads : platform.ReadsBack) {relative : String}
    {batches : List (RecordBatch Row)}
    (replaces : Replaces platform name relative before batches after
      (some failure)) :
    failure.isFault := by
  cases replaces with
  | writeFault message faulty => rfl
  | unreadable schema =>
      rw [reads.place, EngineState.stored_files, Function.update_self,
        reads.schema] at schema
      cases schema

variable {selectSql : String}

section

variable (reads : platform.ReadsBack)

include reads

theorem CtasOutcome.intact
    (outcome : CtasOutcome platform name selectSql before
      (.error failure, after))
    (noFault : failure.isFault = false) : Intact platform before after := by
  cases outcome with
  | failed query => exact .refl before
  | stopped query nonempty replaces =>
      rw [replaces.fault reads] at noFault
      cases noFault

theorem RecordOutcome.intact
    (outcome : RecordOutcome platform name selectSql before
      (.error failure, after))
    (noFault : failure.isFault = false) : Intact platform before after := by
  cases outcome with
  | stopped materialize =>
      cases materialize with
      | refused => exact .refl before
      | stopped replaces =>
          rw [replaces.fault reads] at noFault
          cases noFault
  | unrecorded replaces => cases noFault

theorem CreateViewOutcome.intact
    (outcome : CreateViewOutcome platform name selectSql before
      (.error failure, after))
    (noFault : failure.isFault = false) : Intact platform before after := by
  cases outcome with
  | fault => exact .refl before
  | duplicate => exact .refl before
  | ran free outcome => exact outcome.intact reads noFault

theorem RefreshOutcome.intact
    (outcome : RefreshOutcome platform name before (.error failure, after))
    (noFault : failure.isFault = false) : Intact platform before after := by
  cases outcome with
  | fault => exact .refl before
  | missing => exact .refl before
  | ran row outcome => exact outcome.intact reads noFault

end

theorem CopyOutcome.intact_iff {sourcePath : String}
    (outcome : CopyOutcome platform name sourcePath before
      (.error failure, after))
    (noFault : failure.isFault = false) :
    Intact platform before after ↔
      FailsCleanly platform before (.copyInto name sourcePath) := by
  cases outcome with
  | refused none =>
      exact
        iff_of_true (.refl before) fun format loads =>
          absurd loads (none format)
  | @failed format message loads query =>
      refine iff_of_false (fun intact => ?_) fun clean => ?_
      · have left :=
          congrFun intact.tables (platform.tableKey (copySourceName name))
        rw [loads.free, Platform.sourceRegistered,
          EngineState.registered_tables, Function.update_self] at left
        cases left
      · rcases (clean format loads).1 with ⟨batches, yielded⟩
        rw [query] at yielded
        cases yielded
  | writeFault loads => cases noFault
  | @stopped format batches _ loads query =>
      constructor
      · intro intact other also
        rcases loads.unique also with rfl
        have unread := (touchesOnly_one rfl).mp intact.spared
        exact ⟨⟨batches, query⟩, unread⟩
      · intro clean
        exact
          intact_of_written loads.deregistered rfl rfl rfl
            (clean format loads).2

theorem DropViewOutcome.intact_iff
    (outcome : DropViewOutcome platform name before (.error failure, after))
    (noFault : failure.isFault = false) :
    Intact platform before after ↔
      FailsCleanly platform before (.dropMaterializedView name) := by
  cases outcome with
  | fault => cases noFault
  | undeleted drops => cases noFault
  | missing none =>
      constructor
      · intro intact _
        have kept := congrFun intact.tables (platform.tableKey name)
        rw [EngineState.recorded_tables, EngineState.deregistered_tables,
          Function.update_self] at kept
        exact kept.symm
      · intro clean
        refine .of_same ?_ rfl ?_ rfl
        · change Function.update before.tables _ Option.none = before.tables
          rw [← clean none, Function.update_eq_self]
        · change Function.update before.views _ Option.none = before.views
          rw [← none, Function.update_eq_self]

/-- Dropping a table fails on faults only. -/
theorem DropTableOutcome.fault
    (outcome : DropTableOutcome platform name before
      (.error failure, after)) :
    failure.isFault := by
  cases outcome
  rfl

end Failing

/-! ## All commands -/

theorem perform_intact_iff (reads : platform.ReadsBack) {command : Command}
    {before after : EngineState Row Key Location Contents}
    {failure : Failure}
    (fails : perform platform command before = (.error failure, after))
    (noFault : failure.isFault = false) :
    Intact platform before after ↔ FailsCleanly platform before command := by
  cases written : command.writesData with
  | false =>
      have same := perform_sameData platform written before
      rw [fails] at same
      have intact : Intact platform before after :=
        .of_same same.tables same.files same.views same.touched
      cases command with
      | copyInto | dropMaterializedView => cases written
      | _ => exact iff_of_true intact trivial
  | true =>
      cases command with
      | copyInto name sourcePath =>
          have outcome := handleCopyInto_outcome platform name sourcePath before
          rw [perform] at fails
          rw [fails] at outcome
          exact outcome.intact_iff noFault
      | ctas name selectSql =>
          have outcome := handleCtas_outcome platform name selectSql before
          rw [perform] at fails
          rw [fails] at outcome
          exact iff_of_true (outcome.intact reads noFault) trivial
      | createMaterializedView name selectSql =>
          have outcome :=
            handleCreateMaterializedView_outcome platform name selectSql before
          rw [perform] at fails
          rw [fails] at outcome
          exact iff_of_true (outcome.intact reads noFault) trivial
      | refreshMaterializedView name =>
          have outcome :=
            handleRefreshMaterializedView_outcome platform name before
          rw [perform] at fails
          rw [fails] at outcome
          exact iff_of_true (outcome.intact reads noFault) trivial
      | dropMaterializedView name =>
          have outcome :=
            handleDropMaterializedView_outcome platform name before
          rw [perform] at fails
          rw [fails] at outcome
          exact outcome.intact_iff noFault
      | dropTable table =>
          have outcome := handleDropTable_outcome platform table before
          rw [perform] at fails
          rw [fails] at outcome
          rw [outcome.fault] at noFault
          cases noFault
      | _ => cases written

theorem small_readsBack : smallPlatform.ReadsBack :=
  ⟨fun _ => rfl, fun _ => rfl⟩

/-- A session with one table. -/
def withTable :
    EngineState Nat String (List String) (List (RecordBatch Nat)) where
  tables := Function.update (fun _ => none) "t" (some (.memory []))
  files _ := none
  views _ := none
  warehouses := []
  touched := []

theorem dropView_fails :
    Carries smallPlatform "DROP MATERIALIZED VIEW t" withTable
      (.error (viewNotFound "t"),
        (withTable.deregistered "t").recorded "t" none) := by
  have dispatched :
      dispatch "DROP MATERIALIZED VIEW t" =
        some (some (.ok (.dropMaterializedView "t"))) := by
    decide
  have carries : Carries smallPlatform "DROP MATERIALIZED VIEW t" withTable
      (perform smallPlatform (.dropMaterializedView "t") withTable) :=
    carries_of_dispatch dispatched withTable
  exact carries

end OpenSnow.Core
