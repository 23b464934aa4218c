import OpenSnow.Core.Sessions

/-!
# The files that commands touch

Creating and loading write under a name that has been checked, and refreshing
and dropping a view go by the row that creating it has left.  Dropping a table
builds its path from the text of the statement.
-/

namespace OpenSnow.Core

open Arrow
open Core.Commands

/-! ## The files of tables and views -/

/-- A name of letters, digits and underscores. -/
structure IsWord (name : String) : Prop where
  nonempty : name ≠ ""
  named : ∀ ch ∈ name.toList, isSqlIdentifierChar ch

theorem isWord_of_safe {name : String}
    (safe : isSafeUnqualifiedIdentifier name.toList) : IsWord name := by
  simp only [isSafeUnqualifiedIdentifier, Bool.and_eq_true,
    Bool.not_eq_true', List.all_eq_true] at safe
  constructor
  · rintro rfl
    exact Bool.noConfusion safe.1.1.1
  · exact safe.1.2

/-- A file of a table or a view, from the warehouse on. -/
inductive IsTableFile : String → Prop where
  | published {name : String} : IsWord name → IsTableFile (publicFile name)
  | materialized {name : String} : IsWord name → IsTableFile (viewFile name)

variable {Row Key Location Contents : Type}

/-- The file of a table or a view in the warehouse, however it is reached. -/
def Platform.Confined (platform : Platform Row Key Location Contents)
    (location : Location) : Prop :=
  ∃ relative, IsTableFile relative ∧
    (location = platform.writeLocation (platform.warehouseUri relative) ∨
      location = platform.fileAt (platform.warehouseUri relative) ∨
      location =
        platform.fileAt (platform.warehousePath ++ "/" ++ relative))

/-- What was touched in between satisfies a condition. -/
def TouchesOnly (allowed : Location → Prop)
    (before after : EngineState Row Key Location Contents) : Prop :=
  ∃ added, after.touched = added ++ before.touched ∧
    ∀ location ∈ added, allowed location

section Touching

variable {allowed : Location → Prop}
  {before after : EngineState Row Key Location Contents}

theorem touchesOnly_of_same (same : after.touched = before.touched) :
    TouchesOnly allowed before after :=
  ⟨[], same, by simp⟩

theorem touchesOnly_one {location : Location}
    (one : after.touched = location :: before.touched) :
    TouchesOnly allowed before after ↔ allowed location := by
  constructor
  · rintro ⟨added, more, all⟩
    have single : added = [location] :=
      List.append_cancel_right (more.symm.trans one)
    exact all location (single ▸ List.mem_singleton_self location)
  · intro holds
    refine ⟨[location], one, fun other member => ?_⟩
    rw [List.mem_singleton.mp member]
    exact holds

end Touching

variable (platform : Platform Row Key Location Contents)

/-- `DROP TABLE` finds a file at its path and can remove it. -/
def Platform.Removes [DecidableEq Key] (table : String)
    (state : EngineState Row Key Location Contents) : Prop :=
  (state.files (platform.fileAt (platform.droppedPath table))).isSome ∧
    platform.removeFault (state.deregistered (platform.tableKey table))
        (platform.droppedPath table) =
      none

/-! ## Rows of views -/

/-- The row of a view names the file that was written for it. -/
structure IsViewRow (name : String) (row : MaterializedView) : Prop where
  word : IsWord name
  path : row.parquetPath = platform.warehouseUri (viewFile name)

/-- The invariant of the catalog. -/
def ViewsRecorded (state : EngineState Row Key Location Contents) : Prop :=
  ∀ name row, state.views name = some row → IsViewRow platform name row

theorem ViewsRecorded.of_views
    {before after : EngineState Row Key Location Contents}
    (recorded : ViewsRecorded platform before)
    (same : after.views = before.views) : ViewsRecorded platform after := by
  intro name row found
  exact recorded name row (same ▸ found)

theorem ViewsRecorded.recorded
    {before after : EngineState Row Key Location Contents} {name : String}
    {row : Option MaterializedView}
    (recorded : ViewsRecorded platform before)
    (same : after.views = before.views)
    (isRow : ∀ view, row = some view → IsViewRow platform name view) :
    ViewsRecorded platform (after.recorded name row) := by
  intro other view found
  rw [EngineState.recorded_views, Function.update_apply] at found
  split at found
  · rename_i equal
    exact equal ▸ isRow view found
  · exact recorded other view (same ▸ found)

/-! ## What each command touches -/

/-- The files of tables and views are touched, and the rows stay in order. -/
structure Confines (before after : EngineState Row Key Location Contents) :
    Prop where
  recorded : ViewsRecorded platform after
  touches : TouchesOnly platform.Confined before after

theorem confined_written {relative : String} (file : IsTableFile relative) :
    platform.Confined
      (platform.writeLocation (platform.warehouseUri relative)) :=
  ⟨relative, file, .inl rfl⟩

variable {platform}

section Commands

variable {name selectSql : String}
  {before : EngineState Row Key Location Contents}
  {result : Except Failure (Reply Row) ×
    EngineState Row Key Location Contents}

variable {after : EngineState Row Key Location Contents}

theorem Confines.of_same (recorded : ViewsRecorded platform before)
    (views : after.views = before.views)
    (touched : after.touched = before.touched) :
    Confines platform before after :=
  ⟨recorded.of_views platform views, touchesOnly_of_same touched⟩

theorem Confines.of_written
    {relative : String} (recorded : ViewsRecorded platform before)
    (file : IsTableFile relative) (views : after.views = before.views)
    (touched : after.touched =
      platform.writeLocation (platform.warehouseUri relative) ::
        before.touched) :
    Confines platform before after :=
  ⟨recorded.of_views platform views,
    (touchesOnly_one touched).mpr (confined_written platform file)⟩

variable [DecidableEq Key] [DecidableEq Location]

section

variable (recorded : ViewsRecorded platform before)

include recorded

section

variable (word : IsWord name)

include word

theorem CtasOutcome.confines
    (outcome : CtasOutcome platform name selectSql before result) :
    Confines platform before result.2 := by
  cases outcome with
  | failed query => exact .of_same recorded rfl rfl
  | empty query => exact .of_same recorded rfl rfl
  | stopped query nonempty replaces =>
      exact
        .of_written recorded (.published word) replaces.views
          replaces.touched
  | created query nonempty replaces =>
      exact
        .of_written recorded (.published word) replaces.views
          replaces.touched

theorem CopyOutcome.confines {sourcePath : String}
    (outcome : CopyOutcome platform name sourcePath before result) :
    Confines platform before result.2 := by
  cases outcome with
  | refused none => exact .of_same recorded rfl rfl
  | failed loads query => exact .of_same recorded rfl rfl
  | empty loads => exact .of_same recorded rfl rfl
  | writeFault loads =>
      exact .of_written recorded (.published word) rfl rfl
  | stopped loads query =>
      exact .of_written recorded (.published word) rfl rfl
  | loaded loads free =>
      exact .of_written recorded (.published word) rfl rfl

theorem RecordOutcome.confines
    (outcome : RecordOutcome platform name selectSql before result) :
    Confines platform before result.2 := by
  cases outcome with
  | stopped materialize =>
      cases materialize with
      | refused => exact .of_same recorded rfl rfl
      | stopped replaces =>
          exact
            .of_written recorded (.materialized word) replaces.views
              replaces.touched
  | unrecorded replaces =>
      exact
        .of_written recorded (.materialized word) replaces.views
          replaces.touched
  | recorded replaces =>
      constructor
      · refine recorded.recorded platform replaces.views fun view isRow => ?_
        cases isRow
        exact ⟨word, rfl⟩
      · exact
          (touchesOnly_one replaces.touched).mpr
            (confined_written platform (.materialized word))

theorem CreateViewOutcome.confines
    (outcome : CreateViewOutcome platform name selectSql before result) :
    Confines platform before result.2 := by
  cases outcome with
  | fault => exact .of_same recorded rfl rfl
  | duplicate => exact .of_same recorded rfl rfl
  | ran free outcome => exact outcome.confines recorded word

end

/-- The name of a view that is refreshed has been checked before. -/
theorem RefreshOutcome.confines
    (outcome : RefreshOutcome platform name before result) :
    Confines platform before result.2 := by
  cases outcome with
  | fault => exact .of_same recorded rfl rfl
  | missing => exact .of_same recorded rfl rfl
  | ran row outcome =>
      exact outcome.confines recorded (recorded _ _ row).word

theorem DropsFile.touches (drops : DropsFile platform (before.views name)
      (before.deregistered (platform.tableKey name)) after) :
    TouchesOnly platform.Confined before after := by
  rcases drops with _ | row
  · exact touchesOnly_of_same rfl
  · have isRow := recorded _ _ row
    refine (touchesOnly_one rfl).mpr ?_
    exact
      ⟨viewFile name, .materialized isRow.word,
        .inr (.inl (congrArg platform.fileAt isRow.path))⟩

theorem DropViewOutcome.confines
    (outcome : DropViewOutcome platform name before result) :
    Confines platform before result.2 := by
  cases outcome with
  | fault => exact .of_same recorded rfl rfl
  | undeleted drops =>
      exact
        ⟨recorded.of_views platform drops.views, drops.touches recorded⟩
  | missing none =>
      constructor
      · refine recorded.recorded platform rfl fun view isRow => ?_
        cases isRow
      · exact touchesOnly_of_same rfl
  | dropped row drops =>
      constructor
      · refine recorded.recorded platform drops.views fun view isRow => ?_
        cases isRow
      · have touches := drops.touches recorded
        exact touches

end

/-- All commands but one stay within the files of tables and views. -/
theorem perform_confines {command : Command}
    (other : ∀ table, command ≠ .dropTable table)
    (checked : command.TargetChecked)
    (recorded : ViewsRecorded platform before) :
    Confines platform before (perform platform command before).2 := by
  cases written : command.writesData with
  | false =>
      have same := perform_sameData platform written before
      exact .of_same recorded same.views same.touched
  | true =>
      cases command with
      | copyInto name sourcePath =>
          exact
            (handleCopyInto_outcome platform name sourcePath before).confines
              recorded (isWord_of_safe checked)
      | ctas name selectSql =>
          exact
            (handleCtas_outcome platform name selectSql before).confines
              recorded (isWord_of_safe checked)
      | createMaterializedView name selectSql =>
          exact
            (handleCreateMaterializedView_outcome platform name selectSql
              before).confines recorded (isWord_of_safe checked)
      | refreshMaterializedView name =>
          exact
            (handleRefreshMaterializedView_outcome platform name
              before).confines recorded
      | dropMaterializedView name =>
          exact
            (handleDropMaterializedView_outcome platform name before).confines
              recorded
      | dropTable table => exact absurd rfl (other table)
      | _ => cases written

/-- Dropping a table touches the file at its path and no other. -/
theorem dropTable_touches_iff (table : String)
    (before : EngineState Row Key Location Contents) :
    TouchesOnly platform.Confined before
        (perform platform (.dropTable table) before).2 ↔
      (platform.Removes table before →
        platform.Confined (platform.fileAt (platform.droppedPath table))) := by
  have outcome := handleDropTable_outcome platform table before
  change TouchesOnly platform.Confined before
    (handleDropTable platform table before).2 ↔ _
  cases dropped : handleDropTable platform table before with
  | mk result after =>
      rw [dropped] at outcome
      cases outcome with
      | absent none =>
          refine iff_of_true (touchesOnly_of_same rfl) fun removes => ?_
          rw [Platform.Removes, none] at removes
          exact absurd removes.1 Bool.false_ne_true
      | removeFault present faulty =>
          refine iff_of_true (touchesOnly_of_same rfl) fun removes => ?_
          have works := removes.2
          rw [faulty] at works
          cases works
      | removed present works =>
          rw [touchesOnly_one rfl]
          exact ⟨fun confined _ => confined, fun safe => safe ⟨present, works⟩⟩

end Commands

/-! ## Runs -/

variable [DecidableEq Key] [DecidableEq Location]

/--
The states that statements lead to: commands, whether they succeed or not, and
whatever leaves the rows of views alone.
-/
inductive Reachable (platform : Platform Row Key Location Contents) :
    EngineState Row Key Location Contents → Prop where
  | start {state : EngineState Row Key Location Contents} :
      (∀ name, state.views name = none) → Reachable platform state
  | carried {sql : String}
      {before : EngineState Row Key Location Contents}
      {result : Except Failure (Reply Row) ×
        EngineState Row Key Location Contents} :
      Reachable platform before → Carries platform sql before result →
        Reachable platform result.2
  | elsewhere {before after : EngineState Row Key Location Contents} :
      Reachable platform before → after.views = before.views →
        Reachable platform after

theorem handleDropTable_views (table : String)
    (before : EngineState Row Key Location Contents) :
    (perform platform (.dropTable table) before).2.views = before.views := by
  have outcome := handleDropTable_outcome platform table before
  change (handleDropTable platform table before).2.views = before.views
  cases dropped : handleDropTable platform table before with
  | mk result after =>
      rw [dropped] at outcome
      cases outcome <;> rfl

/-- A command keeps the invariant of the catalog. -/
theorem Carries.recorded {sql : String}
    {before : EngineState Row Key Location Contents}
    {result : Except Failure (Reply Row) ×
      EngineState Row Key Location Contents}
    (carries : Carries platform sql before result)
    (recorded : ViewsRecorded platform before) :
    ViewsRecorded platform result.2 := by
  rcases carries.cases with
    ⟨message, refused, rfl⟩ | ⟨command, dispatched, rfl⟩
  · exact recorded
  · by_cases drops : ∃ table, command = .dropTable table
    · rcases drops with ⟨table, rfl⟩
      exact recorded.of_views platform (handleDropTable_views table before)
    · have other : ∀ table, command ≠ .dropTable table :=
        fun table same => drops ⟨table, same⟩
      exact
        (perform_confines other (dispatch_checked dispatched)
          recorded).recorded

theorem Reachable.recorded {state : EngineState Row Key Location Contents}
    (reachable : Reachable platform state) : ViewsRecorded platform state := by
  induction reachable with
  | start none =>
      intro name row found
      rw [none] at found
      cases found
  | carried before carries recorded => exact carries.recorded recorded
  | elsewhere before same recorded => exact recorded.of_views platform same

/--
From every state that is reached, a statement touches only files of tables and
views, unless it drops a table whose path leads to another file.
-/
theorem handleCommand_confined_iff
    {state : EngineState Row Key Location Contents}
    (reachable : Reachable platform state) (sql : String) :
    (∀ result, Carries platform sql state result →
        TouchesOnly platform.Confined state result.2) ↔
      ∀ table, dispatch sql = some (some (.ok (.dropTable table))) →
        platform.Removes table state →
          platform.Confined
            (platform.fileAt (platform.droppedPath table)) := by
  constructor
  · intro touches table dispatched
    exact
      (dropTable_touches_iff table state).mp
        (touches _ (carries_of_dispatch dispatched state))
  · intro safe result carries
    rcases carries.cases with
    ⟨message, refused, rfl⟩ | ⟨command, dispatched, rfl⟩
    · exact touchesOnly_of_same rfl
    · by_cases drops : ∃ table, command = .dropTable table
      · rcases drops with ⟨table, rfl⟩
        exact (dropTable_touches_iff table state).mpr (safe table dispatched)
      · have other : ∀ table, command ≠ .dropTable table :=
          fun table same => drops ⟨table, same⟩
        exact
          (perform_confines other (dispatch_checked dispatched)
            reachable.recorded).touches

/-! ## A path out of the warehouse -/

theorem splitOnP_root (rest : List Char) :
    ('/' :: rest).splitOnP (· == '/') = [] :: rest.splitOnP (· == '/') := by
  rw [List.splitOnP_cons_eq_if_modifyHead]
  rfl

theorem splitOnP_directory {directory rest : List Char}
    (plain : directory.all (· != '/')) :
    (directory ++ '/' :: rest).splitOnP (· == '/') =
      directory :: rest.splitOnP (· == '/') :=
  List.splitOnP_append_cons_of_forall_mem
    (fun ch member => (Bool.not_eq_true' _).mp
      (List.all_eq_true.mp plain ch member))
    '/' rfl rest

theorem fileComponent_plain {name : String} (word : IsWord name) :
    ∀ ch ∈ name.toList ++ ".parquet".toList, (ch == '/') = false := by
  intro ch member
  rcases List.mem_append.mp member with named | suffix
  · have isName := word.named ch named
    by_contra slash
    rw [Bool.not_eq_false, beq_iff_eq] at slash
    rw [slash] at isName
    revert isName
    decide
  · have plain : ".parquet".toList.all (· != '/') := by decide
    exact (Bool.not_eq_true' _).mp (List.all_eq_true.mp plain ch suffix)

variable (name : String)

/-- A name in front of the extension is no `.` and no `..`. -/
theorem fileComponent_kept :
    ¬ (name.toList ++ ".parquet".toList = [] ∨
        name.toList ++ ".parquet".toList = ['.']) ∧
      name.toList ++ ".parquet".toList ≠ ['.', '.'] := by
  have long : 2 < (name.toList ++ ".parquet".toList).length := by
    rw [List.length_append]
    exact Nat.lt_of_lt_of_le (by decide) (Nat.le_add_left _ _)
  refine ⟨?_, fun same => ?_⟩
  · rintro (same | same) <;> (rw [same] at long; revert long; decide)
  · rw [same] at long
    revert long
    decide

theorem pathComponents_under {directory : List Char} {name path : String}
    (word : IsWord name) (plain : directory.all (· != '/'))
    (isName : ¬ (directory = [] ∨ directory = ['.']) ∧
      directory ≠ ['.', '.'])
    (spelled : path.toList =
      '/' :: ("warehouse".toList ++ '/' :: ("opensnow".toList ++
        '/' :: (directory ++ '/' :: (name.toList ++ ".parquet".toList))))) :
    (pathComponents path).head? = some "warehouse" := by
  have kept := fileComponent_kept name
  have parts : path.toList.splitOnP (· == '/') =
      [[], "warehouse".toList, "opensnow".toList, directory,
        name.toList ++ ".parquet".toList] := by
    rw [spelled, splitOnP_root, splitOnP_directory (by decide),
      splitOnP_directory (by decide), splitOnP_directory plain,
      List.splitOnP_eq_singleton (fileComponent_plain word)]
  rw [pathComponents, parts]
  simp only [List.foldl_cons, List.foldl_nil, if_neg isName.1,
    if_neg isName.2, if_neg kept.1, if_neg kept.2]
  rfl

theorem toList_path (directory name extension : String) :
    (directory ++ name ++ extension).toList =
      directory.toList ++ (name.toList ++ extension.toList) := by
  rw [String.toList_append, String.toList_append, List.append_assoc]

theorem toList_under {path : String} {directory : List Char}
    (spelled : path.toList = "opensnow".toList ++ '/' :: (directory ++ ['/']))
    (name : String) :
    (path ++ name ++ ".parquet").toList =
      "opensnow".toList ++ '/' ::
        (directory ++ '/' :: (name.toList ++ ".parquet".toList)) := by
  rw [toList_path, spelled, List.append_assoc, List.cons_append,
    List.append_assoc]
  rfl

theorem publicFile_toList :
    (publicFile name).toList =
      "opensnow".toList ++ '/' :: ("public".toList ++ '/' ::
        (name.toList ++ ".parquet".toList)) :=
  toList_under (by decide) name

theorem viewFile_toList :
    (viewFile name).toList =
      "opensnow".toList ++ '/' :: ("materialized_views".toList ++ '/' ::
        (name.toList ++ ".parquet".toList)) :=
  toList_under (by decide) name

theorem warehouse_toList (relative : String) :
    ("/warehouse/" ++ relative).toList =
      '/' :: ("warehouse".toList ++ '/' :: relative.toList) := by
  rw [String.toList_append]
  rfl

theorem pathComponents_tableFile {relative : String}
    (file : IsTableFile relative) :
    (pathComponents ("/warehouse/" ++ relative)).head? =
      some "warehouse" := by
  cases file with
  | @published name word =>
      refine @pathComponents_under "public".toList name _ word (by decide)
        (by decide) ?_
      rw [warehouse_toList, publicFile_toList]
  | @materialized name word =>
      refine @pathComponents_under "materialized_views".toList name _ word
        (by decide) (by decide) ?_
      rw [warehouse_toList, viewFile_toList]

theorem publicFile_relative :
    (publicFile name).toList.dropWhile (· == '/') =
      (publicFile name).toList := by
  rw [publicFile_toList]
  rfl

theorem viewFile_relative :
    (viewFile name).toList.dropWhile (· == '/') = (viewFile name).toList := by
  rw [viewFile_toList]
  rfl

theorem IsTableFile.relative {relative : String}
    (file : IsTableFile relative) :
    relative.toList.dropWhile (· == '/') = relative.toList := by
  cases file with
  | published word => exact publicFile_relative _
  | materialized word => exact viewFile_relative _

theorem warehouseUri_small {relative : String} (file : IsTableFile relative) :
    smallPlatform.warehouseUri relative = "/warehouse/" ++ relative := by
  apply String.toList_injective
  rw [Platform.warehouseUri, String.toList_ofList, file.relative,
    warehouse_toList]
  rfl

/-- On the small platform these files are below `warehouse`. -/
theorem small_confined {location : List String}
    (confined : smallPlatform.Confined location) :
    location.head? = some "warehouse" := by
  rcases confined with ⟨relative, file, rfl | rfl | rfl⟩
  · change (pathComponents (smallPlatform.warehouseUri relative)).head? = _
    rw [warehouseUri_small file, pathComponents_tableFile file]
  · change (pathComponents (smallPlatform.warehouseUri relative)).head? = _
    rw [warehouseUri_small file, pathComponents_tableFile file]
  · exact pathComponents_tableFile file

/-- A warehouse beside which another file stands. -/
def besideWarehouse :
    EngineState Nat String (List String) (List (RecordBatch Nat)) where
  tables _ := none
  files location := if location = ["victim.parquet"] then some [] else none
  views _ := none
  warehouses := []
  touched := []

/-- Dropping a table removes a file outside the warehouse. -/
theorem dropTable_escapes :
    ¬ ∀ state, Reachable smallPlatform state → ∀ sql result,
      Carries smallPlatform sql state result →
        TouchesOnly smallPlatform.Confined state result.2 := by
  intro confined
  have dispatched :
      dispatch "DROP TABLE ../../../victim" =
        some (some (.ok (.dropTable "../../../victim"))) := by
    decide
  have touches :=
    confined besideWarehouse (.start fun _ => rfl) _ _
      (carries_of_dispatch dispatched besideWarehouse)
  have removes : smallPlatform.Removes "../../../victim" besideWarehouse := by
    constructor
    · decide
    · rfl
  have escaped :=
    small_confined ((dropTable_touches_iff _ _).mp touches removes)
  revert escaped
  decide

/-- The statement of a table without other characters. -/
theorem handleCommand_confined_iff_small :
    (∀ result, Carries smallPlatform "DROP TABLE t" besideWarehouse result →
        TouchesOnly smallPlatform.Confined besideWarehouse result.2) ↔
      ∀ table,
        dispatch "DROP TABLE t" = some (some (.ok (.dropTable table))) →
          smallPlatform.Removes table besideWarehouse →
            smallPlatform.Confined
              (smallPlatform.fileAt (smallPlatform.droppedPath table)) :=
  handleCommand_confined_iff (.start fun _ => rfl) "DROP TABLE t"

end OpenSnow.Core
