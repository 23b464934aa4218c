import OpenSnow.Core.StorageMirrors

/-!
# The same statements on the disk and in an object store

The handlers go in step on the two engines, but for a drop that finds a file:
it removes the file from the disk and leaves the object in the store.
-/

namespace OpenSnow.Core

open Arrow
open Core.Commands
open Foundation

variable {Row Key Location Contents : Type}

/-! ## The handlers on both -/

section

variable (platform : Platform Row Key Location Contents)
variable (directory url : String)

/-- The same answer, but for the root in the name of a loaded file. -/
inductive SameReply : Reply Row → Reply Row → Prop where
  | same (reply : Reply Row) : SameReply reply reply
  | loaded (rows : Nat) (relative : String) :
      SameReply
        (.loaded rows ((platform.rooted directory).warehouseUri relative))
        (.loaded rows ((platform.rooted url).warehouseUri relative))

/--
A load reads from outside the two warehouses, and a drop finds no file but the
one of its own name, which may be left over in the store.
-/
def DropsWithin (left : String → Prop)
    (states : EngineState Row Key Location Contents ×
      EngineState Row Key Location Contents) : Command → Prop
  | .copyInto _ sourcePath =>
      Outside platform directory url (platform.locate sourcePath)
  | .dropTable table =>
      ((states.1.files
          (platform.fileAt
            ((platform.rooted directory).droppedPath table))).isSome →
        IsWord table ∧ left (publicFile table) ∧
          platform.fileAt ((platform.rooted directory).droppedPath table) =
            platform.diskFile directory (publicFile table)) ∧
        states.2.files
            (platform.fileAt ((platform.rooted url).droppedPath table)) =
          none
  | .dropMaterializedView name =>
      (∀ view, states.1.views name = some view →
        (states.1.files (platform.fileAt view.parquetPath)).isSome →
          left (viewFile name)) ∧
        ∀ view, states.2.views name = some view →
          states.2.files (platform.fileAt view.parquetPath) = none
  | _ => True

end

section

variable {platform : Platform Row Key Location Contents}
variable {directory url : String} {left : String → Prop}
variable [DecidableEq Key] [DecidableEq Location]

variable {name : String}

section

variable (both : Counterparts platform directory url)

include both

section

variable (word : IsWord name)

include word

theorem lockstep_handleCtas (selectSql : String) :
    Lockstep (Mirrors platform directory url left)
      (handleCtas (platform.rooted directory) name selectSql)
      (handleCtas (platform.rooted url) name selectSql)
      (SameReply platform directory url)
      (Mirrors platform directory url left) := by
  refine (lockstep_runQuery both selectSql).bind ?_ fun _ _ => id
  rintro batches _ rfl
  split
  · exact Lockstep.pure (.same _) fun _ _ => id
  · exact lockstep_replace both word (.inl rfl) _ batches
      (SameReply.same (Reply.created (totalRows batches)))

theorem lockstep_handleCopyInto {sourcePath : String}
    (away : Outside platform directory url (platform.locate sourcePath)) :
    Lockstep (Mirrors platform directory url left)
      (handleCopyInto (platform.rooted directory) name sourcePath)
      (handleCopyInto (platform.rooted url) name sourcePath)
      (SameReply platform directory url)
      (Mirrors platform directory url left) := by
  unfold handleCopyInto
  dsimp only
  cases sourceFormat (sourceExtension sourcePath) with
  | none => exact Lockstep.fail _ fun _ _ => id
  | some format =>
      refine (lockstep_registerTable both _ fun disk store mirrors =>
        ⟨mirrors, .outside format away⟩).bind (fun _ _ _ => ?_) fun _ _ => id
      refine (lockstep_runQuery both _).bind ?_ fun _ _ => id
      rintro batches _ rfl
      split
      · refine (lockstep_deregisterTable _ fun _ _ mirrors =>
          mirrors.deregistered _).bind (fun _ _ _ => ?_) fun _ _ => id
        exact Lockstep.pure (.same _) fun _ _ => id
      · refine (lockstep_writeWarehouseParquet both (.published word) _
          batches).bind ?_ fun _ _ => And.left
        rintro path path' ⟨rfl, rfl⟩
        have deregistered :
            Lockstep
              (MirrorsWith platform directory url left (publicFile name))
              (deregisterTable (platform.rooted directory)
                (copySourceName name))
              (deregisterTable (platform.rooted url) (copySourceName name))
              (· = ·)
              (MirrorsWith platform directory url left (publicFile name)) :=
          lockstep_deregisterTable _ fun _ _ holds =>
            ⟨holds.1.deregistered _, holds.2⟩
        refine deregistered.bind (fun _ _ _ => ?_) fun _ _ => And.left
        refine (lockstep_registerTable both name fun disk store holds =>
          ⟨holds.1, .inside word (.inl rfl) rfl holds.2⟩).bind
            (fun _ _ _ => ?_) fun _ _ => id
        exact Lockstep.pure (.loaded _ _) fun _ _ => id

theorem lockstep_materializeQueryToParquet (selectSql : String) :
    Lockstep (Mirrors platform directory url left)
      (materializeQueryToParquet (platform.rooted directory) name selectSql)
      (materializeQueryToParquet (platform.rooted url) name selectSql)
      (fun made made' => made.1 = made'.1 ∧
        made.2 = (platform.rooted directory).warehouseUri (viewFile name) ∧
          made'.2 = (platform.rooted url).warehouseUri (viewFile name))
      (Mirrors platform directory url left) := by
  refine (lockstep_runQuery both selectSql).bind ?_ fun _ _ => id
  rintro batches _ rfl
  split
  · exact Lockstep.fail _ fun _ _ => id
  · exact lockstep_replace both word (.inr rfl) _ batches ⟨rfl, rfl, rfl⟩

theorem lockstep_handleCreateMaterializedView (selectSql : String) :
    Lockstep (Mirrors platform directory url left)
      (handleCreateMaterializedView (platform.rooted directory) name
        selectSql)
      (handleCreateMaterializedView (platform.rooted url) name selectSql)
      (SameReply platform directory url)
      (Mirrors platform directory url left) := by
  refine (lockstep_sameRow both name).bind ?_ fun _ _ => id
  intro view view' same
  cases same with
  | row sql _ => exact Lockstep.fail _ fun _ _ => id
  | absent =>
      refine (lockstep_materializeQueryToParquet both word selectSql).bind ?_
        fun _ _ => id
      rintro ⟨rows, path⟩ ⟨_, path'⟩ ⟨rfl, rfl, rfl⟩
      refine (lockstep_upsertMaterializedView both _ word selectSql).bind
        (fun _ _ _ => ?_) fun _ _ => id
      exact Lockstep.pure (.same _) fun _ _ => id

end

theorem lockstep_handleRefreshMaterializedView (name : String) :
    Lockstep (Mirrors platform directory url left)
      (handleRefreshMaterializedView (platform.rooted directory) name)
      (handleRefreshMaterializedView (platform.rooted url) name)
      (SameReply platform directory url)
      (Mirrors platform directory url left) := by
  refine (lockstep_sameRow both name).bind ?_ fun _ _ => id
  intro view view' same
  cases same with
  | absent => exact Lockstep.fail _ fun _ _ => id
  | row sql word =>
      refine (lockstep_materializeQueryToParquet both word sql).bind ?_
        fun _ _ => id
      rintro ⟨rows, path⟩ ⟨_, path'⟩ ⟨rfl, rfl, rfl⟩
      refine (lockstep_upsertMaterializedView both _ word sql).bind
        (fun _ _ _ => ?_) fun _ _ => id
      exact Lockstep.pure (.same _) fun _ _ => id

/-! ### Drops -/

theorem lockstep_handleDropTable (table : String) :
    Lockstep
      (fun disk store => Mirrors platform directory url left disk store ∧
        DropsWithin platform directory url left (disk, store)
          (.dropTable table))
      (handleDropTable (platform.rooted directory) table)
      (handleDropTable (platform.rooted url) table)
      (SameReply platform directory url)
      (Mirrors platform directory url left) := by
  rintro disk store ⟨mirrors, ownFile, notInStore⟩
  have deregistered := mirrors.deregistered (platform.tableKey table)
  have inStore := handleDropTable_outcome (platform.rooted url) table store
  have onDisk := handleDropTable_outcome (platform.rooted directory) table
    disk
  generalize handleDropTable (platform.rooted url) table store = result'
    at inStore
  generalize handleDropTable (platform.rooted directory) table disk = result
    at onDisk
  have absent : ∀ {location : Option Contents}, location.isSome →
      location = none → False := by
    rintro _ present rfl
    cases present
  cases inStore with
  | removeFault present _ => exact (absent present notInStore).elim
  | removed present _ => exact (absent present notInStore).elim
  | absent _ =>
      cases onDisk with
      | absent _ => exact ⟨.ok (.same _), deregistered⟩
      | removeFault _ fault =>
          have works := both.removals
            (disk.deregistered (platform.tableKey table))
            ((platform.rooted directory).droppedPath table)
          exact (Option.some_ne_none _ (fault.symm.trans works)).elim
      | removed present _ =>
          obtain ⟨word, isLeft, ownPath⟩ := ownFile present
          refine ⟨.ok (.same _), ?_⟩
          change Mirrors platform directory url left
            ((disk.deregistered (platform.tableKey table)).stored
              (platform.fileAt
                ((platform.rooted directory).droppedPath table)) none) _
          rw [ownPath]
          refine deregistered.removed both word (.inl rfl) ?_ isLeft
          rw [EngineState.deregistered_tables, Function.update_self]

end

/-- A view is no table any more, and its file may go. -/
structure ViewFileAbsent (platform : Platform Row Key Location Contents)
    (directory url : String) (left : String → Prop) (name : String)
    (disk store : EngineState Row Key Location Contents) : Prop where
  mirrors : Mirrors platform directory url left disk store
  unregistered : disk.tables (platform.tableKey name) = none
  ownFile :
    (disk.files (platform.diskFile directory (viewFile name))).isSome →
      left (viewFile name)
  notInStore :
    store.files
        (platform.fileAt
          ((platform.rooted url).warehouseUri (viewFile name))) =
      none

omit [DecidableEq Key] in
/-- The file of a view goes on the disk, and the store has none at the path. -/
theorem lockstep_removeViewFile (both : Counterparts platform directory url)
    {name sql : String} (word : IsWord name) :
    Lockstep (ViewFileAbsent platform directory url left name)
      (removeViewFile (platform.rooted directory)
        ⟨sql, (platform.rooted directory).warehouseUri (viewFile name)⟩)
      (removeViewFile (platform.rooted url)
        ⟨sql, (platform.rooted url).warehouseUri (viewFile name)⟩)
      (· = ·) (Mirrors platform directory url left) := by
  rintro disk store ⟨mirrors, unregistered, ownFile, notInStore⟩
  have inStore :
      removeViewFile (platform.rooted url)
          ⟨sql, (platform.rooted url).warehouseUri (viewFile name)⟩ store =
        (.ok (), store) := by
    rw [removeViewFile, pathExists_bind]
    change (if (store.files (platform.fileAt
      ((platform.rooted url).warehouseUri (viewFile name)))).isSome = true
        then _ else _ : Handling Row Key Location Contents Unit) store = _
    rw [notInStore]
    rfl
  rw [inStore]
  cases present : disk.files (platform.diskFile directory (viewFile name)) with
  | none =>
      have onDisk :
          removeViewFile (platform.rooted directory)
              ⟨sql, (platform.rooted directory).warehouseUri (viewFile name)⟩
              disk =
            (.ok (), disk) := by
        rw [removeViewFile, pathExists_bind]
        change (if (disk.files
          (platform.diskFile directory (viewFile name))).isSome = true
            then _ else _ : Handling Row Key Location Contents Unit) disk = _
        rw [present]
        rfl
      rw [onDisk]
      exact ⟨.ok rfl, mirrors⟩
  | some contents =>
      have onDisk :
          removeViewFile (platform.rooted directory)
              ⟨sql, (platform.rooted directory).warehouseUri (viewFile name)⟩
              disk =
            (.ok (),
              disk.stored (platform.diskFile directory (viewFile name))
                none) := by
        have gone :
            removeFile (platform.rooted directory)
                ((platform.rooted directory).warehouseUri (viewFile name))
                disk =
              (.ok none,
                disk.stored (platform.diskFile directory (viewFile name))
                  none) := by
          have works :
              (platform.rooted directory).removeFault disk
                  ((platform.rooted directory).warehouseUri
                    (viewFile name)) = none := both.removals disk _
          rw [removeFile, works]
          rfl
        rw [removeViewFile, pathExists_bind]
        change (if (disk.files
          (platform.diskFile directory (viewFile name))).isSome = true
            then _ else _ : Handling Row Key Location Contents Unit) disk = _
        rw [present]
        exact Effect.bind_ok gone
      rw [onDisk]
      refine ⟨.ok rfl, mirrors.removed both word (.inr rfl) unregistered ?_⟩
      exact ownFile (Option.isSome_iff_exists.mpr ⟨contents, present⟩)

omit [DecidableEq Key] [DecidableEq Location] in
/-- The end of `DROP MATERIALIZED VIEW`. -/
theorem lockstep_deletesView (both : Counterparts platform directory url)
    (name : String) (missing : Bool) :
    Lockstep (Mirrors platform directory url left)
      (deleteMaterializedView (platform.rooted directory) name >>=
        fun removed =>
          if !removed && missing then Effect.fail (viewNotFound name)
          else pure (Reply.viewDropped name))
      (deleteMaterializedView (platform.rooted url) name >>=
        fun removed =>
          if !removed && missing then Effect.fail (viewNotFound name)
          else pure (Reply.viewDropped name))
      (SameReply platform directory url)
      (Mirrors platform directory url left) := by
  refine (lockstep_deleteMaterializedView both name).bind ?_ fun _ _ => id
  rintro removed _ rfl
  split
  · exact Lockstep.fail _ fun _ _ => id
  · exact Lockstep.pure (.same _) fun _ _ => id

theorem lockstep_handleDropMaterializedView
    (both : Counterparts platform directory url) (name : String) :
    Lockstep
      (fun disk store => Mirrors platform directory url left disk store ∧
        DropsWithin platform directory url left (disk, store)
          (.dropMaterializedView name))
      (handleDropMaterializedView (platform.rooted directory) name)
      (handleDropMaterializedView (platform.rooted url) name)
      (SameReply platform directory url)
      (Mirrors platform directory url left) := by
  rintro disk store ⟨mirrors, ownFile, notInStore⟩
  have found :
      Lockstep (fun state state' => state = disk ∧ state' = store)
        (getMaterializedView (platform.rooted directory) name)
        (getMaterializedView (platform.rooted url) name)
        (fun row row' => row = disk.views name ∧ row' = store.views name)
        (fun state state' => state = disk ∧ state' = store) := by
    refine lockstep_getMaterializedView both name ?_
    rintro _ _ ⟨rfl, rfl⟩
    exact ⟨rfl, rfl⟩
  refine found.bind ?_ ?_ disk store ⟨rfl, rfl⟩
  · rintro _ _ ⟨rfl, rfl⟩
    have same := mirrors.views name
    dsimp only at ownFile notInStore
    generalize disk.views name = row at same ownFile
    generalize store.views name = row' at same notInStore
    cases same with
    | absent =>
        have deregistered :
            Lockstep (fun state state' => state = disk ∧ state' = store)
              (deregisterTable (platform.rooted directory) name)
              (deregisterTable (platform.rooted url) name) (· = ·)
              (Mirrors platform directory url left) := by
          refine lockstep_deregisterTable name ?_
          rintro _ _ ⟨rfl, rfl⟩
          exact mirrors.deregistered _
        refine deregistered.bind (fun _ _ _ => ?_) fun _ _ => id
        exact lockstep_deletesView both name true
    | row sql word =>
        have deregistered :
            Lockstep (fun state state' => state = disk ∧ state' = store)
              (deregisterTable (platform.rooted directory) name)
              (deregisterTable (platform.rooted url) name) (· = ·)
              (ViewFileAbsent platform directory url left name) := by
          refine lockstep_deregisterTable name ?_
          rintro _ _ ⟨rfl, rfl⟩
          refine ⟨mirrors.deregistered _, ?_, ownFile _ rfl,
            notInStore _ rfl⟩
          rw [EngineState.deregistered_tables, Function.update_self]
        refine deregistered.bind (fun _ _ _ => ?_) fun _ _ holds =>
          holds.mirrors
        refine (lockstep_removeViewFile both word).bind (fun _ _ _ => ?_)
          fun _ _ => id
        exact lockstep_deletesView both name false
  · rintro _ _ ⟨rfl, rfl⟩
    exact mirrors

end

/-! ### Other commands -/

section

variable {platform : Platform Row Key Location Contents}
variable {directory url : String} {left : String → Prop}

/-- A command that only asks a query. -/
theorem lockstep_query (both : Counterparts platform directory url)
    (sql : String) :
    Lockstep (Mirrors platform directory url left)
      (runQuery (platform.rooted directory) sql >>= fun batches =>
        pure (Reply.batches batches))
      (runQuery (platform.rooted url) sql >>= fun batches =>
        pure (Reply.batches batches))
      (SameReply platform directory url)
      (Mirrors platform directory url left) := by
  refine (lockstep_runQuery both sql).bind ?_ fun _ _ => id
  rintro batches _ rfl
  exact Lockstep.pure (.same _) fun _ _ => id

/-- The rows of warehouses change in the same way. -/
theorem Mirrors.rewarehoused
    {disk store : EngineState Row Key Location Contents}
    (mirrors : Mirrors platform directory url left disk store)
    {warehouses warehouses' : List Warehouse}
    (same : warehouses = warehouses') :
    Mirrors platform directory url left
      { disk with warehouses := warehouses }
      { store with warehouses := warehouses' } where
  tables key :=
    (mirrors.tables key).mono fun _ _ _ _ _ _ present => present
  files := mirrors.files
  others := mirrors.others
  views := mirrors.views
  warehouses := same

theorem lockstep_lookup {Value : Type} (result : List Warehouse → Value) :
    Lockstep (Mirrors platform directory url left)
      (Effect.look fun state => .ok (result state.warehouses) :
        Handling Row Key Location Contents Value)
      (Effect.look fun state => .ok (result state.warehouses) :
        Handling Row Key Location Contents Value)
      (· = ·) (Mirrors platform directory url left) :=
  Lockstep.look
    (fun _ _ mirrors => .ok (congrArg result mirrors.warehouses))
    fun _ _ => id

section

variable (both : Counterparts platform directory url)

include both

theorem lockstep_handleCreateWarehouse (spec : WarehouseSpec) :
    Lockstep (Mirrors platform directory url left)
      (handleCreateWarehouse (platform.rooted directory) spec)
      (handleCreateWarehouse (platform.rooted url) spec)
      (SameReply platform directory url)
      (Mirrors platform directory url left) := by
  refine (lockstep_catalogCall both _ _).bind (fun _ _ _ => ?_) fun _ _ => id
  refine (lockstep_lookup fun warehouses =>
    warehouses.any (·.name == spec.name)).bind ?_ fun _ _ => id
  rintro taken _ rfl
  split
  · exact Lockstep.fail _ fun _ _ => id
  · refine (Lockstep.modify fun disk store mirrors => ?_).bind
      (fun _ _ _ => Lockstep.pure (.same _) fun _ _ => id) fun _ _ => id
    exact mirrors.rewarehoused
      (congrArg (· ++ [⟨spec, "SUSPENDED"⟩]) mirrors.warehouses)

theorem lockstep_handleAlterWarehouse (name newState : String) :
    Lockstep (Mirrors platform directory url left)
      (handleAlterWarehouse (platform.rooted directory) name newState)
      (handleAlterWarehouse (platform.rooted url) name newState)
      (SameReply platform directory url)
      (Mirrors platform directory url left) := by
  refine (lockstep_catalogCall both _ _).bind (fun _ _ _ => ?_) fun _ _ => id
  refine (lockstep_lookup fun warehouses =>
    warehouses.any (·.name == name)).bind ?_ fun _ _ => id
  rintro found _ rfl
  split
  · refine (Lockstep.modify fun disk store mirrors => ?_).bind
      (fun _ _ _ => Lockstep.pure (.same _) fun _ _ => id) fun _ _ => id
    exact mirrors.rewarehoused (congrArg _ mirrors.warehouses)
  · exact Lockstep.fail _ fun _ _ => id

theorem lockstep_handleUseWarehouse (name : String) :
    Lockstep (Mirrors platform directory url left)
      (handleUseWarehouse (platform.rooted directory) name)
      (handleUseWarehouse (platform.rooted url) name)
      (SameReply platform directory url)
      (Mirrors platform directory url left) := by
  refine (lockstep_catalogCall both _ _).bind (fun _ _ _ => ?_) fun _ _ => id
  refine (lockstep_lookup fun warehouses =>
    warehouses.any (·.name == name)).bind ?_ fun _ _ => id
  rintro found _ rfl
  split
  · exact Lockstep.pure (.same _) fun _ _ => id
  · exact Lockstep.fail _ fun _ _ => id

end

end

section

variable {platform : Platform Row Key Location Contents}
variable {directory url : String} {left : String → Prop}
variable [DecidableEq Key] [DecidableEq Location]

theorem lockstep_perform (both : Counterparts platform directory url)
    {command : Command} (checked : command.TargetChecked) :
    Lockstep
      (fun disk store => Mirrors platform directory url left disk store ∧
        DropsWithin platform directory url left (disk, store) command)
      (perform (platform.rooted directory) command)
      (perform (platform.rooted url) command)
      (SameReply platform directory url)
      (Mirrors platform directory url left) := by
  have weaken : ∀ {action action' :
      Handling Row Key Location Contents (Reply Row)},
      Lockstep (Mirrors platform directory url left) action action'
          (SameReply platform directory url)
          (Mirrors platform directory url left) →
        Lockstep
          (fun disk store => Mirrors platform directory url left disk store ∧
            DropsWithin platform directory url left (disk, store) command)
          action action' (SameReply platform directory url)
          (Mirrors platform directory url left) :=
    fun steps => steps.consequence (fun _ _ => And.left) (fun _ _ => id)
      fun _ _ => id
  cases command with
  | showWarehouses =>
      refine weaken ((lockstep_catalogCall both _ _).bind
        (fun _ _ _ => ?_) fun _ _ => id)
      refine Lockstep.look (fun disk store mirrors => ?_) fun _ _ => id
      rw [mirrors.warehouses]
      exact .ok (.same _)
  | createWarehouse spec =>
      exact weaken (lockstep_handleCreateWarehouse both spec)
  | alterWarehouse name state =>
      exact weaken (lockstep_handleAlterWarehouse both name state)
  | useWarehouse name => exact weaken (lockstep_handleUseWarehouse both name)
  | copyInto name sourcePath =>
      intro disk store holds
      exact lockstep_handleCopyInto both (isWord_of_safe checked) holds.2
        disk store holds.1
  | ctas name selectSql =>
      exact weaken
        (lockstep_handleCtas both (isWord_of_safe checked) selectSql)
  | createMaterializedView name selectSql =>
      exact weaken
        (lockstep_handleCreateMaterializedView both (isWord_of_safe checked)
          selectSql)
  | refreshMaterializedView name =>
      exact weaken (lockstep_handleRefreshMaterializedView both name)
  | dropMaterializedView name =>
      exact lockstep_handleDropMaterializedView both name
  | showTables => exact weaken (lockstep_query both _)
  | showDatabases => exact weaken (lockstep_query both _)
  | describe table => exact weaken (lockstep_query both _)
  | dropTable table => exact lockstep_handleDropTable both table

end

/-! ## Statements on both -/

section

variable [DecidableEq Key] [DecidableEq Location]

/-- A statement on a state: its answer, if it is a command, and the state. -/
def execute (platform : Platform Row Key Location Contents)
    (state : EngineState Row Key Location Contents) (sql : String) :
    Option (Except Failure (Reply Row)) ×
      EngineState Row Key Location Contents :=
  match handleCommand platform sql with
  | some (some action) => (some (action state).1, (action state).2)
  | _ => (none, state)

def stateAfter (platform : Platform Row Key Location Contents)
    (state : EngineState Row Key Location Contents)
    (statements : List String) : EngineState Row Key Location Contents :=
  statements.foldl (fun state sql => (execute platform state sql).2) state

def answers (platform : Platform Row Key Location Contents) :
    EngineState Row Key Location Contents → List String →
      List (Option (Except Failure (Reply Row)))
  | _, [] => []
  | state, sql :: rest =>
      (execute platform state sql).1 ::
        answers platform (execute platform state sql).2 rest

variable (platform : Platform Row Key Location Contents)
variable (directory url : String)

def executeBoth
    (states : EngineState Row Key Location Contents ×
      EngineState Row Key Location Contents) (sql : String) :
    EngineState Row Key Location Contents ×
      EngineState Row Key Location Contents :=
  ((execute (platform.rooted directory) states.1 sql).2,
    (execute (platform.rooted url) states.2 sql).2)

/-- One answer, but for the roots. -/
def SameAnswers :
    List (Option (Except Failure (Reply Row))) →
      List (Option (Except Failure (Reply Row))) → Prop :=
  List.Forall₂ (Option.Rel (SameOutcome (SameReply platform directory url)))

/-- The answers are the same, and so are the files under every key. -/
structure SameWarehouse
    (disk store : EngineState Row Key Location Contents)
    (statements : List String) : Prop where
  answers :
    SameAnswers platform directory url
      (answers (platform.rooted directory) disk statements)
      (answers (platform.rooted url) store statements)
  keys : ∀ relative, IsTableFile relative →
    (stateAfter (platform.rooted directory) disk statements).files
        (platform.diskFile directory relative) =
      (stateAfter (platform.rooted url) store statements).files
        (platform.object url relative)

/-- The statement drops within what may be left over. -/
def StaysWithin (left : String → Prop)
    (states : EngineState Row Key Location Contents ×
      EngineState Row Key Location Contents) (sql : String) : Prop :=
  ∀ command, dispatch sql = some (some (.ok command)) →
    DropsWithin platform directory url left states command

/-- No drop finds a file, and no load reads from the two warehouses. -/
def FindsNothing
    (states : EngineState Row Key Location Contents ×
      EngineState Row Key Location Contents) (sql : String) : Prop :=
  StaysWithin platform directory url (fun _ => False) states sql

end

section

variable {platform : Platform Row Key Location Contents}
variable {directory url : String} {left : String → Prop}
variable [DecidableEq Key] [DecidableEq Location]

theorem execute_lockstep (both : Counterparts platform directory url)
    {disk store : EngineState Row Key Location Contents}
    (mirrors : Mirrors platform directory url left disk store)
    {sql : String}
    (within : StaysWithin platform directory url left (disk, store) sql) :
    Option.Rel (SameOutcome (SameReply platform directory url))
        (execute (platform.rooted directory) disk sql).1
        (execute (platform.rooted url) store sql).1 ∧
      Mirrors platform directory url left
        (execute (platform.rooted directory) disk sql).2
        (execute (platform.rooted url) store sql).2 := by
  unfold execute handleCommand
  cases dispatched : dispatch sql with
  | none => exact ⟨.none, mirrors⟩
  | some found =>
      cases found with
      | none => exact ⟨.none, mirrors⟩
      | some parsed =>
          cases parsed with
          | error message => exact ⟨.some (.error _), mirrors⟩
          | ok command =>
              obtain ⟨outcome, after⟩ :=
                lockstep_perform both (dispatch_checked dispatched) disk store
                  ⟨mirrors, within command dispatched⟩
              exact ⟨.some outcome, after⟩

/--
Whatever is dropped by its own name, the answers are the same, and the two
warehouses too, but for the objects that are left over.
-/
theorem answers_of_within (both : Counterparts platform directory url)
    (statements : List String) :
    ∀ {disk store : EngineState Row Key Location Contents},
      Mirrors platform directory url left disk store →
        Along (executeBoth platform directory url)
            (StaysWithin platform directory url left) (disk, store)
            statements →
          SameAnswers platform directory url
              (answers (platform.rooted directory) disk statements)
              (answers (platform.rooted url) store statements) ∧
            Mirrors platform directory url left
              (stateAfter (platform.rooted directory) disk statements)
              (stateAfter (platform.rooted url) store statements) := by
  induction statements with
  | nil => exact fun mirrors _ => ⟨.nil, mirrors⟩
  | cons sql rest ih =>
      rintro disk store mirrors ⟨first, others⟩
      obtain ⟨answer, after⟩ := execute_lockstep both mirrors first
      obtain ⟨restAnswers, final⟩ := ih after others
      exact ⟨.cons answer restAnswers, final⟩

/--
In every run in which no drop finds a file, the engine on the disk and the one
on the object store answer the same and hold the same warehouse.
-/
theorem sameWarehouse_of_findsNothing
    (both : Counterparts platform directory url)
    {disk store : EngineState Row Key Location Contents}
    (mirrors : Mirrors platform directory url (fun _ => False) disk store)
    (statements : List String)
    (findsNothing :
      Along (executeBoth platform directory url)
        (FindsNothing platform directory url) (disk, store) statements) :
    SameWarehouse platform directory url disk store statements := by
  obtain ⟨sameAnswers, final⟩ :=
    answers_of_within both statements mirrors findsNothing
  exact
    { answers := sameAnswers
      keys := fun relative isFile =>
        (final.files relative isFile).resolve_right And.right }

end

/-! ## Runs -/

/-- A place in an object store or on the disk, with its URL or path. -/
abbrev Place := Bool × String

/-- A platform whose places are named by the texts of paths and URLs. -/
def textPlatform : Platform Nat String Place (List (RecordBatch Nat)) where
  warehousePath := ""
  tableKey := Rust.Text.toAsciiLowercase
  locate path := (isObjectStoreUrl path, path)
  fileAt path := (false, path)
  encodeParquet := id
  decode _ := .ok
  inferSchema _
    | some _ => .ok ()
    | none => .error "no files found"
  query _ _ := .ok [⟨[], [1]⟩]
  writeFault _ _ := none
  removeFault _ _ := none
  catalogFault _ _ := none

def emptyWarehouse :
    EngineState Nat String Place (List (RecordBatch Nat)) where
  tables _ := none
  files _ := none
  views _ := none
  warehouses := []
  touched := []

theorem warehouseUri_injOn {root first second : String}
    (isFirst : IsTableFile first) (isSecond : IsTableFile second)
    (same : (textPlatform.rooted root).warehouseUri first =
      (textPlatform.rooted root).warehouseUri second) : first = second := by
  have texts := warehouseUri_inj same
  rw [isFirst.relative, isSecond.relative] at texts
  exact String.toList_injective texts

/-- An object is found in the store of its bucket. -/
theorem isObjectStoreUrl_uri (relative : String) :
    isObjectStoreUrl
        ((textPlatform.rooted "s3://bucket/warehouse").warehouseUri
          relative) =
      true := by
  rw [isObjectStoreUrl, List.any_eq_true]
  refine ⟨"s3://", List.mem_cons_self, ?_⟩
  have text : ((textPlatform.rooted "s3://bucket/warehouse").warehouseUri
      relative).toList =
        "s3://bucket/warehouse".toList ++
          '/' :: relative.toList.dropWhile (· == '/') :=
    String.toList_ofList
  rw [Rust.Text.startsWith, text]
  rfl

theorem isObjectStoreUrl_path (relative : String) :
    isObjectStoreUrl
        ((textPlatform.rooted "/warehouse").warehouseUri relative) =
      false := by
  have text : ((textPlatform.rooted "/warehouse").warehouseUri
      relative).toList =
        '/' :: ("warehouse".toList ++
          '/' :: relative.toList.dropWhile (· == '/')) :=
    String.toList_ofList
  rw [isObjectStoreUrl, List.any_eq_false]
  intro scheme member
  rw [Rust.Text.startsWith, text]
  simp only [objectStoreSchemes, List.mem_cons, List.not_mem_nil, or_false]
    at member
  rcases member with rfl | rfl | rfl | rfl | rfl | rfl <;>
    exact Bool.false_ne_true

theorem textPlatform_counterparts :
    Counterparts textPlatform "/warehouse" "s3://bucket/warehouse" where
  onDisk := by decide
  inStore := by decide
  readsDisk relative _ :=
    congrArg (Prod.mk · _) (isObjectStoreUrl_path relative)
  diskApart _ _ isFirst isSecond same :=
    warehouseUri_injOn isFirst isSecond (Prod.mk.inj same).2
  storeApart _ _ isFirst isSecond same :=
    warehouseUri_injOn isFirst isSecond (Prod.mk.inj same).2
  apart _ second _ _ same :=
    Bool.false_ne_true
      ((Prod.mk.inj same).1.trans (isObjectStoreUrl_uri second))
  query _ _ _ _ := rfl
  writes _ _ := rfl
  removals _ _ := rfl
  catalog _ _ := rfl

theorem emptyWarehouse_mirrors :
    Mirrors textPlatform "/warehouse" "s3://bucket/warehouse"
      (fun _ => False) emptyWarehouse emptyWarehouse where
  tables _ := .unregistered
  files _ _ := Or.inl rfl
  others _ _ := rfl
  views _ := .absent
  warehouses := rfl

/-- A table and a view are created, and a table is dropped that is not there. -/
theorem created_sameWarehouse :
    SameWarehouse textPlatform "/warehouse" "s3://bucket/warehouse"
      emptyWarehouse emptyWarehouse
      ["CREATE TABLE t AS SELECT 1",
        "CREATE MATERIALIZED VIEW v AS SELECT 1", "DROP TABLE u"] := by
  refine sameWarehouse_of_findsNothing textPlatform_counterparts
    emptyWarehouse_mirrors _ ?_
  refine ⟨?_, ?_, ?_, trivial⟩
  · intro command dispatched
    have created : dispatch "CREATE TABLE t AS SELECT 1" =
        some (some (.ok (.ctas "t" "SELECT 1"))) := by decide
    cases created.symm.trans dispatched
    trivial
  · intro command dispatched
    have created : dispatch "CREATE MATERIALIZED VIEW v AS SELECT 1" =
        some (some (.ok (.createMaterializedView "v" "SELECT 1"))) := by
      decide
    cases created.symm.trans dispatched
    trivial
  · intro command dispatched
    have dropped : dispatch "DROP TABLE u" =
        some (some (.ok (.dropTable "u"))) := by decide
    cases dropped.symm.trans dispatched
    refine ⟨fun present => ?_, by decide⟩
    exact absurd present (by decide)

/-- The object of a dropped table stays in the store. -/
theorem dropped_object_stays :
    Counterparts textPlatform "/warehouse" "s3://bucket/warehouse" ∧
      Mirrors textPlatform "/warehouse" "s3://bucket/warehouse"
          (fun _ => False) emptyWarehouse emptyWarehouse ∧
        ¬ SameWarehouse textPlatform "/warehouse" "s3://bucket/warehouse"
          emptyWarehouse emptyWarehouse
          ["CREATE TABLE t AS SELECT 1", "DROP TABLE t"] := by
  refine ⟨textPlatform_counterparts, emptyWarehouse_mirrors, fun same => ?_⟩
  have word : IsWord "t" := isWord_of_safe (by decide)
  have keys := same.keys _ (.published word)
  revert keys
  decide

end OpenSnow.Core
