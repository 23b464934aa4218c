import OpenSnow.Core.ViewNamespace
import OpenSnow.Foundation.Runs

/-!
# A warehouse on the disk and one in an object store

One platform serves two engines, one with a directory as the root of its
warehouse and one with an object URL.  Both are given the same statements.
Writes go to the file system or to the object store, and so do reads; but what
a drop removes is looked for in the file system alone.
-/

namespace OpenSnow.Core

open Arrow
open Foundation

variable {Row Key Location Contents : Type}

/-! ## Two roots -/

/-- The platform under a warehouse root. -/
def Platform.rooted (platform : Platform Row Key Location Contents)
    (root : String) : Platform Row Key Location Contents :=
  { platform with warehousePath := root }

/-- The file of a table or a view of this name. -/
def FileOf (name relative : String) : Prop :=
  relative = publicFile name ∨ relative = viewFile name

theorem FileOf.isTableFile {name relative : String}
    (file : FileOf name relative) (word : IsWord name) :
    IsTableFile relative := by
  rcases file with rfl | rfl
  · exact .published word
  · exact .materialized word

/-- A file has one name. -/
theorem FileOf.unique {first second relative : String}
    (isFirst : FileOf first relative) (isSecond : FileOf second relative) :
    first = second := by
  have cancel : ∀ {front behind : String},
      front ++ first ++ behind = front ++ second ++ behind →
        first = second := by
    intro front behind same
    have texts := congrArg String.toList same
    rw [String.toList_append, String.toList_append, String.toList_append,
      String.toList_append] at texts
    have names := List.append_cancel_right texts
    exact String.toList_injective (List.append_cancel_left names)
  rcases isFirst with rfl | rfl <;> rcases isSecond with same | same
  · exact cancel same
  · exact absurd same (publicFile_ne_viewFile _ _)
  · exact absurd same.symm (publicFile_ne_viewFile _ _)
  · exact cancel same

section Roots

variable (platform : Platform Row Key Location Contents)
variable (directory url : String)

/-- Where a file of the warehouse on the disk is. -/
def Platform.diskFile (relative : String) : Location :=
  platform.fileAt ((platform.rooted directory).warehouseUri relative)

/-- Where an object of the warehouse in the store is. -/
def Platform.object (relative : String) : Location :=
  platform.locate ((platform.rooted url).warehouseUri relative)

/-- No file of the two warehouses. -/
def Outside (location : Location) : Prop :=
  ∀ relative, IsTableFile relative →
    location ≠ platform.diskFile directory relative ∧
      location ≠ platform.object url relative

/--
One root is a directory and the other an object URL, the names of their files
are different places, and writes and calls of the catalog do not fail.
-/
structure Counterparts : Prop where
  onDisk : isObjectStoreUrl directory = false
  inStore : isObjectStoreUrl url = true
  /-- The query engine finds a path where the file system does. -/
  readsDisk : ∀ relative, IsTableFile relative →
    platform.locate ((platform.rooted directory).warehouseUri relative) =
      platform.diskFile directory relative
  diskApart : ∀ first second, IsTableFile first → IsTableFile second →
    platform.diskFile directory first = platform.diskFile directory second →
      first = second
  storeApart : ∀ first second, IsTableFile first → IsTableFile second →
    platform.object url first = platform.object url second → first = second
  apart : ∀ first second, IsTableFile first → IsTableFile second →
    platform.diskFile directory first ≠ platform.object url second
  /-- A query depends on what the tables yield. -/
  query : ∀ first second sql,
    (∀ key, platform.scan first key = platform.scan second key) →
      platform.query first sql = platform.query second sql
  writes : ∀ state path, platform.writeFault state path = none
  removals : ∀ state path, platform.removeFault state path = none
  catalog : ∀ state call, platform.catalogFault state call = none

/-! ## Mirrors -/

/-- One registration in the two sessions. -/
inductive SameSource (disk : EngineState Row Key Location Contents)
    (key : Key) :
    Option (TableSource Row) → Option (TableSource Row) → Prop where
  | unregistered : SameSource disk key none none
  | memory (batches : List (RecordBatch Row)) :
      SameSource disk key (some (.memory batches)) (some (.memory batches))
  | outside (format : Format) {path : String} :
      Outside platform directory url (platform.locate path) →
        SameSource disk key (some (.file format path))
          (some (.file format path))
  /-- The file of the name, which is there. -/
  | inside {name relative : String} :
      IsWord name → FileOf name relative → platform.tableKey name = key →
        (disk.files (platform.diskFile directory relative)).isSome →
          SameSource disk key
            (some
              (.file .parquet
                ((platform.rooted directory).warehouseUri relative)))
            (some
              (.file .parquet ((platform.rooted url).warehouseUri relative)))

/-- One row of a view in the two catalogs. -/
inductive SameRow (name : String) :
    Option MaterializedView → Option MaterializedView → Prop where
  | absent : SameRow name none none
  | row (sql : String) : IsWord name →
      SameRow name
        (some ⟨sql, (platform.rooted directory).warehouseUri (viewFile name)⟩)
        (some ⟨sql, (platform.rooted url).warehouseUri (viewFile name)⟩)

/--
The two engines have the same tables, files, views and warehouses, but for
objects that are left over where the file is removed.
-/
structure Mirrors (left : String → Prop)
    (disk store : EngineState Row Key Location Contents) : Prop where
  tables : ∀ key,
    SameSource platform directory url disk key (disk.tables key)
      (store.tables key)
  files : ∀ relative, IsTableFile relative →
    disk.files (platform.diskFile directory relative) =
        store.files (platform.object url relative) ∨
      (disk.files (platform.diskFile directory relative) = none ∧
        left relative)
  others : ∀ location, Outside platform directory url location →
    disk.files location = store.files location
  views : ∀ name,
    SameRow platform directory url name (disk.views name) (store.views name)
  warehouses : disk.warehouses = store.warehouses

end Roots

section

variable {platform : Platform Row Key Location Contents}
variable {directory url : String} {left : String → Prop}
variable {disk store : EngineState Row Key Location Contents}

/-- A registration that is still there after files have changed. -/
theorem SameSource.mono {after : EngineState Row Key Location Contents}
    {key : Key} {first second : Option (TableSource Row)}
    (same : SameSource platform directory url disk key first second)
    (kept : ∀ name relative, IsWord name → FileOf name relative →
      platform.tableKey name = key → first ≠ none →
        (disk.files (platform.diskFile directory relative)).isSome →
          (after.files (platform.diskFile directory relative)).isSome) :
    SameSource platform directory url after key first second := by
  cases same with
  | unregistered => exact .unregistered
  | memory batches => exact .memory batches
  | outside format away => exact .outside format away
  | inside word file isKey present =>
      exact .inside word file isKey
        (kept _ _ word file isKey nofun present)

/-- Both sessions yield the same under every key. -/
theorem Mirrors.scan (mirrors : Mirrors platform directory url left disk store)
    (both : Counterparts platform directory url) (key : Key) :
    platform.scan disk key = platform.scan store key := by
  have same := mirrors.tables key
  rw [Platform.scan, Platform.scan]
  generalize disk.tables key = first at same
  generalize store.tables key = second at same
  cases same with
  | unregistered => rfl
  | memory batches => rfl
  | outside format away =>
      rw [Option.map_some, Option.map_some]
      dsimp only
      rw [mirrors.others _ away]
  | inside word file isKey present =>
      have isFile := file.isTableFile word
      rw [Option.map_some, Option.map_some]
      dsimp only
      rw [both.readsDisk _ isFile]
      rcases mirrors.files _ isFile with equal | ⟨absent, -⟩
      · obtain ⟨contents, found⟩ := Option.isSome_iff_exists.mp present
        have stored : store.files (platform.object url _) = some contents :=
          equal ▸ found
        rw [Platform.object] at stored
        rw [found, stored]
      · rw [absent] at present
        cases present

variable [DecidableEq Location]

/-- The same contents are written to the two files of a name. -/
theorem Mirrors.stored
    (mirrors : Mirrors platform directory url left disk store)
    (both : Counterparts platform directory url) {relative : String}
    (isFile : IsTableFile relative) (contents : Contents) :
    Mirrors platform directory url left
      (disk.stored (platform.diskFile directory relative) (some contents))
      (store.stored (platform.object url relative) (some contents)) where
  tables key := by
    refine (mirrors.tables key).mono fun name other word file _ _ present => ?_
    rw [EngineState.stored_files, Function.update_apply]
    split
    · rfl
    · exact present
  files other isOther := by
    rw [EngineState.stored_files, EngineState.stored_files]
    by_cases same : other = relative
    · rw [same, Function.update_self, Function.update_self]
      exact Or.inl rfl
    · rw [Function.update_of_ne fun equal =>
          same (both.diskApart _ _ isOther isFile equal),
        Function.update_of_ne fun equal =>
          same (both.storeApart _ _ isOther isFile equal)]
      exact mirrors.files other isOther
  others location away := by
    obtain ⟨notDisk, notObject⟩ := away relative isFile
    rw [EngineState.stored_files, EngineState.stored_files,
      Function.update_of_ne notDisk, Function.update_of_ne notObject]
    exact mirrors.others location away
  views := mirrors.views
  warehouses := mirrors.warehouses

/-- A file is removed on the disk that no table is registered on. -/
theorem Mirrors.removed
    (mirrors : Mirrors platform directory url left disk store)
    (both : Counterparts platform directory url) {name relative : String}
    (word : IsWord name) (file : FileOf name relative)
    (unregistered : disk.tables (platform.tableKey name) = none)
    (isLeft : left relative) :
    Mirrors platform directory url left
      (disk.stored (platform.diskFile directory relative) none) store where
  tables key := by
    refine (mirrors.tables key).mono ?_
    intro other otherFile otherWord isOther isKey registered present
    rw [EngineState.stored_files, Function.update_of_ne]
    · exact present
    · intro equal
      have same := both.diskApart _ _ (isOther.isTableFile otherWord)
        (file.isTableFile word) equal
      have sameName : other = name := isOther.unique (same ▸ file)
      rw [← isKey, sameName] at registered
      exact registered unregistered
  files other isOther := by
    rw [EngineState.stored_files]
    by_cases same : other = relative
    · rw [same, Function.update_self]
      exact Or.inr ⟨rfl, isLeft⟩
    · rw [Function.update_of_ne fun equal =>
        same (both.diskApart _ _ isOther (file.isTableFile word) equal)]
      exact mirrors.files other isOther
  others location away := by
    rw [EngineState.stored_files,
      Function.update_of_ne (away relative (file.isTableFile word)).1]
    exact mirrors.others location away
  views := mirrors.views
  warehouses := mirrors.warehouses

end

/-! ## Steps on both -/

section

variable {platform : Platform Row Key Location Contents}
variable {directory url : String} {left : String → Prop}
variable {disk store : EngineState Row Key Location Contents}
variable [DecidableEq Key]

theorem Mirrors.deregistered
    (mirrors : Mirrors platform directory url left disk store) (key : Key) :
    Mirrors platform directory url left (disk.deregistered key)
      (store.deregistered key) where
  tables other := by
    have same := mirrors.tables other
    rw [EngineState.deregistered_tables, EngineState.deregistered_tables,
      Function.update_apply, Function.update_apply]
    split
    · exact .unregistered
    · exact same.mono fun _ _ _ _ _ _ present => present
  files := mirrors.files
  others := mirrors.others
  views := mirrors.views
  warehouses := mirrors.warehouses

theorem Mirrors.registered
    (mirrors : Mirrors platform directory url left disk store) {key : Key}
    {source source' : TableSource Row}
    (same : SameSource platform directory url disk key (some source)
      (some source')) :
    Mirrors platform directory url left (disk.registered key source)
      (store.registered key source') where
  tables other := by
    rw [EngineState.registered_tables, EngineState.registered_tables,
      Function.update_apply, Function.update_apply]
    split
    · rename_i isKey
      rw [isKey]
      exact same.mono fun _ _ _ _ _ _ present => present
    · exact (mirrors.tables other).mono fun _ _ _ _ _ _ present => present
  files := mirrors.files
  others := mirrors.others
  views := mirrors.views
  warehouses := mirrors.warehouses

omit [DecidableEq Key] in
theorem Mirrors.recorded
    (mirrors : Mirrors platform directory url left disk store)
    {name : String} {row row' : Option MaterializedView}
    (same : SameRow platform directory url name row row') :
    Mirrors platform directory url left (disk.recorded name row)
      (store.recorded name row') where
  tables key :=
    (mirrors.tables key).mono fun _ _ _ _ _ _ present => present
  files := mirrors.files
  others := mirrors.others
  views other := by
    rw [EngineState.recorded_views, EngineState.recorded_views,
      Function.update_apply, Function.update_apply]
    split
    · rename_i isName
      rw [isName]
      exact same
    · exact mirrors.views other
  warehouses := mirrors.warehouses

omit [DecidableEq Key] in
/-- The two paths of one registration lead to the same contents. -/
theorem SameSource.files
    (mirrors : Mirrors platform directory url left disk store)
    (both : Counterparts platform directory url) {key : Key}
    {format : Format} {path path' : String}
    (same : SameSource platform directory url disk key
      (some (.file format path)) (some (.file format path'))) :
    disk.files (platform.locate path) =
      store.files (platform.locate path') := by
  cases same with
  | outside format away => exact mirrors.others _ away
  | inside word file isKey present =>
      have isFile := file.isTableFile word
      rw [both.readsDisk _ isFile]
      rcases mirrors.files _ isFile with equal | ⟨absent, -⟩
      · exact equal
      · rw [absent] at present
        cases present

omit [DecidableEq Key] in
theorem lockstep_runQuery (both : Counterparts platform directory url)
    (sql : String) :
    Lockstep (Mirrors platform directory url left)
      (runQuery (platform.rooted directory) sql)
      (runQuery (platform.rooted url) sql) (· = ·)
      (Mirrors platform directory url left) := by
  refine Lockstep.look (fun disk store mirrors => sameOutcome_of_eq ?_)
    fun _ _ => id
  have query := both.query disk store sql (mirrors.scan both)
  exact congrArg (Except.mapError Failure.query) query

theorem lockstep_registerTable (both : Counterparts platform directory url)
    {pre : EngineState Row Key Location Contents →
      EngineState Row Key Location Contents → Prop}
    {format : Format} (name : String) {path path' : String}
    (same : ∀ disk store, pre disk store →
      Mirrors platform directory url left disk store ∧
        SameSource platform directory url disk (platform.tableKey name)
          (some (.file format path)) (some (.file format path'))) :
    Lockstep pre
      (registerTable (platform.rooted directory) format name path)
      (registerTable (platform.rooted url) format name path') (· = ·)
      (Mirrors platform directory url left) := by
  intro disk store holds
  obtain ⟨mirrors, source⟩ := same disk store holds
  have files := source.files mirrors both
  have registered := mirrors.tables (platform.tableKey name)
  cases schema : platform.inferSchema format
      (disk.files (platform.locate path)) with
  | error message =>
      rw [registerTable_unreadable (platform.rooted directory) name schema,
        registerTable_unreadable (platform.rooted url) name
          (files ▸ schema)]
      exact ⟨.error _, mirrors⟩
  | ok _ =>
      cases onDisk : disk.tables (platform.tableKey name) with
      | none =>
          rw [onDisk] at registered
          cases inStore : store.tables (platform.tableKey name) with
          | none =>
              rw [registerTable_free (platform.rooted directory) schema
                  onDisk,
                registerTable_free (platform.rooted url) (files ▸ schema)
                  inStore]
              exact ⟨.ok rfl, mirrors.registered source⟩
          | some other =>
              rw [inStore] at registered
              cases registered
      | some held =>
          rw [onDisk] at registered
          cases inStore : store.tables (platform.tableKey name) with
          | none =>
              rw [inStore] at registered
              cases registered
          | some other =>
              rw [registerTable_taken (platform.rooted directory) schema
                  onDisk,
                registerTable_taken (platform.rooted url) (files ▸ schema)
                  inStore]
              exact ⟨.error _, mirrors⟩

theorem lockstep_deregisterTable (name : String)
    {pre post : EngineState Row Key Location Contents →
      EngineState Row Key Location Contents → Prop}
    (kept : ∀ disk store, pre disk store →
      post (disk.deregistered (platform.tableKey name))
        (store.deregistered (platform.tableKey name))) :
    Lockstep pre (deregisterTable (platform.rooted directory) name)
      (deregisterTable (platform.rooted url) name) (· = ·) post :=
  Lockstep.modify kept

end

/-! ## Writing and recording on both -/

section

variable {platform : Platform Row Key Location Contents}
variable {directory url : String} {left : String → Prop}

/-- The engines mirror each other, and the file is there on the disk. -/
def MirrorsWith (platform : Platform Row Key Location Contents)
    (directory url : String) (left : String → Prop) (relative : String)
    (disk store : EngineState Row Key Location Contents) : Prop :=
  Mirrors platform directory url left disk store ∧
    (disk.files (platform.diskFile directory relative)).isSome

theorem lockstep_writeWarehouseParquet [DecidableEq Location]
    (both : Counterparts platform directory url) {relative : String}
    (isFile : IsTableFile relative) (what : String)
    (batches : List (RecordBatch Row)) :
    Lockstep (Mirrors platform directory url left)
      (writeWarehouseParquet (platform.rooted directory) what relative
        batches)
      (writeWarehouseParquet (platform.rooted url) what relative batches)
      (fun path path' =>
        path = (platform.rooted directory).warehouseUri relative ∧
          path' = (platform.rooted url).warehouseUri relative)
      (MirrorsWith platform directory url left relative) := by
  intro disk store mirrors
  rw [writeWarehouseParquet_written (platform.rooted directory) what batches
      (both.writes _ _),
    writeWarehouseParquet_written (platform.rooted url) what batches
      (both.writes _ _)]
  have onDisk :
      (platform.rooted directory).writeLocation
          ((platform.rooted directory).warehouseUri relative) =
        platform.diskFile directory relative :=
    if_neg (ne_true_of_eq_false both.onDisk)
  have inStore :
      (platform.rooted url).writeLocation
          ((platform.rooted url).warehouseUri relative) =
        platform.object url relative :=
    if_pos both.inStore
  rw [onDisk, inStore]
  refine ⟨.ok ⟨rfl, rfl⟩, mirrors.stored both isFile _, ?_⟩
  rw [EngineState.stored_files, Function.update_self]
  rfl

variable
  {pre : EngineState Row Key Location Contents → EngineState Row Key Location Contents → Prop}

section

variable (both : Counterparts platform directory url)

include both

theorem lockstep_catalogCall (call : CatalogCall) (what : String) :
    Lockstep pre (catalogCall (platform.rooted directory) call what)
      (catalogCall (platform.rooted url) call what) (· = ·) pre := by
  refine Lockstep.look (fun disk store _ => ?_) fun _ _ => id
  have onDisk : (platform.rooted directory).catalogFault disk call = none :=
    both.catalog disk call
  have inStore : (platform.rooted url).catalogFault store call = none :=
    both.catalog store call
  rw [onDisk, inStore]
  exact .ok rfl

theorem lockstep_getMaterializedView (name : String)
    {same : Option MaterializedView → Option MaterializedView → Prop}
    (rows : ∀ disk store, pre disk store →
      same (disk.views name) (store.views name)) :
    Lockstep pre (getMaterializedView (platform.rooted directory) name)
      (getMaterializedView (platform.rooted url) name) same pre := by
  refine (lockstep_catalogCall both _ _).bind (fun _ _ _ => ?_) fun _ _ => id
  exact Lockstep.look (fun disk store holds => .ok (rows disk store holds))
    fun _ _ => id

/-- Both catalogs have a row for a name, or none has. -/
theorem lockstep_sameRow (name : String) :
    Lockstep (Mirrors platform directory url left)
      (getMaterializedView (platform.rooted directory) name)
      (getMaterializedView (platform.rooted url) name)
      (SameRow platform directory url name)
      (Mirrors platform directory url left) :=
  lockstep_getMaterializedView both name fun _ _ mirrors =>
    mirrors.views name

theorem lockstep_upsertMaterializedView (what : String)
    {name : String} (word : IsWord name) (sql : String) :
    Lockstep (Mirrors platform directory url left)
      (upsertMaterializedView (platform.rooted directory) what name sql
        ((platform.rooted directory).warehouseUri (viewFile name)))
      (upsertMaterializedView (platform.rooted url) what name sql
        ((platform.rooted url).warehouseUri (viewFile name)))
      (· = ·) (Mirrors platform directory url left) := by
  refine (lockstep_catalogCall both _ _).bind (fun _ _ _ => ?_) fun _ _ => id
  exact Lockstep.modify fun disk store mirrors =>
    mirrors.recorded (.row sql word)

theorem lockstep_deleteMaterializedView (name : String) :
    Lockstep (Mirrors platform directory url left)
      (deleteMaterializedView (platform.rooted directory) name)
      (deleteMaterializedView (platform.rooted url) name) (· = ·)
      (Mirrors platform directory url left) := by
  refine (lockstep_catalogCall both _ _).bind (fun _ _ _ => ?_) fun _ _ => id
  have found :
      Lockstep (Mirrors platform directory url left)
        (Effect.look fun state => .ok (state.views name).isSome :
          Handling Row Key Location Contents Bool)
        (Effect.look fun state => .ok (state.views name).isSome :
          Handling Row Key Location Contents Bool)
        (· = ·) (Mirrors platform directory url left) := by
    refine Lockstep.look (fun disk store mirrors => ?_) fun _ _ => id
    have same := mirrors.views name
    generalize disk.views name = row at same
    generalize store.views name = row' at same
    cases same with
    | absent => exact .ok rfl
    | row sql word => exact .ok rfl
  refine found.bind (fun removed removed' same => ?_) fun _ _ => id
  refine (Lockstep.modify fun disk store mirrors => ?_).bind
    (fun _ _ _ => Lockstep.pure same fun _ _ => id) fun _ _ => id
  exact mirrors.recorded .absent

end

variable [DecidableEq Key] [DecidableEq Location]

/-- A file is written, and its name registered on it anew. -/
theorem lockstep_replace {Value Other : Type}
    (both : Counterparts platform directory url) {name relative : String}
    (word : IsWord name) (file : FileOf name relative) (what : String)
    (batches : List (RecordBatch Row)) {result : String → Value}
    {result' : String → Other} {same : Value → Other → Prop}
    (results :
      same (result ((platform.rooted directory).warehouseUri relative))
        (result' ((platform.rooted url).warehouseUri relative))) :
    Lockstep (Mirrors platform directory url left)
      (do
        let outPath ←
          writeWarehouseParquet (platform.rooted directory) what relative
            batches
        deregisterTable (platform.rooted directory) name
        registerTable (platform.rooted directory) .parquet name outPath
        pure (result outPath))
      (do
        let outPath ←
          writeWarehouseParquet (platform.rooted url) what relative batches
        deregisterTable (platform.rooted url) name
        registerTable (platform.rooted url) .parquet name outPath
        pure (result' outPath))
      same (Mirrors platform directory url left) := by
  refine (lockstep_writeWarehouseParquet both (file.isTableFile word) what
    batches).bind ?_ fun _ _ => And.left
  rintro path path' ⟨rfl, rfl⟩
  have deregistered :
      Lockstep (MirrorsWith platform directory url left relative)
        (deregisterTable (platform.rooted directory) name)
        (deregisterTable (platform.rooted url) name) (· = ·)
        (MirrorsWith platform directory url left relative) :=
    lockstep_deregisterTable name fun _ _ holds =>
      ⟨holds.1.deregistered _, holds.2⟩
  refine deregistered.bind (fun _ _ _ => ?_) fun _ _ => And.left
  refine (lockstep_registerTable both name fun disk store holds =>
    ⟨holds.1, .inside word file rfl holds.2⟩).bind (fun _ _ _ => ?_)
      fun _ _ => id
  exact Lockstep.pure results fun _ _ => id

end

end OpenSnow.Core
