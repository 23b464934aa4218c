import Mathlib
import OpenSnow.Foundation.Runs
import OpenSnow.Iceberg.Writers

/-!
# One table over many processes

One process after the other creates, opens and appends to the table at a
location.  The name of a data file is made from the clock and from a counter
that a new process starts at zero, and the name of a metadata file from the
number of snapshots that a handle knows.
-/

namespace OpenSnow.Iceberg.Restarts

open Arrow
open Foundation
open Foundation.Listing
open Iceberg.Durability
open Iceberg.Table (AppendEnv AppendError IcebergTable MetadataCodec
  Snapshot TableFiles TableState isJson snapshotIdOf versionFileName
  writeDataFile)
open Iceberg.Writers

variable {Doc Row : Type}

/-! ## Processes -/

/-- The files of a location and the process that works on them. -/
structure Location (Doc Row : Type) where
  files : TableFiles Doc Row
  /-- The variables of the process that hold a table. -/
  handles : Nat → Option IcebergTable
  /-- `COUNTER`, which all tables of the process share. -/
  counter : Nat
  /-- The last reading of the clock, in milliseconds. -/
  clock : Nat
  /-- The appends that returned `Ok`, the newest first. -/
  committed : List (Snapshot × List (RecordBatch Row))

def Location.empty : Location Doc Row where
  files := ⟨∅, ∅⟩
  handles := fun _ => none
  counter := 0
  clock := 0
  committed := []

inductive Call (Doc Row : Type) where
  | createTable (handle : Nat) (tableUuid : String) (schema : Schema)
  | openTable (handle : Nat)
  /--
  An append through a handle, some time after the last call.  The clock and
  the counter of the request are replaced by the process's own.
  -/
  | append (handle : Nat) (request : AppendRequest Doc Row)
      (elapsed later : Nat)
  /-- The process appends to a table at another location. -/
  | appendElsewhere
  | restart

/-- The clock and the counter that an append reads. -/
def Location.envOf (state : Location Doc Row) (env : AppendEnv Doc)
    (elapsed later : Nat) : AppendEnv Doc :=
  { env with
    idMs := (state.clock + elapsed : Nat)
    counter := state.counter
    timestampMs := (state.clock + elapsed + later : Nat) }

section

variable (codec : MetadataCodec Doc) (location : String)

def Location.perform (state : Location Doc Row) :
    Call Doc Row → Location Doc Row
  | .createTable handle tableUuid schema =>
      match Table.create codec tableUuid location schema state.files with
      | none => state
      | some (table, files) =>
          { state with
            files
            handles := Function.update state.handles handle (some table) }
  | .openTable handle =>
      match Table.openTable codec location state.files with
      | .error _ => state
      | .ok table =>
          { state with
            handles := Function.update state.handles handle (some table) }
  | .append handle request elapsed later =>
      match state.handles handle with
      | none => state
      | some table =>
          let outcome :=
            Table.append codec (state.envOf request.env elapsed later)
              request.batches ⟨table, state.files⟩
          { files := outcome.1.files
            handles :=
              Function.update state.handles handle (some outcome.1.table)
            counter :=
              if request.batches.isEmpty then state.counter
              else state.counter + 1
            clock := state.clock + elapsed + later
            committed :=
              match outcome.2 with
              | .ok snapshot => (snapshot, request.batches) :: state.committed
              | .error _ => state.committed }
  | .appendElsewhere => { state with counter := state.counter + 1 }
  | .restart => { state with handles := fun _ => none, counter := 0 }

/-- The name of the data file of a snapshot. -/
def dataFileName (snapshotId : Int) : String :=
  toString snapshotId ++ ".parquet"

/-- What was committed is what is read, file by file. -/
structure Immutable (state : Location Doc Row) : Prop where
  /-- The data file of a committed append holds the batches of that append. -/
  contents : ∀ append ∈ state.committed,
    state.files.data.lookup (dataFileName append.1.snapshotId) =
      some (.finished append.2)
  /-- `open` finds the committed snapshots in order, and no others. -/
  listed :
    selectedSnapshots codec location state.files =
      (state.committed.map Prod.fst).reverse
  /-- The ids of the committed snapshots are different. -/
  unique :
    (state.committed.map fun append => append.1.snapshotId).Nodup

/--
A table is created where nothing is committed, or where `open` does not read
the first version.  An append goes through a handle that is up to date, its
snapshot has a new id, and its metadata file is written wholly or not at all.
-/
def Spares (state : Location Doc Row) : Call Doc Row → Prop
  | .createTable _ _ _ =>
      state.committed = [] ∨
        latest isJson state.files.metadata ≠ some "v1.metadata.json"
  | .append handle request elapsed later =>
      ∀ table, state.handles handle = some table →
        UpToDate codec location state.files table ∧
          snapshotIdOf (state.envOf request.env elapsed later) ∉
            (state.committed.map fun append => append.1.snapshotId) ∧
          ∀ left, request.env.metadataFault ≠ some (.torn left)
  | _ => True

end

/-! ## One append -/

theorem dataFileName_injective : Function.Injective dataFileName := by
  intro left right same
  rw [dataFileName, dataFileName, String.append_left_inj] at same
  have toString_eq : ∀ id : Int, toString id = Int.repr id := fun _ => rfl
  exact Int.repr_injective (by rwa [toString_eq, toString_eq] at same)

/-- At most the append's own data file is written. -/
theorem data_writeDataFile (env : AppendEnv Doc)
    (batches : List (RecordBatch Row)) (files : TableFiles Doc Row) :
    ∀ name ≠ dataFileName (snapshotIdOf env),
      (writeDataFile env batches files).1.data.lookup name =
        files.data.lookup name := by
  intro name different
  have other : name ≠ toString (snapshotIdOf env) ++ ".parquet" := different
  unfold writeDataFile
  dsimp only
  repeat' split
  all_goals first | rfl | exact Finmap.lookup_insert_of_ne _ other

theorem data_of_written {env : AppendEnv Doc}
    {batches : List (RecordBatch Row)} {files after : TableFiles Doc Row}
    {totalRows : Nat}
    (written : writeDataFile env batches files = (after, .ok totalRows)) :
    after.data.lookup (dataFileName (snapshotIdOf env)) =
      some (.finished batches) := by
  unfold writeDataFile at written
  dsimp only at written
  repeat' split at written
  all_goals try cases written
  exact Finmap.lookup_insert _

section

variable {codec : MetadataCodec Doc} {location : String}

theorem data_append (env : AppendEnv Doc)
    (batches : List (RecordBatch Row)) (state : TableState Doc Row) :
    (Table.append codec env batches state).1.files.data =
      (writeDataFile env batches state.files).1.data := by
  unfold Table.append
  rcases written : writeDataFile env batches state.files
    with ⟨files, error | totalRows⟩
  · rfl
  · dsimp only
    repeat' split
    all_goals rfl

variable {env : AppendEnv Doc} {batches : List (RecordBatch Row)}

/-- What a successful append leaves in its data file. -/
theorem data_of_append_ok {state after : TableState Doc Row}
    {snapshot : Snapshot}
    (ok : Table.append codec env batches state = (after, .ok snapshot)) :
    snapshot.snapshotId = snapshotIdOf env ∧
      after.files.data.lookup (dataFileName (snapshotIdOf env)) =
        some (.finished batches) := by
  have data := @data_append _ _ codec env batches state
  rw [ok] at data
  rcases written : writeDataFile env batches state.files
    with ⟨files, error | totalRows⟩
  · rw [Table.append, written] at ok
    cases ok
  · rw [written] at data
    refine ⟨?_, ?_⟩
    · unfold Table.append at ok
      rw [written] at ok
      dsimp only at ok
      repeat' split at ok
      all_goals try cases ok
      rfl
    · rw [data]
      exact data_of_written written

/-- An append that fails leaves the metadata directory, unless it tears it. -/
theorem metadata_of_append_error {state after : TableState Doc Row}
    {error : AppendError}
    (failed : Table.append codec env batches state = (after, .error error))
    (whole : ∀ left, env.metadataFault ≠ some (.torn left)) :
    after.files.metadata = state.files.metadata := by
  have kept := Table.writeDataFile_metadata env batches state.files
  unfold Table.append at failed
  rcases written : writeDataFile env batches state.files
    with ⟨files, error | totalRows⟩
  · rw [written] at failed kept
    cases failed
    exact kept
  · rw [written] at failed kept
    dsimp only at failed
    split at failed
    · cases failed
      exact kept
    · split at failed
      · cases failed
        exact kept
      · rename_i left torn
        exact absurd torn (whole left)
      · cases failed

/-! ## Runs -/

/-- The metadata directory holds the versions that were committed. -/
structure Kept (codec : MetadataCodec Doc) (location : String)
    (state : Location Doc Row) : Prop where
  immutable : Immutable codec location state
  versions : ∀ name ∈ state.files.metadata,
    ∃ version, 0 < version ∧ version ≤ max state.committed.length 1 ∧
      name = versionFileName version
  first : state.committed ≠ [] →
    versionFileName 1 ∈ state.files.metadata

theorem Kept.empty : Kept codec location (.empty : Location Doc Row) where
  immutable :=
    { contents := fun _ => nofun
      listed := rfl
      unique := List.nodup_nil }
  versions _ present := absurd present (Finmap.notMem_empty)
  first nonempty := absurd rfl nonempty

variable {state : Location Doc Row}

variable {other : Location Doc Row}

/-- Only the files and the log matter. -/
theorem Kept.of_same
    (kept : Kept codec location state) (files : other.files = state.files)
    (committed : other.committed = state.committed) :
    Kept codec location other where
  immutable :=
    { contents := by
        rw [files, committed]
        exact kept.immutable.contents
      listed := by
        rw [files, committed]
        exact kept.immutable.listed
      unique := by
        rw [committed]
        exact kept.immutable.unique }
  versions := by
    rw [files, committed]
    exact kept.versions
  first := by
    rw [files, committed]
    exact kept.first

/-- What `open` selects depends on the metadata directory alone. -/
theorem selectedSnapshots_congr {left right : TableFiles Doc Row}
    (same : left.metadata = right.metadata) :
    selectedSnapshots codec location left =
      selectedSnapshots codec location right := by
  rw [selectedSnapshots, selectedSnapshots, Table.openTable, Table.openTable,
    same]

theorem isJson_first : isJson "v1.metadata.json" = true :=
  isJson_versionFileName 1

theorem versionFileName_one : versionFileName 1 = "v1.metadata.json" := by
  decide

/-- A smaller name beside the file that is read is not read. -/
theorem selectedSnapshots_insert {files : TableFiles Doc Row}
    {name other : String} (isLatest : latest isJson files.metadata = some name)
    (present : other ∈ files.metadata) (different : name ≠ other) (json : Doc) :
    selectedSnapshots codec location
        { files with metadata := files.metadata.insert other json } =
      selectedSnapshots codec location files := by
  obtain ⟨⟨member, isName⟩, greatest⟩ := latest_eq_some_iff.mp isLatest
  have stillLatest :
      latest isJson (files.metadata.insert other json) = some name := by
    rw [latest_eq_some_iff]
    refine ⟨⟨Finmap.mem_insert.mpr (Or.inr member), isName⟩, ?_⟩
    intro inside isInside isOther
    rcases Finmap.mem_insert.mp isInside with rfl | old
    · exact greatest _ present isOther
    · exact greatest inside old isOther
  rw [selectedSnapshots, selectedSnapshots, Table.openTable, Table.openTable,
    isLatest]
  dsimp only
  rw [stillLatest]
  dsimp only
  rw [Finmap.lookup_insert_of_ne _ different]

section

variable (kept : Kept codec location state)

include kept

/-- The first version is what is read while nothing is committed. -/
theorem Kept.selectedSnapshots_first
    (fresh : state.committed = []) {metadata : Table.TableMetadata}
    {json : Doc} (decoded : codec.decode json = some metadata) :
    selectedSnapshots codec location
        { state.files with
          metadata := state.files.metadata.insert "v1.metadata.json" json } =
      metadata.snapshots := by
  have isLatest :
      latest isJson (state.files.metadata.insert "v1.metadata.json" json) =
        some "v1.metadata.json" := by
    rw [latest_insert json isJson_first]
    intro other present _
    obtain ⟨version, positive, bound, rfl⟩ := kept.versions other present
    rw [fresh] at bound
    have one : version = 1 := by
      have small : version ≤ 1 := bound
      omega
    rw [one, versionFileName_one]
  rw [selectedSnapshots,
    Table.openTable_of_latest isLatest (Finmap.lookup_insert _) decoded]

theorem Kept.exists_latest (nonempty : state.committed ≠ []) :
    ∃ name, latest isJson state.files.metadata = some name := by
  apply Option.ne_none_iff_exists'.mp
  intro nothing
  have opened := kept.immutable.listed
  rw [selectedSnapshots, Table.openTable, nothing] at opened
  have lengths := congrArg List.length opened
  rw [List.length_reverse, List.length_map] at lengths
  exact nonempty (List.length_eq_zero_iff.mp lengths.symm)

/-- A table that is created where it does not replace what is read. -/
theorem Kept.createTable {handle : Nat} {tableUuid : String} {schema : Schema}
    (spares : Spares codec location state
      (.createTable handle tableUuid schema)) :
    Kept codec location
      (state.perform codec location
        (.createTable handle tableUuid schema)) := by
  rw [Location.perform]
  split
  · exact kept
  · rename_i table files created
    unfold Table.create at created
    dsimp only at created
    split at created
    · cases created
    · rename_i json encoded
      rw [Option.some.injEq, Prod.mk.injEq] at created
      obtain ⟨-, rfl⟩ := created
      have decoded := codec.decode_encode _ _ encoded
      have listed :
          selectedSnapshots codec location
              { state.files with
                metadata :=
                  state.files.metadata.insert "v1.metadata.json" json } =
            (state.committed.map Prod.fst).reverse := by
        by_cases fresh : state.committed = []
        · rw [kept.selectedSnapshots_first fresh decoded, fresh]
          rfl
        · obtain ⟨name, isLatest⟩ := kept.exists_latest fresh
          have present := kept.first fresh
          rw [versionFileName_one] at present
          have different : name ≠ "v1.metadata.json" := by
            rintro rfl
            exact spares.resolve_left fresh isLatest
          rw [selectedSnapshots_insert isLatest present different,
            kept.immutable.listed]
      exact
        { immutable :=
            { contents := kept.immutable.contents
              unique := kept.immutable.unique
              listed }
          versions := by
            intro name present
            rcases Finmap.mem_insert.mp present with rfl | old
            · exact ⟨1, Nat.one_pos, le_max_right _ _,
                versionFileName_one.symm⟩
            · exact kept.versions name old
          first := by
            intro _
            rw [versionFileName_one]
            exact Finmap.mem_insert.mpr (Or.inl rfl) }

/-- A new snapshot id leaves the data files of the committed ones. -/
theorem Kept.contents_append (batches : List (RecordBatch Row))
    (table : Table.IcebergTable) (new : snapshotIdOf env ∉
      state.committed.map fun append => append.1.snapshotId) :
    ∀ append ∈ state.committed,
      (Table.append codec env batches ⟨table, state.files⟩).1.files.data.lookup
          (dataFileName append.1.snapshotId) =
        some (.finished append.2) := by
  intro append member
  rw [data_append, data_writeDataFile]
  · exact kept.immutable.contents append member
  · intro same
    apply new
    rw [← dataFileName_injective same]
    exact List.mem_map_of_mem member

/-- A failed append leaves what is committed. -/
theorem Kept.append_failed (committed : other.committed = state.committed)
    (metadata : other.files.metadata = state.files.metadata)
    (contents : ∀ append ∈ state.committed,
      other.files.data.lookup (dataFileName append.1.snapshotId) =
        some (.finished append.2)) :
    Kept codec location other where
  immutable :=
    { contents := by
        rw [committed]
        exact contents
      listed := by
        rw [selectedSnapshots_congr metadata, committed,
          kept.immutable.listed]
      unique := by
        rw [committed]
        exact kept.immutable.unique }
  versions := by
    rw [metadata, committed]
    exact kept.versions
  first := by
    rw [metadata, committed]
    exact kept.first

/-- An append by a handle that is up to date commits the next version. -/
theorem Kept.append_ok {table : Table.IcebergTable}
    {after : TableState Doc Row} {snapshot : Snapshot}
    (upToDate : UpToDate codec location state.files table)
    (new : snapshotIdOf env ∉
      state.committed.map fun append => append.1.snapshotId)
    (outcome : Table.append codec env batches ⟨table, state.files⟩ =
      (after, .ok snapshot))
    (isFiles : other.files = after.files)
    (committed : other.committed = (snapshot, batches) :: state.committed) :
    Kept codec location other := by
  have contents := kept.contents_append batches table new
  rw [outcome] at contents
  obtain ⟨isId, ownFile⟩ := data_of_append_ok outcome
  obtain ⟨current, last⟩ := upToDate
  have before := selectedSnapshots_of_current current
  rw [kept.immutable.listed] at before
  have count :
      table.metadata.snapshots.length = state.committed.length := by
    rw [← before, List.length_reverse, List.length_map]
  obtain ⟨reopened, reopens, metadata⟩ := open_after_append outcome
    fun name present => last name (Finmap.mem_keys.mpr present)
  obtain ⟨-, json, -, files⟩ := Table.append_ok outcome
  have newName : versionFileName (table.metadata.snapshots.length + 1) =
      versionFileName (state.committed.length + 1) := by
    rw [count]
  exact
    { immutable :=
        { contents := by
            intro append member
            rw [isFiles]
            rw [committed] at member
            rcases List.mem_cons.mp member with rfl | old
            · rw [isId]
              exact ownFile
            · exact contents append old
          listed := by
            rw [isFiles, committed, selectedSnapshots, reopens]
            dsimp only
            rw [metadata, Table.TableMetadata.push]
            dsimp only
            rw [← before, List.map_cons, List.reverse_cons]
          unique := by
            rw [committed, List.map_cons, List.nodup_cons, isId]
            exact ⟨new, kept.immutable.unique⟩ }
      versions := by
        intro name present
        rw [isFiles, files, Finmap.mem_insert] at present
        rw [committed, List.length_cons]
        rcases present with rfl | old
        · exact ⟨state.committed.length + 1, Nat.succ_pos _,
            le_max_left _ _, newName⟩
        · obtain ⟨version, positive, bound, isVersion⟩ :=
            kept.versions name old
          exact ⟨version, positive, by omega, isVersion⟩
      first := by
        intro _
        rw [isFiles, files, Finmap.mem_insert]
        by_cases fresh : state.committed = []
        · left
          rw [newName, fresh]
          rfl
        · exact Or.inr (kept.first fresh) }

end

/-- A sparing append: it commits a new snapshot, or changes no metadata. -/
theorem Kept.append (kept : Kept codec location state) {handle : Nat}
    {request : AppendRequest Doc Row} {elapsed later : Nat}
    (spares : Spares codec location state
      (.append handle request elapsed later)) :
    Kept codec location
      (state.perform codec location
        (.append handle request elapsed later)) := by
  rw [Location.perform]
  split
  · exact kept
  · rename_i table held
    obtain ⟨upToDate, new, whole⟩ := spares table held
    generalize isEnv : state.envOf request.env elapsed later = env at new ⊢
    have wholeEnv : ∀ left, env.metadataFault ≠ some (.torn left) := by
      rw [← isEnv]
      exact whole
    rcases outcome : Table.append codec env request.batches
      ⟨table, state.files⟩ with ⟨after, error | snapshot⟩
    · have contents := kept.contents_append request.batches table new
      rw [outcome] at contents
      exact
        kept.append_failed rfl (metadata_of_append_error outcome wholeEnv)
          contents
    · exact kept.append_ok upToDate new outcome rfl rfl

theorem Kept.perform {call : Call Doc Row}
    (kept : Kept codec location state)
    (spares : Spares codec location state call) :
    Kept codec location (state.perform codec location call) := by
  cases call with
  | createTable handle tableUuid schema => exact kept.createTable spares
  | openTable handle =>
      rw [Location.perform]
      split
      · exact kept
      · exact kept.of_same rfl rfl
  | append handle request elapsed later => exact kept.append spares
  | appendElsewhere => exact kept.of_same rfl rfl
  | restart => exact kept.of_same rfl rfl

end

/-- One row of a table without columns. -/
def oneRow : List (RecordBatch Unit) := [⟨[], [()]⟩]

/-- An append without any fault. -/
def plainAppend (batches : List (RecordBatch Unit)) :
    AppendRequest Table.TableMetadata Unit :=
  { plainRequest 0 with batches }

/-- Two processes append one after the other. -/
def twoProcesses : List (Call Table.TableMetadata Unit) :=
  [.createTable 0 "uuid" [], .append 0 (plainAppend oneRow) 1 0, .restart,
    .openTable 0, .append 0 (plainAppend oneRow) 1 0]

theorem perform_appendElsewhere (codec : MetadataCodec Doc)
    (location : String) (state : Location Doc Row) (count : Nat) :
    (List.replicate count Call.appendElsewhere).foldl
        (Location.perform codec location) state =
      { state with counter := state.counter + count } := by
  induction count generalizing state with
  | zero => rfl
  | succ count ih =>
      rw [List.replicate_succ, List.foldl_cons, ih, Location.perform,
        Nat.add_right_comm, Nat.add_assoc]

end OpenSnow.Iceberg.Restarts
