import OpenSnow.Foundation.Runs
import OpenSnow.Iceberg.Durability

/-!
# Appends that fail

An append writes its data file, adds its snapshot to the metadata of the
handle, and only then serialises and writes that metadata.  A failure before
the change leaves the handle; a failure after it leaves a snapshot that was
never acknowledged, and the next append commits it.
-/

namespace OpenSnow.Iceberg.FailedAppends

open Arrow
open Foundation
open Iceberg.Durability
open Iceberg.Table

variable {Doc Row : Type}

/-! ## Where an append can fail -/

/-- Every step of writing the data file succeeds. -/
structure DataFileWritten (request : AppendRequest Doc Row) : Prop where
  data : request.batches.isEmpty = false
  created : request.env.createDataFileFails = false
  opened : request.env.openWriterFails = false
  batches : ∀ index < request.batches.length,
    request.env.writeBatchFails index = false
  closed : request.env.closeWriterFails = false

/-- The number of rows of an append. -/
def totalRowsOf (batches : List (RecordBatch Row)) : Nat :=
  (batches.map RecordBatch.numRows).sum

/-- The metadata that an append writes. -/
def metadataOf (request : AppendRequest Doc Row) (table : IcebergTable) :
    TableMetadata :=
  table.metadata.push
    (nextSnapshot request.env table (totalRowsOf request.batches))

/--
The data file is written, and then the metadata does not serialise or its file
cannot be written.
-/
structure FailsAtCommit (codec : MetadataCodec Doc) (table : IcebergTable)
    (request : AppendRequest Doc Row) : Prop where
  written : DataFileWritten request
  fails : codec.encode (metadataOf request table) = none ∨
    ∃ fault, request.env.metadataFault = some fault

theorem writeDataFile_of_written {request : AppendRequest Doc Row}
    (written : DataFileWritten request) (files : TableFiles Doc Row) :
    ∃ after, writeDataFile request.env request.batches files =
      (after, .ok (totalRowsOf request.batches)) := by
  have none :
      (List.range request.batches.length).find? request.env.writeBatchFails =
        none := by
    rw [List.find?_eq_none]
    intro index member
    rw [written.batches index (List.mem_range.mp member)]
    exact Bool.false_ne_true
  unfold writeDataFile
  simp only [written.data, written.created, written.opened, written.closed,
    none, Bool.false_eq_true, if_false]
  exact ⟨_, rfl⟩

theorem writeDataFile_of_not_written {request : AppendRequest Doc Row}
    (unwritten : ¬ DataFileWritten request) (files : TableFiles Doc Row) :
    ∃ after error, writeDataFile request.env request.batches files =
      (after, .error error) := by
  by_contra succeeds
  push Not at succeeds
  apply unwritten
  unfold writeDataFile at succeeds
  dsimp only at succeeds
  repeat' split at succeeds
  all_goals try exact absurd rfl (succeeds _ _)
  rename_i data created opened _ none closed
  rw [List.find?_eq_none] at none
  exact
    { data := by simpa using data
      created := by simpa using created
      opened := by simpa using opened
      batches := by
        intro index bound
        simpa using none index (List.mem_range.mpr bound)
      closed := by simpa using closed }

section

variable {codec : MetadataCodec Doc} {request : AppendRequest Doc Row}

theorem append_of_not_written (codec : MetadataCodec Doc)
    (unwritten : ¬ DataFileWritten request) (state : TableState Doc Row) :
    ∃ after error,
      append codec request.env request.batches state =
          (after, .error error) ∧
        after.table = state.table := by
  obtain ⟨files, error, failed⟩ :=
    writeDataFile_of_not_written unwritten state.files
  refine ⟨{ state with files }, error, ?_, rfl⟩
  rw [append, failed]

/-- A failure at the commit leaves the new snapshot in the handle. -/
theorem append_of_failsAtCommit {state : TableState Doc Row}
    (fails : FailsAtCommit codec state.table request) :
    ∃ after error,
      append codec request.env request.batches state =
          (after, .error error) ∧
        after.table.metadata = metadataOf request state.table := by
  obtain ⟨files, written⟩ :=
    writeDataFile_of_written fails.written state.files
  rcases fails.fails with unserialised | ⟨fault, isFault⟩
  · rw [metadataOf] at unserialised
    rw [append, written]
    simp only [unserialised]
    exact ⟨_, _, rfl, rfl⟩
  · rw [append, written]
    dsimp only
    split
    · exact ⟨_, _, rfl, rfl⟩
    · cases fault <;> simp only [isFault] <;> exact ⟨_, _, rfl, rfl⟩

/-- Otherwise the metadata of the handle is what its metadata file holds. -/
theorem append_of_commits {state : TableState Doc Row}
    (written : DataFileWritten request)
    (commits : ¬ FailsAtCommit codec state.table request) :
    ∃ after,
      append codec request.env request.batches state =
          (after, .ok (nextSnapshot request.env state.table
            (totalRowsOf request.batches))) ∧
        after.table.metadata = metadataOf request state.table ∧
          (after.files.metadata.lookup after.table.metadataPath).bind
              codec.decode =
            some (metadataOf request state.table) := by
  obtain ⟨files, isWritten⟩ := writeDataFile_of_written written state.files
  have faultless : request.env.metadataFault = none := by
    by_contra fault
    exact commits ⟨written, Or.inr (Option.ne_none_iff_exists'.mp fault)⟩
  rcases encoded : codec.encode (metadataOf request state.table)
    with _ | json
  · exact absurd ⟨written, Or.inl encoded⟩ commits
  · have decoded := codec.decode_encode _ _ encoded
    rw [metadataOf] at encoded
    rw [append, isWritten]
    simp only [encoded, faultless]
    refine ⟨_, rfl, rfl, ?_⟩
    rw [Finmap.lookup_insert, Option.bind_some, decoded]

end

/-! ## Runs through one handle -/

/-- A handle with its files and the snapshots its appends have returned. -/
structure Handle (Doc Row : Type) where
  state : TableState Doc Row
  acknowledged : List Snapshot

def Handle.perform (codec : MetadataCodec Doc) (handle : Handle Doc Row)
    (request : AppendRequest Doc Row) : Handle Doc Row :=
  match append codec request.env request.batches handle.state with
  | (after, .ok snapshot) =>
      { state := after, acknowledged := snapshot :: handle.acknowledged }
  | (after, .error _) => { handle with state := after }

/-- No reader of a handle can tell the two tables apart. -/
structure SameReads (before after : IcebergTable) : Prop where
  snapshots : after.snapshots = before.snapshots
  currentSnapshotId : after.currentSnapshotId = before.currentSnapshotId
  dataFiles : after.dataFiles = before.dataFiles
  dataFilesAt : ∀ timestampMs,
    after.dataFilesAt timestampMs = before.dataFilesAt timestampMs

/--
An append that fails changes nothing that can be read; the metadata file of
one that succeeds holds only snapshots that were there at the start or were
returned.
-/
def AllOrNothing (codec : MetadataCodec Doc) (initial : List Snapshot)
    (handle : Handle Doc Row) (request : AppendRequest Doc Row) : Prop :=
  match append codec request.env request.batches handle.state with
  | (after, .error _) => SameReads handle.state.table after.table
  | (after, .ok snapshot) =>
      ∃ metadata,
        (after.files.metadata.lookup after.table.metadataPath).bind
            codec.decode =
          some metadata ∧
        ∀ committed ∈ metadata.snapshots,
          committed ∈ initial ∨ committed ∈ snapshot :: handle.acknowledged

/-- What the handle lists was there at the start or was returned. -/
def OnlyAcknowledged (initial : List Snapshot) (handle : Handle Doc Row) :
    Prop :=
  ∀ snapshot ∈ handle.state.table.snapshots,
    snapshot ∈ initial ∨ snapshot ∈ handle.acknowledged

section

variable {codec : MetadataCodec Doc} {initial : List Snapshot}
  {handle : Handle Doc Row} {request : AppendRequest Doc Row}

theorem mem_metadataOf {table : IcebergTable} {snapshot : Snapshot} :
    snapshot ∈ (metadataOf request table).snapshots ↔
      snapshot ∈ table.snapshots ∨
        snapshot = nextSnapshot request.env table
          (totalRowsOf request.batches) := by
  rw [metadataOf, TableMetadata.push, List.mem_append, List.mem_singleton,
    IcebergTable.snapshots]

section

variable (only : OnlyAcknowledged initial handle)

include only

/-- An append that gets to its commit keeps only what is acknowledged. -/
theorem OnlyAcknowledged.mem_metadataOf :
    ∀ snapshot ∈ (metadataOf request handle.state.table).snapshots,
      snapshot ∈ initial ∨
        snapshot ∈ nextSnapshot request.env handle.state.table
          (totalRowsOf request.batches) :: handle.acknowledged := by
  intro snapshot member
  rcases FailedAppends.mem_metadataOf.mp member with old | isNew
  · exact (only snapshot old).imp_right (List.mem_cons_of_mem _)
  · exact Or.inr (List.mem_cons.mpr (Or.inl isNew))

theorem OnlyAcknowledged.perform
    (commits : ¬ FailsAtCommit codec handle.state.table request) :
    OnlyAcknowledged initial (handle.perform codec request) := by
  rw [Handle.perform]
  by_cases written : DataFileWritten request
  · obtain ⟨after, outcome, metadata, -⟩ := append_of_commits written commits
    rw [outcome]
    intro snapshot member
    have inMetadata : snapshot ∈
        (metadataOf request handle.state.table).snapshots := by
      rwa [← metadata]
    exact only.mem_metadataOf snapshot inMetadata
  · obtain ⟨after, error, outcome, table⟩ :=
      append_of_not_written codec written handle.state
    rw [outcome]
    intro snapshot member
    exact only snapshot (by rwa [← table])

theorem OnlyAcknowledged.allOrNothing
    (commits : ¬ FailsAtCommit codec handle.state.table request) :
    AllOrNothing codec initial handle request := by
  rw [AllOrNothing]
  by_cases written : DataFileWritten request
  · obtain ⟨after, outcome, -, file⟩ := append_of_commits written commits
    rw [outcome]
    exact ⟨_, file, only.mem_metadataOf⟩
  · obtain ⟨after, error, outcome, table⟩ :=
      append_of_not_written codec written handle.state
    rw [outcome]
    dsimp only
    rw [table]
    exact ⟨rfl, rfl, rfl, fun _ => rfl⟩

end

/-- A failure at the commit can be read off the handle. -/
theorem AllOrNothing.not_failsAtCommit
    (all : AllOrNothing codec initial handle request) :
    ¬ FailsAtCommit codec handle.state.table request := by
  intro fails
  obtain ⟨after, error, outcome, metadata⟩ := append_of_failsAtCommit fails
  rw [AllOrNothing, outcome] at all
  have lengths := congrArg List.length all.snapshots
  rw [IcebergTable.snapshots, metadata, metadataOf, TableMetadata.push,
    List.length_append, List.length_singleton, IcebergTable.snapshots]
    at lengths
  omega

end

/--
Every append through a handle is all-or-nothing exactly when none of them
fails once its data file is written.
-/
theorem allOrNothing_iff (codec : MetadataCodec Doc)
    (start : TableState Doc Row) (requests : List (AppendRequest Doc Row)) :
    Along (Handle.perform codec)
        (AllOrNothing codec start.table.snapshots) ⟨start, []⟩ requests ↔
      Along (Handle.perform codec)
        (fun handle request =>
          ¬ FailsAtCommit codec handle.state.table request)
        ⟨start, []⟩ requests := by
  have atStart : OnlyAcknowledged start.table.snapshots
      (⟨start, []⟩ : Handle Doc Row) := fun _ member => Or.inl member
  constructor
  · intro all
    exact all.mono fun _ _ whole => whole.not_failsAtCommit
  · intro commits
    exact Along.imply (fun _ _ only commits => only.perform commits)
      (fun _ _ only commits => only.allOrNothing commits) commits atStart

/-! ## A metadata file that is not written -/

/-- The metadata file of the first append cannot be created. -/
def faultyRequest : AppendRequest TableMetadata Unit :=
  { plainRequest 1 with
    env := { (plainRequest 1).env with metadataFault := some .untouched } }

/--
After an append that returned an error, the handle lists its snapshot, and the
next append commits it.
-/
theorem failed_append_committed :
    ¬ Along (Handle.perform plainCodec)
        (AllOrNothing plainCodec plainStart.table.snapshots) ⟨plainStart, []⟩
        [faultyRequest, plainRequest 2] ∧
      let failed := append plainCodec faultyRequest.env
        faultyRequest.batches plainStart
      let later := append plainCodec (plainRequest 2).env
        (plainRequest 2).batches failed.1
      ¬ Succeeded failed.2 ∧ Succeeded later.2 ∧
        later.1.files.metadata.lookup later.1.table.metadataPath =
          some later.1.table.metadata ∧
        later.1.table.snapshots.map (fun snapshot => snapshot.snapshotId) =
          [snapshotIdOf faultyRequest.env,
            snapshotIdOf (plainRequest 2).env] := by
  constructor
  · intro all
    exact all.1.not_failsAtCommit
      { written :=
          { data := rfl
            created := rfl
            opened := rfl
            batches := fun _ _ => rfl
            closed := rfl }
        fails := Or.inr ⟨.untouched, rfl⟩ }
  · decide

end OpenSnow.Iceberg.FailedAppends
