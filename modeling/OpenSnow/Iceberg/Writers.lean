import Mathlib.Logic.Function.Basic
import OpenSnow.Iceberg.Durability

/-!
# Several writers of one Iceberg table

Every handle caches the metadata it opened or last wrote, and an append writes
the cached snapshot list plus one under a name made from its length.  Nothing
compares the cache with the directory, so a handle that is behind writes over,
or beside, what others committed.
-/

namespace OpenSnow.Iceberg.Writers

open Arrow
open Foundation.Listing
open Iceberg.Durability
open Iceberg.Table

variable {Writer Doc Row : Type} [DecidableEq Writer]

/-- The handles of all writers, the files they share, and what was returned. -/
structure SharedTable (Writer Doc Row : Type) where
  handles : Writer → Option IcebergTable
  files : TableFiles Doc Row
  /-- The snapshots of the appends that returned `Ok`, newest first. -/
  acked : List Snapshot

/-- One call of `open` or `append` by one writer. -/
inductive Call (Writer Doc Row : Type) where
  | opens (writer : Writer)
  | appends (writer : Writer) (request : AppendRequest Doc Row)

/-- A call that returns `Ok`; `none` when it would not. -/
def step (codec : MetadataCodec Doc) (location : String)
    (state : SharedTable Writer Doc Row) :
    Call Writer Doc Row → Option (SharedTable Writer Doc Row)
  | .opens writer =>
      match openTable codec location state.files with
      | .error _ => none
      | .ok table =>
          some
            { state with
              handles := Function.update state.handles writer (some table) }
  | .appends writer request =>
      match state.handles writer with
      | none => none
      | some table =>
          match append codec request.env request.batches
              ⟨table, state.files⟩ with
          | (_, .error _) => none
          | (after, .ok snapshot) =>
              some
                { handles :=
                    Function.update state.handles writer (some after.table)
                  files := after.files
                  acked := snapshot :: state.acked }

/-- The calls one after the other. -/
def run (codec : MetadataCodec Doc) (location : String)
    (state : SharedTable Writer Doc Row)
    (calls : List (Call Writer Doc Row)) :
    Option (SharedTable Writer Doc Row) :=
  calls.foldlM (step codec location) state

/-- The snapshots in the metadata that `open` selects, if it selects any. -/
def selectedSnapshots (codec : MetadataCodec Doc) (location : String)
    (files : TableFiles Doc Row) : List Snapshot :=
  match openTable codec location files with
  | .ok table => table.metadata.snapshots
  | .error _ => []

/-- What was acknowledged is in the metadata that `open` selects. -/
def AckedSelected (codec : MetadataCodec Doc) (location : String)
    (state : SharedTable Writer Doc Row) : Prop :=
  ∀ snapshot ∈ state.acked,
    snapshot ∈ selectedSnapshots codec location state.files

instance (codec : MetadataCodec Doc) (location : String)
    (state : SharedTable Writer Doc Row) :
    Decidable (AckedSelected codec location state) :=
  inferInstanceAs (Decidable (∀ snapshot ∈ _, _))

/--
The handle caches the metadata that `open` would read, and no `.json` file
sorts behind the version it is about to write.
-/
def UpToDate (codec : MetadataCodec Doc) (location : String)
    (files : TableFiles Doc Row) (table : IcebergTable) : Prop :=
  (openTable codec location files).toOption.map IcebergTable.metadata =
      some table.metadata ∧
    ∀ name ∈ files.metadata.keys, isJson name = true →
      name ≤ versionFileName (table.metadata.snapshots.length + 1)

instance (codec : MetadataCodec Doc) (location : String)
    (files : TableFiles Doc Row) (table : IcebergTable) :
    Decidable (UpToDate codec location files table) :=
  inferInstanceAs (Decidable (_ ∧ ∀ name ∈ _, _ → _))

/-- An append goes through a handle that is up to date. -/
def CallUpToDate (codec : MetadataCodec Doc) (location : String)
    (state : SharedTable Writer Doc Row) : Call Writer Doc Row → Prop
  | .opens _ => True
  | .appends writer _ =>
      ∀ table, state.handles writer = some table →
        UpToDate codec location state.files table

/-- Every append of the run goes through a handle that is up to date. -/
def AllUpToDate (codec : MetadataCodec Doc) (location : String) :
    SharedTable Writer Doc Row → List (Call Writer Doc Row) → Prop
  | _, [] => True
  | state, call :: rest =>
      CallUpToDate codec location state call ∧
        ∀ next, step codec location state call = some next →
          AllUpToDate codec location next rest

/-! ## Appends by up-to-date writers -/

variable {codec : MetadataCodec Doc} {location : String}

/-- An append whose version sorts last is what `open` reads next. -/
theorem open_after_append
    {env : AppendEnv Doc} {batches : List (RecordBatch Row)}
    {state after : TableState Doc Row} {snapshot : Snapshot}
    (ok : append codec env batches state = (after, .ok snapshot))
    (last : ∀ name ∈ state.files.metadata, isJson name = true →
      name ≤ versionFileName (state.table.metadata.snapshots.length + 1)) :
    ∃ table, openTable codec location after.files = .ok table ∧
      table.metadata = state.table.metadata.push snapshot := by
  rcases append_ok ok with ⟨-, json, encoded, files⟩
  have isLatest :=
    (latest_insert json
      (isJson_versionFileName
        (state.table.metadata.snapshots.length + 1))).mpr last
  have present :
      after.files.metadata.lookup
          (versionFileName (state.table.metadata.snapshots.length + 1)) =
        some json := by
    rw [files, Finmap.lookup_insert]
  rw [← files] at isLatest
  exact
    ⟨_, openTable_of_latest isLatest present
      (codec.decode_encode _ _ encoded) location, rfl⟩

theorem selectedSnapshots_of_current {files : TableFiles Doc Row}
    {metadata : TableMetadata} (current :
      (openTable codec location files).toOption.map IcebergTable.metadata =
        some metadata) :
    selectedSnapshots codec location files = metadata.snapshots := by
  unfold selectedSnapshots
  cases opened : openTable codec location files with
  | error error => simp [opened, Except.toOption] at current
  | ok table =>
      simp only [opened, Except.toOption, Option.map_some,
        Option.some.injEq] at current
      rw [← current]

theorem AckedSelected.step
    {state next : SharedTable Writer Doc Row} {call : Call Writer Doc Row}
    (selected : AckedSelected codec location state)
    (upToDate : CallUpToDate codec location state call)
    (steps : step codec location state call = some next) :
    AckedSelected codec location next := by
  cases call with
  | opens writer =>
      simp only [Writers.step] at steps
      split at steps
      · cases steps
      · rw [Option.some.injEq] at steps
        rw [← steps]
        exact selected
  | appends writer request =>
      simp only [Writers.step] at steps
      split at steps
      · cases steps
      · rename_i table held
        split at steps
        · cases steps
        · rename_i after snapshot ok
          rw [Option.some.injEq] at steps
          rcases upToDate table held with ⟨same, last⟩
          rcases open_after_append ok
              (fun name present => last name (Finmap.mem_keys.mpr present))
            with ⟨reopened, reopens, metadata⟩
          rw [← steps]
          intro acked member
          rw [selectedSnapshots, reopens]
          simp only [metadata, TableMetadata.push, List.mem_append,
            List.mem_singleton]
          rcases List.mem_cons.mp member with isNew | old
          · exact Or.inr isNew
          · have present := selected acked old
            rw [selectedSnapshots_of_current same] at present
            exact Or.inl present

/-- A table nobody has opened yet. -/
def plainShared : SharedTable Bool TableMetadata Unit where
  handles := fun _ => none
  files := plainStart.files
  acked := []

end OpenSnow.Iceberg.Writers
