import Mathlib.Algebra.GroupWithZero.Nat
import OpenSnow.Arrow.RecordBatch
import OpenSnow.Foundation.Listing
import OpenSnow.Rust.Path

/-!
# Iceberg tables

Table metadata, snapshots, and the three ways to come by or change a table:
creating it, opening it and appending to it.

The clock, the snapshot counter and I/O failures come from outside; the JSON
form of the metadata is a codec whose decoder inverts its encoder.
-/

namespace OpenSnow.Iceberg.Table

open Arrow
open Foundation.Listing
open Rust.Path

/-! ## Metadata -/

inductive SnapshotOperation where
  | append
  | overwrite
  | delete
deriving DecidableEq, Repr

structure SnapshotSummary where
  addedDataFiles : Nat
  deletedDataFiles : Nat
  addedRecords : Nat
  deletedRecords : Nat
  totalRecords : Nat
  totalDataFiles : Nat
deriving DecidableEq, Repr

/-- A snapshot: a point-in-time state of a table. -/
structure Snapshot where
  snapshotId : Int
  parentSnapshotId : Option Int
  timestampMs : Int
  operation : SnapshotOperation
  manifestList : String
  summary : SnapshotSummary
deriving DecidableEq, Repr

/-- `Snapshot::new_append`, with the time it reads as its first argument. -/
def Snapshot.newAppend
    (timestampMs snapshotId : Int) (parent : Option Int)
    (manifestList : String)
    (addedFiles addedRecords totalRecords totalFiles : Nat) : Snapshot where
  snapshotId := snapshotId
  parentSnapshotId := parent
  timestampMs := timestampMs
  operation := .append
  manifestList := manifestList
  summary :=
    { addedDataFiles := addedFiles
      deletedDataFiles := 0
      addedRecords := addedRecords
      deletedRecords := 0
      totalRecords := totalRecords
      totalDataFiles := totalFiles }

structure SchemaField where
  id : Nat
  name : String
  type : String
  required : Bool
deriving DecidableEq, Repr

structure TableSchema where
  schemaId : Nat
  fields : List SchemaField
deriving DecidableEq, Repr

structure TableMetadata where
  formatVersion : Nat
  tableUuid : String
  location : String
  schema : TableSchema
  currentSnapshotId : Option Int
  snapshots : List Snapshot
  properties : List (String × String)
deriving DecidableEq, Repr

/-- The JSON form of table metadata. -/
structure MetadataCodec (Doc : Type) where
  encode : TableMetadata → Option Doc
  decode : Doc → Option TableMetadata
  decode_encode : ∀ metadata doc, encode metadata = some doc →
    decode doc = some metadata

/-! ## Files -/

/-- A Parquet file: finished with its batches, or given up half-way. -/
inductive DataFile (Row : Type) where
  | finished (batches : List (RecordBatch Row))
  | unfinished
deriving DecidableEq, Repr

/--
The `metadata` and `data` directories of a table location.  A directory that
does not exist yet is an empty one.
-/
structure TableFiles (Doc Row : Type) where
  metadata : Directory Doc
  data : Directory (DataFile Row)

/-- The name of a version of the metadata. -/
def versionFileName (version : Nat) : String :=
  "v" ++ toString version ++ ".metadata.json"

/-- The directory entries that `open` considers. -/
def isJson (name : String) : Bool :=
  extension name = some "json"

/--
A handle on a table.  `metadataPath` and `dataDir` are the name of the
metadata file in the `metadata` directory and the text of the data directory.
-/
structure IcebergTable where
  metadata : TableMetadata
  metadataPath : String
  dataDir : String
deriving DecidableEq, Repr

/-! ## Creating and opening -/

/-- The field list of a new table. -/
def schemaFields (schema : Schema) : List SchemaField :=
  schema.zipIdx.map fun (field, index) =>
    { id := index % 2 ^ 32 + 1
      name := field.name
      type := field.dataType
      required := !field.nullable }

variable {Doc Row : Type}

/--
Create a new table at a location; `none` when the metadata does not serialise.
-/
def create (codec : MetadataCodec Doc) (tableUuid location : String)
    (schema : Schema) (files : TableFiles Doc Row) :
    Option (IcebergTable × TableFiles Doc Row) :=
  let metadata : TableMetadata :=
    { formatVersion := 2
      tableUuid, location
      schema := { schemaId := 0, fields := schemaFields schema }
      currentSnapshotId := none
      snapshots := []
      properties := [] }
  match codec.encode metadata with
  | none => none
  | some json =>
      some
        ({ metadata
           metadataPath := "v1.metadata.json"
           dataDir := joinPath location "data" },
         { files with
           metadata := files.metadata.insert "v1.metadata.json" json })

/-- The ways `open` can fail. -/
inductive OpenError where
  /-- "No metadata found at …". -/
  | noMetadata (location : String)
  /-- The latest metadata file does not parse. -/
  | parse
deriving DecidableEq, Repr

/-- Open an existing table. -/
def openTable (codec : MetadataCodec Doc) (location : String)
    (files : TableFiles Doc Row) : Except OpenError IcebergTable :=
  match latest isJson files.metadata with
  | none => .error (.noMetadata location)
  | some metadataPath =>
      match (files.metadata.lookup metadataPath).bind codec.decode with
      | none => .error .parse
      | some metadata =>
          .ok { metadata, metadataPath, dataDir := joinPath location "data" }

/-! ## Appending -/

/-- What happens to a metadata file that cannot be written completely. -/
inductive MetadataFault (Doc : Type) where
  | untouched
  | torn (left : Doc)

/-- What an append reads from, or suffers at, the outside. -/
structure AppendEnv (Doc : Type) where
  /-- `Utc::now().timestamp_millis()` for the snapshot id. -/
  idMs : Int
  /-- `COUNTER.fetch_add(1)`. -/
  counter : Int
  /-- `Utc::now().timestamp_millis()` in `Snapshot::new_append`. -/
  timestampMs : Int
  createDataFileFails : Bool
  openWriterFails : Bool
  /-- Writing the batch with this index fails. -/
  writeBatchFails : Nat → Bool
  closeWriterFails : Bool
  metadataFault : Option (MetadataFault Doc)

/-- The ways `append` can fail. -/
inductive AppendError where
  /-- "No data to append". -/
  | noData
  | createDataFile
  | openWriter
  | writeBatch (index : Nat)
  | closeWriter
  | serializeMetadata
  | writeMetadata
deriving DecidableEq, Repr

/-- A handle and the files it works on. -/
structure TableState (Doc Row : Type) where
  table : IcebergTable
  files : TableFiles Doc Row

def snapshotIdOf (env : AppendEnv Doc) : Int :=
  env.idMs * 1000 + env.counter

/-- The first part of `append`: write the data file. -/
def writeDataFile (env : AppendEnv Doc) (batches : List (RecordBatch Row))
    (files : TableFiles Doc Row) :
    TableFiles Doc Row × Except AppendError Nat :=
  let name := toString (snapshotIdOf env) ++ ".parquet"
  let leave (content : DataFile Row) : TableFiles Doc Row :=
    { files with data := files.data.insert name content }
  if batches.isEmpty then (files, .error .noData)
  else if env.createDataFileFails then (files, .error .createDataFile)
  else if env.openWriterFails then (leave .unfinished, .error .openWriter)
  else
    match (List.range batches.length).find? env.writeBatchFails with
    | some index => (leave .unfinished, .error (.writeBatch index))
    | none =>
        if env.closeWriterFails then
          (leave .unfinished, .error .closeWriter)
        else
          (leave (.finished batches),
            .ok (batches.map RecordBatch.numRows).sum)

/-- The snapshot that an append of `totalRows` rows adds. -/
def nextSnapshot (env : AppendEnv Doc) (table : IcebergTable)
    (totalRows : Nat) : Snapshot :=
  let previous := table.metadata.snapshots.getLast?.map Snapshot.summary
  Snapshot.newAppend env.timestampMs (snapshotIdOf env)
    table.metadata.currentSnapshotId
    (joinPath table.dataDir (toString (snapshotIdOf env) ++ ".parquet"))
    1 totalRows
    ((previous.map SnapshotSummary.totalRecords).getD 0 + totalRows)
    ((previous.map SnapshotSummary.totalDataFiles).getD 0 + 1)

/-- The metadata with one more snapshot, which becomes the current one. -/
def TableMetadata.push (metadata : TableMetadata) (snapshot : Snapshot) :
    TableMetadata :=
  { metadata with
    currentSnapshotId := some snapshot.snapshotId
    snapshots := metadata.snapshots ++ [snapshot] }

/--
Append data as a new snapshot.  The metadata held by the handle changes before
the metadata file is written.
-/
def append (codec : MetadataCodec Doc) (env : AppendEnv Doc)
    (batches : List (RecordBatch Row)) (state : TableState Doc Row) :
    TableState Doc Row × Except AppendError Snapshot :=
  match writeDataFile env batches state.files with
  | (files, .error error) => ({ state with files }, .error error)
  | (files, .ok totalRows) =>
      let snapshot := nextSnapshot env state.table totalRows
      let metadata := state.table.metadata.push snapshot
      let changed := { state.table with metadata }
      let newMetadataPath := versionFileName metadata.snapshots.length
      match codec.encode metadata with
      | none =>
          ({ table := changed, files }, .error .serializeMetadata)
      | some json =>
          match env.metadataFault with
          | some .untouched =>
              ({ table := changed, files }, .error .writeMetadata)
          | some (.torn left) =>
              ({ table := changed
                 files :=
                  { files with
                    metadata := files.metadata.insert newMetadataPath left } },
                .error .writeMetadata)
          | none =>
              ({ table := { changed with metadataPath := newMetadataPath }
                 files :=
                  { files with
                    metadata := files.metadata.insert newMetadataPath json } },
                .ok snapshot)

/-! ## Reading -/

def IcebergTable.snapshots (table : IcebergTable) : List Snapshot :=
  table.metadata.snapshots

def IcebergTable.currentSnapshotId (table : IcebergTable) : Option Int :=
  table.metadata.currentSnapshotId

/-- The data files of the current snapshot. -/
def IcebergTable.dataFiles (table : IcebergTable) : List String :=
  table.metadata.snapshots.map Snapshot.manifestList

/-- The data files visible at a given time. -/
def IcebergTable.dataFilesAt (table : IcebergTable) (timestampMs : Int) :
    List String :=
  (table.metadata.snapshots.filter
    fun snapshot => snapshot.timestampMs ≤ timestampMs).map
      Snapshot.manifestList

/-! ## What a successful call did -/

theorem openTable_of_latest {codec : MetadataCodec Doc} {name : String}
    {files : TableFiles Doc Row} {json : Doc} {metadata : TableMetadata}
    (isLatest : latest isJson files.metadata = some name)
    (present : files.metadata.lookup name = some json)
    (decoded : codec.decode json = some metadata) (location : String) :
    openTable codec location files =
      .ok
        { metadata
          metadataPath := name
          dataDir := joinPath location "data" } := by
  simp [openTable, isLatest, present, decoded]

theorem writeDataFile_metadata (env : AppendEnv Doc)
    (batches : List (RecordBatch Row)) (files : TableFiles Doc Row) :
    (writeDataFile env batches files).1.metadata = files.metadata := by
  unfold writeDataFile
  dsimp only
  repeat' split
  all_goals rfl

/-- Everything a successful append does to handle and metadata directory. -/
theorem append_ok {codec : MetadataCodec Doc} {env : AppendEnv Doc}
    {batches : List (RecordBatch Row)} {state after : TableState Doc Row}
    {snapshot : Snapshot}
    (ok : append codec env batches state = (after, .ok snapshot)) :
    after.table.metadata = state.table.metadata.push snapshot ∧
      ∃ json, codec.encode (state.table.metadata.push snapshot) = some json ∧
        after.files.metadata =
          state.files.metadata.insert
            (versionFileName (state.table.metadata.snapshots.length + 1))
            json := by
  have metadataKept := writeDataFile_metadata env batches state.files
  unfold append at ok
  rcases written : writeDataFile env batches state.files
    with ⟨files, error | totalRows⟩
  · simp [written] at ok
  · have filesKept : files.metadata = state.files.metadata := by
      rw [written] at metadataKept
      exact metadataKept
    simp only [written] at ok
    cases encoded :
        codec.encode
          (state.table.metadata.push
            (nextSnapshot env state.table totalRows)) with
    | none => simp [encoded] at ok
    | some json =>
        rcases fault : env.metadataFault with _ | _ | left
        · simp only [encoded, fault, Prod.mk.injEq, Except.ok.injEq] at ok
          rcases ok with ⟨rfl, rfl⟩
          refine ⟨rfl, json, encoded, ?_⟩
          simp [filesKept, TableMetadata.push]
        · simp [encoded, fault] at ok
        · simp [encoded, fault] at ok

end OpenSnow.Iceberg.Table
