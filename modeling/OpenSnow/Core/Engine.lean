import OpenSnow.Arrow.RecordBatch
import OpenSnow.Core.Commands
import OpenSnow.Foundation.Effect
import OpenSnow.Rust.Path

/-!
# The engine under the command handlers

The session's tables, the files of the warehouse and the rows of the catalog
are three stores.  The query engine, the readers of file formats, the file
system and the faults of all of these are parameters of the platform.
-/

namespace OpenSnow.Core

open Arrow
open Core.Commands
open Foundation
open Rust.Path
open Rust.Text

/-! ## State -/

/-- The file formats that a table can be registered with. -/
inductive Format where
  | parquet
  | csv
  | json
deriving DecidableEq, Repr

/-- What a name is registered as. -/
inductive TableSource (Row : Type) where
  | file (format : Format) (path : String)
  | memory (batches : List (RecordBatch Row))
deriving DecidableEq

/-- The row of `materialized_views` under a name. -/
structure MaterializedView where
  sql : String
  parquetPath : String
deriving DecidableEq, Repr

/-- A row of `warehouses`. -/
structure Warehouse extends WarehouseSpec where
  state : String
deriving DecidableEq, Repr

variable {Row Key Location Contents : Type}

structure EngineState (Row Key Location Contents : Type) where
  /-- The tables of the session. -/
  tables : Key → Option (TableSource Row)
  files : Location → Option Contents
  /-- The rows of `materialized_views` by name. -/
  views : String → Option MaterializedView
  warehouses : List Warehouse
  /-- The files that were written or removed, the last one first. -/
  touched : List Location

/-- Why a command is answered with an error. -/
inductive Failure where
  /-- The text of the statement. -/
  | statement (message : String)
  | missing (message : String)
  | duplicate (message : String)
  /-- Planning or running a query, or reading a source. -/
  | query (message : String)
  /-- The file system, the object store or the catalog. -/
  | fault (message : String)
deriving DecidableEq, Repr

/-- The calls of the catalog that the handlers make. -/
inductive CatalogCall where
  | listWarehouses
  | createWarehouse
  | updateWarehouseState
  | getWarehouse
  | getMaterializedView
  | upsertMaterializedView
  | deleteMaterializedView
deriving DecidableEq, Repr

/-- What went wrong with a write, and what the file holds then. -/
structure WriteFault (Contents : Type) where
  message : String
  left : Option Contents

/-- What the engine is built on. -/
structure Platform (Row Key Location Contents : Type) where
  warehousePath : String
  /-- How the session reads a table name. -/
  tableKey : String → Key
  /-- What the query engine finds at a path or an object URL. -/
  locate : String → Location
  /-- What the file system finds at a path. -/
  fileAt : String → Location
  encodeParquet : List (RecordBatch Row) → Contents
  /-- The batches that a file yields when it is read in a format. -/
  decode : Format → Contents → Except String (List (RecordBatch Row))
  /-- Whether a table can be registered on what is found at its path. -/
  inferSchema : Format → Option Contents → Except String Unit
  /-- Planning and collecting a query. -/
  query : EngineState Row Key Location Contents → String →
    Except String (List (RecordBatch Row))
  writeFault : EngineState Row Key Location Contents → String →
    Option (WriteFault Contents)
  removeFault : EngineState Row Key Location Contents → String →
    Option String
  catalogFault : EngineState Row Key Location Contents → CatalogCall →
    Option String

/-! ## Paths -/

def objectStoreSchemes : List String :=
  ["s3://", "gs://", "gcs://", "az://", "azure://", "abfs://"]

def isObjectStoreUrl (path : String) : Bool :=
  objectStoreSchemes.any (startsWith path ·)

/-- `Path::file_name`. -/
def fileName (path : String) : Option String :=
  let components :=
    (path.toList.splitOnP (· == '/')).filter fun component =>
      !component.isEmpty && component != ['.']
  match components.getLast? with
  | none => none
  | some last =>
      if last = ['.', '.'] then none else some (String.ofList last)

/--
The lower-case extension of a path.  Letters outside ASCII are left alone; only
the text of an error can show them.
-/
def sourceExtension (path : String) : String :=
  toAsciiLowercase (((fileName path).bind extension).getD "parquet")

namespace Platform

variable (platform : Platform Row Key Location Contents)

def warehouseIsRemote : Bool := isObjectStoreUrl platform.warehousePath

def warehouseUri (relative : String) : String :=
  String.ofList
    (trimEndMatches '/' platform.warehousePath.toList ++
      '/' :: relative.toList.dropWhile (· == '/'))

/-- Where a write to a path of the warehouse goes. -/
def writeLocation (uri : String) : Location :=
  if platform.warehouseIsRemote then platform.locate uri
  else platform.fileAt uri

/-- The rows that a registered table yields. -/
def scan (state : EngineState Row Key Location Contents) (key : Key) :
    Option (Except String (List (RecordBatch Row))) :=
  (state.tables key).map fun source =>
    match source with
    | .memory batches => .ok batches
    | .file format path =>
        match state.files (platform.locate path) with
        | none => .error ("no file at " ++ path)
        | some contents => platform.decode format contents

end Platform

/-! ## Primitive steps -/

/-- A step of a handler. -/
abbrev Handling (Row Key Location Contents Value : Type) : Type :=
  Effect (EngineState Row Key Location Contents) Failure Value

section Steps

variable [DecidableEq Key] [DecidableEq Location]
  (platform : Platform Row Key Location Contents)

/-- Planning a query and collecting its batches. -/
def runQuery (sql : String) :
    Handling Row Key Location Contents (List (RecordBatch Row)) :=
  Effect.look fun state => (platform.query state sql).mapError .query

/-- `SessionContext::deregister_table`, which takes any name. -/
def deregisterTable (name : String) :
    Handling Row Key Location Contents Unit :=
  Effect.modify fun state =>
    { state with
      tables := Function.update state.tables (platform.tableKey name) none }

/-- `SessionContext::register_parquet` and its siblings. -/
def registerTable (format : Format) (name path : String) :
    Handling Row Key Location Contents Unit := fun state =>
  match
    platform.inferSchema format (state.files (platform.locate path))
  with
  | .error message => (.error (.query message), state)
  | .ok () =>
      match state.tables (platform.tableKey name) with
      | some _ =>
          (.error
            (.duplicate ("The table " ++ name ++ " already exists")), state)
      | none =>
          (.ok (),
            { state with
              tables :=
                Function.update state.tables (platform.tableKey name)
                  (some (.file format path)) })

/-- `write_warehouse_parquet`. -/
def writeWarehouseParquet (what relative : String)
    (batches : List (RecordBatch Row)) :
    Handling Row Key Location Contents String := fun state =>
  let uri := platform.warehouseUri relative
  let location := platform.writeLocation uri
  match platform.writeFault state uri with
  | some wrong =>
      (.error (.fault (what ++ ": " ++ wrong.message)),
        { state with
          files := Function.update state.files location wrong.left
          touched := location :: state.touched })
  | none =>
      (.ok uri,
        { state with
          files :=
            Function.update state.files location
              (some (platform.encodeParquet batches))
          touched := location :: state.touched })

/-- `Path::exists`. -/
def pathExists (path : String) : Handling Row Key Location Contents Bool :=
  Effect.look fun state => .ok (state.files (platform.fileAt path)).isSome

/-- `std::fs::remove_file`: the error of a file that is left, if it is. -/
def removeFile (path : String) :
    Handling Row Key Location Contents (Option String) := fun state =>
  let location := platform.fileAt path
  match platform.removeFault state path with
  | some message => (.ok (some message), state)
  | none =>
      (.ok none,
        { state with
          files := Function.update state.files location none
          touched := location :: state.touched })

/-- A call of the catalog fails with the handler's own message. -/
def catalogCall (call : CatalogCall) (what : String) :
    Handling Row Key Location Contents Unit :=
  Effect.look fun state =>
    match platform.catalogFault state call with
    | some message => .error (.fault (what ++ ": " ++ message))
    | none => .ok ()

def getMaterializedView (name : String) :
    Handling Row Key Location Contents (Option MaterializedView) := do
  catalogCall platform .getMaterializedView "catalog error"
  Effect.look fun state => .ok (state.views name)

def upsertMaterializedView (what name sql parquetPath : String) :
    Handling Row Key Location Contents Unit := do
  catalogCall platform .upsertMaterializedView what
  Effect.modify fun state =>
    { state with
      views := Function.update state.views name (some ⟨sql, parquetPath⟩) }

/-- Whether there was a row to delete. -/
def deleteMaterializedView (name : String) :
    Handling Row Key Location Contents Bool := do
  catalogCall platform .deleteMaterializedView "catalog error"
  let removed ← Effect.look fun state => .ok (state.views name).isSome
  Effect.modify fun state =>
    { state with views := Function.update state.views name none }
  pure removed

end Steps

end OpenSnow.Core
