import OpenSnow.Core.Engine

/-!
# The command handlers

What each handler does once it has read its operands.  Registrations, files and
catalog rows are changed one after the other, and a failure in between leaves
what was done before it.
-/

namespace OpenSnow.Core

open Arrow
open Core.Commands
open Foundation
open Rust.Text

variable {Row Key Location Contents : Type} [DecidableEq Key]
  [DecidableEq Location]

/-- What a command answers. -/
inductive Reply (Row : Type) where
  | batches (batches : List (RecordBatch Row))
  | warehouses (rows : List Warehouse)
  /-- The one status line of a warehouse command. -/
  | status (text : String)
  | loaded (rows : Nat) (file : String)
  | created (rows : Nat)
  | viewCreated (name : String) (rows : Nat)
  | viewRefreshed (name : String) (rows : Nat)
  | viewDropped (name : String)
  | dropped
deriving DecidableEq

def totalRows (batches : List (RecordBatch Row)) : Nat :=
  (batches.map RecordBatch.numRows).sum

/-- The file of a table created by `CREATE TABLE AS` or `COPY INTO`. -/
def publicFile (name : String) : String :=
  "opensnow/public/" ++ name ++ ".parquet"

/-- The file of a materialized view. -/
def viewFile (name : String) : String :=
  "opensnow/materialized_views/" ++ name ++ ".parquet"

section Handlers

variable (platform : Platform Row Key Location Contents)

/-! ## Warehouses -/

def handleShowWarehouses : Handling Row Key Location Contents (Reply Row) := do
  catalogCall platform .listWarehouses "Failed to list warehouses"
  Effect.look fun state => .ok (.warehouses state.warehouses)

/-- A name that is taken violates the uniqueness of `warehouses.name`. -/
def handleCreateWarehouse (spec : WarehouseSpec) :
    Handling Row Key Location Contents (Reply Row) := do
  catalogCall platform .createWarehouse "Failed to create warehouse"
  let taken ← Effect.look fun state =>
    .ok (state.warehouses.any (·.name == spec.name))
  if taken then
    Effect.fail
      (.duplicate
        ("Failed to create warehouse: UNIQUE constraint failed: " ++
          "warehouses.name"))
  else
    Effect.modify fun state =>
      { state with
        warehouses := state.warehouses ++ [⟨spec, "SUSPENDED"⟩] }
    pure (.status ("WAREHOUSE CREATED: " ++ spec.name))

def handleAlterWarehouse (name newState : String) :
    Handling Row Key Location Contents (Reply Row) := do
  catalogCall platform .updateWarehouseState "Failed to alter warehouse"
  let found ← Effect.look fun state =>
    .ok (state.warehouses.any (·.name == name))
  if found then
    Effect.modify fun state =>
      { state with
        warehouses :=
          state.warehouses.map fun warehouse =>
            if warehouse.name = name then
              { warehouse with state := newState }
            else warehouse }
    pure (.status ("WAREHOUSE " ++ name ++ " STATE SET TO " ++ newState))
  else
    Effect.fail
      (.missing
        ("Failed to alter warehouse: Warehouse '" ++ name ++
          "' not found"))

def handleUseWarehouse (name : String) :
    Handling Row Key Location Contents (Reply Row) := do
  catalogCall platform .getWarehouse "Failed to look up warehouse"
  let found ← Effect.look fun state =>
    .ok (state.warehouses.any (·.name == name))
  if found then pure (.status ("WAREHOUSE SET: " ++ name))
  else
    Effect.fail
      (.missing ("Warehouse '" ++ name ++ "' does not exist"))

/-! ## Tables -/

/-- The format that an extension stands for. -/
def sourceFormat : String → Option Format
  | "parquet" | "parq" => some .parquet
  | "csv" | "tsv" => some .csv
  | "json" | "ndjson" => some .json
  | _ => none

/-- The name that `COPY INTO` registers its source under. -/
def copySourceName (tableName : String) : String :=
  "__copy_source_" ++ tableName

def handleCopyInto (tableName sourcePath : String) :
    Handling Row Key Location Contents (Reply Row) := do
  let ext := sourceExtension sourcePath
  let tempName := copySourceName tableName
  match sourceFormat ext with
  | none =>
      Effect.fail
        (.statement
          ("Unsupported file format: ." ++ ext ++
            ". Use .parquet, .csv, or .json"))
  | some format =>
      registerTable platform format tempName sourcePath
      let batches ← runQuery platform ("SELECT * FROM " ++ tempName)
      if batches.isEmpty then
        deregisterTable platform tempName
        pure (.batches [])
      else
        let outPath ←
          writeWarehouseParquet platform ("COPY INTO " ++ tableName)
            (publicFile tableName) batches
        deregisterTable platform tempName
        registerTable platform .parquet tableName outPath
        pure (.loaded (totalRows batches) outPath)

def handleCtas (tableName selectSql : String) :
    Handling Row Key Location Contents (Reply Row) := do
  let batches ← runQuery platform selectSql
  if batches.isEmpty then pure (.batches [])
  else
    let outPath ←
      writeWarehouseParquet platform ("CREATE TABLE " ++ tableName)
        (publicFile tableName) batches
    deregisterTable platform tableName
    registerTable platform .parquet tableName outPath
    pure (.created (totalRows batches))

def handleShowTables : Handling Row Key Location Contents (Reply Row) := do
  let batches ←
    runQuery platform
      ("SELECT table_name FROM information_schema.tables WHERE " ++
        "table_schema = 'public' ORDER BY table_name")
  pure (.batches batches)

def handleShowDatabases : Handling Row Key Location Contents (Reply Row) := do
  let batches ←
    runQuery platform
      ("SELECT DISTINCT table_catalog AS database_name FROM " ++
        "information_schema.tables ORDER BY 1")
  pure (.batches batches)

def handleDescribe (table : String) :
    Handling Row Key Location Contents (Reply Row) := do
  let batches ←
    runQuery platform
      ("SELECT column_name, data_type, is_nullable FROM " ++
        "information_schema.columns WHERE table_name = '" ++
        String.ofList (table.toList.filter (· ≠ '\'')) ++
        "' ORDER BY ordinal_position")
  pure (.batches batches)

/-- The path that `DROP TABLE` looks for a file at. -/
def Platform.droppedPath (table : String) : String :=
  platform.warehousePath ++ "/" ++ publicFile table

def handleDropTable (table : String) :
    Handling Row Key Location Contents (Reply Row) := do
  deregisterTable platform table
  let filePath := platform.droppedPath table
  if ← pathExists platform filePath then
    match ← removeFile platform filePath with
    | some message => Effect.fail (.fault message)
    | none => pure .dropped
  else pure .dropped

/-! ## Materialized views -/

def materializeQueryToParquet (name selectSql : String) :
    Handling Row Key Location Contents (Nat × String) := do
  let batches ← runQuery platform selectSql
  if batches.isEmpty then
    Effect.fail
      (.query "Materialized view query produced no schema (empty result)")
  else
    let outPath ←
      writeWarehouseParquet platform ("materialized view " ++ name)
        (viewFile name) batches
    deregisterTable platform name
    registerTable platform .parquet name outPath
    pure (totalRows batches, outPath)

def handleCreateMaterializedView (name selectSql : String) :
    Handling Row Key Location Contents (Reply Row) := do
  match ← getMaterializedView platform name with
  | some _ =>
      Effect.fail
        (.duplicate ("Materialized view '" ++ name ++ "' already exists"))
  | none =>
      let (rows, outPath) ← materializeQueryToParquet platform name selectSql
      upsertMaterializedView platform
        "Failed to record materialized view in catalog" name selectSql outPath
      pure (.viewCreated name rows)

def viewNotFound (name : String) : Failure :=
  .missing ("Materialized view '" ++ name ++ "' not found")

def handleRefreshMaterializedView (name : String) :
    Handling Row Key Location Contents (Reply Row) := do
  match ← getMaterializedView platform name with
  | none => Effect.fail (viewNotFound name)
  | some view =>
      let (rows, outPath) ← materializeQueryToParquet platform name view.sql
      upsertMaterializedView platform
        "Failed to update materialized view in catalog" name view.sql outPath
      pure (.viewRefreshed name rows)

/-- A file that cannot be removed is only logged. -/
def removeViewFile (view : MaterializedView) :
    Handling Row Key Location Contents Unit := do
  if ← pathExists platform view.parquetPath then
    let _ ← removeFile platform view.parquetPath
    pure ()
  else pure ()

def handleDropMaterializedView (name : String) :
    Handling Row Key Location Contents (Reply Row) := do
  let view ← getMaterializedView platform name
  deregisterTable platform name
  match view with
  | some view => removeViewFile platform view
  | none => pure ()
  let removed ← deleteMaterializedView platform name
  if !removed && view.isNone then Effect.fail (viewNotFound name)
  else pure (.viewDropped name)

/-! ## Commands -/

/-- What a handler does with its operands. -/
def perform : Command → Handling Row Key Location Contents (Reply Row)
  | .showWarehouses => handleShowWarehouses platform
  | .createWarehouse spec => handleCreateWarehouse platform spec
  | .alterWarehouse name state => handleAlterWarehouse platform name state
  | .useWarehouse name => handleUseWarehouse platform name
  | .copyInto tableName sourcePath =>
      handleCopyInto platform tableName sourcePath
  | .ctas tableName selectSql => handleCtas platform tableName selectSql
  | .createMaterializedView name selectSql =>
      handleCreateMaterializedView platform name selectSql
  | .refreshMaterializedView name =>
      handleRefreshMaterializedView platform name
  | .dropMaterializedView name => handleDropMaterializedView platform name
  | .showTables => handleShowTables platform
  | .showDatabases => handleShowDatabases platform
  | .describe table => handleDescribe platform table
  | .dropTable table => handleDropTable platform table

/--
`handle_command`: the outcome of the command, if the text is one, or a panic.
-/
def handleCommand (sql : String) :
    Panics
      (Option (Handling Row Key Location Contents (Reply Row))) :=
  (dispatch sql).map fun dispatched =>
    dispatched.map fun parsed =>
      match parsed with
      | .error message => Effect.fail (.statement message)
      | .ok command => perform platform command

end Handlers

/-- What a path names once `.` and `..` are taken out. -/
def pathComponents (path : String) : List String :=
  (path.toList.splitOnP (· == '/')).foldl
    (fun components component =>
      if component = [] ∨ component = ['.'] then components
      else if component = ['.', '.'] then components.dropLast
      else components ++ [String.ofList component])
    []

/--
A platform without faults, on which every file holds batches of numbers and
every query yields one row.
-/
def smallPlatform :
    Platform Nat String (List String) (List (RecordBatch Nat)) where
  warehousePath := "/warehouse"
  tableKey := toAsciiLowercase
  locate := pathComponents
  fileAt := pathComponents
  encodeParquet := id
  decode _ := .ok
  inferSchema _
    | some _ => .ok ()
    | none => .error "no files found"
  query _ _ := .ok [⟨[], [1]⟩]
  writeFault _ _ := none
  removeFault _ _ := none
  catalogFault _ _ := none

end OpenSnow.Core
