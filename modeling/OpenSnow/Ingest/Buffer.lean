import Mathlib.Data.Multiset.AddSub
import Mathlib.Logic.Relation
import OpenSnow.Ingest.Registration
import OpenSnow.Rust.Path

/-!
# The streaming ingest buffer

Rows accumulate in memory per tenant and table.  A flush takes the whole
buffer, writes one Parquet file per key and puts the rows of a failed write
back.  The lock on the buffer is held for the drain, for each re-buffering and
for the final statistics, but not in between, so pushes and other flushes may
run while a flush holds rows of its own.

Each critical section is one step.  How a path is resolved to a directory of
the file system is a parameter.
-/

namespace OpenSnow.Ingest.Buffer

open Ingest.Registration
open Rust.Path

/-- Tenant id and unqualified table name. -/
abbrev Key := String × String

variable {Row Dir : Type*}

/-! ## The buffer -/

/-- `entry(key).or_default().extend(rows)`. -/
def extendEntry (key : Key) (rows : List Row) :
    List (Key × List Row) → List (Key × List Row)
  | [] => [(key, rows)]
  | entry :: rest =>
      if entry.1 = key then (key, entry.2 ++ rows) :: rest
      else entry :: extendEntry key rows rest

/-- What the mutex guards. -/
structure BufferState (Row : Type*) where
  buffers : List (Key × List Row)
  lastFlush : Option Int
  totalRowsFlushed : Nat
  totalFilesFlushed : Nat

def BufferState.default : BufferState Row where
  buffers := []
  lastFlush := none
  totalRowsFlushed := 0
  totalFilesFlushed := 0

/-- `state.buffers.values().map(|v| v.len()).sum()`. -/
def BufferState.bufferedRows (state : BufferState Row) : Nat :=
  (state.buffers.map fun entry => entry.2.length).sum

/-- Append rows under a key; the second component is the new buffer size. -/
def BufferState.push (state : BufferState Row) (key : Key)
    (rows : List Row) : BufferState Row × Nat :=
  let pushed := { state with buffers := extendEntry key rows state.buffers }
  (pushed, pushed.bufferedRows)

/-! ## Files -/

/-- The directory that `write_table_parquet` creates files in. -/
def tableDir (warehouse : String) (key : Key) : String :=
  joinPath (joinPath (joinPath warehouse key.1) "ingest") key.2

/-- The path of a Parquet file: its directory and its time stamp. -/
structure ParquetPath where
  dir : String
  stamp : String
deriving DecidableEq, Repr

/-- The text of the path. -/
def ParquetPath.text (path : ParquetPath) : String :=
  joinPath path.dir (path.stamp ++ ".parquet")

/-- Description of a Parquet file produced by a flush. -/
structure FlushedTable where
  tenantId : String
  tableName : String
  registeredAs : String
  parquetPath : ParquetPath
  rows : Nat
deriving DecidableEq, Repr

def FlushedTable.key (table : FlushedTable) : Key :=
  (table.tenantId, table.tableName)

/-- The descriptor of a file that was written for a key. -/
def flushedTable (warehouse : String) (key : Key) (stamp : String)
    (rows : List Row) : FlushedTable where
  tenantId := key.1
  tableName := key.2
  registeredAs := registeredTableName key.1 key.2
  parquetPath := ⟨tableDir warehouse key, stamp⟩
  rows := rows.length

/-! ## Flushes -/

/-- The local variables of a running `flush_to_disk`. -/
structure Flush (Row : Type*) where
  /-- What is left of the drained buffer. -/
  drained : List (Key × List Row)
  flushed : List FlushedTable
  totalRows : Nat

/-- A flush that has just drained the buffer. -/
def Flush.start (drained : List (Key × List Row)) : Flush Row where
  drained := drained
  flushed := []
  totalRows := 0

/-- The buffer, the running flushes, the files, and what happened so far. -/
structure World (Row Dir : Type*) where
  state : BufferState Row
  flushes : List (Flush Row)
  /-- Contents of the files, by directory and stamp. -/
  files : Dir → String → Option (List Row)
  /-- The batches given to `push`. -/
  pushed : List (Key × List Row)
  /-- The descriptors that completed flushes returned. -/
  reported : List FlushedTable

/-- Nothing pushed, nothing written. -/
def World.initial : World Row Dir where
  state := .default
  flushes := []
  files := fun _ _ => none
  pushed := []
  reported := []

/-- The contents of a written file, empty if there is no such file. -/
def fileRows (resolve : String → Dir) (files : Dir → String → Option (List Row))
    (table : FlushedTable) : List Row :=
  (files (resolve table.parquetPath.dir) table.parquetPath.stamp).getD []

/-- `File::create` and a complete write. -/
def writeFile [DecidableEq Dir] (resolve : String → Dir)
    (files : Dir → String → Option (List Row))
    (path : ParquetPath) (rows : List Row) : Dir → String → Option (List Row) :=
  fun dir stamp =>
    if dir = resolve path.dir ∧ stamp = path.stamp then some rows
    else files dir stamp

/--
One critical section of `push` or of one of the running flushes.  The stamp of
a successful write is new in its directory.
-/
inductive Step [DecidableEq Dir] (warehouse : String)
    (resolve : String → Dir) : World Row Dir → World Row Dir → Prop where
  | push (world : World Row Dir) (key : Key) (rows : List Row) :
      Step warehouse resolve world
        { world with
          state := (world.state.push key rows).1
          pushed := (key, rows) :: world.pushed }
  /-- A flush takes the buffer; a hash map iterates in any order. -/
  | drain (world : World Row Dir) (drained : List (Key × List Row))
      (anyOrder : drained.Perm world.state.buffers) :
      Step warehouse resolve world
        { world with
          state := { world.state with buffers := [] }
          flushes := Flush.start drained :: world.flushes }
  | skipEmpty (world : World Row Dir) (before after : List (Flush Row))
      (flush : Flush Row) (key : Key) (rest : List (Key × List Row))
      (running : world.flushes = before ++ flush :: after)
      (next : flush.drained = (key, []) :: rest) :
      Step warehouse resolve world
        { world with
          flushes := before ++ { flush with drained := rest } :: after }
  /-- The write fails and the rows go back into the buffer. -/
  | rebuffer (world : World Row Dir) (before after : List (Flush Row))
      (flush : Flush Row) (key : Key) (rows : List Row)
      (rest : List (Key × List Row))
      (running : world.flushes = before ++ flush :: after)
      (next : flush.drained = (key, rows) :: rest)
      (nonempty : rows ≠ []) :
      Step warehouse resolve world
        { world with
          state :=
            { world.state with
              buffers := extendEntry key rows world.state.buffers }
          flushes := before ++ { flush with drained := rest } :: after }
  | written (world : World Row Dir) (before after : List (Flush Row))
      (flush : Flush Row) (key : Key) (rows : List Row)
      (rest : List (Key × List Row)) (stamp : String)
      (running : world.flushes = before ++ flush :: after)
      (next : flush.drained = (key, rows) :: rest)
      (nonempty : rows ≠ [])
      (newStamp :
        world.files (resolve (tableDir warehouse key)) stamp = none) :
      Step warehouse resolve world
        { world with
          files :=
            writeFile resolve world.files ⟨tableDir warehouse key, stamp⟩ rows
          flushes :=
            before ++
              { drained := rest
                flushed :=
                  flush.flushed ++ [flushedTable warehouse key stamp rows]
                totalRows := flush.totalRows + rows.length } :: after }
  /-- The flush updates the statistics and returns its descriptors. -/
  | finish (world : World Row Dir) (before after : List (Flush Row))
      (flush : Flush Row) (now : Int)
      (running : world.flushes = before ++ flush :: after)
      (next : flush.drained = []) :
      Step warehouse resolve world
        { world with
          state :=
            { world.state with
              lastFlush := some now
              totalRowsFlushed :=
                world.state.totalRowsFlushed + flush.totalRows
              totalFilesFlushed :=
                world.state.totalFilesFlushed + flush.flushed.length }
          flushes := before ++ after
          reported := world.reported ++ flush.flushed }

/-- The worlds that pushes and flushes can reach. -/
def Reachable [DecidableEq Dir] (warehouse : String) (resolve : String → Dir)
    (world : World Row Dir) : Prop :=
  Relation.ReflTransGen (Step warehouse resolve) .initial world

end OpenSnow.Ingest.Buffer
