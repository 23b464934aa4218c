import Mathlib.Logic.Function.Basic
import OpenSnow.Rust.Path

/-!
# The file watcher

A watcher copies every file that it is told of into the directory of the
warehouse's tables, under the file's own name, or under a name with the time
in it where that name is taken.
-/

namespace OpenSnow.Ingest

open Rust.Path

inductive FileFormat where
  | parquet
  | csv
  | json
deriving DecidableEq, Repr

def FileFormat.extension : FileFormat → String
  | .parquet => "parquet"
  | .csv => "csv"
  | .json => "json"

structure WatcherConfig where
  watchDir : String
  warehousePath : String
  fileFormat : FileFormat
deriving DecidableEq, Repr

/-- `EventKind`, as far as the watcher tells events apart. -/
inductive EventKind where
  | create
  | modify
  | other
deriving DecidableEq, Repr

/-- `Path::file_stem` of a file name with this extension. -/
def fileStem (name extension : String) : String :=
  String.ofList (name.toList.take (name.length - extension.length - 1))

/-- The name of a copy whose own name is taken. -/
def uniqueName (name stamp : String) : String :=
  match extension name with
  | some ext => fileStem name ext ++ "_" ++ stamp ++ "." ++ ext
  | none => name ++ "_" ++ stamp ++ "."

variable {Contents : Type}

/-- The watched directory, the channel, and the directory of the tables. -/
structure Watcher (Contents : Type) where
  format : FileFormat
  source : String → Option Contents
  /-- Paths on their way to the loop, the next one first. -/
  channel : List String
  /-- `<warehouse>/opensnow/public`. -/
  target : String → Option Contents

inductive WatcherStep (Contents : Type) where
  /-- A file is created in the watched directory, or gets other contents. -/
  | write (name : String) (contents : Contents)
  /-- The callback is called. -/
  | report (kind : EventKind) (paths : List String)
  /-- The loop receives a path, and reads the clock if it has to. -/
  | receive (stamp : String)

namespace Watcher

/-- The callback: the paths of an event that go into the channel. -/
def sent (watcher : Watcher Contents) (kind : EventKind)
    (paths : List String) : List String :=
  match kind with
  | .other => []
  | _ => paths.filter fun path => extension path = some watcher.format.extension

/-- `ingest_file`: the name and the contents of the copy. -/
def ingestFile (watcher : Watcher Contents) (name stamp : String) :
    Option (String × Contents) :=
  (watcher.source name).map fun contents =>
    (if (watcher.target name).isSome then uniqueName name stamp else name,
      contents)

def perform (watcher : Watcher Contents) :
    WatcherStep Contents → Watcher Contents
  | .write name contents =>
      { watcher with
        source := Function.update watcher.source name (some contents) }
  | .report kind paths =>
      { watcher with channel := watcher.channel ++ watcher.sent kind paths }
  | .receive stamp =>
      match watcher.channel with
      | [] => watcher
      | name :: rest =>
          match watcher.ingestFile name stamp with
          | none => { watcher with channel := rest }
          | some (dest, contents) =>
              { watcher with
                channel := rest
                target := Function.update watcher.target dest (some contents) }

end Watcher

end OpenSnow.Ingest
