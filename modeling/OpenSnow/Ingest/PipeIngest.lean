import Mathlib.Data.List.Perm.Basic
import OpenSnow.Ingest.Pipes

/-!
# What a pipe ingests

A pipe names the table that its files are for, but the configuration of its
watcher does not.  A file comes into the table only if it is the file of that
table by its own name, and has no table there to collide with.
-/

namespace OpenSnow.Ingest

open Foundation
open Rust.Path

variable {Contents Row : Type}

/-! ## The run of a pipe -/

/-- The configuration that `start_watcher` gives to the watcher. -/
def Pipe.watcherConfig (pipe : Pipe) (warehousePath : String) :
    WatcherConfig where
  watchDir := pipe.sourcePath
  warehousePath := warehousePath
  fileFormat := pipe.fileFormat

/-- `FileWatcher::from_config`, over an empty directory and these tables. -/
def Watcher.fromConfig (config : WatcherConfig)
    (tables : String → Option Contents) : Watcher Contents where
  format := config.fileFormat
  source := fun _ => none
  channel := []
  target := tables

/-- A pipe with its watcher, and what happened in its source path. -/
structure PipeIngest (Contents : Type) where
  pipe : Pipe
  watcher : Watcher Contents
  /-- The files that were created, each once. -/
  created : List String
  /-- Files that were written after their last event. -/
  unreported : List String
  /-- The files that were copied at least once. -/
  ingested : List String

namespace PipeIngest

/-- A pipe is created in a warehouse with these tables. -/
def create (pipe : Pipe) (warehousePath : String)
    (tables : String → Option Contents) : PipeIngest Contents where
  pipe := pipe
  watcher := .fromConfig (pipe.watcherConfig warehousePath) tables
  created := []
  unreported := []
  ingested := []

/-- Only a pipe that ingests on its own has a watcher. -/
def perform (state : PipeIngest Contents) :
    WatcherStep Contents → PipeIngest Contents
  | .write name contents =>
      { state with
        watcher := state.watcher.perform (.write name contents)
        created := state.created.insert name
        unreported := name :: state.unreported }
  | .report kind paths =>
      { state with
        watcher :=
          if state.pipe.autoIngest then
            state.watcher.perform (.report kind paths)
          else state.watcher
        unreported :=
          if kind = .other then state.unreported
          else state.unreported.filter fun name => name ∉ paths }
  | .receive stamp =>
      { state with
        watcher := state.watcher.perform (.receive stamp)
        ingested :=
          match state.watcher.channel with
          | [] => state.ingested
          | name :: _ =>
              if (state.watcher.source name).isSome then
                state.ingested.insert name
              else state.ingested }

/-- The file of the table that the pipe is for. -/
def tableFile (state : PipeIngest Contents) : String :=
  state.pipe.targetTable ++ ".parquet"

/-- Every event has come, and the loop has received every path. -/
def Settled (state : PipeIngest Contents) : Prop :=
  state.watcher.channel = [] ∧ state.unreported = []

variable (rows : Contents → List Row)

/-- The rows of a file that may be absent. -/
def rowsOf (file : Option Contents) : List Row :=
  (file.map rows).getD []

def sourceRows (state : PipeIngest Contents) (name : String) : List Row :=
  rowsOf rows (state.watcher.source name)

/-- The rows of the table that the pipe is for. -/
def tableRows (state : PipeIngest Contents) : List Row :=
  rowsOf rows (state.watcher.target state.tableFile)

end PipeIngest

variable (rows : Contents → List Row)

/--
The table has the rows that it had before, and those of every file that was
created, once each.
-/
def AppendedOnce (before : List Row) (state : PipeIngest Contents) : Prop :=
  state.Settled →
    (state.tableRows rows).Perm
      (before ++ state.created.flatMap (state.sourceRows rows))

/--
A file with rows is reported to a watcher that takes it, is copied to the file
of the table when the table has no rows, and neither gets other rows
afterwards nor is copied over the table again.
-/
def LandsInTable (state : PipeIngest Contents) :
    WatcherStep Contents → Prop
  | .write name contents =>
      name ∈ state.ingested →
        (rows contents).Perm (state.sourceRows rows name)
  | .report kind paths =>
      kind ≠ .other → ∀ name ∈ paths, name ∈ state.unreported →
        name ∉ state.ingested → state.sourceRows rows name ≠ [] →
          state.pipe.autoIngest = true ∧
            extension name = some state.pipe.fileFormat.extension
  | .receive stamp =>
      ∀ name rest dest contents,
        state.watcher.channel = name :: rest →
          state.watcher.ingestFile name stamp = some (dest, contents) →
            if name ∈ state.ingested then
              dest = state.tableFile →
                (rows contents).Perm (state.tableRows rows)
            else if dest = state.tableFile then state.tableRows rows = []
            else rows contents = []

/-! ## What such steps keep -/

structure PipeIngest.Kept (before : List Row)
    (state : PipeIngest Contents) : Prop where
  table :
    (state.tableRows rows).Perm
      (before ++ state.ingested.flatMap (state.sourceRows rows))
  format : state.watcher.format = state.pipe.fileFormat
  createdOnce : state.created.Nodup
  ingestedOnce : state.ingested.Nodup
  /-- A file that is not created is absent. -/
  uncreated : ∀ name, name ∉ state.created →
    state.watcher.source name = none
  ingestedCreated : ∀ name ∈ state.ingested, name ∈ state.created
  /-- A created file is copied, or on its way, or has no rows. -/
  pending : ∀ name ∈ state.created,
    name ∈ state.ingested ∨ name ∈ state.watcher.channel ∨
      name ∈ state.unreported ∨ state.sourceRows rows name = []

namespace PipeIngest

variable {rows : Contents → List Row}

theorem Kept.create (pipe : Pipe) (warehousePath : String)
    (tables : String → Option Contents) :
    Kept rows
      ((PipeIngest.create pipe warehousePath tables).tableRows rows)
      (PipeIngest.create pipe warehousePath tables) where
  table := by
    rw [show (PipeIngest.create pipe warehousePath tables).ingested = []
      from rfl, List.flatMap_nil, List.append_nil]
  format := rfl
  createdOnce := List.nodup_nil
  ingestedOnce := List.nodup_nil
  uncreated _ _ := rfl
  ingestedCreated _ := nofun
  pending _ := nofun

/-- Files without rows make no difference to the rows of a list of files. -/
theorem flatMap_perm_of_pending {names created : List String}
    {fileRows : String → List Row} (namesOnce : names.Nodup)
    (createdOnce : created.Nodup)
    (covered : ∀ name ∈ names, name ∈ created)
    (rest : ∀ name ∈ created, name ∈ names ∨ fileRows name = []) :
    (names.flatMap fileRows).Perm (created.flatMap fileRows) := by
  have parts := List.filter_append_perm (fun name => decide (name ∈ names))
    created
  have inside :
      (created.filter fun name => decide (name ∈ names)).Perm names := by
    rw [List.perm_ext_iff_of_nodup (createdOnce.filter _) namesOnce]
    intro name
    rw [List.mem_filter, decide_eq_true_eq]
    exact ⟨And.right, fun member => ⟨covered name member, member⟩⟩
  have outside :
      (created.filter fun name => !decide (name ∈ names)).flatMap fileRows =
        [] := by
    rw [List.flatMap_eq_nil_iff]
    intro name member
    obtain ⟨isCreated, absent⟩ := List.mem_filter.mp member
    rw [Bool.not_eq_true', decide_eq_false_iff_not] at absent
    exact (rest name isCreated).resolve_left absent
  have whole := parts.flatMap_right fileRows
  rw [List.flatMap_append, outside, List.append_nil] at whole
  exact (inside.flatMap_right fileRows).symm.trans whole

/-- When nothing is pending, what is kept is what was to be shown. -/
theorem Kept.appendedOnce {before : List Row} {state : PipeIngest Contents}
    (kept : Kept rows before state) : AppendedOnce rows before state := by
  rintro ⟨noneSent, noneUnreported⟩
  refine kept.table.trans (List.Perm.append_left before ?_)
  refine flatMap_perm_of_pending kept.ingestedOnce kept.createdOnce
    kept.ingestedCreated fun name member => ?_
  rcases kept.pending name member with copied | sent | unreported | noRows
  · exact Or.inl copied
  · rw [noneSent] at sent
    cases sent
  · rw [noneUnreported] at unreported
    cases unreported
  · exact Or.inr noRows

section

variable {before : List Row} {state : PipeIngest Contents}

variable {contents : Contents}

theorem Kept.write (kept : Kept rows before state) {name : String}
    (lands : LandsInTable rows state (.write name contents)) :
    Kept rows before (state.perform (.write name contents)) := by
  have others : ∀ {other}, other ≠ name →
      (state.perform (.write name contents)).watcher.source other =
        state.watcher.source other := fun different =>
    Function.update_of_ne different ..
  have own : (state.perform (.write name contents)).sourceRows rows name =
      rows contents := by
    have source :
        (state.perform (.write name contents)).watcher.source name =
          some contents := Function.update_self ..
    rw [sourceRows, source]
    rfl
  exact
    { table := by
        refine kept.table.trans (List.Perm.append_left before ?_)
        refine List.Perm.flatMap_left _ fun other member => ?_
        by_cases same : other = name
        · rw [same] at member ⊢
          rw [own]
          exact (lands member).symm
        · rw [sourceRows, sourceRows, others same]
      format := kept.format
      createdOnce := kept.createdOnce.insert
      ingestedOnce := kept.ingestedOnce
      uncreated := by
        intro other absent
        have parts := fun either => absent (List.mem_insert_iff.mpr either)
        rw [others fun same => parts (Or.inl same)]
        exact kept.uncreated other fun member => parts (Or.inr member)
      ingestedCreated := fun other member =>
        List.mem_insert_iff.mpr (Or.inr (kept.ingestedCreated other member))
      pending := by
        intro other member
        by_cases same : other = name
        · exact Or.inr (Or.inr (Or.inl (List.mem_cons.mpr (Or.inl same))))
        · have old := (List.mem_insert_iff.mp member).resolve_left same
          rw [sourceRows, others same]
          refine (kept.pending other old).imp_right (Or.imp_right ?_)
          exact Or.imp_left (List.mem_cons_of_mem name) }

section

variable {kind : EventKind} {paths : List String} {name : String}

/-- A report takes nothing off the channel. -/
theorem channel_report (sent : name ∈ state.watcher.channel) :
    name ∈ (state.perform (.report kind paths)).watcher.channel := by
  rw [perform]
  dsimp only
  split_ifs
  · exact List.mem_append_left _ sent
  · exact sent

/-- A file that a report leaves out, or does not count, stays unreported. -/
theorem unreported_report (old : name ∈ state.unreported)
    (left : kind = .other ∨ name ∉ paths) :
    name ∈ (state.perform (.report kind paths)).unreported := by
  rw [perform]
  dsimp only
  split_ifs with ignored
  · exact old
  · rw [List.mem_filter, decide_eq_true_eq]
    exact ⟨old, left.resolve_left ignored⟩

/-- A file that a report counts and the pipe takes is sent. -/
theorem Kept.sent_report (kept : Kept rows before state)
    (counted : kind ≠ .other) (auto : state.pipe.autoIngest)
    (reported : name ∈ paths)
    (taken : extension name = some state.pipe.fileFormat.extension) :
    name ∈ (state.perform (.report kind paths)).watcher.channel := by
  have passes : name ∈ paths.filter fun path =>
      extension path = some state.watcher.format.extension := by
    rw [List.mem_filter, decide_eq_true_eq, kept.format]
    exact ⟨reported, taken⟩
  rw [perform]
  dsimp only
  rw [if_pos auto]
  refine List.mem_append_right _ ?_
  cases kind with
  | create => exact passes
  | modify => exact passes
  | other => exact absurd rfl counted

end

section

variable (kept : Kept rows before state)

include kept

theorem Kept.report {kind : EventKind} {paths : List String}
    (lands : LandsInTable rows state (.report kind paths)) :
    Kept rows before (state.perform (.report kind paths)) := by
  have target :
      (state.perform (.report kind paths)).watcher.target =
        state.watcher.target := by
    rw [perform]
    dsimp only
    split_ifs <;> rfl
  have source :
      (state.perform (.report kind paths)).watcher.source =
        state.watcher.source := by
    rw [perform]
    dsimp only
    split_ifs <;> rfl
  have same : (state.perform (.report kind paths)).sourceRows rows =
      state.sourceRows rows := by
    funext name
    rw [sourceRows, sourceRows, source]
  exact
    { table := by
        rw [tableRows, target, same]
        exact kept.table
      format := by
        rw [perform]
        dsimp only
        split_ifs
        · exact kept.format
        · exact kept.format
      createdOnce := kept.createdOnce
      ingestedOnce := kept.ingestedOnce
      uncreated := by
        rw [source]
        exact kept.uncreated
      ingestedCreated := kept.ingestedCreated
      pending := by
        intro name member
        rw [same]
        by_cases copied : name ∈ state.ingested
        · exact Or.inl copied
        by_cases noRows : state.sourceRows rows name = []
        · exact Or.inr (Or.inr (Or.inr noRows))
        rcases kept.pending name member with old | old | old | old
        · exact Or.inl old
        · exact Or.inr (Or.inl (channel_report old))
        · by_cases left : kind = .other ∨ name ∉ paths
          · exact Or.inr (Or.inr (Or.inl (unreported_report old left)))
          · obtain ⟨counted, reported⟩ := not_or.mp left
            obtain ⟨auto, taken⟩ :=
              lands counted name (not_not.mp reported) old copied noRows
            exact Or.inr (Or.inl
              (kept.sent_report counted auto (not_not.mp reported) taken))
        · exact absurd old noRows }

/-- A path that comes to nothing leaves everything but the channel. -/
theorem Kept.drop {name stamp : String}
    {rest : List String} (next : state.watcher.channel = name :: rest)
    (absent : state.watcher.source name = none) :
    Kept rows before (state.perform (.receive stamp)) := by
  have performed : state.perform (.receive stamp) =
      { state with watcher := { state.watcher with channel := rest } } := by
    rw [perform, Watcher.perform, next]
    dsimp only
    rw [Watcher.ingestFile, absent]
    rfl
  rw [performed]
  exact
    { table := kept.table
      format := kept.format
      createdOnce := kept.createdOnce
      ingestedOnce := kept.ingestedOnce
      uncreated := kept.uncreated
      ingestedCreated := kept.ingestedCreated
      pending := by
        intro other member
        by_cases same : other = name
        · refine Or.inr (Or.inr (Or.inr ?_))
          rw [same, sourceRows]
          dsimp only
          rw [absent]
          rfl
        · refine (kept.pending other member).imp_right (Or.imp_left ?_)
          intro sent
          rw [next] at sent
          exact (List.mem_cons.mp sent).resolve_left same }

/-- The rows of the table after a file was copied. -/
theorem Kept.copied_rows {name dest : String}
    (source : state.watcher.source name = some contents) (condition :
      if name ∈ state.ingested then
        dest = state.tableFile → (rows contents).Perm (state.tableRows rows)
      else if dest = state.tableFile then state.tableRows rows = []
      else rows contents = []) :
    (rowsOf rows
      (Function.update state.watcher.target dest (some contents)
        state.tableFile)).Perm
      (before ++
        (state.ingested.insert name).flatMap (state.sourceRows rows)) := by
  have fileRows : state.sourceRows rows name = rows contents := by
    rw [sourceRows, source]
    rfl
  have table :
      rowsOf rows
          (Function.update state.watcher.target dest (some contents)
            state.tableFile) =
        if dest = state.tableFile then rows contents
        else state.tableRows rows := by
    split_ifs with isTable
    · rw [isTable, Function.update_self]
      rfl
    · rw [Function.update_of_ne fun same => isTable same.symm]
      rfl
  refine (List.Perm.of_eq table).trans ?_
  by_cases again : name ∈ state.ingested
  · rw [if_pos again] at condition
    rw [List.insert_of_mem again]
    split_ifs with isTable
    · exact (condition isTable).trans kept.table
    · exact kept.table
  · rw [if_neg again] at condition
    rw [List.insert_of_not_mem again, List.flatMap_cons]
    split_ifs with isTable
    · -- The table had no rows, so there were none before either.
      rw [if_pos isTable] at condition
      have nothing := kept.table
      rw [condition, List.nil_perm, List.append_eq_nil_iff] at nothing
      rw [nothing.1, List.nil_append, ← fileRows]
      refine List.Perm.of_eq ?_
      exact ((List.append_right_eq_self).mpr nothing.2).symm
    · rw [if_neg isTable] at condition
      refine kept.table.trans (List.Perm.of_eq ?_)
      have noRows : state.sourceRows rows name = [] :=
        fileRows.trans condition
      exact congrArg (before ++ ·)
        (List.append_left_eq_self.mpr noRows).symm

theorem Kept.copy {name stamp dest : String} {rest : List String}
    (lands : LandsInTable rows state (.receive stamp))
    (next : state.watcher.channel = name :: rest)
    (copied : state.watcher.ingestFile name stamp = some (dest, contents)) :
    Kept rows before (state.perform (.receive stamp)) := by
  have source : state.watcher.source name = some contents := by
    obtain ⟨found, isFound, isCopy⟩ := Option.map_eq_some_iff.mp copied
    rw [isFound, (Prod.mk.inj isCopy).2]
  have performed : state.perform (.receive stamp) =
      { state with
        watcher :=
          { state.watcher with
            channel := rest
            target :=
              Function.update state.watcher.target dest (some contents) }
        ingested := state.ingested.insert name } := by
    rw [perform, Watcher.perform, next]
    dsimp only
    rw [copied, source]
    rfl
  have isCreated : name ∈ state.created := by
    by_contra absent
    rw [kept.uncreated name absent] at source
    cases source
  rw [performed]
  exact
    { table := kept.copied_rows source (lands name rest dest contents next copied)
      format := kept.format
      createdOnce := kept.createdOnce
      ingestedOnce := kept.ingestedOnce.insert
      uncreated := kept.uncreated
      ingestedCreated := by
        intro other member
        rcases List.mem_insert_iff.mp member with same | old
        · rw [same]
          exact isCreated
        · exact kept.ingestedCreated other old
      pending := by
        intro other member
        by_cases same : other = name
        · exact Or.inl (List.mem_insert_iff.mpr (Or.inl same))
        · refine (kept.pending other member).imp
            (fun old => List.mem_insert_iff.mpr (Or.inr old))
            (Or.imp_left fun sent => ?_)
          rw [next] at sent
          exact (List.mem_cons.mp sent).resolve_left same }

theorem Kept.receive {stamp : String}
    (lands : LandsInTable rows state (.receive stamp)) :
    Kept rows before (state.perform (.receive stamp)) := by
  cases next : state.watcher.channel with
  | nil =>
      have idle : state.perform (.receive stamp) = state := by
        rw [perform, Watcher.perform, next]
      rw [idle]
      exact kept
  | cons name rest =>
      cases copied : state.watcher.ingestFile name stamp with
      | none => exact kept.drop next (Option.map_eq_none_iff.mp copied)
      | some copy => exact kept.copy lands next copied

end

end

end PipeIngest

/--
In every run in which each file lands in the table of the pipe, the rows of
each file are in the table once when all events are dealt with.
-/
theorem appendedOnce_of_lands (rows : Contents → List Row) (pipe : Pipe)
    (warehousePath : String) (tables : String → Option Contents)
    (steps : List (WatcherStep Contents))
    (lands :
      Along PipeIngest.perform (LandsInTable rows)
        (.create pipe warehousePath tables) steps) :
    AppendedOnce rows
      ((PipeIngest.create pipe warehousePath tables).tableRows rows)
      (steps.foldl PipeIngest.perform
        (.create pipe warehousePath tables)) := by
  refine (lands.invariant ?_
    (PipeIngest.Kept.create pipe warehousePath tables)).appendedOnce
  intro state step kept condition
  cases step with
  | write name contents => exact kept.write condition
  | report kind paths => exact kept.report condition
  | receive stamp => exact kept.receive condition

/-! ## Runs -/

/-- The file of the table itself, with its events. -/
def landingSteps : List (WatcherStep (List Nat)) :=
  [.write "events.parquet" [1, 2], .report .create ["events.parquet"],
    .report .modify ["events.parquet"], .receive "1", .receive "2"]

theorem landing_appendedOnce :
    AppendedOnce id []
      (landingSteps.foldl PipeIngest.perform
        (.create (samplePipe true) "/warehouse" fun _ => none)) := by
  refine appendedOnce_of_lands id (samplePipe true) "/warehouse"
    (fun _ => none) landingSteps ?_
  refine ⟨nofun, ?_, ?_, ?_, ?_, trivial⟩
  · intro _ name member _ _ _
    rw [List.mem_singleton.mp member]
    exact ⟨rfl, by decide⟩
  · intro _ name member _ _ _
    rw [List.mem_singleton.mp member]
    exact ⟨rfl, by decide⟩
  · intro name rest dest contents next copied
    cases next
    cases copied
    decide
  · intro name rest dest contents next copied
    cases next
    cases copied
    decide

/-- A file with a name of its own does not reach the table of the pipe. -/
theorem batch_not_appended :
    ¬ AppendedOnce id []
      (([.write "batch.parquet" [1], .report .create ["batch.parquet"],
          .receive "1"] : List (WatcherStep (List Nat))).foldl
        PipeIngest.perform
        (.create (samplePipe true) "/warehouse" fun _ => none)) := by
  intro appended
  have counted := (appended ⟨by decide, by decide⟩).length_eq
  revert counted
  decide

end OpenSnow.Ingest
