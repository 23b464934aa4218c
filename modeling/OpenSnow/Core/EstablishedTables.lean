import OpenSnow.Core.Restarts
import OpenSnow.Core.ViewNamespace

/-!
# What a creation of a table establishes

A creation that succeeds should leave a table that yields the rows of its query,
in this session and after a restart.  It returns early when the query engine
gives no batch at all, and then it leaves everything as it was.
-/

namespace OpenSnow.Core

open Arrow
open Core.Commands

variable {Row Key Location Contents : Type} [DecidableEq Key]
  [DecidableEq Location] (platform : Platform Row Key Location Contents)

/-- The rows of batches, in their order. -/
def allRows (batches : List (RecordBatch Row)) : List Row :=
  batches.flatMap RecordBatch.rows

/-- A table is registered and yields these rows. -/
def Yields (state : EngineState Row Key Location Contents) (table : String)
    (rows : List Row) : Prop :=
  ∃ batches, platform.scan state (platform.tableKey table) =
      some (.ok batches) ∧
    allRows batches = rows

/-- The table yields these rows now and after every restart. -/
structure Established (state : EngineState Row Key Location Contents)
    (table : String) (rows : List Row) : Prop where
  now : Yields platform state table rows
  later : ∀ restarted, Restarted platform state restarted →
    Yields platform restarted table rows

/--
A path names one file for the query engine and the file system, and a Parquet
file yields the rows that were written into it.
-/
structure Platform.Persists (platform : Platform Row Key Location Contents) :
    Prop where
  place : ∀ relative,
    platform.locate (platform.warehouseUri relative) =
      platform.writeLocation (platform.warehouseUri relative)
  entry : ∀ name, IsWord name →
    platform.fileAt (platform.tablePath (tableEntry name)) =
      platform.fileAt (platform.warehouseUri (publicFile name))
  found : ∀ entry, platform.warehouseIsRemote = false →
    platform.locate (platform.tablePath entry) =
      platform.fileAt (platform.tablePath entry)
  roundTrips : ∀ batches, ∃ read,
    platform.decode .parquet (platform.encodeParquet batches) = .ok read ∧
      allRows read = allRows batches

variable {platform}

section

omit [DecidableEq Key] [DecidableEq Location]

/-- A table that is registered on a file yields what the file holds. -/
theorem yields_of_file (persists : platform.Persists)
    {state : EngineState Row Key Location Contents} {table path : String}
    {batches : List (RecordBatch Row)}
    (registered : state.tables (platform.tableKey table) =
      some (.file .parquet path))
    (file : state.files (platform.locate path) =
      some (platform.encodeParquet batches)) :
    Yields platform state table (allRows batches) := by
  rcases persists.roundTrips batches with ⟨read, decoded, sameRows⟩
  refine ⟨read, ?_, sameRows⟩
  rw [Platform.scan, registered, Option.map_some]
  simp only [file, decoded]

end

omit [DecidableEq Location] in
/-- A file in the place of a table is registered by every restart. -/
theorem yields_of_restarted (persists : platform.Persists) {name : String}
    (word : IsWord name)
    {state restarted : EngineState Row Key Location Contents}
    {batches : List (RecordBatch Row)}
    (file :
      state.files
          (platform.writeLocation (platform.warehouseUri (publicFile name))) =
        some (platform.encodeParquet batches))
    (restart : Restarted platform state restarted) :
    Yields platform restarted name (allRows batches) := by
  rcases restart with
    ⟨isLocal, entries, views, middle, lists, -, ran, rfl⟩
  have place :
      platform.writeLocation (platform.warehouseUri (publicFile name)) =
        platform.fileAt (platform.tablePath (tableEntry name)) := by
    rw [Platform.writeLocation, isLocal, persists.entry name word]
    rfl
  rw [place] at file
  have member : tableEntry name ∈ entries := by
    refine (lists _).mpr ⟨isFileName_tableEntry word, ?_⟩
    rw [file]
    rfl
  rcases registerWarehouseTables_registers ran with ⟨grows, registers⟩
  have registered :=
    registers (tableEntry name) member (extension_tableEntry word)
  rw [fileStem_tableEntry] at registered
  have kept : Grows middle (registerMaterializedViews platform views middle) :=
    registerMaterializedViews_grows views middle
  refine yields_of_file persists (kept.tables _ _ registered) ?_
  rw [kept.files, grows.files, persists.found _ isLocal]
  exact file

theorem Replaces.established (persists : platform.Persists) {name : String}
    (word : IsWord name) {before after : EngineState Row Key Location Contents}
    {batches : List (RecordBatch Row)}
    (replaces :
      Replaces platform name (publicFile name) before batches after none) :
    Established platform after name (allRows batches) := by
  have file :
      after.files
          (platform.writeLocation (platform.warehouseUri (publicFile name))) =
        some (platform.encodeParquet batches) := by
    cases replaces
    exact Function.update_self _ _ _
  refine ⟨?_, fun restarted restart =>
    yields_of_restarted persists word file restart⟩
  refine yields_of_file persists ?_ (persists.place _ ▸ file)
  rw [replaces.tables, Function.update_self]

/--
A creation that succeeds establishes its table with the rows of its query
exactly if the query gave a batch, or the table stood there without rows.
-/
theorem ctas_established_iff (persists : platform.Persists) {sql : String}
    {name query : String}
    (dispatched : dispatch sql = some (some (.ok (.ctas name query))))
    {before after : EngineState Row Key Location Contents} {reply : Reply Row}
    (succeeded : Carries platform sql before (.ok reply, after))
    {batches : List (RecordBatch Row)}
    (evaluated : platform.query before query = .ok batches) :
    Established platform after name (allRows batches) ↔
      batches ≠ [] ∨ Established platform before name [] := by
  have word : IsWord name := isWord_of_safe (dispatch_checked dispatched)
  have ran : handleCtas platform name query before = (.ok reply, after) := by
    rcases succeeded.cases with
      ⟨message, refused, -⟩ | ⟨command, isCommand, performed⟩
    · rw [dispatched] at refused
      cases refused
    · rw [dispatched] at isCommand
      cases isCommand
      exact performed.symm
  have outcome := handleCtas_outcome platform name query before
  rw [ran] at outcome
  cases outcome with
  | empty none =>
      rw [evaluated] at none
      cases none
      simp [allRows]
  | created query nonempty replaces =>
      rw [evaluated] at query
      cases query
      exact
        iff_of_true (replaces.established persists word) (Or.inl nonempty)

/-! ## A query without rows -/

/-- The small platform, on which every query gives these batches. -/
def answeringPlatform (batches : List (RecordBatch Nat)) :
    Platform Nat String (List String) (List (RecordBatch Nat)) :=
  { smallPlatform with query := fun _ _ => .ok batches }

theorem answering_tablePath (batches : List (RecordBatch Nat)) {name : String}
    (word : IsWord name) :
    (answeringPlatform batches).tablePath (tableEntry name) =
      (answeringPlatform batches).warehouseUri (publicFile name) := by
  have uri :
      (answeringPlatform batches).warehouseUri (publicFile name) =
        "/warehouse/" ++ publicFile name :=
    warehouseUri_small (.published word)
  have path :
      (answeringPlatform batches).tablePath (tableEntry name) =
        "/warehouse" ++ "/opensnow/public/" ++ tableEntry name := rfl
  have root : "/warehouse".toList ++ "/opensnow/public/".toList =
      "/warehouse/".toList ++ "opensnow/public/".toList := by decide
  have suffix : ".parquet".toList = ".".toList ++ "parquet".toList := by decide
  rw [uri, path]
  apply String.toList_injective
  unfold tableEntry publicFile
  simp only [String.toList_append, suffix, List.append_assoc]
  rw [← List.append_assoc "/warehouse".toList, root, List.append_assoc]

theorem answering_persists (batches : List (RecordBatch Nat)) :
    (answeringPlatform batches).Persists where
  place relative := by
    rw [Platform.writeLocation]
    split <;> rfl
  entry _ word := by rw [answering_tablePath batches word]
  found _ _ := rfl
  roundTrips written := ⟨written, rfl, rfl⟩

theorem ctas_established_iff_one :
    Established (answeringPlatform [⟨[], [1]⟩])
        (perform (answeringPlatform [⟨[], [1]⟩]) (.ctas "t" "SELECT 1")
          emptyEngine).2 "t" (allRows [⟨[], [1]⟩]) ↔
      ([⟨[], [1]⟩] : List (RecordBatch Nat)) ≠ [] ∨
        Established (answeringPlatform [⟨[], [1]⟩]) emptyEngine "t" [] :=
  have dispatched :
      dispatch "CREATE TABLE t AS SELECT 1" =
        some (some (.ok (.ctas "t" "SELECT 1"))) := by
    decide
  ctas_established_iff (answering_persists _) dispatched
    (carries_of_dispatch dispatched emptyEngine) rfl

/-- The creation of a table from no rows succeeds and creates no table. -/
theorem ctas_without_rows :
    ¬ ∀ (sql name query : String)
        (before after :
          EngineState Nat String (List String) (List (RecordBatch Nat)))
        (reply : Reply Nat) (batches : List (RecordBatch Nat)),
      dispatch sql = some (some (.ok (.ctas name query))) →
        Carries (answeringPlatform []) sql before (.ok reply, after) →
          (answeringPlatform []).query before query = .ok batches →
            Established (answeringPlatform []) after name (allRows batches) := by
  intro establishes
  have dispatched :
      dispatch "CREATE TABLE t AS SELECT 1 WHERE FALSE" =
        some (some (.ok (.ctas "t" "SELECT 1 WHERE FALSE"))) := by
    decide
  have carries :
      Carries (answeringPlatform []) "CREATE TABLE t AS SELECT 1 WHERE FALSE"
        emptyEngine (.ok (.batches []), emptyEngine) :=
    carries_of_dispatch dispatched emptyEngine
  have established := establishes _ _ _ _ _ _ [] dispatched carries rfl
  rcases established.now with ⟨batches, scanned, -⟩
  cases scanned

end OpenSnow.Core
