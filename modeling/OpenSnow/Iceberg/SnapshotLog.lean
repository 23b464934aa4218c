import OpenSnow.Iceberg.Restarts

/-!
# The snapshot log of one handle

The id of a snapshot is the time in milliseconds, times a thousand, plus a
counter that all appends of a process advance.  Neither goes back within a
process, so the ids of one handle rise whatever the process does between its
appends; parents and totals are carried from the snapshot before.
-/

namespace OpenSnow.Iceberg.SnapshotLog

open Arrow
open Foundation
open Iceberg.Durability
open Iceberg.Restarts
open Iceberg.Table (AppendEnv IcebergTable MetadataCodec Snapshot
  SnapshotSummary TableMetadata TableState nextSnapshot snapshotIdOf
  writeDataFile)
open Rust.Path

variable {Doc Row : Type}

/-! ## The log -/

/-- What a snapshot carries on from the snapshots before it. -/
structure Continues (before : List Snapshot) (snapshot : Snapshot) : Prop where
  parent :
    snapshot.parentSnapshotId = before.getLast?.map Snapshot.snapshotId
  totalRecords : snapshot.summary.totalRecords =
    ((before ++ [snapshot]).map fun past => past.summary.addedRecords).sum
  totalDataFiles : snapshot.summary.totalDataFiles = before.length + 1

/-- The snapshots of a table are the log of its appends. -/
structure Log (table : IcebergTable) : Prop where
  increasing : (table.snapshots.map Snapshot.snapshotId).Pairwise (· < ·)
  continues : InOrder Continues table.snapshots
  current : table.currentSnapshotId =
    table.snapshots.getLast?.map Snapshot.snapshotId
  dataFiles : table.dataFiles = table.snapshots.map fun snapshot =>
    joinPath table.dataDir (dataFileName snapshot.snapshotId)
  distinct : table.dataFiles.Nodup

/-- The total that the next append reads is the sum over the log. -/
theorem totals_of_continues {snapshots : List Snapshot}
    (ordered : InOrder Continues snapshots) :
    ((snapshots.getLast?.map Snapshot.summary).map
        SnapshotSummary.totalRecords).getD 0 =
        (snapshots.map fun past => past.summary.addedRecords).sum ∧
      ((snapshots.getLast?.map Snapshot.summary).map
          SnapshotSummary.totalDataFiles).getD 0 = snapshots.length := by
  rcases List.eq_nil_or_concat snapshots with rfl | ⟨before, last, rfl⟩
  · exact ⟨rfl, rfl⟩
  · rw [List.concat_eq_append] at ordered ⊢
    have continues := (inOrder_concat.mp ordered).2
    rw [List.getLast?_append, List.getLast?_singleton, Option.some_or]
    refine ⟨continues.totalRecords, ?_⟩
    rw [List.length_append, List.length_singleton]
    exact continues.totalDataFiles

/-- An append carries on the log of its handle. -/
theorem continues_nextSnapshot {table : IcebergTable} (log : Log table)
    (env : AppendEnv Doc) (totalRows : Nat) :
    Continues table.snapshots (nextSnapshot env table totalRows) := by
  obtain ⟨records, files⟩ := totals_of_continues log.continues
  refine ⟨log.current, ?_, ?_⟩
  · rw [List.map_append, List.sum_append, ← records]
    rfl
  · rw [← files]
    rfl

/-! ## File names -/

theorem dataFileName_relative (snapshotId : Int) :
    (dataFileName snapshotId).toList.head? ≠ some '/' := by
  have digits : ∀ number rest,
      ((Nat.repr number).toList ++ rest).head? ≠ some '/' := by
    intro number rest
    rw [Nat.toList_repr]
    cases numeral : Nat.toDigits 10 number with
    | nil => exact absurd numeral Nat.toDigits_ne_nil
    | cons first others =>
        have isDigit := Nat.isDigit_of_mem_toDigits (b := 10) (n := number)
          (by decide) (by decide) (numeral ▸ List.mem_cons_self)
        intro isSlash
        cases isSlash
        exact absurd isDigit (by decide)
  have toString_eq : toString snapshotId = Int.repr snapshotId := rfl
  rw [dataFileName, toString_eq, String.toList_append]
  cases snapshotId with
  | ofNat number => exact digits number _
  | negSucc number =>
      have minus : "-".toList = ['-'] := rfl
      rw [Int.repr, String.toList_append, minus]
      simp

theorem joinPath_inj {path left right : String}
    (leftRelative : left.toList.head? ≠ some '/')
    (rightRelative : right.toList.head? ≠ some '/')
    (same : joinPath path left = joinPath path right) : left = right := by
  rw [joinPath, joinPath, if_neg leftRelative, if_neg rightRelative] at same
  split at same
  · exact (String.append_right_inj _).mp same
  · exact (String.append_right_inj _).mp same

/-- Different snapshots have different data files. -/
theorem nodup_of_increasing {dataDir : String} {snapshots : List Snapshot}
    (increasing : (snapshots.map Snapshot.snapshotId).Pairwise (· < ·)) :
    (snapshots.map fun snapshot =>
      joinPath dataDir (dataFileName snapshot.snapshotId)).Nodup := by
  rw [List.pairwise_map] at increasing
  rw [List.nodup_iff_pairwise_ne, List.pairwise_map]
  refine increasing.imp ?_
  intro left right less same
  have sameId := dataFileName_injective
    (joinPath_inj (dataFileName_relative _) (dataFileName_relative _) same)
  exact absurd sameId less.ne

/-! ## Appends of one handle -/

/-- The snapshot that a successful append returns. -/
theorem append_next {codec : MetadataCodec Doc} {env : AppendEnv Doc}
    {batches : List (RecordBatch Row)} {state after : TableState Doc Row}
    {snapshot : Snapshot}
    (ok : Table.append codec env batches state = (after, .ok snapshot)) :
    batches.isEmpty = false ∧
      after.table.dataDir = state.table.dataDir ∧
        ∃ totalRows, snapshot = nextSnapshot env state.table totalRows := by
  unfold Table.append at ok
  rcases written : writeDataFile env batches state.files
    with ⟨files, error | totalRows⟩
  · rw [written] at ok
    cases ok
  · have nonempty : batches.isEmpty = false := by
      by_contra isEmpty
      rw [Bool.not_eq_false] at isEmpty
      rw [writeDataFile, if_pos isEmpty] at written
      cases written
    rw [written] at ok
    dsimp only at ok
    repeat' split at ok
    all_goals try cases ok
    exact ⟨nonempty, rfl, totalRows, rfl⟩

/-- A successful append is one more snapshot in the log. -/
theorem Log.append {codec : MetadataCodec Doc} {env : AppendEnv Doc}
    {batches : List (RecordBatch Row)} {state after : TableState Doc Row}
    {snapshot : Snapshot} (log : Log state.table)
    (below : ∀ past ∈ state.table.snapshots,
      past.snapshotId < snapshotIdOf env)
    (ok : Table.append codec env batches state = (after, .ok snapshot)) :
    Log after.table ∧ snapshot.snapshotId = snapshotIdOf env ∧
      after.table.snapshots = state.table.snapshots ++ [snapshot] := by
  obtain ⟨-, dataDir, totalRows, isNext⟩ := append_next ok
  have metadata := (Table.append_ok ok).1
  have snapshots :
      after.table.snapshots = state.table.snapshots ++ [snapshot] := by
    rw [IcebergTable.snapshots, metadata]
    rfl
  have increasing :
      (after.table.snapshots.map Snapshot.snapshotId).Pairwise (· < ·) := by
    rw [snapshots, List.map_append, List.pairwise_append]
    refine ⟨log.increasing, List.pairwise_singleton _ _, ?_⟩
    intro id member other isNew
    obtain ⟨past, isPast, rfl⟩ := List.mem_map.mp member
    cases List.mem_singleton.mp isNew
    rw [isNext]
    exact below past isPast
  have dataFiles : after.table.dataFiles =
      after.table.snapshots.map fun snapshot =>
        joinPath after.table.dataDir (dataFileName snapshot.snapshotId) := by
    have before := log.dataFiles
    rw [IcebergTable.dataFiles, ← IcebergTable.snapshots] at before ⊢
    rw [snapshots, List.map_append, List.map_append, before, dataDir, isNext]
    rfl
  have isId : snapshot.snapshotId = snapshotIdOf env := by
    rw [isNext]
    rfl
  refine ⟨⟨increasing, ?_, ?_, dataFiles, ?_⟩, isId, snapshots⟩
  · rw [snapshots, inOrder_concat, isNext]
    exact ⟨log.continues, continues_nextSnapshot log env totalRows⟩
  · rw [IcebergTable.currentSnapshotId, snapshots, metadata,
      List.getLast?_append, List.getLast?_singleton]
    rfl
  · rw [dataFiles]
    exact nodup_of_increasing increasing

/--
What else the process does: nothing is created or opened under the name of the
handle, whose appends succeed, and the process goes on.
-/
def OneHandle (codec : MetadataCodec Doc) (handle : Nat)
    (state : Location Doc Row) : Call Doc Row → Prop
  | .createTable other _ _ => other ≠ handle
  | .openTable other => other ≠ handle
  | .append other request elapsed later =>
      other = handle → ∀ table, state.handles handle = some table →
        Succeeded
          (Table.append codec (state.envOf request.env elapsed later)
            request.batches ⟨table, state.files⟩).2
  | .appendElsewhere => True
  | .restart => False

/-- The handle has a log whose ids are below the next id of the process. -/
structure Logged (handle : Nat) (state : Location Doc Row)
    (table : IcebergTable) : Prop where
  held : state.handles handle = some table
  log : Log table
  below : ∀ past ∈ table.snapshots,
    past.snapshotId < (state.clock : Int) * 1000 + state.counter

section

variable {codec : MetadataCodec Doc} {location : String} {handle : Nat}
  {state : Location Doc Row} {table : IcebergTable}

/-- Other calls of the process leave the handle, and the clock goes on. -/
theorem Logged.of_later {other : Location Doc Row}
    (logged : Logged handle state table)
    (handles : other.handles handle = state.handles handle)
    (clock : state.clock ≤ other.clock)
    (counter : state.counter ≤ other.counter) :
    Logged handle other table where
  held := handles.trans logged.held
  log := logged.log
  below := by
    intro past member
    have below := logged.below past member
    omega

/-- An append takes an id that no earlier snapshot of the handle has. -/
theorem Logged.append (logged : Logged handle state table)
    {request : AppendRequest Doc Row} {elapsed later : Nat}
    (succeeded : Succeeded
      (Table.append codec (state.envOf request.env elapsed later)
        request.batches ⟨table, state.files⟩).2) :
    ∃ next, Logged handle
      (state.perform codec location (.append handle request elapsed later))
      next := by
  obtain ⟨snapshot, isOk⟩ := succeeded
  rcases outcome : Table.append codec
      (state.envOf request.env elapsed later) request.batches
      ⟨table, state.files⟩ with ⟨after, result⟩
  rw [outcome] at isOk
  subst isOk
  have isId : snapshotIdOf (state.envOf request.env elapsed later) =
      ((state.clock + elapsed : Nat) : Int) * 1000 + state.counter := rfl
  obtain ⟨log, newId, snapshots⟩ := logged.log.append
    (by
      intro past member
      have below := logged.below past member
      rw [isId]
      push_cast
      omega)
    outcome
  have nonempty := (append_next outcome).1
  refine ⟨after.table, ?_, log, ?_⟩
  · rw [Location.perform, logged.held]
    simp only [outcome, Function.update_self]
  · intro past member
    rw [Location.perform, logged.held]
    simp only [nonempty, Bool.false_eq_true, if_false]
    rw [snapshots, List.mem_append, List.mem_singleton] at member
    rcases member with old | rfl
    · have below := logged.below past old
      push_cast
      omega
    · rw [newId, isId]
      push_cast
      omega

theorem Logged.perform (logged : Logged handle state table)
    {call : Call Doc Row} (one : OneHandle codec handle state call) :
    ∃ next, Logged handle (state.perform codec location call) next := by
  cases call with
  | createTable other tableUuid schema =>
      refine ⟨table, ?_⟩
      rw [Location.perform]
      split
      · exact logged
      · exact logged.of_later
          (Function.update_of_ne (Ne.symm one) _ _) le_rfl le_rfl
  | openTable other =>
      refine ⟨table, ?_⟩
      rw [Location.perform]
      split
      · exact logged
      · exact logged.of_later
          (Function.update_of_ne (Ne.symm one) _ _) le_rfl le_rfl
  | append other request elapsed later =>
      by_cases own : other = handle
      · subst own
        exact logged.append (one rfl table logged.held)
      · refine ⟨table, ?_⟩
        rw [Location.perform]
        split
        · exact logged
        · refine logged.of_later
            (Function.update_of_ne (Ne.symm own) _ _) ?_ ?_
          · dsimp only
            omega
          · dsimp only
            split <;> omega
  | appendElsewhere =>
      exact ⟨table, logged.of_later rfl le_rfl (Nat.le_succ _)⟩
  | restart => exact one.elim

/-- A new table has an empty log. -/
theorem logged_of_created {tableUuid : String} {schema : Schema}
    {created : IcebergTable × Table.TableFiles Doc Row}
    (creates : Table.create codec tableUuid location schema state.files =
      some created) :
    Logged handle
      (state.perform codec location (.createTable handle tableUuid schema))
      created.1 := by
  have snapshots : created.1.snapshots = [] ∧
      created.1.currentSnapshotId = none := by
    unfold Table.create at creates
    dsimp only at creates
    split at creates
    · cases creates
    · cases creates
      exact ⟨rfl, rfl⟩
  have dataFiles : created.1.dataFiles = [] := by
    rw [IcebergTable.dataFiles, ← IcebergTable.snapshots, snapshots.1]
    rfl
  exact
    { held := by
        rw [Location.perform, creates]
        exact Function.update_self _ _ _
      log :=
        { increasing := by
            rw [snapshots.1]
            exact List.Pairwise.nil
          continues := by
            rw [snapshots.1]
            exact inOrder_nil
          current := by
            rw [snapshots.1, snapshots.2]
            rfl
          dataFiles := by
            rw [dataFiles, snapshots.1]
            rfl
          distinct := by
            rw [dataFiles]
            exact List.nodup_nil }
      below := by
        rw [snapshots.1]
        exact List.forall_mem_nil _ }

end

/--
A handle that created its table and whose appends all succeeded holds the log
of these appends, whatever else the process did.
-/
theorem log_of_appends (codec : MetadataCodec Doc) (location : String)
    (state : Location Doc Row) {handle : Nat} {tableUuid : String}
    {schema : Schema} {created : IcebergTable × Table.TableFiles Doc Row}
    (creates : Table.create codec tableUuid location schema state.files =
      some created)
    {calls : List (Call Doc Row)}
    (appends : Along (Location.perform codec location)
      (OneHandle codec handle)
      (state.perform codec location (.createTable handle tableUuid schema))
      calls) :
    ∃ table,
      (calls.foldl (Location.perform codec location)
          (state.perform codec location
            (.createTable handle tableUuid schema))).handles handle =
        some table ∧
      Log table := by
  have kept : ∀ (before : Location Doc Row) call,
      (∃ table, Logged handle before table) →
        OneHandle codec handle before call →
          ∃ table, Logged handle (before.perform codec location call)
            table := by
    rintro before call ⟨table, logged⟩ one
    exact logged.perform one
  obtain ⟨table, logged⟩ :=
    appends.invariant kept ⟨created.1, logged_of_created creates⟩
  exact ⟨table, logged.held, logged.log⟩

/-- Two appends, with an append to another table between them. -/
theorem log_of_appends_two :
    ∃ table,
      (([.append 0 (plainAppend oneRow) 1 0, .appendElsewhere,
          .append 0 (plainAppend oneRow) 0 5] :
            List (Call Table.TableMetadata Unit)).foldl
          (Location.perform plainCodec "/table")
          (Location.empty.perform plainCodec "/table"
            (.createTable 0 "uuid" []))).handles 0 =
        some table ∧
      Log table := by
  have creates : Table.create plainCodec "uuid" "/table" []
      (Location.empty : Location Table.TableMetadata Unit).files =
        some (plainStart.table, plainStart.files) := rfl
  refine log_of_appends plainCodec "/table" .empty creates
    ⟨?_, trivial, ?_, trivial⟩
  · rintro - table held
    cases held
    decide
  · rintro - table held
    cases held
    decide

end OpenSnow.Iceberg.SnapshotLog
