import Mathlib.Algebra.BigOperators.Group.List.Basic
import Mathlib.Algebra.Order.Group.Multiset
import Mathlib.Tactic.Abel
import OpenSnow.Ingest.Buffer

/-!
# Conservation of ingested rows

For every key the rows pushed are the rows buffered, the rows that running
flushes hold, and the rows of the files that flushes reported.  Every step
moves rows between these places and keeps the total.
-/

namespace OpenSnow.Ingest.Conservation

open Ingest.Buffer

variable {Row Dir : Type*}

/-! ## Rows per key -/

/-- The rows that a list of batches holds under a key. -/
def keyRows (key : Key) (entries : List (Key × List Row)) : Multiset Row :=
  (entries.map fun entry =>
    if entry.1 = key then (entry.2 : Multiset Row) else 0).sum

@[simp]
theorem keyRows_nil (key : Key) :
    keyRows key ([] : List (Key × List Row)) = 0 := rfl

@[simp]
theorem keyRows_cons (key : Key) (entry : Key × List Row)
    (rest : List (Key × List Row)) :
    keyRows key (entry :: rest) =
      (if entry.1 = key then (entry.2 : Multiset Row) else 0) +
        keyRows key rest := by
  simp [keyRows]

theorem keyRows_perm {key : Key} {left right : List (Key × List Row)}
    (perm : left.Perm right) :
    keyRows key left = keyRows key right :=
  (perm.map _).sum_eq

/-- Extending an entry adds the rows to its key and to no other key. -/
theorem keyRows_extendEntry (key target : Key) (rows : List Row)
    (entries : List (Key × List Row)) :
    keyRows key (extendEntry target rows entries) =
      (if target = key then (rows : Multiset Row) else 0) +
        keyRows key entries := by
  induction entries with
  | nil => simp [extendEntry]
  | cons entry rest ih =>
      rw [extendEntry]
      by_cases found : entry.1 = target
      · rw [if_pos found, keyRows_cons, keyRows_cons, found]
        by_cases own : target = key
        · simp only [own, if_true, ← Multiset.coe_add]
          abel
        · simp [own]
      · rw [if_neg found, keyRows_cons, keyRows_cons, ih]
        abel

/-! ## Rows in files -/

section Files

variable (resolve : String → Dir) (files : Dir → String → Option (List Row))

/-- The rows in the files that a list of descriptors names for a key. -/
def tableRows (key : Key) (tables : List FlushedTable) : Multiset Row :=
  (tables.map fun table =>
    if table.key = key then (fileRows resolve files table : Multiset Row)
    else 0).sum

/-- The descriptor names a file with as many rows as it says. -/
def Stored (table : FlushedTable) : Prop :=
  ∃ rows,
    files (resolve table.parquetPath.dir) table.parquetPath.stamp =
        some rows ∧
      rows.length = table.rows

theorem tableRows_append (key : Key) (front back : List FlushedTable) :
    tableRows resolve files key (front ++ back) =
      tableRows resolve files key front +
        tableRows resolve files key back := by
  simp [tableRows]

variable {resolve files} [DecidableEq Dir]

variable {path : ParquetPath}

/-- Creating a file leaves every other file alone. -/
theorem writeFile_of_stored {rows : List Row} {table : FlushedTable}
    (new : files (resolve path.dir) path.stamp = none)
    (stored : Stored resolve files table) :
    writeFile resolve files path rows (resolve table.parquetPath.dir)
        table.parquetPath.stamp =
      files (resolve table.parquetPath.dir) table.parquetPath.stamp := by
  rcases stored with ⟨contents, present, -⟩
  rw [writeFile, if_neg]
  rintro ⟨sameDir, sameStamp⟩
  rw [sameDir, sameStamp, new] at present
  cases present

theorem Stored.writeFile {rows : List Row} {table : FlushedTable}
    (new : files (resolve path.dir) path.stamp = none)
    (stored : Stored resolve files table) :
    Stored resolve (writeFile resolve files path rows) table := by
  rw [Stored, writeFile_of_stored new stored]
  exact stored

theorem tableRows_writeFile {rows : List Row}
    {tables : List FlushedTable} (key : Key)
    (new : files (resolve path.dir) path.stamp = none)
    (stored : ∀ table ∈ tables, Stored resolve files table) :
    tableRows resolve (writeFile resolve files path rows) key tables =
      tableRows resolve files key tables := by
  unfold tableRows
  congr 1
  apply List.map_congr_left
  intro table member
  rw [fileRows, fileRows, writeFile_of_stored new (stored table member)]

/-- The file just written holds the rows and matches its descriptor. -/
theorem stored_flushedTable (warehouse : String) (key : Key)
    (stamp : String) (rows : List Row) :
    Stored resolve
      (Buffer.writeFile resolve files ⟨tableDir warehouse key, stamp⟩ rows)
      (flushedTable warehouse key stamp rows) :=
  ⟨rows, by simp [Buffer.writeFile, flushedTable], rfl⟩

theorem tableRows_flushedTable (warehouse : String) (key target : Key)
    (stamp : String) (rows : List Row) :
    tableRows resolve
        (Buffer.writeFile resolve files ⟨tableDir warehouse target, stamp⟩
          rows)
        key [flushedTable warehouse target stamp rows] =
      if target = key then (rows : Multiset Row) else 0 := by
  simp [tableRows, fileRows, Buffer.writeFile, flushedTable,
    FlushedTable.key]

end Files

/-! ## The invariant -/

/-- The rows of a key that a running flush has drained. -/
def heldRows (resolve : String → Dir)
    (files : Dir → String → Option (List Row)) (key : Key)
    (flush : Flush Row) : Multiset Row :=
  keyRows key flush.drained + tableRows resolve files key flush.flushed

/-- Nothing is lost, duplicated or moved, and the statistics are sums. -/
structure Conserved (resolve : String → Dir) (world : World Row Dir) :
    Prop where
  rows : ∀ key,
    keyRows key world.pushed =
      keyRows key world.state.buffers +
        (world.flushes.map (heldRows resolve world.files key)).sum +
          tableRows resolve world.files key world.reported
  heldStored : ∀ flush ∈ world.flushes, ∀ table ∈ flush.flushed,
    Stored resolve world.files table
  reportedStored : ∀ table ∈ world.reported,
    Stored resolve world.files table
  heldTotals : ∀ flush ∈ world.flushes,
    flush.totalRows = (flush.flushed.map FlushedTable.rows).sum
  totalRows :
    world.state.totalRowsFlushed =
      (world.reported.map FlushedTable.rows).sum
  totalFiles : world.state.totalFilesFlushed = world.reported.length

theorem Conserved.initial (resolve : String → Dir) :
    Conserved resolve (.initial : World Row Dir) where
  rows := by
    intro key
    simp [World.initial, BufferState.default, tableRows]
  heldStored := by simp [World.initial]
  reportedStored := by simp [World.initial]
  heldTotals := by simp [World.initial]
  totalRows := rfl
  totalFiles := rfl

variable {before after : List (Flush Row)}

/-- Replacing a running flush keeps what is known of the others. -/
theorem forall_replaced {P : Flush Row → Prop} {flush replacement : Flush Row}
    (all : ∀ other ∈ before ++ flush :: after, P other)
    (replaced : P replacement) :
    ∀ other ∈ before ++ replacement :: after, P other := by
  intro other member
  rcases List.mem_append.mp member with inBefore | rest
  · exact all other (by simp [inBefore])
  · rcases List.mem_cons.mp rest with isNew | inAfter
    · rw [isNew]
      exact replaced
    · exact all other (by simp [inAfter])

variable {flush : Flush Row}

theorem forall_removed {P : Flush Row → Prop}
    (all : ∀ other ∈ before ++ flush :: after, P other) :
    ∀ other ∈ before ++ after, P other := by
  intro other member
  rcases List.mem_append.mp member with inBefore | inAfter
  · exact all other (by simp [inBefore])
  · exact all other (by simp [inAfter])

variable {world : World Row Dir}

/-- A flush that is through reports the rows it held. -/
theorem Conserved.finish {resolve : String → Dir}
    (conserved : Conserved resolve world) (now : Int)
    (running : world.flushes = before ++ flush :: after)
    (drained : flush.drained = []) :
    Conserved resolve
      { world with
        state :=
          { world.state with
            lastFlush := some now
            totalRowsFlushed :=
              world.state.totalRowsFlushed + flush.totalRows
            totalFilesFlushed :=
              world.state.totalFilesFlushed + flush.flushed.length }
        flushes := before ++ after
        reported := world.reported ++ flush.flushed } := by
  rcases conserved with
    ⟨rows, heldStored, reportedStored, heldTotals, totalRows, totalFiles⟩
  rw [running] at heldStored heldTotals
  have ownTotals := heldTotals flush (by simp)
  refine
    ⟨?_, forall_removed heldStored, ?_, forall_removed heldTotals, ?_, ?_⟩
  · intro other
    rw [rows other, running]
    simp only [List.map_append, List.map_cons, List.sum_append,
      List.sum_cons, heldRows, drained, keyRows_nil, tableRows_append]
    abel
  · intro table member
    rcases List.mem_append.mp member with old | new
    · exact reportedStored table old
    · exact heldStored flush (by simp) table new
  · simp [totalRows, ownTotals]
  · simp [totalFiles]

variable [DecidableEq Dir] {warehouse : String} {resolve : String → Dir}

theorem heldRows_writeFile {files : Dir → String → Option (List Row)}
    {path : ParquetPath} {rows : List Row} {flushes : List (Flush Row)}
    (key : Key)
    (new : files (resolve path.dir) path.stamp = none)
    (stored : ∀ flush ∈ flushes, ∀ table ∈ flush.flushed,
      Stored resolve files table) :
    flushes.map (heldRows resolve (writeFile resolve files path rows) key) =
      flushes.map (heldRows resolve files key) := by
  apply List.map_congr_left
  intro flush member
  rw [heldRows, heldRows, tableRows_writeFile key new (stored flush member)]

/-- A written table moves from the drained rows into a file. -/
theorem Conserved.written {key : Key}
    {batch : List Row} {rest : List (Key × List Row)} {stamp : String}
    (conserved : Conserved resolve world)
    (running : world.flushes = before ++ flush :: after)
    (drained : flush.drained = (key, batch) :: rest) (newStamp :
      world.files (resolve (tableDir warehouse key)) stamp = none) :
    Conserved resolve
      { world with
        files :=
          writeFile resolve world.files ⟨tableDir warehouse key, stamp⟩ batch
        flushes :=
          before ++
            { drained := rest
              flushed :=
                flush.flushed ++ [flushedTable warehouse key stamp batch]
              totalRows := flush.totalRows + batch.length } :: after } := by
  rcases conserved with
    ⟨rows, heldStored, reportedStored, heldTotals, totalRows, totalFiles⟩
  have pathNew : world.files
      (resolve (ParquetPath.mk (tableDir warehouse key) stamp).dir)
      (ParquetPath.mk (tableDir warehouse key) stamp).stamp = none :=
    newStamp
  rw [running] at heldStored heldTotals
  have beforeStored : ∀ flush ∈ before, ∀ table ∈ flush.flushed,
      Stored resolve world.files table :=
    fun flush member => heldStored flush (by simp [member])
  have afterStored : ∀ flush ∈ after, ∀ table ∈ flush.flushed,
      Stored resolve world.files table :=
    fun flush member => heldStored flush (by simp [member])
  have ownStored := heldStored flush (by simp)
  have ownTotals := heldTotals flush (by simp)
  refine ⟨?_, ?_, ?_, ?_, totalRows, totalFiles⟩
  · intro other
    rw [rows other, running]
    -- The new file changes none of the files already named, so only the rows
    -- of `batch` move.
    simp only [List.map_append, List.map_cons, List.sum_append,
      List.sum_cons, heldRows_writeFile other pathNew beforeStored,
      heldRows_writeFile other pathNew afterStored,
      tableRows_writeFile other pathNew reportedStored]
    simp only [heldRows, drained, keyRows_cons, tableRows_append,
      tableRows_writeFile other pathNew ownStored,
      tableRows_flushedTable]
    abel
  · apply forall_replaced
    · intro held member table tableMem
      exact (heldStored held member table tableMem).writeFile pathNew
    · intro table tableMem
      rcases List.mem_append.mp tableMem with old | fresh
      · exact (ownStored table old).writeFile pathNew
      · rw [List.mem_singleton.mp fresh]
        exact stored_flushedTable warehouse key stamp batch
  · intro table member
    exact (reportedStored table member).writeFile pathNew
  · apply forall_replaced heldTotals
    simp [ownTotals, flushedTable]

theorem Conserved.step {world next : World Row Dir}
    (conserved : Conserved resolve world)
    (step : Step warehouse resolve world next) :
    Conserved resolve next := by
  have rows := conserved.rows
  have heldStored := conserved.heldStored
  have heldTotals := conserved.heldTotals
  cases step with
  | push key batch =>
      refine
        ⟨?_, heldStored, conserved.reportedStored, heldTotals,
          conserved.totalRows, conserved.totalFiles⟩
      intro other
      simp only [BufferState.push, keyRows_cons, keyRows_extendEntry,
        rows other]
      abel
  | drain drained anyOrder =>
      refine
        ⟨?_, ?_, conserved.reportedStored, ?_, conserved.totalRows,
          conserved.totalFiles⟩
      · intro other
        simp only [List.map_cons, List.sum_cons, heldRows, Flush.start,
          rows other, keyRows_perm anyOrder, keyRows_nil]
        simp only [tableRows, List.map_nil, List.sum_nil]
        abel
      · intro flush member
        rcases List.mem_cons.mp member with isNew | old
        · simp [isNew, Flush.start]
        · exact heldStored flush old
      · intro flush member
        rcases List.mem_cons.mp member with isNew | old
        · simp [isNew, Flush.start]
        · exact heldTotals flush old
  | skipEmpty before after flush key rest running drained =>
      rw [running] at heldStored heldTotals
      refine
        ⟨?_, forall_replaced heldStored (heldStored flush (by simp)),
          conserved.reportedStored,
          forall_replaced heldTotals (heldTotals flush (by simp)),
          conserved.totalRows, conserved.totalFiles⟩
      intro other
      rw [rows other, running]
      simp [heldRows, drained]
  | rebuffer before after flush key batch rest running drained nonempty =>
      rw [running] at heldStored heldTotals
      refine
        ⟨?_, forall_replaced heldStored (heldStored flush (by simp)),
          conserved.reportedStored,
          forall_replaced heldTotals (heldTotals flush (by simp)),
          conserved.totalRows, conserved.totalFiles⟩
      intro other
      rw [rows other, running]
      simp only [List.map_append, List.map_cons, List.sum_append,
        List.sum_cons, heldRows, drained, keyRows_cons, keyRows_extendEntry]
      abel
  | written before after flush key batch rest stamp running drained nonempty
      newStamp =>
      exact conserved.written running drained newStamp
  | finish before after flush now running drained =>
      exact conserved.finish now running drained

theorem Conserved.reachable (reachable : Reachable warehouse resolve world) :
    Conserved resolve world := by
  induction reachable with
  | refl => exact Conserved.initial resolve
  | tail _ step ih => exact ih.step step

end OpenSnow.Ingest.Conservation
