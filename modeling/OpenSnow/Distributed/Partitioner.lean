import Mathlib.Tactic.Common
import OpenSnow.Arrow.RecordBatch

/-!
# Splitting a query and merging its results

A plan has one fragment per partition.  Results are merged by concatenation
as long as all batches have one schema.
-/

namespace OpenSnow.Distributed

open Arrow

/-- How a query is split across partitions. -/
inductive PartitionStrategy where
  | hashColumn (column : String)
  | replicate
deriving DecidableEq, Repr

/-- A planned per-partition query fragment. -/
structure PartitionedFragment where
  partitionId : Nat
  totalPartitions : Nat
  sql : String
deriving DecidableEq, Repr

/-- A scatter-gather plan. -/
structure PartitionedPlan where
  queryId : String
  fragments : List PartitionedFragment
deriving DecidableEq, Repr

/-- The text of partition `index` of `count`. -/
def fragmentSql (sql : String) (count index : Nat) :
    PartitionStrategy → String
  | .hashColumn column =>
      "SELECT * FROM (" ++ sql ++ ") AS __opensnow_inner WHERE ABS(MOD(HASH(" ++
        column ++ "), " ++ toString count ++ ")) = " ++ toString index
  | .replicate => sql

/-- Split a query into fragments, one at least. -/
def splitQuery (queryId sql : String) (numPartitions : Nat)
    (strategy : PartitionStrategy) : PartitionedPlan :=
  let count := max numPartitions 1
  { queryId
    fragments :=
      (List.range count).map fun index =>
        { partitionId := index
          totalPartitions := count
          sql := if count = 1 then sql else fragmentSql sql count index strategy } }

variable {Row : Type}

/-- A batch does not have the schema of the batches before it. -/
structure SchemaMismatch where
  expected : Schema
  got : Schema
deriving DecidableEq, Repr

/-- The loops of `merge_results`, over all batches in order. -/
def mergeLoop :
    Option Schema → List (RecordBatch Row) →
      Except SchemaMismatch (List (RecordBatch Row))
  | _, [] => .ok []
  | none, batch :: rest =>
      (mergeLoop (some batch.schema) rest).map (batch :: ·)
  | some expected, batch :: rest =>
      if expected = batch.schema then
        (mergeLoop (some expected) rest).map (batch :: ·)
      else
        .error ⟨expected, batch.schema⟩

/-- Merge per-partition results by concatenation. -/
def mergeResults (partitions : List (List (RecordBatch Row))) :
    Except SchemaMismatch (List (RecordBatch Row)) :=
  mergeLoop none partitions.flatten

/-! ## What splitting and merging do -/

theorem length_splitQuery (queryId sql : String) (numPartitions : Nat)
    (strategy : PartitionStrategy) :
    (splitQuery queryId sql numPartitions strategy).fragments.length =
      max numPartitions 1 := by
  simp [splitQuery]

theorem sql_of_mem_splitQuery_replicate {queryId sql : String}
    {numPartitions : Nat} {fragment : PartitionedFragment}
    (member :
      fragment ∈ (splitQuery queryId sql numPartitions .replicate).fragments) :
    fragment.sql = sql := by
  rw [splitQuery] at member
  rcases List.mem_map.mp member with ⟨index, -, built⟩
  rw [← built]
  exact ite_self sql

/-- All batches have one schema. -/
def OneSchema (batches : List (RecordBatch Row)) : Prop :=
  ∀ left ∈ batches, ∀ right ∈ batches, left.schema = right.schema

instance (batches : List (RecordBatch Row)) : Decidable (OneSchema batches) :=
  inferInstanceAs (Decidable (∀ left ∈ batches, ∀ right ∈ batches, _))

theorem mergeLoop_some_of_all {expected : Schema}
    {batches : List (RecordBatch Row)}
    (all : ∀ batch ∈ batches, batch.schema = expected) :
    mergeLoop (some expected) batches = .ok batches := by
  induction batches with
  | nil => rfl
  | cons batch rest ih =>
      have restAll : ∀ batch ∈ rest, batch.schema = expected :=
        fun other member => all other (by simp [member])
      rw [mergeLoop, if_pos (all batch (by simp)).symm, ih restAll]
      rfl

theorem all_of_mergeLoop_some {expected : Schema}
    {batches out : List (RecordBatch Row)}
    (merged : mergeLoop (some expected) batches = .ok out) :
    ∀ batch ∈ batches, batch.schema = expected := by
  induction batches generalizing out with
  | nil => simp
  | cons batch rest ih =>
      rw [mergeLoop] at merged
      split at merged
      · rename_i agrees
        cases restMerged : mergeLoop (some expected) rest with
        | error mismatch =>
            rw [restMerged] at merged
            cases merged
        | ok tail =>
            intro other member
            rcases List.mem_cons.mp member with isFirst | inRest
            · rw [isFirst, agrees]
            · exact ih restMerged other inRest
      · cases merged

theorem oneSchema_cons_iff {batch : RecordBatch Row}
    {rest : List (RecordBatch Row)} :
    OneSchema (batch :: rest) ↔
      ∀ other ∈ rest, other.schema = batch.schema := by
  constructor
  · intro one other member
    exact one other (by simp [member]) batch (by simp)
  · intro all
    have toFirst : ∀ other ∈ batch :: rest,
        other.schema = batch.schema := by
      intro other member
      rcases List.mem_cons.mp member with isFirst | inRest
      · rw [isFirst]
      · exact all other inRest
    intro left leftMem right rightMem
    rw [toFirst left leftMem, toFirst right rightMem]

variable {partitions : List (List (RecordBatch Row))}

theorem mergeResults_of_oneSchema (one : OneSchema partitions.flatten) :
    mergeResults partitions = .ok partitions.flatten := by
  rw [mergeResults]
  cases batches : partitions.flatten with
  | nil => rfl
  | cons batch rest =>
      rw [batches, oneSchema_cons_iff] at one
      rw [mergeLoop, mergeLoop_some_of_all one]
      rfl

/-- Merging succeeds on nothing else. -/
theorem oneSchema_of_mergeResults {out : List (RecordBatch Row)}
    (merged : mergeResults partitions = .ok out) :
    OneSchema partitions.flatten := by
  rw [mergeResults] at merged
  cases batches : partitions.flatten with
  | nil => simp [OneSchema]
  | cons batch rest =>
      rw [oneSchema_cons_iff]
      rw [batches, mergeLoop] at merged
      cases restMerged : mergeLoop (some batch.schema) rest with
      | error mismatch =>
          rw [restMerged] at merged
          cases merged
      | ok tail => exact all_of_mergeLoop_some restMerged

end OpenSnow.Distributed
