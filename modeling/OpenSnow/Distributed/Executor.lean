import Mathlib.Algebra.Group.Nat.Defs
import OpenSnow.Distributed.Partitioner

/-!
# The scatter-gather executor

One fragment per worker, all results merged.  A worker executor is what it
does with a fragment; the engine is a function from a text to batches or an
error.
-/

namespace OpenSnow.Distributed

open Arrow

variable {Row Error : Type}

/-- What an engine handle answers to a text. -/
abbrev Engine (Row Error : Type) :=
  String → Except Error (List (RecordBatch Row))

/-- The ways a distributed query can fail. -/
inductive ExecuteError (Error : Type) where
  /-- The engine failed on the whole query. -/
  | local (error : Error)
  /-- "DistributedExecutor: no workers configured". -/
  | noWorkers
  /-- "fragment …/… failed". -/
  | fragment (partitionId totalPartitions : Nat) (error : Error)
  /-- "scatter-gather merge: partition schema mismatch …". -/
  | schemaMismatch (mismatch : SchemaMismatch)
deriving DecidableEq, Repr

/-- Anything that can run a fragment. -/
structure WorkerExecutor (Row Error : Type) where
  label : String
  executeFragment : PartitionedFragment →
    Except (ExecuteError Error) (List (RecordBatch Row))

/-- `LocalWorkerExecutor::with_label`. -/
def localWorkerExecutor (engine : Engine Row Error) (label : String) :
    WorkerExecutor Row Error where
  label := label
  executeFragment fragment :=
    (engine fragment.sql).mapError
      (.fragment fragment.partitionId fragment.totalPartitions)

/-- Fragments with the workers that run them. -/
def assignments (workers : List (WorkerExecutor Row Error))
    (queryId sql : String) (strategy : PartitionStrategy) :
    List (PartitionedFragment × WorkerExecutor Row Error) :=
  (splitQuery queryId sql (workers.length % 2 ^ 32) strategy).fragments.zip
    workers

/-- Run a query distributed across the workers and merge the results. -/
def executeWithStrategy (workers : List (WorkerExecutor Row Error))
    (queryId sql : String) (strategy : PartitionStrategy) :
    Except (ExecuteError Error) (List (RecordBatch Row)) :=
  if workers.isEmpty then .error .noWorkers
  else
    match
      (assignments workers queryId sql strategy).mapM
        fun (fragment, worker) => worker.executeFragment fragment
    with
    | .error error => .error error
    | .ok partials => (mergeResults partials).mapError .schemaMismatch

/-- The workers answer every fragment with what the engine answers to it. -/
def AllLocal (engine : Engine Row Error)
    (workers : List (WorkerExecutor Row Error)) : Prop :=
  ∀ worker ∈ workers, ∃ label, worker = localWorkerExecutor engine label

/-- How many fragments a query is split into. -/
def fragmentCount (workers : List (WorkerExecutor Row Error)) : Nat :=
  max (workers.length % 2 ^ 32) 1

theorem mapM_eq_replicate {Item Result Failure : Type}
    {run : Item → Except Failure Result} {items : List Item} {result : Result}
    (constant : ∀ item ∈ items, run item = .ok result) :
    items.mapM run = .ok (List.replicate items.length result) := by
  induction items with
  | nil => rfl
  | cons item rest ih =>
      have restConstant : ∀ item ∈ rest, run item = .ok result :=
        fun other member => constant other (by simp [member])
      rw [List.mapM_cons, constant item (by simp), ih restConstant]
      rfl

variable {workers : List (WorkerExecutor Row Error)}

/-- Replicated over local workers, a query is answered once per fragment. -/
theorem gather_replicate {engine : Engine Row Error} {queryId sql : String}
    {batches : List (RecordBatch Row)}
    (nonempty : workers ≠ []) (allLocal : AllLocal engine workers)
    (answer : engine sql = .ok batches) :
    ((assignments workers queryId sql .replicate).mapM
        fun (fragment, worker) => worker.executeFragment fragment) =
      .ok (List.replicate (fragmentCount workers) batches) := by
  have enough : fragmentCount workers ≤ workers.length := by
    have positive := List.length_pos_iff.mpr nonempty
    have bound := Nat.mod_le workers.length (2 ^ 32)
    simp only [fragmentCount]
    omega
  have length :
      (assignments workers queryId sql .replicate).length =
        fragmentCount workers := by
    rw [assignments, List.length_zip, length_splitQuery]
    exact Nat.min_eq_left enough
  rw [← length]
  apply mapM_eq_replicate
  rintro ⟨fragment, worker⟩ member
  have memberships := List.of_mem_zip member
  rcases allLocal worker memberships.2 with ⟨label, rfl⟩
  simp only [localWorkerExecutor,
    sql_of_mem_splitQuery_replicate memberships.1, answer]
  rfl

theorem fragmentCount_pos (workers : List (WorkerExecutor Row Error)) :
    0 < fragmentCount workers := by
  simp only [fragmentCount]
  omega

theorem oneSchema_replicate_iff {count : Nat} (positive : 0 < count)
    (batches : List (RecordBatch Row)) :
    OneSchema (List.replicate count batches).flatten ↔ OneSchema batches := by
  have members : ∀ batch,
      batch ∈ (List.replicate count batches).flatten ↔ batch ∈ batches := by
    intro batch
    rw [List.mem_flatten]
    constructor
    · rintro ⟨copy, copyMem, member⟩
      rwa [← (List.mem_replicate.mp copyMem).2]
    · intro member
      exact
        ⟨batches, List.mem_replicate.mpr ⟨by omega, rfl⟩, member⟩
  simp only [OneSchema, members]

/-- A query replicated over local workers answers its own copies, merged. -/
theorem executeWithStrategy_replicate_iff {engine : Engine Row Error}
    {queryId sql : String} {batches out : List (RecordBatch Row)}
    (nonempty : workers ≠ []) (allLocal : AllLocal engine workers)
    (answer : engine sql = .ok batches) :
    executeWithStrategy workers queryId sql .replicate = .ok out ↔
      OneSchema batches ∧
        out = (List.replicate (fragmentCount workers) batches).flatten := by
  have isEmpty : ¬ workers.isEmpty = true := by
    rwa [List.isEmpty_iff]
  rw [executeWithStrategy, if_neg isEmpty,
    gather_replicate nonempty allLocal answer,
    ← oneSchema_replicate_iff (fragmentCount_pos workers)]
  dsimp only
  constructor
  · intro ok
    cases merged :
        mergeResults (List.replicate (fragmentCount workers) batches) with
    | error mismatch => simp [merged, Except.mapError] at ok
    | ok rows =>
        have one := oneSchema_of_mergeResults merged
        rw [mergeResults_of_oneSchema one] at ok
        simp only [Except.mapError, Except.ok.injEq] at ok
        exact ⟨one, ok.symm⟩
  · rintro ⟨one, rfl⟩
    rw [mergeResults_of_oneSchema one]
    rfl

end OpenSnow.Distributed
