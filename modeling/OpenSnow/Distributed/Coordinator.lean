import Mathlib.Algebra.Order.Group.Multiset
import OpenSnow.Distributed.Executor
import OpenSnow.Distributed.Scheduler

/-!
# The coordinator

A query runs on the coordinator's own engine, either once or, when workers are
available, once for every worker's fragment.
-/

namespace OpenSnow.Distributed

open Arrow

variable {Row Error : Type}

/-- One executor per worker, each on the coordinator's own engine. -/
def workerExecutors (engine : Engine Row Error) (workers : List WorkerInfo) :
    List (WorkerExecutor Row Error) :=
  workers.map fun worker =>
    localWorkerExecutor engine ("worker:" ++ worker.registration.workerId)

/-- Execute a query, distributed if any workers are available. -/
def executeQuery (engine : Engine Row Error) (scheduler : Scheduler)
    (now : Int) (queryId sql : String) :
    Except (ExecuteError Error) (List (RecordBatch Row)) :=
  let workers := scheduler.getAvailableWorkers now
  if workers.isEmpty then (engine sql).mapError .local
  else
    executeWithStrategy (workerExecutors engine workers) queryId sql
      .replicate

theorem workerExecutors_allLocal (engine : Engine Row Error)
    (workers : List WorkerInfo) :
    AllLocal engine (workerExecutors engine workers) := by
  intro executor member
  rcases List.mem_map.mp member with ⟨info, -, rfl⟩
  exact ⟨_, rfl⟩

/-- The rows of a result, without their order. -/
def resultRows (batches : List (RecordBatch Row)) : Multiset Row :=
  (batches.flatMap RecordBatch.rows : List Row)

theorem resultRows_replicate (count : Nat)
    (batches : List (RecordBatch Row)) :
    resultRows (List.replicate count batches).flatten =
      count • resultRows batches := by
  induction count with
  | zero => simp [resultRows]
  | succ count ih =>
      rw [List.replicate_succ, List.flatten_cons, succ_nsmul', ← ih]
      simp [resultRows]

theorem nsmul_eq_self_iff (count : Nat) (rows : Multiset Row) :
    count • rows = rows ↔ count = 1 ∨ rows = 0 := by
  constructor
  · intro same
    have cards := congrArg Multiset.card same
    rw [Multiset.card_nsmul] at cards
    rcases Nat.eq_zero_or_pos (Multiset.card rows) with empty | occupied
    · exact Or.inr (Multiset.card_eq_zero.mp empty)
    · left
      exact Nat.eq_of_mul_eq_mul_right occupied (by rw [cards, Nat.one_mul])
  · rintro (isOne | isEmpty)
    · rw [isOne, one_nsmul]
    · rw [isEmpty, nsmul_zero]

/--
A query with a local answer is answered with the same rows exactly when no
worker is available, or the answer has one schema and there is one fragment or
there are no rows.
-/
theorem executeQuery_same_rows_iff (engine : Engine Row Error)
    (scheduler : Scheduler) (now : Int) (queryId sql : String)
    (batches : List (RecordBatch Row)) (answer : engine sql = .ok batches) :
    (∃ out, executeQuery engine scheduler now queryId sql = .ok out ∧
        resultRows out = resultRows batches) ↔
      scheduler.getAvailableWorkers now = [] ∨
        (OneSchema batches ∧
          ((scheduler.getAvailableWorkers now).length % 2 ^ 32 ≤ 1 ∨
            resultRows batches = 0)) := by
  generalize available : scheduler.getAvailableWorkers now = workers
  cases workers with
  | nil =>
      have runsLocally :
          executeQuery engine scheduler now queryId sql = .ok batches := by
        simp [executeQuery, available, answer, Except.mapError]
      simp [runsLocally]
  | cons worker rest =>
      have distributes :
          executeQuery engine scheduler now queryId sql =
            executeWithStrategy (workerExecutors engine (worker :: rest))
              queryId sql .replicate := by
        simp [executeQuery, available]
      have nonempty : workerExecutors engine (worker :: rest) ≠ [] :=
        List.cons_ne_nil _ _
      have allLocal := workerExecutors_allLocal engine (worker :: rest)
      have count :
          fragmentCount (workerExecutors engine (worker :: rest)) =
            max ((worker :: rest).length % 2 ^ 32) 1 := by
        rw [fragmentCount, workerExecutors, List.length_map]
      simp only [distributes,
        executeWithStrategy_replicate_iff nonempty allLocal answer,
        and_assoc, exists_and_left, exists_eq_left, resultRows_replicate,
        List.cons_ne_nil _ _, false_or]
      rw [nsmul_eq_self_iff, count]
      refine and_congr_right fun _ => or_congr_left ?_
      omega

/-! ## Two workers -/

/-- A worker that has just registered. -/
def freshWorker (workerId : String) : WorkerInfo where
  registration :=
    { workerId, host := "localhost", port := 9092, grpcPort := 9100
      cpuCores := 4, memoryBytes := 8000000000, warehouse := "default" }
  lastHeartbeat := 0
  activeTasks := 0
  status := .active

/-- An engine that answers every query with one row. -/
def oneRowEngine : Engine Nat Unit := fun _ =>
  .ok [{ schema := [⟨"one", "Int64", false⟩], rows := [1] }]

/-- Two fresh workers answer the row twice. -/
theorem two_workers_answer_twice :
    let scheduler : Scheduler :=
      { Scheduler.new with
        workers := [("w1", freshWorker "w1"), ("w2", freshWorker "w2")] }
    (oneRowEngine "SELECT 1").toOption.map
        (List.flatMap RecordBatch.rows) = some [1] ∧
      (executeQuery oneRowEngine scheduler 0 "q" "SELECT 1").toOption.map
          (List.flatMap RecordBatch.rows) = some [1, 1] := by
  decide

theorem executeQuery_same_rows_iff_no_workers :
    (∃ out,
        executeQuery oneRowEngine .new 0 "q" "SELECT 1" = .ok out ∧
          resultRows out =
            resultRows
              [{ schema := [⟨"one", "Int64", false⟩], rows := [1] }]) ↔
      Scheduler.new.getAvailableWorkers 0 = [] ∨
        (OneSchema
            [{ schema := [⟨"one", "Int64", false⟩], rows := [1] }] ∧
          ((Scheduler.new.getAvailableWorkers 0).length % 2 ^ 32 ≤ 1 ∨
            resultRows
              [{ schema := [⟨"one", "Int64", false⟩], rows := [1] }] = 0)) :=
  executeQuery_same_rows_iff oneRowEngine .new 0 "q" "SELECT 1" _ rfl

end OpenSnow.Distributed
