import Mathlib.Data.List.Sort
import OpenSnow.Foundation.Keyed
import OpenSnow.Rust.Integer

/-!
# The worker pool

The workers known to the scheduler and the ones it considers available.
-/

namespace OpenSnow.Distributed

open Foundation
open Rust

structure WorkerRegistration where
  workerId : String
  host : String
  port : Nat
  grpcPort : Nat
  cpuCores : Nat
  memoryBytes : Nat
  warehouse : String
deriving DecidableEq, Repr

inductive WorkerStatus where
  | active
  | draining
  | dead
deriving DecidableEq, Repr

structure WorkerInfo where
  registration : WorkerRegistration
  lastHeartbeat : Int
  activeTasks : Nat
  status : WorkerStatus
deriving DecidableEq, Repr

/-- The pool by worker id, in the iteration order of the hash map. -/
structure Scheduler where
  workers : List (String × WorkerInfo)
  heartbeatTimeoutSecs : Int
deriving DecidableEq, Repr

def Scheduler.new : Scheduler where
  workers := []
  heartbeatTimeoutSecs := 30

/-- Subtraction of 64-bit signed integers. -/
def subI64 (left right : Int) : Int :=
  (left - right).bmod (2 ^ 64)

/-- The active workers, the least loaded first. -/
def Scheduler.getAvailableWorkers (scheduler : Scheduler) (now : Int) :
    List WorkerInfo :=
  let active :=
    (scheduler.workers.map Prod.snd).filter fun worker =>
      worker.status = .active ∧
        subI64 now worker.lastHeartbeat < scheduler.heartbeatTimeoutSecs
  active.insertionSort fun left right =>
    left.activeTasks ≤ right.activeTasks

/-- Pick the best workers for a query. -/
def Scheduler.selectWorkers (scheduler : Scheduler) (count : Nat)
    (now : Int) : List WorkerInfo :=
  let available := scheduler.getAvailableWorkers now
  if available.isEmpty then [] else available.take count

/-! ## Changes of the pool -/

/-- A heartbeat from a worker to the coordinator. -/
structure Heartbeat where
  workerId : String
  activeTasks : Nat
  timestamp : Int
  fits : Integer.FitsI64 timestamp

/--
What the clock of the coordinator shows: seconds since 1970, before which the
clock refuses to read.
-/
structure ClockReading where
  seconds : Nat
  fits : Integer.FitsI64 seconds

/-- Register a new worker. -/
def Scheduler.registerWorker (scheduler : Scheduler)
    (registration : WorkerRegistration) (now : ClockReading) : Scheduler :=
  let info : WorkerInfo :=
    { registration
      lastHeartbeat := now.seconds
      activeTasks := 0
      status := .active }
  { scheduler with
    workers :=
      Keyed.putRow Prod.fst (registration.workerId, info) scheduler.workers }

/-- Process a heartbeat from a worker. -/
def Scheduler.heartbeat (scheduler : Scheduler) (beat : Heartbeat) :
    Scheduler :=
  { scheduler with
    workers :=
      scheduler.workers.map fun (id, worker) =>
        if id = beat.workerId then
          (id,
            { worker with
              lastHeartbeat := beat.timestamp
              activeTasks := beat.activeTasks })
        else (id, worker) }

/-- Remove a worker from the pool. -/
def Scheduler.deregisterWorker (scheduler : Scheduler) (workerId : String) :
    Scheduler :=
  { scheduler with
    workers := scheduler.workers.filter fun (id, _) => id ≠ workerId }

/-- The worker with its status after a health check. -/
def WorkerInfo.checked (worker : WorkerInfo) (timeout : Int)
    (now : ClockReading) : WorkerInfo :=
  if worker.status = .active ∧
      subI64 now.seconds worker.lastHeartbeat > timeout then
    { worker with status := .dead }
  else worker

/-- Mark dead workers (no heartbeat within timeout) and remove them. -/
def Scheduler.checkHealth (scheduler : Scheduler) (now : ClockReading) :
    Scheduler :=
  { scheduler with
    workers :=
      (scheduler.workers.map fun (id, worker) =>
        (id, worker.checked scheduler.heartbeatTimeoutSecs now)).filter
        fun (_, worker) => worker.status ≠ .dead }

end OpenSnow.Distributed
