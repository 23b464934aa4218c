import Mathlib.Data.List.Defs
import Mathlib.Logic.Function.Basic
import Mathlib.Tactic.Common

/-!
# The job queue and its warm workers

A producer enqueues a job and then writes its status; a worker pops a job,
writes that it runs, executes it and writes how it ended.  The queues and the
statuses are on a server that all of them share, every command to it is one
step, and every command may fail.
-/

namespace OpenSnow.Queue

abbrev JobId := String

/-- A query job pushed to the queue and consumed by a warm worker. -/
structure QueryJob where
  id : JobId
  sql : String
  warehouse : String
  user : Option String
  enqueuedAt : String
  correlationId : Option String
deriving DecidableEq, Repr

/-- Current lifecycle status of a job. -/
inductive JobStatus where
  | queued
  | running (workerId : String)
  | done (rows durationMs : Int)
  | failed (error : String)
deriving DecidableEq, Repr

def JobStatus.isTerminal : JobStatus → Bool
  | .done _ _ => true
  | .failed _ => true
  | _ => false

/-- What becomes of a command to the server. -/
inductive Answer where
  | done
  /-- The command fails and has no effect. -/
  | refused
  /-- The command has its effect, and the client sees an error. -/
  | lost
deriving DecidableEq, Repr

inductive PushError where
  /-- Context `"LPUSH"`. -/
  | lpush
  /-- Context `"SET EX status"`. -/
  | setStatus
deriving DecidableEq, Repr

/-- A call of `push` that has returned. -/
structure Pushed where
  job : QueryJob
  /-- Whether the call put the job into its queue. -/
  enqueued : Bool
  /-- The queue length, or the error. -/
  result : Except PushError Nat
deriving DecidableEq, Repr

structure WarmPoolConfig where
  warehouses : List String
  workerId : String
deriving DecidableEq, Repr

/-- Where a worker is in its poll loop. -/
inductive WorkerPhase where
  /-- Waiting for warm-up. -/
  | warmingUp
  | polling
  /-- Has a job and is about to write that it runs. -/
  | popped (job : QueryJob)
  /-- Is about to execute its job. -/
  | executing (job : QueryJob)
  /-- Has executed a job and is about to write how it ended. -/
  | finishing (id : JobId) (status : JobStatus)
  | stopped
deriving DecidableEq, Repr

/-- The server, the producers, the workers, and what happened so far. -/
structure System where
  /-- `opensnow:queue:<warehouse>`, the head first. -/
  queues : String → List QueryJob
  /-- `opensnow:status:<job_id>`. -/
  statuses : JobId → Option JobStatus
  /-- Calls of `push` between the enqueue and the status write. -/
  publishing : List (QueryJob × Nat)
  workers : Nat → WorkerPhase
  /-- The jobs that were put into a queue. -/
  enqueued : List JobId
  /-- The executions, each with its worker. -/
  executed : List (JobId × Nat)
  /-- The jobs whose final status was written. -/
  settled : List JobId
  /-- The calls of `push` that returned. -/
  pushes : List Pushed

def System.start : System where
  queues := fun _ => []
  statuses := fun _ => none
  publishing := []
  workers := fun _ => .warmingUp
  enqueued := []
  executed := []
  settled := []
  pushes := []

namespace System

/-- `SET EX`, unless the server does not get it. -/
def setStatus (system : System) (id : JobId) (status : JobStatus)
    (answer : Answer) : System :=
  if answer = .refused then system
  else
    { system with
      statuses := Function.update system.statuses id (some status)
      settled :=
        if status.isTerminal then id :: system.settled else system.settled }

/-- `LPUSH`, the first half of `push`. -/
def enqueue (system : System) (job : QueryJob) : System :=
  { system with
    queues :=
      Function.update system.queues job.warehouse
        (job :: system.queues job.warehouse)
    enqueued := job.id :: system.enqueued }

/-- `BRPOP`: the oldest job of the first queue that has one. -/
def nextJob (system : System) : List String → Option (String × QueryJob)
  | [] => none
  | warehouse :: rest =>
      match (system.queues warehouse).getLast? with
      | some job => some (warehouse, job)
      | none => system.nextJob rest

/-- A job leaves the queue of a warehouse. -/
def dequeue (system : System) (warehouse : String) : System :=
  { system with
    queues :=
      Function.update system.queues warehouse
        (system.queues warehouse).dropLast }

def setPhase (system : System) (worker : Nat) (phase : WorkerPhase) :
    System :=
  { system with workers := Function.update system.workers worker phase }

def returned (system : System) (push : Pushed) : System :=
  { system with pushes := push :: system.pushes }

@[simp]
theorem workers_setPhase (system : System) (worker : Nat)
    (phase : WorkerPhase) :
    (system.setPhase worker phase).workers =
      Function.update system.workers worker phase := rfl

@[simp]
theorem queues_enqueue (system : System) (job : QueryJob) :
    (system.enqueue job).queues =
      Function.update system.queues job.warehouse
        (job :: system.queues job.warehouse) := rfl

@[simp]
theorem queues_dequeue (system : System) (warehouse : String) :
    (system.dequeue warehouse).queues =
      Function.update system.queues warehouse
        (system.queues warehouse).dropLast := rfl

end System

inductive QueueStep where
  | lpush (job : QueryJob) (answer : Answer)
  | setQueued (push : QueryJob × Nat) (answer : Answer)
  /-- The process of a producer ends between its two commands. -/
  | abandon (push : QueryJob × Nat)
  /-- The ready flag of a worker is set. -/
  | warmUp (worker : Nat)
  | pop (worker : Nat) (answer : Answer)
  | setRunning (worker : Nat) (answer : Answer)
  | execute (worker : Nat) (result : Except String Int) (durationMs : Int)
  | setFinal (worker : Nat) (answer : Answer)
  /-- A worker sees its shutdown flag at the head of its loop. -/
  | shutdown (worker : Nat)
  /-- The process of a worker ends. -/
  | crash (worker : Nat)
  /-- A status lives as long as its time to live. -/
  | expire (id : JobId)
deriving DecidableEq, Repr

/-- `final_status` of an execution. -/
def finalStatus (result : Except String Int) (durationMs : Int) : JobStatus :=
  match result with
  | .ok rows => .done rows durationMs
  | .error error => .failed error

section

variable (config : Nat → WarmPoolConfig)

def System.perform (system : System) : QueueStep → System
  | .lpush job .done =>
      { system.enqueue job with
        publishing :=
          (job, (system.queues job.warehouse).length + 1) ::
            system.publishing }
  | .lpush job .refused => system.returned ⟨job, false, .error .lpush⟩
  | .lpush job .lost =>
      (system.enqueue job).returned ⟨job, true, .error .lpush⟩
  | .setQueued push answer =>
      if push ∈ system.publishing then
        { (system.setStatus push.1.id .queued answer).returned
            ⟨push.1, true,
              if answer = .done then .ok push.2 else .error .setStatus⟩ with
          publishing := system.publishing.erase push }
      else system
  | .abandon push =>
      { system with publishing := system.publishing.erase push }
  | .warmUp worker =>
      match system.workers worker with
      | .warmingUp => system.setPhase worker .polling
      | _ => system
  | .pop worker answer =>
      match system.workers worker,
        system.nextJob (config worker).warehouses with
      | .polling, some (warehouse, job) =>
          match answer with
          | .done => (system.dequeue warehouse).setPhase worker (.popped job)
          | .refused => system
          | .lost => system.dequeue warehouse
      | _, _ => system
  | .setRunning worker answer =>
      match system.workers worker with
      | .popped job =>
          (system.setStatus job.id (.running (config worker).workerId)
            answer).setPhase worker (.executing job)
      | _ => system
  | .execute worker result durationMs =>
      match system.workers worker with
      | .executing job =>
          { system.setPhase worker
              (.finishing job.id (finalStatus result durationMs)) with
            executed := (job.id, worker) :: system.executed }
      | _ => system
  | .setFinal worker answer =>
      match system.workers worker with
      | .finishing id status =>
          (system.setStatus id status answer).setPhase worker .polling
      | _ => system
  | .shutdown worker =>
      match system.workers worker with
      | .polling => system.setPhase worker .stopped
      | _ => system
  | .crash worker => system.setPhase worker .stopped
  | .expire id =>
      { system with statuses := Function.update system.statuses id none }

end

end OpenSnow.Queue
