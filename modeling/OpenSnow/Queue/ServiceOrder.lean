import OpenSnow.Queue.FinalStatus

/-!
# The order of service

Jobs leave the queue of a warehouse as they came, whatever commands fail and
whatever processes end.
-/

namespace OpenSnow.Queue

section

variable (config : Nat → WarmPoolConfig) (warehouse : String)

/-- The job that a step puts into the queue of a warehouse. -/
def joined (_ : System) : QueueStep → Option QueryJob
  | .lpush _ .refused => none
  | .lpush job _ => if job.warehouse = warehouse then some job else none
  | _ => none

/-- The job that a step takes out of it, for a worker or for nobody. -/
def taken (system : System) : QueueStep → Option QueryJob
  | .pop _ .refused => none
  | .pop worker _ =>
      match system.workers worker,
        system.nextJob (config worker).warehouses with
      | .polling, some (found, job) =>
          if found = warehouse then some job else none
      | _, _ => none
  | _ => none

/-- The jobs that the steps of a run concern, the first one first. -/
def alongRun (concerned : System → QueueStep → Option QueryJob) :
    System → List QueueStep → List QueryJob
  | _, [] => []
  | system, step :: rest =>
      (concerned system step).toList ++
        alongRun concerned (system.perform config step) rest

end

variable {config : Nat → WarmPoolConfig} {warehouse : String}
  {system : System}

theorem reverse_queue_enqueue (job : QueryJob) :
    ((system.enqueue job).queues warehouse).reverse =
      (system.queues warehouse).reverse ++
        (if job.warehouse = warehouse then some job else none).toList := by
  by_cases here : job.warehouse = warehouse
  · subst here
    simp
  · simp [here, Function.update_of_ne (Ne.symm here)]

theorem reverse_queue_dequeue {found : String} {job : QueryJob}
    (oldest : (system.queues found).getLast? = some job) :
    (system.queues warehouse).reverse =
      (if found = warehouse then some job else none).toList ++
        ((system.dequeue found).queues warehouse).reverse := by
  by_cases here : found = warehouse
  · subst here
    have split := List.dropLast_append_getLast? job oldest
    simpa using congrArg List.reverse split.symm
  · simp [here, Function.update_of_ne (Ne.symm here)]

/-- A step joins a job at one end of a queue or takes one at the other. -/
theorem reverse_queue_perform (step : QueueStep) :
    (system.queues warehouse).reverse ++
        (joined warehouse system step).toList =
      (taken config warehouse system step).toList ++
        ((system.perform config step).queues warehouse).reverse := by
  have same : ∀ {other : System}, other.queues = system.queues →
      (system.queues warehouse).reverse ++ [] =
        [] ++ (other.queues warehouse).reverse := by
    intro other queues
    rw [queues, List.append_nil, List.nil_append]
  have setStatus : ∀ {id status answer},
      (system.setStatus id status answer).queues = system.queues :=
    (System.setStatus_eq system _ _ _).1
  cases step with
  | lpush job answer =>
      cases answer with
      | refused => exact same rfl
      | done | lost => exact (reverse_queue_enqueue job).symm
  | pop worker answer =>
      cases phase : system.workers worker with
      | polling =>
          cases next : system.nextJob (config worker).warehouses with
          | none =>
              cases answer <;>
                simp only [joined, taken, System.perform, phase, next] <;>
                exact same rfl
          | some oldest =>
              have oldest := (System.getLast?_of_nextJob next).2
              cases answer <;>
                simp only [joined, taken, System.perform, phase, next]
              · exact (List.append_nil _).trans (reverse_queue_dequeue oldest)
              · exact same rfl
              · exact (List.append_nil _).trans (reverse_queue_dequeue oldest)
      | _ =>
          cases answer <;> simp only [joined, taken, System.perform, phase] <;>
            exact same rfl
  | setQueued push answer | setRunning push answer | setFinal push answer =>
      refine same ?_
      rw [System.perform]
      split <;> first | rfl | exact setStatus
  | warmUp worker | shutdown worker | execute worker =>
      refine same ?_
      rw [System.perform]
      split <;> rfl
  | abandon push | crash worker | expire id => exact same rfl

/--
The jobs that join the queue of a warehouse leave it in the order in which they
joined, and those that have not left wait in this order.
-/
theorem first_come_first_served (config : Nat → WarmPoolConfig)
    (warehouse : String) (steps : List QueueStep) :
    alongRun config (joined warehouse) .start steps =
      alongRun config (taken config warehouse) .start steps ++
        ((System.after config steps).queues warehouse).reverse := by
  suffices ∀ system : System,
      (system.queues warehouse).reverse ++
          alongRun config (joined warehouse) system steps =
        alongRun config (taken config warehouse) system steps ++
          ((steps.foldl (System.perform config) system).queues
            warehouse).reverse from this .start
  induction steps with
  | nil => exact fun _ => List.append_nil _
  | cons step rest ih =>
      intro system
      rw [alongRun, alongRun, ← List.append_assoc, reverse_queue_perform,
        List.append_assoc, ih, List.append_assoc, List.foldl_cons]

end OpenSnow.Queue
