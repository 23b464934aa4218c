import Mathlib.Algebra.GroupWithZero.Nat
import Mathlib.Algebra.Order.BigOperators.Group.List
import Mathlib.Algebra.Order.Group.Nat
import Mathlib.Data.List.Nodup
import OpenSnow.Foundation.Runs
import OpenSnow.Queue.JobQueue

/-!
# Jobs are executed once and end once

A job is in one place at a time: in the queue of a warehouse, or in the hands
of a worker.  As long as a producer writes its status before the job has ended,
and nothing fails between the enqueue and that write, a status that says how
the job ended is never followed by another.
-/

namespace OpenSnow.Queue

open Foundation

/-! ## Places -/

inductive Place where
  | waiting (warehouse : String)
  | held (worker : Nat)
deriving DecidableEq

/-- The job that a worker has in its hands. -/
def WorkerPhase.jobId : WorkerPhase → Option JobId
  | .popped job => some job.id
  | .executing job => some job.id
  | .finishing id _ => some id
  | _ => none

/-- The job that a worker has and did not execute yet. -/
def WorkerPhase.unexecuted : WorkerPhase → Option JobId
  | .popped job => some job.id
  | .executing job => some job.id
  | _ => none

namespace System

/-- The job is in a place, by a reading of what workers have. -/
def At (reads : WorkerPhase → Option JobId) (system : System) :
    Place → JobId → Prop
  | .waiting warehouse, id =>
      id ∈ (system.queues warehouse).map QueryJob.id
  | .held worker, id => reads (system.workers worker) = some id

/-- The job is in a place. -/
abbrev Holds := At WorkerPhase.jobId

/-- The job is in a place where it can still be executed. -/
abbrev Pending := At WorkerPhase.unexecuted

def executedIds (system : System) : List JobId :=
  system.executed.map Prod.fst

end System

/-! ## The claim on runs -/

section

variable (config : Nat → WarmPoolConfig)

/-- The system after a run. -/
def System.after (steps : List QueueStep) : System :=
  steps.foldl (System.perform config) .start

/-- The steps of one worker that finds a job and is always answered. -/
def cycle (worker : Nat) (result : Except String Int) (durationMs : Int) :
    List QueueStep :=
  [.pop worker .done, .setRunning worker .done,
    .execute worker result durationMs, .setFinal worker .done]

/-- What a run in two parts keeps to. -/
structure RunsOnce (before after : List QueueStep) : Prop where
  /-- A job that has ended is not seen queued or running again. -/
  final : ∀ id ended,
    (System.after config before).statuses id = some ended →
      ended.isTerminal = true →
        ∀ later,
          (System.after config (before ++ after)).statuses id = some later →
            later.isTerminal = true
  /-- No job is executed twice. -/
  once : (System.after config (before ++ after)).executedIds.Nodup
  /-- A job that was enqueued and is nowhere was executed by one worker. -/
  executed : ∀ id ∈ (System.after config (before ++ after)).enqueued,
    (∃ place, (System.after config (before ++ after)).Pending place id) ∨
      ∃! worker,
        (id, worker) ∈ (System.after config (before ++ after)).executed
  /-- A worker that goes on polling executes what waits for it. -/
  executable : ∀ id warehouse worker,
    (System.after config (before ++ after)).Holds (.waiting warehouse) id →
      (System.after config (before ++ after)).workers worker = .polling →
        warehouse ∈ (config worker).warehouses →
          ∀ result durationMs, ∃ cycles,
            (id, worker) ∈
              (System.after config
                ((before ++ after) ++
                  (List.replicate cycles
                    (cycle worker result durationMs)).flatten)).executed
  /-- A call of `push` that fails has not enqueued its job. -/
  refused : ∀ push ∈ (System.after config (before ++ after)).pushes,
    (∃ error, push.result = .error error) → push.enqueued = false

/--
Jobs have ids of their own.  A producer writes its status before the job has
ended, and the write succeeds; no answer about a queue is lost, and no worker
ends with a job that it did not execute.
-/
def Orderly (system : System) : QueueStep → Prop
  | .lpush job answer => answer ≠ .lost ∧ job.id ∉ system.enqueued
  | .setQueued push answer =>
      push ∈ system.publishing →
        answer = .done ∧ push.1.id ∉ system.settled
  | .pop _ answer => answer ≠ .lost
  | .crash worker => (system.workers worker).unexecuted = none
  | _ => True

end

/-! ## What the operations do to places -/

theorem WorkerPhase.jobId_of_unexecuted {phase : WorkerPhase} {id : JobId}
    (unexecuted : phase.unexecuted = some id) : phase.jobId = some id := by
  cases phase with
  | popped job => exact unexecuted
  | executing job => exact unexecuted
  | warmingUp => cases unexecuted
  | polling => cases unexecuted
  | finishing other status => cases unexecuted
  | stopped => cases unexecuted

namespace System

variable {system : System} {reads : WorkerPhase → Option JobId}
  {place : Place} {id : JobId}

theorem At.holds (pending : system.Pending place id) :
    system.Holds place id := by
  cases place with
  | waiting warehouse => exact pending
  | held worker => exact WorkerPhase.jobId_of_unexecuted pending

theorem setStatus_eq (system : System) (id : JobId) (status : JobStatus)
    (answer : Answer) :
    (system.setStatus id status answer).queues = system.queues ∧
      (system.setStatus id status answer).workers = system.workers ∧
      (system.setStatus id status answer).enqueued = system.enqueued ∧
      (system.setStatus id status answer).executed = system.executed ∧
      (system.setStatus id status answer).pushes = system.pushes := by
  unfold setStatus
  split_ifs <;> exact ⟨rfl, rfl, rfl, rfl, rfl⟩

theorem at_of_same {other : System} (queues : other.queues = system.queues)
    (workers : other.workers = system.workers) :
    other.At reads place id ↔ system.At reads place id := by
  cases place with
  | waiting warehouse => rw [At, At, queues]
  | held worker => rw [At, At, workers]

theorem at_setPhase {worker : Nat} {phase : WorkerPhase} :
    (system.setPhase worker phase).At reads place id ↔
      if place = .held worker then reads phase = some id
      else system.At reads place id := by
  cases place with
  | waiting warehouse => exact Iff.rfl
  | held other =>
      by_cases same : other = worker
      · rw [if_pos (congrArg Place.held same), same, At, workers_setPhase,
          Function.update_self]
      · have different : ¬ Place.held other = .held worker :=
          fun equal => same (Place.held.inj equal)
        rw [if_neg different, At, workers_setPhase,
          Function.update_of_ne same]
        exact Iff.rfl

theorem at_enqueue {job : QueryJob} :
    (system.enqueue job).At reads place id ↔
      (place = .waiting job.warehouse ∧ id = job.id) ∨
        system.At reads place id := by
  cases place with
  | held worker =>
      rw [or_iff_right (fun isNew => nomatch isNew.1)]
      exact Iff.rfl
  | waiting warehouse =>
      by_cases same : warehouse = job.warehouse
      · rw [same, At, queues_enqueue, Function.update_self, List.map_cons,
          List.mem_cons, and_iff_right rfl]
        exact Iff.rfl
      · have different : ¬ Place.waiting warehouse = .waiting job.warehouse :=
          fun equal => same (Place.waiting.inj equal)
        rw [or_iff_right (fun isNew => different isNew.1), At,
          queues_enqueue, Function.update_of_ne same]
        exact Iff.rfl

/-- The job that leaves a queue of different jobs is no longer in it. -/
theorem at_dequeue {warehouse : String} {job : QueryJob}
    (distinct : ((system.queues warehouse).map QueryJob.id).Nodup)
    (oldest : (system.queues warehouse).getLast? = some job) :
    (system.dequeue warehouse).At reads place id ↔
      system.At reads place id ∧
        (place = .waiting warehouse → id ≠ job.id) := by
  cases place with
  | held worker =>
      rw [and_iff_left (fun isQueue => nomatch isQueue)]
      exact Iff.rfl
  | waiting other =>
      by_cases same : other = warehouse
      · have split := List.dropLast_append_getLast? job oldest
        rw [same, At, At, queues_dequeue, Function.update_self,
          forall_prop_of_true rfl]
        rw [← split, List.map_append, List.nodup_append] at distinct
        nth_rewrite 2 [← split]
        rw [List.map_append, List.mem_append, List.map_singleton,
          List.mem_singleton]
        constructor
        · intro member
          exact ⟨Or.inl member,
            distinct.2.2 id member job.id (List.mem_singleton.mpr rfl)⟩
        · rintro ⟨member | isOldest, different⟩
          · exact member
          · exact absurd isOldest different
      · have different : ¬ Place.waiting other = .waiting warehouse :=
          fun equal => same (Place.waiting.inj equal)
        rw [and_iff_left (fun isQueue => absurd isQueue different), At,
          queues_dequeue, Function.update_of_ne same]
        exact Iff.rfl

/-- A job that is popped is the oldest of its queue. -/
theorem getLast?_of_nextJob {warehouses : List String} {warehouse : String}
    {job : QueryJob}
    (next : system.nextJob warehouses = some (warehouse, job)) :
    warehouse ∈ warehouses ∧
      (system.queues warehouse).getLast? = some job := by
  induction warehouses with
  | nil => cases next
  | cons first rest ih =>
      rw [nextJob] at next
      cases oldest : (system.queues first).getLast? with
      | some found =>
          rw [oldest] at next
          cases next
          exact ⟨List.mem_cons_self, oldest⟩
      | none =>
          rw [oldest] at next
          exact ⟨List.mem_cons_of_mem _ (ih next).1, (ih next).2⟩

end System

/-! ## Where jobs are -/

/-- Every job that was enqueued waits, is held, or was executed once. -/
structure Placed (system : System) : Prop where
  distinct : ∀ warehouse,
    ((system.queues warehouse).map QueryJob.id).Nodup
  single : ∀ {place other id},
    system.Holds place id → system.Holds other id → place = other
  known : ∀ {place id}, system.Holds place id → id ∈ system.enqueued
  unexecuted : ∀ {place id},
    system.Pending place id → id ∉ system.executedIds
  once : system.executedIds.Nodup
  executedKnown : ∀ id ∈ system.executedIds, id ∈ system.enqueued
  accounted : ∀ id ∈ system.enqueued,
    (∃ place, system.Pending place id) ∨ id ∈ system.executedIds
  finishing : ∀ worker id status,
    system.workers worker = .finishing id status →
      id ∈ system.executedIds ∧ status.isTerminal = true

namespace Placed

variable {system : System}

theorem start : Placed .start where
  distinct _ := List.nodup_nil
  single {place _ _} holds := by cases place <;> cases holds
  known {place _} holds := by cases place <;> cases holds
  unexecuted _ := List.not_mem_nil
  once := List.nodup_nil
  executedKnown _ := nofun
  accounted _ := nofun
  finishing _ _ _ := nofun

section

variable (placed : Placed system)

include placed

/-- Only the queues, the workers and the two logs matter. -/
theorem of_same {other : System} (queues : other.queues = system.queues)
    (workers : other.workers = system.workers)
    (enqueued : other.enqueued = system.enqueued)
    (executed : other.executed = system.executed) : Placed other := by
  have ids : other.executedIds = system.executedIds :=
    congrArg (List.map Prod.fst) executed
  have at_iff := fun {reads place id} =>
    @System.at_of_same system reads place id other queues workers
  exact
    { distinct := queues ▸ placed.distinct
      single := fun first second =>
        placed.single (at_iff.mp first) (at_iff.mp second)
      known := fun holds => enqueued ▸ placed.known (at_iff.mp holds)
      unexecuted := fun pending =>
        ids ▸ placed.unexecuted (at_iff.mp pending)
      once := ids ▸ placed.once
      executedKnown := by
        rw [ids, enqueued]
        exact placed.executedKnown
      accounted := by
        rw [ids, enqueued]
        exact fun id known =>
          (placed.accounted id known).imp_left fun ⟨place, pending⟩ =>
            ⟨place, at_iff.mpr pending⟩
      finishing := by
        rw [ids, workers]
        exact placed.finishing }

theorem enqueue {job : QueryJob}
    (new : job.id ∉ system.enqueued) : Placed (system.enqueue job) where
  distinct warehouse := by
    rw [System.queues_enqueue]
    by_cases same : warehouse = job.warehouse
    · rw [same, Function.update_self, List.map_cons, List.nodup_cons]
      refine ⟨fun waits => new ?_, placed.distinct _⟩
      exact @Placed.known _ placed (.waiting job.warehouse) _ waits
    · rw [Function.update_of_ne same]
      exact placed.distinct warehouse
  single {place other id} first second := by
    rcases System.at_enqueue.mp first with ⟨isQueue, isNew⟩ | before
    · rcases System.at_enqueue.mp second with ⟨isQueue', -⟩ | before
      · rw [isQueue, isQueue']
      · exact absurd (isNew ▸ placed.known before) new
    · rcases System.at_enqueue.mp second with ⟨-, isNew⟩ | before'
      · exact absurd (isNew ▸ placed.known before) new
      · exact placed.single before before'
  known holds := by
    rcases System.at_enqueue.mp holds with ⟨-, isNew⟩ | before
    · exact List.mem_cons.mpr (Or.inl isNew)
    · exact List.mem_cons_of_mem _ (placed.known before)
  unexecuted pending := by
    rcases System.at_enqueue.mp pending with ⟨-, isNew⟩ | before
    · rw [isNew]
      exact fun done => new (placed.executedKnown job.id done)
    · exact placed.unexecuted before
  once := placed.once
  executedKnown id done :=
    List.mem_cons_of_mem _ (placed.executedKnown id done)
  accounted id known := by
    rcases List.mem_cons.mp known with isNew | before
    · exact Or.inl
        ⟨.waiting job.warehouse, System.at_enqueue.mpr (Or.inl ⟨rfl, isNew⟩)⟩
    · rcases placed.accounted id before with ⟨place, pending⟩ | done
      · exact Or.inl ⟨place, System.at_enqueue.mpr (Or.inr pending)⟩
      · exact Or.inr done
  finishing := placed.finishing

/-- A worker goes on with what it has, or gives up what it has executed. -/
theorem setPhase {worker : Nat} {phase : WorkerPhase}
    (has : ∀ id, phase.jobId = some id →
      (system.workers worker).jobId = some id)
    (same : phase.unexecuted = (system.workers worker).unexecuted)
    (ended : ∀ id status, phase = .finishing id status →
      id ∈ system.executedIds ∧ status.isTerminal = true) :
    Placed (system.setPhase worker phase) := by
  have holds_of : ∀ {place id},
      (system.setPhase worker phase).Holds place id →
        system.Holds place id := by
    intro place id holds
    have read := System.at_setPhase.mp holds
    split_ifs at read with own
    · rw [own]
      exact has id read
    · exact read
  have pending_iff : ∀ {place id},
      (system.setPhase worker phase).Pending place id ↔
        system.Pending place id := by
    intro place id
    refine System.at_setPhase.trans ?_
    split_ifs with own
    · rw [own, same]
      exact Iff.rfl
    · exact Iff.rfl
  exact
    { distinct := placed.distinct
      single := fun first second =>
        placed.single (holds_of first) (holds_of second)
      known := fun holds => placed.known (holds_of holds)
      unexecuted := fun pending => placed.unexecuted (pending_iff.mp pending)
      once := placed.once
      executedKnown := placed.executedKnown
      accounted := fun id known =>
        (placed.accounted id known).imp_left fun ⟨place, pending⟩ =>
          ⟨place, pending_iff.mpr pending⟩
      finishing := by
        intro other id status isPhase
        rw [System.workers_setPhase] at isPhase
        by_cases own : other = worker
        · rw [own, Function.update_self] at isPhase
          exact ended id status isPhase
        · rw [Function.update_of_ne own] at isPhase
          exact placed.finishing other id status isPhase }

/-- A popped job goes from its queue into the hands of the worker. -/
theorem pop {worker : Nat} {warehouse : String}
    {job : QueryJob} (polls : system.workers worker = .polling)
    (oldest : (system.queues warehouse).getLast? = some job) :
    Placed ((system.dequeue warehouse).setPhase worker (.popped job)) := by
  have waits : system.Pending (.waiting warehouse) job.id :=
    List.mem_map_of_mem (List.mem_of_getLast? oldest)
  have at_iff : ∀ {reads : WorkerPhase → Option JobId} {place id},
      reads .polling = none → reads (.popped job) = some job.id →
      (∀ phase id, reads phase = some id → phase.jobId = some id) →
        (((system.dequeue warehouse).setPhase worker (.popped job)).At reads
            place id ↔
          (place = .held worker ∧ id = job.id) ∨
            (system.At reads place id ∧ id ≠ job.id)) := by
    intro reads place id idle isPopped sound
    have elsewhere : system.At reads place id → id = job.id →
        place = .waiting warehouse := by
      intro here isJob
      cases place with
      | waiting other => exact placed.single (isJob ▸ here) waits.holds
      | held other =>
          exact placed.single (isJob ▸ sound _ _ here) waits.holds
    rw [System.at_setPhase,
      System.at_dequeue (placed.distinct warehouse) oldest]
    split_ifs with own
    · rw [isPopped, own, and_iff_right rfl, Option.some.injEq, eq_comm]
      refine (or_iff_left ?_).symm
      rintro ⟨here, -⟩
      rw [System.At, polls, idle] at here
      cases here
    · rw [or_iff_right fun isOwn => own isOwn.1]
      refine and_congr_right fun here => ⟨fun different isJob => ?_, fun
        different _ => different⟩
      exact different (elsewhere here isJob) isJob
  have holds_iff := fun {place id} =>
    @at_iff WorkerPhase.jobId place id rfl rfl fun _ _ has => has
  have pending_iff := fun {place id} =>
    @at_iff WorkerPhase.unexecuted place id rfl rfl
      fun _ _ => WorkerPhase.jobId_of_unexecuted
  exact
    { distinct := by
        intro other
        change ((Function.update system.queues warehouse
          (system.queues warehouse).dropLast other).map QueryJob.id).Nodup
        by_cases same : other = warehouse
        · rw [same, Function.update_self]
          exact ((List.dropLast_sublist _).map _).nodup
            (placed.distinct warehouse)
        · rw [Function.update_of_ne same]
          exact placed.distinct other
      single := by
        intro place other id first second
        rcases holds_iff.mp first with ⟨own, isJob⟩ | ⟨here, different⟩
        · rcases holds_iff.mp second with ⟨own', -⟩ | ⟨-, different⟩
          · rw [own, own']
          · exact absurd isJob different
        · rcases holds_iff.mp second with ⟨-, isJob⟩ | ⟨there, -⟩
          · exact absurd isJob different
          · exact placed.single here there
      known := by
        intro place id holds
        rcases holds_iff.mp holds with ⟨-, isJob⟩ | ⟨here, -⟩
        · exact isJob ▸ placed.known waits.holds
        · exact placed.known here
      unexecuted := by
        intro place id pending
        rcases pending_iff.mp pending with ⟨-, isJob⟩ | ⟨here, -⟩
        · exact isJob ▸ placed.unexecuted waits
        · exact placed.unexecuted here
      once := placed.once
      executedKnown := placed.executedKnown
      accounted := by
        intro id known
        refine (placed.accounted id known).imp_left ?_
        rintro ⟨place, pending⟩
        by_cases isJob : id = job.id
        · exact ⟨.held worker, pending_iff.mpr (Or.inl ⟨rfl, isJob⟩)⟩
        · exact ⟨place, pending_iff.mpr (Or.inr ⟨pending, isJob⟩)⟩
      finishing := by
        intro other id status isPhase
        rw [System.workers_setPhase] at isPhase
        by_cases own : other = worker
        · rw [own, Function.update_self] at isPhase
          cases isPhase
        · rw [Function.update_of_ne own] at isPhase
          exact placed.finishing other id status isPhase }

/-- A job that is executed is no longer pending. -/
theorem execute {worker : Nat} {job : QueryJob}
    (executes : system.workers worker = .executing job)
    (result : Except String Int) (durationMs : Int) :
    Placed
      { system.setPhase worker
          (.finishing job.id (finalStatus result durationMs)) with
        executed := (job.id, worker) :: system.executed } := by
  have here : system.Pending (.held worker) job.id := by
    change (system.workers worker).unexecuted = some job.id
    rw [executes]
    rfl
  let next := system.setPhase worker
    (.finishing job.id (finalStatus result durationMs))
  have at_next : ∀ reads place id,
      System.At reads
          { next with executed := (job.id, worker) :: system.executed } place
          id ↔
        next.At reads place id := by
    intro reads place id
    cases place <;> exact Iff.rfl
  have holds_iff : ∀ {place id}, next.Holds place id ↔
      system.Holds place id := by
    intro place id
    refine System.at_setPhase.trans ?_
    split_ifs with own
    · rw [own]
      change _ ↔ (system.workers worker).jobId = some id
      rw [executes]
      exact Iff.rfl
    · exact Iff.rfl
  have pending_iff : ∀ {place id}, next.Pending place id ↔
      place ≠ .held worker ∧ system.Pending place id := by
    intro place id
    refine System.at_setPhase.trans ?_
    split_ifs with own
    · exact ⟨nofun, fun pending => absurd own pending.1⟩
    · exact (and_iff_right own).symm
  exact
    { distinct := placed.distinct
      single := fun first second =>
        placed.single (holds_iff.mp ((at_next _ _ _).mp first))
          (holds_iff.mp ((at_next _ _ _).mp second))
      known := fun holds =>
        placed.known (holds_iff.mp ((at_next _ _ _).mp holds))
      unexecuted := by
        intro place id pending done
        obtain ⟨elsewhere, before⟩ :=
          pending_iff.mp ((at_next _ _ _).mp pending)
        rcases List.mem_cons.mp done with isJob | earlier
        · have isJob : id = job.id := isJob
          apply elsewhere
          exact placed.single (isJob ▸ before.holds) here.holds
        · exact placed.unexecuted before earlier
      once := List.nodup_cons.mpr ⟨placed.unexecuted here, placed.once⟩
      executedKnown := by
        intro id done
        rcases List.mem_cons.mp done with isJob | earlier
        · exact isJob ▸ placed.known here.holds
        · exact placed.executedKnown id earlier
      accounted := by
        intro id known
        by_cases isJob : id = job.id
        · exact Or.inr (List.mem_cons.mpr (Or.inl isJob))
        · rcases placed.accounted id known with ⟨place, pending⟩ | done
          · refine Or.inl ⟨place, (at_next _ _ _).mpr
              (pending_iff.mpr ⟨fun own => isJob ?_, pending⟩)⟩
            rw [own] at pending
            change (system.workers worker).unexecuted = some id at pending
            rw [executes] at pending
            exact (Option.some.inj pending).symm
          · exact Or.inr (List.mem_cons_of_mem _ done)
      finishing := by
        intro other id status isPhase
        change Function.update system.workers worker _ other = _ at isPhase
        by_cases own : other = worker
        · rw [own, Function.update_self] at isPhase
          cases isPhase
          refine ⟨List.mem_cons_self, ?_⟩
          cases result <;> rfl
        · rw [Function.update_of_ne own] at isPhase
          obtain ⟨done, terminal⟩ :=
            placed.finishing other id status isPhase
          exact ⟨List.mem_cons_of_mem _ done, terminal⟩ }

end

end Placed

/-! ## How jobs ended -/

/-- A job that has ended is nowhere, and its status says how it ended. -/
structure Settled (system : System) : Prop where
  executed : ∀ id ∈ system.settled, id ∈ system.executedIds
  nowhere : ∀ {place id}, system.Holds place id → id ∉ system.settled
  terminal : ∀ id ∈ system.settled, ∀ status,
    system.statuses id = some status → status.isTerminal = true
  recorded : ∀ id status, system.statuses id = some status →
    status.isTerminal = true → id ∈ system.settled

namespace Settled

variable {system other : System}

theorem start : Settled .start where
  executed _ := nofun
  nowhere _ := List.not_mem_nil
  terminal _ := nofun
  recorded _ _ := nofun

/-- Jobs move, and no status is written. -/
theorem of_moved (settled : Settled system)
    (statuses : other.statuses = system.statuses)
    (same : other.settled = system.settled)
    (executed : ∀ id ∈ system.executedIds, id ∈ other.executedIds)
    (moved : ∀ {place id}, other.Holds place id →
      (∃ before, system.Holds before id) ∨ id ∉ system.executedIds) :
    Settled other where
  executed id member := executed id (settled.executed id (same ▸ member))
  nowhere holds := by
    rw [same]
    rcases moved holds with ⟨before, held⟩ | new
    · exact settled.nowhere held
    · exact fun member => new (settled.executed _ member)
  terminal id member status isStatus :=
    settled.terminal id (same ▸ member) status (statuses ▸ isStatus)
  recorded id status isStatus ended := by
    rw [same]
    exact settled.recorded id status (statuses ▸ isStatus) ended

/-- A status that says nothing final, of a job that has not ended. -/
theorem setStatus (settled : Settled system) {id : JobId}
    {status : JobStatus} (open_ : status.isTerminal = false)
    (pending : id ∉ system.settled) (answer : Answer) :
    Settled (system.setStatus id status answer) := by
  obtain ⟨queues, workers, -, executed, -⟩ :=
    system.setStatus_eq id status answer
  by_cases refused : answer = .refused
  · rw [System.setStatus, if_pos refused]
    exact settled
  · have same :
        (system.setStatus id status answer).settled = system.settled := by
      rw [System.setStatus, if_neg refused]
      dsimp only
      rw [open_, if_neg Bool.false_ne_true]
    have written :
        (system.setStatus id status answer).statuses =
          Function.update system.statuses id (some status) := by
      rw [System.setStatus, if_neg refused]
    exact
      { executed := by
          rw [same, System.executedIds, executed]
          exact settled.executed
        nowhere := fun holds =>
          same ▸ settled.nowhere ((System.at_of_same queues workers).mp holds)
        terminal := by
          intro done member found isFound
          rw [same] at member
          have different : done ≠ id := fun isId => pending (isId ▸ member)
          rw [written, Function.update_of_ne different] at isFound
          exact settled.terminal done member found isFound
        recorded := by
          intro done found isFound ended
          rw [same]
          rw [written] at isFound
          by_cases own : done = id
          · rw [own, Function.update_self] at isFound
            cases isFound
            rw [open_] at ended
            cases ended
          · rw [Function.update_of_ne own] at isFound
            exact settled.recorded done found isFound ended }

/-- The worker that executed a job writes how it ended. -/
theorem setFinal (settled : Settled system) (placed : Placed system)
    {worker : Nat} {id : JobId} {status : JobStatus}
    (finishes : system.workers worker = .finishing id status)
    (answer : Answer) :
    Settled
      ((system.setStatus id status answer).setPhase worker .polling) := by
  obtain ⟨done, terminal⟩ := placed.finishing worker id status finishes
  obtain ⟨queues, workers, -, executed, -⟩ :=
    system.setStatus_eq id status answer
  have here : system.Holds (.held worker) id := by
    change (system.workers worker).jobId = some id
    rw [finishes]
    rfl
  have moved : ∀ {place found},
      ((system.setStatus id status answer).setPhase worker .polling).Holds
          place found →
        system.Holds place found ∧ found ≠ id := by
    intro place found holds
    have read := System.at_setPhase.mp holds
    split_ifs at read with own
    · cases read
    · have before := (System.at_of_same queues workers).mp read
      exact ⟨before, fun isId =>
        own (placed.single (isId ▸ before) here)⟩
  by_cases refused : answer = .refused
  · have unwritten : system.setStatus id status answer = system :=
      if_pos refused
    rw [unwritten] at moved ⊢
    exact settled.of_moved rfl rfl (fun _ member => member)
      fun holds => Or.inl ⟨_, (moved holds).1⟩
  · have written : (system.setStatus id status answer) =
        { system with
          statuses := Function.update system.statuses id (some status)
          settled := id :: system.settled } := by
      rw [System.setStatus, if_neg refused, terminal, if_pos rfl]
    rw [written] at moved ⊢
    exact
      { executed := by
          intro found member
          rcases List.mem_cons.mp member with rfl | before
          · exact done
          · exact settled.executed found before
        nowhere := by
          intro place found holds member
          obtain ⟨before, different⟩ := moved holds
          rcases List.mem_cons.mp member with isId | earlier
          · exact different isId
          · exact settled.nowhere before earlier
        terminal := by
          intro found member read isRead
          change Function.update system.statuses id (some status) found = _
            at isRead
          by_cases own : found = id
          · rw [own, Function.update_self] at isRead
            cases isRead
            exact terminal
          · rw [Function.update_of_ne own] at isRead
            exact settled.terminal found
              ((List.mem_cons.mp member).resolve_left own) read isRead
        recorded := by
          intro found read isRead ended
          change Function.update system.statuses id (some status) found = _
            at isRead
          by_cases own : found = id
          · exact List.mem_cons.mpr (Or.inl own)
          · rw [Function.update_of_ne own] at isRead
            exact List.mem_cons_of_mem _
              (settled.recorded found read isRead ended) }

end Settled

/-! ## Runs -/

/-- What every orderly step keeps. -/
structure Kept (system : System) : Prop where
  placed : Placed system
  settled : Settled system
  refused : ∀ push ∈ system.pushes,
    (∃ error, push.result = .error error) → push.enqueued = false

theorem Kept.start : Kept .start where
  placed := .start
  settled := .start
  refused _ := nofun

section

variable {config : Nat → WarmPoolConfig} {system : System}

variable {worker : Nat}

section

variable (kept : Kept system)

include kept

/-- A worker changes its phase and nothing else. -/
theorem Kept.setPhase {phase : WorkerPhase}
    (has : ∀ id, phase.jobId = some id →
      (system.workers worker).jobId = some id)
    (same : phase.unexecuted = (system.workers worker).unexecuted)
    (ended : ∀ id status, phase ≠ .finishing id status) :
    Kept (system.setPhase worker phase) where
  placed := kept.placed.setPhase has same fun id status isPhase =>
    absurd isPhase (ended id status)
  settled := by
    refine kept.settled.of_moved rfl rfl (fun _ member => member) ?_
    intro place id holds
    have read := System.at_setPhase.mp holds
    split_ifs at read with own
    · exact Or.inl ⟨.held worker, has id read⟩
    · exact Or.inl ⟨place, read⟩
  refused := kept.refused

theorem Kept.lpush {job : QueryJob} {answer : Answer}
    (orderly : Orderly system (.lpush job answer)) :
    Kept (system.perform config (.lpush job answer)) := by
  obtain ⟨answered, new⟩ := orderly
  cases answer with
  | lost => exact absurd rfl answered
  | refused =>
      exact
        { placed := kept.placed.of_same rfl rfl rfl rfl
          settled := kept.settled.of_moved rfl rfl (fun _ member => member)
            fun holds => Or.inl ⟨_, (System.at_of_same rfl rfl).mp holds⟩
          refused := by
            intro push member failed
            rcases List.mem_cons.mp member with rfl | before
            · rfl
            · exact kept.refused push before failed }
  | done =>
      exact
        { placed := (kept.placed.enqueue new).of_same rfl rfl rfl rfl
          settled := by
            refine kept.settled.of_moved rfl rfl (fun _ member => member) ?_
            intro place id holds
            have here : (system.enqueue job).Holds place id :=
              (System.at_of_same rfl rfl).mp holds
            rcases System.at_enqueue.mp here with ⟨-, isNew⟩ | before
            · exact Or.inr fun done =>
                new (kept.placed.executedKnown _ (isNew ▸ done))
            · exact Or.inl ⟨place, before⟩
          refused := kept.refused }

theorem Kept.setQueued {push : QueryJob × Nat}
    {answer : Answer} (orderly : Orderly system (.setQueued push answer)) :
    Kept (system.perform config (.setQueued push answer)) := by
  rw [System.perform]
  by_cases publishing : push ∈ system.publishing
  · rw [if_pos publishing]
    obtain ⟨rfl, pending⟩ := orderly publishing
    obtain ⟨queues, workers, enqueued, executed, pushes⟩ :=
      system.setStatus_eq push.1.id .queued .done
    have written :=
      @Settled.setStatus _ kept.settled _ .queued rfl pending .done
    exact
      { placed := kept.placed.of_same queues workers enqueued executed
        settled := written.of_moved rfl rfl (fun _ member => member)
          fun holds => Or.inl ⟨_, (System.at_of_same rfl rfl).mp holds⟩
        refused := by
          intro other member failed
          rcases List.mem_cons.mp member with rfl | before
          · obtain ⟨error, isError⟩ := failed
            cases isError
          · exact kept.refused other (pushes ▸ before) failed }
  · rw [if_neg publishing]
    exact kept

theorem Kept.pop {answer : Answer}
    (orderly : Orderly system (.pop worker answer)) :
    Kept (system.perform config (.pop worker answer)) := by
  rw [System.perform]
  split
  · next warehouse job polls next_ =>
      obtain ⟨-, oldest⟩ := System.getLast?_of_nextJob next_
      cases answer with
      | lost => exact absurd rfl orderly
      | refused => exact kept
      | done =>
          exact
            { placed := kept.placed.pop polls oldest
              settled := by
                refine kept.settled.of_moved rfl rfl
                  (fun _ member => member) ?_
                intro place id holds
                have read := System.at_setPhase.mp holds
                split_ifs at read with own
                · have waits :
                      system.Holds (.waiting warehouse) job.id :=
                    List.mem_map_of_mem (List.mem_of_getLast? oldest)
                  exact Or.inl ⟨_, Option.some.inj read ▸ waits⟩
                · exact Or.inl ⟨place, ((System.at_dequeue
                    (kept.placed.distinct warehouse) oldest).mp read).1⟩
              refused := kept.refused }
  · exact kept

theorem Kept.setRunning (worker : Nat) (answer : Answer) :
    Kept (system.perform config (.setRunning worker answer)) := by
  rw [System.perform]
  split
  · next job has =>
      obtain ⟨queues, workers, enqueued, executed, pushes⟩ :=
        system.setStatus_eq job.id (.running (config worker).workerId) answer
      have here : system.Holds (.held worker) job.id := by
        change (system.workers worker).jobId = some job.id
        rw [has]
        rfl
      have written :
          Kept (system.setStatus job.id
            (.running (config worker).workerId) answer) :=
        { placed := kept.placed.of_same queues workers enqueued executed
          settled := kept.settled.setStatus rfl (kept.settled.nowhere here)
            answer
          refused := pushes ▸ kept.refused }
      apply written.setPhase
      · intro id isJob
        rw [workers, has]
        exact isJob
      · rw [workers, has]
        rfl
      · exact fun id status => nofun
  · exact kept

theorem Kept.execute (worker : Nat)
    (result : Except String Int) (durationMs : Int) :
    Kept (system.perform config (.execute worker result durationMs)) := by
  rw [System.perform]
  split
  · next job executes =>
      exact
        { placed := kept.placed.execute executes result durationMs
          settled := by
            refine kept.settled.of_moved rfl rfl
              (fun _ member => List.mem_cons_of_mem _ member) ?_
            intro place id holds
            have here : (system.setPhase worker
                (.finishing job.id (finalStatus result durationMs))).Holds
                  place id :=
              (System.at_of_same rfl rfl).mp holds
            have read := System.at_setPhase.mp here
            split_ifs at read with own
            · refine Or.inl ⟨.held worker, ?_⟩
              change (system.workers worker).jobId = some id
              rw [executes]
              exact read
            · exact Or.inl ⟨place, read⟩
          refused := kept.refused }
  · exact kept

theorem Kept.setFinal (worker : Nat) (answer : Answer) :
    Kept (system.perform config (.setFinal worker answer)) := by
  rw [System.perform]
  split
  · next id status finishes =>
      obtain ⟨queues, workers, enqueued, executed, pushes⟩ :=
        system.setStatus_eq id status answer
      exact
        { placed := by
            apply (kept.placed.of_same queues workers enqueued
              executed).setPhase
            · exact fun found => nofun
            · rw [workers, finishes]
              rfl
            · exact fun found status => nofun
          settled := kept.settled.setFinal kept.placed finishes answer
          refused := pushes ▸ kept.refused }
  · exact kept

/-- One orderly step. -/
theorem Kept.perform {step : QueueStep}
    (orderly : Orderly system step) : Kept (system.perform config step) := by
  cases step with
  | lpush job answer => exact kept.lpush orderly
  | setQueued push answer => exact kept.setQueued orderly
  | pop worker answer => exact kept.pop orderly
  | setRunning worker answer => exact kept.setRunning worker answer
  | execute worker result durationMs =>
      exact kept.execute worker result durationMs
  | setFinal worker answer => exact kept.setFinal worker answer
  | abandon push =>
      exact
        { placed := kept.placed.of_same rfl rfl rfl rfl
          settled := kept.settled.of_moved rfl rfl (fun _ member => member)
            fun holds => Or.inl ⟨_, (System.at_of_same rfl rfl).mp holds⟩
          refused := kept.refused }
  | warmUp worker =>
      rw [System.perform]
      split
      · next warming =>
          exact kept.setPhase (fun _ => nofun) (by rw [warming]; rfl)
            fun _ _ => nofun
      · exact kept
  | shutdown worker =>
      rw [System.perform]
      split
      · next polls =>
          exact kept.setPhase (fun _ => nofun) (by rw [polls]; rfl)
            fun _ _ => nofun
      · exact kept
  | crash worker =>
      have idle : (system.workers worker).unexecuted = none := orderly
      exact kept.setPhase (fun _ => nofun) (by rw [idle]; rfl)
        fun _ _ => nofun
  | expire id =>
      have unread : ∀ found status,
          Function.update system.statuses id none found = some status →
            system.statuses found = some status := by
        intro found status isRead
        by_cases own : found = id
        · rw [own, Function.update_self] at isRead
          cases isRead
        · rwa [Function.update_of_ne own] at isRead
      exact
        { placed := kept.placed.of_same rfl rfl rfl rfl
          settled :=
            { executed := kept.settled.executed
              nowhere := fun holds =>
                kept.settled.nowhere ((System.at_of_same rfl rfl).mp holds)
              terminal := fun found member status isRead =>
                kept.settled.terminal found member status
                  (unread found status isRead)
              recorded := fun found status isRead =>
                kept.settled.recorded found status
                  (unread found status isRead) }
          refused := kept.refused }

end

theorem Kept.after {steps : List QueueStep}
    (orderly : Along (System.perform config) Orderly .start steps) :
    Kept (System.after config steps) :=
  orderly.invariant (fun _ _ kept meets => kept.perform meets) .start

/-! ## Polling workers -/

variable {warehouse : String}

theorem System.exists_nextJob {warehouses : List String}
    (listed : warehouse ∈ warehouses) (waits : system.queues warehouse ≠ []) :
    ∃ next job, system.nextJob warehouses = some (next, job) := by
  induction warehouses with
  | nil => cases listed
  | cons first rest ih =>
      rw [System.nextJob]
      cases oldest : (system.queues first).getLast? with
      | some job => exact ⟨first, job, rfl⟩
      | none =>
          rcases List.mem_cons.mp listed with rfl | inRest
          · exact absurd (List.getLast?_eq_none_iff.mp oldest) waits
          · exact ih inRest

/-- What a cycle of a polling worker does. -/
theorem System.cycle_eq
    {job : QueryJob} (polls : system.workers worker = .polling)
    (next : system.nextJob (config worker).warehouses = some (warehouse, job))
    (result : Except String Int) (durationMs : Int) :
    let later :=
      (cycle worker result durationMs).foldl (System.perform config) system
    later.workers worker = .polling ∧
      later.queues = (system.dequeue warehouse).queues ∧
        later.executed = (job.id, worker) :: system.executed := by
  have popped : system.perform config (.pop worker .done) =
      (system.dequeue warehouse).setPhase worker (.popped job) := by
    rw [System.perform, polls, next]
  let held := (system.dequeue warehouse).setPhase worker (.popped job)
  obtain ⟨queues, workers, -, executed, -⟩ :=
    held.setStatus_eq job.id (.running (config worker).workerId) .done
  let marked := (held.setStatus job.id (.running (config worker).workerId)
    .done).setPhase worker (.executing job)
  have running : held.perform config (.setRunning worker .done) = marked := by
    have has : held.workers worker = .popped job := Function.update_self ..
    rw [System.perform, has]
  let run := { marked.setPhase worker
      (.finishing job.id (finalStatus result durationMs)) with
    executed := (job.id, worker) :: marked.executed }
  have ran : marked.perform config (.execute worker result durationMs) =
      run := by
    have has : marked.workers worker = .executing job :=
      Function.update_self ..
    rw [System.perform, has]
  obtain ⟨queues', workers', -, executed', -⟩ :=
    run.setStatus_eq job.id (finalStatus result durationMs) .done
  have ended : run.perform config (.setFinal worker .done) =
      (run.setStatus job.id (finalStatus result durationMs)
        .done).setPhase worker .polling := by
    have has :
        run.workers worker =
          .finishing job.id (finalStatus result durationMs) :=
      Function.update_self ..
    rw [System.perform, has]
  intro later
  have later_eq : later =
      (run.setStatus job.id (finalStatus result durationMs)
        .done).setPhase worker .polling := by
    simp only [later, cycle, List.foldl_cons, List.foldl_nil]
    rw [popped, running, ran, ended]
  rw [later_eq]
  refine ⟨Function.update_self .., ?_, ?_⟩
  · exact queues'.trans queues
  · exact executed'.trans (congrArg ((job.id, worker) :: ·) executed)

/-- The jobs that wait where a worker polls. -/
def System.backlog (system : System) (warehouses : List String) : Nat :=
  (warehouses.map fun warehouse => (system.queues warehouse).length).sum

theorem System.backlog_dequeue {warehouses : List String}
    {job : QueryJob} (listed : warehouse ∈ warehouses)
    (oldest : (system.queues warehouse).getLast? = some job) :
    (system.dequeue warehouse).backlog warehouses <
      system.backlog warehouses := by
  have shorter : ∀ other,
      ((system.dequeue warehouse).queues other).length ≤
        (system.queues other).length := by
    intro other
    rw [System.queues_dequeue]
    by_cases same : other = warehouse
    · rw [same, Function.update_self, List.length_dropLast]
      exact Nat.sub_le _ _
    · exact (congrArg List.length (Function.update_of_ne same _ _)).le
  have nonempty : system.queues warehouse ≠ [] := by
    intro empty
    rw [empty] at oldest
    cases oldest
  apply List.sum_lt_sum
  · exact fun other _ => shorter other
  · refine ⟨warehouse, listed, ?_⟩
    have positive := List.length_pos_of_ne_nil nonempty
    rw [System.queues_dequeue, Function.update_self, List.length_dropLast]
    omega

/-- A worker that goes on polling executes what waits for it. -/
theorem System.executes_waiting
    {id : JobId} (listed : warehouse ∈ (config worker).warehouses)
    (result : Except String Int) (durationMs : Int)
    (polls : system.workers worker = .polling)
    (waits : system.Holds (.waiting warehouse) id) :
    ∃ cycles, (id, worker) ∈
      ((List.replicate cycles (cycle worker result durationMs)).flatten.foldl
        (System.perform config) system).executed := by
  induction size : system.backlog (config worker).warehouses using
    Nat.strongRecOn generalizing system with
  | ind size_ ih =>
      subst size
      have nonempty : system.queues warehouse ≠ [] := by
        intro empty
        change id ∈ (system.queues warehouse).map QueryJob.id at waits
        rw [empty] at waits
        cases waits
      obtain ⟨from_, job, next⟩ := System.exists_nextJob listed nonempty
      obtain ⟨polled, oldest⟩ := System.getLast?_of_nextJob next
      obtain ⟨polls', queues, executed⟩ :=
        System.cycle_eq polls next result durationMs
      let later :=
        (cycle worker result durationMs).foldl (System.perform config) system
      have grows : ∀ cycles,
          (List.replicate (cycles + 1)
              (cycle worker result durationMs)).flatten.foldl
              (System.perform config) system =
            (List.replicate cycles
              (cycle worker result durationMs)).flatten.foldl
              (System.perform config) later := by
        intro cycles
        rw [List.replicate_succ, List.flatten_cons, List.foldl_append]
      by_cases own : id = job.id
      · refine ⟨1, ?_⟩
        rw [grows 0]
        change (id, worker) ∈ later.executed
        rw [executed, own]
        exact List.mem_cons_self
      · have remains : later.Holds (.waiting warehouse) id := by
          change id ∈ (later.queues warehouse).map QueryJob.id
          rw [queues, System.queues_dequeue]
          by_cases same : warehouse = from_
          · rw [same, Function.update_self]
            have split := List.dropLast_append_getLast? job oldest
            change id ∈ (system.queues warehouse).map QueryJob.id at waits
            rw [same, ← split, List.map_append, List.mem_append] at waits
            refine waits.resolve_right fun isLast => own ?_
            exact List.mem_singleton.mp isLast
          · rw [Function.update_of_ne same]
            exact waits
        have fewer :
            later.backlog (config worker).warehouses <
              system.backlog (config worker).warehouses := by
          rw [System.backlog, queues]
          exact System.backlog_dequeue polled oldest
        obtain ⟨cycles, done⟩ := ih _ fewer polls' remains rfl
        exact ⟨cycles + 1, (grows cycles).symm ▸ done⟩

/-! ## The claim -/

theorem mem_settled_perform {id : JobId} (step : QueueStep)
    (settled : id ∈ system.settled) :
    id ∈ (system.perform config step).settled := by
  have written : ∀ (system : System) other status answer,
      id ∈ system.settled →
        id ∈ (system.setStatus other status answer).settled := by
    intro system other status answer member
    unfold System.setStatus
    split_ifs
    · exact member
    · exact List.mem_cons_of_mem _ member
    · exact member
  cases step with
  | lpush job answer => cases answer <;> exact settled
  | setQueued push answer =>
      rw [System.perform]
      by_cases publishing : push ∈ system.publishing
      · rw [if_pos publishing]
        exact written system _ _ _ settled
      · rw [if_neg publishing]
        exact settled
  | abandon push => exact settled
  | warmUp worker => rw [System.perform]; split <;> exact settled
  | pop worker answer =>
      rw [System.perform]
      split
      · cases answer <;> exact settled
      · exact settled
  | setRunning worker answer =>
      rw [System.perform]
      split
      · exact written system _ _ _ settled
      · exact settled
  | execute worker result durationMs =>
      rw [System.perform]
      split <;> exact settled
  | setFinal worker answer =>
      rw [System.perform]
      split
      · exact written system _ _ _ settled
      · exact settled
  | shutdown worker => rw [System.perform]; split <;> exact settled
  | crash worker => exact settled
  | expire other => exact settled

end

/-- In every orderly run a job is executed once, and its end is final. -/
theorem runsOnce (config : Nat → WarmPoolConfig)
    (before after : List QueueStep)
    (orderly :
      Along (System.perform config) Orderly .start (before ++ after)) :
    RunsOnce config before after where
  final := by
    intro id ended isEnded terminal later isLater
    obtain ⟨first, rest⟩ := along_append.mp orderly
    have kept : Kept (System.after config before) := Kept.after first
    have settled := kept.settled.recorded id ended isEnded terminal
    have both : Kept _ ∧ id ∈ System.settled _ :=
      @Along.invariant _ _ _ _ (fun system => Kept system ∧ id ∈ system.settled)
        (fun _ step holds meets =>
          ⟨holds.1.perform meets, mem_settled_perform step holds.2⟩)
        _ _ rest ⟨kept, settled⟩
    rw [System.after, List.foldl_append] at isLater
    exact both.1.settled.terminal id both.2 later isLater
  once := (Kept.after orderly).placed.once
  executed := by
    intro id known
    refine ((Kept.after orderly).placed.accounted id known).imp_right ?_
    intro done
    obtain ⟨⟨found, worker⟩, member, rfl⟩ := List.mem_map.mp done
    refine ⟨worker, member, ?_⟩
    intro other alsoMember
    exact congrArg Prod.snd
      (List.inj_on_of_nodup_map (Kept.after orderly).placed.once alsoMember
        member rfl)
  executable := by
    intro id warehouse worker waits polls listed result durationMs
    obtain ⟨cycles, done⟩ :=
      System.executes_waiting listed result durationMs polls waits
    refine ⟨cycles, ?_⟩
    rw [System.after, List.foldl_append]
    exact done
  refused := (Kept.after orderly).refused

/-! ## Two runs -/

/-- A job of a warehouse. -/
def sampleJob : QueryJob :=
  ⟨"j1", "SELECT 1", "default", none, "2025-01-01T00:00:00Z", none⟩

/-- A worker of the default warehouse. -/
def sampleConfig : Nat → WarmPoolConfig :=
  fun _ => ⟨["default"], "worker-local"⟩

/-- The producer writes its status while the worker executes the job. -/
theorem orderly_runsOnce :
    RunsOnce sampleConfig
      [.lpush sampleJob .done, .warmUp 0, .pop 0 .done,
        .setRunning 0 .done, .setQueued (sampleJob, 1) .done,
        .execute 0 (.ok 1) 3, .setFinal 0 .done]
      [.expire "j1"] := by
  apply runsOnce
  refine ⟨⟨nofun, List.not_mem_nil⟩, trivial, nofun, trivial,
    fun _ => ⟨rfl, List.not_mem_nil⟩, trivial, trivial, trivial, trivial⟩

/--
The producer writes its status after the worker wrote the last one; and a
`push` whose second command fails has enqueued its job.
-/
theorem queued_after_done :
    ¬ RunsOnce sampleConfig
        [.lpush sampleJob .done, .warmUp 0, .pop 0 .done,
          .setRunning 0 .done, .execute 0 (.ok 1) 3, .setFinal 0 .done]
        [.setQueued (sampleJob, 1) .done] ∧
      ¬ RunsOnce sampleConfig
        [.lpush sampleJob .done, .setQueued (sampleJob, 1) .refused] [] := by
  constructor
  · intro runs
    have ended := runs.final "j1" (.done 1 3) (by decide) rfl .queued
      (by decide)
    cases ended
  · intro runs
    have unqueued := runs.refused
      ⟨sampleJob, true, .error .setStatus⟩ (by decide) ⟨.setStatus, rfl⟩
    cases unqueued

end OpenSnow.Queue
