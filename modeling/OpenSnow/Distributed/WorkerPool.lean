import OpenSnow.Distributed.Scheduler
import OpenSnow.Foundation.Runs

/-!
# Live workers in the pool

The pool over any sequence of registrations, heartbeats, health checks and
deregistrations.  Beside the scheduler the state holds what was delivered of
every worker: whether it is registered, and its newest heartbeat.  A worker
stays available as long as its heartbeats find it in the pool and come in
order; a worker that was pruned does not come back, because only a
registration adds to the pool.
-/

namespace OpenSnow.Distributed

open Foundation
open Rust

/-! ## What the operations do to the entries -/

/-- Workers are listed under their own ids, and all of them are active. -/
structure Scheduler.WellFormed (scheduler : Scheduler) : Prop where
  distinct : (scheduler.workers.map Prod.fst).Nodup
  ownId : ∀ entry ∈ scheduler.workers,
    entry.2.registration.workerId = entry.1
  active : ∀ entry ∈ scheduler.workers, entry.2.status = .active
  fits : ∀ entry ∈ scheduler.workers,
    Integer.FitsI64 entry.2.lastHeartbeat

namespace Scheduler

variable {scheduler : Scheduler}

theorem wellFormed_new : Scheduler.new.WellFormed where
  distinct := List.nodup_nil
  ownId := fun _ => nofun
  active := fun _ => nofun
  fits := fun _ => nofun

variable {entry : String × WorkerInfo}

theorem mem_registerWorker (formed : scheduler.WellFormed)
    {registration : WorkerRegistration} {now : ClockReading} :
    entry ∈ (scheduler.registerWorker registration now).workers ↔
      entry =
          (registration.workerId,
            ⟨registration, now.seconds, 0, .active⟩) ∨
        entry ∈ scheduler.workers ∧ entry.1 ≠ registration.workerId :=
  Keyed.mem_putRow formed.distinct

theorem WellFormed.registerWorker (formed : scheduler.WellFormed)
    (registration : WorkerRegistration) (now : ClockReading) :
    (scheduler.registerWorker registration now).WellFormed where
  distinct := Keyed.putRow_distinct formed.distinct
  ownId entry member := by
    rcases (mem_registerWorker formed).mp member with rfl | ⟨member, -⟩
    · rfl
    · exact formed.ownId entry member
  active entry member := by
    rcases (mem_registerWorker formed).mp member with rfl | ⟨member, -⟩
    · rfl
    · exact formed.active entry member
  fits entry member := by
    rcases (mem_registerWorker formed).mp member with rfl | ⟨member, -⟩
    · exact now.fits
    · exact formed.fits entry member

theorem mem_heartbeat {beat : Heartbeat}
    (member : entry ∈ (scheduler.heartbeat beat).workers) :
    ∃ old, (entry.1, old) ∈ scheduler.workers ∧
      entry.2.registration = old.registration ∧
      entry.2.status = old.status ∧
      entry.2.lastHeartbeat =
        if entry.1 = beat.workerId then beat.timestamp
        else old.lastHeartbeat := by
  obtain ⟨⟨id, old⟩, held, rfl⟩ := List.mem_map.mp member
  dsimp only
  split_ifs with addressed
  · exact ⟨old, held, rfl, rfl, rfl⟩
  · exact ⟨old, held, rfl, rfl, rfl⟩

/-- A worker that is in the pool takes a heartbeat. -/
theorem exists_mem_heartbeat {beat : Heartbeat} {id : String}
    {old : WorkerInfo} (held : (id, old) ∈ scheduler.workers) :
    ∃ info, (id, info) ∈ (scheduler.heartbeat beat).workers ∧
      info.lastHeartbeat =
        if id = beat.workerId then beat.timestamp
        else old.lastHeartbeat := by
  by_cases same : id = beat.workerId
  · rw [if_pos same]
    exact ⟨_, List.mem_map.mpr ⟨(id, old), held, if_pos same⟩, rfl⟩
  · rw [if_neg same]
    exact ⟨old, List.mem_map.mpr ⟨(id, old), held, if_neg same⟩, rfl⟩

theorem WellFormed.heartbeat (formed : scheduler.WellFormed)
    (beat : Heartbeat) : (scheduler.heartbeat beat).WellFormed where
  distinct := by
    have names :
        (scheduler.heartbeat beat).workers.map Prod.fst =
          scheduler.workers.map Prod.fst := by
      rw [Scheduler.heartbeat, List.map_map]
      apply List.map_congr_left
      rintro ⟨id, worker⟩ -
      dsimp only [Function.comp_apply]
      split_ifs <;> rfl
    rw [names]
    exact formed.distinct
  ownId entry member := by
    obtain ⟨old, held, registration, -⟩ := mem_heartbeat member
    rw [registration]
    exact formed.ownId _ held
  active entry member := by
    obtain ⟨old, held, -, status, -⟩ := mem_heartbeat member
    rw [status]
    exact formed.active _ held
  fits entry member := by
    obtain ⟨old, held, -, -, last⟩ := mem_heartbeat member
    rw [last]
    split_ifs
    · exact beat.fits
    · exact formed.fits _ held

theorem mem_deregisterWorker {workerId : String} :
    entry ∈ (scheduler.deregisterWorker workerId).workers ↔
      entry ∈ scheduler.workers ∧ entry.1 ≠ workerId := by
  rw [deregisterWorker, List.mem_filter, decide_eq_true_iff]

section

variable (formed : scheduler.WellFormed)

include formed

theorem WellFormed.of_sublist {rest : Scheduler}
    (sublist : rest.workers.Sublist scheduler.workers) :
    rest.WellFormed where
  distinct := (sublist.map Prod.fst).nodup formed.distinct
  ownId entry member := formed.ownId entry (sublist.subset member)
  active entry member := formed.active entry (sublist.subset member)
  fits entry member := formed.fits entry (sublist.subset member)

/-- A health check keeps the workers that were heard of in time. -/
theorem workers_checkHealth (now : ClockReading) :
    (scheduler.checkHealth now).workers =
      scheduler.workers.filter fun entry =>
        subI64 now.seconds entry.2.lastHeartbeat ≤
          scheduler.heartbeatTimeoutSecs := by
  have kept : ∀ entries : List (String × WorkerInfo),
      (∀ entry ∈ entries, entry.2.status = .active) →
        ((entries.map fun entry =>
            (entry.1, entry.2.checked scheduler.heartbeatTimeoutSecs now)).filter
          fun entry => entry.2.status ≠ .dead) =
          entries.filter fun entry =>
            subI64 now.seconds entry.2.lastHeartbeat ≤
              scheduler.heartbeatTimeoutSecs := by
    intro entries
    induction entries with
    | nil => exact fun _ => rfl
    | cons entry rest ih =>
        intro allActive
        obtain ⟨id, worker⟩ := entry
        rw [List.forall_mem_cons] at allActive
        obtain ⟨isActive, restActive⟩ := allActive
        dsimp only at isActive
        rw [List.map_cons, List.filter_cons, List.filter_cons, ih restActive]
        by_cases late :
            subI64 now.seconds worker.lastHeartbeat >
              scheduler.heartbeatTimeoutSecs
        · simp [WorkerInfo.checked, isActive, late]
        · simp [WorkerInfo.checked, isActive, late, not_lt.mp late]
  exact kept scheduler.workers formed.active

theorem WellFormed.checkHealth
    (now : ClockReading) : (scheduler.checkHealth now).WellFormed := by
  apply formed.of_sublist
  rw [workers_checkHealth formed]
  exact List.filter_sublist

end

end Scheduler

/-! ## Runs -/

/-- What reaches the coordinator. -/
inductive PoolEvent where
  | register (registration : WorkerRegistration) (now : ClockReading)
  | heartbeat (beat : Heartbeat)
  | checkHealth (now : ClockReading)
  | deregister (workerId : String)

/-- What was delivered of a worker that is registered. -/
structure Delivered where
  /-- The newest timestamp of its heartbeats. -/
  newest : Option Int
deriving DecidableEq, Repr

/-- One more heartbeat was delivered. -/
def Delivered.beat (delivered : Delivered) (timestamp : Int) : Delivered where
  newest :=
    match delivered.newest with
    | some newest => some (max newest timestamp)
    | none => some timestamp

/-- The scheduler, and what was delivered to it. -/
structure Pool where
  scheduler : Scheduler
  /-- The last reading of the coordinator's clock. -/
  clock : Nat
  /-- The workers that are registered and were not deregistered since. -/
  live : String → Option Delivered

def Pool.start : Pool where
  scheduler := .new
  clock := 0
  live := fun _ => none

def Pool.perform (pool : Pool) : PoolEvent → Pool
  | .register registration now =>
      { scheduler := pool.scheduler.registerWorker registration now
        clock := now.seconds
        live :=
          Function.update pool.live registration.workerId
            (some ((pool.live registration.workerId).getD ⟨none⟩)) }
  | .heartbeat beat =>
      { pool with
        scheduler := pool.scheduler.heartbeat beat
        live :=
          Function.update pool.live beat.workerId
            ((pool.live beat.workerId).map fun delivered =>
              delivered.beat beat.timestamp) }
  | .checkHealth now =>
      { pool with
        scheduler := pool.scheduler.checkHealth now
        clock := now.seconds }
  | .deregister workerId =>
      { pool with
        scheduler := pool.scheduler.deregisterWorker workerId
        live := Function.update pool.live workerId none }

theorem Pool.wellFormed_perform {pool : Pool} (event : PoolEvent)
    (formed : pool.scheduler.WellFormed) :
    (pool.perform event).scheduler.WellFormed := by
  cases event with
  | register registration now => exact formed.registerWorker registration now
  | heartbeat beat => exact formed.heartbeat beat
  | checkHealth now => exact formed.checkHealth now
  | deregister workerId => exact formed.of_sublist List.filter_sublist

theorem Pool.wellFormed_run (events : List PoolEvent) :
    (events.foldl Pool.perform .start).scheduler.WellFormed := by
  refine List.foldlRecOn
    (motive := fun pool : Pool => pool.scheduler.WellFormed)
    events _ Scheduler.wellFormed_new ?_
  exact fun _ formed event _ => Pool.wellFormed_perform event formed

/-! ## Selection -/

/-- The pool with its workers in another order of the hash map. -/
def Scheduler.listed (scheduler : Scheduler)
    (order : List (String × WorkerInfo)) : Scheduler :=
  { scheduler with workers := order }

/--
As many workers as there are and are asked for, all different, and the least
loaded ones.
-/
structure SelectsLeastLoaded (scheduler : Scheduler) (count : Nat)
    (now : Int) : Prop where
  length :
    (scheduler.selectWorkers count now).length =
      min count (scheduler.getAvailableWorkers now).length
  distinct :
    ((scheduler.selectWorkers count now).map
      fun worker => worker.registration.workerId).Nodup
  available : ∀ worker ∈ scheduler.selectWorkers count now,
    worker ∈ scheduler.getAvailableWorkers now
  leastLoaded : ∀ inside ∈ scheduler.selectWorkers count now,
    ∀ outside ∈ scheduler.getAvailableWorkers now,
      outside ∉ scheduler.selectWorkers count now →
        inside.activeTasks ≤ outside.activeTasks

namespace Scheduler

variable {scheduler : Scheduler} {now : Int}

theorem selectWorkers_eq (count : Nat) :
    scheduler.selectWorkers count now =
      (scheduler.getAvailableWorkers now).take count := by
  rw [selectWorkers]
  split_ifs with empty
  · rw [List.isEmpty_iff.mp empty, List.take_nil]
  · rfl

theorem mem_getAvailableWorkers {worker : WorkerInfo} :
    worker ∈ scheduler.getAvailableWorkers now ↔
      worker ∈ scheduler.workers.map Prod.snd ∧ worker.status = .active ∧
        subI64 now worker.lastHeartbeat < scheduler.heartbeatTimeoutSecs := by
  rw [getAvailableWorkers, List.mem_insertionSort, List.mem_filter,
    decide_eq_true_iff]

/-- The available workers are sorted by their load. -/
theorem pairwise_getAvailableWorkers :
    (scheduler.getAvailableWorkers now).Pairwise fun left right =>
      left.activeTasks ≤ right.activeTasks := by
  have total : Std.Total fun left right : WorkerInfo =>
      left.activeTasks ≤ right.activeTasks :=
    ⟨fun left right => Nat.le_total left.activeTasks right.activeTasks⟩
  have trans : IsTrans WorkerInfo fun left right =>
      left.activeTasks ≤ right.activeTasks :=
    ⟨fun _ _ _ first second => Nat.le_trans first second⟩
  exact List.pairwise_insertionSort _ _

section

variable (formed : scheduler.WellFormed)

include formed

theorem WellFormed.availableIds_nodup :
    ((scheduler.getAvailableWorkers now).map
      fun worker => worker.registration.workerId).Nodup := by
  have ids :
      (scheduler.workers.map Prod.snd).map
          (fun worker => worker.registration.workerId) =
        scheduler.workers.map Prod.fst := by
    rw [List.map_map]
    exact List.map_congr_left formed.ownId
  have all :
      ((scheduler.workers.map Prod.snd).map
        fun worker => worker.registration.workerId).Nodup := by
    rw [ids]
    exact formed.distinct
  have active := ((List.filter_sublist (p := fun worker : WorkerInfo =>
    worker.status = .active ∧
      subI64 now worker.lastHeartbeat < scheduler.heartbeatTimeoutSecs)).map
        fun worker => worker.registration.workerId).nodup all
  exact ((List.perm_insertionSort _ _).map _).nodup_iff.mpr active

theorem WellFormed.selectsLeastLoaded
    (count : Nat) : SelectsLeastLoaded scheduler count now where
  length := by rw [selectWorkers_eq, List.length_take]
  distinct := by
    rw [selectWorkers_eq]
    exact ((List.take_sublist _ _).map _).nodup formed.availableIds_nodup
  available worker member := by
    rw [selectWorkers_eq] at member
    exact List.mem_of_mem_take member
  leastLoaded inside selected outside held others := by
    rw [selectWorkers_eq] at selected others
    have sorted := @pairwise_getAvailableWorkers scheduler now
    rw [← List.take_append_drop count (scheduler.getAvailableWorkers now)]
      at sorted held
    have dropped : outside ∈
        (scheduler.getAvailableWorkers now).drop count :=
      (List.mem_append.mp held).resolve_left others
    exact (List.pairwise_append.mp sorted).2.2 inside selected outside dropped

/-- The order of the hash map does not matter to well-formedness. -/
theorem WellFormed.listed
    {order : List (String × WorkerInfo)} (same : order.Perm scheduler.workers) :
    (scheduler.listed order).WellFormed where
  distinct := (same.map Prod.fst).nodup_iff.mpr formed.distinct
  ownId entry member := formed.ownId entry (same.mem_iff.mp member)
  active entry member := formed.active entry (same.mem_iff.mp member)
  fits entry member := formed.fits entry (same.mem_iff.mp member)

end

end Scheduler

/-! ## Availability -/

/-- The pool of a worker offers it as long as its newest heartbeat is fresh. -/
def Pool.Schedulable (pool : Pool) (workerId : String) : Prop :=
  ∀ delivered, pool.live workerId = some delivered →
    ∀ newest, delivered.newest = some newest →
      ∀ order, order.Perm pool.scheduler.workers →
        ∀ now : ClockReading, pool.clock ≤ now.seconds →
          now.seconds - newest < pool.scheduler.heartbeatTimeoutSecs →
            workerId ∈
              ((pool.scheduler.listed order).getAvailableWorkers
                now.seconds).map fun worker => worker.registration.workerId

/--
The clock of the coordinator does not go back, a heartbeat of the live worker
finds it in the pool and is not older than those before it, and the worker is
not registered again before its newest heartbeat.
-/
def Pool.Orderly (workerId : String) (pool : Pool) : PoolEvent → Prop
  | .register registration now =>
      pool.clock ≤ now.seconds ∧
        (registration.workerId = workerId →
          ∀ delivered ∈ pool.live workerId, ∀ newest ∈ delivered.newest,
            newest ≤ now.seconds)
  | .heartbeat beat =>
      beat.workerId = workerId →
        ∀ delivered ∈ pool.live workerId,
          workerId ∈ pool.scheduler.workers.map Prod.fst ∧
            ∀ newest ∈ delivered.newest, newest ≤ beat.timestamp
  | .checkHealth now => pool.clock ≤ now.seconds
  | .deregister _ => True

/--
The worker is in the pool with a contact no older than its newest heartbeat,
or that heartbeat is out of date.
-/
def Pool.Covered (workerId : String) (pool : Pool) : Prop :=
  ∀ delivered, pool.live workerId = some delivered →
    ∀ newest, delivered.newest = some newest →
      (∃ info, (workerId, info) ∈ pool.scheduler.workers ∧
        newest ≤ info.lastHeartbeat) ∨
      newest + pool.scheduler.heartbeatTimeoutSecs < pool.clock

theorem subI64_of_fits {left right : Int}
    (fits : Integer.FitsI64 (left - right)) :
    subI64 left right = left - right := by
  obtain ⟨low, high⟩ := fits
  rw [subI64, Int.bmod_def]
  split_ifs <;> omega

/-- A time that is found to be long ago is. -/
theorem long_ago_of_subI64 {now : ClockReading} {last timeout : Int}
    (fits : Integer.FitsI64 last) (positive : 0 ≤ timeout)
    (late : timeout < subI64 now.seconds last) :
    last + timeout < now.seconds := by
  obtain ⟨low, high⟩ := fits
  obtain ⟨-, nowHigh⟩ := now.fits
  rw [subI64, Int.bmod_def] at late
  split_ifs at late <;> omega

theorem subI64_lt_of_fresh {now : ClockReading} {last newest timeout : Int}
    (fits : Integer.FitsI64 last) (small : timeout < 2 ^ 63)
    (later : newest ≤ last) (fresh : now.seconds - newest < timeout) :
    subI64 now.seconds last < timeout := by
  obtain ⟨low, high⟩ := fits
  obtain ⟨-, nowHigh⟩ := now.fits
  rw [subI64_of_fits]
  · omega
  · constructor <;> omega

section

variable {workerId : String}

theorem Pool.heartbeatTimeoutSecs_perform (pool : Pool) (event : PoolEvent) :
    (pool.perform event).scheduler.heartbeatTimeoutSecs =
      pool.scheduler.heartbeatTimeoutSecs := by
  cases event <;> rfl

theorem Pool.heartbeatTimeoutSecs_run (events : List PoolEvent) :
    (events.foldl Pool.perform .start).scheduler.heartbeatTimeoutSecs =
      30 := by
  refine List.foldlRecOn
    (motive := fun pool : Pool => pool.scheduler.heartbeatTimeoutSecs = 30)
    events _ rfl ?_
  exact fun pool timeout event _ =>
    (pool.heartbeatTimeoutSecs_perform event).trans timeout

/-- An event of another worker leaves the last contact, or a later one. -/
theorem Pool.Covered.others {pool next : Pool}
    (covered : pool.Covered workerId)
    (live : next.live workerId = pool.live workerId)
    (timeout : next.scheduler.heartbeatTimeoutSecs =
      pool.scheduler.heartbeatTimeoutSecs)
    (forward : pool.clock ≤ next.clock)
    (kept : ∀ info, (workerId, info) ∈ pool.scheduler.workers →
      ∃ after, (workerId, after) ∈ next.scheduler.workers ∧
        info.lastHeartbeat ≤ after.lastHeartbeat) :
    next.Covered workerId := by
  intro delivered isLive newest isNewest
  rw [live] at isLive
  rcases covered delivered isLive newest isNewest with
    ⟨info, held, later⟩ | past
  · obtain ⟨after, stillHeld, notBefore⟩ := kept info held
    exact Or.inl ⟨after, stillHeld, later.trans notBefore⟩
  · rw [timeout]
    refine Or.inr (past.trans_le ?_)
    exact_mod_cast forward

variable {pool : Pool}

theorem Pool.Covered.register
    {registration : WorkerRegistration} {now : ClockReading}
    (formed : pool.scheduler.WellFormed) (covered : pool.Covered workerId)
    (orderly : pool.Orderly workerId (.register registration now)) :
    (pool.perform (.register registration now)).Covered workerId := by
  obtain ⟨forward, notBefore⟩ := orderly
  by_cases same : registration.workerId = workerId
  · -- the registration itself is the last contact
    intro delivered live newest isNewest
    refine Or.inl ⟨⟨registration, now.seconds, 0, .active⟩,
      (Scheduler.mem_registerWorker formed).mpr (Or.inl ?_), ?_⟩
    · rw [same]
    change Function.update pool.live registration.workerId _ workerId =
      some delivered at live
    rw [same, Function.update_self, Option.some.injEq] at live
    cases before : pool.live workerId with
    | none =>
        rw [before] at live
        cases live
        cases isNewest
    | some earlier =>
        rw [before, Option.getD_some] at live
        exact notBefore same delivered (live ▸ before) newest isNewest
  · exact covered.others (Function.update_of_ne (Ne.symm same) _ _) rfl forward
      fun info held =>
        ⟨info, (Scheduler.mem_registerWorker formed).mpr
          (Or.inr ⟨held, Ne.symm same⟩), le_rfl⟩

theorem Pool.Covered.heartbeat {beat : Heartbeat}
    (covered : pool.Covered workerId)
    (orderly : pool.Orderly workerId (.heartbeat beat)) :
    (pool.perform (.heartbeat beat)).Covered workerId := by
  by_cases same : beat.workerId = workerId
  · intro delivered live newest isNewest
    change Function.update pool.live beat.workerId _ workerId =
      some delivered at live
    rw [same, Function.update_self] at live
    obtain ⟨earlier, before, rfl⟩ := Option.map_eq_some_iff.mp live
    obtain ⟨inPool, notBefore⟩ := orderly same earlier before
    obtain ⟨⟨id, old⟩, held, rfl⟩ := List.mem_map.mp inPool
    obtain ⟨info, member, last⟩ :=
      @Scheduler.exists_mem_heartbeat _ beat _ _ held
    refine Or.inl ⟨info, member, ?_⟩
    rw [last, if_pos same.symm]
    unfold Delivered.beat at isNewest
    cases known : earlier.newest with
    | none =>
        rw [known] at isNewest
        exact (Option.some.inj isNewest).ge
    | some newer =>
        rw [known] at isNewest
        rw [← Option.some.inj isNewest]
        exact max_le (notBefore newer known) le_rfl
  · refine covered.others (Function.update_of_ne (Ne.symm same) _ _) rfl le_rfl
      fun info held => ?_
    obtain ⟨after, member, last⟩ :=
      @Scheduler.exists_mem_heartbeat _ beat _ _ held
    rw [if_neg (Ne.symm same)] at last
    exact ⟨after, member, last.ge⟩

theorem Pool.Covered.checkHealth {now : ClockReading}
    (formed : pool.scheduler.WellFormed)
    (positive : 0 ≤ pool.scheduler.heartbeatTimeoutSecs)
    (covered : pool.Covered workerId)
    (orderly : pool.Orderly workerId (.checkHealth now)) :
    (pool.perform (.checkHealth now)).Covered workerId := by
  intro delivered live newest isNewest
  have forward : (pool.clock : Int) ≤ now.seconds := by
    exact_mod_cast orderly
  rcases covered delivered live newest isNewest with
    ⟨info, held, later⟩ | past
  · by_cases late :
      pool.scheduler.heartbeatTimeoutSecs <
        subI64 now.seconds info.lastHeartbeat
    · -- the worker is pruned, which takes a contact that long ago
      refine Or.inr (lt_of_le_of_lt ?_
        (long_ago_of_subI64 (formed.fits _ held) positive late))
      exact Int.add_le_add_right later _
    · refine Or.inl ⟨info, ?_, later⟩
      change _ ∈ (pool.scheduler.checkHealth now).workers
      rw [Scheduler.workers_checkHealth formed, List.mem_filter]
      exact ⟨held, decide_eq_true (not_lt.mp late)⟩
  · exact Or.inr (past.trans_le forward)

theorem Pool.Covered.deregister (gone : String)
    (covered : pool.Covered workerId) :
    (pool.perform (.deregister gone)).Covered workerId := by
  by_cases same : gone = workerId
  · intro delivered live
    change Function.update pool.live gone _ workerId = some delivered at live
    rw [same, Function.update_self] at live
    cases live
  · exact covered.others (Function.update_of_ne (Ne.symm same) _ _) rfl le_rfl
      fun info held =>
        ⟨info, Scheduler.mem_deregisterWorker.mpr ⟨held, Ne.symm same⟩, le_rfl⟩

theorem Pool.Covered.perform {event : PoolEvent}
    (formed : pool.scheduler.WellFormed)
    (positive : 0 ≤ pool.scheduler.heartbeatTimeoutSecs)
    (covered : pool.Covered workerId) (orderly : pool.Orderly workerId event) :
    (pool.perform event).Covered workerId := by
  cases event with
  | register registration now => exact covered.register formed orderly
  | heartbeat beat => exact covered.heartbeat orderly
  | checkHealth now => exact covered.checkHealth formed positive orderly
  | deregister gone => exact covered.deregister gone

/-- A covered worker is offered while its newest heartbeat is fresh. -/
theorem Pool.Covered.schedulable (formed : pool.scheduler.WellFormed)
    (small : pool.scheduler.heartbeatTimeoutSecs < 2 ^ 63)
    (covered : pool.Covered workerId) : pool.Schedulable workerId := by
  intro delivered live newest isNewest order same now forward fresh
  rcases covered delivered live newest isNewest with
    ⟨info, held, later⟩ | past
  · have member : info ∈
        (pool.scheduler.listed order).getAvailableWorkers now.seconds :=
      Scheduler.mem_getAvailableWorkers.mpr
        ⟨List.mem_map_of_mem (f := Prod.snd) (same.mem_iff.mpr held),
          formed.active _ held,
          subI64_lt_of_fresh (formed.fits _ held) small later fresh⟩
    exact List.mem_map.mpr ⟨info, member, formed.ownId _ held⟩
  · have clockForward : (pool.clock : Int) ≤ now.seconds := by
      exact_mod_cast forward
    omega

end

/-- The pool in any order offers its least loaded workers, in every run. -/
theorem selectsLeastLoaded_run (events : List PoolEvent)
    (order : List (String × WorkerInfo))
    (same :
      order.Perm (events.foldl Pool.perform .start).scheduler.workers)
    (count : Nat) (now : ClockReading) :
    SelectsLeastLoaded
      ((events.foldl Pool.perform .start).scheduler.listed order) count
      now.seconds :=
  ((Pool.wellFormed_run events).listed same).selectsLeastLoaded count

/--
After every run that is orderly for a worker, the worker is available while
its newest heartbeat is fresh; selection is right after every run.
-/
theorem live_worker_schedulable (events : List PoolEvent) (workerId : String)
    (orderly :
      Along Pool.perform (Pool.Orderly workerId) .start events) :
    (events.foldl Pool.perform .start).Schedulable workerId ∧
      ∀ order, order.Perm
          (events.foldl Pool.perform .start).scheduler.workers →
        ∀ count, ∀ now : ClockReading,
          SelectsLeastLoaded
            ((events.foldl Pool.perform .start).scheduler.listed order) count
            now.seconds := by
  have kept : ∀ pool event,
      (pool.scheduler.WellFormed ∧
          pool.scheduler.heartbeatTimeoutSecs = 30) ∧
        pool.Covered workerId →
      Pool.Orderly workerId pool event →
      ((pool.perform event).scheduler.WellFormed ∧
          (pool.perform event).scheduler.heartbeatTimeoutSecs = 30) ∧
        (pool.perform event).Covered workerId := by
    rintro pool event ⟨⟨formed, timeout⟩, covered⟩ orderlyEvent
    have afterwards : (pool.perform event).scheduler.WellFormed :=
      Pool.wellFormed_perform event formed
    have positive : 0 ≤ pool.scheduler.heartbeatTimeoutSecs := by omega
    exact ⟨⟨afterwards, (pool.heartbeatTimeoutSecs_perform event).trans
      timeout⟩, covered.perform formed positive orderlyEvent⟩
  have covered : (events.foldl Pool.perform .start).Covered workerId :=
    (orderly.invariant kept
      ⟨⟨Scheduler.wellFormed_new, rfl⟩, fun _ => nofun⟩).2
  refine ⟨?_, selectsLeastLoaded_run events⟩
  apply covered.schedulable (Pool.wellFormed_run events)
  rw [Pool.heartbeatTimeoutSecs_run]
  decide

/-- A reading of the clock in the first minutes. -/
def reading (seconds : Fin 1000) : ClockReading where
  seconds := seconds
  fits := by constructor <;> omega

/-- A heartbeat of the first minutes. -/
def beatAt (workerId : String) (seconds : Fin 1000) : Heartbeat where
  workerId := workerId
  activeTasks := 0
  timestamp := seconds.val
  fits := by constructor <;> omega

/-- A worker of the default warehouse. -/
def firstWorker : WorkerRegistration :=
  ⟨"w1", "localhost", 9092, 9100, 4, 8000000000, "default"⟩

/-- A worker that is heard of before and after a health check. -/
def heardWorker : List PoolEvent :=
  [.register firstWorker (reading 100), .heartbeat (beatAt "w1" 110),
    .checkHealth (reading 120), .heartbeat (beatAt "w1" 121)]

theorem heardWorker_schedulable :
    (heardWorker.foldl Pool.perform .start).Schedulable "w1" := by
  have orderly :
      Along Pool.perform (Pool.Orderly "w1") .start heardWorker := by
    refine ⟨⟨by decide, fun _ _ => nofun⟩, ?_, Nat.le_of_lt (by decide), ?_,
      trivial⟩
    · rintro - delivered live
      cases Option.mem_some_iff.mp live
      exact ⟨by decide, fun _ => nofun⟩
    · rintro - delivered live
      cases Option.mem_some_iff.mp live
      exact ⟨by decide, fun newest isNewest =>
        Option.mem_some_iff.mp isNewest ▸ by decide⟩
  exact (live_worker_schedulable heardWorker "w1" orderly).1

/--
A worker whose heartbeats resume after it was pruned is not offered, and
neither is a worker of which an old heartbeat arrives after a new one.
-/
theorem live_workers_lost :
    ¬ (([.register firstWorker (reading 0), .checkHealth (reading 31),
          .heartbeat (beatAt "w1" 40)] : List PoolEvent).foldl Pool.perform
        .start).Schedulable "w1" ∧
      ¬ (([.register firstWorker (reading 0),
            .heartbeat (beatAt "w1" 100),
            .heartbeat (beatAt "w1" 50)] : List PoolEvent).foldl Pool.perform
          .start).Schedulable "w1" := by
  constructor
  · intro schedulable
    have offered := schedulable ⟨some 40⟩ (by decide) 40 rfl _
      (List.Perm.refl _) (reading 41) (by decide) (by decide)
    revert offered
    decide
  · intro schedulable
    have offered := schedulable ⟨some 100⟩ (by decide) 100 rfl _
      (List.Perm.refl _) (reading 101) (by decide) (by decide)
    revert offered
    decide

end OpenSnow.Distributed
