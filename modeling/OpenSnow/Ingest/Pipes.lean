import Mathlib.Data.List.Nodup
import OpenSnow.Foundation.Runs
import OpenSnow.Ingest.FileWatcher

/-!
# Pipes and their watchers

The manager keeps the pipes and the handles of their watchers under two locks.
Creating a pipe takes one lock and then the other, dropping it the other way
round, and calls of several callers may fall between.
-/

namespace OpenSnow.Ingest

open Foundation

/-! ## The manager -/

structure Pipe where
  name : String
  sourcePath : String
  targetTable : String
  autoIngest : Bool
  fileFormat : FileFormat
deriving DecidableEq, Repr

inductive TaskStatus where
  | running
  /-- The watcher exited with an error. -/
  | failed
  | aborted
deriving DecidableEq, Repr

/-- The task that runs the watcher of a pipe. -/
structure Task where
  pipe : Pipe
  status : TaskStatus
deriving DecidableEq, Repr

/-- What the two locks guard, the tasks, and the calls that are under way. -/
structure PipeManager where
  pipes : String → Option Pipe
  handles : String → Option Nat
  tasks : Nat → Option Task
  /-- How many tasks were spawned. -/
  spawned : Nat
  /-- Calls of `start_watcher`, with their task once it is spawned. -/
  creating : List (Pipe × Option Nat)
  /-- Calls of `drop_pipe` that have stopped the watcher. -/
  dropping : List String

def PipeManager.new : PipeManager where
  pipes := fun _ => none
  handles := fun _ => none
  tasks := fun _ => none
  spawned := 0
  creating := []
  dropping := []

inductive PipeStep where
  /-- `create_pipe` under the lock of the pipes. -/
  | register (pipe : Pipe)
  /-- `tokio::spawn` in `start_watcher`. -/
  | spawn (pipe : Pipe)
  /-- `start_watcher` under the lock of the handles. -/
  | insertHandle (pipe : Pipe) (task : Nat)
  /-- `stop_watcher` under the lock of the handles. -/
  | stopWatcher (name : String)
  /-- `drop_pipe` under the lock of the pipes. -/
  | remove (name : String)
  /-- A watcher exits with an error. -/
  | fails (task : Nat)
deriving DecidableEq, Repr

/-- A running task gets another status. -/
def Task.ended (status : TaskStatus) (task : Task) : Task :=
  if task.status = .running then { task with status } else task

namespace PipeManager

/-- One more status for a task. -/
def endTask (manager : PipeManager) (task : Nat) (status : TaskStatus) :
    PipeManager :=
  { manager with
    tasks :=
      Function.update manager.tasks task
        ((manager.tasks task).map (Task.ended status)) }

def perform (manager : PipeManager) : PipeStep → PipeManager
  | .register pipe =>
      match manager.pipes pipe.name with
      | some _ => manager
      | none =>
          { manager with
            pipes := Function.update manager.pipes pipe.name (some pipe)
            creating :=
              if pipe.autoIngest then (pipe, none) :: manager.creating
              else manager.creating }
  | .spawn pipe =>
      if (pipe, none) ∈ manager.creating then
        { manager with
          tasks :=
            Function.update manager.tasks manager.spawned
              (some ⟨pipe, .running⟩)
          spawned := manager.spawned + 1
          creating :=
            (pipe, some manager.spawned) ::
              manager.creating.erase (pipe, none) }
      else manager
  | .insertHandle pipe task =>
      if (pipe, some task) ∈ manager.creating then
        { manager with
          handles := Function.update manager.handles pipe.name (some task)
          creating := manager.creating.erase (pipe, some task) }
      else manager
  | .stopWatcher name =>
      match manager.handles name with
      | none => { manager with dropping := name :: manager.dropping }
      | some task =>
          { manager.endTask task .aborted with
            handles := Function.update manager.handles name none
            dropping := name :: manager.dropping }
  | .remove name =>
      if name ∈ manager.dropping then
        { manager with
          pipes := Function.update manager.pipes name none
          dropping := manager.dropping.erase name }
      else manager
  | .fails task => manager.endTask task .failed

/-- No call is under way. -/
def Quiescent (manager : PipeManager) : Prop :=
  manager.creating = [] ∧ manager.dropping = []

/-- The task watches for a pipe of this name. -/
def Watches (manager : PipeManager) (task : Nat) (name : String) : Prop :=
  ∃ pipe, manager.tasks task = some ⟨pipe, .running⟩ ∧ pipe.name = name

end PipeManager

/-- There is one running watcher for every registered pipe, and no other. -/
def OnePerPipe (manager : PipeManager) : Prop :=
  manager.Quiescent → ∀ name,
    ((manager.pipes name).isSome → ∃! task, manager.Watches task name) ∧
      (manager.pipes name = none → ∀ task, ¬ manager.Watches task name)

/--
There is one watcher for every registered pipe that ingests on its own, which
runs unless it has failed, and no other watcher runs.
-/
structure WatchersMatch (manager : PipeManager) : Prop where
  watched : manager.Quiescent → ∀ name pipe,
    manager.pipes name = some pipe → pipe.autoIngest = true →
      ∃ task status, manager.tasks task = some ⟨pipe, status⟩ ∧
        status ≠ .aborted ∧
          ∀ other, manager.Watches other name → other = task
  unwatched : manager.Quiescent → ∀ task name,
    manager.Watches task name →
      ∃ pipe, manager.pipes name = some pipe ∧ pipe.autoIngest = true

/--
A pipe is dropped while no call that creates a pipe of its name is on its way
to the handles, and none has come there since the watcher was stopped.
-/
def Undisturbed (manager : PipeManager) : PipeStep → Prop
  | .stopWatcher name => ∀ call ∈ manager.creating, call.1.name ≠ name
  | .remove name =>
      name ∈ manager.dropping →
        (∀ call ∈ manager.creating, call.1.name ≠ name) ∧
          manager.handles name = none
  | _ => True

/-! ## What undisturbed calls keep -/

structure Tidy (manager : PipeManager) : Prop where
  named : ∀ {name pipe}, manager.pipes name = some pipe → pipe.name = name
  /-- A pipe that is being created is registered and has no handle yet. -/
  creating : ∀ call ∈ manager.creating,
    manager.pipes call.1.name = some call.1 ∧ call.1.autoIngest = true ∧
      manager.handles call.1.name = none
  distinct : (manager.creating.map fun call => call.1.name).Nodup
  /-- The task of a call under way, or of a handle, was not aborted. -/
  spawnedTask : ∀ {pipe task}, (pipe, some task) ∈ manager.creating →
    ∃ status, manager.tasks task = some ⟨pipe, status⟩ ∧ status ≠ .aborted
  handle : ∀ {name task}, manager.handles name = some task →
    ∃ pipe status, manager.pipes name = some pipe ∧
      pipe.autoIngest = true ∧
        manager.tasks task = some ⟨pipe, status⟩ ∧ status ≠ .aborted
  running : ∀ {task pipe}, manager.tasks task = some ⟨pipe, .running⟩ →
    manager.handles pipe.name = some task ∨
      (pipe, some task) ∈ manager.creating
  watched : ∀ {name pipe}, manager.pipes name = some pipe →
    pipe.autoIngest = true → name ∉ manager.dropping →
      manager.handles name ≠ none ∨
        ∃ call ∈ manager.creating, call.1 = pipe
  fresh : ∀ task, manager.spawned ≤ task → manager.tasks task = none

theorem Tidy.new : Tidy .new where
  named := nofun
  creating _ := nofun
  distinct := List.nodup_nil
  spawnedTask := nofun
  handle := nofun
  running := nofun
  watched := nofun
  fresh _ _ := rfl

/-- What is tidy matches when no call is under way. -/
theorem Tidy.watchersMatch {manager : PipeManager} (tidy : Tidy manager) :
    WatchersMatch manager where
  watched := by
    rintro ⟨noneCreating, noneDropping⟩ name pipe registered auto
    have watched := tidy.watched registered auto
      (noneDropping ▸ List.not_mem_nil)
    rw [noneCreating] at watched
    rcases watched with handled | ⟨call, member, -⟩
    · obtain ⟨task, isHandle⟩ := Option.ne_none_iff_exists'.mp handled
      obtain ⟨other, status, isPipe, -, isTask, alive⟩ :=
        tidy.handle isHandle
      rw [registered, Option.some.injEq] at isPipe
      refine ⟨task, status, isPipe ▸ isTask, alive, ?_⟩
      rintro found ⟨watching, isRunning, isName⟩
      rcases tidy.running isRunning with own | underWay
      · rw [isName, isHandle, Option.some.injEq] at own
        exact own.symm
      · rw [noneCreating] at underWay
        cases underWay
    · cases member
  unwatched := by
    rintro ⟨noneCreating, -⟩ task name ⟨pipe, isRunning, isName⟩
    rcases tidy.running isRunning with own | underWay
    · rw [isName] at own
      obtain ⟨registered, -, isPipe, auto, -⟩ := tidy.handle own
      exact ⟨registered, isPipe, auto⟩
    · rw [noneCreating] at underWay
      cases underWay

theorem update_of_absent {Name Entry : Type} [DecidableEq Name]
    {table : Name → Option Entry} {name : Name} {entry : Option Entry}
    (free : table name = none) {other : Name} {found : Entry}
    (isEntry : table other = some found) :
    Function.update table name entry other = some found := by
  rw [Function.update_of_ne]
  · exact isEntry
  · rintro rfl
    rw [free] at isEntry
    cases isEntry

section

variable {manager : PipeManager}

theorem Tidy.register (tidy : Tidy manager) (pipe : Pipe) :
    Tidy (manager.perform (.register pipe)) := by
  rw [PipeManager.perform]
  split
  · exact tidy
  · rename_i free
    have unhandled : manager.handles pipe.name = none := by
      by_contra handled
      obtain ⟨task, isHandle⟩ := Option.ne_none_iff_exists'.mp handled
      obtain ⟨other, -, isPipe, -⟩ := tidy.handle isHandle
      rw [free] at isPipe
      cases isPipe
    have notCreated : ∀ call ∈ manager.creating, call.1.name ≠ pipe.name := by
      intro call member same
      have registered := (tidy.creating call member).1
      rw [same, free] at registered
      cases registered
    have others : ∀ {name found}, manager.pipes name = some found →
        Function.update manager.pipes pipe.name (some pipe) name =
          some found :=
      update_of_absent free
    have calls : ∀ {call},
        call ∈ (if pipe.autoIngest then (pipe, none) :: manager.creating
          else manager.creating) →
          (pipe.autoIngest = true ∧ call = (pipe, none)) ∨
            call ∈ manager.creating := by
      intro call member
      split_ifs at member with auto
      · rcases List.mem_cons.mp member with isNew | old
        · exact Or.inl ⟨auto, isNew⟩
        · exact Or.inr old
      · exact Or.inr member
    have older : ∀ {call}, call ∈ manager.creating →
        call ∈ (if pipe.autoIngest then (pipe, none) :: manager.creating
          else manager.creating) := by
      intro call member
      split_ifs
      · exact List.mem_cons_of_mem _ member
      · exact member
    exact
      { named := by
          intro name found isPipe
          dsimp only at isPipe
          by_cases own : name = pipe.name
          · rw [own, Function.update_self] at isPipe
            cases isPipe
            exact own.symm
          · rw [Function.update_of_ne own] at isPipe
            exact tidy.named isPipe
        creating := by
          intro call member
          rcases calls member with ⟨auto, rfl⟩ | old
          · exact ⟨Function.update_self .., auto, unhandled⟩
          · obtain ⟨registered, auto, noHandle⟩ := tidy.creating call old
            exact ⟨others registered, auto, noHandle⟩
        distinct := by
          dsimp only
          split_ifs
          · rw [List.map_cons, List.nodup_cons]
            refine ⟨fun taken => ?_, tidy.distinct⟩
            obtain ⟨call, member, same⟩ := List.mem_map.mp taken
            exact notCreated call member same
          · exact tidy.distinct
        spawnedTask := by
          intro found task member
          rcases calls member with ⟨-, isNew⟩ | old
          · cases isNew
          · exact tidy.spawnedTask old
        handle := by
          intro name task isHandle
          obtain ⟨found, status, isPipe, rest⟩ := tidy.handle isHandle
          exact ⟨found, status, others isPipe, rest⟩
        running := fun isRunning =>
          (tidy.running isRunning).imp_right older
        watched := by
          intro name found isPipe auto notDropping
          dsimp only at isPipe
          by_cases own : name = pipe.name
          · rw [own, Function.update_self] at isPipe
            cases isPipe
            refine Or.inr ⟨(pipe, none), ?_, rfl⟩
            dsimp only
            rw [if_pos auto]
            exact List.mem_cons_self
          · rw [Function.update_of_ne own] at isPipe
            refine (tidy.watched isPipe auto notDropping).imp_right ?_
            rintro ⟨call, member, isCall⟩
            exact ⟨call, older member, isCall⟩
        fresh := tidy.fresh }

/-- A call under way goes on, and the others stay as they are. -/
theorem Tidy.mem_erase (tidy : Tidy manager) {call other : Pipe × Option Nat}
    (member : call ∈ manager.creating) :
    other ∈ manager.creating.erase call ↔
      other ∈ manager.creating ∧ other.1.name ≠ call.1.name := by
  rw [(tidy.distinct.of_map _).mem_erase_iff]
  constructor
  · rintro ⟨different, held⟩
    refine ⟨held, fun same => different ?_⟩
    exact List.inj_on_of_nodup_map tidy.distinct held member same
  · rintro ⟨held, different⟩
    refine ⟨fun same => different ?_, held⟩
    exact congrArg (fun call => call.1.name) same

theorem Tidy.erase_distinct (tidy : Tidy manager)
    (call : Pipe × Option Nat) :
    ((manager.creating.erase call).map fun call => call.1.name).Nodup :=
  (List.erase_sublist.map _).nodup tidy.distinct

theorem Tidy.spawn (tidy : Tidy manager) (pipe : Pipe) :
    Tidy (manager.perform (.spawn pipe)) := by
  rw [PipeManager.perform]
  by_cases underWay : (pipe, none) ∈ manager.creating
  · rw [if_pos underWay]
    obtain ⟨registered, auto, unhandled⟩ :=
      tidy.creating (pipe, none) underWay
    have tasks : ∀ {task found}, manager.tasks task = some found →
        Function.update manager.tasks manager.spawned
          (some ⟨pipe, .running⟩) task = some found :=
      update_of_absent (tidy.fresh _ (Nat.le_refl _))
    have calls : ∀ {call},
        call ∈ (pipe, some manager.spawned) ::
            manager.creating.erase (pipe, none) ↔
          call = (pipe, some manager.spawned) ∨
            call ∈ manager.creating ∧ call.1.name ≠ pipe.name := by
      intro call
      rw [List.mem_cons, tidy.mem_erase underWay]
    exact
      { named := tidy.named
        creating := by
          intro call member
          rcases calls.mp member with rfl | ⟨old, -⟩
          · exact ⟨registered, auto, unhandled⟩
          · exact tidy.creating call old
        distinct := by
          rw [List.map_cons, List.nodup_cons]
          refine ⟨fun taken => ?_, tidy.erase_distinct _⟩
          obtain ⟨call, member, same⟩ := List.mem_map.mp taken
          exact ((tidy.mem_erase underWay).mp member).2 same
        spawnedTask := by
          intro found task member
          rcases calls.mp member with isNew | ⟨old, -⟩
          · cases isNew
            exact ⟨.running, Function.update_self .., nofun⟩
          · obtain ⟨status, isTask, alive⟩ := tidy.spawnedTask old
            exact ⟨status, tasks isTask, alive⟩
        handle := by
          intro name task isHandle
          obtain ⟨found, status, isPipe, isAuto, isTask, alive⟩ :=
            tidy.handle isHandle
          exact ⟨found, status, isPipe, isAuto, tasks isTask, alive⟩
        running := by
          intro task found isRunning
          dsimp only at isRunning
          by_cases own : task = manager.spawned
          · rw [own, Function.update_self] at isRunning
            cases isRunning
            exact Or.inr (calls.mpr (Or.inl (by rw [own])))
          · rw [Function.update_of_ne own] at isRunning
            rcases tidy.running isRunning with handled | old
            · exact Or.inl handled
            · refine Or.inr (calls.mpr (Or.inr ⟨old, fun same => ?_⟩))
              have equal := List.inj_on_of_nodup_map tidy.distinct old
                underWay same
              cases equal
        watched := by
          intro name found isPipe isAuto notDropping
          rcases tidy.watched isPipe isAuto notDropping with
            handled | ⟨call, member, isCall⟩
          · exact Or.inl handled
          · by_cases own : call.1.name = pipe.name
            · have equal := List.inj_on_of_nodup_map tidy.distinct member
                underWay own
              exact Or.inr ⟨_, calls.mpr (Or.inl rfl),
                by rw [← isCall, equal]⟩
            · exact Or.inr ⟨call, calls.mpr (Or.inr ⟨member, own⟩), isCall⟩
        fresh := by
          intro task bound
          dsimp only at bound ⊢
          rw [Function.update_of_ne (by omega)]
          exact tidy.fresh task (by omega) }
  · rw [if_neg underWay]
    exact tidy

theorem Tidy.insertHandle (tidy : Tidy manager) (pipe : Pipe)
    (task : Nat) : Tidy (manager.perform (.insertHandle pipe task)) := by
  rw [PipeManager.perform]
  by_cases underWay : (pipe, some task) ∈ manager.creating
  · rw [if_pos underWay]
    obtain ⟨registered, auto, unhandled⟩ := tidy.creating _ underWay
    have calls : ∀ {call},
        call ∈ manager.creating.erase (pipe, some task) ↔
          call ∈ manager.creating ∧ call.1.name ≠ pipe.name :=
      tidy.mem_erase underWay
    have handles : ∀ {name found}, manager.handles name = some found →
        Function.update manager.handles pipe.name (some task) name =
          some found :=
      update_of_absent unhandled
    exact
      { named := tidy.named
        creating := by
          intro call member
          obtain ⟨old, different⟩ := calls.mp member
          obtain ⟨isPipe, isAuto, noHandle⟩ := tidy.creating call old
          refine ⟨isPipe, isAuto, ?_⟩
          dsimp only
          rw [Function.update_of_ne different]
          exact noHandle
        distinct := tidy.erase_distinct _
        spawnedTask := fun member => tidy.spawnedTask (calls.mp member).1
        handle := by
          intro name found isHandle
          dsimp only at isHandle
          by_cases own : name = pipe.name
          · rw [own, Function.update_self] at isHandle
            cases isHandle
            obtain ⟨status, isTask, alive⟩ := tidy.spawnedTask underWay
            exact ⟨pipe, status, own ▸ registered, auto, isTask, alive⟩
          · rw [Function.update_of_ne own] at isHandle
            exact tidy.handle isHandle
        running := by
          intro found other isRunning
          rcases tidy.running isRunning with handled | old
          · exact Or.inl (handles handled)
          · by_cases own : other.name = pipe.name
            · have equal := List.inj_on_of_nodup_map tidy.distinct old
                underWay own
              cases equal
              exact Or.inl (Function.update_self ..)
            · exact Or.inr (calls.mpr ⟨old, own⟩)
        watched := by
          intro name found isPipe isAuto notDropping
          rcases tidy.watched isPipe isAuto notDropping with
            handled | ⟨call, member, isCall⟩
          · obtain ⟨other, isHandle⟩ := Option.ne_none_iff_exists'.mp handled
            refine Or.inl fun absent => ?_
            dsimp only at absent
            rw [handles isHandle] at absent
            cases absent
          · by_cases own : call.1.name = pipe.name
            · left
              have isName : name = pipe.name := by
                rw [← own, isCall, tidy.named isPipe]
              dsimp only
              rw [isName, Function.update_self]
              nofun
            · exact Or.inr ⟨call, calls.mpr ⟨member, own⟩, isCall⟩
        fresh := tidy.fresh }
  · rw [if_neg underWay]
    exact tidy

variable {status : TaskStatus}

/-- A task that ends is still the task that it was. -/
theorem PipeManager.tasks_endTask {task other : Nat} {found : Task} :
    (manager.endTask task status).tasks other = some found ↔
      ∃ old, manager.tasks other = some old ∧
        found = if other = task then old.ended status else old := by
  rw [PipeManager.endTask]
  dsimp only
  by_cases own : other = task
  · simp only [own, Function.update_self, Option.map_eq_some_iff, if_true]
    constructor
    · rintro ⟨old, isOld, same⟩
      exact ⟨old, isOld, same.symm⟩
    · rintro ⟨old, isOld, same⟩
      exact ⟨old, isOld, same.symm⟩
  · simp only [Function.update_of_ne own, own, if_false]
    constructor
    · exact fun isTask => ⟨found, isTask, rfl⟩
    · rintro ⟨old, isOld, rfl⟩
      exact isOld

theorem Task.running_of_ended {task : Task} (different : status ≠ .running) :
    (task.ended status).status ≠ .running := by
  unfold Task.ended
  split_ifs with running
  · exact different
  · exact running

theorem Task.pipe_ended (task : Task) (status : TaskStatus) :
    (task.ended status).pipe = task.pipe := by
  unfold Task.ended
  split_ifs <;> rfl

/-- A task that runs on is another one than the task that ended. -/
theorem PipeManager.running_of_endTask {task other : Nat} {pipe : Pipe}
    (different : status ≠ .running) (isRunning :
      (manager.endTask task status).tasks other = some ⟨pipe, .running⟩) :
    other ≠ task ∧ manager.tasks other = some ⟨pipe, .running⟩ := by
  obtain ⟨old, isOld, same⟩ := PipeManager.tasks_endTask.mp isRunning
  split_ifs at same with own
  · have ended : (old.ended status).status ≠ .running :=
      old.running_of_ended different
    rw [← same] at ended
    exact absurd rfl ended
  · rw [same]
    exact ⟨own, isOld⟩

theorem PipeManager.endTask_absent {task other : Nat}
    (absent : manager.tasks other = none) :
    (manager.endTask task status).tasks other = none := by
  by_contra present
  obtain ⟨found, isFound⟩ := Option.ne_none_iff_exists'.mp present
  obtain ⟨old, isOld, -⟩ := PipeManager.tasks_endTask.mp isFound
  rw [absent] at isOld
  cases isOld

/-- A watcher that fails is not replaced. -/
theorem Tidy.fails (tidy : Tidy manager) (task : Nat) :
    Tidy (manager.perform (.fails task)) := by
  have alive : ∀ {other pipe status},
      manager.tasks other = some ⟨pipe, status⟩ → status ≠ .aborted →
        ∃ after, (manager.endTask task .failed).tasks other =
            some ⟨pipe, after⟩ ∧ after ≠ .aborted := by
    intro other pipe status isTask notAborted
    by_cases own : other = task
    · refine ⟨((⟨pipe, status⟩ : Task).ended .failed).status,
        PipeManager.tasks_endTask.mpr ⟨_, isTask, ?_⟩, ?_⟩
      · rw [if_pos own]
        have isPipe := Task.pipe_ended ⟨pipe, status⟩ .failed
        exact Task.mk.injEq .. ▸ ⟨isPipe.symm, rfl⟩
      · unfold Task.ended
        split_ifs
        · nofun
        · exact notAborted
    · exact ⟨status, PipeManager.tasks_endTask.mpr
        ⟨_, isTask, by rw [if_neg own]⟩, notAborted⟩
  exact
    { named := tidy.named
      creating := tidy.creating
      distinct := tidy.distinct
      spawnedTask := by
        intro pipe other member
        obtain ⟨status, isTask, notAborted⟩ := tidy.spawnedTask member
        exact alive isTask notAborted
      handle := by
        intro name other isHandle
        obtain ⟨pipe, status, isPipe, auto, isTask, notAborted⟩ :=
          tidy.handle isHandle
        obtain ⟨after, isAfter, stillAlive⟩ := alive isTask notAborted
        exact ⟨pipe, after, isPipe, auto, isAfter, stillAlive⟩
      running := fun isRunning =>
        tidy.running (PipeManager.running_of_endTask
          (nofun : TaskStatus.failed ≠ .running) isRunning).2
      watched := tidy.watched
      fresh := fun other bound =>
        PipeManager.endTask_absent (tidy.fresh other bound) }

theorem Tidy.stopWatcher (tidy : Tidy manager) {name : String}
    (undisturbed : Undisturbed manager (.stopWatcher name)) :
    Tidy (manager.perform (.stopWatcher name)) := by
  rw [PipeManager.perform]
  split
  · exact
      { named := tidy.named
        creating := tidy.creating
        distinct := tidy.distinct
        spawnedTask := tidy.spawnedTask
        handle := tidy.handle
        running := tidy.running
        watched := fun isPipe auto notDropping =>
          tidy.watched isPipe auto fun old =>
            notDropping (List.mem_cons_of_mem _ old)
        fresh := tidy.fresh }
  · rename_i task isHandle
    obtain ⟨pipe, status, isPipe, auto, isTask, -⟩ := tidy.handle isHandle
    have isName := tidy.named isPipe
    have others : ∀ {other found}, other ≠ task →
        manager.tasks other = some found →
          (manager.endTask task .aborted).tasks other = some found := by
      intro other found different isFound
      exact PipeManager.tasks_endTask.mpr
        ⟨found, isFound, (if_neg different).symm⟩
    -- The stopped task belongs to the name, and to no other.
    have ofName : ∀ {other found}, manager.tasks other = some found →
        found.pipe.name ≠ name → other ≠ task := by
      rintro other found isFound different rfl
      rw [isTask, Option.some.injEq] at isFound
      exact different (by rw [← isFound]; exact isName)
    exact
      { named := tidy.named
        creating := by
          intro call member
          obtain ⟨registered, isAuto, noHandle⟩ := tidy.creating call member
          refine ⟨registered, isAuto, ?_⟩
          dsimp only
          rw [Function.update_of_ne (undisturbed call member)]
          exact noHandle
        distinct := tidy.distinct
        spawnedTask := by
          intro found other member
          obtain ⟨after, isAfter, alive⟩ := tidy.spawnedTask member
          have different := ofName isAfter (undisturbed _ member)
          exact ⟨after, others different isAfter, alive⟩
        handle := by
          intro other found isFound
          dsimp only at isFound
          by_cases own : other = name
          · rw [own, Function.update_self] at isFound
            cases isFound
          · rw [Function.update_of_ne own] at isFound
            obtain ⟨held, after, isHeld, isAuto, isAfter, alive⟩ :=
              tidy.handle isFound
            have different := ofName isAfter
              (fun same => own ((tidy.named isHeld).symm.trans same))
            exact ⟨held, after, isHeld, isAuto, others different isAfter,
              alive⟩
        running := by
          intro other found isRunning
          obtain ⟨different, before⟩ :=
            PipeManager.running_of_endTask
              (nofun : TaskStatus.aborted ≠ .running) isRunning
          refine (tidy.running before).imp_left fun handled => ?_
          dsimp only
          rw [Function.update_of_ne]
          · exact handled
          · intro same
            rw [same, isHandle, Option.some.injEq] at handled
            exact different handled.symm
        watched := by
          intro other found isFound isAuto notDropping
          have different : other ≠ name := fun same =>
            notDropping (List.mem_cons.mpr (Or.inl same))
          rcases tidy.watched isFound isAuto fun old =>
            notDropping (List.mem_cons_of_mem _ old) with handled | created
          · left
            dsimp only
            rw [Function.update_of_ne different]
            exact handled
          · exact Or.inr created
        fresh := fun other bound =>
          PipeManager.endTask_absent (tidy.fresh other bound) }

theorem Tidy.remove (tidy : Tidy manager) {name : String}
    (undisturbed : Undisturbed manager (.remove name)) :
    Tidy (manager.perform (.remove name)) := by
  rw [PipeManager.perform]
  by_cases underWay : name ∈ manager.dropping
  · rw [if_pos underWay]
    obtain ⟨notCreated, unhandled⟩ := undisturbed underWay
    have others : ∀ {other found}, other ≠ name →
        manager.pipes other = some found →
          Function.update manager.pipes name none other = some found := by
      intro other found different isPipe
      rw [Function.update_of_ne different]
      exact isPipe
    have older : ∀ {other found},
        Function.update manager.pipes name none other = some found →
          other ≠ name ∧ manager.pipes other = some found := by
      intro other found isPipe
      by_cases own : other = name
      · rw [own, Function.update_self] at isPipe
        cases isPipe
      · rw [Function.update_of_ne own] at isPipe
        exact ⟨own, isPipe⟩
    exact
      { named := fun isPipe => tidy.named (older isPipe).2
        creating := by
          intro call member
          obtain ⟨registered, auto, noHandle⟩ := tidy.creating call member
          exact ⟨others (notCreated call member) registered, auto, noHandle⟩
        distinct := tidy.distinct
        spawnedTask := tidy.spawnedTask
        handle := by
          intro other task isHandle
          obtain ⟨found, status, isPipe, rest⟩ := tidy.handle isHandle
          have different : other ≠ name := by
            rintro rfl
            dsimp only at isHandle
            rw [unhandled] at isHandle
            cases isHandle
          exact ⟨found, status, others different isPipe, rest⟩
        running := tidy.running
        watched := by
          intro other found isPipe auto notDropping
          obtain ⟨different, before⟩ := older isPipe
          refine tidy.watched before auto fun old => notDropping ?_
          exact (List.mem_erase_of_ne different).mpr old
        fresh := tidy.fresh }
  · rw [if_neg underWay]
    exact tidy

end

/-- A pipe into a table. -/
def samplePipe (autoIngest : Bool) : Pipe :=
  ⟨"p", "/in", "events", autoIngest, .parquet⟩

end OpenSnow.Ingest
