import OpenSnow.Foundation.Runs
import OpenSnow.Foundation.SeparatorJoin

/-!
# Runs of the pipeline

Requests and a scheduler start `dbt run` behind one flag.  The flag is tested
and set under a lock, by a request or by the scheduler, and taken back under
the lock by the run that it was set for.  Whoever holds the lock is alone, so
each of these is one step; the steps of all parties interleave.
-/

namespace OpenSnow.Server.Pipeline

open Foundation

/-! ## The shared state -/

structure RunState where
  running : Bool
  lastStarted : Option String
  lastFinished : Option String
  lastSuccess : Option Bool
  lastLogTail : Option String
  nextRun : Option String
  schedule : Option String
deriving DecidableEq, Repr

/-- What a process that was launched leaves. -/
structure Output where
  success : Bool
  stdout : String
  stderr : String
deriving DecidableEq, Repr

/-- A carriage return in front of a line feed belongs to it. -/
def stripReturn (line : List Char) : List Char :=
  if line.getLast? = some '\r' then line.dropLast else line

/-- `str::lines`. -/
def lines (text : String) : List (List Char) :=
  let pieces := text.toList.splitOn '\n'
  pieces.dropLast.map stripReturn ++ pieces.getLast?.toList.filter (· ≠ [])

def tailLines (text : String) (count : Nat) : String :=
  let all := lines text
  String.ofList (JoinedWords.joined '\n' (all.drop (all.length - count)))

namespace RunState

/-- Set the flag for a run. -/
def claim (run : RunState) (now : String) : RunState :=
  { run with running := true, lastStarted := some now }

/-- Record the outcome of a run and take the flag back. -/
def record (run : RunState) (now : String) :
    Except String Output → RunState
  | .ok output =>
      { run with
        running := false
        lastFinished := some now
        lastSuccess := some output.success
        lastLogTail := some (tailLines (output.stdout ++ output.stderr) 24) }
  | .error failure =>
      { run with
        running := false
        lastFinished := some now
        lastSuccess := some false
        lastLogTail := some ("failed to launch dbt: " ++ failure) }

@[simp]
theorem running_claim (run : RunState) (now : String) :
    (run.claim now).running = true := rfl

@[simp]
theorem running_record (run : RunState) (now : String)
    (output : Except String Output) :
    (run.record now output).running = false := by
  cases output <;> rfl

end RunState

/-! ## The parties -/

inductive Answer where
  | notConfigured
  | alreadyRunning
  | started
deriving DecidableEq, Repr

/-- Where a request stands in `run_pipeline`. -/
inductive Trigger where
  /-- It has found the project, and not had the lock. -/
  | configured (project : String)
  | claimed (project : String)
  | answered (answer : Answer)
deriving DecidableEq, Repr

inductive Origin where
  | trigger (index : Nat)
  | scheduler
deriving DecidableEq, Repr

/-- Where a call of `do_dbt_run` stands. -/
inductive TaskPhase where
  | launching
  /-- The process runs. -/
  | executing
  /-- The process has ended, or there was none. -/
  | finished (output : Except String Output)
  | recorded
deriving DecidableEq

structure Task where
  origin : Origin
  project : String
  phase : TaskPhase
deriving DecidableEq

/-- Where the loop of the scheduler stands. -/
inductive Scheduler where
  | computing
  | sleeping
  | configured (project : String)
  /-- It waits for a call of `do_dbt_run` of its own. -/
  | awaiting (task : Nat)
  | stopped
deriving DecidableEq, Repr

structure State where
  run : RunState
  triggers : List Trigger
  tasks : List Task
  scheduler : Scheduler

/-- After `build`, which starts the scheduler if a schedule is configured. -/
def build (schedule : Option String) : State where
  run := ⟨false, none, none, none, none, none, schedule⟩
  triggers := []
  tasks := []
  scheduler := if schedule.isSome then .computing else .stopped

inductive Step where
  /-- A request arrives and reads the project directory. -/
  | trigger (project : Option String)
  | claim (index : Nat) (now : String)
  | spawn (index : Nat)
  | launch (task : Nat)
  /-- There is no process; one that was launched is waited for. -/
  | launchFails (task : Nat) (failure : String)
  | exit (task : Nat) (output : Output)
  | record (task : Nat) (now : String)
  | nextFire (next : Option String)
  /-- The scheduler wakes up and reads the project directory. -/
  | wake (project : Option String)
  | schedulerClaim (now : String)
  | schedulerResume
deriving DecidableEq, Repr

def State.setTrigger (state : State) (index : Nat) (trigger : Trigger) :
    State :=
  { state with triggers := state.triggers.set index trigger }

def State.setTask (state : State) (index : Nat) (task : Task) : State :=
  { state with tasks := state.tasks.set index task }

/-- Call `do_dbt_run`. -/
def State.call (state : State) (origin : Origin) (project : String) : State :=
  { state with tasks := state.tasks ++ [⟨origin, project, .launching⟩] }

def perform (state : State) : Step → State
  | .trigger none =>
      { state with
        triggers := state.triggers ++ [.answered .notConfigured] }
  | .trigger (some project) =>
      { state with triggers := state.triggers ++ [.configured project] }
  | .claim index now =>
      match state.triggers[index]? with
      | some (.configured project) =>
          if state.run.running then
            state.setTrigger index (.answered .alreadyRunning)
          else
            { state.setTrigger index (.claimed project) with
              run := state.run.claim now }
      | _ => state
  | .spawn index =>
      match state.triggers[index]? with
      | some (.claimed project) =>
          (state.setTrigger index (.answered .started)).call (.trigger index)
            project
      | _ => state
  | .launch index =>
      match state.tasks[index]? with
      | some ⟨origin, project, .launching⟩ =>
          state.setTask index ⟨origin, project, .executing⟩
      | _ => state
  | .launchFails index failure =>
      match state.tasks[index]? with
      | some ⟨origin, project, .launching⟩ =>
          state.setTask index ⟨origin, project, .finished (.error failure)⟩
      | _ => state
  | .exit index output =>
      match state.tasks[index]? with
      | some ⟨origin, project, .executing⟩ =>
          state.setTask index ⟨origin, project, .finished (.ok output)⟩
      | _ => state
  | .record index now =>
      match state.tasks[index]? with
      | some ⟨origin, project, .finished output⟩ =>
          { state.setTask index ⟨origin, project, .recorded⟩ with
            run := state.run.record now output }
      | _ => state
  | .nextFire next =>
      match state.scheduler, next with
      | .computing, some next =>
          { state with
            run := { state.run with nextRun := some next }
            scheduler := .sleeping }
      | .computing, none => { state with scheduler := .stopped }
      | _, _ => state
  | .wake project =>
      match state.scheduler with
      | .sleeping =>
          { state with
            scheduler := project.elim .computing Scheduler.configured }
      | _ => state
  | .schedulerClaim now =>
      match state.scheduler with
      | .configured project =>
          if state.run.running then { state with scheduler := .computing }
          else
            { state.call .scheduler project with
              run := state.run.claim now
              scheduler := .awaiting state.tasks.length }
      | _ => state
  | .schedulerResume =>
      match state.scheduler with
      | .awaiting index =>
          if state.tasks[index]?.any (·.phase = .recorded) then
            { state with scheduler := .computing }
          else state
      | _ => state

/-! ## What is promised -/

def Trigger.isClaimed : Trigger → Bool
  | .claimed _ => true
  | _ => false

def Task.isUnrecorded (task : Task) : Bool := task.phase != .recorded

/-- A request that arrives and is not interrupted starts a run. -/
def Startable (state : State) : Prop :=
  ∀ project now,
    let index := state.triggers.length
    let steps := [.trigger (some project), .claim index now, .spawn index]
    (steps.foldl perform state).triggers[index]? =
      some (.answered .started)

structure NeverOverlaps (state : State) : Prop where
  oneProcess : (state.tasks.countP fun task => task.phase = .executing) ≤ 1
  running : state.run.running = true ↔
    (∃ trigger ∈ state.triggers, trigger.isClaimed) ∨
      ∃ task ∈ state.tasks, task.isUnrecorded
  oneRun : ∀ index,
    (state.tasks.countP fun task => task.origin = .trigger index) =
      if state.triggers[index]? = some (.answered .started) then 1 else 0
  /-- Once an outcome is recorded, a request can start a run. -/
  restarts : ∀ index origin project output now,
    state.tasks[index]? = some ⟨origin, project, .finished output⟩ →
      Startable (perform state (.record index now))
  /-- From any state on all runs can come to their end. -/
  recovers : ∃ more : List Step, Startable (more.foldl perform state) ∧
    ∀ task ∈ (more.foldl perform state).tasks, task.phase = .recorded

/-! ## What a step can do -/

inductive Change (state : State) : State → Prop where
  | idle {after : State} (running : after.run.running = state.run.running)
      (triggers : after.triggers = state.triggers)
      (tasks : after.tasks = state.tasks) : Change state after
  | arrive {trigger : Trigger} (unclaimed : trigger.isClaimed = false)
      (unanswered : trigger ≠ .answered .started) :
      Change state { state with triggers := state.triggers ++ [trigger] }
  | refuse {index : Nat} {project : String}
      (here : state.triggers[index]? = some (.configured project)) :
      Change state (state.setTrigger index (.answered .alreadyRunning))
  | claim {index : Nat} {project now : String}
      (here : state.triggers[index]? = some (.configured project))
      (free : state.run.running = false) :
      Change state
        { state.setTrigger index (.claimed project) with
          run := state.run.claim now }
  | spawn {index : Nat} {project : String}
      (here : state.triggers[index]? = some (.claimed project)) :
      Change state
        ((state.setTrigger index (.answered .started)).call (.trigger index)
          project)
  | advance {index : Nat} {origin : Origin} {project : String}
      {source target : TaskPhase}
      (here : state.tasks[index]? = some ⟨origin, project, source⟩)
      (unrecorded : source ≠ .recorded) (goesOn : target ≠ .recorded) :
      Change state (state.setTask index ⟨origin, project, target⟩)
  | record {index : Nat} {origin : Origin} {project now : String}
      {output : Except String Output}
      (here : state.tasks[index]? =
        some ⟨origin, project, .finished output⟩) :
      Change state
        { state.setTask index ⟨origin, project, .recorded⟩ with
          run := state.run.record now output }
  | schedulerClaim {project now : String} {scheduler : Scheduler}
      (free : state.run.running = false) :
      Change state
        { state.call .scheduler project with
          run := state.run.claim now
          scheduler := scheduler }

theorem perform_change (state : State) (step : Step) :
    Change state (perform state step) := by
  have same : Change state state := .idle rfl rfl rfl
  cases step with
  | trigger project =>
      cases project with
      | none => exact .arrive rfl (by decide)
      | some project => exact .arrive rfl nofun
  | claim index now =>
      unfold perform
      dsimp only
      split
      · rename_i project here
        split_ifs with isRunning
        · exact .refuse here
        · exact .claim here (Bool.eq_false_iff.mpr isRunning)
      · exact same
  | spawn index =>
      unfold perform
      dsimp only
      split
      · exact .spawn ‹_›
      · exact same
  | launch index | launchFails index failure | exit index output =>
      unfold perform
      dsimp only
      split
      · rename_i here
        exact .advance here nofun nofun
      · exact same
  | record index now =>
      unfold perform
      dsimp only
      split
      · exact .record ‹_›
      · exact same
  | nextFire next =>
      unfold perform
      dsimp only
      split <;> exact .idle rfl rfl rfl
  | wake project =>
      unfold perform
      dsimp only
      split <;> exact .idle rfl rfl rfl
  | schedulerClaim now =>
      unfold perform
      dsimp only
      split
      · split_ifs with isRunning
        · exact .idle rfl rfl rfl
        · exact .schedulerClaim (Bool.eq_false_iff.mpr isRunning)
      · exact same
  | schedulerResume =>
      unfold perform
      dsimp only
      split
      · split_ifs
        · exact .idle rfl rfl rfl
        · exact same
      · exact same

/-! ## The flag -/

/-- Those that the flag is set for. -/
def State.holders (state : State) : Nat :=
  state.triggers.countP Trigger.isClaimed +
    state.tasks.countP Task.isUnrecorded

/-- The flag is set for one holder, and otherwise there is none. -/
def Exclusive (state : State) : Prop :=
  state.holders = if state.run.running then 1 else 0

section

variable {state : State} {index : Nat}

theorem holders_setTrigger {old : Trigger}
    (here : state.triggers[index]? = some old) (new : Trigger) :
    (state.setTrigger index new).holders +
        (if old.isClaimed then 1 else 0) =
      state.holders + (if new.isClaimed then 1 else 0) := by
  have counted := countP_set_of_getElem? here Trigger.isClaimed new
  rw [State.holders, State.holders, State.setTrigger]
  dsimp only
  omega

theorem holders_setTask {old : Task} (here : state.tasks[index]? = some old)
    (new : Task) :
    (state.setTask index new).holders + (if old.isUnrecorded then 1 else 0) =
      state.holders + (if new.isUnrecorded then 1 else 0) := by
  have counted := countP_set_of_getElem? here Task.isUnrecorded new
  rw [State.holders, State.holders, State.setTask]
  dsimp only
  omega

theorem holders_call (state : State) (origin : Origin) (project : String) :
    (state.call origin project).holders = state.holders + 1 := by
  rw [State.holders, State.holders, State.call, List.countP_append,
    Nat.add_assoc]
  rfl

theorem isUnrecorded_of_ne {origin : Origin} {project : String}
    {phase : TaskPhase} (unrecorded : phase ≠ .recorded) :
    (Task.mk origin project phase).isUnrecorded = true :=
  bne_iff_ne.mpr unrecorded

theorem exclusive_build (schedule : Option String) :
    Exclusive (build schedule) := rfl

theorem Exclusive.change (exclusive : Exclusive state) {after : State}
    (change : Change state after) : Exclusive after := by
  cases change with
  | idle running triggers tasks =>
      rw [Exclusive, State.holders, running, triggers, tasks]
      exact exclusive
  | arrive unclaimed unanswered =>
      rw [Exclusive, State.holders]
      dsimp only
      rw [List.countP_append, List.countP_singleton, unclaimed]
      exact exclusive
  | refuse here =>
      have counted := holders_setTrigger here (.answered .alreadyRunning)
      exact counted.trans exclusive
  | @claim index project now here free =>
      have counted := holders_setTrigger here (.claimed project)
      rw [Exclusive, free] at exclusive
      exact counted.trans (congrArg (· + 1) exclusive)
  | spawn here =>
      have counted := holders_setTrigger here (.answered .started)
      rw [Exclusive, holders_call]
      exact counted.trans exclusive
  | @advance index origin project source target here unrecorded goesOn =>
      have counted := holders_setTask here ⟨origin, project, target⟩
      rw [isUnrecorded_of_ne unrecorded, isUnrecorded_of_ne goesOn] at counted
      exact (Nat.add_right_cancel counted).trans exclusive
  | @record index origin project now output here =>
      have counted : _ + 1 = _ + 0 :=
        holders_setTask here ⟨origin, project, .recorded⟩
      have isRunning : state.run.running = true := by
        by_contra free
        rw [Exclusive, if_neg free] at exclusive
        omega
      rw [Exclusive, if_pos isRunning] at exclusive
      rw [Exclusive, RunState.running_record]
      exact Nat.succ.inj (counted.trans exclusive)
  | schedulerClaim free =>
      rw [Exclusive, free] at exclusive
      exact (holders_call state .scheduler _).trans
        (congrArg (· + 1) exclusive)

end

/-! ## Calls of requests -/

/-- The calls that a request has made. -/
def callsOf (index : Nat) (tasks : List Task) : Nat :=
  tasks.countP fun task => task.origin = .trigger index

/-- A request that has been answered started one call, another none. -/
def Called (state : State) : Prop :=
  ∀ index, callsOf index state.tasks =
    if state.triggers[index]? = some (.answered .started) then 1 else 0

theorem called_build (schedule : Option String) : Called (build schedule) :=
  fun _ => rfl

theorem callsOf_set {tasks : List Task} {position : Nat} {old : Task}
    (here : tasks[position]? = some old) (new : Task)
    (same : old.origin = new.origin) (index : Nat) : callsOf index (tasks.set position new) =
      callsOf index tasks := by
  have counted := countP_set_of_getElem? here
    (fun task => task.origin = .trigger index) new
  rw [same] at counted
  exact Nat.add_right_cancel counted

theorem callsOf_concat (tasks : List Task) (task : Task) (index : Nat) :
    callsOf index (tasks ++ [task]) =
      callsOf index tasks + if task.origin = .trigger index then 1 else 0 := by
  rw [callsOf, List.countP_append, List.countP_singleton]
  simp only [decide_eq_true_eq]
  rfl

theorem getElem?_concat_eq_some_iff {Element : Type} {list : List Element}
    {last element : Element} {index : Nat} :
    (list ++ [last])[index]? = some element ↔
      list[index]? = some element ∨ index = list.length ∧ last = element := by
  rw [List.getElem?_append]
  split_ifs with inside
  · exact (or_iff_left fun atEnd => by omega).symm
  · rw [List.getElem?_eq_none (Nat.le_of_not_lt inside),
      List.getElem?_singleton]
    split_ifs with isLast
    · have atEnd : index = list.length := by omega
      simp [atEnd]
    · have notAtEnd : index ≠ list.length := by omega
      simp [notAtEnd]

/-- Another request is as it was, and this one is new. -/
theorem getElem?_set_eq_some_iff {Element : Type} {list : List Element}
    {position : Nat} {old new element : Element}
    (here : list[position]? = some old) {index : Nat} :
    (list.set position new)[index]? = some element ↔
      if index = position then new = element
      else list[index]? = some element := by
  obtain ⟨inside, -⟩ := List.getElem?_eq_some_iff.mp here
  rw [List.getElem?_set]
  by_cases isHere : position = index
  · subst isHere
    simp [inside]
  · simp [isHere, Ne.symm isHere]

theorem Called.change {state after : State} (called : Called state)
    (change : Change state after) : Called after := by
  intro index
  have before := called index
  have waiting : ∀ {position : Nat} {old : Trigger} (new : Trigger),
      state.triggers[position]? = some old → old ≠ .answered .started →
        new ≠ .answered .started →
          ((state.triggers.set position new)[index]? =
              some (.answered .started) ↔
            state.triggers[index]? = some (.answered .started)) := by
    intro position old new here wasWaiting isWaiting
    rw [getElem?_set_eq_some_iff here]
    split_ifs with isHere
    · subst isHere
      simp [here, wasWaiting, isWaiting]
    · rfl
  cases change with
  | idle running triggers tasks =>
      rw [triggers, tasks]
      exact before
  | @arrive trigger unclaimed unanswered =>
      have same : (state.triggers ++ [trigger])[index]? =
          some (.answered .started) ↔
            state.triggers[index]? = some (.answered .started) := by
        rw [getElem?_concat_eq_some_iff]
        exact or_iff_left fun isNew => unanswered isNew.2
      exact before.trans (if_congr same.symm rfl rfl)
  | refuse here =>
      have same := waiting (.answered .alreadyRunning) here nofun (by decide)
      exact before.trans (if_congr same.symm rfl rfl)
  | @claim position project now here free =>
      have same := waiting (.claimed project) here nofun nofun
      exact before.trans (if_congr same.symm rfl rfl)
  | @spawn position project here =>
      have isStarted := @getElem?_set_eq_some_iff _ _ _ _
        (.answered .started) (.answered .started) here index
      refine (callsOf_concat _ _ index).trans ?_
      refine Eq.trans ?_ (if_congr isStarted.symm rfl rfl)
      dsimp only [State.setTrigger]
      rw [before]
      by_cases isHere : index = position
      · subst isHere
        simp [here]
      · simp [isHere, Ne.symm isHere]
  | @advance position origin project source target here unrecorded goesOn =>
      exact (callsOf_set here ⟨origin, project, target⟩ rfl index).trans before
  | @record position origin project now output here =>
      exact
        (callsOf_set here ⟨origin, project, .recorded⟩ rfl index).trans before
  | schedulerClaim free =>
      refine (callsOf_concat _ _ index).trans ?_
      rw [if_neg nofun]
      exact before

/-! ## Starting again -/

theorem startable_of_free {state : State}
    (free : state.run.running = false) : Startable state := by
  intro project now
  simp [perform, free, State.setTrigger, State.call]

theorem running_record_step {state : State} {index : Nat} {origin : Origin}
    {project : String} {output : Except String Output}
    (here : state.tasks[index]? = some ⟨origin, project, .finished output⟩)
    (now : String) :
    (perform state (.record index now)).run.running = false := by
  rw [perform, here]
  exact RunState.running_record state.run now output

/-- A call can be gone through to its end. -/
theorem exists_recorded {state : State} {index : Nat} {task : Task}
    (here : state.tasks[index]? = some task)
    (unrecorded : task.phase ≠ .recorded) :
    ∃ more : List Step, (more.foldl perform state).run.running = false := by
  obtain ⟨inside, -⟩ := List.getElem?_eq_some_iff.mp here
  obtain ⟨origin, project, phase⟩ := task
  cases phase with
  | launching =>
      have finished : (perform state (.launchFails index "")).tasks[index]? =
          some ⟨origin, project, .finished (.error "")⟩ := by
        rw [perform, here]
        exact List.getElem?_set_self inside
      exact ⟨[.launchFails index "", .record index ""],
        running_record_step finished ""⟩
  | executing =>
      have finished : (perform state (.exit index ⟨true, "", ""⟩)).tasks[index]?
          = some ⟨origin, project, .finished (.ok ⟨true, "", ""⟩)⟩ := by
        rw [perform, here]
        exact List.getElem?_set_self inside
      exact ⟨[.exit index ⟨true, "", ""⟩, .record index ""],
        running_record_step finished ""⟩
  | finished output =>
      exact ⟨[.record index ""], running_record_step here ""⟩
  | recorded => exact absurd rfl unrecorded

/-! ## Runs -/

/-- What holds of every state that is reached. -/
structure Reached (state : State) : Prop where
  exclusive : Exclusive state
  called : Called state

theorem Reached.perform {state : State} (reached : Reached state)
    (step : Step) : Reached (perform state step) :=
  ⟨reached.exclusive.change (perform_change state step),
    reached.called.change (perform_change state step)⟩

theorem Reached.run {state : State} (reached : Reached state)
    (steps : List Step) : Reached (steps.foldl Pipeline.perform state) := by
  have along : Along Pipeline.perform (fun _ _ => True) state steps :=
    .of_forall fun _ _ => trivial
  exact along.invariant (fun _ step reached _ => reached.perform step) reached

theorem Exclusive.running_iff {state : State} (exclusive : Exclusive state) :
    state.run.running = true ↔
      (∃ trigger ∈ state.triggers, trigger.isClaimed) ∨
        ∃ task ∈ state.tasks, task.isUnrecorded := by
  rw [← List.countP_pos_iff, ← List.countP_pos_iff]
  rw [Exclusive, State.holders] at exclusive
  cases isRunning : state.run.running with
  | false =>
      rw [isRunning, if_neg Bool.false_ne_true] at exclusive
      refine ⟨fun impossible => absurd impossible Bool.false_ne_true, ?_⟩
      rintro (some | some) <;> omega
  | true =>
      rw [isRunning, if_pos rfl] at exclusive
      exact ⟨fun _ => by omega, fun _ => rfl⟩

theorem Exclusive.oneProcess {state : State} (exclusive : Exclusive state) :
    (state.tasks.countP fun task => task.phase = .executing) ≤ 1 := by
  have fewer : (state.tasks.countP fun task => task.phase = .executing) ≤
      state.tasks.countP Task.isUnrecorded := by
    refine List.countP_mono_left fun task _ executes => ?_
    rw [decide_eq_true_eq] at executes
    rw [Task.isUnrecorded, executes]
    rfl
  rw [Exclusive, State.holders] at exclusive
  split_ifs at exclusive <;> omega

/-- A request that holds the flag calls, and its call can be gone through. -/
theorem Reached.recovers {state : State} (reached : Reached state) :
    ∃ more : List Step,
      (more.foldl Pipeline.perform state).run.running = false := by
  by_cases isRunning : state.run.running = true
  · rcases reached.exclusive.running_iff.mp isRunning with
      ⟨trigger, member, isClaimed⟩ | ⟨task, member, unrecorded⟩
    · obtain ⟨index, here⟩ := List.getElem?_of_mem member
      cases trigger with
      | claimed project =>
          have isCalled :
              (Pipeline.perform state (.spawn index)).tasks[
                state.tasks.length]? =
                some ⟨.trigger index, project, .launching⟩ := by
            rw [Pipeline.perform, here]
            exact List.getElem?_concat_length
          obtain ⟨more, free⟩ := exists_recorded isCalled nofun
          exact ⟨.spawn index :: more, free⟩
      | configured | answered => cases isClaimed
    · obtain ⟨index, here⟩ := List.getElem?_of_mem member
      exact exists_recorded here (bne_iff_ne.mp unrecorded)
  · exact ⟨[], Bool.eq_false_iff.mpr isRunning⟩

/--
Whatever the order of the steps, runs do not overlap, each request that was
answered started has made one call, and requests can start runs again.
-/
theorem neverOverlaps (schedule : Option String) (steps : List Step) :
    NeverOverlaps (steps.foldl perform (build schedule)) := by
  have reached : Reached (steps.foldl perform (build schedule)) :=
    Reached.run ⟨exclusive_build schedule, called_build schedule⟩ steps
  refine ⟨reached.exclusive.oneProcess, reached.exclusive.running_iff,
    reached.called, ?_, ?_⟩
  · intro index origin project output now here
    exact startable_of_free (running_record_step here now)
  · obtain ⟨more, free⟩ := reached.recovers
    refine ⟨more, startable_of_free free, fun task member => ?_⟩
    by_contra unrecorded
    have isRunning := (reached.run more).exclusive.running_iff.mpr
      (Or.inr ⟨task, member, bne_iff_ne.mpr unrecorded⟩)
    rw [free] at isRunning
    cases isRunning

end OpenSnow.Server.Pipeline
