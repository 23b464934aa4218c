import OpenSnow.Foundation.Runs

/-!
# Mailboxes

A server stays on a thread of its own.  A call puts a message into a channel
and waits for the reply; the steps of all calls and of the server interleave,
and a call can be dropped wherever it waits.  What comes of it is what the
server does with the messages one after another.
-/

namespace OpenSnow.Foundation.Mailbox

/-- What a server does; none is a panic. -/
structure Server (State Message Reply : Type) where
  serve : State → Message → Option (State × Reply)
  /-- Whether a message carries a channel for the reply. -/
  replies : Message → Bool
  /-- How many messages the channel holds, if it is bounded. -/
  capacity : Option Nat

variable {State Message Reply : Type}

/-! ## Calls and the worker -/

inductive Failure where
  /-- The server had died before the message was sent. -/
  | unsent
  | unanswered
deriving DecidableEq, Repr

inductive Phase (Reply : Type) where
  /-- It waits for room in the channel. -/
  | sending
  | waiting
  /-- The reply stands in its channel. -/
  | replied (reply : Reply)
  | returned (result : Except Failure Reply)
  /-- A call without a reply has come back. -/
  | recorded
  /-- Its future was dropped where it waited. -/
  | cancelled

/-- A reply to a call that no longer waits is lost. -/
def Phase.deliver (reply : Reply) : Phase Reply → Phase Reply
  | .waiting => .replied reply
  | phase => phase

structure Call (Message Reply : Type) where
  message : Message
  phase : Phase Reply

inductive Worker (State Message : Type) where
  | idle (state : State)
  | serving (state : State) (number : Nat) (message : Message)
  | died

def Worker.alive : Worker State Message → Bool
  | .died => false
  | _ => true

def Worker.inHand : Worker State Message → List (Nat × Message)
  | .serving _ number message => [(number, message)]
  | _ => []

/-- What was sent and what was served is kept for the statements. -/
structure World (State Message Reply : Type) where
  worker : Worker State Message
  channel : List (Nat × Message)
  calls : List (Call Message Reply)
  sent : List (Nat × Message)
  served : List (Nat × Message)

namespace World

variable (world : World State Message Reply)

/-- The messages whose replies can still come. -/
def pending : List (Nat × Message) := world.worker.inHand ++ world.channel

def change (number : Nat) (become : Phase Reply → Phase Reply) :
    World State Message Reply :=
  { world with
    calls := world.calls.modify number fun call =>
      { call with phase := become call.phase } }

abbrev setPhase (number : Nat) (phase : Phase Reply) :
    World State Message Reply :=
  world.change number fun _ => phase

def send (server : Server State Message Reply) (number : Nat) :
    World State Message Reply :=
  match world.calls[number]? with
  | some ⟨message, .sending⟩ =>
      if world.worker.alive then
        if ∀ bound ∈ server.capacity, world.channel.length < bound then
          setPhase
            { world with
              channel := world.channel ++ [(number, message)]
              sent := world.sent ++ [(number, message)] }
            number (if server.replies message then .waiting else .recorded)
        else world
      else
        world.setPhase number
          (if server.replies message then .returned (.error .unsent)
            else .recorded)
  | _ => world

def await (number : Nat) : World State Message Reply :=
  match world.calls[number]? with
  | some ⟨_, .waiting⟩ =>
      if world.pending.any fun (other, _) => other == number then world
      else world.setPhase number (.returned (.error .unanswered))
  | some ⟨_, .replied reply⟩ =>
      world.setPhase number (.returned (.ok reply))
  | _ => world

def cancel (number : Nat) : World State Message Reply :=
  match world.calls[number]? with
  | some ⟨_, .sending⟩ | some ⟨_, .waiting⟩ | some ⟨_, .replied _⟩ =>
      world.setPhase number .cancelled
  | _ => world

/-- The thread ends with the channel and all that is in it. -/
def die : World State Message Reply :=
  { world with worker := .died, channel := [] }

def work (server : Server State Message Reply) : World State Message Reply :=
  match world.worker with
  | .idle state =>
      match world.channel with
      | [] => world
      | (number, message) :: rest =>
          { world with
            worker := .serving state number message
            channel := rest }
  | .serving state number message =>
      match server.serve state message with
      | some (next, reply) =>
          change
            { world with
              worker := .idle next
              served := world.served ++ [(number, message)] }
            number (.deliver reply)
      | none => world.die
  | .died => world

end World

inductive Step (Message : Type) where
  | call (message : Message)
  | send (number : Nat)
  | work
  | await (number : Nat)
  | cancel (number : Nat)
deriving DecidableEq, Repr

def spawn (initial : State) : World State Message Reply :=
  ⟨.idle initial, [], [], [], []⟩

def perform (server : Server State Message Reply)
    (world : World State Message Reply) :
    Step Message → World State Message Reply
  | .call message =>
      { world with calls := world.calls ++ [⟨message, .sending⟩] }
  | .send number => world.send server number
  | .work => world.work server
  | .await number => world.await number
  | .cancel number => world.cancel number

/-! ## One after another -/

section

variable (server : Server State Message Reply) (initial : State)

/-- The server after some messages, one after another. -/
def replay (messages : List (Nat × Message)) : Option State :=
  messages.foldlM
    (fun state message => (server.serve state message.2).map Prod.fst) initial

/-- The reply is the server's at the message's place. -/
def Answers (served : List (Nat × Message)) (number : Nat)
    (message : Message) (reply : Reply) : Prop :=
  ∃ before after state next,
    served = before ++ (number, message) :: after ∧
      replay server initial before = some state ∧
        server.serve state message = some (next, reply)

/-- What a call may stand at. -/
def Placed (world : World State Message Reply) (number : Nat)
    (message : Message) : Phase Reply → Prop
  | .sending | .cancelled => True
  | .waiting => world.worker.alive → (number, message) ∈ world.pending
  | .replied reply | .returned (.ok reply) =>
      Answers server initial world.served number message reply
  | .returned (.error _) => world.worker.alive = false
  | .recorded => world.worker.alive → (number, message) ∈ world.sent

/-- What the worker has come to after the messages that were served. -/
def Follows (served : List (Nat × Message)) : Worker State Message → Prop
  | .idle state | .serving state _ _ =>
      replay server initial served = some state
  | .died => True

/-- All is as if the messages were served one after another. -/
structure Linearized (world : World State Message Reply) : Prop where
  state : Follows server initial world.served world.worker
  order : world.worker.alive → world.sent = world.served ++ world.pending
  served : world.served <+: world.sent
  once : (world.sent.map Prod.fst).Nodup
  bounded : ∀ bound ∈ server.capacity, world.channel.length ≤ bound
  own : ∀ number message, (number, message) ∈ world.sent →
    ∃ call, world.calls[number]? = some call ∧ call.message = message ∧
      call.phase ≠ .sending
  calls : ∀ number call, world.calls[number]? = some call →
    Placed server initial world number call.message call.phase

end

variable {server : Server State Message Reply} {initial : State}
  {world next : World State Message Reply} {number : Nat} {message : Message}

theorem replay_concat {messages : List (Nat × Message)} {state : State}
    (reached : replay server initial messages = some state) :
    replay server initial (messages ++ [(number, message)]) =
      (server.serve state message).map Prod.fst := by
  rw [replay] at reached ⊢
  rw [List.foldlM_append, reached]
  simp

/-- A call stays where it is while the worker goes on. -/
theorem Placed.mono {phase : Phase Reply}
    (placed : Placed server initial world number message phase)
    (served : world.served <+: next.served)
    (sent : world.sent <+: next.sent)
    (alive : next.worker.alive → world.worker.alive)
    (pending : phase = .waiting → next.worker.alive →
      (number, message) ∈ world.pending → (number, message) ∈ next.pending) :
    Placed server initial next number message phase := by
  have answered : ∀ {reply},
      Answers server initial world.served number message reply →
        Answers server initial next.served number message reply := by
    rintro reply ⟨before, after, state, result, split, answers⟩
    obtain ⟨more, isMore⟩ := served
    refine ⟨before, after ++ more, state, result, ?_, answers⟩
    rw [← isMore, split, List.append_assoc, List.cons_append]
  cases phase with
  | sending | cancelled => trivial
  | waiting => exact fun living => pending rfl living (placed (alive living))
  | replied reply => exact answered placed
  | returned result =>
      cases result with
      | ok reply => exact answered placed
      | error text =>
          refine Bool.eq_false_iff.mpr fun living => ?_
          exact absurd (alive living) (Bool.eq_false_iff.mp placed)
  | recorded => exact fun living => sent.subset (placed (alive living))

theorem Phase.deliver_of_ne {phase : Phase Reply} {reply : Reply}
    (otherwise : phase ≠ .waiting) : phase.deliver reply = phase := by
  cases phase <;> first | rfl | exact absurd rfl otherwise

variable {become : Phase Reply → Phase Reply} {index : Nat}
  {call other : Call Message Reply}

theorem getElem?_change :
    (world.change number become).calls[index]? =
      (world.calls[index]?).map fun call =>
        if number = index then { call with phase := become call.phase }
        else call := by
  rw [World.change, List.getElem?_modify]
  rfl

/-- The calls of a world in which one call has moved on. -/
theorem change_calls
    (found : (world.change number become).calls[index]? = some other) :
    ∃ call, world.calls[index]? = some call ∧
      other.message = call.message ∧
        (number = index ∧ other.phase = become call.phase ∨
          number ≠ index ∧ other.phase = call.phase) := by
  rw [getElem?_change, Option.map_eq_some_iff] at found
  obtain ⟨call, here, rfl⟩ := found
  refine ⟨call, here, ?_⟩
  split_ifs with same
  · exact ⟨rfl, .inl ⟨same, rfl⟩⟩
  · exact ⟨rfl, .inr ⟨same, rfl⟩⟩

theorem own_change (become : Phase Reply → Phase Reply)
    (here : world.calls[index]? = some call)
    (moved : number = index → become call.phase ≠ .sending)
    (sent : number ≠ index → call.phase ≠ .sending) :
    ∃ other, (world.change number become).calls[index]? = some other ∧
      other.message = call.message ∧ other.phase ≠ .sending := by
  rw [getElem?_change, here]
  refine ⟨_, rfl, ?_⟩
  split_ifs with same
  · exact ⟨rfl, moved same⟩
  · exact ⟨rfl, sent same⟩

section

variable (holds : Linearized server initial world)

include holds

/-- The server goes on; what was pending still is, unless it died. -/
theorem Linearized.goOn {worker : Worker State Message}
    {channel : List (Nat × Message)}
    (state : Follows server initial world.served worker)
    (alive : worker.alive → world.worker.alive)
    (pending : worker.alive → world.pending = worker.inHand ++ channel)
    (shorter : channel.length ≤ world.channel.length) :
    Linearized server initial
      { world with worker := worker, channel := channel } := by
  refine ⟨state, fun living => ?_, holds.served, holds.once,
    fun bound isBound => Nat.le_trans shorter (holds.bounded bound isBound),
    holds.own, fun index call found => ?_⟩
  · exact (holds.order (alive living)).trans (congrArg _ (pending living))
  · refine (holds.calls index call found).mono (List.prefix_refl _)
      (List.prefix_refl _) alive fun _ living member => ?_
    rwa [pending living] at member

theorem Linearized.die : Linearized server initial world.die :=
  holds.goOn trivial Bool.noConfusion Bool.noConfusion (Nat.zero_le _)

theorem Linearized.setPhase {phase : Phase Reply}
    (here : world.calls[number]? = some call) (moved : phase ≠ .sending)
    (placed : Placed server initial world number call.message phase) :
    Linearized server initial (world.setPhase number phase) := by
  refine ⟨holds.state, holds.order, holds.served, holds.once, holds.bounded,
    fun index message sent => ?_, fun index other found => ?_⟩
  · obtain ⟨call, found, rfl, notSending⟩ := holds.own index message sent
    exact own_change _ found (fun _ => moved) fun _ => notSending
  · obtain ⟨old, isOld, isMessage, ⟨rfl, isPhase⟩ | ⟨-, isPhase⟩⟩ :=
      change_calls found <;> rw [isMessage, isPhase]
    · cases isOld.symm.trans here
      exact placed
    · exact holds.calls index old isOld

/-- A message goes to the end of the channel. -/
theorem Linearized.enqueue {phase : Phase Reply}
    (here : world.calls[number]? = some ⟨message, .sending⟩)
    (alive : world.worker.alive)
    (room : ∀ bound ∈ server.capacity, world.channel.length < bound)
    (sent : phase = .waiting ∨ phase = .recorded) :
    Linearized server initial
      (.setPhase
        { world with
          channel := world.channel ++ [(number, message)]
          sent := world.sent ++ [(number, message)] } number phase) := by
  have grown : world.pending ++ [(number, message)] =
      world.worker.inHand ++ (world.channel ++ [(number, message)]) :=
    List.append_assoc _ _ _
  have kept : ∀ entry ∈ world.pending ++ [(number, message)],
      entry ∈ world.worker.inHand ++ (world.channel ++ [(number, message)]) :=
    fun _ member => by rwa [grown] at member
  have moved : phase ≠ .sending := by
    rintro rfl
    simp at sent
  refine ⟨holds.state, fun _ => ?_, holds.served.trans (List.prefix_append _ _),
    ?_, fun bound isBound => ?_, fun index other sent => ?_,
    fun index other found => ?_⟩
  · exact (congrArg (· ++ [_]) (holds.order alive)).trans
      ((List.append_assoc _ _ _).trans (congrArg _ grown))
  · rw [World.setPhase, World.change, List.map_append, List.nodup_append]
    refine ⟨holds.once, List.pairwise_singleton _ _, ?_⟩
    rintro earlier sent new isNew rfl
    rw [List.map_singleton, List.mem_singleton] at isNew
    subst isNew
    obtain ⟨⟨_, other⟩, member, rfl⟩ := List.mem_map.mp sent
    obtain ⟨call, found, -, notSending⟩ := holds.own _ other member
    cases found.symm.trans here
    exact notSending rfl
  · exact Nat.le_trans (Nat.le_of_eq List.length_append) (room bound isBound)
  · rcases List.mem_append.mp sent with sent | isNew
    · obtain ⟨call, found, rfl, notSending⟩ := holds.own index other sent
      exact own_change _ found (fun _ => moved) fun _ => notSending
    · cases List.mem_singleton.mp isNew
      exact own_change (fun _ => phase) here (fun _ => moved) (absurd rfl)
  · obtain ⟨old, isOld, isMessage, ⟨rfl, isPhase⟩ | ⟨-, isPhase⟩⟩ :=
      change_calls found <;> rw [isMessage, isPhase]
    · cases isOld.symm.trans here
      rcases sent with rfl | rfl
      · exact fun _ => kept _ List.mem_concat_self
      · exact fun _ => List.mem_concat_self
    · exact (holds.calls index old isOld).mono (List.prefix_refl _)
        (List.prefix_append _ _) id
        fun _ _ member => kept _ (List.mem_append_left _ member)

theorem Linearized.send :
    Linearized server initial (world.send server number) := by
  rw [World.send]
  split
  case h_2 => exact holds
  case h_1 message here =>
    by_cases alive : world.worker.alive
    · rw [if_pos alive]
      by_cases room : ∀ bound ∈ server.capacity, world.channel.length < bound
      · rw [if_pos room]
        exact holds.enqueue here alive room (by split_ifs <;> simp)
      · rw [if_neg room]
        exact holds
    · rw [if_neg alive]
      refine holds.setPhase here (by split_ifs <;> simp) ?_
      split_ifs
      · exact Bool.eq_false_iff.mpr alive
      · exact fun living => absurd living alive

theorem Linearized.await :
    Linearized server initial (world.await number) := by
  rw [World.await]
  split
  case h_1 message here =>
    split_ifs with held
    · exact holds
    · refine holds.setPhase here (by simp) ?_
      refine Bool.eq_false_iff.mpr fun living => held ?_
      exact List.any_eq_true.mpr
        ⟨_, holds.calls number _ here living, beq_self_eq_true number⟩
  case h_2 message reply here =>
    exact holds.setPhase here (by simp) (holds.calls number _ here)
  case h_3 => exact holds

theorem Linearized.cancel :
    Linearized server initial (world.cancel number) := by
  rw [World.cancel]
  split
  case h_4 => exact holds
  all_goals
    rename_i here
    exact holds.setPhase here (by simp) trivial

/-- A message has been served, and its call has the reply if it waits. -/
theorem Linearized.reply {state result : State} {reply : Reply}
    (isWorker : world.worker = .serving state number message)
    (serves : server.serve state message = some (result, reply)) :
    Linearized server initial
      (.change
        { world with
          worker := .idle result
          served := world.served ++ [(number, message)] }
        number (.deliver reply)) := by
  have reached := holds.state
  have grown : world.sent =
      world.served ++ (number, message) :: world.channel := by
    have order := holds.order
    rw [World.pending, isWorker] at order
    exact order rfl
  rw [isWorker] at reached
  refine ⟨(replay_concat reached).trans (by rw [serves]; rfl), fun _ => ?_,
    ⟨world.channel, ?_⟩, holds.once, holds.bounded, fun index other sent => ?_,
    fun index other found => ?_⟩
  · exact grown.trans (List.append_cons _ _ _)
  · exact (List.append_assoc _ _ _).trans grown.symm
  · obtain ⟨call, found, rfl, notSending⟩ := holds.own index other sent
    refine own_change _ found (fun _ => ?_) fun _ => notSending
    cases isPhase : call.phase <;> simp_all [Phase.deliver]
  · obtain ⟨old, isOld, isMessage, isPhase⟩ := change_calls found
    rw [isMessage]
    by_cases waits : number = index ∧ old.phase = .waiting
    · obtain ⟨rfl, waits⟩ := waits
      obtain ⟨call, isCall, rfl, -⟩ := holds.own number message
        (grown ▸ List.mem_append_right _ List.mem_cons_self)
      cases isCall.symm.trans isOld
      rw [(isPhase.resolve_right fun apart => apart.1 rfl).2, waits]
      exact ⟨world.served, [], state, result, rfl, reached, serves⟩
    · have same : other.phase = old.phase := by
        rcases isPhase with ⟨here, isPhase⟩ | ⟨-, isPhase⟩
        · exact isPhase.trans
            (Phase.deliver_of_ne fun waiting => waits ⟨here, waiting⟩)
        · exact isPhase
      rw [same]
      refine (holds.calls index old isOld).mono (List.prefix_append _ _)
        (List.prefix_refl _) (fun _ => isWorker ▸ rfl)
        fun waiting _ member => ?_
      rw [World.pending, isWorker] at member
      refine (List.mem_cons.mp member).resolve_left fun first => ?_
      exact waits ⟨(Prod.mk.inj first).1.symm, waiting⟩

theorem Linearized.work :
    Linearized server initial (world.work server) := by
  have reached := holds.state
  rw [World.work]
  split
  case h_1 idle isWorker =>
    rw [isWorker] at reached
    split
    case h_1 => exact holds
    case h_2 number message rest isChannel =>
      refine holds.goOn reached (fun _ => isWorker ▸ rfl) (fun _ => ?_) ?_
      · rw [World.pending, isWorker, isChannel]
        rfl
      · rw [isChannel]
        exact Nat.le_succ _
  case h_2 isWorker =>
    split
    case h_1 serves => exact holds.reply isWorker serves
    case h_2 => exact holds.die
  case h_3 => exact holds

theorem Linearized.perform {step : Step Message} :
    Linearized server initial (perform server world step) := by
  cases step with
  | call message =>
      refine ⟨holds.state, holds.order, holds.served, holds.once,
        holds.bounded, fun index other sent => ?_,
        fun index call found => ?_⟩
      · obtain ⟨call, found, isCall⟩ := holds.own index other sent
        obtain ⟨inside, -⟩ := List.getElem?_eq_some_iff.mp found
        exact ⟨call, (List.getElem?_append_left inside).trans found, isCall⟩
      · rw [Mailbox.perform, List.getElem?_append] at found
        split at found
        · exact holds.calls index call found
        · cases List.mem_singleton.mp (List.mem_of_getElem? found)
          trivial
  | send number => exact holds.send
  | work => exact holds.work
  | await number => exact holds.await
  | cancel number => exact holds.cancel

end

theorem linearized_spawn :
    Linearized server initial (spawn initial : World State Message Reply) := by
  refine ⟨rfl, fun _ => rfl, List.prefix_refl _, List.nodup_nil,
    fun _ _ => Nat.zero_le _, fun _ _ => by simp [spawn],
    fun _ _ => by simp [spawn]⟩

/-- What was sent stays sent, and nothing is sent to a server that died. -/
def Extends (world next : World State Message Reply) : Prop :=
  world.sent <+: next.sent ∧
    (world.worker.alive = false →
      next.sent = world.sent ∧ next.worker.alive = false)

theorem extends_perform {step : Step Message} :
    Extends world (perform server world step) := by
  rw [Extends]
  cases step <;>
    grind [perform, World.send, World.await, World.cancel, World.work,
      World.die, World.change, Worker.alive]

theorem Extends.trans {last : World State Message Reply}
    (first : Extends world next) (second : Extends next last) :
    Extends world last := by
  refine ⟨first.1.trans second.1, fun died => ?_⟩
  obtain ⟨same, still⟩ := first.2 died
  exact ⟨(second.2 still).1.trans same, (second.2 still).2⟩

variable {steps : List (Step Message)}

theorem run_invariant {invariant : World State Message Reply → Prop}
    (kept : ∀ world step, invariant world →
      invariant (perform server world step))
    (holds : invariant world) :
    invariant (steps.foldl (perform server) world) := by
  have along : Along (perform server) (fun _ _ => True) world steps :=
    .of_forall fun _ _ => trivial
  exact along.invariant (fun world step holds _ => kept world step holds) holds

theorem linearized_run :
    Linearized server initial
      (steps.foldl (perform server) (spawn initial)) :=
  run_invariant (fun _ _ holds => holds.perform) linearized_spawn

theorem extends_run :
    Extends world (steps.foldl (perform server) world) :=
  run_invariant (fun _ _ extended => extended.trans extends_perform)
    ⟨List.prefix_refl _, fun died => ⟨rfl, died⟩⟩

/-- A call that has come back without being cancelled. -/
def Phase.over : Phase Reply → Bool
  | .returned _ | .recorded => true
  | _ => false

/-- A call that came back before another was made is served before it. -/
theorem served_in_real_time {earlier later : List (Step Message)}
    {first second : Nat} {before after : List (Nat × Message)}
    (here :
      (earlier.foldl (perform server) (spawn initial)).calls[first]? =
        some call)
    (past : call.phase.over)
    (new :
      (earlier.foldl (perform server) (spawn initial)).calls.length ≤ second)
    (split :
      ((earlier ++ later).foldl (perform server) (spawn initial)).served =
        before ++ (second, message) :: after) :
    (first, call.message) ∈ before := by
  have holds : Linearized server initial
      (earlier.foldl (perform server) (spawn initial)) := linearized_run
  have atEnd : Linearized server initial
      ((earlier ++ later).foldl (perform server) (spawn initial)) :=
    linearized_run
  rw [List.foldl_append] at split atEnd
  have extended : Extends (earlier.foldl (perform server) (spawn initial))
      (later.foldl (perform server)
        (earlier.foldl (perform server) (spawn initial))) := extends_run
  generalize earlier.foldl (perform server) (spawn initial) = world at *
  generalize later.foldl (perform server) world = last at *
  have unsent : (second, message) ∉ world.sent := by
    intro sent
    obtain ⟨call, found, -⟩ := holds.own second message sent
    obtain ⟨inside, -⟩ := List.getElem?_eq_some_iff.mp found
    omega
  have prefixed : before ++ [(second, message)] <+: last.sent := by
    refine .trans ⟨after, ?_⟩ atEnd.served
    rw [split, List.append_assoc, List.singleton_append]
  have isSent := prefixed.subset List.mem_concat_self
  have alive : world.worker.alive := by
    by_contra died
    have same := (extended.2 (Bool.eq_false_iff.mpr died)).1
    exact unsent (same ▸ isSent)
  have sent : (first, call.message) ∈ world.sent := by
    have placed := holds.calls first call here
    cases phase : call.phase with
    | returned result =>
        rw [phase] at placed
        cases result with
        | ok reply =>
            obtain ⟨_, _, _, _, isServed, -⟩ := placed
            exact holds.served.subset (isServed ▸ by simp)
        | error text => exact absurd alive (Bool.eq_false_iff.mp placed)
    | recorded => exact (phase ▸ placed) alive
    | _ => rw [phase] at past; cases past
  -- What had been sent is a part of what was served before.
  rcases List.prefix_or_prefix_of_prefix extended.1 prefixed with
    short | long
  · rcases List.prefix_concat_iff.mp short with all | short
    · exact absurd (all ▸ List.mem_concat_self) unsent
    · exact short.subset sent
  · exact absurd (long.subset List.mem_concat_self) unsent

end OpenSnow.Foundation.Mailbox
