import OpenSnow.Foundation.Runs

/-!
# Gauges of running queries

A query over REST or the wire protocol raises two gauges, waits for the engine
and lowers them again.  Each operation on a gauge is a step of its own, and the
steps of all queries interleave.  While it waits, the future of a query can be
dropped: its client disconnects, or the engine panics.
-/

namespace OpenSnow.Server.QueryGauges

open Foundation

/-! ## Gauges -/

structure Gauges where
  activeQueries : Int
  warehousePending : String → Int

namespace Gauges

def incActiveQueries (gauges : Gauges) : Gauges :=
  { gauges with activeQueries := gauges.activeQueries + 1 }

def decActiveQueries (gauges : Gauges) : Gauges :=
  { gauges with activeQueries := gauges.activeQueries - 1 }

def incWarehousePending (warehouse : String) (gauges : Gauges) : Gauges :=
  { gauges with
    warehousePending := fun label =>
      if label = warehouse then gauges.warehousePending label + 1
      else gauges.warehousePending label }

def decWarehousePending (warehouse : String) (gauges : Gauges) : Gauges :=
  { gauges with
    warehousePending := fun label =>
      if label = warehouse then gauges.warehousePending label - 1
      else gauges.warehousePending label }

end Gauges

/-! ## Queries -/

/-- Where a query stands. -/
inductive Phase where
  /-- The checks in front of the gauges have let it through. -/
  | admitted
  | active
  /-- Both gauges are raised and the engine is waited for. -/
  | awaiting
  | answered
  | released
  | ended
  /-- Its future was dropped where it was waiting. -/
  | dropped
deriving DecidableEq, Repr

inductive Surface where
  | rest
  | pgwire
deriving DecidableEq, Repr

structure Query where
  surface : Surface
  warehouse : String
  phase : Phase
deriving DecidableEq, Repr

/-- A query of `execute_query`, by the warehouse that the request names. -/
def restQuery (warehouse : Option String) : Query :=
  ⟨.rest, warehouse.getD "default", .admitted⟩

/-- A query of `do_query`. -/
def pgwireQuery : Query := ⟨.pgwire, "default", .admitted⟩

/-- How the wait for the engine ends. -/
inductive Outcome where
  | finished
  | failed
  /-- Only REST sets a limit. -/
  | timedOut
deriving DecidableEq, Repr

structure State where
  gauges : Gauges
  queries : List Query

def start : State := ⟨⟨0, fun _ => 0⟩, []⟩

inductive Step where
  | rest (warehouse : Option String)
  | pgwire
  | incActiveQueries (index : Nat)
  | incWarehousePending (index : Nat)
  | answer (index : Nat) (outcome : Outcome)
  | drop (index : Nat)
  | decWarehousePending (index : Nat)
  | decActiveQueries (index : Nat)
deriving DecidableEq, Repr

/-- Take a query from one phase to another, if it is in this phase. -/
def State.move (state : State) (index : Nat) (source target : Phase)
    (change : Query → Gauges → Gauges) : State :=
  match state.queries[index]? with
  | some query =>
      if query.phase = source then
        ⟨change query state.gauges,
          state.queries.set index { query with phase := target }⟩
      else state
  | none => state

/-- A wait of the wire protocol does not time out. -/
def Outcome.possible (outcome : Outcome) (state : State) (index : Nat) : Bool :=
  outcome != .timedOut ||
    state.queries[index]?.any fun query => query.surface == .rest

def perform (state : State) : Step → State
  | .rest warehouse =>
      { state with queries := state.queries ++ [restQuery warehouse] }
  | .pgwire => { state with queries := state.queries ++ [pgwireQuery] }
  | .incActiveQueries index =>
      state.move index .admitted .active fun _ => Gauges.incActiveQueries
  | .incWarehousePending index =>
      state.move index .active .awaiting fun query =>
        Gauges.incWarehousePending query.warehouse
  | .answer index outcome =>
      if outcome.possible state index then
        state.move index .awaiting .answered fun _ => id
      else state
  | .drop index => state.move index .awaiting .dropped fun _ => id
  | .decWarehousePending index =>
      state.move index .answered .released fun query =>
        Gauges.decWarehousePending query.warehouse
  | .decActiveQueries index =>
      state.move index .released .ended fun _ => Gauges.decActiveQueries

/-! ## What the gauges are to show -/

/-- Between the two operations on the gauge of active queries. -/
def Phase.inFlight : Phase → Bool
  | .active | .awaiting | .answered | .released => true
  | _ => false

/-- Between the two operations on the gauge of a warehouse. -/
def Phase.pending : Phase → Bool
  | .awaiting | .answered => true
  | _ => false

/-- The gauges are the numbers of queries in flight. -/
structure CountsInFlight (state : State) : Prop where
  activeQueries : state.gauges.activeQueries =
    state.queries.countP fun query => query.phase.inFlight
  warehousePending : ∀ warehouse, state.gauges.warehousePending warehouse =
    state.queries.countP fun query =>
      query.warehouse = warehouse && query.phase.pending
  idle : (∀ query ∈ state.queries, query.phase.inFlight = false) →
    state.gauges.activeQueries = 0 ∧
      ∀ warehouse, state.gauges.warehousePending warehouse = 0

/-- The step drops a query that waits for the engine. -/
def Drops (state : State) : Step → Prop
  | .drop index =>
      ∃ query, state.queries[index]? = some query ∧ query.phase = .awaiting
  | _ => False

/-! ## What the gauges show -/

/-- A dropped query is never taken off the gauges. -/
def Phase.countsActive (phase : Phase) : Bool :=
  phase.inFlight || phase == .dropped

def Phase.countsPending (phase : Phase) : Bool :=
  phase.pending || phase == .dropped

/-- The gauges are the numbers of queries in flight and of those dropped. -/
structure Balanced (state : State) : Prop where
  activeQueries : state.gauges.activeQueries =
    state.queries.countP fun query => query.phase.countsActive
  warehousePending : ∀ warehouse, state.gauges.warehousePending warehouse =
    state.queries.countP fun query =>
      query.warehouse = warehouse && query.phase.countsPending

variable {state : State}

/-- A move that changes the gauges as it changes the counts. -/
theorem Balanced.move (balanced : Balanced state)
    {index : Nat} {source target : Phase} {change : Query → Gauges → Gauges}
    (active : ∀ query gauges, (change query gauges).activeQueries +
        (if source.countsActive then 1 else 0) =
      gauges.activeQueries + (if target.countsActive then 1 else 0))
    (pending : ∀ query gauges, ∀ warehouse,
      (change query gauges).warehousePending warehouse +
          (if query.warehouse = warehouse ∧ source.countsPending then 1
            else 0) =
        gauges.warehousePending warehouse +
          (if query.warehouse = warehouse ∧ target.countsPending then 1
            else 0)) :
    Balanced (state.move index source target change) := by
  rw [State.move]
  cases here : state.queries[index]? with
  | none => exact balanced
  | some query =>
      dsimp only
      split_ifs with isSource
      · subst isSource
        constructor
        · have counted := countP_set_of_getElem? here
            (fun query => query.phase.countsActive)
            { query with phase := target }
          have changed := active query state.gauges
          have before := balanced.activeQueries
          dsimp only at counted ⊢
          split_ifs at counted changed <;> omega
        · intro warehouse
          have counted := countP_set_of_getElem? here
            (fun query =>
              query.warehouse = warehouse && query.phase.countsPending)
            { query with phase := target }
          have changed := pending query state.gauges warehouse
          have before := balanced.warehousePending warehouse
          simp only [Bool.and_eq_true, decide_eq_true_eq] at counted ⊢
          split_ifs at counted changed <;> omega
      · exact balanced

theorem Balanced.arrive {state : State} (balanced : Balanced state)
    {query : Query} (admitted : query.phase = .admitted) :
    Balanced { state with queries := state.queries ++ [query] } := by
  constructor
  · rw [List.countP_append, List.countP_singleton, admitted]
    exact balanced.activeQueries
  · intro warehouse
    rw [List.countP_append, List.countP_singleton, admitted,
      Phase.countsPending, if_neg (by simp [Phase.pending])]
    exact balanced.warehousePending warehouse

theorem balanced_start : Balanced start :=
  ⟨rfl, fun _ => rfl⟩

theorem Balanced.perform (balanced : Balanced state)
    (step : Step) : Balanced (perform state step) := by
  cases step with
  | rest warehouse => exact balanced.arrive rfl
  | pgwire => exact balanced.arrive rfl
  | incActiveQueries index =>
      refine balanced.move (fun _ gauges => ?_) fun _ _ _ => ?_
      · simp [Phase.countsActive, Phase.inFlight, Gauges.incActiveQueries]
      · simp [Phase.countsPending, Phase.pending, Gauges.incActiveQueries]
  | incWarehousePending index =>
      refine balanced.move (fun _ _ => rfl) fun query gauges warehouse => ?_
      simp only [Gauges.incWarehousePending]
      split_ifs <;> simp_all [Phase.countsPending, Phase.pending]
  | answer index outcome =>
      rw [QueryGauges.perform]
      split_ifs
      · exact balanced.move (fun _ _ => rfl) fun _ _ _ => rfl
      · exact balanced
  | drop index => exact balanced.move (fun _ _ => rfl) fun _ _ _ => rfl
  | decWarehousePending index =>
      refine balanced.move (fun _ _ => rfl) fun query gauges warehouse => ?_
      simp only [Gauges.decWarehousePending]
      split_ifs <;> simp_all [Phase.countsPending, Phase.pending]
  | decActiveQueries index =>
      refine balanced.move (fun _ gauges => ?_) fun _ _ _ => ?_
      · simp [Phase.countsActive, Phase.inFlight, Gauges.decActiveQueries]
      · simp [Phase.countsPending, Phase.pending, Gauges.decActiveQueries]

theorem balanced_run (steps : List Step) :
    Balanced (steps.foldl perform start) := by
  have along : Along perform (fun _ _ => True) start steps :=
    .of_forall fun _ _ => trivial
  exact along.invariant (fun _ step balanced _ => balanced.perform step)
    balanced_start

/-! ## Dropped queries -/

def NoneDropped (state : State) : Prop :=
  ∀ query ∈ state.queries, query.phase ≠ .dropped

/-- A count that is not smaller has nothing more to count. -/
theorem countP_eq_countP_iff {Element : Type} {p q : Element → Bool}
    (stronger : ∀ element, q element → p element) {list : List Element} :
    list.countP p = list.countP q ↔
      ∀ element ∈ list, p element → q element := by
  induction list with
  | nil => simp
  | cons first rest ih =>
      have fewer : rest.countP q ≤ rest.countP p :=
        List.countP_mono_left fun element _ => stronger element
      rw [List.forall_mem_cons, ← ih, List.countP_cons, List.countP_cons]
      by_cases holds : q first
      · simp [holds, stronger first holds]
      · by_cases weaker : p first
        · simp only [holds, weaker, if_true, Bool.false_eq_true, if_false]
          constructor
          · intro same
            omega
          · rintro ⟨impossible, -⟩
            exact absurd (impossible trivial) (by simp)
        · simp [holds, weaker]

theorem Phase.counts_iff {phase : Phase} :
    (phase.countsActive → phase.inFlight) ↔ phase ≠ .dropped := by
  cases phase <;> decide

theorem Phase.countsPending_of_ne {phase : Phase} (kept : phase ≠ .dropped) :
    phase.countsPending = phase.pending := by
  cases phase <;> first | rfl | exact absurd rfl kept

/-- Balanced gauges count what is in flight if nothing was dropped. -/
theorem Balanced.countsInFlight_iff (balanced : Balanced state) :
    CountsInFlight state ↔ NoneDropped state := by
  have active : (state.queries.countP fun query => query.phase.countsActive) =
      (state.queries.countP fun query => query.phase.inFlight) ↔
        NoneDropped state := by
    refine (countP_eq_countP_iff ?_).trans
      (forall₂_congr fun query _ => Phase.counts_iff)
    intro query inFlight
    rw [Phase.countsActive, inFlight, Bool.true_or]
  constructor
  · intro counts
    have same := balanced.activeQueries.symm.trans counts.activeQueries
    exact active.mp (Int.ofNat_inj.mp same)
  · intro none
    have isActive := balanced.activeQueries
    rw [active.mpr none] at isActive
    have isPending : ∀ warehouse, state.gauges.warehousePending warehouse =
        state.queries.countP fun query =>
          query.warehouse = warehouse && query.phase.pending := by
      intro warehouse
      rw [balanced.warehousePending, List.countP_congr]
      intro query member
      rw [Phase.countsPending_of_ne (none query member)]
    refine ⟨isActive, isPending, fun idle => ⟨?_, fun warehouse => ?_⟩⟩
    · rw [isActive, List.countP_eq_zero.mpr]
      · rfl
      · intro query member
        rw [idle query member]
        exact Bool.false_ne_true
    · rw [isPending, List.countP_eq_zero.mpr]
      · rfl
      · intro query member
        have notInFlight := idle query member
        cases isPhase : query.phase <;> simp_all [Phase.inFlight, Phase.pending]

/-! ## Runs -/

theorem noneDropped_iff :
    NoneDropped state ↔
      (state.queries.countP fun query => query.phase == .dropped) = 0 := by
  rw [List.countP_eq_zero]
  refine forall₂_congr fun query _ => ?_
  rw [beq_iff_eq]

theorem noneDropped_move_iff {index : Nat}
    {source target : Phase} {change : Query → Gauges → Gauges}
    (kept : source ≠ .dropped) :
    NoneDropped (state.move index source target change) ↔
      NoneDropped state ∧
        (target = .dropped → ¬ ∃ query,
          state.queries[index]? = some query ∧ query.phase = source) := by
  rw [State.move]
  cases here : state.queries[index]? with
  | none => simp
  | some query =>
      dsimp only
      split_ifs with isSource
      · have counted := countP_set_of_getElem? here
          (fun query => query.phase == .dropped)
          { query with phase := target }
        rw [isSource, beq_false_of_ne kept, if_neg Bool.false_ne_true,
          Nat.add_zero] at counted
        rw [noneDropped_iff, noneDropped_iff, counted]
        by_cases isDropped : target = .dropped
        · simp [isDropped, isSource]
        · simp [isDropped]
      · simp [isSource]

theorem noneDropped_perform_iff {step : Step} :
    NoneDropped (perform state step) ↔
      NoneDropped state ∧ ¬ Drops state step := by
  have arrive : ∀ query : Query, query.phase = .admitted →
      (NoneDropped { state with queries := state.queries ++ [query] } ↔
        NoneDropped state) := by
    intro query admitted
    simp [NoneDropped, or_imp, forall_and, admitted]
  have kept : ∀ {index source target change}, source ≠ .dropped →
      target ≠ .dropped →
        (NoneDropped (state.move index source target change) ↔
          NoneDropped state) := by
    intro index source target change isSource isTarget
    rw [noneDropped_move_iff isSource]
    exact and_iff_left fun isDropped => absurd isDropped isTarget
  cases step with
  | rest warehouse =>
      exact (arrive _ rfl).trans (and_iff_left id).symm
  | pgwire => exact (arrive _ rfl).trans (and_iff_left id).symm
  | incActiveQueries index | incWarehousePending index
  | decWarehousePending index | decActiveQueries index =>
      exact (kept (by decide) (by decide)).trans (and_iff_left id).symm
  | answer index outcome =>
      rw [perform]
      split_ifs
      · exact (kept (by decide) (by decide)).trans (and_iff_left id).symm
      · exact (and_iff_left id).symm
  | drop index =>
      rw [perform, noneDropped_move_iff (by decide)]
      exact and_congr_right fun _ => ⟨fun spared => spared rfl,
        fun spared _ => spared⟩

theorem noneDropped_run_iff {steps : List Step} :
    ∀ {state : State}, NoneDropped (steps.foldl perform state) ↔
      NoneDropped state ∧
        Along perform (fun state step => ¬ Drops state step) state steps := by
  induction steps with
  | nil => exact (and_iff_left trivial).symm
  | cons step rest ih =>
      intro state
      rw [List.foldl_cons, ih, noneDropped_perform_iff, Along, and_assoc]

/--
In every state of a run the gauges count the queries in flight exactly when no
step of the run drops a query that waits for the engine.
-/
theorem countsInFlight_throughout_iff (steps : List Step) :
    (∀ before after, steps = before ++ after →
      CountsInFlight (before.foldl perform start)) ↔
      Along perform (fun state step => ¬ Drops state step) start steps := by
  have noneAtStart : NoneDropped start := fun _ member =>
    absurd member List.not_mem_nil
  constructor
  · intro counts
    have atEnd := counts steps [] (List.append_nil steps).symm
    exact (noneDropped_run_iff.mp
      ((balanced_run steps).countsInFlight_iff.mp atEnd)).2
  · rintro along before after rfl
    rw [along_append] at along
    exact (balanced_run before).countsInFlight_iff.mpr
      (noneDropped_run_iff.mpr ⟨noneAtStart, along.1⟩)

/-- A REST query whose client disconnects while it waits. -/
def disconnected : List Step :=
  [.rest none, .incActiveQueries 0, .incWarehousePending 0, .drop 0]

/-- Its gauges stay raised, although nothing is in flight. -/
theorem disconnected_counted :
    ¬ ∀ before after, disconnected = before ++ after →
      CountsInFlight (before.foldl perform start) := by
  intro counts
  have idle := (counts disconnected [] rfl).idle (by decide)
  exact absurd idle.1 (by decide)

end OpenSnow.Server.QueryGauges
