import Mathlib.Tactic.Common

/-!
# Computations that fail half-way

A computation on a state returns a value or a failure, and in both cases the
state that it leaves behind: what it did before it failed is not undone.  A
triple says what holds after a success and what holds after a failure.
-/

namespace OpenSnow.Foundation

theorem except_bind_ok {Failure Value Other : Type}
    {first : Except Failure Value} {next : Value → Except Failure Other}
    {result : Other} (ok : (first >>= next) = .ok result) :
    ∃ value, first = .ok value ∧ next value = .ok result := by
  cases first with
  | error failure => cases ok
  | ok value => exact ⟨value, rfl, ok⟩

/-- Where every success has one possible value, so has the whole list. -/
theorem eq_map_of_mapM {Failure Item Value : Type}
    {perform : Item → Except Failure Value} {result : Item → Value}
    (value_eq : ∀ item value, perform item = .ok value → value = result item)
    {items : List Item} {values : List Value}
    (ok : items.mapM perform = .ok values) : values = items.map result := by
  induction items generalizing values with
  | nil =>
      cases ok
      rfl
  | cons item items ih =>
      rw [List.mapM_cons] at ok
      rcases except_bind_ok ok with ⟨first, isFirst, later⟩
      rcases except_bind_ok later with ⟨others, areOthers, rest⟩
      cases rest
      rw [List.map_cons, value_eq item first isFirst, ih areOthers]

/-- A computation on a state that can fail. -/
def Effect (State Failure Value : Type) : Type :=
  State → Except Failure Value × State

namespace Effect

variable {State Failure Value Other : Type}

/-- Go on with the value, if there is one. -/
def andThen (first : Effect State Failure Value)
    (next : Value → Effect State Failure Other) :
    Effect State Failure Other := fun state =>
  match first state with
  | (.ok value, after) => next value after
  | (.error failure, after) => (.error failure, after)

instance : Monad (Effect State Failure) where
  pure value := fun state => (.ok value, state)
  bind := andThen

/-- Stop without a change of the state. -/
def fail (failure : Failure) : Effect State Failure Value := fun state =>
  (.error failure, state)

def modify (change : State → State) : Effect State Failure Unit :=
  fun state => (.ok (), change state)

/-- A result that depends on the state and does not change it. -/
def look (result : State → Except Failure Value) :
    Effect State Failure Value := fun state => (result state, state)

/-- Report a failure in another way. -/
def mapFailure {Reported : Type} (report : Failure → Reported)
    (action : Effect State Failure Value) : Effect State Reported Value :=
  fun state =>
    match action state with
    | (.ok value, after) => (.ok value, after)
    | (.error failure, after) => (.error (report failure), after)

@[simp]
theorem pure_apply (value : Value) (state : State) :
    (pure value : Effect State Failure Value) state = (.ok value, state) :=
  rfl

@[simp]
theorem fail_apply (failure : Failure) (state : State) :
    (fail failure : Effect State Failure Value) state =
      (.error failure, state) :=
  rfl

@[simp]
theorem modify_apply (change : State → State) (state : State) :
    (modify change : Effect State Failure Unit) state =
      (.ok (), change state) :=
  rfl

variable (result : State → Except Failure Value)

@[simp]
theorem look_apply (state : State) :
    look result state = (result state, state) :=
  rfl

variable {first : Effect State Failure Value}
  {next : Value → Effect State Failure Other} {value : Value}

theorem bind_ok {before after : State}
    (succeeded : first before = (.ok value, after)) :
    (first >>= next) before = next value after := by
  change andThen first next before = _
  rw [andThen, succeeded]

variable {failure : Failure}

theorem bind_error {before after : State}
    (failed : first before = (.error failure, after)) :
    (first >>= next) before = (.error failure, after) := by
  change andThen first next before = _
  rw [andThen, failed]

theorem pure_bind (value : Value) (next : Value → Effect State Failure Other) :
    (pure value >>= next) = next value :=
  rfl

theorem bind_assoc {Last : Type} (first : Effect State Failure Value)
    (next : Value → Effect State Failure Other)
    (last : Other → Effect State Failure Last) :
    (first >>= next >>= last) = (first >>= fun value => next value >>= last) := by
  funext before
  cases ran : first before with
  | mk outcome after =>
      cases outcome with
      | ok value =>
          rw [bind_ok ran]
          change andThen (first >>= next) last before = _
          rw [andThen, bind_ok ran]
          rfl
      | error failure =>
          rw [bind_error ran, bind_error (bind_error ran)]

/-- A sequence of steps that succeeds is a sequence of successes. -/
theorem of_bind_ok {before after : State} {result : Other}
    (ok : (first >>= next) before = (.ok result, after)) :
    ∃ value middle, first before = (.ok value, middle) ∧
      next value middle = (.ok result, after) := by
  cases ran : first before with
  | mk outcome middle =>
      cases outcome with
      | ok value =>
          rw [bind_ok ran] at ok
          exact ⟨value, middle, rfl, ok⟩
      | error failure =>
          rw [bind_error ran] at ok
          cases ok

variable {result : State → Except Failure Value}

theorem of_look_ok {before after : State}
    (ok : look result before = (.ok value, after)) :
    result before = .ok value ∧ after = before := by
  rw [look_apply, Prod.mk.injEq] at ok
  exact ⟨ok.1, ok.2.symm⟩

/-- Go on after a look at the state. -/
theorem look_bind (next : Value → Effect State Failure Other) (state : State) :
    (look result >>= next) state =
      match result state with
      | .ok value => next value state
      | .error failure => (.error failure, state) := by
  cases found : result state with
  | ok value => exact bind_ok (by rw [look_apply, found])
  | error failure => exact bind_error (by rw [look_apply, found])

/-! ## Triples -/

/--
From a state that satisfies `pre`, a success satisfies `post` and a failure
leaves a state that satisfies `abort`.
-/
def Triple (pre : State → Prop) (action : Effect State Failure Value)
    (post : Value → State → Prop) (abort : Failure → State → Prop) : Prop :=
  ∀ before, pre before →
    match action before with
    | (.ok value, after) => post value after
    | (.error failure, after) => abort failure after

/-- The computation keeps an invariant, whether it fails or not. -/
def Keeps (invariant : State → Prop) (action : Effect State Failure Value) :
    Prop :=
  Triple invariant action (fun _ => invariant) (fun _ => invariant)

variable {pre middle invariant : State → Prop}
  {first : Effect State Failure Value}
  {next : Value → Effect State Failure Other}
  {post : Value → State → Prop} {final : Other → State → Prop}
  {abort : Failure → State → Prop}

theorem Triple.pure (holds : ∀ state, pre state → post value state) :
    Triple pre (pure value : Effect State Failure Value) post abort :=
  fun before start => holds before start

theorem Triple.fail (holds : ∀ state, pre state → abort failure state) :
    Triple pre (fail failure : Effect State Failure Value) post abort :=
  fun before start => holds before start

theorem Triple.bind (front : Triple pre first post abort)
    (back : ∀ value, Triple (post value) (next value) final abort) :
    Triple pre (first >>= next) final abort := by
  intro before start
  have reached := front before start
  cases outcome : first before with
  | mk result after =>
      rw [outcome] at reached
      cases result with
      | ok value =>
          rw [bind_ok outcome]
          exact back value after reached
      | error failure =>
          rw [bind_error outcome]
          exact reached

theorem Triple.stop (front : Triple pre first (fun _ _ => False) abort) :
    Triple pre (first >>= next) (fun _ _ => False) abort :=
  Triple.bind front fun _ _ impossible => impossible.elim

/-- How a failure is reported does not matter to the state. -/
theorem Triple.mapFailure {Reported : Type} {report : Failure → Reported}
    {left : State → Prop}
    (triple : Triple pre first post fun _ => left) :
    Triple pre (first.mapFailure report) post fun _ => left := by
  intro before start
  have reached := triple before start
  unfold Effect.mapFailure
  cases outcome : first before with
  | mk result after =>
      rw [outcome] at reached
      cases result with
      | ok value => exact reached
      | error failure => exact reached

theorem Triple.of_ok {before after : State}
    (triple : Triple pre first post abort) (start : pre before)
    (succeeded : first before = (.ok value, after)) : post value after := by
  have reached := triple before start
  rw [succeeded] at reached
  exact reached

theorem Triple.fails {before after : State}
    (triple : Triple pre first (fun _ _ => False) abort) (start : pre before) :
    first before ≠ (.ok value, after) :=
  fun succeeded => triple.of_ok start succeeded

theorem Keeps.bind (front : Keeps invariant first)
    (back : ∀ value, Keeps invariant (next value)) :
    Keeps invariant (first >>= next) :=
  Triple.bind front back

theorem Keeps.pure :
    Keeps invariant (Pure.pure value : Effect State Failure Value) :=
  Triple.pure fun _ holds => holds

theorem Keeps.fail :
    Keeps invariant (fail failure : Effect State Failure Value) :=
  Triple.fail fun _ holds => holds

theorem Keeps.look :
    Keeps invariant (look result) := by
  intro before holds
  rw [look_apply]
  cases result before with
  | ok value => exact holds
  | error failure => exact holds

theorem Keeps.modify {change : State → State}
    (kept : ∀ state, invariant state → invariant (change state)) :
    Keeps invariant (modify change : Effect State Failure Unit) :=
  fun before holds => kept before holds

theorem Keeps.after {state : State} (keeps : Keeps invariant first)
    (holds : invariant state) : invariant (first state).2 := by
  have reached := keeps state holds
  cases outcome : first state with
  | mk result after =>
      rw [outcome] at reached
      cases result with
      | ok value => exact reached
      | error failure => exact reached

theorem Keeps.of_after
    (kept : ∀ state, invariant state → invariant (first state).2) :
    Keeps invariant first := by
  intro before holds
  have reached := kept before holds
  cases outcome : first before with
  | mk result after =>
      rw [outcome] at reached
      cases result with
      | ok value => exact reached
      | error failure => exact reached

end Effect

/-!
## Two computations in step

Two computations run on two states.  They go in step if from states that are
related they both succeed with related values or both fail with one failure,
and leave related states.
-/

/-- Both succeed with related values, or both fail with one failure. -/
inductive SameOutcome {Failure Value Other : Type}
    (same : Value → Other → Prop) :
    Except Failure Value → Except Failure Other → Prop where
  | ok {value : Value} {other : Other} :
      same value other → SameOutcome same (.ok value) (.ok other)
  | error (failure : Failure) :
      SameOutcome same (.error failure) (.error failure)

section

variable {Failure Value Other : Type} {same same' : Value → Other → Prop}

theorem SameOutcome.mono {first : Except Failure Value}
    {second : Except Failure Other} (outcome : SameOutcome same first second)
    (weaker : ∀ value other, same value other → same' value other) :
    SameOutcome same' first second := by
  cases outcome with
  | ok related => exact .ok (weaker _ _ related)
  | error failure => exact .error failure

theorem sameOutcome_of_eq {first second : Except Failure Value}
    (equal : first = second) : SameOutcome (· = ·) first second := by
  cases equal
  cases first with
  | ok value => exact .ok rfl
  | error failure => exact .error failure

end

variable {First Second Failure : Type}

/-- From related states, related outcomes and related states. -/
def Lockstep {Value Other : Type} (pre : First → Second → Prop)
    (first : Effect First Failure Value)
    (second : Effect Second Failure Other)
    (same : Value → Other → Prop) (post : First → Second → Prop) : Prop :=
  ∀ before before', pre before before' →
    SameOutcome same (first before).1 (second before').1 ∧
      post (first before).2 (second before').2

namespace Lockstep

variable {Value Other Next Next' : Type}
variable {pre mid post : First → Second → Prop}
variable {first : Effect First Failure Value}
variable {second : Effect Second Failure Other}
variable {same : Value → Other → Prop} {same' : Next → Next' → Prop}

theorem pure {value : Value} {other : Other} (related : same value other)
    (kept : ∀ before before', pre before before' → post before before') :
    Lockstep pre (Pure.pure value : Effect First Failure Value)
      (Pure.pure other : Effect Second Failure Other) same post :=
  fun before before' holds => ⟨.ok related, kept before before' holds⟩

theorem fail (failure : Failure)
    (kept : ∀ before before', pre before before' → post before before') :
    Lockstep pre (Effect.fail failure : Effect First Failure Value)
      (Effect.fail failure : Effect Second Failure Other) same post :=
  fun before before' holds => ⟨.error failure, kept before before' holds⟩

theorem look {result : First → Except Failure Value}
    {result' : Second → Except Failure Other}
    (outcome : ∀ before before', pre before before' →
      SameOutcome same (result before) (result' before'))
    (kept : ∀ before before', pre before before' → post before before') :
    Lockstep pre (Effect.look result) (Effect.look result') same post :=
  fun before before' holds =>
    ⟨outcome before before' holds, kept before before' holds⟩

theorem modify {change : First → First} {change' : Second → Second}
    (kept : ∀ before before', pre before before' →
      post (change before) (change' before')) :
    Lockstep pre (Effect.modify change : Effect First Failure Unit)
      (Effect.modify change' : Effect Second Failure Unit) (· = ·) post :=
  fun before before' holds => ⟨.ok rfl, kept before before' holds⟩

/-- One after the other, where a failure of the first is the end. -/
theorem bind {next : Value → Effect First Failure Next}
    {next' : Other → Effect Second Failure Next'}
    (front : Lockstep pre first second same mid)
    (back : ∀ value other, same value other →
      Lockstep mid (next value) (next' other) same' post)
    (stopped : ∀ before before', mid before before' → post before before') :
    Lockstep pre (first >>= next) (second >>= next') same' post := by
  intro before before' holds
  obtain ⟨outcome, related⟩ := front before before' holds
  cases ran : first before with
  | mk result after =>
      cases ran' : second before' with
      | mk result' after' =>
          rw [ran, ran'] at outcome related
          cases outcome with
          | ok values =>
              rw [Effect.bind_ok ran, Effect.bind_ok ran']
              exact back _ _ values after after' related
          | error failure =>
              rw [Effect.bind_error ran, Effect.bind_error ran']
              exact ⟨.error failure, stopped after after' related⟩

theorem consequence {stronger weaker : First → Second → Prop}
    {looser : Value → Other → Prop}
    (steps : Lockstep pre first second same post)
    (before : ∀ state state', stronger state state' → pre state state')
    (values : ∀ value other, same value other → looser value other)
    (after : ∀ state state', post state state' → weaker state state') :
    Lockstep stronger first second looser weaker :=
  fun state state' holds =>
    have both := steps state state' (before state state' holds)
    ⟨both.1.mono values, after _ _ both.2⟩

end Lockstep

end OpenSnow.Foundation
