import Mathlib.Data.List.Basic
import Mathlib.Tactic.Common

/-!
# Runs of a system

A system takes steps, and a run is a list of them.  What every step of a run
meets is stated of the step and of the state before it, and what every event
of a history meets of the event and of those before it.
-/

namespace OpenSnow.Foundation

variable {State Step : Type}

/-- Every step of the run meets a condition, in the state before it. -/
def Along (perform : State → Step → State) (meets : State → Step → Prop) :
    State → List Step → Prop
  | _, [] => True
  | state, step :: rest =>
      meets state step ∧ Along perform meets (perform state step) rest

section

variable {perform : State → Step → State} {meets : State → Step → Prop}

theorem Along.of_forall (always : ∀ state step, meets state step) :
    ∀ {state : State} {steps : List Step}, Along perform meets state steps
  | _, [] => trivial
  | state, step :: _ => ⟨always state step, .of_forall always⟩

theorem along_append {state : State} {first second : List Step} :
    Along perform meets state (first ++ second) ↔
      Along perform meets state first ∧
        Along perform meets (first.foldl perform state) second := by
  induction first generalizing state with
  | nil => exact (and_iff_right trivial).symm
  | cons step rest ih =>
      rw [List.cons_append, Along, Along, ih, and_assoc, List.foldl_cons]

/-- What a condition on steps preserves holds at the end of a run. -/
theorem Along.invariant {invariant : State → Prop}
    (kept : ∀ state step, invariant state → meets state step →
      invariant (perform state step)) :
    ∀ {state : State} {steps : List Step},
      Along perform meets state steps → invariant state →
        invariant (steps.foldl perform state)
  | _, [], _, holds => holds
  | state, step :: _, ⟨first, rest⟩, holds =>
      rest.invariant kept (kept state step holds first)

variable {other : State → Step → Prop}

/-- What follows from an invariant and the condition holds of every step. -/
theorem Along.imply {invariant : State → Prop}
    (kept : ∀ state step, invariant state → meets state step →
      invariant (perform state step))
    (implied : ∀ state step, invariant state → meets state step →
      other state step) :
    ∀ {state : State} {steps : List Step},
      Along perform meets state steps → invariant state →
        Along perform other state steps
  | _, [], _, _ => trivial
  | state, step :: _, ⟨first, rest⟩, holds =>
      ⟨implied state step holds first,
        rest.imply kept implied (kept state step holds first)⟩

theorem Along.mono
    (implied : ∀ state step, meets state step → other state step) :
    ∀ {state : State} {steps : List Step},
      Along perform meets state steps → Along perform other state steps
  | _, [], _ => trivial
  | state, step :: _, ⟨first, rest⟩ =>
      ⟨implied state step first, rest.mono implied⟩

theorem Along.and :
    ∀ {state : State} {steps : List Step},
      Along perform meets state steps → Along perform other state steps →
        Along perform (fun state step => meets state step ∧ other state step)
          state steps
  | _, [], _, _ => trivial
  | _, _ :: _, ⟨first, rest⟩, ⟨alsoFirst, alsoRest⟩ =>
      ⟨⟨first, alsoFirst⟩, rest.and alsoRest⟩

end

/-! ## Histories -/

section

variable {Event : Type}

/--
Every event of a history, the newest first, stands in a relation to the
events before it.
-/
def Throughout (meets : Event → List Event → Prop) : List Event → Prop
  | [] => True
  | event :: before => meets event before ∧ Throughout meets before

/-- New events, each of which meets the relation over the old history. -/
theorem Throughout.append {meets : Event → List Event → Prop}
    {history : List Event} (old : Throughout meets history) :
    ∀ {events : List Event},
      (∀ event ∈ events, ∀ between, meets event (between ++ history)) →
        Throughout meets (events ++ history)
  | [], _ => old
  | event :: rest, new =>
      ⟨new event List.mem_cons_self rest,
        old.append fun other member =>
          new other (List.mem_cons_of_mem event member)⟩

/-- The newest event of a history decides. -/
theorem not_throughout {meets : Event → List Event → Prop}
    {history : List Event} {newest : Event}
    (isNewest : history.head? = some newest)
    (violated : ¬ meets newest history.tail) :
    ¬ Throughout meets history := by
  cases history with
  | nil => cases isNewest
  | cons event before =>
      cases isNewest
      exact fun all => violated all.1

/--
Every event of a history, the oldest first, stands in a relation to those
before it.
-/
def InOrder (meets : List Event → Event → Prop) (history : List Event) :
    Prop :=
  ∀ before event after, history = before ++ event :: after →
    meets before event

variable {meets : List Event → Event → Prop}

theorem inOrder_nil :
    InOrder meets [] := by
  intro before event after isEmpty
  cases before <;> cases isEmpty

/-- A new last event changes nothing for those before it. -/
theorem inOrder_concat {history : List Event} {newest : Event} :
    InOrder meets (history ++ [newest]) ↔
      InOrder meets history ∧ meets history newest := by
  constructor
  · intro ordered
    refine ⟨?_, ordered history newest [] rfl⟩
    rintro before event after rfl
    exact ordered before event (after ++ [newest])
      (List.append_assoc before (event :: after) [newest])
  · rintro ⟨ordered, last⟩ before event after split
    rcases List.eq_nil_or_concat after with rfl | ⟨between, final, rfl⟩
    · obtain ⟨rfl, isNewest⟩ := List.append_inj' split rfl
      cases isNewest
      exact last
    · rw [List.concat_eq_append, ← List.cons_append, ← List.append_assoc]
        at split
      exact ordered before event between (List.append_inj' split rfl).1

end

/-!
## Parties

A system of parties is a list of them, of which one is changed by a step.  How
many are of a kind changes with that one.
-/

theorem countP_set_of_getElem? {Element : Type} {list : List Element}
    {index : Nat} {old : Element} (here : list[index]? = some old)
    (p : Element → Bool) (new : Element) :
    (list.set index new).countP p + (if p old then 1 else 0) =
      list.countP p + (if p new then 1 else 0) := by
  obtain ⟨inside, rfl⟩ := List.getElem?_eq_some_iff.mp here
  have counted : p list[index] → 0 < list.countP p := fun holds =>
    List.countP_pos_iff.mpr ⟨_, List.getElem_mem inside, holds⟩
  rw [List.countP_set inside]
  by_cases holds : p list[index]
  · have positive := counted holds
    rw [if_pos holds]
    omega
  · rw [if_neg holds]
    omega

end OpenSnow.Foundation
