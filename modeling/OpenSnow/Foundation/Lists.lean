import Mathlib.Algebra.Group.End
import Mathlib.Data.List.Forall2
import Mathlib.Order.Basic
import Mathlib.Tactic.Common

/-!
# Lists

Reading a list item by item; predicates that cut a list in two; and swaps of
pairs of elements.
-/

/-!
## Reading item by item

Reading stops at the first item that cannot be read.
-/

namespace OpenSnow.Foundation

theorem mapM_eq_some_iff {Item Value : Type} {read : Item → Option Value}
    {items : List Item} {values : List Value} :
    items.mapM read = some values ↔
      List.Forall₂ (fun item value => read item = some value) items values := by
  induction items generalizing values with
  | nil => simp [eq_comm]
  | cons item items ih =>
      rw [List.mapM_cons, List.forall₂_cons_left_iff]
      simp only [bind, Option.bind_eq_some_iff, pure, Option.some.injEq, ih]
      constructor
      · rintro ⟨value, first, others, later, rfl⟩
        exact ⟨value, others, first, later, rfl⟩
      · rintro ⟨value, others, first, later, rfl⟩
        exact ⟨value, first, others, later, rfl⟩

/-- The rows of a range are what they should be, and as many of them. -/
theorem mapM_range_eq_some_iff {Value : Type} {read : Nat → Option Value}
    {count rows : Nat} {value : Nat → Value} :
    (List.range count).mapM read = some ((List.range rows).map value) ↔
      count = rows ∧ ∀ row < rows, read row = some (value row) := by
  rw [mapM_eq_some_iff, List.forall₂_map_right_iff]
  constructor
  · intro alike
    have same := alike.length_eq
    rw [List.length_range, List.length_range] at same
    subst same
    exact
      ⟨rfl, fun row inside =>
        List.forall₂_same.mp alike row (List.mem_range.mpr inside)⟩
  · rintro ⟨rfl, each⟩
    exact List.forall₂_same.mpr fun row member =>
      each row (List.mem_range.mp member)

end OpenSnow.Foundation

/-!
## Cuts

A predicate that holds of everything before an element whenever it holds of
the element cuts a list in two: what it selects is a prefix.
-/

namespace OpenSnow.Foundation.Cuts

variable {Element : Type} {list : List Element} {selects widens : Element → Bool}

/-- The predicate goes back along the list. -/
def IsCut (selects : Element → Bool) (list : List Element) : Prop :=
  list.Pairwise fun first second => selects second = true → selects first = true

theorem IsCut.filter_isPrefix_filter (cuts : IsCut selects list)
    (implies : ∀ element ∈ list, selects element = true →
      widens element = true) :
    list.filter selects <+: list.filter widens := by
  induction list with
  | nil => exact List.prefix_rfl
  | cons first rest ih =>
      obtain ⟨behind, cutsRest⟩ := List.pairwise_cons.mp cuts
      by_cases selected : selects first = true
      · have widened := implies first List.mem_cons_self selected
        rw [List.filter_cons_of_pos selected, List.filter_cons_of_pos widened,
          List.prefix_cons_inj]
        exact ih cutsRest fun element member =>
          implies element (List.mem_cons_of_mem first member)
      · have none : rest.filter selects = [] := by
          rw [List.filter_eq_nil_iff]
          intro element member isSelected
          exact selected (behind element member isSelected)
        rw [List.filter_cons_of_neg selected, none]
        exact List.nil_prefix

theorem IsCut.filter_isPrefix (cuts : IsCut selects list) :
    list.filter selects <+: list := by
  have isPrefix : list.filter selects <+: list.filter fun _ => true :=
    cuts.filter_isPrefix_filter fun _ _ _ => rfl
  rwa [List.filter_true] at isPrefix

/-- A key that rises along the list makes every bound on it a cut. -/
theorem isCut_of_rising {Key : Type} [Preorder Key] [DecidableLE Key]
    {key : Element → Key} (rising : (list.map key).Pairwise (· ≤ ·))
    (bound : Key) :
    IsCut (fun element => decide (key element ≤ bound)) list := by
  rw [List.pairwise_map] at rising
  refine rising.imp ?_
  intro first second le within
  exact decide_eq_true (le.trans (of_decide_eq_true within))

/-- Two selections of which one is wider are as long as each other when equal. -/
theorem filter_map_eq_iff {Value : Type} {value : Element → Value}
    (implies : ∀ element ∈ list, selects element = true →
      widens element = true) :
    (list.filter selects).map value = (list.filter widens).map value ↔
      ∀ element ∈ list, widens element = true → selects element = true := by
  constructor
  · intro same element member isWidened
    have lengths := congrArg List.length same
    rw [List.length_map, List.length_map] at lengths
    have sublist : (list.filter selects).Sublist (list.filter widens) := by
      have again : list.filter selects =
          (list.filter widens).filter selects := by
        rw [List.filter_filter]
        refine List.filter_congr ?_
        intro other isIn
        cases selected : selects other with
        | false => rfl
        | true => rw [implies other isIn selected]; rfl
      rw [again]
      exact List.filter_sublist
    have mem : element ∈ list.filter widens :=
      List.mem_filter.mpr ⟨member, isWidened⟩
    rw [← sublist.eq_of_length lengths] at mem
    exact (List.mem_filter.mp mem).2
  · intro converse
    have same : list.filter selects = list.filter widens := by
      refine List.filter_congr ?_
      intro element member
      exact Bool.eq_iff_iff.mpr
        ⟨implies element member, converse element member⟩
    rw [same]

end OpenSnow.Foundation.Cuts

/-!
## Swaps

A list of pairs with no element in common is a permutation that swaps the two
elements of each pair and leaves everything else.
-/

namespace OpenSnow.Foundation.Swaps

variable {Element : Type*} [DecidableEq Element]

/-- Swap the elements of each pair. -/
def swaps : List (Element × Element) → Equiv.Perm Element
  | [] => 1
  | pair :: rest => Equiv.swap pair.1 pair.2 * swaps rest

/-- Two pairs with no element in common. -/
def Apart (left right : Element × Element) : Prop :=
  left.1 ≠ right.1 ∧ left.1 ≠ right.2 ∧ left.2 ≠ right.1 ∧ left.2 ≠ right.2

omit [DecidableEq Element] in
theorem Apart.symm {left right : Element × Element}
    (apart : Apart left right) : Apart right left :=
  ⟨apart.1.symm, apart.2.2.1.symm, apart.2.1.symm, apart.2.2.2.symm⟩

theorem swaps_of_not_mem {pairs : List (Element × Element)} {element : Element}
    (outside : ∀ pair ∈ pairs, element ≠ pair.1 ∧ element ≠ pair.2) :
    swaps pairs element = element := by
  induction pairs with
  | nil => rfl
  | cons pair rest ih =>
      rw [List.forall_mem_cons] at outside
      rw [swaps, Equiv.Perm.mul_apply, ih outside.2,
        Equiv.swap_apply_of_ne_of_ne outside.1.1 outside.1.2]

/-- Pairs without common elements are swapped each. -/
theorem swaps_fst {pairs : List (Element × Element)}
    (apart : pairs.Pairwise Apart) {pair : Element × Element}
    (member : pair ∈ pairs) : swaps pairs pair.1 = pair.2 := by
  induction pairs with
  | nil => cases member
  | cons first rest ih =>
      rw [List.pairwise_cons] at apart
      rw [swaps, Equiv.Perm.mul_apply]
      rcases List.mem_cons.mp member with rfl | later
      · rw [swaps_of_not_mem, Equiv.swap_apply_left]
        intro other isOther
        exact ⟨(apart.1 other isOther).1, (apart.1 other isOther).2.1⟩
      · rw [ih apart.2 later, Equiv.swap_apply_of_ne_of_ne]
        · exact (apart.1 pair later).2.1.symm
        · exact (apart.1 pair later).2.2.2.symm

end OpenSnow.Foundation.Swaps
