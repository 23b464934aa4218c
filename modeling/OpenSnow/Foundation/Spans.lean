import Mathlib.Data.List.TakeDrop
import Mathlib.Tactic.Common

/-!
# Runs and fields of a list

A list that starts with a run of elements of one kind, and goes on with
something else or ends, is cut in exactly one place.
-/

namespace OpenSnow.Foundation

variable {Element : Type} {kind : Element → Bool}

/-- A list that is empty or does not start with this kind. -/
def Stops (kind : Element → Bool) (rest : List Element) : Prop :=
  ∀ first ∈ rest.head?, kind first = false

@[simp]
theorem stops_nil : Stops kind [] := by
  rintro first ⟨⟩

@[simp]
theorem stops_cons {first : Element} {rest : List Element} :
    Stops kind (first :: rest) ↔ kind first = false := by
  simp [Stops]

theorem stops_dropWhile (list : List Element) :
    Stops kind (list.dropWhile kind) := by
  induction list with
  | nil => exact stops_nil
  | cons first rest ih =>
      rw [List.dropWhile_cons]
      split
      · exact ih
      · rename_i other
        exact stops_cons.mpr (Bool.eq_false_iff.mpr other)

theorem dropWhile_reverse_append (kind : Element → Bool)
    (list : List Element) :
    (list.reverse.dropWhile kind).reverse ++
        (list.reverse.takeWhile kind).reverse = list := by
  rw [← List.reverse_append, List.takeWhile_append_dropWhile,
    List.reverse_reverse]

variable {run rest : List Element}

theorem takeWhile_span
    (isRun : ∀ element ∈ run, kind element) (stops : Stops kind rest) :
    (run ++ rest).takeWhile kind = run := by
  rw [List.takeWhile_append_of_pos isRun]
  cases rest with
  | nil => simp
  | cons first rest => simp [stops_cons.mp stops]

theorem dropWhile_span
    (isRun : ∀ element ∈ run, kind element) (stops : Stops kind rest) :
    (run ++ rest).dropWhile kind = rest := by
  rw [List.dropWhile_append_of_pos isRun]
  cases rest with
  | nil => rfl
  | cons first rest => simp [stops_cons.mp stops]

theorem dropWhile_of_stops {rest : List Element} (stops : Stops kind rest) :
    rest.dropWhile kind = rest :=
  dropWhile_span (fun _ member => absurd member List.not_mem_nil) stops

/-- Exactly such a list has no run of the kind at its start. -/
theorem takeWhile_eq_nil_iff_stops {list : List Element} :
    list.takeWhile kind = [] ↔ Stops kind list := by
  cases list with
  | nil => simp
  | cons first rest =>
      rw [stops_cons, List.takeWhile_cons]
      cases kind first <;> simp

theorem dropWhile_append_of_stops {front back : List Element}
    (stops : Stops kind back) :
    (front ++ back).dropWhile kind = front.dropWhile kind ++ back := by
  induction front with
  | nil => exact dropWhile_of_stops stops
  | cons first front ih =>
      rw [List.cons_append, List.dropWhile_cons, List.dropWhile_cons]
      split
      · exact ih
      · rfl

theorem takeWhile_append_of_stops {front back : List Element}
    (stops : Stops kind back) :
    (front ++ back).takeWhile kind = front.takeWhile kind := by
  induction front with
  | nil => exact takeWhile_eq_nil_iff_stops.mpr stops
  | cons first front ih =>
      rw [List.cons_append, List.takeWhile_cons, List.takeWhile_cons, ih]

/-- The last element, or one that stands before the list. -/
theorem getLast?_cons_or (first : Element) (rest : List Element)
    (before : Option Element) :
    (first :: rest).getLast?.or before = rest.getLast?.or (some first) := by
  rw [List.getLast?_cons, Option.some_or]
  cases rest.getLast? <;> rfl

/-!
## Fields between separators

The fields of a list are its maximal runs of elements that are no separators.
How many separators stand between two fields, and which, does not matter.
-/

variable {isBreak : Element → Bool}

/-- The nonempty runs between separators. -/
def fields (isBreak : Element → Bool) (list : List Element) :
    List (List Element) :=
  (list.splitOnP isBreak).filter (!·.isEmpty)

@[simp]
theorem fields_nil : fields isBreak [] = [] := rfl

/-- A field is made of elements of the list that are no separators. -/
theorem mem_fields {list run : List Element}
    (isField : run ∈ fields isBreak list) :
    ∀ element ∈ run, element ∈ list ∧ isBreak element = false := by
  have part : ∀ run ∈ list.splitOnP isBreak, ∀ element ∈ run,
      element ∈ list ∧ isBreak element = false := by
    clear isField
    induction list with
    | nil => simp
    | cons first rest ih =>
        have onwards : ∀ run ∈ rest.splitOnP isBreak, ∀ element ∈ run,
            element ∈ first :: rest ∧ isBreak element = false :=
          fun run member element inRun =>
            ⟨List.mem_cons_of_mem first (ih run member element inRun).1,
              (ih run member element inRun).2⟩
        intro run member
        rw [List.splitOnP_cons_eq_if_modifyHead] at member
        split at member
        · rcases List.mem_cons.mp member with rfl | later
          · exact fun element inRun => absurd inRun List.not_mem_nil
          · exact onwards run later
        · rename_i notBreak
          cases parts : rest.splitOnP isBreak with
          | nil => exact absurd parts (List.splitOnP_ne_nil _ _)
          | cons head others =>
              rw [parts] at member onwards
              rw [List.modifyHead_cons] at member
              rcases List.mem_cons.mp member with rfl | later
              · intro element inRun
                rcases List.mem_cons.mp inRun with rfl | inHead
                · exact ⟨List.mem_cons_self, Bool.eq_false_iff.mpr notBreak⟩
                · exact onwards head List.mem_cons_self element inHead
              · exact onwards run (List.mem_cons_of_mem head later)
  exact part run (List.mem_filter.mp isField).1

theorem fields_append_break {front back : List Element} {separator : Element}
    (separates : isBreak separator) :
    fields isBreak (front ++ separator :: back) =
      fields isBreak front ++ fields isBreak back := by
  rw [fields, List.splitOnP_append_cons _ _ separates, List.filter_append]
  rfl

theorem fields_run {run : List Element} (nonempty : run ≠ [])
    (isRun : ∀ element ∈ run, isBreak element = false) :
    fields isBreak run = [run] := by
  rw [fields, List.splitOnP_eq_singleton isRun, List.filter_cons_of_pos]
  · rfl
  · simpa using nonempty

theorem fields_breaks_append {breaks rest : List Element}
    (separate : ∀ element ∈ breaks, isBreak element) :
    fields isBreak (breaks ++ rest) = fields isBreak rest := by
  induction breaks with
  | nil => rfl
  | cons first breaks ih =>
      have here := @fields_append_break _ _ [] (breaks ++ rest) _
        (separate first List.mem_cons_self)
      rw [List.nil_append, fields_nil, List.nil_append] at here
      rw [List.cons_append, here]
      exact ih fun element member =>
        separate element (List.mem_cons_of_mem first member)

theorem fields_append_breaks {list breaks : List Element}
    (separate : ∀ element ∈ breaks, isBreak element) :
    fields isBreak (list ++ breaks) = fields isBreak list := by
  cases breaks with
  | nil => rw [List.append_nil]
  | cons first breaks =>
      have none := @fields_breaks_append _ isBreak breaks [] fun element member =>
        separate element (List.mem_cons_of_mem first member)
      rw [List.append_nil, fields_nil] at none
      rw [fields_append_break (separate first List.mem_cons_self), none,
        List.append_nil]

/-- A run that a separator or the end follows is the first field. -/
theorem fields_run_append (nonempty : run ≠ [])
    (isRun : ∀ element ∈ run, isBreak element = false)
    (stops : Stops (!isBreak ·) rest) :
    fields isBreak (run ++ rest) = run :: fields isBreak rest := by
  cases rest with
  | nil => rw [List.append_nil, fields_run nonempty isRun, fields_nil]
  | cons first rest =>
      have separates : isBreak first := by
        have stop := stops_cons.mp stops
        simpa using stop
      have none := @fields_breaks_append _ isBreak [first] rest (by simpa)
      rw [List.cons_append, List.nil_append] at none
      rw [fields_append_break separates, fields_run nonempty isRun, none]
      rfl

theorem fields_eq_nil_iff {list : List Element} :
    fields isBreak list = [] ↔ ∀ element ∈ list, isBreak element := by
  constructor
  · intro none
    induction list with
    | nil => exact fun _ => nofun
    | cons first rest ih =>
        by_cases separates : isBreak first
        · have behind := @fields_breaks_append _ isBreak [first] rest (by simpa)
          rw [List.singleton_append, none] at behind
          exact List.forall_mem_cons.mpr ⟨separates, ih behind.symm⟩
        · rw [fields, List.splitOnP_cons_eq_if_modifyHead,
            if_neg separates] at none
          cases parts : rest.splitOnP isBreak with
          | nil => exact absurd parts (List.splitOnP_ne_nil _ _)
          | cons head others =>
              rw [parts, List.modifyHead_cons,
                List.filter_cons_of_pos (by simp)] at none
              cases none
  · intro separate
    have none := @fields_append_breaks _ isBreak [] list separate
    rwa [List.nil_append, fields_nil] at none

end OpenSnow.Foundation
