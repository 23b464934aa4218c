import OpenSnow.Rust.Slice

/-!
# Searching for a word

A word of one kind of characters that is searched for in a text cannot lie
across the end of a run of this kind.
-/

namespace OpenSnow.Rust.Text

open Foundation

variable {needle run rest text : List Char} {kind : Char → Bool}

/-- A word at the start of a run that ends is a word of the run. -/
theorem prefix_of_stops (isRun : ∀ ch ∈ needle, kind ch)
    (stops : Stops kind rest) (begins : needle <+: run ++ rest) :
    needle <+: run := by
  induction needle generalizing run with
  | nil => exact List.nil_prefix
  | cons ch needle ih =>
      cases run with
      | nil =>
          rw [List.nil_append] at begins
          rcases begins with ⟨more, rfl⟩
          rw [List.cons_append, stops_cons, isRun ch List.mem_cons_self] at stops
          cases stops
      | cons first run =>
          rw [List.cons_append, List.cons_prefix_cons] at begins
          rw [List.cons_prefix_cons]
          exact
            ⟨begins.1,
              ih (fun other member => isRun other (List.mem_cons_of_mem ch member))
                begins.2⟩

theorem find_eq_none_iff :
    find needle text = none ↔ ¬ needle <:+: text := by
  induction text with
  | nil =>
      rw [find, List.infix_nil]
      cases needle <;> simp
  | cons ch text ih =>
      rw [find, List.infix_cons_iff, not_or, ← ih,
        ← List.isPrefixOf_iff_prefix]
      split
      · simp [*]
      · simp [*]

variable {offset : Nat}

/-- The first occurrence in a text is the first in every longer one. -/
theorem find_append_of_some
    (found : find needle text = some offset) (rest : List Char) :
    find needle (text ++ rest) = some offset := by
  induction text generalizing offset with
  | nil =>
      rw [find] at found
      split at found
      · rename_i empty
        rw [List.isEmpty_iff.mp empty]
        cases rest <;> exact found
      · cases found
  | cons ch text ih =>
      rw [List.cons_append, find]
      by_cases here : needle <+: ch :: text
      · rw [find, if_pos (List.isPrefixOf_iff_prefix.mpr here)] at found
        rw [if_pos]
        · exact found
        · rw [List.isPrefixOf_iff_prefix]
          exact here.trans (List.prefix_append (ch :: text) rest)
      · rcases find_cons found here with ⟨inner, later, rfl⟩
        rw [if_neg, ih later]
        · rfl
        · rw [List.isPrefixOf_iff_prefix]
          intro begins
          -- It is found in the text, so it is not longer than the text.
          rcases find_eq_some later with ⟨before, after, shape, -⟩
          apply here
          apply List.prefix_of_prefix_length_le begins
            (List.prefix_append (ch :: text) rest)
          rw [shape]
          simp
          omega

/-- Before the first occurrence there is no other. -/
theorem find_first (found : find needle text = some offset) :
    ∃ before after, text = before ++ (needle ++ after) ∧
      utf8Len before = offset ∧ (needle ≠ [] → ¬ needle <:+: before) := by
  rcases find_eq_some found with ⟨before, after, rfl, rfl⟩
  refine ⟨before, after, rfl, rfl, ?_⟩
  intro nonempty inside
  cases earlier : find needle before with
  | none => exact find_eq_none_iff.mp earlier inside
  | some first =>
      have whole := find_append_of_some earlier (needle ++ after)
      rw [whole, Option.some.injEq] at found
      rcases find_eq_some earlier with ⟨front, back, shape, length⟩
      have total := congrArg utf8Len shape
      rw [utf8Len_append, utf8Len_append, length] at total
      cases needle with
      | nil => exact nonempty rfl
      | cons ch needle =>
          have width := ch.utf8Size_pos
          rw [utf8Len_cons] at total
          omega

/-- A word that begins nowhere in a text is found behind it. -/
theorem find_skip
    (silent : ∀ front back, run = front ++ back → back ≠ [] →
      ¬ needle <+: back ++ rest) :
    find needle (run ++ rest) =
      (find needle rest).map (utf8Len run + ·) := by
  induction run with
  | nil => simp
  | cons ch run ih =>
      have notHere := silent [] (ch :: run) rfl (List.cons_ne_nil ch run)
      have later := ih fun front back shape =>
        silent (ch :: front) back (by rw [shape, List.cons_append])
      rw [List.cons_append] at notHere ⊢
      rw [find, if_neg (by rwa [List.isPrefixOf_iff_prefix]), later,
        Option.map_map, utf8Len_cons]
      congr 1
      funext offset
      exact (Nat.add_assoc _ _ _).symm

theorem find_run (isRun : ∀ ch ∈ needle, kind ch) (stops : Stops kind rest)
    (notIn : ¬ needle <:+: run) :
    find needle (run ++ rest) =
      (find needle rest).map (utf8Len run + ·) := by
  apply find_skip
  rintro front back rfl - begins
  exact
    notIn
      ((prefix_of_stops isRun stops begins).isInfix.trans
        (List.suffix_append front back).isInfix)

theorem find_others (isRun : ∀ ch ∈ needle, kind ch) (nonempty : needle ≠ [])
    (others : ∀ ch ∈ run, kind ch = false) :
    find needle (run ++ rest) =
      (find needle rest).map (utf8Len run + ·) := by
  apply find_skip
  rintro front (_ | ⟨ch, back⟩) rfl backNonempty begins
  · exact backNonempty rfl
  · cases needle with
    | nil => exact nonempty rfl
    | cons first needle =>
        rw [List.cons_append, List.cons_prefix_cons] at begins
        have isKind := isRun first List.mem_cons_self
        rw [begins.1, others ch (by simp)] at isKind
        cases isKind

theorem find_here (needle rest : List Char) :
    find needle (needle ++ rest) = some 0 := by
  have found := @find_append_first needle [] rest (by simp +contextual)
  rwa [List.nil_append] at found

/-! ## First occurrences -/

/-- The text begins with this part, and behind it the word first occurs. -/
def FirstAt (needle text before after : List Char) : Prop :=
  text = before ++ (needle ++ after) ∧
    ∀ front back, before = front ++ back → back ≠ [] →
      ¬ needle <+: back ++ (needle ++ after)

theorem find_eq_some_iff :
    find needle text = some offset ↔
      ∃ before after, FirstAt needle text before after ∧
        utf8Len before = offset := by
  constructor
  · intro found
    induction text generalizing offset with
    | nil =>
        rcases find_eq_some found with ⟨before, after, shape, length⟩
        have none : before = [] ∧ needle ++ after = [] :=
          List.append_eq_nil_iff.mp shape.symm
        refine ⟨before, after, ⟨shape, ?_⟩, length⟩
        rintro front back split nonempty
        rw [none.1] at split
        exact absurd (List.append_eq_nil_iff.mp split.symm).2 nonempty
    | cons ch rest ih =>
        by_cases here : needle <+: ch :: rest
        · rw [find, if_pos (List.isPrefixOf_iff_prefix.mpr here),
            Option.some.injEq] at found
          rcases here with ⟨after, shape⟩
          refine ⟨[], after, ⟨shape.symm, ?_⟩, found⟩
          rintro front back split nonempty
          exact absurd (List.append_eq_nil_iff.mp split.symm).2 nonempty
        · rcases find_cons found here with ⟨inner, later, rfl⟩
          rcases ih later with ⟨before, after, ⟨rfl, first⟩, rfl⟩
          refine ⟨ch :: before, after, ⟨rfl, ?_⟩, utf8Len_cons ch before⟩
          intro front back split nonempty
          cases front with
          | nil =>
              rw [List.nil_append] at split
              rw [← split]
              exact here
          | cons other front =>
              rw [List.cons_append, List.cons.injEq] at split
              exact first front back split.2 nonempty
  · rintro ⟨before, after, ⟨rfl, first⟩, rfl⟩
    exact find_append_first first

/-- Behind the first occurrence the text can be cut. -/
theorem FirstAt.sliceFrom {before after : List Char}
    (isFirst : FirstAt needle text before after) :
    sliceFrom text (utf8Len before + utf8Len needle) = some after := by
  rw [isFirst.1, ← List.append_assoc, ← utf8Len_append]
  exact sliceFrom_append (before ++ needle) after


/-- A word occurs first somewhere, or it does not occur. -/
theorem exists_firstAt_or (needle text : List Char) :
    (∃ before after, FirstAt needle text before after) ∨
      ¬ needle <:+: text := by
  cases found : find needle text with
  | none => exact Or.inr (find_eq_none_iff.mp found)
  | some offset =>
      rcases find_eq_some_iff.mp found with ⟨before, after, isFirst, -⟩
      exact Or.inl ⟨before, after, isFirst⟩

theorem find_char_iff {mark : Char} :
    find [mark] text = some offset ↔
      ∃ before after, text = before ++ mark :: after ∧ mark ∉ before ∧
        utf8Len before = offset := by
  constructor
  · intro found
    rcases find_first found with ⟨before, after, shape, length, first⟩
    refine ⟨before, after, shape, ?_, length⟩
    rw [← List.singleton_infix_iff]
    exact first (List.cons_ne_nil mark [])
  · rintro ⟨before, after, rfl, outside, rfl⟩
    refine @find_append_first [mark] before after ?_
    rintro front (_ | ⟨ch, back⟩) rfl nonempty begins
    · exact nonempty rfl
    · rw [List.cons_append, List.cons_prefix_cons] at begins
      exact outside (by simp [begins.1])

end OpenSnow.Rust.Text
