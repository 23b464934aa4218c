import Mathlib.Data.List.Basic
import Mathlib.Data.List.Infix
import Mathlib.Data.String.Basic
import Mathlib.Tactic.Common

/-!
# Joining words with separators

A pair of words joined by a separator is ambiguous exactly when one left word
overhangs the other: the surplus letters, together with the separator behind
them, are the separator and right word of the other pair.
-/

namespace OpenSnow.Foundation.SeparatorJoin

variable {Letter : Type*}

/-- The second pair continues the first left word by a non-empty surplus. -/
def Overhangs (separator left right left' right' : List Letter) : Prop :=
  ∃ surplus ≠ [], left' = left ++ surplus ∧
    separator ++ right = surplus ++ (separator ++ right')

theorem Overhangs.left_ne {separator left right left' right' : List Letter}
    (overhangs : Overhangs separator left right left' right') :
    left ≠ left' := by
  rcases overhangs with ⟨surplus, nonempty, leftEq, -⟩
  intro same
  rw [← same] at leftEq
  exact nonempty (List.append_right_eq_self.mp leftEq.symm)

theorem join_eq_join_iff {separator left right left' right' : List Letter} :
    left ++ (separator ++ right) = left' ++ (separator ++ right') ↔
      (left = left' ∧ right = right') ∨
        Overhangs separator left right left' right' ∨
          Overhangs separator left' right' left right := by
  rw [List.append_eq_append_iff]
  constructor
  · rintro (⟨surplus, leftEq, rightEq⟩ | ⟨surplus, leftEq, rightEq⟩)
    · cases surplus with
      | nil =>
          rw [List.append_nil] at leftEq
          exact Or.inl ⟨leftEq.symm, List.append_cancel_left rightEq⟩
      | cons letter rest =>
          exact Or.inr (Or.inl ⟨_, List.cons_ne_nil _ _, leftEq, rightEq⟩)
    · cases surplus with
      | nil =>
          rw [List.append_nil] at leftEq
          exact Or.inl ⟨leftEq, (List.append_cancel_left rightEq).symm⟩
      | cons letter rest =>
          exact Or.inr (Or.inr ⟨_, List.cons_ne_nil _ _, leftEq, rightEq⟩)
  · rintro (⟨rfl, rfl⟩ | ⟨surplus, -, leftEq, rightEq⟩ |
      ⟨surplus, -, leftEq, rightEq⟩)
    · exact Or.inl ⟨[], by simp⟩
    · exact Or.inl ⟨surplus, leftEq, rightEq⟩
    · exact Or.inr ⟨surplus, leftEq, rightEq⟩

/-! ## A separator of one letter -/

section

variable {letter : Letter} {left right left' right' : List Letter}

theorem overhangs_once_iff :
    Overhangs [letter] left right left' right' ↔
      ∃ middle, left' = left ++ letter :: middle ∧
        right = middle ++ letter :: right' := by
  constructor
  · rintro ⟨surplus, nonempty, leftEq, rightEq⟩
    match surplus with
    | [] => exact absurd rfl nonempty
    | first :: middle =>
        simp only [List.cons_append, List.nil_append,
          List.cons.injEq] at rightEq
        rcases rightEq with ⟨rfl, rightEq⟩
        exact ⟨middle, leftEq, rightEq⟩
  · rintro ⟨middle, leftEq, rightEq⟩
    exact ⟨_, List.cons_ne_nil letter middle, leftEq, by simp [rightEq]⟩

/-- A left word without the letter is overhung by none that has it. -/
theorem not_overhangs_of_not_mem_left (plain : letter ∉ left') :
    ¬ Overhangs [letter] left right left' right' := by
  rw [overhangs_once_iff]
  rintro ⟨middle, rfl, -⟩
  exact plain (List.mem_append_right _ List.mem_cons_self)

theorem not_overhangs_of_not_mem_right (plain : letter ∉ right) :
    ¬ Overhangs [letter] left right left' right' := by
  rw [overhangs_once_iff]
  rintro ⟨middle, -, rfl⟩
  exact plain (List.mem_append_right _ List.mem_cons_self)

theorem join_once_iff_of_left (plain : letter ∉ left)
    (plain' : letter ∉ left') :
    left ++ letter :: right = left' ++ letter :: right' ↔
      left = left' ∧ right = right' := by
  refine (@join_eq_join_iff _ [letter] _ _ _ _).trans (or_iff_left ?_)
  rintro (overhangs | overhangs)
  · exact not_overhangs_of_not_mem_left plain' overhangs
  · exact not_overhangs_of_not_mem_left plain overhangs

theorem join_once_iff_of_right (plain : letter ∉ right)
    (plain' : letter ∉ right') :
    left ++ letter :: right = left' ++ letter :: right' ↔
      left = left' ∧ right = right' := by
  refine (@join_eq_join_iff _ [letter] _ _ _ _).trans (or_iff_left ?_)
  rintro (overhangs | overhangs)
  · exact not_overhangs_of_not_mem_right plain overhangs
  · exact not_overhangs_of_not_mem_right plain' overhangs

end

/-! ## A separator of one letter twice -/

/--
For a separator made of one letter twice, the surplus is that letter alone or
starts with a whole separator.
-/
theorem overhangs_twice_iff {letter : Letter}
    {left right left' right' : List Letter} :
    Overhangs [letter, letter] left right left' right' ↔
      (left' = left ++ [letter] ∧ right = letter :: right') ∨
        ∃ middle, left' = left ++ ([letter, letter] ++ middle) ∧
          right = middle ++ ([letter, letter] ++ right') := by
  constructor
  · rintro ⟨surplus, nonempty, leftEq, rightEq⟩
    match surplus with
    | [] => exact absurd rfl nonempty
    | [first] =>
        simp only [List.cons_append, List.nil_append,
          List.cons.injEq] at rightEq
        rcases rightEq with ⟨rfl, -, rfl⟩
        exact Or.inl ⟨leftEq, rfl⟩
    | first :: second :: middle =>
        simp only [List.cons_append, List.nil_append,
          List.cons.injEq] at rightEq
        rcases rightEq with ⟨rfl, rfl, rightEq⟩
        exact Or.inr ⟨middle, leftEq, rightEq⟩
  · rintro (⟨leftEq, rightEq⟩ | ⟨middle, leftEq, rightEq⟩)
    · exact ⟨[letter], List.cons_ne_nil _ _, leftEq, by simp [rightEq]⟩
    · exact ⟨_, by simp, leftEq, by simp [rightEq]⟩

end OpenSnow.Foundation.SeparatorJoin

/-!
## Numbered names

Names made of a stem, an underscore and a tail without an underscore, such as
a number, are read back from their last underscore.
-/

namespace OpenSnow.Foundation.NumberedNames

open SeparatorJoin

/-! ### A tail without the separator -/

/-- Two texts with a separator before a tail that has none. -/
theorem tail_inj {stem stem' tail tail' : String}
    (plain : '_' ∉ tail.toList) (plain' : '_' ∉ tail'.toList) :
    stem ++ "_" ++ tail = stem' ++ "_" ++ tail' ↔
      stem = stem' ∧ tail = tail' := by
  have underscore : "_".toList = ['_'] := by decide
  rw [← String.toList_inj]
  simp only [String.toList_append, underscore, List.append_assoc,
    List.singleton_append]
  rw [join_once_iff_of_right plain plain', String.toList_inj,
    String.toList_inj]

/-! ### Numbers -/

theorem underscore_not_mem_number (number : Nat) :
    '_' ∉ (toString number).toList := by
  rw [Nat.toString_eq_repr, Nat.toList_repr]
  exact Nat.underscore_not_in_toDigits

theorem toString_inj {number number' : Nat} :
    toString number = toString number' ↔ number = number' := by
  refine ⟨fun same => ?_, fun same => same ▸ rfl⟩
  rw [Nat.toString_eq_repr, Nat.toString_eq_repr, ← String.toList_inj,
    Nat.toList_repr, Nat.toList_repr] at same
  have read := congrArg (fun digits => Nat.ofDigitChars 10 digits 0) same
  rwa [Nat.ofDigitChars_ten_toDigits, Nat.ofDigitChars_ten_toDigits] at read

/-- The name of the kind and the owner with a number. -/
def numbered (kind owner : String) (number : Nat) : String :=
  kind ++ owner ++ "_" ++ toString number

theorem numbered_inj {kind owner owner' : String} {number number' : Nat} :
    numbered kind owner number = numbered kind owner' number' ↔
      owner = owner' ∧ number = number' := by
  rw [numbered, numbered,
    tail_inj (underscore_not_mem_number _) (underscore_not_mem_number _),
    String.append_right_inj, toString_inj]

theorem numbered_ne {kind kind' : String}
    (sameLength : kind.toList.length = kind'.toList.length)
    (differs : kind ≠ kind') (owner owner' : String)
    (number number' : Nat) :
    numbered kind owner number ≠ numbered kind' owner' number' := by
  intro same
  rw [numbered, numbered,
    tail_inj (underscore_not_mem_number _) (underscore_not_mem_number _),
    ← String.toList_inj] at same
  simp only [String.toList_append] at same
  exact differs
    (String.toList_inj.mp (List.append_inj same.1 sameLength).1)

end OpenSnow.Foundation.NumberedNames

/-!
## Words joined by a letter

Words that do not have the separating letter can be read back from their
join: the join determines them, and an end of it that starts at a separator is
the join of the last of them.
-/

namespace OpenSnow.Foundation.JoinedWords

variable {Letter : Type*} {separator : Letter}

/-- The words with the separator between them. -/
def joined (separator : Letter) (words : List (List Letter)) : List Letter :=
  [separator].intercalate words

@[simp]
theorem joined_nil : joined separator ([] : List (List Letter)) = [] := rfl

@[simp]
theorem joined_singleton (word : List Letter) :
    joined separator [word] = word :=
  List.intercalate_singleton

theorem joined_cons_cons (first second : List Letter)
    (rest : List (List Letter)) :
    joined separator (first :: second :: rest) =
      first ++ separator :: joined separator (second :: rest) := by
  rw [joined, joined, List.intercalate_cons_cons, List.append_assoc,
    List.singleton_append]

/-- The first word grows with the letters in front of it. -/
theorem joined_append_head (front word : List Letter)
    (rest : List (List Letter)) :
    joined separator ((front ++ word) :: rest) =
      front ++ joined separator (word :: rest) := by
  cases rest with
  | nil => simp
  | cons second rest =>
      rw [joined_cons_cons, joined_cons_cons, List.append_assoc]

/-- Every word has a letter, and none has the separator. -/
def Separable (separator : Letter) (words : List (List Letter)) : Prop :=
  ∀ word ∈ words, word ≠ [] ∧ separator ∉ word

variable {words others : List (List Letter)}

theorem joined_eq_nil_iff (separable : Separable separator words) :
    joined separator words = [] ↔ words = [] := by
  constructor
  · intro isEmpty
    match words, separable with
    | [], _ => rfl
    | [word], separable =>
        rw [joined_singleton] at isEmpty
        exact absurd isEmpty (separable word (List.mem_singleton_self word)).1
    | first :: second :: rest, _ =>
        rw [joined_cons_cons] at isEmpty
        simp at isEmpty
  · rintro rfl
    rfl

theorem joined_append (nonempty : words ≠ []) (others_nonempty : others ≠ []) :
    joined separator (words ++ others) =
      joined separator words ++ separator :: joined separator others := by
  induction words with
  | nil => exact absurd rfl nonempty
  | cons first rest ih =>
      cases rest with
      | nil =>
          obtain ⟨head, tail, rfl⟩ := List.exists_cons_of_ne_nil
            others_nonempty
          rw [List.singleton_append, joined_cons_cons, joined_singleton]
      | cons second rest =>
          rw [List.cons_append, List.cons_append, joined_cons_cons,
            joined_cons_cons, List.append_assoc, List.cons_append,
            ← ih (List.cons_ne_nil _ _), List.cons_append]

/-- As many words, none but the last with the separator, are read back. -/
theorem joined_inj_of_plain_front :
    ∀ {words others : List (List Letter)}, words.length = others.length →
      (∀ word ∈ words.dropLast, separator ∉ word) →
        (∀ word ∈ others.dropLast, separator ∉ word) →
          joined separator words = joined separator others → words = others
  | [], [], _, _, _, _ => rfl
  | [word], [other], _, _, _, same => by
      rwa [joined_singleton, joined_singleton, ← List.singleton_inj] at same
  | first :: second :: rest, first' :: second' :: rest', lengths, plain,
      plain', same => by
      rw [List.dropLast_cons_cons, List.forall_mem_cons] at plain plain'
      rw [joined_cons_cons, joined_cons_cons,
        SeparatorJoin.join_once_iff_of_left plain.1 plain'.1] at same
      rw [same.1, joined_inj_of_plain_front (by simpa using lengths) plain.2
        plain'.2 same.2]

/-! ### Reading the words back -/

variable [DecidableEq Letter]

section

variable (separable : Separable separator words)

include separable

theorem splitOn_joined (nonempty : words ≠ []) :
    (joined separator words).splitOn separator = words :=
  List.splitOn_intercalate separator
    (fun word member => (separable word member).2) nonempty

theorem joined_inj (otherSeparable : Separable separator others) :
    joined separator words = joined separator others ↔ words = others := by
  constructor
  · intro same
    by_cases isEmpty : words = []
    · subst isEmpty
      exact ((joined_eq_nil_iff otherSeparable).mp same.symm).symm
    · have nonempty : others ≠ [] := by
        rintro rfl
        exact isEmpty ((joined_eq_nil_iff separable).mp same)
      rw [← splitOn_joined separable isEmpty, same,
        splitOn_joined otherSeparable nonempty]
  · rintro rfl
    rfl

/-- An end that starts at a separator is the join of the last words. -/
theorem suffix_joined_iff
    (otherSeparable : Separable separator others) (nonempty : others ≠ []) :
    separator :: joined separator others <:+ joined separator words ↔
      ∃ front ≠ [], words = front ++ others := by
  constructor
  · rintro ⟨front, split⟩
    have wordsNonempty : words ≠ [] := by
      rintro rfl
      simp at split
    refine ⟨front.splitOn separator, List.splitOn_ne_nil _ _, ?_⟩
    rw [← splitOn_joined separable wordsNonempty, ← split,
      List.splitOn_append_cons_self, splitOn_joined otherSeparable nonempty]
  · rintro ⟨front, frontNonempty, rfl⟩
    rw [joined_append frontNonempty nonempty]
    exact List.suffix_append _ _

end

/-! ### Words that have the separator -/

/-- The pieces of all words, cut at every separator. -/
def pieces (separator : Letter) (words : List (List Letter)) :
    List (List Letter) :=
  words.flatMap (·.splitOn separator)

theorem splitOn_joined_pieces (nonempty : words ≠ []) :
    (joined separator words).splitOn separator = pieces separator words := by
  induction words with
  | nil => exact absurd rfl nonempty
  | cons first rest ih =>
      cases rest with
      | nil =>
          rw [joined_singleton, pieces, List.flatMap_cons, List.flatMap_nil,
            List.append_nil]
      | cons second rest =>
          rw [joined_cons_cons, List.splitOn_append_cons_self,
            ih (List.cons_ne_nil _ _)]
          rfl

/-- Joined words are alike exactly if their pieces are. -/
theorem joined_eq_joined_iff (nonempty : words ≠ [])
    (othersNonempty : others ≠ []) :
    joined separator words = joined separator others ↔
      pieces separator words = pieces separator others := by
  rw [← splitOn_joined_pieces nonempty, ← splitOn_joined_pieces othersNonempty]
  refine ⟨fun same => same ▸ rfl, fun same => ?_⟩
  have back := congrArg [separator].intercalate same
  rwa [List.intercalate_splitOn, List.intercalate_splitOn] at back

end OpenSnow.Foundation.JoinedWords
