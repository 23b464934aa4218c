import Mathlib.Data.String.Basic
import Mathlib.Tactic.Common

/-!
# Rust path primitives

The parts of `std::path` that OpenSnow uses, on the text of a path.
-/

namespace OpenSnow.Rust.Path

/-- `Path::join`: an absolute component replaces the path. -/
def joinPath (path component : String) : String :=
  if component.toList.head? = some '/' then component
  else if path = "" ∨ path.toList.getLast? = some '/' then path ++ component
  else path ++ "/" ++ component

/--
`Path::extension` of a file name: what follows the last dot, unless the name
has no dot or only a leading one.
-/
def extension (name : String) : Option String :=
  if name = ".." then none
  else
    let backwards := name.toList.reverse
    let suffix := backwards.takeWhile (· != '.')
    match backwards.drop suffix.length with
    | [] => none
    | [_] => none
    | _ => some (String.ofList suffix.reverse)

/-- A name with a proper stem has what follows its last dot as extension. -/
theorem extension_append {stem suffix : String}
    (stemNonempty : stem.toList ≠ []) (suffixNonempty : suffix.toList ≠ [])
    (noDot : '.' ∉ suffix.toList) :
    extension (stem ++ "." ++ suffix) = some suffix := by
  have chars :
      (stem ++ "." ++ suffix).toList =
        stem.toList ++ '.' :: suffix.toList := by
    have dot : ".".toList = ['.'] := rfl
    simp [String.toList_append, dot]
  have notDots : stem ++ "." ++ suffix ≠ ".." := by
    intro dots
    have lengths := congrArg (List.length ∘ String.toList) dots
    have two : (List.length ∘ String.toList) ".." = 2 := rfl
    have stemLength := List.length_pos_of_ne_nil stemNonempty
    have suffixLength := List.length_pos_of_ne_nil suffixNonempty
    rw [two, Function.comp_apply, chars, List.length_append,
      List.length_cons] at lengths
    omega
  have suffixTaken :
      (suffix.toList.reverse ++ '.' :: stem.toList.reverse).takeWhile
          (· != '.') =
        suffix.toList.reverse := by
    rw [List.takeWhile_append_of_pos]
    · simp
    · intro ch member
      rw [bne_iff_ne]
      rintro rfl
      exact noDot (List.mem_reverse.mp member)
  have backwards :
      (stem ++ "." ++ suffix).toList.reverse =
        suffix.toList.reverse ++ '.' :: stem.toList.reverse := by
    rw [chars]
    simp
  rw [extension, if_neg notDots]
  dsimp only
  rw [backwards, suffixTaken, List.drop_left]
  cases stemBackwards : stem.toList.reverse with
  | nil => exact absurd (List.reverse_eq_nil_iff.mp stemBackwards) stemNonempty
  | cons last rest => simp

/-!
## The directories that paths name

A path is followed name by name: an empty name and `.` stay in a directory,
`..` leaves it, and every other name enters a directory of that name.  A
directory is the list of the names that lead to it from the root, so links
between directories are left out.
-/

/-- A name that a directory can have. -/
def ProperName (name : String) : Prop :=
  name ≠ "" ∧ name ≠ "." ∧ name ≠ ".." ∧ '/' ∉ name.toList

instance : DecidablePred ProperName := fun _ =>
  inferInstanceAs (Decidable (_ ∧ _))

/-- A directory, by the names on the way to it. -/
structure Directory where
  names : List String
  proper : ∀ name ∈ names, ProperName name
deriving DecidableEq

namespace Directory

def root : Directory where
  names := []
  proper := nofun

/-- The directory that a name leads to. -/
def enter (directory : Directory) (name : String) : Directory :=
  if isProper : ProperName name then
    { names := directory.names ++ [name]
      proper := by
        intro other member
        rcases List.mem_append.mp member with inside | isLast
        · exact directory.proper other inside
        · rw [List.mem_singleton.mp isLast]
          exact isProper }
  else if name = ".." then
    { names := directory.names.dropLast
      proper := fun other member =>
        directory.proper other ((List.dropLast_sublist _).subset member) }
  else directory

/-- Follow a text from a directory, in the middle of a name. -/
def walk (directory : Directory) (name : List Char) : List Char → Directory
  | [] => directory.enter (String.ofList name)
  | ch :: rest =>
      if ch = '/' then (directory.enter (String.ofList name)).walk [] rest
      else directory.walk (name ++ [ch]) rest

/-- The directory that a path names, for a process in a directory. -/
def resolve (current : Directory) (path : String) : Directory :=
  if path.toList.head? = some '/' then root.walk [] path.toList
  else current.walk [] path.toList

variable {directory : Directory}

theorem names_enter {name : String} (isProper : ProperName name) :
    (directory.enter name).names = directory.names ++ [name] := by
  rw [enter, dif_pos isProper]

@[simp]
theorem enter_empty : directory.enter "" = directory := by
  rw [enter, dif_neg fun isProper => isProper.1 rfl, if_neg (by decide)]

theorem walk_append (front back name : List Char) :
    directory.walk name (front ++ '/' :: back) =
      (directory.walk name front).walk [] back := by
  induction front generalizing directory name with
  | nil =>
      rw [List.nil_append, walk, walk]
      exact if_pos rfl
  | cons ch rest ih =>
      rw [List.cons_append, walk, walk]
      split_ifs with separates
      · exact ih []
      · exact ih (name ++ [ch])

theorem walk_of_plain {text : List Char} (plain : '/' ∉ text)
    (name : List Char) :
    directory.walk name text =
      directory.enter (String.ofList (name ++ text)) := by
  induction text generalizing name with
  | nil => rw [walk, List.append_nil]
  | cons ch rest ih =>
      rw [List.mem_cons, not_or] at plain
      rw [walk, if_neg (Ne.symm plain.1), ih plain.2, List.append_assoc]
      rfl

theorem walk_of_proper {name : String} (isProper : ProperName name) :
    (directory.walk [] name.toList).names = directory.names ++ [name] := by
  rw [walk_of_plain isProper.2.2.2, List.nil_append, String.ofList_toList,
    names_enter isProper]

/-- A relative component is followed from where the path leads. -/
theorem resolve_joinPath (current : Directory) (path : String)
    {component : String} (relative : component.toList.head? ≠ some '/') :
    current.resolve (joinPath path component) =
      (current.resolve path).walk [] component.toList := by
  rw [joinPath, if_neg relative]
  by_cases empty : path = ""
  · rw [if_pos (Or.inl empty), empty, String.empty_append, resolve,
      if_neg relative]
    have here : current.resolve "" = current := enter_empty
    rw [here]
  · have nonempty : path.toList ≠ [] := fun noChars =>
      empty (String.toList_eq_nil_iff.mp noChars)
    have same : ∀ rest : List Char,
        (path.toList ++ rest).head? = path.toList.head? :=
      fun rest => List.head?_append_of_ne_nil _ nonempty
    by_cases ends : path.toList.getLast? = some '/'
    · obtain ⟨front, isPath⟩ : ∃ front, path.toList = front ++ ['/'] :=
        ⟨_, (List.dropLast_append_getLast? _ ends).symm⟩
      rw [if_pos (Or.inr ends), resolve, resolve, String.toList_append, same]
      have followed : ∀ start : Directory,
          start.walk [] (path.toList ++ component.toList) =
            (start.walk [] path.toList).walk [] component.toList := by
        intro start
        rw [isPath, List.append_assoc, List.singleton_append, walk_append,
          walk_append]
        have stays : (start.walk [] front).walk [] [] =
            start.walk [] front := enter_empty
        rw [stays]
      rw [followed, followed]
      split_ifs <;> rfl
    · rw [if_neg (not_or.mpr ⟨empty, ends⟩), resolve, resolve,
        String.toList_append, String.toList_append, List.append_assoc, same]
      have slash : "/".toList ++ component.toList =
          '/' :: component.toList := rfl
      rw [slash, walk_append, walk_append]
      split_ifs <;> rfl

theorem relative_of_proper {name : String} (isProper : ProperName name) :
    name.toList.head? ≠ some '/' :=
  fun absolute => isProper.2.2.2 (List.mem_of_mem_head? absolute)

end Directory

end OpenSnow.Rust.Path
