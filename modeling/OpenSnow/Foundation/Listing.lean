import Mathlib.Data.Finmap
import Mathlib.Data.Finset.Max
import Mathlib.Data.String.Basic

/-!
# Directories

A directory is a finite map from file names to contents.  Listing it gives the
names in no particular order; the *latest* file is the one whose name comes
last in the dictionary among the names that are wanted.
-/

namespace OpenSnow.Foundation.Listing

variable {Content : Type*}

/-- File names with their contents. -/
abbrev Directory (Content : Type*) := Finmap fun _ : String => Content

/-- The greatest wanted name, as sorting the listing and taking its end. -/
def latest (wanted : String → Bool) (directory : Directory Content) :
    Option String :=
  (directory.keys.filter fun name => wanted name = true).max

variable {wanted : String → Bool} {directory : Directory Content}

theorem latest_eq_some_iff {name : String} :
    latest wanted directory = some name ↔
      (name ∈ directory ∧ wanted name = true) ∧
        ∀ other ∈ directory, wanted other = true → other ≤ name := by
  constructor
  · intro isLatest
    constructor
    · have member := Finset.mem_of_max isLatest
      rwa [Finset.mem_filter, Finmap.mem_keys] at member
    · intro other present isWanted
      apply Finset.le_max_of_eq _ isLatest
      rw [Finset.mem_filter, Finmap.mem_keys]
      exact ⟨present, isWanted⟩
  · rintro ⟨⟨present, isWanted⟩, greatest⟩
    have member :
        name ∈ directory.keys.filter fun name => wanted name = true := by
      rw [Finset.mem_filter, Finmap.mem_keys]
      exact ⟨present, isWanted⟩
    rcases Finset.max_of_mem member with ⟨top, isTop⟩
    have topMember := Finset.mem_of_max isTop
    rw [Finset.mem_filter, Finmap.mem_keys] at topMember
    have same : top = name :=
      le_antisymm (greatest top topMember.1 topMember.2)
        (Finset.le_max_of_eq member isTop)
    rw [latest, isTop, same]
    rfl

/-- A file written under a name that is not below any other is the latest. -/
theorem latest_insert {name : String} (content : Content)
    (isWanted : wanted name = true) :
    latest wanted (directory.insert name content) = some name ↔
      ∀ other ∈ directory, wanted other = true → other ≤ name := by
  rw [latest_eq_some_iff]
  constructor
  · rintro ⟨-, greatest⟩ other present otherWanted
    exact greatest other (Finmap.mem_insert.mpr (Or.inr present)) otherWanted
  · intro greatest
    refine ⟨⟨Finmap.mem_insert.mpr (Or.inl rfl), isWanted⟩, ?_⟩
    intro other present otherWanted
    rcases Finmap.mem_insert.mp present with same | old
    · rw [same]
    · exact greatest other old otherWanted

end OpenSnow.Foundation.Listing
