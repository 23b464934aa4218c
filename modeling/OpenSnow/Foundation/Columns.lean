import Mathlib.Data.List.Sort
import Mathlib.Data.String.Basic

/-!
# Rows ordered by a column

Rows that differ in the column have one order only, whatever order they are
read in.
-/

namespace OpenSnow.Foundation

variable {Row Other Column : Type} [LinearOrder Column]

/-- `ORDER BY` a column; equal rows stay in the order they are read in. -/
def orderBy (column : Row → Column) (rows : List Row) : List Row :=
  rows.insertionSort fun left right => column left ≤ column right

variable {column : Row → Column}

theorem mem_orderBy {rows : List Row} {row : Row} :
    row ∈ orderBy column rows ↔ row ∈ rows :=
  List.mem_insertionSort _

theorem pairwise_orderBy (column : Row → Column) (rows : List Row) :
    (orderBy column rows).Pairwise fun left right =>
      column left ≤ column right := by
  have total : Std.Total fun left right : Row => column left ≤ column right :=
    ⟨fun left right => le_total (column left) (column right)⟩
  have transitive :
      IsTrans Row fun left right => column left ≤ column right :=
    ⟨fun _ _ _ below above => below.trans above⟩
  exact List.pairwise_insertionSort _ rows

/-- The first of the wanted rows is the lowest of them. -/
theorem find?_orderBy {rows : List Row} {wanted : Row → Bool} {row : Row}
    (found : (orderBy column rows).find? wanted = some row) :
    row ∈ rows ∧ wanted row ∧
      ∀ other ∈ rows, wanted other → column row ≤ column other := by
  obtain ⟨isWanted, front, back, whole, unwanted⟩ :=
    List.find?_eq_some_iff_append.mp found
  have ordered := pairwise_orderBy column rows
  rw [whole, List.pairwise_append, List.pairwise_cons] at ordered
  refine ⟨mem_orderBy.mp (List.mem_of_find?_eq_some found), isWanted, ?_⟩
  intro other member otherWanted
  have member : other ∈ orderBy column rows := mem_orderBy.mpr member
  rw [whole, List.mem_append, List.mem_cons] at member
  rcases member with earlier | rfl | later
  · exact absurd otherWanted (by simpa using unwanted other earlier)
  · exact le_refl _
  · exact ordered.2.1.1 other later

/-- Two readings of the same rows are ordered alike. -/
theorem orderBy_eq_of_perm {left right : List Row} (same : left.Perm right)
    (distinct : ∀ row ∈ left, ∀ other ∈ left,
      column row = column other → row = other) :
    orderBy column left = orderBy column right := by
  have ordered : (orderBy column left).Perm (orderBy column right) :=
    ((List.perm_insertionSort _ left).trans same).trans
      (List.perm_insertionSort _ right).symm
  refine ordered.eq_of_pairwise ?_ (pairwise_orderBy column left)
    (pairwise_orderBy column right)
  intro row other isRow isOther below above
  exact distinct row (mem_orderBy.mp isRow) other
    (same.mem_iff.mpr (mem_orderBy.mp isOther)) (le_antisymm below above)

/-- Rows may be changed before or after they are ordered. -/
theorem orderBy_map {column' : Other → Column} {change : Row → Other}
    (kept : ∀ row, column' (change row) = column row) (rows : List Row) :
    orderBy column' (rows.map change) = (orderBy column rows).map change := by
  unfold orderBy
  refine (List.map_insertionSort _ _ change rows ?_).symm
  intro row _ other _
  rw [kept, kept]

end OpenSnow.Foundation
