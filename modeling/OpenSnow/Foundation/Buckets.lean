import Mathlib.Data.List.Basic
import Mathlib.Tactic.Common

/-!
# Rows in numbered buckets

Every row is in one numbered bucket at most.  The buckets below a bound, put
behind each other, hold the rows that are in one of them, each as often as
before.
-/

namespace OpenSnow.Foundation.Buckets

variable {Row : Type}

/-- The rows of one bucket. -/
def bucketRows (bucket : Row → Option Nat) (rows : List Row) (index : Nat) :
    List Row :=
  rows.filter fun row => bucket row = some index

/-- The rows of the buckets below a bound. -/
def rowsBelow (bucket : Row → Option Nat) (rows : List Row) (bound : Nat) :
    List Row :=
  rows.filter fun row => (bucket row).any (· < bound)

variable {bucket : Row → Option Nat} {rows : List Row}

theorem mem_bucketRows {row : Row} {index : Nat} :
    row ∈ bucketRows bucket rows index ↔
      row ∈ rows ∧ bucket row = some index := by
  rw [bucketRows, List.mem_filter, decide_eq_true_iff]

/-- One more bucket adds its own rows. -/
theorem rowsBelow_succ (bound : Nat) :
    (rowsBelow bucket rows bound ++ bucketRows bucket rows bound).Perm
      (rowsBelow bucket rows (bound + 1)) := by
  have before :
      (rowsBelow bucket rows (bound + 1)).filter
          (fun row => (bucket row).any (· < bound)) =
        rowsBelow bucket rows bound := by
    rw [rowsBelow, rowsBelow, List.filter_filter]
    apply List.filter_congr
    intro row _
    cases bucket row with
    | none => rfl
    | some index =>
        simp only [Option.any_some, Bool.and_eq_left_iff_imp,
          decide_eq_true_eq]
        omega
  have here :
      (rowsBelow bucket rows (bound + 1)).filter
          (fun row => !(bucket row).any (· < bound)) =
        bucketRows bucket rows bound := by
    rw [rowsBelow, bucketRows, List.filter_filter]
    apply List.filter_congr
    intro row _
    cases bucket row with
    | none => rfl
    | some index =>
        rw [Bool.eq_iff_iff]
        simp only [Option.any_some, Bool.and_eq_true, Bool.not_eq_true',
          decide_eq_false_iff_not, decide_eq_true_eq, Option.some.injEq]
        omega
  rw [← before, ← here]
  exact List.filter_append_perm _ _

/-- The buckets below a bound together. -/
theorem perm_rowsBelow (bucket : Row → Option Nat) (rows : List Row)
    (bound : Nat) :
    ((List.range bound).flatMap (bucketRows bucket rows)).Perm
      (rowsBelow bucket rows bound) := by
  induction bound with
  | zero =>
      have none : rowsBelow bucket rows 0 = [] := by
        apply List.filter_eq_nil_iff.mpr
        intro row _
        cases bucket row <;> simp
      rw [none]
      exact List.Perm.refl []
  | succ bound ih =>
      rw [List.range_succ, List.flatMap_append, List.flatMap_singleton]
      exact (ih.append_right _).trans (rowsBelow_succ bound)

/-- When every row is in a bucket below the bound, the buckets hold all rows. -/
theorem perm_of_forall {bound : Nat}
    (all : ∀ row ∈ rows, ∃ index < bound, bucket row = some index) :
    ((List.range bound).flatMap (bucketRows bucket rows)).Perm rows := by
  have everything : rowsBelow bucket rows bound = rows := by
    apply List.filter_eq_self.mpr
    intro row member
    obtain ⟨index, below, found⟩ := all row member
    rw [found]
    exact decide_eq_true below
  have together := perm_rowsBelow bucket rows bound
  rwa [everything] at together

end OpenSnow.Foundation.Buckets
