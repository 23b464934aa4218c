import OpenSnow.Core.Execution
import OpenSnow.Core.Walks

/-!
# Statements that the engine can read

A panic ends the one thread that runs the engine.  Most readers slice a text
only where they found something in it.  Some handlers cut off as many bytes as
their keywords have in ASCII, and `COPY INTO` cuts at offsets that it found in
the upper-case copy, in an order that it does not check.
-/

namespace OpenSnow.Core

open Core.Commands
open Rust.Text

/-! ## Offsets of operands -/

/--
The offsets of `COPY INTO`, found in the upper-case copy of the text: `INTO`, or
the start of the text, stands before `FROM`, and the text itself can be cut
behind the one, before the other and, when the name between them is safe,
behind the other.
-/
def CopyOffsetsFit (text : List Char) : Prop :=
  3 ≤ text.countP isWhitespace →
    ∀ fromPos, find "FROM".toList (upperChars text) = some fromPos →
      ∃ before name after, text = before ++ (name ++ after) ∧
        utf8Len before =
          (find "INTO".toList (upperChars text)).getD 0 + 4 ∧
        utf8Len before + utf8Len name = fromPos ∧
        (isSafeUnqualifiedIdentifier (trim name) →
          IsBoundary text (fromPos + 4))

/--
No slice that the handler of a text takes lies across a character or ends
before it starts.
-/
def OperandsInBounds (text : List Char) : Prop :=
  match chosenHandler text with
  | some .createWarehouse => IsBoundary text "CREATE WAREHOUSE".length
  | some .alterWarehouse => IsBoundary text "ALTER WAREHOUSE".length
  | some .useWarehouse => IsBoundary text "USE WAREHOUSE".length
  | some .refreshMaterializedView =>
      IsBoundary text "REFRESH MATERIALIZED VIEW".length
  | some .dropMaterializedView =>
      IsBoundary text "DROP MATERIALIZED VIEW".length
  | some .copyInto => CopyOffsetsFit text
  | _ => True

theorem setState_isSome (upperRest : List Char) :
    (setState upperRest).isSome := by
  rw [setState]
  split
  · rfl
  · rename_i setPos found
    rcases sliceFrom_find found with ⟨rest, sliced⟩
    have length : utf8Len "SET".toList = 3 := rfl
    rw [length] at sliced
    rw [sliced, Option.bind_some]
    dsimp only
    split
    · rfl
    · split
      · rfl
      · rename_i eqPos foundEq
        rcases sliceFrom_find foundEq with ⟨value, slicedEq⟩
        have one : utf8Len ['='] = 1 := rfl
        rw [one] at slicedEq
        rw [slicedEq]
        rfl

variable {text : List Char}

theorem alterWarehouseOperands_isSome_iff :
    (alterWarehouseOperands text).isSome ↔
      IsBoundary text "ALTER WAREHOUSE".length := by
  rw [← sliceFrom_isSome_iff, alterWarehouseOperands]
  cases sliceFrom text "ALTER WAREHOUSE".length with
  | none => rfl
  | some rest =>
      simp only [Option.bind_eq_bind, Option.bind_some]
      split
      · rfl
      · split
        · rfl
        · split
          · rfl
          · rename_i name _ _ _
            rcases Option.isSome_iff_exists.mp
                (setState_isSome (upperChars (trim rest))) with
              ⟨state, read⟩
            rw [read]
            rfl

/-- The quotes around a path are found before they are cut off. -/
theorem sourcePath_isSome (rest : List Char) : (sourcePath rest).isSome := by
  rw [sourcePath.eq_def]
  cases rest with
  | nil => rfl
  | cons quote inner =>
      simp only [List.head?_cons]
      split
      · rename_i isQuote
        have one : quote.utf8Size = 1 := by
          rcases isQuote with rfl | rfl <;> rfl
        have behind : sliceFrom (quote :: inner) 1 = some inner :=
          sliceFrom_eq_some_iff.mpr ⟨[quote], rfl, by simp [one]⟩
        simp only [Option.bind_eq_bind]
        rw [behind, Option.bind_some]
        rcases found : find [quote] inner with _ | stop
        · have whole :
              slice (quote :: inner) 1 (utf8Len (quote :: inner) - 1 + 1) =
                some inner :=
            slice_eq_some_iff.mpr
              ⟨[quote], [], by simp, by simp [one], by simp [one]; omega⟩
          rw [Option.getD_none, whole]
          rfl
        · rcases find_eq_some found with ⟨path, after, shape, length⟩
          have cut :
              slice (quote :: inner) 1 (stop + 1) = some path :=
            slice_eq_some_iff.mpr
              ⟨[quote], [quote] ++ after, by rw [shape]; rfl, by simp [one],
                by omega⟩
          rw [Option.getD_some, cut]
          rfl
      · rfl

theorem copyIntoOperands_isSome_iff :
    (copyIntoOperands text).isSome ↔ CopyOffsetsFit text := by
  rw [copyIntoOperands]
  by_cases short : splitnLength 5 text < 4
  · rw [if_pos short]
    rw [splitnLength] at short
    simp only [Option.isSome_some, true_iff]
    intro blanks
    omega
  · rw [if_neg short]
    rw [splitnLength] at short
    have blanks : 3 ≤ text.countP isWhitespace := by omega
    rw [CopyOffsetsFit]
    simp only [blanks, forall_const]
    cases found : find "FROM".toList (upperChars text) with
    | none => simp
    | some fromPos =>
        simp only [Option.some.injEq, forall_eq', Option.bind_eq_bind]
        constructor
        · intro returns
          rcases Option.isSome_iff_exists.mp returns with ⟨result, read⟩
          rcases Option.bind_eq_some_iff.mp read with ⟨name, cut, behind⟩
          rcases slice_eq_some_iff.mp cut with
            ⟨before, after, shape, start, stop⟩
          refine ⟨before, name, after, shape, start, by omega, ?_⟩
          intro safe
          rw [validateOutputTableIdentifier, validateIdentifier,
            if_pos safe] at behind
          rcases Option.bind_eq_some_iff.mp behind with ⟨rest, sliced, -⟩
          rw [← sliceFrom_isSome_iff, sliced]
          rfl
        · rintro ⟨before, name, after, shape, start, stop, behind⟩
          have cut :
              slice text
                  ((find "INTO".toList (upperChars text)).getD 0 + 4)
                  fromPos =
                some name :=
            slice_eq_some_iff.mpr ⟨before, after, shape, start, by omega⟩
          rw [cut, Option.bind_some, validateOutputTableIdentifier,
            validateIdentifier]
          by_cases safe : isSafeUnqualifiedIdentifier (trim name)
          · rw [if_pos safe]
            rcases Option.isSome_iff_exists.mp
                (sliceFrom_isSome_iff.mpr (behind safe)) with
              ⟨rest, sliced⟩
            rcases Option.isSome_iff_exists.mp
                (sourcePath_isSome (trim rest)) with
              ⟨path, read⟩
            simp only [sliced, read, Option.bind_some, Option.isSome_some]
          · rw [if_neg safe]
            rfl

theorem ctasOperands_isSome
    (creates : createsTable text) : (ctasOperands text).isSome := by
  rw [createsTable] at creates
  cases follows : afterKeywords text ["CREATE", "TABLE"] with
  | none =>
      rw [follows] at creates
      cases creates
  | some rest =>
      rw [follows] at creates
      simp only [Bool.and_eq_true] at creates
      rcases Option.isSome_iff_exists.mp creates.2 with
        ⟨⟨front, behind⟩, clause⟩
      rw [ctasOperands_eq follows clause]
      split
      · rfl
      · rw [Option.isSome_map]
        exact validateMaterializationQuery_isSome _ _

theorem createMaterializedViewOperands_isSome (text : List Char) :
    (createMaterializedViewOperands text).isSome := by
  cases follows :
      afterKeywords text ["CREATE", "MATERIALIZED", "VIEW"] with
  | none =>
      rw [createMaterializedViewOperands, keywordSequenceEnd_eq, follows]
      rfl
  | some rest =>
      rw [createMaterializedViewOperands_eq follows]
      split
      · rfl
      · rw [Option.isSome_map]
        exact validateMaterializationQuery_isSome _ _

theorem operands_isSome_iff {handler : Handler}
    (chosen : chosenHandler text = some handler) :
    (operands handler text).isSome ↔ OperandsInBounds text := by
  rw [OperandsInBounds, chosen]
  cases handler with
  | createWarehouse =>
      rw [operands, createWarehouseOperands, Option.isSome_map]
      exact sliceFrom_isSome_iff
  | alterWarehouse => exact alterWarehouseOperands_isSome_iff
  | useWarehouse =>
      rw [operands, useWarehouseOperands, Option.isSome_map]
      exact sliceFrom_isSome_iff
  | refreshMaterializedView =>
      rw [operands, refreshMaterializedViewOperands, viewOperand,
        Option.isSome_map]
      exact sliceFrom_isSome_iff
  | dropMaterializedView =>
      rw [operands, dropMaterializedViewOperands, viewOperand,
        Option.isSome_map]
      exact sliceFrom_isSome_iff
  | copyInto => exact copyIntoOperands_isSome_iff
  | ctas =>
      rw [operands, ctasOperands_isSome (createsTable_of_chosen chosen)]
      exact iff_of_true rfl trivial
  | createMaterializedView =>
      rw [operands, createMaterializedViewOperands_isSome text]
      exact iff_of_true rfl trivial
  | showWarehouses => simp [operands]
  | showTables => simp [operands]
  | showDatabases => simp [operands]
  | describe => simp [operands]
  | dropTable => simp [operands]

variable {Row Key Location Contents : Type} [DecidableEq Key]
  [DecidableEq Location] (platform : Platform Row Key Location Contents)

/--
A command answers, with a result or with an error, exactly on the texts whose
operands can be cut out.
-/
theorem handleCommand_returns_iff (sql : String) :
    (handleCommand platform sql).isSome ↔
      OperandsInBounds (stripped sql.toList) := by
  rw [handleCommand, Option.isSome_map, dispatch_eq]
  cases chosen : chosenHandler (stripped sql.toList) with
  | none => simp [OperandsInBounds, chosen]
  | some handler =>
      simp only [Option.isSome_map]
      exact operands_isSome_iff chosen

/-- `INTO` behind `FROM`. -/
theorem from_before_into_panics :
    ¬ ∀ sql, (handleCommand smallPlatform sql).isSome := by
  intro returns
  have answered := returns "COPY a FROM b INTO c"
  revert answered
  decide

end OpenSnow.Core
