import OpenSnow.Core.AlterLayouts
import OpenSnow.Core.CopyLayouts
import OpenSnow.Core.CreationLayouts
import OpenSnow.Core.TableLayouts
import OpenSnow.Core.WarehouseLayouts

/-!
# Which layouts keep the command

The dispatch of a documented command survives every change of the letter case of
its keywords and every leading comment, but not every gap between its keywords
and not every semicolon behind it.
-/

namespace OpenSnow.Core.Commands

/-- The layouts that are dispatched like the documented one. -/
def Statement.Keeps (statement : Statement)
    (layout : Layout statement.pieces) : Prop :=
  match statement with
  | .copyInto table _ =>
      (layout.gap 0).head? = some ' ' ∧
        (EndsInFrom table.text → layout.spelled[3]? = some "FROM".toList)
  | .dropTable _ _ =>
      (layout.gap 0 = [' '] ∧ (layout.gap 1).head? = some ' ') ∧
        layout.EndsFree
  | .alterWarehouse name action =>
      layout.gap 0 = [' '] ∧ (action.Reads name → layout.EndsFree)
  | .useWarehouse _ => layout.gap 0 = [' '] ∧ layout.EndsFree
  | .createWarehouse name options =>
      layout.gap 0 = [' '] ∧
        (options = [] → Rust.Text.utf8Len name.text ≤ 128 →
          StripsOff layout.trailer)
  | .createMaterializedView name query =>
      ReadsCreation name.text query.text →
        EndsStatement query.text layout.trailer
  | .refreshMaterializedView _ =>
      (layout.gap 0 = [' '] ∧ layout.gap 1 = [' ']) ∧
        StripsOff layout.trailer
  | .dropMaterializedView _ =>
      (layout.gap 0 = [' '] ∧ layout.gap 1 = [' ']) ∧
        StripsOff layout.trailer
  | .createTable name query =>
      ¬ SaysExternal name.text query.text ∧
          ReadsCreation name.text query.text →
        EndsStatement query.text layout.trailer

/-- A layout is dispatched like the documented one exactly if it keeps it. -/
theorem sameDispatch_iff_keeps (statement : Statement)
    (layout : Layout statement.pieces) :
    SameDispatch layout.text statement.documented.text ↔
      statement.Keeps layout := by
  cases statement with
  | copyInto table path => exact copyInto_sameDispatch layout
  | dropTable ifExists table => exact dropTable_sameDispatch layout
  | alterWarehouse name action => exact alterWarehouse_sameDispatch layout
  | useWarehouse name => exact useWarehouse_sameDispatch layout
  | createWarehouse name options => exact createWarehouse_sameDispatch layout
  | createMaterializedView name query =>
      exact createMaterializedView_sameDispatch layout
  | refreshMaterializedView name =>
      exact refreshMaterializedView_sameDispatch layout
  | dropMaterializedView name => exact dropMaterializedView_sameDispatch layout
  | createTable name query => exact createTable_sameDispatch layout

/-- `DROP` and `TABLE` with a tab between them. -/
def tabbedDrop :
    Layout (Statement.dropTable false
      ⟨"orders".toList, List.all_eq_true.mp (by decide), by decide⟩).pieces where
  lead := []
  isLead := .nil
  spelled := ["DROP".toList, "TABLE".toList, "orders".toList]
  spells :=
    .cons ⟨by decide, by decide, by decide⟩
      (.cons ⟨by decide, by decide, by decide⟩ (.cons rfl .nil))
  gaps := [⟨['\t'], List.cons_ne_nil _ _, by simp [Rust.Text.isWhitespace]⟩, .one]
  gapCount := rfl
  trailer := []
  isTrailer := isTrailer_nil

/-- A tab sends the removal of a table to the query engine. -/
theorem tabbed_drop_not_dispatched :
    ¬ ∀ (statement : Statement) (layout : Layout statement.pieces),
      SameDispatch layout.text statement.documented.text := by
  intro invariant
  have same := invariant _ tabbedDrop
  have handlers := same.handler
  revert handlers
  decide

end OpenSnow.Core.Commands
