import OpenSnow.Core.LayoutOperands
import OpenSnow.Rust.Search

/-!
# Layouts of commands that name one object

`REFRESH` and `DROP MATERIALIZED VIEW` take semicolons off the end of the text,
`DROP TABLE` takes the word that it finds at the place of the name.
-/

namespace OpenSnow.Core.Commands

open Foundation
open Rust.Text

variable {name : Identifier}

/-! ## Materialized views -/

section Views

theorem Layout.view_code {keyword : String}
    (layout : Layout
      [.keyword keyword, .keyword "MATERIALIZED", .keyword "VIEW",
        .fixed name.text]) :
    ∃ (first materialized view : List Char) (gap later last : Gap),
      Spells first keyword ∧ Spells materialized "MATERIALIZED" ∧
        Spells view "VIEW" ∧ layout.gap 0 = gap.text ∧
        layout.gap 1 = later.text ∧
        layout.code =
          first ++ (gap.text ++ (materialized ++ (later.text ++
            (view ++ (last.text ++ (name.text ++ layout.trailer)))))) := by
  rcases layout.opened with ⟨first, gap, second, spells, code, gaps, trailer, -⟩
  rcases second.opened with
    ⟨materialized, later, third, spellsMaterialized, codeSecond, gapsSecond,
      trailerSecond, -⟩
  rcases third.opened with
    ⟨view, last, final, spellsView, codeThird, -, trailerThird, -⟩
  rcases final.last with ⟨_, rfl, codeFinal⟩
  refine
    ⟨first, materialized, view, gap, later, last, spells, spellsMaterialized,
      spellsView, ?_, ?_, ?_⟩
  · rw [Layout.gap, gaps]
    rfl
  · rw [Layout.gap, gaps, gapsSecond]
    rfl
  · rw [code, codeSecond, codeThird, codeFinal, trailerThird, trailerSecond,
      trailer]

/-- The operand of a layout whose keywords are one blank apart. -/
theorem Layout.view_operand {keyword keywords : String}
    {make : String → Command}
    (layout : Layout
      [.keyword keyword, .keyword "MATERIALIZED", .keyword "VIEW",
        .fixed name.text])
    (one : layout.gap 0 = [' '] ∧ layout.gap 1 = [' '])
    (words : keywords.toList =
      keyword.toList ++ ' ' :: ("MATERIALIZED".toList ++ ' ' :: "VIEW".toList)) :
    viewOperand keywords make layout.code =
      some
        (.ok (make (String.ofList (name.text ++ stuckTrimmed layout.trailer)))) := by
  rcases layout.view_code with
    ⟨first, materialized, view, gap, later, last, spells, spellsMaterialized,
      spellsView, gapFirst, gapSecond, code⟩
  rw [gapFirst, gapSecond] at one
  rw [viewOperand, code, one.1, one.2,
    sliceFrom_three spells spellsMaterialized spellsView words,
    Option.map_some,
    firstWord_trimStatement last.blank name.ne_nil name.isIdentifier.named]

/-- The operand is the documented one if the semicolons come off. -/
theorem view_operand_iff {make : String → Command} {trailer : List Char}
    (injective : Function.Injective make) (isTrailer : IsTrailer trailer) :
    make (String.ofList (name.text ++ stuckTrimmed trailer)) =
        make (String.ofList (name.text ++ stuckTrimmed [])) ↔
      StripsOff trailer := by
  have own : stuckTrimmed [] = [] := rfl
  rw [injective.eq_iff, ← stuckTrimmed_eq_nil_iff isTrailer, own,
    ← String.toList_inj, String.toList_ofList, String.toList_ofList]
  simp

/-- A command on a view needs single blanks and a name that is left alone. -/
theorem view_sameDispatch {statement : Statement} {handler : Handler}
    {keyword keywords : String} {make : String → Command}
    (pieces : statement.pieces =
      [.keyword keyword, .keyword "MATERIALIZED", .keyword "VIEW",
        .fixed name.text])
    (chosen : ∀ {first materialized view : List Char} (gap later : Gap)
      (rest : List Char), Spells first keyword →
        Spells materialized "MATERIALIZED" → Spells view "VIEW" →
          chosenHandler
              (first ++ (gap.text ++
                (materialized ++ (later.text ++ (view ++ rest))))) =
            if gap.text = [' '] ∧ later.text = [' '] then some handler
            else none)
    (reads : operands handler = viewOperand keywords make)
    (words : keywords.toList =
      keyword.toList ++ ' ' :: ("MATERIALIZED".toList ++ ' ' :: "VIEW".toList))
    (injective : Function.Injective make)
    (layout : Layout statement.pieces) :
    SameDispatch layout.text statement.documented.text ↔
      (layout.gap 0 = [' '] ∧ layout.gap 1 = [' ']) ∧
        StripsOff layout.trailer := by
  have handlers : ∀ other : Layout statement.pieces,
      chosenHandler other.code =
        if other.gap 0 = [' '] ∧ other.gap 1 = [' '] then some handler
        else none := by
    rw [pieces]
    intro other
    rcases other.view_code with
      ⟨first, materialized, view, gap, later, last, spells, spellsMaterialized,
        spellsView, gapFirst, gapSecond, code⟩
    rw [gapFirst, gapSecond, code]
    exact chosen gap later _ spells spellsMaterialized spellsView
  have operand : ∀ other : Layout statement.pieces,
      other.gap 0 = [' '] ∧ other.gap 1 = [' '] →
        operands handler other.code =
          some
            (.ok
              (make
                (String.ofList (name.text ++ stuckTrimmed other.trailer)))) := by
    rw [pieces, reads]
    exact fun other one => other.view_operand one words
  have one : statement.documented.gap 0 = [' '] ∧
      statement.documented.gap 1 = [' '] :=
    ⟨Statement.documented_gap (by rw [pieces]; simp),
      Statement.documented_gap (by rw [pieces]; simp)⟩
  have own := handlers statement.documented
  rw [if_pos one] at own
  rw [sameDispatch_iff layout (handlers layout) own]
  apply and_congr_right
  intro fits
  have same := @view_operand_iff name make _ injective layout.isTrailer
  rw [operand _ fits, operand _ one, ← same]
  simp [Except.toOption, Statement.documented]

theorem refreshMaterializedView_sameDispatch
    (layout : Layout (Statement.refreshMaterializedView name).pieces) :
    SameDispatch layout.text
        (Statement.refreshMaterializedView name).documented.text ↔
      (layout.gap 0 = [' '] ∧ layout.gap 1 = [' ']) ∧
        StripsOff layout.trailer :=
  view_sameDispatch rfl
    (fun gap later _ spells => chosenHandler_refresh gap later spells) rfl
    (by decide) (fun _ _ => Command.refreshMaterializedView.inj) layout

theorem dropMaterializedView_sameDispatch
    (layout : Layout (Statement.dropMaterializedView name).pieces) :
    SameDispatch layout.text
        (Statement.dropMaterializedView name).documented.text ↔
      (layout.gap 0 = [' '] ∧ layout.gap 1 = [' ']) ∧
        StripsOff layout.trailer :=
  view_sameDispatch rfl
    (fun gap later _ spells => chosenHandler_dropView gap later spells) rfl
    (by decide) (fun _ _ => Command.dropMaterializedView.inj) layout

end Views

/-! ## DROP TABLE -/

section DropTable

/-- A name with what sticks to it has no quotes to take out. -/
theorem unquoted_name {name trailer : List Char}
    (named : ∀ ch ∈ name, isSqlIdentifierChar ch)
    (isTrailer : IsTrailer trailer) :
    (name ++ stuck trailer).filter (· ∉ ['\'', '"']) = name ++ stuck trailer := by
  rw [List.filter_eq_self]
  intro ch member
  rcases List.mem_append.mp member with inName | sticks
  · have noQuote := not_quote_of_isSqlIdentifierChar (named ch inName)
    simp [noQuote]
  · rw [stuck_semicolons isTrailer ch sticks]
    decide

/-- The words behind a name that ends a statement are semicolons. -/
theorem not_exists_of_trailer {trailer word : List Char}
    (isTrailer : IsTrailer trailer) (isWord : word ∈ fields isWhitespace trailer) :
    eqIgnoreCase word "exists" = false := by
  rw [Bool.eq_false_iff]
  intro isExists
  have spelled : word.map Char.toLower = "exists".toList.map Char.toLower := by
    rw [eqIgnoreCase, beq_iff_eq] at isExists
    exact isExists
  cases word with
  | nil => cases spelled
  | cons ch others =>
      have inText := mem_fields isWord ch List.mem_cons_self
      have isE : ch.toLower = 'e' := by
        rw [List.map_cons] at spelled
        exact (List.cons.inj spelled).1
      rcases isTrailer ch inText.1 with rfl | blank
      · revert isE
        decide
      · rw [inText.2] at blank
        cases blank

theorem dropTableOperands_plain {sql drop table : List Char}
    {others : List (List Char)} {trailer : List Char}
    (isTrailer : IsTrailer trailer)
    (tokens : splitWhitespace sql =
      drop :: table :: (name.text ++ stuck trailer) :: others)
    (behind : ∀ word ∈ others, eqIgnoreCase word "exists" = false) :
    dropTableOperands sql =
      .dropTable (String.ofList (name.text ++ stuck trailer)) := by
  have notExists : (others[0]?).any (eqIgnoreCase · "exists") = false := by
    cases others with
    | nil => rfl
    | cons word others => exact behind word List.mem_cons_self
  simp only [dropTableOperands, tokens, List.getElem?_cons_succ, notExists,
    Bool.and_false, Bool.false_eq_true, if_false, List.getElem?_cons_zero,
    Option.getD_some, unquoted_name name.isIdentifier.named isTrailer]

theorem dropTableOperands_ifExists {sql drop table ifWord existsWord : List Char}
    {others : List (List Char)} {trailer : List Char}
    (isTrailer : IsTrailer trailer) (spellsIf : Spells ifWord "IF")
    (spellsExists : Spells existsWord "EXISTS")
    (tokens : splitWhitespace sql =
      drop :: table :: ifWord :: existsWord :: (name.text ++ stuck trailer) ::
        others) :
    dropTableOperands sql =
      .dropTable (String.ofList (name.text ++ stuck trailer)) := by
  have isIf : eqIgnoreCase ifWord "if" := spellsIf.eqIgnoreCase
  have isExists : eqIgnoreCase existsWord "exists" := spellsExists.eqIgnoreCase
  have enough : 5 ≤ others.length + 1 + 1 + 1 + 1 + 1 := by omega
  simp only [dropTableOperands, tokens, List.getElem?_cons_succ,
    List.getElem?_cons_zero, Option.any_some, isIf, isExists, List.length_cons,
    decide_eq_true enough, Bool.and_true, if_true, Option.getD_some,
    unquoted_name name.isIdentifier.named isTrailer]

theorem fields_word {word rest : List Char} {keyword : String} (gap : Gap)
    (spells : Spells word keyword) :
    fields isWhitespace (word ++ (gap.text ++ rest)) =
      word :: fields isWhitespace rest := by
  rw [fields_run_append spells.ne_nil spells.not_blank (gap.stops rest),
    fields_breaks_append gap.blank]

theorem fields_last (name : Identifier) (trailer : List Char) :
    fields isWhitespace (name.text ++ trailer) =
      (name.text ++ stuck trailer) ::
        fields isWhitespace (trailer.dropWhile (!isWhitespace ·)) := by
  have words := @fields_name [] _ trailer blank_nil name.ne_nil name.solid
  rwa [List.nil_append] at words

/-- The name that `DROP TABLE` reads, with and without `IF EXISTS`. -/
theorem Layout.dropTable_reads {ifExists : Bool}
    (layout : Layout (Statement.dropTable ifExists name).pieces) :
    ∃ (drop table rest : List Char) (gap later : Gap),
      Spells drop "DROP" ∧ Spells table "TABLE" ∧ layout.gap 0 = gap.text ∧
        layout.gap 1 = later.text ∧
        layout.code = drop ++ (gap.text ++ (table ++ (later.text ++ rest))) ∧
        operands .dropTable layout.code =
          some
            (.ok
              (.dropTable
                (String.ofList (name.text ++ stuck layout.trailer)))) := by
  have isTrailer := layout.isTrailer
  have behind : ∀ word ∈ fields isWhitespace
      (layout.trailer.dropWhile (!isWhitespace ·)),
        eqIgnoreCase word "exists" = false := fun word member =>
    not_exists_of_trailer
      (fun ch inRest => isTrailer ch ((List.dropWhile_suffix _).subset inRest))
      member
  cases ifExists with
  | false =>
      rcases layout.opened with
        ⟨drop, gap, atTable, spellsDrop, code, gaps, trailer, -⟩
      rcases atTable.opened with
        ⟨table, later, final, spellsTable, codeTable, gapsTable, trailerTable, -⟩
      rcases final.last with ⟨_, rfl, last⟩
      have whole : layout.code =
          drop ++ (gap.text ++ (table ++ (later.text ++
            (name.text ++ layout.trailer)))) :=
        code.trans (by rw [codeTable, last, trailerTable, trailer])
      refine
        ⟨drop, table, name.text ++ layout.trailer, gap, later, spellsDrop,
          spellsTable, ?_, ?_, whole, ?_⟩
      · rw [Layout.gap, gaps]
        rfl
      · rw [Layout.gap, gaps, gapsTable]
        rfl
      · have tokens : splitWhitespace layout.code =
            drop :: table :: (name.text ++ stuck layout.trailer) ::
              fields isWhitespace
                (layout.trailer.dropWhile (!isWhitespace ·)) := by
          rw [splitWhitespace_eq, whole, fields_word gap spellsDrop,
            fields_word later spellsTable, fields_last]
        rw [operands, dropTableOperands_plain isTrailer tokens behind]
  | true =>
      rcases layout.opened with
        ⟨drop, gap, atTable, spellsDrop, code, gaps, trailer, -⟩
      rcases atTable.opened with
        ⟨table, later, atIf, spellsTable, codeTable, gapsTable, trailerTable, -⟩
      rcases atIf.opened with
        ⟨ifWord, third, atExists, spellsIf, codeIf, -, trailerIf, -⟩
      rcases atExists.opened with
        ⟨existsWord, fourth, final, spellsExists, codeExists, -, trailerExists, -⟩
      rcases final.last with ⟨_, rfl, last⟩
      have whole : layout.code =
          drop ++ (gap.text ++ (table ++ (later.text ++
            (ifWord ++ (third.text ++ (existsWord ++ (fourth.text ++
              (name.text ++ layout.trailer)))))))) :=
        code.trans (by
          rw [codeTable, codeIf, codeExists, last, trailerExists, trailerIf,
            trailerTable, trailer])
      refine
        ⟨drop, table, _, gap, later, spellsDrop, spellsTable, ?_, ?_, whole, ?_⟩
      · rw [Layout.gap, gaps]
        rfl
      · rw [Layout.gap, gaps, gapsTable]
        rfl
      · have tokens : splitWhitespace layout.code =
            drop :: table :: ifWord :: existsWord ::
              (name.text ++ stuck layout.trailer) ::
                fields isWhitespace
                  (layout.trailer.dropWhile (!isWhitespace ·)) := by
          rw [splitWhitespace_eq, whole, fields_word gap spellsDrop,
            fields_word later spellsTable, fields_word third spellsIf,
            fields_word fourth spellsExists, fields_last]
        rw [operands,
          dropTableOperands_ifExists isTrailer spellsIf spellsExists tokens]

/-- `DROP TABLE` needs its two blanks and a name that ends free. -/
theorem dropTable_sameDispatch {ifExists : Bool}
    (layout : Layout (Statement.dropTable ifExists name).pieces) :
    SameDispatch layout.text
        (Statement.dropTable ifExists name).documented.text ↔
      (layout.gap 0 = [' '] ∧ (layout.gap 1).head? = some ' ') ∧
        layout.EndsFree := by
  have chosen : ∀ other : Layout (Statement.dropTable ifExists name).pieces,
      chosenHandler other.code =
        if other.gap 0 = [' '] ∧ (other.gap 1).head? = some ' ' then
          some .dropTable
        else none := by
    intro other
    rcases other.dropTable_reads with
      ⟨drop, table, rest, gap, later, spellsDrop, spellsTable, gapFirst,
        gapSecond, code, -⟩
    rw [gapFirst, gapSecond, code,
      chosenHandler_dropTable gap later spellsDrop spellsTable]
  have reads : ∀ other : Layout (Statement.dropTable ifExists name).pieces,
      operands .dropTable other.code =
        some
          (.ok
            (.dropTable
              (String.ofList (name.text ++ stuck other.trailer)))) := by
    intro other
    rcases other.dropTable_reads with ⟨-, -, -, -, -, -, -, -, -, -, reads⟩
    exact reads
  have one :
      (Statement.dropTable ifExists name).documented.gap 0 = [' '] ∧
        ((Statement.dropTable ifExists name).documented.gap 1).head? =
          some ' ' := by
    cases ifExists <;> exact ⟨rfl, rfl⟩
  have own := chosen (Statement.dropTable ifExists name).documented
  rw [if_pos one] at own
  rw [sameDispatch_iff layout (chosen layout) own, layout.endsFree_iff,
    reads layout, reads]
  apply and_congr_right
  intro fits
  simp [Except.toOption, Statement.documented, stuck]

end DropTable

end OpenSnow.Core.Commands
