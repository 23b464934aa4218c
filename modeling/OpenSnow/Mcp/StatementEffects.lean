import OpenSnow.Mcp.LeadingWords
import OpenSnow.Mcp.Tools

/-!
# What statements change

A statement goes to a command handler or to the query engine.  It is harmless
unless it takes a branch that alters something or the query engine does.  The
fixed texts of the read-only tools are all harmless.
-/

namespace OpenSnow.Mcp

open OpenSnow.Core
open Core.Commands
open Foundation
open Rust.Json
open Rust.Text

/-! ## Running statements -/

/--
What the query engine does to the state with a text that no command handler
takes.  A text that begins with `SELECT` is a query, or an error.
-/
structure QueryEngine (State : Type) where
  run : State → String → State
  select : ∀ state sql, startsWith sql "SELECT" → run state sql = state

section Statements

variable {Row Key Location Contents : Type} [DecidableEq Key]
  [DecidableEq Location] (platform : Platform Row Key Location Contents)
  (engine : QueryEngine (EngineState Row Key Location Contents))

/-- The state that a statement leaves behind. -/
def Statement.run :
    Statement → EngineState Row Key Location Contents →
      Panics (EngineState Row Key Location Contents)
  | .raw text, state => some (engine.run state text)
  | .sql text, state =>
      (handleCommand platform text).map fun handled =>
        match handled with
        | none => engine.run state text
        | some handling => (handling state).2

/-- No altering command is dispatched, and the state stays as it is. -/
structure Statement.Harmless (statement : Statement) : Prop where
  dispatched : ∀ text handler, statement = .sql text →
    handlerOf text = some (some handler) → ¬ handler.alters
  unchanged : ∀ state after,
    statement.run platform engine state = some after → after = state

/-- No command handler takes the text, and the query engine changes something. -/
def EngineAlters (sql : String) : Prop :=
  handlerOf sql = some none ∧ ∃ state, engine.run state sql ≠ state

/-- The text takes one of these branches, or the query engine changes something. -/
def Alters (handlers : List Handler) (sql : String) : Prop :=
  Begins handlers (stripped sql.toList) ∨ EngineAlters engine sql

theorem run_undispatched {sql : String} (none : handlerOf sql = some none)
    (state : EngineState Row Key Location Contents) :
    (Statement.sql sql).run platform engine state =
      some (engine.run state sql) := by
  rw [handlerOf_eq, Option.some.injEq] at none
  rw [Statement.run, handleCommand, dispatch_eq, none]
  rfl

theorem harmless_sql_iff {sql : String} :
    (Statement.sql sql).Harmless platform engine ↔
      ¬ Alters engine alteringHandlers sql := by
  constructor
  · rintro harmless (begins | ⟨none, state, changed⟩)
    · rcases alters_of_begins (stripped_stops _) begins fun handler member =>
          (mem_alteringHandlers_iff handler).mp member with
        ⟨chosen, first, alters⟩
      apply harmless.dispatched sql chosen rfl _ alters
      rw [handlerOf_eq, first]
    · exact
        changed
          (harmless.unchanged state _
            (run_undispatched platform engine none state))
  · intro unaltered
    have other : ∀ handler, handlerOf sql = some (some handler) →
        handler.alters = false := by
      intro handler dispatched
      rw [Bool.eq_false_iff]
      intro alters
      rw [handlerOf_eq, Option.some.injEq] at dispatched
      exact
        unaltered
          (Or.inl
            (begins_of_chosen dispatched
              ((mem_alteringHandlers_iff handler).mpr alters)))
    constructor
    · rintro text handler ⟨⟩ dispatched
      rw [other handler dispatched]
      exact Bool.false_ne_true
    · intro state after ran
      cases dispatched : handlerOf sql with
      | none =>
          rw [handlerOf_eq] at dispatched
          cases dispatched
      | some chosen =>
          cases chosen with
          | none =>
              rw [run_undispatched platform engine dispatched,
                Option.some.injEq] at ran
              rw [← ran]
              by_contra changed
              exact unaltered (Or.inr ⟨dispatched, state, changed⟩)
          | some handler =>
              rcases Option.map_eq_some_iff.mp ran with ⟨handled, is, same⟩
              have taken := dispatched
              rw [handlerOf_eq, Option.some.injEq] at taken
              cases handled with
              | none =>
                  rw [handleCommand, dispatch_eq, taken] at is
                  rcases Option.map_eq_some_iff.mp is with ⟨parsed, read, absent⟩
                  rcases Option.map_eq_some_iff.mp read with ⟨outcome, -, rfl⟩
                  cases absent
              | some handling =>
                  rw [← same]
                  exact
                    handleCommand_unchanged platform dispatched
                      (other handler dispatched) is state

theorem harmless_of_dispatched {sql : String} {handler : Handler}
    (dispatched : handlerOf sql = some (some handler))
    (other : handler.alters = false) :
    (Statement.sql sql).Harmless platform engine := by
  rw [harmless_sql_iff]
  rintro (begins | ⟨none, -⟩)
  · rcases alters_of_begins (stripped_stops _) begins fun handler member =>
        (mem_alteringHandlers_iff handler).mp member with
      ⟨chosen, first, alters⟩
    rw [handlerOf_eq, first, Option.some.injEq, Option.some.injEq] at dispatched
    rw [dispatched, other] at alters
    exact Bool.false_ne_true alters
  · rw [none] at dispatched
    cases dispatched

/-! ## Queries of the tools -/

theorem startsWith_append {text start : String} (begins : startsWith text start)
    (more : String) : startsWith (text ++ more) start := by
  rw [startsWith, List.isPrefixOf_iff_prefix] at begins ⊢
  rw [String.toList_append]
  exact begins.trans (List.prefix_append _ _)

theorem stripped_of_starts {text : List Char} {ch : Char} {rest : List Char}
    (shape : text = ch :: rest) (letter : ch.isAlpha) : stripped text = text := by
  have named : ch.isAlphanum || ch == '_' := by simp [Char.isAlphanum, letter]
  have solid : trimStart text = text := by
    rw [shape]
    exact
      List.dropWhile_cons_of_neg
        (by rw [not_isWhitespace_of_alphanum named]; exact Bool.false_ne_true)
  rw [stripped_of_no_comment, solid]
  · intro more comment
    rw [solid, shape, List.cons.injEq] at comment
    exact Server.ne_of_letter letter (by decide) comment.1
  · intro more comment
    rw [solid, shape, List.cons.injEq] at comment
    exact Server.ne_of_letter letter (by decide) comment.1

/-- Behind other letters than theirs no branch of these handlers is taken. -/
theorem not_begins_of_start {text : List Char} {handlers : List Handler}
    {start : String} (stops : Stops isWhitespace text)
    (begins : start.toList <+: upperChars text)
    (others : ∀ handler ∈ handlers,
      ¬ handler.letters.toList <+: start.toList)
    (long : 2 ≤ start.toList.length) : ¬ Begins handlers text := by
  rintro ⟨handler, member, row⟩
  apply others handler member
  have two : handler.letters.toList.length = 2 := by
    cases handler <;> rfl
  exact
    List.prefix_of_prefix_length_le (letters_of_branch stops row) begins
      (by omega)

/-- A text that begins with `SELECT` changes nothing. -/
theorem harmless_of_select {statement : Statement}
    (select : startsWith statement.text "SELECT") :
    statement.Harmless platform engine := by
  cases statement with
  | raw text =>
      constructor
      · rintro other handler ⟨⟩
      · intro state after ran
        rw [Statement.run, Option.some.injEq] at ran
        rw [← ran]
        exact engine.select state text select
  | sql text =>
      rw [harmless_sql_iff]
      rcases List.isPrefixOf_iff_prefix.mp select with ⟨rest, shape⟩
      have same : stripped text.toList = text.toList :=
        stripped_of_starts shape.symm (by decide)
      have begins : "SELECT".toList <+: upperChars text.toList := by
        rw [Statement.text] at shape
        have spells : Spells "SELECT".toList "SELECT" :=
          spells_self (by decide) (by decide) (by decide)
        rw [← shape, spells.upperChars]
        exact List.prefix_append _ _
      rintro (branch | ⟨-, state, changed⟩)
      · revert branch
        rw [same]
        apply not_begins_of_start _ begins (by decide) (by decide)
        rw [← same]
        exact stripped_stops _
      · exact changed (engine.select state text select)

theorem publicColumns_select (columns : String) :
    startsWith (publicColumns columns) "SELECT" :=
  startsWith_append (startsWith_append (by decide) columns) _

theorem schemaIntrospect_select (params : Value) :
    ∀ statement ∈ schemaIntrospect params,
      startsWith statement.text "SELECT" := by
  intro statement member
  rw [schemaIntrospect] at member
  split at member
  · rw [List.mem_singleton.mp member]
    exact
      startsWith_append
        (startsWith_append
          (startsWith_append (publicColumns_select _) _) _) _
  · rw [List.mem_singleton.mp member]
    exact startsWith_append (publicColumns_select _) _

variable (world : AgentWorld)

theorem migrationPlanner_select (params : Value) :
    ∀ statement ∈ (migrationPlanner world params).1,
      startsWith statement.text "SELECT" := by
  intro statement member
  rw [migrationPlanner] at member
  split at member
  · cases member
  · rw [List.mem_singleton.mp member]
    exact startsWith_append (publicColumns_select _) _

theorem smokeQuery_select (sql : String) :
    startsWith (smokeQuery sql) "SELECT" := by
  rw [smokeQuery]
  split
  · exact startsWith_append (by decide) _
  · decide

theorem actionQuery_select {action : Value} {query : String}
    (found : actionQuery action = some query) :
    startsWith query "SELECT" := by
  rw [actionQuery] at found
  split at found
  · rcases Option.map_eq_some_iff.mp found with ⟨sql, -, rfl⟩
    exact smokeQuery_select sql
  · cases found

/-- The schema refactoring task runs queries alone, whatever its tables are. -/
theorem analyticsSchemaRefactor_select (params : Value) :
    ∀ statement ∈ analyticsSchemaRefactor world params,
      startsWith statement.text "SELECT" := by
  intro statement member
  rw [analyticsSchemaRefactor] at member
  rcases List.mem_append.mp member with planned | tested
  · rcases List.mem_append.mp planned with introspected | plan
    · exact schemaIntrospect_select _ statement introspected
    · rcases List.mem_flatMap.mp plan with ⟨pair, known, inside⟩
      rcases List.mem_map.mp known with ⟨table, -, rfl⟩
      exact migrationPlanner_select world _ statement inside
  · rcases List.mem_map.mp tested with ⟨query, smoke, rfl⟩
    rcases List.mem_filterMap.mp smoke with ⟨action, -, found⟩
    exact actionQuery_select found

theorem handlerOf_describe (table : String) :
    handlerOf ("DESCRIBE " ++ table) = some (some .describe) := by
  have shape : ("DESCRIBE " ++ table).toList =
      "DESCRIBE".toList ++ ' ' :: table.toList := by
    rw [String.toList_append]
    rfl
  have solid :
      stripped ("DESCRIBE " ++ table).toList = ("DESCRIBE " ++ table).toList :=
    stripped_of_starts shape (by decide)
  have stops := stripped_stops ("DESCRIBE " ++ table).toList
  have spells : Spells "DESCRIBE".toList "DESCRIBE" :=
    spells_self (by decide) (by decide) (by decide)
  have upper :
      "DESCRIBE ".toList <+: upperChars ("DESCRIBE " ++ table).toList := by
    have blank : charToUppercase ' ' = [' '] :=
      charToUppercase_of_blank (by decide)
    rw [shape, spells.upperChars, upperChars, List.flatMap_cons, blank]
    exact ⟨table.toList.flatMap charToUppercase, rfl⟩
  have row : (true, Handler.describe) ∈
      branches ("DESCRIBE " ++ table).toList := by
    have begins :
        hasPrefix (upperChars ("DESCRIBE " ++ table).toList) "DESCRIBE " :=
      List.isPrefixOf_iff_prefix.mpr upper
    generalize ("DESCRIBE " ++ table).toList = text at begins
    simp [branches, begins]
  rw [solid] at stops
  rcases exists_firstHolding row with ⟨chosen, first⟩
  have letters := letters_of_chosen stops row first
  rw [handlerOf_eq, solid]
  have isDescribe : chosen = .describe := by
    revert letters
    cases chosen <;> decide
  rw [chosenHandler, first, isDescribe]

/-- A tool that a read scope is enough for is harmless, but for `refactor_test`. -/
theorem handleToolCall_harmless (arguments : Value)
    {tool : Tool} (reads : tool.name ∈ readTools)
    (other : tool ≠ .refactorTest) :
    ∀ statement ∈ handleToolCall world arguments tool,
      statement.Harmless platform engine := by
  intro statement member
  cases tool with
  | listTables =>
      have shown : handlerOf "SHOW TABLES" = some (some .showTables) := by
        decide
      rw [List.mem_singleton.mp member]
      exact harmless_of_dispatched platform engine shown rfl
  | warehouseList =>
      have shown : handlerOf "SHOW WAREHOUSES" = some (some .showWarehouses) := by
        decide
      rw [List.mem_singleton.mp member]
      exact harmless_of_dispatched platform engine shown rfl
  | describeTable =>
      rw [handleToolCall, describeTable] at member
      split at member
      · rw [List.mem_singleton.mp member]
        exact
          harmless_of_dispatched platform engine (handlerOf_describe _) rfl
      · cases member
  | schemaIntrospect =>
      exact
        harmless_of_select platform engine
          (schemaIntrospect_select _ statement member)
  | migrationPlanner =>
      exact
        harmless_of_select platform engine
          (migrationPlanner_select world _ statement member)
  | analyticsSchemaRefactor =>
      exact
        harmless_of_select platform engine
          (analyticsSchemaRefactor_select world _ statement member)
  | refactorTest => exact absurd rfl other
  | query | createTable | materializedViewCreate =>
      exact absurd reads (by decide)
  | suggestSchema | queryHistory | dbtListModels | dbtGetModel
  | pipelineStatus | scheduleGet | dashboardList | chartList => cases member

end Statements

end OpenSnow.Mcp
