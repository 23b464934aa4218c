import OpenSnow.Core.Atomicity
import OpenSnow.Core.TableLayouts
import OpenSnow.Server.IngestTexts

/-!
# Replacing a table by the ingest route

A request with `replace` drops the table before the new one is created.  If the
creation fails, nothing brings the old one back.
-/

namespace OpenSnow.Server.Rest

open Arrow
open OpenSnow.Core
open Core.Commands
open Foundation
open Rust.Json
open Rust.Text

variable {Row Key Location Contents : Type} [DecidableEq Key]
  [DecidableEq Location]

/-- How the query engine runs what is no command. -/
abbrev RawEngine (Row Key Location Contents : Type) : Type :=
  String → Handling Row Key Location Contents (Reply Row)

/--
`EngineHandle::execute_sql`: a command, or else a statement for the query
engine.  A worker that panics does not answer.
-/
def executeSql (platform : Platform Row Key Location Contents)
    (raw : RawEngine Row Key Location Contents) (report : Failure → String)
    (sql : String) :
    Effect (EngineState Row Key Location Contents) String (Reply Row) :=
  match handleCommand platform sql with
  | some (some action) => action.mapFailure report
  | some none => (raw sql).mapFailure report
  | none => Effect.fail "engine reply dropped"

/-! ## Dropping -/

theorem dropSql_toList (req : IngestRequest) :
    req.dropSql.toList =
      "DROP".toList ++ (Gap.one.text ++ ("TABLE".toList ++ (Gap.one.text ++
        ("IF".toList ++ (Gap.one.text ++ ("EXISTS".toList ++
          (Gap.one.text ++ (req.table.toList ++ [])))))))) := by
  have words : "DROP TABLE IF EXISTS ".toList =
      "DROP".toList ++ ([' '] ++ ("TABLE".toList ++ ([' '] ++
        ("IF".toList ++ ([' '] ++ ("EXISTS".toList ++ [' '])))))) := by decide
  unfold IngestRequest.dropSql
  rewrite [String.toList_append, words, List.append_nil]
  simp only [List.append_assoc]
  rfl

variable {req : IngestRequest}

/-- The first statement of a replacement drops the table of the request. -/
theorem dispatch_dropSql (identifier : IsIdentifier req.table.toList) :
    dispatch req.dropSql = some (some (.ok (.dropTable req.table))) := by
  have drop : Spells "DROP".toList "DROP" :=
    ⟨by decide, by decide, by decide⟩
  have table : Spells "TABLE".toList "TABLE" :=
    ⟨by decide, by decide, by decide⟩
  have ifWord : Spells "IF".toList "IF" := ⟨by decide, by decide, by decide⟩
  have existsWord : Spells "EXISTS".toList "EXISTS" :=
    ⟨by decide, by decide, by decide⟩
  let name : Identifier := ⟨req.table.toList, identifier⟩
  have last :
      fields isWhitespace (req.table.toList ++ []) = [name.text ++ stuck []] :=
    fields_last name []
  have tokens :
      splitWhitespace req.dropSql.toList =
        "DROP".toList :: "TABLE".toList :: "IF".toList :: "EXISTS".toList ::
          (name.text ++ stuck []) :: [] := by
    rw [splitWhitespace_eq, dropSql_toList, fields_word Gap.one drop,
      fields_word Gap.one table, fields_word Gap.one ifWord,
      fields_word Gap.one existsWord]
    rw [last]
  have whole : trimStart req.dropSql.toList = req.dropSql.toList := by
    rw [dropSql_toList]
    exact trimStart_of_stops (stops_cons.mpr (by decide))
  have isCode : stripped req.dropSql.toList = req.dropSql.toList := by
    rw [stripped_of_no_comment, whole] <;>
      · intro other shape
        rw [whole, dropSql_toList] at shape
        cases shape
  have chosen : chosenHandler req.dropSql.toList = some .dropTable := by
    rw [dropSql_toList, chosenHandler_dropTable Gap.one Gap.one drop table]
    exact if_pos ⟨rfl, rfl⟩
  rw [dispatch_eq, isCode, chosen]
  simp only [operands]
  rw [dropTableOperands_ifExists isTrailer_nil ifWord existsWord tokens]
  simp [name, stuck]

variable {platform : Platform Row Key Location Contents}
  {raw : RawEngine Row Key Location Contents}

/-- Whether it fails or not, the table is not registered afterwards. -/
theorem executeSql_dropSql {report : Failure → String}
    (identifier : IsIdentifier req.table.toList)
    (state : EngineState Row Key Location Contents) :
    (executeSql platform raw report req.dropSql state).2.tables =
      Function.update state.tables (platform.tableKey req.table) none := by
  have handled :
      handleCommand platform req.dropSql =
        some (some (handleDropTable platform req.table)) := by
    rw [handleCommand, dispatch_dropSql identifier]
    rfl
  have outcome := handleDropTable_outcome platform req.table state
  rw [executeSql, handled]
  simp only [Effect.mapFailure]
  generalize handleDropTable platform req.table state = result at outcome ⊢
  cases outcome <;> rfl

/-! ## Creating -/

/-- A statement that the query engine fails on leaves the tables alone. -/
def KeepsTables (raw : RawEngine Row Key Location Contents) : Prop :=
  ∀ sql before failure after, raw sql before = (.error failure, after) →
    after.tables = before.tables

/-- The handler of a creation reads nothing but a creation. -/
theorem ctasOperands_made {sql : List Char} {command : Command}
    (creates : createsTable sql)
    (read : ctasOperands sql = some (.ok command)) :
    ∃ name query, command = .ctas name query := by
  rw [createsTable] at creates
  split at creates
  · cases creates
  · rename_i rest follows
    rw [Bool.and_eq_true] at creates
    rcases Option.isSome_iff_exists.mp creates.2 with
      ⟨⟨front, behind⟩, clause⟩
    rw [ctasOperands_eq follows clause] at read
    split at read
    · cases read
    · rcases Option.map_eq_some_iff.mp read with ⟨checked, -, made⟩
      cases checked with
      | error message => cases made
      | ok selectSql =>
          cases made
          exact ⟨_, _, rfl⟩

variable {before after : EngineState Row Key Location Contents}

/-- A creation that fails registers nothing. -/
theorem handleCtas_failed {name query : String} {failure : Failure}
    (failed : handleCtas platform name query before = (.error failure, after))
    {key : Key} (free : before.tables key = none) : after.tables key = none := by
  have outcome := handleCtas_outcome platform name query before
  rw [failed] at outcome
  cases outcome with
  | failed => exact free
  | stopped ran nonempty replaces =>
      cases replaces with
      | writeFault => exact free
      | unreadable =>
          rw [EngineState.deregistered_tables]
          by_cases same : key = platform.tableKey name
          · rw [same, Function.update_self]
          · rw [Function.update_of_ne same]
            exact free

/-- What the second statement of the route is dispatched as. -/
theorem handleCommand_createTableAs {platform : Platform Row Key Location Contents}
    (name query : String) :
    handleCommand platform (createTableAs name query) = some none ∨
      (∃ message, handleCommand platform (createTableAs name query) =
        some (some (Effect.fail (.statement message)))) ∨
      ∃ target select, handleCommand platform (createTableAs name query) =
        some (some (handleCtas platform target select)) := by
  rw [handleCommand, dispatch_eq, stripped_createTableAs,
    chosenHandler_createTableAs]
  by_cases creates : createsTable (createTableAs name query).toList
  · right
    rw [if_pos creates]
    rcases Option.isSome_iff_exists.mp (ctasOperands_isSome creates) with
      ⟨read, isRead⟩
    simp only [operands, isRead, Option.map_some]
    cases read with
    | error message => exact Or.inl ⟨message, rfl⟩
    | ok command =>
        rcases ctasOperands_made creates isRead with ⟨target, select, rfl⟩
        exact Or.inr ⟨target, select, rfl⟩
  · left
    rw [if_neg creates]
    rfl

theorem mapFailure_failed {State Failure Value Reported : Type}
    {report : Failure → Reported} {action : Effect State Failure Value}
    {before after : State} {message : Reported}
    (failed : action.mapFailure report before = (.error message, after)) :
    ∃ failure, action before = (.error failure, after) := by
  rw [Effect.mapFailure] at failed
  split at failed
  · cases failed
  · rename_i failure left ran
    cases failed
    exact ⟨failure, ran⟩

theorem executeSql_createSql (keeps : KeepsTables raw)
    {report : Failure → String} {literals : List String} {message : String}
    (failed :
      executeSql platform raw report (req.createSql literals) before =
        (.error message, after))
    {key : Key} (free : before.tables key = none) :
    after.tables key = none := by
  rw [executeSql, createSql_eq] at failed
  rcases @handleCommand_createTableAs _ _ _ _ _ _ platform req.table
      (req.query literals) with
    isRaw | ⟨text, isError⟩ | ⟨target, select, isCtas⟩
  · rw [isRaw] at failed
    rcases mapFailure_failed failed with ⟨failure, ran⟩
    rw [keeps _ _ _ _ ran]
    exact free
  · rw [isError] at failed
    cases failed
    exact free
  · rw [isCtas] at failed
    rcases mapFailure_failed failed with ⟨failure, ran⟩
    exact handleCtas_failed ran free

/-! ## Replacing -/

/-- A table is registered as before, and its rows and its file are the same. -/
structure TableKept (platform : Platform Row Key Location Contents)
    (table : String) (before after : EngineState Row Key Location Contents) :
    Prop where
  registered :
    after.tables (platform.tableKey table) =
      before.tables (platform.tableKey table)
  rows :
    platform.scan after (platform.tableKey table) =
      platform.scan before (platform.tableKey table)
  file : ∀ format path,
    before.tables (platform.tableKey table) = some (.file format path) →
      after.files (platform.locate path) = before.files (platform.locate path)

/-- If there was a table, it is kept. -/
def KeepsTable (platform : Platform Row Key Location Contents)
    (table : String) (before after : EngineState Row Key Location Contents) :
    Prop :=
  (before.tables (platform.tableKey table)).isSome →
    TableKept platform table before after

section Replacing

variable {platform : Platform Row Key Location Contents}
  {raw : RawEngine Row Key Location Contents} {report : Failure → String}
  {req : IngestRequest} {before after : EngineState Row Key Location Contents}
  {message : String}

theorem ingest_refused (refused : req.rowLiterals = .error message) :
    ingest (executeSql platform raw report) req before =
      (.error message, before) := by
  rw [ingest, refused]

/-- A replacement that fails leaves no table under its name. -/
theorem ingest_failed_unregistered (keeps : KeepsTables raw)
    {literals : List String} (written : req.rowLiterals = .ok literals)
    (replace : req.replace = true)
    (failed :
      ingest (executeSql platform raw report) req before =
        (.error message, after)) :
    after.tables (platform.tableKey req.table) = none := by
  have identifier := (accepted_of_rowLiterals written).isIdentifier
  have cleared :
      (executeSql platform raw report req.dropSql before).2.tables
        (platform.tableKey req.table) = none := by
    rw [executeSql_dropSql identifier, Function.update_self]
  rw [ingest, written] at failed
  simp only [replace, if_true] at failed
  split at failed
  · cases failed
  · rename_i text left ran
    cases failed
    exact executeSql_createSql keeps ran cleared

/--
A replacement that answers with an error keeps the table exactly if it was
refused before anything was run, or if there was no table.
-/
theorem ingest_replace_keeps_iff (keeps : KeepsTables raw)
    (replace : req.replace = true)
    (failed :
      ingest (executeSql platform raw report) req before =
        (.error message, after)) :
    KeepsTable platform req.table before after ↔
      (∃ reason, req.rowLiterals = .error reason) ∨
        before.tables (platform.tableKey req.table) = none := by
  cases written : req.rowLiterals with
  | error reason =>
      rw [ingest_refused written] at failed
      cases failed
      exact
        iff_of_true (fun _ => ⟨rfl, rfl, fun _ _ _ => rfl⟩)
          (Or.inl ⟨message, rfl⟩)
  | ok literals =>
      have gone := ingest_failed_unregistered keeps written replace failed
      constructor
      · intro kept
        right
        by_contra some
        have still := (kept (Option.isSome_iff_ne_none.mpr some)).registered
        rw [gone] at still
        exact some still.symm
      · rintro (⟨reason, refused⟩ | none) some
        · cases refused
        · rw [none] at some
          cases some

end Replacing

/-- A request that names one column twice. -/
def repeatedColumn : IngestRequest where
  table := "orders"
  columns := ["a", "a"]
  rows := [[.null, .bool true]]
  replace := true
  numbers := by
    intro row member text inside
    rw [List.mem_singleton] at member
    subst member
    simp at inside

/-- The query engine refuses a schema with two columns of one name. -/
def uniquePlatform :
    Platform Nat String (List String) (List (RecordBatch Nat)) :=
  { smallPlatform with
    query := fun _ sql =>
      if contains sql "t(a, a)" then
        .error "Schema contains duplicate unqualified field name a"
      else .ok [⟨[], [1]⟩] }

def noRaw : RawEngine Nat String (List String) (List (RecordBatch Nat)) :=
  fun _ => Effect.fail (.query "not a query")

/-- The message of any failure. -/
def plainReport : Failure → String
  | .statement message | .missing message | .duplicate message
  | .query message | .fault message => message

/-- One table with one row in its file. -/
def ordersEngine :
    EngineState Nat String (List String) (List (RecordBatch Nat)) where
  tables key :=
    if key = "orders" then
      some (.file .parquet "/warehouse/opensnow/public/orders.parquet")
    else none
  files location :=
    if location = ["warehouse", "opensnow", "public", "orders.parquet"] then
      some [⟨[], [7]⟩]
    else none
  views _ := none
  warehouses := []
  touched := []

theorem noRaw_keeps : KeepsTables noRaw := by
  intro sql before failure after failed
  cases failed
  rfl

theorem repeatedColumn_fails :
    (ingest (executeSql uniquePlatform noRaw plainReport) repeatedColumn
        ordersEngine).1 =
      .error "Schema contains duplicate unqualified field name a" := by
  decide

theorem ingest_replace_keeps_iff_repeated :
    KeepsTable uniquePlatform "orders" ordersEngine
        (ingest (executeSql uniquePlatform noRaw plainReport) repeatedColumn
          ordersEngine).2 ↔
      (∃ reason, repeatedColumn.rowLiterals = .error reason) ∨
        ordersEngine.tables "orders" = none :=
  ingest_replace_keeps_iff noRaw_keeps rfl
    (Prod.ext repeatedColumn_fails rfl)

/-- The table that a failed replacement should have replaced is gone. -/
theorem ingest_replace_drops :
    ¬ ∀ (req : IngestRequest)
        (before after :
          EngineState Nat String (List String) (List (RecordBatch Nat)))
        (message : String),
      req.replace = true →
        ingest (executeSql uniquePlatform noRaw plainReport) req before =
            (.error message, after) →
          KeepsTable uniquePlatform req.table before after := by
  intro keeps
  have written :
      repeatedColumn.rowLiterals = .ok ["(NULL, TRUE)"] := by decide
  have failed := Prod.ext repeatedColumn_fails rfl
  have kept := keeps repeatedColumn ordersEngine _ _ rfl failed rfl
  have gone := ingest_failed_unregistered noRaw_keeps written rfl failed
  rw [kept.registered] at gone
  cases gone

end OpenSnow.Server.Rest
