import OpenSnow.Core.Commands
import OpenSnow.Core.Offsets

/-!
# Dispatch as a walk over the text

The dispatch of a statement and the operands of the creations without byte
offsets: what follows the first keywords, and the texts before and behind the
`AS`.
-/

namespace OpenSnow.Core.Commands

open Rust.Text

/-! ## Selecting a handler -/

/-- The condition of the `CREATE TABLE … AS` branch as a walk over the text. -/
def createsTable (trimmed : List Char) : Bool :=
  match afterKeywords trimmed ["CREATE", "TABLE"] with
  | none => false
  | some rest =>
      !containsKeyword trimmed "EXTERNAL" &&
        (asClause .plain none rest).isSome

theorem isCtas_eq (trimmed : List Char) :
    isCtas trimmed = some (createsTable trimmed) := by
  rw [isCtas, keywordSequenceEnd_eq, createsTable]
  simp only [Option.bind_eq_bind, Option.bind_some]
  cases follows : afterKeywords trimmed ["CREATE", "TABLE"] with
  | none => rfl
  | some rest =>
      rcases findAsClause_afterKeywords follows (by simp) with
        ⟨header, shape, start, found⟩
      simp only [Option.map_some, start]
      by_cases isExternal : containsKeyword trimmed "EXTERNAL"
      · simp [isExternal]
      · rw [if_neg isExternal, found]
        simp [isExternal]

/-- The conditions of the branches of `handle_command`, in their order. -/
def branches (trimmed : List Char) : List (Bool × Handler) :=
  let upper := upperChars trimmed
  [(hasPrefix upper "SHOW WAREHOUSES", .showWarehouses),
    (hasPrefix upper "CREATE WAREHOUSE", .createWarehouse),
    (hasPrefix upper "ALTER WAREHOUSE", .alterWarehouse),
    (hasPrefix upper "USE WAREHOUSE", .useWarehouse),
    (hasPrefix upper "COPY INTO" || hasPrefix upper "COPY ", .copyInto),
    (createsTable trimmed, .ctas),
    ((afterKeywords trimmed ["CREATE", "MATERIALIZED", "VIEW"]).isSome,
      .createMaterializedView),
    (hasPrefix upper "REFRESH MATERIALIZED VIEW", .refreshMaterializedView),
    (hasPrefix upper "DROP MATERIALIZED VIEW", .dropMaterializedView),
    (hasPrefix upper "SHOW TABLES", .showTables),
    (hasPrefix upper "SHOW DATABASES" || hasPrefix upper "SHOW SCHEMAS",
      .showDatabases),
    (hasPrefix upper "DESCRIBE " || hasPrefix upper "DESC ", .describe),
    (hasPrefix upper "DROP TABLE ", .dropTable)]

/-- The handler of the first branch whose condition holds. -/
def firstHolding : List (Bool × Handler) → Option Handler
  | [] => none
  | (holds, handler) :: rest =>
      if holds then some handler else firstHolding rest

/-- The branches of `handle_command` without their slices. -/
def chosenHandler (trimmed : List Char) : Option Handler :=
  firstHolding (branches trimmed)

theorem firstHolding_mem {rows : List (Bool × Handler)} {handler : Handler}
    (first : firstHolding rows = some handler) : (true, handler) ∈ rows := by
  induction rows with
  | nil => cases first
  | cons row rest ih =>
      rcases row with ⟨holds, candidate⟩
      rw [firstHolding] at first
      split at first
      · rename_i taken
        rw [Option.some.injEq] at first
        rw [first, taken]
        exact List.mem_cons_self
      · exact List.mem_cons_of_mem _ (ih first)

theorem selectHandler_eq (trimmed : List Char) :
    selectHandler trimmed = some (chosenHandler trimmed) := by
  rw [selectHandler, chosenHandler, branches]
  simp only [isCtas_eq, keywordSequenceEnd_eq, Option.bind_eq_bind,
    Option.bind_some, Option.isSome_map, firstHolding]
  simp only [← apply_ite some]

theorem createsTable_of_chosen {trimmed : List Char}
    (chosen : chosenHandler trimmed = some .ctas) : createsTable trimmed := by
  have row := firstHolding_mem chosen
  simpa [branches] using row

theorem handlerOf_eq (sql : String) :
    handlerOf sql = some (chosenHandler (stripped sql.toList)) := by
  rw [handlerOf, stripLeadingSqlComments_eq]
  exact selectHandler_eq _

/-- The command of a text, or its error, once a handler is chosen. -/
theorem dispatch_eq (sql : String) :
    dispatch sql =
      match chosenHandler (stripped sql.toList) with
      | none => some none
      | some handler => (operands handler (stripped sql.toList)).map some := by
  rw [dispatch, stripLeadingSqlComments_eq]
  exact congrArg (Option.bind · _) (selectHandler_eq _)

/-! ## Creations -/

theorem sliceFrom_suffix {text after : List Char} (suffix : after <:+ text) :
    sliceFrom text (utf8Len text - utf8Len after) = some after := by
  rcases suffix with ⟨before, rfl⟩
  rw [utf8Len_append, Nat.add_sub_cancel, sliceFrom_append]

theorem trimStart_suffix (text : List Char) : trimStart text <:+ text :=
  List.dropWhile_suffix _

/-- The name and the query that the reader of a creation cuts out. -/
theorem slices_of_clause {header front behind : List Char}
    {first second : Char} {sql : List Char}
    (shape : sql = header ++ (front ++ first :: second :: behind)) :
    slice sql (utf8Len header) (utf8Len (header ++ front)) = some front ∧
      sliceFrom sql (utf8Len sql - utf8Len (trimStart behind)) =
        some (trimStart behind) := by
  constructor
  · rw [shape, utf8Len_append, slice_append]
  · apply sliceFrom_suffix
    apply (trimStart_suffix behind).trans
    exact ⟨header ++ (front ++ [first, second]), by rw [shape]; simp⟩

/-- `CREATE TABLE … AS` with the texts around its `AS`. -/
theorem ctasOperands_eq {sql rest front behind : List Char}
    (follows : afterKeywords sql ["CREATE", "TABLE"] = some rest)
    (clause : asClause .plain none rest = some (front, behind)) :
    ctasOperands sql =
      match
        validateOutputTableIdentifier (trim front) "CREATE TABLE AS"
      with
      | .error message => some (.error message)
      | .ok () =>
          (validateMaterializationQuery (trimStart behind)
            "CREATE TABLE AS").map fun selectSql =>
              selectSql.map fun selectSql =>
                .ctas (String.ofList (trim front))
                  (String.ofList selectSql) := by
  rcases findAsClause_afterKeywords follows (by simp) with
    ⟨header, shape, start, found⟩
  rcases asClause_shape clause with ⟨first, second, parts, -⟩
  rw [parts] at shape
  rcases slices_of_clause shape with ⟨name, query⟩
  rw [ctasOperands, keywordSequenceEnd_eq, follows]
  simp only [Option.bind_eq_bind, Option.bind_some, Option.map_some, start,
    found, clause, name, query]
  cases valid :
      validateOutputTableIdentifier (trim front) "CREATE TABLE AS" with
  | error message => rfl
  | ok safe =>
      rw [Option.map_eq_bind]
      rfl

/-- `CREATE MATERIALIZED VIEW` with the texts around its `AS`. -/
theorem createMaterializedViewOperands_eq {sql rest : List Char}
    (follows :
      afterKeywords sql ["CREATE", "MATERIALIZED", "VIEW"] = some rest) :
    createMaterializedViewOperands sql =
      match asClause .plain none rest with
      | none =>
          some
            (.error
              ("CREATE MATERIALIZED VIEW <name> AS <query> requires AS " ++
                "clause"))
      | some (front, behind) =>
          (validateMaterializationQuery (trimStart behind)
            "CREATE MATERIALIZED VIEW").map fun selectSql =>
              selectSql.bind fun selectSql =>
                if (trim front).isEmpty then
                  .error "CREATE MATERIALIZED VIEW requires a name"
                else
                  (validateOutputTableIdentifier (trim front)
                      "CREATE MATERIALIZED VIEW").map fun () =>
                    .createMaterializedView (String.ofList (trim front))
                      (String.ofList selectSql) := by
  rcases findAsClause_afterKeywords follows (by simp) with
    ⟨header, shape, start, found⟩
  rw [createMaterializedViewOperands, keywordSequenceEnd_eq, follows]
  simp only [Option.bind_eq_bind, Option.bind_some, Option.map_some, start,
    found]
  cases clause : asClause .plain none rest with
  | none => rfl
  | some parts =>
      rcases parts with ⟨front, behind⟩
      rcases asClause_shape clause with ⟨first, second, parts, -⟩
      rw [parts] at shape
      rcases slices_of_clause shape with ⟨name, query⟩
      simp only [Option.map_some, name, query, Option.bind_some]
      rw [Option.map_eq_bind]
      rfl

end OpenSnow.Core.Commands
