import Mathlib.Algebra.Group.Int.Defs
import OpenSnow.Core.CommandText

/-!
# Dispatch of SQL commands

The engine takes some statements out of the way of its query engine.  A
statement is dispatched to a handler by its first words, and each handler reads
its operands in its own way before it does anything.
-/

namespace OpenSnow.Core.Commands

open Rust.Text

/-! ## Handlers -/

inductive Handler where
  | showWarehouses
  | createWarehouse
  | alterWarehouse
  | useWarehouse
  | copyInto
  | ctas
  | createMaterializedView
  | refreshMaterializedView
  | dropMaterializedView
  | showTables
  | showDatabases
  | describe
  | dropTable
deriving DecidableEq, Repr

/-- The condition of the `CREATE TABLE … AS` branch. -/
def isCtas (trimmed : List Char) : Panics Bool := do
  match ← keywordSequenceEnd trimmed ["CREATE", "TABLE"] with
  | none => some false
  | some tablePos =>
      if containsKeyword trimmed "EXTERNAL" then some false
      else
        let clause ← findAsClause trimmed tablePos
        some clause.isSome

/-- The branches of `handle_command`, in their order. -/
def selectHandler (trimmed : List Char) : Panics (Option Handler) := do
  let upper := upperChars trimmed
  if hasPrefix upper "SHOW WAREHOUSES" then some (some .showWarehouses)
  else if hasPrefix upper "CREATE WAREHOUSE" then
    some (some .createWarehouse)
  else if hasPrefix upper "ALTER WAREHOUSE" then some (some .alterWarehouse)
  else if hasPrefix upper "USE WAREHOUSE" then some (some .useWarehouse)
  else if hasPrefix upper "COPY INTO" || hasPrefix upper "COPY " then
    some (some .copyInto)
  else if ← isCtas trimmed then some (some .ctas)
  else if
    (← keywordSequenceEnd trimmed ["CREATE", "MATERIALIZED", "VIEW"]).isSome
  then some (some .createMaterializedView)
  else if hasPrefix upper "REFRESH MATERIALIZED VIEW" then
    some (some .refreshMaterializedView)
  else if hasPrefix upper "DROP MATERIALIZED VIEW" then
    some (some .dropMaterializedView)
  else if hasPrefix upper "SHOW TABLES" then some (some .showTables)
  else if hasPrefix upper "SHOW DATABASES" || hasPrefix upper "SHOW SCHEMAS"
  then some (some .showDatabases)
  else if hasPrefix upper "DESCRIBE " || hasPrefix upper "DESC " then
    some (some .describe)
  else if hasPrefix upper "DROP TABLE " then some (some .dropTable)
  else some none

/-! ## Operands -/

/-- The metadata of a warehouse that `CREATE WAREHOUSE` sets. -/
structure WarehouseSpec where
  name : String
  size : String
  minNodes : Int
  maxNodes : Int
  autoSuspend : Int
deriving DecidableEq, Repr

/-- A handler with the operands that it read. -/
inductive Command where
  | showWarehouses
  | createWarehouse (spec : WarehouseSpec)
  | alterWarehouse (name state : String)
  | useWarehouse (name : String)
  | copyInto (tableName sourcePath : String)
  | ctas (tableName selectSql : String)
  | createMaterializedView (name selectSql : String)
  | refreshMaterializedView (name : String)
  | dropMaterializedView (name : String)
  | showTables
  | showDatabases
  | describe (table : String)
  | dropTable (table : String)
deriving DecidableEq, Repr

/-- `str::split_whitespace`. -/
def splitWhitespace (text : List Char) : List (List Char) :=
  (text.splitOnP isWhitespace).filter (!·.isEmpty)

/-- The first word of a text. -/
def firstWord (text : List Char) : Option (List Char) :=
  (splitWhitespace text).head?

/-- `trim().trim_end_matches(';').trim()`, as several handlers do. -/
def trimStatement (text : List Char) : List Char :=
  trim (trimEndMatches ';' (trim text))

/-! ### Warehouses -/

def normalizeWarehouseSize (size : String) : Except String String :=
  match toAsciiLowercase size with
  | "xsmall" => .ok "xsmall"
  | "small" => .ok "small"
  | "medium" => .ok "medium"
  | "large" => .ok "large"
  | "xlarge" => .ok "xlarge"
  | _ =>
      .error
        ("Invalid CREATE WAREHOUSE SIZE '" ++ size ++ "'. Use one of " ++
          "xsmall, small, medium, large, xlarge")

/-- The value of decimal digits, if there are any and nothing else. -/
def parseDigits (digits : List Char) : Option Nat :=
  if digits.isEmpty || !digits.all Char.isDigit then none
  else some (digits.foldl (fun value ch => value * 10 + (ch.toNat - 48)) 0)

/-- `str::parse::<i64>`. -/
def parseI64 (text : String) : Option Int :=
  let value : Option Int :=
    match text.toList with
    | '-' :: digits => (parseDigits digits).map fun value => -(value : Int)
    | '+' :: digits => (parseDigits digits).map fun value => (value : Int)
    | digits => (parseDigits digits).map fun value => (value : Int)
  value.filter fun value => -(2 ^ 63) ≤ value ∧ value < 2 ^ 63

def parseWarehouseI64 (value option : String) : Except String Int :=
  match parseI64 value with
  | some number => .ok number
  | none =>
      .error
        ("Invalid CREATE WAREHOUSE " ++ option ++ " value '" ++ value ++
          "'. Expected an integer")

/-- A text is split into options and values at these characters. -/
def isOptionBreak (ch : Char) : Bool :=
  isWhitespace ch || ch == '=' || ch == ',' || ch == ';'

def optionTokens (text : List Char) : List String :=
  ((text.splitOnP isOptionBreak).filter (!·.isEmpty)).map fun token =>
    String.ofList (trimMatches '"' (trimMatches '\'' token))

def missingValue (option : String) : String :=
  "Invalid CREATE WAREHOUSE " ++ option ++ ": missing value"

/-- The loop over the option tokens of `CREATE WAREHOUSE`. -/
def optionLoop (spec : WarehouseSpec) :
    List String → Except String WarehouseSpec
  | [] => .ok spec
  | [option] =>
      match toAsciiUppercase option with
      | "WITH" => .ok spec
      | "SIZE" => .error (missingValue "SIZE")
      | "MIN_NODES" => .error (missingValue "MIN_NODES")
      | "MAX_NODES" => .error (missingValue "MAX_NODES")
      | "AUTO_SUSPEND" | "AUTO_SUSPEND_SECONDS" =>
          .error (missingValue "AUTO_SUSPEND")
      | option => .error (unsupported option)
  | option :: value :: rest =>
      match toAsciiUppercase option with
      | "WITH" => optionLoop spec (value :: rest)
      | "SIZE" =>
          (normalizeWarehouseSize value).bind fun size =>
            optionLoop { spec with size := size } rest
      | "MIN_NODES" =>
          (parseWarehouseI64 value "MIN_NODES").bind fun number =>
            optionLoop { spec with minNodes := number } rest
      | "MAX_NODES" =>
          (parseWarehouseI64 value "MAX_NODES").bind fun number =>
            optionLoop { spec with maxNodes := number } rest
      | "AUTO_SUSPEND" | "AUTO_SUSPEND_SECONDS" =>
          (parseWarehouseI64 value "AUTO_SUSPEND").bind fun number =>
            optionLoop { spec with autoSuspend := number } rest
      | option => .error (unsupported option)
where
  unsupported (option : String) : String :=
    "Invalid CREATE WAREHOUSE option '" ++ option ++ "'. Supported options: " ++
      "SIZE, MIN_NODES, MAX_NODES, AUTO_SUSPEND"

/-- The checks of the numbers before the catalog is asked. -/
def checkWarehouseSpec (spec : WarehouseSpec) :
    Except String WarehouseSpec :=
  if spec.minNodes < 0 then
    .error
      "Invalid CREATE WAREHOUSE MIN_NODES: value must be non-negative"
  else if spec.maxNodes < 0 then
    .error
      "Invalid CREATE WAREHOUSE MAX_NODES: value must be non-negative"
  else if spec.maxNodes < spec.minNodes then
    .error
      ("Invalid CREATE WAREHOUSE MAX_NODES: value must be greater than or " ++
        "equal to MIN_NODES")
  else if spec.autoSuspend < 0 then
    .error
      "Invalid CREATE WAREHOUSE AUTO_SUSPEND: value must be non-negative"
  else .ok spec

/-- The operands of `CREATE WAREHOUSE`, given what follows these words. -/
def warehouseSpec (sql afterKw : List Char) : Except String WarehouseSpec :=
  match firstWord afterKw with
  | none => .error "CREATE WAREHOUSE requires a name"
  | some name => do
      validateWarehouseIdentifier name "CREATE WAREHOUSE"
      let default : WarehouseSpec :=
        { name := String.ofList name
          size := "small"
          minNodes := 0
          maxNodes := 4
          autoSuspend := 300 }
      let spec ←
        if "WITH".toList <:+: upperChars sql then
          optionLoop default (optionTokens afterKw).tail
        else .ok default
      checkWarehouseSpec spec

def createWarehouseOperands (sql : List Char) :
    Panics (Except String Command) :=
  (sliceFrom sql "CREATE WAREHOUSE".length).map fun rest =>
    (warehouseSpec sql (trimStatement rest)).map .createWarehouse

/-- The state that a `SET STATE = …` asks for. -/
def setState (upperRest : List Char) : Panics (Except String String) :=
  match find "SET".toList upperRest with
  | none =>
      some
        (.error
          ("ALTER WAREHOUSE requires RESUME, SUSPEND, or SET STATE = " ++
            "RUNNING|SUSPENDED"))
  | some setPos =>
      (sliceFrom upperRest (setPos + 3)).bind fun rest =>
        let afterSet := trim rest
        if !hasPrefix afterSet "STATE" then
          some
            (.error
              ("ALTER WAREHOUSE currently supports RESUME, SUSPEND, or SET " ++
                "STATE = RUNNING|SUSPENDED"))
        else
          match find ['='] afterSet with
          | none => some (.error "Expected '=' after STATE")
          | some eqPos =>
              (sliceFrom afterSet (eqPos + 1)).map fun value =>
                .ok
                  (((firstWord value).map String.ofList).getD "SUSPENDED")

def alterWarehouseOperands (sql : List Char) :
    Panics (Except String Command) := do
  let rest ← sliceFrom sql "ALTER WAREHOUSE".length
  let afterKw := trim rest
  let upperRest := upperChars afterKw
  match firstWord afterKw with
  | none => some (.error "ALTER WAREHOUSE requires a name")
  | some name =>
      let firstAction := ((splitWhitespace upperRest)[1]?).getD []
      let state ←
        if firstAction = "RESUME".toList then some (.ok "RUNNING")
        else if firstAction = "SUSPEND".toList then some (.ok "SUSPENDED")
        else setState upperRest
      some
        (state.bind fun state =>
          if state = "RUNNING" ∨ state = "SUSPENDED" then
            .ok (.alterWarehouse (String.ofList name) state)
          else
            .error
              ("Invalid state '" ++ state ++ "'. Use RUNNING or SUSPENDED"))

def useWarehouseOperands (sql : List Char) :
    Panics (Except String Command) :=
  (sliceFrom sql "USE WAREHOUSE".length).map fun rest =>
    match firstWord (trim rest) with
    | none => .error "USE WAREHOUSE requires a name"
    | some name => .ok (.useWarehouse (String.ofList name))

/-! ### Loading and materializing -/

/-- How many parts `str::splitn` makes at white space. -/
def splitnLength (limit : Nat) (text : List Char) : Nat :=
  min limit (text.countP isWhitespace + 1)

/-- The path behind `FROM`, possibly quoted. -/
def sourcePath (rest : List Char) : Panics (List Char) :=
  match rest.head? with
  | some quote =>
      if quote = '\'' ∨ quote = '"' then do
        let inner ← sliceFrom rest 1
        let stop := (find [quote] inner).getD (utf8Len rest - 1)
        slice rest 1 (stop + 1)
      else some ((firstWord rest).getD rest)
  | none => some ((firstWord rest).getD rest)

def copyIntoOperands (sql : List Char) : Panics (Except String Command) :=
  if splitnLength 5 sql < 4 then
    some
      (.error
        "Invalid COPY INTO syntax. Use: COPY INTO <table> FROM '<path>'")
  else
    let upper := upperChars sql
    let intoPos := (find "INTO".toList upper).getD 0
    match find "FROM".toList upper with
    | none => some (.error "COPY INTO requires FROM clause")
    | some fromPos => do
        let tableName := trim (← slice sql (intoPos + 4) fromPos)
        match validateOutputTableIdentifier tableName "COPY INTO" with
        | .error message => some (.error message)
        | .ok () =>
            let path ← sourcePath (trim (← sliceFrom sql (fromPos + 4)))
            some
              (.ok (.copyInto (String.ofList tableName) (String.ofList path)))

def ctasOperands (sql : List Char) : Panics (Except String Command) := do
  let tablePos ←
    match ← keywordSequenceEnd sql ["CREATE", "TABLE"] with
    | some tablePos => some tablePos
    | none =>
        some
          ((find "TABLE".toList (upperChars sql)).getD 0 + "TABLE".length)
  match ← findAsClause sql tablePos with
  | none => some (.error "CREATE TABLE ... AS requires AS clause")
  | some (asPos, queryPos) =>
      let tableName := trim (← slice sql tablePos asPos)
      match validateOutputTableIdentifier tableName "CREATE TABLE AS" with
      | .error message => some (.error message)
      | .ok () =>
          let selectSql ←
            validateMaterializationQuery (← sliceFrom sql queryPos)
              "CREATE TABLE AS"
          some
            (selectSql.map fun selectSql =>
              .ctas (String.ofList tableName) (String.ofList selectSql))

def createMaterializedViewOperands (sql : List Char) :
    Panics (Except String Command) := do
  match ← keywordSequenceEnd sql ["CREATE", "MATERIALIZED", "VIEW"] with
  | none => some (.error "CREATE MATERIALIZED VIEW required")
  | some headerEnd =>
      match ← findAsClause sql headerEnd with
      | none =>
          some
            (.error
              ("CREATE MATERIALIZED VIEW <name> AS <query> requires AS " ++
                "clause"))
      | some (asPos, queryPos) =>
          let name := trim (← slice sql headerEnd asPos)
          let selectSql ←
            validateMaterializationQuery (← sliceFrom sql queryPos)
              "CREATE MATERIALIZED VIEW"
          some
            (selectSql.bind fun selectSql =>
              if name.isEmpty then
                .error "CREATE MATERIALIZED VIEW requires a name"
              else
                (validateOutputTableIdentifier name
                    "CREATE MATERIALIZED VIEW").map fun () =>
                  .createMaterializedView (String.ofList name)
                    (String.ofList selectSql))

/-- The name behind the keywords of a `REFRESH` or a `DROP`. -/
def viewOperand (keywords : String) (make : String → Command)
    (sql : List Char) : Panics (Except String Command) :=
  (sliceFrom sql keywords.length).map fun rest =>
    match firstWord (trimStatement rest) with
    | none => .error (keywords ++ " requires a name")
    | some name => .ok (make (String.ofList name))

def refreshMaterializedViewOperands :
    List Char → Panics (Except String Command) :=
  viewOperand "REFRESH MATERIALIZED VIEW" .refreshMaterializedView

def dropMaterializedViewOperands :
    List Char → Panics (Except String Command) :=
  viewOperand "DROP MATERIALIZED VIEW" .dropMaterializedView

/-! ### Tables -/

/-- `DESCRIBE` looks a name up in a quoted text and takes the quotes out. -/
def describeOperands (sql : List Char) : Command :=
  .describe (String.ofList (((splitWhitespace sql)[1]?).getD []))

/-- The name of `DROP TABLE [IF EXISTS] <name>`, without quotes. -/
def dropTableOperands (sql : List Char) : Command :=
  let tokens := splitWhitespace sql
  let nameIdx :=
    if 5 ≤ tokens.length &&
        tokens[2]?.any (eqIgnoreCase · "if") &&
        tokens[3]?.any (eqIgnoreCase · "exists") then
      4
    else 2
  let table := (tokens[nameIdx]?).getD []
  .dropTable (String.ofList (table.filter (· ∉ ['\'', '"'])))

/-! ## Dispatch -/

/-- What a handler reads before it does anything. -/
def operands : Handler → List Char → Panics (Except String Command)
  | .showWarehouses, _ => some (.ok .showWarehouses)
  | .createWarehouse, sql => createWarehouseOperands sql
  | .alterWarehouse, sql => alterWarehouseOperands sql
  | .useWarehouse, sql => useWarehouseOperands sql
  | .copyInto, sql => copyIntoOperands sql
  | .ctas, sql => ctasOperands sql
  | .createMaterializedView, sql => createMaterializedViewOperands sql
  | .refreshMaterializedView, sql => refreshMaterializedViewOperands sql
  | .dropMaterializedView, sql => dropMaterializedViewOperands sql
  | .showTables, _ => some (.ok .showTables)
  | .showDatabases, _ => some (.ok .showDatabases)
  | .describe, sql => some (.ok (describeOperands sql))
  | .dropTable, sql => some (.ok (dropTableOperands sql))

/-- The handler of a statement, if it has one, and the text it is given. -/
def handlerOf (sql : String) : Panics (Option Handler) := do
  selectHandler (← stripLeadingSqlComments sql.toList)

/--
The command that `handle_command` carries out, or the error it answers before
it does anything.  There is none for a text that goes to the query engine.
-/
def dispatch (sql : String) : Panics (Option (Except String Command)) := do
  let trimmed ← stripLeadingSqlComments sql.toList
  match ← selectHandler trimmed with
  | none => some none
  | some handler => (operands handler trimmed).map some

end OpenSnow.Core.Commands
