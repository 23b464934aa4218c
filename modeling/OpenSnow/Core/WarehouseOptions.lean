import OpenSnow.Core.ViewNamespace
import OpenSnow.Core.WarehouseLayouts

/-!
# The options that `CREATE WAREHOUSE` stores

Behind the name stand options with their values, in any order and with the last
value counting.  The handler reads them only if the whole statement contains the
letters `WITH` somewhere; what is written without them is not looked at.
-/

namespace OpenSnow.Core.Commands

open Foundation
open Rust.Text

deriving instance DecidableEq for WarehouseOption

/-! ## What is written -/

/-- The words for an option. -/
def WarehouseOption.spellings : WarehouseOption → List String
  | .autoSuspend => ["AUTO_SUSPEND", "AUTO_SUSPEND_SECONDS"]
  | option => [option.keyword]

/-- Options with their values, and the word `WITH` anywhere between them. -/
inductive Writes :
    List String → List (WarehouseOption × String) → Prop where
  | nil : Writes [] []
  | withWord {token : String} {tokens : List String}
      {written : List (WarehouseOption × String)} :
      toAsciiUppercase token = "WITH" → Writes tokens written →
        Writes (token :: tokens) written
  | option {option : WarehouseOption} {token value : String}
      {tokens : List String} {written : List (WarehouseOption × String)} :
      toAsciiUppercase token ∈ WarehouseOption.spellings option →
        Writes tokens written →
          Writes (token :: value :: tokens) ((option, value) :: written)

/-- The last value that is written for an option. -/
def lastValue (option : WarehouseOption)
    (written : List (WarehouseOption × String)) : Option String :=
  ((written.filter (·.1 = option)).getLast?).map Prod.snd

/-- What is stored reads the last value, or is the default if there is none. -/
def StoresLast {Value : Type} (option : WarehouseOption)
    (written : List (WarehouseOption × String))
    (reads : String → Value → Prop) (default stored : Value) : Prop :=
  (lastValue option written).elim (stored = default) (reads · stored)

/-- A size is stored in small letters. -/
def ReadsSize (value size : String) : Prop := size = toAsciiLowercase value

def ReadsNumber (value : String) (number : Int) : Prop :=
  parseI64 value = some number

/-- A warehouse has the options that are written, and else those of another. -/
structure HasOptions (written : List (WarehouseOption × String))
    (default spec : WarehouseSpec) : Prop where
  size : StoresLast .size written ReadsSize default.size spec.size
  minNodes :
    StoresLast .minNodes written ReadsNumber default.minNodes spec.minNodes
  maxNodes :
    StoresLast .maxNodes written ReadsNumber default.maxNodes spec.maxNodes
  autoSuspend :
    StoresLast .autoSuspend written ReadsNumber default.autoSuspend
      spec.autoSuspend

/-- The tokens behind the first word of a text. -/
def writtenTokens (text : List Char) : List String :=
  optionTokens (text.dropWhile (!isWhitespace ·))

/-- The warehouse that the text behind `CREATE WAREHOUSE` asks for. -/
structure IsAskedFor (text : List Char) (spec : WarehouseSpec) : Prop where
  name : firstWord text = some spec.name.toList
  safe : isSafeUnqualifiedIdentifier spec.name.toList
  options : ∃ written, Writes (writtenTokens text) written ∧
    HasOptions written (defaultSpec spec.name.toList) spec
  minNodes : 0 ≤ spec.minNodes
  ordered : spec.minNodes ≤ spec.maxNodes
  autoSuspend : 0 ≤ spec.autoSuspend

/-- What is written, if anything, sets every option to its default. -/
def WritesDefaults (text : List Char) : Prop :=
  ∃ written, Writes (writtenTokens text) written ∧
    HasOptions written (defaultSpec []) (defaultSpec [])

/-! ## The last value -/

section LastValue

variable {option other : WarehouseOption} {value : String}
  {written : List (WarehouseOption × String)}

theorem lastValue_cons_self :
    lastValue option ((option, value) :: written) =
      some ((lastValue option written).getD value) := by
  rw [lastValue, List.filter_cons_of_pos (by simp), List.getLast?_cons,
    lastValue]
  cases (written.filter (·.1 = option)).getLast? <;> rfl

theorem lastValue_cons_other (differ : other ≠ option) :
    lastValue option ((other, value) :: written) = lastValue option written := by
  rw [lastValue, List.filter_cons_of_neg (by simpa using differ), lastValue]

variable {Value : Type} {reads : String → Value → Prop}
  {default first stored : Value}

/-- A value in front counts if there is none behind. -/
theorem StoresLast.cons_self (read : reads value first)
    (behind : StoresLast option written reads first stored) :
    StoresLast option ((option, value) :: written) reads default stored := by
  rw [StoresLast, lastValue_cons_self]
  rw [StoresLast] at behind
  cases last : lastValue option written with
  | none =>
      rw [last, Option.elim_none] at behind
      rw [behind]
      exact read
  | some later =>
      rw [last] at behind
      exact behind

theorem StoresLast.cons_other (differ : other ≠ option)
    (behind : StoresLast option written reads default stored) :
    StoresLast option ((other, value) :: written) reads default stored := by
  rwa [StoresLast, lastValue_cons_other differ]

end LastValue

/-! ## The loop over the tokens -/

/-- A warehouse that differs in the value of one option. -/
def SetsOption (option : WarehouseOption) (value : String)
    (spec changed : WarehouseSpec) : Prop :=
  match option with
  | .size => ∃ size, ReadsSize value size ∧ changed = { spec with size := size }
  | .minNodes =>
      ∃ number, ReadsNumber value number ∧
        changed = { spec with minNodes := number }
  | .maxNodes =>
      ∃ number, ReadsNumber value number ∧
        changed = { spec with maxNodes := number }
  | .autoSuspend =>
      ∃ number, ReadsNumber value number ∧
        changed = { spec with autoSuspend := number }

theorem normalizeWarehouseSize_ok {value size : String}
    (ok : normalizeWarehouseSize value = .ok size) : ReadsSize value size := by
  rw [normalizeWarehouseSize] at ok
  rw [ReadsSize]
  split at ok
  case h_6 => cases ok
  all_goals
    rename_i isSize
    injection ok with same
    rw [← same, isSize]

theorem parseWarehouseI64_ok {value option : String} {number : Int}
    (ok : parseWarehouseI64 value option = .ok number) :
    ReadsNumber value number := by
  rw [parseWarehouseI64] at ok
  rw [ReadsNumber]
  split at ok
  · injection ok with same
    rw [← same]
    assumption
  · cases ok

/-- What one round of a loop that succeeds does. -/
inductive Round (spec result : WarehouseSpec) : List String → Prop where
  | done : result = spec → Round spec result []
  | withWord {token : String} {tokens : List String} :
      toAsciiUppercase token = "WITH" → optionLoop spec tokens = .ok result →
        Round spec result (token :: tokens)
  | option (option : WarehouseOption) {token value : String}
      {tokens : List String} {changed : WarehouseSpec} :
      toAsciiUppercase token ∈ option.spellings →
        SetsOption option value spec changed →
          optionLoop changed tokens = .ok result →
            Round spec result (token :: value :: tokens)

theorem optionLoop_round {spec result : WarehouseSpec} {tokens : List String}
    (ok : optionLoop spec tokens = .ok result) : Round spec result tokens := by
  rcases tokens with _ | ⟨token, _ | ⟨value, tokens⟩⟩
  · injection ok with same
    exact .done same.symm
  · rw [optionLoop] at ok
    split at ok
    case h_1 isWith => exact .withWord isWith ok
    all_goals cases ok
  · rw [optionLoop] at ok
    split at ok
    case h_1 isWith => exact .withWord isWith ok
    case h_2 isSize =>
      rcases except_bind_ok ok with ⟨size, read, onwards⟩
      exact
        .option .size (by rw [isSize]; decide)
          ⟨size, normalizeWarehouseSize_ok read, rfl⟩ onwards
    case h_3 isMin =>
      rcases except_bind_ok ok with ⟨number, read, onwards⟩
      exact
        .option .minNodes (by rw [isMin]; decide)
          ⟨number, parseWarehouseI64_ok read, rfl⟩ onwards
    case h_4 isMax =>
      rcases except_bind_ok ok with ⟨number, read, onwards⟩
      exact
        .option .maxNodes (by rw [isMax]; decide)
          ⟨number, parseWarehouseI64_ok read, rfl⟩ onwards
    case h_5 isSuspend =>
      rcases except_bind_ok ok with ⟨number, read, onwards⟩
      exact
        .option .autoSuspend (by rw [isSuspend]; decide)
          ⟨number, parseWarehouseI64_ok read, rfl⟩ onwards
    case h_6 isSuspend =>
      rcases except_bind_ok ok with ⟨number, read, onwards⟩
      exact
        .option .autoSuspend (by rw [isSuspend]; decide)
          ⟨number, parseWarehouseI64_ok read, rfl⟩ onwards
    case h_7 => cases ok

/-- Options in front of others that are stored from there on. -/
theorem HasOptions.cons {option : WarehouseOption} {value : String}
    {written : List (WarehouseOption × String)}
    {default changed spec : WarehouseSpec}
    (sets : SetsOption option value default changed)
    (behind : HasOptions written changed spec) :
    HasOptions ((option, value) :: written) default spec := by
  cases option with
  | size =>
      rcases sets with ⟨size, read, rfl⟩
      exact
        ⟨behind.size.cons_self read,
          behind.minNodes.cons_other (by decide),
          behind.maxNodes.cons_other (by decide),
          behind.autoSuspend.cons_other (by decide)⟩
  | minNodes =>
      rcases sets with ⟨number, read, rfl⟩
      exact
        ⟨behind.size.cons_other (by decide),
          behind.minNodes.cons_self read,
          behind.maxNodes.cons_other (by decide),
          behind.autoSuspend.cons_other (by decide)⟩
  | maxNodes =>
      rcases sets with ⟨number, read, rfl⟩
      exact
        ⟨behind.size.cons_other (by decide),
          behind.minNodes.cons_other (by decide),
          behind.maxNodes.cons_self read,
          behind.autoSuspend.cons_other (by decide)⟩
  | autoSuspend =>
      rcases sets with ⟨number, read, rfl⟩
      exact
        ⟨behind.size.cons_other (by decide),
          behind.minNodes.cons_other (by decide),
          behind.maxNodes.cons_other (by decide),
          behind.autoSuspend.cons_self read⟩

theorem SetsOption.name {option : WarehouseOption} {value : String}
    {spec changed : WarehouseSpec} (sets : SetsOption option value spec changed) :
    changed.name = spec.name := by
  cases option <;>
    · rcases sets with ⟨_, _, rfl⟩
      rfl

/-- A loop that succeeds read options, and it stores the last values. -/
theorem optionLoop_stores {tokens : List String}
    {default spec : WarehouseSpec}
    (ok : optionLoop default tokens = .ok spec) :
    spec.name = default.name ∧
      ∃ written, Writes tokens written ∧ HasOptions written default spec := by
  cases optionLoop_round ok with
  | done same =>
      rw [same]
      exact ⟨rfl, [], .nil, rfl, rfl, rfl, rfl⟩
  | withWord isWith onwards =>
      rcases optionLoop_stores onwards with ⟨name, written, writes, has⟩
      exact ⟨name, written, .withWord isWith writes, has⟩
  | option option named sets onwards =>
      rcases optionLoop_stores onwards with ⟨name, written, writes, has⟩
      exact
        ⟨name.trans sets.name, _, .option named writes, has.cons sets⟩
termination_by tokens.length

/-! ## The name -/

/-- A text that begins with its first word. -/
theorem eq_firstWord_append {text name : List Char}
    (first : firstWord text = some name) (starts : Stops isWhitespace text) :
    text = name ++ text.dropWhile (!isWhitespace ·) := by
  have parts := @List.takeWhile_append_dropWhile _ (!isWhitespace ·) text
  cases text with
  | nil => cases first
  | cons ch text =>
      have solid := stops_cons.mp starts
      have nonempty : (ch :: text).takeWhile (!isWhitespace ·) ≠ [] := by
        simp [solid]
      have run : firstWord (ch :: text) =
          some ((ch :: text).takeWhile (!isWhitespace ·)) := by
        rw [firstWord, splitWhitespace_eq]
        conv_lhs => rw [← parts]
        rw [fields_run_append nonempty (fun ch member => by
            simpa using List.mem_takeWhile_imp member)
          (stops_dropWhile _)]
        rfl
      rw [first, Option.some.injEq] at run
      rw [run, parts]

/-- The tokens of a text that begins with a name. -/
theorem optionTokens_tail {text name : List Char}
    (first : firstWord text = some name)
    (starts : Stops isWhitespace text)
    (nonempty : name ≠ [])
    (named : ∀ ch ∈ name, isSqlIdentifierChar ch) :
    (optionTokens text).tail = writtenTokens text := by
  have ends : Stops (!isOptionBreak ·) (text.dropWhile (!isWhitespace ·)) := by
    intro ch isHead
    have blank := stops_dropWhile text ch isHead
    rw [Bool.not_eq_false'] at blank ⊢
    exact isOptionBreak_of_blank blank
  have tokens : fields isOptionBreak text =
      name :: fields isOptionBreak (text.dropWhile (!isWhitespace ·)) := by
    conv_lhs => rw [eq_firstWord_append first starts]
    exact
      fields_run_append nonempty
        (fun ch member => isOptionBreak_of_named (named ch member)) ends
  rw [optionTokens_eq, tokens]
  rfl

/-! ## The handler -/

theorem checkWarehouseSpec_ok {spec checked : WarehouseSpec}
    (ok : checkWarehouseSpec spec = .ok checked) :
    checked = spec ∧ 0 ≤ spec.minNodes ∧ spec.minNodes ≤ spec.maxNodes ∧
      0 ≤ spec.autoSuspend := by
  rw [checkWarehouseSpec] at ok
  split at ok
  · cases ok
  split at ok
  · cases ok
  split at ok
  · cases ok
  split at ok
  · cases ok
  injection ok with same
  exact ⟨same.symm, by omega, by omega, by omega⟩

/-- A statement that is read has a safe name and numbers in their bounds. -/
theorem warehouseSpec_ok {sql text : List Char} {spec : WarehouseSpec}
    (starts : Stops isWhitespace text)
    (ok : warehouseSpec sql text = .ok spec) :
    firstWord text = some spec.name.toList ∧
      isSafeUnqualifiedIdentifier spec.name.toList ∧
      0 ≤ spec.minNodes ∧ spec.minNodes ≤ spec.maxNodes ∧
      0 ≤ spec.autoSuspend ∧
      if "WITH".toList <:+: upperChars sql then
        ∃ written, Writes (writtenTokens text) written ∧
          HasOptions written (defaultSpec spec.name.toList) spec
      else spec = defaultSpec spec.name.toList := by
  rw [warehouseSpec] at ok
  split at ok
  · cases ok
  rename_i name first
  rcases except_bind_ok ok with ⟨_, valid, read⟩
  have safe : isSafeUnqualifiedIdentifier name :=
    (validateIdentifier_toOption _ _ _).mp valid
  rcases isSafe_named safe with ⟨nonempty, named⟩
  have ofName : (String.ofList name).toList = name := String.toList_ofList
  dsimp only at read
  split at read
  · rename_i inSql
    rcases except_bind_ok read with ⟨unchecked, made, checked⟩
    rcases checkWarehouseSpec_ok checked with ⟨rfl, bounds⟩
    rw [optionTokens_tail first starts nonempty named] at made
    rcases optionLoop_stores made with ⟨sameName, written, writes, has⟩
    rw [sameName, ofName, if_pos inSql]
    exact
      ⟨first, safe, bounds.1, bounds.2.1, bounds.2.2, written, writes, has⟩
  · rename_i notInSql
    rcases except_bind_ok read with ⟨unchecked, made, checked⟩
    rcases checkWarehouseSpec_ok checked with ⟨rfl, bounds⟩
    injection made with made
    subst made
    rw [if_neg notInSql, ofName]
    exact ⟨first, safe, bounds.1, bounds.2.1, bounds.2.2, rfl⟩

end OpenSnow.Core.Commands

namespace OpenSnow.Core

open Core.Commands
open Foundation
open Rust.Text

variable {Row Key Location Contents : Type}

/-- The state with one more row of `warehouses`. -/
def EngineState.withWarehouse (state : EngineState Row Key Location Contents)
    (spec : WarehouseSpec) : EngineState Row Key Location Contents :=
  { state with warehouses := state.warehouses ++ [⟨spec, "SUSPENDED"⟩] }

theorem EngineState.withWarehouse_inj
    {state : EngineState Row Key Location Contents}
    {spec other : WarehouseSpec}
    (same : state.withWarehouse spec = state.withWarehouse other) :
    spec = other := by
  have rows := congrArg EngineState.warehouses same
  simpa [EngineState.withWarehouse] using rows

/-- The warehouse that is asked for is stored, and nothing else changes. -/
def StoresAskedFor (text : List Char)
    (before after : EngineState Row Key Location Contents) : Prop :=
  ∃ spec, IsAskedFor text spec ∧ after = before.withWarehouse spec

/-- What a statement that is read stores is what it asks for. -/
theorem storesAskedFor_iff {sql text : List Char} {spec : WarehouseSpec}
    (starts : Stops isWhitespace text)
    (ok : warehouseSpec sql text = .ok spec)
    (before : EngineState Row Key Location Contents) :
    StoresAskedFor text before (before.withWarehouse spec) ↔
      "WITH".toList <:+: upperChars sql ∨ WritesDefaults text := by
  rcases warehouseSpec_ok starts ok with
    ⟨name, safe, minNodes, ordered, autoSuspend, stored⟩
  by_cases inSql : "WITH".toList <:+: upperChars sql
  · rw [if_pos inSql] at stored
    refine iff_of_true ?_ (.inl inSql)
    exact
      ⟨spec, ⟨name, safe, stored, minNodes, ordered, autoSuspend⟩, rfl⟩
  · rw [if_neg inSql] at stored
    constructor
    · rintro ⟨asked, isAsked, same⟩
      rcases EngineState.withWarehouse_inj same
      rcases isAsked.options with ⟨written, writes, has⟩
      rw [stored] at has
      exact
        .inr
          ⟨written, writes, has.size, has.minNodes, has.maxNodes,
            has.autoSuspend⟩
    · rintro (impossible | ⟨written, writes, has⟩)
      · exact absurd impossible inSql
      · refine
          ⟨spec, ⟨name, safe, ⟨written, writes, ?_⟩, minNodes, ordered,
            autoSuspend⟩, rfl⟩
        rw [stored]
        exact ⟨has.size, has.minNodes, has.maxNodes, has.autoSuspend⟩

variable {platform : Platform Row Key Location Contents}

/-- The row is added, or nothing is done. -/
theorem handleCreateWarehouse_run (spec : WarehouseSpec)
    (before : EngineState Row Key Location Contents) :
    match handleCreateWarehouse platform spec before with
    | (.ok _, after) => after = before.withWarehouse spec
    | (.error _, after) => after = before := by
  rw [handleCreateWarehouse, catalogCall, Effect.look_bind]
  cases platform.catalogFault before .createWarehouse with
  | some message => rfl
  | none =>
      dsimp only
      rw [Effect.look_bind]
      dsimp only
      cases before.warehouses.any (·.name == spec.name) <;> rfl

variable [DecidableEq Key] [DecidableEq Location]

/-- What a handler does once it has read its operands, or could not. -/
def carryOut (platform : Platform Row Key Location Contents) :
    Except String Command → Handling Row Key Location Contents (Reply Row)
  | .error message => Effect.fail (.statement message)
  | .ok command => perform platform command

/-- `handle_create_warehouse` on a statement. -/
def createWarehouse (platform : Platform Row Key Location Contents)
    (sql : List Char) :
    Panics (Handling Row Key Location Contents (Reply Row)) :=
  (createWarehouseOperands sql).map (carryOut platform)

/--
A failure of `CREATE WAREHOUSE` leaves the catalog as it was.  A success stores
the warehouse that is asked for if and only if the letters `WITH` stand
somewhere in the statement, or only defaults are written.
-/
theorem createWarehouse_stores_iff {sql rest : List Char}
    {handling : Handling Row Key Location Contents (Reply Row)}
    (behind : sliceFrom sql "CREATE WAREHOUSE".length = some rest)
    (handled : createWarehouse platform sql = some handling)
    (before : EngineState Row Key Location Contents) :
    match handling before with
    | (.ok _, after) =>
        StoresAskedFor (trimStatement rest) before after ↔
          "WITH".toList <:+: upperChars sql ∨
            WritesDefaults (trimStatement rest)
    | (.error _, after) => after = before := by
  rw [createWarehouse, createWarehouseOperands, behind, Option.map_some,
    Option.map_some, Option.some.injEq] at handled
  have starts : Stops isWhitespace (trimStatement rest) := (trimmed_trim _).1
  cases read : warehouseSpec sql (trimStatement rest) with
  | error message =>
      rw [read] at handled
      rw [← handled]
      rfl
  | ok spec =>
      rw [read] at handled
      have run := @handleCreateWarehouse_run _ _ _ _ platform spec before
      change handleCreateWarehouse platform spec = handling at handled
      rw [← handled]
      split
      · rename_i ran
        rw [ran] at run
        rw [run, storesAskedFor_iff starts read]
      · rename_i ran
        rw [ran] at run
        exact run

theorem createWarehouse_stores_iff_large :
    ∃ handling, createWarehouse smallPlatform
        "CREATE WAREHOUSE w WITH SIZE = 'large'".toList = some handling ∧
      match handling emptyEngine with
      | (.ok _, after) =>
          StoresAskedFor (trimStatement " w WITH SIZE = 'large'".toList)
              emptyEngine after ↔
            "WITH".toList <:+: upperChars
                "CREATE WAREHOUSE w WITH SIZE = 'large'".toList ∨
              WritesDefaults (trimStatement " w WITH SIZE = 'large'".toList)
      | (.error _, after) => after = emptyEngine := by
  have behind :
      sliceFrom "CREATE WAREHOUSE w WITH SIZE = 'large'".toList
          "CREATE WAREHOUSE".length =
        some " w WITH SIZE = 'large'".toList := by decide
  have handled :
      createWarehouse smallPlatform
          "CREATE WAREHOUSE w WITH SIZE = 'large'".toList =
        some
          (handleCreateWarehouse smallPlatform
            { defaultSpec ['w'] with size := "large" }) := rfl
  exact ⟨_, handled, createWarehouse_stores_iff behind handled emptyEngine⟩

/-- Options without the letters `WITH` in the statement are not looked at. -/
theorem createWarehouse_drops_options :
    ∃ handling reply after,
      createWarehouse smallPlatform
          "CREATE WAREHOUSE w SIZE = 'large'".toList = some handling ∧
        handling emptyEngine = (.ok reply, after) ∧
        ¬ StoresAskedFor (trimStatement " w SIZE = 'large'".toList)
          emptyEngine after := by
  have tokens :
      writtenTokens (trimStatement " w SIZE = 'large'".toList) =
        ["SIZE", "large"] := by decide
  have read :
      warehouseSpec "CREATE WAREHOUSE w SIZE = 'large'".toList
          (trimStatement " w SIZE = 'large'".toList) =
        .ok (defaultSpec ['w']) := rfl
  have starts :
      Stops isWhitespace (trimStatement " w SIZE = 'large'".toList) :=
    (trimmed_trim _).1
  refine
    ⟨_, .status "WAREHOUSE CREATED: w",
      emptyEngine.withWarehouse (defaultSpec ['w']), rfl, rfl, ?_⟩
  rw [storesAskedFor_iff starts read]
  rintro (inSql | ⟨written, writes, has⟩)
  · revert inSql
    decide
  · rw [tokens] at writes
    cases writes with
    | withWord isWith _ =>
        revert isWith
        decide
    | option named onwards =>
        cases onwards
        rename_i option
        cases option
        case size =>
          have small : ReadsSize "large" "small" := has.size
          rw [ReadsSize] at small
          revert small
          decide
        all_goals
          revert named
          decide

end OpenSnow.Core
