import OpenSnow.Core.Confinement
import OpenSnow.Ingest.FileWatcher

/-!
# Registering the tables at startup

A new session knows no tables.  The command line registers every Parquet file
of the directory of the public tables under its stem, and stops at the first
that cannot be registered; the worker then registers the materialized views and
only logs what goes wrong.
-/

namespace OpenSnow.Core

open Foundation
open Ingest (fileStem)
open Rust.Path

variable {Row Key Location Contents : Type}
  (platform : Platform Row Key Location Contents)

/-! ## Startup -/

/-- The path of an entry of the directory of the public tables. -/
def Platform.tablePath (entry : String) : String :=
  platform.warehousePath ++ "/opensnow/public/" ++ entry

/-- The loop of `register_warehouse_tables` over the entries. -/
def registerWarehouseTables [DecidableEq Key] :
    List String → Handling Row Key Location Contents Unit
  | [] => pure ()
  | entry :: rest =>
      (if extension entry = some "parquet" then
        registerTable platform .parquet (fileStem entry "parquet")
          (platform.tablePath entry)
      else pure ()) >>= fun () => registerWarehouseTables rest

/-- `should_skip_materialized_view_path`. -/
def shouldSkipViewPath (state : EngineState Row Key Location Contents)
    (path : String) : Bool :=
  !isObjectStoreUrl path && (state.files (platform.fileAt path)).isNone

/-- The loop of `register_materialized_views`. -/
def registerMaterializedViews [DecidableEq Key] :
    List (String × MaterializedView) →
      EngineState Row Key Location Contents →
        EngineState Row Key Location Contents
  | [], state => state
  | (name, view) :: rest, state =>
      registerMaterializedViews rest
        (if shouldSkipViewPath platform state view.parquetPath then state
        else (registerTable platform .parquet name view.parquetPath state).2)

/-- The session of a process that has just been started. -/
def EngineState.newSession (state : EngineState Row Key Location Contents) :
    EngineState Row Key Location Contents :=
  { state with tables := fun _ => none }

/-- A name that stands for one entry of a directory. -/
def IsFileName (name : String) : Prop :=
  '/' ∉ name.toList ∧ name ∉ ["", ".", ".."]

/-- The entries of the directory of the public tables, in some order. -/
def Lists (state : EngineState Row Key Location Contents)
    (entries : List String) : Prop :=
  ∀ name, name ∈ entries ↔
    IsFileName name ∧
      (state.files (platform.fileAt (platform.tablePath name))).isSome

/--
A process on a local warehouse has stopped and another has registered the
tables of the directory, and then views of the catalog.
-/
structure Restarted [DecidableEq Key]
    (state restarted : EngineState Row Key Location Contents) : Prop where
  isLocal : platform.warehouseIsRemote = false
  ran : ∃ entries views middle, Lists platform state entries ∧
    (∀ row ∈ views, state.views row.1 = some row.2) ∧
    registerWarehouseTables platform entries state.newSession =
      (.ok (), middle) ∧
    restarted = registerMaterializedViews platform views middle

/-! ## What a startup registers -/

/-- The files are the same, and what was registered still is. -/
structure Grows (before after : EngineState Row Key Location Contents) :
    Prop where
  files : after.files = before.files
  tables : ∀ key source, before.tables key = some source →
    after.tables key = some source

theorem Grows.refl (state : EngineState Row Key Location Contents) :
    Grows state state :=
  ⟨rfl, fun _ _ held => held⟩

theorem Grows.trans {first second third : EngineState Row Key Location Contents}
    (one : Grows first second) (two : Grows second third) :
    Grows first third :=
  ⟨two.files.trans one.files,
    fun key source held => two.tables key source (one.tables key source held)⟩

variable [DecidableEq Key]

theorem grows_registered {state : EngineState Row Key Location Contents}
    {key : Key} (source : TableSource Row) (free : state.tables key = none) :
    Grows state (state.registered key source) := by
  refine ⟨rfl, fun other held isHeld => ?_⟩
  have apart : other ≠ key := by
    rintro rfl
    rw [free] at isHeld
    cases isHeld
  rw [EngineState.registered_tables, Function.update_of_ne apart]
  exact isHeld

variable {platform}

/-- A registration is made or leaves the state alone. -/
theorem registerTable_cases (format : Format) (name path : String)
    (state : EngineState Row Key Location Contents) :
    (∃ failure, registerTable platform format name path state =
        (.error failure, state)) ∨
      state.tables (platform.tableKey name) = none ∧
        registerTable platform format name path state =
          (.ok (),
            state.registered (platform.tableKey name) (.file format path)) := by
  cases schema :
      platform.inferSchema format (state.files (platform.locate path)) with
  | error message =>
      exact Or.inl ⟨_, registerTable_unreadable platform name schema⟩
  | ok readable =>
      cases held : state.tables (platform.tableKey name) with
      | none => exact Or.inr ⟨rfl, registerTable_free platform schema held⟩
      | some source =>
          exact Or.inl ⟨_, registerTable_taken platform schema held⟩

theorem registerTable_grows (format : Format) (name path : String)
    (state : EngineState Row Key Location Contents) :
    Grows state (registerTable platform format name path state).2 := by
  rcases @registerTable_cases _ _ _ _ platform _ format name path state with
    ⟨failure, failed⟩ | ⟨free, done⟩
  · rw [failed]
    exact .refl state
  · rw [done]
    exact grows_registered _ free

theorem registerMaterializedViews_grows
    (views : List (String × MaterializedView))
    (state : EngineState Row Key Location Contents) :
    Grows state (registerMaterializedViews platform views state) := by
  induction views generalizing state with
  | nil => exact .refl state
  | cons row rest ih =>
      rcases row with ⟨name, view⟩
      rw [registerMaterializedViews]
      apply Grows.trans _ (ih _)
      split
      · exact .refl state
      · exact registerTable_grows _ _ _ state

/-- Every Parquet file of the directory is registered under its stem. -/
def RegistersEntries (platform : Platform Row Key Location Contents)
    (entries : List String)
    (state : EngineState Row Key Location Contents) : Prop :=
  ∀ entry ∈ entries, extension entry = some "parquet" →
    state.tables (platform.tableKey (fileStem entry "parquet")) =
      some (.file .parquet (platform.tablePath entry))

theorem registerWarehouseTables_registers {entries : List String}
    {before after : EngineState Row Key Location Contents}
    (ran : registerWarehouseTables platform entries before = (.ok (), after)) :
    Grows before after ∧ RegistersEntries platform entries after := by
  induction entries generalizing before with
  | nil =>
      cases ran
      exact ⟨.refl _, fun entry member => absurd member List.not_mem_nil⟩
  | cons entry rest ih =>
      rw [registerWarehouseTables] at ran
      rcases Effect.of_bind_ok ran with ⟨_, middle, first, others⟩
      rcases ih others with ⟨grows, registers⟩
      split at first
      · rcases @registerTable_cases _ _ _ _ platform _ .parquet
            (fileStem entry "parquet") (platform.tablePath entry) before with
          ⟨failure, failed⟩ | ⟨free, done⟩
        · rw [failed] at first
          cases first
        · rw [done] at first
          cases first
          refine ⟨(grows_registered _ free).trans grows, ?_⟩
          intro other member isParquet
          rcases List.mem_cons.mp member with rfl | member
          · apply grows.tables
            rw [EngineState.registered_tables, Function.update_self]
          · exact registers other member isParquet
      · rename_i otherKind
        cases first
        refine ⟨grows, ?_⟩
        intro other member isParquet
        rcases List.mem_cons.mp member with rfl | member
        · exact absurd isParquet otherKind
        · exact registers other member isParquet

/-! ## The file of a table -/

/-- The entry of a table in the directory. -/
def tableEntry (name : String) : String := name ++ "." ++ "parquet"

theorem extension_tableEntry {name : String} (word : IsWord name) :
    extension (tableEntry name) = some "parquet" := by
  apply extension_append
  · intro empty
    exact word.nonempty (String.toList_injective empty)
  · decide
  · decide

theorem fileStem_tableEntry (name : String) :
    fileStem (tableEntry name) "parquet" = name := by
  have length : (tableEntry name).length - "parquet".length - 1 =
      name.toList.length := by
    have dot : ".".length = 1 := rfl
    rw [tableEntry, String.length_append, String.length_append, dot,
      ← String.length_toList]
    omega
  rw [fileStem, length, tableEntry, String.toList_append, String.toList_append,
    List.append_assoc, List.take_left, String.ofList_toList]

theorem isFileName_tableEntry {name : String} (word : IsWord name) :
    IsFileName (tableEntry name) := by
  have chars : (tableEntry name).toList = name.toList ++ ".parquet".toList := by
    have suffix : ".parquet".toList = ".".toList ++ "parquet".toList := by
      decide
    rw [tableEntry, String.toList_append, String.toList_append,
      List.append_assoc, suffix]
  constructor
  · rw [chars]
    intro slash
    have plain := fileComponent_plain word '/' slash
    cases plain
  · rcases fileComponent_kept name with ⟨notShort, notUp⟩
    intro special
    simp only [List.mem_cons, List.not_mem_nil, or_false] at special
    rcases special with same | same | same
    · exact notShort (Or.inl (by rw [← chars, same]; rfl))
    · exact notShort (Or.inr (by rw [← chars, same]; rfl))
    · exact notUp (by rw [← chars, same]; rfl)

end OpenSnow.Core
