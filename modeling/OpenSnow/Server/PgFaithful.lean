import OpenSnow.Foundation.Lists
import OpenSnow.Server.PgLiterals
import OpenSnow.Server.PgReplace

/-!
# What an export inserts

The texts of the statements of a load are read as rows again: each row once, in
order, in groups of at most 500, and with the values of its cells wherever the
target can hold them.
-/

namespace OpenSnow.Server.PgSink

open Foundation
open Rust.Json (IsNumber IsDigits)
open Sql.Literals

variable {Floating Row : Type}

/-- The texts of the `INSERT`s among the statements. -/
def insertTexts (statements : List Statement) : List String :=
  statements.filterMap fun statement =>
    match statement with
    | .insert _ _ _ _ => some statement.text
    | _ => none

/--
A load returns the number of rows, and what it inserts are groups of at most
500 rows, which have each row once, in order and with the values of its cells.
-/
structure Faithful (postgres : Postgres) (magnitude : Floating → ℚ)
    (schema table : String) (result : ResultSet Floating)
    (outcome : Except String Nat × Session Row) : Prop where
  count : outcome.1 = .ok result.rows.length
  groups : ∃ groups : List (List (List (Option Stored))),
    (insertTexts outcome.2.sent).map
        (postgres.insertedRows schema table result.cols) =
      groups.map some ∧
    groups.flatten =
      result.rows.map (List.map fun cell => cell.2.map (·.value magnitude)) ∧
    ∀ group ∈ groups, 0 < group.length ∧ group.length ≤ 500

section Cells

variable {casts : Casts Floating} {postgres : Postgres}
variable {magnitude : Floating → ℚ}

/-! ## Texts -/

theorem toList_quoteIdent (name : String) :
    (quoteIdent name).toList =
      '"' :: (doubled '"' name.toList ++ ['"']) := by
  simp [quoteIdent, doubleQuotes, doubled]

theorem readsBefore_quoteIdent (name : String) {stops : List Char}
    (others : '"' ∉ stops) :
    ReadsBefore stops (quoteIdent name).toList [.name name.toList] := by
  rw [toList_quoteIdent]
  exact readsBefore_name name.toList others

theorem readsAs_blank : ReadsAs [' '] [] :=
  readsAs_single (by decide : opening ' ' = (.plain, []))

theorem readsAs_close : ReadsAs [')'] [.symbol ')'] :=
  readsAs_single (by decide : opening ')' = (.plain, [.symbol ')']))

theorem readsAs_row (documented : Documented casts postgres magnitude)
    {row : List (Cell Floating)} (typed : ∀ cell ∈ row, cell.Typed) :
    ReadsAs (tupleText (row.map (cellLiteral casts))).toList
      (rowLexemes (rowCells casts row)) := by
  have opens : opening '(' = (.plain, [.symbol '(']) := by decide
  have cells :
      List.Forall₂ (ReadsBefore [',', ')'])
        (row.map fun cell => (cellLiteral casts cell).toList)
        (row.map (cellLexemes casts)) :=
    List.forall₂_map_left_iff.mpr
      (List.forall₂_map_right_iff.mpr
        (List.forall₂_same.mpr fun cell member =>
          readsBefore_cell documented (typed cell member)))
  have shape :
      (tupleText (row.map (cellLiteral casts))).toList =
        '(' ::
          (listComma.intercalate
            (row.map fun cell => (cellLiteral casts cell).toList) ++ [')']) := by
    have comma : ", ".toList = listComma := by decide
    rw [tupleText, String.toList_append, String.toList_append,
      String.toList_intercalate, comma, List.map_map]
    rfl
  have inside :=
    (readsBefore_list cells).cons (List.mem_singleton_self ')') readsAs_close
  have joined :
      [Lexeme.symbol ','].intercalate (row.map (cellLexemes casts)) =
        [Lexeme.symbol ','].intercalate (rowCells casts row) := by
    rw [rowCells]
    split
    · rename_i empty
      rw [empty]
      rfl
    · rfl
  rw [joined] at inside
  rw [shape, rowLexemes]
  exact readsAs_cons opens inside

/-- The lexemes of an `INSERT` up to its block of rows. -/
def headOf (schema table : String) (cols : List TargetColumn) : List Lexeme :=
  [.word "INSERT".toList, .word "INTO".toList, .name schema.toList,
      .symbol '.', .name table.toList, .symbol '('] ++
    ([.symbol ','].intercalate (cols.map fun col => [.name col.1.toList]) ++
      [.symbol ')', .word "VALUES".toList])

theorem readsAs_head (schema table : String) (cols : List TargetColumn) :
    ReadsAs
      ("INSERT INTO " ++ qualified schema table ++ " (" ++
        ", ".intercalate (cols.map fun col => quoteIdent col.1) ++
        ") VALUES ").toList
      (headOf schema table cols) := by
  have names :
      List.Forall₂ (ReadsBefore [',', ')'])
        (cols.map fun col => (quoteIdent col.1).toList)
        (cols.map fun col => [.name col.1.toList]) :=
    List.forall₂_map_left_iff.mpr
      (List.forall₂_map_right_iff.mpr
        (List.forall₂_same.mpr fun col _ =>
          readsBefore_quoteIdent col.1 (by decide)))
  have openParenthesis : opening '(' = (.plain, [.symbol '(']) := by decide
  have dot : opening '.' = (.plain, [.symbol '.']) := by decide
  have insert : ReadsAs ("INSERT".toList ++ [' ']) [.word "INSERT".toList] :=
    Server.Rest.readsAs_keyword (by decide) (by decide)
  have into : ReadsAs ("INTO".toList ++ [' ']) [.word "INTO".toList] :=
    Server.Rest.readsAs_keyword (by decide) (by decide)
  have values : ReadsAs ("VALUES".toList ++ [' ']) [.word "VALUES".toList] :=
    Server.Rest.readsAs_keyword (by decide) (by decide)
  have behindNames :
      ReadsAs (')' :: ([' '] ++ ("VALUES".toList ++ [' '])))
        ([.symbol ')'] ++ ([] ++ [.word "VALUES".toList])) :=
    readsAs_close.append (readsAs_blank.append values)
  have columns :=
    (readsBefore_list names).cons (List.mem_singleton_self ')') behindNames
  have behindTable := readsAs_blank.append (readsAs_cons openParenthesis columns)
  have behindSchema :=
    readsAs_cons dot
      ((readsBefore_quoteIdent table (by decide : '"' ∉ [' '])).cons
        (List.mem_singleton_self ' ') behindTable)
  have whole :=
    insert.append
      (into.append
        ((readsBefore_quoteIdent schema (by decide : '"' ∉ ['.'])).cons
          (List.mem_singleton_self '.') behindSchema))
  have comma : ", ".toList = listComma := by decide
  have front : "INSERT INTO ".toList =
      "INSERT".toList ++ [' '] ++ ("INTO".toList ++ [' ']) := by decide
  have back : ") VALUES ".toList = ')' :: ([' '] ++ ("VALUES".toList ++ [' '])) := by
    decide
  have between : " (".toList = [' ', '('] := by decide
  have point : ".".toList = ['.'] := by decide
  simp only [qualified, String.toList_append, String.toList_intercalate,
    List.map_map, comma, front, back, between, point, List.append_assoc,
    headOf, Function.comp_def, List.cons_append, List.nil_append] at whole ⊢
  exact whole

theorem readNames_list (names : List (List Char)) (rest : List Lexeme) :
    readNames
        ([.symbol ','].intercalate (names.map fun name => [.name name]) ++
          .symbol ')' :: rest) =
      some (names, rest) := by
  induction names with
  | nil => rfl
  | cons name names ih =>
      cases names with
      | nil =>
          rw [List.map_singleton, List.intercalate_singleton,
            List.singleton_append, readNames]
      | cons second more =>
          rw [List.map_cons] at ih
          rw [List.map_cons, List.map_cons, List.intercalate_cons_cons,
            List.append_assoc, List.append_assoc, List.singleton_append,
            List.singleton_append, readNames, ih]
          rfl

theorem rowCells_ne_nil (row : List (Cell Floating)) :
    rowCells casts row ≠ [] := by
  rw [rowCells]
  split
  · exact List.cons_ne_nil _ _
  · rename_i some
    exact fun empty => some (List.map_eq_nil_iff.mp empty)

theorem isCell_rowCells (row : List (Cell Floating)) :
    ∀ cell ∈ rowCells casts row, IsCell cell := by
  rw [rowCells]
  split
  · simp [IsCell]
  · intro cell member
    rcases List.mem_map.mp member with ⟨held, -, rfl⟩
    exact isCell_cell held

theorem readInsert_headOf (schema table : String) (cols : List TargetColumn)
    {block : List Lexeme} {rows : List (List (List Lexeme))}
    (isBlock : rowsOf .opening block = some rows) :
    readInsert (headOf schema table cols ++ block) =
      some ⟨schema.toList, table.toList, cols.map fun col => col.1.toList,
        rows⟩ := by
  have names :
      readNames
          ([.symbol ','].intercalate (cols.map fun col => [.name col.1.toList]) ++
            .symbol ')' :: .word "VALUES".toList :: block) =
        some (cols.map fun col => col.1.toList,
          .word "VALUES".toList :: block) := by
    have read :=
      readNames_list (cols.map fun col => col.1.toList)
        (.word "VALUES".toList :: block)
    rw [List.map_map] at read
    exact read
  have shape :
      headOf schema table cols ++ block =
        .word "INSERT".toList :: .word "INTO".toList :: .name schema.toList ::
          .symbol '.' :: .name table.toList :: .symbol '(' ::
            ([.symbol ','].intercalate
                (cols.map fun col => [.name col.1.toList]) ++
              .symbol ')' :: .word "VALUES".toList :: block) := by
    rw [headOf, List.append_assoc, List.append_assoc]
    rfl
  rw [shape, readInsert, if_pos ⟨rfl, rfl⟩, names]
  dsimp only
  rw [if_pos rfl, isBlock]
  rfl

/-- What is inserted is what the literals of the rows are read as. -/
theorem insertedRows_eq (documented : Documented casts postgres magnitude)
    (schema table : String) (cols : List TargetColumn)
    {rows : List (List (Cell Floating))} (some : rows ≠ [])
    (typed : ∀ row ∈ rows, ∀ cell ∈ row, cell.Typed) :
    postgres.insertedRows schema table cols
        (Statement.insert schema table cols
          (rows.map (List.map (cellLiteral casts)))).text =
      rows.mapM fun row =>
        postgres.decodeRow (cols.map Prod.snd) (rowCells casts row) := by
  have block :
      ReadsAs (", ".intercalate
          ((rows.map (List.map (cellLiteral casts))).map tupleText)).toList
        ([.symbol ','].intercalate
          ((rows.map (rowCells casts)).map rowLexemes)) := by
    have comma : ", ".toList = listComma := by decide
    rw [String.toList_intercalate, comma, List.map_map, List.map_map,
      List.map_map]
    apply readsAs_list
    exact
      List.forall₂_map_left_iff.mpr
        (List.forall₂_map_right_iff.mpr
          (List.forall₂_same.mpr fun row member =>
            readsAs_row documented (typed row member)))
  have text :=
    ((readsAs_head schema table cols).append block).whole
  rw [← String.toList_append] at text
  have rowsRead :
      rowsOf .opening
          ([.symbol ','].intercalate
            ((rows.map (rowCells casts)).map rowLexemes)) =
        .some (rows.map (rowCells casts)) := by
    apply rowsOf_rows
    · exact fun empty => some (List.map_eq_nil_iff.mp empty)
    · intro cells member
      rcases List.mem_map.mp member with ⟨row, -, rfl⟩
      exact rowCells_ne_nil row
    · intro cells member
      rcases List.mem_map.mp member with ⟨row, -, rfl⟩
      exact isCell_rowCells row
  have read := readInsert_headOf schema table cols rowsRead
  rw [← text] at read
  have isText (chunk : List (List String)) :
      (Statement.insert schema table cols chunk).text =
        "INSERT INTO " ++ qualified schema table ++ " (" ++
          ", ".intercalate (cols.map fun col => quoteIdent col.1) ++
          ") VALUES " ++ ", ".intercalate (chunk.map tupleText) := rfl
  rw [Postgres.insertedRows, isText, read, Option.bind_some]
  dsimp only
  rw [if_pos (And.intro rfl (And.intro rfl rfl))]
  exact List.mapM_map

end Cells

/-! ## Rows of a result set -/

theorem literalRows_eq (casts : Casts Floating) (result : ResultSet Floating) :
    literalRows casts result.batches =
      result.rows.map (List.map (cellLiteral casts)) := by
  rw [literalRows, ResultSet.rows, List.map_flatMap]
  congr 1
  funext batch
  rw [List.map_map]
  apply List.map_congr_left
  intro row _
  rw [RecordBatch.literals, Function.comp_apply, RecordBatch.row, List.map_map]
  apply List.map_congr_left
  intro column _
  simp only [Function.comp_apply, cellLiteral]
  cases column.cells[row]?.join <;> rfl

variable {result : ResultSet Floating} {row : List (Cell Floating)}

theorem exists_of_mem_rows (member : row ∈ result.rows) :
    ∃ batch ∈ result.batches, ∃ index, row = batch.row index := by
  rcases List.mem_flatMap.mp member with ⟨batch, isBatch, inBatch⟩
  rcases List.mem_map.mp inBatch with ⟨index, -, rfl⟩
  exact ⟨batch, isBatch, index, rfl⟩

theorem typed_of_mem_rows (member : row ∈ result.rows) :
    ∀ cell ∈ row, cell.Typed := by
  rcases exists_of_mem_rows member with ⟨batch, -, index, rfl⟩
  intro cell inRow datum holds
  rcases List.mem_map.mp inRow with ⟨column, -, rfl⟩
  apply column.typed
  exact List.mem_of_getElem? (Option.join_eq_some_iff.mp holds)

theorem types_of_mem_rows (member : row ∈ result.rows) :
    result.cols.map Prod.snd = row.map fun cell => pgType cell.1 := by
  rcases exists_of_mem_rows member with ⟨batch, isBatch, index, rfl⟩
  rw [ResultSet.cols, ← result.uniform batch isBatch, targetColumns,
    RecordBatch.fields, RecordBatch.row, List.map_map, List.map_map,
    List.map_map]
  rfl

/-! ## Groups of rows -/

theorem exists_parts {Item Image : Type} {image : Item → Image}
    {groups : List (List Image)} {items : List Item}
    (flat : groups.flatten = items.map image) :
    ∃ parts : List (List Item), groups = parts.map (List.map image) ∧
      parts.flatten = items := by
  induction groups generalizing items with
  | nil => exact ⟨[], rfl, (List.map_eq_nil_iff.mp flat.symm).symm⟩
  | cons group groups ih =>
      rw [List.flatten_cons] at flat
      rcases List.map_eq_append_iff.mp flat.symm with
        ⟨first, others, rfl, rfl, rest⟩
      rcases ih rest.symm with ⟨parts, rfl, rfl⟩
      exact ⟨first :: parts, rfl, rfl⟩

/-- Groups that are read one by one are read as the list that they make up. -/
theorem forall_read {Item Value : Type} {read : Item → Option Value}
    {value : Item → Value} {parts : List (List Item)}
    {groups : List (List Value)}
    (areRead : parts.map (List.mapM read) = groups.map some)
    (flat : groups.flatten = parts.flatten.map value) :
    ∀ item ∈ parts.flatten, read item = some (value item) := by
  have same :
      List.Forall₂ Eq (parts.map (List.mapM read)) (groups.map some) :=
    List.forall₂_eq_eq_eq ▸ areRead
  have each :
      List.Forall₂ (fun part group => part.mapM read = some group)
        parts groups :=
    List.forall₂_map_right_iff.mp (List.forall₂_map_left_iff.mp same)
  have whole :=
    List.rel_flatten (each.imp fun _ _ => mapM_eq_some_iff.mp)
  rw [flat] at whole
  exact List.forall₂_same.mp (List.forall₂_map_right_iff.mp whole)

theorem exists_reading {Item Value : Type} {read : Item → Option Value}
    {value : Item → Value} {parts : List (List Item)}
    (reads : ∀ item ∈ parts.flatten, read item = some (value item)) :
    ∃ groups : List (List Value),
      parts.map (List.mapM read) = groups.map some ∧
        groups.flatten = parts.flatten.map value ∧
        ∀ group ∈ groups, ∃ part ∈ parts, group.length = part.length := by
  refine ⟨parts.map (List.map value), ?_, ?_, ?_⟩
  · rw [List.map_map]
    apply List.map_congr_left
    intro part member
    apply mapM_eq_some_iff.mpr
    apply List.forall₂_map_right_iff.mpr
    apply List.forall₂_same.mpr
    exact fun item inside =>
      reads item (List.mem_flatten.mpr ⟨part, member, inside⟩)
  · rw [List.map_flatten]
  · intro group member
    rcases List.mem_map.mp member with ⟨part, isPart, rfl⟩
    exact ⟨part, isPart, List.length_map _⟩

/-! ## Loads -/

section Loads

variable {casts : Casts Floating} {postgres : Postgres}
variable {magnitude : Floating → ℚ}

/-- A target that carries out every statement. -/
def accepting (stored : List TargetColumn → List TargetColumn → List String → Row) :
    Target Row :=
  ⟨stored, fun _ => .carriedOut⟩

theorem insertTexts_steps (cols : List TargetColumn) (schema table : String)
    (mode : WriteMode) (chunks : List (List (List String))) :
    insertTexts ((steps cols schema table mode chunks).map Prod.snd) =
      chunks.map fun chunk => (Statement.insert schema table cols chunk).text := by
  have inserts :
      insertTexts ((chunks.map (insertion cols schema table)).map Prod.snd) =
        chunks.map fun chunk =>
          (Statement.insert schema table cols chunk).text := by
    rw [insertTexts, List.map_map, List.filterMap_map, ← List.filterMap_eq_map]
    rfl
  cases mode with
  | replace =>
      rw [steps, if_pos rfl, List.map_cons, List.map_append, insertTexts,
        List.filterMap_cons, List.filterMap_append]
      exact inserts
  | append =>
      rw [steps, if_neg (by decide), List.nil_append, List.map_cons,
        insertTexts, List.filterMap_cons]
      exact inserts

variable {result : ResultSet Floating}

/-- A load whose statements are all carried out sends every group. -/
theorem load_accepting (isCast : AllCast casts result.batches)
    (stored : List TargetColumn → List TargetColumn → List String → Row)
    (schema table : String) (mode : WriteMode) (before : Option (Table Row)) :
    ∃ after,
      load casts (accepting stored) result.cols schema table result.batches mode
          ⟨before, []⟩ =
        (.ok result.rows.length, after) ∧
      insertTexts after.sent =
        (groups casts result.cols result.batches).1.map fun chunk =>
          (Statement.insert schema table result.cols chunk).text := by
  have castFine :=
    (@groups_snd_eq_false_iff Floating casts result.cols _).mpr isCast
  have none :
      NoneFails (accepting stored).replies 0
        (steps result.cols schema table mode
          (groups casts result.cols result.batches).1).length :=
    fun _ _ => rfl
  have sends :=
    @sendAll_of_noneFails Row (accepting stored) ⟨before, []⟩ _ none
  have count :
      rowCount (groups casts result.cols result.batches).1 =
        result.rows.length := by
    rw [rowCount, ← List.length_flatten, ResultSet.cols,
      flatten_groups result.uniform castFine, literalRows_eq, List.length_map]
  rw [load_eq, Effect.bind_ok sends, castFine, count]
  exact ⟨_, rfl, insertTexts_steps _ _ _ _ _⟩

section

variable (documented : Documented casts postgres magnitude)

include documented

/-- The rows that are read from the statements of a load, group by group. -/
theorem exists_read_parts (isCast : AllCast casts result.batches)
    (schema table : String) :
    ∃ parts : List (List (List (Cell Floating))),
      parts.flatten = result.rows ∧
      (∀ part ∈ parts, 0 < part.length ∧ part.length ≤ 500) ∧
      ((groups casts result.cols result.batches).1.map fun chunk =>
          postgres.insertedRows schema table result.cols
            (Statement.insert schema table result.cols chunk).text) =
        parts.map (List.mapM fun row =>
          postgres.decodeRow (result.cols.map Prod.snd)
            (rowCells casts row)) := by
  have castFine :=
    (@groups_snd_eq_false_iff Floating casts result.cols _).mpr isCast
  have flat :
      (groups casts result.cols result.batches).1.flatten =
        result.rows.map (List.map (cellLiteral casts)) := by
    rw [ResultSet.cols, flatten_groups result.uniform castFine,
      literalRows_eq]
  rcases exists_parts flat with ⟨parts, areParts, areRows⟩
  have sizes (part : List (List (Cell Floating))) (member : part ∈ parts) :
      0 < part.length ∧ part.length ≤ 500 := by
    have isGroup :
        part.map (List.map (cellLiteral casts)) ∈
          (groups casts result.cols result.batches).1 := by
      rw [areParts]
      exact List.mem_map_of_mem member
    have size := length_of_mem_groups isGroup
    rwa [List.length_map] at size
  refine ⟨parts, areRows, sizes, ?_⟩
  rw [areParts, List.map_map]
  apply List.map_congr_left
  intro part member
  have some := List.ne_nil_of_length_pos (sizes part member).1
  have typed (row : List (Cell Floating)) (inPart : row ∈ part) :
      ∀ cell ∈ row, cell.Typed := by
    have inRows : row ∈ result.rows := by
      rw [← areRows]
      exact List.mem_flatten.mpr ⟨part, member, inPart⟩
    exact typed_of_mem_rows inRows
  rw [Function.comp_apply, insertedRows_eq documented schema table _ some typed]

theorem decodeRow_of_mem_rows_iff {row : List (Cell Floating)}
    (member : row ∈ result.rows) :
    postgres.decodeRow (result.cols.map Prod.snd) (rowCells casts row) =
        some (row.map fun cell => cell.2.map (·.value magnitude)) ↔
      row ≠ [] ∧ ∀ cell ∈ row, cell.Fits casts postgres magnitude := by
  rw [types_of_mem_rows member]
  exact decodeRow_rowCells_iff documented (typed_of_mem_rows member)

section

variable (isCast : AllCast casts result.batches)

include isCast

/-- What a load inserts is read as parts of the rows. -/
theorem exists_inserted_parts
    (stored : List TargetColumn → List TargetColumn → List String → Row)
    (schema table : String) (mode : WriteMode) (before : Option (Table Row)) :
    ∃ (after : Session Row) (parts : List (List (List (Cell Floating)))),
      load casts (accepting stored) result.cols schema table result.batches mode
          ⟨before, []⟩ =
        (.ok result.rows.length, after) ∧
      parts.flatten = result.rows ∧
      (∀ part ∈ parts, 0 < part.length ∧ part.length ≤ 500) ∧
      (insertTexts after.sent).map
          (postgres.insertedRows schema table result.cols) =
        parts.map (List.mapM fun row =>
          postgres.decodeRow (result.cols.map Prod.snd)
            (rowCells casts row)) := by
  rcases load_accepting isCast stored schema table mode before with
    ⟨after, loaded, texts⟩
  rcases exists_read_parts documented isCast schema table with
    ⟨parts, areRows, sizes, reads⟩
  refine ⟨after, parts, loaded, areRows, sizes, ?_⟩
  rw [← reads, texts, List.map_map]
  apply List.map_congr_left
  intro chunk _
  rw [Function.comp_apply]

theorem fits_of_faithful
    {stored : List TargetColumn → List TargetColumn → List String → Row}
    {schema table : String} {mode : WriteMode} {before : Option (Table Row)}
    (faithful : Faithful postgres magnitude schema table result
      (load casts (accepting stored) result.cols schema table result.batches
        mode ⟨before, []⟩)) :
    ∀ row ∈ result.rows,
      row ≠ [] ∧ ∀ cell ∈ row, cell.Fits casts postgres magnitude := by
  rcases exists_inserted_parts documented isCast stored schema table mode before
    with ⟨after, parts, loaded, areRows, -, inserted⟩
  rw [loaded] at faithful
  rcases faithful.groups with ⟨valueGroups, areRead, isFlat, -⟩
  rw [inserted] at areRead
  rw [← areRows] at isFlat
  have each := forall_read areRead isFlat
  rw [areRows] at each
  exact fun row member =>
    (decodeRow_of_mem_rows_iff documented member).mp (each row member)

theorem faithful_of_fits
    (stored : List TargetColumn → List TargetColumn → List String → Row)
    (schema table : String) (mode : WriteMode) (before : Option (Table Row))
    (fits : ∀ row ∈ result.rows,
      row ≠ [] ∧ ∀ cell ∈ row, cell.Fits casts postgres magnitude) :
    Faithful postgres magnitude schema table result
      (load casts (accepting stored) result.cols schema table result.batches
        mode ⟨before, []⟩) := by
  rcases exists_inserted_parts documented isCast stored schema table mode before
    with ⟨after, parts, loaded, areRows, sizes, inserted⟩
  have each (row : List (Cell Floating)) (member : row ∈ parts.flatten) :
      postgres.decodeRow (result.cols.map Prod.snd) (rowCells casts row) =
        some (row.map fun cell => cell.2.map (·.value magnitude)) := by
    rw [areRows] at member
    exact (decodeRow_of_mem_rows_iff documented member).mpr (fits row member)
  rcases exists_reading each with ⟨valueGroups, areRead, isFlat, lengths⟩
  rw [← inserted] at areRead
  rw [areRows] at isFlat
  rw [loaded]
  refine ⟨rfl, valueGroups, areRead, isFlat, ?_⟩
  intro group member
  rcases lengths group member with ⟨part, isPart, same⟩
  rw [same]
  exact sizes part isPart

end

end

/--
A load is faithful exactly when no row is without columns and every cell fits
the column of the target that it comes to.
-/
theorem load_faithful_iff (documented : Documented casts postgres magnitude)
    {result : ResultSet Floating} (isCast : AllCast casts result.batches)
    (stored : List TargetColumn → List TargetColumn → List String → Row)
    (schema table : String) (mode : WriteMode) (before : Option (Table Row)) :
    Faithful postgres magnitude schema table result
        (load casts (accepting stored) result.cols schema table result.batches
          mode ⟨before, []⟩) ↔
      ∀ row ∈ result.rows,
        row ≠ [] ∧ ∀ cell ∈ row, cell.Fits casts postgres magnitude :=
  ⟨fits_of_faithful documented isCast,
    faithful_of_fits documented isCast stored schema table mode before⟩

end Loads

/-! ## Two exports -/

/-- One half, and the float next to one tenth. -/
abbrev Sample := Bool

def sampleMagnitude : Sample → ℚ
  | false => 1 / 2
  | true => 13421773 / 134217728

/-- Times are displayed as a number here, which the target below reads back. -/
def sampleCasts : Casts Sample where
  shownFinite dataType value :=
    if value = false then "0.5"
    else if dataType = .float64 then "0.10000000149011612"
    else "0.1"
  shownInstant _ nanos offset := toString (localNanos nanos offset)
  castError _ := none

def sampleNumeral (text : String) : Option ℚ :=
  if text = "0.5" then some (1 / 2)
  else if text = "0.10000000149011612" then some (13421773 / 134217728)
  else if text = "0.1" then some (3602879701896397 / 36028797018963968)
  else none

def samplePostgres : Postgres where
  numeral text := sampleNumeral (String.ofList text)
  readDate text :=
    ((integerOf text).filter fun nanos => InYears nanos).map
      (· / dayNanos * dayNanos)
  readTimestamp text :=
    ((integerOf text).filter fun nanos => InYears nanos).map
      fun nanos => (nanos + 500) / 1000 * 1000

theorem isNumber_fraction {whole places : List Char}
    (isWhole : IsDigits whole) (arePlaces : IsDigits places) :
    IsNumber (whole ++ '.' :: places) :=
  ⟨[], whole, '.' :: places, [], by simp, Or.inl rfl, isWhole,
    Or.inr ⟨places, rfl, arePlaces⟩, Or.inl rfl⟩

theorem sample_documented :
    Documented sampleCasts samplePostgres sampleMagnitude where
  shownNumber dataType value _ := by
    have zero : IsDigits ['0'] := ⟨by simp, by simp⟩
    have places (digits : List Char) (some : digits ≠ [])
        (areDigits : digits.all Char.isDigit) :
        IsNumber (['0'] ++ '.' :: digits) :=
      isNumber_fraction zero ⟨some, List.all_eq_true.mp areDigits⟩
    have half : "0.5".toList = ['0'] ++ '.' :: "5".toList := by decide
    have tenth : "0.1".toList = ['0'] ++ '.' :: "1".toList := by decide
    have long :
        "0.10000000149011612".toList =
          ['0'] ++ '.' :: "10000000149011612".toList := by decide
    rw [sampleCasts]
    dsimp only
    split
    · rw [half]
      exact places _ (by decide) (by decide)
    · split
      · rw [long]
        exact places _ (by decide) (by decide)
      · rw [tenth]
        exact places _ (by decide) (by decide)
  roundTrip value := by
    rw [samplePostgres]
    dsimp only
    rw [String.ofList_toList, sampleCasts]
    cases value with
    | false => exact if_pos rfl
    | true => exact (if_neg (by decide)).trans (if_pos rfl)
  date dataType nanos offset isDate typed := by
    have noOffset := offset_of_date isDate typed
    have same : localNanos nanos offset = nanos := by
      rw [noOffset, localNanos, zero_mul, add_zero]
    rw [samplePostgres, sampleCasts]
    dsimp only
    rw [integerOf_toString, same, Option.filter_some]
    by_cases years : InYears nanos
    · rw [if_pos years, if_pos (decide_eq_true years), Option.map_some]
    · rw [if_neg years, if_neg (by simpa using years), Option.map_none]
  timestamp dataType nanos offset _ _ := by
    rw [samplePostgres, sampleCasts]
    dsimp only
    rw [integerOf_toString, Option.filter_some]
    generalize localNanos nanos offset = moment
    by_cases years : InYears moment
    · rw [if_pos years, if_pos (decide_eq_true years), Option.map_some]
      refine ⟨_, rfl, Dvd.intro_left _ rfl, ?_⟩
      rw [abs_le]
      omega
    · rw [if_neg years, if_neg (by simpa using years), Option.map_none]

/-- The greatest `bigint`, a text with quotes, and nulls. -/
def quotedResult : ResultSet Sample where
  fields := [⟨"id", .int64⟩, ⟨"note \"x\"", .other "Utf8"⟩, ⟨"score", .float64⟩]
  batches :=
    [⟨0, [⟨⟨"id", .int64⟩, [], by simp⟩,
        ⟨⟨"note \"x\"", .other "Utf8"⟩, [], by simp⟩,
        ⟨⟨"score", .float64⟩, [], by simp⟩], by simp⟩,
      ⟨2, [⟨⟨"id", .int64⟩, [some (.integer 9223372036854775807), none],
          by simp [Datum.InType]⟩,
        ⟨⟨"note \"x\"", .other "Utf8"⟩,
          [some (.displayed "it's\\'\n), (1"), none], by simp [Datum.InType]⟩,
        ⟨⟨"score", .float64⟩, [some (.finite true), some (.finite false)],
          by simp [Datum.InType]⟩], by simp⟩]
  uniform := by simp [RecordBatch.fields]

/-- A single row with a value that is no number. -/
def nanResult : ResultSet Sample where
  fields := [⟨"ratio", .float64⟩]
  batches :=
    [⟨1, [⟨⟨"ratio", .float64⟩, [some .nan], by simp [Datum.InType]⟩], by simp⟩]
  uniform := by simp [RecordBatch.fields]

theorem sample_allCast (batches : List (RecordBatch Sample)) :
    AllCast sampleCasts batches :=
  fun _ _ _ _ _ => rfl

theorem quotedResult_fits :
    ∀ row ∈ quotedResult.rows, row ≠ [] ∧
      ∀ cell ∈ row, cell.Fits sampleCasts samplePostgres sampleMagnitude := by
  have rows :
      quotedResult.rows =
        [[(.int64, some (.integer 9223372036854775807)),
            (.other "Utf8", some (.displayed "it's\\'\n), (1")),
            (.float64, some (.finite true))],
          [(.int64, none), (.other "Utf8", none),
            (.float64, some (.finite false))]] := rfl
  rw [rows]
  simp only [List.forall_mem_cons, cell_some_fits_iff, cell_none_fits,
    Datum.Fits]
  simp

theorem load_faithful_iff_quoted :
    Faithful samplePostgres sampleMagnitude "public" "notes" quotedResult
      (load sampleCasts (accepting fun _ _ literals => literals)
        quotedResult.cols "public" "notes" quotedResult.batches .replace
        ⟨none, []⟩) :=
  (load_faithful_iff sample_documented (sample_allCast _) _ "public" "notes"
    .replace none).mpr quotedResult_fits

/-- A NaN is sent as a bare word, which is no literal. -/
theorem nan_not_faithful :
    ¬ Faithful samplePostgres sampleMagnitude "public" "notes" nanResult
      (load sampleCasts (accepting fun _ _ literals => literals)
        nanResult.cols "public" "notes" nanResult.batches .replace
        ⟨none, []⟩) := by
  intro faithful
  have fits := fits_of_faithful sample_documented (sample_allCast _) faithful
  have nan : [(DataType.float64, some Datum.nan)] ∈ nanResult.rows :=
    List.mem_singleton_self _
  exact (fits _ nan).2 _ (List.mem_singleton_self _) _ rfl

end OpenSnow.Server.PgSink
