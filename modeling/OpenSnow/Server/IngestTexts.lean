import OpenSnow.Server.IngestValues

/-!
# What the ingest route writes and how it is read

The text that is built from a request is one statement, its `AS` is the one
that was written, and the cells of the request are read back from the block of
values.
-/

namespace OpenSnow.Server.Rest

open Core.Commands
open Foundation
open Ingest.Registration (isValidIdent)
open Rust.Json
open Rust.Text
open Sql (isWordChar isWordStart)
open Sql.Literals

/-! ## Accepted requests -/

/-- What a sequence of fallible calls returns is related one by one. -/
theorem forall₂_of_mapM {Item Result Failure : Type}
    {relation : Result → Item → Prop} {run : Item → Except Failure Result}
    {items : List Item} {results : List Result}
    (ran : items.mapM run = .ok results)
    (each : ∀ item ∈ items, ∀ result, run item = .ok result →
      relation result item) :
    List.Forall₂ relation results items := by
  induction items generalizing results with
  | nil =>
      cases ran
      exact .nil
  | cons item items ih =>
      rw [List.mapM_cons] at ran
      rcases except_bind_ok ran with ⟨first, isFirst, ran⟩
      rcases except_bind_ok ran with ⟨others, areOthers, made⟩
      cases made
      exact
        .cons (each item List.mem_cons_self first isFirst)
          (ih areOthers fun other member =>
            each other (List.mem_cons_of_mem item member))

theorem ne_nil_of_forall₂ {First Second : Type}
    {relation : First → Second → Prop} {first : List First}
    {second : List Second} (related : List.Forall₂ relation first second)
    (some : second ≠ []) : first ≠ [] := by
  cases related with
  | nil => exact absurd rfl some
  | cons => exact List.cons_ne_nil _ _

theorem readsRow_of_rowLiteral {row : List Value} {literal : String}
    (written : rowLiteral row = .ok literal) (some : row ≠ [])
    (number : ∀ text, Value.number text ∈ row → IsNumber text.toList) :
    ReadsRow literal.toList row := by
  cases cells : row.mapM jsonToSqlLiteral with
  | error message =>
      rw [rowLiteral, cells] at written
      cases written
  | ok literals =>
      have reads :
          List.Forall₂ (fun literal cell => ReadsCell literal.toList cell)
            literals row := by
        apply forall₂_of_mapM cells
        intro cell member literal isLiteral
        apply readsCell_of_literal isLiteral
        rintro text rfl
        exact number text member
      have reads : List.Forall₂ ReadsCell (literals.map String.toList) row :=
        List.forall₂_map_left_iff.mpr reads
      have whole := (readsCells_of_literals reads (ne_nil_of_forall₂ reads some)).row
      rw [rowLiteral, cells] at written
      cases written
      have shape :
          ("(" ++ ", ".intercalate literals ++ ")").toList =
            '(' :: (comma.intercalate (literals.map String.toList) ++ [')']) := by
        simp [comma]
      rwa [shape]

/-- What the checks of the route establish. -/
structure Accepted (req : IngestRequest) (literals : List String) : Prop where
  table : isValidIdent req.table
  columns : ∀ column ∈ req.columns, isValidIdent column
  rows : req.rows ≠ []
  cells : ∀ row ∈ req.rows, row ≠ []
  literals : req.rows.mapM rowLiteral = .ok literals

variable {req : IngestRequest} {literals : List String}

theorem accepted_of_rowLiterals
    (written : req.rowLiterals = .ok literals) : Accepted req literals := by
  rw [IngestRequest.rowLiterals, IngestRequest.check] at written
  split at written
  · cases written
  · rename_i table
    split at written
    · cases written
    · rename_i columns
      split at written
      · cases written
      · rename_i names
        split at written
        · cases written
        · rename_i rows
          split at written
          · cases written
          · rename_i lengths
            have sameLength : ∀ row ∈ req.rows,
                row.length = req.columns.length := by
              simpa using lengths
            refine ⟨by simpa using table, ?_, by simpa using rows, ?_, written⟩
            · intro column member
              have valid := List.find?_eq_none.mp names column member
              simpa using valid
            · rintro row member rfl
              have none := sameLength [] member
              rw [List.length_nil] at none
              apply columns
              rw [List.isEmpty_iff]
              exact List.length_eq_zero_iff.mp none.symm

theorem Accepted.readsRows (accepted : Accepted req literals) :
    ReadsRows (", ".intercalate literals).toList req.rows := by
  have reads :
      List.Forall₂ (fun literal row => ReadsRow literal.toList row) literals
        req.rows := by
    apply forall₂_of_mapM accepted.literals
    intro row member literal isLiteral
    exact
      readsRow_of_rowLiteral isLiteral (accepted.cells row member)
        (req.numbers row member)
  have reads : List.Forall₂ ReadsRow (literals.map String.toList) req.rows :=
    List.forall₂_map_left_iff.mpr reads
  have whole :=
    readsRows_of_rows reads (ne_nil_of_forall₂ reads accepted.rows)
  rwa [String.toList_intercalate]

/-! ## The statement -/

/-- The query of the statement. -/
def IngestRequest.query (req : IngestRequest) (literals : List String) :
    String :=
  "SELECT * FROM (VALUES " ++ ", ".intercalate literals ++ ") AS t(" ++
    req.columnList ++ ")"

theorem createSql_eq (req : IngestRequest) (literals : List String) :
    req.createSql literals = createTableAs req.table (req.query literals) := by
  have words :
      " AS SELECT * FROM (VALUES " = " AS " ++ "SELECT * FROM (VALUES " := by
    decide
  unfold IngestRequest.createSql IngestRequest.query createTableAs
  simp only [words, String.append_assoc]

theorem isIdentifier_of_isValidIdent {name : String}
    (valid : isValidIdent name) : IsIdentifier name.toList := by
  rw [isValidIdent, Bool.and_eq_true, Bool.and_eq_true] at valid
  exact ⟨List.all_eq_true.mp valid.1.2, valid.2⟩

theorem isQuiet_of_named {ch : Char} (named : isSqlIdentifierChar ch) :
    isQuiet ch := by
  simp only [isQuiet, List.mem_cons, List.not_mem_nil, or_false, not_or,
    decide_eq_true_eq]
  refine ⟨?_, ?_, ?_, ?_, ?_⟩ <;> rintro rfl <;> revert named <;> decide

theorem quiet_columnList {columns : List String}
    (valid : ∀ column ∈ columns, isValidIdent column) :
    Quiet (", ".intercalate columns).toList := by
  have isComma : ", ".toList = comma := by simp [comma]
  apply quiet_of_all
  rw [String.toList_intercalate, isComma]
  induction columns with
  | nil => simp
  | cons column columns ih =>
      have here : ∀ ch ∈ column.toList, isQuiet ch := fun ch member =>
        isQuiet_of_named
          ((isIdentifier_of_isValidIdent
            (valid column List.mem_cons_self)).named ch member)
      have others := ih fun other member =>
        valid other (List.mem_cons_of_mem column member)
      cases columns with
      | nil => simpa using here
      | cons second columns =>
          rw [List.map_cons, List.map_cons, List.intercalate_cons_cons]
          intro ch member
          rw [List.mem_append, List.mem_append] at member
          rcases member with (member | member) | member
          · exact here ch member
          · have quiet : comma.all isQuiet := by decide
            exact List.all_eq_true.mp quiet ch member
          · exact others ch member

theorem query_toList (req : IngestRequest) (literals : List String) :
    (req.query literals).toList =
      "SELECT * FROM (VALUES ".toList ++
        ((", ".intercalate literals).toList ++
          (") AS t(".toList ++ (req.columnList.toList ++ [')']))) := by
  have close : ")".toList = [')'] := by decide
  unfold IngestRequest.query
  rw [String.toList_append, String.toList_append, String.toList_append,
    String.toList_append, close]
  simp only [List.append_assoc]

theorem Accepted.quiet_query (accepted : Accepted req literals) :
    Quiet (req.query literals).toList := by
  have select : Quiet "SELECT * FROM (VALUES ".toList :=
    quiet_of_all (List.all_eq_true.mp (by decide))
  have columns : Quiet ") AS t(".toList :=
    quiet_of_all (List.all_eq_true.mp (by decide))
  have close : Quiet [')'] := quiet_of_all (List.all_eq_true.mp (by decide))
  rw [query_toList]
  exact
    select.append
      (accepted.readsRows.quiet.append
        (columns.append ((quiet_columnList accepted.columns).append close)))

theorem query_starts (req : IngestRequest) (literals : List String) :
    ∃ rest, (req.query literals).toList = "SELECT".toList ++ ' ' :: rest := by
  have words : "SELECT * FROM (VALUES ".toList =
      "SELECT".toList ++ ' ' :: "* FROM (VALUES ".toList := by decide
  rw [query_toList, words, List.append_assoc, List.cons_append]
  exact ⟨_, rfl⟩

theorem Accepted.isQuery (accepted : Accepted req literals) :
    IsQuery (req.query literals).toList := by
  rcases query_starts req literals with ⟨rest, starts⟩
  have whole :
      trimStart (req.query literals).toList = (req.query literals).toList := by
    rw [starts]
    exact trimStart_of_stops (stops_cons.mpr (by decide))
  have noComment :
      stripped (req.query literals).toList = (req.query literals).toList := by
    rw [stripped_of_no_comment, whole] <;>
      · intro other shape
        rw [whole, starts] at shape
        cases shape
  have word :
      ("SELECT".toList ++ ' ' :: rest).takeWhile isSqlIdentifierChar =
        "SELECT".toList :=
    takeWhile_span (List.all_eq_true.mp (by decide))
      (stops_cons.mpr (by decide))
  refine ⟨⟨?_, ?_⟩, ?_, Or.inl ?_⟩
  · rw [starts]
    exact stops_cons.mpr (by decide)
  · rw [query_toList]
    simp only [List.reverse_append, List.reverse_singleton, List.append_assoc,
      List.singleton_append]
    exact stops_cons.mpr (by decide)
  · have one := accepted.quiet_query [] trivial
    rwa [List.append_nil] at one
  · rw [leadingWord, noComment, starts, word]
    decide

theorem Accepted.isIdentifier
    (accepted : Accepted req literals) : IsIdentifier req.table.toList :=
  isIdentifier_of_isValidIdent accepted.table

theorem createTableAs_words (name query : String) :
    (createTableAs name query).toList =
      ("CREATE TABLE ".toList ++ (name.toList ++ " AS ".toList)) ++
        query.toList := by
  unfold createTableAs
  rw [String.toList_append, String.toList_append, String.toList_append,
    List.append_assoc "CREATE TABLE ".toList]

/-- A creation of a table from a query is one statement. -/
theorem splitSqlStatements_createTableAs {name query : String}
    (identifier : IsIdentifier name.toList) (isQuery : IsQuery query.toList) :
    splitSqlStatements (createTableAs name query).toList =
      [(createTableAs name query).toList] := by
  have create : Quiet "CREATE TABLE ".toList :=
    quiet_of_all (List.all_eq_true.mp (by decide))
  have named : Quiet name.toList :=
    quiet_of_all fun ch member =>
      isQuiet_of_named (identifier.named ch member)
  have as : Quiet " AS ".toList :=
    quiet_of_all (List.all_eq_true.mp (by decide))
  have one : OneStatement .plain (createTableAs name query).toList := by
    rw [createTableAs_words]
    exact (create.append (named.append as)) _ isQuery.one
  have trimmed : Trimmed (createTableAs name query).toList := by
    rw [createTableAs_words]
    constructor
    · exact stops_cons.mpr (by decide)
    · have ends := isQuery.trimmed.2
      rw [List.reverse_append]
      cases reversed : query.toList.reverse with
      | nil =>
          exact absurd (List.reverse_eq_nil_iff.mp reversed) isQuery.ne_nil
      | cons last front =>
          rw [reversed] at ends
          exact stops_cons.mpr (stops_cons.mp ends)
  rw [splitSqlStatements, splitLoop_one one, List.nil_append, keepStatement,
    trim_of_trimmed trimmed, if_neg]
  rw [createTableAs_words]
  exact Bool.false_ne_true

theorem createTableAs_header (name query : String) :
    (createTableAs name query).toList =
      "CREATE TABLE".toList ++ targetAndQuery name query := by
  have words : "CREATE TABLE ".toList = "CREATE TABLE".toList ++ [' '] := by
    decide
  have as : " AS ".toList = [' ', 'A', 'S', ' '] := by decide
  rw [createTableAs_words, words, as, targetAndQuery]
  simp only [List.append_assoc, List.cons_append, List.nil_append]

theorem keywordSequenceEnd_createTableAs (name query : String) :
    keywordSequenceEnd (createTableAs name query).toList ["CREATE", "TABLE"] =
      some (some (utf8Len "CREATE TABLE".toList)) := by
  rw [keywordSequenceEnd_eq, afterKeywords_createTable, createTableAs_header,
    utf8Len_append, Option.map_some, Nat.add_sub_cancel]

/-- The name and the blanks around it. -/
def targetText (name : String) : List Char := ' ' :: (name.toList ++ [' '])

/-- The `AS` that is found is the one behind the name. -/
theorem findAsClause_createTableAs {name query : String}
    (identifier : IsIdentifier name.toList) (isQuery : IsQuery query.toList)
    (notAs : ¬ eqIgnoreCase name.toList "AS") :
    findAsClause (createTableAs name query).toList
        (utf8Len "CREATE TABLE".toList) =
      some
        (some
          (utf8Len ("CREATE TABLE".toList ++ targetText name),
            utf8Len
              ("CREATE TABLE".toList ++
                (targetText name ++ "AS ".toList)))) := by
  have blank : ∀ ch ∈ (targetAndQuery name query).head?, isWhitespace ch := by
    rintro ch isHead
    cases isHead
    decide
  have onlyBlank : Blank [' '] := by simp [isWhitespace]
  have behind : trimStart (' ' :: query.toList) = query.toList := by
    have cut := @trimStart_blank_append [' '] query.toList onlyBlank
    rwa [List.singleton_append, trimStart_of_stops isQuery.trimmed.1] at cut
  have as : "AS ".toList = ['A', 'S', ' '] := by decide
  have parts :
      targetAndQuery name query =
        targetText name ++ ("AS ".toList ++ query.toList) := by
    rw [targetAndQuery, targetText, as]
    simp
  rw [createTableAs_header, findAsClause_eq, asClause_last blank,
    clause_of_name identifier notAs, Option.map_some, behind, parts]
  simp only [utf8Len_append, targetText]
  congr 3
  omega

/-- What stands before that `AS` is the name. -/
theorem slice_createTableAs {name query : String}
    (identifier : IsIdentifier name.toList) :
    (slice (createTableAs name query).toList (utf8Len "CREATE TABLE".toList)
        (utf8Len ("CREATE TABLE".toList ++ targetText name))).map trim =
      some name.toList := by
  have onlyBlank : Blank [' '] := by simp [isWhitespace]
  have isName : trim (targetText name) = name.toList :=
    @trim_surrounded [' '] _ [' '] onlyBlank onlyBlank
      (trimmed_of_named identifier.named)
  have parts :
      targetAndQuery name query =
        targetText name ++ 'A' :: 'S' :: ' ' :: query.toList := by
    rw [targetAndQuery, targetText]
    simp
  rw [createTableAs_header, parts, utf8Len_append, slice_append,
    Option.map_some, isName]

/-! ## Injection -/

/-- The lexemes of the statement before the block of values. -/
def headLexemes (table : String) : List Lexeme :=
  [.word "CREATE".toList, .word "TABLE".toList, .word table.toList,
    .word "AS".toList, .word "SELECT".toList, .symbol '*',
    .word "FROM".toList, .symbol '(', .word "VALUES".toList]

/-- What stands behind the block of values. -/
def IngestRequest.behindValues (req : IngestRequest) : List Char :=
  ") AS t(".toList ++ (req.columnList.toList ++ [')'])

theorem readsAs_word {first : Char} {run : List Char}
    (starts : isWordStart first) (notBlank : first.isWhitespace = false)
    (isRun : ∀ ch ∈ run, isWordChar ch) :
    ReadsAs (first :: run ++ [' ']) [.word (first :: run)] := by
  intro rest
  have stops : Stops isWordChar (' ' :: rest) := stops_cons.mpr (by decide)
  have read := lexemes_word starts notBlank isRun stops
  have blank := readsAs_single (by decide : opening ' ' = (.plain, [])) rest
  rw [List.append_assoc, List.singleton_append, List.cons_append, read]
  exact congrArg (Lexeme.word (first :: run) :: ·) blank

theorem isWordChar_of_named {ch : Char} (named : isSqlIdentifierChar ch) :
    isWordChar ch := by
  rw [isSqlIdentifierChar, Char.isAlphanum, Bool.or_eq_true,
    Bool.or_eq_true] at named
  rw [isWordChar, isWordStart]
  rcases named with (letter | digit) | underscore
  · simp [letter]
  · simp [digit]
  · simp [underscore]

theorem readsAs_name {name : List Char} (identifier : IsIdentifier name) :
    ReadsAs (name ++ [' ']) [.word name] := by
  cases name with
  | nil => cases identifier.start
  | cons first run =>
      have start := identifier.start
      have named := identifier.named first List.mem_cons_self
      rw [List.head?_cons, Option.any_some, Bool.or_eq_true] at start
      apply readsAs_word
      · rw [isWordStart]
        rcases start with letter | underscore
        · simp [letter]
        · simp [underscore]
      · rw [Char.isWhitespace]
        simp only [Bool.or_eq_false_iff, decide_eq_false_iff_not]
        refine ⟨⟨⟨?_, ?_⟩, ?_⟩, ?_⟩ <;> rintro rfl <;> revert named <;> decide
      · intro ch member
        exact
          isWordChar_of_named
            (identifier.named ch (List.mem_cons_of_mem first member))

theorem readsAs_keyword {word : String}
    (named : word.toList.all isSqlIdentifierChar)
    (start : word.toList.head?.any fun ch => ch.isAlpha || ch == '_') :
    ReadsAs (word.toList ++ [' ']) [.word word.toList] :=
  readsAs_name ⟨List.all_eq_true.mp named, start⟩

theorem readsAs_head {table : String}
    (identifier : IsIdentifier table.toList) :
    ReadsAs
      ("CREATE TABLE ".toList ++ (table.toList ++ " AS ".toList) ++
        "SELECT * FROM (VALUES ".toList)
      (headLexemes table) := by
  have blank : ReadsAs [' '] [] :=
    readsAs_single (by decide : opening ' ' = (.plain, []))
  have star : ReadsAs ['*', ' '] [.symbol '*'] :=
    readsAs_cons (by decide : opening '*' = (.plain, [.symbol '*'])) blank
  have parenthesis : ReadsAs ['('] [.symbol '('] :=
    readsAs_single (by decide : opening '(' = (.plain, [.symbol '(']))
  have create : "CREATE TABLE ".toList =
      ("CREATE".toList ++ [' ']) ++ ("TABLE".toList ++ [' ']) := by decide
  have as : " AS ".toList = [' '] ++ ("AS".toList ++ [' ']) := by decide
  have select : "SELECT * FROM (VALUES ".toList =
      ("SELECT".toList ++ [' ']) ++ (['*', ' '] ++ (("FROM".toList ++ [' ']) ++
        (['('] ++ ("VALUES".toList ++ [' '])))) := by decide
  have whole :=
    ((readsAs_keyword (by decide : "CREATE".toList.all isSqlIdentifierChar)
          (by decide)).append
        (@readsAs_keyword "TABLE" (by decide) (by decide))).append
      ((readsAs_name identifier).append
        (@readsAs_keyword "AS" (by decide) (by decide)))
  have behind :=
    (@readsAs_keyword "SELECT" (by decide) (by decide)).append
      (star.append
        ((@readsAs_keyword "FROM" (by decide) (by decide)).append
          (parenthesis.append
            (@readsAs_keyword "VALUES" (by decide) (by decide)))))
  have read := whole.append behind
  rw [create, as, select]
  rwa [List.append_assoc table.toList] at read

theorem createSql_toList (req : IngestRequest) (literals : List String) :
    (req.createSql literals).toList =
      ("CREATE TABLE ".toList ++ (req.table.toList ++ " AS ".toList) ++
          "SELECT * FROM (VALUES ".toList) ++
        ((", ".intercalate literals).toList ++ req.behindValues) := by
  rewrite [createSql_eq, createTableAs_words, query_toList,
    List.append_assoc (_ ++ (req.table.toList ++ _))]
  rfl

/-- Nothing of a request is read as anything but what it was sent as. -/
structure InjectionFree (req : IngestRequest) (literals : List String) :
    Prop where
  /-- The text is one statement. -/
  one : splitSqlStatements (req.createSql literals).toList =
    [(req.createSql literals).toList]
  /-- The search for the `AS` starts behind `CREATE TABLE`. -/
  keywords :
    keywordSequenceEnd (req.createSql literals).toList ["CREATE", "TABLE"] =
      some (some (utf8Len "CREATE TABLE".toList))
  /-- The `AS` that is found is the one that was written behind the name. -/
  clause :
    findAsClause (req.createSql literals).toList
        (utf8Len "CREATE TABLE".toList) =
      some
        (some
          (utf8Len ("CREATE TABLE".toList ++ targetText req.table),
            utf8Len
              ("CREATE TABLE".toList ++
                (targetText req.table ++ "AS ".toList))))
  name :
    (slice (req.createSql literals).toList (utf8Len "CREATE TABLE".toList)
        (utf8Len ("CREATE TABLE".toList ++ targetText req.table))).map trim =
      some req.table.toList
  /-- The block of values is read in its place as it is read alone. -/
  block :
    lexemes (req.createSql literals).toList =
      headLexemes req.table ++
        (lexemes (", ".intercalate literals).toList ++
          lexemes req.behindValues)
  values :
    readRows .opening (lexemes (", ".intercalate literals).toList) =
      some req.rows

/--
The text that is built from an accepted request for a table that is not called
`AS` is free of injection.
-/
theorem ingest_injectionFree (req : IngestRequest) {literals : List String}
    (accepted : req.rowLiterals = .ok literals)
    (notAs : ¬ eqIgnoreCase req.table.toList "AS") :
    InjectionFree req literals := by
  have checks := accepted_of_rowLiterals accepted
  have identifier := checks.isIdentifier
  have isQuery := checks.isQuery
  rcases checks.readsRows.reads with ⟨read, isRead, areRows⟩
  have sql := createSql_eq req literals
  refine
    { one := ?_, keywords := ?_, clause := ?_, name := ?_, block := ?_,
      values := ?_ }
  · rw [sql]
    exact splitSqlStatements_createTableAs identifier isQuery
  · rw [sql]
    exact keywordSequenceEnd_createTableAs _ _
  · rw [sql]
    exact findAsClause_createTableAs identifier isQuery notAs
  · rw [sql]
    exact slice_createTableAs identifier
  · rw [createSql_toList, isRead.whole]
    exact (readsAs_head identifier).parts isRead req.behindValues
  · rw [isRead.whole, areRows]

/-- A request whose strings hold quotes, comment marks and a `;`. -/
def quotedRequest : IngestRequest where
  table := "orders"
  columns := ["id", "note"]
  rows :=
    [[.number "-2.5e-3", .string "it's; -- /* \n"], [.number "7", .null]]
  numbers := by
    intro row member text inside
    have small : IsDigits ['7'] := ⟨by simp, by simp⟩
    simp only [List.mem_cons, List.not_mem_nil, or_false] at member
    rcases member with rfl | rfl
    · have isText : text = "-2.5e-3" := by simpa using inside
      rw [isText]
      exact
        ⟨['-'], ['2'], ['.', '5'], ['e', '-', '3'], by decide, Or.inr rfl,
          ⟨by simp, by simp⟩, Or.inr ⟨['5'], rfl, by simp, by simp⟩,
          Or.inr
            ⟨'e', ['-'], ['3'], rfl, Or.inl rfl, Or.inr (Or.inr rfl), by simp,
              by simp⟩⟩
    · have isText : text = "7" := by simpa using inside
      rw [isText]
      exact
        ⟨[], ['7'], [], [], by decide, Or.inl rfl, small, Or.inl rfl,
          Or.inl rfl⟩

theorem ingest_injectionFree_quoted :
    InjectionFree quotedRequest
      ["(-2.5e-3, 'it''s; -- /* \n')", "(7, NULL)"] :=
  ingest_injectionFree quotedRequest (by decide) (by decide)

end OpenSnow.Server.Rest
