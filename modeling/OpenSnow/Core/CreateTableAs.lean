import OpenSnow.Core.Targets

/-!
# `CREATE TABLE … AS` with any query

A creation of a table from a query is durable only if it reaches its handler.
The branch looks for the word `EXTERNAL` in the whole statement, also in
literals and comments, and the handler reads the first word of the query up to
white space or an opening parenthesis.
-/

namespace OpenSnow.Core.Commands

open Foundation
open Rust.Text
open Sql

/-! ## Queries -/

/-- An unquoted name of SQL. -/
structure IsIdentifier (name : List Char) : Prop where
  named : ∀ ch ∈ name, isSqlIdentifierChar ch
  start : name.head?.any fun ch => ch.isAlpha || ch == '_'

/-- No statement ends in the text before its end. -/
def OneStatement (reading : Reading) : List Char → Prop
  | [] => True
  | ch :: rest =>
      ¬ (reading = .plain ∧ ch = ';') ∧
        OneStatement (reading.next true ch rest) rest

instance decidableOneStatement :
    (reading : Reading) → (text : List Char) →
      Decidable (OneStatement reading text)
  | _, [] => inferInstanceAs (Decidable True)
  | reading, ch :: rest =>
      have := decidableOneStatement (reading.next true ch rest) rest
      inferInstanceAs (Decidable (_ ∧ _))

/-- The word that a query starts with, behind comments. -/
def leadingWord (query : List Char) : List Char :=
  (stripped query).takeWhile isSqlIdentifierChar

/-- What follows that word. -/
def behindLeadingWord (query : List Char) : List Char :=
  (stripped query).dropWhile isSqlIdentifierChar

/--
One statement that starts with the word `SELECT` or `WITH`; what stands in its
literals, quoted names and comments is arbitrary.
-/
structure IsQuery (query : List Char) : Prop where
  trimmed : Trimmed query
  one : OneStatement .plain query
  word : eqIgnoreCase (leadingWord query) "SELECT" ∨
    eqIgnoreCase (leadingWord query) "WITH"

/-- The statement that creates a table from a query. -/
def createTableAs (name query : String) : String :=
  "CREATE TABLE " ++ name ++ " AS " ++ query

/--
The statement does not contain the word `EXTERNAL`, the name is not too long and
not `AS`, and the first word of the query ends at white space or a parenthesis.
-/
structure ReachesCtas (name query : String) : Prop where
  notExternal : ¬ containsKeyword (createTableAs name query).toList "EXTERNAL"
  short : utf8Len name.toList ≤ 128
  notAs : ¬ eqIgnoreCase name.toList "AS"
  wordEnds : Stops (!isKeywordBreak ·) (behindLeadingWord query.toList)

/-! ## The query -/

theorem splitLoop_one {reading : Reading} {current text : List Char}
    (one : OneStatement reading text) :
    splitLoop reading current text = keepStatement (current ++ text) [] := by
  induction text generalizing reading current with
  | nil => rw [splitLoop, List.append_nil]
  | cons ch rest ih =>
      rw [splitLoop, if_neg one.1, ih one.2, List.append_assoc]
      rfl

variable {query : List Char}

theorem IsQuery.ne_nil (isQuery : IsQuery query) :
    query ≠ [] := by
  rintro rfl
  have word := isQuery.word
  revert word
  decide

theorem IsQuery.split (isQuery : IsQuery query) :
    splitSqlStatements query = [query] := by
  rw [splitSqlStatements, splitLoop_one isQuery.one, List.nil_append,
    keepStatement, trim_of_trimmed isQuery.trimmed, if_neg]
  rw [List.isEmpty_iff]
  exact isQuery.ne_nil

theorem leadingWord_spells (isQuery : IsQuery query) :
    Spells (leadingWord query) "SELECT" ∨ Spells (leadingWord query) "WITH" := by
  rcases isQuery.word with select | withList
  · left
    exact ⟨(eqIgnoreCase_iff (by decide)).mp select, by decide, by decide⟩
  · right
    exact ⟨(eqIgnoreCase_iff (by decide)).mp withList, by decide, by decide⟩

theorem leadingWord_append (query : List Char) :
    leadingWord query ++ behindLeadingWord query = stripped query :=
  List.takeWhile_append_dropWhile

theorem isKeywordBreak_of_named {ch : Char} (named : isSqlIdentifierChar ch) :
    isKeywordBreak ch = false := by
  rw [isKeywordBreak, not_isWhitespace_of_alphanum named, Bool.false_or,
    beq_eq_false_iff_ne]
  rintro rfl
  revert named
  decide

/-- The first keyword of a query, read up to a break. -/
theorem firstKeyword_stripped (isQuery : IsQuery query) :
    (firstKeyword (stripped query)).toList =
      (leadingWord query).map Char.toUpper ++
        ((behindLeadingWord query).takeWhile (!isKeywordBreak ·)).map
          Char.toUpper := by
  have named : ∀ ch ∈ leadingWord query, isSqlIdentifierChar ch :=
    fun _ member => List.mem_takeWhile_imp member
  have nonempty : leadingWord query ≠ [] := by
    rcases leadingWord_spells isQuery with spells | spells <;>
      exact spells.ne_nil
  have starts : ∀ kind : Char → Bool,
      (∀ ch, isSqlIdentifierChar ch → kind ch = false) →
        Stops kind (stripped query) := by
    intro kind others
    rw [← leadingWord_append]
    cases form : leadingWord query with
    | nil => exact absurd form nonempty
    | cons ch word =>
        refine stops_cons.mpr (others ch (named ch ?_))
        rw [form]
        exact List.mem_cons_self
  have noBlank := starts isWhitespace fun ch => not_isWhitespace_of_alphanum
  have noBreak := starts isKeywordBreak fun ch => isKeywordBreak_of_named
  have solid : ∀ ch ∈ leadingWord query, !isKeywordBreak ch := by
    intro ch member
    rw [isKeywordBreak_of_named (named ch member)]
    rfl
  rw [firstKeyword, trimStart_of_stops noBlank, dropWhile_of_stops noBreak,
    ← leadingWord_append, List.takeWhile_append_of_pos solid,
    toAsciiUppercase, String.toList_ofList, String.toList_ofList,
    List.map_append]

theorem hasPrefix_parenthesis (isQuery : IsQuery query) :
    hasPrefix query "(" = false := by
  rw [Bool.eq_false_iff]
  intro begins
  rcases List.isPrefixOf_iff_prefix.mp begins with ⟨rest, rfl⟩
  have whole : trimStart ('(' :: rest) = '(' :: rest :=
    trimStart_of_stops (stops_cons.mpr (by decide))
  have same : stripped ('(' :: rest) = '(' :: rest := by
    rw [stripped_of_no_comment, whole] <;>
      · intro other shape
        rw [whole] at shape
        cases shape
  have noWord : leadingWord ('(' :: rest) = [] := by
    rw [leadingWord, same]
    rfl
  rcases leadingWord_spells isQuery with spells | spells <;>
    exact spells.ne_nil noWord

/-- The query is kept exactly if its first word ends at a break. -/
theorem validateMaterializationQuery_iff
    (isQuery : IsQuery query) (command : String) :
    validateMaterializationQuery query command = some (.ok query) ↔
      Stops (!isKeywordBreak ·) (behindLeadingWord query) := by
  have keyword := firstKeyword_stripped isQuery
  rw [validateMaterializationQuery, isQuery.split]
  simp only [trimStart_of_stops isQuery.trimmed.1,
    hasPrefix_parenthesis isQuery, Bool.false_eq_true, if_false,
    stripLeadingSqlComments_eq, Option.bind_eq_bind, Option.bind_some]
  rw [← takeWhile_eq_nil_iff_stops]
  constructor
  · intro kept
    have isKeyword : firstKeyword (stripped query) = "SELECT" ∨
        firstKeyword (stripped query) = "WITH" := by
      split at kept
      · exact Or.inl ‹_›
      · exact Or.inr ‹_›
      · cases kept
    rcases leadingWord_spells isQuery with spells | spells <;>
      rcases isKeyword with select | withList
    · rw [select, spells.upper] at keyword
      simpa using keyword
    · rw [withList, spells.upper] at keyword
      simp at keyword
    · rw [select, spells.upper] at keyword
      simp at keyword
    · rw [withList, spells.upper] at keyword
      simpa using keyword
  · intro ends
    rw [ends, List.map_nil, List.append_nil] at keyword
    rcases leadingWord_spells isQuery with spells | spells
    · rw [spells.upper, String.toList_inj] at keyword
      rw [keyword]
      rfl
    · rw [spells.upper, String.toList_inj] at keyword
      rw [keyword]
      rfl

/-! ## The statement -/

/-- What stands behind `CREATE TABLE`. -/
def targetAndQuery (name query : String) : List Char :=
  ' ' :: (name.toList ++ ' ' :: 'A' :: 'S' :: ' ' :: query.toList)

variable (name query : String)

theorem createTableAs_toList :
    (createTableAs name query).toList =
      "CREATE".toList ++
        (' ' :: ("TABLE".toList ++ targetAndQuery name query)) := by
  simp [createTableAs, targetAndQuery]

theorem stripped_createTableAs :
    stripped (createTableAs name query).toList =
      (createTableAs name query).toList := by
  have whole :
      trimStart (createTableAs name query).toList =
        (createTableAs name query).toList := by
    rw [createTableAs_toList]
    exact trimStart_of_stops (stops_cons.mpr (by decide))
  rw [stripped_of_no_comment, whole] <;>
    · intro other shape
      rw [whole, createTableAs_toList] at shape
      cases shape

theorem afterKeyword_create :
    afterKeyword (createTableAs name query).toList "CREATE" =
      some (' ' :: ("TABLE".toList ++ targetAndQuery name query)) := by
  have create : Spells "CREATE".toList "CREATE" :=
    ⟨by decide, by decide, by decide⟩
  rw [createTableAs_toList]
  exact
    @afterKeyword_append [] _ _ _ blank_nil create (stops_cons.mpr (by decide))

theorem afterKeywords_createTable :
    afterKeywords (createTableAs name query).toList ["CREATE", "TABLE"] =
      some (targetAndQuery name query) := by
  have table : Spells "TABLE".toList "TABLE" :=
    ⟨by decide, by decide, by decide⟩
  have second :=
    @afterKeyword_append [' '] _ (targetAndQuery name query) _
      (by simp [isWhitespace]) table (stops_cons.mpr (by decide))
  rw [List.cons_append, List.nil_append] at second
  rw [afterKeywords, afterKeyword_create, Option.bind_some, afterKeywords,
    second]
  rfl

theorem afterKeywords_createView :
    afterKeywords (createTableAs name query).toList
      ["CREATE", "MATERIALIZED", "VIEW"] = none := by
  have second :=
    @afterKeyword_other [' '] "TABLE".toList (targetAndQuery name query)
      "MATERIALIZED" (by simp [isWhitespace]) (stops_cons.mpr (by decide))
      (List.all_eq_true.mp (by decide)) (stops_cons.mpr (by decide)) (by decide)
  rw [List.cons_append, List.nil_append] at second
  rw [afterKeywords, afterKeyword_create, Option.bind_some, afterKeywords,
    second]
  rfl

theorem upperChars_createTableAs :
    ∃ rest, upperChars (createTableAs name query).toList =
      "CREATE TABLE ".toList ++ rest := by
  refine
    ⟨upperChars (name.toList ++ ' ' :: 'A' :: 'S' :: ' ' :: query.toList), ?_⟩
  rw [createTableAs_toList]
  have shape :
      "CREATE".toList ++ (' ' :: ("TABLE".toList ++ targetAndQuery name query)) =
        "CREATE TABLE ".toList ++
          (name.toList ++ ' ' :: 'A' :: 'S' :: ' ' :: query.toList) := by
    simp [targetAndQuery]
  rw [shape, upperChars_append]
  congr 1

theorem chosenHandler_createTableAs :
    chosenHandler (createTableAs name query).toList =
      if createsTable (createTableAs name query).toList then some .ctas
      else none := by
  rcases upperChars_createTableAs name query with ⟨rest, upper⟩
  have front : openTests "CREATE TABLE ".toList frontTests = [] := by decide
  have back : openTests "CREATE TABLE ".toList backTests = [] := by decide
  rw [chosenHandler_eq, upper, ← firstPassed_openTests, front, firstPassed,
    Option.none_or, afterKeywords_createView, ← firstPassed_openTests, back,
    firstPassed]
  simp

/-! ## The target -/

theorem isSafe_iff_short {name : List Char} (identifier : IsIdentifier name) :
    isSafeUnqualifiedIdentifier name ↔ utf8Len name ≤ 128 := by
  have nonempty : name.isEmpty = false := by
    cases name with
    | nil => cases identifier.start
    | cons ch rest => rfl
  have named : name.all isSqlIdentifierChar :=
    List.all_eq_true.mpr identifier.named
  rw [isSafeUnqualifiedIdentifier, nonempty, named, identifier.start]
  simp

variable {name query : String}

theorem clause_of_as (isAs : eqIgnoreCase name.toList "AS") :
    ∃ behind, asClause .plain none (targetAndQuery name query) =
      some ([' '], behind) := by
  rcases as_spelled isAs with ⟨first, second, form, isA, isS⟩
  refine ⟨' ' :: 'A' :: 'S' :: ' ' :: query.toList, ?_⟩
  rw [targetAndQuery, form]
  exact
    @asClause_blank_as [' '] _ _ _ _ (List.cons_ne_nil _ _)
      (by simp [isWhitespace]) isA isS (stops_cons.mpr (by decide))

section

variable (identifier : IsIdentifier name.toList)

include identifier

theorem clause_of_name (notAs : ¬ eqIgnoreCase name.toList "AS") :
    asClause .plain none (targetAndQuery name query) =
      some (' ' :: (name.toList ++ [' ']), ' ' :: query.toList) := by
  have found :
      asClause .plain (name.toList.getLast?.or (some ' '))
          (' ' :: 'A' :: 'S' :: ' ' :: query.toList) =
        some ([' '], ' ' :: query.toList) :=
    @asClause_blank_as [' '] _ _ _ _ (List.cons_ne_nil _ _)
      (by simp [isWhitespace]) (Or.inl rfl) (Or.inr rfl)
      (stops_cons.mpr (by decide))
  have passed :=
    asClause_name identifier.named
      (@stops_cons _ _ ' ' ('A' :: 'S' :: ' ' :: query.toList) |>.mpr
        (by decide)) notAs (some ' ')
  have blanks :=
    @asClause_blank [' ']
      (name.toList ++ ' ' :: 'A' :: 'S' :: ' ' :: query.toList)
      (by simp [isWhitespace]) none
  rw [targetAndQuery]
  rw [List.cons_append, List.nil_append] at blanks
  rw [blanks]
  simp only [List.getLast?_singleton, Option.some_or]
  rw [passed, found]
  simp

/-! ## Dispatch -/

theorem createsTable_createTableAs :
    createsTable (createTableAs name query).toList =
      !containsKeyword (createTableAs name query).toList "EXTERNAL" := by
  have found : (asClause .plain none (targetAndQuery name query)).isSome := by
    by_cases isAs : eqIgnoreCase name.toList "AS"
    · rcases clause_of_as isAs with ⟨behind, clause⟩
      rw [clause]
      rfl
    · rw [clause_of_name identifier isAs]
      rfl
  rw [createsTable, afterKeywords_createTable]
  simp only
  rw [found, Bool.and_true]

/-- What the handler reads of a statement that reaches it. -/
theorem ctasOperands_createTableAs (isQuery : IsQuery query.toList) :
    ctasOperands (createTableAs name query).toList =
        some (.ok (.ctas name query)) ↔
      utf8Len name.toList ≤ 128 ∧ ¬ eqIgnoreCase name.toList "AS" ∧
        Stops (!isKeywordBreak ·) (behindLeadingWord query.toList) := by
  by_cases isAs : eqIgnoreCase name.toList "AS"
  · rcases clause_of_as isAs with ⟨behind, clause⟩
    rw [ctasOperands_eq (afterKeywords_createTable name query) clause]
    have blank : trim [' '] = [] := by decide
    rw [blank, validateOutputTableIdentifier, validateIdentifier,
      if_neg (by decide)]
    simp [isAs]
  · have isName : trim (' ' :: (name.toList ++ [' '])) = name.toList :=
      @trim_surrounded [' '] _ [' '] (by simp [isWhitespace])
        (by simp [isWhitespace]) (trimmed_of_named identifier.named)
    have isText : trimStart (' ' :: query.toList) = query.toList := by
      have blank : Blank [' '] := by simp [isWhitespace]
      have cut := @trimStart_blank_append [' '] query.toList blank
      rw [trimStart_of_stops isQuery.trimmed.1] at cut
      exact cut
    rw [ctasOperands_eq (afterKeywords_createTable name query)
        (clause_of_name identifier isAs),
      isName, isText, validateOutputTableIdentifier, validateIdentifier,
      String.ofList_toList]
    by_cases short : utf8Len name.toList ≤ 128
    · rw [if_pos ((isSafe_iff_short identifier).mpr short)]
      simp only [short, isAs, not_false_eq_true, true_and, Bool.false_eq_true]
      rw [← validateMaterializationQuery_iff isQuery "CREATE TABLE AS"]
      cases checked :
          validateMaterializationQuery query.toList "CREATE TABLE AS" with
      | none => simp
      | some result =>
          cases result with
          | error message => simp [Except.map]
          | ok kept =>
              simp only [Option.map_some, Except.map, Option.some.injEq,
                Except.ok.injEq, Command.ctas.injEq, true_and]
              rw [← String.toList_inj, String.toList_ofList]
    · rw [if_neg fun safe => short ((isSafe_iff_short identifier).mp safe)]
      simp [short]

end

/--
A creation of a table from a query is dispatched with its name and its query
exactly if it does not contain the word `EXTERNAL` anywhere, its name is not
too long and not `AS`, and the first word of the query ends at a break.
-/
theorem dispatch_createTableAs_iff {name query : String}
    (identifier : IsIdentifier name.toList) (isQuery : IsQuery query.toList) :
    dispatch (createTableAs name query) =
        some (some (.ok (.ctas name query))) ↔
      ReachesCtas name query := by
  rw [dispatch_eq, stripped_createTableAs, chosenHandler_createTableAs,
    createsTable_createTableAs identifier]
  by_cases isExternal :
      containsKeyword (createTableAs name query).toList "EXTERNAL"
  · rw [isExternal]
    simp only [Bool.not_true, Bool.false_eq_true, if_false]
    constructor
    · intro same
      cases same
    · intro reaches
      exact absurd isExternal reaches.notExternal
  · rw [Bool.not_eq_true] at isExternal
    rw [isExternal]
    simp only [Bool.not_false, if_true, operands]
    rw [Option.map_eq_some_iff]
    simp only [Option.some.injEq, exists_eq_right]
    rw [ctasOperands_createTableAs identifier isQuery]
    constructor
    · rintro ⟨short, notAs, wordEnds⟩
      exact ⟨by simp [isExternal], short, notAs, wordEnds⟩
    · intro reaches
      exact ⟨reaches.short, reaches.notAs, reaches.wordEnds⟩

/-- A query with a `;` and an `AS` in its literals. -/
theorem dispatch_createTableAs_orders :
    dispatch (createTableAs "orders" "SELECT 'a; b AS c' AS note") =
        some (some (.ok (.ctas "orders" "SELECT 'a; b AS c' AS note"))) ↔
      ReachesCtas "orders" "SELECT 'a; b AS c' AS note" :=
  dispatch_createTableAs_iff
    ⟨List.all_eq_true.mp (by decide), by decide⟩
    ⟨⟨stops_cons.mpr (by decide), stops_cons.mpr (by decide)⟩,
      by decide, by decide⟩

/-- The word `external` in a literal keeps a creation from its handler. -/
theorem external_literal_not_dispatched :
    ¬ ∀ name query : String, IsIdentifier name.toList →
      IsQuery query.toList →
        dispatch (createTableAs name query) =
          some (some (.ok (.ctas name query))) := by
  intro dispatched
  have reached :=
    dispatched "t" "SELECT 'external' AS kind"
      ⟨List.all_eq_true.mp (by decide), by decide⟩
      ⟨⟨stops_cons.mpr (by decide), stops_cons.mpr (by decide)⟩,
        by decide, by decide⟩
  revert reached
  decide

end OpenSnow.Core.Commands
