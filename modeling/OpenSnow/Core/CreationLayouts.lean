import OpenSnow.Core.QueryTrailers

/-!
# Layouts of creations

The branches of creations skip white space between their keywords, so every
layout reaches the handler of the documented one.  Only semicolons behind a
query that leaves something open are taken into the query.
-/

namespace OpenSnow.Core.Commands

open Foundation
open Rust.Text
open Sql

variable {name : Identifier} {query : Query}

/-! ## The word `EXTERNAL` -/

/-- A keyword is looked for in the words of a text. -/
theorem containsKeyword_eq (text : List Char) {expected : String}
    (nonempty : expected.toList ≠ []) :
    containsKeyword text expected =
      (fields (!isSqlIdentifierChar ·) text).any (eqIgnoreCase · expected) := by
  have notEmpty : ∀ word : List Char, eqIgnoreCase word expected →
      !word.isEmpty := by
    intro word same
    cases word with
    | nil =>
        rw [eqIgnoreCase, beq_iff_eq, List.map_nil] at same
        exact absurd (List.map_eq_nil_iff.mp same.symm) nonempty
    | cons ch word => rfl
  rw [containsKeyword, fields, Bool.eq_iff_iff, List.any_eq_true,
    List.any_eq_true]
  constructor
  · rintro ⟨word, member, same⟩
    exact ⟨word, List.mem_filter.mpr ⟨member, notEmpty word same⟩, same⟩
  · rintro ⟨word, member, same⟩
    exact ⟨word, (List.mem_filter.mp member).1, same⟩

theorem Gap.separates (gap : Gap) :
    ∀ ch ∈ gap.text, !isSqlIdentifierChar ch := fun ch member => by
  rw [not_isSqlIdentifierChar_of_blank (gap.blank ch member)]
  rfl

theorem words_gap {word rest : List Char} (gap : Gap)
    (nonempty : word ≠ []) (named : ∀ ch ∈ word, isSqlIdentifierChar ch) :
    fields (!isSqlIdentifierChar ·) (word ++ (gap.text ++ rest)) =
      word :: fields (!isSqlIdentifierChar ·) rest := by
  have stops : Stops (!!isSqlIdentifierChar ·) (gap.text ++ rest) := by
    simpa using stops_blank gap.nonempty gap.blank
  rw [fields_run_append nonempty (by simpa using named) stops,
    fields_breaks_append gap.separates]

theorem words_trailer {trailer : List Char} (text : List Char)
    (isTrailer : IsTrailer trailer) :
    fields (!isSqlIdentifierChar ·) (text ++ trailer) =
      fields (!isSqlIdentifierChar ·) text := by
  apply fields_append_breaks
  intro ch member
  rcases isTrailer ch member with rfl | blank
  · decide
  · rw [not_isSqlIdentifierChar_of_blank blank]
    rfl

/-! ## The clause -/

/-- The text behind the first keywords of a creation. -/
def creationRest (second third fourth : Gap) (name asWord onwards : List Char) :
    List Char :=
  second.text ++ (name ++ (third.text ++ (asWord ++ (fourth.text ++ onwards))))

section Clause

variable {second third fourth : Gap} {asWord onwards : List Char}

/-- A name that is `AS` itself begins the clause. -/
theorem clause_of_as_layout (isAs : eqIgnoreCase name.text "AS") :
    ∃ behind,
      asClause .plain none
          (creationRest second third fourth name.text asWord onwards) =
        some (second.text, behind) := by
  rcases as_spelled isAs with ⟨first, next, form, isA, isS⟩
  refine ⟨third.text ++ (asWord ++ (fourth.text ++ onwards)), ?_⟩
  rw [creationRest, form, List.cons_append, List.cons_append, List.nil_append]
  exact
    asClause_blank_as second.nonempty second.blank isA isS
      (stops_blank third.nonempty third.blank)

/-- Any other name stands in front of the clause. -/
theorem clause_of_name_layout (spells : Spells asWord "AS")
    (notAs : ¬ eqIgnoreCase name.text "AS") :
    asClause .plain none
        (creationRest second third fourth name.text asWord onwards) =
      some
        (second.text ++ (name.text ++ third.text), fourth.text ++ onwards) := by
  rcases as_spelled spells.eqIgnoreCase with ⟨first, next, form, isA, isS⟩
  have named := name.isIdentifier.named
  have found : ∀ last,
      asClause .plain last
          (third.text ++ (asWord ++ (fourth.text ++ onwards))) =
        some (third.text, fourth.text ++ onwards) := by
    intro last
    rw [form, List.cons_append, List.cons_append, List.nil_append]
    exact
      asClause_blank_as third.nonempty third.blank isA isS
        (stops_blank fourth.nonempty fourth.blank)
  rw [creationRest, asClause_blank second.blank,
    asClause_name named (stops_blank third.nonempty third.blank) notAs, found]
  rfl

end Clause

/-! ## The branches of creations -/

/-- The handler of a creation of anything but a warehouse. -/
theorem chosenHandler_creation {create word rest : List Char} {first : Gap}
    {keyword : String} (spellsCreate : Spells create "CREATE")
    (spells : Spells word keyword)
    (other : ¬ "WAREHOUSE".toList <+: keyword.toList ++ upperChars rest) :
    chosenHandler (create ++ (first.text ++ (word ++ rest))) =
      if createsTable (create ++ (first.text ++ (word ++ rest))) then some .ctas
      else if
        (afterKeywords (create ++ (first.text ++ (word ++ rest)))
          ["CREATE", "MATERIALIZED", "VIEW"]).isSome
      then some .createMaterializedView
      else none := by
  have front : openTests "CREATE".toList frontTests =
      [(["CREATE WAREHOUSE"], .createWarehouse)] := by
    decide
  have back : openTests "CREATE".toList backTests = [] := by decide
  have notWarehouse :
      hasPrefix
          ("CREATE".toList ++ (first.text ++ (keyword.toList ++ upperChars rest)))
          "CREATE WAREHOUSE" = false := by
    rw [Bool.eq_false_iff]
    intro begins
    exact
      other
        ((hasPrefix_gap first createWarehouse_words (by decide)
          (stops_cons.mpr (by decide))).mp begins).2
  rw [chosenHandler_eq, spellsCreate.upperChars, first.upperChars_append,
    spells.upperChars, ← firstPassed_openTests _ _ frontTests, front,
    ← firstPassed_openTests _ _ backTests, back]
  simp only [firstPassed, List.any_cons, List.any_nil, Bool.or_false,
    notWarehouse, Bool.false_eq_true, if_false, Option.none_or]

/-- The first keywords of a creation, in any layout. -/
theorem afterKeywords_creation {create word rest : List Char} {first : Gap}
    {keyword : String} (spellsCreate : Spells create "CREATE")
    (spells : Spells word keyword) (stops : Stops (!isWhitespace ·) rest)
    {expected : String} {more : List String}
    (upper : expected.toList.map Char.toUpper = expected.toList) :
    afterKeywords (create ++ (first.text ++ (word ++ rest)))
        ("CREATE" :: expected :: more) =
      if keyword = expected then afterKeywords rest more else none := by
  have isCreate :=
    @afterKeyword_append [] _ _ _ blank_nil spellsCreate
      (first.stops (word ++ rest))
  rw [List.nil_append] at isCreate
  rw [afterKeywords, isCreate, Option.bind_some, afterKeywords]
  split
  · rename_i same
    rw [← same, afterKeyword_append first.blank spells stops, Option.bind_some]
  · rename_i other
    rw [afterKeyword_spelled_other first.blank spells stops upper other]
    rfl

/-! ## CREATE TABLE … AS -/

section CreateTable

variable (layout : Layout (Statement.createTable name query).pieces)

theorem Layout.createTable_code :
    ∃ (create table asWord : List Char) (first second third fourth : Gap),
      Spells create "CREATE" ∧ Spells table "TABLE" ∧ Spells asWord "AS" ∧
        layout.code =
          create ++ (first.text ++ (table ++
            creationRest second third fourth name.text asWord
              (query.text ++ layout.trailer))) := by
  rcases layout.opened with
    ⟨create, first, atTable, spellsCreate, code, -, trailer, -⟩
  rcases atTable.opened with
    ⟨table, second, atName, spellsTable, codeTable, -, trailerTable, -⟩
  rcases atName.opened with
    ⟨_, third, atAs, rfl, codeName, -, trailerName, -⟩
  rcases atAs.opened with
    ⟨asWord, fourth, final, spellsAs, codeAs, -, trailerAs, -⟩
  rcases final.last with ⟨_, rfl, last⟩
  refine
    ⟨create, table, asWord, first, second, third, fourth, spellsCreate,
      spellsTable, spellsAs, ?_⟩
  refine code.trans ?_
  rw [codeTable, codeName, codeAs, last, trailerAs, trailerName, trailerTable,
    trailer, creationRest]

theorem createTable_external {create table asWord trailer : List Char}
    {first second third fourth : Gap} (spellsCreate : Spells create "CREATE")
    (spellsTable : Spells table "TABLE") (spellsAs : Spells asWord "AS")
    (isTrailer : IsTrailer trailer) :
    containsKeyword
        (create ++ (first.text ++ (table ++
          creationRest second third fourth name.text asWord
            (query.text ++ trailer))))
        "EXTERNAL" =
      (eqIgnoreCase name.text "EXTERNAL" ||
        containsKeyword query.text "EXTERNAL") := by
  have others : ∀ {word : List Char} {keyword : String}, Spells word keyword →
      keyword ≠ "EXTERNAL" → eqIgnoreCase word "EXTERNAL" = false := by
    intro word keyword spells other
    rw [Bool.eq_false_iff]
    intro same
    have spelled := (eqIgnoreCase_iff (by decide)).mp same
    rw [spells.upper, String.toList_inj] at spelled
    exact other spelled
  have nonempty : "EXTERNAL".toList ≠ [] := by decide
  rw [containsKeyword_eq _ nonempty, containsKeyword_eq _ nonempty,
    creationRest, words_gap first spellsCreate.ne_nil spellsCreate.named,
    words_gap second spellsTable.ne_nil spellsTable.named,
    words_gap third name.ne_nil name.isIdentifier.named,
    words_gap fourth spellsAs.ne_nil spellsAs.named,
    words_trailer query.text isTrailer]
  simp only [List.any_cons, others spellsCreate (by decide),
    others spellsTable (by decide), others spellsAs (by decide),
    Bool.false_or]

/-- Whether a creation is one of an external table, as the branch sees it. -/
def SaysExternal (name query : List Char) : Prop :=
  eqIgnoreCase name "EXTERNAL" || containsKeyword query "EXTERNAL"

instance (name query : List Char) : Decidable (SaysExternal name query) :=
  inferInstanceAs (Decidable (_ = true))

/-- The name and the query of a creation are accepted. -/
structure ReadsCreation (name query : List Char) : Prop where
  short : utf8Len name ≤ 128
  notAs : ¬ eqIgnoreCase name "AS"
  wordEnds : Stops (!isKeywordBreak ·) (behindLeadingWord query)

/-- What a creation makes of its name and of the text of its query. -/
def creationReads (command : String) (make : String → Command)
    (name onwards : List Char) : Panics (Option Command) :=
  if ¬ eqIgnoreCase name "AS" ∧ utf8Len name ≤ 128 then
    ((validateMaterializationQuery onwards command).map
      Except.toOption).map fun read =>
        read.map fun selectSql => make (String.ofList selectSql)
  else some none

/-- A trailer changes the command only if an accepted query takes it in. -/
theorem creationReads_iff {command : String} {make : String → Command}
    {trailer : List Char} (injective : Function.Injective make)
    (isTrailer : IsTrailer trailer) :
    creationReads command make name.text (query.text ++ trailer) =
        creationReads command make name.text query.text ↔
      (ReadsCreation name.text query.text →
        EndsStatement query.text trailer) := by
  rw [creationReads, creationReads]
  by_cases named : ¬ eqIgnoreCase name.text "AS" ∧ utf8Len name.text ≤ 128
  · have whole : Function.Injective fun read : Option (List Char) =>
        read.map fun selectSql => make (String.ofList selectSql) := by
      apply Option.map_injective
      intro first second same
      have texts := injective same
      rwa [← String.toList_inj, String.toList_ofList, String.toList_ofList]
        at texts
    rw [if_pos named, if_pos named, (Option.map_injective whole).eq_iff,
      validate_trailer_iff query.isQuery isTrailer]
    constructor
    · exact fun ends reads => ends reads.wordEnds
    · exact fun ends wordEnds => ends ⟨named.2, named.1, wordEnds⟩
  · rw [if_neg named, if_neg named]
    refine iff_of_true rfl fun reads => ?_
    exact absurd ⟨reads.notAs, reads.short⟩ named

theorem createTable_other (rest : List Char) :
    ¬ "WAREHOUSE".toList <+: "TABLE".toList ++ rest := by
  rintro ⟨more, shape⟩
  cases shape

theorem Layout.createTable_chosen :
    chosenHandler layout.code =
      if SaysExternal name.text query.text then none else some .ctas := by
  rcases layout.createTable_code with
    ⟨create, table, asWord, first, second, third, fourth, spellsCreate,
      spellsTable, spellsAs, code⟩
  have external :=
    @createTable_external name query create table asWord layout.trailer first
      second third fourth spellsCreate spellsTable spellsAs layout.isTrailer
  have clause :
      (asClause .plain none
        (creationRest second third fourth name.text asWord
          (query.text ++ layout.trailer))).isSome := by
    by_cases isAs : eqIgnoreCase name.text "AS"
    · rcases @clause_of_as_layout name second third fourth asWord
        (query.text ++ layout.trailer) isAs with ⟨behind, found⟩
      rw [found]
      rfl
    · rw [clause_of_name_layout spellsAs isAs]
      rfl
  have stops := second.stops
    (name.text ++ (third.text ++ (asWord ++
      (fourth.text ++ (query.text ++ layout.trailer)))))
  have isTable :=
    @afterKeywords_creation _ _ _ first _ spellsCreate spellsTable stops "TABLE"
      [] (by decide)
  have notView :=
    @afterKeywords_creation _ _ _ first _ spellsCreate spellsTable stops
      "MATERIALIZED" ["VIEW"] (by decide)
  rw [if_pos rfl, afterKeywords] at isTable
  rw [if_neg (by decide)] at notView
  rw [code, chosenHandler_creation spellsCreate spellsTable
      (createTable_other _), creationRest, notView, createsTable, isTable,
    ← creationRest, external]
  simp only [clause, Bool.and_true]
  by_cases isExternal : SaysExternal name.text query.text
  · rw [if_pos isExternal]
    rw [SaysExternal] at isExternal
    rw [isExternal]
    rfl
  · rw [if_neg isExternal]
    rw [SaysExternal] at isExternal
    rw [Bool.eq_false_iff.mpr isExternal]
    rfl

theorem Query.trimStart_append (query : Query) (gap : Gap)
    (trailer : List Char) :
    trimStart (gap.text ++ (query.text ++ trailer)) = query.text ++ trailer := by
  rw [trimStart_blank_append gap.blank]
  have starts := query.isQuery.trimmed.1
  cases form : query.text with
  | nil => exact absurd form query.isQuery.ne_nil
  | cons ch rest =>
      rw [form] at starts
      exact trimStart_of_stops (stops_cons.mpr (stops_cons.mp starts))

/-- What the handler reads of a layout. -/
theorem Layout.createTable_operands :
    (operands .ctas layout.code).map Except.toOption =
      creationReads "CREATE TABLE AS" (.ctas (String.ofList name.text))
        name.text (query.text ++ layout.trailer) := by
  rcases layout.createTable_code with
    ⟨create, table, asWord, first, second, third, fourth, spellsCreate,
      spellsTable, spellsAs, code⟩
  have follows :=
    @afterKeywords_creation create table
      (creationRest second third fourth name.text asWord
        (query.text ++ layout.trailer))
      first _ spellsCreate spellsTable (second.stops _) "TABLE" [] (by decide)
  rw [if_pos rfl, afterKeywords] at follows
  rw [operands, code, creationReads]
  by_cases isAs : eqIgnoreCase name.text "AS"
  · rcases @clause_of_as_layout name second third fourth asWord
      (query.text ++ layout.trailer) isAs with ⟨behind, found⟩
    have empty : trim second.text = [] := by
      rw [trim, trimStart_of_blank second.blank]
      rfl
    rw [ctasOperands_eq follows found, empty, validateOutputTableIdentifier,
      validateIdentifier, if_neg (by decide)]
    simp [isAs, Except.toOption]
  · have isName :
        trim (second.text ++ (name.text ++ third.text)) = name.text :=
      trim_surrounded second.blank third.blank
        (trimmed_of_named name.isIdentifier.named)
    rw [ctasOperands_eq follows (clause_of_name_layout spellsAs isAs), isName,
      query.trimStart_append, validateOutputTableIdentifier,
      validateIdentifier]
    simp only [isSafe_iff_short name.isIdentifier]
    by_cases short : utf8Len name.text ≤ 128
    · rw [if_pos short, if_pos ⟨isAs, short⟩]
      cases validateMaterializationQuery (query.text ++ layout.trailer)
          "CREATE TABLE AS" with
      | none => rfl
      | some read => cases read <;> rfl
    · rw [if_neg short, if_neg fun both => short both.2]
      rfl

/-- A creation of a table is dispatched alike in every layout that ends it. -/
theorem createTable_sameDispatch :
    SameDispatch layout.text
        (Statement.createTable name query).documented.text ↔
      (¬ SaysExternal name.text query.text ∧
          ReadsCreation name.text query.text →
        EndsStatement query.text layout.trailer) := by
  by_cases isExternal : SaysExternal name.text query.text
  · have chosen : ∀ other : Layout (Statement.createTable name query).pieces,
        chosenHandler other.code = none := by
      intro other
      rw [other.createTable_chosen, if_pos isExternal]
    simp [sameDispatch_of_none layout (chosen _) (chosen _), isExternal]
  · have chosen : ∀ other : Layout (Statement.createTable name query).pieces,
        chosenHandler other.code = if True then some .ctas else none := by
      intro other
      rw [other.createTable_chosen, if_neg isExternal, if_pos trivial]
    have own := chosen (Statement.createTable name query).documented
    have ownTrailer :
        query.text ++ (Statement.createTable name query).documented.trailer =
          query.text :=
      List.append_nil _
    rw [if_pos trivial] at own
    rw [sameDispatch_iff layout (chosen layout) own,
      layout.createTable_operands, Layout.createTable_operands, ownTrailer]
    have same :=
      @creationReads_iff name query "CREATE TABLE AS"
        (.ctas (String.ofList name.text)) _
        (fun _ _ same => (Command.ctas.inj same).2) layout.isTrailer
    rw [same, true_and, and_iff_right isExternal]

end CreateTable

/-! ## CREATE MATERIALIZED VIEW … AS -/

section CreateView

variable (layout : Layout (Statement.createMaterializedView name query).pieces)

theorem Layout.createView_code :
    ∃ (create materialized view asWord : List Char)
      (first gap second third fourth : Gap),
      Spells create "CREATE" ∧ Spells materialized "MATERIALIZED" ∧
        Spells view "VIEW" ∧ Spells asWord "AS" ∧
        layout.code =
          create ++ (first.text ++ (materialized ++ (gap.text ++ (view ++
            creationRest second third fourth name.text asWord
              (query.text ++ layout.trailer))))) := by
  rcases layout.opened with
    ⟨create, first, atKind, spellsCreate, code, -, trailer, -⟩
  rcases atKind.opened with
    ⟨materialized, gap, atView, spellsKind, codeKind, -, trailerKind, -⟩
  rcases atView.opened with
    ⟨view, second, atName, spellsView, codeView, -, trailerView, -⟩
  rcases atName.opened with
    ⟨_, third, atAs, rfl, codeName, -, trailerName, -⟩
  rcases atAs.opened with
    ⟨asWord, fourth, final, spellsAs, codeAs, -, trailerAs, -⟩
  rcases final.last with ⟨_, rfl, last⟩
  refine
    ⟨create, materialized, view, asWord, first, gap, second, third, fourth,
      spellsCreate, spellsKind, spellsView, spellsAs, ?_⟩
  refine code.trans ?_
  rw [codeKind, codeView, codeName, codeAs, last, trailerAs, trailerName,
    trailerView, trailerKind, trailer, creationRest]

/-- The text behind the keywords of the creation of a view. -/
theorem afterKeywords_view {create materialized view rest : List Char}
    {first gap : Gap} (spellsCreate : Spells create "CREATE")
    (spellsKind : Spells materialized "MATERIALIZED")
    (spellsView : Spells view "VIEW") (stops : Stops (!isWhitespace ·) rest) :
    afterKeywords
        (create ++ (first.text ++ (materialized ++ (gap.text ++ (view ++ rest)))))
        ["CREATE", "MATERIALIZED", "VIEW"] =
      some rest := by
  rw [afterKeywords_creation spellsCreate spellsKind (gap.stops _) (by decide),
    if_pos rfl, afterKeywords, afterKeyword_append gap.blank spellsView stops]
  rfl

theorem Layout.createView_chosen :
    chosenHandler layout.code =
      if True then some .createMaterializedView else none := by
  rcases layout.createView_code with
    ⟨create, materialized, view, asWord, first, gap, second, third, fourth,
      spellsCreate, spellsKind, spellsView, -, code⟩
  have notTable :=
    @afterKeywords_creation _ _ _ first _ spellsCreate spellsKind
      (gap.stops
        (view ++ creationRest second third fourth name.text asWord
          (query.text ++ layout.trailer)))
      "TABLE" [] (by decide)
  have isView :=
    @afterKeywords_view create materialized view
      (creationRest second third fourth name.text asWord
        (query.text ++ layout.trailer))
      first gap spellsCreate spellsKind spellsView (second.stops _)
  have other : ∀ rest : List Char,
      ¬ "WAREHOUSE".toList <+: "MATERIALIZED".toList ++ rest := by
    rintro rest ⟨more, shape⟩
    cases shape
  rw [if_neg (by decide)] at notTable
  rw [code, chosenHandler_creation spellsCreate spellsKind (other _),
    createsTable, notTable, isView]
  rfl

theorem Layout.createView_operands :
    (operands .createMaterializedView layout.code).map Except.toOption =
      creationReads "CREATE MATERIALIZED VIEW"
        (.createMaterializedView (String.ofList name.text)) name.text
        (query.text ++ layout.trailer) := by
  rcases layout.createView_code with
    ⟨create, materialized, view, asWord, first, gap, second, third, fourth,
      spellsCreate, spellsKind, spellsView, spellsAs, code⟩
  have follows :=
    @afterKeywords_view create materialized view
      (creationRest second third fourth name.text asWord
        (query.text ++ layout.trailer))
      first gap spellsCreate spellsKind spellsView (second.stops _)
  rw [operands, code, creationReads, createMaterializedViewOperands_eq follows]
  by_cases isAs : eqIgnoreCase name.text "AS"
  · rcases @clause_of_as_layout name second third fourth asWord
      (query.text ++ layout.trailer) isAs with ⟨behind, found⟩
    have empty : trim second.text = [] := by
      rw [trim, trimStart_of_blank second.blank]
      rfl
    rw [found, if_neg fun both => both.1 isAs]
    simp only [empty, List.isEmpty_nil, if_true]
    rcases Option.isSome_iff_exists.mp
        (validateMaterializationQuery_isSome (trimStart behind)
          "CREATE MATERIALIZED VIEW") with
      ⟨read, valid⟩
    rw [valid]
    cases read <;> rfl
  · have isName :
        trim (second.text ++ (name.text ++ third.text)) = name.text :=
      trim_surrounded second.blank third.blank
        (trimmed_of_named name.isIdentifier.named)
    have notEmpty : name.text.isEmpty = false := by
      rw [List.isEmpty_eq_false_iff]
      exact name.ne_nil
    rw [clause_of_name_layout spellsAs isAs]
    simp only [isName, query.trimStart_append, notEmpty, Bool.false_eq_true,
      if_false, validateOutputTableIdentifier, validateIdentifier,
      isSafe_iff_short name.isIdentifier]
    rcases Option.isSome_iff_exists.mp
        (validateMaterializationQuery_isSome (query.text ++ layout.trailer)
          "CREATE MATERIALIZED VIEW") with
      ⟨read, valid⟩
    rw [valid]
    by_cases short : utf8Len name.text ≤ 128
    · rw [if_pos short, if_pos ⟨isAs, short⟩]
      cases read <;> rfl
    · rw [if_neg short, if_neg fun both => short both.2]
      cases read <;> rfl

/-- A creation of a view is dispatched alike in every layout that ends it. -/
theorem createMaterializedView_sameDispatch :
    SameDispatch layout.text
        (Statement.createMaterializedView name query).documented.text ↔
      (ReadsCreation name.text query.text →
        EndsStatement query.text layout.trailer) := by
  have own :=
    (Statement.createMaterializedView name query).documented.createView_chosen
  have ownTrailer :
      query.text ++
          (Statement.createMaterializedView name query).documented.trailer =
        query.text :=
    List.append_nil _
  have same :=
    @creationReads_iff name query "CREATE MATERIALIZED VIEW"
      (.createMaterializedView (String.ofList name.text)) _
      (fun _ _ same => (Command.createMaterializedView.inj same).2)
      layout.isTrailer
  rw [if_pos trivial] at own
  rw [sameDispatch_iff layout layout.createView_chosen own,
    layout.createView_operands, Layout.createView_operands, ownTrailer, same,
    true_and]

end CreateView

end OpenSnow.Core.Commands
