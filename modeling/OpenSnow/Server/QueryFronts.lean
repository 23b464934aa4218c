import OpenSnow.Server.CommandGate
import OpenSnow.Server.ExportSql

/-!
# `EXPLAIN` and `WITH` in front of statements

The guardrails look at the first keyword of a statement, so that behind
`EXPLAIN` or a `WITH` list any text is accepted that is no second statement.
An export is refused for every word that changes something, wherever it stands.
-/

namespace OpenSnow.Server

open Rust.Text
open Server.SqlGuardrails
  (Apart Closed Ordinary cut firstKeyword furtherStatements keepStatement
    scanners splitSqlStatements statementAt textWords)
open Sql

/-! ## Fronts -/

/--
A text that begins with `EXPLAIN` or `WITH`, leaves neither a quote nor a
comment open, ends no statement, and does not end in a word.
-/
structure Front where
  text : List Char
  keyword : firstKeyword (String.ofList text) ∈ ["EXPLAIN", "WITH"]
  closed : ∀ behind, Closed .plain text behind
  settled : ∀ last ∈ text.getLast?, ¬ SqlGuardrails.isWordChar last

namespace Front

/-- The text in front of a statement. -/
def before (front : Front) (sql : String) : String :=
  String.ofList (front.text ++ sql.toList)

/-- The keywords of the statements that can stand behind. -/
def ownKeywords (front : Front) : List String :=
  if firstKeyword (String.ofList front.text) = "WITH" then ["SELECT", "WITH"]
  else demoKeywords

end Front

/-- The verbs that change something, as the guardrails refuse them in front. -/
def changingVerbs : List String :=
  ["INSERT", "UPDATE", "DELETE", "COPY", "DROP", "TRUNCATE"]

/-- The front makes no statement acceptable. -/
structure Front.LaundersNothing (front : Front) (sql : String) : Prop where
  /-- What the guardrails accept behind the front they accept on its own. -/
  own : ∀ accepted,
    SqlGuardrails.validateDemoSql (front.before sql) = .ok accepted →
      ∃ statement, SqlGuardrails.validateDemoSql sql = .ok statement ∧
        firstKeyword statement ∈ front.ownKeywords
  /-- No changing verb stands behind a front that the guardrails accept. -/
  demo : ∀ accepted,
    SqlGuardrails.validateDemoSql (front.before sql) = .ok accepted →
      firstKeyword sql ∉ changingVerbs
  /-- No changing verb stands behind a front that is exported. -/
  exported : ∀ accepted,
    Rest.validateExportPostgresSql (front.before sql) = .ok accepted →
      firstKeyword sql ∉ changingVerbs

/-- A statement that may stand behind the front. -/
def Front.Supports (front : Front) (statement : String) : Prop :=
  if firstKeyword (String.ofList front.text) = "WITH" then
    firstKeyword statement ∈ ["SELECT", "WITH"]
  else scanners.Admits statement

/--
If the text and its front are short enough and the text is not more than one
statement, it is a statement that may stand behind the front.
-/
def Front.Fits (front : Front) (sql : String) : Prop :=
  (front.before sql).utf8ByteSize ≤ DemoSql.maxDemoQueryBytes →
    furtherStatements sql = [] →
      ∃ statement, splitSqlStatements sql = [statement] ∧
        front.Supports statement

/-! ## Statements that are no creations -/

theorem toAsciiUppercase_of_eqIgnoreCase {text : String}
    (same : eqIgnoreAsciiCase text "CREATE") :
    toAsciiUppercase text = "CREATE" := by
  rw [eqIgnoreAsciiCase_iff (by decide)] at same
  rw [toAsciiUppercase, same]
  rfl

variable {sql : String}

theorem firstKeyword_of_head {token : SqlGuardrails.Token}
    {rest : List SqlGuardrails.Token}
    (words : SqlGuardrails.words (SqlGuardrails.lexSql sql) = token :: rest) :
    firstKeyword sql = toAsciiUppercase token.text := by
  rw [firstKeyword, words]

theorem create_of_tokenEq (create :
      SqlGuardrails.tokenEq (SqlGuardrails.lexSql sql)[0]? "CREATE") :
    firstKeyword sql = "CREATE" := by
  cases tokens : SqlGuardrails.lexSql sql with
  | nil =>
      rw [tokens] at create
      cases create
  | cons token rest =>
      rw [tokens, List.getElem?_cons_zero, SqlGuardrails.tokenEq,
        Option.any_some, Bool.and_eq_true, decide_eq_true_iff] at create
      have words : SqlGuardrails.words (SqlGuardrails.lexSql sql) =
          token :: SqlGuardrails.words rest := by
        rw [tokens, SqlGuardrails.words,
          List.filter_cons_of_pos (by simp [create.1])]
        rfl
      rw [firstKeyword_of_head words]
      exact toAsciiUppercase_of_eqIgnoreCase create.2

theorem create_of_sequence {more : List String} (sequence :
      SqlGuardrails.startsWithKeywordSequence sql ("CREATE" :: more)) :
    firstKeyword sql = "CREATE" := by
  rw [SqlGuardrails.startsWithKeywordSequence] at sequence
  cases words : SqlGuardrails.words (SqlGuardrails.lexSql sql) with
  | nil => simp [words] at sequence
  | cons token rest =>
      rw [words, Bool.and_eq_true, List.zip_cons_cons, List.all_cons,
        Bool.and_eq_true] at sequence
      rw [firstKeyword_of_head words]
      exact toAsciiUppercase_of_eqIgnoreCase sequence.2.1

variable {statement : String}

theorem createRelationTarget_none (other : firstKeyword statement ≠ "CREATE") :
    SqlGuardrails.createRelationTarget statement = none := by
  have notCreate :
      SqlGuardrails.tokenEq (SqlGuardrails.lexSql statement)[0]? "CREATE" =
        false := by
    rw [Bool.eq_false_iff]
    intro create
    exact other (create_of_tokenEq create)
  simp [SqlGuardrails.createRelationTarget, notCreate]

theorem createMaterializationQuery_none
    (other : firstKeyword statement ≠ "CREATE") :
    SqlGuardrails.createMaterializationQuery statement = none := by
  rw [SqlGuardrails.createMaterializationQuery, if_neg]
  rw [Bool.or_eq_true]
  rintro (table | view)
  · exact other (create_of_sequence table)
  · exact other (create_of_sequence view)

/-- Statements with one of these keywords are all supported. -/
theorem admits_of_query (query : firstKeyword statement ∈
      ["SELECT", "WITH", "EXPLAIN", "SHOW", "DESCRIBE", "DESC"]) :
    scanners.Admits statement := by
  have other : firstKeyword statement ≠ "CREATE" := by
    intro create
    rw [create] at query
    revert query
    decide
  have supported : SqlGuardrails.isSupportedDemoStatement statement := by
    rw [SqlGuardrails.isSupportedDemoStatement]
    simp only [List.mem_cons, List.not_mem_nil, or_false] at query
    rcases query with same | same | same | same | same | same <;> simp [same]
  constructor
  · intro name named
    have none := createRelationTarget_none other
    change SqlGuardrails.createRelationTarget statement = some name at named
    rw [none] at named
    cases named
  · intro querySql found
    have none := createMaterializationQuery_none other
    change SqlGuardrails.createMaterializationQuery statement =
      some querySql at found
    rw [none] at found
    cases found
  · exact supported

/-! ## What is accepted behind a front -/

theorem firstKeyword_of_words {word : String}
    {more : List String} (words : textWords sql.toList = word :: more) :
    firstKeyword sql = toAsciiUppercase word := by
  rw [SqlGuardrails.firstKeyword_eq, words]
  rfl

theorem words_of_firstKeyword (named : firstKeyword sql ≠ "") :
    ∃ word more, textWords sql.toList = word :: more ∧
      firstKeyword sql = toAsciiUppercase word := by
  cases words : textWords sql.toList with
  | nil =>
      rw [SqlGuardrails.firstKeyword_eq, words] at named
      exact absurd rfl named
  | cons word more => exact ⟨word, more, rfl, firstKeyword_of_words words⟩

namespace Front

variable (front : Front) (sql : String)

theorem words : ∃ word more, textWords front.text = word :: more ∧
    firstKeyword (String.ofList front.text) = toAsciiUppercase word := by
  have named : firstKeyword (String.ofList front.text) ≠ "" := by
    intro empty
    have keyword := front.keyword
    rw [empty] at keyword
    revert keyword
    decide
  rcases words_of_firstKeyword named with ⟨word, more, words, same⟩
  rw [String.toList_ofList] at words
  exact ⟨word, more, words, same⟩

theorem textWords_append (text : List Char) :
    textWords (front.text ++ text) =
      textWords front.text ++ textWords text := by
  apply SqlGuardrails.textWords_closed (front.closed text) (front.closed [])
  intro last isLast word
  exact absurd word (front.settled last isLast)

/-- The front stays with the first statement. -/
theorem splitSqlStatements_before :
    ∃ statement,
      splitSqlStatements (front.before sql) =
          statement :: furtherStatements sql ∧
        firstKeyword statement = firstKeyword (String.ofList front.text) := by
  have split : splitSqlStatements (front.before sql) =
      keepStatement (statementAt front.text (cut .plain sql.toList))
        (furtherStatements sql) := by
    rw [splitSqlStatements, before, String.toList_ofList,
      SqlGuardrails.splitLoop_closed (front.closed _), List.nil_append,
      SqlGuardrails.splitLoop_cut]
    rfl
  rcases front.words with ⟨word, more, words, keyword⟩
  generalize cut .plain sql.toList = found at split
  have whole : textWords (statementAt front.text found) =
      word :: (more ++ textWords found.1) := by
    rw [SqlGuardrails.textWords_statementAt, front.textWords_append, words,
      List.cons_append]
  have kept : ¬ ((statementAt front.text found).isEmpty ||
      (SqlGuardrails.lexSql
        (String.ofList (statementAt front.text found))).isEmpty) := by
    rw [Bool.or_eq_true, List.isEmpty_iff, List.isEmpty_iff,
      SqlGuardrails.lexSql, String.toList_ofList]
    rintro (empty | empty)
    · rw [empty] at whole
      cases whole
    · rw [textWords, empty] at whole
      cases whole
  rw [keepStatement, if_neg kept] at split
  refine ⟨_, split, ?_⟩
  rw [keyword]
  apply firstKeyword_of_words
  rw [String.toList_ofList]
  exact whole

theorem trim_before_ne_nil : trim (front.before sql).toList ≠ [] := by
  intro empty
  rcases front.words with ⟨word, more, words, -⟩
  have none := SqlGuardrails.textWords_trim (front.before sql).toList
  rw [empty, before, String.toList_ofList, front.textWords_append, words]
    at none
  cases none

/-- Behind a front everything is accepted that is no second statement. -/
theorem accepted_before_iff :
    (∃ accepted,
        SqlGuardrails.validateDemoSql (front.before sql) = .ok accepted) ↔
      (front.before sql).utf8ByteSize ≤ DemoSql.maxDemoQueryBytes ∧
        furtherStatements sql = [] := by
  rcases front.splitSqlStatements_before sql with ⟨statement, split, keyword⟩
  constructor
  · rintro ⟨accepted, ok⟩
    rcases DemoSql.Scanners.validateDemoSql_ok_iff.mp ok with
      ⟨limits, one, -⟩
    change splitSqlStatements _ = _ at one
    rw [split, List.cons.injEq] at one
    exact ⟨limits.2, one.2⟩
  · rintro ⟨small, alone⟩
    rw [alone] at split
    have query : ["EXPLAIN", "WITH"] ⊆
        ["SELECT", "WITH", "EXPLAIN", "SHOW", "DESCRIBE", "DESC"] := by
      decide
    refine
      ⟨statement,
        DemoSql.Scanners.validateDemoSql_ok_iff.mpr
          ⟨⟨front.trim_before_ne_nil sql, small⟩, split, ?_⟩⟩
    apply admits_of_query
    rw [keyword]
    exact query front.keyword

theorem size_le_before :
    sql.utf8ByteSize ≤ (front.before sql).utf8ByteSize := by
  have own := utf8ByteSize_ofList sql.toList
  rw [String.ofList_toList] at own
  rw [own, before, utf8ByteSize_ofList, utf8Len_append]
  omega

variable {front sql}

variable {statement : String}

theorem Supports.admits
    (supports : front.Supports statement) : scanners.Admits statement := by
  rw [Supports] at supports
  split at supports
  · apply admits_of_query
    have query : ["SELECT", "WITH"] ⊆
        ["SELECT", "WITH", "EXPLAIN", "SHOW", "DESCRIBE", "DESC"] := by
      decide
    exact query supports
  · exact supports

theorem Supports.own (supports : front.Supports statement) :
    firstKeyword statement ∈ front.ownKeywords := by
  rw [ownKeywords]
  rw [Supports] at supports
  split
  · rename_i withList
    rwa [if_pos withList] at supports
  · rename_i explain
    rw [if_neg explain] at supports
    exact guarded_firstKeyword supports.supported

theorem supports_of_own (admits : scanners.Admits statement)
    (own : firstKeyword statement ∈ front.ownKeywords) :
    front.Supports statement := by
  rw [Supports]
  split
  · rename_i withList
    rwa [ownKeywords, if_pos withList] at own
  · exact admits

theorem ownKeywords_subset : front.ownKeywords ⊆ demoKeywords := by
  have query : ["SELECT", "WITH"] ⊆ demoKeywords := by decide
  rw [ownKeywords]
  split
  · exact query
  · exact List.Subset.refl _

/-- A supported statement behind the front is accepted on its own. -/
theorem validateDemoSql_of_supports
    (small : (front.before sql).utf8ByteSize ≤ DemoSql.maxDemoQueryBytes)
    (one : splitSqlStatements sql = [statement])
    (supports : front.Supports statement) :
    SqlGuardrails.validateDemoSql sql = .ok statement := by
  have named : firstKeyword sql ≠ "" := by
    rw [SqlGuardrails.firstKeyword_of_split one]
    intro empty
    have known := ownKeywords_subset supports.own
    rw [empty] at known
    revert known
    decide
  have solid : trim sql.toList ≠ [] := by
    intro empty
    rcases words_of_firstKeyword named with ⟨word, more, words, -⟩
    rw [← SqlGuardrails.textWords_trim, empty] at words
    cases words
  exact
    DemoSql.Scanners.validateDemoSql_ok_iff.mpr
      ⟨⟨solid, (front.size_le_before sql).trans small⟩, one, supports.admits⟩

/-- A text behind a front that is exported begins with no changing verb. -/
theorem exported_verb {accepted : String}
    (ok : Rest.validateExportPostgresSql (front.before sql) = .ok accepted) :
    firstKeyword sql ∉ changingVerbs := by
  intro changes
  have named : firstKeyword sql ≠ "" := by
    intro empty
    rw [empty] at changes
    revert changes
    decide
  rcases words_of_firstKeyword named with ⟨word, more, words, same⟩
  have member : word ∈ textWords (front.before sql).toList := by
    rw [before, String.toList_ofList, front.textWords_append, words]
    exact List.mem_append_right _ List.mem_cons_self
  have mutates : ∀ verb ∈ changingVerbs,
      Rest.isExportPostgresMutatingKeyword verb := by
    decide
  rw [same] at changes
  exact Rest.export_words ok word member (mutates _ changes)

end Front

/--
A front launders nothing exactly if what stands behind it is a statement that
the guardrails support on its own: they accept everything else just as well,
as long as it is no second statement.
-/
theorem laundersNothing_iff (front : Front) (sql : String) :
    front.LaundersNothing sql ↔ front.Fits sql := by
  constructor
  · intro launders small alone
    rcases (front.accepted_before_iff sql).mpr ⟨small, alone⟩ with
      ⟨accepted, ok⟩
    rcases launders.own accepted ok with ⟨statement, own, keyword⟩
    rcases DemoSql.Scanners.validateDemoSql_ok_iff.mp own with
      ⟨-, one, admits⟩
    exact ⟨statement, one, Front.supports_of_own admits keyword⟩
  · intro fits
    have supported : ∀ accepted,
        SqlGuardrails.validateDemoSql (front.before sql) = .ok accepted →
          ∃ statement, SqlGuardrails.validateDemoSql sql = .ok statement ∧
            splitSqlStatements sql = [statement] ∧
              front.Supports statement := by
      intro accepted ok
      rcases (front.accepted_before_iff sql).mp ⟨accepted, ok⟩ with
        ⟨small, alone⟩
      rcases fits small alone with ⟨statement, one, supports⟩
      exact
        ⟨statement, Front.validateDemoSql_of_supports small one supports, one,
          supports⟩
    constructor
    · intro accepted ok
      rcases supported accepted ok with ⟨statement, own, -, supports⟩
      exact ⟨statement, own, supports.own⟩
    · intro accepted ok
      rcases supported accepted ok with ⟨statement, -, one, supports⟩
      rw [SqlGuardrails.firstKeyword_of_split one]
      intro changes
      have others : ∀ keyword ∈ demoKeywords, keyword ∉ changingVerbs := by
        decide
      exact others _ (Front.ownKeywords_subset supports.own) changes
    · intro accepted ok
      exact Front.exported_verb ok

/-! ## Fronts as they are written -/

theorem closed_of_ordinary {text : List Char}
    (ordinary : ∀ ch ∈ text, Ordinary ch ∧ ch ≠ ';') (behind : List Char) :
    Closed .plain text behind := by
  induction text with
  | nil => rfl
  | cons ch rest ih =>
      rw [List.forall_mem_cons] at ordinary
      refine ⟨fun ends => ordinary.1.2 ends.2, ?_⟩
      rw [ordinary.1.1.next]
      exact ih ordinary.2

theorem closed_append {reading : Reading} {front back behind : List Char}
    (first : Closed reading front (back ++ behind))
    (second : Closed .plain back behind) :
    Closed reading (front ++ back) behind := by
  induction front generalizing reading with
  | nil =>
      have plain : reading = .plain := first
      rw [plain]
      exact second
  | cons ch rest ih =>
      have later : Closed reading (ch :: (rest ++ back)) behind := by
        refine ⟨first.1, ?_⟩
        rw [List.append_assoc]
        exact ih first.2
      exact later

/-- Of the text behind only the first character is looked at. -/
theorem closed_of_head {reading : Reading} {text behind other : List Char}
    (closed : Closed reading text behind)
    (heads : behind.head? = other.head?) : Closed reading text other := by
  induction text generalizing reading with
  | nil => exact closed
  | cons ch rest ih =>
      refine ⟨closed.1, ?_⟩
      have same : reading.next true ch (rest ++ other) =
          reading.next true ch (rest ++ behind) := by
        cases rest with
        | cons next rest => rfl
        | nil => simp only [List.nil_append, Reading.next, heads]
      rw [same]
      exact ih closed.2

theorem ordinary_of_all {text : List Char}
    (all : text.all (fun ch => decide (Ordinary ch ∧ ch ≠ ';')) = true) :
    ∀ ch ∈ text, Ordinary ch ∧ ch ≠ ';' :=
  fun ch member => of_decide_eq_true (List.all_eq_true.mp all ch member)

/-- `EXPLAIN`, and `ANALYZE` and `VERBOSE` where they are asked for. -/
def explainFront (analyze verbose : Bool) : Front where
  text :=
    "EXPLAIN ".toList ++ (if analyze then "ANALYZE ".toList else []) ++
      if verbose then "VERBOSE ".toList else []
  keyword := by
    cases analyze <;> cases verbose <;> decide
  closed := by
    apply closed_of_ordinary
    apply ordinary_of_all
    cases analyze <;> cases verbose <;> decide
  settled := by
    intro last isLast
    have isEnd : last = ' ' := by
      cases analyze <;> cases verbose <;> exact (Option.some.inj isLast).symm
    rw [isEnd]
    decide

/-- A `WITH` list of one name, whose query leaves nothing open. -/
def withFront (name query : List Char)
    (isWord : ∀ ch ∈ name, SqlGuardrails.isWordChar ch)
    (closed : Closed .plain query [')']) : Front where
  text := "WITH ".toList ++ (name ++ (" AS (".toList ++ (query ++ [')'])))
  keyword := by
    have isWordText :
        ∀ ch ∈ "WITH".toList, SqlGuardrails.isWordChar ch = true :=
      List.all_eq_true.mp (by decide)
    have spelled := @SqlGuardrails.lexLoop_word "WITH".toList
      (' ' :: (name ++ (" AS (".toList ++ (query ++ [')'])))) (by decide)
      isWordText (by rintro ch ⟨⟩; decide)
    have upper : toAsciiUppercase (String.ofList "WITH".toList) = "WITH" := by
      decide
    have with_ : firstKeyword
        (String.ofList
          ("WITH".toList ++
            ' ' :: (name ++ (" AS (".toList ++ (query ++ [')']))))) =
        "WITH" := by
      rw [firstKeyword, SqlGuardrails.lexSql, String.toList_ofList, spelled,
        SqlGuardrails.words_cons_word]
      exact upper
    exact List.mem_cons_of_mem _ (List.mem_singleton.mpr with_)
  closed := by
    intro behind
    have blank : ∀ ch ∈ "WITH ".toList, Ordinary ch ∧ ch ≠ ';' :=
      ordinary_of_all (by decide)
    have list : ∀ ch ∈ " AS (".toList, Ordinary ch ∧ ch ≠ ';' :=
      ordinary_of_all (by decide)
    have named : ∀ ch ∈ name, Ordinary ch ∧ ch ≠ ';' := by
      intro ch member
      refine ⟨SqlGuardrails.ordinary_of_isWordChar (isWord ch member), ?_⟩
      rintro rfl
      exact absurd (isWord ';' member) (by decide)
    have inner : Closed .plain query ([')'] ++ behind) :=
      closed_of_head closed rfl
    have ending : Closed .plain [')'] behind :=
      closed_of_ordinary (ordinary_of_all (by decide)) behind
    exact
      closed_append (closed_of_ordinary blank _)
        (closed_append (closed_of_ordinary named _)
          (closed_append (closed_of_ordinary list _)
            (closed_append inner ending)))
  settled := by
    intro last isLast
    simp only [← List.append_assoc, List.getLast?_concat] at isLast
    rw [← Option.some.inj isLast]
    decide

/-- Fronts can stand in front of fronts. -/
def Front.append (front inner : Front) : Front where
  text := front.text ++ inner.text
  keyword := by
    rcases front.words with ⟨word, more, words, keyword⟩
    have whole := front.textWords_append inner.text
    rw [words, List.cons_append] at whole
    rw [← @String.toList_ofList (front.text ++ inner.text)] at whole
    rw [firstKeyword_of_words whole, ← keyword]
    exact front.keyword
  closed behind := closed_append (front.closed _) (inner.closed behind)
  settled := by
    intro last isLast
    rcases inner.words with ⟨word, more, words, -⟩
    have nonempty : inner.text ≠ [] := by
      intro empty
      rw [empty] at words
      cases words
    rw [List.getLast?_append_of_ne_nil _ nonempty] at isLast
    exact inner.settled last isLast

/-! ## What is laundered -/

/-- An `INSERT` that is refused is accepted behind `EXPLAIN ANALYZE`. -/
theorem insert_laundered :
    ¬ ∀ (front : Front) (sql : String), front.LaundersNothing sql := by
  intro launders
  have accepted :
      SqlGuardrails.validateDemoSql
          ((explainFront true false).before "INSERT INTO t SELECT 1") =
        .ok "EXPLAIN ANALYZE INSERT INTO t SELECT 1" := by
    decide
  have changes : firstKeyword "INSERT INTO t SELECT 1" ∈ changingVerbs := by
    decide
  exact (launders (explainFront true false) _).demo _ accepted changes

end OpenSnow.Server
