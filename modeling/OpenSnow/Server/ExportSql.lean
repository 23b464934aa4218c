import OpenSnow.Server.RestValidator
import OpenSnow.Server.WordTexts

/-!
# Validation of exports

An export takes one query.  The validator splits and classifies as the REST
routes do; it also looks at every word outside quotes and comments and refuses
those that change something.
-/

namespace OpenSnow.Server.Rest

open Rust.Text
open Sql
open Server.DemoSql (maxDemoQueryBytes)
open Server.SqlGuardrails (Inert lexLoop textWords wordTexts)

/-! ## Keywords -/

/-- `current` as a keyword, if it is not empty. -/
def pushKeyword (current : List Char) (keywords : List String) : List String :=
  if current.isEmpty then keywords
  else toAsciiUppercase (String.ofList current) :: keywords

/-- The loop of `sql_keywords_outside_literals`. -/
def keywordsLoop (reading : Reading) (current : List Char) :
    List Char → List String
  | [] => pushKeyword current []
  | ch :: rest =>
      let next := reading.next true ch rest
      if reading = .plain then
        if next = .plain ∧ isSqlIdentifierChar ch then
          keywordsLoop next (current ++ [ch]) rest
        else pushKeyword current (keywordsLoop next [] rest)
      else keywordsLoop next current rest

def sqlKeywordsOutsideLiterals (sql : String) : List String :=
  keywordsLoop .plain [] sql.toList

def isExportPostgresMutatingKeyword (keyword : String) : Bool :=
  keyword ∈
    ["CREATE", "ALTER", "REFRESH", "USE", "DROP", "COPY", "INSERT", "UPDATE",
      "DELETE", "MERGE", "TRUNCATE", "GRANT", "REVOKE", "CALL", "SET", "RESET",
      "UNLOAD", "VACUUM", "OPTIMIZE"]

/-! ## Validation -/

/-- The checks of one statement in `validate_export_postgres_sql`. -/
def validateExportStatement (statement : String) : Except String String :=
  if firstKeyword statement ∉ ["SELECT", "WITH", "EXPLAIN"] then
    .error
      ("Postgres export accepts only read-only result-producing SQL " ++
        "(SELECT/WITH/EXPLAIN); got " ++ firstKeyword statement ++ ".")
  else
    match
      (sqlKeywordsOutsideLiterals statement).find?
        isExportPostgresMutatingKeyword
    with
    | some keyword =>
        .error
          ("Postgres export accepts only read-only result-producing SQL; " ++
            "rejected state-changing keyword " ++ keyword ++ ".")
    | none => .ok statement

def validateExportPostgresSql (sql : String) : Except String String :=
  if (trim sql.toList).isEmpty then
    .error "SQL must not be empty. Try: SELECT 1 AS smoke"
  else if maxDemoQueryBytes < sql.utf8ByteSize then
    .error
      ("SQL text is too large for Postgres export (" ++
        toString maxDemoQueryBytes ++ " bytes max). Use a smaller " ++
        "read-only query.")
  else
    match splitSqlStatements sql with
    | [statement] => validateExportStatement statement
    | statements =>
        .error
          ("Postgres export accepts one read-only result-producing SQL " ++
            "statement per request; received " ++
            toString statements.length ++ ".")

/-! ## The words that are looked at -/

theorem pushKeyword_nil (keywords : List String) :
    pushKeyword [] keywords = keywords :=
  rfl

theorem pushKeyword_of_ne {current : List Char} (nonempty : current ≠ [])
    (keywords : List String) :
    pushKeyword current keywords =
      toAsciiUppercase (String.ofList current) :: keywords := by
  rw [pushKeyword, if_neg (by simp [nonempty])]

theorem keywordsLoop_step {ch : Char} {rest : List Char} {reading : Reading}
    (words : ∀ reading, keywordsLoop reading [] rest =
      (wordTexts (lexLoop reading false rest)).map toAsciiUppercase)
    (more : ∀ current, current ≠ [] → keywordsLoop .plain current rest =
      toAsciiUppercase
          (String.ofList
            (current ++ rest.takeWhile SqlGuardrails.isWordChar)) ::
        (wordTexts (lexLoop .plain true rest)).map toAsciiUppercase) :
    keywordsLoop reading [] (ch :: rest) =
      (wordTexts (lexLoop reading false (ch :: rest))).map
        toAsciiUppercase := by
  rw [keywordsLoop, lexLoop]
  by_cases plain : reading = .plain
  · rw [if_pos plain]
    by_cases still : reading.next true ch rest = .plain
    · rw [still]
      by_cases word : SqlGuardrails.isWordChar ch
      · have solid := SqlGuardrails.not_isWhitespace_of_isWordChar word
        rw [if_pos ⟨rfl, word⟩, List.nil_append,
          more [ch] (List.cons_ne_nil ch []), if_pos ⟨plain, rfl⟩,
          if_neg solid, if_pos word, if_neg Bool.false_ne_true,
          SqlGuardrails.wordTexts_cons_word, List.map_cons,
          List.takeWhile_cons_of_pos word]
        rfl
      · rw [if_neg fun inWord => word inWord.2, pushKeyword_nil, words,
          if_pos ⟨plain, rfl⟩]
        split_ifs
        · rfl
        · rw [SqlGuardrails.wordTexts_cons_symbol]
    · rw [if_neg fun inWord => still inWord.1, pushKeyword_nil, words,
        if_neg fun both => still both.2]
  · rw [if_neg plain, words, if_neg fun both => plain both.1]

theorem keywordsLoop_eq (text : List Char) :
    (∀ reading, keywordsLoop reading [] text =
        (wordTexts (lexLoop reading false text)).map toAsciiUppercase) ∧
      ∀ current, current ≠ [] → keywordsLoop .plain current text =
        toAsciiUppercase
            (String.ofList
              (current ++ text.takeWhile SqlGuardrails.isWordChar)) ::
          (wordTexts (lexLoop .plain true text)).map toAsciiUppercase := by
  induction text with
  | nil =>
      refine ⟨fun reading => rfl, fun current nonempty => ?_⟩
      rw [keywordsLoop, pushKeyword_of_ne nonempty, List.takeWhile_nil,
        List.append_nil]
      rfl
  | cons ch rest ih =>
      have words := fun reading => @keywordsLoop_step ch rest reading ih.1 ih.2
      refine ⟨words, fun current nonempty => ?_⟩
      by_cases word : SqlGuardrails.isWordChar ch
      · have ordinary :=
          (SqlGuardrails.ordinary_of_isWordChar word).next true rest
        have solid := SqlGuardrails.not_isWhitespace_of_isWordChar word
        rw [keywordsLoop, if_pos rfl, ordinary, if_pos ⟨rfl, word⟩,
          ih.2 _ (by simp), List.takeWhile_cons_of_pos word, lexLoop, ordinary,
          if_pos ⟨rfl, rfl⟩, if_neg solid, if_pos word, if_pos rfl,
          List.append_assoc, List.singleton_append]
      · have ends : ∀ other ∈ (ch :: rest).head?,
            ¬ SqlGuardrails.isWordChar other := by
          rintro other ⟨⟩
          exact word
        rw [SqlGuardrails.lexLoop_inWord ends, ← words, keywordsLoop,
          keywordsLoop, if_pos rfl, if_neg fun inWord => word inWord.2,
          if_pos rfl, if_neg fun inWord => word inWord.2,
          pushKeyword_of_ne nonempty, pushKeyword_nil,
          List.takeWhile_cons_of_neg word, List.append_nil]

theorem sqlKeywordsOutsideLiterals_eq (sql : String) :
    sqlKeywordsOutsideLiterals sql =
      (textWords sql.toList).map toAsciiUppercase :=
  (keywordsLoop_eq sql.toList).1 .plain

/-! ## The statement of a text -/

theorem inert_of_trim_nil {text : List Char} (empty : (trim text).isEmpty) :
    Inert text := by
  rcases trim_shape text with ⟨before, after, shape, front, back⟩
  rw [List.isEmpty_iff] at empty
  rw [shape, empty, List.nil_append]
  exact SqlGuardrails.inert_of_blank (blank_append.mpr ⟨front, back⟩)

variable {reading : Reading}

theorem inert_of_splitLoop {current text : List Char}
    (none : splitLoop reading current text = []) :
    Inert (current ++ text) := by
  induction text generalizing reading current with
  | nil =>
      rw [splitLoop, keepStatement] at none
      split at none
      · rename_i empty
        rw [List.append_nil]
        exact inert_of_trim_nil empty
      · cases none
  | cons ch rest ih =>
      rw [splitLoop] at none
      split at none
      · rename_i ends
        rw [keepStatement] at none
        split at none
        · rename_i empty
          rw [SqlGuardrails.inert_append, SqlGuardrails.inert_cons]
          exact ⟨inert_of_trim_nil empty, Or.inr ends.2, ih none⟩
        · cases none
      · have later := ih none
        rwa [List.append_assoc, List.singleton_append] at later

/-- No statement ends in a part for the scanner without comments. -/
def Uncut (reading : Reading) : List Char → List Char → Prop
  | [], _ => True
  | ch :: part, rest =>
      ¬ (reading = .plain ∧ ch = ';') ∧
        Uncut (reading.next false ch (part ++ rest)) part rest

/-- A text is cut at its first semicolon outside quotes, if it has one. -/
theorem splitLoop_cut (reading : Reading) (current text : List Char) :
    Uncut reading text [] ∧
        splitLoop reading current text = keepStatement (current ++ text) [] ∨
      ∃ part rest, text = part ++ ';' :: rest ∧
        Uncut reading part (';' :: rest) ∧
        splitLoop reading current text =
          keepStatement (current ++ part) (splitLoop .plain [] rest) := by
  induction text generalizing reading current with
  | nil => exact .inl ⟨trivial, by rw [splitLoop, List.append_nil]⟩
  | cons ch rest ih =>
      by_cases cut : reading = .plain ∧ ch = ';'
      · refine .inr ⟨[], rest, by rw [cut.2]; rfl, trivial, ?_⟩
        rw [splitLoop, if_pos cut, List.append_nil]
      · rw [splitLoop, if_neg cut]
        rcases ih (reading.next false ch rest) (current ++ [ch]) with
          ⟨uncut, whole⟩ | ⟨part, more, rfl, uncut, whole⟩
        · refine .inl ⟨⟨cut, ?_⟩, ?_⟩
          · rwa [List.append_nil]
          · rw [whole, List.append_assoc]
            rfl
        · refine .inr ⟨ch :: part, more, rfl, ⟨cut, uncut⟩, ?_⟩
          rw [whole, List.append_assoc]
          rfl

variable {part rest : List Char}

theorem Uncut.of_blank_append {front : List Char} (blank : Blank front)
    (uncut : Uncut .plain (front ++ part) rest) :
    Uncut .plain part rest := by
  induction front with
  | nil => exact uncut
  | cons ch front ih =>
      rw [blank_cons] at blank
      have later := uncut.2
      rw [(SqlGuardrails.ordinary_of_isWhitespace blank.1).next] at later
      exact ih blank.2 later

theorem Uncut.of_append {part back rest : List Char}
    (uncut : Uncut reading (part ++ back) rest) :
    Uncut reading part (back ++ rest) := by
  induction part generalizing reading with
  | nil => trivial
  | cons ch part ih =>
      refine ⟨uncut.1, ih ?_⟩
      rw [← List.append_assoc]
      exact uncut.2

theorem Uncut.alone (sound : QuotesOnly reading)
    (ends : ∀ other ∈ rest.head?, isWhitespace other ∨ other = ';')
    (uncut : Uncut reading part rest) : Uncut reading part [] := by
  induction part generalizing reading with
  | nil => trivial
  | cons ch part ih =>
      have later := uncut.2
      rw [SqlGuardrails.next_append_inert sound ends] at later
      refine ⟨uncut.1, ?_⟩
      rw [List.append_nil]
      exact ih (sound.next false ch part) later

theorem Uncut.trim
    (ends : ∀ other ∈ rest.head?, isWhitespace other ∨ other = ';')
    (uncut : Uncut .plain part rest) : Uncut .plain (trim part) [] := by
  rcases trim_shape part with ⟨before, after, shape, front, back⟩
  rw [shape] at uncut
  refine Uncut.alone trivial ?_ (uncut.of_blank_append front).of_append
  intro other isHead
  cases after with
  | nil => exact ends other isHead
  | cons ch after =>
      obtain rfl : ch = other := by simpa using isHead
      exact .inl (back ch List.mem_cons_self)

/-- The one piece that is kept of a part and what follows it. -/
theorem keepStatement_one {part : List Char} {more : List String}
    {statement : String} (one : keepStatement part more = [statement]) :
    (trim part).isEmpty ∧ more = [statement] ∨
      statement.toList = trim part ∧ more = [] := by
  rw [keepStatement] at one
  split at one
  · rename_i empty
    exact .inl ⟨empty, one⟩
  · rw [List.cons.injEq] at one
    rw [← one.1, String.toList_ofList]
    exact .inr ⟨rfl, one.2⟩

/--
Around the one statement of a text stand blanks and semicolons alone, and it is
not cut itself.
-/
theorem surrounded_of_split {text : List Char} {statement : String}
    (one : splitLoop .plain [] text = [statement]) :
    ∃ front tail, text = front ++ (statement.toList ++ tail) ∧
      Inert front ∧ Inert tail ∧ Uncut .plain statement.toList [] := by
  rcases splitLoop_cut .plain [] text with
    ⟨uncut, whole⟩ | ⟨part, rest, shape, uncut, whole⟩
  · rw [whole, List.nil_append] at one
    rcases keepStatement_one one with ⟨-, ⟨⟩⟩ | ⟨same, -⟩
    rcases trim_shape text with ⟨before, after, shape, front, back⟩
    rw [same]
    exact
      ⟨before, after, shape, SqlGuardrails.inert_of_blank front,
        SqlGuardrails.inert_of_blank back, uncut.trim (by simp)⟩
  · rw [whole, List.nil_append] at one
    rcases keepStatement_one one with ⟨empty, later⟩ | ⟨same, none⟩
    · rcases surrounded_of_split later with
        ⟨front, tail, inner, before, after, uncut⟩
      refine ⟨part ++ ';' :: front, tail, ?_, ?_, after, uncut⟩
      · rw [shape, inner]
        simp
      · rw [SqlGuardrails.inert_append, SqlGuardrails.inert_cons]
        exact ⟨inert_of_trim_nil empty, .inr rfl, before⟩
    · rcases trim_shape part with ⟨before, after, inner, front, back⟩
      have inert := inert_of_splitLoop none
      rw [same]
      refine
        ⟨before, after ++ ';' :: rest, ?_, SqlGuardrails.inert_of_blank front,
          ?_, uncut.trim (by simp)⟩
      · rw [shape]
        conv_lhs => rw [inner]
        simp
      · rw [SqlGuardrails.inert_append, SqlGuardrails.inert_cons]
        exact ⟨SqlGuardrails.inert_of_blank back, .inr rfl, inert⟩
termination_by text.length
decreasing_by
  rw [shape, List.length_append, List.length_cons]
  omega

theorem textWords_of_split {sql statement : String}
    (one : splitSqlStatements sql = [statement]) :
    textWords statement.toList = textWords sql.toList := by
  rcases surrounded_of_split one with ⟨front, tail, shape, before, after, -⟩
  rw [shape, SqlGuardrails.textWords_inert_append before,
    SqlGuardrails.textWords_append_inert after]

/-- No word of an exported text changes anything. -/
theorem export_words {sql statement : String}
    (accepted : validateExportPostgresSql sql = .ok statement) :
    ∀ word ∈ textWords sql.toList,
      ¬ isExportPostgresMutatingKeyword (toAsciiUppercase word) := by
  intro word member mutates
  rw [validateExportPostgresSql] at accepted
  split_ifs at accepted
  split at accepted
  · rename_i only one
    rw [validateExportStatement] at accepted
    split_ifs at accepted
    split at accepted
    · cases accepted
    · rename_i none
      rw [sqlKeywordsOutsideLiterals_eq, textWords_of_split one] at none
      exact
        List.find?_eq_none.mp none _ (List.mem_map_of_mem member) mutates
  · cases accepted

end OpenSnow.Server.Rest
