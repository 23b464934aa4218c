import OpenSnow.Core.Targets
import OpenSnow.Server.GuardLexer

/-!
# The target that the guardrails check

The guardrails take the target of a creation and the start of its query from
tokens without quoted texts and comments.  The engine takes both from the text
around the first `AS` outside quotes.  The two agree on a statement exactly when
a single identifier stands between the first keywords and that `AS`.
-/

namespace OpenSnow.Server

open Core.Commands
open Foundation
open Rust.Text
open Sql
open Server.SqlGuardrails (tokenEq lexLoop words)

/-! ## Agreement -/

/-- The first keywords of a creation that materializes a query. -/
def headerKeywords : Handler → List String
  | .ctas => ["CREATE", "TABLE"]
  | .createMaterializedView => ["CREATE", "MATERIALIZED", "VIEW"]
  | _ => []

/-- The handlers that create something from a query. -/
def Materializes (handler : Handler) : Prop :=
  handler = .ctas ∨ handler = .createMaterializedView

/--
The name and the query that the engine cuts out of a statement are those that
the guardrails looked at.
-/
def CreationAgrees (statement : String) : Prop :=
  ∀ handler, handlerOf statement = some (some handler) →
    Materializes handler →
      ∀ name query,
        creationTexts (stripped statement.toList) (headerKeywords handler) =
            some (some (name, query)) →
          SqlGuardrails.createRelationTarget statement =
              some (String.ofList name) ∧
            SqlGuardrails.createMaterializationQuery statement =
              some (String.ofList query)

/--
In a statement with an `AS` outside quotes, an identifier by itself stands
between the first keywords and that `AS`.
-/
def TargetStandsAlone (statement : String) : Prop :=
  ∀ handler, handlerOf statement = some (some handler) →
    Materializes handler →
      ∀ rest,
        afterKeywords (stripped statement.toList) (headerKeywords handler) =
            some rest →
          (asClause .plain none rest).isSome →
            ∃ name behind, NamesTarget rest name behind

/-! ## Tokens of a creation -/

theorem eqIgnoreAsciiCase_congr {text word : String}
    (same : eqIgnoreAsciiCase text word) (other : String) :
    eqIgnoreAsciiCase text other = eqIgnoreAsciiCase word other := by
  rw [eqIgnoreAsciiCase, beq_iff_eq] at same
  rw [eqIgnoreAsciiCase, eqIgnoreAsciiCase, same]

theorem eqIgnoreAsciiCase_ofList (text : List Char) (word : String) :
    eqIgnoreAsciiCase (String.ofList text) word = eqIgnoreCase text word := by
  rw [eqIgnoreAsciiCase, eqIgnoreCase, toAsciiLowercase, toAsciiLowercase,
    String.toList_ofList, Bool.eq_iff_iff, beq_iff_eq, beq_iff_eq,
    String.ofList_inj]

@[simp]
theorem tokenEq_word (text : String) (onwards : List Char)
    (expected : String) :
    tokenEq (some ⟨text, .word, onwards⟩) expected =
      eqIgnoreAsciiCase text expected := by
  simp [tokenEq]

/-- A token that is a keyword. -/
def IsKeyword (token : SqlGuardrails.Token) (keyword : String) : Prop :=
  token.kind = .word ∧ eqIgnoreAsciiCase token.text keyword

theorem tokenEq_isKeyword {token : SqlGuardrails.Token} {keyword : String}
    (isKeyword : IsKeyword token keyword) (expected : String) :
    tokenEq (some token) expected = eqIgnoreAsciiCase keyword expected := by
  rw [tokenEq, Option.any_some, isKeyword.1, decide_eq_true rfl,
    Bool.true_and, eqIgnoreAsciiCase_congr isKeyword.2]

theorem tokenEq_of_isKeyword {token : SqlGuardrails.Token} {keyword : String}
    (isKeyword : IsKeyword token keyword) :
    tokenEq (some token) keyword = true := by
  rw [tokenEq_isKeyword isKeyword, eqIgnoreAsciiCase, beq_self_eq_true]

theorem lexLoop_afterKeyword {text rest : List Char} {expected : String}
    (nonempty : expected.toList ≠ [])
    (letters : expected.toList.all Char.isAlpha)
    (follows : afterKeyword text expected = some rest) :
    ∃ token, IsKeyword token expected ∧
      lexLoop .plain false text = token :: lexLoop .plain false rest := by
  simp only [afterKeyword] at follows
  split at follows
  · rename_i same
    rw [Option.some.injEq] at follows
    let token := (trimStart text).takeWhile (!isWhitespace ·)
    have shape : trimStart text = token ++ rest := by
      rw [← follows]
      exact List.takeWhile_append_dropWhile.symm
    have spelled : token.map Char.toLower = expected.toList.map Char.toLower :=
      eq_of_beq same
    have isWord : ∀ ch ∈ token, SqlGuardrails.isWordChar ch := by
      intro ch member
      have lower : ch.toLower ∈ token.map Char.toLower :=
        List.mem_map_of_mem member
      rw [spelled] at lower
      rcases List.mem_map.mp lower with ⟨letter, isLetter, sameLower⟩
      apply SqlGuardrails.isWordChar_of_toUpper
      rw [Char.isAlpha_toUpper_eq_isAlpha, ← Char.isAlpha_toLower_eq_isAlpha,
        ← sameLower, Char.isAlpha_toLower_eq_isAlpha]
      exact List.all_eq_true.mp letters letter isLetter
    have tokenNonempty : token ≠ [] := by
      intro empty
      rw [empty] at spelled
      exact nonempty (List.map_eq_nil_iff.mp spelled.symm)
    have ends : ∀ ch ∈ rest.head?, ¬ SqlGuardrails.isWordChar ch := by
      intro ch isHead wordChar
      have stops : Stops (!isWhitespace ·) rest := by
        rw [← follows]
        exact stops_dropWhile _
      have blank : (!isWhitespace ch) = false := stops ch isHead
      rw [not_isWhitespace_of_alphanum wordChar] at blank
      cases blank
    refine ⟨⟨String.ofList token, .word, token ++ rest⟩, ⟨rfl, ?_⟩, ?_⟩
    · rw [eqIgnoreAsciiCase_ofList]
      exact same
    · rw [← SqlGuardrails.lexLoop_trimStart, shape]
      exact SqlGuardrails.lexLoop_word tokenNonempty isWord ends
  · cases follows

variable {keywords : List String}

/-- Keywords that a text begins with are its first tokens. -/
theorem lexLoop_afterKeywords {text rest : List Char}
    (letters : ∀ keyword ∈ keywords, keyword.toList ≠ [] ∧
      keyword.toList.all Char.isAlpha)
    (follows : afterKeywords text keywords = some rest) :
    ∃ header, List.Forall₂ IsKeyword header keywords ∧
      lexLoop .plain false text = header ++ lexLoop .plain false rest := by
  induction keywords generalizing text with
  | nil =>
      rw [afterKeywords, Option.some.injEq] at follows
      exact ⟨[], .nil, by rw [follows]; rfl⟩
  | cons keyword more ih =>
      rcases Option.bind_eq_some_iff.mp follows with ⟨next, first, later⟩
      have here := letters keyword List.mem_cons_self
      rcases lexLoop_afterKeyword here.1 here.2 first with
        ⟨token, isKeyword, tokens⟩
      rcases ih (fun other member => letters other (List.mem_cons_of_mem _ member))
          later with
        ⟨header, areKeywords, others⟩
      exact
        ⟨token :: header, .cons isKeyword areKeywords,
          by rw [tokens, others]; rfl⟩

/-- The tokens behind the first keywords of a creation with a plain target. -/
theorem lexLoop_namesTarget {rest name behind : List Char}
    (target : NamesTarget rest name behind) :
    ∃ onwards asText,
      lexLoop .plain false rest =
        ⟨String.ofList name, .word, onwards⟩ ::
          ⟨String.ofList asText, .word, asText ++ behind⟩ ::
            lexLoop .plain false behind ∧
        onwards.takeWhile (!isWhitespace ·) = name ∧
        eqIgnoreCase asText "AS" := by
  rcases target.parts with
    ⟨before, between, first, second, rfl, beforeNonempty, blankBefore,
      betweenNonempty, blankBetween, isA, isS⟩
  rcases isSafe_named target.identifier with ⟨nonempty, named⟩
  have isAs : eqIgnoreCase [first, second] "AS" := by
    rcases isA with rfl | rfl <;> rcases isS with rfl | rfl <;> decide
  have isWord : ∀ ch ∈ [first, second], SqlGuardrails.isWordChar ch := by
    apply List.all_eq_true.mp
    rcases isA with rfl | rfl <;> rcases isS with rfl | rfl <;> decide
  have nameEnds : ∀ ch ∈ (between ++ first :: second :: behind).head?,
      ¬ SqlGuardrails.isWordChar ch := by
    intro ch isHead
    rw [Bool.not_eq_true]
    exact stops_blank betweenNonempty blankBetween ch isHead
  have asEnds : ∀ ch ∈ behind.head?, ¬ SqlGuardrails.isWordChar ch := by
    intro ch isHead
    rw [Bool.not_eq_true]
    exact target.ends ch isHead
  refine
    ⟨name ++ (between ++ first :: second :: behind), [first, second], ?_, ?_,
      isAs⟩
  · have asToken :=
      SqlGuardrails.lexLoop_word (List.cons_ne_nil first [second]) isWord asEnds
    rw [List.cons_append, List.cons_append, List.nil_append] at asToken
    rw [SqlGuardrails.lexLoop_blanks blankBefore,
      SqlGuardrails.lexLoop_word nonempty named nameEnds,
      SqlGuardrails.lexLoop_blanks blankBetween, asToken]
    rfl
  · apply takeWhile_span
    · intro ch member
      rw [not_isWhitespace_of_alphanum (named ch member)]
      rfl
    · cases between with
      | nil => exact absurd rfl betweenNonempty
      | cons ch between => simp [blankBetween ch List.mem_cons_self]

/-! ## The guardrails on a plain target -/

theorem isValidDemoRelationName_ofList (name : List Char) :
    DemoSql.isValidDemoRelationName (String.ofList name) =
      isSafeUnqualifiedIdentifier name := by
  rw [DemoSql.isValidDemoRelationName, isSafeUnqualifiedIdentifier,
    utf8ByteSize_ofList, String.toList_ofList]
  congr 3
  cases name <;> simp [String.ofList_eq_empty_iff]

/-- The tokens of a creation with a plain target. -/
structure PlainTokens (statement : String) (keywords : List String)
    (name behind : List Char) : Prop where
  notAs : ¬ eqIgnoreCase name "AS"
  tokens : ∃ header onwards asText, List.Forall₂ IsKeyword header keywords ∧
    SqlGuardrails.lexSql statement =
      header ++
        ⟨String.ofList name, .word, onwards⟩ ::
          ⟨String.ofList asText, .word, asText ++ behind⟩ ::
            lexLoop .plain false behind ∧
    onwards.takeWhile (!isWhitespace ·) = name ∧ eqIgnoreCase asText "AS"

variable {statement : String} {handler : Handler}

theorem plainTokens_of_namesTarget {rest name behind : List Char}
    (creates : Materializes handler)
    (follows : afterKeywords (stripped statement.toList)
      (headerKeywords handler) = some rest)
    (target : NamesTarget rest name behind) :
    PlainTokens statement (headerKeywords handler) name behind := by
  have letters : ∀ keyword ∈ headerKeywords handler, keyword.toList ≠ [] ∧
      keyword.toList.all Char.isAlpha := by
    rcases creates with rfl | rfl <;> decide
  rcases lexLoop_afterKeywords letters follows with
    ⟨header, areKeywords, tokens⟩
  rcases lexLoop_namesTarget target with ⟨onwards, asText, others, cut, isAs⟩
  rw [SqlGuardrails.lexLoop_stripped, others] at tokens
  exact ⟨target.notAs, header, onwards, asText, areKeywords, tokens, cut, isAs⟩

theorem createRelationTarget_plain {name behind : List Char}
    (creates : Materializes handler)
    (plain : PlainTokens statement (headerKeywords handler) name behind) :
    SqlGuardrails.createRelationTarget statement =
      some (String.ofList name) := by
  rcases plain.tokens with
    ⟨header, onwards, asText, areKeywords, tokens, cut, isAs⟩
  have notNot : eqIgnoreAsciiCase (String.ofList asText) "NOT" = false := by
    rw [← eqIgnoreAsciiCase_ofList] at isAs
    rw [eqIgnoreAsciiCase_congr isAs]
    decide
  have target : ∀ prefixLen, header.length = prefixLen →
      SqlGuardrails.relationTokenAfterCreatePrefix
          (SqlGuardrails.lexSql statement) prefixLen =
        some (String.ofList name) := by
    rintro prefixLen rfl
    rw [tokens, SqlGuardrails.relationTokenAfterCreatePrefix]
    simp [notNot, SqlGuardrails.relationNameFromTokenStart, cut]
  rw [SqlGuardrails.createRelationTarget]
  rcases creates with rfl | rfl
  · rcases areKeywords with _ | ⟨create, _ | ⟨table, ⟨⟩⟩⟩
    have isTable :
        (tokenEq (SqlGuardrails.lexSql statement)[0]? "CREATE" &&
          tokenEq (SqlGuardrails.lexSql statement)[1]? "TABLE") = true := by
      rw [tokens]
      exact Bool.and_eq_true_iff.mpr
        ⟨tokenEq_of_isKeyword create, tokenEq_of_isKeyword table⟩
    rw [if_pos isTable]
    exact target 2 rfl
  · rcases areKeywords with _ | ⟨create, _ | ⟨materialized, _ | ⟨view, ⟨⟩⟩⟩⟩
    have notTable :
        tokenEq (SqlGuardrails.lexSql statement)[1]? "TABLE" = false := by
      rw [tokens]
      exact (tokenEq_isKeyword materialized "TABLE").trans (by decide)
    have isView :
        (tokenEq (SqlGuardrails.lexSql statement)[0]? "CREATE" &&
          tokenEq (SqlGuardrails.lexSql statement)[1]? "MATERIALIZED" &&
          tokenEq (SqlGuardrails.lexSql statement)[2]? "VIEW") = true := by
      rw [tokens]
      exact Bool.and_eq_true_iff.mpr
        ⟨Bool.and_eq_true_iff.mpr
            ⟨tokenEq_of_isKeyword create, tokenEq_of_isKeyword materialized⟩,
          tokenEq_of_isKeyword view⟩
    rw [notTable, Bool.and_false, if_neg Bool.false_ne_true, if_pos isView]
    exact target 3 rfl

theorem words_append (front back : List SqlGuardrails.Token) :
    words (front ++ back) = words front ++ words back :=
  List.filter_append _ _

theorem words_of_keywords {header : List SqlGuardrails.Token}
    (areKeywords : List.Forall₂ IsKeyword header keywords) :
    words header = header := by
  induction areKeywords with
  | nil => rfl
  | cons isKeyword others ih =>
      rw [words, List.filter_cons, if_pos (by simp [isKeyword.1])]
      exact congrArg _ ih

theorem startsWithKeywordSequence_of_keywords
    {header more : List SqlGuardrails.Token}
    (areKeywords : List.Forall₂ IsKeyword header keywords)
    (tokens : SqlGuardrails.lexSql statement = header ++ more) :
    SqlGuardrails.startsWithKeywordSequence statement keywords := by
  rw [SqlGuardrails.startsWithKeywordSequence, tokens, words_append,
    words_of_keywords areKeywords, Bool.and_eq_true, decide_eq_true_iff]
  constructor
  · rw [← areKeywords.length_eq, List.length_append]
    exact Nat.le_add_right _ _
  · rw [List.all_eq_true]
    clear tokens
    induction areKeywords with
    | nil => simp
    | cons isKeyword others ih =>
        rintro ⟨actual, expected⟩ member
        rcases List.mem_cons.mp member with same | later
        · rw [Prod.mk.injEq] at same
          rw [same.1, same.2]
          exact isKeyword.2
        · exact ih (actual, expected) later

theorem createMaterializationQuery_plain {name behind : List Char}
    (creates : Materializes handler)
    (plain : PlainTokens statement (headerKeywords handler) name behind) :
    SqlGuardrails.createMaterializationQuery statement =
      some (String.ofList (trimStart behind)) := by
  rcases plain.tokens with
    ⟨header, onwards, asText, areKeywords, tokens, cut, isAs⟩
  have creation :
      (SqlGuardrails.startsWithKeywordSequence statement ["CREATE", "TABLE"] ||
        SqlGuardrails.startsWithKeywordSequence statement
          ["CREATE", "MATERIALIZED", "VIEW"]) = true := by
    have starts := startsWithKeywordSequence_of_keywords areKeywords tokens
    rw [Bool.or_eq_true]
    rcases creates with rfl | rfl
    · exact Or.inl starts
    · exact Or.inr starts
  have headerOthers :
      header.find? (fun token => eqIgnoreAsciiCase token.text "AS") = none := by
    rw [List.find?_eq_none]
    intro token member isAsToken
    rcases List.forall₂_iff_get.mp areKeywords with ⟨lengths, same⟩
    rcases List.mem_iff_getElem.mp member with ⟨index, bound, rfl⟩
    have isKeyword := (same index bound (lengths ▸ bound)).2
    rw [List.get_eq_getElem] at isKeyword
    rw [eqIgnoreAsciiCase_congr isKeyword] at isAsToken
    have others : ∀ keyword ∈ headerKeywords handler,
        eqIgnoreAsciiCase keyword "AS" = false := by
      rcases creates with rfl | rfl <;> decide
    rw [others _ (List.get_mem _ _)] at isAsToken
    cases isAsToken
  have found :
      (words (SqlGuardrails.lexSql statement)).find?
          (eqIgnoreAsciiCase ·.text "AS") =
        some ⟨String.ofList asText, .word, asText ++ behind⟩ := by
    rw [tokens, words_append, words_of_keywords areKeywords,
      List.find?_append, headerOthers, Option.none_or,
      SqlGuardrails.words_cons_word, SqlGuardrails.words_cons_word,
      List.find?_cons_of_neg, List.find?_cons_of_pos]
    · rw [eqIgnoreAsciiCase_ofList]
      exact isAs
    · rw [eqIgnoreAsciiCase_ofList]
      exact plain.notAs
  rw [SqlGuardrails.createMaterializationQuery, if_pos creation, found,
    Option.map_some]
  simp

/-! ## Agreement of the two -/

theorem headerKeywords_nonempty
    (creates : Materializes handler) : headerKeywords handler ≠ [] := by
  rcases creates with rfl | rfl <;> exact List.cons_ne_nil _ _

/-- What is cut out lies around the first `AS` behind the keywords. -/
theorem creationTexts_clause {sql name query : List Char}
    (nonempty : keywords ≠ [])
    (cut : creationTexts sql keywords = some (some (name, query))) :
    ∃ rest front behind, afterKeywords sql keywords = some rest ∧
      asClause .plain none rest = some (front, behind) ∧
      name = trim front ∧ query = trimStart behind := by
  cases follows : afterKeywords sql keywords with
  | none =>
      rw [creationTexts, keywordSequenceEnd_eq, follows] at cut
      cases cut
  | some rest =>
      rw [creationTexts_eq follows nonempty, Option.some.injEq] at cut
      rcases Option.map_eq_some_iff.mp cut with ⟨⟨front, behind⟩, clause, same⟩
      rw [Prod.mk.injEq] at same
      exact ⟨rest, front, behind, rfl, clause, same.1.symm, same.2.symm⟩

/--
On a statement that the guardrails accept, the engine cuts out what they checked
exactly if the target stands alone.
-/
theorem creationAgrees_iff {sql statement : String}
    (accepted : SqlGuardrails.validateDemoSql sql = .ok statement) :
    CreationAgrees statement ↔ TargetStandsAlone statement := by
  rw [SqlGuardrails.validateDemoSql,
    DemoSql.Scanners.validateDemoSql_ok_iff] at accepted
  constructor
  · intro agrees handler dispatched creates rest follows found
    rcases Option.isSome_iff_exists.mp found with ⟨⟨front, behind⟩, clause⟩
    have cut :
        creationTexts (stripped statement.toList) (headerKeywords handler) =
          some (some (trim front, trimStart behind)) := by
      rw [creationTexts_eq follows (headerKeywords_nonempty creates), clause]
      rfl
    have target := (agrees handler dispatched creates _ _ cut).1
    have valid := accepted.2.2.target _ target
    rw [isValidDemoRelationName_ofList] at valid
    exact
      ⟨trim front, behind,
        namesTarget_of_clause
          (afterKeywords_head follows (headerKeywords_nonempty creates))
          clause valid⟩
  · intro alone handler dispatched creates name query cut
    rcases creationTexts_clause (headerKeywords_nonempty creates) cut with
      ⟨rest, front, behind, follows, clause, rfl, rfl⟩
    rcases alone handler dispatched creates rest follows (by rw [clause]; rfl)
      with ⟨name, onwards, names⟩
    rcases names.clause with ⟨before, sameClause, isName⟩
    rw [clause, Option.some.injEq, Prod.mk.injEq] at sameClause
    rcases sameClause with ⟨rfl, rfl⟩
    have plain := plainTokens_of_namesTarget creates follows names
    rw [isName]
    exact
      ⟨createRelationTarget_plain creates plain,
        createMaterializationQuery_plain creates plain⟩

/-- A creation with comments in front. -/
theorem creationAgrees_iff_commented :
    CreationAgrees "/* nightly */ CREATE TABLE t AS SELECT 1" ↔
      TargetStandsAlone "/* nightly */ CREATE TABLE t AS SELECT 1" :=
  @creationAgrees_iff "/* nightly */ CREATE TABLE t AS SELECT 1;" _
    (by decide)

/-- `IF NOT EXISTS` is a part of the name for the engine only. -/
theorem ifNotExists_disagrees :
    ¬ ∀ sql statement, SqlGuardrails.validateDemoSql sql = .ok statement →
      CreationAgrees statement := by
  intro agree
  have agrees :=
    agree "CREATE TABLE IF NOT EXISTS t AS SELECT 1"
      "CREATE TABLE IF NOT EXISTS t AS SELECT 1" (by decide) .ctas
      (by decide) (Or.inl rfl) "IF NOT EXISTS t".toList
      "SELECT 1".toList (by decide)
  revert agrees
  decide

end OpenSnow.Server
