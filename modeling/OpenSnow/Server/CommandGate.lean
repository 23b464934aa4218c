import OpenSnow.Core.Walks
import OpenSnow.Server.GuardLexer
import OpenSnow.Server.RestValidator

/-!
# The validators in front of the command handlers

The validators look for the first keyword of a statement with scanners of their
own; the engine strips comments in another way and compares the upper-case
text.  A statement that begins with `COPY` or `DROP` for the engine begins with
it for both validators, and neither supports it.
-/

namespace OpenSnow.Server

open Core.Commands
open Rust.Text
open Sql

/-! ## The first word that the engine compares -/

/-- A word in ASCII, in upper case, that stands at the start of a text. -/
def BeginsWith (text : List Char) (word : List Char) : Prop :=
  ∃ front ch rest, text = front ++ ch :: rest ∧
    front.map Char.toUpper = word ∧ isWhitespace ch

theorem beginsWith_of_upperChars {text word : List Char}
    (spelled : AsciiSpelled (word ++ [' ']))
    (begins : word ++ [' '] <+: upperChars text) : BeginsWith text word := by
  rcases exists_spelling spelled begins with ⟨front, rest, rfl, upper, -⟩
  rcases List.map_eq_append_iff.mp upper with ⟨inner, last, rfl, same, blank⟩
  rcases List.map_eq_singleton_iff.mp blank with ⟨ch, rfl, isBlank⟩
  rw [(toUpper_eq_iff (by decide)).mp isBlank]
  exact ⟨inner, ' ', rest, by simp, same, rfl⟩

/-- The handlers that load or drop without a query. -/
def Unguarded (handler : Handler) : Prop :=
  handler = .copyInto ∨ handler = .dropTable ∨ handler = .dropMaterializedView

variable {handler : Handler}

theorem beginsWith_of_unguarded {text : List Char}
    (chosen : chosenHandler text = some handler)
    (unguarded : Unguarded handler) :
    BeginsWith text "COPY".toList ∨ BeginsWith text "DROP".toList := by
  have row := firstHolding_mem chosen
  have copy : ∀ start : String, "COPY ".toList <+: start.toList →
      hasPrefix (upperChars text) start →
        BeginsWith text "COPY".toList := by
    intro start longer begins
    apply beginsWith_of_upperChars (by decide)
    exact longer.trans (List.isPrefixOf_iff_prefix.mp begins)
  have drop : ∀ start : String, "DROP ".toList <+: start.toList →
      hasPrefix (upperChars text) start →
        BeginsWith text "DROP".toList := by
    intro start longer begins
    apply beginsWith_of_upperChars (by decide)
    exact longer.trans (List.isPrefixOf_iff_prefix.mp begins)
  rcases unguarded with rfl | rfl | rfl
  · left
    simp only [branches, List.mem_cons, Prod.mk.injEq, reduceCtorEq, and_false,
      false_or, or_false, and_true, List.not_mem_nil] at row
    rcases Bool.or_eq_true_iff.mp row.symm with into | other
    · exact copy "COPY INTO" (by decide) into
    · exact copy "COPY " (by decide) other
  · right
    simp only [branches, List.mem_cons, Prod.mk.injEq, reduceCtorEq, and_false,
      false_or, or_false, and_true, List.not_mem_nil] at row
    exact drop "DROP TABLE " (by decide) row.symm
  · right
    simp only [branches, List.mem_cons, Prod.mk.injEq, reduceCtorEq, and_false,
      false_or, or_false, and_true, List.not_mem_nil] at row
    exact drop "DROP MATERIALIZED VIEW" (by decide) row.symm

/-! ## The first word that the validators look for -/

/-- The first keywords of the statements that the validators can support. -/
def demoKeywords : List String :=
  ["SELECT", "WITH", "EXPLAIN", "SHOW", "DESCRIBE", "DESC", "CREATE",
    "REFRESH", "ALTER", "USE"]

variable {sql : String}

theorem guarded_firstKeyword
    (supported : SqlGuardrails.isSupportedDemoStatement sql) :
    SqlGuardrails.firstKeyword sql ∈ demoKeywords := by
  rw [SqlGuardrails.isSupportedDemoStatement] at supported
  split at supported <;> rename_i keyword <;>
    first
    | (rw [keyword]; decide)
    | cases supported

theorem rest_firstKeyword (supported : Rest.isSupportedDemoStatement sql) :
    Rest.firstKeyword sql ∈ demoKeywords := by
  rw [Rest.isSupportedDemoStatement] at supported
  split at supported <;> rename_i keyword <;>
    first
    | (rw [keyword]; decide)
    | cases supported

theorem guarded_firstKeyword_of_beginsWith {word : String}
    (nonempty : word.toList ≠ []) (letters : word.toList.all Char.isAlpha)
    (begins : BeginsWith (stripped sql.toList) word.toList) :
    SqlGuardrails.firstKeyword sql = word := by
  rcases begins with ⟨front, ch, rest, shape, upper, blank⟩
  have isWord : ∀ letter ∈ front, SqlGuardrails.isWordChar letter := by
    intro letter member
    apply SqlGuardrails.isWordChar_of_toUpper
    apply List.all_eq_true.mp letters
    rw [← upper]
    exact List.mem_map_of_mem member
  have frontNonempty : front ≠ [] := by
    rintro rfl
    exact nonempty upper.symm
  have ends : ∀ other ∈ (ch :: rest).head?,
      ¬ SqlGuardrails.isWordChar other := by
    rintro other ⟨⟩ wordChar
    exact SqlGuardrails.not_isWhitespace_of_isWordChar wordChar blank
  have tokens :
      SqlGuardrails.lexSql sql =
        ⟨String.ofList front, .word, front ++ ch :: rest⟩ ::
          SqlGuardrails.lexLoop .plain false (ch :: rest) := by
    rw [SqlGuardrails.lexSql, ← SqlGuardrails.lexLoop_stripped, shape]
    exact SqlGuardrails.lexLoop_word frontNonempty isWord ends
  rw [SqlGuardrails.firstKeyword, tokens, SqlGuardrails.words_cons_word]
  simp only [toAsciiUppercase, String.toList_ofList]
  rw [upper, String.ofList_toList]

/-- The first keyword for REST, in a text whose first character it keeps. -/
theorem rest_firstKeyword_eq {word rest : List Char}
    (shape : trimStart sql.toList = word ++ rest) (nonempty : word ≠ [])
    (solid : ∀ ch ∈ word, ¬ isWhitespace ch ∧ ch ≠ '(')
    (ends : ∀ ch ∈ rest.head?, isWhitespace ch) :
    Rest.firstKeyword sql = String.ofList (word.map Char.toUpper) := by
  have kept : ∀ ch ∈ word, (isWhitespace ch || ch == '(') = false := by
    intro ch member
    simp [solid ch member]
  rw [Rest.firstKeyword]
  simp only [shape]
  have skipped :
      (word ++ rest).dropWhile (fun ch => isWhitespace ch || ch == '(') =
        word ++ rest := by
    cases word with
    | nil => exact absurd rfl nonempty
    | cons ch word =>
        rw [List.cons_append, List.dropWhile_cons_of_neg]
        rw [kept ch List.mem_cons_self]
        exact Bool.false_ne_true
  have taken :
      (word ++ rest).takeWhile (fun ch => !(isWhitespace ch || ch == '(')) =
        word := by
    rw [List.takeWhile_append_of_pos fun ch member => by simp [kept ch member]]
    cases rest with
    | nil => simp
    | cons ch rest => simp [ends ch rfl]
  rw [skipped, taken, toAsciiUppercase, String.toList_ofList]
theorem rest_firstKeyword_head {ch : Char} {rest : List Char}
    (shape : trimStart sql.toList = ch :: rest)
    (solid : ¬ isWhitespace ch ∧ ch ≠ '(') :
    ∃ more, (Rest.firstKeyword sql).toList = ch.toUpper :: more := by
  have kept : (isWhitespace ch || ch == '(') = false := by simp [solid]
  rw [Rest.firstKeyword]
  simp only [shape]
  rw [List.dropWhile_cons_of_neg (by simp [kept]),
    List.takeWhile_cons_of_pos (by simp [kept]), toAsciiUppercase,
    String.toList_ofList, String.toList_ofList, List.map_cons]
  exact ⟨_, rfl⟩
/-- No supported statement begins with a comment. -/
theorem stripped_of_rest_supported
    (supported : Rest.isSupportedDemoStatement sql) :
    stripped sql.toList = trimStart sql.toList := by
  have keyword := rest_firstKeyword supported
  have noMark : ∀ ch rest, trimStart sql.toList = ch :: rest →
      ch ≠ '/' ∧ ch ≠ '-' := by
    intro ch rest shape
    have letters : ∀ word ∈ demoKeywords,
        word.toList.head? ≠ some '/' ∧ word.toList.head? ≠ some '-' := by
      decide
    constructor
    · rintro rfl
      rcases rest_firstKeyword_head shape (by decide) with ⟨more, head⟩
      exact (letters _ keyword).1 (by rw [head]; rfl)
    · rintro rfl
      rcases rest_firstKeyword_head shape (by decide) with ⟨more, head⟩
      exact (letters _ keyword).2 (by rw [head]; rfl)
  apply stripped_of_no_comment
  · intro rest shape
    exact (noMark _ _ shape).1 rfl
  · intro rest shape
    exact (noMark _ _ shape).2 rfl
/-! ## The gate -/
theorem keyword_ne_unguarded {keyword : String}
    (isDemo : keyword ∈ demoKeywords) :
    keyword ≠ "COPY" ∧ keyword ≠ "DROP" := by
  constructor <;> rintro rfl <;> revert isDemo <;> decide
theorem guarded_not_unguarded
    (supported : SqlGuardrails.isSupportedDemoStatement sql)
    (dispatched : handlerOf sql = some (some handler)) :
    ¬ Unguarded handler := by
  intro unguarded
  rw [handlerOf_eq, Option.some.injEq] at dispatched
  have others := keyword_ne_unguarded (guarded_firstKeyword supported)
  rcases beginsWith_of_unguarded dispatched unguarded with copy | drop
  · exact others.1
      (guarded_firstKeyword_of_beginsWith (by decide) (by decide) copy)
  · exact others.2
      (guarded_firstKeyword_of_beginsWith (by decide) (by decide) drop)
theorem rest_not_unguarded (supported : Rest.isSupportedDemoStatement sql)
    (dispatched : handlerOf sql = some (some handler)) :
    ¬ Unguarded handler := by
  intro unguarded
  rw [handlerOf_eq, Option.some.injEq] at dispatched
  have others := keyword_ne_unguarded (rest_firstKeyword supported)
  have begins : ∀ word : String, word.toList ≠ [] →
      word.toList.all Char.isAlpha →
        BeginsWith (stripped sql.toList) word.toList →
          Rest.firstKeyword sql = word := by
    rintro word nonempty letters ⟨front, ch, rest, shape, upper, blank⟩
    rw [stripped_of_rest_supported supported] at shape
    rw [← @String.ofList_toList word, ← upper]
    apply rest_firstKeyword_eq shape
    · rintro rfl
      exact nonempty upper.symm
    · intro letter member
      have wordChar : SqlGuardrails.isWordChar letter := by
        apply SqlGuardrails.isWordChar_of_toUpper
        apply List.all_eq_true.mp letters
        rw [← upper]
        exact List.mem_map_of_mem member
      refine ⟨SqlGuardrails.not_isWhitespace_of_isWordChar wordChar, ?_⟩
      rintro rfl
      revert wordChar
      decide
    · rintro other ⟨⟩
      exact blank
  rcases beginsWith_of_unguarded dispatched unguarded with copy | drop
  · exact others.1 (begins _ (by decide) (by decide) copy)
  · exact others.2 (begins _ (by decide) (by decide) drop)
/--
A text that a validator accepts is not dispatched to `COPY INTO`, `DROP TABLE`
or `DROP MATERIALIZED VIEW`.
-/
theorem validated_not_unguarded {sql statement : String}
    (accepted : SqlGuardrails.validateDemoSql sql = .ok statement ∨
      Rest.validateDemoSql sql = .ok statement) :
    handlerOf statement ≠ some (some .copyInto) ∧
      handlerOf statement ≠ some (some .dropTable) ∧
      handlerOf statement ≠ some (some .dropMaterializedView) := by
  have guarded : ∀ handler, handlerOf statement = some (some handler) →
      ¬ Unguarded handler := by
    intro handler dispatched
    rcases accepted with accepted | accepted
    · rw [SqlGuardrails.validateDemoSql,
        DemoSql.Scanners.validateDemoSql_ok_iff] at accepted
      exact guarded_not_unguarded accepted.2.2.supported dispatched
    · rw [Rest.validateDemoSql,
        DemoSql.Scanners.validateDemoSql_ok_iff] at accepted
      have supported := accepted.2.2.supported
      dsimp only [Rest.scanners] at supported
      exact rest_not_unguarded supported dispatched
  exact
    ⟨fun dispatched => guarded .copyInto dispatched (Or.inl rfl),
      fun dispatched => guarded .dropTable dispatched (Or.inr (Or.inl rfl)),
      fun dispatched =>
        guarded .dropMaterializedView dispatched (Or.inr (Or.inr rfl))⟩
/-- The guardrails accept a creation with a comment about `DROP TABLE`. -/
theorem validated_not_unguarded_creation :
    handlerOf "CREATE TABLE t AS SELECT 1 /* DROP TABLE t */" ≠
        some (some .copyInto) ∧
      handlerOf "CREATE TABLE t AS SELECT 1 /* DROP TABLE t */" ≠
        some (some .dropTable) ∧
      handlerOf "CREATE TABLE t AS SELECT 1 /* DROP TABLE t */" ≠
        some (some .dropMaterializedView) := by
  apply @validated_not_unguarded
    " CREATE TABLE t AS SELECT 1 /* DROP TABLE t */;"
  left
  decide
end OpenSnow.Server