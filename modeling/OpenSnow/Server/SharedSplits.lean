import OpenSnow.Server.RestValidator
import OpenSnow.Server.WordTexts

/-!
# The statements that both validators find

The REST routes cut a text at the semicolons outside quotes, the guardrails at
those outside quotes and comments.  Where no comment has a quote or a semicolon
in it the two cut at the same places, and the guardrails then drop the
statements without a token.
-/

namespace OpenSnow.Server

open Rust.Text
open Sql

/-! ## Comments that change nothing -/

/-- What is open for a scanner that knows no comments. -/
def withoutComments : Reading → Reading
  | .quoted quote => .quoted quote
  | .quotePair quote => .quotePair quote
  | _ => .plain

/-- In a comment, the character is neither a quote nor a semicolon. -/
def QuietAt (reading : Reading) (ch : Char) : Prop :=
  reading ≠ .plain ∧ withoutComments reading = .plain →
    ch ≠ '\'' ∧ ch ≠ '"' ∧ ch ≠ ';'

instance (reading : Reading) (ch : Char) : Decidable (QuietAt reading ch) :=
  inferInstanceAs (Decidable (_ → _))

/-- No quote and no semicolon stands in a comment. -/
def QuietComments : Reading → List Char → Prop
  | _, [] => True
  | reading, ch :: rest =>
      QuietAt reading ch ∧ QuietComments (reading.next true ch rest) rest

def decideQuietComments :
    ∀ reading text, Decidable (QuietComments reading text)
  | _, [] => .isTrue trivial
  | reading, ch :: rest =>
      have := decideQuietComments (reading.next true ch rest) rest
      inferInstanceAs (Decidable (_ ∧ _))

instance (reading : Reading) (text : List Char) :
    Decidable (QuietComments reading text) :=
  decideQuietComments reading text

/-- Outside of comments the two scanners have the same open. -/
theorem withoutComments_next {reading : Reading} {ch : Char}
    {rest : List Char} (quiet : QuietAt reading ch) :
    withoutComments (reading.next true ch rest) =
      (withoutComments reading).next false ch rest := by
  have inside : ch ≠ '\'' ∧ ch ≠ '"' ∧ ch ≠ ';' →
      Reading.plain.next false ch rest = .plain := by
    rintro ⟨notSingle, notDouble, -⟩
    simp [Reading.next, notSingle, notDouble]
  cases reading with
  | plain =>
      simp only [withoutComments, Reading.next, Bool.false_eq_true,
        false_and, if_false]
      split_ifs with line quote block
      · rcases quote with rfl | rfl <;> cases line.2.1
      · rfl
      · rename_i quote
        rcases quote with rfl | rfl <;> cases block.2.1
      · rfl
      · rfl
      · rfl
  | quoted quote =>
      rw [withoutComments, Reading.next, Reading.next]
      split_ifs <;> rfl
  | quotePair quote => rfl
  | lineOpening => exact (inside (quiet ⟨Reading.noConfusion, rfl⟩)).symm
  | blockOpening => exact (inside (quiet ⟨Reading.noConfusion, rfl⟩)).symm
  | blockClosing => exact (inside (quiet ⟨Reading.noConfusion, rfl⟩)).symm
  | line =>
      refine Eq.trans ?_ (inside (quiet ⟨Reading.noConfusion, rfl⟩)).symm
      rw [Reading.next]
      split_ifs <;> rfl
  | block =>
      refine Eq.trans ?_ (inside (quiet ⟨Reading.noConfusion, rfl⟩)).symm
      rw [Reading.next]
      split_ifs <;> rfl

/-! ## Statements -/

theorem trimEndMatches_append_self {pattern : Char} {text : List Char}
    (ends : text.getLast? ≠ some pattern) :
    trimEndMatches pattern (text ++ [pattern]) = text := by
  rw [trimEndMatches, List.reverse_append, List.reverse_singleton,
    List.singleton_append, List.dropWhile_cons,
    if_pos (beq_self_eq_true pattern)]
  rw [← List.head?_reverse] at ends
  cases behind : text.reverse with
  | nil => rw [List.reverse_eq_nil_iff.mp behind]; rfl
  | cons last front =>
      rw [behind, List.head?_cons, ne_eq, Option.some.injEq] at ends
      rw [List.dropWhile_cons_of_neg (by simpa using ends), ← behind,
        List.reverse_reverse]

/-- What the guardrails keep of a piece, without the semicolon behind it. -/
theorem statementText_append {current : List Char}
    (ends : current.getLast? ≠ some ';') :
    SqlGuardrails.statementText (current ++ [';']) = trim current := by
  have start : trimStart (current ++ [';']) = trimStart current ++ [';'] := by
    rw [trimStart, trimStart, List.dropWhile_append]
    split
    · rename_i empty
      rw [List.isEmpty_iff.mp empty]
      rfl
    · rfl
  have whole : trimEnd (trimStart current ++ [';']) =
      trimStart current ++ [';'] := by
    rw [trimEnd, List.reverse_append, List.reverse_singleton,
      List.singleton_append, List.dropWhile_cons_of_neg (by decide),
      List.reverse_cons, List.reverse_reverse]
  have lasts : (trimStart current).getLast? ≠ some ';' := by
    intro last
    obtain ⟨front, shape⟩ := List.dropWhile_suffix (l := current) isWhitespace
    apply ends
    rw [← shape, List.getLast?_append]
    rw [trimStart] at last
    rw [last]
    rfl
  have again : trimStart (trimStart current) = trimStart current :=
    List.dropWhile_idempotent ..
  have inner : trim (current ++ [';']) = trimStart current ++ [';'] := by
    rw [trim, start, whole]
  rw [SqlGuardrails.statementText, inner, trimEndMatches_append_self lasts,
    trim, again, trim]

def hasToken (statement : String) : Bool :=
  !(SqlGuardrails.lexSql statement).isEmpty

theorem keepStatement_filter (current : List Char)
    (statements : List String) :
    SqlGuardrails.keepStatement (trim current)
        (statements.filter hasToken) =
      (Rest.keepStatement current statements).filter hasToken := by
  rw [SqlGuardrails.keepStatement, Rest.keepStatement]
  by_cases empty : (trim current).isEmpty
  · rw [if_pos empty, empty, Bool.true_or, if_pos rfl]
  · rw [if_neg empty, Bool.eq_false_iff.mpr empty, Bool.false_or,
      List.filter_cons, hasToken]
    split_ifs <;> simp_all

/-- The statements of the guardrails are those of REST that have a token. -/
theorem splitLoop_filter {reading : Reading} {current text : List Char}
    (sound : QuotesOnly reading) (quiet : QuietComments reading text)
    (settled : withoutComments reading = .plain →
      current.getLast? ≠ some ';') :
    SqlGuardrails.splitLoop reading current text =
      (Rest.splitLoop (withoutComments reading) current text).filter
        hasToken := by
  induction text generalizing reading current with
  | nil => exact keepStatement_filter current []
  | cons ch rest ih =>
      obtain ⟨here, later⟩ := quiet
      have next := @withoutComments_next reading ch rest here
      rw [SqlGuardrails.splitLoop, Rest.splitLoop]
      by_cases ends : reading = .plain ∧ ch = ';'
      · obtain ⟨rfl, rfl⟩ := ends
        have bare : withoutComments .plain = .plain := rfl
        rw [if_pos ⟨rfl, rfl⟩, bare, if_pos ⟨rfl, rfl⟩,
          statementText_append (settled rfl), ← keepStatement_filter]
        exact congrArg _ (@ih .plain [] trivial later fun _ ends => by cases ends)
      · have goesOn : ¬ (withoutComments reading = .plain ∧ ch = ';') := by
          rintro ⟨plain, isEnd⟩
          by_cases outside : reading = .plain
          · exact ends ⟨outside, isEnd⟩
          · exact (here ⟨outside, plain⟩).2.2 isEnd
        rw [if_neg ends, if_neg goesOn, ← next]
        refine ih (sound.next true ch rest) later fun plain => ?_
        rw [List.getLast?_append, List.getLast?_singleton, Option.some_or,
          ne_eq, Option.some.injEq]
        rintro rfl
        -- A semicolon that is no end is quoted, and so is what follows it.
        rw [next] at plain
        cases reading with
        | quoted quote =>
            have other : ';' ≠ quote := by
              rcases sound with rfl | rfl <;> decide
            rw [withoutComments, Reading.next, if_neg other] at plain
            cases plain
        | quotePair quote => cases plain
        | plain => exact goesOn ⟨rfl, rfl⟩
        | lineOpening => exact goesOn ⟨rfl, rfl⟩
        | line => exact goesOn ⟨rfl, rfl⟩
        | blockOpening => exact goesOn ⟨rfl, rfl⟩
        | block => exact goesOn ⟨rfl, rfl⟩
        | blockClosing => exact goesOn ⟨rfl, rfl⟩

theorem splitSqlStatements_filter {sql : String}
    (quiet : QuietComments .plain sql.toList) :
    SqlGuardrails.splitSqlStatements sql =
      (Rest.splitSqlStatements sql).filter hasToken :=
  @splitLoop_filter .plain [] sql.toList trivial quiet fun _ => nofun

end OpenSnow.Server
