import OpenSnow.Core.Offsets
import OpenSnow.Rust.AsciiCase
import OpenSnow.Server.SqlGuardrails

/-!
# The lexer of the guardrails

What the lexer makes of blanks, words and comments.  Blanks and comments leave
no token, so a text has the tokens of what stands behind its first comments.
-/

namespace OpenSnow.Server.SqlGuardrails

open Rust.Text
open Sql

/-! ## Ordinary characters -/

/-- A character that opens neither a quoted text nor a comment. -/
def Ordinary (ch : Char) : Prop :=
  ch ≠ '-' ∧ ch ≠ '/' ∧ ch ≠ '\'' ∧ ch ≠ '"'

instance (ch : Char) : Decidable (Ordinary ch) :=
  inferInstanceAs (Decidable (_ ∧ _))

variable {ch : Char}

theorem Ordinary.next (ordinary : Ordinary ch) (comments : Bool)
    (rest : List Char) : Reading.plain.next comments ch rest = .plain := by
  rcases ordinary with ⟨notDash, notSlash, notSingle, notDouble⟩
  simp [Reading.next, notDash, notSlash, notSingle, notDouble]

theorem ordinary_of_isWhitespace (blank : isWhitespace ch) :
    Ordinary ch := by
  refine ⟨?_, ?_, ?_, ?_⟩ <;> rintro rfl <;> revert blank <;> decide

theorem ordinary_of_isWordChar (word : isWordChar ch) :
    Ordinary ch := by
  refine ⟨?_, ?_, ?_, ?_⟩ <;> rintro rfl <;> revert word <;> decide

theorem not_isWhitespace_of_isWordChar (word : isWordChar ch) :
    ¬ isWhitespace ch := by
  rw [not_isWhitespace_of_alphanum word]
  exact Bool.false_ne_true

theorem isWordChar_of_toUpper (letter : ch.toUpper.isAlpha) :
    isWordChar ch := by
  rw [Char.isAlpha_toUpper_eq_isAlpha] at letter
  rw [isWordChar, Char.isAlphanum, letter, Bool.true_or, Bool.true_or]

/-! ## Blanks and words -/

theorem lexLoop_blank (blank : isWhitespace ch) (inWord : Bool)
    (rest : List Char) :
    lexLoop .plain inWord (ch :: rest) = lexLoop .plain false rest := by
  rw [lexLoop, (ordinary_of_isWhitespace blank).next, if_pos ⟨rfl, rfl⟩,
    if_pos blank]

theorem lexLoop_trimStart (text : List Char) :
    lexLoop .plain false (trimStart text) = lexLoop .plain false text := by
  induction text with
  | nil => rfl
  | cons ch rest ih =>
      rw [trimStart, List.dropWhile_cons]
      split
      · rename_i blank
        rw [lexLoop_blank blank]
        exact ih
      · rfl

theorem lexLoop_blanks {blanks : List Char} (blank : Blank blanks)
    (rest : List Char) :
    lexLoop .plain false (blanks ++ rest) = lexLoop .plain false rest := by
  rw [← lexLoop_trimStart, trimStart_blank_append blank, lexLoop_trimStart]

/-- Behind a word character it does not matter that the word goes on. -/
theorem lexLoop_inWord {text : List Char}
    (ends : ∀ ch ∈ text.head?, ¬ isWordChar ch) :
    lexLoop .plain true text = lexLoop .plain false text := by
  cases text with
  | nil => rfl
  | cons ch rest =>
      have notWord := ends ch rfl
      rw [lexLoop, lexLoop]
      simp only [if_neg notWord]

theorem lexLoop_wordRest {word : List Char} (isWord : ∀ ch ∈ word, isWordChar ch)
    (rest : List Char) :
    lexLoop .plain true (word ++ rest) = lexLoop .plain true rest := by
  induction word with
  | nil => rfl
  | cons ch word ih =>
      have wordChar := isWord ch List.mem_cons_self
      rw [List.cons_append, lexLoop, (ordinary_of_isWordChar wordChar).next,
        if_pos ⟨rfl, rfl⟩, if_neg (not_isWhitespace_of_isWordChar wordChar),
        if_pos wordChar, if_pos rfl]
      exact ih fun other member => isWord other (List.mem_cons_of_mem ch member)

/-- A word is one token. -/
theorem lexLoop_word {word rest : List Char} (nonempty : word ≠ [])
    (isWord : ∀ ch ∈ word, isWordChar ch)
    (ends : ∀ ch ∈ rest.head?, ¬ isWordChar ch) :
    lexLoop .plain false (word ++ rest) =
      ⟨String.ofList word, .word, word ++ rest⟩ ::
        lexLoop .plain false rest := by
  cases word with
  | nil => exact absurd rfl nonempty
  | cons ch word =>
      have wordChar := isWord ch List.mem_cons_self
      have whole :
          (ch :: (word ++ rest)).takeWhile isWordChar = ch :: word := by
        rw [← List.cons_append, List.takeWhile_append_of_pos isWord]
        cases rest with
        | nil => simp
        | cons next rest =>
            rw [List.takeWhile_cons_of_neg (ends next rfl), List.append_nil]
      rw [List.cons_append, lexLoop, (ordinary_of_isWordChar wordChar).next,
        if_pos ⟨rfl, rfl⟩, if_neg (not_isWhitespace_of_isWordChar wordChar),
        if_pos wordChar, if_neg Bool.false_ne_true, whole,
        lexLoop_wordRest fun other member =>
          isWord other (List.mem_cons_of_mem ch member),
        lexLoop_inWord ends]

@[simp]
theorem words_cons_word (text : String) (onwards : List Char)
    (tokens : List Token) :
    words (⟨text, .word, onwards⟩ :: tokens) =
      ⟨text, .word, onwards⟩ :: words tokens := by
  simp [words]

@[simp]
theorem words_cons_symbol (text : String) (ch : Char) (onwards : List Char)
    (tokens : List Token) :
    words (⟨text, .symbol ch, onwards⟩ :: tokens) = words tokens := by
  simp [words]

/-! ## Comments -/

theorem lexLoop_block {rest after : List Char} {stop : Nat} (inWord : Bool)
    (found : find ['*', '/'] rest = some stop)
    (sliced : sliceFrom rest (stop + 2) = some after) :
    lexLoop .block inWord rest = lexLoop .plain false after := by
  induction rest generalizing stop inWord with
  | nil => cases found
  | cons ch rest ih =>
      by_cases here : ['*', '/'] <+: ch :: rest
      · rcases here with ⟨behind, shape⟩
        rw [← shape] at found sliced ⊢
        have start : stop = 0 := by
          simpa [find, eq_comm] using found
        rw [start] at sliced
        have cut := sliceFrom_append ['*', '/'] behind
        rw [show utf8Len ['*', '/'] = 0 + 2 from rfl, sliced,
          Option.some.injEq] at cut
        rw [cut]
        simp [lexLoop, Reading.next]
      · rcases find_cons found here with ⟨inner, later, rfl⟩
        rw [Nat.add_assoc, sliceFrom_cons] at sliced
        have next : Reading.block.next true ch rest = .block := by
          rw [Reading.next, if_neg]
          rintro ⟨rfl, isSlash⟩
          cases rest with
          | nil => cases isSlash
          | cons slash rest =>
              rw [List.head?_cons, Option.some.injEq] at isSlash
              exact here ⟨rest, by rw [isSlash]; rfl⟩
        rw [lexLoop, next]
        exact ih false later sliced

theorem lexLoop_line {rest after : List Char} {stop : Nat} (inWord : Bool)
    (found : find ['\n'] rest = some stop)
    (sliced : sliceFrom rest (stop + 1) = some after) :
    lexLoop .line inWord rest = lexLoop .plain false after := by
  induction rest generalizing stop inWord with
  | nil => cases found
  | cons ch rest ih =>
      by_cases here : ['\n'] <+: ch :: rest
      · rcases here with ⟨behind, shape⟩
        rw [← shape] at found sliced ⊢
        have start : stop = 0 := by
          simpa [find, eq_comm] using found
        rw [start] at sliced
        have cut := sliceFrom_append ['\n'] behind
        rw [show utf8Len ['\n'] = 0 + 1 from rfl, sliced,
          Option.some.injEq] at cut
        rw [cut]
        simp [lexLoop, Reading.next]
      · rcases find_cons found here with ⟨inner, later, rfl⟩
        rw [Nat.add_assoc, sliceFrom_cons] at sliced
        have next : Reading.line.next true ch rest = .line := by
          rw [Reading.next, if_neg]
          rintro rfl
          exact here ⟨rest, rfl⟩
        rw [lexLoop, next]
        exact ih false later sliced

/-- A line comment without an end leaves no token. -/
theorem lexLoop_line_unended {rest : List Char} (inWord : Bool)
    (unended : find ['\n'] rest = none) : lexLoop .line inWord rest = [] := by
  induction rest generalizing inWord with
  | nil => rfl
  | cons ch rest ih =>
      rw [find] at unended
      split at unended
      · cases unended
      · rename_i notHere
        have next : Reading.line.next true ch rest = .line := by
          rw [Reading.next, if_neg]
          rintro rfl
          exact notHere rfl
        rw [lexLoop, next]
        exact ih false (Option.map_eq_none_iff.mp unended)

theorem lexLoop_openBlock (rest : List Char) :
    lexLoop .plain false ('/' :: '*' :: rest) = lexLoop .block false rest := by
  simp [lexLoop, Reading.next]

theorem lexLoop_openLine (rest : List Char) :
    lexLoop .plain false ('-' :: '-' :: rest) = lexLoop .line false rest := by
  simp [lexLoop, Reading.next]

/-- The comments that the engine strips leave no token. -/
theorem lexLoop_stripped (text : List Char) :
    lexLoop .plain false (Core.Commands.stripped text) =
      lexLoop .plain false text := by
  apply Core.Commands.stripped_induct
    (motive := fun part =>
      lexLoop .plain false part = lexLoop .plain false text)
  · intro part same
    rw [lexLoop_trimStart, same]
  · intro rest stop after found sliced same
    rw [← same, lexLoop_openBlock, lexLoop_block false found sliced]
  · intro rest stop after found sliced same
    rw [← same, lexLoop_openLine, lexLoop_line false found sliced]
  · intro rest unended same
    rw [← same, lexLoop_openLine, lexLoop_line_unended false unended]
    rfl
  · rfl

end OpenSnow.Server.SqlGuardrails
