import OpenSnow.Mcp.PolicyCoverage
import OpenSnow.Server.LeadingWords

/-!
# The first words for the MCP server

The analyser of the MCP server skips the comments that the engine strips, so
that both begin with the same words.
-/

namespace OpenSnow.Mcp

open Core.Commands
open Rust.Text
open Server (Letters flush flush_ne_nil isSeparator_of_blank
  ne_of_letter not_isSeparator_of_letter)

/-- A token that was begun is completed. -/
theorem tokenizeLoop_begun {current : List Char} (nonempty : current ≠ [])
    (text : List Char) :
    ∃ suffix more, tokenizeLoop (.word current) text =
      String.ofList (current ++ suffix) :: more := by
  induction text generalizing current with
  | nil =>
      rw [tokenizeLoop, flush_ne_nil nonempty]
      exact ⟨[], [], by rw [List.append_nil]⟩
  | cons ch rest ih =>
      rw [tokenizeLoop, flush_ne_nil nonempty, flush_ne_nil nonempty,
        flush_ne_nil nonempty]
      split_ifs
      · exact ⟨[], _, by rw [List.append_nil]⟩
      · exact ⟨[], _, by rw [List.append_nil]⟩
      · exact ⟨[], _, by rw [List.append_nil]⟩
      · rcases @ih (current ++ [ch]) (by simp) with ⟨suffix, more, tokens⟩
        rw [tokens, List.append_assoc]
        exact ⟨_, more, rfl⟩

theorem tokenizeLoop_letters {front : List Char}
    (letters : ∀ ch ∈ front, ch.isAlpha) (current rest : List Char) :
    tokenizeLoop (.word current) (front ++ rest) =
      tokenizeLoop (.word (current ++ front)) rest := by
  induction front generalizing current with
  | nil => simp
  | cons ch front ih =>
      have letter := letters ch List.mem_cons_self
      have noDash : ch ≠ '-' := ne_of_letter letter (by decide)
      have noSlash : ch ≠ '/' := ne_of_letter letter (by decide)
      rw [List.cons_append, tokenizeLoop, if_neg (by simp [noDash]),
        if_neg (by simp [noSlash]),
        if_neg (by simp [not_isSeparator_of_letter letter]),
        ih fun other member => letters other (List.mem_cons_of_mem _ member)]
      simp

theorem tokenizeLoop_blank {ch : Char} (blank : isWhitespace ch)
    (current rest : List Char) :
    tokenizeLoop (.word current) (ch :: rest) =
      flush current (tokenizeLoop (.word []) rest) := by
  have noDash : ch ≠ '-' := by
    rintro rfl
    revert blank
    decide
  have noSlash : ch ≠ '/' := by
    rintro rfl
    revert blank
    decide
  rw [tokenizeLoop, if_neg (by simp [noDash]), if_neg (by simp [noSlash]),
    if_pos (isSeparator_of_blank blank)]

theorem tokenizeLoop_trimStart (text : List Char) :
    tokenizeLoop (.word []) (trimStart text) =
      tokenizeLoop (.word []) text := by
  induction text with
  | nil => rfl
  | cons ch rest ih =>
      by_cases blank : isWhitespace ch
      · rw [trimStart, List.dropWhile_cons_of_pos blank, ← trimStart, ih,
          tokenizeLoop_blank blank]
        rfl
      · rw [trimStart, List.dropWhile_cons_of_neg blank]

/-- A block comment ends where the engine finds its end. -/
theorem tokenizeLoop_block {previous : Char} {text after : List Char}
    {stop : Nat} (found : find ['*', '/'] text = some stop)
    (sliced : sliceFrom text (stop + 2) = some after)
    (apart : previous = '*' → text.head? ≠ some '/') :
    tokenizeLoop (.block previous) text = tokenizeLoop (.word []) after := by
  induction text generalizing previous stop with
  | nil => cases found
  | cons ch rest ih =>
      have notEnd : ¬ (previous = '*' ∧ ch = '/') := by
        rintro ⟨star, rfl⟩
        exact apart star rfl
      rw [tokenizeLoop, if_neg notEnd]
      by_cases here : ['*', '/'] <+: ch :: rest
      · rcases here with ⟨behind, shape⟩
        rw [List.cons_append, List.cons.injEq] at shape
        rcases shape with ⟨rfl, rfl⟩
        have start : stop = 0 := (Option.some.inj found).symm
        have cut : sliceFrom ('*' :: '/' :: behind) 2 = some behind :=
          sliceFrom_append ['*', '/'] behind
        rw [start, Nat.zero_add] at sliced
        have same : behind = after :=
          Option.some.inj (cut.symm.trans sliced)
        rw [← same, List.cons_append, List.nil_append, tokenizeLoop,
          if_pos ⟨rfl, rfl⟩]
      · rcases find_cons found here with ⟨inner, later, rfl⟩
        rw [Nat.add_assoc, sliceFrom_cons] at sliced
        apply ih later sliced
        rintro rfl slash
        apply here
        cases rest with
        | nil => cases slash
        | cons second rest =>
            rw [List.head?_cons, Option.some.injEq] at slash
            rw [slash]
            exact ⟨rest, rfl⟩

theorem tokenizeLoop_line {text after : List Char} {stop : Nat}
    (found : find ['\n'] text = some stop)
    (sliced : sliceFrom text (stop + 1) = some after) :
    tokenizeLoop .line text = tokenizeLoop (.word []) after := by
  induction text generalizing stop with
  | nil => cases found
  | cons ch rest ih =>
      rw [tokenizeLoop]
      by_cases here : ['\n'] <+: ch :: rest
      · rcases here with ⟨behind, shape⟩
        rw [List.cons_append, List.nil_append, List.cons.injEq] at shape
        rcases shape with ⟨rfl, rfl⟩
        have start : stop = 0 := (Option.some.inj found).symm
        have cut : sliceFrom ('\n' :: behind) 1 = some behind :=
          sliceFrom_append ['\n'] behind
        rw [start, Nat.zero_add] at sliced
        rw [if_pos rfl, Option.some.inj (cut.symm.trans sliced)]
      · rcases find_cons found here with ⟨inner, later, rfl⟩
        have other : ch ≠ '\n' := by
          rintro rfl
          exact here ⟨rest, rfl⟩
        rw [Nat.add_assoc, sliceFrom_cons] at sliced
        rw [if_neg other]
        exact ih later sliced

theorem tokenizeLoop_lastLine {text : List Char}
    (unended : find ['\n'] text = none) : tokenizeLoop .line text = [] := by
  induction text with
  | nil => rfl
  | cons ch rest ih =>
      rw [find] at unended
      split at unended
      · cases unended
      · rename_i notHere
        have other : ch ≠ '\n' := by
          rintro rfl
          exact notHere rfl
        rw [tokenizeLoop, if_neg other]
        exact ih (Option.map_eq_none_iff.mp unended)

/-- The comments that the engine strips are no tokens. -/
theorem tokenizeLoop_stripped (text : List Char) :
    tokenizeLoop (.word []) (stripped text) =
      tokenizeLoop (.word []) text := by
  apply @stripped_induct fun other =>
    tokenizeLoop (.word []) other = tokenizeLoop (.word []) text
  · intro other same
    rw [tokenizeLoop_trimStart, same]
  · intro rest stop after found sliced same
    have closed := @tokenizeLoop_block '\x00' _ _ _ found sliced (by simp)
    rw [← same, ← closed]
    rfl
  · intro rest stop after found sliced same
    rw [← same, ← tokenizeLoop_line found sliced]
    rfl
  · intro rest unended same
    rw [← same]
    exact (tokenizeLoop_lastLine unended).symm
  · rfl

/-- The first token starts with the letters that the text starts with. -/
theorem tokenizeSql_letters {sql : String} {front rest : List Char}
    (shape : stripped sql.toList = front ++ rest) (letters : Letters front) :
    ∃ suffix more,
      tokenizeSql sql = String.ofList (front ++ suffix) :: more := by
  rw [tokenizeSql, ← tokenizeLoop_stripped, shape,
    tokenizeLoop_letters letters.2, List.nil_append]
  exact tokenizeLoop_begun letters.1 rest

/-- A word that ends with the text or before a blank is a token. -/
theorem tokenizeLoop_word {word rest : List Char} (letters : Letters word)
    (ends : ∀ ch ∈ rest.head?, isWhitespace ch) :
    tokenizeLoop (.word []) (word ++ rest) =
      String.ofList word :: tokenizeLoop (.word []) rest := by
  rw [tokenizeLoop_letters letters.2, List.nil_append]
  cases rest with
  | nil =>
      rw [tokenizeLoop, flush_ne_nil letters.1]
      rfl
  | cons ch rest =>
      rw [tokenizeLoop_blank (ends ch rfl), tokenizeLoop_blank (ends ch rfl),
        flush_ne_nil letters.1]
      rfl

theorem tokenizeLoop_afterKeyword {text rest : List Char} {expected : String}
    (upper : expected.toList.map Char.toUpper = expected.toList)
    (letters : expected.toList.all Char.isAlpha)
    (nonempty : expected.toList ≠ [])
    (follows : afterKeyword text expected = some rest) :
    ∃ token, toAsciiUppercase token = expected ∧
      tokenizeLoop (.word []) text =
        token :: tokenizeLoop (.word []) rest := by
  rcases word_of_afterKeyword upper follows with
    ⟨word, shape, spelled, ends⟩
  have isWord : Letters word := by
    refine ⟨?_, letters_of_upper spelled letters⟩
    rintro rfl
    exact nonempty spelled.symm
  refine ⟨String.ofList word, ?_, ?_⟩
  · rw [toAsciiUppercase, String.toList_ofList, spelled, String.ofList_toList]
  · rw [← tokenizeLoop_trimStart, shape, tokenizeLoop_word isWord ends]

/-- The keyword behind the first one is the second token. -/
theorem second_of_afterKeywords {sql first : String} {rest : List Char}
    (upper : first.toList.map Char.toUpper = first.toList)
    (letters : first.toList.all Char.isAlpha)
    (nonempty : first.toList ≠ [])
    (follows :
      afterKeywords (stripped sql.toList) [first, "TABLE"] = some rest) :
    (tokenizeSql sql)[1]?.any (eqIgnoreAsciiCase · "TABLE") := by
  rcases Option.bind_eq_some_iff.mp follows with ⟨next, one, later⟩
  rcases Option.bind_eq_some_iff.mp later with ⟨last, two, -⟩
  rcases tokenizeLoop_afterKeyword upper letters nonempty one with
    ⟨token, -, tokens⟩
  rcases tokenizeLoop_afterKeyword (by decide) (by decide) (by decide) two with
    ⟨table, isTable, others⟩
  rw [tokenizeSql, ← tokenizeLoop_stripped, tokens, others]
  change eqIgnoreAsciiCase table "TABLE"
  rw [eqIgnoreAsciiCase_iff (by decide)]
  rw [toAsciiUppercase] at isTable
  rw [← isTable, String.toList_ofList]

end OpenSnow.Mcp
