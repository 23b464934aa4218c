import OpenSnow.Compat.Replacements

/-!
# Qualified queries

The pass for `QUALIFY` should turn a condition on a window call into a filter
that has no window call of its own.  It copies the condition instead.
-/

namespace OpenSnow.Compat.Rewriter

open Foundation
open Rust.Text
open Core.Commands (Spells spells_create spells_self trimEnd_append)

/--
`SELECT ... QUALIFY c` for a condition `c` with a window call: the word `OVER`
stands behind the function.
-/
structure Qualified where
  leading : List Char
  select : List Char
  selection : List Char
  qualify : List Char
  function : List Char
  before : Char
  word : List Char
  after : Char
  window : List Char
  blank_leading : Blank leading
  spells_select : Spells select "SELECT"
  spells_qualify : Spells qualify "QUALIFY"
  spells_word : Spells word "OVER"
  solid_function : ¬ Blank (function ++ [before])
  isMark_before : isPathChar before = false
  before_ne : before ≠ ':'
  isMark_after : isPathChar after = false
  after_ne : after ≠ ':'

/-- `OVER` stands in a clause as a word. -/
def HasOver (clause : List Char) : Prop :=
  ∃ front word back, clause = front ++ (word ++ back) ∧ Spells word "OVER" ∧
    (∀ ch ∈ front.getLast?, isPathChar ch = false) ∧
      ∀ ch ∈ back.head?, isPathChar ch = false

namespace Qualified

variable (query : Qualified)

/-- The query that is filtered. -/
def body : List Char := query.leading ++ (query.select ++ query.selection)

def condition : List Char :=
  (query.function ++ [query.before]) ++
    (query.word ++ query.after :: query.window)

def text : List Char := query.body ++ (query.qualify ++ query.condition)

/--
The passes filter the query by a clause without a window call.  They cut the
text at its `QUALIFY`, and what they make of the condition is the clause.
-/
def Filters : Prop :=
  ∃ condition clause,
    qualifyParts query.text = some (some (trim query.body, condition)) ∧
      rewriteSnowflakeSql query.text =
        some (rewritten (scanned (filtered (trim query.body) [])) ++ clause) ∧
      ¬ HasOver clause

end Qualified

/-! ## Words in trimmed texts -/

/-- Trimming in front stops inside a text that is not blank. -/
theorem trimStart_append_of_solid {front : List Char} {last : Char}
    (solid : ¬ Blank (front ++ [last])) :
    ∃ more, ∀ rest, trimStart (front ++ [last] ++ rest) =
      more ++ [last] ++ rest := by
  have stops : trimStart (front ++ [last]) ≠ [] := by
    rw [trimStart, Ne, List.dropWhile_eq_nil_iff]
    exact solid
  rcases List.eq_nil_or_concat (trimStart (front ++ [last])) with
    none | ⟨more, final, shape⟩
  · exact absurd none stops
  · rw [List.concat_eq_append] at shape
    have whole :=
      @List.takeWhile_append_dropWhile _ isWhitespace (front ++ [last])
    rw [← trimStart, shape, ← List.append_assoc] at whole
    obtain rfl : final = last := by
      simpa using congrArg List.getLast? whole
    refine ⟨more, fun rest => ?_⟩
    rw [← shape, trimStart, trimStart, List.dropWhile_append, if_neg]
    rwa [List.isEmpty_iff]

/-- A word behind a solid text outlives trimming. -/
theorem trim_word {front word : List Char} {keyword : String} {last : Char}
    (solid : ¬ Blank (front ++ [last])) (spells : Spells word keyword)
    (rest : List Char) :
    ∃ more, trim (front ++ [last] ++ (word ++ rest)) =
      more ++ [last] ++ (word ++ trimEnd rest) := by
  rcases trimStart_append_of_solid solid with ⟨more, starts⟩
  have ends : Stops isWhitespace (more ++ [last] ++ word).reverse := by
    rw [List.reverse_append]
    cases reversed : word.reverse with
    | nil => exact absurd (List.reverse_eq_nil_iff.mp reversed) spells.ne_nil
    | cons final front =>
        refine stops_cons.mpr (spells.not_blank final ?_)
        rw [← List.mem_reverse, reversed]
        exact List.mem_cons_self
  refine ⟨more, ?_⟩
  rw [trim, starts, ← List.append_assoc, trimEnd_append ends, List.append_assoc]

/-- Equal texts of blanks and something solid have the same blanks. -/
theorem blank_append_inj {left right more other : List Char}
    (blankLeft : Blank left) (blankRight : Blank right)
    (stops : Stops isWhitespace more) (otherStops : Stops isWhitespace other)
    (same : left ++ more = right ++ other) : left = right := by
  rw [← takeWhile_span blankLeft stops, same,
    takeWhile_span blankRight otherStops]

/-- What is cut off a query behind its last word ends in the condition. -/
theorem exists_condition {body front keyword back qualify condition : List Char}
    (shape : body ++ (qualify ++ condition) = front ++ (keyword ++ back))
    (same : trim body = trim front) (solid : ¬ Blank body)
    (spells : Spells qualify "QUALIFY") (length : utf8Len keyword = 7) :
    ∃ more, back = more ++ condition := by
  have starts := trimmed_trim body
  have stops (rest : List Char) : Stops isWhitespace (qualify ++ rest) := by
    cases word : qualify with
    | nil => exact absurd word spells.ne_nil
    | cons ch others =>
        refine stops_cons.mpr (spells.not_blank ch ?_)
        rw [word]
        exact List.mem_cons_self
  rcases trim_shape body with ⟨before, after, bodyShape, blank, blankAfter⟩
  rcases trim_shape front with ⟨first, last, frontShape, blankFirst, blankLast⟩
  rw [← same] at frontShape
  have inner : ∃ ch rest, trim body = ch :: rest := by
    cases inner : trim body with
    | nil =>
        rw [inner, List.nil_append] at bodyShape
        exact absurd (bodyShape ▸ blank_append.mpr ⟨blank, blankAfter⟩) solid
    | cons ch rest => exact ⟨ch, rest, rfl⟩
  rcases inner with ⟨ch, rest, inner⟩
  have behind : ∀ more, Stops isWhitespace (trim body ++ more) := by
    intro more
    rw [inner] at starts ⊢
    exact stops_cons.mpr (stops_cons.mp starts.1)
  -- Both cuts leave the same text behind the trimmed query.
  rw [bodyShape, frontShape, List.append_assoc, List.append_assoc,
    List.append_assoc, List.append_assoc] at shape
  have blanks := blank_append_inj blank blankFirst (behind _) (behind _) shape
  rw [blanks, List.append_cancel_left_eq, List.append_cancel_left_eq] at shape
  have cut : ∃ gap, keyword ++ back = gap ++ (qualify ++ condition) := by
    rcases List.append_eq_append_iff.mp shape with
      ⟨gap, rfl, cut⟩ | ⟨gap, -, cut⟩
    · cases gap with
      | nil => exact ⟨[], cut.symm⟩
      | cons first gap =>
          have solidFirst := stops condition
          rw [cut, List.cons_append, stops_cons] at solidFirst
          have blankGap := (blank_append.mp blankLast).2
          rw [blankGap first List.mem_cons_self] at solidFirst
          cases solidFirst
    · exact ⟨gap, cut⟩
  rcases cut with ⟨gap, cut⟩
  rw [← List.append_assoc] at cut
  rcases List.append_eq_append_iff.mp cut with
    ⟨more, -, behind⟩ | ⟨more, whole, rfl⟩
  · exact ⟨more, behind⟩
  · have qualifyLength := spells.utf8Len
    rw [whole, utf8Len_append, utf8Len_append, qualifyLength] at length
    cases more with
    | nil => exact ⟨[], rfl⟩
    | cons ch more =>
        have positive := ch.utf8Size_pos
        have seven : "QUALIFY".length = 7 := by decide
        rw [utf8Len_cons] at length
        omega

/-! ## The clause behind the subquery -/

/-- What becomes of the condition does not depend on it. -/
theorem rewritten_filtered_append (innerQuery : List Char) :
    ∃ quote, ∀ condition,
      rewritten (scanned (filtered innerQuery condition)) =
        rewritten (scanned (filtered innerQuery [])) ++
          rewritten (scanner.pieces false quote [] condition) := by
  have closing : subqueryClosing = subqueryClosing.dropLast ++ [' '] := by
    decide
  rcases pieces_behind_mark (by decide : isPathChar ' ' = false) (by decide)
      (subqueryOpening ++ innerQuery ++ subqueryClosing.dropLast) false none []
    with ⟨pieces, shape, -⟩
  let onwards := (subqueryOpening ++ innerQuery ++
    subqueryClosing.dropLast).foldl quoteAfter none
  refine ⟨quoteAfter onwards ' ', fun condition => ?_⟩
  have text (rest : List Char) :
      filtered innerQuery rest =
        (subqueryOpening ++ innerQuery ++ subqueryClosing.dropLast) ++
          ' ' :: rest := by
    rw [filtered]
    conv_lhs => rw [closing]
    simp only [List.append_assoc, List.cons_append, List.nil_append]
  rw [text, text, scanned, scanned, shape, shape, rewritten_append,
    rewritten_append]
  simp [onwards]

theorem Reader.pieces_word {State : Type} {reader : Reader State}
    {word : List Char} (isWord : ∀ ch ∈ word, isPathChar ch) (state : State)
    (run rest : List Char) :
    ∃ onwards, reader.pieces false state run (word ++ rest) =
      reader.pieces false onwards (run ++ word) rest := by
  induction word generalizing state run with
  | nil => exact ⟨state, by rw [List.nil_append, List.append_nil]⟩
  | cons ch word ih =>
      rcases ih (fun other member => isWord other (List.mem_cons_of_mem ch member))
        (reader.next state ch (word ++ rest)) (run ++ [ch]) with ⟨onwards, shape⟩
      refine ⟨onwards, ?_⟩
      rw [List.cons_append, Reader.pieces_path (isWord ch List.mem_cons_self),
        if_neg Bool.false_ne_true, shape, List.append_assoc,
        List.singleton_append]

/-- A word between two marks is no part of an access. -/
theorem hasOver_rewritten {front word back : List Char} {before : Char}
    (spells : Spells word "OVER") (isMark : isPathChar before = false)
    (notColon : before ≠ ':')
    (behind : ∀ ch ∈ back.head?, isPathChar ch = false ∧ ch ≠ ':')
    (quote : Option Char) :
    HasOver (rewritten (scanner.pieces false quote []
      (front ++ [before] ++ (word ++ back)))) := by
  rcases pieces_behind_mark isMark notColon front false quote [] with
    ⟨pieces, shape, -⟩
  rcases @Reader.pieces_word _ scanner word (isPath_of_spells spells)
      (quoteAfter (front.foldl quoteAfter quote) before) [] back with
    ⟨onwards, inWord⟩
  have tail : ∃ tail,
      rewritten (scanner.pieces false onwards word back) = word ++ tail ∧
        tail.head? = back.head? := by
    cases back with
    | nil => exact ⟨[], by rw [Reader.pieces_nil, rewritten_word]; rfl, rfl⟩
    | cons ch back =>
        rcases behind ch rfl with ⟨isMark, notColon⟩
        rw [Reader.pieces_mark isMark fun taken => notColon taken.1]
        exact ⟨_, rfl, rfl⟩
  rcases tail with ⟨tail, rewrites, heads⟩
  refine ⟨rewritten pieces ++ [before], word, tail, ?_, spells, ?_, ?_⟩
  · rw [List.append_assoc front, List.singleton_append, shape, inWord,
      List.nil_append, rewritten_append, rewritten_mark, rewrites,
      List.append_assoc, List.singleton_append]
  · rw [List.getLast?_concat]
    rintro ch ⟨⟩
    exact isMark
  · rw [heads]
    exact fun ch isHead => (behind ch isHead).1

namespace Qualified

variable (query : Qualified)

theorem solid_body : ¬ Blank query.body := by
  intro blank
  rw [body, blank_append, blank_append] at blank
  cases word : query.select with
  | nil => exact query.spells_select.ne_nil word
  | cons ch rest =>
      have solid := query.spells_select.not_blank ch
      rw [word] at solid blank
      have white := blank.2.1 ch List.mem_cons_self
      rw [solid List.mem_cons_self] at white
      cases white

/-- The first pass leaves a text that starts with `SELECT`. -/
theorem replaced_text : replaced query.text = query.text := by
  rw [replaced, if_neg]
  rintro ⟨begins, -⟩
  have create : replaceWords = 'C' :: replaceWords.tail := by decide
  have select : "SELECT".toList = 'S' :: "ELECT".toList := by decide
  have blank := query.blank_leading
  rw [text, body, List.append_assoc, List.append_assoc,
    upperChars_blank_append blank, query.spells_select.upperChars, create,
    select] at begins
  cases form : query.leading with
  | nil =>
      rw [form, List.nil_append, List.cons_append, List.cons_prefix_cons] at begins
      exact absurd begins.1 (by decide)
  | cons first leading =>
      rw [form] at begins blank
      rw [List.cons_append, List.cons_prefix_cons] at begins
      have white := blank first List.mem_cons_self
      rw [← begins.1] at white
      exact absurd white (by decide)

/-- The clause of every cut at `QUALIFY` keeps the window call. -/
theorem not_filters : ¬ query.Filters := by
  rintro ⟨condition, clause, cut, rewrites, noCall⟩
  apply noCall
  rcases exists_mid rewrites with ⟨mid, second, out⟩
  rw [replaced_text, rewriteQualify, cut] at second
  obtain rfl : filtered (trim query.body) condition = mid :=
    Option.some.inj second
  cases found : findKeyword (upperChars query.text) qualifyWord with
  | none =>
      rw [qualifyParts, found] at cut
      cases cut
  | some pos =>
      rcases (qualifyParts_eq_some_iff found).mp cut with
        ⟨front, keyword, back, shape, -, length, same, rfl⟩
      rcases exists_condition shape same query.solid_body query.spells_qualify
        length with ⟨more, rfl⟩
      have solid : ¬ Blank (more ++ query.function ++ [query.before]) := by
        rw [List.append_assoc, blank_append]
        exact fun blank => query.solid_function blank.2
      rcases trim_word solid query.spells_word
        (query.after :: query.window) with ⟨kept, trimmed⟩
      have behind : ∀ ch ∈ (trimEnd (query.after :: query.window)).head?,
          isPathChar ch = false ∧ ch ≠ ':' := by
        intro ch isHead
        rcases trimEnd_shape (query.after :: query.window) with ⟨rest, ends, -⟩
        cases form : trimEnd (query.after :: query.window) with
        | nil =>
            rw [form] at isHead
            cases isHead
        | cons first others =>
            rw [form] at ends isHead
            rw [List.cons_append, List.cons.injEq] at ends
            obtain rfl : first = ch := Option.some.inj isHead
            rw [← ends.1]
            exact ⟨query.isMark_after, query.after_ne⟩
      rcases rewritten_filtered_append (trim query.body) with ⟨quote, split⟩
      have whole : more ++ query.condition =
          more ++ query.function ++ [query.before] ++
            (query.word ++ query.after :: query.window) := by
        rw [condition]
        simp only [List.append_assoc]
      rw [split (trim _), List.append_cancel_left_eq, whole, trimmed] at out
      rw [out]
      exact hasOver_rewritten query.spells_word query.isMark_before
        query.before_ne behind quote

end Qualified

/-! ## Both passes -/

/--
A replaced table is kept exactly in the layouts that the passes handle, and no
window call leaves the condition of a query.
-/
theorem replacements_kept_iff (statement : Replacement) (query : Qualified) :
    (statement.Kept ↔ statement.Handled) ∧ ¬ query.Filters :=
  ⟨statement.kept_iff, query.not_filters⟩

/-- `CREATE OR REPLACE TABLE t AS SELECT 1` with a line break behind `AS`. -/
def brokenLine : Replacement where
  leading := []
  create := "CREATE".toList
  createGap := .one
  or := "OR".toList
  orGap := .one
  replace := "REPLACE".toList
  replaceGap := .one
  table := "TABLE".toList
  tableGap := .one
  name := ['t']
  nameGap := .one
  as := "AS".toList
  asGap := ⟨['\n'], List.cons_ne_nil _ _, by simp [isWhitespace]⟩
  query := ['S', 'E', 'L', 'E', 'C', 'T', ' ', '1']
  trailing := []
  blank_leading := blank_nil
  spells_create := spells_create
  spells_or := spells_self (by decide) (by decide) (by decide)
  spells_replace := spells_self (by decide) (by decide) (by decide)
  spells_table := spells_self (by decide) (by decide) (by decide)
  isName_name := by decide
  spells_as := spells_self (by decide) (by decide) (by decide)
  trimmed_query := ⟨stops_cons.mpr (by decide), stops_cons.mpr (by decide)⟩
  query_ne_nil := List.cons_ne_nil _ _
  one_query := by decide
  blank_trailing := blank_nil

/-- The first pass does not see an `AS` before a line break. -/
theorem brokenLine_not_kept :
    ¬ ((∀ statement : Replacement, statement.Kept) ∧
      ∀ query : Qualified, query.Filters) := by
  rintro ⟨kept, -⟩
  have hasAs := (brokenLine.handled_of_kept (kept brokenLine)).hasAs
  revert hasAs
  decide

end OpenSnow.Compat.Rewriter
