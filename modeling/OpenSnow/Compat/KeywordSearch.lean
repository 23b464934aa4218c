import OpenSnow.Compat.Rewriter

/-!
# The search for a keyword

What `find_keyword` finds in a text is decided word by word: a keyword does not
reach across a mark, and the marks say where it is looked for.
-/

namespace OpenSnow.Compat.Rewriter

open Foundation
open Rust.Text

/-! ## Texts without the keyword -/

/-- No keyword is found in the text. -/
def Silent (keyword : List Char) (nesting : Nesting) (before : Option Char) :
    List Char → Prop
  | [] => True
  | ch :: rest =>
      ¬ ((nesting.next ch).Searched ∧
          StandsAt keyword before (ch :: rest)) ∧
        Silent keyword (nesting.next ch) (some ch) rest

variable {keyword word rest : List Char} {nesting : Nesting}
variable {before : Option Char}

theorem keywordLoop_eq_none_iff {i : Nat} :
    keywordLoop keyword nesting before i rest = none ↔
      Silent keyword nesting before rest := by
  induction rest generalizing nesting before i with
  | nil => simp [keywordLoop, Silent]
  | cons ch rest ih =>
      rw [keywordLoop, Silent]
      split
      · simp [*]
      · rename_i absent
        rw [ih, and_iff_right absent]

theorem isEdge_none : IsEdge none := by
  rintro ch ⟨⟩

theorem isEdge_head?_append (ends : IsEdge rest.head?)
    (edge : IsEdge word.head?) : IsEdge (word ++ rest).head? := by
  cases word with
  | nil => exact ends
  | cons ch word => exact edge

/-- Whether a keyword stands in front of a text is decided up to an edge. -/
theorem standsAt_append (isWord : ∀ ch ∈ keyword, ch.isAlphanum)
    (edge : IsEdge rest.head?) :
    StandsAt keyword before (word ++ rest) ↔ StandsAt keyword before word := by
  have stops : Stops Char.isAlphanum rest := edge
  rw [StandsAt, StandsAt]
  constructor
  · rintro ⟨begins, start, stop⟩
    have inside := prefix_of_stops isWord stops begins
    rw [List.drop_append_of_le_length inside.length_le] at stop
    refine ⟨inside, start, ?_⟩
    cases left : word.drop keyword.length with
    | nil => exact isEdge_none
    | cons ch more =>
        rw [left] at stop
        exact stop
  · rintro ⟨inside, start, stop⟩
    refine ⟨inside.trans (List.prefix_append word rest), start, ?_⟩
    rw [List.drop_append_of_le_length inside.length_le]
    exact isEdge_head?_append edge stop

/-- An edge divides the search. -/
theorem silent_append (isWord : ∀ ch ∈ keyword, ch.isAlphanum)
    (edge : IsEdge rest.head?) :
    Silent keyword nesting before (word ++ rest) ↔
      Silent keyword nesting before word ∧
        Silent keyword (word.foldl Nesting.next nesting)
          (word.getLast?.or before) rest := by
  induction word generalizing nesting before with
  | nil => simp [Silent]
  | cons ch word ih =>
      have stands := @standsAt_append keyword (ch :: word) rest before isWord edge
      rw [List.cons_append] at stands ⊢
      rw [Silent, Silent, stands, ih, List.foldl_cons,
        getLast?_cons_or, and_assoc]

/-- Where the keyword cannot start it is not found. -/
theorem silent_skip (absent : ∀ ch ∈ word, keyword.head? ≠ some ch)
    (nonempty : keyword ≠ []) :
    Silent keyword nesting before (word ++ rest) ↔
      Silent keyword (word.foldl Nesting.next nesting)
        (word.getLast?.or before) rest := by
  induction word generalizing nesting before with
  | nil => simp
  | cons ch word ih =>
      have notHere : ¬ StandsAt keyword before (ch :: (word ++ rest)) := by
        rintro ⟨begins, -⟩
        cases keyword with
        | nil => exact nonempty rfl
        | cons first keyword =>
            rw [List.cons_prefix_cons] at begins
            exact absent ch List.mem_cons_self (congrArg some begins.1)
      rw [List.cons_append, Silent, and_iff_right fun both => notHere both.2,
        ih fun other member => absent other (List.mem_cons_of_mem ch member),
        List.foldl_cons, getLast?_cons_or]

/-- What stands before a text matters as far as it is no edge. -/
theorem silent_of_isEdge (edge : IsEdge before) :
    Silent keyword nesting before rest ↔ Silent keyword nesting none rest := by
  cases rest with
  | nil => rfl
  | cons ch rest =>
      rw [Silent, Silent, StandsAt, StandsAt, and_iff_right edge,
        and_iff_right isEdge_none]

/-- The characters that change where a keyword is looked for. -/
def changesNesting (ch : Char) : Bool := ch == '\'' || ch == '(' || ch == ')'

theorem Nesting.next_of_quiet {ch : Char} (quiet : changesNesting ch = false) :
    nesting.next ch = nesting := by
  simp only [changesNesting, Bool.or_eq_false_iff, beq_eq_false_iff_ne] at quiet
  rcases quiet with ⟨⟨notQuote, notOpening⟩, notClosing⟩
  rw [next, if_neg notQuote, if_neg notOpening, if_neg notClosing, ite_self]

theorem foldl_next_of_quiet (quiet : ∀ ch ∈ word, changesNesting ch = false) :
    word.foldl Nesting.next nesting = nesting := by
  induction word with
  | nil => rfl
  | cons ch word ih =>
      rw [List.foldl_cons, Nesting.next_of_quiet (quiet ch List.mem_cons_self)]
      exact ih fun other member => quiet other (List.mem_cons_of_mem ch member)

/-- A word is searched as a text of its own, or not at all. -/
theorem silent_of_quiet (quiet : ∀ ch ∈ word, changesNesting ch = false) :
    Silent keyword nesting before word ↔
      (nesting.Searched → Silent keyword .start before word) := by
  have searchedStart : Nesting.start.Searched := by decide
  induction word generalizing before with
  | nil => simp [Silent]
  | cons ch word ih =>
      have here := quiet ch List.mem_cons_self
      have later :
          Silent keyword nesting (some ch) word ↔
            (nesting.Searched → Silent keyword .start (some ch) word) :=
        ih fun other member => quiet other (List.mem_cons_of_mem ch member)
      rw [Silent, Silent, Nesting.next_of_quiet here, Nesting.next_of_quiet here,
        later]
      by_cases searched : nesting.Searched
      · simp [searched, searchedStart]
      · simp [searched]

/-- In front of an edge it does not matter what stands before. -/
theorem silent_of_head (isWord : ∀ ch ∈ keyword, ch.isAlphanum)
    (nonempty : keyword ≠ []) (edge : IsEdge rest.head?) :
    Silent keyword nesting before rest ↔ Silent keyword nesting none rest := by
  cases rest with
  | nil => rfl
  | cons ch rest =>
      have notHere (other : Option Char) :
          ¬ StandsAt keyword other (ch :: rest) := by
        rintro ⟨begins, -⟩
        cases keyword with
        | nil => exact nonempty rfl
        | cons first keyword =>
            rw [List.cons_prefix_cons] at begins
            have letter := isWord first List.mem_cons_self
            rw [begins.1, edge ch rfl] at letter
            cases letter
      rw [Silent, Silent, and_iff_right fun both => notHere before both.2,
        and_iff_right fun both => notHere none both.2]

/-! ## Upper-case forms -/

section

variable {ch : Char}

theorem isAlphanum_upper_of_mark (isMark : isPathChar ch = false)
    {head : Char} (member : head ∈ charToUppercase ch) :
    head.isAlphanum = false := by
  rw [isPathChar, isNameChar, Bool.or_eq_false_iff, Bool.or_eq_false_iff]
    at isMark
  rw [Bool.eq_false_iff]
  intro named
  rw [isAlphanumeric_of_mem member named] at isMark
  cases isMark.1.1

theorem isEdge_upper_of_mark (isMark : isPathChar ch = false) :
    IsEdge (charToUppercase ch ++ rest).head? := by
  cases form : charToUppercase ch with
  | nil => exact absurd form (charToUppercase_ne_nil ch)
  | cons head more =>
      intro first isFirst
      obtain rfl : head = first := Option.some.inj isFirst
      apply isAlphanum_upper_of_mark isMark
      rw [form]
      exact List.mem_cons_self

/-- Only the quote and the parentheses have themselves in upper case. -/
theorem eq_of_changesNesting {head : Char} (member : head ∈ charToUppercase ch)
    (changes : changesNesting head) : ch = head := by
  simp only [changesNesting, Bool.or_eq_true, beq_iff_eq] at changes
  apply eq_of_mem_charToUppercase member
  · rcases changes with (rfl | rfl) | rfl <;> decide
  · rcases changes with (rfl | rfl) | rfl <;> decide

theorem quiet_upperChars (isPath : ∀ ch ∈ word, isPathChar ch) :
    ∀ ch ∈ upperChars word, changesNesting ch = false := by
  intro head member
  rcases List.mem_flatMap.mp member with ⟨ch, inWord, inUpper⟩
  rw [Bool.eq_false_iff]
  intro changes
  have path := isPath ch inWord
  rw [eq_of_changesNesting inUpper changes] at path
  simp only [changesNesting, Bool.or_eq_true, beq_iff_eq] at changes
  rcases changes with (rfl | rfl) | rfl
  · exact absurd path (by decide)
  · exact absurd path (by decide)
  · exact absurd path (by decide)

theorem foldl_next_upper :
    (charToUppercase ch).foldl Nesting.next nesting = nesting.next ch := by
  by_cases changes : changesNesting ch
  · have form : charToUppercase ch = [ch] := by
      simp only [changesNesting, Bool.or_eq_true, beq_iff_eq] at changes
      rcases changes with (rfl | rfl) | rfl <;> decide
    rw [form]
    rfl
  · rw [Bool.not_eq_true] at changes
    rw [foldl_next_of_quiet, Nesting.next_of_quiet changes]
    intro head member
    rw [Bool.eq_false_iff]
    intro headChanges
    rw [eq_of_changesNesting member headChanges, headChanges] at changes
    cases changes

end

/-! ## Words and marks -/

/-- The search finds no `QUALIFY` in a text. -/
def Unqualified (text : List Char) : Prop :=
  findKeyword (upperChars text) qualifyWord = none

instance (text : List Char) : Decidable (Unqualified text) :=
  inferInstanceAs (Decidable (_ = _))

theorem unqualified_iff {text : List Char} :
    Unqualified text ↔ Silent qualifyWord .start none (upperChars text) :=
  keywordLoop_eq_none_iff

theorem isWord_qualifyWord : ∀ ch ∈ qualifyWord, ch.isAlphanum :=
  List.all_eq_true.mp (by decide)

theorem qualifyWord_ne_nil : qualifyWord ≠ [] := by decide

theorem silent_word (isPath : ∀ ch ∈ word, isPathChar ch)
    (edge : IsEdge rest.head?) :
    Silent qualifyWord nesting none (upperChars word ++ rest) ↔
      (nesting.Searched → Unqualified word) ∧
        Silent qualifyWord nesting none rest := by
  have quiet := quiet_upperChars isPath
  rw [silent_append isWord_qualifyWord edge, silent_of_quiet quiet,
    foldl_next_of_quiet quiet, unqualified_iff,
    silent_of_head isWord_qualifyWord qualifyWord_ne_nil edge]

theorem silent_mark {ch : Char} (isMark : isPathChar ch = false) :
    Silent qualifyWord nesting none (charToUppercase ch ++ rest) ↔
      Silent qualifyWord (nesting.next ch) none rest := by
  have noLetter : ∀ head ∈ charToUppercase ch, head.isAlphanum = false :=
    fun head => isAlphanum_upper_of_mark isMark
  rw [silent_skip _ qualifyWord_ne_nil, foldl_next_upper, silent_of_isEdge]
  · intro last isLast
    cases form : (charToUppercase ch).getLast? with
    | none =>
        rw [form] at isLast
        cases isLast
    | some final =>
        rw [form] at isLast
        cases isLast
        exact noLetter last (List.mem_of_getLast? form)
  · rintro head member start
    have letter := noLetter head member
    rw [qualifyWord] at start
    cases start
    cases letter

/-! ## Pieces -/

def original (pieces : List Piece) : List Char :=
  pieces.flatMap Piece.original

section

variable {pieces : List Piece}

@[simp]
theorem original_nil : original [] = [] := rfl

@[simp]
theorem original_word (text : List Char) :
    original (.word text :: pieces) = text ++ original pieces := rfl

@[simp]
theorem original_mark (ch : Char) :
    original (.mark ch :: pieces) = ch :: original pieces := rfl

@[simp]
theorem original_access (column path : List Char) :
    original (.access column path :: pieces) =
      column ++ ':' :: (path ++ original pieces) := by
  simp [original, Piece.original]

end

/--
Marks stand between the words and accesses.  With `started` a word goes on, and
no other follows.
-/
def Formed (started : Bool) : List Piece → Prop
  | [] => True
  | .word word :: pieces =>
      (started → word = []) ∧ (∀ ch ∈ word, isPathChar ch) ∧ Formed true pieces
  | .mark ch :: pieces => isPathChar ch = false ∧ Formed false pieces
  | .access column path :: pieces =>
      started = false ∧ (∀ ch ∈ column, isPathChar ch) ∧
        (∀ ch ∈ path, isPathChar ch) ∧ Formed true pieces

/-- The pieces that a reader gives are formed, and are those of the text. -/
theorem Reader.formed_pieces {State : Type} {reader : Reader State}
    (proper : ∀ path, reader.isAccess [] path = false) {inPath : Bool}
    {run : List Char} (apart : inPath → run = [])
    (isRun : ∀ ch ∈ run, isPathChar ch) (state : State) (text : List Char) :
    Formed inPath (reader.pieces inPath state run text) := by
  induction text generalizing inPath run state with
  | nil => exact ⟨apart, isRun, trivial⟩
  | cons ch rest ih =>
      by_cases isPath : isPathChar ch
      · rw [pieces_path isPath]
        cases inPath with
        | true => exact ih (fun _ => apart rfl) isRun _
        | false =>
            apply ih (by simp)
            simpa [or_imp, forall_and] using ⟨isRun, isPath⟩
      · rw [Bool.not_eq_true] at isPath
        by_cases taken : ch = ':' ∧ reader.live state ∧
            reader.isAccess run (rest.takeWhile isPathChar)
        · rcases taken with ⟨rfl, live, isAccess⟩
          rw [pieces_access live isAccess]
          refine ⟨?_, isRun, fun ch member => List.mem_takeWhile_imp member,
            ih (by simp) (by simp) _⟩
          rw [Bool.eq_false_iff]
          intro going
          rw [apart going, proper] at isAccess
          cases isAccess
        · rw [pieces_mark isPath taken]
          exact ⟨apart, isRun, isPath, ih (by simp) (by simp) _⟩

theorem Reader.original_pieces {State : Type} (reader : Reader State)
    (inPath : Bool) (state : State) (run text : List Char) :
    original (reader.pieces inPath state run text) =
      run ++ if inPath then text.dropWhile isPathChar else text := by
  induction text generalizing inPath run state with
  | nil => cases inPath <;> simp
  | cons ch rest ih =>
      by_cases isPath : isPathChar ch
      · rw [pieces_path isPath, ih]
        cases inPath <;> simp [isPath]
      · rw [Bool.not_eq_true] at isPath
        have stays : (ch :: rest).dropWhile isPathChar = ch :: rest :=
          dropWhile_of_stops (stops_cons.mpr isPath)
        rw [stays, ite_self]
        by_cases taken : ch = ':' ∧ reader.live state ∧
            reader.isAccess run (rest.takeWhile isPathChar)
        · rcases taken with ⟨rfl, live, isAccess⟩
          rw [pieces_access live isAccess, original_access, ih, if_pos rfl,
            List.nil_append, List.takeWhile_append_dropWhile]
        · rw [pieces_mark isPath taken, original_word, original_mark, ih,
            if_neg Bool.false_ne_true, List.nil_append]

/-- No word that is searched is the keyword. -/
def WordsSilent (nesting : Nesting) : List Piece → Prop
  | [] => True
  | .word word :: pieces =>
      (nesting.Searched → Unqualified word) ∧ WordsSilent nesting pieces
  | .mark ch :: pieces => WordsSilent (nesting.next ch) pieces
  | .access column path :: pieces =>
      (nesting.Searched → Unqualified column ∧ Unqualified path) ∧
        WordsSilent nesting pieces

/--
No path has the keyword where its new quotes end what the search takes for a
string.
-/
def PathsSilent (nesting : Nesting) : List Piece → Prop
  | [] => True
  | .word _ :: pieces => PathsSilent nesting pieces
  | .mark ch :: pieces => PathsSilent (nesting.next ch) pieces
  | .access _ path :: pieces =>
      (nesting.inString ∧ nesting.depth ≤ 0 → Unqualified path) ∧
        PathsSilent nesting pieces

variable {pieces : List Piece}

/-- Behind a word or an access the text goes on with an edge. -/
theorem isEdge_upper_original (formed : Formed true pieces) :
    IsEdge (upperChars (original pieces)).head? := by
  induction pieces with
  | nil => exact isEdge_none
  | cons piece pieces ih =>
      cases piece with
      | word word =>
          rw [original_word, formed.1 rfl]
          exact ih formed.2.2
      | mark ch => exact isEdge_upper_of_mark formed.1
      | access column path => cases formed.1

theorem upperChars_cons (ch : Char) (text : List Char) :
    upperChars (ch :: text) = charToUppercase ch ++ upperChars text :=
  List.flatMap_cons

/-- The search of a text goes by its words. -/
theorem silent_original {started : Bool} (formed : Formed started pieces) :
    Silent qualifyWord nesting none (upperChars (original pieces)) ↔
      WordsSilent nesting pieces := by
  induction pieces generalizing started nesting with
  | nil => simp [Silent, WordsSilent, upperChars]
  | cons piece pieces ih =>
      cases piece with
      | word word =>
          rw [original_word, upperChars_append,
            silent_word formed.2.1 (isEdge_upper_original formed.2.2),
            ih formed.2.2, WordsSilent]
      | mark ch =>
          rw [original_mark, upperChars_cons, silent_mark formed.1,
            ih formed.2, WordsSilent]
      | access column path =>
          rcases formed with ⟨-, isColumn, isPath, formed⟩
          have colon : isPathChar ':' = false := by decide
          have next : nesting.next ':' = nesting :=
            Nesting.next_of_quiet (by decide)
          rw [original_access, upperChars_append, upperChars_cons,
            upperChars_append, silent_word isColumn (isEdge_upper_of_mark colon),
            silent_mark colon, next,
            silent_word isPath (isEdge_upper_original formed), ih formed,
            WordsSilent]
          tauto

/-! ## Accesses that are spelled out -/

/-- The words and marks of the call that an access becomes. -/
def Piece.spelled : Piece → List Piece
  | .access column path =>
      [.word ['g', 'e', 't', '_', 'p', 'a', 't', 'h'], .mark '(',
        .word column, .mark ',', .word [], .mark ' ', .word [], .mark '\'',
        .word path, .mark '\'', .word [], .mark ')']
  | piece => [piece]

def spelled (pieces : List Piece) : List Piece := pieces.flatMap Piece.spelled

theorem pathOpening_eq :
    pathOpening = ['g', 'e', 't', '_', 'p', 'a', 't', 'h', '('] := by decide

theorem pathQuote_eq : pathQuote = [',', ' ', '\''] := by decide

theorem original_spelled (pieces : List Piece) :
    original (spelled pieces) = rewritten pieces := by
  induction pieces with
  | nil => rfl
  | cons piece pieces ih =>
      rw [spelled, List.flatMap_cons, ← spelled, original, List.flatMap_append,
        ← original, ← original, ih]
      cases piece with
      | word word => simp [Piece.spelled]
      | mark ch => simp [Piece.spelled]
      | access column path =>
          simp [Piece.spelled, getPath, pathOpening_eq, pathQuote_eq]

theorem Formed.weaken (formed : Formed true pieces) :
    Formed false pieces := by
  cases pieces with
  | nil => trivial
  | cons piece pieces =>
      cases piece with
      | word word => exact ⟨by simp, formed.2⟩
      | mark ch => exact formed
      | access column path => cases formed.1

theorem Formed.spelled {started : Bool}
    (formed : Formed started pieces) : Formed started (spelled pieces) := by
  induction pieces generalizing started with
  | nil => trivial
  | cons piece pieces ih =>
      cases piece with
      | word word => exact ⟨formed.1, formed.2.1, ih formed.2.2⟩
      | mark ch => exact ⟨formed.1, ih formed.2⟩
      | access column path =>
          rcases formed with ⟨rfl, isColumn, isPath, formed⟩
          have name : ∀ ch ∈ ['g', 'e', 't', '_', 'p', 'a', 't', 'h'],
              isPathChar ch := List.all_eq_true.mp (by decide)
          have empty : ∀ ch ∈ ([] : List Char), isPathChar ch := by simp
          exact
            ⟨by simp, name, by decide, by simp, isColumn, by decide, by simp,
              empty, by decide, by simp, empty, by decide, by simp, isPath,
              by decide, by simp, empty, by decide, (ih formed).weaken⟩

/-- What the search reads of the call of an access. -/
theorem wordsSilent_access {column path : List Char} :
    WordsSilent nesting (spelled (.access column path :: pieces)) ↔
      (nesting.inString = false ∧ nesting.depth + 1 ≤ 0 →
          Unqualified column) ∧
        (nesting.inString = true ∧ nesting.depth ≤ 0 → Unqualified path) ∧
          WordsSilent nesting (spelled pieces) := by
  have name : Unqualified ['g', 'e', 't', '_', 'p', 'a', 't', 'h'] := by decide
  have empty : Unqualified [] := by decide
  rcases nesting with ⟨depth, inString⟩
  cases inString with
  | true =>
      simp [spelled, Piece.spelled, WordsSilent, Nesting.next,
        Nesting.Searched, name, empty]
  | false =>
      simp [spelled, Piece.spelled, WordsSilent, Nesting.next,
        Nesting.Searched, name, empty]

/--
If the words of a text have no keyword, its rewritten form has none exactly if
no path gets one.
-/
theorem wordsSilent_spelled (silent : WordsSilent nesting pieces) :
    WordsSilent nesting (spelled pieces) ↔ PathsSilent nesting pieces := by
  induction pieces generalizing nesting with
  | nil => simp [spelled, WordsSilent, PathsSilent]
  | cons piece pieces ih =>
      cases piece with
      | word word =>
          have later := ih silent.2
          exact (and_iff_right silent.1).trans later
      | mark ch => exact ih silent
      | access column path =>
          rw [wordsSilent_access, ih silent.2, PathsSilent]
          refine and_iff_right ?_
          rintro ⟨outside, below⟩
          exact (silent.1 ⟨outside, by omega⟩).1

theorem unqualified_rewritten_iff (formed : Formed false pieces)
    (silent : Unqualified (original pieces)) :
    Unqualified (rewritten pieces) ↔ PathsSilent .start pieces := by
  rw [unqualified_iff, silent_original formed] at silent
  rw [← original_spelled, unqualified_iff, silent_original formed.spelled,
    wordsSilent_spelled silent]

end OpenSnow.Compat.Rewriter
