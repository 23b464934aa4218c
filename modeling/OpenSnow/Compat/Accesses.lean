import OpenSnow.Compat.KeywordSearch
import OpenSnow.Sql.Lexer
import OpenSnow.Sql.Reading

/-!
# What the rewriter touches

In SQL an access is a dotted name, a colon and a dotted name, outside of
strings, quoted names and comments.  The rewriter should replace each access by
a call and leave all other characters alone.
-/

namespace OpenSnow.Compat.Rewriter

open Rust.Text
open Sql

/-! ## Accesses of SQL -/

/-- A name starts with no digit. -/
def isName : List Char → Bool
  | [] => false
  | first :: rest => isNameChar first && !first.isDigit && rest.all isNameChar

/-- Names with dots between them. -/
def isDotted (text : List Char) : Bool := (text.splitOnP (· == '.')).all isName

/-- A reader that knows quotes and comments. -/
def sqlReader : Reader Reading where
  next := Reading.next true
  live := fun reading => reading == .plain
  isAccess := fun column path => isDotted column && isDotted path

def reads (sql : List Char) : List Piece := sqlReader.pieces false .plain [] sql

/-- The text with a call for each access. -/
def accessed (sql : List Char) : List Char := rewritten (reads sql)

/--
The rewriter replaces the accesses of a text and no more, and finds nothing to
replace in the result.
-/
def ReplacesAccesses (sql : List Char) : Prop :=
  rewriteSnowflakeSql sql = some (accessed sql) ∧
    rewriteSnowflakeSql (accessed sql) = some (accessed sql)

/-! ## Readers that agree -/

section

variable {Left Right : Type}

/--
At every colon either both readers take an access or none of them.  They have
the same word before the colon as long as they agree.
-/
def Reader.Agrees (left : Reader Left) (right : Reader Right) (inPath : Bool)
    (leftState : Left) (rightState : Right) (run : List Char) :
    List Char → Prop
  | [] => True
  | ch :: rest =>
      let path := rest.takeWhile isPathChar
      let leftNext := left.next leftState ch rest
      let rightNext := right.next rightState ch rest
      if isPathChar ch then
        left.Agrees right inPath leftNext rightNext
          (if inPath then run else run ++ [ch]) rest
      else if ch = ':' then
        (left.live leftState && left.isAccess run path) =
            (right.live rightState && right.isAccess run path) ∧
          left.Agrees right (left.live leftState && left.isAccess run path)
            leftNext rightNext [] rest
      else left.Agrees right false leftNext rightNext [] rest

/-- A call starts with no word that a colon follows. -/
theorem pathOpening_append_ne {column rest more : List Char}
    (isColumn : ∀ ch ∈ column, isPathChar ch) :
    pathOpening ++ (column ++ rest) ≠ column ++ ':' :: more := by
  intro same
  have notOpening : ':' ∉ pathOpening := by decide
  have notColumn : ':' ∉ column := fun member =>
    absurd (isColumn ':' member) (by decide)
  have taken := congrArg (List.take (pathOpening ++ column).length) same
  rw [← List.append_assoc, List.take_left, List.take_append] at taken
  have inside : ':' ∈ pathOpening ++ column := by
    rw [taken, List.mem_append]
    right
    have length : (pathOpening ++ column).length - column.length = 9 := by
      rw [List.length_append, Nat.add_sub_cancel]
      rfl
    rw [length, List.take_succ_cons]
    exact List.mem_cons_self
  rcases List.mem_append.mp inside with member | member
  · exact notOpening member
  · exact notColumn member

theorem getPath_ne {column path rest more : List Char}
    (isColumn : ∀ ch ∈ column, isPathChar ch) :
    getPath column path ++ rest ≠ column ++ ':' :: more := by
  simp only [getPath, List.append_assoc]
  exact pathOpening_append_ne isColumn

theorem Reader.pieces_colon {State : Type} {reader : Reader State}
    {inPath : Bool} {state : State} {run rest : List Char} :
    reader.pieces inPath state run (':' :: rest) =
      if reader.live state && reader.isAccess run (rest.takeWhile isPathChar)
      then
        .access run (rest.takeWhile isPathChar) ::
          reader.pieces true (reader.next state ':' rest) [] rest
      else
        .word run :: .mark ':' ::
          reader.pieces false (reader.next state ':' rest) [] rest := by
  split
  · rename_i taken
    rw [Bool.and_eq_true] at taken
    exact pieces_access taken.1 taken.2
  · rename_i notTaken
    rw [Bool.and_eq_true] at notTaken
    exact pieces_mark (by decide) fun taken => notTaken taken.2

/-- Readers give the same rewritten text exactly if they agree. -/
theorem Reader.rewritten_eq_iff {left : Reader Left} {right : Reader Right}
    {inPath : Bool} {run : List Char} (isRun : ∀ ch ∈ run, isPathChar ch)
    (leftState : Left) (rightState : Right) (text : List Char) :
    rewritten (left.pieces inPath leftState run text) =
        rewritten (right.pieces inPath rightState run text) ↔
      left.Agrees right inPath leftState rightState run text := by
  induction text generalizing inPath run leftState rightState with
  | nil => simp [Agrees]
  | cons ch rest ih =>
      rw [Agrees]
      by_cases isPath : isPathChar ch
      · rw [pieces_path isPath, pieces_path isPath, if_pos isPath]
        apply ih
        cases inPath with
        | true => exact isRun
        | false => simpa [or_imp, forall_and] using ⟨isRun, isPath⟩
      · rw [if_neg isPath]
        rw [Bool.not_eq_true] at isPath
        by_cases colon : ch = ':'
        · obtain rfl := colon
          rw [if_pos rfl, pieces_colon, pieces_colon]
          cases left.live leftState && left.isAccess run _ with
          | true =>
              cases right.live rightState && right.isAccess run _ with
              | true => simpa using ih (by simp) _ _
              | false => simpa using getPath_ne isRun
          | false =>
              cases right.live rightState && right.isAccess run _ with
              | true => simpa using (getPath_ne isRun).symm
              | false => simpa using ih (by simp) _ _
        · rw [if_neg colon, pieces_mark isPath fun taken => colon taken.1,
            pieces_mark isPath fun taken => colon taken.1]
          simpa using ih (by simp) _ _

end

/-!
## The weight of a text

Characters count that are neither blank nor any of those that a call of
`get_path` consists of.  A call has the weight of its access, and the other
passes make a text heavier.
-/

def isHeavy (ch : Char) : Bool :=
  !isWhitespace ch && !"get_path(, '):".toList.contains ch

def weight (text : List Char) : Nat := text.countP isHeavy

@[simp]
theorem weight_append (front back : List Char) :
    weight (front ++ back) = weight front + weight back :=
  List.countP_append

@[simp]
theorem weight_cons (ch : Char) (rest : List Char) :
    weight (ch :: rest) = weight rest + if isHeavy ch then 1 else 0 :=
  List.countP_cons

theorem weight_trim (text : List Char) : weight (trim text) = weight text := by
  have light {blanks : List Char} (blank : Blank blanks) : weight blanks = 0 := by
    rw [weight, List.countP_eq_zero]
    intro ch member
    rw [isHeavy, blank ch member]
    simp
  rcases trim_shape text with ⟨before, after, shape, front, back⟩
  have total := congrArg weight shape
  rw [weight_append, weight_append, light front, light back] at total
  omega

theorem weight_rewritten (pieces : List Piece) :
    weight (rewritten pieces) = weight (original pieces) := by
  have opening : weight pathOpening = 0 := by decide
  have quote : weight pathQuote = 0 := by decide
  have closing : weight ['\'', ')'] = 0 := by decide
  have colon : isHeavy ':' = false := by decide
  induction pieces with
  | nil => rfl
  | cons piece pieces ih =>
      cases piece with
      | word word => rw [rewritten_word, original_word, weight_append, ih, weight_append]
      | mark ch => rw [rewritten_mark, original_mark, weight_cons, ih, weight_cons]
      | access column path =>
          simp only [rewritten_access, original_access, getPath, weight_append,
            weight_cons, opening, quote, closing, colon, ih]
          simp
          omega

theorem weight_le (text : List Char) : weight text ≤ text.length :=
  List.countP_le_length

theorem length_le_utf8Len (text : List Char) : text.length ≤ utf8Len text := by
  induction text with
  | nil => exact Nat.le_refl 0
  | cons ch rest ih =>
      have positive := ch.utf8Size_pos
      rw [utf8Len_cons, List.length_cons]
      omega

theorem original_scanned (sql : List Char) : original (scanned sql) = sql := by
  rw [scanned, Reader.original_pieces, List.nil_append, if_neg (by simp)]

theorem original_reads (sql : List Char) : original (reads sql) = sql := by
  rw [reads, Reader.original_pieces, List.nil_append, if_neg (by simp)]

variable {sql out : List Char}

theorem weight_rewriteColonPath
    (rewrites : rewriteColonPath sql = some out) : weight out = weight sql := by
  rw [rewriteColonPath_eq] at rewrites
  split at rewrites
  · rw [← Option.some.inj rewrites, weight_rewritten, original_scanned]
  · cases rewrites

theorem weight_rewriteQualify (rewrites : rewriteQualify sql = some out) :
    Unqualified sql ∧ out = sql ∨ weight sql < weight out := by
  cases found : findKeyword (upperChars sql) qualifyWord with
  | none =>
      rw [rewriteQualify_of_none found] at rewrites
      exact Or.inl ⟨found, (Option.some.inj rewrites).symm⟩
  | some pos =>
      right
      rcases Option.map_eq_some_iff.mp rewrites with ⟨parts, cut, rfl⟩
      cases parts with
      | none => exact absurd cut (qualifyParts_ne_none found)
      | some parts =>
          rcases (qualifyParts_eq_some_iff found).mp cut with
            ⟨front, keyword, back, rfl, -, length, inner, condition⟩
          have opening : weight subqueryOpening = 11 := by decide
          have closing : weight subqueryClosing = 8 := by decide
          have short : weight keyword ≤ 7 := by
            have bytes := length_le_utf8Len keyword
            have count := weight_le keyword
            omega
          simp only [filtered, inner, condition, weight_append, weight_trim,
            opening, closing]
          omega

/-- The first pass rewrites a text that begins with the words and has an `AS`. -/
def Replaces (sql : List Char) : Prop :=
  replaceWords <+: upperChars sql ∧ asWord <:+: upperChars sql

instance (sql : List Char) : Decidable (Replaces sql) :=
  inferInstanceAs (Decidable (_ ∧ _))

theorem weight_replaced (sql : List Char) :
    ¬ Replaces sql ∧ replaced sql = sql ∨ weight sql < weight (replaced sql) := by
  rw [replaced]
  split
  · right
    have drop : weight dropTable = 17 := by decide
    have create : weight createTable = 12 := by decide
    have parts := congrArg weight
      (List.take_append_drop replaceWords.length sql)
    have count := weight_le (sql.take replaceWords.length)
    have short := List.length_take_le replaceWords.length sql
    have words : replaceWords.length = 23 := by decide
    rw [weight_append] at parts
    simp only [dropAndCreate, definition, weight_append, weight_trim, drop,
      create]
    omega
  · rename_i stays
    exact Or.inl ⟨stays, rfl⟩

/-- A rewritten text of the same weight comes from the last pass alone. -/
theorem rewrite_of_weight (rewrites : rewriteSnowflakeSql sql = some out)
    (same : weight out = weight sql) :
    ¬ Replaces sql ∧ Unqualified sql ∧ rewriteColonPath sql = some out := by
  rw [rewriteSnowflakeSql_eq] at rewrites
  rcases Option.bind_eq_some_iff.mp rewrites with ⟨text, pass, last⟩
  have final := weight_rewriteColonPath last
  rcases weight_replaced sql with ⟨stays, first⟩ | heavier
  · rw [first] at pass
    rcases weight_rewriteQualify pass with ⟨silent, rfl⟩ | heavier
    · exact ⟨stays, silent, last⟩
    · omega
  · rcases weight_rewriteQualify pass with ⟨-, rfl⟩ | still
    · omega
    · omega

theorem rewrite_of_inert {sql : List Char} (stays : ¬ Replaces sql)
    (silent : Unqualified sql) :
    rewriteSnowflakeSql sql = rewriteColonPath sql := by
  have first : replaced sql = sql := if_neg stays
  rw [rewriteSnowflakeSql_eq, first, rewriteQualify_of_none silent,
    Option.bind_some]

/-!
## What a rewritten text begins with and has

A call brings a `G` along, and no blank with a letter on both sides.
-/

theorem prefix_append_mono {start front back other : List Char}
    (begins : start <+: front ++ back)
    (mono : ∀ more, start = front ++ more → more <+: back → more <+: other) :
    start <+: front ++ other := by
  rcases List.prefix_or_prefix_of_prefix begins (List.prefix_append front back) with
    short | ⟨more, rfl⟩
  · exact short.trans (List.prefix_append front other)
  · rw [List.prefix_append_right_inj] at begins ⊢
    exact mono more rfl begins

theorem upperChars_getPath (column path : List Char) :
    ∃ more, upperChars (getPath column path) = 'G' :: more := by
  rw [getPath, pathOpening_eq]
  exact ⟨_, rfl⟩

variable {pieces : List Piece}

theorem prefix_of_rewritten {start : List Char} (absent : 'G' ∉ start)
    (begins : start <+: upperChars (rewritten pieces)) :
    start <+: upperChars (original pieces) := by
  induction pieces generalizing start with
  | nil => exact begins
  | cons piece pieces ih =>
      have onwards {front : List Char} :
          ∀ more, start = front ++ more →
            more <+: upperChars (rewritten pieces) →
              more <+: upperChars (original pieces) := by
        rintro more rfl begins
        exact ih (fun member => absent (List.mem_append_right front member)) begins
      cases piece with
      | word word =>
          rw [rewritten_word, upperChars_append] at begins
          rw [original_word, upperChars_append]
          exact prefix_append_mono begins onwards
      | mark ch =>
          rw [rewritten_mark, upperChars_cons] at begins
          rw [original_mark, upperChars_cons]
          exact prefix_append_mono begins onwards
      | access column path =>
          rcases upperChars_getPath column path with ⟨more, form⟩
          rw [rewritten_access, upperChars_append, form, List.cons_append]
            at begins
          cases start with
          | nil => exact List.nil_prefix
          | cons ch start =>
              rw [List.cons_prefix_cons] at begins
              rw [begins.1] at absent
              exact absurd List.mem_cons_self absent

theorem asWord_eq : asWord = [' ', 'A', 'S', ' '] := by decide

/-- `AS` between blanks starts with a blank. -/
theorem asWord_of_append {front back : List Char} (noBlank : ' ' ∉ front)
    (inside : asWord <:+: front ++ back) : asWord <:+: back := by
  induction front with
  | nil => exact inside
  | cons ch front ih =>
      rw [List.mem_cons, not_or] at noBlank
      rw [List.cons_append, List.infix_cons_iff, asWord_eq,
        List.cons_prefix_cons, ← asWord_eq] at inside
      rcases inside with ⟨blank, -⟩ | inside
      · exact absurd blank noBlank.1
      · exact ih noBlank.2 inside

theorem blank_notMem_upper {ch : Char} (notBlank : ch ≠ ' ') :
    ' ' ∉ charToUppercase ch := by
  intro member
  exact notBlank (eq_of_mem_charToUppercase member (by decide) (by decide))

theorem blank_notMem_word {word : List Char}
    (isPath : ∀ ch ∈ word, isPathChar ch) : ' ' ∉ upperChars word := by
  intro member
  rcases List.mem_flatMap.mp member with ⟨ch, inWord, inUpper⟩
  apply blank_notMem_upper _ inUpper
  rintro rfl
  exact absurd (isPath ' ' inWord) (by decide)

theorem asWord_of_call {column path rest : List Char}
    (isColumn : ∀ ch ∈ column, isPathChar ch)
    (isPath : ∀ ch ∈ path, isPathChar ch)
    (inside : asWord <:+: upperChars (getPath column path) ++ rest) :
    asWord <:+: rest := by
  have opening : upperChars pathOpening =
      ['G', 'E', 'T', '_', 'P', 'A', 'T', 'H', '('] := by decide
  have quote : upperChars pathQuote = [','] ++ [' ', '\''] := by decide
  have closing : upperChars ['\'', ')'] = ['\'', ')'] := by decide
  simp only [getPath, upperChars_append, List.append_assoc, opening, quote,
    closing] at inside
  have behindOpening := asWord_of_append (by decide) inside
  have behindColumn :=
    asWord_of_append (blank_notMem_word isColumn) behindOpening
  have behindComma := asWord_of_append (by decide) behindColumn
  rw [List.cons_append, List.infix_cons_iff] at behindComma
  rcases behindComma with begins | behindBlank
  · rw [asWord_eq, List.cons_append, List.cons_prefix_cons,
      List.cons_prefix_cons] at begins
    exact absurd begins.2.1 (by decide)
  · have behindQuote := asWord_of_append (by decide) behindBlank
    have behindPath := asWord_of_append (blank_notMem_word isPath) behindQuote
    exact asWord_of_append (by decide) behindPath

theorem asWord_of_rewritten {started : Bool} (formed : Formed started pieces)
    (inside : asWord <:+: upperChars (rewritten pieces)) :
    asWord <:+: upperChars (original pieces) := by
  induction pieces generalizing started with
  | nil => exact inside
  | cons piece pieces ih =>
      cases piece with
      | word word =>
          rw [rewritten_word, upperChars_append] at inside
          rw [original_word, upperChars_append]
          have later := asWord_of_append (blank_notMem_word formed.2.1) inside
          exact List.IsInfix.trans (ih formed.2.2 later) (List.suffix_append _ _).isInfix
      | mark ch =>
          rw [rewritten_mark, upperChars_cons] at inside
          rw [original_mark, upperChars_cons]
          by_cases blank : ch = ' '
          · obtain rfl := blank
            have upper : charToUppercase ' ' = [' '] := by decide
            rw [upper, List.singleton_append, List.infix_cons_iff] at inside ⊢
            rcases inside with begins | inside
            · left
              rw [asWord_eq, List.cons_prefix_cons] at begins ⊢
              exact ⟨rfl, prefix_of_rewritten (by decide) begins.2⟩
            · exact Or.inr (ih formed.2 inside)
          · have later := asWord_of_append (blank_notMem_upper blank) inside
            exact List.IsInfix.trans (ih formed.2 later) (List.suffix_append _ _).isInfix
      | access column path =>
          rcases formed with ⟨-, isColumn, isPath, formed⟩
          rw [rewritten_access, upperChars_append] at inside
          have later := asWord_of_call isColumn isPath inside
          rw [original_access, ← List.cons_append, ← List.append_assoc,
            upperChars_append]
          exact List.IsInfix.trans (ih formed later) (List.suffix_append _ _).isInfix

/-- What does not begin with the four words does not when it is rewritten. -/
theorem not_replaces_rewritten
    (formed : Formed false pieces) (stays : ¬ Replaces (original pieces)) :
    ¬ Replaces (rewritten pieces) := by
  rintro ⟨begins, inside⟩
  exact stays
    ⟨prefix_of_rewritten (by decide) begins, asWord_of_rewritten formed inside⟩

/-! ## Rewriting twice -/

theorem colonLoop_append {quote : Option Char} {front rest result : List Char}
    (noColon : ':' ∉ front) :
    colonLoop false quote result (front ++ rest) =
      colonLoop false (front.foldl quoteAfter quote) (result ++ front) rest := by
  induction front generalizing quote result with
  | nil => simp
  | cons ch front ih =>
      rw [List.mem_cons, not_or] at noColon
      rw [List.cons_append,
        colonLoop_mark (Or.inl rfl) fun taken => noColon.1 taken.2.1.symm,
        ih noColon.2, List.foldl_cons, List.append_assoc, List.singleton_append]

section

variable {quote : Option Char} {run : List Char}

theorem colon_notMem_word (isRun : ∀ ch ∈ run, isPathChar ch) : ':' ∉ run :=
  fun member => absurd (isRun ':' member) (by decide)

section

variable (quoted : ∀ other ∈ quote, isPathChar other = false)

include quoted

theorem quoteAfter_of_path
    {ch : Char} (isPath : isPathChar ch) : quoteAfter quote ch = quote := by
  cases quote with
  | none => exact quoteAfter_none_of_path isPath
  | some stringChar =>
      rw [quoteAfter, if_neg]
      rintro rfl
      rw [quoted ch rfl] at isPath
      cases isPath

theorem foldl_quoteAfter_word
    (isRun : ∀ ch ∈ run, isPathChar ch) : run.foldl quoteAfter quote = quote := by
  induction run with
  | nil => rfl
  | cons ch run ih =>
      rw [List.foldl_cons,
        quoteAfter_of_path quoted (isRun ch List.mem_cons_self)]
      exact ih fun other member => isRun other (List.mem_cons_of_mem ch member)

theorem quoted_quoteAfter
    (ch : Char) : ∀ other ∈ quoteAfter quote ch, isPathChar other = false := by
  cases quote with
  | none =>
      rw [quoteAfter]
      split
      · rename_i isQuote
        rintro other ⟨⟩
        rcases isQuote with rfl | rfl <;> decide
      · rintro other ⟨⟩
  | some stringChar =>
      rw [quoteAfter]
      split
      · rintro other ⟨⟩
      · exact quoted

end

/-- The quotes of a call are closed behind it, and it has no colon. -/
theorem foldl_quoteAfter_getPath {path : List Char}
    (isRun : ∀ ch ∈ run, isPathChar ch) (isPath : ∀ ch ∈ path, isPathChar ch) :
    (getPath run path).foldl quoteAfter none = none := by
  have single : ∀ other ∈ some '\'', isPathChar other = false := by
    rintro other ⟨⟩
    decide
  have opening : pathOpening.foldl quoteAfter none = none := by decide
  have opened : pathQuote.foldl quoteAfter none = some '\'' := by decide
  rw [getPath, List.foldl_append, List.foldl_append, List.foldl_append,
    List.foldl_append, opening, foldl_quoteAfter_word (by simp) isRun, opened,
    foldl_quoteAfter_word single isPath]
  rfl

theorem colon_notMem_getPath {path : List Char}
    (isRun : ∀ ch ∈ run, isPathChar ch) (isPath : ∀ ch ∈ path, isPathChar ch) :
    ':' ∉ getPath run path := by
  have opening : ':' ∉ pathOpening := by decide
  have opened : ':' ∉ pathQuote := by decide
  simp only [getPath, List.mem_append, not_or]
  exact
    ⟨⟨⟨⟨opening, colon_notMem_word isRun⟩, opened⟩, colon_notMem_word isPath⟩,
      by decide⟩

/-- The loop over a rewritten text takes no access. -/
theorem colonLoop_rewritten {inPath : Bool} {result : List Char}
    (plain : inPath → quote = none)
    (quoted : ∀ other ∈ quote, isPathChar other = false)
    (ends : ∀ ch ∈ result.getLast?, isPathChar ch = false)
    (isRun : ∀ ch ∈ run, isPathChar ch) (text : List Char) :
    colonLoop false quote result
        (rewritten (scanner.pieces inPath quote run text)) =
      some (result ++ rewritten (scanner.pieces inPath quote run text)) := by
  induction text generalizing inPath quote result run with
  | nil =>
      rw [Reader.pieces_nil, rewritten_word, rewritten_nil,
        colonLoop_append (colon_notMem_word isRun), colonLoop, List.append_nil]
  | cons ch rest ih =>
      by_cases isPath : isPathChar ch
      · have onwards : scanner.next quote ch rest = quote :=
          quoteAfter_of_path quoted isPath
        rw [Reader.pieces_path isPath, onwards]
        apply ih plain quoted ends
        cases inPath with
        | true => exact isRun
        | false => simpa [or_imp, forall_and] using ⟨isRun, isPath⟩
      · rw [Bool.not_eq_true] at isPath
        by_cases isAccess : quote = none ∧ ch = ':' ∧
            run.getLast?.any isNameChar
        · rcases isAccess with ⟨rfl, rfl, named⟩
          have inTaken : ∀ ch ∈ rest.takeWhile isPathChar, isPathChar ch :=
            fun ch member => List.mem_takeWhile_imp member
          have onwards : scanner.next none ':' rest = none := rfl
          rcases append_getPath result run (rest.takeWhile isPathChar) with
            ⟨front, shape⟩
          have closing : isPathChar ')' = false := by decide
          rw [Reader.pieces_access rfl named, onwards, rewritten_access,
            colonLoop_append (colon_notMem_getPath isRun inTaken),
            foldl_quoteAfter_getPath isRun inTaken, ← List.append_assoc]
          exact ih (fun _ => rfl) (by simp) (by rw [shape]; simp [closing])
            (by simp)
        · have notTaken : ¬ (quote = none ∧ ch = ':' ∧
              (result ++ run).getLast?.any isNameChar) := by
            rwa [getLast?_any_isNameChar ends]
          rw [Reader.pieces_mark isPath, rewritten_word, rewritten_mark,
            colonLoop_append (colon_notMem_word isRun),
            foldl_quoteAfter_word quoted isRun,
            colonLoop_mark (Or.inl rfl) notTaken]
          · have later := @ih (quoteAfter quote ch) [] false
              (result ++ run ++ [ch]) (by simp) (quoted_quoteAfter quoted ch)
              (by simpa using isPath) (by simp)
            have next : scanner.next quote ch rest = quoteAfter quote ch := rfl
            rw [next]
            simpa using later
          · rintro ⟨colon, live, named⟩
            exact isAccess ⟨Option.isNone_iff_eq_none.mp live, colon, named⟩

end

theorem rewriteColonPath_rewritten (sql : List Char) :
    rewriteColonPath (rewritten (scanned sql)) =
      some (rewritten (scanned sql)) :=
  colonLoop_rewritten (by simp) (by simp) (by simp) (by simp) sql

/-! ## The texts that the rewriter handles -/

/-- The accesses that the last pass takes are those of SQL. -/
def SeesAccesses (sql : List Char) : Prop :=
  scanner.Agrees sqlReader false none .plain [] sql

theorem rewritten_scanned_iff (sql : List Char) :
    rewritten (scanned sql) = accessed sql ↔ SeesAccesses sql := by
  rw [scanned, accessed, reads, SeesAccesses]
  exact Reader.rewritten_eq_iff (by simp) none Reading.plain sql

theorem formed_scanned (sql : List Char) : Formed false (scanned sql) :=
  Reader.formed_pieces (fun _ => rfl) (by simp) (by simp) none sql

/--
The rewriter replaces exactly the accesses of a text, and none in the result,
if the first two passes find nothing in it, and the last one sees the accesses
of SQL, each behind one byte, and gives no `QUALIFY` away from a string.
-/
theorem replacesAccesses_iff (sql : List Char) :
    ReplacesAccesses sql ↔
      ¬ Replaces sql ∧ Unqualified sql ∧ SeesAccesses sql ∧
        Narrow (scanned sql) ∧ PathsSilent .start (scanned sql) := by
  have formed := formed_scanned sql
  have whole := original_scanned sql
  constructor
  · rintro ⟨once, again⟩
    have same : weight (accessed sql) = weight sql := by
      rw [accessed, weight_rewritten, original_reads]
    rcases rewrite_of_weight once same with ⟨stays, silent, last⟩
    rcases rewrite_of_weight again rfl with ⟨-, resultSilent, -⟩
    rw [rewriteColonPath_eq] at last
    split at last
    · rename_i narrow
      have result := Option.some.inj last
      refine
        ⟨stays, silent, (rewritten_scanned_iff sql).mp result, narrow, ?_⟩
      rwa [← result, unqualified_rewritten_iff formed (by rwa [whole])]
        at resultSilent
    · cases last
  · rintro ⟨stays, silent, sees, narrow, paths⟩
    have result := (rewritten_scanned_iff sql).mpr sees
    have resultStays : ¬ Replaces (accessed sql) := by
      rw [← result]
      exact not_replaces_rewritten formed (by rwa [whole])
    have resultSilent : Unqualified (accessed sql) := by
      rw [← result, unqualified_rewritten_iff formed (by rwa [whole])]
      exact paths
    constructor
    · rw [rewrite_of_inert stays silent, rewriteColonPath_eq, if_pos narrow,
        result]
    · rw [rewrite_of_inert resultStays resultSilent, ← result,
        rewriteColonPath_rewritten]

/-! ## A cast -/

/-- A word `QUALIFY` outside of parentheses. -/
def qualifies (depth : Int) : List Token → Bool
  | [] => false
  | .symbol '(' :: tokens => qualifies (depth + 1) tokens
  | .symbol ')' :: tokens => qualifies (depth - 1) tokens
  | .word word :: tokens =>
      (depth == 0 && keyword word == "QUALIFY") || qualifies depth tokens
  | _ :: tokens => qualifies depth tokens

/-- A statement that begins with `CREATE OR REPLACE TABLE`. -/
def replacesTable : List Token → Bool
  | .word create :: .word or :: .word replace :: .word table :: _ =>
      [create, or, replace, table].map keyword ==
        ["CREATE", "OR", "REPLACE", "TABLE"]
  | _ => false

/-- The texts of which only the accesses are syntax of Snowflake. -/
def Ordinary (sql : List Char) : Prop :=
  qualifies 0 (lexFrom .plain sql) = false ∧
    replacesTable (lexFrom .plain sql) = false

/-- A cast is taken for an access without a path. -/
theorem cast_not_replacesAccesses :
    ¬ ∀ sql, Ordinary sql → ReplacesAccesses sql := by
  intro claim
  have ordinary : Ordinary "SELECT a::int FROM t".toList := by
    constructor <;> decide
  have replaces := claim _ ordinary
  revert replaces
  rw [replacesAccesses_iff]
  rintro ⟨-, -, sees, -⟩
  rw [← rewritten_scanned_iff] at sees
  revert sees
  decide

end OpenSnow.Compat.Rewriter
