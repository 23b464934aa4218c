import OpenSnow.Core.LayoutOperands
import OpenSnow.Rust.Search

/-!
# Layouts of `COPY INTO`

The handler takes the text between the first `INTO` and the first `FROM` of the
upper-case text for the table, and either can lie inside of a name.
-/

namespace OpenSnow.Core.Commands

open Foundation
open Rust.Text

/-! ## Reading around two offsets -/

/-- The operands, given where the first `INTO` and `FROM` are found. -/
theorem copyIntoOperands_found {before middle word after : List Char}
    {intoPos : Nat}
    (enough :
      4 ≤ splitnLength 5 (before ++ (middle ++ (word ++ after))))
    (isInto :
      find "INTO".toList (upperChars (before ++ (middle ++ (word ++ after)))) =
        some intoPos)
    (isFrom :
      find "FROM".toList (upperChars (before ++ (middle ++ (word ++ after)))) =
        some (utf8Len (before ++ middle)))
    (behindInto : utf8Len before = intoPos + 4) (width : utf8Len word = 4) :
    copyIntoOperands (before ++ (middle ++ (word ++ after))) =
      match validateOutputTableIdentifier (trim middle) "COPY INTO" with
      | .error message => some (.error message)
      | .ok () =>
          (sourcePath (trim after)).map fun path =>
            .ok
              (.copyInto (String.ofList (trim middle))
                (String.ofList path)) := by
  have table :
      slice (before ++ (middle ++ (word ++ after))) (intoPos + 4)
          (utf8Len (before ++ middle)) =
        some middle := by
    rw [← behindInto, utf8Len_append, slice_append]
  have path :
      sliceFrom (before ++ (middle ++ (word ++ after)))
          (utf8Len (before ++ middle) + 4) =
        some after :=
    sliceFrom_eq_some_iff.mpr
      ⟨before ++ (middle ++ word), by simp, by
        rw [utf8Len_append, utf8Len_append, utf8Len_append, width,
          Nat.add_assoc]⟩
  rw [copyIntoOperands, if_neg (by omega)]
  simp only [isInto, isFrom, Option.getD_some, table, path,
    Option.bind_eq_bind, Option.bind_some]
  cases validateOutputTableIdentifier (trim middle) "COPY INTO" with
  | error message => rfl
  | ok safe =>
      rw [Option.map_eq_bind]
      rfl

/-- A path between single quotes. -/
theorem sourcePath_quoted {path rest : List Char} (noQuote : '\'' ∉ path) :
    sourcePath ('\'' :: (path ++ '\'' :: rest)) = some path := by
  have width : '\''.utf8Size = 1 := rfl
  have inner :
      sliceFrom ('\'' :: (path ++ '\'' :: rest)) 1 =
        some (path ++ '\'' :: rest) :=
    sliceFrom_eq_some_iff.mpr ⟨['\''], rfl, rfl⟩
  have stop := @find_append_first ['\''] path rest (by
    rintro before back rfl nonempty begins
    cases back with
    | nil => exact nonempty rfl
    | cons ch back =>
        rw [List.cons_append, List.cons_prefix_cons] at begins
        rw [← begins.1] at noQuote
        exact noQuote (by simp))
  have cut :
      slice ('\'' :: (path ++ '\'' :: rest)) 1 (utf8Len path + 1) =
        some path :=
    slice_eq_some_iff.mpr
      ⟨['\''], '\'' :: rest, rfl, rfl, Nat.add_comm _ _⟩
  rw [List.singleton_append] at stop
  rw [sourcePath]
  simp only [List.head?_cons, true_or, if_true, inner, Option.bind_eq_bind,
    Option.bind_some, stop, Option.getD_some, cut]

/-- A path without quotes is the first word. -/
theorem sourcePath_word {blanks word rest : List Char} (blank : Blank blanks)
    (nonempty : word ≠ []) (named : ∀ ch ∈ word, isSqlIdentifierChar ch) :
    sourcePath (trim (blanks ++ (word ++ rest))) =
      some (word ++ stuck rest) := by
  have solid : ∀ ch ∈ word, isWhitespace ch = false := fun ch member =>
    not_isWhitespace_of_alphanum (named ch member)
  have first := @firstWord_trim blanks word rest blank nonempty solid
  rw [trim_append blank nonempty (trimmed_of_named named)] at first ⊢
  cases word with
  | nil => exact absurd rfl nonempty
  | cons ch word =>
      have noQuote :=
        not_quote_of_isSqlIdentifierChar (named ch List.mem_cons_self)
      rw [sourcePath, List.cons_append, List.head?_cons]
      simp only [noQuote.1, noQuote.2, or_self, if_false]
      rw [← List.cons_append, first, Option.getD_some]

/-! ## The statement -/

section CopyInto

variable {table : Identifier} {path : SourcePath}

variable (layout : Layout (Statement.copyInto table path).pieces)

theorem Layout.copyInto_code :
    ∃ (copy into source : List Char) (first second third fourth : Gap),
      Spells copy "COPY" ∧ Spells into "INTO" ∧ Spells source "FROM" ∧
        layout.gap 0 = first.text ∧ layout.spelled[3]? = some source ∧
        layout.code =
          copy ++ (first.text ++ (into ++ (second.text ++ (table.text ++
            (third.text ++ (source ++ (fourth.text ++
              '\'' :: (path.text ++ '\'' :: layout.trailer)))))))) := by
  rcases layout.opened with
    ⟨copy, first, atInto, spellsCopy, code, gaps, trailer, spelled⟩
  rcases atInto.opened with
    ⟨into, second, atTable, spellsInto, codeInto, -, trailerInto, spelledInto⟩
  rcases atTable.opened with
    ⟨_, third, atFrom, rfl, codeTable, -, trailerTable, spelledTable⟩
  rcases atFrom.opened with
    ⟨source, fourth, final, spellsFrom, codeFrom, -, trailerFrom, spelledFrom⟩
  rcases final.last with ⟨_, rfl, last⟩
  refine
    ⟨copy, into, source, first, second, third, fourth, spellsCopy, spellsInto,
      spellsFrom, ?_, ?_, ?_⟩
  · rw [Layout.gap, gaps]
    rfl
  · rw [spelled, spelledInto, spelledTable, spelledFrom]
    rfl
  · refine code.trans ?_
    rw [codeInto, codeTable, codeFrom, last, trailerFrom, trailerTable,
      trailerInto, trailer]
    simp

/-- Four gaps are enough words. -/
theorem splitn_of_gaps (front : List Char) (first second third : Gap)
    (one two three : List Char) :
    4 ≤ splitnLength 5
      (front ++ (first.text ++ (one ++ (second.text ++ (two ++
        (third.text ++ three)))))) := by
  have counts : ∀ gap : Gap, 0 < gap.text.countP isWhitespace := by
    intro gap
    rw [List.countP_pos_iff]
    cases form : gap.text with
    | nil => exact absurd form gap.nonempty
    | cons ch blanks =>
        exact ⟨ch, List.mem_cons_self,
          gap.blank ch (by rw [form]; exact List.mem_cons_self)⟩
  have here := counts first
  have there := counts second
  have last := counts third
  simp only [splitnLength, List.countP_append]
  omega

/-- The upper-case text up to the name of the table. -/
theorem upperChars_copyInto {copy into : List Char} {first second : Gap}
    (spellsCopy : Spells copy "COPY") (spellsInto : Spells into "INTO")
    (rest : List Char) :
    upperChars
        (copy ++ (first.text ++ (into ++ (second.text ++
          (table.text ++ rest))))) =
      "COPY".toList ++ (first.text ++ ("INTO".toList ++
        (second.text ++
          (table.text.map Char.toUpper ++ upperChars rest)))) := by
  rw [spellsCopy.upperChars, first.upperChars_append, spellsInto.upperChars,
    second.upperChars_append, upperChars_append,
    upperChars_of_ascii fun ch member =>
      isAscii_of_alphanum (table.isIdentifier.named ch member)]

theorem solid_of_all {word : List Char} (all : word.all (!isWhitespace ·)) :
    ∀ ch ∈ word, !isWhitespace ch :=
  List.all_eq_true.mp all

theorem Gap.others (gap : Gap) :
    ∀ ch ∈ gap.text, (!isWhitespace ch) = false := fun ch member => by
  rw [gap.blank ch member]
  rfl

theorem find_into (first : Gap) (rest : List Char) :
    find "INTO".toList
        ("COPY".toList ++ (first.text ++ ("INTO".toList ++ rest))) =
      some (4 + utf8Len first.text) := by
  have solid := @solid_of_all "INTO".toList (by decide)
  have notCopy : ¬ "INTO".toList <:+: "COPY".toList := by decide
  rw [find_run solid (first.stops _) notCopy,
    find_others solid (by decide) first.others, find_here]
  rfl

/-- `FROM` is found behind `INTO`. -/
theorem find_from (first second : Gap) (rest : List Char) :
    find "FROM".toList
        ("COPY".toList ++ (first.text ++ ("INTO".toList ++
          (second.text ++ rest)))) =
      (find "FROM".toList rest).map
        (4 + utf8Len first.text + 4 + utf8Len second.text + ·) := by
  have solid := @solid_of_all "FROM".toList (by decide)
  have notCopy : ¬ "FROM".toList <:+: "COPY".toList := by decide
  have notInto : ¬ "FROM".toList <:+: "INTO".toList := by decide
  rw [find_run solid (first.stops _) notCopy,
    find_others solid (by decide) first.others,
    find_run solid (second.stops _) notInto,
    find_others solid (by decide) second.others]
  simp only [Option.map_map]
  congr 1
  funext offset
  have widthCopy : utf8Len "COPY".toList = 4 := rfl
  have widthInto : utf8Len "INTO".toList = 4 := rfl
  simp only [Function.comp, widthCopy, widthInto]
  omega

theorem utf8Len_upper {name : List Char}
    (named : ∀ ch ∈ name, isSqlIdentifierChar ch) :
    utf8Len (name.map Char.toUpper) = utf8Len name := by
  rw [utf8Len_of_ascii fun ch member =>
      isAscii_of_alphanum (upper_named named ch member),
    utf8Len_of_ascii fun ch member => isAscii_of_alphanum (named ch member),
    List.length_map]

/-- A name that ends in its first `FROM`, behind an identifier. -/
def EndsInFrom (name : List Char) : Prop :=
  find "FROM".toList (name.map Char.toUpper) = some (name.length - 4) ∧
    isSafeUnqualifiedIdentifier (name.take (name.length - 4))

/-- A name without a `FROM` is read as a whole. -/
theorem copyInto_whole {copy into source trailer : List Char}
    {first second third fourth : Gap} (spellsCopy : Spells copy "COPY")
    (spellsInto : Spells into "INTO") (spellsFrom : Spells source "FROM")
    (notIn : ¬ "FROM".toList <:+: table.text.map Char.toUpper) :
    copyIntoOperands
        (copy ++ (first.text ++ (into ++ (second.text ++ (table.text ++
          (third.text ++ (source ++ (fourth.text ++
            '\'' :: (path.text ++ '\'' :: trailer))))))))) =
      match validateOutputTableIdentifier table.text "COPY INTO" with
      | .error message => some (.error message)
      | .ok () =>
          some
            (.ok
              (.copyInto (String.ofList table.text)
                (String.ofList path.text))) := by
  have solid := @solid_of_all "FROM".toList (by decide)
  have upper :=
    @upperChars_copyInto table copy into first second spellsCopy spellsInto
      (third.text ++ (source ++ (fourth.text ++
        '\'' :: (path.text ++ '\'' :: trailer))))
  rw [third.upperChars_append, spellsFrom.upperChars] at upper
  have shape :
      copy ++ (first.text ++ (into ++ (second.text ++ (table.text ++
          (third.text ++ (source ++ (fourth.text ++
            '\'' :: (path.text ++ '\'' :: trailer)))))))) =
        (copy ++ (first.text ++ into)) ++
          ((second.text ++ (table.text ++ third.text)) ++ (source ++
            (fourth.text ++ '\'' :: (path.text ++ '\'' :: trailer)))) := by
    simp
  have named := table.isIdentifier.named
  have isTable : trim (second.text ++ (table.text ++ third.text)) = table.text :=
    trim_surrounded second.blank third.blank (trimmed_of_named named)
  have isPath :
      trim (fourth.text ++ '\'' :: (path.text ++ '\'' :: trailer)) =
        '\'' :: (path.text ++ '\'' :: trimEnd trailer) := by
    have parts := @trim_append fourth.text ('\'' :: (path.text ++ ['\'']))
      trailer fourth.blank (List.cons_ne_nil _ _)
      ⟨stops_cons.mpr (by decide), by
        rw [← List.cons_append, List.reverse_append]
        exact stops_cons.mpr (by decide)⟩
    simpa using parts
  have enough :=
    splitn_of_gaps copy first second third into table.text
      (source ++ (fourth.text ++ '\'' :: (path.text ++ '\'' :: trailer)))
  have width : "COPY".length = 4 ∧ "INTO".length = 4 := by decide
  rw [shape] at upper enough ⊢
  rw [copyIntoOperands_found enough
      (by rw [upper]; exact find_into first _)
      (by
        rw [upper, find_from,
          find_run solid (third.stops _) notIn,
          find_others solid (by decide) third.others, find_here]
        simp only [Option.map_some, Option.some.injEq, utf8Len_append,
          spellsCopy.utf8Len, spellsInto.utf8Len, width, utf8Len_upper named]
        omega)
      (by
        simp only [utf8Len_append, spellsCopy.utf8Len, spellsInto.utf8Len,
          width]
        omega)
      spellsFrom.utf8Len,
    isTable, isPath, sourcePath_quoted path.noQuote]
  rfl

/-- A name is cut at its first `FROM`, and what follows is the path. -/
theorem copyInto_split {copy into source trailer front word back : List Char}
    {first second third fourth : Gap} (spellsCopy : Spells copy "COPY")
    (spellsInto : Spells into "INTO") (spellsFrom : Spells source "FROM")
    (found : find "FROM".toList (table.text.map Char.toUpper) =
      some (utf8Len front))
    (parts : table.text = front ++ (word ++ back)) (four : word.length = 4) :
    copyIntoOperands
        (copy ++ (first.text ++ (into ++ (second.text ++ (table.text ++
          (third.text ++ (source ++ (fourth.text ++
            '\'' :: (path.text ++ '\'' :: trailer))))))))) =
      match validateOutputTableIdentifier front "COPY INTO" with
      | .error message => some (.error message)
      | .ok () =>
          some
            (.ok
              (.copyInto (String.ofList front)
                (String.ofList (if back = [] then source else back)))) := by
  have named := table.isIdentifier.named
  have upper :=
    @upperChars_copyInto table copy into first second spellsCopy spellsInto
      (third.text ++ (source ++ (fourth.text ++
        '\'' :: (path.text ++ '\'' :: trailer))))
  have shape :
      copy ++ (first.text ++ (into ++ (second.text ++ (table.text ++
          (third.text ++ (source ++ (fourth.text ++
            '\'' :: (path.text ++ '\'' :: trailer)))))))) =
        (copy ++ (first.text ++ into)) ++
          ((second.text ++ front) ++ (word ++
            (back ++ (third.text ++ (source ++ (fourth.text ++
              '\'' :: (path.text ++ '\'' :: trailer))))))) := by
    rw [parts]
    simp
  have namedFront : ∀ ch ∈ front, isSqlIdentifierChar ch := fun ch member =>
    named ch (by rw [parts]; exact List.mem_append_left _ member)
  have wordWidth : utf8Len word = 4 := by
    rw [← four]
    exact utf8Len_of_ascii fun ch member =>
      isAscii_of_alphanum (named ch (by rw [parts]; simp [member]))
  have isTable : trim (second.text ++ front) = front := by
    have surrounded :=
      trim_surrounded second.blank blank_nil (trimmed_of_named namedFront)
    rwa [List.append_nil] at surrounded
  have isPath :
      sourcePath (trim (back ++ (third.text ++ (source ++ (fourth.text ++
          '\'' :: (path.text ++ '\'' :: trailer)))))) =
        some (if back = [] then source else back) := by
    by_cases ends : back = []
    · rw [if_pos ends, ends, List.nil_append,
        sourcePath_word third.blank spellsFrom.ne_nil spellsFrom.named,
        fourth.stuck, List.append_nil]
    · have namedBack : ∀ ch ∈ back, isSqlIdentifierChar ch := fun ch member =>
        named ch (by rw [parts]; simp [member])
      have reads := @sourcePath_word [] back
        (third.text ++ (source ++ (fourth.text ++
          '\'' :: (path.text ++ '\'' :: trailer)))) blank_nil ends namedBack
      rw [List.nil_append, third.stuck, List.append_nil] at reads
      rw [if_neg ends, reads]
  have enough :=
    splitn_of_gaps copy first second third into table.text
      (source ++ (fourth.text ++ '\'' :: (path.text ++ '\'' :: trailer)))
  have width : "COPY".length = 4 ∧ "INTO".length = 4 := by decide
  rw [shape] at upper enough ⊢
  rw [copyIntoOperands_found enough
      (by rw [upper]; exact find_into first _)
      (by
        rw [upper, find_from, find_append_of_some found]
        simp only [Option.map_some, Option.some.injEq, utf8Len_append,
          spellsCopy.utf8Len, spellsInto.utf8Len, width]
        omega)
      (by
        simp only [utf8Len_append, spellsCopy.utf8Len, spellsInto.utf8Len,
          width]
        omega)
      wordWidth,
    isTable, isPath]
  rfl

/-- The first occurrence in the upper-case name cuts the name itself. -/
theorem split_at_from {name : List Char} {offset : Nat}
    (named : ∀ ch ∈ name, isSqlIdentifierChar ch)
    (found : find "FROM".toList (name.map Char.toUpper) = some offset) :
    ∃ front word back, name = front ++ (word ++ back) ∧ word.length = 4 ∧
      utf8Len front = offset := by
  rcases find_eq_some found with ⟨before, after, shape, rfl⟩
  rcases List.map_eq_append_iff.mp shape with
    ⟨front, rest, rfl, rfl, others⟩
  rcases List.map_eq_append_iff.mp others with
    ⟨word, back, rfl, isFrom, rfl⟩
  refine ⟨front, word, back, rfl, ?_, ?_⟩
  · rw [← List.length_map, isFrom]
    rfl
  · exact (utf8Len_upper fun ch member =>
      named ch (List.mem_append_left _ member)).symm

theorem endsInFrom_iff {name front word back : List Char}
    (named : ∀ ch ∈ name, isSqlIdentifierChar ch)
    (found : find "FROM".toList (name.map Char.toUpper) = some (utf8Len front))
    (parts : name = front ++ (word ++ back)) (four : word.length = 4) :
    EndsInFrom name ↔ back = [] ∧ isSafeUnqualifiedIdentifier front := by
  have ascii : utf8Len front = front.length :=
    utf8Len_of_ascii fun ch member =>
      isAscii_of_alphanum (named ch (by rw [parts]; simp [member]))
  have length : name.length = front.length + 4 + back.length := by
    rw [parts, List.length_append, List.length_append, four, Nat.add_assoc]
  rw [EndsInFrom, found, Option.some.injEq, ascii]
  constructor
  · rintro ⟨same, safe⟩
    have none : back = [] := List.length_eq_zero_iff.mp (by omega)
    rw [← same, parts, List.take_left'] at safe
    · exact ⟨none, safe⟩
    · rfl
  · rintro ⟨rfl, safe⟩
    have same : front.length = name.length - 4 := by
      rw [length, List.length_nil]
      omega
    refine ⟨same, ?_⟩
    rw [← same, parts, List.take_left' rfl]
    exact safe

theorem Layout.copyInto_chosen :
    chosenHandler layout.code =
      if (layout.gap 0).head? = some ' ' then some .copyInto else none := by
  rcases layout.copyInto_code with
    ⟨copy, into, source, first, second, third, fourth, spellsCopy, -, -, gap,
      -, code⟩
  rw [code, gap, chosenHandler_copy first spellsCopy]

/--
`COPY INTO` needs one blank.  A table whose name ends in `FROM` is loaded from
the keyword `FROM`, in its spelling.
-/
theorem copyInto_sameDispatch :
    SameDispatch layout.text (Statement.copyInto table path).documented.text ↔
      (layout.gap 0).head? = some ' ' ∧
        (EndsInFrom table.text →
          layout.spelled[3]? = some "FROM".toList) := by
  have one :
      ((Statement.copyInto table path).documented.gap 0).head? = some ' ' := rfl
  have own := (Statement.copyInto table path).documented.copyInto_chosen
  rw [if_pos one] at own
  rw [sameDispatch_iff layout layout.copyInto_chosen own]
  apply and_congr_right
  intro fits
  have named := table.isIdentifier.named
  rcases layout.copyInto_code with
    ⟨copy, into, source, first, second, third, fourth, spellsCopy, spellsInto,
      spellsFrom, -, spelled, code⟩
  rcases (Statement.copyInto table path).documented.copyInto_code with
    ⟨ownCopy, ownInto, ownSource, ownFirst, ownSecond, ownThird, ownFourth,
      ownSpellsCopy, ownSpellsInto, ownSpellsFrom, -, ownSpelled, ownCode⟩
  have isOwn : ownSource = "FROM".toList := by
    have third : (Statement.copyInto table path).documented.spelled[3]? =
        some "FROM".toList := rfl
    rw [third, Option.some.injEq] at ownSpelled
    exact ownSpelled.symm
  rw [operands, operands, code, ownCode, spelled]
  cases found : find "FROM".toList (table.text.map Char.toUpper) with
  | none =>
      have notIn := find_eq_none_iff.mp found
      have never : ¬ EndsInFrom table.text := by
        rintro ⟨some, -⟩
        rw [found] at some
        cases some
      rw [copyInto_whole spellsCopy spellsInto spellsFrom notIn,
        copyInto_whole ownSpellsCopy ownSpellsInto ownSpellsFrom notIn]
      simp [never]
  | some offset =>
      rcases split_at_from named found with
        ⟨front, word, back, parts, four, rfl⟩
      have ends := endsInFrom_iff named found parts four
      rw [copyInto_split spellsCopy spellsInto spellsFrom found parts four,
        copyInto_split ownSpellsCopy ownSpellsInto ownSpellsFrom found parts
          four, isOwn, ends, validateOutputTableIdentifier, validateIdentifier]
      by_cases safe : isSafeUnqualifiedIdentifier front
      · by_cases last : back = []
        · simp [safe, last, Except.toOption, ← String.toList_inj]
        · simp [safe, last]
      · simp [safe]

end CopyInto

end OpenSnow.Core.Commands
