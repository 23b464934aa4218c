import OpenSnow.Compat.Accesses
import OpenSnow.Core.QueryTrailers

/-!
# Replaced tables and qualified queries

`CREATE OR REPLACE TABLE t AS q` should become a drop and a creation, in any
letter case and with any white space.  A query with `QUALIFY` should become a
filter over a subquery, whose condition has no window call of its own.
-/

namespace OpenSnow.Compat.Rewriter

open Foundation
open Rust.Text
open Sql
open Core.Commands (Gap Spells OneStatement blanks_prefix_iff
  keepStatement splitLoop splitLoop_one splitLoop_starts splitSqlStatements
  trimEnd_append)

/-! ## Statements and their rewritten form -/

/-- `CREATE OR REPLACE TABLE t AS q` in some layout. -/
structure Replacement where
  leading : List Char
  create : List Char
  createGap : Gap
  or : List Char
  orGap : Gap
  replace : List Char
  replaceGap : Gap
  table : List Char
  tableGap : Gap
  name : List Char
  nameGap : Gap
  as : List Char
  asGap : Gap
  query : List Char
  trailing : List Char
  blank_leading : Blank leading
  spells_create : Spells create "CREATE"
  spells_or : Spells or "OR"
  spells_replace : Spells replace "REPLACE"
  spells_table : Spells table "TABLE"
  isName_name : isName name
  spells_as : Spells as "AS"
  trimmed_query : Trimmed query
  query_ne_nil : query ≠ []
  one_query : OneStatement .plain query
  blank_trailing : Blank trailing

def createWords : List Char := "CREATE TABLE ".toList

namespace Replacement

variable (statement : Replacement)

/-- The name, the word `AS` and the query. -/
def body : List Char :=
  statement.name ++ (statement.nameGap.text ++
    (statement.as ++ (statement.asGap.text ++ statement.query)))

def text : List Char :=
  statement.leading ++ (statement.create ++ (statement.createGap.text ++
    (statement.or ++ (statement.orGap.text ++ (statement.replace ++
      (statement.replaceGap.text ++ (statement.table ++
        (statement.tableGap.text ++
          (statement.body ++ statement.trailing)))))))))

/-- `CREATE TABLE t AS q`. -/
def creation : List Char := createWords ++ statement.body

/-- The rewritten text splits into the drop and the creation. -/
def Kept : Prop :=
  ∃ out, rewriteSnowflakeSql statement.text = some out ∧
    splitSqlStatements out =
      [dropTable ++ statement.name, statement.creation]

end Replacement

def Piece.isAccess : Piece → Bool
  | .access _ _ => true
  | _ => false

/-- A text without an access for the last pass. -/
def Accessless (text : List Char) : Prop :=
  ∀ piece ∈ scanned text, piece.isAccess = false

/--
The layouts and contents that the passes handle: nothing in front, one blank
between the four words, an `AS` between blanks anywhere, and neither `QUALIFY`
nor an access in the name and the query.
-/
structure Replacement.Handled (statement : Replacement) : Prop where
  leading : statement.leading = []
  createGap : statement.createGap.text = [' ']
  orGap : statement.orGap.text = [' ']
  replaceGap : statement.replaceGap.text = [' ']
  hasAs : asWord <:+: upperChars statement.text
  name : Unqualified statement.name
  query : Unqualified statement.query
  accessless : Accessless statement.query

/-! ## The four words -/

theorem upperChars_blank_append {blanks : List Char} (blank : Blank blanks)
    (rest : List Char) :
    upperChars (blanks ++ rest) = blanks ++ upperChars rest := by
  rw [upperChars_append, upperChars_of_blank blank]

theorem replaceWords_eq :
    replaceWords =
      ("CREATE".toList ++ ' ' :: ("OR".toList ++ ' ' ::
        ("REPLACE".toList ++ ' ' :: "TABLE".toList))) := by
  decide

namespace Replacement

variable (statement : Replacement)

/-- The first pass recognizes one layout of the four words. -/
theorem replaceWords_prefix_iff :
    replaceWords <+: upperChars statement.text ↔
      statement.leading = [] ∧ statement.createGap.text = [' '] ∧
        statement.orGap.text = [' '] ∧ statement.replaceGap.text = [' '] := by
  have table : Stops isWhitespace "TABLE".toList := stops_cons.mpr (by decide)
  have replace : Stops isWhitespace
      ("REPLACE".toList ++ ' ' :: "TABLE".toList) :=
    stops_cons.mpr (by decide)
  have or : Stops isWhitespace
      ("OR".toList ++ ' ' :: ("REPLACE".toList ++ ' ' :: "TABLE".toList)) :=
    stops_cons.mpr (by decide)
  have create : Stops isWhitespace
      ("CREATE".toList ++ ' ' :: ("OR".toList ++ ' ' ::
        ("REPLACE".toList ++ ' ' :: "TABLE".toList))) :=
    stops_cons.mpr (by decide)
  rw [text, upperChars_blank_append statement.blank_leading,
    statement.spells_create.upperChars,
    upperChars_blank_append statement.createGap.blank,
    statement.spells_or.upperChars,
    upperChars_blank_append statement.orGap.blank,
    statement.spells_replace.upperChars,
    upperChars_blank_append statement.replaceGap.blank,
    statement.spells_table.upperChars, replaceWords_eq,
    blanks_prefix_iff statement.blank_leading (by decide) create,
    List.prefix_append_right_inj, Gap.prefix_iff _ (by decide) or,
    List.prefix_append_right_inj, Gap.prefix_iff _ (by decide) replace,
    List.prefix_append_right_inj, Gap.prefix_iff _ (by decide) table,
    and_iff_left (List.prefix_append "TABLE".toList _)]

/-! ## The name and the query -/

end Replacement

theorem isName_chars {name : List Char} (isName : isName name) :
    name ≠ [] ∧ ∀ ch ∈ name, isNameChar ch := by
  cases name with
  | nil => cases isName
  | cons first rest =>
      rw [Rewriter.isName, Bool.and_eq_true, Bool.and_eq_true,
        List.all_eq_true] at isName
      refine ⟨List.cons_ne_nil _ _, ?_⟩
      intro ch member
      rcases List.mem_cons.mp member with rfl | later
      · exact isName.1.1
      · exact isName.2 ch later

theorem not_blank_of_path {ch : Char} (isPath : isPathChar ch) :
    isWhitespace ch = false := by
  rw [Bool.eq_false_iff]
  intro blank
  rw [isPathChar, isNameChar, not_isAlphanumeric_of_blank blank, Bool.false_or,
    Bool.or_eq_true, beq_iff_eq, beq_iff_eq] at isPath
  rcases isPath with rfl | rfl
  · revert blank
    decide
  · revert blank
    decide

namespace Replacement

variable (statement : Replacement)

theorem name_ne_nil : statement.name ≠ [] :=
  (isName_chars statement.isName_name).1

theorem isPath_name : ∀ ch ∈ statement.name, isPathChar ch := fun ch member =>
  isPathChar_of_name ((isName_chars statement.isName_name).2 ch member)

theorem not_blank_name : ∀ ch ∈ statement.name, isWhitespace ch = false :=
  fun ch member => not_blank_of_path (statement.isPath_name ch member)

theorem trimmed_body : Trimmed statement.body := by
  constructor
  · have solid := statement.not_blank_name
    rw [body]
    cases form : statement.name with
    | nil => exact absurd form statement.name_ne_nil
    | cons ch name =>
        rw [form] at solid
        exact stops_cons.mpr (solid ch List.mem_cons_self)
  · have ends := statement.trimmed_query.2
    simp only [body, List.reverse_append, List.append_assoc]
    cases reversed : statement.query.reverse with
    | nil =>
        exact absurd (List.reverse_eq_nil_iff.mp reversed)
          statement.query_ne_nil
    | cons last front =>
        rw [reversed] at ends
        exact stops_cons.mpr (stops_cons.mp ends)

theorem fields_body :
    (fields isWhitespace statement.body).headD [] = statement.name := by
  rw [body, fields_run_append statement.name_ne_nil statement.not_blank_name]
  · rfl
  · rcases statement.nameGap with ⟨text, nonempty, blank⟩
    cases text with
    | nil => exact absurd rfl nonempty
    | cons first text =>
        refine stops_cons.mpr ?_
        rw [blank first List.mem_cons_self]
        rfl

/-- The text that the first pass gives the second one. -/
theorem replaced_text (begins : replaceWords <+: upperChars statement.text)
    (hasAs : asWord <:+: upperChars statement.text) :
    replaced statement.text = dropAndCreate statement.name statement.body := by
  rcases statement.replaceWords_prefix_iff.mp begins with
    ⟨leading, create, or, replace⟩
  have words : statement.text =
      (statement.create ++ [' '] ++ statement.or ++ [' '] ++
        statement.replace ++ [' '] ++ statement.table) ++
        (statement.tableGap.text ++ (statement.body ++ statement.trailing)) := by
    rw [text, leading, create, or, replace]
    simp only [List.append_assoc, List.nil_append]
  have count (word : List Char) (keyword : String)
      (spells : Spells word keyword) : word.length = keyword.toList.length := by
    rw [← spells.upper, List.length_map]
  have length : (statement.create ++ [' '] ++ statement.or ++ [' '] ++
        statement.replace ++ [' '] ++ statement.table).length =
      replaceWords.length := by
    simp only [List.length_append, count _ _ statement.spells_create,
      count _ _ statement.spells_or, count _ _ statement.spells_replace,
      count _ _ statement.spells_table]
    rfl
  have own : definition statement.text = statement.body := by
    rw [definition, ← length, words, List.drop_left]
    exact trim_surrounded statement.tableGap.blank statement.blank_trailing
      statement.trimmed_body
  rw [replaced, if_pos ⟨begins, hasAs⟩, own, fields_body]

end Replacement

/-! ## The search in the replaced text -/

/-- A text in which the keyword cannot start and nothing is opened. -/
theorem silent_plain {front rest : List Char} {nesting : Nesting}
    (absent : 'Q' ∉ front) (quiet : ∀ ch ∈ front, changesNesting ch = false)
    (ends : IsEdge front.getLast?) :
    Silent qualifyWord nesting none (front ++ rest) ↔
      Silent qualifyWord nesting none rest := by
  rw [silent_skip _ qualifyWord_ne_nil, foldl_next_of_quiet quiet,
    Option.or_none, silent_of_isEdge ends]
  rintro ch member start
  have isQ : some 'Q' = some ch := start
  rw [← Option.some.inj isQ] at member
  exact absent member

theorem not_isAlphanum_of_blank {ch : Char} (blank : isWhitespace ch) :
    ch.isAlphanum = false := by
  rw [Bool.eq_false_iff]
  intro named
  have solid := @not_isWhitespace_of_alphanum ch (by rw [named, Bool.true_or])
  rw [solid] at blank
  cases blank

theorem not_changesNesting_of_blank {ch : Char} (blank : isWhitespace ch) :
    changesNesting ch = false := by
  rw [Bool.eq_false_iff]
  intro changes
  simp only [changesNesting, Bool.or_eq_true, beq_iff_eq] at changes
  rcases changes with (rfl | rfl) | rfl
  · revert blank
    decide
  · revert blank
    decide
  · revert blank
    decide

theorem isEdge_gap (gap : Gap) (rest : List Char) :
    IsEdge (gap.text ++ rest).head? := by
  rcases gap with ⟨text, nonempty, blank⟩
  cases text with
  | nil => exact absurd rfl nonempty
  | cons first text =>
      intro ch isFirst
      obtain rfl : first = ch := Option.some.inj isFirst
      exact not_isAlphanum_of_blank (blank first List.mem_cons_self)

namespace Replacement

variable (statement : Replacement)

/-- What stands between the name and the query in upper case. -/
def upperAs : List Char :=
  statement.nameGap.text ++ ("AS".toList ++ statement.asGap.text)

theorem upperChars_body (rest : List Char) :
    upperChars (statement.body ++ rest) =
      upperChars statement.name ++
        (statement.upperAs ++ upperChars (statement.query ++ rest)) := by
  simp only [body, upperAs, List.append_assoc]
  rw [upperChars_append, upperChars_blank_append statement.nameGap.blank,
    statement.spells_as.upperChars,
    upperChars_blank_append statement.asGap.blank]

theorem silent_upperAs {nesting : Nesting} {rest : List Char} :
    Silent qualifyWord nesting none (statement.upperAs ++ rest) ↔
      Silent qualifyWord nesting none rest := by
  have before := statement.nameGap.blank
  have behind := statement.asGap.blank
  apply silent_plain
  · intro member
    rcases List.mem_append.mp member with inGap | member
    · exact absurd (before 'Q' inGap) (by decide)
    · rcases List.mem_append.mp member with inWord | inGap
      · exact absurd inWord (by decide)
      · exact absurd (behind 'Q' inGap) (by decide)
  · intro ch member
    rcases List.mem_append.mp member with inGap | member
    · exact not_changesNesting_of_blank (before ch inGap)
    · rcases List.mem_append.mp member with inWord | inGap
      · have quiet : "AS".toList.all (!changesNesting ·) := by decide
        simpa using List.all_eq_true.mp quiet ch inWord
      · exact not_changesNesting_of_blank (behind ch inGap)
  · intro last isLast
    rw [upperAs, ← List.append_assoc, List.getLast?_append] at isLast
    cases form : statement.asGap.text.getLast? with
    | none =>
        exact absurd (List.getLast?_eq_none_iff.mp form)
          statement.asGap.nonempty
    | some final =>
        rw [form] at isLast
        obtain rfl : final = last := Option.some.inj isLast
        exact not_isAlphanum_of_blank
          (behind final (List.mem_of_getLast? form))

/-- The second pass finds nothing in the name and in the query. -/
theorem unqualified_replaced :
    Unqualified (dropAndCreate statement.name statement.body) ↔
      Unqualified statement.name ∧ Unqualified statement.query := by
  have isPath := statement.isPath_name
  have quietDrop : (upperChars dropTable).all (!changesNesting ·) := by decide
  have quietCreate : (upperChars createTable).all (!changesNesting ·) := by
    decide
  have edgeDrop : IsEdge (upperChars dropTable).getLast? := by decide
  have edgeCreate : IsEdge (upperChars createTable).getLast? := by decide
  have startCreate (rest : List Char) :
      IsEdge (upperChars createTable ++ rest).head? := by
    have start : IsEdge (upperChars createTable).head? := by decide
    exact start
  have searched : Nesting.start.Searched := by decide
  have whole := statement.upperChars_body []
  rw [List.append_nil, List.append_nil] at whole
  rw [unqualified_iff, dropAndCreate, upperChars_append, upperChars_append,
    upperChars_append, whole, List.append_assoc, List.append_assoc,
    silent_plain (by decide) (by simpa using List.all_eq_true.mp quietDrop)
      edgeDrop,
    silent_word isPath (startCreate _),
    silent_plain (by decide) (by simpa using List.all_eq_true.mp quietCreate)
      edgeCreate,
    silent_word isPath, silent_upperAs, ← unqualified_iff]
  · simp only [searched, forall_const]
    tauto
  · rw [upperAs, List.append_assoc]
    exact isEdge_gap _ _

end Replacement

/-! ## Pieces behind a mark -/

variable {mark : Char}

/--
Behind a mark other than a colon the scan starts afresh, whatever the text
before it was.
-/
theorem pieces_behind_mark (isMark : isPathChar mark = false)
    (notColon : mark ≠ ':') (front : List Char) (inPath : Bool)
    (quote : Option Char) (run : List Char) :
    ∃ pieces,
      (∀ rest, scanner.pieces inPath quote run (front ++ mark :: rest) =
        pieces ++ .mark mark ::
          scanner.pieces false (quoteAfter (front.foldl quoteAfter quote) mark)
            [] rest) ∧
        (':' ∉ front → ∀ piece ∈ pieces, piece.isAccess = false) := by
  induction front generalizing inPath quote run with
  | nil =>
      refine ⟨[.word run], fun rest => ?_, by simp [Piece.isAccess]⟩
      rw [List.nil_append, Reader.pieces_mark isMark fun taken =>
        notColon taken.1]
      rfl
  | cons ch front ih =>
      have next (rest : List Char) :
          scanner.next quote ch rest = quoteAfter quote ch := rfl
      have path (rest : List Char) :
          (front ++ mark :: rest).takeWhile isPathChar =
            front.takeWhile isPathChar :=
        takeWhile_append_of_stops (stops_cons.mpr isMark)
      by_cases isPath : isPathChar ch
      · rcases ih inPath (quoteAfter quote ch)
          (if inPath then run else run ++ [ch]) with ⟨pieces, shape, plain⟩
        refine ⟨pieces, fun rest => ?_, fun noColon => plain (by simp_all)⟩
        rw [List.cons_append, Reader.pieces_path isPath, next, shape]
        rfl
      · rw [Bool.not_eq_true] at isPath
        by_cases taken : ch = ':' ∧ scanner.live quote ∧
            scanner.isAccess run (front.takeWhile isPathChar)
        · rcases ih true (quoteAfter quote ch) [] with ⟨pieces, shape, -⟩
          rcases taken with ⟨rfl, live, isAccess⟩
          refine ⟨.access run (front.takeWhile isPathChar) :: pieces,
            fun rest => ?_, fun noColon => absurd noColon (by simp)⟩
          rw [List.cons_append,
            Reader.pieces_access live (by rwa [path]), path, next, shape]
          rfl
        · rcases ih false (quoteAfter quote ch) [] with ⟨pieces, shape, plain⟩
          refine ⟨.word run :: .mark ch :: pieces, fun rest => ?_, ?_⟩
          · rw [List.cons_append,
              Reader.pieces_mark isPath (by rwa [path]), next, shape]
            rfl
          · intro noColon
            have others := plain fun member =>
              noColon (List.mem_cons_of_mem ch member)
            simpa [Piece.isAccess] using others

theorem original_append (front back : List Piece) :
    original (front ++ back) = original front ++ original back := by
  rw [original, original, original, List.flatMap_append]

theorem rewritten_append (front back : List Piece) :
    rewritten (front ++ back) = rewritten front ++ rewritten back := by
  rw [rewritten, rewritten, rewritten, List.flatMap_append]

variable {pieces : List Piece}

theorem rewritten_of_accessless
    (plain : ∀ piece ∈ pieces, piece.isAccess = false) :
    rewritten pieces = original pieces := by
  induction pieces with
  | nil => rfl
  | cons piece pieces ih =>
      have later := ih fun other member =>
        plain other (List.mem_cons_of_mem piece member)
      cases piece with
      | word word => rw [rewritten_word, original_word, later]
      | mark ch => rw [rewritten_mark, original_mark, later]
      | access column path => cases plain _ List.mem_cons_self

theorem narrow_of_accessless
    (plain : ∀ piece ∈ pieces, piece.isAccess = false) : Narrow pieces := by
  induction pieces with
  | nil => exact .nil
  | cons piece pieces ih =>
      have later := ih fun other member =>
        plain other (List.mem_cons_of_mem piece member)
      cases pieces with
      | nil => exact .singleton piece
      | cons next pieces =>
          refine .cons_cons ?_ later
          have nextPlain := plain next (by simp)
          cases piece <;> cases next <;> trivial

variable {front : List Char}

/-- A text with no colon and no quote, up to a mark, stays in front. -/
theorem scanned_append
    (isMark : isPathChar mark = false) (notColon : mark ≠ ':')
    (noColon : ':' ∉ front)
    (closed : quoteAfter (front.foldl quoteAfter none) mark = none)
    (rest : List Char) :
    ∃ pieces, scanned (front ++ mark :: rest) = pieces ++ scanned rest ∧
      original pieces = front ++ [mark] ∧
        ∀ piece ∈ pieces, piece.isAccess = false := by
  rcases pieces_behind_mark isMark notColon front false none [] with
    ⟨pieces, shape, plain⟩
  refine ⟨pieces ++ [.mark mark], ?_, ?_, ?_⟩
  · rw [scanned, shape, closed, List.append_assoc]
    rfl
  · have own := original_scanned (front ++ [mark])
    rw [scanned, shape, Reader.pieces_nil] at own
    rw [← own]
    simp [original, Piece.original]
  · intro piece member
    rcases List.mem_append.mp member with inside | last
    · exact plain noColon piece inside
    · rw [List.mem_singleton.mp last]
      rfl

/-! ## Words and blanks -/

/-- Characters at which no scanner opens or ends anything. -/
def isInert (ch : Char) : Bool := isPathChar ch || isWhitespace ch

theorem ne_of_inert {ch other : Char} (inert : isInert ch)
    (notInert : isInert other = false) : ch ≠ other := by
  rintro rfl
  rw [notInert] at inert
  cases inert

theorem foldl_quoteAfter_inert (inert : ∀ ch ∈ front, isInert ch) :
    front.foldl quoteAfter none = none := by
  induction front with
  | nil => rfl
  | cons ch front ih =>
      have own := inert ch List.mem_cons_self
      have noQuote : quoteAfter none ch = none := by
        rw [quoteAfter, if_neg]
        rintro (same | same)
        · exact ne_of_inert own (by decide) same
        · exact ne_of_inert own (by decide) same
      rw [List.foldl_cons, noQuote]
      exact ih fun other member => inert other (List.mem_cons_of_mem ch member)

theorem splitLoop_inert (inert : ∀ ch ∈ front, isInert ch)
    (current rest : List Char) :
    splitLoop .plain current (front ++ rest) =
      splitLoop .plain (current ++ front) rest := by
  induction front generalizing current with
  | nil => rw [List.nil_append, List.append_nil]
  | cons ch front ih =>
      have own := inert ch List.mem_cons_self
      have stays : Reading.plain.next true ch (front ++ rest) = .plain := by
        have noDash := ne_of_inert own (by decide : isInert '-' = false)
        have noSlash := ne_of_inert own (by decide : isInert '/' = false)
        have single := ne_of_inert own (by decide : isInert '\'' = false)
        have double := ne_of_inert own (by decide : isInert '"' = false)
        simp [Reading.next, noDash, noSlash, single, double]
      rw [List.cons_append, splitLoop, if_neg, stays,
        ih fun other member => inert other (List.mem_cons_of_mem ch member),
        List.append_assoc, List.singleton_append]
      rintro ⟨-, same⟩
      exact ne_of_inert own (by decide) same

theorem inert_of_blank {text : List Char} (blank : Blank text) :
    ∀ ch ∈ text, isInert ch := by
  intro ch member
  rw [isInert, blank ch member, Bool.or_true]

theorem inert_of_word {text : List Char} (isPath : ∀ ch ∈ text, isPathChar ch) :
    ∀ ch ∈ text, isInert ch := by
  intro ch member
  rw [isInert, isPath ch member, Bool.true_or]

/-- A blank is a mark at which the scan goes on. -/
theorem mark_of_blank (blank : isWhitespace mark) :
    isPathChar mark = false ∧ mark ≠ ':' ∧ quoteAfter none mark = none := by
  have inert : ∀ ch ∈ [mark], isInert ch := by
    intro ch member
    rw [List.mem_singleton.mp member, isInert, blank, Bool.or_true]
  refine ⟨?_, ne_of_inert (inert mark List.mem_cons_self) (by decide),
    foldl_quoteAfter_inert inert⟩
  rw [Bool.eq_false_iff]
  intro isPath
  rw [not_blank_of_path isPath] at blank
  cases blank

theorem isPath_of_spells {word : List Char} {keyword : String}
    (spells : Spells word keyword) : ∀ ch ∈ word, isPathChar ch := by
  intro ch member
  have named := spells.named ch member
  apply isPathChar_of_name
  rw [isNameChar]
  rw [Core.Commands.isSqlIdentifierChar, Bool.or_eq_true] at named
  rcases named with letter | underscore
  · rw [isAlphanumeric_of_ascii
        (isAscii_of_alphanum (by rw [letter, Bool.true_or])), letter,
      Bool.true_or]
  · rw [underscore, Bool.or_true]

namespace Replacement

variable (statement : Replacement)

/-- What stands between the two statements and the query. -/
def lead : List Char :=
  ' ' :: (createWords ++ (statement.name ++ (statement.nameGap.text ++
    (statement.as ++ statement.asGap.text))))

theorem inert_drop : ∀ ch ∈ dropTable ++ statement.name, isInert ch := by
  intro ch member
  rcases List.mem_append.mp member with inDrop | inName
  · have inert : dropTable.all isInert := by decide
    exact List.all_eq_true.mp inert ch inDrop
  · exact inert_of_word statement.isPath_name ch inName

theorem inert_lead : ∀ ch ∈ statement.lead, isInert ch := by
  have words : createWords.all isInert := by decide
  intro ch member
  simp only [lead, List.mem_cons, List.mem_append] at member
  rcases member with rfl | inWords | inName | inGap | inWord | inGap
  · decide
  · exact List.all_eq_true.mp words ch inWords
  · exact inert_of_word statement.isPath_name ch inName
  · exact inert_of_blank statement.nameGap.blank ch inGap
  · exact inert_of_word (isPath_of_spells statement.spells_as) ch inWord
  · exact inert_of_blank statement.asGap.blank ch inGap

theorem lead_query (query : List Char) :
    statement.lead ++ query =
      ' ' :: (createWords ++ (statement.name ++ (statement.nameGap.text ++
        (statement.as ++ (statement.asGap.text ++ query))))) := by
  simp only [lead, List.append_assoc, List.cons_append]

theorem dropAndCreate_eq :
    dropAndCreate statement.name statement.body =
      (dropTable ++ statement.name) ++
        ';' :: (statement.lead ++ statement.query) := by
  have create : createTable = ';' :: ' ' :: createWords := by decide
  rw [dropAndCreate, create, body, lead_query]
  simp only [List.append_assoc, List.cons_append]

theorem trimmed_drop : Trimmed (dropTable ++ statement.name) := by
  constructor
  · have starts : dropTable = 'D' :: dropTable.tail := by decide
    rw [starts]
    exact stops_cons.mpr (by decide)
  · rw [List.reverse_append]
    cases reversed : statement.name.reverse with
    | nil =>
        exact absurd (List.reverse_eq_nil_iff.mp reversed)
          statement.name_ne_nil
    | cons last front =>
        refine stops_cons.mpr (statement.not_blank_name last ?_)
        rw [← List.mem_reverse, reversed]
        exact List.mem_cons_self

/-- The two statements are split, whatever the query becomes. -/
theorem split_replaced (query : List Char) :
    splitSqlStatements ((dropTable ++ statement.name) ++
        ';' :: (statement.lead ++ query)) =
      (dropTable ++ statement.name) ::
        splitLoop .plain statement.lead query := by
  rw [splitSqlStatements, splitLoop_inert statement.inert_drop, splitLoop,
    if_pos ⟨rfl, rfl⟩, List.nil_append, keepStatement,
    trim_of_trimmed statement.trimmed_drop, if_neg,
    splitLoop_inert statement.inert_lead, List.nil_append]
  rw [List.isEmpty_iff, List.append_eq_nil_iff]
  exact fun empty => statement.name_ne_nil empty.2

theorem trim_lead_query :
    trim (statement.lead ++ statement.query) = statement.creation := by
  have trimmed : Trimmed statement.creation := by
    constructor
    · have starts : createWords = 'C' :: createWords.tail := by decide
      rw [creation, starts]
      exact stops_cons.mpr (by decide)
    · have ends := statement.trimmed_body.2
      rw [creation, List.reverse_append]
      cases reversed : statement.body.reverse with
      | nil =>
          have empty := List.reverse_eq_nil_iff.mp reversed
          rw [body, List.append_eq_nil_iff] at empty
          exact absurd empty.1 statement.name_ne_nil
      | cons last front =>
          rw [reversed] at ends
          exact stops_cons.mpr (stops_cons.mp ends)
  have shape : statement.lead ++ statement.query =
      [' '] ++ (statement.creation ++ []) := by
    rw [lead_query, creation, body, List.append_nil]
    rfl
  rw [shape]
  exact trim_surrounded (by simp [isWhitespace]) blank_nil trimmed

theorem split_query :
    splitLoop .plain statement.lead statement.query = [statement.creation] := by
  rw [splitLoop_one statement.one_query, keepStatement,
    statement.trim_lead_query, if_neg]
  rw [creation, List.isEmpty_iff, List.append_eq_nil_iff, body,
    List.append_eq_nil_iff]
  exact fun empty => statement.name_ne_nil empty.2.1

end Replacement

/-! ## Queries with an access -/

theorem first_access (has : ¬ ∀ piece ∈ pieces, piece.isAccess = false) :
    ∃ front column path back, pieces = front ++ .access column path :: back ∧
      ∀ piece ∈ front, piece.isAccess = false := by
  induction pieces with
  | nil => exact absurd (by simp) has
  | cons piece pieces ih =>
      by_cases here : piece.isAccess
      · cases piece with
        | access column path => exact ⟨[], column, path, pieces, rfl, by simp⟩
        | word | mark => cases here
      · rw [Bool.not_eq_true] at here
        have later : ¬ ∀ piece ∈ pieces, piece.isAccess = false := by
          intro others
          apply has
          simpa [here] using others
        rcases ih later with ⟨front, column, path, back, rfl, plain⟩
        exact ⟨piece :: front, column, path, back, rfl, by simpa [here]⟩

/-- Words and colons stand behind a seam. -/
theorem seam_of_heads {front tail : List Char}
    (heads : ∀ ahead ∈ tail.head?, isPathChar ahead ∨ ahead = ':') :
    Seam front tail :=
  seam_of_head (fun ch => isPathChar ch || ch == ':') (by decide)
    fun ahead isHead => by simpa using heads ahead isHead

/-- A part of a query ends no statement when something else follows it. -/
theorem splitLoop_part {reading : Reading} (quotes : QuotesOnly reading)
    {front tail other : List Char}
    (tailHeads : ∀ ahead ∈ tail.head?, isPathChar ahead ∨ ahead = ':')
    (otherHeads : ∀ ahead ∈ other.head?, isPathChar ahead ∨ ahead = ':')
    (one : OneStatement reading (front ++ tail)) (current : List Char) :
    ∃ after, splitLoop reading current (front ++ other) =
      splitLoop after (current ++ front) other := by
  induction front generalizing reading current with
  | nil => exact ⟨reading, by rw [List.nil_append, List.append_nil]⟩
  | cons ch front ih =>
      rw [List.cons_append] at one
      have later := one.2
      rw [next_append_seam quotes (seam_of_heads tailHeads)] at later
      rcases ih (quotes.next true ch front) later (current ++ [ch]) with
        ⟨after, split⟩
      refine ⟨after, ?_⟩
      rw [List.cons_append, splitLoop, if_neg one.1,
        next_append_seam quotes (seam_of_heads otherHeads), split,
        List.append_assoc, List.singleton_append]

theorem splitLoop_no_semicolon (none : ';' ∉ front)
    (reading : Reading) (current rest : List Char) :
    ∃ after, splitLoop reading current (front ++ rest) =
      splitLoop after (current ++ front) rest := by
  induction front generalizing reading current with
  | nil => exact ⟨reading, by rw [List.nil_append, List.append_nil]⟩
  | cons ch front ih =>
      rw [List.mem_cons, not_or] at none
      rcases ih none.2 (reading.next true ch (front ++ rest))
        (current ++ [ch]) with ⟨after, split⟩
      refine ⟨after, ?_⟩
      rw [List.cons_append, splitLoop, if_neg fun ends => none.1 ends.2.symm,
        split, List.append_assoc, List.singleton_append]

theorem formed_access {front back : List Piece} {column path : List Char}
    {started : Bool} (formed : Formed started (front ++ .access column path :: back)) :
    ∀ ch ∈ column, isPathChar ch := by
  induction front generalizing started with
  | nil => exact formed.2.1
  | cons piece front ih =>
      cases piece with
      | word word => exact ih formed.2.2
      | mark ch => exact ih formed.2
      | access other path => exact ih formed.2.2.2

theorem heads_of_column {column rest : List Char}
    (isColumn : ∀ ch ∈ column, isPathChar ch) :
    ∀ ahead ∈ (column ++ ':' :: rest).head?,
      isPathChar ahead ∨ ahead = ':' := by
  intro ahead isHead
  cases column with
  | nil => exact Or.inr (Option.some.inj isHead).symm
  | cons first column =>
      obtain rfl : first = ahead := Option.some.inj isHead
      exact Or.inl (isColumn first List.mem_cons_self)

theorem heads_of_call (column path rest : List Char) :
    ∀ ahead ∈ (getPath column path ++ rest).head?,
      isPathChar ahead ∨ ahead = ':' := by
  intro ahead isHead
  rw [getPath, pathOpening_eq] at isHead
  obtain rfl : 'g' = ahead := Option.some.inj isHead
  exact Or.inl (by decide)

namespace Replacement

variable (statement : Replacement)

theorem creation_eq :
    statement.creation = statement.lead.tail ++ statement.query := by
  have whole := statement.lead_query statement.query
  rw [creation, body, ← List.cons_inj_right ' ', ← whole]
  rfl

/-- Behind the blank in front nothing is trimmed up to a solid character. -/
theorem trim_lead_append (front word more : List Char) (last : Char)
    (solid : isWhitespace last = false) :
    trim (statement.lead ++ front ++ (word ++ [last]) ++ more) =
      statement.lead.tail ++ (front ++ (word ++ [last] ++ trimEnd more)) := by
  have shape : statement.lead ++ front ++ (word ++ [last]) ++ more =
      [' '] ++ ((statement.lead.tail ++ (front ++ (word ++ [last]))) ++ more) := by
    rw [lead, List.tail_cons]
    simp only [List.append_assoc, List.cons_append, List.nil_append]
  have starts : Stops isWhitespace
      ((statement.lead.tail ++ (front ++ (word ++ [last]))) ++ more) := by
    have words : createWords = 'C' :: createWords.tail := by decide
    rw [lead, List.tail_cons, words]
    exact stops_cons.mpr (by decide)
  have ends : Stops isWhitespace
      (statement.lead.tail ++ (front ++ (word ++ [last]))).reverse := by
    rw [← List.append_assoc, ← List.append_assoc, List.reverse_append]
    exact stops_cons.mpr solid
  rw [shape, trim, trimStart_blank_append (by simp [isWhitespace]),
    trimStart_of_stops starts, trimEnd_append ends]
  simp only [List.append_assoc]

end Replacement

/-- The second statement of a text with an access is another one. -/
theorem Replacement.split_access (statement : Replacement)
    (has : ¬ Accessless statement.query) :
    splitLoop .plain statement.lead (rewritten (scanned statement.query)) ≠
      [statement.creation] := by
  rcases first_access has with ⟨front, column, path, back, pieces, plain⟩
  have formed := formed_scanned statement.query
  rw [pieces] at formed
  have isColumn := formed_access formed
  have query : statement.query =
      original front ++ (column ++ ':' :: (path ++ original back)) := by
    rw [← original_scanned statement.query, pieces, original_append,
      original_access]
  have result : rewritten (scanned statement.query) =
      original front ++ (getPath column path ++ rewritten back) := by
    rw [pieces, rewritten_append, rewritten_access,
      rewritten_of_accessless plain]
  have opened : getPath column path ++ rewritten back =
      (pathOpening ++ column ++ [',']) ++
        (' ' :: '\'' :: (path ++ ['\'', ')'] ++ rewritten back)) := by
    simp [getPath, pathQuote_eq]
  intro split
  have one := statement.one_query
  rw [query] at one
  have quotes : QuotesOnly .plain := trivial
  rcases splitLoop_part quotes (heads_of_column isColumn)
      (heads_of_call column path (rewritten back)) one statement.lead with
    ⟨inQuery, first⟩
  have noSemicolon : ';' ∉ pathOpening ++ column ++ [','] := by
    have notOpening : ';' ∉ pathOpening := by decide
    have notColumn : ';' ∉ column := fun member =>
      absurd (isColumn ';' member) (by decide)
    simp [notOpening, notColumn]
  rcases splitLoop_no_semicolon noSemicolon inQuery
      (statement.lead ++ original front)
      (' ' :: '\'' :: (path ++ ['\'', ')'] ++ rewritten back)) with
    ⟨inCall, second⟩
  have solid : ¬ Blank (statement.lead ++ original front ++
      (pathOpening ++ column ++ [','])) := by
    intro blank
    have comma := blank ',' (by simp)
    revert comma
    decide
  rcases @splitLoop_starts inCall _
      (' ' :: '\'' :: (path ++ ['\'', ')'] ++ rewritten back)) solid with
    ⟨more, others, -, third⟩
  rw [result, first, opened, second, third, List.cons.injEq,
    statement.trim_lead_append _ _ _ ',' (by decide), statement.creation_eq, query, List.append_cancel_left_eq,
    List.append_cancel_left_eq, List.append_assoc, List.append_assoc] at split
  exact pathOpening_append_ne isColumn split.1

/-! ## Other first statements -/

theorem scanned_inert
    (inert : ∀ ch ∈ front, isInert ch) (isMark : isPathChar mark = false)
    (notColon : mark ≠ ':') (closed : quoteAfter none mark = none)
    (rest : List Char) :
    ∃ pieces, scanned (front ++ mark :: rest) = pieces ++ scanned rest ∧
      original pieces = front ++ [mark] ∧
        ∀ piece ∈ pieces, piece.isAccess = false :=
  scanned_append isMark notColon
    (fun member => ne_of_inert (inert ':' member) (by decide) rfl)
    (by rwa [foldl_quoteAfter_inert inert]) rest

theorem rewritten_inert
    (inert : ∀ ch ∈ front, isInert ch) (isMark : isPathChar mark = false)
    (notColon : mark ≠ ':') (closed : quoteAfter none mark = none)
    (rest : List Char) :
    rewritten (scanned (front ++ mark :: rest)) =
      front ++ mark :: rewritten (scanned rest) := by
  rcases scanned_inert inert isMark notColon closed rest with
    ⟨pieces, shape, own, plain⟩
  rw [shape, rewritten_append, rewritten_of_accessless plain, own,
    List.append_assoc]
  rfl

/-- The first statement starts with the first solid character. -/
theorem split_head {ch : Char} (blank : Blank front)
    (isPath : isPathChar ch) (rest : List Char) :
    ∃ more others, splitSqlStatements (front ++ ch :: rest) =
      (ch :: more) :: others := by
  have solid := not_blank_of_path isPath
  have inert : ∀ other ∈ front ++ [ch], isInert other := by
    intro other member
    rcases List.mem_append.mp member with inFront | last
    · exact inert_of_blank blank other inFront
    · rw [List.mem_singleton.mp last, isInert, isPath, Bool.true_or]
  have notBlank : ¬ Blank (front ++ [ch]) := by
    intro all
    rw [all ch (by simp)] at solid
    cases solid
  rcases @splitLoop_starts .plain _ rest notBlank with
    ⟨more, others, -, split⟩
  have ends : Stops isWhitespace [ch].reverse := stops_cons.mpr solid
  have trimmed : trim (front ++ [ch] ++ more) = ch :: trimEnd more := by
    have starts : Stops isWhitespace ([ch] ++ more) := stops_cons.mpr solid
    rw [List.append_assoc, trim, trimStart_blank_append blank,
      trimStart_of_stops starts, trimEnd_append ends]
    rfl
  refine ⟨trimEnd more, others, ?_⟩
  have shape : front ++ ch :: rest = (front ++ [ch]) ++ rest := by simp
  rw [splitSqlStatements, shape, splitLoop_inert inert, List.nil_append, split,
    trimmed]

/-- A filter over a subquery starts with `SELECT`. -/
theorem rewritten_filtered (innerQuery condition : List Char) :
    ∃ rest, rewritten (scanned (filtered innerQuery condition)) = 'S' :: rest := by
  have shape : filtered innerQuery condition =
      ['S', 'E', 'L', 'E', 'C', 'T'] ++ ' ' :: (subqueryOpening.drop 7 ++
        innerQuery ++ subqueryClosing ++ condition) := by
    have opening : subqueryOpening =
        ['S', 'E', 'L', 'E', 'C', 'T', ' '] ++ subqueryOpening.drop 7 := by
      decide
    rw [filtered]
    conv_lhs => rw [opening]
    simp only [List.append_assoc, List.cons_append, List.nil_append]
  rw [shape, rewritten_inert (List.all_eq_true.mp (by decide))
    (by decide) (by decide) (by decide)]
  exact ⟨_, rfl⟩

theorem filtered_of_rewriteQualify {sql mid : List Char}
    (found : ¬ Unqualified sql) (rewrites : rewriteQualify sql = some mid) :
    ∃ innerQuery condition, mid = filtered innerQuery condition := by
  rcases Option.map_eq_some_iff.mp rewrites with ⟨parts, cut, rfl⟩
  cases parts with
  | some parts => exact ⟨parts.1, parts.2, rfl⟩
  | none =>
      cases position : findKeyword (upperChars sql) qualifyWord with
      | none => exact absurd position found
      | some pos => exact absurd cut (qualifyParts_ne_none position)

/-- The text between the second pass and the last one. -/
theorem exists_mid {sql out : List Char}
    (rewrites : rewriteSnowflakeSql sql = some out) :
    ∃ mid, rewriteQualify (replaced sql) = some mid ∧
      out = rewritten (scanned mid) := by
  rw [rewriteSnowflakeSql_eq] at rewrites
  rcases Option.bind_eq_some_iff.mp rewrites with ⟨mid, second, last⟩
  rw [rewriteColonPath_eq] at last
  split at last
  · exact ⟨mid, second, (Option.some.inj last).symm⟩
  · cases last

namespace Replacement

variable (statement : Replacement)

/-- A text that starts with another letter splits into something else. -/
theorem split_ne {front : List Char} {ch : Char} (blank : Blank front)
    (isPath : isPathChar ch) (other : ch ≠ 'D') (rest : List Char) :
    splitSqlStatements (front ++ ch :: rest) ≠
      [dropTable ++ statement.name, statement.creation] := by
  intro same
  rcases split_head blank isPath rest with ⟨more, others, split⟩
  have start : dropTable = 'D' :: dropTable.tail := by decide
  rw [split, start, List.cons.injEq, List.cons_append, List.cons.injEq] at same
  exact other same.1.1

/-- A text that the first two passes leave starts with `CREATE`. -/
theorem rewritten_text :
    ∃ ch rest, isPathChar ch ∧ ch ≠ 'D' ∧
      rewritten (scanned statement.text) = statement.leading ++ ch :: rest := by
  have isPath := isPath_of_spells statement.spells_create
  have upper := statement.spells_create.upper
  have inert : ∀ ch ∈ statement.leading ++ statement.create, isInert ch := by
    intro ch member
    rcases List.mem_append.mp member with inLeading | inWord
    · exact inert_of_blank statement.blank_leading ch inLeading
    · exact inert_of_word isPath ch inWord
  rcases gap : statement.createGap with ⟨text, nonempty, blank⟩
  cases text with
  | nil => exact absurd rfl nonempty
  | cons mark more =>
      rcases mark_of_blank (blank mark List.mem_cons_self) with
        ⟨isMark, notColon, closed⟩
      cases word : statement.create with
      | nil => exact absurd word statement.spells_create.ne_nil
      | cons ch create =>
          rw [word] at isPath upper inert
          have first := List.head_eq_of_cons_eq upper
          have other : ch ≠ 'D' := by
            rintro rfl
            revert first
            decide
          have shape (rest : List Char) :
              statement.leading ++ (ch :: create ++ (mark :: more ++ rest)) =
                (statement.leading ++ ch :: create) ++
                  mark :: (more ++ rest) := by
            simp only [List.append_assoc, List.cons_append]
          have own := rewritten_inert inert isMark notColon closed
          rw [Replacement.text, gap, word, shape, own, List.append_assoc]
          exact ⟨ch, _, isPath ch List.mem_cons_self, other, rfl⟩

theorem lead_concat :
    ∃ front mark, statement.lead = front ++ [mark] ∧ isWhitespace mark := by
  rcases gap : statement.asGap with ⟨text, nonempty, blank⟩
  rcases List.eq_nil_or_concat text with rfl | ⟨front, mark, rfl⟩
  · exact absurd rfl nonempty
  · refine ⟨' ' :: (createWords ++ (statement.name ++
      (statement.nameGap.text ++ (statement.as ++ front)))), mark, ?_,
      blank mark (by simp)⟩
    rw [lead, gap]
    simp

/-- Only the query of what the first pass makes can have an access. -/
theorem pieces_replaced :
    ∃ pieces, scanned (dropAndCreate statement.name statement.body) =
        pieces ++ scanned statement.query ∧
      original pieces =
        (dropTable ++ statement.name) ++ ';' :: statement.lead ∧
      ∀ piece ∈ pieces, piece.isAccess = false := by
  rcases statement.lead_concat with ⟨front, mark, shape, blank⟩
  rcases mark_of_blank blank with ⟨isMark, notColon, closed⟩
  have whole := statement.inert_lead
  rw [shape] at whole
  have inert : ∀ ch ∈ front, isInert ch := fun ch member =>
    whole ch (List.mem_append_left [mark] member)
  rcases scanned_inert statement.inert_drop (by decide : isPathChar ';' = false)
      (by decide) (by decide) (statement.lead ++ statement.query) with
    ⟨first, firstShape, firstOwn, firstPlain⟩
  rcases scanned_inert inert isMark notColon closed statement.query with
    ⟨second, secondShape, secondOwn, secondPlain⟩
  refine ⟨first ++ second, ?_, ?_, ?_⟩
  · rw [List.append_assoc, ← secondShape, dropAndCreate_eq, firstShape, shape,
      List.append_assoc, List.singleton_append]
  · rw [original_append, firstOwn, secondOwn, shape, List.append_assoc,
      List.singleton_append]
  · intro piece member
    rcases List.mem_append.mp member with inFirst | inSecond
    · exact firstPlain piece inFirst
    · exact secondPlain piece inSecond

theorem rewritten_replaced :
    rewritten (scanned (dropAndCreate statement.name statement.body)) =
      (dropTable ++ statement.name) ++
        ';' :: (statement.lead ++ rewritten (scanned statement.query)) := by
  rcases statement.pieces_replaced with ⟨pieces, shape, own, plain⟩
  rw [shape, rewritten_append, rewritten_of_accessless plain, own,
    List.append_assoc, List.cons_append]

/-- The last two passes leave a handled statement as the first one made it. -/
theorem rewritten_handled (handled : statement.Handled) :
    rewriteSnowflakeSql statement.text =
      some (dropAndCreate statement.name statement.body) := by
  have begins := statement.replaceWords_prefix_iff.mpr
    ⟨handled.leading, handled.createGap, handled.orGap, handled.replaceGap⟩
  have silent := statement.unqualified_replaced.mpr
    ⟨handled.name, handled.query⟩
  have accessless : Accessless (dropAndCreate statement.name statement.body) := by
    rcases statement.pieces_replaced with ⟨front, pieces, -, plain⟩
    intro piece member
    rw [pieces] at member
    rcases List.mem_append.mp member with inFront | inQuery
    · exact plain piece inFront
    · exact handled.accessless piece inQuery
  rw [rewriteSnowflakeSql_eq, statement.replaced_text begins handled.hasAs,
    rewriteQualify_of_none silent, Option.bind_some, rewriteColonPath_eq,
    if_pos (narrow_of_accessless accessless),
    rewritten_of_accessless accessless, original_scanned]

/-- A kept statement is recognized and has nothing that is rewritten. -/
theorem handled_of_kept (kept : statement.Kept) : statement.Handled := by
  rcases kept with ⟨out, rewrites, split⟩
  rcases exists_mid rewrites with ⟨mid, second, rfl⟩
  by_cases silent : Unqualified (replaced statement.text)
  · obtain rfl : replaced statement.text = mid :=
      Option.some.inj ((rewriteQualify_of_none silent).symm.trans second)
    by_cases fires : replaceWords <+: upperChars statement.text ∧
        asWord <:+: upperChars statement.text
    · rw [statement.replaced_text fires.1 fires.2] at silent split
      rcases statement.replaceWords_prefix_iff.mp fires.1 with
        ⟨leading, createGap, orGap, replaceGap⟩
      rcases statement.unqualified_replaced.mp silent with ⟨name, query⟩
      refine ⟨leading, createGap, orGap, replaceGap, fires.2, name, query, ?_⟩
      by_contra has
      rw [statement.rewritten_replaced, statement.split_replaced,
        List.cons.injEq] at split
      exact statement.split_access has split.2
    · rw [replaced, if_neg fires] at split
      rcases statement.rewritten_text with ⟨ch, rest, isPath, other, shape⟩
      rw [shape] at split
      exact absurd split
        (statement.split_ne statement.blank_leading isPath other rest)
  · rcases filtered_of_rewriteQualify silent second with
      ⟨innerQuery, condition, rfl⟩
    rcases rewritten_filtered innerQuery condition with ⟨rest, shape⟩
    rw [shape] at split
    exact absurd split
      (statement.split_ne blank_nil (by decide) (by decide) rest)

theorem kept_iff : statement.Kept ↔ statement.Handled := by
  constructor
  · exact statement.handled_of_kept
  · intro handled
    refine ⟨_, statement.rewritten_handled handled, ?_⟩
    rw [dropAndCreate_eq, split_replaced, split_query]

end Replacement

end OpenSnow.Compat.Rewriter
