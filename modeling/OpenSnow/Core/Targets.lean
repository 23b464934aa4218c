import OpenSnow.Core.Walks
import OpenSnow.Rust.AsciiCase

/-!
# The target of a creation

The readers of creations take the text between the first keywords and the first
`AS` outside quotes for the name of what is created.  It is the name where a
single identifier stands between them.
-/

namespace OpenSnow.Core.Commands

open Foundation
open Rust.Text
open Sql

/-- The name and the query that the reader of a creation cuts out. -/
def creationTexts (sql : List Char) (keywords : List String) :
    Panics (Option (List Char × List Char)) := do
  match ← keywordSequenceEnd sql keywords with
  | none => some none
  | some headerEnd =>
      match ← findAsClause sql headerEnd with
      | none => some none
      | some (asPos, queryPos) =>
          let name ← slice sql headerEnd asPos
          let query ← sliceFrom sql queryPos
          some (some (trim name, query))

/--
White space, one identifier other than `AS`, white space and the word `AS`.
-/
structure NamesTarget (rest name behind : List Char) : Prop where
  parts : ∃ before between first second,
    rest = before ++ (name ++ (between ++ first :: second :: behind)) ∧
      before ≠ [] ∧ Blank before ∧ between ≠ [] ∧ Blank between ∧
      (first = 'A' ∨ first = 'a') ∧ (second = 's' ∨ second = 'S')
  identifier : isSafeUnqualifiedIdentifier name
  notAs : ¬ eqIgnoreCase name "AS"
  ends : Stops isSqlIdentifierChar behind

/-! ## Characters -/

theorem eqIgnoreCase_iff {text : List Char} {word : String}
    (upper : word.toList.map Char.toUpper = word.toList) :
    eqIgnoreCase text word ↔ text.map Char.toUpper = word.toList := by
  rw [eqIgnoreCase, beq_iff_eq, map_toLower_eq_iff upper]

theorem as_spelled {name : List Char} (isAs : eqIgnoreCase name "AS") :
    ∃ first second, name = [first, second] ∧
      (first = 'A' ∨ first = 'a') ∧ (second = 's' ∨ second = 'S') := by
  have spelled : name.map Char.toUpper = ['A', 'S'] :=
    (eqIgnoreCase_iff (by decide)).mp isAs
  rcases name with _ | ⟨first, _ | ⟨second, _ | ⟨third, name⟩⟩⟩
  · simp at spelled
  · simp at spelled
  · rw [List.map_cons, List.map_cons, List.map_nil, List.cons.injEq,
      List.cons.injEq] at spelled
    exact
      ⟨first, second, rfl, @eq_or_eq_of_toUpper first 'A' spelled.1,
        (@eq_or_eq_of_toUpper second 'S' spelled.2.1).symm⟩
  · simp at spelled

variable {ch : Char}

theorem not_isSqlIdentifierChar_of_blank
    (blank : isWhitespace ch) : isSqlIdentifierChar ch = false := by
  rw [Bool.eq_false_iff]
  intro named
  rw [not_isWhitespace_of_alphanum named] at blank
  cases blank

theorem not_quote_of_isSqlIdentifierChar
    (named : isSqlIdentifierChar ch) : ch ≠ '\'' ∧ ch ≠ '"' := by
  constructor <;> rintro rfl <;> revert named <;> decide

theorem not_quote_of_blank (blank : isWhitespace ch) :
    ch ≠ '\'' ∧ ch ≠ '"' := by
  constructor <;> rintro rfl <;> revert blank <;> decide

/-! ## The first `AS` -/

theorem behindAs_blank (blank : isWhitespace ch)
    (last : Option Char) (rest : List Char) :
    behindAs last (ch :: rest) = none := by
  cases rest with
  | nil => rfl
  | cons second rest =>
      rw [behindAs, if_neg]
      rintro ⟨isA, -⟩
      rcases isA with rfl | rfl <;> revert blank <;> decide

theorem behindAs_inWord {last : Char} (named : isSqlIdentifierChar last)
    (text : List Char) : behindAs (some last) text = none := by
  rcases text with _ | ⟨first, _ | ⟨second, rest⟩⟩
  · rfl
  · rfl
  · rw [behindAs, if_neg]
    rintro ⟨-, -, startsWord, -⟩
    rw [Option.any_some, named] at startsWord
    cases startsWord

/-- A word is an `AS` only if it is spelled so. -/
theorem behindAs_name {name rest : List Char} (last : Option Char)
    (named : ∀ other ∈ name, isSqlIdentifierChar other)
    (stops : Stops isSqlIdentifierChar rest)
    (notAs : ¬ eqIgnoreCase (ch :: name) "AS") :
    behindAs last (ch :: (name ++ rest)) = none := by
  cases name with
  | nil =>
      cases rest with
      | nil => rfl
      | cons second rest =>
          rw [List.nil_append, behindAs, if_neg]
          rintro ⟨-, isS, -⟩
          rw [stops_cons] at stops
          rcases isS with rfl | rfl <;> revert stops <;> decide
  | cons second name =>
      rw [List.cons_append, behindAs, if_neg]
      rintro ⟨isA, isS, -, endsWord⟩
      cases name with
      | nil =>
          apply notAs
          rcases isA with rfl | rfl <;> rcases isS with rfl | rfl <;> decide
      | cons third name =>
          rw [List.cons_append, List.head?_cons, Option.any_some,
            named third (by simp)] at endsWord
          cases endsWord

/-- A run of characters outside quotes at none of which an `AS` begins. -/
theorem asClause_run {run rest : List Char} (last : Option Char)
    (silent : ∀ before ch after, run = before ++ ch :: after →
      (ch ≠ '\'' ∧ ch ≠ '"') ∧
        behindAs (before.getLast?.or last) (ch :: (after ++ rest)) = none) :
    asClause .plain last (run ++ rest) =
      (asClause .plain (run.getLast?.or last) rest).map fun clause =>
        (run ++ clause.1, clause.2) := by
  induction run generalizing last with
  | nil => simp
  | cons ch run ih =>
      rcases silent [] ch run rfl with ⟨noQuote, noAs⟩
      have plain : Reading.plain.next false ch (run ++ rest) = .plain := by
        simp [Reading.next, noQuote]
      have onwards := ih (some ch) (by
        intro before other after shape
        have there := silent (ch :: before) other after (by rw [shape]; rfl)
        rwa [getLast?_cons_or] at there)
      rw [List.cons_append, asClause, if_pos rfl]
      simp only [List.getLast?_nil, Option.none_or] at noAs
      rw [noAs]
      simp only
      rw [plain, onwards, Option.map_map, getLast?_cons_or]
      rfl

theorem asClause_blank {blanks rest : List Char} (blank : Blank blanks)
    (last : Option Char) :
    asClause .plain last (blanks ++ rest) =
      (asClause .plain (blanks.getLast?.or last) rest).map fun clause =>
        (blanks ++ clause.1, clause.2) := by
  apply asClause_run
  intro before ch after shape
  have white : isWhitespace ch := blank ch (by rw [shape]; simp)
  exact ⟨not_quote_of_blank white, behindAs_blank white _ _⟩

theorem asClause_name {name rest : List Char}
    (named : ∀ ch ∈ name, isSqlIdentifierChar ch)
    (stops : Stops isSqlIdentifierChar rest)
    (notAs : ¬ eqIgnoreCase name "AS") (last : Option Char) :
    asClause .plain last (name ++ rest) =
      (asClause .plain (name.getLast?.or last) rest).map fun clause =>
        (name ++ clause.1, clause.2) := by
  apply asClause_run
  intro before ch after shape
  have isNamed : isSqlIdentifierChar ch := named ch (by rw [shape]; simp)
  refine ⟨not_quote_of_isSqlIdentifierChar isNamed, ?_⟩
  cases before with
  | nil =>
      rw [List.nil_append] at shape
      apply behindAs_name _ _ stops (by rwa [← shape])
      intro other member
      exact named other (by rw [shape]; exact List.mem_cons_of_mem ch member)
  | cons first before =>
      rw [List.getLast?_cons, Option.some_or]
      apply behindAs_inWord
      apply named
      rw [shape]
      apply List.mem_append_left
      cases lastOf : before.getLast? with
      | none => simp
      | some other =>
          exact List.mem_cons_of_mem first (List.mem_of_getLast? lastOf)

/-! ## Names -/

theorem isSafe_named {name : List Char}
    (safe : isSafeUnqualifiedIdentifier name) :
    name ≠ [] ∧ ∀ ch ∈ name, isSqlIdentifierChar ch := by
  simp only [isSafeUnqualifiedIdentifier, Bool.and_eq_true,
    Bool.not_eq_true', List.isEmpty_eq_false_iff] at safe
  exact ⟨safe.1.1.1, List.all_eq_true.mp safe.1.2⟩

theorem trimmed_of_named {name : List Char}
    (named : ∀ ch ∈ name, isSqlIdentifierChar ch) : Trimmed name := by
  constructor
  · intro ch isHead
    exact not_isWhitespace_of_alphanum (named ch (List.mem_of_mem_head? isHead))
  · intro ch isHead
    have member := List.mem_of_mem_head? isHead
    exact not_isWhitespace_of_alphanum (named ch (List.mem_reverse.mp member))

theorem stops_blank {blanks rest : List Char} (nonempty : blanks ≠ [])
    (blank : Blank blanks) : Stops isSqlIdentifierChar (blanks ++ rest) := by
  cases blanks with
  | nil => exact absurd rfl nonempty
  | cons ch blanks =>
      exact stops_cons.mpr (not_isSqlIdentifierChar_of_blank (blank ch (by simp)))

theorem behindAs_eq {last : Option Char} {first second : Char}
    {behind : List Char} (startsWord : last.any isSqlIdentifierChar = false)
    (isA : first = 'A' ∨ first = 'a') (isS : second = 's' ∨ second = 'S')
    (ends : Stops isSqlIdentifierChar behind) :
    behindAs last (first :: second :: behind) = some behind := by
  rw [behindAs, if_pos]
  refine ⟨isA, isS, by rw [startsWord]; rfl, ?_⟩
  cases behind with
  | nil => rfl
  | cons ch rest => simp [stops_cons.mp ends]

/-- An `AS` behind white space is found there. -/
theorem asClause_blank_as {blanks behind : List Char} {first second : Char}
    {last : Option Char} (nonempty : blanks ≠ []) (blank : Blank blanks)
    (isA : first = 'A' ∨ first = 'a') (isS : second = 's' ∨ second = 'S')
    (ends : Stops isSqlIdentifierChar behind) :
    asClause .plain last (blanks ++ first :: second :: behind) =
      some (blanks, behind) := by
  have startsWord :
      (blanks.getLast?.or last).any isSqlIdentifierChar = false := by
    rw [List.getLast?_eq_some_getLast nonempty, Option.some_or, Option.any_some]
    exact
      not_isSqlIdentifierChar_of_blank (blank _ (List.getLast_mem nonempty))
  rw [asClause_blank blank, asClause, if_pos rfl,
    behindAs_eq startsWord isA isS ends]
  simp

/-- Behind a single identifier the next word is the first `AS`. -/
theorem NamesTarget.clause {rest name behind : List Char}
    (target : NamesTarget rest name behind) :
    ∃ front, asClause .plain none rest = some (front, behind) ∧
      trim front = name := by
  rcases target.parts with
    ⟨before, between, first, second, rfl, beforeNonempty, blankBefore,
      betweenNonempty, blankBetween, isA, isS⟩
  rcases isSafe_named target.identifier with ⟨-, named⟩
  refine ⟨before ++ (name ++ between), ?_, ?_⟩
  · rw [asClause_blank blankBefore,
      asClause_name named (stops_blank betweenNonempty blankBetween)
        target.notAs,
      asClause_blank_as betweenNonempty blankBetween isA isS target.ends]
    rfl
  · exact trim_surrounded blankBefore blankBetween (trimmed_of_named named)

/-- A text with an identifier before its first `AS` names that target. -/
theorem namesTarget_of_clause {rest front behind : List Char}
    (blank : ∀ ch ∈ rest.head?, isWhitespace ch)
    (clause : asClause .plain none rest = some (front, behind))
    (safe : isSafeUnqualifiedIdentifier (trim front)) :
    NamesTarget rest (trim front) behind := by
  rcases asClause_shape clause with
    ⟨first, second, shape, isA, isS, startsWord, ends⟩
  rcases trim_shape front with ⟨before, between, parts, blankBefore, blankBetween⟩
  rcases isSafe_named safe with ⟨nonempty, named⟩
  have whole :
      rest = before ++ (trim front ++ (between ++ first :: second :: behind)) := by
    rw [shape]
    conv_lhs => rw [parts]
    simp
  have beforeNonempty : before ≠ [] := by
    rintro rfl
    cases form : trim front with
    | nil => exact nonempty form
    | cons ch name =>
        rw [whole, form] at blank
        have white := blank ch rfl
        have isNamed := named ch (by rw [form]; exact List.mem_cons_self)
        rw [not_isWhitespace_of_alphanum isNamed] at white
        cases white
  have betweenNonempty : between ≠ [] := by
    rintro rfl
    rw [List.append_nil] at parts
    rw [parts, List.getLast?_append_of_ne_nil _ nonempty,
      List.getLast?_eq_some_getLast nonempty, Option.some_or,
      Option.any_some, named _ (List.getLast_mem nonempty)] at startsWord
    cases startsWord
  refine
    ⟨⟨before, between, first, second, whole, beforeNonempty, blankBefore,
        betweenNonempty, blankBetween, isA, isS⟩,
      safe, ?_, ends⟩
  intro isAs
  -- The name would be the first `AS` itself, and end the front before it.
  rcases as_spelled isAs with ⟨nameA, nameS, form, nameIsA, nameIsS⟩
  have earlier :
      asClause .plain none rest =
        some (before, between ++ first :: second :: behind) := by
    rw [whole, form, List.cons_append, List.cons_append, List.nil_append]
    exact
      asClause_blank_as beforeNonempty blankBefore nameIsA nameIsS
        (stops_blank betweenNonempty blankBetween)
  rw [clause, Option.some.injEq, Prod.mk.injEq] at earlier
  have longer := congrArg List.length parts
  rw [form, earlier.1] at longer
  simp at longer

/-! ## The texts that are cut out -/

theorem creationTexts_eq {sql rest : List Char} {keywords : List String}
    (follows : afterKeywords sql keywords = some rest)
    (nonempty : keywords ≠ []) :
    creationTexts sql keywords =
      some
        ((asClause .plain none rest).map fun clause =>
          (trim clause.1, trimStart clause.2)) := by
  rcases findAsClause_afterKeywords follows nonempty with
    ⟨header, shape, start, found⟩
  rw [creationTexts, keywordSequenceEnd_eq, follows]
  simp only [Option.bind_eq_bind, Option.bind_some, Option.map_some, start,
    found]
  cases clause : asClause .plain none rest with
  | none => rfl
  | some parts =>
      rcases parts with ⟨front, behind⟩
      rcases asClause_shape clause with ⟨first, second, parts, -⟩
      rw [parts] at shape
      rcases slices_of_clause shape with ⟨name, query⟩
      simp only [Option.map_some, name, query, Option.bind_some]

/-!
## How a statement begins

Some branches of the dispatch compare the start of the upper-case text with
keywords that are one blank apart, others skip white space between keywords.
Here a statement is given by its words and what stands between them.
-/

/-! ### Words -/

/-- A word that is a keyword in some letter case. -/
structure Spells (word : List Char) (keyword : String) : Prop where
  upper : word.map Char.toUpper = keyword.toList
  isWord : keyword.toList.all isSqlIdentifierChar
  nonempty : keyword.toList ≠ []

theorem isSqlIdentifierChar_of_toUpper
    (named : isSqlIdentifierChar ch.toUpper) : isSqlIdentifierChar ch := by
  by_cases letter : ch.toUpper.isAlpha
  · rw [Char.isAlpha_toUpper_eq_isAlpha] at letter
    rw [isSqlIdentifierChar, Char.isAlphanum, letter, Bool.true_or,
      Bool.true_or]
  · rwa [← (toUpper_eq_iff letter).mp rfl] at named

variable {word : List Char} {keyword : String}

section

variable (spells : Spells word keyword)

include spells

theorem Spells.named :
    ∀ ch ∈ word, isSqlIdentifierChar ch := by
  intro ch member
  apply isSqlIdentifierChar_of_toUpper
  apply List.all_eq_true.mp spells.isWord
  rw [← spells.upper]
  exact List.mem_map_of_mem member

theorem Spells.not_blank :
    ∀ ch ∈ word, isWhitespace ch = false := fun ch member =>
  not_isWhitespace_of_alphanum (spells.named ch member)

theorem Spells.ne_nil : word ≠ [] := by
  rintro rfl
  exact spells.nonempty spells.upper.symm

theorem Spells.eqIgnoreCase : eqIgnoreCase word keyword := by
  have upper : keyword.toList.map Char.toUpper = keyword.toList := by
    rw [← spells.upper, List.map_map]
    exact List.map_congr_left fun ch _ => Char.toUpper_toUpper_eq_toUpper ch
  exact (eqIgnoreCase_iff upper).mpr spells.upper

theorem Spells.upperChars (rest : List Char) :
    upperChars (word ++ rest) = keyword.toList ++ upperChars rest := by
  rw [upperChars_append,
    upperChars_of_ascii fun ch member =>
      isAscii_of_alphanum (spells.named ch member),
    spells.upper]

end

theorem spells_self (upper : keyword.toList.map Char.toUpper = keyword.toList)
    (isWord : keyword.toList.all isSqlIdentifierChar)
    (nonempty : keyword.toList ≠ []) : Spells keyword.toList keyword :=
  ⟨upper, isWord, nonempty⟩

theorem spells_create : Spells "CREATE".toList "CREATE" :=
  spells_self (by decide) (by decide) (by decide)

/-! ### Prefixes -/

/-- Neither of two texts begins with the other. -/
def Apart (word : List Char) (start : String) : Prop :=
  ¬ word <+: start.toList ∧ ¬ start.toList <+: word

instance (word : List Char) (start : String) : Decidable (Apart word start) :=
  inferInstanceAs (Decidable (_ ∧ _))

theorem hasPrefix_of_apart {word rest : List Char} {start : String}
    (apart : Apart word start) : hasPrefix (word ++ rest) start = false := by
  rw [Bool.eq_false_iff]
  intro begins
  rcases List.prefix_or_prefix_of_prefix (List.isPrefixOf_iff_prefix.mp begins)
      (List.prefix_append word rest) with
    shorter | longer
  · exact apart.2 shorter
  · exact apart.1 longer

/-! ### Keyword sequences -/

theorem afterKeyword_append {blanks word rest : List Char} {keyword : String}
    (blank : Blank blanks) (spells : Spells word keyword)
    (stops : Stops (!isWhitespace ·) rest) :
    afterKeyword (blanks ++ (word ++ rest)) keyword = some rest := by
  have solid : ∀ ch ∈ word, !isWhitespace ch := by
    intro ch member
    rw [spells.not_blank ch member]
    rfl
  have starts : Stops isWhitespace (word ++ rest) := by
    cases word with
    | nil => exact absurd rfl spells.ne_nil
    | cons ch word =>
        exact stops_cons.mpr (spells.not_blank ch List.mem_cons_self)
  simp only [afterKeyword]
  rw [dropWhile_span blank starts, takeWhile_span solid stops,
    dropWhile_span solid stops, if_pos spells.eqIgnoreCase]

/-- A text whose first word is another one does not go on behind a keyword. -/
theorem afterKeyword_other {blanks word rest : List Char} {keyword : String}
    (blank : Blank blanks) (starts : Stops isWhitespace (word ++ rest))
    (solid : ∀ ch ∈ word, !isWhitespace ch)
    (stops : Stops (!isWhitespace ·) rest)
    (other : ¬ eqIgnoreCase word keyword) :
    afterKeyword (blanks ++ (word ++ rest)) keyword = none := by
  simp only [afterKeyword]
  rw [dropWhile_span blank starts, takeWhile_span solid stops, if_neg other]

/-! ### Branches that compare prefixes -/

/-- The prefixes that a branch accepts, with its handler. -/
abbrev PrefixTest : Type := List String × Handler

/-- The branches of `handle_command` before those of the creations. -/
def frontTests : List PrefixTest :=
  [(["SHOW WAREHOUSES"], .showWarehouses),
    (["CREATE WAREHOUSE"], .createWarehouse),
    (["ALTER WAREHOUSE"], .alterWarehouse),
    (["USE WAREHOUSE"], .useWarehouse),
    (["COPY INTO", "COPY "], .copyInto)]

/-- The branches of `handle_command` behind those of the creations. -/
def backTests : List PrefixTest :=
  [(["REFRESH MATERIALIZED VIEW"], .refreshMaterializedView),
    (["DROP MATERIALIZED VIEW"], .dropMaterializedView),
    (["SHOW TABLES"], .showTables),
    (["SHOW DATABASES", "SHOW SCHEMAS"], .showDatabases),
    (["DESCRIBE ", "DESC "], .describe),
    (["DROP TABLE "], .dropTable)]

/-- The handler of the first test that an upper-case text passes. -/
def firstPassed (upper : List Char) : List PrefixTest → Option Handler
  | [] => none
  | (starts, handler) :: tests =>
      if starts.any (hasPrefix upper) then some handler
      else firstPassed upper tests

/-- The tests that a text which begins with this word can pass. -/
def openTests (word : List Char) : List PrefixTest → List PrefixTest
  | [] => []
  | (starts, handler) :: tests =>
      if starts.all fun start => Apart word start then openTests word tests
      else
        (starts.filter fun start => ¬ Apart word start, handler) ::
          openTests word tests

theorem any_hasPrefix_filter (word rest : List Char) (starts : List String) :
    (starts.filter fun start => ¬ Apart word start).any
        (hasPrefix (word ++ rest)) =
      starts.any (hasPrefix (word ++ rest)) := by
  induction starts with
  | nil => rfl
  | cons start starts ih =>
      rw [List.filter_cons]
      split
      · rw [List.any_cons, List.any_cons, ih]
      · rename_i notOpen
        have apart : Apart word start := by simpa using notOpen
        rw [List.any_cons, hasPrefix_of_apart apart, Bool.false_or, ih]

theorem firstPassed_openTests (word rest : List Char)
    (tests : List PrefixTest) :
    firstPassed (word ++ rest) (openTests word tests) =
      firstPassed (word ++ rest) tests := by
  induction tests with
  | nil => rfl
  | cons test tests ih =>
      rcases test with ⟨starts, handler⟩
      rw [openTests]
      split
      · rename_i all
        have fails : starts.any (hasPrefix (word ++ rest)) = false := by
          rw [List.any_eq_false]
          intro start member
          have apart := List.all_eq_true.mp all start member
          rw [hasPrefix_of_apart (of_decide_eq_true apart)]
          exact Bool.false_ne_true
        rw [ih, firstPassed, fails, if_neg Bool.false_ne_true]
      · rw [firstPassed, firstPassed, any_hasPrefix_filter, ih]

/-- The choice of a handler by the start of the upper-case text. -/
theorem chosenHandler_eq (text : List Char) :
    chosenHandler text =
      (firstPassed (upperChars text) frontTests).or
        (if createsTable text then some .ctas
        else if
          (afterKeywords text ["CREATE", "MATERIALIZED", "VIEW"]).isSome
        then some .createMaterializedView
        else firstPassed (upperChars text) backTests) := by
  have row : ∀ (holds : Bool) (handler : Handler) (next : Option Handler)
      (others : Option Handler),
      (if holds then some handler else next).or others =
        if holds then some handler else next.or others := by
    rintro (_ | _) handler next others <;> rfl
  simp only [chosenHandler, branches, frontTests, backTests, firstPassed,
    firstHolding, List.any_cons, List.any_nil, Bool.or_false, row,
    Option.none_or]

end OpenSnow.Core.Commands
