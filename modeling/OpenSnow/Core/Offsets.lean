import OpenSnow.Core.CommandText

/-!
# The offsets of the command readers

Every offset that the readers compute lies between two characters, so none of
their slices panics, and each of them can be read as a walk over the text.
-/

namespace OpenSnow.Core.Commands

open Foundation
open Rust.Text
open Sql

/-! ## Leading comments -/

theorem stripLoop_isSome (fuel : Nat) (text : List Char) :
    (stripLoop fuel text).isSome := by
  induction fuel generalizing text with
  | zero => rfl
  | succ fuel ih =>
      rw [stripLoop.eq_def]
      dsimp only
      split
      · split
        · rename_i stop found
          rcases sliceFrom_find found with ⟨after, sliced⟩
          have length : utf8Len ['*', '/'] = 2 := rfl
          rw [length] at sliced
          rw [sliced, Option.bind_some]
          exact ih (trimStart after)
        · rfl
      · split
        · rename_i stop found
          rcases sliceFrom_find found with ⟨after, sliced⟩
          have length : utf8Len ['\n'] = 1 := rfl
          rw [length] at sliced
          rw [sliced, Option.bind_some]
          exact ih (trimStart after)
        · rfl
      · rfl

variable (sql : List Char)

theorem stripLeadingSqlComments_isSome :
    (stripLeadingSqlComments sql).isSome :=
  stripLoop_isSome _ _

/-- The text behind the leading comments. -/
def stripped (sql : List Char) : List Char :=
  (stripLeadingSqlComments sql).get (stripLeadingSqlComments_isSome sql)

theorem stripLeadingSqlComments_eq :
    stripLeadingSqlComments sql = some (stripped sql) :=
  (Option.some_get _).symm

/--
What every comment that is taken off preserves holds of the text behind the
comments, if it holds of the text.
-/
theorem stripped_induct {motive : List Char → Prop}
    (blanks : ∀ text, motive text → motive (trimStart text))
    (block : ∀ rest stop after, find ['*', '/'] rest = some stop →
      sliceFrom rest (stop + 2) = some after →
        motive ('/' :: '*' :: rest) → motive after)
    (line : ∀ rest stop after, find ['\n'] rest = some stop →
      sliceFrom rest (stop + 1) = some after →
        motive ('-' :: '-' :: rest) → motive after)
    (lastLine : ∀ rest, find ['\n'] rest = none →
      motive ('-' :: '-' :: rest) → motive [])
    {sql : List Char} (holds : motive sql) : motive (stripped sql) := by
  have loop : ∀ fuel text, motive text →
      ∀ result, stripLoop fuel text = some result → motive result := by
    intro fuel
    induction fuel with
    | zero =>
        rintro text start result ⟨⟩
        exact start
    | succ fuel ih =>
        intro text start result ran
        rw [stripLoop.eq_def] at ran
        dsimp only at ran
        split at ran
        · rename_i rest
          split at ran
          · rename_i stop found
            rcases Option.bind_eq_some_iff.mp ran with
              ⟨after, sliced, onwards⟩
            exact
              ih _ (blanks _ (block rest stop after found sliced start))
                result onwards
          · cases ran
            exact start
        · rename_i rest
          split at ran
          · rename_i stop found
            rcases Option.bind_eq_some_iff.mp ran with
              ⟨after, sliced, onwards⟩
            exact
              ih _ (blanks _ (line rest stop after found sliced start))
                result onwards
          · rename_i unended
            cases ran
            exact lastLine rest unended start
        · cases ran
          exact start
  exact
    loop _ _ (blanks sql holds) _ (stripLeadingSqlComments_eq sql)

/-- Without a leading comment only white space is taken off. -/
theorem stripped_of_no_comment {sql : List Char}
    (noBlock : ∀ rest, trimStart sql ≠ '/' :: '*' :: rest)
    (noLine : ∀ rest, trimStart sql ≠ '-' :: '-' :: rest) :
    stripped sql = trimStart sql := by
  have same := stripLeadingSqlComments_eq sql
  rw [stripLeadingSqlComments] at same
  cases length : sql.length with
  | zero =>
      rw [length, stripLoop, Option.some.injEq] at same
      exact same.symm
  | succ fuel =>
      rw [length, stripLoop.eq_def] at same
      dsimp only at same
      split at same
      · rename_i rest shape
        exact absurd shape (noBlock rest)
      · rename_i rest shape
        exact absurd shape (noLine rest)
      · exact (Option.some.inj same).symm

theorem sliceFrom_length_le {text after : List Char} {start : Nat}
    (sliced : sliceFrom text start = some after) :
    after.length ≤ text.length := by
  rcases sliceFrom_eq_some_iff.mp sliced with ⟨before, rfl, -⟩
  simp

theorem trimStart_length_le (text : List Char) :
    (trimStart text).length ≤ text.length :=
  (List.dropWhile_suffix isWhitespace).length_le

/-- More rounds than characters change nothing. -/
theorem stripLoop_enough {fuel more : Nat} {text : List Char}
    (enough : text.length ≤ fuel) (enoughToo : text.length ≤ more) :
    stripLoop fuel text = stripLoop more text := by
  induction fuel generalizing more text with
  | zero =>
      rw [List.length_eq_zero_iff.mp (Nat.le_zero.mp enough)]
      cases more <;> rfl
  | succ fuel ih =>
      cases more with
      | zero =>
          rw [List.length_eq_zero_iff.mp (Nat.le_zero.mp enoughToo)]
          rfl
      | succ more =>
          rw [stripLoop.eq_def, stripLoop.eq_def (more + 1)]
          dsimp only
          split
          · split
            · rename_i rest _ stop _
              cases sliced : sliceFrom rest (stop + 2) with
              | none => rfl
              | some after =>
                  have shorter := sliceFrom_length_le sliced
                  have trimmed := trimStart_length_le after
                  rw [List.length_cons, List.length_cons] at enough enoughToo
                  exact ih (by omega) (by omega)
            · rfl
          · split
            · rename_i rest _ stop _
              cases sliced : sliceFrom rest (stop + 1) with
              | none => rfl
              | some after =>
                  have shorter := sliceFrom_length_le sliced
                  have trimmed := trimStart_length_le after
                  rw [List.length_cons, List.length_cons] at enough enoughToo
                  exact ih (by omega) (by omega)
            · rfl
          · rfl

theorem stripped_unique {sql result : List Char} {fuel : Nat}
    (enough : (trimStart sql).length ≤ fuel)
    (ran : stripLoop fuel (trimStart sql) = some result) :
    stripped sql = result := by
  have same := stripLeadingSqlComments_eq sql
  rw [stripLeadingSqlComments,
    stripLoop_enough (trimStart_length_le sql) enough, ran,
    Option.some.injEq] at same
  exact same.symm

theorem stripped_blank {ch : Char} (blank : isWhitespace ch)
    (rest : List Char) : stripped (ch :: rest) = stripped rest := by
  have same : trimStart (ch :: rest) = trimStart rest :=
    List.dropWhile_cons_of_pos blank
  apply stripped_unique (trimStart_length_le _)
  rw [List.length_cons, same,
    stripLoop_enough (Nat.le_succ_of_le (trimStart_length_le rest))
      (trimStart_length_le rest)]
  exact stripLeadingSqlComments_eq rest

theorem stripLoop_block (fuel : Nat) (rest : List Char) :
    stripLoop (fuel + 1) ('/' :: '*' :: rest) =
      match find ['*', '/'] rest with
      | some stop =>
          (sliceFrom rest (stop + 2)).bind fun after =>
            stripLoop fuel (trimStart after)
      | none => some ('/' :: '*' :: rest) :=
  rfl

theorem stripLoop_line (fuel : Nat) (rest : List Char) :
    stripLoop (fuel + 1) ('-' :: '-' :: rest) =
      match find ['\n'] rest with
      | some stop =>
          (sliceFrom rest (stop + 1)).bind fun after =>
            stripLoop fuel (trimStart after)
      | none => some [] :=
  rfl

theorem stripped_block {comment rest : List Char}
    (unended : ¬ ['*', '/'] <:+: comment) :
    stripped ('/' :: '*' :: (comment ++ '*' :: '/' :: rest)) =
      stripped rest := by
  have found :
      find ['*', '/'] (comment ++ '*' :: '/' :: rest) =
        some (utf8Len comment) := by
    apply find_append_first
    rintro front back shape nonempty ⟨after, here⟩
    rcases back with _ | ⟨star, _ | ⟨slash, back⟩⟩
    · exact nonempty rfl
    · cases here
    · simp only [List.cons_append, List.nil_append, List.cons.injEq] at here
      apply unended
      exact ⟨front, back, by rw [shape, here.1, here.2.1]; simp⟩
  have sliced :
      sliceFrom (comment ++ '*' :: '/' :: rest) (utf8Len comment + 2) =
        some rest :=
    sliceFrom_eq_some_iff.mpr
      ⟨comment ++ ['*', '/'], by simp, by rw [utf8Len_append]; rfl⟩
  have solid :
      trimStart ('/' :: '*' :: (comment ++ '*' :: '/' :: rest)) =
        '/' :: '*' :: (comment ++ '*' :: '/' :: rest) := rfl
  apply @stripped_unique _ _
    ((comment ++ '*' :: '/' :: rest).length + 1 + 1)
  · rw [solid]
    rfl
  · have trimmed := trimStart_length_le rest
    rw [solid, stripLoop_block, found]
    dsimp only
    rw [sliced, Option.bind_some,
      stripLoop_enough (by simp; omega) trimmed]
    exact stripLeadingSqlComments_eq rest

theorem stripped_line {comment rest : List Char} (oneLine : '\n' ∉ comment) :
    stripped ('-' :: '-' :: (comment ++ '\n' :: rest)) = stripped rest := by
  have found :
      find ['\n'] (comment ++ '\n' :: rest) = some (utf8Len comment) := by
    apply find_append_first
    rintro front back shape nonempty ⟨after, here⟩
    cases back with
    | nil => exact nonempty rfl
    | cons ch back =>
        simp only [List.cons_append, List.nil_append, List.cons.injEq] at here
        exact oneLine (by rw [shape, here.1]; simp)
  have sliced :
      sliceFrom (comment ++ '\n' :: rest) (utf8Len comment + 1) = some rest :=
    sliceFrom_eq_some_iff.mpr
      ⟨comment ++ ['\n'], by simp, by rw [utf8Len_append]; rfl⟩
  have solid :
      trimStart ('-' :: '-' :: (comment ++ '\n' :: rest)) =
        '-' :: '-' :: (comment ++ '\n' :: rest) := rfl
  apply @stripped_unique _ _ ((comment ++ '\n' :: rest).length + 1 + 1)
  · rw [solid]
    rfl
  · have trimmed := trimStart_length_le rest
    rw [solid, stripLoop_line, found]
    dsimp only
    rw [sliced, Option.bind_some,
      stripLoop_enough (by simp; omega) trimmed]
    exact stripLeadingSqlComments_eq rest

/-! ## Keyword sequences -/

/-- What follows a keyword that is the first word of a text. -/
def afterKeyword (text : List Char) (expected : String) :
    Option (List Char) :=
  let rest := text.dropWhile isWhitespace
  if eqIgnoreCase (rest.takeWhile (!isWhitespace ·)) expected then
    some (rest.dropWhile (!isWhitespace ·))
  else none

def afterKeywords : List Char → List String → Option (List Char)
  | text, [] => some text
  | text, expected :: more =>
      (afterKeyword text expected).bind (afterKeywords · more)

variable {text rest : List Char}

theorem afterKeyword_suffix {expected : String}
    (follows : afterKeyword text expected = some rest) : rest <:+ text := by
  simp only [afterKeyword] at follows
  split at follows
  · rw [Option.some.injEq] at follows
    rw [← follows]
    exact
      (List.dropWhile_suffix _).trans (List.dropWhile_suffix _)
  · cases follows

variable {expected : List String}

theorem afterKeywords_suffix
    (follows : afterKeywords text expected = some rest) : rest <:+ text := by
  induction expected generalizing text with
  | nil =>
      rw [afterKeywords, Option.some.injEq] at follows
      rw [follows]
  | cons keyword more ih =>
      rcases Option.bind_eq_some_iff.mp follows with ⟨next, first, later⟩
      exact (ih later).trans (afterKeyword_suffix first)

theorem keywordSequenceLoop_eq (before text : List Char)
    (expected : List String) :
    keywordSequenceLoop (before ++ text) (utf8Len before) expected =
      some
        ((afterKeywords text expected).map fun rest =>
          utf8Len (before ++ text) - utf8Len rest) := by
  induction expected generalizing before text with
  | nil => simp [keywordSequenceLoop, afterKeywords]
  | cons keyword more ih =>
      let blanks := text.takeWhile isWhitespace
      let onwards := text.dropWhile isWhitespace
      let token := onwards.takeWhile (!isWhitespace ·)
      let behind := onwards.dropWhile (!isWhitespace ·)
      have shape : text = blanks ++ onwards :=
        List.takeWhile_append_dropWhile.symm
      have parts : onwards = token ++ behind :=
        List.takeWhile_append_dropWhile.symm
      have atToken :
          sliceFrom (before ++ text) (utf8Len before + utf8Len blanks) =
            some onwards :=
        sliceFrom_eq_some_iff.mpr
          ⟨before ++ blanks, by rw [List.append_assoc, ← shape],
            utf8Len_append before blanks⟩
      have theToken : sliceTo onwards (utf8Len token) = some token :=
        sliceTo_eq_some_iff.mpr ⟨behind, parts, rfl⟩
      rw [keywordSequenceLoop, sliceFrom_append]
      simp only [Option.bind_eq_bind, Option.bind_some]
      rw [atToken]
      simp only [Option.bind_some]
      rw [theToken]
      simp only [Option.bind_some, afterKeywords, afterKeyword]
      by_cases same : eqIgnoreCase token keyword
      · rw [if_pos same, if_pos same, Option.bind_some]
        have whole :
            before ++ text = (before ++ blanks ++ token) ++ behind := by
          rw [List.append_assoc, List.append_assoc, ← parts, ← shape]
        have offset :
            utf8Len before + utf8Len blanks + utf8Len token =
              utf8Len (before ++ blanks ++ token) := by
          rw [utf8Len_append, utf8Len_append]
        rw [offset, whole, ih]
      · rw [if_neg same, if_neg same]
        rfl

theorem keywordSequenceEnd_eq (expected : List String) :
    keywordSequenceEnd sql expected =
      some
        ((afterKeywords sql expected).map fun rest =>
          utf8Len sql - utf8Len rest) :=
  keywordSequenceLoop_eq [] sql expected

/-! ## The `AS` of a creation -/

/-- What follows an `AS` that begins a text and stands alone. -/
def behindAs (last : Option Char) : List Char → Option (List Char)
  | first :: second :: rest =>
      if (first = 'A' ∨ first = 'a') ∧ (second = 's' ∨ second = 'S') ∧
          !last.any isSqlIdentifierChar ∧
          !rest.head?.any isSqlIdentifierChar then
        some rest
      else none
  | _ => none

/-- The texts before and behind the first `AS` outside quotes. -/
def asClause (reading : Reading) (last : Option Char) :
    List Char → Option (List Char × List Char)
  | [] => none
  | ch :: rest =>
      match if reading = .plain then behindAs last (ch :: rest) else none with
      | some behind => some ([], behind)
      | none =>
          (asClause (reading.next false ch rest) (some ch) rest).map
            fun clause => (ch :: clause.1, clause.2)

/-- The `AS` that is found is outside of words. -/
theorem asClause_shape {reading : Reading} {last : Option Char}
    {text front behind : List Char}
    (clause : asClause reading last text = some (front, behind)) :
    ∃ first second, text = front ++ first :: second :: behind ∧
      (first = 'A' ∨ first = 'a') ∧ (second = 's' ∨ second = 'S') ∧
      (front.getLast?.or last).any isSqlIdentifierChar = false ∧
      Stops isSqlIdentifierChar behind := by
  induction text generalizing reading last front with
  | nil => cases clause
  | cons ch rest ih =>
      rw [asClause] at clause
      split at clause
      · rename_i onwards found
        rw [Option.some.injEq, Prod.mk.injEq] at clause
        rcases clause with ⟨rfl, rfl⟩
        split at found
        · cases rest with
          | nil => cases found
          | cons second rest =>
              rw [behindAs] at found
              split at found
              · rename_i isAs
                rw [Option.some.injEq] at found
                subst found
                refine ⟨ch, second, rfl, isAs.1, isAs.2.1, ?_, ?_⟩
                · simpa using isAs.2.2.1
                · intro first isFirst
                  have ends := isAs.2.2.2
                  rw [Option.mem_def.mp isFirst] at ends
                  simpa using ends
              · cases found
        · cases found
      · rcases Option.map_eq_some_iff.mp clause with
          ⟨⟨inner, later⟩, found, same⟩
        rw [Prod.mk.injEq] at same
        rcases same with ⟨rfl, rfl⟩
        rcases ih found with ⟨first, second, shape, isA, isS, bounds⟩
        rw [getLast?_cons_or]
        exact ⟨first, second, by rw [shape]; rfl, isA, isS, bounds⟩

/-- The offsets of an `AS` that follows a part of the text. -/
theorem asAt_eq (before : List Char) {ch : Char} (rest : List Char)
    (isA : ch = 'A' ∨ ch = 'a') :
    asAt (before ++ ch :: rest) (utf8Len before) ch =
      some
        ((behindAs before.getLast? (ch :: rest)).map fun behind =>
          (utf8Len before,
            utf8Len (before ++ ch :: rest) - utf8Len (trimStart behind))) := by
  have afterA :
      sliceFrom (before ++ ch :: rest) (utf8Len before + ch.utf8Size) =
        some rest :=
    sliceFrom_eq_some_iff.mpr
      ⟨before ++ [ch], by simp, by simp⟩
  rw [asAt]
  simp only [Option.bind_eq_bind]
  rw [afterA]
  simp only [Option.bind_some]
  cases rest with
  | nil => rfl
  | cons second behind =>
      simp only [List.head?_cons]
      by_cases notS : second ≠ 's' ∧ second ≠ 'S'
      · rw [if_pos notS]
        have none : behindAs before.getLast? (ch :: second :: behind) = none := by
          rw [behindAs, if_neg]
          rintro ⟨-, isS, -⟩
          exact isS.elim notS.1 notS.2
        rw [none]
        rfl
      · have isS : second = 's' ∨ second = 'S' := by
          by_contra neither
          exact notS (not_or.mp neither)
        have afterAs :
            sliceFrom (before ++ ch :: second :: behind)
                (utf8Len before + ch.utf8Size + second.utf8Size) =
              some behind :=
          sliceFrom_eq_some_iff.mpr
            ⟨before ++ [ch, second], by simp, by
              simp only [utf8Len_append, utf8Len_cons, utf8Len_nil]
              omega⟩
        rw [if_neg notS, sliceTo_append]
        simp only [Option.bind_some]
        rw [afterAs]
        simp only [Option.bind_some]
        by_cases word :
            before.getLast?.any isSqlIdentifierChar ||
              behind.head?.any isSqlIdentifierChar
        · rw [if_pos word, behindAs, if_neg]
          · rfl
          · rintro ⟨-, -, startsWord, endsWord⟩
            rw [Bool.not_eq_true'] at startsWord endsWord
            rw [startsWord, endsWord] at word
            cases word
        · rw [Bool.not_eq_true, Bool.or_eq_false_iff] at word
          have trimmed :
              utf8Len behind =
                utf8Len (behind.takeWhile isWhitespace) +
                  utf8Len (trimStart behind) := by
            rw [trimStart, ← utf8Len_append,
              List.takeWhile_append_dropWhile]
          rw [if_neg (by simp [word]), behindAs,
            if_pos ⟨isA, isS, by simp [word.1], by simp [word.2]⟩,
            Option.map_some]
          congr 3
          simp only [utf8Len_append, utf8Len_cons, trimmed]
          omega

theorem findAsLoop_skip (start : Nat) (reading : Reading)
    (skipped text : List Char) (idx : Nat)
    (before : idx + utf8Len skipped ≤ start) :
    findAsLoop sql start reading idx (skipped ++ text) =
      findAsLoop sql start reading (idx + utf8Len skipped) text := by
  induction skipped generalizing idx with
  | nil => simp
  | cons ch skipped ih =>
      have positive := ch.utf8Size_pos
      rw [utf8Len_cons] at before
      rw [List.cons_append, findAsLoop, if_pos (by omega),
        ih (idx + ch.utf8Size) (by omega), utf8Len_cons, Nat.add_assoc]

theorem findAsLoop_eq (before text : List Char) (start : Nat)
    (reading : Reading) (reached : start ≤ utf8Len before) :
    findAsLoop (before ++ text) start reading (utf8Len before) text =
      some
        ((asClause reading before.getLast? text).map fun clause =>
          (utf8Len (before ++ clause.1),
            utf8Len (before ++ text) - utf8Len (trimStart clause.2))) := by
  induction text generalizing before reading with
  | nil => simp [findAsLoop, asClause]
  | cons ch rest ih =>
      have onwards := ih (before ++ [ch]) (reading.next false ch rest)
        (by rw [utf8Len_append]; omega)
      have length : utf8Len (before ++ [ch]) = utf8Len before + ch.utf8Size := by
        simp
      have whole : before ++ [ch] ++ rest = before ++ ch :: rest := by simp
      have last : (before ++ [ch]).getLast? = some ch := by simp
      rw [length, whole, last] at onwards
      have continued :
          findAsLoop (before ++ ch :: rest) start (reading.next false ch rest)
              (utf8Len before + ch.utf8Size) rest =
            some
              (((asClause (reading.next false ch rest) (some ch) rest).map
                  fun clause => (ch :: clause.1, clause.2)).map fun clause =>
                (utf8Len (before ++ clause.1),
                  utf8Len (before ++ ch :: rest) -
                    utf8Len (trimStart clause.2))) := by
        rw [onwards, Option.map_map]
        congr 2
        funext clause
        simp
      rw [findAsLoop, if_neg (by omega), asClause]
      by_cases candidate : reading = .plain ∧ (ch = 'A' ∨ ch = 'a')
      · rw [if_pos candidate, if_pos candidate.1,
          asAt_eq before rest candidate.2]
        simp only [Option.bind_eq_bind, Option.bind_some]
        cases found : behindAs before.getLast? (ch :: rest) with
        | some behind => simp
        | none =>
            simp only [Option.map_none]
            have plain : reading.next false ch rest = .plain := by
              rw [candidate.1]
              rcases candidate.2 with rfl | rfl <;> rfl
            rw [plain] at continued ⊢
            exact continued
      · have notHere :
            (if reading = .plain then behindAs before.getLast? (ch :: rest)
              else none) = none := by
          split
          · rename_i plain
            cases rest with
            | nil => rfl
            | cons second rest =>
                rw [behindAs, if_neg]
                rintro ⟨isA, -⟩
                exact candidate ⟨plain, isA⟩
          · rfl
        rw [if_neg candidate, notHere]
        exact continued

theorem findAsClause_eq (header text : List Char) :
    findAsClause (header ++ text) (utf8Len header) =
      some
        ((asClause .plain header.getLast? text).map fun clause =>
          (utf8Len (header ++ clause.1),
            utf8Len (header ++ text) - utf8Len (trimStart clause.2))) := by
  rw [findAsClause, findAsLoop_skip _ _ _ header text 0 (by omega),
    Nat.zero_add, findAsLoop_eq header text _ _ (Nat.le_refl _)]

/-- What follows keywords is empty or begins with white space. -/
theorem afterKeywords_head (follows : afterKeywords text expected = some rest)
    (nonempty : expected ≠ []) :
    ∀ ch ∈ rest.head?, isWhitespace ch := by
  induction expected generalizing text with
  | nil => exact absurd rfl nonempty
  | cons keyword more ih =>
      rcases Option.bind_eq_some_iff.mp follows with ⟨next, first, later⟩
      cases more with
      | cons other more => exact ih later (List.cons_ne_nil other more)
      | nil =>
          rw [afterKeywords, Option.some.injEq] at later
          rw [← later]
          simp only [afterKeyword] at first
          split at first
          · rw [Option.some.injEq] at first
            intro ch isHead
            rw [← first] at isHead
            have stops :=
              List.head?_dropWhile_not (!isWhitespace ·)
                (text.dropWhile isWhitespace)
            rw [Option.mem_def.mp isHead] at stops
            simpa using stops
          · cases first

/-- A clause does not begin at white space, whatever stands before it. -/
theorem asClause_last {text : List Char}
    (blank : ∀ ch ∈ text.head?, isWhitespace ch) (last : Option Char) :
    asClause .plain last text = asClause .plain none text := by
  cases text with
  | nil => rfl
  | cons ch rest =>
      have white := blank ch rfl
      have notHere : ∀ before, behindAs before (ch :: rest) = none := by
        intro before
        cases rest with
        | nil => rfl
        | cons second rest =>
            rw [behindAs, if_neg]
            rintro ⟨isA, -⟩
            rcases isA with rfl | rfl <;> revert white <;> decide
      rw [asClause, asClause, if_pos rfl, if_pos rfl, notHere, notHere]

/-- The clause behind the first keywords of a creation. -/
theorem findAsClause_afterKeywords {sql rest : List Char}
    (follows : afterKeywords sql expected = some rest)
    (nonempty : expected ≠ []) :
    ∃ header, sql = header ++ rest ∧
      utf8Len sql - utf8Len rest = utf8Len header ∧
      findAsClause sql (utf8Len header) =
        some
          ((asClause .plain none rest).map fun clause =>
            (utf8Len (header ++ clause.1),
              utf8Len sql - utf8Len (trimStart clause.2))) := by
  rcases afterKeywords_suffix follows with ⟨header, rfl⟩
  refine ⟨header, rfl, ?_, ?_⟩
  · rw [utf8Len_append, Nat.add_sub_cancel]
  · rw [findAsClause_eq, asClause_last (afterKeywords_head follows nonempty)]

/-! ## Queries -/

theorem validateMaterializationQuery_isSome (querySql : List Char)
    (command : String) :
    (validateMaterializationQuery querySql command).isSome := by
  rw [validateMaterializationQuery]
  split
  · simp only [stripLeadingSqlComments_eq, Option.bind_eq_bind,
      Option.bind_some]
    split <;> rfl
  · rfl

end OpenSnow.Core.Commands
