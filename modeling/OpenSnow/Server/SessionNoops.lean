import OpenSnow.Core.QueryTrailers
import OpenSnow.Server.GuardLexer
import OpenSnow.Server.QueryHandlers

/-!
# Acknowledged session statements

In trusted mode a text that starts with a session, transaction or schema
statement is acknowledged and not run.  The decision looks at the start of the
text alone, behind its comments; what stands behind the first statement of a
batch does not matter to it.
-/

namespace OpenSnow.Server

open Arrow
open Core.Commands
open Foundation
open Rust.Text
open Sql
open Server.SqlGuardrails (ordinary_of_isWhitespace)

/-! ## Scanners in front of a statement -/

/--
A scanner with a state of its own that goes on at blanks, at openings of
comments and at everything that is inside of something.
-/
def PassesComments {State Result : Type}
    (scan : Reading → State → List Char → Result)
    (update : State → Char → State) : Prop :=
  ∀ reading state ch rest,
    (reading = .plain →
      isWhitespace ch ∨ reading.next true ch rest = .lineOpening ∨
        reading.next true ch rest = .blockOpening) →
      scan reading state (ch :: rest) =
        scan (reading.next true ch rest) (update state ch) rest

section PassesComments

variable {State Result : Type} {scan : Reading → State → List Char → Result}
  {update : State → Char → State} (passes : PassesComments scan update)

include passes

theorem PassesComments.line {comment : List Char} (oneLine : '\n' ∉ comment)
    (state : State) (rest : List Char) :
    scan .line state (comment ++ '\n' :: rest) =
      scan .plain ((comment ++ ['\n']).foldl update state) rest := by
  induction comment generalizing state with
  | nil => exact passes .line state '\n' rest nofun
  | cons ch comment ih =>
      rw [List.mem_cons, not_or] at oneLine
      have inLine : Reading.line.next true ch (comment ++ '\n' :: rest) =
          .line := if_neg (Ne.symm oneLine.1)
      rw [List.cons_append, passes .line state ch _ nofun, inLine,
        ih oneLine.2]
      rfl

theorem PassesComments.block {comment : List Char}
    (unended : ¬ ['*', '/'] <:+: comment) (state : State)
    (rest : List Char) :
    scan .block state (comment ++ '*' :: '/' :: rest) =
      scan .plain ((comment ++ ['*', '/']).foldl update state) rest := by
  induction comment generalizing state with
  | nil =>
      have closing : Reading.block.next true '*' ('/' :: rest) =
          .blockClosing := rfl
      rw [List.nil_append, passes .block state '*' _ nofun, closing,
        passes .blockClosing _ '/' rest nofun]
      rfl
  | cons ch comment ih =>
      rw [List.infix_cons_iff, not_or] at unended
      have inBlock :
          Reading.block.next true ch (comment ++ '*' :: '/' :: rest) =
            .block := by
        apply if_neg
        rintro ⟨rfl, slash⟩
        cases comment with
        | nil => cases slash
        | cons next comment =>
            obtain rfl : next = '/' := by simpa using slash
            exact unended.1 ⟨comment, rfl⟩
      rw [List.cons_append, passes .block state ch _ nofun, inBlock,
        ih unended.2]
      rfl

/-- White space and comments in front of a text are passed. -/
theorem PassesComments.lead {lead : List Char} (isLead : Lead lead)
    (state : State) (rest : List Char) :
    scan .plain state (lead ++ rest) =
      scan .plain (lead.foldl update state) rest := by
  induction isLead generalizing state with
  | nil => rfl
  | blank blank others ih =>
      rw [List.cons_append, passes .plain state _ _ fun _ => .inl blank,
        (ordinary_of_isWhitespace blank).next, ih]
      rfl
  | @block comment behind unended others ih =>
      have opening : ∀ text, Reading.plain.next true '/' ('*' :: text) =
          .blockOpening := fun _ => rfl
      rw [List.cons_append, List.cons_append, List.append_assoc,
        List.cons_append, List.cons_append,
        passes .plain state '/' _ fun _ => .inr (.inr (opening _)), opening,
        passes .blockOpening _ '*' _ nofun]
      change scan .block _ _ = _
      rw [passes.block unended, ih]
      simp
  | @line comment behind oneLine others ih =>
      have opening : ∀ text, Reading.plain.next true '-' ('-' :: text) =
          .lineOpening := fun _ => rfl
      rw [List.cons_append, List.cons_append, List.append_assoc,
        List.cons_append,
        passes .plain state '-' _ fun _ => .inr (.inl (opening _)), opening,
        passes .lineOpening _ '-' _ nofun]
      change scan .line _ _ = _
      rw [passes.line oneLine, ih]
      simp

end PassesComments

theorem stripNoise_passes :
    PassesComments (fun reading (_ : Unit) => stripNoiseLoop reading)
      (fun _ _ => ()) := by
  intro reading state ch rest way
  dsimp only
  rw [stripNoiseLoop]
  by_cases plain : reading = .plain
  · rw [if_pos plain, if_pos (way plain)]
  · rw [if_neg plain]

theorem splitLoop_passes :
    PassesComments splitLoop (fun current ch => current ++ [ch]) := by
  intro reading current ch rest way
  rw [splitLoop, if_neg]
  rintro ⟨rfl, rfl⟩
  have goesOn := way rfl
  revert goesOn
  simp [Reading.next, isWhitespace]

/-! ## What stands in front of the text that is left -/

/-- What a text is made of that is left to `out` by what is open. -/
def Skipped (reading : Reading) (text out : List Char) : Prop :=
  match reading with
  | .plain => ∃ lead, Lead lead ∧ text = lead ++ out
  | .lineOpening =>
      ∃ ch comment lead, '\n' ∉ comment ∧ Lead lead ∧
        text = ch :: (comment ++ '\n' :: (lead ++ out))
  | .line =>
      ∃ comment lead, '\n' ∉ comment ∧ Lead lead ∧
        text = comment ++ '\n' :: (lead ++ out)
  | .blockOpening =>
      ∃ ch comment lead, ¬ ['*', '/'] <:+: comment ∧ Lead lead ∧
        text = ch :: (comment ++ '*' :: '/' :: (lead ++ out))
  | .block =>
      ∃ comment lead, ¬ ['*', '/'] <:+: comment ∧ Lead lead ∧
        text = comment ++ '*' :: '/' :: (lead ++ out)
  | .blockClosing => ∃ ch lead, Lead lead ∧ text = ch :: (lead ++ out)
  | .quoted _ | .quotePair _ => True

theorem plain_next_lineOpening {ch : Char} {rest : List Char}
    (opens : Reading.plain.next true ch rest = .lineOpening) :
    ch = '-' ∧ rest.head? = some '-' := by
  rw [Reading.next] at opens
  split_ifs at opens with line
  exact line.2

theorem plain_next_blockOpening {ch : Char} {rest : List Char}
    (opens : Reading.plain.next true ch rest = .blockOpening) :
    ch = '/' ∧ rest.head? = some '*' := by
  rw [Reading.next] at opens
  split_ifs at opens with _ block
  exact block.2

theorem Skipped.plain {ch : Char} {rest out : List Char}
    (goesOn : isWhitespace ch ∨
      Reading.plain.next true ch rest = .lineOpening ∨
        Reading.plain.next true ch rest = .blockOpening)
    (later : Skipped (Reading.plain.next true ch rest) rest out) :
    Skipped .plain (ch :: rest) out := by
  rcases goesOn with blank | line | block
  · rw [(ordinary_of_isWhitespace blank).next] at later
    rcases later with ⟨lead, isLead, rfl⟩
    exact ⟨ch :: lead, .blank blank isLead, rfl⟩
  · rw [line] at later
    rcases plain_next_lineOpening line with ⟨rfl, dash⟩
    rcases later with ⟨next, comment, lead, oneLine, isLead, rfl⟩
    obtain rfl : next = '-' := by simpa using dash
    refine
      ⟨'-' :: '-' :: (comment ++ '\n' :: lead), .line oneLine isLead, ?_⟩
    simp
  · rw [block] at later
    rcases plain_next_blockOpening block with ⟨rfl, star⟩
    rcases later with ⟨next, comment, lead, unended, isLead, rfl⟩
    obtain rfl : next = '*' := by simpa using star
    refine
      ⟨'/' :: '*' :: (comment ++ '*' :: '/' :: lead), .block unended isLead,
        ?_⟩
    simp

theorem Skipped.line {ch : Char} {rest out : List Char}
    (later : Skipped (Reading.line.next true ch rest) rest out) :
    Skipped .line (ch :: rest) out := by
  by_cases ends : ch = '\n'
  · have closes : Reading.line.next true ch rest = .plain := if_pos ends
    rw [closes] at later
    rcases later with ⟨lead, isLead, rfl⟩
    exact ⟨[], lead, List.not_mem_nil, isLead, congrArg (· :: _) ends⟩
  · have goesOn : Reading.line.next true ch rest = .line := if_neg ends
    rw [goesOn] at later
    rcases later with ⟨comment, lead, oneLine, isLead, rfl⟩
    exact
      ⟨ch :: comment, lead,
        List.not_mem_cons_of_ne_of_not_mem (Ne.symm ends) oneLine, isLead, rfl⟩

theorem Skipped.block {ch : Char} {rest out : List Char}
    (later : Skipped (Reading.block.next true ch rest) rest out) :
    Skipped .block (ch :: rest) out := by
  by_cases ends : ch = '*' ∧ rest.head? = some '/'
  · have closes : Reading.block.next true ch rest = .blockClosing :=
      if_pos ends
    rw [closes] at later
    rcases later with ⟨next, lead, isLead, rfl⟩
    rcases ends with ⟨rfl, slash⟩
    obtain rfl : next = '/' := by simpa using slash
    exact ⟨[], lead, by simp, isLead, rfl⟩
  · have goesOn : Reading.block.next true ch rest = .block := if_neg ends
    rw [goesOn] at later
    rcases later with ⟨comment, lead, unended, isLead, rfl⟩
    refine ⟨ch :: comment, lead, ?_, isLead, rfl⟩
    rw [List.infix_cons_iff, not_or]
    refine ⟨?_, unended⟩
    -- the comment would have ended here
    rintro ⟨more, begins⟩
    injection begins with star begins
    rw [← begins] at ends
    exact ends ⟨star.symm, rfl⟩

/-- A character that is passed belongs to what is skipped. -/
theorem Skipped.cons {reading : Reading} {ch : Char} {rest out : List Char}
    (goesOn : reading = .plain →
      isWhitespace ch ∨ reading.next true ch rest = .lineOpening ∨
        reading.next true ch rest = .blockOpening)
    (later : Skipped (reading.next true ch rest) rest out) :
    Skipped reading (ch :: rest) out := by
  cases reading with
  | plain => exact Skipped.plain (goesOn rfl) later
  | lineOpening =>
      rcases later with ⟨comment, lead, oneLine, isLead, rfl⟩
      exact ⟨ch, comment, lead, oneLine, isLead, rfl⟩
  | line => exact Skipped.line later
  | blockOpening =>
      rcases later with ⟨comment, lead, unended, isLead, rfl⟩
      exact ⟨ch, comment, lead, unended, isLead, rfl⟩
  | block => exact Skipped.block later
  | blockClosing =>
      rcases later with ⟨lead, isLead, rfl⟩
      exact ⟨ch, lead, isLead, rfl⟩
  | quoted quote => trivial
  | quotePair quote => trivial

/-- The characters in front of what is left are white space and comments. -/
theorem skipped_of_stripNoise {reading : Reading} {text : List Char}
    (nonempty : stripNoiseLoop reading text ≠ []) :
    Skipped reading text (stripNoiseLoop reading text) := by
  induction text generalizing reading with
  | nil => exact absurd rfl nonempty
  | cons ch rest ih =>
      rw [stripNoiseLoop] at nonempty ⊢
      split_ifs at nonempty ⊢ with plain goesOn
      · exact Skipped.cons (fun _ => goesOn) (ih nonempty)
      · rw [plain]
        exact ⟨[], .nil, rfl⟩
      · exact Skipped.cons (fun isPlain => absurd isPlain plain) (ih nonempty)

/-! ## The keywords of the list -/

/-- A spelling of a keyword of the list. -/
def IsNoopWord (word : List Char) : Prop :=
  ∃ keyword ∈ noopKeywords, word.map Char.toUpper = keyword.toList

/-- A keyword ends here. -/
def endsKeyword (ch : Char) : Bool := isAsciiWhitespace ch || ch == ';'

/-- A text that begins with a keyword of the list. -/
def BeginsNoop (text : List Char) : Prop :=
  ∃ word rest, text = word ++ rest ∧ IsNoopWord word ∧
    ∀ ch ∈ rest.head?, endsKeyword ch

theorem endsKeyword_toUpper (ch : Char) :
    endsKeyword ch.toUpper = endsKeyword ch := by
  have same : ∀ other : Char, ¬ other.isAlpha →
      (ch.toUpper = other ↔ ch = other) := fun other => toUpper_eq_iff
  rw [Bool.eq_iff_iff]
  simp [endsKeyword, isAsciiWhitespace, same]

theorem isPgSessionNoop_iff (sql : String) :
    isPgSessionNoop sql ↔ BeginsNoop (stripNoiseLoop .plain sql.toList) := by
  have upper :
      (toAsciiUppercase (stripLeadingSqlNoise sql)).toList =
        (stripNoiseLoop .plain sql.toList).map Char.toUpper := by
    rw [toAsciiUppercase, stripLeadingSqlNoise, String.toList_ofList,
      String.toList_ofList]
  generalize stripNoiseLoop .plain sql.toList = out at upper ⊢
  have ends : ∀ rest : List Char,
      (rest.map Char.toUpper).head?.all endsKeyword ↔
        ∀ ch ∈ rest.head?, endsKeyword ch := by
    intro rest
    cases rest <;> simp [endsKeyword_toUpper]
  have each : ∀ keyword,
      startsWithKeyword (toAsciiUppercase (stripLeadingSqlNoise sql)) keyword ↔
        keyword.toList <+: out.map Char.toUpper ∧
          ∀ ch ∈ (out.drop keyword.length).head?, endsKeyword ch := by
    intro keyword
    rw [startsWithKeyword, startsWith, upper, Bool.and_eq_true,
      List.isPrefixOf_iff_prefix, ← List.map_drop]
    exact and_congr_right fun _ => ends _
  rw [isPgSessionNoop, List.any_eq_true]
  simp only [each]
  constructor
  · rintro ⟨keyword, member, begins, stops⟩
    refine
      ⟨out.take keyword.length, out.drop keyword.length,
        (List.take_append_drop _ _).symm, ⟨keyword, member, ?_⟩, stops⟩
    rw [List.map_take]
    have taken := List.prefix_iff_eq_take.mp begins
    rw [String.length_toList] at taken
    exact taken.symm
  · rintro ⟨word, rest, rfl, ⟨keyword, member, spelled⟩, stops⟩
    have length : word.length = keyword.length := by
      rw [← String.length_toList, ← spelled, List.length_map]
    refine ⟨keyword, member, ?_, ?_⟩
    · rw [List.map_append, spelled]
      exact List.prefix_append _ _
    · rw [← length, List.drop_left]
      exact stops

/-! ## The first statement -/

theorem IsNoopWord.chars {word : List Char} (isWord : IsNoopWord word) :
    ∀ ch ∈ word, isSqlIdentifierChar ch ∨ ch = ' ' := by
  rcases isWord with ⟨keyword, member, spelled⟩
  have letters : ∀ keyword ∈ noopKeywords,
      keyword.toList.all fun ch => isSqlIdentifierChar ch || ch == ' ' :=
    List.all_eq_true.mp (by decide)
  intro ch inWord
  have upper : ch.toUpper ∈ keyword.toList := by
    rw [← spelled]
    exact List.mem_map_of_mem inWord
  have isLetter := List.all_eq_true.mp (letters keyword member) _ upper
  rw [Bool.or_eq_true, beq_iff_eq] at isLetter
  rcases isLetter with named | blank
  · exact .inl (isSqlIdentifierChar_of_toUpper named)
  · exact .inr ((toUpper_eq_iff (by decide)).mp blank)

/-- A keyword starts and ends with a letter. -/
theorem IsNoopWord.ends {word : List Char} (isWord : IsNoopWord word) :
    (∃ ch rest, word = ch :: rest ∧ isSqlIdentifierChar ch) ∧
      ∃ front ch, word = front ++ [ch] ∧ isSqlIdentifierChar ch := by
  rcases isWord with ⟨keyword, member, spelled⟩
  have letters : ∀ keyword ∈ noopKeywords,
      keyword.toList.head?.any isSqlIdentifierChar &&
        keyword.toList.getLast?.any isSqlIdentifierChar :=
    List.all_eq_true.mp (by decide)
  have both := letters keyword member
  rw [← spelled, List.head?_map, List.getLast?_map, Bool.and_eq_true] at both
  constructor
  · cases word with
    | nil => cases both.1
    | cons ch rest =>
        exact ⟨ch, rest, rfl, isSqlIdentifierChar_of_toUpper both.1⟩
  · rcases List.eq_nil_or_concat' word with rfl | ⟨front, ch, rfl⟩
    · cases both.1
    · rw [List.getLast?_concat] at both
      exact ⟨front, ch, rfl, isSqlIdentifierChar_of_toUpper both.2⟩

/-- A keyword is not taken for a comment. -/
theorem stripNoise_word {word : List Char} (isWord : IsNoopWord word)
    (rest : List Char) :
    stripNoiseLoop .plain (word ++ rest) = word ++ rest := by
  rcases isWord.ends.1 with ⟨ch, more, rfl, named⟩
  have ordinary : SqlGuardrails.Ordinary ch :=
    SqlGuardrails.ordinary_of_isWordChar named
  rw [List.cons_append, stripNoiseLoop, ordinary.next, if_pos rfl, if_neg]
  rintro (blank | opens | opens)
  · rw [not_isWhitespace_of_alphanum named] at blank
    cases blank
  · cases opens
  · cases opens

theorem beginsNoop_lead {lead text : List Char} (isLead : Lead lead)
    (begins : BeginsNoop text) :
    BeginsNoop (stripNoiseLoop .plain (lead ++ text)) := by
  rw [stripNoise_passes.lead isLead () text]
  have inside := begins
  rcases begins with ⟨word, rest, rfl, isWord, -⟩
  rwa [stripNoise_word isWord]

/-- No statement ends in a keyword. -/
theorem splitLoop_word {current word : List Char}
    (chars : ∀ ch ∈ word, isSqlIdentifierChar ch ∨ ch = ' ')
    (rest : List Char) :
    splitLoop .plain current (word ++ rest) =
      splitLoop .plain (current ++ word) rest := by
  induction word generalizing current with
  | nil => rw [List.nil_append, List.append_nil]
  | cons ch word ih =>
      have ordinary : SqlGuardrails.Ordinary ch ∧ ch ≠ ';' := by
        rcases chars ch List.mem_cons_self with named | rfl
        · refine ⟨SqlGuardrails.ordinary_of_isWordChar named, ?_⟩
          rintro rfl
          revert named
          decide
        · decide
      rw [List.cons_append, splitLoop, ordinary.1.next,
        if_neg fun ends => ordinary.2 ends.2,
        ih fun other member => chars other (List.mem_cons_of_mem ch member),
        List.append_assoc]
      rfl

theorem Lead.trimStart {lead text : List Char} (isLead : Lead lead)
    (starts : Stops isWhitespace text) :
    ∃ left, Lead left ∧ trimStart (lead ++ text) = left ++ text := by
  induction isLead with
  | nil => exact ⟨[], .nil, trimStart_of_stops starts⟩
  | blank blank others ih =>
      rcases ih with ⟨left, isLeft, shape⟩
      refine ⟨left, isLeft, ?_⟩
      rw [List.cons_append, Rust.Text.trimStart, List.dropWhile_cons_of_pos blank]
      exact shape
  | block unended others ih => exact ⟨_, .block unended others, rfl⟩
  | line oneLine others ih => exact ⟨_, .line oneLine others, rfl⟩

theorem foldl_concat (front back : List Char) :
    back.foldl (fun current ch => current ++ [ch]) front = front ++ back := by
  induction back generalizing front with
  | nil => exact (List.append_nil front).symm
  | cons ch back ih =>
      rw [List.foldl_cons, ih, List.append_assoc]
      rfl

/-- The first statement of an acknowledged text is one of the list. -/
theorem first_noop {sql : String} (noop : isPgSessionNoop sql) :
    ∃ first others, splitSqlStatements sql.toList = first :: others ∧
      isPgSessionNoop (String.ofList first) := by
  rw [isPgSessionNoop_iff] at noop
  rcases noop with ⟨word, rest, out, isWord, ends⟩
  rcases isWord.ends with ⟨⟨ch, letters, startsWith, named⟩, -⟩
  have nonempty : stripNoiseLoop .plain sql.toList ≠ [] := by
    rw [out, startsWith]
    exact List.cons_ne_nil _ _
  rcases skipped_of_stripNoise nonempty with ⟨lead, isLead, shape⟩
  rw [out] at shape
  have solid : ¬ Blank (lead ++ word) := by
    intro blank
    have inWord := (blank_append.mp blank).2 ch (by simp [startsWith])
    rw [not_isWhitespace_of_alphanum named] at inWord
    cases inWord
  rcases @splitLoop_starts .plain _ rest solid with ⟨more, others, part, split⟩
  have whole : splitSqlStatements sql.toList =
      trim (lead ++ word ++ more) :: others := by
    rw [splitSqlStatements, shape, splitLoop_passes.lead isLead, foldl_concat,
      splitLoop_word isWord.chars, List.nil_append, split]
  have starts : Stops isWhitespace (word ++ more) := by
    rw [startsWith]
    exact stops_cons.mpr (not_isWhitespace_of_alphanum named)
  rcases Lead.trimStart isLead starts with ⟨left, isLeft, trimmed⟩
  have text : trim (lead ++ word ++ more) = left ++ (word ++ trimEnd more) := by
    rcases isWord.ends.2 with ⟨front, last, endsWith, lastNamed⟩
    have solidEnd : Stops isWhitespace (left ++ word).reverse := by
      rw [endsWith, ← List.append_assoc, List.reverse_append]
      exact stops_cons.mpr (not_isWhitespace_of_alphanum lastNamed)
    rw [List.append_assoc, trim, trimmed, ← List.append_assoc,
      trimEnd_append solidEnd, List.append_assoc]
  have heads : ∀ ch ∈ (trimEnd more).head?, endsKeyword ch := by
    intro next isHead
    apply ends next
    rcases (trimEnd_leads more).trans part with ⟨tail, rfl⟩
    cases form : trimEnd more with
    | nil =>
        rw [form] at isHead
        cases isHead
    | cons first onwards =>
        rw [form] at isHead
        exact isHead
  refine ⟨_, others, whole, ?_⟩
  rw [isPgSessionNoop_iff, String.toList_ofList, text]
  exact beginsNoop_lead isLeft ⟨word, trimEnd more, rfl, isWord, heads⟩

/-! ## Acknowledged texts -/

/-- What follows white space and terminated comments. -/
def BehindComments (sql rest : List Char) : Prop :=
  ∃ lead, Lead lead ∧ sql = lead ++ rest ∧ Stops isWhitespace rest ∧
    ¬ ['/', '*'] <+: rest ∧ ¬ ['-', '-'] <+: rest

/-- Both sides take the terminated comments off. -/
theorem stripped_behindComments {sql : String} {rest : List Char}
    (behind : BehindComments sql.toList rest) :
    stripLeadingSqlComments sql.toList = some rest ∧
      stripLeadingSqlNoise sql = String.ofList rest := by
  rcases behind with ⟨lead, isLead, shape, solid, noBlock, noLine⟩
  have whole : trimStart rest = rest := trimStart_of_stops solid
  constructor
  · rw [stripLeadingSqlComments_eq, shape, isLead.stripped_append,
      stripped_of_no_comment, whole]
    · rintro other same
      exact noBlock ⟨other, by rw [← whole, same]; rfl⟩
    · rintro other same
      exact noLine ⟨other, by rw [← whole, same]; rfl⟩
  · have passed := stripNoise_passes.lead isLead () rest
    rw [stripLeadingSqlNoise, shape, passed]
    cases rest with
    | nil => rfl
    | cons ch rest =>
        rw [stripNoiseLoop, if_pos rfl, if_neg]
        rintro (blank | opens | opens)
        · rw [stops_cons.mp solid] at blank
          cases blank
        · rcases plain_next_lineOpening opens with ⟨rfl, isHead⟩
          cases rest with
          | nil => cases isHead
          | cons next rest =>
              obtain rfl : next = '-' := by simpa using isHead
              exact noLine ⟨rest, rfl⟩
        · rcases plain_next_blockOpening opens with ⟨rfl, isHead⟩
          cases rest with
          | nil => cases isHead
          | cons next rest =>
              obtain rfl : next = '*' := by simpa using isHead
              exact noBlock ⟨rest, rfl⟩

variable {Row : Type}

theorem authorizePgQuery_ne_ok (auth : Option PgAuth) (sql : String) :
    (authorizePgQuery auth sql : Except (PgResponse Row) Unit) ≠
      .error .ok := by
  rcases auth with _ | ⟨policy, _ | _ | caller⟩
  · nofun
  · nofun
  · nofun
  · rw [authorizePgQuery]
    cases authorizePgwireSql policy caller sql <;> nofun

/-- A text that the engine does not see is acknowledged by the list alone. -/
theorem doQuery_acknowledged {engine : Distributed.Engine Row String}
    {auth : Option PgAuth} {sql : String} :
    doQuery engine true auth sql = ⟨[], .ok⟩ ↔ isPgSessionNoop sql := by
  constructor
  · intro acknowledged
    by_contra notNoop
    rw [doQuery, acceptPgQuery, if_pos rfl, if_neg notNoop] at acknowledged
    dsimp only at acknowledged
    split at acknowledged
    · rename_i response refused
      injection acknowledged with _ isOk
      rw [isOk] at refused
      exact authorizePgQuery_ne_ok auth sql refused
    · cases acknowledged
  · intro noop
    rw [doQuery, acceptPgQuery, if_pos rfl, if_pos noop]

/--
An acknowledged text loses nothing if and only if the statements behind its
first are of the list as well.  Its first keyword is the one that is dispatched
on, if its comments are terminated.
-/
theorem acknowledged_loses_nothing_iff
    (engine : Distributed.Engine Row String) (auth : Option PgAuth)
    (sql : String) :
    ((doQuery engine true auth sql = ⟨[], .ok⟩ →
        ∀ statement ∈ splitSqlStatements sql.toList,
          isPgSessionNoop (String.ofList statement)) ∧
      ∀ rest, BehindComments sql.toList rest →
        stripLeadingSqlComments sql.toList = some rest ∧
          stripLeadingSqlNoise sql = String.ofList rest) ↔
      (isPgSessionNoop sql →
        ∀ statement ∈ (splitSqlStatements sql.toList).tail,
          isPgSessionNoop (String.ofList statement)) := by
  rw [doQuery_acknowledged]
  constructor
  · intro kept noop statement member
    exact kept.1 noop statement (List.mem_of_mem_tail member)
  · intro later
    refine ⟨fun noop => ?_, fun rest behind => stripped_behindComments behind⟩
    rcases first_noop noop with ⟨first, others, split, isNoop⟩
    have behind := later noop
    rw [split] at behind ⊢
    exact List.forall_mem_cons.mpr ⟨isNoop, behind⟩

/-- The creation in a transaction is acknowledged and not run. -/
theorem acknowledged_loses_table :
    doQuery (fun _ => .ok ([] : List (RecordBatch Nat))) true none
          "BEGIN; CREATE TABLE t AS SELECT 1; COMMIT" =
        ⟨[], .ok⟩ ∧
      ∃ statement ∈ splitSqlStatements
          "BEGIN; CREATE TABLE t AS SELECT 1; COMMIT".toList,
        ¬ isPgSessionNoop (String.ofList statement) :=
  ⟨doQuery_acknowledged.mpr (by decide),
    "CREATE TABLE t AS SELECT 1".toList, by decide, by decide⟩

end OpenSnow.Server
