import Mathlib.Algebra.GroupWithZero.Nat
import OpenSnow.Foundation.Spans
import OpenSnow.Sql.Lexer

/-!
# The values of literals

A lexer that keeps what the lexer of statements drops: the text of a number,
and what the quotes of a string surround, with every doubled quote taken as
one.  The rules say how a piece of a text is read whatever follows it.
-/

namespace OpenSnow.Sql.Literals

open Foundation

/-- A token with the value that it stands for. -/
inductive Lexeme where
  | word (text : List Char)
  /-- A quoted name. -/
  | name (text : List Char)
  | number (text : List Char)
  | text (chars : List Char)
  | symbol (ch : Char)
deriving DecidableEq, Repr

/-- What is open at a point of the text. -/
inductive Scan where
  | plain
  | word (text : List Char)
  | number (text : List Char)
  | quoted (quote : Char) (chars : List Char)
  /-- A quote inside a quoted text, which ends it unless it is doubled. -/
  | closing (quote : Char) (chars : List Char)
  | dash
  | slash
  | line
  /-- The number of comments around this one, and the character before. -/
  | block (depth : Nat) (last : Char)
deriving DecidableEq, Repr

/-- The sign of an exponent stands right behind its `e`. -/
def isNumberChar (text : List Char) (ch : Char) : Bool :=
  ch.isDigit || ch == '.' || ch == 'e' || ch == 'E' ||
    ((ch == '+' || ch == '-') &&
      text.getLast?.any fun last => last == 'e' || last == 'E')

/-- Read a character with nothing open. -/
def opening (ch : Char) : Scan × List Lexeme :=
  if ch.isWhitespace then (.plain, [])
  else if isWordStart ch then (.word [ch], [])
  else if ch.isDigit then (.number [ch], [])
  else
    match ch with
    | '\'' => (.quoted '\'' [], [])
    | '"' => (.quoted '"' [], [])
    | '-' => (.dash, [])
    | '/' => (.slash, [])
    | _ => (.plain, [.symbol ch])

/-- Read a character after the end of a lexeme. -/
def openingAfter (lexeme : Lexeme) (ch : Char) : Scan × List Lexeme :=
  ((opening ch).1, lexeme :: (opening ch).2)

def quotedLexeme (quote : Char) (chars : List Char) : Lexeme :=
  if quote = '"' then .name chars else .text chars

/-- Read one character. -/
def Scan.step : Scan → Char → Scan × List Lexeme
  | .plain, ch => opening ch
  | .word text, ch =>
      if isWordChar ch then (.word (text ++ [ch]), [])
      else openingAfter (.word text) ch
  | .number text, ch =>
      if isNumberChar text ch then (.number (text ++ [ch]), [])
      else openingAfter (.number text) ch
  | .quoted quote chars, ch =>
      (if ch = quote then .closing quote chars
        else .quoted quote (chars ++ [ch]), [])
  | .closing quote chars, ch =>
      if ch = quote then (.quoted quote (chars ++ [quote]), [])
      else openingAfter (quotedLexeme quote chars) ch
  | .dash, ch =>
      if ch = '-' then (.line, []) else openingAfter (.symbol '-') ch
  | .slash, ch =>
      if ch = '*' then (.block 0 ' ', [])
      else openingAfter (.symbol '/') ch
  | .line, ch => (if ch = '\n' then .plain else .line, [])
  | .block depth last, ch =>
      if last = '*' ∧ ch = '/' then
        match depth with
        | 0 => (.plain, [])
        | outer + 1 => (.block outer ' ', [])
      else if last = '/' ∧ ch = '*' then (.block (depth + 1) ' ', [])
      else (.block depth ch, [])

/-- The lexeme that the end of the text completes. -/
def Scan.finish : Scan → List Lexeme
  | .word text => [.word text]
  | .number text => [.number text]
  | .closing quote chars => [quotedLexeme quote chars]
  | .dash => [.symbol '-']
  | .slash => [.symbol '/']
  | _ => []

/-- The lexemes of a text that is read with `scan` open. -/
def lexFrom (scan : Scan) : List Char → List Lexeme
  | [] => scan.finish
  | ch :: rest => (scan.step ch).2 ++ lexFrom (scan.step ch).1 rest

def lexemes (text : List Char) : List Lexeme := lexFrom .plain text

/-! ## Reading pieces of a text -/

/-- Whatever follows, the text is read as these lexemes and nothing is open. -/
def ReadsAs (text : List Char) (read : List Lexeme) : Prop :=
  ∀ rest, lexemes (text ++ rest) = read ++ lexemes rest

/-- The text is read as these lexemes before one of these characters. -/
def ReadsBefore (stops : List Char) (text : List Char)
    (read : List Lexeme) : Prop :=
  ∀ ch ∈ stops, ∀ rest,
    lexemes (text ++ ch :: rest) = read ++ lexemes (ch :: rest)

@[simp]
theorem lexemes_nil : lexemes [] = [] := rfl

variable {text : List Char} {read : List Lexeme}

theorem ReadsAs.whole (reads : ReadsAs text read) : lexemes text = read := by
  have alone := reads []
  rwa [List.append_nil, lexemes_nil, List.append_nil] at alone

theorem ReadsAs.nil : ReadsAs [] [] := fun _ => rfl

theorem ReadsAs.append {front back : List Char}
    {first second : List Lexeme} (reads : ReadsAs front first)
    (readsNext : ReadsAs back second) :
    ReadsAs (front ++ back) (first ++ second) := by
  intro rest
  rw [List.append_assoc, reads, readsNext, List.append_assoc]

theorem ReadsAs.parts {front back : List Char} {first second : List Lexeme}
    (reads : ReadsAs front first) (readsNext : ReadsAs back second)
    (rest : List Char) :
    lexemes (front ++ (back ++ rest)) =
      first ++ (second ++ lexemes rest) := by
  rw [reads, readsNext]

theorem ReadsAs.before (reads : ReadsAs text read) (stops : List Char) :
    ReadsBefore stops text read :=
  fun ch _ rest => reads (ch :: rest)

theorem ReadsBefore.cons {stops text back : List Char}
    {first second : List Lexeme} {ch : Char}
    (reads : ReadsBefore stops text first) (member : ch ∈ stops)
    (readsNext : ReadsAs (ch :: back) second) :
    ReadsAs (text ++ ch :: back) (first ++ second) := by
  intro rest
  rw [List.append_assoc, List.cons_append, reads ch member,
    ← List.cons_append, readsNext, List.append_assoc]

variable {ch : Char}

theorem readsAs_single
    (opens : opening ch = (.plain, read)) : ReadsAs [ch] read := by
  intro rest
  rw [List.singleton_append, lexemes, lexFrom, Scan.step, opens]
  rfl

theorem readsAs_cons
    {later : List Lexeme} (opens : opening ch = (.plain, read))
    (reads : ReadsAs text later) : ReadsAs (ch :: text) (read ++ later) :=
  ReadsAs.append (readsAs_single opens) reads

/-! ### Words -/

variable (text : List Char)

theorem lexFrom_word {run rest : List Char}
    (isRun : ∀ ch ∈ run, isWordChar ch) (stops : Stops isWordChar rest) :
    lexFrom (.word text) (run ++ rest) =
      .word (text ++ run) :: lexemes rest := by
  induction run generalizing text with
  | nil =>
      rw [List.nil_append, List.append_nil]
      cases rest with
      | nil => rfl
      | cons ch rest =>
          rw [lexFrom, Scan.step, if_neg (by simp [stops_cons.mp stops])]
          rfl
  | cons ch run ih =>
      rw [List.cons_append, lexFrom, Scan.step,
        if_pos (isRun ch List.mem_cons_self), List.nil_append,
        ih (text ++ [ch]) fun other member =>
          isRun other (List.mem_cons_of_mem ch member),
        List.append_assoc]
      rfl

theorem opening_wordStart (starts : isWordStart ch)
    (notBlank : ch.isWhitespace = false) :
    opening ch = (.word [ch], []) := by
  simp only [opening, notBlank, starts, Bool.false_eq_true, if_false, if_true]

theorem lexemes_word {first : Char} {run rest : List Char}
    (starts : isWordStart first) (notBlank : first.isWhitespace = false)
    (isRun : ∀ ch ∈ run, isWordChar ch) (stops : Stops isWordChar rest) :
    lexemes (first :: (run ++ rest)) =
      .word (first :: run) :: lexemes rest := by
  rw [lexemes, lexFrom, Scan.step, opening_wordStart starts notBlank,
    List.nil_append, lexFrom_word [first] isRun stops]
  rfl

variable {stops : List Char}

theorem readsBefore_word {first : Char}
    {run : List Char} (starts : isWordStart first)
    (notBlank : first.isWhitespace = false) (isRun : ∀ ch ∈ run, isWordChar ch)
    (ends : ∀ ch ∈ stops, isWordChar ch = false) :
    ReadsBefore stops (first :: run) [.word (first :: run)] := by
  intro ch member rest
  have stop : Stops isWordChar (ch :: rest) := stops_cons.mpr (ends ch member)
  exact lexemes_word starts notBlank isRun stop

/-- A bare word is read as one. -/
theorem readsBefore_bare {stops word : List Char} (some : word ≠ [])
    (letters : word.all Char.isAlpha) (ends : stops.all (!isWordChar ·)) :
    ReadsBefore stops word [.word word] := by
  have isWord (ch : Char) (member : ch ∈ word) : isWordStart ch = true := by
    rw [isWordStart, List.all_eq_true.mp letters ch member]
    rfl
  cases word with
  | nil => exact absurd rfl some
  | cons first run =>
      have letter := List.all_eq_true.mp letters first List.mem_cons_self
      have notBlank : first.isWhitespace = false := by
        rw [Char.isWhitespace]
        simp only [Bool.or_eq_false_iff, decide_eq_false_iff_not]
        refine ⟨⟨⟨?_, ?_⟩, ?_⟩, ?_⟩ <;> rintro rfl <;> revert letter <;>
          decide
      apply readsBefore_word (isWord first List.mem_cons_self) notBlank
      · intro ch member
        rw [isWordChar, isWord ch (List.mem_cons_of_mem first member)]
        rfl
      · intro ch member
        have stop := List.all_eq_true.mp ends ch member
        rwa [Bool.not_eq_true'] at stop

/-- A sign that no second one follows. -/
theorem ReadsBefore.negative {stops text : List Char} {first : Char}
    (reads : ReadsBefore stops (first :: text) read) (other : first ≠ '-') :
    ReadsBefore stops ('-' :: first :: text) (.symbol '-' :: read) := by
  intro ch member rest
  have behind := reads ch member rest
  have opens : opening '-' = (.dash, []) := by decide
  rw [List.cons_append] at behind
  rw [List.cons_append, List.cons_append, lexemes, lexFrom, Scan.step, opens,
    List.nil_append, lexFrom, Scan.step, if_neg other]
  exact congrArg (Lexeme.symbol '-' :: ·) behind

/-! ### Numbers -/

/-- These characters go on with a number whatever stands before them. -/
def isPlainNumberChar (ch : Char) : Bool :=
  ch.isDigit || ch == '.' || ch == 'e' || ch == 'E'

theorem isNumberChar_of_plain
    (plain : isPlainNumberChar ch) : isNumberChar text ch := by
  rw [isPlainNumberChar] at plain
  rw [isNumberChar, plain, Bool.true_or]

theorem lexFrom_numberRun {run : List Char}
    (isRun : ∀ ch ∈ run, isPlainNumberChar ch) (rest : List Char) :
    lexFrom (.number text) (run ++ rest) =
      lexFrom (.number (text ++ run)) rest := by
  induction run generalizing text with
  | nil => rw [List.nil_append, List.append_nil]
  | cons ch run ih =>
      have goesOn := isRun ch List.mem_cons_self
      rw [List.cons_append, lexFrom, Scan.step,
        if_pos (isNumberChar_of_plain text goesOn), List.nil_append,
        ih (text ++ [ch]) fun other member =>
          isRun other (List.mem_cons_of_mem ch member),
        List.append_assoc]
      rfl

theorem lexFrom_exponentSign {text : List Char} {mark sign : Char}
    (isMark : mark = 'e' ∨ mark = 'E') (isSign : sign = '+' ∨ sign = '-')
    (rest : List Char) :
    lexFrom (.number (text ++ [mark])) (sign :: rest) =
      lexFrom (.number (text ++ [mark] ++ [sign])) rest := by
  have goesOn : isNumberChar (text ++ [mark]) sign := by
    rw [isNumberChar, List.getLast?_concat]
    rcases isMark with rfl | rfl <;> rcases isSign with rfl | rfl <;> rfl
  rw [lexFrom, Scan.step, if_pos goesOn]
  rfl

theorem lexFrom_numberEnd {text : List Char}
    (stops : isNumberChar text ch = false) (rest : List Char) :
    lexFrom (.number text) (ch :: rest) =
      .number text :: lexemes (ch :: rest) := by
  rw [lexFrom, Scan.step, if_neg (by simp [stops])]
  rfl

theorem opening_digit (digit : ch.isDigit) :
    opening ch = (.number [ch], []) := by
  have range : 48 ≤ ch.toNat ∧ ch.toNat ≤ 57 := by
    simpa [Char.isDigit, UInt32.le_iff_toNat_le] using digit
  have notBlank : ch.isWhitespace = false := by
    rw [Char.isWhitespace]
    simp only [Bool.or_eq_false_iff, decide_eq_false_iff_not]
    refine ⟨⟨⟨?_, ?_⟩, ?_⟩, ?_⟩ <;> rintro rfl <;> revert digit <;> decide
  have notStart : isWordStart ch = false := by
    have notLetter : ch.isAlpha = false := by
      change (decide (65 ≤ ch.val ∧ ch.val ≤ 90) ||
        decide (97 ≤ ch.val) && decide (ch.val ≤ 122)) = false
      simp only [Bool.or_eq_false_iff, Bool.and_eq_false_iff,
        decide_eq_false_iff_not, UInt32.le_iff_toNat_le]
      change ¬ (65 ≤ ch.toNat ∧ ch.toNat ≤ 90) ∧
        (¬ 97 ≤ ch.toNat ∨ ¬ ch.toNat ≤ 122)
      omega
    have notUnderscore : (ch == '_') = false := by
      rw [beq_eq_false_iff_ne]
      rintro rfl
      revert digit
      decide
    rw [isWordStart, notLetter, notUnderscore]
    simpa using (by omega : ch.toNat < 128)
  simp only [opening, notBlank, notStart, digit, Bool.false_eq_true, if_false,
    if_true]

/-! ### Quoted texts -/

/-- A text as it stands between quotes: every quote is doubled. -/
def doubled (quote : Char) (chars : List Char) : List Char :=
  chars.flatMap fun ch => if ch = quote then [quote, quote] else [ch]

theorem lexFrom_doubled (quote : Char) (before chars rest : List Char) :
    lexFrom (.quoted quote before) (doubled quote chars ++ rest) =
      lexFrom (.quoted quote (before ++ chars)) rest := by
  induction chars generalizing before with
  | nil => rw [doubled, List.flatMap_nil, List.nil_append, List.append_nil]
  | cons ch chars ih =>
      have onwards := ih (before ++ [ch])
      rw [List.append_assoc, List.singleton_append] at onwards
      rw [doubled, List.flatMap_cons, List.append_assoc, ← doubled]
      by_cases isQuote : ch = quote
      · subst isQuote
        rw [if_pos rfl, List.cons_append, lexFrom, Scan.step, if_pos rfl,
          List.nil_append, List.cons_append, lexFrom, Scan.step, if_pos rfl,
          List.nil_append, List.nil_append]
        exact onwards
      · rw [if_neg isQuote, List.cons_append, lexFrom, Scan.step,
          if_neg isQuote, List.nil_append, List.nil_append]
        exact onwards

/-- What stands between two quotes is read as one lexeme. -/
theorem lexemes_quotedBy {quote : Char}
    (opens : opening quote = (.quoted quote [], [])) (chars : List Char)
    (other : ch ≠ quote) (rest : List Char) :
    lexemes (quote :: (doubled quote chars ++ quote :: ch :: rest)) =
      quotedLexeme quote chars :: lexemes (ch :: rest) := by
  have closes :
      lexFrom (.quoted quote chars) (quote :: ch :: rest) =
        quotedLexeme quote chars :: lexemes (ch :: rest) := by
    rw [lexFrom, Scan.step, if_pos rfl, List.nil_append, lexFrom, Scan.step,
      if_neg other]
    rfl
  rw [lexemes, lexFrom, Scan.step, opens, List.nil_append, lexFrom_doubled,
    List.nil_append, closes]

variable (chars : List Char)

/-- Quoting a text and reading it gives the text back. -/
theorem lexemes_quoted (other : ch ≠ '\'') (rest : List Char) :
    lexemes ('\'' :: (doubled '\'' chars ++ '\'' :: ch :: rest)) =
      .text chars :: lexemes (ch :: rest) :=
  lexemes_quotedBy (by decide) chars other rest

theorem readsBefore_text (others : '\'' ∉ stops) :
    ReadsBefore stops ('\'' :: (doubled '\'' chars ++ ['\''])) [.text chars] := by
  intro ch member rest
  have other : ch ≠ '\'' := fun same => others (same ▸ member)
  have read := lexemes_quoted chars other rest
  simpa using read

/-- Quoting a name and reading it gives the name back. -/
theorem readsBefore_name (others : '"' ∉ stops) :
    ReadsBefore stops ('"' :: (doubled '"' chars ++ ['"'])) [.name chars] := by
  intro ch member rest
  have other : ch ≠ '"' := fun same => others (same ▸ member)
  have read :
      lexemes ('"' :: (doubled '"' chars ++ '"' :: ch :: rest)) =
        .name chars :: lexemes (ch :: rest) :=
    lexemes_quotedBy (by decide) chars other rest
  simpa using read

/-! ### Texts that are not quoted -/

/-- A text without quotes is read as it stands. -/
theorem lexFrom_undoubled {chars : List Char} (noQuote : '\'' ∉ chars)
    (before rest : List Char) :
    lexFrom (.quoted '\'' before) (chars ++ rest) =
      lexFrom (.quoted '\'' (before ++ chars)) rest := by
  induction chars generalizing before with
  | nil => rw [List.nil_append, List.append_nil]
  | cons ch chars ih =>
      rw [List.mem_cons, not_or] at noQuote
      rw [List.cons_append, lexFrom, Scan.step, if_neg (Ne.symm noQuote.1),
        List.nil_append, ih noQuote.2, List.append_assoc]
      rfl

theorem doubled_of_noQuote {quote : Char} {chars : List Char}
    (noQuote : quote ∉ chars) : doubled quote chars = chars := by
  induction chars with
  | nil => rfl
  | cons ch chars ih =>
      rw [List.mem_cons, not_or] at noQuote
      rw [doubled, List.flatMap_cons, if_neg (Ne.symm noQuote.1), ← doubled,
        ih noQuote.2]
      rfl

/-! ## Reading in parts -/

/-- What is open behind a text. -/
def scanAfter (scan : Scan) : List Char → Scan
  | [] => scan
  | ch :: rest => scanAfter (scan.step ch).1 rest

/-- The lexemes that are complete at the end of a text. -/
def emitted (scan : Scan) : List Char → List Lexeme
  | [] => []
  | ch :: rest => (scan.step ch).2 ++ emitted (scan.step ch).1 rest

variable (scan : Scan)

theorem lexFrom_append (front back : List Char) :
    lexFrom scan (front ++ back) =
      emitted scan front ++ lexFrom (scanAfter scan front) back := by
  induction front generalizing scan with
  | nil => rfl
  | cons ch front ih =>
      rw [List.cons_append, lexFrom, emitted, scanAfter, ih, List.append_assoc]

theorem scanAfter_append (front back : List Char) :
    scanAfter scan (front ++ back) = scanAfter (scanAfter scan front) back := by
  induction front generalizing scan with
  | nil => rfl
  | cons ch front ih => exact ih (scan.step ch).1

theorem emitted_append (front back : List Char) :
    emitted scan (front ++ back) =
      emitted scan front ++ emitted (scanAfter scan front) back := by
  induction front generalizing scan with
  | nil => rfl
  | cons ch front ih =>
      rw [List.cons_append, emitted, emitted, scanAfter, ih, List.append_assoc]

theorem lexFrom_eq_emitted (text : List Char) :
    lexFrom scan text =
      emitted scan text ++ (scanAfter scan text).finish := by
  have parts := lexFrom_append scan text []
  rwa [List.append_nil] at parts

/-- A text that ends with nothing open is read as it stands alone. -/
theorem readsAs_of_plain {text : List Char}
    (closed : scanAfter .plain text = .plain) : ReadsAs text (lexemes text) := by
  intro rest
  have nothing : Scan.finish .plain = [] := rfl
  have alone := lexFrom_eq_emitted .plain text
  rw [closed, nothing, List.append_nil] at alone
  rw [lexemes, lexemes, lexFrom_append, closed, alone, lexemes]

/-! ## Counting quotes -/

/-- The quotes that a lexeme takes: the two around it, and two for each inside. -/
def Lexeme.quotes : Lexeme → Nat
  | .text chars => 2 * chars.count '\'' + 2
  | _ => 0

def needed (read : List Lexeme) : Nat := (read.map Lexeme.quotes).sum

/-- The quotes that the lexeme under way has taken. -/
def Scan.taken : Scan → Nat
  | .quoted quote chars =>
      if quote = '\'' then 2 * chars.count '\'' + 1 else 0
  | .closing quote chars =>
      if quote = '\'' then 2 * chars.count '\'' + 2 else 0
  | _ => 0

/-- No other quotes are open than the two of SQL. -/
def Scan.IsSql : Scan → Prop
  | .quoted quote _ | .closing quote _ => quote = '\'' ∨ quote = '"'
  | _ => True

@[simp]
theorem needed_append (first second : List Lexeme) :
    needed (first ++ second) = needed first + needed second := by
  rw [needed, List.map_append, List.sum_append, needed, needed]

@[simp]
theorem needed_cons (lexeme : Lexeme) (read : List Lexeme) :
    needed (lexeme :: read) = lexeme.quotes + needed read := rfl

@[simp]
theorem needed_nil : needed [] = 0 := rfl

theorem taken_opening (ch : Char) :
    (opening ch).1.IsSql ∧
      needed (opening ch).2 + (opening ch).1.taken ≤ [ch].count '\'' := by
  rw [opening.eq_def]
  split
  · exact ⟨trivial, Nat.zero_le _⟩
  split
  · exact ⟨trivial, Nat.zero_le _⟩
  split
  · exact ⟨trivial, Nat.zero_le _⟩
  split
  · exact ⟨Or.inl rfl, by decide⟩
  · exact ⟨Or.inr rfl, by decide⟩
  · exact ⟨trivial, by decide⟩
  · exact ⟨trivial, by decide⟩
  · exact ⟨trivial, Nat.zero_le _⟩

theorem taken_openingAfter (lexeme : Lexeme) (ch : Char) :
    (openingAfter lexeme ch).1.IsSql ∧
      needed (openingAfter lexeme ch).2 + (openingAfter lexeme ch).1.taken ≤
        lexeme.quotes + [ch].count '\'' := by
  have opens := taken_opening ch
  refine ⟨opens.1, ?_⟩
  rw [openingAfter, needed_cons, Nat.add_assoc]
  exact Nat.add_le_add_left opens.2 _

theorem count_single_ne (other : ch ≠ '\'') :
    [ch].count '\'' = 0 :=
  List.count_eq_zero.mpr fun member => other (List.mem_singleton.mp member).symm

variable {scan : Scan}

/-- A step takes no more quotes than it reads. -/
theorem taken_step (isSql : scan.IsSql) (ch : Char) :
    (scan.step ch).1.IsSql ∧
      needed (scan.step ch).2 + (scan.step ch).1.taken ≤
        scan.taken + [ch].count '\'' := by
  cases scan with
  | plain =>
      have opens := taken_opening ch
      exact ⟨opens.1, opens.2.trans (Nat.le_add_left _ _)⟩
  | word text =>
      rw [Scan.step]
      split
      · exact ⟨trivial, Nat.zero_le _⟩
      · exact taken_openingAfter _ ch
  | number text =>
      rw [Scan.step]
      split
      · exact ⟨trivial, Nat.zero_le _⟩
      · exact taken_openingAfter _ ch
  | quoted quote chars =>
      rw [Scan.step]
      split
      · rename_i same
        subst same
        refine ⟨isSql, ?_⟩
        rw [needed_nil, Scan.taken, Scan.taken]
        split_ifs with single
        · subst single
          rw [List.count_singleton_self]
          omega
        · exact Nat.zero_le _
      · rename_i other
        refine ⟨isSql, ?_⟩
        rw [needed_nil, Scan.taken, Scan.taken]
        split_ifs with single
        · subst single
          rw [List.count_append, count_single_ne other]
          omega
        · exact Nat.zero_le _
  | closing quote chars =>
      rw [Scan.step]
      split
      · rename_i same
        subst same
        refine ⟨isSql, ?_⟩
        rw [needed_nil, Scan.taken, Scan.taken]
        split_ifs with single
        · subst single
          rw [List.count_append, List.count_singleton_self]
          omega
        · exact Nat.zero_le _
      · have after := taken_openingAfter (quotedLexeme quote chars) ch
        refine ⟨after.1, after.2.trans (Nat.add_le_add_right ?_ _)⟩
        rcases isSql with rfl | rfl
        · exact Nat.le_refl _
        · exact Nat.zero_le _
  | dash =>
      rw [Scan.step]
      split
      · exact ⟨trivial, Nat.zero_le _⟩
      · exact taken_openingAfter _ ch
  | slash =>
      rw [Scan.step]
      split
      · exact ⟨trivial, Nat.zero_le _⟩
      · exact taken_openingAfter _ ch
  | line =>
      rw [Scan.step]
      split <;> exact ⟨trivial, Nat.zero_le _⟩
  | block depth last =>
      rw [Scan.step.eq_def]
      dsimp only
      split
      · split <;> exact ⟨trivial, Nat.zero_le _⟩
      · split <;> exact ⟨trivial, Nat.zero_le _⟩

/-- A text has all the quotes that its complete lexemes take. -/
theorem taken_scanAfter {scan : Scan} (isSql : scan.IsSql) (text : List Char) :
    (scanAfter scan text).IsSql ∧
      needed (emitted scan text) + (scanAfter scan text).taken ≤
        scan.taken + text.count '\'' := by
  induction text generalizing scan with
  | nil =>
      rw [emitted, scanAfter, needed_nil, List.count_nil]
      exact ⟨isSql, by omega⟩
  | cons ch text ih =>
      have step := taken_step isSql ch
      have later := ih step.1
      have counts : (ch :: text).count '\'' = [ch].count '\'' + text.count '\'' := by
        rw [← List.count_append]
        rfl
      rw [emitted, scanAfter, needed_append, counts]
      exact ⟨later.1, by omega⟩

theorem needed_lexFrom_le {scan : Scan} (isSql : scan.IsSql) (text : List Char) :
    needed (lexFrom scan text) ≤ scan.taken + text.count '\'' := by
  rcases taken_scanAfter isSql text with ⟨stays, enough⟩
  have finished : needed (scanAfter scan text).finish ≤
      (scanAfter scan text).taken := by
    cases last : scanAfter scan text with
    | closing quote chars =>
        rw [last] at stays
        rcases stays with rfl | rfl
        · exact Nat.le_refl _
        · exact Nat.zero_le _
    | _ => exact Nat.zero_le _
  rw [lexFrom_eq_emitted, needed_append]
  omega

theorem needed_lexemes_le :
    needed (lexemes text) ≤ text.count '\'' := by
  have enough := @needed_lexFrom_le .plain trivial text
  exact enough.trans (Nat.le_of_eq (Nat.zero_add _))

/-! ## What stays open -/

/-- A quoted name or a comment in blocks, in which nothing is read. -/
def Scan.Shut : Scan → Prop
  | .quoted quote _ => quote = '"'
  | .block _ last => last ≠ '*' ∧ last ≠ '/'
  | _ => False

/-- Text of other characters leaves these open. -/
theorem shut_scanAfter (shut : scan.Shut) {text : List Char}
    (noQuote : '"' ∉ text) (noStar : '*' ∉ text) (noSlash : '/' ∉ text) :
    (scanAfter scan text).Shut ∧ emitted scan text = [] := by
  induction text generalizing scan with
  | nil => exact ⟨shut, rfl⟩
  | cons ch text ih =>
      rw [List.mem_cons, not_or] at noQuote noStar noSlash
      have step : (scan.step ch).1.Shut ∧ (scan.step ch).2 = [] := by
        cases scan with
        | quoted quote chars =>
            have isName : quote = '"' := shut
            subst isName
            rw [Scan.step, if_neg (Ne.symm noQuote.1)]
            exact ⟨rfl, rfl⟩
        | block depth last =>
            rcases shut with ⟨notStar, notSlash⟩
            rw [Scan.step.eq_def]
            dsimp only
            rw [if_neg fun both => notStar both.1,
              if_neg fun both => notSlash both.1]
            exact ⟨⟨Ne.symm noStar.1, Ne.symm noSlash.1⟩, rfl⟩
        | _ => exact shut.elim
      have later := ih step.1 noQuote.2 noStar.2 noSlash.2
      rw [scanAfter, emitted, step.2, later.2]
      exact ⟨later.1, rfl⟩

theorem Scan.Shut.taken (shut : scan.Shut) : scan.taken = 0 := by
  cases scan with
  | quoted quote chars =>
      have isName : quote = '"' := shut
      subst isName
      rfl
  | closing => exact shut.elim
  | _ => rfl

theorem Scan.Shut.isSql (shut : scan.Shut) : scan.IsSql := by
  cases scan with
  | quoted quote chars => exact Or.inr shut
  | closing => exact shut.elim
  | _ => trivial

/-- A line break leaves nothing open but what is shut. -/
theorem step_newline (isSql : scan.IsSql)
    (untaken : (scan.step '\n').1.taken = 0) :
    (scan.step '\n').1 = .plain ∨ (scan.step '\n').1.Shut := by
  cases scan with
  | plain => exact Or.inl rfl
  | word text => exact Or.inl rfl
  | number text =>
      have stops : isNumberChar text '\n' = false := by
        rw [isNumberChar]
        rfl
      rw [Scan.step, if_neg (by rw [stops]; exact Bool.false_ne_true)]
      exact Or.inl rfl
  | quoted quote chars =>
      rcases isSql with rfl | rfl
      · exact absurd untaken (by simp [Scan.step, Scan.taken])
      · exact Or.inr rfl
  | closing quote chars =>
      rcases isSql with rfl | rfl <;> exact Or.inl rfl
  | dash => exact Or.inl rfl
  | slash => exact Or.inl rfl
  | line => exact Or.inl rfl
  | block depth last =>
      refine Or.inr ?_
      rw [Scan.step.eq_def]
      dsimp only
      rw [if_neg fun both => absurd both.2 (by decide),
        if_neg fun both => absurd both.2 (by decide)]
      exact ⟨by decide, by decide⟩

/-! ## Lists -/

/-- A comma and a blank, which stand between the members of a list. -/
def listComma : List Char := [',', ' ']

theorem readsAs_listComma : ReadsAs listComma [.symbol ','] :=
  readsAs_cons (by decide : opening ',' = (.plain, [.symbol ',']))
    (readsAs_single (by decide : opening ' ' = (.plain, [])))

/-- The members of a list are read one by one. -/
theorem readsAs_list {texts : List (List Char)} {reads : List (List Lexeme)}
    (members : List.Forall₂ ReadsAs texts reads) :
    ReadsAs (listComma.intercalate texts) ([.symbol ','].intercalate reads) := by
  induction members with
  | nil => exact ReadsAs.nil
  | @cons text read texts reads first others ih =>
      cases others with
      | nil =>
          rw [List.intercalate_singleton, List.intercalate_singleton]
          exact first
      | cons second more =>
          rw [List.intercalate_cons_cons, List.intercalate_cons_cons,
            List.append_assoc, List.append_assoc]
          exact first.append (readsAs_listComma.append ih)

/-- The same up to a closing parenthesis. -/
theorem readsBefore_list {texts : List (List Char)}
    {reads : List (List Lexeme)}
    (members : List.Forall₂ (ReadsBefore [',', ')']) texts reads) :
    ReadsBefore [')'] (listComma.intercalate texts)
      ([.symbol ','].intercalate reads) := by
  induction members with
  | nil => exact ReadsAs.nil.before _
  | @cons text read texts reads first others ih =>
      cases others with
      | nil =>
          rw [List.intercalate_singleton, List.intercalate_singleton]
          intro ch member rest
          exact first ch (List.mem_cons_of_mem ',' member) rest
      | @cons later laterRead texts reads second more =>
          intro ch member rest
          have behind := ih ch member rest
          have comma := readsAs_listComma
            (listComma.intercalate (later :: texts) ++ ch :: rest)
          have start := first ',' List.mem_cons_self
            (' ' :: (listComma.intercalate (later :: texts) ++ ch :: rest))
          rw [List.intercalate_cons_cons, List.intercalate_cons_cons,
            List.append_assoc, List.append_assoc, List.append_assoc,
            List.append_assoc, ← behind, ← comma]
          exact start

/-! ## Rows of cells -/

/-- Where a reader stands in a block of rows. -/
inductive Stand where
  /-- A row comes next. -/
  | opening
  /-- Inside a row: its cells so far, and the lexemes of the one under way. -/
  | cell (row : List (List Lexeme)) (current : List Lexeme)
  /-- Behind a row. -/
  | closed

/-- The cells of `(…, …), (…, …)`, row by row. -/
def rowsOf : Stand → List Lexeme → Option (List (List (List Lexeme)))
  | .opening, .symbol '(' :: rest => rowsOf (.cell [] []) rest
  | .cell row current, .symbol ',' :: rest =>
      rowsOf (.cell (row ++ [current]) []) rest
  | .cell row current, .symbol ')' :: rest =>
      (rowsOf .closed rest).map ((row ++ [current]) :: ·)
  | .cell row current, lexeme :: rest =>
      rowsOf (.cell row (current ++ [lexeme])) rest
  | .closed, [] => some []
  | .closed, .symbol ',' :: rest => rowsOf .opening rest
  | _, _ => none

/-- No lexeme of a cell ends it. -/
def IsCell (cell : List Lexeme) : Prop :=
  .symbol ',' ∉ cell ∧ .symbol ')' ∉ cell

theorem rowsOf_cell {row : List (List Lexeme)} {current cell : List Lexeme}
    (isCell : IsCell cell) (rest : List Lexeme) :
    rowsOf (.cell row current) (cell ++ rest) =
      rowsOf (.cell row (current ++ cell)) rest := by
  induction cell generalizing current with
  | nil => rw [List.nil_append, List.append_nil]
  | cons lexeme cell ih =>
      rcases isCell with ⟨noComma, noEnd⟩
      rw [List.mem_cons, not_or] at noComma noEnd
      have step :
          rowsOf (.cell row current) (lexeme :: (cell ++ rest)) =
            rowsOf (.cell row (current ++ [lexeme])) (cell ++ rest) := by
        rw [rowsOf]
        · exact Ne.symm noComma.1
        · exact Ne.symm noEnd.1
      rw [List.cons_append, step, ih ⟨noComma.2, noEnd.2⟩, List.append_assoc]
      rfl

theorem rowsOf_cells {row cells : List (List Lexeme)} (some : cells ≠ [])
    (areCells : ∀ cell ∈ cells, IsCell cell) (rest : List Lexeme) :
    rowsOf (.cell row [])
        ([.symbol ','].intercalate cells ++ .symbol ')' :: rest) =
      (rowsOf .closed rest).map ((row ++ cells) :: ·) := by
  induction cells generalizing row with
  | nil => exact absurd rfl some
  | cons cell cells ih =>
      rw [List.forall_mem_cons] at areCells
      cases cells with
      | nil =>
          rw [List.intercalate_singleton, rowsOf_cell areCells.1,
            List.nil_append, rowsOf]
      | cons second more =>
          rw [List.intercalate_cons_cons, List.append_assoc, List.append_assoc,
            rowsOf_cell areCells.1, List.nil_append, List.singleton_append,
            rowsOf, ih (List.cons_ne_nil _ _) areCells.2, List.append_assoc]
          rfl

/-- A row in parentheses. -/
def rowLexemes (cells : List (List Lexeme)) : List Lexeme :=
  .symbol '(' :: ([.symbol ','].intercalate cells ++ [.symbol ')'])

/-- A block of rows is read back cell by cell. -/
theorem rowsOf_rows {rows : List (List (List Lexeme))} (some : rows ≠ [])
    (filled : ∀ cells ∈ rows, cells ≠ [])
    (areCells : ∀ cells ∈ rows, ∀ cell ∈ cells, IsCell cell) :
    rowsOf .opening ([.symbol ','].intercalate (rows.map rowLexemes)) =
      .some rows := by
  induction rows with
  | nil => exact absurd rfl some
  | cons cells rows ih =>
      rw [List.forall_mem_cons] at filled areCells
      have opened (rest : List Lexeme) :
          rowsOf .opening (rowLexemes cells ++ rest) =
            (rowsOf .closed rest).map (cells :: ·) := by
        rw [rowLexemes, List.cons_append, rowsOf, List.append_assoc,
          List.singleton_append, rowsOf_cells filled.1 areCells.1,
          List.nil_append]
      cases rows with
      | nil =>
          have alone := opened []
          rw [List.append_nil] at alone
          rw [List.map_singleton, List.intercalate_singleton, alone]
          rfl
      | cons second more =>
          rw [List.map_cons, List.map_cons, List.intercalate_cons_cons,
            List.append_assoc, opened, List.singleton_append, rowsOf,
            ← List.map_cons,
            ih (List.cons_ne_nil _ _) filled.2 areCells.2]
          rfl

end OpenSnow.Sql.Literals
