import OpenSnow.Core.Statements
import OpenSnow.Rust.Json
import OpenSnow.Sql.Literals

/-!
# Statements with places for arguments

A builder of SQL puts its arguments into places of fixed texts.  The fixed texts
are checked one by one; when every argument fits its place, a statement is read
as the lexemes of its fixed texts with one lexeme for each literal between them,
and a script is split into its statements.
-/

namespace OpenSnow.Core.Templates

open Core.Commands
open Foundation
open Rust.Json (IsDigits)
open Rust.Text
open Sql (IsMark QuotesOnly Reading Seam seam_of_head)
open Sql.Literals

/-! ## What a text is read as before another -/

/-- Before this rest the text is read as these lexemes, and nothing is open. -/
structure Reads (text : List Char) (read : List Lexeme)
    (rest : List Char) : Prop where
  lexed : lexemes (text ++ rest) = read ++ lexemes rest
  one : OneStatement .plain rest → OneStatement .plain (text ++ rest)
  closed : readingAfter .plain rest = .plain →
    readingAfter .plain (text ++ rest) = .plain

theorem Reads.nil (rest : List Char) : Reads [] [] rest := ⟨rfl, id, id⟩

theorem Reads.append {front back rest : List Char} {first second : List Lexeme}
    (reads : Reads front first (back ++ rest))
    (later : Reads back second rest) :
    Reads (front ++ back) (first ++ second) rest := by
  refine ⟨?_, ?_, ?_⟩
  · rw [List.append_assoc, List.append_assoc, reads.lexed, later.lexed]
  · rw [List.append_assoc]
    exact fun one => reads.one (later.one one)
  · rw [List.append_assoc]
    exact fun closed => reads.closed (later.closed closed)

/-- A text that is one statement of its own with nothing open. -/
structure Settles (text : List Char) : Prop where
  one : OneStatement .plain text
  closed : readingAfter .plain text = .plain

theorem reads_of_seam {text rest : List Char} {read : List Lexeme}
    (settles : Settles text) (seam : Seam text rest)
    (lexed : lexemes (text ++ rest) = read ++ lexemes rest) :
    Reads text read rest := by
  have quotes : QuotesOnly .plain := trivial
  refine ⟨lexed, fun one => ?_, fun closed => ?_⟩
  · rw [oneStatement_seam quotes seam, settles.closed]
    exact ⟨settles.one, one⟩
  · rw [readingAfter_seam quotes seam, settles.closed]
    exact closed

/-- A text from which nothing is read. -/
structure Skipped (text : List Char) : Prop where
  nothing : emitted .plain text = []
  plain : scanAfter .plain text = .plain
  settles : Settles text

/-! ## Places -/

/-- A number as it is printed: digits, and a point and digits behind them. -/
def IsDecimal (text : List Char) : Prop :=
  ∃ whole fraction, text = whole ++ fraction ∧ IsDigits whole ∧
    (fraction = [] ∨ ∃ digits, fraction = '.' :: digits ∧ IsDigits digits)

/-- What `{}` prints of an `f64`. -/
inductive Printed where
  | nan
  | infinity (negative : Bool)
  | finite (negative : Bool) (text : List Char) (decimal : IsDecimal text)

def signed (negative : Bool) (text : List Char) : List Char :=
  if negative then '-' :: text else text

def Printed.text : Printed → List Char
  | .nan => ['N', 'a', 'N']
  | .infinity negative => signed negative ['i', 'n', 'f']
  | .finite negative text _ => signed negative text

/-- The sign is a lexeme of its own. -/
def signedRead (negative : Bool) (lexeme : Lexeme) : List Lexeme :=
  if negative then [.symbol '-', lexeme] else [lexeme]

def Printed.read : Printed → List Lexeme
  | .nan => [.word ['N', 'a', 'N']]
  | .infinity negative => signedRead negative (.word ['i', 'n', 'f'])
  | .finite negative text _ => signedRead negative (.number text)

/-- A place of an argument. -/
inductive Place where
  | literal (value : List Char)
  | number (value : Printed)
  /-- A line of a comment. -/
  | remark (label : String) (value : List Char)

def Place.text : Place → List Char
  | .literal value => '\'' :: (value ++ ['\''])
  | .number value => value.text
  | .remark label value => label.toList ++ (value ++ ['\n'])

/-- What is to be read there. -/
def Place.read : Place → List Lexeme
  | .literal value => [.text value]
  | .number value => value.read
  | .remark _ _ => []

/-- The argument is read as what is to be read. -/
def Place.Fits : Place → Prop
  | .literal value => '\'' ∉ value
  | .number _ => True
  | .remark label value => Skipped (label.toList ++ (value ++ ['\n']))

/-- The quotes of an argument that a literal would have to double. -/
def Place.undoubled : Place → Nat
  | .literal value => value.count '\''
  | _ => 0

/-- The quotes that stand in a comment. -/
def Place.remarked : Place → Nat
  | .remark label value => (label.toList ++ value).count '\''
  | _ => 0

/-- A fixed text, and behind it places with a fixed text each. -/
structure Statement where
  front : String
  places : List (Place × String)

def placesText : List (Place × String) → List Char
  | [] => []
  | (place, behind) :: more => place.text ++ (behind.toList ++ placesText more)

def placesRead : List (Place × String) → List Lexeme
  | [] => []
  | (place, behind) :: more =>
      place.read ++ (lexemes behind.toList ++ placesRead more)

def Statement.text (statement : Statement) : List Char :=
  statement.front.toList ++ placesText statement.places

/-- The lexemes of the fixed texts, with those of the arguments in their places. -/
def Statement.read (statement : Statement) : List Lexeme :=
  lexemes statement.front.toList ++ placesRead statement.places

/-! ## Fixed texts -/

/-- All quotes of a fixed text are quotes of its literals. -/
def IsFixed (text : List Char) : Prop :=
  OneStatement .plain text ∧ readingAfter .plain text = .plain ∧
    text.count '\'' = needed (lexemes text)

/-- A fixed text with a place behind it. -/
def IsInner (text : List Char) : Prop :=
  IsFixed text ∧ scanAfter .plain text = .plain ∧
    text.getLast?.any fun last => last == ' ' || last == '(' || last == '\n'

/-- A text of the kind can stand behind the place. -/
def Place.Before : Place → List Char → Prop
  | .literal _, behind => behind.head? ≠ some '\''
  | .number _, behind => behind.head?.any fun ch => ch == ' ' || ch == '\n'
  | .remark _ _, behind => behind.head? = some '-'

/-- The last fixed text may be empty behind a literal. -/
def IsLast (behind : List Char) : Prop :=
  behind = [] ∨
    IsFixed behind ∧ behind.getLast?.any fun last => !isWhitespace last

def Shaped : List (Place × String) → Prop
  | [] => False
  | [(place, behind)] =>
      place.Before behind.toList ∧ IsLast behind.toList
  | (place, behind) :: more =>
      place.Before behind.toList ∧ IsInner behind.toList ∧ Shaped more

/-- What a statement starts with. -/
def IsFront (text : List Char) : Prop :=
  IsInner text ∧ text.head?.any fun first => !isWhitespace first

/-- The fixed texts fit around the places, whatever the arguments are. -/
structure Statement.Sound (statement : Statement) : Prop where
  front : IsFront statement.front.toList
  shaped : Shaped statement.places

/-- All arguments fit their places. -/
def Statement.Fits (statement : Statement) : Prop :=
  ∀ entry ∈ statement.places, entry.1.Fits

variable {value : List Char}

@[simp]
theorem literal_fits :
    (Place.literal value).Fits ↔ '\'' ∉ value := Iff.rfl

@[simp]
theorem number_fits {value : Printed} : (Place.number value).Fits ↔ True := Iff.rfl

variable {places : List (Place × String)}

@[simp]
theorem fits_mk {front : String} :
    Statement.Fits ⟨front, places⟩ ↔ ∀ entry ∈ places, entry.1.Fits := Iff.rfl

instance (text : List Char) : Decidable (IsFixed text) :=
  inferInstanceAs (Decidable (_ ∧ _ ∧ _))

instance (text : List Char) : Decidable (IsInner text) :=
  inferInstanceAs (Decidable (_ ∧ _ ∧ _))

instance (text : List Char) : Decidable (IsFront text) :=
  inferInstanceAs (Decidable (_ ∧ _))

instance (behind : List Char) : Decidable (IsLast behind) :=
  inferInstanceAs (Decidable (_ ∨ _ ∧ _))

theorem of_chars {holds : List Char → Prop} {text : String}
    (checked : ∃ chars, String.ofList chars = text ∧ holds chars) :
    holds text.toList := by
  rcases checked with ⟨chars, rfl, checked⟩
  rwa [String.toList_ofList]

theorem of_chars_append {holds : List Char → Prop} {front back : String}
    (checked : ∃ first second, String.ofList first = front ∧
      String.ofList second = back ∧ holds (first ++ second)) :
    holds (front ++ back).toList := by
  rcases checked with ⟨first, second, rfl, rfl, checked⟩
  rwa [String.toList_append, String.toList_ofList, String.toList_ofList]

theorem literal_before {behind : String}
    (checked : ∃ chars, String.ofList chars = behind ∧ chars.head? ≠ some '\'') :
    (Place.literal value).Before behind.toList :=
  @of_chars (Place.literal value).Before behind checked

theorem number_before {value : Printed} {behind : String}
    (checked : ∃ chars, String.ofList chars = behind ∧
      chars.head?.any fun ch => ch == ' ' || ch == '\n') :
    (Place.number value).Before behind.toList :=
  @of_chars (Place.number value).Before behind checked

theorem remark_before {label behind : String}
    (checked : ∃ chars, String.ofList chars = behind ∧ chars.head? = some '-') :
    (Place.remark label value).Before behind.toList :=
  @of_chars (Place.remark label value).Before behind checked

/-! ## Reading the parts -/

theorem not_isMark {first : Char}
    (ordinary : first = ' ' ∨ first = '(' ∨ first = '\n') (second : Char) :
    ¬ IsMark first second := by
  rcases ordinary with rfl | rfl | rfl <;> simp [IsMark]

theorem IsFixed.settles {text : List Char} (isFixed : IsFixed text) :
    Settles text :=
  ⟨isFixed.1, isFixed.2.1⟩

theorem IsFixed.reads {text : List Char} (isFixed : IsFixed text) :
    Reads text (lexemes text) [] := by
  have seam : Seam text [] := fun _ _ => nofun
  apply reads_of_seam isFixed.settles seam
  rw [List.append_nil, lexemes_nil, List.append_nil]

theorem IsInner.seam {text : List Char} (isInner : IsInner text)
    (rest : List Char) : Seam text rest := by
  intro last isLast second _
  have ends := isInner.2.2
  rw [Option.mem_def.mp isLast, Option.any_some, Bool.or_eq_true,
    Bool.or_eq_true, beq_iff_eq, beq_iff_eq, beq_iff_eq, or_assoc] at ends
  exact not_isMark ends second

theorem IsInner.reads {text : List Char} (isInner : IsInner text)
    (rest : List Char) : Reads text (lexemes text) rest :=
  reads_of_seam isInner.1.settles (isInner.seam rest)
    (readsAs_of_plain isInner.2.1 rest)

theorem IsInner.ne_nil {text : List Char} (isInner : IsInner text) :
    text ≠ [] := by
  rintro rfl
  exact absurd isInner.2.2 Bool.false_ne_true

/-! ### Literals -/

theorem settles_literal (noQuote : '\'' ∉ value) :
    Settles ('\'' :: (value ++ ['\''])) := by
  have quoted : OneStatement (.quoted '\'') (value ++ ['\'']) ∧
      readingAfter (.quoted '\'') (value ++ ['\'']) = .plain := by
    induction value with
    | nil => decide
    | cons ch value ih =>
        rw [List.mem_cons, not_or] at noQuote
        have stays (rest : List Char) :
            Reading.next true (.quoted '\'') ch rest = .quoted '\'' := by
          rw [Reading.next, if_neg (Ne.symm noQuote.1)]
        rw [List.cons_append, OneStatement, readingAfter, stays]
        exact ⟨⟨fun ends => (by cases ends.1), (ih noQuote.2).1⟩, (ih noQuote.2).2⟩
  have opens (rest : List Char) :
      Reading.next true .plain '\'' rest = .quoted '\'' := by
    rw [Reading.next, if_neg (by simp), if_neg (by simp), if_pos (Or.inl rfl)]
  refine ⟨⟨by decide, ?_⟩, ?_⟩
  · rw [opens]
    exact quoted.1
  · rw [readingAfter, opens]
    exact quoted.2

theorem reads_literal (noQuote : '\'' ∉ value)
    {rest : List Char} (stops : rest.head? ≠ some '\'') :
    Reads ('\'' :: (value ++ ['\''])) [.text value] rest := by
  have seam : Seam ('\'' :: (value ++ ['\''])) rest := by
    intro last isLast second isSecond
    rw [← List.cons_append, List.getLast?_concat, Option.mem_some] at isLast
    subst isLast
    rintro (⟨rfl, -⟩ | ⟨isSlash, -⟩ | ⟨isStar, -⟩)
    · exact stops isSecond
    · exact absurd isSlash (by decide)
    · exact absurd isStar (by decide)
  apply reads_of_seam (settles_literal noQuote) seam
  cases rest with
  | nil =>
      have opens : opening '\'' = (.quoted '\'' [], []) := by decide
      rw [List.append_nil, lexemes, lexFrom, Scan.step, opens,
        List.nil_append, lexFrom_undoubled noQuote]
      rfl
  | cons ch rest =>
      have other : ch ≠ '\'' := fun same => stops (congrArg some same)
      have read := lexemes_quoted value other rest
      rw [doubled_of_noQuote noQuote] at read
      rw [List.cons_append, List.append_assoc]
      exact read

/-! ### Printed numbers -/

/-- A character that opens nothing between statements. -/
def IsInert (ch : Char) : Prop :=
  ch ≠ '\'' ∧ ch ≠ '"' ∧ ch ≠ '-' ∧ ch ≠ '/' ∧ ch ≠ ';'

theorem settles_inert {text : List Char} (inert : ∀ ch ∈ text, IsInert ch) :
    Settles text := by
  induction text with
  | nil => exact ⟨trivial, rfl⟩
  | cons ch text ih =>
      have later := ih fun other member =>
        inert other (List.mem_cons_of_mem ch member)
      rcases inert ch List.mem_cons_self with
        ⟨noQuote, noName, noDash, noSlash, noSemicolon⟩
      have stays : Reading.next true .plain ch text = .plain := by
        simp [Reading.next, noQuote, noName, noDash, noSlash]
      refine ⟨⟨fun ends => noSemicolon ends.2, ?_⟩, ?_⟩
      · rw [stays]
        exact later.one
      · rw [readingAfter, stays]
        exact later.closed

theorem settles_signed {text : List Char} (inert : ∀ ch ∈ text, IsInert ch)
    (negative : Bool) : Settles (signed negative text) := by
  have settles := settles_inert inert
  cases negative with
  | false => exact settles
  | true =>
      have stays : Reading.next true .plain '-' text = .plain := by
        cases text with
        | nil => rfl
        | cons first text =>
            have noDash := (inert first List.mem_cons_self).2.2.1
            simp [Reading.next, noDash]
      refine ⟨⟨by decide, ?_⟩, ?_⟩
      · rw [stays]
        exact settles.one
      · rw [signed, if_pos rfl, readingAfter, stays]
        exact settles.closed

/-- What stands behind a printed number. -/
def blanks : List Char := [' ', '\n']

theorem readsBefore_signed {text : List Char} {lexeme : Lexeme}
    (inert : ∀ ch ∈ text, IsInert ch) (some : text ≠ [])
    (reads : ReadsBefore blanks text [lexeme]) (negative : Bool) :
    ReadsBefore blanks (signed negative text) (signedRead negative lexeme) := by
  cases negative with
  | false => exact reads
  | true =>
      cases text with
      | nil => exact absurd rfl some
      | cons first text =>
          exact reads.negative (inert first List.mem_cons_self).2.2.1

theorem isInert_of_number {ch : Char} (plain : isPlainNumberChar ch) :
    IsInert ch := by
  refine ⟨?_, ?_, ?_, ?_, ?_⟩ <;> rintro rfl <;> revert plain <;> decide

/-- The first digit of a printed number and the others with the point. -/
theorem IsDecimal.shape {text : List Char} (decimal : IsDecimal text) :
    ∃ first run, text = first :: run ∧ first.isDigit ∧
      ∀ ch ∈ run, isPlainNumberChar ch := by
  rcases decimal with ⟨whole, fraction, rfl, ⟨some, digits⟩, isFraction⟩
  have ofDigit {ch : Char} (digit : ch.isDigit) : isPlainNumberChar ch := by
    rw [isPlainNumberChar, digit]
    rfl
  cases whole with
  | nil => exact absurd rfl some
  | cons first whole =>
      refine ⟨first, whole ++ fraction, rfl, digits first List.mem_cons_self, ?_⟩
      intro ch member
      rcases List.mem_append.mp member with inside | inside
      · exact ofDigit (digits ch (List.mem_cons_of_mem first inside))
      · rcases isFraction with rfl | ⟨places, rfl, -, places⟩
        · cases inside
        · rcases List.mem_cons.mp inside with rfl | inside
          · decide
          · exact ofDigit (places ch inside)

theorem IsDecimal.inert {text : List Char} (decimal : IsDecimal text) :
    ∀ ch ∈ text, IsInert ch := by
  rcases decimal.shape with ⟨first, run, rfl, digit, isRun⟩
  intro ch member
  apply isInert_of_number
  rcases List.mem_cons.mp member with rfl | member
  · rw [isPlainNumberChar, digit]
    rfl
  · exact isRun ch member

theorem IsDecimal.reads {text : List Char} (decimal : IsDecimal text) :
    ReadsBefore blanks text [.number text] := by
  rcases decimal.shape with ⟨first, run, rfl, digit, isRun⟩
  intro ch member rest
  have ends : isNumberChar ([first] ++ run) ch = false := by
    rcases List.mem_cons.mp member with rfl | member
    · rfl
    · rw [List.mem_singleton.mp member]
      rfl
  rw [lexemes, List.cons_append, lexFrom, Scan.step, opening_digit digit,
    List.nil_append, lexFrom_numberRun [first] isRun, lexFrom_numberEnd ends]
  rfl

theorem Printed.settles (value : Printed) : Settles value.text := by
  cases value with
  | nan => exact ⟨by decide, by decide⟩
  | infinity negative => exact settles_signed (by simp [IsInert]) negative
  | finite negative text decimal => exact settles_signed decimal.inert negative

theorem Printed.readsBefore (value : Printed) :
    ReadsBefore blanks value.text value.read := by
  cases value with
  | nan => exact readsBefore_bare (by decide) (by decide) (by decide)
  | infinity negative =>
      have reads : ReadsBefore blanks ['i', 'n', 'f'] [.word ['i', 'n', 'f']] :=
        readsBefore_bare (by decide) (by decide) (by decide)
      exact readsBefore_signed (by simp [IsInert]) (List.cons_ne_nil _ _) reads negative
  | finite negative text decimal =>
      rcases decimal.shape with ⟨first, run, shape, -⟩
      have some : text ≠ [] := by
        rw [shape]
        exact List.cons_ne_nil _ _
      exact readsBefore_signed decimal.inert some decimal.reads negative

theorem Printed.reads (value : Printed) {rest : List Char}
    (behind : rest.head?.any fun ch => ch == ' ' || ch == '\n') :
    Reads value.text value.read rest := by
  cases rest with
  | nil => cases behind
  | cons ch rest =>
      have blank : ch = ' ' ∨ ch = '\n' := by simpa using behind
      have seam : Seam value.text (ch :: rest) :=
        seam_of_head isWhitespace (by decide) (by
          rintro _ ⟨⟩
          rcases blank with rfl | rfl <;> decide)
      have member : ch ∈ blanks := by simpa [blanks] using blank
      exact reads_of_seam value.settles seam (value.readsBefore ch member rest)

/-! ### Comments -/

theorem Skipped.reads {text : List Char} (skipped : Skipped text)
    {rest : List Char} (seam : Seam text rest) : Reads text [] rest := by
  apply reads_of_seam skipped.settles seam
  rw [lexemes, lexFrom_append, skipped.nothing, skipped.plain]
  rfl

theorem seam_newline (text rest : List Char) : Seam (text ++ ['\n']) rest := by
  intro last isLast second _
  rw [List.getLast?_concat, Option.mem_some] at isLast
  subst isLast
  exact not_isMark (Or.inr (Or.inr rfl)) second

/-! ### Statements -/

theorem Place.Fits.reads {place : Place} (fits : place.Fits)
    {behind rest : List Char} (before : place.Before behind)
    (atEnd : behind = [] → rest = []) :
    Reads place.text place.read (behind ++ rest) := by
  have head : (behind ++ rest).head? = behind.head? := by
    cases behind with
    | nil =>
        rw [atEnd rfl]
        rfl
    | cons ch behind => rfl
  cases place with
  | literal value =>
      have stops : behind.head? ≠ some '\'' := before
      exact reads_literal fits (head ▸ stops)
  | number value =>
      have blank : behind.head?.any fun ch => ch == ' ' || ch == '\n' := before
      exact value.reads (head ▸ blank)
  | remark label value =>
      have skipped : Skipped (label.toList ++ (value ++ ['\n'])) := fits
      apply skipped.reads
      rw [← List.append_assoc]
      exact seam_newline _ _

theorem Shaped.reads (shaped : Shaped places)
    (fits : ∀ entry ∈ places, entry.1.Fits) :
    Reads (placesText places) (placesRead places) [] := by
  induction places with
  | nil => exact shaped.elim
  | cons entry more ih =>
      rw [List.forall_mem_cons] at fits
      rcases entry with ⟨place, behind⟩
      cases more with
      | nil =>
          rcases shaped with ⟨before, isLast⟩
          have last : Reads behind.toList (lexemes behind.toList) [] := by
            rcases isLast with empty | ⟨isFixed, -⟩
            · rw [empty]
              exact Reads.nil []
            · exact isFixed.reads
          have placed : Reads place.text place.read (behind.toList ++ []) :=
            fits.1.reads before fun _ => rfl
          rw [placesText, placesRead, placesText, placesRead, List.append_nil,
            List.append_nil]
          exact placed.append last
      | cons second others =>
          rcases shaped with ⟨before, isInner, shaped⟩
          have later := ih shaped fits.2
          have fixed := (isInner.reads _).append later
          refine Reads.append ?_ fixed
          rw [List.append_nil]
          exact fits.1.reads before fun empty => absurd empty isInner.ne_nil

variable {statement : Statement}

theorem Statement.reads (sound : statement.Sound)
    (fits : statement.Fits) : Reads statement.text statement.read [] :=
  (sound.front.1.reads _).append (sound.shaped.reads fits)

theorem shaped_ends (shaped : Shaped places) :
    ∃ front last, placesText places = front ++ [last] ∧
      isWhitespace last = false := by
  induction places with
  | nil => exact shaped.elim
  | cons entry more ih =>
      rcases entry with ⟨place, behind⟩
      cases more with
      | nil =>
          rcases shaped with ⟨before, isLast⟩
          rw [placesText, placesText, List.append_nil]
          rcases isLast with empty | ⟨-, solid⟩
          · rw [empty] at before ⊢
            cases place with
            | literal value =>
                refine ⟨'\'' :: value, '\'', ?_, by decide⟩
                rw [List.append_nil]
                rfl
            | number value => cases before
            | remark label value => cases before
          · rcases List.eq_nil_or_concat behind.toList with empty | ⟨front, last, shape⟩
            · rw [empty] at solid
              cases solid
            · rw [List.concat_eq_append] at shape
              rw [shape, List.getLast?_concat, Option.any_some,
                Bool.not_eq_true'] at solid
              exact ⟨place.text ++ front, last, by rw [shape, List.append_assoc], solid⟩
      | cons second others =>
          rcases ih shaped.2.2 with ⟨front, last, shape, solid⟩
          refine ⟨place.text ++ (behind.toList ++ front), last, ?_, solid⟩
          rw [placesText, shape, List.append_assoc, List.append_assoc]

/-- A statement whose arguments fit is left whole by the splitter. -/
theorem Statement.isStatement (sound : statement.Sound)
    (fits : statement.Fits) :
    IsStatement statement.text ∧ readingAfter .plain statement.text = .plain := by
  have reads := Statement.reads sound fits
  have one := reads.one trivial
  have closed := reads.closed rfl
  rw [List.append_nil] at one closed
  rcases shaped_ends sound.shaped with ⟨front, last, shape, solid⟩
  have starts := sound.front.2
  cases begins : statement.front.toList with
  | nil =>
      rw [begins] at starts
      cases starts
  | cons first others =>
      have solidStart : isWhitespace first = false := by
        rw [begins, List.head?_cons, Option.any_some, Bool.not_eq_true'] at starts
        exact starts
      have text : statement.text = first :: (others ++ front) ++ [last] := by
        rw [Statement.text, begins, shape, List.cons_append, List.cons_append,
          List.append_assoc]
      refine ⟨⟨?_, ⟨?_, ?_⟩, one⟩, closed⟩
      · rw [text]
        exact List.cons_ne_nil _ _
      · rw [text]
        exact stops_cons.mpr solidStart
      · rw [text, List.reverse_concat]
        exact stops_cons.mpr solid

/-! ## Scripts -/

/-- What the statements of a text are read as. -/
def statementReads (text : List Char) : List (List Lexeme) :=
  (splitSqlStatements text).map lexemes

/-- The text splits into the statements, each with the arguments as literals. -/
def InjectionFree (text : List Char) (statements : List Statement) : Prop :=
  statementReads text = statements.map Statement.read

/-- Statements with a semicolon behind each and an empty line between two. -/
def endedScript (texts : List (List Char)) : List Char :=
  [';', '\n', '\n'].intercalate texts ++ [';']

theorem endedScript_cons_cons (text second : List Char) (others : List (List Char)) :
    endedScript (text :: second :: others) =
      text ++ ';' :: '\n' :: '\n' :: endedScript (second :: others) := by
  simp only [endedScript, List.intercalate_cons_cons, List.append_assoc,
    List.cons_append, List.nil_append]

theorem endedScript_cons (text : List Char) (others : List (List Char)) :
    ∃ rest, endedScript (text :: others) = text ++ rest := by
  cases others with
  | nil => exact ⟨[';'], by rw [endedScript, List.intercalate_singleton]⟩
  | cons second others => exact ⟨_, endedScript_cons_cons text second others⟩

theorem split_ended {blanks text back : List Char} (blank : Blank blanks)
    (isStatement : IsStatement text) (closed : readingAfter .plain text = .plain) :
    splitSqlStatements (blanks ++ text ++ ';' :: back) =
      text :: splitSqlStatements back := by
  have quotes : QuotesOnly .plain := trivial
  have one : OneStatement .plain (blanks ++ text) :=
    (oneStatement_blank_append blank).mpr isStatement.one
  have separated : Separated (';' :: back) := by
    rintro ahead ⟨⟩
    exact Or.inl rfl
  have solid : ¬ Blank (blanks ++ text) := fun all =>
    isStatement.not_blank (blank_append.mp all).2
  have whole : trim (blanks ++ text) = text := by
    have trimmed := trim_surrounded blank blank_nil isStatement.trimmed
    rwa [List.append_nil] at trimmed
  rw [splitSqlStatements, splitLoop_append quotes one separated,
    readingAfter_blank_append blank, closed, splitLoop, if_pos ⟨rfl, rfl⟩,
    List.nil_append, keepStatement_solid solid, whole]
  rfl

theorem split_endedScript {texts : List (List Char)} (some : texts ≠ [])
    (statements : ∀ text ∈ texts,
      IsStatement text ∧ readingAfter .plain text = .plain)
    {blanks : List Char} (blank : Blank blanks) :
    splitSqlStatements (blanks ++ endedScript texts) = texts := by
  induction texts generalizing blanks with
  | nil => exact absurd rfl some
  | cons text more ih =>
      rw [List.forall_mem_cons] at statements
      rcases statements with ⟨⟨isStatement, closed⟩, later⟩
      cases more with
      | nil =>
          rw [endedScript, List.intercalate_singleton, ← List.append_assoc,
            split_ended blank isStatement closed]
          rfl
      | cons second others =>
          have blankLine : Blank ['\n', '\n'] :=
            blank_cons.mpr ⟨by decide, blank_newline⟩
          have shape :
              blanks ++ endedScript (text :: second :: others) =
                blanks ++ text ++ ';' :: (['\n', '\n'] ++ endedScript (second :: others)) := by
            rw [endedScript_cons_cons, List.append_assoc]
            rfl
          rw [shape, split_ended blank isStatement closed,
            ih (List.cons_ne_nil _ _) later blankLine]

theorem statementReads_of_isStatement {text : List Char}
    (isStatement : IsStatement text) : statementReads text = [lexemes text] := by
  rw [statementReads, isStatement.split, List.map_singleton]

theorem lexemes_statement (sound : statement.Sound)
    (fits : statement.Fits) : lexemes statement.text = statement.read := by
  have lexed := (Statement.reads sound fits).lexed
  rwa [List.append_nil, lexemes_nil, List.append_nil] at lexed

theorem injectionFree_single (sound : statement.Sound)
    (fits : statement.Fits) : InjectionFree statement.text [statement] := by
  rw [InjectionFree,
    statementReads_of_isStatement (Statement.isStatement sound fits).1,
    lexemes_statement sound fits, List.map_singleton]

theorem injectionFree_endedScript {statements : List Statement} (some : statements ≠ [])
    (sound : ∀ statement ∈ statements, statement.Sound)
    (fits : ∀ statement ∈ statements, statement.Fits) :
    InjectionFree (endedScript (statements.map Statement.text)) statements := by
  have split := @split_endedScript (statements.map Statement.text) (by simpa using some)
    (by
      intro text member
      rcases List.mem_map.mp member with ⟨statement, inside, rfl⟩
      exact Statement.isStatement (sound statement inside) (fits statement inside))
    [] blank_nil
  rw [List.nil_append] at split
  rw [InjectionFree, statementReads, split, List.map_map]
  apply List.map_congr_left
  intro statement member
  exact lexemes_statement (sound statement member) (fits statement member)

/-! ## Counting quotes -/

/-- Trimming and splitting make no quotes. -/
theorem count_trim_le (ch : Char) (text : List Char) :
    (trim text).count ch ≤ text.count ch := by
  rcases trim_shape text with ⟨before, after, shape, -, -⟩
  have counts := congrArg (List.count ch) shape
  rw [List.count_append, List.count_append] at counts
  omega

theorem count_keepStatement_le (ch : Char) (current : List Char)
    (statements : List (List Char)) :
    ((keepStatement current statements).map (List.count ch)).sum ≤
      current.count ch + (statements.map (List.count ch)).sum := by
  rw [keepStatement]
  split_ifs
  · exact Nat.le_add_left _ _
  · rw [List.map_cons, List.sum_cons]
    exact Nat.add_le_add_right (count_trim_le ch current) _

theorem count_splitLoop_le (ch : Char) (reading : Reading)
    (current text : List Char) :
    ((splitLoop reading current text).map (List.count ch)).sum ≤
      current.count ch + text.count ch := by
  induction text generalizing reading current with
  | nil => exact count_keepStatement_le ch current []
  | cons next text ih =>
      have parts : (next :: text).count ch = [next].count ch + text.count ch := by
        rw [← List.count_append]
        rfl
      rw [splitLoop, parts]
      split_ifs
      · have kept := count_keepStatement_le ch current (splitLoop .plain [] text)
        have later := ih .plain []
        rw [List.count_nil] at later
        omega
      · have later := ih (reading.next true next text) (current ++ [next])
        rw [List.count_append] at later
        omega

theorem count_split_le (ch : Char) (text : List Char) :
    ((splitSqlStatements text).map (List.count ch)).sum ≤ text.count ch := by
  have loop := count_splitLoop_le ch .plain [] text
  rwa [List.count_nil, Nat.zero_add] at loop

/-- The lexemes of the statements take no more quotes than the text has. -/
theorem needed_statementReads_le (text : List Char) :
    ((statementReads text).map needed).sum ≤ text.count '\'' := by
  rw [statementReads, List.map_map]
  exact
    (List.sum_le_sum fun statement _ => needed_lexemes_le statement).trans
      (count_split_le '\'' text)

theorem quotes_signed (negative : Bool) {text : List Char}
    (inert : ∀ ch ∈ text, IsInert ch) : (signed negative text).count '\'' = 0 := by
  rw [List.count_eq_zero]
  cases negative with
  | false => exact fun member => (inert _ member).1 rfl
  | true =>
      intro member
      rcases List.mem_cons.mp member with same | member
      · cases same
      · exact (inert _ member).1 rfl

theorem Printed.quotes (value : Printed) :
    value.text.count '\'' = 0 ∧ needed value.read = 0 := by
  have bare (negative : Bool) {lexeme : Lexeme} (noText : lexeme.quotes = 0) :
      needed (signedRead negative lexeme) = 0 := by
    have sign : Lexeme.quotes (.symbol '-') = 0 := rfl
    cases negative <;> simp [signedRead, noText, sign]
  cases value with
  | nan => exact ⟨by decide, rfl⟩
  | infinity negative => exact ⟨quotes_signed negative (by simp [IsInert]), bare negative rfl⟩
  | finite negative text decimal => exact ⟨quotes_signed negative decimal.inert, bare negative rfl⟩

/-- The quotes of a place, and those that a literal would need. -/
theorem Place.balance (place : Place) :
    place.text.count '\'' + place.undoubled =
      needed place.read + place.remarked := by
  cases place with
  | literal value =>
      simp [Place.text, Place.read, Place.undoubled, Place.remarked, Lexeme.quotes]
      omega
  | number value =>
      rcases value.quotes with ⟨none, noneRead⟩
      rw [Place.text, Place.read, none, noneRead]
      rfl
  | remark label value =>
      simp [Place.text, Place.read, Place.undoubled, Place.remarked]

def Statement.undoubled (statement : Statement) : Nat :=
  (statement.places.map fun entry => entry.1.undoubled).sum

def Statement.remarked (statement : Statement) : Nat :=
  (statement.places.map fun entry => entry.1.remarked).sum

theorem IsLast.balance {behind : List Char} (isLast : IsLast behind) :
    behind.count '\'' = needed (lexemes behind) := by
  rcases isLast with rfl | ⟨isFixed, -⟩
  · rfl
  · exact isFixed.2.2

theorem Shaped.balance (shaped : Shaped places) :
    (placesText places).count '\'' +
        (places.map fun entry => entry.1.undoubled).sum =
      needed (placesRead places) +
        (places.map fun entry => entry.1.remarked).sum := by
  induction places with
  | nil => exact shaped.elim
  | cons entry more ih =>
      rcases entry with ⟨place, behind⟩
      have here := place.balance
      rw [placesText, placesRead, List.count_append, List.count_append,
        needed_append, needed_append, List.map_cons, List.map_cons,
        List.sum_cons, List.sum_cons]
      dsimp only
      cases more with
      | nil =>
          have fixed := shaped.2.balance
          simp only [placesText, placesRead, List.count_nil, needed_nil,
            List.map_nil, List.sum_nil]
          omega
      | cons second others =>
          have later := ih shaped.2.2
          have fixed : behind.toList.count '\'' = needed (lexemes behind.toList) :=
            shaped.2.1.1.2.2
          omega

theorem Statement.balance (sound : statement.Sound) :
    statement.text.count '\'' + statement.undoubled =
      needed statement.read + statement.remarked := by
  have front := sound.front.1.1.2.2
  have places := sound.shaped.balance
  rw [Statement.text, Statement.read, List.count_append, needed_append,
    Statement.undoubled, Statement.remarked]
  omega

theorem balance_sum {statements : List Statement}
    (sound : ∀ statement ∈ statements, statement.Sound) :
    (statements.map fun statement => statement.text.count '\'').sum +
        (statements.map Statement.undoubled).sum =
      (statements.map fun statement => needed statement.read).sum +
        (statements.map Statement.remarked).sum := by
  induction statements with
  | nil => rfl
  | cons statement more ih =>
      rw [List.forall_mem_cons] at sound
      have here := Statement.balance sound.1
      have later := ih sound.2
      simp only [List.map_cons, List.sum_cons]
      omega

/--
The quotes that literals would have to double are no more than those that stand
in comments: the others all have their lexemes.
-/
theorem undoubled_le {text : List Char} {statements : List Statement}
    (sound : ∀ statement ∈ statements, statement.Sound)
    (counts : text.count '\'' =
      (statements.map fun statement => statement.text.count '\'').sum)
    (free : InjectionFree text statements) :
    (statements.map Statement.undoubled).sum ≤
      (statements.map Statement.remarked).sum := by
  have enough := needed_statementReads_le text
  have balance := balance_sum sound
  rw [free, List.map_map, counts] at enough
  change (statements.map fun statement => needed statement.read).sum ≤ _ at enough
  omega

theorem count_endedScript (statements : List Statement) :
    (endedScript (statements.map Statement.text)).count '\'' =
      (statements.map fun statement => statement.text.count '\'').sum := by
  have shape : (statements.map fun statement => statement.text.count '\'') =
      (statements.map Statement.text).map (List.count '\'') := by
    rw [List.map_map]
    rfl
  rw [shape, endedScript, List.count_append]
  generalize statements.map Statement.text = texts
  induction texts with
  | nil => rfl
  | cons text more ih =>
      cases more with
      | nil => simp
      | cons second others =>
          rw [List.intercalate_cons_cons, List.count_append, List.count_append,
            List.map_cons, List.sum_cons, ← ih]
          have none : [';', '\n', '\n'].count '\'' = 0 := by decide
          omega

/-- Without a comment, the literals are read exactly if nothing is to be doubled. -/
theorem injectionFree_iff (sound : statement.Sound)
    (noRemark : ∀ entry ∈ statement.places, ∀ label value,
      entry.1 ≠ .remark label value) :
    InjectionFree statement.text [statement] ↔ statement.Fits := by
  constructor
  · intro free
    have sums := @undoubled_le statement.text [statement]
      (by simpa using sound) (by simp) free
    have none : statement.remarked = 0 := by
      apply List.sum_eq_zero
      intro count member
      rcases List.mem_map.mp member with ⟨⟨place, behind⟩, inside, rfl⟩
      cases place with
      | remark label value => exact absurd rfl (noRemark _ inside label value)
      | _ => rfl
    simp only [List.map_cons, List.map_nil, List.sum_cons, List.sum_nil, none,
      Nat.add_zero, Nat.le_zero, Statement.undoubled] at sums
    rintro ⟨place, behind⟩ inside
    have member : place.undoubled ∈
        statement.places.map fun entry => entry.1.undoubled :=
      List.mem_map.mpr ⟨_, inside, rfl⟩
    have single := List.le_sum_of_mem member
    rw [sums] at single
    cases place with
    | literal value => exact List.count_eq_zero.mp (Nat.le_zero.mp single)
    | number value => trivial
    | remark label value => exact absurd rfl (noRemark _ inside label value)
  · exact injectionFree_single sound

/-! ## Comments that stay comments -/

instance (text : List Char) : Decidable (Settles text) :=
  decidable_of_iff (OneStatement .plain text ∧ readingAfter .plain text = .plain)
    ⟨fun both => ⟨both.1, both.2⟩, fun settles => ⟨settles.one, settles.closed⟩⟩

instance (text : List Char) : Decidable (Skipped text) :=
  decidable_of_iff
    (emitted .plain text = [] ∧ scanAfter .plain text = .plain ∧ Settles text)
    ⟨fun all => ⟨all.1, all.2.1, all.2.2⟩, fun skipped =>
      ⟨skipped.nothing, skipped.plain, skipped.settles⟩⟩

theorem settles_append_iff {front back : List Char} (settles : Settles front)
    (seam : Seam front back) : Settles (front ++ back) ↔ Settles back := by
  have quotes : QuotesOnly .plain := trivial
  have one := oneStatement_seam quotes seam
  have after := readingAfter_seam quotes seam
  rw [settles.closed] at one after
  constructor
  · intro whole
    exact ⟨(one.mp whole.one).2, after ▸ whole.closed⟩
  · intro behind
    exact ⟨one.mpr ⟨settles.one, behind.one⟩, after ▸ behind.closed⟩

theorem skipped_append_iff {front back : List Char} (skipped : Skipped front)
    (seam : Seam front back) : Skipped (front ++ back) ↔ Skipped back := by
  have parts := settles_append_iff skipped.settles seam
  have read := emitted_append .plain front back
  have after := scanAfter_append .plain front back
  rw [skipped.nothing, skipped.plain, List.nil_append] at read
  rw [skipped.plain] at after
  constructor
  · rintro ⟨nothing, plain, settles⟩
    exact ⟨read ▸ nothing, after ▸ plain, parts.mp settles⟩
  · rintro ⟨nothing, plain, settles⟩
    exact ⟨read ▸ nothing, after ▸ plain, parts.mpr settles⟩

theorem skipped_comment {body : List Char} (noBreak : '\n' ∉ body) :
    Skipped ('-' :: '-' :: (body ++ ['\n'])) := by
  have settled : OneStatement .line (body ++ ['\n']) ∧
      readingAfter .line (body ++ ['\n']) = .plain := by
    induction body with
    | nil => decide
    | cons ch body ih =>
        rw [List.mem_cons, not_or] at noBreak
        have stays (rest : List Char) : Reading.next true .line ch rest = .line := by
          rw [Reading.next, if_neg (Ne.symm noBreak.1)]
        have later := ih noBreak.2
        rw [List.cons_append, OneStatement, readingAfter, stays]
        exact ⟨⟨fun ends => (by cases ends.1), later.1⟩, later.2⟩
  have scanned : scanAfter .line (body ++ ['\n']) = .plain ∧
      emitted .line (body ++ ['\n']) = [] := by
    clear settled
    induction body with
    | nil => exact ⟨rfl, rfl⟩
    | cons ch body ih =>
        rw [List.mem_cons, not_or] at noBreak
        have stays : Scan.step .line ch = (.line, []) := by
          rw [Scan.step, if_neg (Ne.symm noBreak.1)]
        rw [List.cons_append, scanAfter, emitted, stays]
        exact ih noBreak.2
  have dash : opening '-' = (.dash, []) := by decide
  have opens (rest : List Char) :
      Reading.next true .plain '-' ('-' :: rest) = .lineOpening := by
    simp [Reading.next]
  refine ⟨?_, ?_, ⟨⟨by decide, ?_⟩, ?_⟩⟩
  · rw [emitted, emitted, Scan.step, dash, Scan.step, if_pos rfl]
    exact scanned.2
  · rw [scanAfter, scanAfter, Scan.step, dash, Scan.step, if_pos rfl]
    exact scanned.1
  · rw [opens]
    exact ⟨fun ends => (by cases ends.1), settled.1⟩
  · rw [readingAfter, opens, readingAfter]
    exact settled.2

/-- Only what stands behind the first line break of a comment leaves it. -/
theorem skipped_remark_iff {label value : List Char} (noBreak : '\n' ∉ label) :
    Skipped ('-' :: '-' :: label ++ (value ++ ['\n'])) ↔
      Skipped (value.dropWhile (· ≠ '\n') ++ ['\n']) := by
  have noBreakIn : '\n' ∉ label ++ value.takeWhile (· ≠ '\n') := by
    rw [List.mem_append, not_or]
    exact ⟨noBreak, fun inside => by simpa using List.mem_takeWhile_imp inside⟩
  have comment := skipped_comment noBreakIn
  have parts := @List.takeWhile_append_dropWhile _ (· ≠ '\n') value
  have alone : Skipped ['\n'] := by decide
  cases behind : value.dropWhile (· ≠ '\n') with
  | nil =>
      rw [behind, List.append_nil] at parts
      rw [parts] at comment
      rw [List.append_assoc] at comment
      exact iff_of_true comment alone
  | cons first rest =>
      have isBreak : first = '\n' := by
        have stop := List.head?_dropWhile_not (· ≠ '\n') value
        rw [behind] at stop
        simpa using stop
      subst isBreak
      rw [behind] at parts
      clear behind
      generalize value.takeWhile (· ≠ '\n') = line at parts comment
      subst parts
      have shape :
          '-' :: '-' :: label ++ (line ++ '\n' :: rest ++ ['\n']) =
            '-' :: '-' :: (label ++ line ++ ['\n']) ++ (rest ++ ['\n']) := by
        simp
      have seam : Seam ('-' :: '-' :: (label ++ line ++ ['\n'])) (rest ++ ['\n']) := by
        rw [← List.cons_append, ← List.cons_append]
        exact seam_newline _ _
      rw [shape, skipped_append_iff comment seam]
      exact (skipped_append_iff alone (seam_newline [] _)).symm

/-! ## The first statement of a script -/

/--
When the statements take all the quotes of a text, the first one takes those in
front of the first separator.
-/
theorem first_statement {text : List Char} {read : List Lexeme}
    {reads : List (List Lexeme)} (many : reads ≠ [])
    (free : statementReads text = read :: reads)
    (starts : text.head? = some '-')
    (enough : text.count '\'' ≤ needed read + (reads.map needed).sum) :
    ∃ front back, text = front ++ ';' :: back ∧ OneStatement .plain front ∧
      readingAfter .plain front = .plain ∧ lexemes (trim front) = read ∧
      (trim front).count '\'' = needed read ∧ front.count '\'' = needed read := by
  have quotes : QuotesOnly .plain := trivial
  rcases oneStatement_or_separator quotes text with
    one | ⟨front, back, rfl, one, closed⟩
  · -- Without a separator there would be one statement at most.
    have short : (statementReads text).length ≤ 1 := by
      rw [statementReads, List.length_map, splitSqlStatements,
        splitLoop_one one, keepStatement]
      split_ifs <;> simp
    have longer := List.length_pos_iff.mpr many
    rw [free, List.length_cons] at short
    omega
  · have separated : Separated (';' :: back) := by
      rintro ahead ⟨⟩
      exact Or.inl rfl
    have solid : ¬ Blank front := by
      cases front with
      | nil => cases starts
      | cons first front =>
          rw [List.cons_append, List.head?_cons, Option.some.injEq] at starts
          subst starts
          exact fun blank => absurd (blank_cons.mp blank).1 (by decide)
    have split : splitSqlStatements (front ++ ';' :: back) =
        trim front :: splitSqlStatements back := by
      rw [splitSqlStatements, splitLoop_append quotes one separated, closed,
        splitLoop, if_pos ⟨rfl, rfl⟩, List.nil_append, keepStatement_solid solid]
      rfl
    rw [statementReads, split, List.map_cons, List.cons.injEq] at free
    rcases free with ⟨first, others⟩
    have least := needed_lexemes_le (trim front)
    have trimmed := count_trim_le '\'' front
    have behind := needed_statementReads_le back
    have parts : (front ++ ';' :: back).count '\'' =
        front.count '\'' + back.count '\'' := by
      rw [List.count_append, List.count_cons_of_ne (by decide)]
    rw [statementReads, others] at behind
    rw [first] at least
    rw [parts] at enough
    exact ⟨front, back, rfl, one, closed, first, by omega, by omega⟩

/-- With the quotes of a text up to its last one, a cut stands right behind it. -/
theorem front_of_count {front back whole between behind : List Char}
    (same : front ++ ';' :: back =
      whole ++ ['\''] ++ ';' :: (between ++ '\'' :: behind))
    (counts : front.count '\'' = (whole ++ ['\'']).count '\'')
    (noEnd : ';' ∉ between) : front = whole ++ ['\''] := by
  rcases List.append_eq_append_iff.mp same with ⟨more, shape, rest⟩ | ⟨more, shape, rest⟩
  · -- The cut is not in front of the quote.
    rcases List.eq_nil_or_concat more with rfl | ⟨more, last, rfl⟩
    · rw [shape, List.append_nil]
    · rw [List.concat_eq_append, ← List.append_assoc] at shape
      have ends := List.append_inj_right' shape rfl
      rw [List.cons.injEq] at ends
      have fewer : 0 < (more.concat last).count '\'' := by
        rw [List.concat_eq_append, List.count_pos_iff, ends.1]
        simp
      rw [shape, List.append_assoc, List.count_append,
        ← List.concat_eq_append] at counts
      omega
  · -- The cut is not behind the next separator.
    cases more with
    | nil => rw [shape, List.append_nil]
    | cons first more =>
        have none : (first :: more).count '\'' = 0 := by
          rw [shape, List.count_append] at counts
          omega
        rw [List.count_eq_zero] at none
        rw [List.cons_append, List.cons.injEq] at rest
        rcases List.append_eq_append_iff.mp rest.2 with
          ⟨later, parts, tail⟩ | ⟨later, parts, tail⟩
        · cases later with
          | nil => simp at tail
          | cons next later =>
              rw [List.cons_append, List.cons.injEq] at tail
              refine absurd ?_ none
              rw [parts, ← tail.1]
              simp
        · cases later with
          | nil => simp at tail
          | cons next later =>
              rw [List.cons_append, List.cons.injEq] at tail
              refine absurd ?_ noEnd
              rw [parts, ← tail.1]
              simp

/-- A text with nothing that opens or closes a name or a comment in blocks. -/
def IsOpenText (text : List Char) : Prop :=
  '"' ∉ text ∧ '*' ∉ text ∧ '/' ∉ text

instance (text : List Char) : Decidable (IsOpenText text) :=
  inferInstanceAs (Decidable (_ ∧ _ ∧ _))

/--
Lines without quotes in front of a fixed text and a literal: when nothing more
is read than the lexemes of the fixed text and one other, nothing is read from
the lines.
-/
theorem skipped_lines {lines fixed behind : List Char} {read : List Lexeme}
    (noQuote : '\'' ∉ lines) (isInner : IsInner fixed)
    (noQuoteFixed : '\'' ∉ fixed) (isOpen : IsOpenText fixed)
    (single : behind.count '\'' ≤ 1)
    (reads : lexemes (lines ++ ['\n'] ++ (fixed ++ '\'' :: behind)) = read)
    (length : read.length = (lexemes fixed).length + 1)
    (literal : 2 ≤ needed read) :
    emitted .plain (lines ++ ['\n']) = [] ∧
      scanAfter .plain (lines ++ ['\n']) = .plain := by
  have none : (lines ++ ['\n']).count '\'' = 0 := by
    rw [List.count_append, List.count_eq_zero.mpr noQuote]
    rfl
  rcases @taken_scanAfter .plain trivial (lines ++ ['\n']) with ⟨-, taken⟩
  rcases @taken_scanAfter .plain trivial lines with ⟨isSql, -⟩
  have start : Scan.taken .plain = 0 := rfl
  rw [none, start] at taken
  have last : scanAfter .plain (lines ++ ['\n']) =
      ((scanAfter .plain lines).step '\n').1 := by
    rw [scanAfter_append]
    rfl
  rw [lexemes, lexFrom_append] at reads
  rw [last] at taken reads ⊢
  rcases step_newline isSql (by omega) with plain | shut
  · -- The fixed text and the literal are read behind the lines.
    rw [plain] at reads ⊢
    have later := readsAs_of_plain isInner.2.1 ('\'' :: behind)
    have noneFixed := needed_lexemes_le fixed
    rw [List.count_eq_zero.mpr noQuoteFixed] at noneFixed
    change _ ++ lexemes (fixed ++ '\'' :: behind) = read at reads
    rw [later] at reads
    have some : lexemes ('\'' :: behind) ≠ [] := by
      intro empty
      rw [← reads, needed_append, needed_append, empty, needed_nil] at literal
      omega
    have positive := List.length_pos_iff.mpr some
    rw [← reads, List.length_append, List.length_append] at length
    refine ⟨List.length_eq_zero_iff.mp (by omega), rfl⟩
  · -- What stays open takes the opening quote of the literal in.
    have openQuote : '"' ∉ fixed ++ ['\''] ∧ '*' ∉ fixed ++ ['\''] ∧
        '/' ∉ fixed ++ ['\''] := by
      rcases isOpen with ⟨noName, noStar, noSlash⟩
      simp [noName, noStar, noSlash]
    have swallowed := shut_scanAfter shut openQuote.1 openQuote.2.1 openQuote.2.2
    have few := needed_lexFrom_le swallowed.1.isSql behind
    have shape : fixed ++ '\'' :: behind = fixed ++ ['\''] ++ behind := by simp
    rw [shape, lexFrom_append, swallowed.2, List.nil_append] at reads
    rw [swallowed.1.taken] at few
    rw [← reads, needed_append] at literal
    omega

/-! ### What the splitter leaves open -/

/-- No quote of a literal is open. -/
def NoLiteral (reading : Reading) : Prop := reading.QuotedBy (· ≠ '\'')

theorem NoLiteral.after {reading : Reading} (noLiteral : NoLiteral reading)
    {text : List Char} (noQuote : '\'' ∉ text) :
    NoLiteral (readingAfter reading text) := by
  induction text generalizing reading with
  | nil => exact noLiteral
  | cons ch text ih =>
      rw [List.mem_cons, not_or] at noQuote
      refine ih ?_ noQuote.2
      cases reading with
      | plain =>
          rw [Reading.next]
          split_ifs
          · trivial
          · trivial
          · exact Ne.symm noQuote.1
          · trivial
      | quoted quote =>
          rw [Reading.next]
          split_ifs
          · exact noLiteral
          · trivial
          · exact noLiteral
      | quotePair quote => exact noLiteral
      | lineOpening => trivial
      | line =>
          rw [Reading.next]
          split_ifs <;> trivial
      | blockOpening => trivial
      | block =>
          rw [Reading.next]
          split_ifs <;> trivial
      | blockClosing => trivial

/-- A quoted name or a comment in blocks goes on in such a text. -/
theorem readingAfter_open {reading : Reading}
    (shut : reading = .quoted '"' ∨ reading = .block) {text : List Char}
    (isOpen : IsOpenText text) (rest : List Char) :
    readingAfter reading (text ++ rest) = readingAfter reading rest := by
  induction text with
  | nil => rfl
  | cons ch text ih =>
      rcases isOpen with ⟨noName, noStar, noSlash⟩
      rw [List.mem_cons, not_or] at noName noStar noSlash
      have stays : reading.next true ch (text ++ rest) = reading := by
        rcases shut with rfl | rfl
        · rw [Reading.next, if_neg (Ne.symm noName.1)]
        · rw [Reading.next, if_neg fun both => noStar.1 both.1.symm]
      rw [List.cons_append, readingAfter, stays]
      exact ih ⟨noName.2, noStar.2, noSlash.2⟩

/-- A quote that ends with nothing open is the end of a literal. -/
theorem quoted_of_closed {text : List Char} (some : text ≠ [])
    (seam : Seam text ['\''])
    (closed : readingAfter .plain (text ++ ['\'']) = .plain) :
    ¬ NoLiteral (readingAfter .plain text) := by
  have quotes : QuotesOnly .plain := trivial
  have settled : Settled (readingAfter .plain text) := settled_readingAfter some
  rw [readingAfter_seam quotes seam, readingAfter] at closed
  cases last : readingAfter .plain text with
  | quoted quote =>
      rw [last] at closed
      intro noLiteral
      have other : quote ≠ '\'' := noLiteral
      rw [Reading.next, if_neg (Ne.symm other)] at closed
      cases closed
  | plain | line | block =>
      rw [last] at closed
      cases closed
  | quotePair | lineOpening | blockOpening | blockClosing =>
      rw [last] at settled
      exact settled.elim

/-- The splitter has nothing open behind the lines in front of a literal. -/
theorem settles_lines {lines fixed value : List Char}
    (noQuote : '\'' ∉ lines) (isOpen : IsOpenText fixed)
    (noQuoteValue : '\'' ∉ value) (some : value ≠ [])
    (one : OneStatement .plain
      (lines ++ ['\n'] ++ (fixed ++ '\'' :: (value ++ ['\'']))))
    (closed : readingAfter .plain
      (lines ++ ['\n'] ++ (fixed ++ '\'' :: (value ++ ['\'']))) = .plain) :
    Settles (lines ++ ['\n']) := by
  have quotes : QuotesOnly .plain := trivial
  rw [oneStatement_seam quotes (seam_newline lines _)] at one
  refine ⟨one.1, ?_⟩
  have linesOnly : '\'' ∉ lines ++ ['\n'] := by simpa using noQuote
  have unquoted : NoLiteral (readingAfter .plain (lines ++ ['\n'])) :=
    @NoLiteral.after .plain trivial _ linesOnly
  have seam : Seam lines ['\n'] :=
    seam_of_head (· == '\n') (by decide) (by rintro _ ⟨⟩; rfl)
  -- What is shut behind the lines is shut at the end of the value.
  have notShut : ¬ (readingAfter .plain (lines ++ ['\n']) = .quoted '"' ∨
      readingAfter .plain (lines ++ ['\n']) = .block) := by
    intro shut
    have swallowed : IsOpenText (fixed ++ ['\'']) := by
      rcases isOpen with ⟨noName, noStar, noSlash⟩
      simp [IsOpenText, noName, noStar, noSlash]
    have through := readingAfter_open shut swallowed value
    have after := readingAfter_seam quotes
      (seam_newline lines (fixed ++ ['\''] ++ value))
    rw [through] at after
    have shape :
        lines ++ ['\n'] ++ (fixed ++ '\'' :: (value ++ ['\''])) =
          (lines ++ ['\n'] ++ (fixed ++ ['\''] ++ value)) ++ ['\''] := by
      simp
    have seamEnd : Seam (lines ++ ['\n'] ++ (fixed ++ ['\''] ++ value)) ['\''] := by
      rintro first isLast second ⟨⟩
      rw [← List.append_assoc, List.getLast?_append_of_ne_nil _ some] at isLast
      have member := List.mem_of_getLast? isLast
      rintro (⟨rfl, -⟩ | ⟨-, isStar⟩ | ⟨-, isSlash⟩)
      · exact noQuoteValue member
      · exact absurd isStar (by decide)
      · exact absurd isSlash (by decide)
    rw [shape] at closed
    refine quoted_of_closed (by simp) seamEnd closed ?_
    rw [after]
    exact unquoted.after noQuoteValue
  rw [readingAfter_seam quotes seam] at notShut unquoted ⊢
  have sql := quotesOnly_readingAfter lines quotes
  have settled : lines = [] ∨ Settled (readingAfter .plain lines) := by
    by_cases empty : lines = []
    · exact Or.inl empty
    · exact Or.inr (settled_readingAfter empty)
  rcases settled with rfl | settled
  · rfl
  · cases last : readingAfter .plain lines with
    | plain => rfl
    | quoted quote =>
        rw [last] at notShut unquoted sql
        rcases sql with rfl | rfl
        · exact absurd rfl unquoted
        · exact absurd (Or.inl rfl) notShut
    | line => rfl
    | block =>
        rw [last] at notShut
        exact absurd (Or.inr rfl) notShut
    | quotePair | lineOpening | blockOpening | blockClosing =>
        rw [last] at settled
        exact settled.elim

/-! ### A comment with the argument -/

section

variable {front label fixed : String} {value : List Char}

/-- A statement that names its argument in a comment in front of it. -/
def remarking (front label fixed : String) (value : List Char) : Statement where
  front := front
  places := [(.remark label value, fixed), (.literal value, "")]

theorem text_remarking :
    (remarking front label fixed value).text =
      front.toList ++ (label.toList ++ value) ++ ['\n'] ++
        (fixed.toList ++ '\'' :: (value ++ ['\''])) := by
  simp [remarking, Statement.text, placesText, Place.text]

theorem read_remarking (skipped : Skipped front.toList) :
    (remarking front label fixed value).read =
      lexemes fixed.toList ++ [.text value] := by
  have nothing : lexemes front.toList = [] := by
    rw [lexemes, lexFrom_eq_emitted, skipped.nothing, skipped.plain]
    rfl
  have empty : lexemes "".toList = [] := rfl
  rw [remarking, Statement.read, nothing, placesRead, placesRead, placesRead,
    empty]
  rfl

/-- When the script is read as it should be, the comment is skipped. -/
theorem skipped_of_injectionFree {statements others : List Statement}
    {second : Statement} (sound : ∀ statement ∈ statements, statement.Sound)
    (free : InjectionFree (endedScript (statements.map Statement.text))
      statements)
    (unremarked : (statements.map Statement.remarked).sum = 0)
    (isScript : statements =
      remarking front label fixed value :: second :: others)
    (starts : front.toList.head? = some '-') (skipped : Skipped front.toList)
    (noQuoteFront : '\'' ∉ front.toList) (noQuote : '\'' ∉ value)
    (filled : value ≠ [])
    (noQuoteFixed : '\'' ∉ fixed.toList) (isOpen : IsOpenText fixed.toList)
    (noEnd : ';' ∉ second.front.toList)
    (literal : ∃ behind, second.text = second.front.toList ++ '\'' :: behind) :
    Skipped (label.toList ++ (value ++ ['\n'])) := by
  rcases literal with ⟨behind, shapeSecond⟩
  have counts := count_endedScript statements
  have balance := balance_sum sound
  rw [unremarked] at balance
  rw [isScript] at unremarked sound
  have noQuoteLines : '\'' ∉ front.toList ++ (label.toList ++ value) := by
    have first : (label.toList ++ value).count '\'' = 0 := by
      rw [List.map_cons, List.sum_cons] at unremarked
      have none := Nat.eq_zero_of_add_eq_zero_right unremarked
      simpa [remarking, Statement.remarked, Place.remarked] using none
    rw [List.count_eq_zero] at first
    rw [List.mem_append, not_or]
    exact ⟨noQuoteFront, first⟩
  have isInner : IsInner fixed.toList := (sound _ List.mem_cons_self).shaped.2.1
  have reads := @read_remarking front label fixed value skipped
  have text := @text_remarking front label fixed value
  -- The first statement ends right behind its literal.
  rcases endedScript_cons second.text (others.map Statement.text) with
    ⟨rest, shapeRest⟩
  have shape : endedScript (statements.map Statement.text) =
      front.toList ++ (label.toList ++ value) ++ ['\n'] ++
          (fixed.toList ++ '\'' :: value) ++ ['\''] ++
        ';' :: ('\n' :: '\n' :: second.front.toList ++ '\'' :: (behind ++ rest)) := by
    rw [isScript, List.map_cons, List.map_cons, endedScript_cons_cons, text,
      shapeRest, shapeSecond]
    simp
  have two : needed (remarking front label fixed value).read = 2 := by
    have none := needed_lexemes_le fixed.toList
    rw [List.count_eq_zero.mpr noQuoteFixed, Nat.le_zero] at none
    rw [reads, needed_append, none, needed_cons, Lexeme.quotes,
      List.count_eq_zero.mpr noQuote]
    rfl
  have enough :
      (endedScript (statements.map Statement.text)).count '\'' ≤
      needed (remarking front label fixed value).read +
        (((second :: others).map Statement.read).map needed).sum := by
    have parts :
        (statements.map fun statement => needed statement.read).sum =
          needed (remarking front label fixed value).read +
            ((second :: others).map fun statement => needed statement.read).sum := by
      rw [isScript, List.map_cons, List.sum_cons]
    rw [parts] at balance
    rw [counts, List.map_map]
    change _ ≤ _ + ((second :: others).map fun statement => needed statement.read).sum
    omega
  have head :
      (endedScript (statements.map Statement.text)).head? = some '-' := by
    rw [shape]
    cases begins : front.toList with
    | nil =>
        rw [begins] at starts
        cases starts
    | cons first rest =>
        rw [begins] at starts
        exact starts
  have split : statementReads (endedScript (statements.map Statement.text)) =
      (remarking front label fixed value).read ::
        (second :: others).map Statement.read := by
    rw [show _ = _ from free, isScript, List.map_cons]
  rcases first_statement (by simp) split head enough with
    ⟨cut, back, same, one, closed, lexed, -, counted⟩
  have noQuotes : (front.toList ++ (label.toList ++ value)).count '\'' = 0 :=
    List.count_eq_zero.mpr noQuoteLines
  have cutAt : cut = front.toList ++ (label.toList ++ value) ++ ['\n'] ++
      (fixed.toList ++ '\'' :: value) ++ ['\''] := by
    apply front_of_count (same.symm.trans shape)
    · rw [counted, two, List.count_append, List.count_append, List.count_append,
        noQuotes, List.count_append, List.count_eq_zero.mpr noQuoteFixed,
        List.count_cons_self, List.count_eq_zero.mpr noQuote]
      rfl
    · simpa using noEnd
  have whole : cut = front.toList ++ (label.toList ++ value) ++ ['\n'] ++
      (fixed.toList ++ '\'' :: (value ++ ['\''])) := by
    rw [cutAt, List.append_assoc (front.toList ++ (label.toList ++ value) ++ ['\n']),
      List.append_assoc fixed.toList]
    rfl
  have trimmed : trim cut = cut := by
    apply trim_of_trimmed
    constructor
    · cases begins : front.toList with
      | nil =>
          rw [begins] at starts
          cases starts
      | cons first rest =>
          rw [begins, List.head?_cons, Option.some.injEq] at starts
          rw [whole, begins, starts]
          exact stops_cons.mpr (by decide)
    · rw [cutAt, List.reverse_concat]
      exact stops_cons.mpr (by decide)
  rw [trimmed, whole] at lexed
  rw [whole] at one closed
  have single : (value ++ ['\'']).count '\'' ≤ 1 := by
    rw [List.count_append, List.count_eq_zero.mpr noQuote]
    decide
  have read :=
    skipped_lines noQuoteLines isInner noQuoteFixed isOpen single lexed
      (by rw [reads, List.length_append, List.length_singleton]) (by rw [two])
  have settles := settles_lines noQuoteLines isOpen noQuote filled one closed
  have lines : Skipped
      (front.toList ++ (label.toList ++ value) ++ ['\n']) :=
    ⟨read.1, read.2, settles⟩
  rw [List.append_assoc, List.append_assoc] at lines
  have isFront : IsFront front.toList := (sound _ List.mem_cons_self).front
  exact (skipped_append_iff skipped (isFront.1.seam _)).mp lines

end

end OpenSnow.Core.Templates
