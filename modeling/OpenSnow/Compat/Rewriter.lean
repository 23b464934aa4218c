import OpenSnow.Rust.Alphanumeric
import OpenSnow.Rust.Search

/-!
# The SQL rewriter

`rewrite_snowflake_sql` runs three passes over a statement before it is parsed:
one for `CREATE OR REPLACE TABLE`, one for `QUALIFY` and one for the notation
`column:path`.  Offsets are byte offsets, and every slice can panic.
-/

namespace OpenSnow.Compat.Rewriter

open Foundation
open Rust.Text

/-! ## CREATE OR REPLACE TABLE -/

def replaceWords : List Char := "CREATE OR REPLACE TABLE".toList

def dropTable : List Char := "DROP TABLE IF EXISTS ".toList

def createTable : List Char := "; CREATE TABLE ".toList

/-- The two statements that replace the one. -/
def dropAndCreate (tableName trimmed : List Char) : List Char :=
  dropTable ++ tableName ++ createTable ++ trimmed

def asWord : List Char := " AS ".toList

def rewriteCreateOrReplace (sql : List Char) : Panics (List Char) :=
  let upper := upperChars sql
  if replaceWords <+: upper then do
    let rest ← sliceFrom sql (utf8Len replaceWords)
    let trimmed := trim rest
    let tableName := (fields isWhitespace trimmed).headD []
    if asWord <:+: upper then some (dropAndCreate tableName trimmed)
    else some sql
  else some sql

/-! ## QUALIFY -/

/-- What `find_keyword` keeps while it searches. -/
structure Nesting where
  depth : Int
  inString : Bool
deriving DecidableEq, Repr

def Nesting.start : Nesting := ⟨0, false⟩

def Nesting.next (nesting : Nesting) (ch : Char) : Nesting :=
  if ch = '\'' then { nesting with inString := !nesting.inString }
  else if nesting.inString then nesting
  else if ch = '(' then { nesting with depth := nesting.depth + 1 }
  else if ch = ')' then { nesting with depth := nesting.depth - 1 }
  else nesting

/-- Whether a keyword is looked for. -/
def Nesting.Searched (nesting : Nesting) : Prop :=
  nesting.inString = false ∧ nesting.depth ≤ 0

instance (nesting : Nesting) : Decidable nesting.Searched :=
  inferInstanceAs (Decidable (_ ∧ _))

/-- No letter or digit of ASCII. -/
def IsEdge (neighbour : Option Char) : Prop :=
  ∀ ch ∈ neighbour, ch.isAlphanum = false

instance (neighbour : Option Char) : Decidable (IsEdge neighbour) :=
  match neighbour with
  | none => isTrue (by rintro ch ⟨⟩)
  | some ch => decidable_of_iff (ch.isAlphanum = false) (by simp [IsEdge])

/-- A keyword at the start of a text, with an edge on both sides. -/
def StandsAt (keyword : List Char) (before : Option Char)
    (text : List Char) : Prop :=
  keyword <+: text ∧ IsEdge before ∧ IsEdge (text.drop keyword.length).head?

instance (keyword : List Char) (before : Option Char) (text : List Char) :
    Decidable (StandsAt keyword before text) :=
  inferInstanceAs (Decidable (_ ∧ _ ∧ _))

/--
The loop of `find_keyword`.  It goes through the bytes; a byte of ASCII is a
character of its own and none of the others is asked for.
-/
def keywordLoop (keyword : List Char) (nesting : Nesting)
    (before : Option Char) (i : Nat) : List Char → Option Nat
  | [] => none
  | ch :: rest =>
      if (nesting.next ch).Searched ∧ StandsAt keyword before (ch :: rest) then
        some i
      else
        keywordLoop keyword (nesting.next ch) (some ch) (i + ch.utf8Size) rest

def findKeyword (upperSql keyword : List Char) : Option Nat :=
  keywordLoop keyword .start none 0 upperSql

def qualifyWord : List Char := "QUALIFY".toList

/-- The query before `QUALIFY` and the condition behind it. -/
def qualifyParts (sql : List Char) :
    Panics (Option (List Char × List Char)) :=
  match findKeyword (upperChars sql) qualifyWord with
  | none => some none
  | some pos => do
      let innerQuery ← sliceTo sql pos
      let qualifyCondition ← sliceFrom sql (pos + 7)
      some (some (trim innerQuery, trim qualifyCondition))

def subqueryOpening : List Char := "SELECT * FROM (".toList

def subqueryClosing : List Char := ") AS __q WHERE ".toList

/-- The query as a subquery with its condition. -/
def filtered (innerQuery qualifyCondition : List Char) : List Char :=
  subqueryOpening ++ innerQuery ++ subqueryClosing ++ qualifyCondition

def rewriteQualify (sql : List Char) : Panics (List Char) :=
  (qualifyParts sql).map fun
    | none => sql
    | some (innerQuery, qualifyCondition) =>
        filtered innerQuery qualifyCondition

/-! ## Colon paths -/

def isNameChar (ch : Char) : Bool := isAlphanumeric ch || ch == '_'

def isPathChar (ch : Char) : Bool := isNameChar ch || ch == '.'

/-- `str::rfind` for a kind of characters. -/
def rfind (kind : Char → Bool) (text : List Char) : Option Nat :=
  match text.reverse.dropWhile (!kind ·) with
  | [] => none
  | _ :: before => some (utf8Len before)

/-- Where the last run of path characters starts. -/
def columnStart (result : List Char) : Nat :=
  ((rfind (!isPathChar ·) result).map (· + 1)).getD 0

def pathOpening : List Char := "get_path(".toList

def pathQuote : List Char := ", '".toList

/-- The call that an access becomes. -/
def getPath (column path : List Char) : List Char :=
  pathOpening ++ column ++ pathQuote ++ path ++ ['\'', ')']

/-- The quote that is open after a character. -/
def quoteAfter (quote : Option Char) (ch : Char) : Option Char :=
  match quote with
  | none => if ch = '\'' ∨ ch = '"' then some ch else none
  | some stringChar => if ch = stringChar then none else some stringChar

/--
The loop of `rewrite_colon_path`.  The loop over a path inside it is the rounds
that are `inPath`.
-/
def colonLoop (inPath : Bool) (quote : Option Char) (result : List Char) :
    List Char → Panics (List Char)
  | [] => some result
  | ch :: rest =>
      if inPath ∧ isPathChar ch then colonLoop true quote result rest
      else if quote = none ∧ ch = ':' ∧ result.getLast?.any isNameChar then do
        let colStart := columnStart result
        let column ← sliceFrom result colStart
        let kept ← sliceTo result colStart
        let path := rest.takeWhile isPathChar
        colonLoop true quote (kept ++ getPath column path) rest
      else colonLoop false (quoteAfter quote ch) (result ++ [ch]) rest

def rewriteColonPath (sql : List Char) : Panics (List Char) :=
  colonLoop false none [] sql

def rewriteSnowflakeSql (sql : List Char) : Panics (List Char) := do
  let result ← rewriteCreateOrReplace sql
  let result ← rewriteQualify result
  rewriteColonPath result

/-!
## Pieces

A text is words of path characters with a mark between any two of them.  A
word, a colon and the word behind it can be an access.
-/

inductive Piece where
  | word (text : List Char)
  | mark (ch : Char)
  | access (column path : List Char)
deriving DecidableEq, Repr

def Piece.original : Piece → List Char
  | .word text => text
  | .mark ch => [ch]
  | .access column path => column ++ ':' :: path

def Piece.rewritten : Piece → List Char
  | .access column path => getPath column path
  | piece => piece.original

def rewritten (pieces : List Piece) : List Char :=
  pieces.flatMap Piece.rewritten

/-- How a reader of SQL comes to the accesses of a text. -/
structure Reader (State : Type) where
  next : State → Char → List Char → State
  /-- Nothing is open that hides an access. -/
  live : State → Bool
  /-- Words that are an access with a colon between them. -/
  isAccess : (column path : List Char) → Bool

/-- The pieces behind the characters `run` of the current word. -/
def Reader.pieces {State : Type} (reader : Reader State) (inPath : Bool)
    (state : State) (run : List Char) : List Char → List Piece
  | [] => [.word run]
  | ch :: rest =>
      let onwards := reader.next state ch rest
      let path := rest.takeWhile isPathChar
      if isPathChar ch then
        if inPath then reader.pieces true onwards run rest
        else reader.pieces false onwards (run ++ [ch]) rest
      else if ch = ':' ∧ reader.live state ∧ reader.isAccess run path then
        .access run path :: reader.pieces true onwards [] rest
      else .word run :: .mark ch :: reader.pieces false onwards [] rest

section

variable {State : Type} {reader : Reader State} {inPath : Bool}
variable {state : State}
variable {run rest : List Char} {ch : Char}

@[simp]
theorem Reader.pieces_nil : reader.pieces inPath state run [] = [.word run] := by
  rw [pieces]

theorem Reader.pieces_path (isPath : isPathChar ch) :
    reader.pieces inPath state run (ch :: rest) =
      reader.pieces inPath (reader.next state ch rest)
        (if inPath then run else run ++ [ch]) rest := by
  cases inPath <;> simp [pieces, isPath]

theorem Reader.pieces_access (live : reader.live state)
    (isAccess : reader.isAccess run (rest.takeWhile isPathChar)) :
    reader.pieces inPath state run (':' :: rest) =
      .access run (rest.takeWhile isPathChar) ::
        reader.pieces true (reader.next state ':' rest) [] rest := by
  have notPath : isPathChar ':' = false := by decide
  simp [pieces, notPath, live, isAccess]

theorem Reader.pieces_mark (isMark : isPathChar ch = false)
    (notAccess : ¬ (ch = ':' ∧ reader.live state ∧
      reader.isAccess run (rest.takeWhile isPathChar))) :
    reader.pieces inPath state run (ch :: rest) =
      .word run :: .mark ch ::
        reader.pieces false (reader.next state ch rest) [] rest := by
  rw [pieces, isMark, if_neg Bool.false_ne_true, if_neg notAccess]

end

/-- The reader that `rewrite_colon_path` is: it knows quotes alone. -/
def scanner : Reader (Option Char) where
  next := fun quote ch _ => quoteAfter quote ch
  live := Option.isNone
  isAccess := fun column _ => column.getLast?.any isNameChar

def scanned (sql : List Char) : List Piece := scanner.pieces false none [] sql

/-- What may stand before a piece: an access follows one byte if anything. -/
def MayFollow : Piece → Piece → Prop
  | .mark ch, .access _ _ => ch.utf8Size = 1
  | _, _ => True

instance : DecidableRel MayFollow := fun left right => by
  cases left <;> cases right <;> unfold MayFollow <;> infer_instance

/-- No access stands directly behind a character of several bytes. -/
def Narrow (pieces : List Piece) : Prop := pieces.IsChain MayFollow

instance (pieces : List Piece) : Decidable (Narrow pieces) :=
  inferInstanceAs (Decidable (pieces.IsChain MayFollow))

/-! ## The column before a colon -/

theorem isPathChar_of_name {ch : Char} (named : isNameChar ch) :
    isPathChar ch := by
  rw [isPathChar, named, Bool.true_or]

theorem quoteAfter_none_of_path {ch : Char} (isPath : isPathChar ch) :
    quoteAfter none ch = none := by
  rw [quoteAfter, if_neg]
  rintro (rfl | rfl)
  · exact absurd isPath (by decide)
  · exact absurd isPath (by decide)

section

variable {kind : Char → Bool} {run : List Char}

theorem rfind_of_none (others : ∀ ch ∈ run, kind ch = false) :
    rfind kind run = none := by
  have dropped : run.reverse.dropWhile (!kind ·) = [] := by
    rw [List.dropWhile_eq_nil_iff]
    intro ch member
    rw [others ch (List.mem_reverse.mp member), Bool.not_false]
  rw [rfind, dropped]

theorem rfind_append {ch : Char} (isKind : kind ch)
    (others : ∀ ch ∈ run, kind ch = false) (front : List Char) :
    rfind kind (front ++ ch :: run) = some (utf8Len front) := by
  have dropped :
      (front ++ ch :: run).reverse.dropWhile (!kind ·) =
        ch :: front.reverse := by
    rw [List.reverse_append, List.reverse_cons, List.append_assoc]
    apply dropWhile_span
    · intro other member
      rw [others other (List.mem_reverse.mp member), Bool.not_false]
    · rw [List.singleton_append, stops_cons, isKind, Bool.not_true]
  have length : utf8Len front.reverse = utf8Len front := by
    rw [utf8Len, utf8Len, List.map_reverse, List.sum_reverse]
  rw [rfind, dropped]
  exact congrArg some length

end

/-- A byte behind the start of a character is its end only in ASCII. -/
theorem sliceFrom_inside {ch : Char} (wide : ch.utf8Size ≠ 1)
    (front back : List Char) :
    sliceFrom (front ++ ch :: back) (utf8Len front + 1) = none := by
  rw [Option.eq_none_iff_forall_not_mem]
  intro after sliced
  rcases sliceFrom_eq_some_iff.mp sliced with ⟨before, shape, length⟩
  rcases List.append_eq_append_iff.mp shape with
    ⟨between, rfl, inside⟩ | ⟨between, rfl, -⟩
  · rw [utf8Len_append] at length
    cases between with
    | nil =>
        rw [utf8Len_nil] at length
        omega
    | cons first between =>
        rw [List.cons_append, List.cons.injEq] at inside
        rw [utf8Len_cons, ← inside.1] at length
        have positive := ch.utf8Size_pos
        omega
  · rw [utf8Len_append] at length
    omega

/-! ## What the scan computes -/

/-- The character behind which a text goes on. -/
def lastMark (base : List Char) : List Piece := base.getLast?.toList.map .mark

@[simp]
theorem lastMark_nil : lastMark [] = [] := rfl

@[simp]
theorem lastMark_concat (front : List Char) (ch : Char) :
    lastMark (front ++ [ch]) = [.mark ch] := by
  rw [lastMark, List.getLast?_concat]
  rfl

/-- A piece that everything may follow can be left out in front. -/
theorem narrow_cons {piece : Piece} {pieces : List Piece}
    (follows : ∀ next, MayFollow piece next) :
    Narrow (piece :: pieces) ↔ Narrow pieces := by
  cases pieces with
  | nil => simp [Narrow]
  | cons next pieces =>
      rw [Narrow, List.isChain_cons_cons, and_iff_right (follows next), Narrow]

theorem narrow_word_mark {text : List Char} {ch : Char} {base : List Char}
    {pieces : List Piece} :
    Narrow (lastMark base ++ .word text :: .mark ch :: pieces) ↔
      Narrow (.mark ch :: pieces) := by
  rcases List.eq_nil_or_concat base with rfl | ⟨front, last, rfl⟩
  · simp [Narrow, MayFollow]
  · simp [Narrow, MayFollow]

theorem narrow_access {column path base : List Char} {pieces : List Piece} :
    Narrow (lastMark base ++ .access column path :: pieces) ↔
      (∀ ch ∈ base.getLast?, ch.utf8Size = 1) ∧ Narrow pieces := by
  have access : Narrow (.access column path :: pieces) ↔ Narrow pieces :=
    narrow_cons fun _ => trivial
  rcases List.eq_nil_or_concat base with rfl | ⟨front, last, rfl⟩
  · simp [access]
  · rw [List.concat_eq_append, lastMark_concat, List.getLast?_concat,
      List.singleton_append, Narrow, List.isChain_cons_cons, ← Narrow, access]
    simp [MayFollow]

theorem mayFollow_closing (next : Piece) : MayFollow (.mark ')') next := by
  cases next <;> simp [MayFollow]
  rfl

section

variable {pieces : List Piece}

@[simp]
theorem rewritten_nil : rewritten [] = [] := rfl

@[simp]
theorem rewritten_word (text : List Char) :
    rewritten (.word text :: pieces) = text ++ rewritten pieces := rfl

@[simp]
theorem rewritten_mark (ch : Char) :
    rewritten (.mark ch :: pieces) = ch :: rewritten pieces := rfl

@[simp]
theorem rewritten_access (column path : List Char) :
    rewritten (.access column path :: pieces) =
      getPath column path ++ rewritten pieces := rfl

end

variable {base run : List Char}

/-- The column is the word before the colon, if it follows one byte. -/
theorem columnStart_eq (ends : ∀ ch ∈ base.getLast?, isPathChar ch = false)
    (narrow : ∀ ch ∈ base.getLast?, ch.utf8Size = 1)
    (isRun : ∀ ch ∈ run, isPathChar ch) :
    columnStart (base ++ run) = utf8Len base := by
  have inRun : ∀ ch ∈ run, (!isPathChar ch) = false := by
    intro ch member
    rw [isRun ch member, Bool.not_true]
  rcases List.eq_nil_or_concat base with rfl | ⟨front, last, rfl⟩
  · rw [List.nil_append, columnStart, rfind_of_none inRun]
    rfl
  · rw [List.concat_eq_append] at ends narrow ⊢
    rw [List.getLast?_concat] at ends narrow
    rw [List.append_assoc, List.singleton_append, columnStart,
      rfind_append (by rw [ends last rfl, Bool.not_false]) inRun,
      utf8Len_append, utf8Len_cons, narrow last rfl]
    rfl

theorem slice_columnStart_wide {front : List Char} {last : Char}
    (notPath : isPathChar last = false) (wide : last.utf8Size ≠ 1)
    (isRun : ∀ ch ∈ run, isPathChar ch) :
    sliceFrom (front ++ last :: run) (columnStart (front ++ last :: run)) =
      none := by
  have inRun : ∀ ch ∈ run, (!isPathChar ch) = false := by
    intro ch member
    rw [isRun ch member, Bool.not_true]
  rw [columnStart,
    rfind_append (by rw [notPath, Bool.not_false]) inRun]
  exact sliceFrom_inside wide front run

/-- The test of the character before a colon is one of the word before it. -/
theorem getLast?_any_isNameChar
    (ends : ∀ ch ∈ base.getLast?, isPathChar ch = false) :
    (base ++ run).getLast?.any isNameChar = run.getLast?.any isNameChar := by
  rcases List.eq_nil_or_concat run with rfl | ⟨front, last, rfl⟩
  · rw [List.append_nil]
    cases last : base.getLast? with
    | none => rfl
    | some ch =>
        have notPath := ends ch last
        rw [isPathChar, Bool.or_eq_false_iff] at notPath
        exact notPath.1
  · rw [List.concat_eq_append, ← List.append_assoc, List.getLast?_concat,
      List.getLast?_concat]

theorem append_getPath (base column path : List Char) :
    ∃ front, base ++ getPath column path = front ++ [')'] :=
  ⟨base ++ (pathOpening ++ column ++ pathQuote ++ path ++ ['\'']), by
    simp only [getPath, List.append_assoc, List.cons_append, List.nil_append]⟩

section

variable {inPath : Bool} {quote : Option Char} {rest : List Char} {ch : Char}

theorem colonLoop_path (isPath : isPathChar ch) :
    colonLoop true none run (ch :: rest) = colonLoop true none run rest := by
  rw [colonLoop, if_pos ⟨rfl, isPath⟩]

theorem colonLoop_mark (isMark : inPath = false ∨ isPathChar ch = false)
    (notAccess :
      ¬ (quote = none ∧ ch = ':' ∧ run.getLast?.any isNameChar)) :
    colonLoop inPath quote run (ch :: rest) =
      colonLoop false (quoteAfter quote ch) (run ++ [ch]) rest := by
  rw [colonLoop, if_neg, if_neg notAccess]
  rintro ⟨rfl, isPath⟩
  simp [isPath] at isMark

theorem colonLoop_access
    (ends : ∀ ch ∈ base.getLast?, isPathChar ch = false)
    (isRun : ∀ ch ∈ run, isPathChar ch)
    (narrow : ∀ ch ∈ base.getLast?, ch.utf8Size = 1)
    (named : run.getLast?.any isNameChar) :
    colonLoop inPath none (base ++ run) (':' :: rest) =
      colonLoop true none
        (base ++ getPath run (rest.takeWhile isPathChar)) rest := by
  have notPath : isPathChar ':' = false := by decide
  rw [colonLoop, if_neg (by simp [notPath]), getLast?_any_isNameChar ends,
    if_pos ⟨rfl, rfl, named⟩, columnStart_eq ends narrow isRun]
  dsimp only
  rw [sliceFrom_append, sliceTo_append]
  rfl

theorem colonLoop_wide {front : List Char} {last : Char}
    (notPath : isPathChar last = false) (wide : last.utf8Size ≠ 1)
    (isRun : ∀ ch ∈ run, isPathChar ch)
    (named : run.getLast?.any isNameChar) :
    colonLoop inPath none (front ++ last :: run) (':' :: rest) = none := by
  have colon : isPathChar ':' = false := by decide
  have ends : ∀ ch ∈ (front ++ [last]).getLast?, isPathChar ch = false := by
    simpa using notPath
  have same := @getLast?_any_isNameChar _ run ends
  rw [List.append_assoc, List.singleton_append] at same
  rw [colonLoop, if_neg (by simp [colon]), same, if_pos ⟨rfl, rfl, named⟩]
  dsimp only
  rw [slice_columnStart_wide notPath wide isRun]
  rfl

end

/--
The loop computes the rewritten pieces of what it still has to read, behind the
`base` that is left as it is and the word that it is reading.
-/
theorem colonLoop_eq {inPath : Bool} {quote : Option Char}
    (plain : inPath → quote = none)
    (ends : ∀ ch ∈ base.getLast?, isPathChar ch = false)
    (isRun : ∀ ch ∈ run, isPathChar ch) (text : List Char) :
    colonLoop inPath quote (base ++ run) text =
      if Narrow (lastMark base ++ scanner.pieces inPath quote run text) then
        some (base ++ rewritten (scanner.pieces inPath quote run text))
      else none := by
  induction text generalizing inPath quote base run with
  | nil =>
      rw [colonLoop, Reader.pieces_nil, if_pos]
      · simp [rewritten, Piece.rewritten, Piece.original]
      · rcases List.eq_nil_or_concat base with rfl | ⟨front, last, rfl⟩
        · simp [Narrow]
        · simp [Narrow, MayFollow]
  | cons ch rest ih =>
      have closing : isPathChar ')' = false := by decide
      by_cases isPath : isPathChar ch
      · rw [Reader.pieces_path isPath]
        have notColon : ch ≠ ':' := by
          rintro rfl
          exact absurd isPath (by decide)
        cases inPath with
        | true =>
            obtain rfl := plain rfl
            have onwards : scanner.next none ch rest = none :=
              quoteAfter_none_of_path isPath
            rw [colonLoop_path isPath, ih (fun _ => rfl) ends isRun, onwards,
              if_pos rfl]
        | false =>
            rw [colonLoop_mark (Or.inl rfl) (by simp [notColon]),
              List.append_assoc, ih (by simp) ends]
            · rfl
            · simpa [or_imp, forall_and] using ⟨isRun, isPath⟩
      · rw [Bool.not_eq_true] at isPath
        by_cases isAccess : quote = none ∧ ch = ':' ∧
            run.getLast?.any isNameChar
        · rcases isAccess with ⟨rfl, rfl, named⟩
          have onwards : scanner.next none ':' rest = none := rfl
          rw [Reader.pieces_access rfl named, onwards]
          by_cases narrow : ∀ ch ∈ base.getLast?, ch.utf8Size = 1
          · rcases append_getPath base run (rest.takeWhile isPathChar) with
              ⟨front, shape⟩
            have behind := @ih (front ++ [')']) [] true none
              (fun _ => rfl) (by simp [closing]) (by simp)
            rw [List.append_nil, lastMark_concat, List.singleton_append] at behind
            rw [colonLoop_access ends isRun narrow named, shape, behind, ← shape]
            simp only [narrow_access, narrow_cons mayFollow_closing,
              and_iff_right narrow, rewritten_access, List.append_assoc]
          · rw [if_neg fun both => narrow (narrow_access.mp both).1]
            rcases List.eq_nil_or_concat base with rfl | ⟨front, last, rfl⟩
            · simp at narrow
            · rw [List.concat_eq_append] at ends narrow ⊢
              rw [List.getLast?_concat] at ends narrow
              rw [List.append_assoc, List.singleton_append,
                colonLoop_wide (ends last rfl) (by simpa using narrow) isRun
                  named]
        · have notTaken : ¬ (quote = none ∧ ch = ':' ∧
              (base ++ run).getLast?.any isNameChar) := by
            rwa [getLast?_any_isNameChar ends]
          have behind := @ih (base ++ run ++ [ch]) [] false
            (quoteAfter quote ch) (by simp) (by simpa using isPath) (by simp)
          rw [List.append_nil, lastMark_concat, List.singleton_append] at behind
          rw [colonLoop_mark (Or.inr isPath) notTaken, behind,
            Reader.pieces_mark isPath]
          · simp only [narrow_word_mark, rewritten_word, rewritten_mark,
              List.append_assoc]
            rfl
          · rintro ⟨colon, live, named⟩
            exact isAccess ⟨Option.isNone_iff_eq_none.mp live, colon, named⟩

/-- The pass rewrites the accesses it scans, unless a slice panics. -/
theorem rewriteColonPath_eq (sql : List Char) :
    rewriteColonPath sql =
      if Narrow (scanned sql) then some (rewritten (scanned sql)) else none := by
  have whole := @colonLoop_eq [] [] false none (by simp) (by simp) (by simp) sql
  rwa [lastMark_nil, List.nil_append, List.nil_append] at whole

/-! ## What the other passes compute -/

/-- The text behind `CREATE OR REPLACE TABLE`. -/
def definition (sql : List Char) : List Char :=
  trim (sql.drop replaceWords.length)

/-- The text that the first pass leaves. -/
def replaced (sql : List Char) : List Char :=
  if replaceWords <+: upperChars sql ∧ asWord <:+: upperChars sql then
    dropAndCreate ((fields isWhitespace (definition sql)).headD [])
      (definition sql)
  else sql

theorem asciiSpelled_replaceWords : AsciiSpelled replaceWords := by
  decide

/-- What begins with the four words goes on behind their characters. -/
theorem sliceFrom_replaceWords {sql : List Char}
    (begins : replaceWords <+: upperChars sql) :
    sliceFrom sql (utf8Len replaceWords) =
      some (sql.drop replaceWords.length) := by
  rcases exists_spelling asciiSpelled_replaceWords begins with
    ⟨front, rest, rfl, upper, ascii⟩
  have count : front.length = replaceWords.length := by
    rw [← upper, List.length_map]
  have bytes : utf8Len replaceWords = utf8Len front := by
    rw [utf8Len_of_ascii ascii, count]
    rfl
  rw [bytes, sliceFrom_append, ← count, List.drop_left]

theorem rewriteCreateOrReplace_eq (sql : List Char) :
    rewriteCreateOrReplace sql = some (replaced sql) := by
  rw [rewriteCreateOrReplace, replaced]
  by_cases begins : replaceWords <+: upperChars sql
  · rw [if_pos begins, sliceFrom_replaceWords begins]
    by_cases selects : asWord <:+: upperChars sql
    · rw [if_pos ⟨begins, selects⟩]
      exact if_pos selects
    · rw [if_neg fun both => selects both.2]
      exact if_neg selects
  · rw [if_neg begins, if_neg fun both => begins both.1]

theorem rewriteSnowflakeSql_eq (sql : List Char) :
    rewriteSnowflakeSql sql =
      (rewriteQualify (replaced sql)).bind rewriteColonPath := by
  rw [rewriteSnowflakeSql, rewriteCreateOrReplace_eq]
  rfl

theorem rewriteQualify_of_none {sql : List Char}
    (silent : findKeyword (upperChars sql) qualifyWord = none) :
    rewriteQualify sql = some sql := by
  rw [rewriteQualify, qualifyParts, silent]
  rfl

theorem qualifyParts_ne_none {sql : List Char} {pos : Nat}
    (found : findKeyword (upperChars sql) qualifyWord = some pos) :
    qualifyParts sql ≠ some none := by
  rw [qualifyParts, found]
  intro none
  rcases Option.bind_eq_some_iff.mp none with ⟨front, -, none⟩
  rcases Option.bind_eq_some_iff.mp none with ⟨back, -, none⟩
  cases none

theorem qualifyParts_eq_some_iff {sql innerQuery qualifyCondition : List Char}
    {pos : Nat} (found : findKeyword (upperChars sql) qualifyWord = some pos) :
    qualifyParts sql = some (some (innerQuery, qualifyCondition)) ↔
      ∃ front keyword back, sql = front ++ (keyword ++ back) ∧
        utf8Len front = pos ∧ utf8Len keyword = 7 ∧
          innerQuery = trim front ∧ qualifyCondition = trim back := by
  rw [qualifyParts, found]
  constructor
  · intro parts
    rcases Option.bind_eq_some_iff.mp parts with ⟨front, before, cut⟩
    rcases Option.bind_eq_some_iff.mp cut with ⟨back, behind, pair⟩
    rcases sliceTo_eq_some_iff.mp before with ⟨rest, rfl, rfl⟩
    rcases sliceFrom_eq_some_iff.mp behind with ⟨whole, shape, length⟩
    rw [Option.some.injEq, Option.some.injEq, Prod.mk.injEq] at pair
    rcases List.append_eq_append_iff.mp shape with
      ⟨keyword, rfl, rfl⟩ | ⟨more, rfl, -⟩
    · rw [utf8Len_append] at length
      exact
        ⟨front, keyword, back, rfl, rfl, by omega, pair.1.symm, pair.2.symm⟩
    · rw [utf8Len_append] at length
      omega
  · rintro ⟨front, keyword, back, rfl, rfl, length, rfl, rfl⟩
    have behind :
        sliceFrom (front ++ (keyword ++ back)) (utf8Len front + 7) =
          some back := by
      rw [← length, ← utf8Len_append, ← List.append_assoc, sliceFrom_append]
    dsimp only
    rw [sliceTo_append, behind]
    rfl

/-! ## Panics -/

/--
The offsets into the text are those of characters: `QUALIFY` has as many bytes
before it in the upper-case text as a part of the text has, seven bytes behind
it a character starts, and accesses are narrow.
-/
def OnCharacters (text : List Char) : Prop :=
  match findKeyword (upperChars text) qualifyWord with
  | none => Narrow (scanned text)
  | some pos =>
      ∃ front keyword back, text = front ++ (keyword ++ back) ∧
        utf8Len front = pos ∧ utf8Len keyword = 7 ∧
          Narrow (scanned (filtered (trim front) (trim back)))

/-- The rewriter returns exactly if its offsets are those of characters. -/
theorem rewriteSnowflakeSql_isSome_iff (sql : List Char) :
    (rewriteSnowflakeSql sql).isSome ↔ OnCharacters (replaced sql) := by
  have colons (text : List Char) :
      (rewriteColonPath text).isSome ↔ Narrow (scanned text) := by
    rw [rewriteColonPath_eq]
    split <;> simp [*]
  rw [rewriteSnowflakeSql_eq, OnCharacters]
  cases found : findKeyword (upperChars (replaced sql)) qualifyWord with
  | none =>
      rw [rewriteQualify_of_none found, Option.bind_some]
      exact colons (replaced sql)
  | some pos =>
      rw [rewriteQualify]
      constructor
      · intro returns
        rcases Option.isSome_iff_exists.mp returns with ⟨result, computed⟩
        rcases Option.bind_eq_some_iff.mp computed with ⟨text, pass, last⟩
        rcases Option.map_eq_some_iff.mp pass with ⟨parts, cut, rfl⟩
        cases parts with
        | none =>
            exact absurd cut (qualifyParts_ne_none found)
        | some parts =>
            rcases (qualifyParts_eq_some_iff found).mp cut with
              ⟨front, keyword, back, shape, before, length, inner, condition⟩
            refine ⟨front, keyword, back, shape, before, length, ?_⟩
            rw [← inner, ← condition, ← colons, last]
            rfl
      · rintro ⟨front, keyword, back, shape, before, length, narrow⟩
        have cut := (qualifyParts_eq_some_iff found).mpr
          ⟨front, keyword, back, shape, before, length, rfl, rfl⟩
        rw [cut]
        exact (colons _).mpr narrow

/-- A wide comma before a path. -/
theorem rewriteSnowflakeSql_wide :
    ¬ ∀ sql, (rewriteSnowflakeSql sql).isSome := by
  intro total
  have returns := total "SELECT id，payload:user FROM t".toList
  revert returns
  decide +kernel

end OpenSnow.Compat.Rewriter
