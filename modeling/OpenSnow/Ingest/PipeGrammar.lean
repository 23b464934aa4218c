import OpenSnow.Core.LayoutOperands
import OpenSnow.Ingest.Pipes
import OpenSnow.Rust.Search

/-!
# Pipe commands

`CREATE PIPE` is read by searching: the key of a parameter is looked for in an
upper-case copy of the text, and the value is cut out of the text itself at the
offset in the copy.  A key is found where it first occurs, which may be inside
of a value, and the offset fails behind a character whose upper-case form has
another length.
-/

namespace OpenSnow.Ingest

open Core.Commands
open Foundation
open Rust.Text

/-! ## Computations that fail or panic -/

/-- A computation that returns a value, fails with a message or panics. -/
abbrev Attempt (Value : Type) := ExceptT String Panics Value

section

variable {Value Result : Type}

def Returns (attempt : Attempt Value) (value : Value) : Prop :=
  attempt.run = some (.ok value)

def Panicked (attempt : Attempt Value) : Prop := attempt.run = none

/-- `Option::ok_or_else` with a message. -/
def orFail (found : Option Value) (message : String) : Attempt Value :=
  match found with
  | some value => pure value
  | none => throw message

variable {attempt : Attempt Value} {next : Value → Attempt Result}

theorem run_bind :
    (attempt >>= next).run =
      attempt.run.bind fun
        | .ok value => (next value).run
        | .error message => some (.error message) := by
  change Option.bind attempt.run _ = Option.bind attempt.run _
  congr 1
  funext outcome
  cases outcome <;> rfl

theorem returns_bind_iff {result : Result} :
    Returns (attempt >>= next) result ↔
      ∃ value, Returns attempt value ∧ Returns (next value) result := by
  rw [Returns, run_bind, Option.bind_eq_some_iff]
  constructor
  · rintro ⟨message | value, first, second⟩
    · cases second
    · exact ⟨value, first, second⟩
  · rintro ⟨value, first, second⟩
    exact ⟨.ok value, first, second⟩

theorem panicked_bind_iff :
    Panicked (attempt >>= next) ↔
      Panicked attempt ∨
        ∃ value, Returns attempt value ∧ Panicked (next value) := by
  rw [Panicked, run_bind, Option.bind_eq_none_iff]
  constructor
  · intro panics
    rw [or_iff_not_imp_left]
    intro runs
    obtain ⟨outcome, isOutcome⟩ := Option.ne_none_iff_exists'.mp runs
    have later := panics outcome isOutcome
    cases outcome with
    | error message => cases later
    | ok value => exact ⟨value, isOutcome, later⟩
  · rintro (first | ⟨value, first, second⟩) outcome isOutcome
    · rw [show attempt.run = none from first] at isOutcome
      cases isOutcome
    · rw [show attempt.run = some (.ok value) from first] at isOutcome
      cases isOutcome
      exact second

theorem returns_pure_iff {value other : Value} :
    Returns (pure value : Attempt Value) other ↔ value = other := by
  change some (Except.ok value) = some (Except.ok other) ↔ _
  rw [Option.some.injEq, Except.ok.injEq]

theorem not_panicked_pure {value : Value} :
    ¬ Panicked (pure value : Attempt Value) := nofun

theorem returns_lift_iff {panics : Panics Value} {value : Value} :
    Returns (liftM panics : Attempt Value) value ↔ panics = some value := by
  cases panics with
  | none => exact iff_of_false nofun nofun
  | some other =>
      rw [Option.some.injEq]
      exact returns_pure_iff

theorem panicked_lift_iff {panics : Panics Value} :
    Panicked (liftM panics : Attempt Value) ↔ panics = none := by
  cases panics with
  | none => exact iff_of_true rfl rfl
  | some other => exact iff_of_false nofun nofun

theorem returns_orFail_iff {found : Option Value} {message : String}
    {value : Value} : Returns (orFail found message) value ↔ found = some value := by
  cases found with
  | none => exact iff_of_false nofun nofun
  | some other =>
      rw [Option.some.injEq]
      exact returns_pure_iff

theorem not_panicked_orFail {found : Option Value} {message : String} :
    ¬ Panicked (orFail found message) := by
  cases found <;> exact nofun

end

/-! ## The reader -/

/-- `str::strip_prefix`. -/
def stripPrefix (start text : List Char) : Option (List Char) :=
  if start <+: text then some (text.drop start.length) else none

def createPipeWords : List Char := "CREATE PIPE".toList

/-- The name behind the two words. -/
def pipeName (sql : List Char) : Attempt (List Char) := do
  let afterCreate ←
    orFail (stripPrefix createPipeWords (upperChars sql)) "expected CREATE PIPE"
  let _upperName ← orFail (firstWord (trim afterCreate)) "missing pipe name"
  let rest ← sliceFrom (trim sql) (utf8Len createPipeWords)
  -- The first word is unwrapped.
  let word ← firstWord rest
  return trimEndMatches ';' word

/-- The text in front of the next quote. -/
def upToQuote (rest : List Char) : Panics (Option (List Char)) :=
  match find ['\''] rest with
  | none => some none
  | some stop => (sliceTo rest stop).map some

def extractQuotedParam (sql : List Char) (key : String) :
    Panics (Option (List Char)) :=
  let pattern := key.toList ++ ['=', '\'']
  match find pattern (upperChars sql) with
  | none => some none
  | some offset =>
      (sliceFrom sql (offset + utf8Len pattern)).bind upToQuote

def extractParam (upperSql : List Char) (key : String) :
    Panics (Option (List Char)) :=
  let pattern := key.toList ++ ['=']
  match find pattern upperSql with
  | none => some none
  | some offset =>
      (sliceFrom upperSql (offset + utf8Len pattern)).bind fun rest =>
        (sliceTo rest ((find [' '] rest).getD (utf8Len rest))).map fun value =>
          let value := trimEndMatches ';' value
          if value = [] then none else some value

def quotedParam (sql : List Char) (key : String) : Attempt (List Char) := do
  orFail (← extractQuotedParam sql key) ("missing " ++ key ++ "='...'")

/-- The name of a format in upper case. -/
def FileFormat.word : FileFormat → String
  | .parquet => "PARQUET"
  | .csv => "CSV"
  | .json => "JSON"

def fileFormatOf (name : List Char) : Attempt FileFormat :=
  if name = "PARQUET".toList then pure .parquet
  else if name = "CSV".toList then pure .csv
  else if name = "JSON".toList then pure .json
  else throw ("unsupported format: " ++ String.ofList name)

def formatParam (upper : List Char) : Attempt FileFormat := do
  let format := (← extractParam upper "FORMAT").getD "PARQUET".toList
  fileFormatOf (upperChars format)

def autoIngestParam (upper : List Char) : Panics Bool :=
  (extractParam upper "AUTO_INGEST").map fun value =>
    (value.map (· == "TRUE".toList)).getD true

def parseCreatePipe (sql : List Char) : Attempt Pipe := do
  let upper := upperChars sql
  let name ← pipeName sql
  let source ← quotedParam sql "SOURCE"
  let target ← quotedParam sql "TARGET"
  let fileFormat ← formatParam upper
  let autoIngest ← autoIngestParam upper
  return {
    name := String.ofList name
    sourcePath := String.ofList source
    targetTable := String.ofList target
    autoIngest
    fileFormat }

/-! ### What the reader finds -/

theorem stripPrefix_eq_some_iff {start text rest : List Char} :
    stripPrefix start text = some rest ↔ text = start ++ rest := by
  rw [stripPrefix]
  split
  · rename_i begins
    rcases begins with ⟨more, rfl⟩
    rw [List.drop_left, Option.some.injEq, List.append_cancel_left_eq]
  · rename_i begins
    refine iff_of_false nofun ?_
    rintro rfl
    exact begins (List.prefix_append start rest)

/-- What stands in front of the first key in the copy is as long as this. -/
def KeyEnds (sql : List Char) (key : String) (offset : Nat) : Prop :=
  ∃ before after,
    FirstAt (key.toList ++ ['=', '\'']) (upperChars sql) before after ∧
      utf8Len before + utf8Len (key.toList ++ ['=', '\'']) = offset

/--
The value stands in the text, in front of a quote, where the key of the copy
ends.
-/
def QuotedAt (sql : List Char) (key : String) (value : List Char) : Prop :=
  '\'' ∉ value ∧
    ∃ before after, sql = before ++ (value ++ '\'' :: after) ∧
      KeyEnds sql key (utf8Len before)

/-- The key of the copy ends inside of a character or behind the text. -/
def Misplaced (sql : List Char) (key : String) : Prop :=
  ∃ offset, KeyEnds sql key offset ∧ ¬ IsBoundary sql offset

theorem upToQuote_eq_some_iff {rest value : List Char} :
    upToQuote rest = some (some value) ↔
      '\'' ∉ value ∧ ∃ after, rest = value ++ '\'' :: after := by
  constructor
  · intro isValue
    rw [upToQuote] at isValue
    split at isValue
    · cases isValue
    · rename_i stop found
      rcases find_char_iff.mp found with ⟨before, after, rfl, outside, rfl⟩
      rw [sliceTo_append, Option.map_some, Option.some.injEq,
        Option.some.injEq] at isValue
      exact isValue ▸ ⟨outside, after, rfl⟩
  · rintro ⟨outside, after, rfl⟩
    have found := find_char_iff.mpr ⟨value, after, rfl, outside, rfl⟩
    rw [upToQuote, found]
    dsimp only
    rw [sliceTo_append, Option.map_some]

theorem upToQuote_ne_none (rest : List Char) : upToQuote rest ≠ none := by
  rw [upToQuote]
  split
  · exact Option.some_ne_none none
  · rename_i stop found
    rcases find_char_iff.mp found with ⟨before, after, rfl, -, rfl⟩
    rw [sliceTo_append]
    exact Option.some_ne_none (some before)

section

variable {sql : List Char} {key : String}

theorem extractQuotedParam_of_keyEnds {offset : Nat}
    (ends : KeyEnds sql key offset) :
    extractQuotedParam sql key = (sliceFrom sql offset).bind upToQuote := by
  rcases ends with ⟨before, after, isFirst, rfl⟩
  rw [extractQuotedParam,
    find_eq_some_iff.mpr ⟨before, after, isFirst, rfl⟩]

theorem keyEnds_or (sql : List Char) (key : String) :
    (∃ offset, KeyEnds sql key offset) ∨
      extractQuotedParam sql key = some none := by
  rcases exists_firstAt_or (key.toList ++ ['=', '\'']) (upperChars sql) with
    ⟨before, after, isFirst⟩ | absent
  · exact Or.inl ⟨_, before, after, isFirst, rfl⟩
  · right
    rw [extractQuotedParam, find_eq_none_iff.mpr absent]

theorem extractQuotedParam_eq_some_iff {value : List Char} :
    extractQuotedParam sql key = some (some value) ↔
      QuotedAt sql key value := by
  constructor
  · intro isValue
    rcases keyEnds_or sql key with ⟨offset, ends⟩ | absent
    · rw [extractQuotedParam_of_keyEnds ends, Option.bind_eq_some_iff]
        at isValue
      rcases isValue with ⟨rest, cut, isValue⟩
      rcases upToQuote_eq_some_iff.mp isValue with ⟨outside, after, rfl⟩
      rcases sliceFrom_eq_some_iff.mp cut with ⟨before, shape, rfl⟩
      exact ⟨outside, before, after, shape, ends⟩
    · rw [absent] at isValue
      cases isValue
  · rintro ⟨outside, before, after, rfl, ends⟩
    rw [extractQuotedParam_of_keyEnds ends, sliceFrom_append,
      Option.bind_some]
    exact upToQuote_eq_some_iff.mpr ⟨outside, after, rfl⟩

theorem extractQuotedParam_eq_none_iff :
    extractQuotedParam sql key = none ↔ Misplaced sql key := by
  constructor
  · intro panics
    rcases keyEnds_or sql key with ⟨offset, ends⟩ | absent
    · refine ⟨offset, ends, ?_⟩
      rw [extractQuotedParam_of_keyEnds ends] at panics
      rw [← sliceFrom_isSome_iff]
      cases cut : sliceFrom sql offset with
      | none => exact Bool.false_ne_true
      | some rest =>
          rw [cut, Option.bind_some] at panics
          exact absurd panics (upToQuote_ne_none rest)
    · rw [absent] at panics
      cases panics
  · rintro ⟨offset, ends, inside⟩
    rw [← sliceFrom_isSome_iff, Option.not_isSome_iff_eq_none] at inside
    rw [extractQuotedParam_of_keyEnds ends, inside, Option.bind_none]

theorem returns_quotedParam_iff {value : List Char} :
    Returns (quotedParam sql key) value ↔ QuotedAt sql key value := by
  rw [quotedParam, returns_bind_iff]
  constructor
  · rintro ⟨found, isFound, isValue⟩
    rw [returns_lift_iff] at isFound
    rw [returns_orFail_iff] at isValue
    rw [isValue] at isFound
    exact extractQuotedParam_eq_some_iff.mp isFound
  · intro quoted
    refine ⟨some value, returns_lift_iff.mpr ?_, returns_orFail_iff.mpr rfl⟩
    exact extractQuotedParam_eq_some_iff.mpr quoted

theorem panicked_quotedParam_iff :
    Panicked (quotedParam sql key) ↔ Misplaced sql key := by
  rw [quotedParam, panicked_bind_iff, panicked_lift_iff,
    extractQuotedParam_eq_none_iff]
  refine or_iff_left ?_
  rintro ⟨found, -, panics⟩
  exact not_panicked_orFail panics

end

/-- The value of a bare parameter, from the text behind its key. -/
def bareValue (rest : List Char) : List Char :=
  trimEndMatches ';' (firstPart ' ' rest)

theorem sliceTo_firstPart (rest : List Char) :
    sliceTo rest ((find [' '] rest).getD (utf8Len rest)) =
      some (firstPart ' ' rest) := by
  cases found : find [' '] rest with
  | none =>
      have solid : ∀ ch ∈ rest, ch != ' ' := by
        rw [find_eq_none_iff, List.singleton_infix_iff] at found
        intro ch member
        rw [bne_iff_ne]
        rintro rfl
        exact found member
      have whole := sliceTo_append rest []
      rw [List.append_nil] at whole
      rw [Option.getD_none, whole, firstPart, List.takeWhile_eq_self_iff.mpr solid]
  | some stop =>
      rcases find_char_iff.mp found with ⟨before, after, rfl, outside, rfl⟩
      rw [Option.getD_some, sliceTo_append, firstPart_append outside]

section

variable {upper : List Char} {key : String}

/-- The value that is given, if any. -/
def given (value : List Char) : Option (List Char) :=
  if value = [] then none else some value

/-- What is read of a bare parameter stands behind its first key. -/
theorem exists_extractParam_iff {reads : Option (List Char) → Prop} :
    (∃ found, extractParam upper key = some found ∧ reads found) ↔
      (∃ before rest, FirstAt (key.toList ++ ['=']) upper before rest ∧
          reads (given (bareValue rest))) ∨
        ¬ key.toList ++ ['='] <:+: upper ∧ reads none := by
  rw [extractParam]
  constructor
  · rintro ⟨found, isFound, isRead⟩
    rcases exists_firstAt_or (key.toList ++ ['=']) upper with
      ⟨before, rest, isFirst⟩ | absent
    · rw [find_eq_some_iff.mpr ⟨before, rest, isFirst, rfl⟩] at isFound
      dsimp only at isFound
      rw [isFirst.sliceFrom, Option.bind_some, sliceTo_firstPart,
        Option.map_some, Option.some.injEq] at isFound
      subst isFound
      exact Or.inl ⟨before, rest, isFirst, isRead⟩
    · rw [find_eq_none_iff.mpr absent, Option.some.injEq] at isFound
      exact Or.inr ⟨absent, isFound ▸ isRead⟩
  · rintro (⟨before, rest, isFirst, isRead⟩ | ⟨absent, isRead⟩)
    · refine ⟨_, ?_, isRead⟩
      rw [find_eq_some_iff.mpr ⟨before, rest, isFirst, rfl⟩]
      dsimp only
      rw [isFirst.sliceFrom, Option.bind_some, sliceTo_firstPart,
        Option.map_some]
      rfl
    · refine ⟨none, ?_, isRead⟩
      rw [find_eq_none_iff.mpr absent]

variable (upper : List Char)

theorem extractParam_ne_none (key : String) :
    extractParam upper key ≠ none := by
  obtain ⟨found, isFound, -⟩ :=
    (@exists_extractParam_iff upper key fun _ => True).mpr (by
      simp only [and_true]
      exact (exists_firstAt_or _ upper))
  rw [isFound]
  exact Option.some_ne_none found

/-- A bare value names a format, an empty one that of the default. -/
def NamesFormat (value : List Char) (format : FileFormat) : Prop :=
  (value = [] ∧ format = .parquet) ∨
    upperChars value = format.word.toList

/-- What stands behind the first key names the format. -/
def FormatRead (upper : List Char) (format : FileFormat) : Prop :=
  (∃ before rest, FirstAt "FORMAT=".toList upper before rest ∧
      NamesFormat (bareValue rest) format) ∨
    ¬ "FORMAT=".toList <:+: upper ∧ format = .parquet

/-- What stands behind the first key tells whether the pipe ingests. -/
def AutoIngestRead (upper : List Char) (autoIngest : Bool) : Prop :=
  (∃ before rest, FirstAt "AUTO_INGEST=".toList upper before rest ∧
      (autoIngest = true ↔
        bareValue rest = [] ∨ bareValue rest = "TRUE".toList)) ∨
    ¬ "AUTO_INGEST=".toList <:+: upper ∧ autoIngest = true

variable {format : FileFormat}

theorem returns_fileFormatOf_iff {name : List Char} :
    Returns (fileFormatOf name) format ↔ name = format.word.toList := by
  rw [fileFormatOf]
  split_ifs with parquet csv json
  · rw [returns_pure_iff, parquet]
    cases format <;> decide
  · rw [returns_pure_iff, csv]
    cases format <;> decide
  · rw [returns_pure_iff, json]
    cases format <;> decide
  · refine iff_of_false nofun ?_
    cases format
    · exact parquet
    · exact csv
    · exact json

theorem not_panicked_fileFormatOf (name : List Char) :
    ¬ Panicked (fileFormatOf name) := by
  rw [fileFormatOf]
  split_ifs <;> exact nofun

theorem namesFormat_iff {value : List Char} :
    Returns
        (fileFormatOf
          (upperChars ((given value).getD "PARQUET".toList))) format ↔
      NamesFormat value format := by
  rw [returns_fileFormatOf_iff, NamesFormat, given]
  split_ifs with empty
  · rw [Option.getD_none, empty]
    cases format <;> decide
  · rw [Option.getD_some]
    simp [empty]

theorem returns_formatParam_iff :
    Returns (formatParam upper) format ↔ FormatRead upper format := by
  simp only [formatParam, returns_bind_iff, returns_lift_iff]
  refine exists_extractParam_iff.trans (or_congr
    (exists_congr fun before => exists_congr fun rest =>
      and_congr_right fun _ => namesFormat_iff)
    (and_congr_right fun _ => ?_))
  rw [returns_fileFormatOf_iff]
  cases format <;> decide

theorem countsAsTrue_iff (value : List Char) (autoIngest : Bool) :
    ((given value).map (· == "TRUE".toList)).getD true = autoIngest ↔
      (autoIngest = true ↔ value = [] ∨ value = "TRUE".toList) := by
  rw [given, eq_comm, Bool.eq_iff_iff]
  split_ifs with empty
  · rw [Option.map_none, Option.getD_none, iff_true_intro (Or.inl empty)]
    exact iff_of_eq (by simp)
  · rw [Option.map_some, Option.getD_some, beq_iff_eq, or_iff_right empty]

theorem autoIngestParam_eq_some_iff {autoIngest : Bool} :
    autoIngestParam upper = some autoIngest ↔
      AutoIngestRead upper autoIngest := by
  rw [autoIngestParam, Option.map_eq_some_iff]
  refine exists_extractParam_iff.trans (or_congr
    (exists_congr fun before => exists_congr fun rest =>
      and_congr_right fun _ => countsAsTrue_iff _ _)
    (and_congr_right fun _ => eq_comm))

theorem not_panicked_formatParam :
    ¬ Panicked (formatParam upper) := by
  rw [formatParam, panicked_bind_iff, panicked_lift_iff]
  rintro (panics | ⟨found, -, panics⟩)
  · exact extractParam_ne_none upper "FORMAT" panics
  · exact not_panicked_fileFormatOf _ panics

theorem autoIngestParam_ne_none :
    autoIngestParam upper ≠ none := by
  rw [autoIngestParam, Ne, Option.map_eq_none_iff]
  exact extractParam_ne_none upper "AUTO_INGEST"

end

/-! ### The whole statement -/

/-- A pipe is read from its name and its four parameters. -/
theorem returns_parseCreatePipe_iff {sql : List Char} {pipe : Pipe} :
    Returns (parseCreatePipe sql) pipe ↔
      Returns (pipeName sql) pipe.name.toList ∧
        QuotedAt sql "SOURCE" pipe.sourcePath.toList ∧
        QuotedAt sql "TARGET" pipe.targetTable.toList ∧
        FormatRead (upperChars sql) pipe.fileFormat ∧
        AutoIngestRead (upperChars sql) pipe.autoIngest := by
  simp only [parseCreatePipe, returns_bind_iff, returns_lift_iff,
    returns_pure_iff, returns_quotedParam_iff, returns_formatParam_iff,
    autoIngestParam_eq_some_iff]
  constructor
  · rintro ⟨name, isName, source, isSource, target, isTarget, format, isFormat,
      autoIngest, isAuto, rfl⟩
    simp only [String.toList_ofList]
    exact ⟨isName, isSource, isTarget, isFormat, isAuto⟩
  · rintro ⟨isName, isSource, isTarget, isFormat, isAuto⟩
    exact ⟨_, isName, _, isSource, _, isTarget, _, isFormat, _, isAuto,
      by simp only [String.ofList_toList]⟩

/-- Behind the first two words there is another one. -/
def HasName (sql : List Char) : Prop :=
  ∃ rest, upperChars sql = createPipeWords ++ rest ∧ ¬ Blank rest

theorem firstWord_eq_none_iff {text : List Char} :
    firstWord text = none ↔ Blank text := by
  rw [firstWord, splitWhitespace_eq, List.head?_eq_none_iff]
  exact fields_eq_nil_iff

theorem blank_trim_iff {text : List Char} : Blank (trim text) ↔ Blank text := by
  rcases trim_shape text with ⟨before, after, shape, front, back⟩
  conv_rhs => rw [shape]
  rw [blank_append, blank_append, and_iff_left back, and_iff_right front]

theorem blank_trimEnd_iff {text : List Char} :
    Blank (trimEnd text) ↔ Blank text := by
  rcases trimEnd_shape text with ⟨after, shape, back⟩
  conv_rhs => rw [shape]
  rw [blank_append, and_iff_left back]

theorem solid_of_letter {ch letter : Char} (upper : ch.toUpper = letter)
    (isLetter : letter.isAlpha) : isWhitespace ch = false := by
  rw [← upper, Char.isAlpha_toUpper_eq_isAlpha] at isLetter
  apply not_isWhitespace_of_alphanum
  rw [Char.isAlphanum, isLetter, Bool.true_or, Bool.true_or]

/-- Besides `i` and `I`, the dotless letter has `I` as its upper case. -/
theorem utf8Size_of_upper_i {ch : Char} {more : List Char}
    (form : charToUppercase ch = 'I' :: more) :
    more = [] ∧ (ch.utf8Size = 1 ∨ ch.utf8Size = 2) := by
  rcases charToUppercase_ascii_head form (by decide) with
    ⟨ascii, -, rfl⟩ | ⟨codes, member, expanded⟩
  · exact ⟨rfl, Or.inl (utf8Size_of_ascii ascii)⟩
  · have table : ∀ expansion ∈ asciiExpansions,
        (expansion.2.map Char.ofNat).head? = some 'I' →
          expansion = (0x131, [0x49]) := by
      decide
    have same := table _ member (by rw [← expanded]; rfl)
    rw [Prod.mk.injEq] at same
    rw [same.2] at expanded
    refine ⟨(List.cons.inj expanded).2, Or.inr ?_⟩
    have isDotless : ch = Char.ofNat 0x131 := by
      rw [← same.1, Char.ofNat_toNat]
    rw [isDotless]
    decide

/-- A text with the two words in its upper-case form begins with their letters. -/
theorem exists_letters {sql rest : List Char}
    (begins : upperChars sql = createPipeWords ++ rest) :
    ∃ front ch last behind, sql = front ++ ch :: (last ++ behind) ∧
      (front.map Char.toUpper = "CREATE P".toList ∧
        ∀ other ∈ front, other.toNat < 0x80) ∧
      (ch.utf8Size = 1 ∨ ch.utf8Size = 2) ∧
      (last.map Char.toUpper = "PE".toList ∧
        ∀ other ∈ last, other.toNat < 0x80) ∧
      upperChars behind = rest := by
  have words : createPipeWords = "CREATE P".toList ++ 'I' :: "PE".toList := rfl
  have create : "CREATE P".toList <+: upperChars sql := by
    rw [begins, words, List.append_assoc]
    exact List.prefix_append _ _
  rcases exists_spelling (by decide) create with
    ⟨front, more, rfl, upper, ascii⟩
  rw [upperChars_append, upperChars_of_ascii ascii, upper, words,
    List.append_assoc, List.append_cancel_left_eq, List.cons_append] at begins
  cases more with
  | nil => cases begins
  | cons ch more =>
      rw [upperChars, List.flatMap_cons, ← upperChars] at begins
      cases form : charToUppercase ch with
      | nil => exact absurd form (charToUppercase_ne_nil ch)
      | cons head others =>
          rw [form, List.cons_append, List.cons.injEq] at begins
          rw [begins.1] at form
          rcases utf8Size_of_upper_i form with ⟨rfl, width⟩
          have later := begins.2
          rw [List.nil_append] at later
          have ends : "PE".toList <+: upperChars more := by
            rw [later]
            exact List.prefix_append _ _
          rcases exists_spelling (by decide) ends with
            ⟨last, behind, rfl, upperLast, asciiLast⟩
          rw [upperChars_append, upperChars_of_ascii asciiLast, upperLast,
            List.append_cancel_left_eq] at later
          exact ⟨front, ch, last, behind, rfl, ⟨upper, ascii⟩, width,
            ⟨upperLast, asciiLast⟩, later⟩

/--
Behind the two words the text can be cut at the offset, which lies in front of
the last letter when the `I` is the dotless one.
-/
theorem exists_word_behind {sql rest : List Char}
    (begins : upperChars sql = createPipeWords ++ rest) (filled : ¬ Blank rest) :
    ∃ behind word,
      sliceFrom (trim sql) (utf8Len createPipeWords) = some behind ∧
        firstWord behind = some word := by
  rcases exists_letters begins with
    ⟨front, ch, last, behind, rfl, ⟨upper, ascii⟩, width, ⟨upperLast, asciiLast⟩,
      rfl⟩
  have length : utf8Len front = 8 := by
    rw [utf8Len_of_ascii ascii, ← List.length_map, upper]
    rfl
  have filledBehind : ¬ Blank (trimEnd behind) := by
    rw [blank_trimEnd_iff]
    intro blank
    rw [upperChars_of_blank blank] at filled
    exact filled blank
  have whole : utf8Len createPipeWords = 11 := by decide
  rw [whole]
  have firstLetter : "CREATE P".toList = 'C' :: "REATE P".toList := by decide
  have lastLetters : "PE".toList = ['P', 'E'] := by decide
  rw [firstLetter] at upper
  rw [lastLetters] at upperLast
  rcases List.map_eq_cons_iff.mp upper with ⟨first, more, rfl, isFirst, -⟩
  rcases List.map_eq_cons_iff.mp upperLast with ⟨next, ending, rfl, -, isEnding⟩
  rcases List.map_eq_cons_iff.mp isEnding with ⟨final, none, rfl, isFinal, isNone⟩
  rw [List.map_eq_nil_iff] at isNone
  subst isNone
  have solidFinal := solid_of_letter isFinal (by decide)
  have trimmed : Trimmed (first :: more ++ [ch, next, final]) := by
    constructor
    · exact stops_cons.mpr (solid_of_letter isFirst (by decide))
    · rw [List.reverse_append]
      exact stops_cons.mpr solidFinal
  have cut := @trim_append [] _ behind blank_nil (by simp) trimmed
  rw [List.nil_append, List.append_assoc] at cut
  have sizeNext : next.utf8Size = 1 := utf8Size_of_ascii (asciiLast next (by simp))
  have sizeFinal : final.utf8Size = 1 :=
    utf8Size_of_ascii (asciiLast final (by simp))
  have firstWord_ne : ∀ text, ¬ Blank text →
      ∃ word, firstWord text = some word := fun text filled =>
    Option.ne_none_iff_exists'.mp fun none =>
      filled (firstWord_eq_none_iff.mp none)
  have joined : ch :: ([next, final] ++ behind) =
      [ch, next, final] ++ behind := rfl
  rw [joined, cut]
  rcases width with narrow | wide
  · rcases firstWord_ne _ filledBehind with ⟨word, isWord⟩
    refine ⟨trimEnd behind, word, sliceFrom_eq_some_iff.mpr
      ⟨_, rfl, ?_⟩, isWord⟩
    rw [utf8Len_append, length]
    simp [narrow, sizeNext, sizeFinal]
  · have filledFinal : ¬ Blank (final :: trimEnd behind) := fun blank => by
      rw [(blank_cons.mp blank).1] at solidFinal
      cases solidFinal
    rcases firstWord_ne _ filledFinal with ⟨word, isWord⟩
    refine ⟨final :: trimEnd behind, word, sliceFrom_eq_some_iff.mpr
      ⟨first :: more ++ [ch, next], by simp, ?_⟩, isWord⟩
    rw [utf8Len_append, length]
    simp [wide, sizeNext]

/-- The name has been read as far as the cut. -/
theorem pipeName_eq {sql rest : List Char}
    (begins : upperChars sql = createPipeWords ++ rest) (filled : ¬ Blank rest)
    {behind word : List Char}
    (cut : sliceFrom (trim sql) (utf8Len createPipeWords) = some behind)
    (isWord : firstWord behind = some word) :
    Returns (pipeName sql) (trimEndMatches ';' word) := by
  have named : ∃ upperName, firstWord (trim rest) = some upperName := by
    apply Option.ne_none_iff_exists'.mp
    rwa [Ne, firstWord_eq_none_iff, blank_trim_iff]
  obtain ⟨upperName, isNamed⟩ := named
  simp only [pipeName, returns_bind_iff, returns_orFail_iff,
    returns_lift_iff, returns_pure_iff]
  exact ⟨rest, stripPrefix_eq_some_iff.mpr begins, upperName, isNamed, behind,
    cut, word, isWord, rfl⟩

theorem hasName_of_words {sql afterCreate upperName : List Char}
    (isStripped : stripPrefix createPipeWords (upperChars sql) =
      some afterCreate)
    (isNamed : firstWord (trim afterCreate) = some upperName) :
    HasName sql := by
  refine ⟨afterCreate, stripPrefix_eq_some_iff.mp isStripped, ?_⟩
  rw [← blank_trim_iff, ← firstWord_eq_none_iff, isNamed]
  exact Option.some_ne_none upperName

theorem exists_pipeName_iff {sql : List Char} :
    (∃ name, Returns (pipeName sql) name) ↔ HasName sql := by
  constructor
  · rintro ⟨name, isName⟩
    simp only [pipeName, returns_bind_iff, returns_orFail_iff] at isName
    rcases isName with ⟨afterCreate, isStripped, upperName, isNamed, -⟩
    exact hasName_of_words isStripped isNamed
  · rintro ⟨rest, begins, filled⟩
    rcases exists_word_behind begins filled with ⟨behind, word, cut, isWord⟩
    exact ⟨_, pipeName_eq begins filled cut isWord⟩

theorem not_panicked_pipeName (sql : List Char) : ¬ Panicked (pipeName sql) := by
  intro panics
  by_cases named : HasName sql
  · obtain ⟨name, isName⟩ := exists_pipeName_iff.mpr named
    rw [Panicked, isName] at panics
    cases panics
  · simp only [pipeName, panicked_bind_iff, returns_orFail_iff,
      not_panicked_orFail, false_or] at panics
    rcases panics with ⟨afterCreate, isStripped, upperName, isNamed, -⟩
    exact named (hasName_of_words isStripped isNamed)

/-- Only the two quoted values can be cut wrongly. -/
theorem panicked_parseCreatePipe_iff {sql : List Char} :
    Panicked (parseCreatePipe sql) ↔
      HasName sql ∧
        (Misplaced sql "SOURCE" ∨
          (∃ value, QuotedAt sql "SOURCE" value) ∧ Misplaced sql "TARGET") := by
  simp only [parseCreatePipe, panicked_bind_iff, not_panicked_pipeName,
    panicked_quotedParam_iff, returns_quotedParam_iff,
    not_panicked_formatParam, panicked_lift_iff, autoIngestParam_ne_none,
    not_panicked_pure, and_false, exists_false, or_false, false_or]
  rw [← exists_pipeName_iff]
  constructor
  · rintro ⟨name, isName, misplaced | ⟨value, quoted, misplaced⟩⟩
    · exact ⟨⟨name, isName⟩, Or.inl misplaced⟩
    · exact ⟨⟨name, isName⟩, Or.inr ⟨⟨value, quoted⟩, misplaced⟩⟩
  · rintro ⟨⟨name, isName⟩, misplaced | ⟨⟨value, quoted⟩, misplaced⟩⟩
    · exact ⟨name, isName, Or.inl misplaced⟩
    · exact ⟨name, isName, Or.inr ⟨value, quoted, misplaced⟩⟩

/-! ## The commands -/

inductive PipeReply where
  /-- The pipes by name, or that there are none. -/
  | pipes
  | message (text : String)
deriving DecidableEq, Repr

namespace PipeManager

/-- `create_pipe` without calls of others between. -/
def createPipe (manager : PipeManager) (pipe : Pipe) :
    PipeManager × Except String Unit :=
  match manager.pipes pipe.name with
  | some _ => (manager, .error ("Pipe '" ++ pipe.name ++ "' already exists"))
  | none =>
      let registered := manager.perform (.register pipe)
      if pipe.autoIngest then
        ((registered.perform (.spawn pipe)).perform
          (.insertHandle pipe registered.spawned), .ok ())
      else (registered, .ok ())

/-- `drop_pipe` without calls of others between. -/
def dropPipe (manager : PipeManager) (name : String) :
    PipeManager × Except String Unit :=
  ((manager.perform (.stopWatcher name)).perform (.remove name),
    match manager.pipes name with
    | some _ => .ok ()
    | none => .error ("Pipe '" ++ name ++ "' does not exist"))

/-- The name in a `DROP PIPE`, of which two spellings are known. -/
def droppedName (sql : List Char) : List Char :=
  trimStatement
    (((stripPrefix "DROP PIPE".toList (trim sql)).or
      (stripPrefix "drop pipe".toList (trim sql))).getD [])

def droppedMessage (name : List Char) : String :=
  "Pipe '" ++ String.ofList name ++ "' dropped."

def executeCommand (manager : PipeManager) (sql : List Char) :
    Panics (PipeManager × Except String PipeReply) :=
  let upper := upperChars (trim sql)
  if "SHOW PIPES".toList <+: upper then some (manager, .ok .pipes)
  else if "DROP PIPE".toList <+: upper then
    let name := droppedName sql
    if name = [] then some (manager, .error "Usage: DROP PIPE <name>")
    else
      let dropped := manager.dropPipe (String.ofList name)
      some (dropped.1, dropped.2.map fun _ => .message (droppedMessage name))
  else if createPipeWords <+: upper then
    (parseCreatePipe sql).run.map fun
      | .error message => (manager, .error message)
      | .ok pipe =>
          let created := manager.createPipe pipe
          (created.1, created.2.map fun _ => .message "Pipe created.")
  else
    some (manager, .error ("Unknown pipe command: " ++ String.ofList sql))

end PipeManager

/-! ## Layouts -/

/-- White space with a semicolon in it, or none. -/
structure Trailer where
  before : List Char
  semicolon : Bool
  after : List Char
  blank_before : Blank before
  blank_after : Blank after

def Trailer.text (trailer : Trailer) : List Char :=
  trailer.before ++
    ((if trailer.semicolon then [';'] else []) ++ trailer.after)

/-- A name without white space and semicolons. -/
structure IsPipeName (name : List Char) : Prop where
  nonempty : name ≠ []
  solid : ∀ ch ∈ name, isWhitespace ch = false
  noSemicolon : ';' ∉ name

inductive Parameter where
  | source (path : List Char)
  | target (table : List Char)
  | format (format : FileFormat)
  | autoIngest (value : Bool)
deriving DecidableEq

def Parameter.key : Parameter → String
  | .source _ => "SOURCE"
  | .target _ => "TARGET"
  | .format _ => "FORMAT"
  | .autoIngest _ => "AUTO_INGEST"

/-- A path and a table are quoted, the other values are words in any case. -/
def Parameter.SpelledBy : Parameter → List Char → Prop
  | .source value, text | .target value, text =>
      '\'' ∉ value ∧ text = '\'' :: (value ++ ['\''])
  | .format kind, text => Spells text kind.word
  | .autoIngest value, text => Spells text (if value then "TRUE" else "FALSE")

/-- A parameter with the gap in front of it. -/
structure WrittenParameter where
  gap : Gap
  parameter : Parameter
  key : List Char
  value : List Char
  spells_key : Spells key parameter.key
  spelled : parameter.SpelledBy value

def WrittenParameter.text (written : WrittenParameter) : List Char :=
  written.gap.text ++ (written.key ++ '=' :: written.value)

/-- `CREATE PIPE` with its parameters in any order. -/
structure CreatePipe where
  leading : List Char
  create : List Char
  createGap : Gap
  pipe : List Char
  nameGap : Gap
  name : List Char
  sourcePath : List Char
  targetTable : List Char
  fileFormat : FileFormat
  autoIngest : Option Bool
  parameters : List WrittenParameter
  trailer : Trailer
  blank_leading : Blank leading
  spells_create : Spells create "CREATE"
  spells_pipe : Spells pipe "PIPE"
  isName : IsPipeName name
  order :
    (parameters.map (·.parameter)).Perm
      (.source sourcePath :: .target targetTable :: .format fileFormat ::
        (autoIngest.map Parameter.autoIngest).toList)

namespace CreatePipe

variable (command : CreatePipe)

/-- The parameters and the end. -/
def rest : List Char :=
  command.parameters.flatMap WrittenParameter.text ++ command.trailer.text

def text : List Char :=
  command.leading ++ (command.create ++ (command.createGap.text ++
    (command.pipe ++ (command.nameGap.text ++
      (command.name ++ command.rest)))))

/-- The pipe that the command describes. -/
def described : Pipe where
  name := String.ofList command.name
  sourcePath := String.ofList command.sourcePath
  targetTable := String.ofList command.targetTable
  autoIngest := command.autoIngest.getD true
  fileFormat := command.fileFormat

/-- The layouts and contents that the reader takes as they are meant. -/
structure Kept : Prop where
  leading : command.leading = []
  createGap : command.createGap.text = [' ']
  source : QuotedAt command.text "SOURCE" command.sourcePath
  target : QuotedAt command.text "TARGET" command.targetTable
  format : FormatRead (upperChars command.text) command.fileFormat
  autoIngest :
    AutoIngestRead (upperChars command.text) (command.autoIngest.getD true)

end CreatePipe

/-- `DROP PIPE` with a name. -/
structure DropPipe where
  leading : List Char
  drop : List Char
  dropGap : Gap
  pipe : List Char
  nameGap : Gap
  name : List Char
  trailer : Trailer
  blank_leading : Blank leading
  spells_drop : Spells drop "DROP"
  spells_pipe : Spells pipe "PIPE"
  isName : IsPipeName name

namespace DropPipe

variable (command : DropPipe)

/-- The two words and what is between them. -/
def words : List Char :=
  command.drop ++ (command.dropGap.text ++ command.pipe)

def text : List Char :=
  command.leading ++ (command.words ++ (command.nameGap.text ++
    (command.name ++ command.trailer.text)))

/-- The command takes the pipe away from every manager that has it. -/
def Drops : Prop :=
  ∀ (manager : PipeManager) (pipe : Pipe),
    manager.pipes (String.ofList command.name) = some pipe →
      ∃ after,
        manager.executeCommand command.text =
            some (after,
              .ok (.message (PipeManager.droppedMessage command.name))) ∧
          after.pipes =
            Function.update manager.pipes (String.ofList command.name) none

/-- The two words are written in one of the two known ways. -/
def Known : Prop :=
  command.words = "DROP PIPE".toList ∨ command.words = "drop pipe".toList

end DropPipe

/-! ### The name of a new pipe -/

/-- A text that begins and ends with solid characters is trimmed. -/
theorem trimmed_between {front middle back : List Char} (frontNe : front ≠ [])
    (frontSolid : ∀ ch ∈ front, isWhitespace ch = false) (backNe : back ≠ [])
    (backSolid : ∀ ch ∈ back, isWhitespace ch = false) :
    Trimmed (front ++ (middle ++ back)) := by
  constructor
  · obtain ⟨ch, front, rfl⟩ := List.exists_cons_of_ne_nil frontNe
    exact stops_cons.mpr (frontSolid ch List.mem_cons_self)
  · rcases List.eq_nil_or_concat' back with empty | ⟨more, last, rfl⟩
    · exact absurd empty backNe
    · rw [← List.append_assoc, ← List.append_assoc, List.reverse_concat]
      exact stops_cons.mpr (backSolid last (by simp))

theorem utf8Len_of_spells {word : List Char} {keyword : String}
    (spells : Spells word keyword) :
    utf8Len word = keyword.toList.length := by
  rw [utf8Len_of_ascii fun ch member =>
      isAscii_of_alphanum (spells.named ch member),
    ← spells.upper, List.length_map]

theorem IsPipeName.stops {name : List Char} (isName : IsPipeName name) :
    Stops (· == ';') name.reverse := by
  intro ch isHead
  rw [beq_eq_false_iff_ne]
  rintro rfl
  exact isName.noSemicolon
    (List.mem_reverse.mp (List.mem_of_mem_head? isHead))

namespace CreatePipe

variable (command : CreatePipe)

theorem parameters_ne_nil : command.parameters ≠ [] := by
  intro none
  have count := command.order.length_eq
  rw [none] at count
  cases count

/-- Behind the name comes a gap, and somewhere a sign of equality. -/
theorem rest_shape :
    ∃ (gap : Gap) (more : List Char),
      command.rest = gap.text ++ more ∧ '=' ∈ more := by
  obtain ⟨written, others, shape⟩ :=
    List.exists_cons_of_ne_nil command.parameters_ne_nil
  refine ⟨written.gap, written.key ++ '=' :: (written.value ++
    (others.flatMap WrittenParameter.text ++ command.trailer.text)), ?_, ?_⟩
  · rw [rest, shape, List.flatMap_cons, WrittenParameter.text]
    simp only [List.append_assoc, List.cons_append]
  · exact List.mem_append_right _ List.mem_cons_self

theorem words_prefix_iff :
    createPipeWords <+: upperChars command.text ↔
      command.leading = [] ∧ command.createGap.text = [' '] := by
  have words : createPipeWords = "CREATE".toList ++ ' ' :: "PIPE".toList := by
    decide
  have pipe : Stops isWhitespace "PIPE".toList := stops_cons.mpr (by decide)
  have create : Stops isWhitespace ("CREATE".toList ++ ' ' :: "PIPE".toList) :=
    stops_cons.mpr (by decide)
  rw [text, upperChars_append, upperChars_of_blank command.blank_leading,
    command.spells_create.upperChars, command.createGap.upperChars_append,
    command.spells_pipe.upperChars, words,
    blanks_prefix_iff command.blank_leading (by decide) create,
    List.prefix_append_right_inj, Gap.prefix_iff _ (by decide) pipe,
    and_iff_left (List.prefix_append "PIPE".toList _)]

theorem returns_pipeName_iff :
    Returns (pipeName command.text) command.name ↔
      command.leading = [] ∧ command.createGap.text = [' '] := by
  rw [← words_prefix_iff]
  constructor
  · intro isName
    rcases exists_pipeName_iff.mp ⟨_, isName⟩ with ⟨rest, begins, -⟩
    exact ⟨rest, begins.symm⟩
  · intro begins
    obtain ⟨noLeading, oneBlank⟩ := command.words_prefix_iff.mp begins
    obtain ⟨gap, more, shape, hasEquals⟩ := command.rest_shape
    have parts : command.text =
        (command.create ++ ([' '] ++ command.pipe)) ++
          (command.nameGap.text ++ (command.name ++ command.rest)) := by
      rw [text, noLeading, oneBlank]
      simp only [List.nil_append, List.append_assoc]
    have length : utf8Len (command.create ++ ([' '] ++ command.pipe)) =
        utf8Len createPipeWords := by
      rw [utf8Len_append, utf8Len_append, utf8Len_of_spells command.spells_create,
        utf8Len_of_spells command.spells_pipe]
      decide
    have trimmed : trim command.text =
        (command.create ++ ([' '] ++ command.pipe)) ++
          trimEnd (command.nameGap.text ++ (command.name ++ command.rest)) := by
      rw [parts]
      exact @trim_append [] _ _ blank_nil (by simp)
        (trimmed_between command.spells_create.ne_nil
          command.spells_create.not_blank command.spells_pipe.ne_nil
          command.spells_pipe.not_blank)
    have isWord :
        firstWord
            (trimEnd (command.nameGap.text ++ (command.name ++ command.rest))) =
          some command.name := by
      rw [firstWord_trimEnd,
        firstWord_name command.nameGap.blank command.isName.nonempty
          command.isName.solid,
        shape, gap.stuck, List.append_nil]
    rcases begins with ⟨behind, begins⟩
    have inText : '=' ∈ command.text := by
      rw [parts, shape]
      simp [hasEquals]
    have inUpper : '=' ∈ upperChars command.text :=
      List.mem_flatMap.mpr ⟨'=', inText, by decide⟩
    have filled : ¬ Blank behind := by
      intro blank
      rw [← begins, List.mem_append] at inUpper
      rcases inUpper with inWords | inBehind
      · revert inWords
        decide
      · exact absurd (blank '=' inBehind) (by decide)
    have isName := pipeName_eq begins.symm filled
      (by rw [trimmed, ← length, sliceFrom_append]) isWord
    rwa [trimEndMatches, dropWhile_of_stops command.isName.stops,
      List.reverse_reverse] at isName

end CreatePipe

/-- The reader returns the pipe of just these commands. -/
theorem CreatePipe.kept_iff (command : CreatePipe) :
    Returns (parseCreatePipe command.text) command.described ↔
      command.Kept := by
  rw [returns_parseCreatePipe_iff, described, String.toList_ofList,
    String.toList_ofList, String.toList_ofList, returns_pipeName_iff]
  constructor
  · rintro ⟨⟨leading, createGap⟩, source, target, format, autoIngest⟩
    exact ⟨leading, createGap, source, target, format, autoIngest⟩
  · intro kept
    exact ⟨⟨kept.leading, kept.createGap⟩, kept.source, kept.target,
      kept.format, kept.autoIngest⟩

/-! ### The name of a dropped pipe -/

theorem PipeManager.pipes_remove {manager : PipeManager} {name : String}
    (member : name ∈ manager.dropping) :
    (manager.perform (.remove name)).pipes =
      Function.update manager.pipes name none := by
  rw [perform, if_pos member]

theorem PipeManager.dropPipe_pipes (manager : PipeManager) (name : String) :
    (manager.dropPipe name).1.pipes =
      Function.update manager.pipes name none := by
  have stopped : (manager.perform (.stopWatcher name)).pipes = manager.pipes ∧
      name ∈ (manager.perform (.stopWatcher name)).dropping := by
    rw [perform]
    cases manager.handles name with
    | none => exact ⟨rfl, List.mem_cons_self⟩
    | some task => exact ⟨rfl, List.mem_cons_self⟩
  calc
    (manager.dropPipe name).1.pipes =
        ((manager.perform (.stopWatcher name)).perform (.remove name)).pipes :=
      rfl
    _ = Function.update manager.pipes name none := by
      rw [pipes_remove stopped.2, stopped.1]

theorem stripPrefix_append {start words : List Char}
    (length : words.length = start.length) (behind : List Char) :
    stripPrefix start (words ++ behind) =
      if words = start then some behind else none := by
  split
  · rename_i same
    exact stripPrefix_eq_some_iff.mpr (by rw [same])
  · rename_i different
    rw [Option.eq_none_iff_forall_ne_some]
    intro rest isRest
    rw [stripPrefix_eq_some_iff] at isRest
    exact different (List.append_inj_left isRest length)

/-- Nothing of the end is left when semicolons and white space are taken off. -/
theorem Trailer.taken_off (trailer : Trailer) :
    trimEnd (trimEndMatches ';' (trimEnd trailer.text)) = [] := by
  have blanksOff : ∀ {blanks}, Blank blanks → trimEnd blanks = [] := by
    intro blanks blank
    have off := @trimEnd_append_blank [] blanks blank
    rwa [List.nil_append] at off
  rcases trailer with ⟨before, semicolon, after, blankBefore, blankAfter⟩
  rw [text]
  dsimp only
  rw [← List.append_assoc, trimEnd_append_blank blankAfter]
  cases semicolon with
  | false =>
      rw [if_neg Bool.false_ne_true, List.append_nil, blanksOff blankBefore]
      rfl
  | true =>
      have noSemicolon : Stops (· == ';') before.reverse := by
        intro ch isHead
        have white := blankBefore ch
          (List.mem_reverse.mp (List.mem_of_mem_head? isHead))
        rw [beq_eq_false_iff_ne]
        rintro rfl
        revert white
        decide
      have solid : Stops isWhitespace (before ++ [';']).reverse := by
        rw [List.reverse_concat]
        exact stops_cons.mpr (by decide)
      rw [if_pos rfl, trimEnd_of_stops solid,
        trimEndMatches_append noSemicolon]
      rw [show trimEndMatches ';' [';'] = [] by decide, List.append_nil]
      exact blanksOff blankBefore

namespace DropPipe

variable (command : DropPipe)

/-- What is left of the text behind the two words. -/
def behind : List Char :=
  command.nameGap.text ++ (command.name ++ trimEnd command.trailer.text)

theorem trim_text : trim command.text = command.words ++ command.behind := by
  have parts : command.text =
      command.leading ++
        ((command.drop ++ ((command.dropGap.text ++
          (command.pipe ++ command.nameGap.text)) ++ command.name)) ++
            command.trailer.text) := by
    rw [text, words]
    simp only [List.append_assoc]
  have trimmed := @trimmed_between command.drop
    (command.dropGap.text ++ (command.pipe ++ command.nameGap.text))
    command.name command.spells_drop.ne_nil command.spells_drop.not_blank
    command.isName.nonempty command.isName.solid
  rw [parts, trim_append command.blank_leading
    (by simp [command.isName.nonempty]) trimmed, words, behind]
  simp only [List.append_assoc]

theorem trimStatement_behind : trimStatement command.behind = command.name := by
  have trimmed : Trimmed command.name := by
    constructor
    · exact fun ch isHead =>
        command.isName.solid ch (List.mem_of_mem_head? isHead)
    · exact fun ch isHead =>
        command.isName.solid ch
          (List.mem_reverse.mp (List.mem_of_mem_head? isHead))
  have again : trimEnd (trimEnd command.trailer.text) =
      trimEnd command.trailer.text :=
    trimEnd_of_stops (by
      rw [trimEnd, List.reverse_reverse]
      exact stops_dropWhile _)
  rw [behind, trimStatement_append command.nameGap.blank
    command.isName.nonempty trimmed command.isName.stops, again,
    command.trailer.taken_off, List.append_nil]

theorem upper_text :
    upperChars (trim command.text) =
      "DROP".toList ++ (command.dropGap.text ++
        ("PIPE".toList ++ upperChars command.behind)) := by
  rw [trim_text, words, List.append_assoc, List.append_assoc,
    command.spells_drop.upperChars, command.dropGap.upperChars_append,
    command.spells_pipe.upperChars]

theorem dropPipe_prefix_iff :
    "DROP PIPE".toList <+: upperChars (trim command.text) ↔
      command.dropGap.text = [' '] := by
  have words : "DROP PIPE".toList = "DROP".toList ++ ' ' :: "PIPE".toList := by
    decide
  have solid : Stops isWhitespace "PIPE".toList := stops_cons.mpr (by decide)
  rw [upper_text, words, List.prefix_append_right_inj,
    Gap.prefix_iff _ (by decide) solid,
    and_iff_left (List.prefix_append "PIPE".toList _)]

theorem other_prefix {start : List Char} (other : start.head? ≠ some 'D')
    (nonempty : start ≠ []) :
    ¬ start <+: upperChars (trim command.text) := by
  rw [upper_text, show "DROP".toList = 'D' :: "ROP".toList by decide,
    List.cons_append]
  intro begins
  obtain ⟨ch, start, rfl⟩ := List.exists_cons_of_ne_nil nonempty
  rw [List.cons_prefix_cons] at begins
  exact other (congrArg some begins.1)

theorem words_length (oneBlank : command.dropGap.text = [' ']) :
    command.words.length = 9 := by
  have drop := congrArg List.length command.spells_drop.upper
  have pipe := congrArg List.length command.spells_pipe.upper
  rw [List.length_map] at drop pipe
  rw [words, oneBlank, List.length_append, List.length_append, drop, pipe]
  decide

theorem oneBlank_of_known (known : command.Known) :
    command.dropGap.text = [' '] := by
  rw [← dropPipe_prefix_iff, trim_text, upperChars_append]
  apply List.prefix_append_of_prefix
  rcases known with upper | lower
  · rw [upper]
    decide
  · rw [lower]
    decide

theorem droppedName_of_known (known : command.Known) :
    PipeManager.droppedName command.text = command.name := by
  have length := command.words_length (command.oneBlank_of_known known)
  rw [PipeManager.droppedName, trim_text,
    stripPrefix_append (length.trans (by decide)),
    stripPrefix_append (length.trans (by decide))]
  rcases known with upper | lower
  · rw [if_pos upper]
    exact command.trimStatement_behind
  · rw [if_neg (by rw [lower]; decide), if_pos lower]
    exact command.trimStatement_behind

theorem droppedName_of_unknown (unknown : ¬ command.Known)
    (oneBlank : command.dropGap.text = [' ']) :
    PipeManager.droppedName command.text = [] := by
  have length := command.words_length oneBlank
  rw [Known, not_or] at unknown
  rw [PipeManager.droppedName, trim_text,
    stripPrefix_append (length.trans (by decide)),
    stripPrefix_append (length.trans (by decide)), if_neg unknown.1,
    if_neg unknown.2]
  rfl

theorem drops_of_known (known : command.Known) : command.Drops := by
  intro manager pipe registered
  refine ⟨(manager.dropPipe (String.ofList command.name)).1, ?_,
    manager.dropPipe_pipes (String.ofList command.name)⟩
  rw [PipeManager.executeCommand]
  dsimp only
  rw [if_neg (command.other_prefix (by decide) (by decide)),
    if_pos (command.dropPipe_prefix_iff.mpr (command.oneBlank_of_known known)),
    command.droppedName_of_known known, if_neg command.isName.nonempty,
    PipeManager.dropPipe]
  dsimp only
  rw [registered]
  rfl

/-- Otherwise the command is refused. -/
theorem refused_of_unknown (unknown : ¬ command.Known)
    (manager : PipeManager) :
    ∃ message,
      manager.executeCommand command.text = some (manager, .error message) := by
  rw [PipeManager.executeCommand]
  dsimp only
  rw [if_neg (command.other_prefix (by decide) (by decide))]
  by_cases oneBlank : command.dropGap.text = [' ']
  · rw [if_pos (command.dropPipe_prefix_iff.mpr oneBlank),
      if_pos (command.droppedName_of_unknown unknown oneBlank)]
    exact ⟨_, rfl⟩
  · rw [if_neg (mt command.dropPipe_prefix_iff.mp oneBlank),
      if_neg (command.other_prefix (by decide) (by decide))]
    exact ⟨_, rfl⟩

theorem drops_iff : command.Drops ↔ command.Known := by
  constructor
  · intro drops
    by_contra unknown
    let pipe : Pipe := ⟨"", "", "", false, .parquet⟩
    obtain ⟨after, dropped, -⟩ :=
      drops { PipeManager.new with pipes := fun _ => some pipe } pipe rfl
    obtain ⟨message, refused⟩ := command.refused_of_unknown unknown
      { PipeManager.new with pipes := fun _ => some pipe }
    rw [refused] at dropped
    cases dropped
  · exact command.drops_of_known

end DropPipe

/-! ## The grammar -/

/--
A new pipe is read as it is described exactly when one blank stands between the
two words, nothing in front, and each parameter is found where it is written; a
pipe is dropped exactly in two spellings; and the reader of new pipes panics
exactly when the place of a quoted value is no boundary of the text.
-/
theorem pipeGrammar_iff (created : CreatePipe) (dropped : DropPipe)
    (sql : List Char) :
    (Returns (parseCreatePipe created.text) created.described ↔
        created.Kept) ∧
      (dropped.Drops ↔ dropped.Known) ∧
      (¬ Panicked (parseCreatePipe sql) ↔
        (HasName sql →
          ¬ Misplaced sql "SOURCE" ∧
            ∀ path, QuotedAt sql "SOURCE" path →
              ¬ Misplaced sql "TARGET")) := by
  refine ⟨created.kept_iff, dropped.drops_iff, ?_⟩
  rw [panicked_parseCreatePipe_iff]
  constructor
  · intro calm named
    refine ⟨fun misplaced => calm ⟨named, Or.inl misplaced⟩, ?_⟩
    exact fun path quoted misplaced =>
      calm ⟨named, Or.inr ⟨⟨path, quoted⟩, misplaced⟩⟩
  · rintro placed ⟨named, misplaced | ⟨⟨path, quoted⟩, misplaced⟩⟩
    · exact (placed named).1 misplaced
    · exact (placed named).2 path quoted misplaced

/-- A trailer with nothing in it. -/
def Trailer.none : Trailer := ⟨[], false, [], blank_nil, blank_nil⟩

theorem isPipeName_p : IsPipeName ['p'] where
  nonempty := List.cons_ne_nil 'p' []
  solid := List.forall_mem_singleton.mpr (by decide)
  noSemicolon := by decide

/-- `CREATE PIPE p SOURCE='FORMAT=csv' TARGET='t' FORMAT=json`. -/
def formatInPath : CreatePipe where
  leading := []
  create := "CREATE".toList
  createGap := .one
  pipe := "PIPE".toList
  nameGap := .one
  name := ['p']
  sourcePath := "FORMAT=csv".toList
  targetTable := ['t']
  fileFormat := .json
  autoIngest := none
  parameters :=
    [⟨.one, .source "FORMAT=csv".toList, "SOURCE".toList,
        "'FORMAT=csv'".toList, ⟨by decide, by decide, by decide⟩,
        ⟨by decide, by decide⟩⟩,
      ⟨.one, .target ['t'], "TARGET".toList, "'t'".toList,
        ⟨by decide, by decide, by decide⟩, ⟨by decide, by decide⟩⟩,
      ⟨.one, .format .json, "FORMAT".toList, "json".toList,
        ⟨by decide, by decide, by decide⟩, ⟨by decide, by decide, by decide⟩⟩]
  trailer := .none
  blank_leading := blank_nil
  spells_create := spells_create
  spells_pipe := ⟨by decide, by decide, by decide⟩
  isName := isPipeName_p
  order := List.Perm.refl _

/-- `Drop Pipe p`. -/
def capitalized : DropPipe where
  leading := []
  drop := "Drop".toList
  dropGap := .one
  pipe := "Pipe".toList
  nameGap := .one
  name := ['p']
  trailer := .none
  blank_leading := blank_nil
  spells_drop := ⟨by decide, by decide, by decide⟩
  spells_pipe := ⟨by decide, by decide, by decide⟩
  isName := isPipeName_p

/--
The format is read from the path, which names none; a pipe is not dropped when
only the first letters are in upper case; and behind a character that grows in
upper case the path is cut inside of a character.
-/
theorem format_read_from_path :
    (formatInPath.text =
        "CREATE PIPE p SOURCE='FORMAT=csv' TARGET='t' FORMAT=json".toList ∧
      ¬ Returns (parseCreatePipe formatInPath.text) formatInPath.described) ∧
      (capitalized.text = "Drop Pipe p".toList ∧ ¬ capitalized.Drops) ∧
      Panicked
        (parseCreatePipe
          "CREATE PIPE ŉ SOURCE='é' TARGET='t' FORMAT=json".toList) := by
  have text : formatInPath.text =
      "CREATE PIPE p SOURCE='FORMAT=csv' TARGET='t' FORMAT=json".toList := by
    decide
  have refused :
      (parseCreatePipe
          "CREATE PIPE p SOURCE='FORMAT=csv' TARGET='t' FORMAT=json".toList).run =
        some (.error "unsupported format: CSV'") := by
    decide
  have panics :
      (parseCreatePipe
          "CREATE PIPE ŉ SOURCE='é' TARGET='t' FORMAT=json".toList).run =
        none := by
    decide
  refine ⟨⟨text, ?_⟩, ⟨by decide, ?_⟩, panics⟩
  · intro isPipe
    rw [text, Returns, refused] at isPipe
    cases isPipe
  · rw [capitalized.drops_iff]
    rintro (upper | lower)
    · revert upper
      decide
    · revert lower
      decide

end OpenSnow.Ingest
