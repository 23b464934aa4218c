import OpenSnow.Server.GuardLexer

/-!
# The words of a text

The words that the lexer of the guardrails finds outside quotes and comments.
Blanks and semicolons around a text add none, and the words of two texts in a
row are those of the one and of the other as long as nothing is open between
them.
-/

namespace OpenSnow.Server.SqlGuardrails

open Rust.Text
open Sql

/-! ## Readings -/

/-- Characters that neither start nor end anything, nor are part of a word. -/
def Inert (text : List Char) : Prop := ∀ ch ∈ text, isWhitespace ch ∨ ch = ';'

theorem inert_of_blank {text : List Char} (blank : Blank text) : Inert text :=
  fun ch member => Or.inl (blank ch member)

theorem inert_cons {ch : Char} {rest : List Char} :
    Inert (ch :: rest) ↔ (isWhitespace ch ∨ ch = ';') ∧ Inert rest :=
  List.forall_mem_cons

theorem inert_append {front back : List Char} :
    Inert (front ++ back) ↔ Inert front ∧ Inert back :=
  List.forall_mem_append

theorem ordinary_of_inert {ch : Char} (inert : isWhitespace ch ∨ ch = ';') :
    Ordinary ch := by
  rcases inert with blank | rfl
  · exact ordinary_of_isWhitespace blank
  · decide

theorem not_isWordChar_of_inert {ch : Char}
    (inert : isWhitespace ch ∨ ch = ';') : ¬ isWordChar ch := by
  rcases inert with blank | rfl
  · intro word
    exact not_isWhitespace_of_isWordChar word blank
  · decide

variable {reading : Reading}

/-- Looking ahead at an inert character is looking at the end of the text. -/
theorem next_append_inert (sound : QuotesOnly reading)
    {comments : Bool} {tail : List Char}
    (inert : ∀ other ∈ tail.head?, isWhitespace other ∨ other = ';')
    (ch : Char) (rest : List Char) :
    reading.next comments ch (rest ++ tail) =
      reading.next comments ch rest :=
  next_append_seam sound
    (seam_of_head (fun ch => isWhitespace ch || ch == ';') (by decide)
      fun other isHead => by simpa using inert other isHead)

/-! ## Words -/

/-- The texts of the words among tokens. -/
def wordTexts (tokens : List Token) : List String := (words tokens).map (·.text)

@[simp]
theorem wordTexts_nil : wordTexts [] = [] := rfl

@[simp]
theorem wordTexts_cons_word (text : String) (onwards : List Char)
    (tokens : List Token) :
    wordTexts (⟨text, .word, onwards⟩ :: tokens) =
      text :: wordTexts tokens := by
  simp [wordTexts]

@[simp]
theorem wordTexts_cons_symbol (text : String) (ch : Char)
    (onwards : List Char) (tokens : List Token) :
    wordTexts (⟨text, .symbol ch, onwards⟩ :: tokens) = wordTexts tokens := by
  simp [wordTexts]

/-- The words of a text. -/
def textWords (text : List Char) : List String :=
  wordTexts (lexLoop .plain false text)

theorem firstKeyword_eq (sql : String) :
    firstKeyword sql =
      ((textWords sql.toList).head?.map toAsciiUppercase).getD "" := by
  rw [firstKeyword, textWords, wordTexts, lexSql]
  cases words (lexLoop .plain false sql.toList) with
  | nil => rfl
  | cons first rest => rfl

theorem wordTexts_inert {text : List Char} (inWord : Bool)
    (inert : Inert text) : wordTexts (lexLoop reading inWord text) = [] := by
  induction text generalizing reading inWord with
  | nil => rfl
  | cons ch rest ih =>
      rw [inert_cons] at inert
      rw [lexLoop]
      split_ifs with plain blank word inside
      · exact ih _ inert.2
      · exact ih _ inert.2
      · exact absurd word (not_isWordChar_of_inert inert.1)
      · rw [wordTexts_cons_symbol]
        exact ih _ inert.2
      · exact ih _ inert.2

/-- Inert text in front adds no word. -/
theorem wordTexts_inert_append {front : List Char} (inert : Inert front)
    (inWord : Bool) (text : List Char) :
    wordTexts (lexLoop .plain inWord (front ++ text)) =
      if front = [] then wordTexts (lexLoop .plain inWord text)
      else textWords text := by
  induction front generalizing inWord with
  | nil => rfl
  | cons ch rest ih =>
      rw [inert_cons] at inert
      have after : wordTexts (lexLoop .plain false (rest ++ text)) =
          textWords text := by
        rw [ih inert.2, textWords, ite_self]
      rw [List.cons_append, lexLoop,
        (ordinary_of_inert inert.1).next, if_pos ⟨rfl, rfl⟩,
        if_neg (List.cons_ne_nil ch rest)]
      split_ifs with blank word inside
      · exact after
      · exact absurd word (not_isWordChar_of_inert inert.1)
      · exact absurd word (not_isWordChar_of_inert inert.1)
      · rw [wordTexts_cons_symbol]
        exact after

theorem textWords_inert_append {front : List Char} (inert : Inert front)
    (text : List Char) : textWords (front ++ text) = textWords text := by
  rw [textWords, wordTexts_inert_append inert, textWords, ite_self]

theorem takeWhile_append_of_ends {text behind : List Char}
    (ends : ∀ ch ∈ behind.head?, ¬ isWordChar ch) :
    (text ++ behind).takeWhile isWordChar = text.takeWhile isWordChar := by
  induction text with
  | nil =>
      cases behind with
      | nil => rfl
      | cons ch rest => exact List.takeWhile_cons_of_neg (ends ch rfl)
  | cons ch rest ih =>
      rw [List.cons_append, List.takeWhile_cons, List.takeWhile_cons, ih]

/-- Inert text behind adds no word, whatever is open. -/
theorem wordTexts_append_inert {reading : Reading} (sound : QuotesOnly reading)
    {tail : List Char} (inert : Inert tail) (inWord : Bool)
    (text : List Char) :
    wordTexts (lexLoop reading inWord (text ++ tail)) =
      wordTexts (lexLoop reading inWord text) := by
  induction text generalizing reading inWord with
  | nil =>
      rw [List.nil_append, wordTexts_inert inWord inert]
      rfl
  | cons ch rest ih =>
      have heads : ∀ other ∈ tail.head?, isWhitespace other ∨ other = ';' :=
        fun other isHead => inert other (List.mem_of_mem_head? isHead)
      have ends : ∀ other ∈ tail.head?, ¬ isWordChar other :=
        fun other isHead => not_isWordChar_of_inert (heads other isHead)
      have cut := @takeWhile_append_of_ends (ch :: rest) tail ends
      rw [List.cons_append] at cut
      rw [List.cons_append, lexLoop, lexLoop,
        next_append_inert sound heads ch rest, cut]
      have sound' := sound.next true ch rest
      generalize reading.next true ch rest = next at sound' ⊢
      split_ifs
      · exact ih sound' _
      · exact ih sound' _
      · rw [wordTexts_cons_word, wordTexts_cons_word, ih sound']
      · rw [wordTexts_cons_symbol, wordTexts_cons_symbol, ih sound']
      · exact ih sound' _

theorem textWords_append_inert {tail : List Char} (inert : Inert tail)
    (text : List Char) : textWords (text ++ tail) = textWords text :=
  @wordTexts_append_inert .plain trivial tail inert false text

variable (text : List Char)

theorem textWords_trim :
    textWords (trim text) = textWords text := by
  rcases trim_shape text with ⟨before, after, shape, front, back⟩
  conv_rhs => rw [shape]
  rw [textWords_inert_append (inert_of_blank front),
    textWords_append_inert (inert_of_blank back)]

theorem textWords_trimEndMatches :
    textWords (trimEndMatches ';' text) = textWords text := by
  rcases trimEndMatches_shape ';' text with ⟨after, shape, ends⟩
  have inert : Inert after := fun ch member => Or.inr (ends ch member)
  conv_rhs => rw [shape]
  rw [textWords_append_inert inert]

theorem textWords_statementText :
    textWords (statementText (text ++ [';'])) = textWords text := by
  have ends : Inert [';'] := by
    rintro ch (_ | ⟨_, ⟨⟩⟩)
    exact Or.inr rfl
  rw [statementText, textWords_trim, textWords_trimEndMatches, textWords_trim,
    textWords_append_inert ends]

/-! ## Texts in a row -/

/--
With this text behind it, nothing is open at the end of the text, and no
statement has ended in it.
-/
def Closed : Reading → List Char → List Char → Prop
  | reading, [], _ => reading = .plain
  | reading, ch :: rest, behind =>
      ¬ (reading = .plain ∧ ch = ';') ∧
        Closed (reading.next true ch (rest ++ behind)) rest behind

/-- No word goes on from the one text to the other. -/
def Apart (text behind : List Char) : Prop :=
  ∀ last ∈ text.getLast?, isWordChar last →
    ∀ ch ∈ behind.head?, ¬ isWordChar ch

variable {text behind : List Char}

theorem takeWhile_append_of_apart
    (nonempty : text ≠ []) (apart : Apart text behind) :
    (text ++ behind).takeWhile isWordChar = text.takeWhile isWordChar := by
  induction text with
  | nil => exact absurd rfl nonempty
  | cons ch rest ih =>
      rw [List.cons_append, List.takeWhile_cons, List.takeWhile_cons]
      split
      · rename_i word
        cases rest with
        | nil =>
            have ends := @takeWhile_append_of_ends [] behind
              (apart ch rfl word)
            rw [ends]
        | cons next rest => rw [ih (List.cons_ne_nil next rest) apart]
      · rfl

theorem closed_next {ch : Char} {rest behind : List Char}
    (closed : Closed reading (ch :: rest) behind)
    (alone : Closed reading (ch :: rest) []) :
    reading.next true ch (rest ++ behind) = reading.next true ch rest := by
  cases rest with
  | cons next rest => rfl
  | nil =>
      have one : reading.next true ch ([] ++ behind) = .plain := closed.2
      have other : reading.next true ch ([] ++ []) = .plain := alone.2
      rw [one]
      exact other.symm

theorem wordTexts_closed {inWord : Bool} (closed : Closed reading text behind)
    (alone : Closed reading text []) (apart : Apart text behind)
    (outside : text = [] → inWord → ∀ ch ∈ behind.head?, ¬ isWordChar ch) :
    wordTexts (lexLoop reading inWord (text ++ behind)) =
      wordTexts (lexLoop reading inWord text) ++ textWords behind := by
  induction text generalizing reading inWord with
  | nil =>
      have plain : reading = .plain := closed
      rw [plain, List.nil_append]
      change wordTexts (lexLoop .plain inWord behind) = [] ++ textWords behind
      cases inWord with
      | false => rfl
      | true => rw [lexLoop_inWord (outside rfl rfl)]; rfl
  | cons ch rest ih =>
      have next := closed_next closed alone
      have closed' := closed.2
      have alone' := alone.2
      rw [List.append_nil] at alone'
      rw [next] at closed'
      have apart' : Apart rest behind := by
        cases rest with
        | nil => rintro last ⟨⟩
        | cons other rest => exact apart
      have whole :=
        takeWhile_append_of_apart (List.cons_ne_nil ch rest) apart
      rw [List.cons_append] at whole
      rw [List.cons_append, lexLoop, lexLoop, next, whole]
      have later := fun {within : Bool}
          (ends : rest = [] → within → ∀ ch ∈ behind.head?, ¬ isWordChar ch) =>
        ih closed' alone' apart' ends
      split_ifs with plain blank word
      · exact later (by simp)
      · refine later ?_
        rintro rfl -
        exact apart ch rfl word
      · rw [wordTexts_cons_word, wordTexts_cons_word, List.cons_append, later]
        rintro rfl -
        exact apart ch rfl word
      · rw [wordTexts_cons_symbol, wordTexts_cons_symbol, later (by simp)]
      · exact later (by simp)

theorem textWords_closed
    (closed : Closed .plain text behind) (alone : Closed .plain text [])
    (apart : Apart text behind) :
    textWords (text ++ behind) = textWords text ++ textWords behind :=
  wordTexts_closed closed alone apart (by simp)

/-- What is closed before a semicolon is closed at the end of a text. -/
theorem closed_alone
    (sound : QuotesOnly reading) (closed : Closed reading text behind)
    (inert : ∀ ch ∈ behind.head?, isWhitespace ch ∨ ch = ';') :
    Closed reading text [] := by
  induction text generalizing reading with
  | nil => exact closed
  | cons ch rest ih =>
      refine ⟨closed.1, ?_⟩
      have closed' := closed.2
      rw [next_append_inert sound inert] at closed'
      rw [List.append_nil]
      exact ih (sound.next true ch rest) closed'

/-!
## The statements that the guardrails see

A text is cut at the semicolons outside quotes and comments.  Its statements
have the words of the text between them, and a text that is put in front stays
with the first statement.
-/

/-! ### Cuts -/

/-- The text before the first end of a statement, and the text behind it. -/
def cut : Reading → List Char → List Char × Option (List Char)
  | _, [] => ([], none)
  | reading, ch :: rest =>
      if reading = .plain ∧ ch = ';' then ([], some rest)
      else
        let more := cut (reading.next true ch rest) rest
        (ch :: more.1, more.2)

theorem cut_none {text piece : List Char}
    (whole : cut reading text = (piece, none)) : piece = text := by
  induction text generalizing reading piece with
  | nil =>
      rw [cut, Prod.mk.injEq] at whole
      exact whole.1.symm
  | cons ch rest ih =>
      rw [cut] at whole
      split_ifs at whole with ends
      · cases whole
      · rw [Prod.mk.injEq] at whole
        rw [← whole.1]
        exact congrArg (ch :: ·) (ih (Prod.ext rfl whole.2))

theorem cut_some {text piece behind : List Char}
    (found : cut reading text = (piece, some behind)) :
    text = piece ++ ';' :: behind ∧ Closed reading piece (';' :: behind) := by
  induction text generalizing reading piece with
  | nil => cases found
  | cons ch rest ih =>
      rw [cut] at found
      split_ifs at found with ends
      · cases found
        exact ⟨by rw [ends.2, List.nil_append], ends.1⟩
      · rw [Prod.mk.injEq] at found
        rcases ih (Prod.ext rfl found.2) with ⟨shape, closed⟩
        rw [← found.1, List.cons_append, ← shape]
        refine ⟨rfl, ends, ?_⟩
        rw [← shape]
        exact closed

/-- The first statement of a text, and its other statements. -/
def statementAt (current : List Char) :
    List Char × Option (List Char) → List Char
  | (piece, none) => trim (current ++ piece)
  | (piece, some _) => statementText (current ++ piece ++ [';'])

def statementsBehind : List Char × Option (List Char) → List String
  | (_, none) => []
  | (_, some rest) => splitLoop .plain [] rest

theorem splitLoop_cut (reading : Reading) (current text : List Char) :
    splitLoop reading current text =
      keepStatement (statementAt current (cut reading text))
        (statementsBehind (cut reading text)) := by
  induction text generalizing reading current with
  | nil =>
      rw [splitLoop, cut, statementAt, statementsBehind, List.append_nil]
  | cons ch rest ih =>
      rw [splitLoop, cut]
      split_ifs with ends
      · rw [statementAt, statementsBehind, List.append_nil, ends.2]
      · rw [ih]
        cases cut (reading.next true ch rest) rest with
        | mk piece behind =>
            cases behind with
            | none =>
                simp only [statementAt, statementsBehind, List.append_assoc,
                  List.singleton_append]
            | some behind =>
                simp only [statementAt, statementsBehind, List.append_assoc,
                  List.singleton_append]

/-! ### Words of statements -/

theorem textWords_statementAt (current : List Char)
    (found : List Char × Option (List Char)) :
    textWords (statementAt current found) =
      textWords (current ++ found.1) := by
  rcases found with ⟨piece, behind⟩
  cases behind with
  | none => exact textWords_trim _
  | some behind => exact textWords_statementText _

/-- What is dropped has no words. -/
theorem flatMap_keepStatement (statement : List Char)
    (statements : List String) :
    (keepStatement statement statements).flatMap (textWords ·.toList) =
      textWords statement ++ statements.flatMap (textWords ·.toList) := by
  rw [keepStatement]
  split
  · rename_i dropped
    have none : textWords statement = [] := by
      rw [Bool.or_eq_true, List.isEmpty_iff, List.isEmpty_iff, lexSql,
        String.toList_ofList] at dropped
      rcases dropped with empty | empty
      · rw [empty]
        rfl
      · rw [textWords, empty]
        rfl
    rw [none, List.nil_append]
  · rw [List.flatMap_cons, String.toList_ofList]

/-- The statements of a text have its words. -/
theorem textWords_splitLoop (text : List Char) :
    (splitLoop .plain [] text).flatMap (textWords ·.toList) =
      textWords text := by
  induction size : text.length using Nat.strongRecOn generalizing text with
  | ind length ih =>
      rw [splitLoop_cut, flatMap_keepStatement, textWords_statementAt,
        List.nil_append]
      cases found : cut .plain text with
      | mk piece behind =>
          cases behind with
          | none =>
              rw [statementsBehind, List.flatMap_nil, List.append_nil,
                cut_none found]
          | some behind =>
              rcases cut_some found with ⟨shape, closed⟩
              have inert : ∀ ch ∈ (';' :: behind).head?,
                  isWhitespace ch ∨ ch = ';' := by
                rintro ch ⟨⟩
                exact Or.inr rfl
              have apart : Apart piece (';' :: behind) := by
                rintro last - - ch ⟨⟩
                decide
              have ends : Inert [';'] := by
                rintro ch (_ | ⟨_, ⟨⟩⟩)
                exact Or.inr rfl
              have smaller : behind.length < length := by
                rw [← size, shape, List.length_append, List.length_cons]
                omega
              rw [statementsBehind, ih behind.length smaller behind rfl, shape,
                textWords_closed closed (closed_alone trivial closed inert)
                  apart]
              exact
                congrArg _ (@textWords_inert_append [';'] ends behind).symm

theorem firstKeyword_of_split {sql statement : String}
    (one : splitSqlStatements sql = [statement]) :
    firstKeyword sql = firstKeyword statement := by
  have same := textWords_splitLoop sql.toList
  rw [← splitSqlStatements, one, List.flatMap_cons, List.flatMap_nil,
    List.append_nil] at same
  rw [firstKeyword_eq, firstKeyword_eq, same]

/-! ### Texts in front -/

theorem splitLoop_closed
    (closed : Closed reading text behind) (current : List Char) :
    splitLoop reading current (text ++ behind) =
      splitLoop .plain (current ++ text) behind := by
  induction text generalizing reading current with
  | nil =>
      have plain : reading = .plain := closed
      rw [plain, List.nil_append, List.append_nil]
  | cons ch rest ih =>
      rw [List.cons_append, splitLoop, if_neg closed.1, ih closed.2,
        List.append_assoc, List.singleton_append]

/-- The statements of a text but for its first one. -/
def furtherStatements (sql : String) : List String :=
  statementsBehind (cut .plain sql.toList)

end OpenSnow.Server.SqlGuardrails
