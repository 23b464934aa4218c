import OpenSnow.Foundation.SeparatorJoin
import OpenSnow.Rust.AsciiCase
import OpenSnow.Server.SecretPayloads

/-!
# Spellings of a key

A key is spelled from words in one of six styles.  The normaliser puts an
underscore between the words that it can tell apart: all of them where they
are separated, and otherwise those that a capital letter opens behind a small
letter or a digit.
-/

namespace OpenSnow.Server.SecretPayloads

open Foundation.JoinedWords
open Rust.Text

/-! ## Words and styles -/

/-- Small letters and digits, and at least one of them. -/
def IsWord (word : List Char) : Prop :=
  word ≠ [] ∧ ∀ ch ∈ word, (ch.isLower || ch.isDigit) = true

instance (word : List Char) : Decidable (IsWord word) :=
  decidable_of_iff
    (word ≠ [] ∧ word.all (fun ch => ch.isLower || ch.isDigit) = true)
    (and_congr_right' List.all_eq_true)

/-- A list of words. -/
def AreWords (words : List (List Char)) : Prop :=
  ∀ word ∈ words, IsWord word

instance (words : List (List Char)) : Decidable (AreWords words) :=
  inferInstanceAs (Decidable (∀ word ∈ words, IsWord word))

inductive Style where
  | snake
  | kebab
  | spaced
  | camel
  | pascal
  | screaming
deriving DecidableEq, Repr

/-- A word with a capital letter. -/
def capital : List Char → List Char
  | [] => []
  | ch :: rest => ch.toUpper :: rest

def spell : Style → List (List Char) → List Char
  | .snake, words => joined '_' words
  | .kebab, words => joined '-' words
  | .spaced, words => joined ' ' words
  | .camel, [] => []
  | .camel, first :: rest => first ++ rest.flatMap capital
  | .pascal, words => words.flatMap capital
  | .screaming, words => joined '_' (words.map (List.map Char.toUpper))

/-- The key of some words in a style. -/
def render (style : Style) (words : List (List Char)) : String :=
  String.ofList (spell style words)

/-! ## The words that can be told apart -/

def startsLower : List Char → Bool
  | [] => false
  | ch :: _ => ch.isLower

/-- Behind the word, which has a capital letter, the next capital is seen. -/
def shows (word : List Char) : Bool :=
  decide (2 ≤ word.length) || !startsLower word

/-- The pieces that capital letters open, behind a piece. -/
def joinHumps (shown : Bool) (piece : List Char) :
    List (List Char) → List (List Char)
  | [] => [piece]
  | word :: rest =>
      if shown && startsLower word then
        piece :: joinHumps (shows word) word rest
      else joinHumps (shows word) (piece ++ word) rest

/-- A word in capital letters is cut where a letter stands behind a digit. -/
def cutBehindDigits : List Char → List (List Char)
  | [] => []
  | ch :: rest =>
      match cutBehindDigits rest with
      | [] => [[ch]]
      | piece :: pieces =>
          if ch.isDigit && startsLower piece then [ch] :: piece :: pieces
          else (ch :: piece) :: pieces

/-- The pieces of a key that the normaliser can tell apart. -/
def pieces : Style → List (List Char) → List (List Char)
  | .camel, first :: rest => joinHumps true first rest
  | .pascal, first :: rest => joinHumps (shows first) first rest
  | .screaming, words => words.flatMap cutBehindDigits
  | _, words => words

theorem joinHumps_ne_nil :
    ∀ (shown : Bool) (piece : List Char) (words : List (List Char)),
      joinHumps shown piece words ≠ []
  | _, piece, [] => List.cons_ne_nil piece []
  | shown, piece, word :: rest => by
      rw [joinHumps]
      split_ifs
      · exact List.cons_ne_nil _ _
      · exact joinHumps_ne_nil _ _ rest

theorem cutBehindDigits_cons (ch : Char) (rest : List Char) :
    ∃ piece pieces, cutBehindDigits (ch :: rest) = piece :: pieces ∧
      startsLower piece = startsLower (ch :: rest) := by
  rw [cutBehindDigits]
  split
  · exact ⟨_, _, rfl, rfl⟩
  · split_ifs
    · exact ⟨_, _, rfl, rfl⟩
    · exact ⟨_, _, rfl, rfl⟩

/-! ## The loop on a word -/

section Loop

variable {ch : Char} {word : List Char} {wasSeparator wasLowerOrDigit : Bool}

section

variable (plain : (ch.isLower || ch.isDigit) = true)

include plain

theorem plain_alphanum :
    (ch.isAlphanum || ch == '_') = true := by
  rw [Char.isAlphanum, Char.isAlpha]
  rcases Bool.or_eq_true_iff.mp plain with lower | digit
  · simp [lower]
  · simp [digit]

theorem plain_ne {other : Char}
    (isOther : (other.isLower || other.isDigit) = false) : ch ≠ other := by
  rintro rfl
  rw [plain] at isOther
  cases isOther

theorem plain_not_upper :
    ch.isUpper = false := by
  rw [Bool.eq_false_iff]
  rcases Bool.or_eq_true_iff.mp plain with lower | digit
  · exact Char.not_isUpper_of_isLower lower
  · intro upper
    simp only [Char.isUpper, Char.isDigit, Bool.and_eq_true,
      decide_eq_true_eq, UInt32.le_iff_toNat_le, ge_iff_le] at upper digit
    have low := upper.1
    have high := digit.2
    exact absurd (low.trans high) (by decide)

end

/-- A separator, a run of which becomes one underscore. -/
def isKeySeparator (ch : Char) : Bool :=
  ch == '-' || ch == '_' || isWhitespace ch

theorem plain_not_separator (plain : (ch.isLower || ch.isDigit) = true) :
    isKeySeparator ch = false := by
  rw [isKeySeparator,
    not_isWhitespace_of_alphanum (plain_alphanum plain), Bool.or_false,
    beq_eq_false_iff_ne.mpr (plain_ne plain (by decide)),
    beq_eq_false_iff_ne.mpr (plain_ne plain (by decide))]
  rfl

theorem keyLoop_separator (separates : isKeySeparator ch = true)
    (rest : List Char) :
    keyLoop wasSeparator wasLowerOrDigit (ch :: rest) =
      (if wasSeparator then [] else ['_']) ++ keyLoop true false rest := by
  rw [isKeySeparator] at separates
  rw [keyLoop, if_pos separates]

theorem keyLoop_plain (plain : (ch.isLower || ch.isDigit) = true)
    (rest : List Char) :
    keyLoop wasSeparator wasLowerOrDigit (ch :: rest) =
      ch :: keyLoop false true rest := by
  have notUpper := plain_not_upper plain
  have separates := plain_not_separator plain
  rw [isKeySeparator] at separates
  rw [keyLoop, separates, notUpper, plain,
    Char.toLower_eq_of_not_isUpper (by rw [notUpper]; decide)]
  rfl

theorem keyLoop_capital (lower : ch.isLower = true) (rest : List Char) :
    keyLoop wasSeparator wasLowerOrDigit (ch.toUpper :: rest) =
      (if wasLowerOrDigit && !wasSeparator then ['_'] else []) ++
        ch :: keyLoop false false rest := by
  have upper : ch.toUpper.isUpper = true := by
    rw [Char.isUpper_toUpper_eq_isAlpha, Char.isAlpha, lower, Bool.or_true]
  have named : (ch.toUpper.isAlphanum || ch.toUpper == '_') = true := by
    rw [Char.isAlphanum, Char.isAlpha, upper]
    rfl
  have separates : isKeySeparator ch.toUpper = false := by
    have other : ∀ sign : Char, sign.isUpper = false →
        (ch.toUpper == sign) = false := by
      intro sign notUpper
      rw [beq_eq_false_iff_ne]
      rintro rfl
      rw [upper] at notUpper
      cases notUpper
    rw [isKeySeparator, not_isWhitespace_of_alphanum named,
      other '-' (by decide), other '_' (by decide)]
    rfl
  rw [isKeySeparator] at separates
  rw [keyLoop, separates, upper, Char.toLower_toUpper_eq_toLower,
    Char.toLower_eq_of_not_isUpper (Char.not_isUpper_of_isLower lower)]
  rfl

theorem keyLoop_word (isWord : IsWord word) (rest : List Char) :
    keyLoop wasSeparator wasLowerOrDigit (word ++ rest) =
      word ++ keyLoop false true rest := by
  obtain ⟨nonempty, plain⟩ := isWord
  induction word generalizing wasSeparator wasLowerOrDigit with
  | nil => exact absurd rfl nonempty
  | cons ch others ih =>
      rw [List.forall_mem_cons] at plain
      rw [List.cons_append, keyLoop_plain plain.1]
      cases others with
      | nil => rfl
      | cons second others =>
          rw [ih (List.cons_ne_nil _ _) plain.2]
          rfl

/-- A word with a capital letter opens a piece behind a letter that is seen. -/
theorem keyLoop_capitalWord (isWord : IsWord word) (rest : List Char) :
    keyLoop wasSeparator wasLowerOrDigit (capital word ++ rest) =
      (if (wasLowerOrDigit && !wasSeparator) && startsLower word then ['_']
        else []) ++ (word ++ keyLoop false (shows word) rest) := by
  obtain ⟨nonempty, plain⟩ := isWord
  cases word with
  | nil => exact absurd rfl nonempty
  | cons ch others =>
      rw [List.forall_mem_cons] at plain
      have behind : ∀ flag, (others = [] → flag = shows (ch :: others)) →
          keyLoop false flag (others ++ rest) =
            others ++ keyLoop false (shows (ch :: others)) rest := by
        intro flag isFlag
        cases others with
        | nil => rw [isFlag rfl]; rfl
        | cons second others =>
            rw [keyLoop_word ⟨List.cons_ne_nil _ _, plain.2⟩]
            rfl
      cases lower : ch.isLower with
      | true =>
          rw [capital, List.cons_append, keyLoop_capital lower,
            behind false (by rintro rfl; simp [shows, startsLower, lower])]
          simp [startsLower, lower]
      | false =>
          have notLower : ¬ ch.isLower = true := by rw [lower]; decide
          rw [capital, Char.toUpper_eq_of_not_isLower notLower,
            List.cons_append, keyLoop_plain plain.1,
            behind true (by rintro rfl; simp [shows, startsLower, lower])]
          simp [startsLower, lower]

/-- The words of a list come out with underscores between them. -/
theorem keyLoop_joined {separator : Char}
    (separates : isKeySeparator separator = true) :
    ∀ {words : List (List Char)}, AreWords words →
      keyLoop true false (joined separator words) = joined '_' words
  | [], _ => rfl
  | [word], areWords => by
      rw [joined_singleton, joined_singleton, ← List.append_nil word,
        keyLoop_word (areWords word (List.mem_singleton_self word)),
        List.append_nil]
      exact List.append_nil word
  | first :: second :: rest, areWords => by
      rw [AreWords, List.forall_mem_cons] at areWords
      rw [joined_cons_cons, joined_cons_cons, keyLoop_word areWords.1,
        keyLoop_separator separates, keyLoop_joined separates areWords.2]
      rfl

/-- What stands behind a piece is joined to it or opens the next. -/
theorem append_keyLoop_capitals (piece : List Char) :
    ∀ {shown : Bool} {words : List (List Char)}, AreWords words →
      piece ++ keyLoop false shown (words.flatMap capital) =
        joined '_' (joinHumps shown piece words) := by
  intro shown words
  induction words generalizing piece shown with
  | nil =>
      intro _
      rw [joinHumps, joined_singleton]
      exact List.append_nil piece
  | cons word rest ih =>
      intro areWords
      rw [AreWords, List.forall_mem_cons] at areWords
      have opens : ((shown && !false) && startsLower word) =
          (shown && startsLower word) := by
        rw [Bool.not_false, Bool.and_true]
      rw [List.flatMap_cons, keyLoop_capitalWord areWords.1, opens, joinHumps]
      split_ifs
      · rw [ih word areWords.2]
        obtain ⟨first, others, isCons⟩ := List.exists_cons_of_ne_nil
          (joinHumps_ne_nil (shows word) word rest)
        rw [isCons, joined_cons_cons]
        rfl
      · rw [List.nil_append, ← List.append_assoc, ih (piece ++ word) areWords.2]

/-- The words behind their first letter. -/
theorem joined_cutBehindDigits_cons (ch : Char) {rest : List Char}
    (nonempty : rest ≠ []) :
    joined '_' (cutBehindDigits (ch :: rest)) =
      ch :: ((if ch.isDigit && startsLower rest then ['_'] else []) ++
        joined '_' (cutBehindDigits rest)) := by
  obtain ⟨second, others, rfl⟩ := List.exists_cons_of_ne_nil nonempty
  obtain ⟨piece, pieces, isCons, starts⟩ := cutBehindDigits_cons second others
  rw [cutBehindDigits, isCons]
  dsimp only
  rw [starts]
  split_ifs
  · rw [joined_cons_cons]
    rfl
  · exact joined_append_head [ch] piece pieces

theorem not_isDigit_of_isLower (lower : ch.isLower = true) :
    ch.isDigit = false := by
  rw [Bool.eq_false_iff]
  intro digit
  simp only [Char.isLower, Char.isDigit, Bool.and_eq_true,
    decide_eq_true_eq, UInt32.le_iff_toNat_le, ge_iff_le] at lower digit
  exact absurd (lower.1.trans digit.2) (by decide)

theorem keyLoop_toUpper (plain : (ch.isLower || ch.isDigit) = true)
    (rest : List Char) :
    keyLoop wasSeparator wasLowerOrDigit (ch.toUpper :: rest) =
      (if (wasLowerOrDigit && !wasSeparator) && ch.isLower then ['_']
        else []) ++ ch :: keyLoop false ch.isDigit rest := by
  cases lower : ch.isLower with
  | true =>
      rw [keyLoop_capital lower, not_isDigit_of_isLower lower, Bool.and_true]
  | false =>
      have notLower : ¬ ch.isLower = true := by rw [lower]; decide
      have digit : ch.isDigit = true := by simpa [lower] using plain
      rw [Char.toUpper_eq_of_not_isLower notLower, keyLoop_plain plain, digit,
        Bool.and_false]
      rfl

/-- A word in capital letters comes out in the pieces that digits end. -/
theorem keyLoop_screamed :
    ∀ {word : List Char} {wasSeparator wasLowerOrDigit : Bool},
      IsWord word →
        ∃ flag, ∀ rest,
          keyLoop wasSeparator wasLowerOrDigit
              (word.map Char.toUpper ++ rest) =
            (if (wasLowerOrDigit && !wasSeparator) && startsLower word
              then ['_'] else []) ++
              (joined '_' (cutBehindDigits word) ++
                keyLoop false flag rest) := by
  intro word
  induction word with
  | nil => exact fun isWord => absurd rfl isWord.1
  | cons ch others ih =>
      rintro wasSeparator wasLowerOrDigit ⟨-, plain⟩
      rw [List.forall_mem_cons] at plain
      by_cases isLast : others = []
      · subst isLast
        exact ⟨ch.isDigit, fun rest => keyLoop_toUpper plain.1 rest⟩
      · obtain ⟨flag, behind⟩ := @ih false ch.isDigit ⟨isLast, plain.2⟩
        refine ⟨flag, fun rest => ?_⟩
        rw [List.map_cons, List.cons_append, keyLoop_toUpper plain.1, behind,
          joined_cutBehindDigits_cons ch isLast, List.cons_append,
          List.append_assoc, Bool.not_false, Bool.and_true]
        rfl

/-- Words in capital letters. -/
theorem keyLoop_screaming :
    ∀ {words : List (List Char)}, AreWords words →
      keyLoop true false (joined '_' (words.map (List.map Char.toUpper))) =
        joined '_' (words.flatMap cutBehindDigits)
  | [], _ => rfl
  | [word], areWords => by
      obtain ⟨flag, screamed⟩ := @keyLoop_screamed word true false
        (areWords word (List.mem_singleton_self word))
      have alone := screamed []
      rw [List.append_nil, keyLoop, List.append_nil] at alone
      rw [List.map_singleton, joined_singleton, alone,
        List.flatMap_singleton]
      rfl
  | first :: second :: rest, areWords => by
      rw [AreWords, List.forall_mem_cons] at areWords
      obtain ⟨flag, screamed⟩ := @keyLoop_screamed first true false areWords.1
      have behind := keyLoop_screaming areWords.2
      rw [List.map_cons] at behind
      have isSeparator : isKeySeparator '_' = true := rfl
      rw [List.map_cons, List.map_cons, joined_cons_cons, screamed,
        keyLoop_separator isSeparator, behind]
      have firstNonempty : cutBehindDigits first ≠ [] := by
        obtain ⟨ch, others, rfl⟩ := List.exists_cons_of_ne_nil areWords.1.1
        obtain ⟨piece, pieces, isCons, -⟩ := cutBehindDigits_cons ch others
        rw [isCons]
        exact List.cons_ne_nil _ _
      have restNonempty : (second :: rest).flatMap cutBehindDigits ≠ [] := by
        obtain ⟨ch, others, rfl⟩ := List.exists_cons_of_ne_nil
          (areWords.2 second List.mem_cons_self).1
        obtain ⟨piece, pieces, isCons, -⟩ := cutBehindDigits_cons ch others
        rw [List.flatMap_cons, isCons]
        exact List.cons_ne_nil _ _
      exact (joined_append firstNonempty restNonempty).symm

end Loop

/-- The loop puts an underscore between the pieces. -/
theorem keyLoop_spell (style : Style) {words : List (List Char)}
    (areWords : AreWords words) :
    keyLoop true false (spell style words) =
      joined '_' (pieces style words) := by
  cases style with
  | snake => exact keyLoop_joined rfl areWords
  | kebab => exact keyLoop_joined rfl areWords
  | spaced => exact keyLoop_joined rfl areWords
  | screaming => exact keyLoop_screaming areWords
  | camel =>
      cases words with
      | nil => rfl
      | cons first rest =>
          rw [AreWords, List.forall_mem_cons] at areWords
          rw [spell, keyLoop_word areWords.1,
            append_keyLoop_capitals first areWords.2]
          rfl
  | pascal =>
      cases words with
      | nil => rfl
      | cons first rest =>
          rw [AreWords, List.forall_mem_cons] at areWords
          rw [spell, List.flatMap_cons, keyLoop_capitalWord areWords.1,
            append_keyLoop_capitals first areWords.2]
          rfl

/-! ## The normalised key -/

section Normalised

variable {words : List (List Char)}

theorem areWords_joinHumps :
    ∀ {shown : Bool} {piece : List Char} {words : List (List Char)},
      IsWord piece → AreWords words → AreWords (joinHumps shown piece words)
  | _, piece, [], isWord, _ => by
      intro word member
      rw [joinHumps, List.mem_singleton] at member
      exact member ▸ isWord
  | shown, piece, word :: rest, isWord, areWords => by
      rw [AreWords, List.forall_mem_cons] at areWords
      rw [joinHumps]
      split_ifs
      · exact List.forall_mem_cons.mpr
          ⟨isWord, areWords_joinHumps areWords.1 areWords.2⟩
      · refine areWords_joinHumps ⟨?_, ?_⟩ areWords.2
        · exact List.append_ne_nil_of_left_ne_nil isWord.1 word
        · intro ch member
          rcases List.mem_append.mp member with front | back
          · exact isWord.2 ch front
          · exact areWords.1.2 ch back

theorem areWords_cutBehindDigits :
    ∀ {word : List Char}, (∀ ch ∈ word, (ch.isLower || ch.isDigit) = true) →
      AreWords (cutBehindDigits word)
  | [], _ => fun _ => nofun
  | ch :: rest, plain => by
      rw [List.forall_mem_cons] at plain
      have behind := areWords_cutBehindDigits plain.2
      have alone : IsWord [ch] :=
        ⟨List.cons_ne_nil _ _, by simpa using plain.1⟩
      rw [cutBehindDigits]
      split
      · exact List.forall_mem_singleton.mpr alone
      · rename_i piece pieces isCons
        rw [isCons, AreWords, List.forall_mem_cons] at behind
        split_ifs
        · exact List.forall_mem_cons.mpr
            ⟨alone, List.forall_mem_cons.mpr behind⟩
        · refine List.forall_mem_cons.mpr ⟨⟨List.cons_ne_nil _ _, ?_⟩,
            behind.2⟩
          exact List.forall_mem_cons.mpr ⟨plain.1, behind.1.2⟩

theorem areWords_pieces (style : Style) (areWords : AreWords words) :
    AreWords (pieces style words) := by
  cases style with
  | snake => exact areWords
  | kebab => exact areWords
  | spaced => exact areWords
  | screaming =>
      intro piece member
      obtain ⟨word, isIn, isPiece⟩ := List.mem_flatMap.mp member
      exact areWords_cutBehindDigits (areWords word isIn).2 piece isPiece
  | camel =>
      cases words with
      | nil => exact areWords
      | cons first rest =>
          rw [AreWords, List.forall_mem_cons] at areWords
          exact areWords_joinHumps areWords.1 areWords.2
  | pascal =>
      cases words with
      | nil => exact areWords
      | cons first rest =>
          rw [AreWords, List.forall_mem_cons] at areWords
          exact areWords_joinHumps areWords.1 areWords.2

theorem separable_of_areWords (areWords : AreWords words) :
    Separable '_' words := by
  intro word member
  refine ⟨(areWords word member).1, ?_⟩
  intro isIn
  exact absurd ((areWords word member).2 '_' isIn) (by decide)

theorem trimMatches_eq_self {pattern : Char} {text : List Char}
    (front : text.head? ≠ some pattern)
    (back : text.getLast? ≠ some pattern) :
    trimMatches pattern text = text := by
  have drop : ∀ {chars : List Char}, chars.head? ≠ some pattern →
      chars.dropWhile (· == pattern) = chars := by
    intro chars other
    cases chars with
    | nil => rfl
    | cons ch rest =>
        have differs : (ch == pattern) = false := by
          rw [beq_eq_false_iff_ne]
          rintro rfl
          exact other rfl
        rw [List.dropWhile_cons_of_neg (by rw [differs]; decide)]
  rw [trimMatches, trimEndMatches, drop front,
    drop (by rwa [List.head?_reverse]), List.reverse_reverse]

/-- Joined words start and end with a letter or digit. -/
theorem joined_ends (areWords : AreWords words) :
    (joined '_' words).head? ≠ some '_' ∧
      (joined '_' words).getLast? ≠ some '_' := by
  have notIn : ∀ word ∈ words, '_' ∉ word := fun word member =>
    (separable_of_areWords areWords word member).2
  constructor
  · cases words with
    | nil => exact nofun
    | cons first rest =>
        obtain ⟨ch, others, isCons⟩ := List.exists_cons_of_ne_nil
          (areWords first List.mem_cons_self).1
        have starts : (joined '_' (first :: rest)).head? = some ch := by
          have front : joined '_' ((first ++ []) :: rest) =
              first ++ joined '_' ([] :: rest) :=
            joined_append_head first [] rest
          rw [List.append_nil] at front
          rw [front, isCons]
          rfl
        rw [starts]
        intro isSeparator
        cases isSeparator
        exact notIn first List.mem_cons_self (isCons ▸ List.mem_cons_self)
  · rcases List.eq_nil_or_concat words with rfl | ⟨init, last, rfl⟩
    · exact nofun
    · rw [List.concat_eq_append] at areWords notIn ⊢
      have isLast : last ∈ init ++ [last] :=
        List.mem_append_right _ (List.mem_singleton_self _)
      have nonempty := (areWords last isLast).1
      have ends : (joined '_' (init ++ [last])).getLast? = last.getLast? := by
        by_cases isEmpty : init = []
        · rw [isEmpty, List.nil_append, joined_singleton]
        · rw [joined_append isEmpty (List.cons_ne_nil _ _), joined_singleton,
            List.getLast?_append_of_ne_nil _ (List.cons_ne_nil _ _),
            List.getLast?_cons_of_ne_nil nonempty]
      rw [ends]
      intro isSeparator
      exact notIn last isLast (List.mem_of_getLast? isSeparator)

/-- The normalised key has an underscore between the pieces. -/
theorem normalizedSecretKey_render (style : Style)
    (areWords : AreWords words) :
    normalizedSecretKey (render style words) =
      joined '_' (pieces style words) := by
  obtain ⟨front, back⟩ := joined_ends (areWords_pieces style areWords)
  rw [normalizedSecretKey, render, String.toList_ofList,
    keyLoop_spell style areWords, trimMatches_eq_self front back]

end Normalised

end OpenSnow.Server.SecretPayloads
