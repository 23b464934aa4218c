import OpenSnow.Core.AlteringCommands
import OpenSnow.Server.PolicyCoverage

/-!
# The first word for the object policy

The analyser and the engine agree on the letters that a statement starts with,
unless a comment stands in front, which is a word like others for the analyser.
-/

namespace OpenSnow.Server

open Auth
open Core.Commands
open Rust.Text

/-- A run of letters. -/
def Letters (text : List Char) : Prop := text ≠ [] ∧ ∀ ch ∈ text, ch.isAlpha

theorem flush_ne_nil {current : List Char} (nonempty : current ≠ [])
    (tokens : List String) :
    flush current tokens = String.ofList current :: tokens := by
  rw [flush, if_neg]
  rwa [List.isEmpty_iff]

theorem isSeparator_of_blank {ch : Char} (blank : isWhitespace ch) :
    isSeparator ch := by
  rw [isSeparator, blank, Bool.true_or]

theorem not_isSeparator_of_letter {ch : Char} (letter : ch.isAlpha) :
    isSeparator ch = false := by
  have named : ch.isAlphanum || ch == '_' := by simp [Char.isAlphanum, letter]
  rw [isSeparator, not_isWhitespace_of_alphanum named, Bool.false_or,
    decide_eq_false_iff_not]
  simp only [List.mem_cons, List.not_mem_nil, or_false, not_or]
  refine ⟨?_, ?_, ?_, ?_⟩ <;> rintro rfl <;> revert letter <;> decide

theorem ne_of_letter {ch other : Char} (letter : ch.isAlpha)
    (mark : ¬ other.isAlpha) : ch ≠ other := by
  rintro rfl
  exact mark letter

/-- A token that was begun is completed. -/
theorem tokenizeLoop_begun {current : List Char} (nonempty : current ≠ [])
    (inSingle inDouble : Bool) (text : List Char) :
    ∃ suffix more, tokenizeLoop current inSingle inDouble text =
      String.ofList (current ++ suffix) :: more := by
  induction text generalizing current inSingle inDouble with
  | nil =>
      rw [tokenizeLoop, flush_ne_nil nonempty]
      exact ⟨[], [], by rw [List.append_nil]⟩
  | cons ch rest ih =>
      have goesOn : ∀ single double : Bool,
          ∃ suffix more, tokenizeLoop (current ++ [ch]) single double rest =
            String.ofList (current ++ suffix) :: more := by
        intro single double
        rcases @ih (current ++ [ch]) (by simp) single double with
          ⟨suffix, more, tokens⟩
        rw [tokens, List.append_assoc]
        exact ⟨_, more, rfl⟩
      rw [tokenizeLoop, flush_ne_nil nonempty, flush_ne_nil nonempty]
      split_ifs
      · exact ⟨[], _, by rw [List.append_nil]⟩
      · exact goesOn _ _
      · exact ⟨[], _, by rw [List.append_nil]⟩
      · exact goesOn _ _
      · exact ih nonempty _ _

/-- Characters that are kept outside quotes. -/
def IsPlain (ch : Char) : Prop :=
  ch ≠ '\'' ∧ ch ≠ '"' ∧ isSeparator ch = false

theorem isPlain_of_letter {ch : Char} (letter : ch.isAlpha) : IsPlain ch :=
  ⟨ne_of_letter letter (by decide), ne_of_letter letter (by decide),
    not_isSeparator_of_letter letter⟩

theorem tokenizeLoop_plain {front : List Char}
    (plain : ∀ ch ∈ front, IsPlain ch) (current rest : List Char) :
    tokenizeLoop current false false (front ++ rest) =
      tokenizeLoop (current ++ front) false false rest := by
  induction front generalizing current with
  | nil => simp
  | cons ch front ih =>
      rcases plain ch List.mem_cons_self with
        ⟨noSingle, noDouble, noSeparator⟩
      rw [List.cons_append, tokenizeLoop, if_neg (by simp [noSingle]),
        if_neg (by simp [noDouble]), if_neg (by simp [noSeparator]),
        if_pos (by decide),
        ih fun other member => plain other (List.mem_cons_of_mem _ member)]
      simp

theorem tokenizeLoop_trimStart (text : List Char) :
    tokenizeLoop [] false false (trimStart text) =
      tokenizeLoop [] false false text := by
  induction text with
  | nil => rfl
  | cons ch rest ih =>
      by_cases blank : isWhitespace ch
      · have noSingle : ch ≠ '\'' := by
          rintro rfl
          revert blank
          decide
        have noDouble : ch ≠ '"' := by
          rintro rfl
          revert blank
          decide
        rw [trimStart, List.dropWhile_cons_of_pos blank, ← trimStart, ih,
          tokenizeLoop, if_neg (by simp [noSingle]),
          if_neg (by simp [noDouble]),
          if_pos (by simp [isSeparator_of_blank blank])]
        rfl
      · rw [trimStart, List.dropWhile_cons_of_neg blank]

/-- The first token starts with the plain characters that a text starts with. -/
theorem tokenizeSql_plain {sql : String} {front rest : List Char}
    (shape : trimStart sql.toList = front ++ rest) (nonempty : front ≠ [])
    (plain : ∀ ch ∈ front, IsPlain ch) :
    ∃ suffix more,
      tokenizeSql sql = String.ofList (front ++ suffix) :: more := by
  rw [tokenizeSql, ← tokenizeLoop_trimStart, shape, tokenizeLoop_plain plain,
    List.nil_append]
  exact tokenizeLoop_begun nonempty _ _ rest

theorem tokenizeSql_letters {sql : String} {front rest : List Char}
    (shape : trimStart sql.toList = front ++ rest) (letters : Letters front) :
    ∃ suffix more,
      tokenizeSql sql = String.ofList (front ++ suffix) :: more :=
  tokenizeSql_plain shape letters.1 fun ch member =>
    isPlain_of_letter (letters.2 ch member)

/-- A text whose first token starts with a letter has no comment in front. -/
theorem stripped_of_letter {sql first : String} {rest : List String}
    (tokens : tokenizeSql sql = first :: rest)
    (letter : ∀ ch ∈ first.toList.head?, ch.isAlpha) :
    stripped sql.toList = trimStart sql.toList := by
  have noMark : ∀ ch more, ¬ ch.isAlpha → IsPlain ch →
      trimStart sql.toList ≠ ch :: more := by
    intro ch more mark plain shape
    rcases @tokenizeSql_plain sql [ch] more shape (by simp) (by simpa) with
      ⟨suffix, others, found⟩
    rw [tokens, List.cons.injEq] at found
    rw [found.1, String.toList_ofList] at letter
    exact mark (letter ch rfl)
  apply stripped_of_no_comment
  · intro more
    exact noMark '/' _ (by decide) ⟨by decide, by decide, by decide⟩
  · intro more
    exact noMark '-' _ (by decide) ⟨by decide, by decide, by decide⟩

/-! ## Texts that ask for reads alone -/

/-- The statement asks for no object of its own. -/
def OwnsNothing (tokens : List String) (verb : String) : Prop :=
  verb ∈ ["SELECT", "WITH"] ∨
    (verb = "INSERT" ∧ collectInsertTarget tokens [] = []) ∨
    (verb = "CREATE" ∧
      collectTypedObjectRequirement tokens [] 1 .create = [])

/--
A text that asks for `SELECT` and for nothing else: a query, or a statement
about no object of its own in which some name is read from.
-/
structure ReadsAlone (tokens : List String) (verb : String) : Prop where
  ownsNothing : OwnsNothing tokens verb
  asks : verb ∈ ["SELECT", "WITH"] ∨ ∃ name, Introduced tokens name

def AsksReadsAlone (sql : String) : Prop :=
  ∃ first rest, tokenizeSql sql = first :: rest ∧
    ReadsAlone (first :: rest) (toAsciiUppercase first)

/-- The requirement is to read a table. -/
def IsRead (req : SqlRequirement) : Prop :=
  req.privilege = .select ∧ req.objectType = .table

variable {tokens : List String}

theorem collect_reads_iff {own : List SqlRequirement}
    (objects : ∀ req ∈ own, req.privilege ≠ .select) :
    (∀ req ∈ collectSelectRequirements tokens own, IsRead req) ↔ own = [] := by
  constructor
  · intro reads
    rw [List.eq_nil_iff_forall_not_mem]
    intro req member
    exact
      objects req member
        (reads req (mem_collectSelectRequirements.mpr (Or.inl member))).1
  · rintro rfl req member
    rcases mem_collectSelectRequirements.mp member with
      known | ⟨name, -, rfl⟩
    · cases known
    · exact ⟨rfl, rfl⟩

theorem collect_ne_nil_iff :
    collectSelectRequirements tokens [] ≠ [] ↔
      ∃ name, Introduced tokens name := by
  constructor
  · intro nonempty
    rcases List.exists_mem_of_ne_nil _ nonempty with ⟨req, member⟩
    rcases mem_collectSelectRequirements.mp member with
      known | ⟨name, introduced, -⟩
    · cases known
    · exact ⟨name, introduced⟩
  · rintro ⟨name, introduced⟩
    exact
      List.ne_nil_of_mem
        (mem_collectSelectRequirements.mpr (Or.inr ⟨name, introduced, rfl⟩))

/-- The analysis of a statement with an own part and the reads. -/
theorem readsAlone_collect_iff {verb : String}
    {own : List SqlRequirement} {query : Prop}
    (objects : ∀ req ∈ own, req.privilege ≠ .select)
    (owns : OwnsNothing tokens verb ↔ own = [])
    (isQuery : query ↔ verb ∈ ["SELECT", "WITH"]) :
    ReadsAlone tokens verb ↔
      (collectSelectRequirements tokens own ≠ [] ∨ query) ∧
        ∀ req ∈ collectSelectRequirements tokens own, IsRead req := by
  rw [collect_reads_iff objects, isQuery]
  constructor
  · rintro ⟨nothing, asks⟩
    have empty := owns.mp nothing
    rw [empty, collect_ne_nil_iff]
    exact ⟨asks.symm, rfl⟩
  · rintro ⟨asks, rfl⟩
    rw [collect_ne_nil_iff] at asks
    exact ⟨owns.mpr rfl, asks.symm⟩

/-- A statement that asks for its own object alone asks for no read. -/
theorem not_reads_of_typed {privilege : Privilege}
    {query : Prop} (own : privilege ≠ .select) (notQuery : ¬ query) :
    ¬ ((collectTypedObjectRequirement tokens [] 1 privilege ≠ [] ∨ query) ∧
      ∀ req ∈ collectTypedObjectRequirement tokens [] 1 privilege,
        IsRead req) := by
  rintro ⟨asked, reads⟩
  rcases List.exists_mem_of_ne_nil _ (asked.resolve_right notQuery) with
    ⟨req, member⟩
  apply own
  rw [← privilege_of_mem_collectTyped member]
  exact (reads req member).1

/-- The texts whose analysis asks for reads alone and is not refused. -/
theorem asksReadsAlone_iff {sql : String} :
    AsksReadsAlone sql ↔
      (analyzeSql sql ≠ [] ∨ isSafeObjectlessStatement sql) ∧
        ∀ req ∈ analyzeSql sql, IsRead req := by
  rw [analyzeSql, isSafeObjectlessStatement, AsksReadsAlone]
  cases tokens : tokenizeSql sql with
  | nil => simp
  | cons first rest =>
      have here :
          (∃ other more, first :: rest = other :: more ∧
              ReadsAlone (other :: more) (toAsciiUppercase other)) ↔
            ReadsAlone (first :: rest) (toAsciiUppercase first) := by
        constructor
        · rintro ⟨other, more, same, reads⟩
          rw [List.cons.injEq] at same
          rwa [← same.1, ← same.2] at reads
        · exact fun reads => ⟨first, rest, rfl, reads⟩
      rw [here]
      dsimp only [List.head?_cons, Option.any_some]
      rw [decide_eq_true_iff]
      generalize toAsciiUppercase first = verb
      split
      · exact readsAlone_collect_iff (by simp) (by simp [OwnsNothing]) Iff.rfl
      · exact readsAlone_collect_iff (by simp) (by simp [OwnsNothing]) Iff.rfl
      · apply iff_of_false
        · rintro ⟨nothing, -⟩
          simp [OwnsNothing] at nothing
        · exact not_reads_of_typed (by decide) (by decide)
      · have owns : OwnsNothing (first :: rest) "INSERT" ↔
            collectInsertTarget (first :: rest) [] = [] := by
          simp [OwnsNothing]
        have objects : ∀ req ∈ collectInsertTarget (first :: rest) [],
            req.privilege ≠ .select := fun req member =>
          (privilege_of_mem_collectInsertTarget member).trans_ne (by decide)
        exact readsAlone_collect_iff objects owns Iff.rfl
      · have owns : OwnsNothing (first :: rest) "CREATE" ↔
            collectTypedObjectRequirement (first :: rest) [] 1 .create = [] := by
          simp [OwnsNothing]
        have objects : ∀ req ∈
            collectTypedObjectRequirement (first :: rest) [] 1 .create,
            req.privilege ≠ .select := fun req member =>
          (privilege_of_mem_collectTyped member).trans_ne (by decide)
        exact readsAlone_collect_iff objects owns Iff.rfl
      · apply iff_of_false
        · rintro ⟨nothing, -⟩
          simp [OwnsNothing] at nothing
        · exact not_reads_of_typed (by decide) (by decide)
      · rename_i notSelect notWith notDrop notInsert notCreate notAlter
        apply iff_of_false
        · rintro ⟨nothing, -⟩
          rcases nothing with query | ⟨insert, -⟩ | ⟨create, -⟩
          · simp only [List.mem_cons, List.not_mem_nil, or_false] at query
            exact query.elim notSelect notWith
          · exact notInsert insert
          · exact notCreate create
        · rintro ⟨asked, -⟩
          simp only [ne_eq, not_true_eq_false, false_or, List.mem_cons,
            List.not_mem_nil, or_false] at asked
          exact asked.elim notSelect notWith

end OpenSnow.Server
