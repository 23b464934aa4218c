import OpenSnow.Core.QueryTrailers
import OpenSnow.Server.ExportSql

/-!
# The statements of an export

The validator counts statements with a scanner that knows quotes and no
comments.  The engine knows both, so a quote in a comment can hide from the
validator where a statement ends for the engine.
-/

namespace OpenSnow.Server.Rest

open Rust.Text
open Sql
open Server.SqlGuardrails
  (Inert inert_append inert_cons next_append_inert ordinary_of_inert
    textWords)

/-! ## Where statements end -/

/--
A semicolon is outside of quotes and comments, but in a quote for the scanner
without comments, and more than blanks and semicolons follow it.
-/
def HidesEnd (aware ignorant : Reading) : List Char → Prop
  | [] => False
  | ch :: rest =>
      (ch = ';' ∧ aware = .plain ∧ ignorant ≠ .plain ∧ ¬ Inert rest) ∨
        HidesEnd (aware.next true ch rest) (ignorant.next false ch rest) rest

variable {aware ignorant : Reading}

theorem hidesEnd_inert {text : List Char}
    (inert : Inert text) : ¬ HidesEnd aware ignorant text := by
  induction text generalizing aware ignorant with
  | nil => exact id
  | cons ch rest ih =>
      rw [inert_cons] at inert
      rintro (⟨-, -, -, more⟩ | later)
      · exact more inert.2
      · exact ih inert.2 later

theorem hidesEnd_inert_append {front : List Char} (inert : Inert front)
    (text : List Char) :
    HidesEnd .plain .plain (front ++ text) ↔ HidesEnd .plain .plain text := by
  induction front with
  | nil => rfl
  | cons ch rest ih =>
      rw [inert_cons] at inert
      have ordinary := ordinary_of_inert inert.1
      rw [List.cons_append, HidesEnd, ordinary.next, ordinary.next, ih inert.2]
      simp

theorem hidesEnd_append_inert {tail : List Char}
    (soundAware : QuotesOnly aware) (soundIgnorant : QuotesOnly ignorant)
    (inert : Inert tail) (text : List Char) :
    HidesEnd aware ignorant (text ++ tail) ↔ HidesEnd aware ignorant text := by
  induction text generalizing aware ignorant with
  | nil => exact iff_of_false (hidesEnd_inert inert) id
  | cons ch rest ih =>
      have heads : ∀ other ∈ tail.head?, isWhitespace other ∨ other = ';' :=
        fun other isHead => inert other (List.mem_of_mem_head? isHead)
      have ends : Inert (rest ++ tail) ↔ Inert rest := by
        simp [inert_append, inert]
      rw [List.cons_append, HidesEnd, HidesEnd, ends,
        next_append_inert soundAware heads,
        next_append_inert soundIgnorant heads,
        ih (soundAware.next true ch rest) (soundIgnorant.next false ch rest)]

/-! ## The statements that the engine finds -/

theorem isTrailer_of_inert {text : List Char} (inert : Inert text) :
    Core.Commands.IsTrailer text := fun ch member =>
  (inert ch member).symm

variable {current text : List Char}

theorem inert_of_splitLoop_core {reading : Reading}
    (none : Core.Commands.splitLoop reading current text = []) :
    Inert (current ++ text) := by
  have blank : ∀ {part : List Char} {more : List (List Char)},
      Core.Commands.keepStatement part more = [] →
        Blank part ∧ more = [] := by
    intro part more none
    by_cases blank : Blank part
    · rw [Core.Commands.keepStatement_blank blank] at none
      exact ⟨blank, none⟩
    · rw [Core.Commands.keepStatement_solid blank] at none
      cases none
  induction text generalizing reading current with
  | nil =>
      rw [Core.Commands.splitLoop] at none
      rw [List.append_nil]
      exact SqlGuardrails.inert_of_blank (blank none).1
  | cons ch rest ih =>
      rw [Core.Commands.splitLoop] at none
      split at none
      · rename_i ends
        rcases blank none with ⟨isBlank, later⟩
        rw [inert_append, inert_cons]
        exact
          ⟨SqlGuardrails.inert_of_blank isBlank, .inr ends.2, ih later⟩
      · have later := ih none
        rwa [List.append_assoc, List.singleton_append] at later

theorem splitLoop_core_nil {text : List Char} :
    Core.Commands.splitLoop .plain [] text = [] ↔ Inert text := by
  constructor
  · exact fun none => inert_of_splitLoop_core none
  · intro inert
    exact
      Core.Commands.splitLoop_trailer blank_nil (isTrailer_of_inert inert)

/-- Behind the start of a statement another one follows a hidden end only. -/
theorem splitLoop_core_one (solid : ¬ Blank current)
    (uncut : Uncut ignorant text []) :
    (Core.Commands.splitLoop aware current text).length = 1 ↔
      ¬ HidesEnd aware ignorant text := by
  induction text generalizing aware ignorant current with
  | nil =>
      rw [Core.Commands.splitLoop, Core.Commands.keepStatement_solid solid]
      exact iff_of_true rfl id
  | cons ch rest ih =>
      have later := uncut.2
      rw [List.append_nil] at later
      rw [Core.Commands.splitLoop, HidesEnd]
      split
      · rename_i ends
        have inQuote : ignorant ≠ .plain := fun plain =>
          uncut.1 ⟨plain, ends.2⟩
        rw [Core.Commands.keepStatement_solid solid, List.length_cons,
          Nat.add_eq_right, List.length_eq_zero_iff, splitLoop_core_nil]
        constructor
        · rintro inert (⟨-, -, -, more⟩ | hidden)
          · exact more inert
          · exact hidesEnd_inert inert hidden
        · intro open'
          by_contra more
          exact open' (.inl ⟨ends.2, ends.1, inQuote, more⟩)
      · rename_i goesOn
        have filled : ¬ Blank (current ++ [ch]) := fun blank =>
          solid (blank_append.mp blank).1
        rw [ih filled later]
        constructor
        · rintro open' (⟨isEnd, plain, -⟩ | hidden)
          · exact goesOn ⟨plain, isEnd⟩
          · exact open' hidden
        · exact fun open' hidden => open' (.inr hidden)

/-- A statement of the validator starts and ends with something. -/
theorem trimmed_of_splitLoop {reading : Reading} {statement : String}
    (member : statement ∈ splitLoop reading current text) :
    statement.toList ≠ [] ∧ Trimmed statement.toList := by
  have kept : ∀ {part : List Char} {more : List String},
      statement ∈ keepStatement part more →
        statement.toList ≠ [] ∧ Trimmed statement.toList ∨
          statement ∈ more := by
    intro part more member
    rw [keepStatement] at member
    split at member
    · exact .inr member
    · rename_i filled
      rcases List.mem_cons.mp member with rfl | later
      · rw [String.toList_ofList]
        exact .inl ⟨by simpa using filled, trimmed_trim part⟩
      · exact .inr later
  induction text generalizing reading current with
  | nil =>
      rw [splitLoop] at member
      exact (kept member).resolve_right List.not_mem_nil
  | cons ch rest ih =>
      rw [splitLoop] at member
      split at member
      · exact (kept member).elim id ih
      · exact ih member

/-- The one statement of the validator is one of the engine, if no end hides. -/
theorem splitSqlStatements_core_one {sql statement : String}
    (one : splitSqlStatements sql = [statement]) :
    (Core.Commands.splitSqlStatements statement.toList).length = 1 ↔
      ¬ HidesEnd .plain .plain sql.toList := by
  have member : statement ∈ splitLoop .plain [] sql.toList := by
    rw [← splitSqlStatements, one]
    exact List.mem_singleton_self statement
  rcases trimmed_of_splitLoop member with ⟨nonempty, trimmed⟩
  rcases surrounded_of_split one with
    ⟨front, tail, shape, before, after, uncut⟩
  have plain : QuotesOnly .plain := trivial
  rw [shape, hidesEnd_inert_append before,
    hidesEnd_append_inert plain plain after,
    Core.Commands.splitSqlStatements]
  cases form : statement.toList with
  | nil => exact absurd form nonempty
  | cons ch rest =>
      rw [form] at uncut trimmed
      have notEnd : ch ≠ ';' := fun isEnd => uncut.1 ⟨rfl, isEnd⟩
      have later := uncut.2
      rw [List.append_nil] at later
      have solid : ¬ Blank [ch] := by
        have starts := Foundation.stops_cons.mp trimmed.1
        simp [starts]
      rw [Core.Commands.splitLoop, if_neg (fun ends => notEnd ends.2),
        List.nil_append, splitLoop_core_one solid later, HidesEnd]
      simp [notEnd]

/-- An accepted text is one statement for the validator. -/
theorem validateExport_ok {sql statement : String}
    (accepted : validateExportPostgresSql sql = .ok statement) :
    splitSqlStatements sql = [statement] := by
  rw [validateExportPostgresSql] at accepted
  split_ifs at accepted
  split at accepted
  · rename_i only one
    rw [validateExportStatement] at accepted
    split_ifs at accepted
    split at accepted
    · cases accepted
    · injection accepted with same
      rw [one, same]
  · cases accepted

/--
An accepted text is one statement for the engine, without a word that changes
something, if and only if no quote in a comment hides the end of a statement.
-/
theorem export_one_statement_iff {sql statement : String}
    (accepted : validateExportPostgresSql sql = .ok statement) :
    (Core.Commands.splitSqlStatements statement.toList).length = 1 ∧
        (∀ word ∈ textWords statement.toList,
          ¬ isExportPostgresMutatingKeyword (toAsciiUppercase word)) ↔
      ¬ HidesEnd .plain .plain sql.toList := by
  have one := validateExport_ok accepted
  have words := export_words accepted
  rw [← textWords_of_split one] at words
  rw [splitSqlStatements_core_one one, and_iff_left words]

theorem export_one_statement_iff_select :
    validateExportPostgresSql "SELECT 1" = .ok "SELECT 1" ∧
      ((Core.Commands.splitSqlStatements "SELECT 1".toList).length = 1 ∧
          (∀ word ∈ textWords "SELECT 1".toList,
            ¬ isExportPostgresMutatingKeyword (toAsciiUppercase word)) ↔
        ¬ HidesEnd .plain .plain "SELECT 1".toList) := by
  have accepted : validateExportPostgresSql "SELECT 1" = .ok "SELECT 1" := by
    decide
  exact ⟨accepted, export_one_statement_iff accepted⟩

/-- A quote in a comment hides the end of the first of two statements. -/
theorem export_two_statements :
    validateExportPostgresSql "SELECT 1 -- it's\n; SELECT 2" =
        .ok "SELECT 1 -- it's\n; SELECT 2" ∧
      (Core.Commands.splitSqlStatements
        "SELECT 1 -- it's\n; SELECT 2".toList).length ≠ 1 :=
  ⟨by decide, by decide⟩

end OpenSnow.Server.Rest
