import OpenSnow.Core.CreateTableAs

/-!
# Layouts of command statements

A documented command is a sequence of keywords and operands.  A layout of it
chooses the letter case of the keywords, the white space between the pieces, the
comments in front and the semicolons behind.
-/

namespace OpenSnow.Core.Commands

open Foundation
open Rust.Text
open Sql

/-! ## Operands -/

structure Identifier where
  text : List Char
  isIdentifier : IsIdentifier text

/-- The query of a creation. -/
structure Query where
  text : List Char
  isQuery : IsQuery text

/-- A path that can stand between single quotes. -/
structure SourcePath where
  text : List Char
  noQuote : '\'' ∉ text

inductive WarehouseOption where
  | size
  | minNodes
  | maxNodes
  | autoSuspend

def WarehouseOption.keyword : WarehouseOption → String
  | .size => "SIZE"
  | .minNodes => "MIN_NODES"
  | .maxNodes => "MAX_NODES"
  | .autoSuspend => "AUTO_SUSPEND"

/-- The value of a warehouse option, as it is written. -/
structure OptionValue where
  text : List Char
  nonempty : text ≠ []
  noBreak : ∀ ch ∈ text, isOptionBreak ch = false

inductive WarehouseAction where
  | resume
  | suspend
  | setState (state : Identifier)

/-! ## Statements -/

/-- The documented forms of the commands. -/
inductive Statement where
  | copyInto (table : Identifier) (path : SourcePath)
  | dropTable (ifExists : Bool) (table : Identifier)
  | alterWarehouse (name : Identifier) (action : WarehouseAction)
  | useWarehouse (name : Identifier)
  | createWarehouse (name : Identifier)
      (options : List (WarehouseOption × OptionValue))
  | createMaterializedView (name : Identifier) (query : Query)
  | refreshMaterializedView (name : Identifier)
  | dropMaterializedView (name : Identifier)
  | createTable (name : Identifier) (query : Query)

/-- A part of a statement: a keyword in any letter case, or a fixed text. -/
inductive Piece where
  | keyword (word : String)
  | fixed (text : List Char)

/-- The piece as it is documented. -/
def Piece.own : Piece → List Char
  | .keyword word => word.toList
  | .fixed text => text

def Piece.SpelledBy : Piece → List Char → Prop
  | .keyword word, spelled => Spells spelled word
  | .fixed text, spelled => spelled = text

def WarehouseAction.pieces : WarehouseAction → List Piece
  | .resume => [.keyword "RESUME"]
  | .suspend => [.keyword "SUSPEND"]
  | .setState state =>
      [.keyword "SET", .keyword "STATE", .fixed ['='], .fixed state.text]

def optionPieces (option : WarehouseOption × OptionValue) : List Piece :=
  [.keyword option.1.keyword, .fixed ['='], .fixed option.2.text]

/-- The options of `CREATE WAREHOUSE` behind `WITH`, if there are any. -/
def optionListPieces :
    List (WarehouseOption × OptionValue) → List Piece
  | [] => []
  | option :: more =>
      .keyword "WITH" :: (option :: more).flatMap optionPieces

def Statement.pieces : Statement → List Piece
  | .copyInto table path =>
      [.keyword "COPY", .keyword "INTO", .fixed table.text, .keyword "FROM",
        .fixed ('\'' :: (path.text ++ ['\'']))]
  | .dropTable false table =>
      [.keyword "DROP", .keyword "TABLE", .fixed table.text]
  | .dropTable true table =>
      [.keyword "DROP", .keyword "TABLE", .keyword "IF", .keyword "EXISTS",
        .fixed table.text]
  | .alterWarehouse name action =>
      [.keyword "ALTER", .keyword "WAREHOUSE", .fixed name.text] ++
        action.pieces
  | .useWarehouse name =>
      [.keyword "USE", .keyword "WAREHOUSE", .fixed name.text]
  | .createWarehouse name options =>
      [.keyword "CREATE", .keyword "WAREHOUSE", .fixed name.text] ++
        optionListPieces options
  | .createMaterializedView name query =>
      [.keyword "CREATE", .keyword "MATERIALIZED", .keyword "VIEW",
        .fixed name.text, .keyword "AS", .fixed query.text]
  | .refreshMaterializedView name =>
      [.keyword "REFRESH", .keyword "MATERIALIZED", .keyword "VIEW",
        .fixed name.text]
  | .dropMaterializedView name =>
      [.keyword "DROP", .keyword "MATERIALIZED", .keyword "VIEW",
        .fixed name.text]
  | .createTable name query =>
      [.keyword "CREATE", .keyword "TABLE", .fixed name.text, .keyword "AS",
        .fixed query.text]

/-! ## Layouts -/

/-- White space and terminated comments. -/
inductive Lead : List Char → Prop where
  | nil : Lead []
  | blank {ch : Char} {rest : List Char} :
      isWhitespace ch → Lead rest → Lead (ch :: rest)
  | block {comment rest : List Char} : ¬ ['*', '/'] <:+: comment →
      Lead rest → Lead ('/' :: '*' :: (comment ++ '*' :: '/' :: rest))
  | line {comment rest : List Char} : '\n' ∉ comment → Lead rest →
      Lead ('-' :: '-' :: (comment ++ '\n' :: rest))

/-- Non-empty white space. -/
structure Gap where
  text : List Char
  nonempty : text ≠ []
  blank : Blank text

/-- One blank. -/
def Gap.one : Gap := ⟨[' '], List.cons_ne_nil _ _, by simp [isWhitespace]⟩

/-- Words with a gap before all but the first. -/
def spread : List (List Char) → List Gap → List Char
  | word :: next :: words, gap :: gaps =>
      word ++ (gap.text ++ spread (next :: words) gaps)
  | words, _ => words.flatten

/-- Semicolons and white space. -/
def IsTrailer (text : List Char) : Prop :=
  ∀ ch ∈ text, ch = ';' ∨ isWhitespace ch

theorem isTrailer_nil : IsTrailer [] := List.forall_mem_nil _

structure Layout (pieces : List Piece) where
  lead : List Char
  isLead : Lead lead
  spelled : List (List Char)
  spells : List.Forall₂ Piece.SpelledBy pieces spelled
  gaps : List Gap
  gapCount : gaps.length + 1 = pieces.length
  trailer : List Char
  isTrailer : IsTrailer trailer

namespace Layout

variable {pieces : List Piece}

/-- The pieces in their spelling with the gaps between them. -/
def body (layout : Layout pieces) : List Char :=
  spread layout.spelled layout.gaps

def text (layout : Layout pieces) : String :=
  String.ofList (layout.lead ++ (layout.body ++ layout.trailer))

/-- The gap before the second piece and so on. -/
def gap (layout : Layout pieces) (index : Nat) : List Char :=
  ((layout.gaps[index]?).map Gap.text).getD []

end Layout

/-! ## The documented layout -/

/-- A keyword of the documentation is a word in upper case. -/
def Piece.isOwn : Piece → Bool
  | .keyword word =>
      word.toList.map Char.toUpper == word.toList &&
        word.toList.all isSqlIdentifierChar && !word.toList.isEmpty
  | .fixed _ => true

theorem Piece.spelledBy_own {piece : Piece} (isOwn : piece.isOwn) :
    piece.SpelledBy piece.own := by
  cases piece with
  | keyword word =>
      simp only [Piece.isOwn, Bool.and_eq_true, beq_iff_eq,
        Bool.not_eq_true', List.isEmpty_eq_false_iff] at isOwn
      exact ⟨isOwn.1.1, isOwn.1.2, isOwn.2⟩
  | fixed text => rfl

theorem WarehouseOption.keyword_own (option : WarehouseOption) :
    (Piece.keyword option.keyword).isOwn := by
  cases option <;> decide

theorem optionListPieces_own (options : List (WarehouseOption × OptionValue)) :
    (optionListPieces options).all Piece.isOwn := by
  have each : ∀ option, (optionPieces option).all Piece.isOwn := by
    intro option
    rw [optionPieces, List.all_cons, option.1.keyword_own]
    rfl
  cases options with
  | nil => rfl
  | cons option more =>
      rw [optionListPieces, List.all_cons, List.all_flatMap,
        List.all_eq_true.mpr fun other _ => each other]
      rfl

theorem Statement.pieces_own (statement : Statement) :
    statement.pieces.all Piece.isOwn := by
  cases statement with
  | dropTable ifExists table => cases ifExists <;> rfl
  | alterWarehouse name action => cases action <;> rfl
  | createWarehouse name options =>
      rw [Statement.pieces, List.all_append, optionListPieces_own]
      rfl
  | _ => rfl

theorem Statement.pieces_ne_nil (statement : Statement) :
    statement.pieces ≠ [] := by
  cases statement with
  | dropTable ifExists table => cases ifExists <;> exact List.cons_ne_nil _ _
  | _ => exact List.cons_ne_nil _ _

/-- The statement in upper case, with single blanks between its pieces. -/
def Statement.documented (statement : Statement) :
    Layout statement.pieces where
  lead := []
  isLead := .nil
  spelled := statement.pieces.map Piece.own
  spells := by
    rw [List.forall₂_map_right_iff, List.forall₂_same]
    exact fun piece member =>
      Piece.spelledBy_own (List.all_eq_true.mp statement.pieces_own piece member)
  gaps := List.replicate (statement.pieces.length - 1) Gap.one
  gapCount := by
    rw [List.length_replicate]
    exact Nat.sub_add_cancel
      (List.length_pos_iff.mpr statement.pieces_ne_nil)
  trailer := []
  isTrailer := isTrailer_nil

/-! ## What stands in front -/

theorem Lead.stripped_append {lead : List Char} (isLead : Lead lead)
    (rest : List Char) : stripped (lead ++ rest) = stripped rest := by
  induction isLead with
  | nil => rfl
  | blank blank others ih =>
      rw [List.cons_append, stripped_blank blank, ih]
  | block unended others ih =>
      rw [List.cons_append, List.cons_append, List.append_assoc,
        List.cons_append, List.cons_append, stripped_block unended, ih]
  | line oneLine others ih =>
      rw [List.cons_append, List.cons_append, List.append_assoc,
        List.cons_append, stripped_line oneLine, ih]

/-- A text that begins with a word is left as it is. -/
theorem stripped_word {word rest : List Char} {keyword : String}
    (spells : Spells word keyword) : stripped (word ++ rest) = word ++ rest := by
  cases word with
  | nil => exact absurd rfl spells.ne_nil
  | cons ch word =>
      have named := spells.named ch List.mem_cons_self
      have whole : trimStart (ch :: word ++ rest) = ch :: word ++ rest :=
        trimStart_of_stops (stops_cons.mpr (not_isWhitespace_of_alphanum named))
      rw [stripped_of_no_comment, whole]
      · intro other shape
        rw [whole, List.cons_append, List.cons.injEq] at shape
        rw [shape.1] at named
        revert named
        decide
      · intro other shape
        rw [whole, List.cons_append, List.cons.injEq] at shape
        rw [shape.1] at named
        revert named
        decide

end OpenSnow.Core.Commands
