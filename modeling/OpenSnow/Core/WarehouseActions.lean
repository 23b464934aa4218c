import OpenSnow.Core.AlterLayouts
import OpenSnow.Core.WarehouseOptions

/-!
# The actions of `ALTER WAREHOUSE`

An action resumes, suspends or sets a state.  The handler reads `RESUME` and
`SUSPEND` as the second word, whatever follows it, and every other state behind
the first `SET` and the first `=` of the upper-case text, name included.
-/

namespace OpenSnow.Core.Commands

open Foundation
open Rust.Text

/-! ## Actions -/

/-- `SET STATE` with any white space around the `=`. -/
inductive AsksSet : List Char → String → Prop where
  | intro {set keyState value before after : List Char} {state : String}
      (gap : Gap) :
      Spells set "SET" → Spells keyState "STATE" → Blank before →
        Blank after → Spells value state →
          state = "RUNNING" ∨ state = "SUSPENDED" →
            AsksSet
              (set ++ (gap.text ++ (keyState ++ (before ++ '=' ::
                (after ++ value))))) state

/-- The state that an action asks for. -/
inductive Asks : List Char → String → Prop where
  | resume {word : List Char} : Spells word "RESUME" → Asks word "RUNNING"
  | suspend {word : List Char} :
      Spells word "SUSPEND" → Asks word "SUSPENDED"
  | set {action : List Char} {state : String} :
      AsksSet action state → Asks action state

/-- What stands behind the first word of a text. -/
def actionText (text : List Char) : List Char :=
  trim (text.dropWhile (!isWhitespace ·))

/-! ## What the handler takes for a state -/

/-- What stands behind the first `=` behind `STATE` behind the first `SET`. -/
def BehindSet (upper value : List Char) : Prop :=
  ∃ front between,
    upper = front ++ ("SET".toList ++ (between ++ '=' :: value)) ∧
      find "SET".toList upper = some (utf8Len front) ∧
      "STATE".toList <+: trimStart between ∧ '=' ∉ between

/-- The first word of a value, or the state without one. -/
def valueState (value : List Char) : String :=
  ((firstWord value).map String.ofList).getD "SUSPENDED"

/--
The state of an upper-case text: the second word says it, or it is found behind
the first `SET`.
-/
def TakesState (upper : List Char) (state : String) : Prop :=
  let second := ((splitWhitespace upper)[1]?).getD []
  if second = "RESUME".toList then state = "RUNNING"
  else if second = "SUSPEND".toList then state = "SUSPENDED"
  else
    (state = "RUNNING" ∨ state = "SUSPENDED") ∧
      ∃ value, BehindSet upper value ∧ valueState value = state

theorem trimStart_state {text : List Char}
    (starts : "STATE".toList <+: text) : trimStart text = text := by
  rcases starts with ⟨more, rfl⟩
  exact trimStart_of_stops (stops_cons.mpr (by decide))

/-- The handler reads the value behind the first `SET`. -/
theorem setState_behind {upper value : List Char}
    (behind : BehindSet upper value) :
    setState upper = some (.ok (valueState value)) := by
  rcases behind with ⟨front, between, shape, found, starts, noEquals⟩
  have nonempty : trimStart between ≠ [] := by
    intro empty
    rw [empty, List.prefix_nil] at starts
    cases starts
  have trimmed :
      trim (between ++ '=' :: value) =
        trimStart between ++ '=' :: trimEnd value := by
    have start :
        trimStart (between ++ '=' :: value) =
          trimStart between ++ '=' :: value := by
      have filled : ¬ (between.dropWhile isWhitespace).isEmpty := fun empty =>
        nonempty (List.isEmpty_iff.mp empty)
      rw [trimStart, List.dropWhile_append, if_neg filled]
      rfl
    have ends : Stops isWhitespace (trimStart between ++ ['=']).reverse := by
      rw [List.reverse_append]
      exact stops_cons.mpr (by decide)
    have whole := @trimEnd_append _ value ends
    rw [trim, start]
    simpa using whole
  have absent : '=' ∉ trimStart between := fun member =>
    noEquals ((List.dropWhile_suffix _).subset member)
  rcases @value_found _ (trimEnd value) absent with ⟨offset, equals, sliced⟩
  have isState :
      hasPrefix (trimStart between ++ '=' :: trimEnd value) "STATE" := by
    rw [hasPrefix, List.isPrefixOf_iff_prefix]
    exact starts.trans (List.prefix_append _ _)
  rw [shape] at found ⊢
  rw [setState_found found, trimmed, if_pos isState, equals]
  simp only [sliced, Option.map_some, firstWord_trimEnd]
  rfl

/-- Where there is no such value the handler answers with an error. -/
theorem setState_silent {upper : List Char}
    (silent : ∀ value, ¬ BehindSet upper value) :
    ∃ message, setState upper = some (.error message) := by
  cases found : find "SET".toList upper with
  | none => exact ⟨_, by rw [setState, found]⟩
  | some offset =>
      rcases find_eq_some found with ⟨front, behind, rfl, rfl⟩
      rw [setState_found found]
      split
      · rename_i isState
        cases equals : find ['='] (trim behind) with
        | none => exact ⟨_, rfl⟩
        | some eqPos =>
            exfalso
            rcases find_first equals with ⟨inner, value, split, -, first⟩
            rcases trim_shape behind with ⟨before, after, shape, front', back⟩
            have noEquals : '=' ∉ inner := by
              intro member
              rcases List.append_of_mem member with ⟨early, late, rfl⟩
              exact first (by simp) ⟨early, late, by simp⟩
            rw [split] at shape isState
            have starts : "STATE".toList <+: inner := by
              apply
                @prefix_of_stops _ _ (['='] ++ value) (· != '=')
                  (List.all_eq_true.mp (by decide))
              · exact stops_cons.mpr (by decide)
              · rwa [hasPrefix, List.isPrefixOf_iff_prefix] at isState
            apply silent (value ++ after)
            refine ⟨front, before ++ inner, ?_, found, ?_, ?_⟩
            · rw [shape]
              simp
            · rw [trimStart_blank_append front', trimStart_state starts]
              exact starts
            · simp only [List.mem_append, not_or]
              refine ⟨fun member => ?_, noEquals⟩
              have blank := front' '=' member
              revert blank
              decide
      · exact ⟨_, rfl⟩

variable {action : List Char} {state : String}

/-- The upper-case text of an action that sets a state. -/
theorem upperChars_asksSet (asks : AsksSet action state) :
    ∃ (gap : Gap) (before after : List Char), Blank before ∧ Blank after ∧
      (state = "RUNNING" ∨ state = "SUSPENDED") ∧
      upperChars action =
        "SET".toList ++ (gap.text ++ ("STATE".toList ++ (before ++ '=' ::
          (after ++ state.toList)))) := by
  rcases asks with
    ⟨gap, spellsSet, spellsState, blankBefore, blankAfter, spells, isState⟩
  rename_i set keyState value before after
  refine ⟨gap, before, after, blankBefore, blankAfter, isState, ?_⟩
  have upperValue := spells.upperChars []
  rw [List.append_nil] at upperValue
  have equals : ∀ text, upperChars ('=' :: text) = '=' :: upperChars text :=
    fun text => upperChars_append ['='] text
  rw [spellsSet.upperChars, gap.upperChars_append, spellsState.upperChars,
    upperChars_append, upperChars_of_blank blankBefore, equals,
    upperChars_append, upperChars_of_blank blankAfter, upperValue]
  simp [upperChars]

theorem valueState_named {after : List Char}
    (blank : Blank after) (isState : state = "RUNNING" ∨ state = "SUSPENDED") :
    valueState (after ++ state.toList) = state := by
  have named : state.toList ≠ [] ∧ state.toList.all (!isWhitespace ·) := by
    rcases isState with rfl | rfl <;> exact ⟨by decide, by decide⟩
  have solid : ∀ ch ∈ state.toList, isWhitespace ch = false := by
    simpa using named.2
  have first := @firstWord_name _ _ [] blank named.1 solid
  rw [List.append_nil] at first
  rw [valueState, first]
  simp [stuck]

variable {name action : List Char}

/-- The state of an action is read behind a name that is not misread. -/
theorem behindSet_of_asksSet (named : ∀ ch ∈ name, isSqlIdentifierChar ch)
    (asks : AsksSet action state) (second : Gap) (read : ¬ MisreadsSet name) :
    ∃ value, BehindSet
        (name.map Char.toUpper ++ (second.text ++ upperChars action)) value ∧
      valueState value = state := by
  rcases upperChars_asksSet asks with
    ⟨gap, before, after, blankBefore, blankAfter, isState, upper⟩
  have plainBefore : Plain before := fun ch member =>
    Or.inr (blankBefore ch member)
  have solid : ∀ ch ∈ "SET".toList, !isWhitespace ch :=
    List.all_eq_true.mp (by decide)
  refine ⟨after ++ state.toList, ?_, valueState_named blankAfter isState⟩
  rw [upper]
  cases inName : find "SET".toList (name.map Char.toUpper) with
  | none =>
      refine
        ⟨name.map Char.toUpper ++ second.text,
          gap.text ++ ("STATE".toList ++ before), by simp, ?_, ?_,
          (gap.plain.append
            ((plain_word (by decide)).append plainBefore)).no_equals⟩
      · rw [find_run solid (second.stops _) (find_eq_none_iff.mp inName),
          find_others solid (by decide)
            (fun ch member => by simp [second.blank ch member]),
          find_here, utf8Len_append]
        rfl
      · rw [trimStart_blank_append gap.blank,
          trimStart_state (List.prefix_append _ _)]
        exact List.prefix_append _ _
  | some offset =>
      rcases find_eq_some inName with ⟨front, behind, shape, rfl⟩
      have starts : "STATE".toList <+: behind := by
        by_contra other
        exact read ((misreadsSet_iff named shape inName).mpr other)
      have plainBehind : Plain behind := fun ch member =>
        Or.inl (upper_named named ch (by rw [shape]; simp [member]))
      refine
        ⟨front,
          behind ++ (second.text ++ ("SET".toList ++
            (gap.text ++ ("STATE".toList ++ before)))), by rw [shape]; simp,
          find_append_of_some inName _, ?_,
          (plainBehind.append (second.plain.append
            ((plain_word (by decide)).append (gap.plain.append
              ((plain_word (by decide)).append plainBefore))))).no_equals⟩
      rw [trimStart_state (starts.trans (List.prefix_append _ _))]
      exact starts.trans (List.prefix_append _ _)

/-! ## The operands -/

section Operands

variable {sql rest name : List Char}
  (behind : sliceFrom sql "ALTER WAREHOUSE".length = some rest)
  (first : firstWord (trim rest) = some name)

include behind first

theorem alterWarehouse_takes {state : String}
    (takes : TakesState (upperChars (trim rest)) state) :
    alterWarehouseOperands sql =
      some (.ok (.alterWarehouse (String.ofList name) state)) := by
  rw [alterWarehouseOperands]
  simp only [Option.bind_eq_bind, behind, Option.bind_some, first]
  rw [TakesState] at takes
  split at takes
  · rename_i isResume
    rw [if_pos isResume, takes]
    rfl
  · rename_i notResume
    rw [if_neg notResume]
    split at takes
    · rename_i isSuspend
      rw [if_pos isSuspend, takes]
      rfl
    · rename_i notSuspend
      rcases takes with ⟨isState, value, found, rfl⟩
      rw [if_neg notSuspend, setState_behind found, Option.bind_some,
        Except.bind, if_pos isState]

theorem alterWarehouse_refuses
    (silent : ∀ state, ¬ TakesState (upperChars (trim rest)) state) :
    ∃ message, alterWarehouseOperands sql = some (.error message) := by
  rw [alterWarehouseOperands]
  simp only [Option.bind_eq_bind, behind, Option.bind_some, first]
  simp only [TakesState] at silent
  split
  · rename_i isResume
    exact absurd (by rw [if_pos isResume]) (silent "RUNNING")
  · rename_i notResume
    split
    · rename_i isSuspend
      exact
        absurd (by rw [if_neg notResume, if_pos isSuspend]) (silent "SUSPENDED")
    · rename_i notSuspend
      by_cases found : ∃ value, BehindSet (upperChars (trim rest)) value
      · rcases found with ⟨value, found⟩
        have other := silent (valueState value)
        rw [if_neg notResume, if_neg notSuspend] at other
        rw [setState_behind found, Option.bind_some, Except.bind,
          if_neg fun isState => other ⟨isState, value, found, rfl⟩]
        exact ⟨_, rfl⟩
      · rcases setState_silent (not_exists.mp found) with ⟨message, refused⟩
        rw [refused]
        exact ⟨message, rfl⟩

end Operands

/-- A trimmed text is its first word and an action. -/
theorem eq_name_append_action {text name : List Char}
    (trimmed : Trimmed text) (first : firstWord text = some name) :
    text = name ∧ actionText text = [] ∨
      ∃ gap : Gap, text = name ++ (gap.text ++ actionText text) := by
  have shape := eq_firstWord_append first trimmed.1
  have blank : Stops (!isWhitespace ·) (text.dropWhile (!isWhitespace ·)) :=
    stops_dropWhile text
  rw [actionText]
  cases tail : text.dropWhile (!isWhitespace ·) with
  | nil =>
      rw [tail, List.append_nil] at shape
      exact .inl ⟨shape, rfl⟩
  | cons ch onwards =>
      rw [tail] at shape blank
      have isBlank : isWhitespace ch := by
        have stop := stops_cons.mp blank
        simpa using stop
      have ends : Stops isWhitespace (ch :: onwards).reverse := by
        apply stops_of_leading _ trimmed.2
        rw [shape, List.reverse_append]
        exact List.prefix_append _ _
      have action : trim (ch :: onwards) = trimStart (ch :: onwards) := by
        rw [trim, trimEnd_of_stops]
        apply stops_of_leading _ ends
        rw [List.reverse_prefix]
        exact List.dropWhile_suffix _
      have gap : (ch :: onwards).takeWhile isWhitespace ≠ [] := by
        simp [isBlank]
      refine .inr ⟨⟨_, gap, blank_takeWhile _⟩, ?_⟩
      rw [action, trimStart]
      simp only [List.takeWhile_append_dropWhile]
      exact shape

/-- The upper-case text of a name and an action that is not empty. -/
theorem upperChars_trim {rest name : List Char}
    (first : firstWord (trim rest) = some name)
    (named : ∀ ch ∈ name, isSqlIdentifierChar ch)
    (nonempty : actionText (trim rest) ≠ []) :
    ∃ gap : Gap,
      upperChars (trim rest) =
        name.map Char.toUpper ++
          (gap.text ++ upperChars (actionText (trim rest))) := by
  rcases eq_name_append_action (trimmed_trim rest) first with
    ⟨-, empty⟩ | ⟨gap, shape⟩
  · exact absurd empty nonempty
  · refine ⟨gap, ?_⟩
    conv_lhs => rw [shape]
    rw [upperChars_append, gap.upperChars_append,
      upperChars_of_ascii fun ch member =>
        isAscii_of_alphanum (named ch member)]

/-- The second word of an upper-case text behind its name. -/
theorem secondWord_upper {name word rest : List Char} {keyword : String}
    (gap : Gap) (nonempty : name ≠ [])
    (named : ∀ ch ∈ name, isSqlIdentifierChar ch)
    (spells : Spells word keyword) (ends : stuck rest = []) :
    ((splitWhitespace
        (name.map Char.toUpper ++
          (gap.text ++ (keyword.toList ++ rest))))[1]?).getD [] =
      keyword.toList := by
  have upperNonempty : name.map Char.toUpper ≠ [] := by simpa using nonempty
  have upperSolid : ∀ ch ∈ name.map Char.toUpper, isWhitespace ch = false :=
    fun ch member => not_isWhitespace_of_alphanum (upper_named named ch member)
  have keywordSolid : ∀ ch ∈ keyword.toList, isWhitespace ch = false :=
    fun ch member =>
      not_isWhitespace_of_alphanum
        (List.all_eq_true.mp spells.isWord ch member)
  have words :=
    @fields_name [] _ (gap.text ++ (keyword.toList ++ rest)) blank_nil
      upperNonempty upperSolid
  rw [List.nil_append, gap.stuck, List.append_nil, gap.dropWhile,
    fields_name gap.blank spells.nonempty keywordSolid, ends,
    List.append_nil] at words
  rw [splitWhitespace_eq, words]
  rfl

theorem secondWord_set {name : List Char} (gap : Gap) (nonempty : name ≠ [])
    (named : ∀ ch ∈ name, isSqlIdentifierChar ch) (inner : Gap)
    (rest : List Char) :
    ((splitWhitespace
        (name.map Char.toUpper ++
          (gap.text ++ ("SET".toList ++ (inner.text ++ rest)))))[1]?).getD [] =
      "SET".toList :=
  secondWord_upper gap nonempty named
    (spells_self (by decide) (by decide) (by decide)) (inner.stuck rest)

/-- A name that is not misread leaves the action its state. -/
theorem takesState_of_asks
    (nonempty : name ≠ []) (named : ∀ ch ∈ name, isSqlIdentifierChar ch)
    (gap : Gap) (asks : Asks action state)
    (read : AsksSet action state → ¬ MisreadsSet name) :
    TakesState
      (name.map Char.toUpper ++ (gap.text ++ upperChars action)) state := by
  cases asks with
  | resume spells =>
      have upper := spells.upperChars []
      have second :=
        @secondWord_upper _ _ (upperChars []) _ gap nonempty named spells rfl
      rw [List.append_nil] at upper
      rw [TakesState, upper, second]
      rfl
  | suspend spells =>
      have upper := spells.upperChars []
      have second :=
        @secondWord_upper _ _ (upperChars []) _ gap nonempty named spells rfl
      rw [List.append_nil] at upper
      rw [TakesState, upper, second]
      rfl
  | set asks =>
      rcases behindSet_of_asksSet named asks gap (read asks) with
        ⟨value, found, isValue⟩
      rcases upperChars_asksSet asks with
        ⟨inner, before, after, -, -, isState, upper⟩
      have second := secondWord_set gap nonempty named inner
        ("STATE".toList ++ (before ++ '=' :: (after ++ state.toList)))
      rw [← upper] at second
      rw [TakesState, second]
      exact ⟨isState, value, found, isValue⟩

theorem AsksSet.equals (asks : AsksSet action state) : '=' ∈ action := by
  cases asks
  simp

theorem Asks.ne_nil (asks : Asks action state) : action ≠ [] := by
  cases asks with
  | resume spells => exact spells.ne_nil
  | suspend spells => exact spells.ne_nil
  | set asks => exact List.ne_nil_of_mem asks.equals

/-- A misread name hides the state that its action sets. -/
theorem misread_silent
    (nonempty : name ≠ []) (named : ∀ ch ∈ name, isSqlIdentifierChar ch)
    (gap : Gap) (asks : AsksSet action state) (misread : MisreadsSet name)
    (other : String) :
    ¬ TakesState
      (name.map Char.toUpper ++ (gap.text ++ upperChars action)) other := by
  intro takes
  rcases upperChars_asksSet asks with
    ⟨inner, before, after, -, -, isState, upper⟩
  have second := secondWord_set gap nonempty named inner
    ("STATE".toList ++ (before ++ '=' :: (after ++ state.toList)))
  rcases @setState_misread _ gap named misread
      (inner.text ++ ("STATE".toList ++ (before ++ '=' ::
        (after ++ state.toList)))) with
    ⟨message, refused⟩
  rw [← upper] at second refused
  rw [TakesState, second] at takes
  rcases takes with ⟨-, value, found, -⟩
  rw [setState_behind found] at refused
  cases refused

end OpenSnow.Core.Commands

namespace OpenSnow.Core

open Core.Commands
open Foundation
open Rust.Text

variable {Row Key Location Contents : Type}
  (platform : Platform Row Key Location Contents)

/--
The state that an action asks for is set for the warehouse, and any other
action is refused without a change.
-/
def ActsAsAsked (name action : List Char)
    (before : EngineState Row Key Location Contents)
    (run : Except Failure (Reply Row) ×
      EngineState Row Key Location Contents) : Prop :=
  (∃ state, Asks action state ∧
    run = handleAlterWarehouse platform (String.ofList name) state before) ∨
  (∀ state, ¬ Asks action state) ∧
    ∃ message, run = (.error (.statement message), before)

variable {platform}

/-- What the catalog answers is not an error of the statement. -/
theorem handleAlterWarehouse_ne {name state message : String}
    {before after : EngineState Row Key Location Contents} :
    handleAlterWarehouse platform name state before ≠
      (.error (.statement message), after) := by
  rw [handleAlterWarehouse, catalogCall, Effect.look_bind]
  cases platform.catalogFault before .updateWarehouseState with
  | some fault => simp
  | none =>
      dsimp only
      rw [Effect.look_bind]
      dsimp only
      cases before.warehouses.any (·.name == name)
      · simp
      · rintro ⟨⟩

variable [DecidableEq Key] [DecidableEq Location]

/-- `handle_alter_warehouse` on a statement. -/
def alterWarehouse (platform : Platform Row Key Location Contents)
    (sql : List Char) :
    Panics (Handling Row Key Location Contents (Reply Row)) :=
  (alterWarehouseOperands sql).map (carryOut platform)

section Acting

variable {sql rest name : List Char}
  {handling : Handling Row Key Location Contents (Reply Row)}
  (behind : sliceFrom sql "ALTER WAREHOUSE".length = some rest)
  (first : firstWord (trim rest) = some name)
  (handled : alterWarehouse platform sql = some handling)
  (before : EngineState Row Key Location Contents)

include behind first handled

theorem alterWarehouse_sets {state : String}
    (takes : TakesState (upperChars (trim rest)) state) :
    handling before =
      handleAlterWarehouse platform (String.ofList name) state before := by
  rw [alterWarehouse, alterWarehouse_takes behind first takes] at handled
  injection handled with same
  rw [← same]
  rfl

theorem alterWarehouse_refused
    (silent : ∀ state, ¬ TakesState (upperChars (trim rest)) state) :
    ∃ message, handling before = (.error (.statement message), before) := by
  rcases alterWarehouse_refuses behind first silent with ⟨message, refused⟩
  rw [alterWarehouse, refused] at handled
  injection handled with same
  refine ⟨message, ?_⟩
  rw [← same]
  rfl

/-- An action is carried out unless its name is misread. -/
theorem alterWarehouse_acts_of_asks {state : String} (nonempty : name ≠ [])
    (named : ∀ ch ∈ name, isSqlIdentifierChar ch)
    (asks : Asks (actionText (trim rest)) state) :
    ActsAsAsked platform name (actionText (trim rest)) before
        (handling before) ↔
      ∀ other, AsksSet (actionText (trim rest)) other →
        ¬ MisreadsSet name := by
  rcases upperChars_trim first named asks.ne_nil with ⟨gap, upper⟩
  by_cases misread : MisreadsSet name ∧
      ∃ other, AsksSet (actionText (trim rest)) other
  · rcases misread with ⟨misread, other, sets⟩
    have silent : ∀ taken,
        ¬ TakesState (upperChars (trim rest)) taken := by
      rw [upper]
      exact misread_silent nonempty named gap sets misread
    rcases alterWarehouse_refused behind first handled before silent with
      ⟨message, refused⟩
    refine iff_of_false ?_ fun read => read other sets misread
    rw [refused]
    rintro (⟨_, -, same⟩ | ⟨none, -⟩)
    · exact handleAlterWarehouse_ne same.symm
    · exact none state asks
  · have takes := takesState_of_asks nonempty named gap asks fun sets read =>
      misread ⟨read, state, sets⟩
    rw [← upper] at takes
    refine iff_of_true (.inl ⟨state, asks, ?_⟩) ?_
    · exact alterWarehouse_sets behind first handled before takes
    · exact fun other sets read => misread ⟨read, other, sets⟩

/-- Any other text is refused unless a state is found in it. -/
theorem alterWarehouse_acts_of_none
    (none : ∀ state, ¬ Asks (actionText (trim rest)) state) :
    ActsAsAsked platform name (actionText (trim rest)) before
        (handling before) ↔
      ∀ state, ¬ TakesState (upperChars (trim rest)) state := by
  constructor
  · rintro (⟨state, asks, -⟩ | ⟨-, message, refused⟩)
    · exact absurd asks (none state)
    · intro state takes
      rw [alterWarehouse_sets behind first handled before takes] at refused
      exact handleAlterWarehouse_ne refused
  · intro silent
    exact
      .inr ⟨none, alterWarehouse_refused behind first handled before silent⟩

end Acting

/--
`ALTER WAREHOUSE` acts as it is asked if and only if the name is not misread
where a state is set, and no state is found where none is asked for.
-/
theorem alterWarehouse_acts_iff {sql rest name : List Char}
    {handling : Handling Row Key Location Contents (Reply Row)}
    (behind : sliceFrom sql "ALTER WAREHOUSE".length = some rest)
    (first : firstWord (trim rest) = some name)
    (safe : isSafeUnqualifiedIdentifier name)
    (handled : alterWarehouse platform sql = some handling)
    (before : EngineState Row Key Location Contents) :
    ActsAsAsked platform name (actionText (trim rest)) before
        (handling before) ↔
      (∀ state, AsksSet (actionText (trim rest)) state →
        ¬ MisreadsSet name) ∧
      ((∀ state, ¬ Asks (actionText (trim rest)) state) →
        ∀ state, ¬ TakesState (upperChars (trim rest)) state) := by
  rcases isSafe_named safe with ⟨nonempty, named⟩
  by_cases asked : ∃ state, Asks (actionText (trim rest)) state
  · rcases asked with ⟨state, asks⟩
    rw [alterWarehouse_acts_of_asks behind first handled before nonempty named
      asks]
    exact (and_iff_left fun none => absurd asks (none state)).symm
  · have none := not_exists.mp asked
    rw [alterWarehouse_acts_of_none behind first handled before none,
      and_iff_right fun state sets => absurd (.set sets) (none state)]
    exact ⟨fun silent _ => silent, fun silent => silent none⟩

theorem alterWarehouse_acts_iff_resume :
    ∃ handling, alterWarehouse smallPlatform
        "ALTER WAREHOUSE w RESUME".toList = some handling ∧
      (ActsAsAsked smallPlatform ['w']
          (actionText (trim " w RESUME".toList)) emptyEngine
          (handling emptyEngine) ↔
        (∀ state, AsksSet (actionText (trim " w RESUME".toList)) state →
          ¬ MisreadsSet ['w']) ∧
        ((∀ state, ¬ Asks (actionText (trim " w RESUME".toList)) state) →
          ∀ state,
            ¬ TakesState (upperChars (trim " w RESUME".toList)) state)) := by
  have behind :
      sliceFrom "ALTER WAREHOUSE w RESUME".toList "ALTER WAREHOUSE".length =
        some " w RESUME".toList := by decide
  have first : firstWord (trim " w RESUME".toList) = some ['w'] := by decide
  have handled :
      alterWarehouse smallPlatform "ALTER WAREHOUSE w RESUME".toList =
        some (handleAlterWarehouse smallPlatform "w" "RUNNING") := rfl
  exact
    ⟨_, handled,
      alterWarehouse_acts_iff behind first (by decide) handled emptyEngine⟩

/-- A state is not set for a warehouse whose name contains `SET`. -/
theorem alterWarehouse_misreads_name :
    ∃ handling, alterWarehouse smallPlatform
        "ALTER WAREHOUSE assets SET STATE = RUNNING".toList = some handling ∧
      ¬ ActsAsAsked smallPlatform "assets".toList "SET STATE = RUNNING".toList
        emptyEngine (handling emptyEngine) := by
  have set : Spells "SET".toList "SET" :=
    spells_self (by decide) (by decide) (by decide)
  have keyState : Spells "STATE".toList "STATE" :=
    spells_self (by decide) (by decide) (by decide)
  have running : Spells "RUNNING".toList "RUNNING" :=
    spells_self (by decide) (by decide) (by decide)
  have blank : Blank [' '] := by simp [isWhitespace]
  have words :
      "SET STATE = RUNNING".toList =
        "SET".toList ++ (Gap.one.text ++ ("STATE".toList ++ ([' '] ++ '=' ::
          ([' '] ++ "RUNNING".toList)))) := by decide
  have asks : Asks "SET STATE = RUNNING".toList "RUNNING" := by
    rw [words]
    exact .set (.intro Gap.one set keyState blank blank running (.inl rfl))
  have handled :
      alterWarehouse smallPlatform
          "ALTER WAREHOUSE assets SET STATE = RUNNING".toList =
        some
          (Effect.fail
            (.statement
              ("ALTER WAREHOUSE currently supports RESUME, SUSPEND, or SET " ++
                "STATE = RUNNING|SUSPENDED"))) := rfl
  refine ⟨_, handled, ?_⟩
  rintro (⟨state, -, same⟩ | ⟨silent, -⟩)
  · exact handleAlterWarehouse_ne same.symm
  · exact silent "RUNNING" asks

end OpenSnow.Core
