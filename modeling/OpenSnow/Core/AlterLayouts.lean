import OpenSnow.Core.LayoutOperands
import OpenSnow.Rust.Search

/-!
# Layouts of `ALTER WAREHOUSE`

The branch compares a prefix.  The action is the second word of the rest, or a
state behind the first `SET` of the upper-case text, which the name can contain.
-/

namespace OpenSnow.Core.Commands

open Foundation
open Rust.Text

/-! ## The state behind `SET` -/

/-- The first `SET` of the upper-case name is not followed by `STATE`. -/
def MisreadsSet (name : List Char) : Prop :=
  ∃ offset ∈ find "SET".toList (name.map Char.toUpper),
    ¬ "STATE".toList <+: (name.map Char.toUpper).drop (offset + 3)

/-- What the handler reads behind the first `SET`. -/
theorem setState_found {front behind : List Char}
    (found : find "SET".toList (front ++ ("SET".toList ++ behind)) =
      some (utf8Len front)) :
    setState (front ++ ("SET".toList ++ behind)) =
      if hasPrefix (trim behind) "STATE" then
        match find ['='] (trim behind) with
        | none => some (.error "Expected '=' after STATE")
        | some eqPos =>
            (sliceFrom (trim behind) (eqPos + 1)).map fun value =>
              .ok (((firstWord value).map String.ofList).getD "SUSPENDED")
      else
        some
          (.error
            ("ALTER WAREHOUSE currently supports RESUME, SUSPEND, or SET " ++
              "STATE = RUNNING|SUSPENDED")) := by
  have sliced :
      sliceFrom (front ++ ("SET".toList ++ behind)) (utf8Len front + 3) =
        some behind :=
    sliceFrom_eq_some_iff.mpr
      ⟨front ++ "SET".toList, by simp, by simp [utf8Len]; decide⟩
  rw [setState, found]
  simp only [sliced, Option.bind_some]
  cases hasPrefix (trim behind) "STATE" <;> rfl

/-- Without an `=` no state is read. -/
theorem setState_refuses {upper : List Char} (noEquals : '=' ∉ upper) :
    ∃ message, setState upper = some (.error message) := by
  cases found : find "SET".toList upper with
  | none => exact ⟨_, by rw [setState, found]⟩
  | some offset =>
      rcases find_eq_some found with ⟨front, behind, rfl, rfl⟩
      rw [setState_found found]
      split
      · have notFound : find ['='] (trim behind) = none := by
          rw [find_eq_none_iff]
          intro inside
          rcases trim_shape behind with ⟨before, after, shape, -, -⟩
          have member : '=' ∈ trim behind := inside.subset (by simp)
          apply noEquals
          rw [shape]
          simp [member]
        rw [notFound]
        exact ⟨_, rfl⟩
      · exact ⟨_, rfl⟩

/-- The value behind the first `=`. -/
theorem value_found {front value : List Char} (noEquals : '=' ∉ front) :
    ∃ offset, find ['='] (front ++ '=' :: value) = some offset ∧
      sliceFrom (front ++ '=' :: value) (offset + 1) = some value := by
  have first := @find_append_first ['='] front value (by
    rintro before back rfl nonempty begins
    cases back with
    | nil => exact nonempty rfl
    | cons ch back =>
        rw [List.cons_append, List.cons_prefix_cons] at begins
        rw [← begins.1] at noEquals
        exact noEquals (by simp))
  refine ⟨utf8Len front, first, sliceFrom_eq_some_iff.mpr ?_⟩
  have width : '='.utf8Size = 1 := rfl
  exact ⟨front ++ ['='], by simp, by simp [utf8Len, width]⟩

/-- Words and white space. -/
def Plain (text : List Char) : Prop :=
  ∀ ch ∈ text, isSqlIdentifierChar ch ∨ isWhitespace ch

theorem Plain.append {front back : List Char} (plainFront : Plain front)
    (plainBack : Plain back) : Plain (front ++ back) := by
  intro ch member
  rcases List.mem_append.mp member with inFront | inBack
  · exact plainFront ch inFront
  · exact plainBack ch inBack

theorem plain_word {word : List Char} (named : word.all isSqlIdentifierChar) :
    Plain word := fun ch member =>
  Or.inl (List.all_eq_true.mp named ch member)

theorem Gap.plain (gap : Gap) : Plain gap.text := fun ch member =>
  Or.inr (gap.blank ch member)

theorem Plain.no_equals {text : List Char} (plain : Plain text) :
    '=' ∉ text := by
  intro member
  rcases plain '=' member with named | blank
  · revert named
    decide
  · revert blank
    decide

/-- The state that is read once what follows the first `SET` is `STATE`. -/
theorem setState_reads {front before onwards blanks state rest : List Char}
    (found :
      find "SET".toList
          (front ++ ("SET".toList ++
            (before ++ (onwards ++ '=' :: (blanks ++ (state ++ rest)))))) =
        some (utf8Len front))
    (blankBefore : Blank before) (starts : "STATE".toList <+: onwards)
    (noEquals : '=' ∉ onwards) (blank : Blank blanks) (nonempty : state ≠ [])
    (named : ∀ ch ∈ state, isSqlIdentifierChar ch) :
    setState
        (front ++ ("SET".toList ++
          (before ++ (onwards ++ '=' :: (blanks ++ (state ++ rest)))))) =
      some (.ok (String.ofList (state ++ stuck rest))) := by
  have trimmed : Trimmed (onwards ++ '=' :: (blanks ++ state)) := by
    constructor
    · rcases starts with ⟨more, rfl⟩
      exact stops_cons.mpr (by decide)
    · have ends := (trimmed_of_named named).2
      rw [List.reverse_append, List.reverse_cons, List.reverse_append]
      cases form : state.reverse with
      | nil => exact absurd (List.reverse_eq_nil_iff.mp form) nonempty
      | cons ch others =>
          rw [form] at ends
          exact stops_cons.mpr (stops_cons.mp ends)
  have value :
      trim (before ++ (onwards ++ '=' :: (blanks ++ (state ++ rest)))) =
        onwards ++ '=' :: (blanks ++ (state ++ trimEnd rest)) := by
    have parts := @trim_append before _ rest blankBefore (by simp) trimmed
    simpa using parts
  have isState :
      hasPrefix (onwards ++ '=' :: (blanks ++ (state ++ trimEnd rest)))
        "STATE" := by
    rw [hasPrefix, List.isPrefixOf_iff_prefix]
    exact starts.trans (List.prefix_append _ _)
  have solid : ∀ ch ∈ state, isWhitespace ch = false := fun ch member =>
    not_isWhitespace_of_alphanum (named ch member)
  rcases @value_found _ (blanks ++ (state ++ trimEnd rest)) noEquals with
    ⟨offset, equals, sliced⟩
  rw [setState_found found, value, if_pos isState, equals]
  simp only [sliced, Option.map_some,
    firstWord_name blank nonempty solid, stuck_trimEnd, Option.getD_some]

theorem misreadsSet_iff {name front behind : List Char}
    (named : ∀ ch ∈ name, isSqlIdentifierChar ch)
    (shape : name.map Char.toUpper = front ++ ("SET".toList ++ behind))
    (found : find "SET".toList (name.map Char.toUpper) =
      some (utf8Len front)) :
    MisreadsSet name ↔ ¬ "STATE".toList <+: behind := by
  have ascii : utf8Len front = front.length :=
    utf8Len_of_ascii fun ch member =>
      isAscii_of_alphanum
        (upper_named named ch (by rw [shape]; exact List.mem_append_left _ member))
  have dropped :
      (name.map Char.toUpper).drop (utf8Len front + 3) = behind := by
    rw [shape, ascii, ← List.append_assoc]
    exact List.drop_left' (by simp)
  simp only [MisreadsSet, found, Option.mem_def, Option.some.injEq,
    exists_eq_left', dropped]

section SetState

variable {name state rest : List Char} {second third fourth fifth : Gap}
  (named : ∀ ch ∈ name, isSqlIdentifierChar ch)

include named

/-- The action of a misread name is refused. -/
theorem setState_misread (misread : MisreadsSet name) (onwards : List Char) :
    ∃ message,
      setState
          (name.map Char.toUpper ++
            (second.text ++ ("SET".toList ++ onwards))) =
        some (.error message) := by
  rcases misread with ⟨offset, found, other⟩
  have misread : MisreadsSet name := ⟨offset, found, other⟩
  rcases find_eq_some found with ⟨front, behind, shape, rfl⟩
  have whole :=
    find_append_of_some found (second.text ++ ("SET".toList ++ onwards))
  have notState := (misreadsSet_iff named shape found).mp misread
  rw [shape, List.append_assoc, List.append_assoc] at whole ⊢
  rw [setState_found whole, if_neg]
  · exact ⟨_, rfl⟩
  rw [hasPrefix, List.isPrefixOf_iff_prefix]
  intro begins
  have onTrimmed := begins.trans (trimEnd_leads _)
  cases behind with
  | nil =>
      have starts : Stops isWhitespace ("SET".toList ++ onwards) :=
        stops_cons.mpr (by decide)
      rw [List.nil_append, trimStart_blank_append second.blank,
        trimStart_of_stops starts] at onTrimmed
      rcases onTrimmed with ⟨more, shape⟩
      cases shape
  | cons ch behind =>
      have isNamed : isSqlIdentifierChar ch :=
        upper_named named ch (by rw [shape]; simp)
      rw [List.cons_append, trimStart_of_stops
        (stops_cons.mpr (not_isWhitespace_of_alphanum isNamed)),
        ← List.cons_append] at onTrimmed
      exact
        notState
          (prefix_of_stops (List.all_eq_true.mp (by decide)) (second.stops _)
            onTrimmed)

/-- The state of a name that is not misread. -/
theorem setState_read (read : ¬ MisreadsSet name) (nonempty : state ≠ [])
    (isState : ∀ ch ∈ state, isSqlIdentifierChar ch) :
    setState
        (name.map Char.toUpper ++ (second.text ++ ("SET".toList ++
          (third.text ++ ("STATE".toList ++ (fourth.text ++ '=' ::
            (fifth.text ++ (state ++ rest)))))))) =
      some (.ok (String.ofList (state ++ stuck rest))) := by
  have solid : ∀ ch ∈ "SET".toList, !isWhitespace ch :=
    List.all_eq_true.mp (by decide)
  cases inName : find "SET".toList (name.map Char.toUpper) with
  | none =>
      have found :
          find "SET".toList
              ((name.map Char.toUpper ++ second.text) ++ ("SET".toList ++
                (third.text ++ (("STATE".toList ++ fourth.text) ++ '=' ::
                  (fifth.text ++ (state ++ rest)))))) =
            some (utf8Len (name.map Char.toUpper ++ second.text)) := by
        rw [List.append_assoc,
          find_run solid (second.stops _) (find_eq_none_iff.mp inName),
          find_others solid (by decide)
            (fun ch member => by simp [second.blank ch member]),
          find_here, utf8Len_append]
        rfl
      have reads :=
        setState_reads found third.blank (List.prefix_append _ _)
          ((plain_word (by decide)).append fourth.plain).no_equals
          fifth.blank nonempty isState
      simpa using reads
  | some offset =>
      rcases find_eq_some inName with ⟨front, behind, shape, rfl⟩
      have starts : "STATE".toList <+: behind := by
        by_contra other
        exact read ((misreadsSet_iff named shape inName).mpr other)
      have found :=
        find_append_of_some inName
          (second.text ++ ("SET".toList ++
            (third.text ++ ("STATE".toList ++ (fourth.text ++ '=' ::
              (fifth.text ++ (state ++ rest)))))))
      have onwards : Plain (behind ++ (second.text ++ ("SET".toList ++
          (third.text ++ ("STATE".toList ++ fourth.text))))) := by
        refine Plain.append ?_ (second.plain.append
          (Plain.append (plain_word (by decide)) (third.plain.append
            (Plain.append (plain_word (by decide)) fourth.plain))))
        intro ch member
        exact Or.inl (upper_named named ch (by rw [shape]; simp [member]))
      have reads :=
        @setState_reads front [] _ fifth.text state rest
          (by rw [shape] at found; simpa using found) blank_nil
          (starts.trans (List.prefix_append _ _)) onwards.no_equals fifth.blank
          nonempty isState
      rw [shape]
      simpa using reads

end SetState

section AlterWarehouse

variable {name : Identifier} {action : WarehouseAction}

variable (layout : Layout (Statement.alterWarehouse name action).pieces)

/-- The name and what stands behind it. -/
theorem Layout.alterWarehouse_code :
    ∃ (alter warehouse : List Char) (first second third : Gap)
      (later : Layout action.pieces),
      Spells alter "ALTER" ∧ Spells warehouse "WAREHOUSE" ∧
        layout.gap 0 = first.text ∧ later.trailer = layout.trailer ∧
        layout.code =
          alter ++ (first.text ++ (warehouse ++
            (second.text ++ (name.text ++ (third.text ++ later.code))))) := by
  have opens : ∃ piece more, action.pieces = piece :: more := by
    cases action <;> exact ⟨_, _, rfl⟩
  rcases opens with ⟨piece, more, actionPieces⟩
  have pieces : (Statement.alterWarehouse name action).pieces =
      .keyword "ALTER" :: .keyword "WAREHOUSE" :: .fixed name.text :: piece ::
        more := by
    rw [Statement.pieces, actionPieces]
    rfl
  revert layout
  rw [pieces, actionPieces]
  intro layout
  rcases layout.opened with
    ⟨alter, first, afterAlter, spellsAlter, code, gaps, trailer, -⟩
  rcases afterAlter.opened with
    ⟨warehouse, second, afterWarehouse, spellsWarehouse, code', -, trailer', -⟩
  rcases afterWarehouse.opened with ⟨_, third, later, rfl, code'', -, trailer'', -⟩
  refine
    ⟨alter, warehouse, first, second, third, later, spellsAlter,
      spellsWarehouse, ?_, ?_, ?_⟩
  · rw [Layout.gap, gaps]
    rfl
  · rw [trailer'', trailer', trailer]
  · rw [code, code', code'']

theorem Layout.alterWarehouse_chosen :
    chosenHandler layout.code =
      if layout.gap 0 = [' '] then some .alterWarehouse else none := by
  rcases layout.alterWarehouse_code with
    ⟨alter, warehouse, first, second, third, later, spellsAlter,
      spellsWarehouse, gap, -, code⟩
  rw [code, gap, chosenHandler_alterWarehouse first spellsAlter spellsWarehouse]

/-- What the action makes of the operands. -/
def alteration (name : List Char) (state : Except String String) :
    Option Command :=
  (state.bind fun state =>
    if state = "RUNNING" ∨ state = "SUSPENDED" then
      .ok (Command.alterWarehouse (String.ofList name) state)
    else
      .error
        ("Invalid state '" ++ state ++ "'. Use RUNNING or SUSPENDED")).toOption

theorem trimEnd_word {blanks word rest : List Char} {keyword : String}
    (spells : Spells word keyword) :
    trimEnd (blanks ++ (word ++ rest)) = blanks ++ (word ++ trimEnd rest) := by
  have stops : Stops isWhitespace (blanks ++ word).reverse := by
    have ends := (trimmed_of_named spells.named).2
    rw [List.reverse_append]
    cases form : word.reverse with
    | nil => exact absurd (List.reverse_eq_nil_iff.mp form) spells.ne_nil
    | cons ch others =>
        rw [form] at ends
        exact stops_cons.mpr (stops_cons.mp ends)
  rw [← List.append_assoc, trimEnd_append stops, List.append_assoc]

/-- The operands of a text whose keywords are one blank apart. -/
theorem alterWarehouse_reads {alter warehouse word rest : List Char}
    {second third : Gap} {keyword : String} (spellsAlter : Spells alter "ALTER")
    (spellsWarehouse : Spells warehouse "WAREHOUSE")
    (spells : Spells word keyword) :
    (alterWarehouseOperands
        (alter ++ ([' '] ++ (warehouse ++
          (second.text ++ (name.text ++
            (third.text ++ (word ++ rest)))))))).map Except.toOption =
      (if keyword.toList ++ stuck (upperChars (trimEnd rest)) =
            "RESUME".toList then
          some (.ok "RUNNING")
        else if keyword.toList ++ stuck (upperChars (trimEnd rest)) =
            "SUSPEND".toList then
          some (.ok "SUSPENDED")
        else
          setState
            (name.text.map Char.toUpper ++
              (third.text ++
                (keyword.toList ++ upperChars (trimEnd rest))))).map
        (alteration name.text) := by
  have named := name.isIdentifier.named
  have afterKw :
      trim (second.text ++ (name.text ++ (third.text ++ (word ++ rest)))) =
        name.text ++ (third.text ++ (word ++ trimEnd rest)) := by
    rw [trim_append second.blank name.ne_nil (trimmed_of_named named),
      trimEnd_word spells]
  have upper :
      upperChars (name.text ++ (third.text ++ (word ++ trimEnd rest))) =
        name.text.map Char.toUpper ++
          (third.text ++ (keyword.toList ++ upperChars (trimEnd rest))) := by
    rw [upperChars_append,
      upperChars_of_ascii fun ch member => isAscii_of_alphanum (named ch member),
      third.upperChars_append, spells.upperChars]
  have first :=
    @firstWord_name [] _ (third.text ++ (word ++ trimEnd rest)) blank_nil
      name.ne_nil name.solid
  rw [List.nil_append, third.stuck, List.append_nil] at first
  have upperNonempty : name.text.map Char.toUpper ≠ [] := by
    simpa using name.ne_nil
  have upperSolid : ∀ ch ∈ name.text.map Char.toUpper, isWhitespace ch = false :=
    fun ch member => not_isWhitespace_of_alphanum (upper_named named ch member)
  have keywordSolid : ∀ ch ∈ keyword.toList, isWhitespace ch = false :=
    fun ch member =>
      not_isWhitespace_of_alphanum
        (List.all_eq_true.mp spells.isWord ch member)
  have words :=
    @fields_name [] _
      (third.text ++ (keyword.toList ++ upperChars (trimEnd rest))) blank_nil
      upperNonempty upperSolid
  rw [List.nil_append, third.stuck, List.append_nil, third.dropWhile,
    fields_name third.blank spells.nonempty keywordSolid] at words
  rw [alterWarehouseOperands,
    sliceFrom_two spellsAlter spellsWarehouse (by decide)]
  simp only [Option.bind_eq_bind, Option.bind_some, afterKw, upper, first,
    splitWhitespace_eq, words, List.getElem?_cons_succ, List.getElem?_cons_zero,
    Option.getD_some]
  split
  · rfl
  · split
    · rfl
    · rw [Option.map_bind, Option.map_eq_bind]
      rfl

variable {trailer : List Char}

theorem upperChars_trailer
    (isTrailer : IsTrailer trailer) : upperChars trailer = trailer := by
  induction trailer with
  | nil => rfl
  | cons ch rest ih =>
      have others := ih fun other member =>
        isTrailer other (List.mem_cons_of_mem ch member)
      have same : upperChars [ch] = [ch] := by
        rcases isTrailer ch List.mem_cons_self with rfl | blank
        · decide
        · exact upperChars_of_blank (by simpa using blank)
      have parts := upperChars_append [ch] rest
      rwa [same, others] at parts

theorem IsTrailer.trimEnd
    (isTrailer : IsTrailer trailer) : IsTrailer (trimEnd trailer) :=
  isTrailer.of_prefix (trimEnd_leads trailer)

theorem IsTrailer.no_equals (isTrailer : IsTrailer trailer) : '=' ∉ trailer:= by
  intro member
  rcases isTrailer '=' member with semicolon | blank
  · revert semicolon
    decide
  · revert blank
    decide

/-- What the layouts of `RESUME` and `SUSPEND` ask for. -/
theorem simpleAction_reads {alter warehouse word trailer : List Char}
    {second third : Gap} {keyword state : String}
    (spellsAlter : Spells alter "ALTER")
    (spellsWarehouse : Spells warehouse "WAREHOUSE")
    (spells : Spells word keyword) (isTrailer : IsTrailer trailer)
    (simple : keyword = "RESUME" ∧ state = "RUNNING" ∨
      keyword = "SUSPEND" ∧ state = "SUSPENDED") :
    (alterWarehouseOperands
        (alter ++ ([' '] ++ (warehouse ++
          (second.text ++ (name.text ++
            (third.text ++ (word ++ trailer)))))))).map Except.toOption =
      some
        (if stuck trailer = [] then
          some (.alterWarehouse (String.ofList name.text) state)
        else none) := by
  rw [alterWarehouse_reads spellsAlter spellsWarehouse spells,
    upperChars_trailer isTrailer.trimEnd, stuck_trimEnd]
  have noEquals : '=' ∉ name.text.map Char.toUpper ++
      (third.text ++ (keyword.toList ++ trimEnd trailer)) := by
    have front : Plain (name.text.map Char.toUpper ++
        (third.text ++ keyword.toList)) :=
      Plain.append
        (fun ch member =>
          Or.inl (upper_named name.isIdentifier.named ch member))
        (third.plain.append (plain_word spells.isWord))
    have back := isTrailer.trimEnd.no_equals
    have absent := front.no_equals
    simp only [List.mem_append, not_or] at absent ⊢
    exact ⟨absent.1, absent.2.1, absent.2.2, back⟩
  rcases setState_refuses noEquals with ⟨message, refused⟩
  rw [refused]
  by_cases ends : stuck trailer = []
  · rcases simple with ⟨rfl, rfl⟩ | ⟨rfl, rfl⟩ <;>
      simp [ends, alteration, Except.bind, Except.toOption]
  · rcases simple with ⟨rfl, rfl⟩ | ⟨rfl, rfl⟩ <;>
      simp [ends, alteration, Except.bind, Except.toOption]

/-- What the layouts of `SET STATE` ask for. -/
theorem setState_layout {alter warehouse word state trailer : List Char}
    {second third fourth fifth sixth : Gap} {keyState : List Char}
    (spellsAlter : Spells alter "ALTER")
    (spellsWarehouse : Spells warehouse "WAREHOUSE")
    (spellsSet : Spells word "SET") (spellsState : Spells keyState "STATE")
    (nonempty : state ≠ []) (isState : ∀ ch ∈ state, isSqlIdentifierChar ch)
    (isTrailer : IsTrailer trailer) :
    (alterWarehouseOperands
        (alter ++ ([' '] ++ (warehouse ++
          (second.text ++ (name.text ++ (third.text ++ (word ++
            (fourth.text ++ (keyState ++ (fifth.text ++ (['='] ++
              (sixth.text ++ (state ++ trailer)))))))))))))).map
        Except.toOption =
      (setState
          (name.text.map Char.toUpper ++ (third.text ++ ("SET".toList ++
            (fourth.text ++ ("STATE".toList ++ (fifth.text ++ '=' ::
              (sixth.text ++
                (state.map Char.toUpper ++ trimEnd trailer))))))))).map
        (alteration name.text) := by
  have ends : Stops isWhitespace
      (fourth.text ++ (keyState ++ (fifth.text ++ (['='] ++
        (sixth.text ++ state))))).reverse := by
    have named := (trimmed_of_named isState).2
    simp only [List.reverse_append, List.append_assoc]
    cases form : state.reverse with
    | nil => exact absurd (List.reverse_eq_nil_iff.mp form) nonempty
    | cons ch others =>
        rw [form] at named
        exact stops_cons.mpr (stops_cons.mp named)
  have trimmed :
      trimEnd (fourth.text ++ (keyState ++ (fifth.text ++ (['='] ++
          (sixth.text ++ (state ++ trailer)))))) =
        fourth.text ++ (keyState ++ (fifth.text ++ (['='] ++
          (sixth.text ++ (state ++ trimEnd trailer))))) := by
    have whole := @trimEnd_append _ trailer ends
    simpa using whole
  have equals : upperChars ['='] = ['='] := by decide
  have upper :
      upperChars (fourth.text ++ (keyState ++ (fifth.text ++ (['='] ++
          (sixth.text ++ (state ++ trimEnd trailer)))))) =
        fourth.text ++ ("STATE".toList ++ (fifth.text ++ ('=' ::
          (sixth.text ++ (state.map Char.toUpper ++ trimEnd trailer))))) := by
    rw [fourth.upperChars_append, spellsState.upperChars,
      fifth.upperChars_append, upperChars_append, equals,
      sixth.upperChars_append, upperChars_append,
      upperChars_of_ascii fun ch member =>
        isAscii_of_alphanum (isState ch member),
      upperChars_trailer isTrailer.trimEnd]
    rfl
  rw [alterWarehouse_reads spellsAlter spellsWarehouse spellsSet, trimmed,
    upper, fourth.stuck]
  simp

/-- A state that the handler accepts. -/
def IsWarehouseState (state : List Char) : Prop :=
  state.map Char.toUpper = "RUNNING".toList ∨
    state.map Char.toUpper = "SUSPENDED".toList

theorem alteration_ok (name : List Char) (state : String) :
    alteration name (.ok state) =
      if state = "RUNNING" ∨ state = "SUSPENDED" then
        some (.alterWarehouse (String.ofList name) state)
      else none := by
  rw [alteration, Except.bind]
  split <;> rfl

/-- The operands that `SET STATE` reads are the documented ones. -/
theorem alteration_state {state trailer : List Char}
    (isTrailer : IsTrailer trailer) :
    alteration name.text
        (.ok (String.ofList (state.map Char.toUpper ++ stuck trailer))) =
      alteration name.text (.ok (String.ofList (state.map Char.toUpper))) ↔
      (IsWarehouseState state → stuck trailer = []) := by
  have accepted : ∀ text : List Char,
      (String.ofList text = "RUNNING" ∨ String.ofList text = "SUSPENDED") ↔
        (text = "RUNNING".toList ∨ text = "SUSPENDED".toList) := by
    intro text
    rw [← String.toList_inj, ← String.toList_inj, String.toList_ofList]
  cases ends : stuck trailer with
  | nil => simp
  | cons ch more =>
      have semicolon : ch = ';' :=
        stuck_semicolons isTrailer ch (by rw [ends]; exact List.mem_cons_self)
      have refused : ¬ (state.map Char.toUpper ++ ch :: more =
            "RUNNING".toList ∨
          state.map Char.toUpper ++ ch :: more = "SUSPENDED".toList) := by
        have absent : ∀ text : List Char, ';' ∉ text →
            state.map Char.toUpper ++ ch :: more ≠ text := by
          rintro text noSemicolon rfl
          exact noSemicolon (by simp [semicolon])
        rintro (running | suspended)
        · exact absent _ (by decide) running
        · exact absent _ (by decide) suspended
      rw [alteration_ok, alteration_ok, if_neg ((accepted _).not.mpr refused)]
      by_cases isState : IsWarehouseState state
      · rw [if_pos ((accepted _).mpr isState)]
        simp [isState]
      · rw [if_neg ((accepted _).not.mpr isState)]
        simp [isState]

theorem Layout.simpleAction_operands {keyword state : String}
    (one : layout.gap 0 = [' ']) (simple : action.pieces = [.keyword keyword] ∧
      (keyword = "RESUME" ∧ state = "RUNNING" ∨
        keyword = "SUSPEND" ∧ state = "SUSPENDED")) :
    (operands .alterWarehouse layout.code).map Except.toOption =
      some
        (if stuck layout.trailer = [] then
          some (.alterWarehouse (String.ofList name.text) state)
        else none) := by
  rcases layout.alterWarehouse_code with
    ⟨alter, warehouse, first, second, third, later, spellsAlter,
      spellsWarehouse, gap, trailer, code⟩
  rcases simple with ⟨pieces, simple⟩
  revert later
  rw [pieces]
  intro later trailer code
  rcases later.last with ⟨word, spells, last⟩
  rw [gap] at one
  rw [operands, code, last, one, trailer]
  exact
    simpleAction_reads spellsAlter spellsWarehouse spells layout.isTrailer simple

/-- The text of a layout of `SET STATE`. -/
theorem Layout.setState_reads {state : Identifier}
    (layout : Layout (Statement.alterWarehouse name (.setState state)).pieces)
    (one : layout.gap 0 = [' ']) :
    ∃ third fourth fifth sixth : Gap,
      (operands .alterWarehouse layout.code).map Except.toOption =
        (setState
            (name.text.map Char.toUpper ++ (third.text ++ ("SET".toList ++
              (fourth.text ++ ("STATE".toList ++ (fifth.text ++ '=' ::
                (sixth.text ++
                  (state.text.map Char.toUpper ++
                    trimEnd layout.trailer))))))))).map
          (alteration name.text) := by
  rcases layout.alterWarehouse_code with
    ⟨alter, warehouse, first, second, third, atSet, spellsAlter,
      spellsWarehouse, gap, trailer, code⟩
  rcases atSet.opened with
    ⟨word, fourth, atState, spellsSet, codeSet, -, trailerSet, -⟩
  rcases atState.opened with
    ⟨keyState, fifth, atEquals, spellsState, codeState, -, trailerState, -⟩
  rcases atEquals.opened with
    ⟨_, sixth, final, rfl, codeEquals, -, trailerEquals, -⟩
  rcases final.last with ⟨_, rfl, last⟩
  have trailers : final.trailer = layout.trailer :=
    trailerEquals.trans (trailerState.trans (trailerSet.trans trailer))
  rw [gap] at one
  refine ⟨third, fourth, fifth, sixth, ?_⟩
  have whole :
      layout.code =
        alter ++ ([' '] ++ (warehouse ++
          (second.text ++ (name.text ++ (third.text ++ (word ++
            (fourth.text ++ (keyState ++ (fifth.text ++ (['='] ++
              (sixth.text ++ (state.text ++ layout.trailer)))))))))))) := by
    rw [code, one, ← trailers, ← last, ← codeEquals, ← codeState, ← codeSet]
    rfl
  rw [operands, whole]
  exact
    setState_layout spellsAlter spellsWarehouse spellsSet spellsState
      state.ne_nil state.isIdentifier.named layout.isTrailer

/-- Whether the action is read behind this name, and accepted. -/
def WarehouseAction.Reads (name : Identifier) :
    WarehouseAction → Prop
  | .setState state => ¬ MisreadsSet name.text ∧ IsWarehouseState state.text
  | _ => True

/--
`ALTER WAREHOUSE` needs one blank, and a last word that ends free unless the
documented statement is refused as well.
-/
theorem alterWarehouse_sameDispatch :
    SameDispatch layout.text
        (Statement.alterWarehouse name action).documented.text ↔
      layout.gap 0 = [' '] ∧ (action.Reads name → layout.EndsFree) := by
  have one : (Statement.alterWarehouse name action).documented.gap 0 = [' '] :=
    Statement.documented_gap (by cases action <;> simp [Statement.pieces])
  have own :=
    (Statement.alterWarehouse name action).documented.alterWarehouse_chosen
  rw [if_pos one] at own
  rw [sameDispatch_iff layout layout.alterWarehouse_chosen own,
    layout.endsFree_iff]
  apply and_congr_right
  intro fits
  cases action with
  | resume =>
      rw [layout.simpleAction_operands fits ⟨rfl, Or.inl ⟨rfl, rfl⟩⟩,
        Layout.simpleAction_operands _ one ⟨rfl, Or.inl ⟨rfl, rfl⟩⟩]
      simp [WarehouseAction.Reads, Statement.documented, stuck]
  | suspend =>
      rw [layout.simpleAction_operands fits ⟨rfl, Or.inr ⟨rfl, rfl⟩⟩,
        Layout.simpleAction_operands _ one ⟨rfl, Or.inr ⟨rfl, rfl⟩⟩]
      simp [WarehouseAction.Reads, Statement.documented, stuck]
  | setState state =>
      have named := name.isIdentifier.named
      have nonempty : state.text.map Char.toUpper ≠ [] := by
        simpa using state.ne_nil
      have isState := upper_named state.isIdentifier.named
      rcases layout.setState_reads fits with
        ⟨third, fourth, fifth, sixth, reads⟩
      rcases Layout.setState_reads _ one with
        ⟨ownThird, ownFourth, ownFifth, ownSixth, ownReads⟩
      rw [reads, ownReads]
      by_cases misread : MisreadsSet name.text
      · rcases @setState_misread _ third named misread _ with
          ⟨message, refused⟩
        rcases @setState_misread _ ownThird named misread _ with
          ⟨ownMessage, ownRefused⟩
        rw [refused, ownRefused]
        simp [WarehouseAction.Reads, misread, alteration, Except.bind,
          Except.toOption]
      · rw [setState_read named misread nonempty isState,
          setState_read named misread nonempty isState, stuck_trimEnd]
        have same := @alteration_state name state.text _ layout.isTrailer
        simp only [Option.map_some, Option.some.injEq, WarehouseAction.Reads,
          misread, not_false_eq_true, true_and]
        rw [← same]
        simp [Statement.documented, stuck, trimEnd]

end AlterWarehouse

end OpenSnow.Core.Commands
