import OpenSnow.Core.LayoutOperands
import OpenSnow.Rust.Search

/-!
# Layouts of `USE WAREHOUSE` and `CREATE WAREHOUSE`

The branches compare prefixes.  `USE WAREHOUSE` takes a semicolon that sticks to
the name along, and `CREATE WAREHOUSE` splits its options at semicolons as well.
-/

namespace OpenSnow.Core.Commands

open Foundation
open Rust.Text

/-! ## USE WAREHOUSE -/

section UseWarehouse

variable {name : Identifier}

variable (layout : Layout (Statement.useWarehouse name).pieces)

theorem Layout.useWarehouse_code :
    ∃ (use warehouse : List Char) (first second : Gap),
      Spells use "USE" ∧ Spells warehouse "WAREHOUSE" ∧
        layout.gap 0 = first.text ∧
        layout.code =
          use ++ (first.text ++ (warehouse ++
            (second.text ++ (name.text ++ layout.trailer)))) := by
  rcases layout.opened with ⟨use, first, later, spellsUse, code, gaps, trailer, -⟩
  rcases later.opened with
    ⟨warehouse, second, final, spellsWarehouse, code', gaps', trailer', -⟩
  rcases final.last with ⟨_, rfl, code''⟩
  refine ⟨use, warehouse, first, second, spellsUse, spellsWarehouse, ?_, ?_⟩
  · rw [Layout.gap, gaps]
    rfl
  · exact code.trans (by rw [code', code'', trailer', trailer])

theorem Layout.useWarehouse_chosen :
    chosenHandler layout.code =
      if layout.gap 0 = [' '] then some .useWarehouse else none := by
  rcases layout.useWarehouse_code with
    ⟨use, warehouse, first, second, spellsUse, spellsWarehouse, gap, code⟩
  rw [code, gap, chosenHandler_useWarehouse first spellsUse spellsWarehouse]

theorem Layout.useWarehouse_operands (one : layout.gap 0 = [' ']) :
    operands .useWarehouse layout.code =
      some
        (.ok
          (.useWarehouse
            (String.ofList (name.text ++ stuck layout.trailer)))) := by
  rcases layout.useWarehouse_code with
    ⟨use, warehouse, first, second, spellsUse, spellsWarehouse, gap, code⟩
  rw [gap] at one
  rw [operands, useWarehouseOperands, code, one,
    sliceFrom_two spellsUse spellsWarehouse (by decide), Option.map_some,
    firstWord_trim second.blank name.ne_nil name.solid]

/-- `USE WAREHOUSE` needs one blank and a name that ends free. -/
theorem useWarehouse_sameDispatch :
    SameDispatch layout.text (Statement.useWarehouse name).documented.text ↔
      layout.gap 0 = [' '] ∧ layout.EndsFree := by
  have one : (Statement.useWarehouse name).documented.gap 0 = [' '] := rfl
  have own := (Statement.useWarehouse name).documented.useWarehouse_chosen
  rw [if_pos one] at own
  rw [sameDispatch_iff layout layout.useWarehouse_chosen own,
    Layout.useWarehouse_operands _ one, layout.endsFree_iff]
  apply and_congr_right
  intro fits
  rw [layout.useWarehouse_operands fits]
  simp [Except.toOption, Statement.documented, stuck]

end UseWarehouse

/-! ## CREATE WAREHOUSE -/

section CreateWarehouse

variable {name : Identifier} {options : List (WarehouseOption × OptionValue)}

/-- The text of a token without the quotes around it. -/
def unquoted (token : List Char) : String :=
  String.ofList (trimMatches '"' (trimMatches '\'' token))

theorem optionTokens_eq (text : List Char) :
    optionTokens text = (fields isOptionBreak text).map unquoted :=
  rfl

theorem isOptionBreak_of_blank {ch : Char} (blank : isWhitespace ch) :
    isOptionBreak ch := by
  rw [isOptionBreak, blank]
  rfl

theorem isOptionBreak_of_named {ch : Char} (named : isSqlIdentifierChar ch) :
    isOptionBreak ch = false := by
  rw [isOptionBreak, not_isWhitespace_of_alphanum named, Bool.false_or]
  simp only [Bool.or_eq_false_iff, beq_eq_false_iff_ne]
  refine ⟨⟨?_, ?_⟩, ?_⟩ <;> rintro rfl <;> revert named <;> decide

theorem IsTrailer.breaks {trailer : List Char}
    (isTrailer : IsTrailer trailer) : ∀ ch ∈ trailer, isOptionBreak ch := by
  intro ch member
  rcases isTrailer ch member with rfl | blank
  · decide
  · exact isOptionBreak_of_blank blank

/-- Tokens that spell the options with their values. -/
inductive OptionTokens :
    List (WarehouseOption × OptionValue) → List (List Char) → Prop where
  | nil : OptionTokens [] []
  | cons {option : WarehouseOption} {value : OptionValue}
      {options : List (WarehouseOption × OptionValue)} {word : List Char}
      {tokens : List (List Char)} :
      Spells word option.keyword → OptionTokens options tokens →
        OptionTokens ((option, value) :: options)
          (word :: value.text :: tokens)

theorem Gap.breaks (gap : Gap) (rest : List Char) :
    Stops (!isOptionBreak ·) (gap.text ++ rest) := by
  cases form : gap.text with
  | nil => exact absurd form gap.nonempty
  | cons ch blanks =>
      have blank := gap.blank ch (by rw [form]; exact List.mem_cons_self)
      exact stops_cons.mpr (by simp [isOptionBreak_of_blank blank])

theorem option_fields {word rest : List Char} {value : OptionValue}
    {keyword : String} (gap later : Gap) (spells : Spells word keyword)
    (stops : Stops (!isOptionBreak ·) rest) :
    fields isOptionBreak
        (word ++ (gap.text ++ (['='] ++ (later.text ++ (value.text ++ rest))))) =
      word :: value.text :: fields isOptionBreak rest := by
  have breaks : ∀ ch ∈ gap.text ++ (['='] ++ later.text), isOptionBreak ch := by
    intro ch member
    simp only [List.mem_append, List.mem_singleton] at member
    rcases member with inGap | rfl | inLater
    · exact isOptionBreak_of_blank (gap.blank ch inGap)
    · decide
    · exact isOptionBreak_of_blank (later.blank ch inLater)
  have parts :
      gap.text ++ (['='] ++ (later.text ++ (value.text ++ rest))) =
        (gap.text ++ (['='] ++ later.text)) ++ (value.text ++ rest) := by
    simp
  rw [fields_run_append spells.ne_nil
      (fun ch member => isOptionBreak_of_named (spells.named ch member))
      (gap.breaks _),
    parts, fields_breaks_append breaks,
    fields_run_append value.nonempty value.noBreak stops]

variable {option : WarehouseOption × OptionValue}
  {more : List (WarehouseOption × OptionValue)}

/-- The tokens behind `WITH`. -/
theorem options_tokens
    (layout : Layout ((option :: more).flatMap optionPieces)) :
    ∃ tokens, OptionTokens (option :: more) tokens ∧
      fields isOptionBreak layout.code = tokens := by
  induction more generalizing option with
  | nil =>
      rcases layout.opened with
        ⟨word, gap, atEquals, spells, code, -, trailer, -⟩
      rcases atEquals.opened with
        ⟨_, later, final, rfl, codeEquals, -, trailerEquals, -⟩
      rcases final.last with ⟨_, rfl, last⟩
      have ends : Stops (!isOptionBreak ·) final.trailer := by
        intro ch isHead
        simp [final.isTrailer.breaks ch (List.mem_of_mem_head? isHead)]
      refine
        ⟨_, .cons spells .nil, (congrArg (fields isOptionBreak) code).trans ?_⟩
      have none := @fields_breaks_append _ _ _ [] final.isTrailer.breaks
      rw [List.append_nil, fields_nil] at none
      rw [codeEquals, last, option_fields gap later spells ends, none]
  | cons second more ih =>
      rcases layout.opened with ⟨word, gap, atEquals, spells, code, -⟩
      rcases atEquals.opened with ⟨_, later, atValue, rfl, codeEquals, -⟩
      rcases atValue.opened with ⟨_, between, others, rfl, codeValue, -⟩
      rcases ih others with ⟨tokens, spelled, split⟩
      have behindKey :
          atEquals.code =
            ['='] ++ (later.text ++ (option.2.text ++
              (between.text ++ others.code))) :=
        codeEquals.trans (congrArg (['='] ++ later.text ++ ·) codeValue)
      refine
        ⟨_, .cons spells spelled,
          (congrArg (fields isOptionBreak) code).trans ?_⟩
      rw [behindKey, option_fields gap later spells (between.breaks _),
        fields_breaks_append fun ch member =>
          isOptionBreak_of_blank (between.blank ch member)]
      exact congrArg (word :: option.2.text :: ·) split

theorem trimMatches_of_absent {pattern : Char} {text : List Char}
    (absent : pattern ∉ text) : trimMatches pattern text = text := by
  have front : ∀ part : List Char, pattern ∉ part →
      part.dropWhile (· == pattern) = part := by
    intro part notIn
    apply dropWhile_of_stops
    intro ch isHead
    rw [beq_eq_false_iff_ne]
    rintro rfl
    exact notIn (List.mem_of_mem_head? isHead)
  rw [trimMatches, trimEndMatches, front _ absent,
    front _ (by simpa using absent), List.reverse_reverse]

theorem upper_unquoted {word : List Char} {keyword : String}
    (spells : Spells word keyword) :
    toAsciiUppercase (unquoted word) = keyword := by
  have absent : ∀ quote : Char, isSqlIdentifierChar quote = false →
      quote ∉ word := by
    intro quote notNamed member
    rw [spells.named quote member] at notNamed
    cases notNamed
  rw [unquoted, trimMatches_of_absent (absent '\'' (by decide)),
    trimMatches_of_absent (absent '"' (by decide)), toAsciiUppercase,
    String.toList_ofList, spells.upper, String.ofList_toList]

/-- The loop reads the same of every spelling of the options. -/
theorem optionLoop_spelled {tokens others : List (List Char)}
    (spelled : OptionTokens options tokens)
    (again : OptionTokens options others) (spec : WarehouseSpec) :
    optionLoop spec (tokens.map unquoted) =
      optionLoop spec (others.map unquoted) := by
  induction spelled generalizing others spec with
  | nil =>
      cases again
      rfl
  | @cons option value _ word _ spells _ ih =>
      cases again with
      | cons spellsAgain again =>
          have keyword := upper_unquoted spells
          have keywordAgain := upper_unquoted spellsAgain
          have same := ih again
          simp only [List.map_cons, optionLoop, keyword, keywordAgain]
          cases option <;> simp only [WarehouseOption.keyword, same]

variable (layout : Layout (Statement.createWarehouse name options).pieces)

/-- The name and what stands behind it. -/
theorem Layout.createWarehouse_code :
    ∃ (create warehouse behind : List Char) (first second : Gap),
      Spells create "CREATE" ∧ Spells warehouse "WAREHOUSE" ∧
        layout.gap 0 = first.text ∧
        layout.code =
          create ++ (first.text ++ (warehouse ++
            (second.text ++ (name.text ++ behind)))) ∧
        match options with
        | [] => behind = layout.trailer
        | option :: more =>
            ∃ (third fourth : Gap) (withWord onwards : List Char)
              (tokens : List (List Char)),
              Spells withWord "WITH" ∧ OptionTokens (option :: more) tokens ∧
                behind =
                  third.text ++ (withWord ++ (fourth.text ++ onwards)) ∧
                fields isOptionBreak onwards = tokens := by
  cases options with
  | nil =>
      rcases layout.opened with
        ⟨create, first, atWarehouse, spellsCreate, code, gaps, trailer, -⟩
      rcases atWarehouse.opened with
        ⟨warehouse, second, final, spellsWarehouse, codeWarehouse, -,
          trailerWarehouse, -⟩
      rcases final.last with ⟨_, rfl, last⟩
      refine
        ⟨create, warehouse, final.trailer, first, second, spellsCreate,
          spellsWarehouse, ?_, ?_, ?_⟩
      · rw [Layout.gap, gaps]
        rfl
      · have atName :=
          congrArg (fun text => warehouse ++ (second.text ++ text)) last
        exact
          code.trans
            (congrArg (fun text => create ++ (first.text ++ text))
              (codeWarehouse.trans atName))
      · exact trailerWarehouse.trans trailer
  | cons option more =>
      rcases layout.opened with
        ⟨create, first, atWarehouse, spellsCreate, code, gaps, -⟩
      rcases atWarehouse.opened with
        ⟨warehouse, second, atName, spellsWarehouse, codeWarehouse, -⟩
      rcases atName.opened with ⟨_, third, atWith, rfl, codeName, -⟩
      rcases atWith.opened with ⟨withWord, fourth, others, spells, codeWith, -⟩
      rcases options_tokens others with ⟨tokens, spelled, split⟩
      refine
        ⟨create, warehouse, _, first, second, spellsCreate, spellsWarehouse,
          ?_, ?_, third, fourth, withWord, others.code, tokens, spells, spelled,
          rfl, split⟩
      · rw [Layout.gap, gaps]
        rfl
      · have behindName :=
          codeName.trans
            (congrArg (fun text => name.text ++ (third.text ++ text)) codeWith)
        have behindWarehouse :=
          codeWarehouse.trans
            (congrArg (fun text => warehouse ++ (second.text ++ text))
              behindName)
        exact
          code.trans
            (congrArg (fun text => create ++ (first.text ++ text))
              behindWarehouse)

theorem Layout.createWarehouse_chosen :
    chosenHandler layout.code =
      if layout.gap 0 = [' '] then some .createWarehouse else none := by
  rcases layout.createWarehouse_code with
    ⟨create, warehouse, behind, first, second, spellsCreate, spellsWarehouse,
      gap, code, -⟩
  rw [code, gap,
    chosenHandler_createWarehouse first spellsCreate spellsWarehouse
      (second.stops _)]

/-- Trimming a statement does not change its option tokens. -/
theorem fields_trimStatement (text : List Char) :
    fields isOptionBreak (trimStatement text) = fields isOptionBreak text := by
  have trimmed : ∀ part : List Char,
      fields isOptionBreak (trim part) = fields isOptionBreak part := by
    intro part
    rcases trim_shape part with ⟨before, after, shape, front, back⟩
    conv_rhs => rw [shape]
    rw [fields_breaks_append fun ch member =>
        isOptionBreak_of_blank (front ch member),
      fields_append_breaks fun ch member =>
        isOptionBreak_of_blank (back ch member)]
  rcases trimEndMatches_shape ';' (trim text) with ⟨after, shape, ends⟩
  rw [trimStatement, trimmed, ← trimmed text]
  conv_rhs => rw [shape]
  rw [fields_append_breaks]
  intro ch member
  rw [ends ch member]
  decide

/-- What `CREATE WAREHOUSE` sets without options. -/
def defaultSpec (name : List Char) : WarehouseSpec where
  name := String.ofList name
  size := "small"
  minNodes := 0
  maxNodes := 4
  autoSuspend := 300

/-- The handler on a text whose keywords are one blank apart. -/
theorem createWarehouse_reads {create warehouse behind : List Char}
    {second : Gap} (spellsCreate : Spells create "CREATE")
    (spellsWarehouse : Spells warehouse "WAREHOUSE") :
    createWarehouseOperands
        (create ++ ([' '] ++ (warehouse ++
          (second.text ++ (name.text ++ behind))))) =
      some
        ((warehouseSpec
            (create ++ ([' '] ++ (warehouse ++
              (second.text ++ (name.text ++ behind)))))
            (trimStatement (second.text ++ (name.text ++ behind)))).map
          .createWarehouse) := by
  rw [createWarehouseOperands,
    sliceFrom_two spellsCreate spellsWarehouse (by decide), Option.map_some]

theorem validateIdentifier_toOption (object command : String)
    (name : List Char) :
    validateIdentifier object name command = .ok () ↔
      isSafeUnqualifiedIdentifier name := by
  rw [validateIdentifier]
  split <;> simp [*]

/-- The specification of a statement without options. -/
theorem warehouseSpec_bare {sql trailer : List Char} {second : Gap}
    (isTrailer : IsTrailer trailer) :
    (warehouseSpec sql
        (trimStatement (second.text ++ (name.text ++ trailer)))).toOption =
      if isSafeUnqualifiedIdentifier (name.text ++ stuckTrimmed trailer) then
        some (defaultSpec (name.text ++ stuckTrimmed trailer))
      else none := by
  have named := name.isIdentifier.named
  have tokens :
      fields isOptionBreak
          (trimStatement (second.text ++ (name.text ++ trailer))) =
        [name.text] := by
    rw [fields_trimStatement, fields_breaks_append fun ch member =>
        isOptionBreak_of_blank (second.blank ch member),
      fields_append_breaks isTrailer.breaks,
      fields_run name.ne_nil fun ch member =>
        isOptionBreak_of_named (named ch member)]
  rw [warehouseSpec, firstWord_trimStatement second.blank name.ne_nil named]
  simp only [optionTokens_eq, tokens, List.map_cons, List.map_nil,
    List.tail_cons, optionLoop, ite_self]
  by_cases safe :
      isSafeUnqualifiedIdentifier (name.text ++ stuckTrimmed trailer)
  · have valid :
        validateWarehouseIdentifier (name.text ++ stuckTrimmed trailer)
            "CREATE WAREHOUSE" =
          .ok () :=
      (validateIdentifier_toOption _ _ _).mpr safe
    rw [if_pos safe, valid]
    rfl
  · rw [if_neg safe, validateWarehouseIdentifier, validateIdentifier,
      if_neg safe]
    rfl

/-- The options of a statement are read whatever their spelling. -/
theorem warehouseSpec_options {sql onwards withWord : List Char}
    {second third fourth : Gap} {tokens : List (List Char)}
    (spells : Spells withWord "WITH")
    (spelled : OptionTokens (option :: more) tokens)
    (split : fields isOptionBreak onwards = tokens)
    (inSql : "WITH".toList <:+: upperChars sql) :
    warehouseSpec sql
        (trimStatement
          (second.text ++ (name.text ++
            (third.text ++ (withWord ++ (fourth.text ++ onwards)))))) =
      (validateWarehouseIdentifier name.text "CREATE WAREHOUSE").bind
        fun _ =>
          (optionLoop (defaultSpec name.text) (tokens.map unquoted)).bind
            checkWarehouseSpec := by
  have named := name.isIdentifier.named
  have ends :
      stuckTrimmed (third.text ++ (withWord ++ (fourth.text ++ onwards))) =
        [] := by
    rw [stuckTrimmed, stuck, takeWhile_eq_nil_iff_stops]
    exact
      stops_of_leading
        ((trimEndMatches_leads ';' _).trans (trimEnd_leads _))
        (third.stops _)
  have all :
      fields isOptionBreak
          (trimStatement
            (second.text ++ (name.text ++
              (third.text ++ (withWord ++ (fourth.text ++ onwards)))))) =
        name.text :: withWord :: tokens := by
    rw [fields_trimStatement, fields_breaks_append fun ch member =>
        isOptionBreak_of_blank (second.blank ch member),
      fields_run_append name.ne_nil
        (fun ch member => isOptionBreak_of_named (named ch member))
        (third.breaks _),
      fields_breaks_append fun ch member =>
        isOptionBreak_of_blank (third.blank ch member),
      fields_run_append spells.ne_nil
        (fun ch member => isOptionBreak_of_named (spells.named ch member))
        (fourth.breaks _),
      fields_breaks_append fun ch member =>
        isOptionBreak_of_blank (fourth.blank ch member),
      split]
  rw [warehouseSpec, firstWord_trimStatement second.blank name.ne_nil named,
    ends, List.append_nil]
  cases spelled with
  | cons spellsKey others =>
      simp only [optionTokens_eq, all, List.map_cons, List.tail_cons,
        if_pos inSql]
      rw [optionLoop]
      simp only [upper_unquoted spells]
      rfl

theorem Layout.createWarehouse_bare
    (layout : Layout (Statement.createWarehouse name []).pieces)
    (one : layout.gap 0 = [' ']) :
    (operands .createWarehouse layout.code).map Except.toOption =
      some
        (if isSafeUnqualifiedIdentifier
            (name.text ++ stuckTrimmed layout.trailer) then
          some
            (.createWarehouse
              (defaultSpec (name.text ++ stuckTrimmed layout.trailer)))
        else none) := by
  rcases layout.createWarehouse_code with
    ⟨create, warehouse, behind, first, second, spellsCreate, spellsWarehouse,
      gap, code, rfl⟩
  have spec :=
    @warehouseSpec_bare name
      (create ++ ([' '] ++ (warehouse ++
        (second.text ++ (name.text ++ layout.trailer))))) _ second
      layout.isTrailer
  rw [gap] at one
  rw [operands, code, one, createWarehouse_reads spellsCreate spellsWarehouse,
    Option.map_some]
  cases made :
      warehouseSpec
        (create ++ ([' '] ++ (warehouse ++
          (second.text ++ (name.text ++ layout.trailer)))))
        (trimStatement (second.text ++ (name.text ++ layout.trailer))) with
  | ok read =>
      rw [made] at spec
      split at spec
      · rename_i safe
        rw [Except.toOption, Option.some.injEq] at spec
        rw [if_pos safe, spec]
        rfl
      · cases spec
  | error message =>
      rw [made] at spec
      split at spec
      · cases spec
      · rename_i unsafeName
        rw [if_neg unsafeName]
        rfl

theorem Layout.createWarehouse_options
    (layout : Layout (Statement.createWarehouse name (option :: more)).pieces)
    (one : layout.gap 0 = [' ']) :
    ∃ tokens, OptionTokens (option :: more) tokens ∧
      operands .createWarehouse layout.code =
        some
          (((validateWarehouseIdentifier name.text "CREATE WAREHOUSE").bind
              fun _ =>
                (optionLoop (defaultSpec name.text)
                  (tokens.map unquoted)).bind checkWarehouseSpec).map
            .createWarehouse) := by
  rcases layout.createWarehouse_code with
    ⟨create, warehouse, behind, first, second, spellsCreate, spellsWarehouse,
      gap, code, third, fourth, withWord, onwards, tokens, spells, spelled,
      rfl, split⟩
  refine ⟨tokens, spelled, ?_⟩
  have inSql : "WITH".toList <:+:
      upperChars
        (create ++ ([' '] ++ (warehouse ++ (second.text ++
          (name.text ++ (third.text ++
            (withWord ++ (fourth.text ++ onwards)))))))) := by
    have shape :
        create ++ ([' '] ++ (warehouse ++ (second.text ++
            (name.text ++ (third.text ++
              (withWord ++ (fourth.text ++ onwards))))))) =
          (create ++ ([' '] ++ (warehouse ++ (second.text ++
            (name.text ++ third.text))))) ++
              (withWord ++ (fourth.text ++ onwards)) := by
      simp
    rw [shape, upperChars_append, spells.upperChars]
    exact ⟨_, _, List.append_assoc _ _ _⟩
  rw [gap] at one
  rw [operands, code, one, createWarehouse_reads spellsCreate spellsWarehouse,
    warehouseSpec_options spells spelled split inSql]

/--
`CREATE WAREHOUSE` needs one blank, and without options a name that the
semicolons come off, if the name is not refused as well.
-/
theorem createWarehouse_sameDispatch :
    SameDispatch layout.text
        (Statement.createWarehouse name options).documented.text ↔
      layout.gap 0 = [' '] ∧
        (options = [] → utf8Len name.text ≤ 128 →
          StripsOff layout.trailer) := by
  have one :
      (Statement.createWarehouse name options).documented.gap 0 = [' '] :=
    Statement.documented_gap (by simp [Statement.pieces])
  have own :=
    (Statement.createWarehouse name options).documented.createWarehouse_chosen
  rw [if_pos one] at own
  rw [sameDispatch_iff layout layout.createWarehouse_chosen own,
    ← stuckTrimmed_eq_nil_iff layout.isTrailer,
    ← isSafe_iff_short name.isIdentifier]
  apply and_congr_right
  intro fits
  cases options with
  | nil =>
      have ownStuck :
          stuckTrimmed (Statement.createWarehouse name []).documented.trailer =
            [] := rfl
      rw [layout.createWarehouse_bare fits, Layout.createWarehouse_bare _ one,
        ownStuck, List.append_nil]
      cases ends : stuckTrimmed layout.trailer with
      | nil => simp
      | cons ch others =>
          have semicolon : ch = ';' :=
            stuckTrimmed_semicolons layout.isTrailer ch
              (by rw [ends]; exact List.mem_cons_self)
          have refused :
              ¬ isSafeUnqualifiedIdentifier (name.text ++ ch :: others) := by
            intro safe
            have named := (isSafe_named safe).2 ch (by simp)
            rw [semicolon] at named
            revert named
            decide
          rw [if_neg refused]
          simp
  | cons option more =>
      rcases layout.createWarehouse_options fits with
        ⟨tokens, spelled, reads⟩
      rcases Layout.createWarehouse_options _ one with
        ⟨ownTokens, ownSpelled, ownReads⟩
      rw [reads, ownReads, optionLoop_spelled spelled ownSpelled]
      simp

end CreateWarehouse

end OpenSnow.Core.Commands
