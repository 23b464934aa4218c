import OpenSnow.Core.Layouts

/-!
# The handler of a layout

Branches that compare a prefix take a layout only if single blanks stand
between its first keywords; the branches of creations take every layout.
-/

namespace OpenSnow.Core.Commands

open Foundation
open Rust.Text

/-! ## Prefixes across gaps -/

variable (gap : Gap)

theorem Gap.stops (rest : List Char) :
    Stops (!isWhitespace ·) (gap.text ++ rest) := by
  rcases gap with ⟨_ | ⟨ch, text⟩, nonempty, blank⟩
  · exact absurd rfl nonempty
  · exact stops_cons.mpr (by simp [blank ch List.mem_cons_self])

theorem Gap.upperChars_append (rest : List Char) :
    upperChars (gap.text ++ rest) = gap.text ++ upperChars rest := by
  rw [Rust.Text.upperChars_append, upperChars_of_blank gap.blank]

/-- A keyword behind one blank is found only behind one blank. -/
theorem Gap.prefix_iff {keyword rest : List Char}
    (nonempty : keyword ≠ []) (solid : Stops isWhitespace keyword) :
    ' ' :: keyword <+: gap.text ++ rest ↔
      gap.text = [' '] ∧ keyword <+: rest := by
  rcases gap with ⟨_ | ⟨ch, _ | ⟨second, text⟩⟩, gapNonempty, blank⟩
  · exact absurd rfl gapNonempty
  · rw [List.cons_append, List.nil_append, List.cons_prefix_cons,
      List.cons.injEq, eq_comm]
    simp
  · rw [List.cons_append, List.cons_append, List.cons_prefix_cons]
    constructor
    · rintro ⟨-, longer⟩
      cases keyword with
      | nil => exact absurd rfl nonempty
      | cons first keyword =>
          rw [List.cons_prefix_cons] at longer
          rw [stops_cons, longer.1, blank second (by simp)] at solid
          cases solid
    · rintro ⟨one, -⟩
      simp at one

/-- A keyword is no part of the blanks in front of it. -/
theorem blanks_prefix_iff {blanks keyword rest : List Char}
    (blank : Blank blanks) (nonempty : keyword ≠ [])
    (solid : Stops isWhitespace keyword) :
    keyword <+: blanks ++ rest ↔ blanks = [] ∧ keyword <+: rest := by
  cases blanks with
  | nil => simp
  | cons first blanks =>
      cases keyword with
      | nil => exact absurd rfl nonempty
      | cons ch keyword =>
          have white := blank first List.mem_cons_self
          rw [List.cons_append, List.cons_prefix_cons]
          constructor
          · rintro ⟨rfl, -⟩
            rw [stops_cons.mp solid] at white
            cases white
          · rintro ⟨none, -⟩
            cases none

/-- A blank is found where a gap starts with one. -/
theorem Gap.blank_prefix_iff (rest : List Char) :
    [' '] <+: gap.text ++ rest ↔ gap.text.head? = some ' ' := by
  rcases gap with ⟨_ | ⟨ch, text⟩, nonempty, blank⟩
  · exact absurd rfl nonempty
  · rw [List.cons_append, List.cons_prefix_cons, List.head?_cons,
      Option.some.injEq, eq_comm]
    simp

theorem hasPrefix_gap {first more rest : List Char}
    {start : String} (shape : start.toList = first ++ ' ' :: more)
    (nonempty : more ≠ []) (solid : Stops isWhitespace more) :
    hasPrefix (first ++ (gap.text ++ rest)) start ↔
      gap.text = [' '] ∧ more <+: rest := by
  rw [hasPrefix, List.isPrefixOf_iff_prefix, shape,
    List.prefix_append_right_inj, gap.prefix_iff nonempty solid]

/-- A branch for two keywords takes them one blank apart. -/
theorem hasPrefix_two {first second : List Char} {start : String}
    (shape : start.toList = first ++ ' ' :: second) (nonempty : second ≠ [])
    (solid : Stops isWhitespace second) (rest : List Char) :
    hasPrefix (first ++ (gap.text ++ (second ++ rest))) start =
      decide (gap.text = [' ']) := by
  rw [Bool.eq_iff_iff, hasPrefix_gap gap shape nonempty solid,
    decide_eq_true_iff]
  simp

variable (gap later : Gap)

/-- A branch for three keywords takes them one blank apart. -/
theorem hasPrefix_three {first second third : List Char} {start : String}
    (shape : start.toList = first ++ ' ' :: (second ++ ' ' :: third))
    (nonempty : second ≠ [] ∧ third ≠ [])
    (solid : Stops isWhitespace second ∧ Stops isWhitespace third)
    (rest : List Char) :
    hasPrefix
        (first ++ (gap.text ++ (second ++ (later.text ++ (third ++ rest)))))
        start =
      decide (gap.text = [' '] ∧ later.text = [' ']) := by
  have solidMore : Stops isWhitespace (second ++ ' ' :: third) := by
    cases second with
    | nil => exact absurd rfl nonempty.1
    | cons ch second => exact stops_cons.mpr (stops_cons.mp solid.1)
  rw [Bool.eq_iff_iff, hasPrefix_gap gap shape (by simp) solidMore,
    List.prefix_append_right_inj, later.prefix_iff nonempty.2 solid.2,
    decide_eq_true_iff]
  simp

/-! ## Statements that create nothing from a query -/

theorem afterKeyword_spelled_other {blanks word rest : List Char}
    {keyword expected : String} (blank : Blank blanks)
    (spells : Spells word keyword) (stops : Stops (!isWhitespace ·) rest)
    (upper : expected.toList.map Char.toUpper = expected.toList)
    (other : keyword ≠ expected) :
    afterKeyword (blanks ++ (word ++ rest)) expected = none := by
  have starts : Stops isWhitespace (word ++ rest) := by
    cases word with
    | nil => exact absurd rfl spells.ne_nil
    | cons ch word =>
        exact stops_cons.mpr (spells.not_blank ch List.mem_cons_self)
  apply afterKeyword_other blank starts _ stops
  · intro same
    have spelled := (eqIgnoreCase_iff upper).mp same
    rw [spells.upper, String.toList_inj] at spelled
    exact other spelled
  · intro ch member
    rw [spells.not_blank ch member]
    rfl

/-- The handler of a text whose first word is not `CREATE`. -/
theorem chosenHandler_word {word rest : List Char} {keyword : String}
    (spells : Spells word keyword) (stops : Stops (!isWhitespace ·) rest)
    (other : keyword ≠ "CREATE") :
    chosenHandler (word ++ rest) =
      (firstPassed (keyword.toList ++ upperChars rest)
          (openTests keyword.toList frontTests)).or
        (firstPassed (keyword.toList ++ upperChars rest)
          (openTests keyword.toList backTests)) := by
  have noKeywords : ∀ more,
      afterKeywords (word ++ rest) ("CREATE" :: more) = none := by
    intro more
    have none :=
      @afterKeyword_spelled_other [] _ _ _ "CREATE" blank_nil spells stops
        (by decide) other
    rw [List.nil_append] at none
    rw [afterKeywords, none]
    rfl
  have noTable : createsTable (word ++ rest) = false := by
    rw [createsTable, noKeywords]
  rw [chosenHandler_eq, noTable, noKeywords, spells.upperChars,
    firstPassed_openTests, firstPassed_openTests]
  simp

theorem createWarehouse_words :
    "CREATE WAREHOUSE".toList =
      "CREATE".toList ++ ' ' :: "WAREHOUSE".toList := by
  decide

/-- The handler of a text that begins with `CREATE WAREHOUSE`. -/
theorem chosenHandler_createWarehouse {create warehouse rest : List Char}
    (spellsCreate : Spells create "CREATE")
    (spellsWarehouse : Spells warehouse "WAREHOUSE")
    (stops : Stops (!isWhitespace ·) rest) :
    chosenHandler (create ++ (gap.text ++ (warehouse ++ rest))) =
      if gap.text = [' '] then some .createWarehouse else none := by
  have noKeywords : ∀ keyword more,
      keyword.toList.map Char.toUpper = keyword.toList →
        "WAREHOUSE" ≠ keyword →
          afterKeywords (create ++ (gap.text ++ (warehouse ++ rest)))
            ("CREATE" :: keyword :: more) = none := by
    intro keyword more upper other
    have first :=
      @afterKeyword_append [] _ _ _ blank_nil spellsCreate
        (gap.stops (warehouse ++ rest))
    have second :=
      afterKeyword_spelled_other gap.blank spellsWarehouse stops upper other
    rw [List.nil_append] at first
    rw [afterKeywords, first, Option.bind_some, afterKeywords, second]
    rfl
  have noTable :
      createsTable (create ++ (gap.text ++ (warehouse ++ rest))) = false := by
    rw [createsTable, noKeywords "TABLE" [] (by decide) (by decide)]
  have front : openTests "CREATE".toList frontTests =
      [(["CREATE WAREHOUSE"], .createWarehouse)] := by
    decide
  have back : openTests "CREATE".toList backTests = [] := by decide
  rw [chosenHandler_eq, noTable,
    noKeywords "MATERIALIZED" ["VIEW"] (by decide) (by decide),
    spellsCreate.upperChars, gap.upperChars_append, spellsWarehouse.upperChars,
    ← firstPassed_openTests _ _ frontTests, front,
    ← firstPassed_openTests _ _ backTests, back]
  simp only [firstPassed, List.any_cons, List.any_nil, Bool.or_false,
    hasPrefix_two gap createWarehouse_words (by decide)
      (stops_cons.mpr (by decide))]
  by_cases one : gap.text = [' ']
  · simp [one]
  · simp [one]

/-- The handler of a text whose first two keywords have a branch. -/
theorem chosenHandler_two {first second rest : List Char}
    {keyword next start : String} {handler : Handler} (gap : Gap)
    (spells : Spells first keyword) (spellsNext : Spells second next)
    (other : keyword ≠ "CREATE")
    (front : openTests keyword.toList frontTests = [([start], handler)])
    (back : openTests keyword.toList backTests = [])
    (words : start.toList = keyword.toList ++ ' ' :: next.toList)
    (solid : Stops isWhitespace next.toList) :
    chosenHandler (first ++ (gap.text ++ (second ++ rest))) =
      if gap.text = [' '] then some handler else none := by
  rw [chosenHandler_word spells (gap.stops _) other, front, back,
    gap.upperChars_append, spellsNext.upperChars]
  simp only [firstPassed, List.any_cons, List.any_nil, Bool.or_false,
    hasPrefix_two gap words spellsNext.nonempty solid]
  by_cases one : gap.text = [' ']
  · simp [one]
  · simp [one]

theorem chosenHandler_alterWarehouse {alter warehouse rest : List Char}
    (spellsAlter : Spells alter "ALTER")
    (spellsWarehouse : Spells warehouse "WAREHOUSE") :
    chosenHandler (alter ++ (gap.text ++ (warehouse ++ rest))) =
      if gap.text = [' '] then some .alterWarehouse else none :=
  @chosenHandler_two _ _ _ _ _ "ALTER WAREHOUSE" _ gap spellsAlter
    spellsWarehouse (by decide) (by decide) (by decide) (by decide)
    (stops_cons.mpr (by decide))

theorem chosenHandler_useWarehouse {use warehouse rest : List Char}
    (spellsUse : Spells use "USE")
    (spellsWarehouse : Spells warehouse "WAREHOUSE") :
    chosenHandler (use ++ (gap.text ++ (warehouse ++ rest))) =
      if gap.text = [' '] then some .useWarehouse else none :=
  @chosenHandler_two _ _ _ _ _ "USE WAREHOUSE" _ gap spellsUse
    spellsWarehouse (by decide) (by decide) (by decide) (by decide)
    (stops_cons.mpr (by decide))

/-- `COPY` needs a blank behind it and no particular word. -/
theorem chosenHandler_copy {copy rest : List Char}
    (spells : Spells copy "COPY") :
    chosenHandler (copy ++ (gap.text ++ rest)) =
      if gap.text.head? = some ' ' then some .copyInto else none := by
  have front : openTests "COPY".toList frontTests =
      [(["COPY INTO", "COPY "], .copyInto)] := by
    decide
  have back : openTests "COPY".toList backTests = [] := by decide
  have words : "COPY ".toList = "COPY".toList ++ [' '] := by decide
  have wordsInto : "COPY INTO".toList = "COPY ".toList ++ "INTO".toList := by
    decide
  have blank :
      hasPrefix ("COPY".toList ++ (gap.text ++ upperChars rest)) "COPY " =
        decide (gap.text.head? = some ' ') := by
    rw [Bool.eq_iff_iff, hasPrefix, List.isPrefixOf_iff_prefix, words,
      List.prefix_append_right_inj, gap.blank_prefix_iff, decide_eq_true_iff]
  have into :
      hasPrefix ("COPY".toList ++ (gap.text ++ upperChars rest)) "COPY INTO" →
        hasPrefix ("COPY".toList ++ (gap.text ++ upperChars rest)) "COPY " := by
    intro begins
    rw [hasPrefix, List.isPrefixOf_iff_prefix] at begins ⊢
    rw [wordsInto] at begins
    exact (List.prefix_append _ _).trans begins
  rw [chosenHandler_word spells (gap.stops _) (by decide), front, back,
    gap.upperChars_append]
  simp only [firstPassed, List.any_cons, List.any_nil, Bool.or_false,
    Option.or_none]
  by_cases starts : gap.text.head? = some ' '
  · rw [decide_eq_true starts] at blank
    rw [if_pos starts, blank, Bool.or_true, if_pos rfl]
  · rw [decide_eq_false starts] at blank
    have notInto :
        hasPrefix ("COPY".toList ++ (gap.text ++ upperChars rest))
          "COPY INTO" = false := by
      rw [Bool.eq_false_iff]
      intro begins
      rw [into begins] at blank
      cases blank
    rw [if_neg starts, blank, notInto, Bool.or_false, if_neg Bool.false_ne_true]

theorem chosenHandler_refresh {refresh materialized view rest : List Char}
    (spellsRefresh : Spells refresh "REFRESH")
    (spellsMaterialized : Spells materialized "MATERIALIZED")
    (spellsView : Spells view "VIEW") :
    chosenHandler
        (refresh ++
          (gap.text ++ (materialized ++ (later.text ++ (view ++ rest))))) =
      if gap.text = [' '] ∧ later.text = [' '] then
        some .refreshMaterializedView
      else none := by
  have front : openTests "REFRESH".toList frontTests = [] := by decide
  have back : openTests "REFRESH".toList backTests =
      [(["REFRESH MATERIALIZED VIEW"], .refreshMaterializedView)] := by
    decide
  have words : "REFRESH MATERIALIZED VIEW".toList =
      "REFRESH".toList ++
        ' ' :: ("MATERIALIZED".toList ++ ' ' :: "VIEW".toList) := by
    decide
  rw [chosenHandler_word spellsRefresh (gap.stops _) (by decide), front, back,
    gap.upperChars_append, spellsMaterialized.upperChars,
    later.upperChars_append, spellsView.upperChars]
  simp only [firstPassed, List.any_cons, List.any_nil, Bool.or_false,
    Option.none_or,
    hasPrefix_three gap later words (by decide)
      ⟨stops_cons.mpr (by decide), stops_cons.mpr (by decide)⟩,
    decide_eq_true_eq]

theorem openTests_drop_front : openTests "DROP".toList frontTests = [] := by
  decide

theorem openTests_drop_back :
    openTests "DROP".toList backTests =
      [(["DROP MATERIALIZED VIEW"], .dropMaterializedView),
        (["DROP TABLE "], .dropTable)] := by
  decide

theorem dropView_words :
    "DROP MATERIALIZED VIEW".toList =
      "DROP".toList ++
        ' ' :: ("MATERIALIZED".toList ++ ' ' :: "VIEW".toList) := by
  decide

theorem dropTable_words :
    "DROP TABLE ".toList =
      "DROP".toList ++ ' ' :: ("TABLE".toList ++ [' ']) := by
  decide

theorem chosenHandler_dropView {drop materialized view rest : List Char}
    (spellsDrop : Spells drop "DROP")
    (spellsMaterialized : Spells materialized "MATERIALIZED")
    (spellsView : Spells view "VIEW") :
    chosenHandler
        (drop ++
          (gap.text ++ (materialized ++ (later.text ++ (view ++ rest))))) =
      if gap.text = [' '] ∧ later.text = [' '] then
        some .dropMaterializedView
      else none := by
  have notTable :
      hasPrefix
          ("DROP".toList ++
            (gap.text ++
              ("MATERIALIZED".toList ++
                (later.text ++ ("VIEW".toList ++ upperChars rest)))))
          "DROP TABLE " = false := by
    rw [Bool.eq_false_iff]
    intro begins
    have apart :=
      ((hasPrefix_gap gap dropTable_words (by decide)
        (stops_cons.mpr (by decide))).mp begins).2
    rcases apart with ⟨more, shape⟩
    cases shape
  rw [chosenHandler_word spellsDrop (gap.stops _) (by decide),
    openTests_drop_front, openTests_drop_back, gap.upperChars_append,
    spellsMaterialized.upperChars, later.upperChars_append,
    spellsView.upperChars]
  simp only [firstPassed, List.any_cons, List.any_nil, Bool.or_false,
    Option.none_or, notTable, Bool.false_eq_true, if_false,
    hasPrefix_three gap later dropView_words (by decide)
      ⟨stops_cons.mpr (by decide), stops_cons.mpr (by decide)⟩,
    decide_eq_true_eq]

theorem chosenHandler_dropTable {drop table rest : List Char}
    (spellsDrop : Spells drop "DROP") (spellsTable : Spells table "TABLE") :
    chosenHandler
        (drop ++ (gap.text ++ (table ++ (later.text ++ rest)))) =
      if gap.text = [' '] ∧ later.text.head? = some ' ' then
        some .dropTable
      else none := by
  have notView :
      hasPrefix
          ("DROP".toList ++
            (gap.text ++ ("TABLE".toList ++ (later.text ++ upperChars rest))))
          "DROP MATERIALIZED VIEW" = false := by
    rw [Bool.eq_false_iff]
    intro begins
    have apart :=
      ((hasPrefix_gap gap dropView_words (by decide)
        (stops_cons.mpr (by decide))).mp begins).2
    rcases apart with ⟨more, shape⟩
    cases shape
  have isTable :
      hasPrefix
          ("DROP".toList ++
            (gap.text ++ ("TABLE".toList ++ (later.text ++ upperChars rest))))
          "DROP TABLE " =
        decide (gap.text = [' '] ∧ later.text.head? = some ' ') := by
    rw [Bool.eq_iff_iff,
      hasPrefix_gap gap dropTable_words (by decide) (stops_cons.mpr (by decide)),
      List.prefix_append_right_inj, later.blank_prefix_iff, decide_eq_true_iff]
  rw [chosenHandler_word spellsDrop (gap.stops _) (by decide),
    openTests_drop_front, openTests_drop_back, gap.upperChars_append,
    spellsTable.upperChars, later.upperChars_append]
  simp only [firstPassed, List.any_cons, List.any_nil, Bool.or_false,
    Option.none_or, notView, Bool.false_eq_true, if_false, isTable,
    decide_eq_true_eq]

end OpenSnow.Core.Commands
