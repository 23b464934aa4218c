import OpenSnow.Server.CommandGate
import OpenSnow.Server.DemoTargets

/-!
# What the two demo validators make of a statement

They classify a statement alike where the keywords that matter stand by
themselves, a creation has neither a quote nor a comment in front of its target,
and no comment hides an `AS`.
-/

namespace OpenSnow.Server

open Core.Commands (afterKeywords)
open Foundation
open Rust.Text
open Sql
open Server.SqlGuardrails (lexLoop lexSql words)

/-! ## The `AS` of a creation -/

/-- The REST routes find an `AS` here, behind the character `last`. -/
def AsHere (reading : Reading) (last : Option Char) (text : List Char) :
    Prop :=
  withoutComments reading = .plain ∧ !last.any Rest.isSqlIdentifierChar ∧
    (Rest.behindAs text).isSome

instance (reading : Reading) (last : Option Char) (text : List Char) :
    Decidable (AsHere reading last text) :=
  inferInstanceAs (Decidable (_ ∧ _ ∧ _))

/--
No `AS` stands by itself in a comment before the first one outside quotes and
comments, and no quote or semicolon does.
-/
def QuietUntilAs : Reading → Option Char → List Char → Prop
  | _, _, [] => True
  | reading, last, ch :: rest =>
      (AsHere reading last (ch :: rest) ∧ reading = .plain) ∨
        (¬ AsHere reading last (ch :: rest) ∧ QuietAt reading ch ∧
          QuietUntilAs (reading.next true ch rest) (some ch) rest)

def decideQuietUntilAs :
    ∀ reading last text, Decidable (QuietUntilAs reading last text)
  | _, _, [] => .isTrue trivial
  | reading, _, ch :: rest =>
      have := decideQuietUntilAs (reading.next true ch rest) (some ch) rest
      inferInstanceAs (Decidable (_ ∨ _ ∧ _ ∧ _))

instance (reading : Reading) (last : Option Char) (text : List Char) :
    Decidable (QuietUntilAs reading last text) :=
  decideQuietUntilAs reading last text

theorem map_toUpper_of_as {text : List Char} :
    eqIgnoreAsciiCase (String.ofList text) "AS" ↔
      text.map Char.toUpper = ['A', 'S'] := by
  rw [eqIgnoreAsciiCase_iff (by decide), String.toList_ofList]
  exact Iff.rfl

/-- The letters of an `AS`. -/
theorem of_behindAs {text onwards : List Char}
    (behind : Rest.behindAs text = some onwards) :
    ∃ first second, text = first :: second :: onwards ∧
      (first = 'A' ∨ first = 'a') ∧ (second = 'S' ∨ second = 's') ∧
      ∀ ch ∈ onwards.head?, ¬ SqlGuardrails.isWordChar ch := by
  rcases text with _ | ⟨first, _ | ⟨second, rest⟩⟩
  · cases behind
  · cases behind
  · rw [Rest.behindAs] at behind
    split at behind
    · rename_i isAs
      cases behind
      refine ⟨first, second, rfl, isAs.1, isAs.2.1, fun ch isHead word => ?_⟩
      have ends := isAs.2.2
      rw [isHead, Option.any_some] at ends
      rw [show Rest.isSqlIdentifierChar ch = true from word] at ends
      cases ends
    · cases behind

section Letters

variable {first second : Char}

theorem isWordChar_as (isA : first = 'A' ∨ first = 'a')
    (isS : second = 'S' ∨ second = 's') :
    ∀ ch ∈ [first, second], SqlGuardrails.isWordChar ch := by
  apply List.all_eq_true.mp
  rcases isA with rfl | rfl <;> rcases isS with rfl | rfl <;> decide

theorem eqIgnoreAsciiCase_as (isA : first = 'A' ∨ first = 'a')
    (isS : second = 'S' ∨ second = 's') :
    eqIgnoreAsciiCase (String.ofList [first, second]) "AS" := by
  rw [map_toUpper_of_as]
  rcases isA with rfl | rfl <;> rcases isS with rfl | rfl <;> decide

end Letters

/-- A word that is an `AS` is one for the REST routes. -/
theorem behindAs_of_word {ch : Char} {rest : List Char}
    (isAs : eqIgnoreAsciiCase (String.ofList
      ((ch :: rest).takeWhile SqlGuardrails.isWordChar)) "AS") :
    (Rest.behindAs (ch :: rest)).isSome := by
  rw [map_toUpper_of_as, List.takeWhile_cons] at isAs
  split at isAs
  · rw [List.map_cons, List.cons.injEq] at isAs
    obtain ⟨isA, isAs⟩ := isAs
    cases rest with
    | nil => cases isAs
    | cons second rest =>
        rw [List.takeWhile_cons] at isAs
        split at isAs
        · rw [List.map_cons, List.cons.injEq, List.map_eq_nil_iff,
            takeWhile_eq_nil_iff_stops] at isAs
          obtain ⟨isS, stops⟩ := isAs
          have ends : rest.head?.any Rest.isSqlIdentifierChar = false := by
            rw [Option.any_eq_false]
            exact fun letter isHead => stops letter isHead
          rw [Rest.behindAs, if_pos ⟨@eq_or_eq_of_toUpper ch 'A' isA,
            @eq_or_eq_of_toUpper second 'S' isS, by simp [ends]⟩]
          rfl
        · cases isAs
  · cases isAs

/-- The query behind a token, as the guardrails cut it out. -/
def textBehind (token : SqlGuardrails.Token) : List Char :=
  trimStart (token.onwards.drop token.text.length)

theorem textBehind_word (word onwards : List Char) :
    textBehind ⟨String.ofList word, .word, word ++ onwards⟩ =
      trimStart onwards := by
  rw [textBehind, String.length_ofList, List.drop_left]

/-- A block comment is closed by the slash that was looked ahead at. -/
def Ready (reading : Reading) (text : List Char) : Prop :=
  reading = .blockClosing → text.head? = some '/'

theorem ready_next (reading : Reading) (ch : Char) (rest : List Char) :
    Ready (reading.next true ch rest) rest := by
  intro closing
  cases reading with
  | block =>
      rw [Reading.next] at closing
      split_ifs at closing with ends
      exact ends.2
  | plain | quoted | line =>
      rw [Reading.next] at closing
      split_ifs at closing
  | quotePair | lineOpening | blockOpening | blockClosing => cases closing

/-- Behind a character, the lexer is in a word if the character was in one. -/
def Follows (reading : Reading) (last : Option Char) (inWord : Bool) : Prop :=
  reading = .plain → inWord = last.any SqlGuardrails.isWordChar

/-- A character that opens or closes something is no part of a word. -/
theorem follows_of_opened {reading : Reading} {ch : Char} {rest : List Char}
    (sound : QuotesOnly reading) (ready : Ready reading (ch :: rest))
    (opened : ¬ (reading = .plain ∧ reading.next true ch rest = .plain)) :
    Follows (reading.next true ch rest) (some ch) false := by
  intro plain
  have notWord : ∀ other ∈ ['\'', '"', '\n', '/'],
      SqlGuardrails.isWordChar other = false := by
    simp [SqlGuardrails.isWordChar]
  rw [Option.any_some]
  symm
  cases reading with
  | plain => exact absurd ⟨rfl, plain⟩ opened
  | quoted quote =>
      rw [Reading.next] at plain
      split_ifs at plain with isQuote
      rw [isQuote]
      rcases sound with rfl | rfl <;> exact notWord _ (by simp)
  | blockClosing =>
      have isSlash := ready rfl
      rw [List.head?_cons, Option.some.injEq] at isSlash
      rw [isSlash]
      exact notWord '/' (by simp)
  | line =>
      rw [Reading.next] at plain
      split_ifs at plain with isEnd
      rw [isEnd]
      exact notWord '\n' (by simp)
  | block =>
      rw [Reading.next] at plain
      split_ifs at plain
  | quotePair | lineOpening | blockOpening => cases plain

theorem lexLoop_as {first second : Char} {onwards : List Char}
    (isA : first = 'A' ∨ first = 'a') (isS : second = 'S' ∨ second = 's')
    (ends : ∀ ch ∈ onwards.head?, ¬ SqlGuardrails.isWordChar ch) :
    lexLoop .plain false (first :: second :: onwards) =
      ⟨String.ofList [first, second], .word, first :: second :: onwards⟩ ::
        lexLoop .plain false onwards :=
  SqlGuardrails.lexLoop_word (List.cons_ne_nil first [second])
    (isWordChar_as isA isS) ends

/-- The two validators read the query behind the same `AS`. -/
theorem findAsLoop_eq {reading : Reading} {last : Option Char} {inWord : Bool}
    {text : List Char} (sound : QuotesOnly reading)
    (ready : Ready reading text) (follows : Follows reading last inWord)
    (quiet : QuietUntilAs reading last text) :
    Rest.findAsLoop (withoutComments reading) last text =
      ((words (lexLoop reading inWord text)).find?
        (eqIgnoreAsciiCase ·.text "AS")).map textBehind := by
  induction text generalizing reading last inWord with
  | nil => rfl
  | cons ch rest ih =>
      rw [Rest.findAsLoop]
      rcases quiet with ⟨⟨-, apart, behind⟩, rfl⟩ | ⟨notHere, quietly, later⟩
      · obtain ⟨onwards, isBehind⟩ := Option.isSome_iff_exists.mp behind
        obtain ⟨first, second, shape, isA, isS, ends⟩ := of_behindAs isBehind
        have outside : inWord = false := by
          rw [follows rfl]
          exact Bool.not_eq_true' _ |>.mp apart
        rw [if_pos ⟨rfl, apart⟩, isBehind, outside, shape,
          lexLoop_as isA isS ends, SqlGuardrails.words_cons_word,
          List.find?_cons, eqIgnoreAsciiCase_as isA isS]
        exact congrArg some (textBehind_word [first, second] onwards).symm
      · have notFound : (if withoutComments reading = .plain ∧
            !last.any Rest.isSqlIdentifierChar then
              Rest.behindAs (ch :: rest) else none) = none := by
          split_ifs with here
          · exact Option.not_isSome_iff_eq_none.mp fun behind =>
              notHere ⟨here.1, here.2, behind⟩
          · rfl
        have onwards := fun {within : Bool}
            (inside : Follows (reading.next true ch rest) (some ch) within) =>
          ih (sound.next true ch rest) (ready_next reading ch rest) inside
            later
        rw [notFound]
        dsimp only
        rw [← withoutComments_next quietly, lexLoop]
        split_ifs with plain blank word inside
        · refine onwards fun _ => ?_
          rw [Option.any_some]
          exact (Bool.eq_false_iff.mpr fun word =>
            SqlGuardrails.not_isWhitespace_of_isWordChar word blank).symm
        · exact onwards fun _ => word.symm
        · rw [SqlGuardrails.words_cons_word, List.find?_cons_of_neg]
          · exact onwards fun _ => word.symm
          · intro isAs
            refine notHere ⟨?_, ?_, behindAs_of_word isAs⟩
            · rw [plain.1]
              rfl
            · have outside := follows plain.1
              rw [Bool.eq_false_iff.mpr inside] at outside
              rw [show last.any Rest.isSqlIdentifierChar = false from
                outside.symm]
              rfl
        · rw [SqlGuardrails.words_cons_symbol]
          exact onwards fun _ => (Bool.eq_false_iff.mpr word).symm
        · exact onwards (follows_of_opened sound ready plain)

theorem findAsClause_eq {statement : String}
    (quiet : QuietUntilAs .plain none statement.toList) :
    Rest.findAsClause statement =
      ((words (lexSql statement)).find? (eqIgnoreAsciiCase ·.text "AS")).map
        fun token => String.ofList (textBehind token) := by
  have found := @findAsLoop_eq .plain none false statement.toList trivial
    nofun (fun _ => rfl) quiet
  rw [Rest.findAsClause]
  exact (congrArg (Option.map String.ofList) found).trans
    (Option.map_map _ _ _)

/-- An `AS` that is found is a word between other characters. -/
theorem findAsLoop_parts {reading : Reading} {front text query : List Char}
    (found : Rest.findAsLoop reading front.getLast? text = some query) :
    ∃ before word onwards, front ++ text = before ++ (word ++ onwards) ∧
      eqIgnoreAsciiCase (String.ofList word) "AS" ∧
      (∀ ch ∈ word, Rest.isSqlIdentifierChar ch) ∧
      (∀ ch ∈ before.getLast?, Rest.isSqlIdentifierChar ch = false) ∧
      Stops Rest.isSqlIdentifierChar onwards := by
  induction text generalizing reading front with
  | nil => cases found
  | cons ch rest ih =>
      rw [Rest.findAsLoop] at found
      split at found
      · rename_i onwards here
        split_ifs at here with apart
        obtain ⟨first, second, shape, isA, isS, ends⟩ := of_behindAs here
        refine ⟨front, [first, second], onwards, by rw [shape]; rfl,
          eqIgnoreAsciiCase_as isA isS, isWordChar_as isA isS, ?_, ?_⟩
        · intro last isLast
          have notIn := apart.2
          rw [isLast, Option.any_some, Bool.not_eq_true'] at notIn
          exact notIn
        · exact fun other isHead => Bool.eq_false_iff.mpr (ends other isHead)
      · have last : some ch = (front ++ [ch]).getLast? := by
          rw [List.getLast?_append, List.getLast?_singleton, Option.some_or]
        rw [last] at found
        obtain ⟨before, word, onwards, shape, others⟩ := ih found
        rw [List.append_assoc, List.singleton_append] at shape
        exact ⟨before, word, onwards, shape, others⟩

theorem containsKeyword_of_findAsClause {statement : String}
    (found : (Rest.findAsClause statement).isSome) :
    Rest.containsKeyword statement "AS" := by
  rw [Rest.findAsClause, Option.isSome_map] at found
  obtain ⟨query, found⟩ := Option.isSome_iff_exists.mp found
  obtain ⟨before, word, onwards, shape, isAs, isWord, apart, stops⟩ :=
    @findAsLoop_parts .plain [] _ _ found
  rw [List.nil_append] at shape
  have nonempty : word ≠ [] := by
    rintro rfl
    revert isAs
    decide
  have field :
      word ∈ fields (!Rest.isSqlIdentifierChar ·) statement.toList := by
    have behind : fields (!Rest.isSqlIdentifierChar ·) (word ++ onwards) =
        word :: fields (!Rest.isSqlIdentifierChar ·) onwards := by
      refine fields_run_append nonempty (fun ch member => ?_) ?_
      · rw [isWord ch member]
        rfl
      · simpa using stops
    rw [shape]
    rcases List.eq_nil_or_concat before with rfl | ⟨front, last, rfl⟩
    · rw [List.nil_append, behind]
      exact List.mem_cons_self
    · have separates := apart last (by simp)
      rw [List.concat_eq_append, List.append_assoc, List.singleton_append,
        fields_append_break (by rw [separates]; rfl), behind]
      exact List.mem_append_right _ List.mem_cons_self
  exact List.any_eq_true.mpr ⟨word, (List.mem_filter.mp field).1, isAs⟩

/-! ## First keywords -/

def isBreak (ch : Char) : Bool := isWhitespace ch || ch == '('

/-- The first word, as the REST routes cut it out. -/
def openingWord (text : List Char) : List Char :=
  (text.dropWhile isBreak).takeWhile (!isBreak ·)

/-- The first word goes on to a blank, a `(` or the end of the text. -/
def Begins (text : List Char) : Prop :=
  ∀ ch ∈ openingWord text, SqlGuardrails.isWordChar ch

instance (text : List Char) : Decidable (Begins text) :=
  decidable_of_iff ((openingWord text).all SqlGuardrails.isWordChar)
    List.all_eq_true

theorem dropWhile_trimStart (text : List Char) :
    (trimStart text).dropWhile isBreak = text.dropWhile isBreak := by
  induction text with
  | nil => rfl
  | cons ch rest ih =>
      rw [trimStart, List.dropWhile_cons]
      split
      · rename_i blank
        have drops : isBreak ch := by rw [isBreak, blank, Bool.true_or]
        rw [List.dropWhile_cons_of_pos drops]
        exact ih
      · rfl

theorem rest_firstKeyword_openingWord (sql : String) :
    Rest.firstKeyword sql =
      toAsciiUppercase (String.ofList (openingWord sql.toList)) :=
  congrArg
    (fun onwards : List Char =>
      toAsciiUppercase (String.ofList (onwards.takeWhile (!isBreak ·))))
    (dropWhile_trimStart sql.toList)

theorem words_breaks {breaks : List Char}
    (areBreaks : ∀ ch ∈ breaks, isBreak ch) (rest : List Char) :
    words (lexLoop .plain false (breaks ++ rest)) =
      words (lexLoop .plain false rest) := by
  induction breaks with
  | nil => rfl
  | cons ch breaks ih =>
      have onwards := ih fun other member =>
        areBreaks other (List.mem_cons_of_mem ch member)
      have breaksHere := areBreaks ch List.mem_cons_self
      rw [isBreak, Bool.or_eq_true, beq_iff_eq] at breaksHere
      rw [List.cons_append]
      rcases breaksHere with blank | rfl
      · rw [SqlGuardrails.lexLoop_blank blank, onwards]
      · have ordinary : SqlGuardrails.Ordinary '(' := by decide
        rw [lexLoop, ordinary.next, if_pos ⟨rfl, rfl⟩, if_neg (by decide),
          if_neg (by decide), SqlGuardrails.words_cons_symbol, onwards]

/-- Where the first word stands by itself it is the first keyword for both. -/
theorem firstKeyword_eq_of_begins {sql : String} (begins : Begins sql.toList) :
    SqlGuardrails.firstKeyword sql = Rest.firstKeyword sql := by
  have areBreaks : ∀ ch ∈ sql.toList.takeWhile isBreak, isBreak ch :=
    fun ch member => List.mem_takeWhile_imp member
  have behind := words_breaks areBreaks (sql.toList.dropWhile isBreak)
  rw [List.takeWhile_append_dropWhile] at behind
  have starts : Stops isBreak (sql.toList.dropWhile isBreak) :=
    stops_dropWhile _
  rw [SqlGuardrails.firstKeyword, lexSql, behind, rest_firstKeyword_openingWord]
  rw [Begins] at begins
  rw [openingWord] at begins ⊢
  generalize sql.toList.dropWhile isBreak = onwards at begins starts
  cases onwards with
  | nil => rfl
  | cons ch rest =>
      have nonempty : (ch :: rest).takeWhile (!isBreak ·) ≠ [] := by
        rw [List.takeWhile_cons_of_pos (by simpa using stops_cons.mp starts)]
        exact List.cons_ne_nil _ _
      have ends : ∀ other ∈ ((ch :: rest).dropWhile (!isBreak ·)).head?,
          ¬ SqlGuardrails.isWordChar other := by
        intro other isHead word
        have stops : Stops (!isBreak ·) ((ch :: rest).dropWhile (!isBreak ·)) :=
          stops_dropWhile _
        have breaks := stops other isHead
        rw [Bool.not_eq_false', isBreak, Bool.or_eq_true, beq_iff_eq] at breaks
        rcases breaks with blank | rfl
        · exact SqlGuardrails.not_isWhitespace_of_isWordChar word blank
        · revert word
          decide
      have token := SqlGuardrails.lexLoop_word nonempty begins ends
      rw [List.takeWhile_append_dropWhile] at token
      rw [token, SqlGuardrails.words_cons_word]

/-- A keyword of letters that the REST routes find stands by itself. -/
theorem begins_of_rest {sql : String}
    (letters : (Rest.firstKeyword sql).toList.all Char.isAlpha) :
    Begins sql.toList := by
  intro ch member
  rw [rest_firstKeyword_openingWord, toAsciiUppercase, String.toList_ofList,
    String.toList_ofList] at letters
  exact SqlGuardrails.isWordChar_of_toUpper
    (List.all_eq_true.mp letters ch.toUpper (List.mem_map_of_mem member))

/-- A keyword of this list is the first one for both or for neither. -/
theorem firstKeyword_iff {sql : String} {keywords : List String}
    (letters : ∀ keyword ∈ keywords, keyword.toList.all Char.isAlpha)
    (begins : SqlGuardrails.firstKeyword sql ∈ keywords →
      Begins sql.toList) {keyword : String} (listed : keyword ∈ keywords) :
    Rest.firstKeyword sql = keyword ↔
      SqlGuardrails.firstKeyword sql = keyword := by
  constructor
  · intro found
    rw [← found, firstKeyword_eq_of_begins]
    apply begins_of_rest
    rw [found]
    exact letters keyword listed
  · intro found
    rw [← found, firstKeyword_eq_of_begins]
    apply begins
    rw [found]
    exact listed

/-! ## Statements -/

/-- What supported statements begin with where one keyword is not enough. -/
def statementKinds : List (String × List String) :=
  [("CREATE TABLE", ["CREATE", "TABLE"]),
    ("CREATE MATERIALIZED VIEW", ["CREATE", "MATERIALIZED", "VIEW"]),
    ("CREATE WAREHOUSE", ["CREATE", "WAREHOUSE"]),
    ("REFRESH MATERIALIZED VIEW", ["REFRESH", "MATERIALIZED", "VIEW"]),
    ("ALTER WAREHOUSE", ["ALTER", "WAREHOUSE"]),
    ("USE WAREHOUSE", ["USE", "WAREHOUSE"])]

/-- A creation whose target and query stand in plain text. -/
structure CreationAlike (statement : String) (keywords : List String) :
    Prop where
  target : ∃ rest, afterKeywords statement.toList keywords = some rest ∧
    TargetPlain rest
  clause : QuietUntilAs .plain none statement.toList
  asWord : keywords = ["CREATE", "TABLE"] →
    Rest.containsKeyword statement "AS" →
      (Rest.findAsClause statement).isSome
  query : ∀ query, Rest.findAsClause statement = some query →
    SqlGuardrails.firstKeyword query ∈ ["SELECT", "WITH"] →
      Begins query.toList

/-- A statement whose keywords stand by themselves. -/
structure StatementAlike (statement : String) : Prop where
  first : SqlGuardrails.firstKeyword statement ∈ demoKeywords →
    Begins statement.toList
  kinds : ∀ kind ∈ statementKinds,
    startsWith (toAsciiUppercase statement) kind.1 =
      SqlGuardrails.startsWithKeywordSequence statement kind.2
  creation : ∀ keywords ∈ creations,
    SqlGuardrails.startsWithKeywordSequence statement keywords →
      CreationAlike statement keywords

theorem demoKeywords_letters :
    ∀ keyword ∈ demoKeywords, keyword.toList.all Char.isAlpha := by decide

section Statements

variable {statement : String}

section

variable (alike : StatementAlike statement)

include alike

theorem StatementAlike.seen :
    ∀ keywords ∈ creations, SeenAlike statement keywords := by
  intro keywords member starts
  obtain ⟨rest, isRest, -⟩ := (alike.creation keywords member starts).target
  rw [isRest]
  rfl

theorem StatementAlike.of_follows
    {keywords : List String} (member : keywords ∈ creations)
    (follows : (afterKeywords statement.toList keywords).isSome) :
    CreationAlike statement keywords := by
  obtain ⟨rest, isRest⟩ := Option.isSome_iff_exists.mp follows
  exact alike.creation keywords member
    (guard_startsWith_of_follows (creations_letters keywords member) isRest)

theorem StatementAlike.target_eq :
    Rest.createRelationTarget statement =
      SqlGuardrails.createRelationTarget statement := by
  refine createRelationTarget_eq alike.seen ?_
  intro keywords member rest isRest
  obtain ⟨other, isOther, plain⟩ :=
    (alike.of_follows member (by rw [isRest]; rfl)).target
  rw [isRest, Option.some.injEq] at isOther
  rwa [isOther]

/-- Both validators see the same creations. -/
theorem StatementAlike.startsWith_eq
    {keywords : List String} (member : keywords ∈ creations) :
    Rest.startsWithKeywordSequence statement keywords =
      SqlGuardrails.startsWithKeywordSequence statement keywords := by
  have letters := creations_letters keywords member
  rw [guard_startsWith_iff letters (alike.seen keywords member),
    Bool.eq_iff_iff]
  exact rest_startsWith_iff fun keyword isIn => (letters keyword isIn).1

theorem StatementAlike.query_eq :
    Rest.createMaterializationQuery statement =
      SqlGuardrails.createMaterializationQuery statement := by
  have isTable : ["CREATE", "TABLE"] ∈ creations := by decide
  have isView : ["CREATE", "MATERIALIZED", "VIEW"] ∈ creations := by decide
  rw [Rest.createMaterializationQuery,
    SqlGuardrails.createMaterializationQuery, alike.startsWith_eq isTable,
    alike.startsWith_eq isView]
  split_ifs with creates
  · refine findAsClause_eq ?_
    rcases Bool.or_eq_true_iff.mp creates with table | view
    · exact (alike.creation _ isTable table).clause
    · exact (alike.creation _ isView view).clause
  · rfl

end

/-- The queries of creations are queries for both validators. -/
theorem StatementAlike.query_first (alike : StatementAlike statement)
    {query : String}
    (isQuery : Rest.createMaterializationQuery statement = some query)
    {keyword : String} (listed : keyword ∈ ["SELECT", "WITH"]) :
    Rest.firstKeyword query = keyword ↔
      SqlGuardrails.firstKeyword query = keyword := by
  have isTable : ["CREATE", "TABLE"] ∈ creations := by decide
  have isView : ["CREATE", "MATERIALIZED", "VIEW"] ∈ creations := by decide
  have begins : SqlGuardrails.firstKeyword query ∈ ["SELECT", "WITH"] →
      Begins query.toList := by
    rw [Rest.createMaterializationQuery, alike.startsWith_eq isTable,
      alike.startsWith_eq isView] at isQuery
    split_ifs at isQuery with creates
    rcases Bool.or_eq_true_iff.mp creates with table | view
    · exact (alike.creation _ isTable table).query query isQuery
    · exact (alike.creation _ isView view).query query isQuery
  exact firstKeyword_iff (by decide) begins listed

section

variable (alike : StatementAlike statement)

include alike

/-- A creation of a table has an `AS` for both or for neither. -/
theorem StatementAlike.contains_eq
    (creates : SqlGuardrails.startsWithKeywordSequence statement
      ["CREATE", "TABLE"]) :
    Rest.containsKeyword statement "AS" =
      SqlGuardrails.containsKeyword statement "AS" := by
  have creation := alike.creation ["CREATE", "TABLE"] (by decide) creates
  have clause : (Rest.findAsClause statement).isSome =
      SqlGuardrails.containsKeyword statement "AS" := by
    rw [findAsClause_eq creation.clause, Option.isSome_map,
      SqlGuardrails.containsKeyword, List.isSome_find?]
  rw [← clause, Bool.eq_iff_iff]
  exact ⟨creation.asWord rfl, containsKeyword_of_findAsClause⟩

theorem StatementAlike.supported_eq :
    Rest.isSupportedDemoStatement statement =
      SqlGuardrails.isSupportedDemoStatement statement := by
  by_cases listed : SqlGuardrails.firstKeyword statement ∈ demoKeywords
  · have kinds := alike.kinds
    simp only [statementKinds, List.forall_mem_cons] at kinds
    obtain ⟨table, view, warehouse, refresh, alter, use, -⟩ := kinds
    have withAs :
        (SqlGuardrails.startsWithKeywordSequence statement
            ["CREATE", "TABLE"] &&
          Rest.containsKeyword statement "AS") =
          (SqlGuardrails.startsWithKeywordSequence statement
              ["CREATE", "TABLE"] &&
            SqlGuardrails.containsKeyword statement "AS") := by
      cases creates : SqlGuardrails.startsWithKeywordSequence statement
        ["CREATE", "TABLE"] with
      | false => rfl
      | true => rw [alike.contains_eq creates]
    have same := firstKeyword_eq_of_begins (alike.first listed)
    rw [same] at listed
    simp only [demoKeywords, List.mem_cons, List.not_mem_nil, or_false]
      at listed
    rcases listed with found | found | found | found | found | found |
      found | found | found | found <;>
        simp only [Rest.isSupportedDemoStatement,
          SqlGuardrails.isSupportedDemoStatement, same, found, table, view,
          warehouse, refresh, alter, use, withAs]
  · have neither : Rest.firstKeyword statement ∉ demoKeywords := by
      intro found
      rw [(firstKeyword_iff demoKeywords_letters alike.first found).mp rfl]
        at listed
      exact listed found
    rw [Bool.eq_false_iff.mpr (mt guarded_firstKeyword listed),
      Bool.eq_false_iff.mpr (mt rest_firstKeyword neither)]

/-- The two validators admit the same statements. -/
theorem StatementAlike.admits_iff :
    Rest.scanners.Admits statement ↔
      SqlGuardrails.scanners.Admits statement := by
  have first := fun {query keyword : String} isQuery listed =>
    @StatementAlike.query_first _ alike query isQuery keyword listed
  constructor
  · rintro ⟨target, query, supported⟩
    refine ⟨fun name named => target name ?_, fun text isQuery => ?_, ?_⟩
    · exact alike.target_eq.trans named
    · have isRest := alike.query_eq.trans isQuery
      exact (query text isRest).imp (first isRest (by decide)).mp
        (first isRest (by decide)).mp
    · dsimp only [Rest.scanners, SqlGuardrails.scanners] at supported ⊢
      rwa [← alike.supported_eq]
  · rintro ⟨target, query, supported⟩
    refine ⟨fun name named => target name ?_, fun text isQuery => ?_, ?_⟩
    · exact alike.target_eq.symm.trans named
    · exact (query text (alike.query_eq.symm.trans isQuery)).imp
        (first isQuery (by decide)).mpr (first isQuery (by decide)).mpr
    · dsimp only [Rest.scanners, SqlGuardrails.scanners] at supported ⊢
      rwa [alike.supported_eq]

end

theorem hasToken_of_admits
    (admits : SqlGuardrails.scanners.Admits statement) :
    hasToken statement := by
  have supported := admits.supported
  dsimp only [SqlGuardrails.scanners] at supported
  have listed := guarded_firstKeyword supported
  rw [hasToken, Bool.not_eq_true', Bool.eq_false_iff, ne_eq, List.isEmpty_iff]
  intro noTokens
  rw [SqlGuardrails.firstKeyword, noTokens] at listed
  revert listed
  decide

end Statements

/-! ## Texts -/

/--
The comments of a text hide no quote and no semicolon, its one statement with a
token is its one statement, and the keywords of that one stand by themselves.
-/
structure TextAlike (sql : String) : Prop where
  comments : QuietComments .plain sql.toList
  alone : ∀ statement,
    (Rest.splitSqlStatements sql).filter hasToken = [statement] →
      Rest.splitSqlStatements sql = [statement]
  statement : ∀ statement, Rest.splitSqlStatements sql = [statement] →
    StatementAlike statement

/-- A creation that is spelled with single blanks. -/
theorem plainCreation_alike : TextAlike "CREATE TABLE t AS SELECT 1" := by
  have one : Rest.splitSqlStatements "CREATE TABLE t AS SELECT 1" =
      ["CREATE TABLE t AS SELECT 1"] := by decide
  have target : TargetPlain " t AS SELECT 1".toList :=
    ⟨by decide, fun guarded => absurd guarded (by decide)⟩
  have clause : Rest.findAsClause "CREATE TABLE t AS SELECT 1" =
      some "SELECT 1" := by decide
  have query : ∀ query,
      Rest.findAsClause "CREATE TABLE t AS SELECT 1" = some query →
        Begins query.toList := by
    intro query isQuery
    rw [clause, Option.some.injEq] at isQuery
    rw [← isQuery]
    decide
  refine ⟨by decide, fun statement found => ?_, fun statement found => ?_⟩
  · rw [one] at found ⊢
    exact found
  · rw [one, List.cons.injEq] at found
    obtain ⟨rfl, -⟩ := found
    refine ⟨fun _ => by decide, by decide, fun keywords member starts => ?_⟩
    rcases List.mem_cons.mp member with rfl | view
    · exact ⟨⟨_, by decide, target⟩, by decide, fun _ _ => by decide,
        fun text isQuery _ => query text isQuery⟩
    · rw [List.mem_singleton.mp view] at starts
      exact absurd starts (by decide)

end OpenSnow.Server
