import OpenSnow.Server.CreationTargets
import OpenSnow.Server.SharedSplits

/-!
# Keywords and targets for the two demo validators

The validator of the REST routes takes words between blanks, and the one of
the wire protocol takes tokens.  They find the same keywords in front where
blanks separate them, and the same target of a creation where neither a quote
nor a comment stands before it.
-/

namespace OpenSnow.Server

open Core.Commands (afterKeyword afterKeywords eqIgnoreCase)
open Foundation
open Rust.Text
open Sql
open Server.SqlGuardrails (lexLoop lexSql words)

/-! ## Words between blanks -/

def blankWords (text : List Char) : List String :=
  (fields isWhitespace text).map String.ofList

theorem splitWhitespace_eq_blankWords (sql : String) :
    Rest.splitWhitespace sql = blankWords sql.toList := rfl

theorem blankWords_trimStart (text : List Char) :
    blankWords (trimStart text) = blankWords text := by
  have whole := @fields_breaks_append _ isWhitespace
    (text.takeWhile isWhitespace) (text.dropWhile isWhitespace)
    (fun ch member => List.mem_takeWhile_imp member)
  rw [List.takeWhile_append_dropWhile] at whole
  rw [blankWords, trimStart, ← whole, blankWords]

variable {text : List Char}

/-- The first word, and the words of the text behind it. -/
theorem blankWords_eq (something : trimStart text ≠ []) :
    blankWords text =
      String.ofList ((trimStart text).takeWhile (!isWhitespace ·)) ::
        blankWords ((trimStart text).dropWhile (!isWhitespace ·)) := by
  have starts : Stops isWhitespace (trimStart text) := stops_dropWhile _
  have solid : ∀ ch ∈ (trimStart text).takeWhile (!isWhitespace ·),
      isWhitespace ch = false := fun ch member => by
    simpa using List.mem_takeWhile_imp member
  have nonempty : (trimStart text).takeWhile (!isWhitespace ·) ≠ [] := by
    cases onwards : trimStart text with
    | nil => exact absurd onwards something
    | cons ch rest =>
        rw [onwards] at starts
        rw [List.takeWhile_cons_of_pos (by simpa using stops_cons.mp starts)]
        exact List.cons_ne_nil _ _
  rw [← blankWords_trimStart text]
  conv_lhs =>
    rw [← List.takeWhile_append_dropWhile (p := (!isWhitespace ·))
      (l := trimStart text)]
  rw [blankWords, fields_run_append nonempty solid (stops_dropWhile _)]
  rfl

theorem blankWords_of_blank (blank : trimStart text = []) :
    blankWords text = [] := by
  rw [← blankWords_trimStart, blank]
  rfl

/-- The first word is a keyword exactly if the text behind it is known. -/
theorem tokenEq_blankWords {text : List Char} {keyword : String}
    (nonempty : keyword.toList ≠ []) :
    Rest.tokenEq (blankWords text)[0]? keyword =
      (afterKeyword text keyword).isSome := by
  rw [afterKeyword]
  by_cases something : trimStart text = []
  · have other : eqIgnoreCase [] keyword = false := by
      rw [eqIgnoreCase, List.map_nil, beq_eq_false_iff_ne]
      exact fun same => nonempty (List.map_eq_nil_iff.mp same.symm)
    rw [blankWords_of_blank something, ← trimStart, something,
      List.takeWhile_nil, other]
    rfl
  · rw [blankWords_eq something, List.getElem?_cons_zero, Rest.tokenEq,
      Option.any_some, eqIgnoreAsciiCase_ofList, ← trimStart]
    split_ifs with same
    · exact same
    · exact Bool.eq_false_iff.mpr same

variable {text rest : List Char}

theorem blankWords_afterKeyword {keyword : String}
    (nonempty : keyword.toList ≠ [])
    (follows : afterKeyword text keyword = some rest) :
    ∃ first, blankWords text = first :: blankWords rest := by
  have found := @tokenEq_blankWords text keyword nonempty
  rw [follows] at found
  by_cases something : trimStart text = []
  · rw [blankWords_of_blank something] at found
    cases found
  · rw [afterKeyword] at follows
    split at follows
    · cases follows
      exact ⟨_, blankWords_eq something⟩
    · cases follows

/-! ## Keywords in front -/

/-- A list that begins with these keywords. -/
theorem zip_all_iff {Token : Type} (same : Token → String → Bool)
    (tokens : List Token) (keywords : List String) :
    (keywords.length ≤ tokens.length &&
        (tokens.zip keywords).all fun (actual, expected) =>
          same actual expected) = true ↔
      ∃ header more, tokens = header ++ more ∧
        List.Forall₂ (fun actual expected => same actual expected) header
          keywords := by
  induction keywords generalizing tokens with
  | nil =>
      simp only [List.length_nil, Nat.zero_le, decide_true, Bool.true_and,
        List.zip_nil_right, List.all_nil, true_iff]
      exact ⟨[], tokens, rfl, .nil⟩
  | cons keyword rest ih =>
      cases tokens with
      | nil =>
          simp only [List.length_cons, List.length_nil]
          constructor
          · intro found
            cases found
          · rintro ⟨header, more, shape, matched⟩
            rw [eq_comm, List.append_eq_nil_iff] at shape
            rw [shape.1] at matched
            cases matched
      | cons token tokens =>
          rw [List.length_cons, List.length_cons, List.zip_cons_cons,
            List.all_cons, Bool.and_left_comm, Bool.and_eq_true]
          have shorter : decide (rest.length + 1 ≤ tokens.length + 1) =
              decide (rest.length ≤ tokens.length) :=
            decide_eq_decide.mpr Nat.succ_le_succ_iff
          rw [shorter, ih]
          constructor
          · rintro ⟨isKeyword, header, more, rfl, matched⟩
            exact ⟨token :: header, more, rfl, .cons isKeyword matched⟩
          · rintro ⟨header, more, shape, matched⟩
            cases matched with
            | cons isKeyword matched =>
                rw [List.cons_append, List.cons.injEq] at shape
                rw [← shape.1] at isKeyword
                exact ⟨isKeyword, _, more, shape.2, matched⟩

section Keywords

variable {text rest : List Char} {keywords : List String}

/-- The words behind keywords in front, which are as many words. -/
theorem blankWords_afterKeywords
    (nonempty : ∀ keyword ∈ keywords, keyword.toList ≠ [])
    (follows : afterKeywords text keywords = some rest) (index : Nat) :
    (blankWords text)[keywords.length + index]? =
      (blankWords rest)[index]? := by
  induction keywords generalizing text with
  | nil =>
      cases follows
      rw [List.length_nil, Nat.zero_add]
  | cons keyword more ih =>
      obtain ⟨next, first, later⟩ := Option.bind_eq_some_iff.mp follows
      obtain ⟨word, words⟩ := blankWords_afterKeyword
        (nonempty keyword List.mem_cons_self) first
      rw [words, List.length_cons, Nat.add_right_comm,
        List.getElem?_cons_succ]
      exact ih (fun other member =>
        nonempty other (List.mem_cons_of_mem _ member)) later

/-- A text begins with keywords exactly if its words do. -/
theorem blankWords_begin_iff
    (nonempty : ∀ keyword ∈ keywords, keyword.toList ≠ []) :
    (∃ header more, blankWords text = header ++ more ∧
        List.Forall₂ (fun actual expected =>
          eqIgnoreAsciiCase actual expected) header keywords) ↔
      (afterKeywords text keywords).isSome := by
  induction keywords generalizing text with
  | nil => exact ⟨fun _ => rfl, fun _ => ⟨[], _, rfl, .nil⟩⟩
  | cons keyword more ih =>
      have here := nonempty keyword List.mem_cons_self
      have first := @tokenEq_blankWords text keyword here
      have later : ∀ other ∈ more, other.toList ≠ [] := fun other member =>
        nonempty other (List.mem_cons_of_mem _ member)
      rw [afterKeywords]
      cases follows : afterKeyword text keyword with
      | none =>
          rw [Option.bind_none]
          refine iff_of_false ?_ Bool.false_ne_true
          rintro ⟨header, others, shape, matched⟩
          cases matched with
          | cons isKeyword matched =>
              rw [follows, shape, List.cons_append, List.getElem?_cons_zero,
                Rest.tokenEq, Option.any_some, isKeyword] at first
              cases first
      | some next =>
          obtain ⟨word, words⟩ := blankWords_afterKeyword here follows
          rw [follows, words, List.getElem?_cons_zero, Rest.tokenEq,
            Option.any_some] at first
          rw [Option.bind_some, ← ih later, words]
          constructor
          · rintro ⟨header, others, shape, matched⟩
            cases matched with
            | cons isKeyword matched =>
                rw [List.cons_append, List.cons.injEq] at shape
                exact ⟨_, others, shape.2, matched⟩
          · rintro ⟨header, others, shape, matched⟩
            exact ⟨word :: header, others, by rw [shape, List.cons_append],
              .cons first matched⟩

end Keywords

variable {statement : String} {keywords : List String}

theorem rest_startsWith_iff
    (nonempty : ∀ keyword ∈ keywords, keyword.toList ≠ []) :
    Rest.startsWithKeywordSequence statement keywords ↔
      (afterKeywords statement.toList keywords).isSome :=
  (zip_all_iff eqIgnoreAsciiCase _ _).trans (blankWords_begin_iff nonempty)

/-- Keywords between blanks are the first tokens as well. -/
theorem guard_startsWith_of_follows {rest : List Char}
    (letters : ∀ keyword ∈ keywords, keyword.toList ≠ [] ∧
      keyword.toList.all Char.isAlpha)
    (follows : afterKeywords statement.toList keywords = some rest) :
    SqlGuardrails.startsWithKeywordSequence statement keywords := by
  obtain ⟨header, areKeywords, tokens⟩ := lexLoop_afterKeywords letters follows
  exact startsWithKeywordSequence_of_keywords areKeywords tokens

/-! ## Targets -/

/-- Behind its blanks the text begins with neither a quote nor a comment. -/
def OpensNothing (text : List Char) : Prop :=
  ∀ ch ∈ (trimStart text).head?,
    Reading.plain.next true ch (trimStart text).tail = .plain

instance (text : List Char) : Decidable (OpensNothing text) :=
  Option.decidableForallMem _

/-- The first token of such a text begins where its first word does. -/
theorem lexLoop_first (opens : OpensNothing text)
    (something : trimStart text ≠ []) :
    ∃ token more, lexLoop .plain false text = token :: more ∧
      token.onwards = trimStart text ∧
      (token.kind = .word ∨ ∃ ch : Char, token.text = ch.toString) := by
  have starts : Stops isWhitespace (trimStart text) := stops_dropWhile _
  rw [OpensNothing] at opens
  rw [← SqlGuardrails.lexLoop_trimStart]
  cases onwards : trimStart text with
  | nil => exact absurd onwards something
  | cons ch rest =>
      rw [onwards] at opens starts
      have plain := opens ch rfl
      have solid := stops_cons.mp starts
      rw [List.tail_cons] at plain
      rw [lexLoop, plain, if_pos ⟨rfl, rfl⟩, if_neg (by rw [solid]; exact Bool.false_ne_true)]
      by_cases word : SqlGuardrails.isWordChar ch
      · rw [if_pos word, if_neg Bool.false_ne_true]
        exact ⟨_, _, rfl, rfl, Or.inl rfl⟩
      · rw [if_neg word]
        exact ⟨_, _, rfl, rfl, Or.inr ⟨ch, rfl⟩⟩

theorem first_target (opens : OpensNothing text) :
    (lexLoop .plain false text)[0]?.map
        SqlGuardrails.relationNameFromTokenStart =
      (blankWords text)[0]? := by
  by_cases something : trimStart text = []
  · rw [blankWords_of_blank something, ← SqlGuardrails.lexLoop_trimStart,
      something]
    rfl
  · obtain ⟨token, more, tokens, onwards, -⟩ := lexLoop_first opens something
    rw [tokens, blankWords_eq something, List.getElem?_cons_zero,
      List.getElem?_cons_zero, Option.map_some,
      SqlGuardrails.relationNameFromTokenStart, onwards]

theorem any_two {Token : Type} (same : Token → String → Bool)
    (tokens : List Token) (first second : String) :
    (tokens[0]?.any (same · first) && tokens[1]?.any (same · second)) =
      ([first, second].length ≤ tokens.length &&
        (tokens.zip [first, second]).all fun (actual, expected) =>
          same actual expected) := by
  rcases tokens with _ | ⟨one, _ | ⟨two, more⟩⟩ <;> simp

theorem any_three {Token : Type} (same : Token → String → Bool)
    (tokens : List Token) (first second third : String) :
    (tokens[0]?.any (same · first) && tokens[1]?.any (same · second) &&
        tokens[2]?.any (same · third)) =
      ([first, second, third].length ≤ tokens.length &&
        (tokens.zip [first, second, third]).all fun (actual, expected) =>
          same actual expected) := by
  rcases tokens with _ | ⟨one, _ | ⟨two, _ | ⟨three, more⟩⟩⟩ <;>
    simp [Bool.and_assoc]

/-- A token that is a keyword, as the guardrails compare it. -/
def isKeyword (token : SqlGuardrails.Token) (expected : String) : Bool :=
  token.kind = .word && eqIgnoreAsciiCase token.text expected

theorem isKeywords_of_forall {header : List SqlGuardrails.Token}
    (matched : List.Forall₂ (fun token keyword => isKeyword token keyword)
      header keywords) : List.Forall₂ IsKeyword header keywords :=
  matched.imp fun token keyword found => by
    rw [isKeyword, Bool.and_eq_true, decide_eq_true_iff] at found
    exact found

theorem forall_of_isKeywords {header : List SqlGuardrails.Token}
    (areKeywords : List.Forall₂ IsKeyword header keywords) :
    List.Forall₂ (fun token keyword => isKeyword token keyword)
      header keywords :=
  areKeywords.imp fun token keyword found => by
    rw [isKeyword, Bool.and_eq_true, decide_eq_true_iff]
    exact found

/-- The first tokens of a text are these keywords. -/
def tokensBegin (text : List Char) (keywords : List String) : Bool :=
  keywords.length ≤ (lexLoop .plain false text).length &&
    ((lexLoop .plain false text).zip keywords).all
      fun (token, expected) => isKeyword token expected

theorem guard_startsWith_of_tokens
    (begins : tokensBegin statement.toList keywords) :
    SqlGuardrails.startsWithKeywordSequence statement keywords := by
  obtain ⟨header, more, tokens, matched⟩ :=
    (zip_all_iff isKeyword _ _).mp begins
  exact startsWithKeywordSequence_of_keywords (isKeywords_of_forall matched)
    tokens

section

variable
  (letters : ∀ keyword ∈ keywords, keyword.toList ≠ [] ∧ keyword.toList.all Char.isAlpha)

include letters

theorem tokensBegin_of_follows
    (follows : afterKeywords text keywords = some rest) :
    tokensBegin text keywords := by
  obtain ⟨header, areKeywords, tokens⟩ := lexLoop_afterKeywords letters follows
  exact (zip_all_iff isKeyword _ _).mpr
    ⟨header, _, tokens, forall_of_isKeywords areKeywords⟩

theorem tokens_afterKeywords
    (follows : afterKeywords text keywords = some rest) (index : Nat) :
    (lexLoop .plain false text)[keywords.length + index]? =
      (lexLoop .plain false rest)[index]? := by
  obtain ⟨header, areKeywords, tokens⟩ := lexLoop_afterKeywords letters follows
  rw [tokens, ← areKeywords.length_eq,
    List.getElem?_append_right (Nat.le_add_right _ _),
    Nat.add_sub_cancel_left]

end

/--
The target of a creation, and the one behind an `IF NOT EXISTS`, begins with
neither a quote nor a comment, and the words of an `IF NOT EXISTS` stand
between blanks.
-/
structure TargetPlain (text : List Char) : Prop where
  first : OpensNothing text
  guarded : tokensBegin text ["IF", "NOT", "EXISTS"] →
    ∃ rest, afterKeywords text ["IF", "NOT", "EXISTS"] = some rest ∧
      OpensNothing rest

theorem ifNotExists_letters : ∀ keyword ∈ ["IF", "NOT", "EXISTS"],
    keyword.toList ≠ [] ∧ keyword.toList.all Char.isAlpha := by decide

/-- Both validators see an `IF NOT EXISTS` of words between blanks. -/
theorem rest_guarded (text : List Char) :
    (Rest.tokenEq (blankWords text)[0]? "IF" &&
        Rest.tokenEq (blankWords text)[1]? "NOT" &&
        Rest.tokenEq (blankWords text)[2]? "EXISTS") =
      (afterKeywords text ["IF", "NOT", "EXISTS"]).isSome := by
  rw [Bool.eq_iff_iff, ← blankWords_begin_iff
    (fun keyword member => (ifNotExists_letters keyword member).1),
    ← zip_all_iff eqIgnoreAsciiCase, ← any_three]
  rfl

theorem eqIgnoreAsciiCase_toString (ch : Char) :
    eqIgnoreAsciiCase ch.toString "IF" = false := by
  refine Bool.eq_false_iff.mpr fun same => ?_
  rw [eqIgnoreAsciiCase, beq_iff_eq, toAsciiLowercase, toAsciiLowercase,
    String.ofList_inj] at same
  have lengths := congrArg List.length same
  rw [List.length_map, List.length_map] at lengths
  have one : ch.toString.toList = [ch] := by simp
  rw [one] at lengths
  cases lengths

theorem guard_guarded {token : SqlGuardrails.Token}
    {more : List SqlGuardrails.Token}
    (tokens : lexLoop .plain false text = token :: more)
    (shape : token.kind = .word ∨ ∃ ch : Char, token.text = ch.toString) :
    (eqIgnoreAsciiCase token.text "IF" &&
        SqlGuardrails.tokenEq (token :: more)[1]? "NOT" &&
        SqlGuardrails.tokenEq (token :: more)[2]? "EXISTS") =
      tokensBegin text ["IF", "NOT", "EXISTS"] := by
  have first : eqIgnoreAsciiCase token.text "IF" = isKeyword token "IF" := by
    rcases shape with word | ⟨ch, symbol⟩
    · rw [isKeyword, word, decide_eq_true rfl, Bool.true_and]
    · rw [isKeyword, symbol, eqIgnoreAsciiCase_toString, Bool.and_false]
  rw [tokensBegin, tokens, ← any_three isKeyword, first]
  rfl

/-- The two validators look at the same target. -/
theorem relationToken_eq (plain : TargetPlain text) :
    Rest.relationTokenAfterCreatePrefix (blankWords text) 0 =
      SqlGuardrails.relationTokenAfterCreatePrefix
        (lexLoop .plain false text) 0 := by
  have target := first_target plain.first
  rw [Rest.relationTokenAfterCreatePrefix, rest_guarded,
    SqlGuardrails.relationTokenAfterCreatePrefix]
  by_cases something : trimStart text = []
  · have noTokens : lexLoop .plain false text = [] := by
      rw [← SqlGuardrails.lexLoop_trimStart, something]
      rfl
    rw [blankWords_of_blank something, noTokens]
    split_ifs <;> rfl
  · obtain ⟨token, more, tokens, -, shape⟩ :=
      lexLoop_first plain.first something
    have guarded := guard_guarded tokens shape
    rw [← tokens] at guarded
    rw [tokens, List.getElem?_cons_zero, Option.map_some] at target
    have first : (lexLoop .plain false text)[0]? = some token := by
      rw [tokens, List.getElem?_cons_zero]
    rw [first]
    dsimp only
    rw [guarded]
    cases follows : afterKeywords text ["IF", "NOT", "EXISTS"] with
    | none =>
        have unguarded : tokensBegin text ["IF", "NOT", "EXISTS"] = false := by
          refine Bool.eq_false_iff.mpr fun begins => ?_
          obtain ⟨rest, isRest, -⟩ := plain.guarded begins
          rw [follows] at isRest
          cases isRest
        rw [unguarded, Option.isSome_none, if_neg Bool.false_ne_true,
          if_neg Bool.false_ne_true, target]
    | some rest =>
        have begins := tokensBegin_of_follows ifNotExists_letters follows
        obtain ⟨same, isRest, opens⟩ := plain.guarded begins
        rw [follows, Option.some.injEq] at isRest
        rw [begins, Option.isSome_some, if_pos rfl, if_pos rfl]
        have words := blankWords_afterKeywords
          (fun keyword member => (ifNotExists_letters keyword member).1)
          follows 0
        have behind := tokens_afterKeywords ifNotExists_letters follows 0
        rw [← isRest] at opens
        exact words.trans ((first_target opens).symm.trans
          (congrArg (Option.map _) behind.symm))

/-- The keywords of the creations that materialize a query. -/
def creations : List (List String) :=
  [["CREATE", "TABLE"], ["CREATE", "MATERIALIZED", "VIEW"]]

theorem creations_letters : ∀ keywords ∈ creations, ∀ keyword ∈ keywords,
    keyword.toList ≠ [] ∧ keyword.toList.all Char.isAlpha := by decide

section Creations

variable {statement : String}

/-- Both validators find keywords in front exactly if blanks separate them. -/
def SeenAlike (statement : String) (keywords : List String) : Prop :=
  SqlGuardrails.startsWithKeywordSequence statement keywords →
    (afterKeywords statement.toList keywords).isSome

variable {keywords : List String}

section

variable
  (letters : ∀ keyword ∈ keywords, keyword.toList ≠ [] ∧ keyword.toList.all Char.isAlpha)

include letters

theorem guard_startsWith_iff (seen : SeenAlike statement keywords) :
    SqlGuardrails.startsWithKeywordSequence statement keywords =
      (afterKeywords statement.toList keywords).isSome := by
  refine Bool.eq_iff_iff.mpr ⟨seen, fun follows => ?_⟩
  obtain ⟨rest, isRest⟩ := Option.isSome_iff_exists.mp follows
  exact guard_startsWith_of_follows letters isRest

theorem tokensBegin_eq (seen : SeenAlike statement keywords) :
    tokensBegin statement.toList keywords =
      (afterKeywords statement.toList keywords).isSome := by
  refine Bool.eq_iff_iff.mpr
    ⟨fun begins => seen (guard_startsWith_of_tokens begins), fun follows => ?_⟩
  obtain ⟨rest, isRest⟩ := Option.isSome_iff_exists.mp follows
  exact tokensBegin_of_follows letters isRest

theorem rest_shift {text rest : List Char}
    (follows : afterKeywords text keywords = some rest) :
    Rest.relationTokenAfterCreatePrefix (blankWords text) keywords.length =
      Rest.relationTokenAfterCreatePrefix (blankWords rest) 0 := by
  have words := blankWords_afterKeywords
    (fun keyword member => (letters keyword member).1) follows
  rw [Rest.relationTokenAfterCreatePrefix,
    Rest.relationTokenAfterCreatePrefix, words 1, words 2, words 3,
    ← words 0]
  rfl

theorem guard_shift {text rest : List Char}
    (follows : afterKeywords text keywords = some rest) :
    SqlGuardrails.relationTokenAfterCreatePrefix (lexLoop .plain false text)
        keywords.length =
      SqlGuardrails.relationTokenAfterCreatePrefix
        (lexLoop .plain false rest) 0 := by
  have tokens := tokens_afterKeywords letters follows
  rw [SqlGuardrails.relationTokenAfterCreatePrefix,
    SqlGuardrails.relationTokenAfterCreatePrefix, tokens 1, tokens 2,
    tokens 3, ← tokens 0]
  rfl

end

/-- The two validators look at the same target of a creation. -/
theorem createRelationTarget_eq
    (seen : ∀ keywords ∈ creations, SeenAlike statement keywords)
    (plain : ∀ keywords ∈ creations, ∀ rest,
      afterKeywords statement.toList keywords = some rest →
        TargetPlain rest) :
    Rest.createRelationTarget statement =
      SqlGuardrails.createRelationTarget statement := by
  have isTable : ["CREATE", "TABLE"] ∈ creations := by decide
  have isView : ["CREATE", "MATERIALIZED", "VIEW"] ∈ creations := by decide
  have restTable :
      (Rest.tokenEq (blankWords statement.toList)[0]? "CREATE" &&
          Rest.tokenEq (blankWords statement.toList)[1]? "TABLE") =
        (afterKeywords statement.toList ["CREATE", "TABLE"]).isSome := by
    rw [Bool.eq_iff_iff, ← blankWords_begin_iff
      (fun keyword member => (creations_letters _ isTable keyword member).1),
      ← zip_all_iff eqIgnoreAsciiCase, ← any_two]
    rfl
  have restView :
      (Rest.tokenEq (blankWords statement.toList)[0]? "CREATE" &&
          Rest.tokenEq (blankWords statement.toList)[1]? "MATERIALIZED" &&
          Rest.tokenEq (blankWords statement.toList)[2]? "VIEW") =
        (afterKeywords statement.toList
          ["CREATE", "MATERIALIZED", "VIEW"]).isSome := by
    rw [Bool.eq_iff_iff, ← blankWords_begin_iff
      (fun keyword member => (creations_letters _ isView keyword member).1),
      ← zip_all_iff eqIgnoreAsciiCase, ← any_three]
    rfl
  have guardTable :
      (SqlGuardrails.tokenEq (lexSql statement)[0]? "CREATE" &&
          SqlGuardrails.tokenEq (lexSql statement)[1]? "TABLE") =
        (afterKeywords statement.toList ["CREATE", "TABLE"]).isSome :=
    (any_two isKeyword _ _ _).trans
      (tokensBegin_eq (creations_letters _ isTable) (seen _ isTable))
  have guardView :
      (SqlGuardrails.tokenEq (lexSql statement)[0]? "CREATE" &&
          SqlGuardrails.tokenEq (lexSql statement)[1]? "MATERIALIZED" &&
          SqlGuardrails.tokenEq (lexSql statement)[2]? "VIEW") =
        (afterKeywords statement.toList
          ["CREATE", "MATERIALIZED", "VIEW"]).isSome :=
    (any_three isKeyword _ _ _ _).trans
      (tokensBegin_eq (creations_letters _ isView) (seen _ isView))
  have same : ∀ keywords ∈ creations,
      (afterKeywords statement.toList keywords).isSome →
        Rest.relationTokenAfterCreatePrefix (blankWords statement.toList)
            keywords.length =
          SqlGuardrails.relationTokenAfterCreatePrefix (lexSql statement)
            keywords.length := by
    intro keywords member follows
    obtain ⟨rest, isRest⟩ := Option.isSome_iff_exists.mp follows
    have letters := creations_letters keywords member
    exact (rest_shift letters isRest).trans
      ((relationToken_eq (plain keywords member rest isRest)).trans
        (guard_shift letters isRest).symm)
  rw [Rest.createRelationTarget, SqlGuardrails.createRelationTarget,
    splitWhitespace_eq_blankWords]
  rw [restTable, restView, guardTable, guardView]
  split_ifs with table view
  · exact same _ isTable table
  · exact same _ isView view
  · rfl

end Creations

end OpenSnow.Server
