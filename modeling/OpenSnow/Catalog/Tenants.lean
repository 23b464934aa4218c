import OpenSnow.Rust.AsciiCase

/-!
# Tenants

The `tenants` table of the catalog and the way a tenant id is derived from a
display name.  A slug keeps of a name the runs of ASCII letters, digits and
underscores, in lower case, and joins them with single hyphens.  Two names have
one slug exactly when they have the same such words.
-/

namespace OpenSnow.Catalog.Tenants

open Foundation
open Rust.Text

def defaultTenant : String := "default"

/--
The loop of `slugify_tenant_id`: what it pushes for the remaining characters,
given `last_dash`.
-/
def slugLoop (lastDash : Bool) : List Char → List Char
  | [] => []
  | ch :: rest =>
      let lower := ch.toLower
      if lower.isAlphanum || lower == '_' then
        lower :: slugLoop false rest
      else if !lastDash then
        '-' :: slugLoop true rest
      else
        slugLoop lastDash rest

/-- Convert a display name into a tenant id. -/
def slugifyTenantId (name : String) : String :=
  String.ofList (trimEndMatches '-' (slugLoop true name.toList))

/-- A row of `tenants`. -/
structure Tenant where
  id : String
  name : String
  createdAt : String
deriving DecidableEq, Repr

/-- The `tenants` table with its primary key. -/
structure TenantTable where
  rows : List Tenant
  idsDistinct : (rows.map Tenant.id).Nodup

/-- The ways `create_tenant` can fail. -/
inductive CreateTenantError where
  /-- "tenant name produces an empty id". -/
  | emptyId
  /-- The primary key is taken. -/
  | idTaken
deriving DecidableEq, Repr

/-- Create a new tenant. -/
def createTenant (table : TenantTable) (now name : String) :
    Except CreateTenantError (TenantTable × Tenant) :=
  let id := slugifyTenantId name
  if id = "" then .error .emptyId
  else if taken : id ∈ table.rows.map Tenant.id then .error .idTaken
  else
    let tenant : Tenant := { id, name, createdAt := now }
    .ok
      ({ rows := tenant :: table.rows
         idsDistinct := List.nodup_cons.mpr ⟨taken, table.idsDistinct⟩ },
       tenant)

/-- A tenant id the catalog can hold: the seeded one or a created one. -/
def Producible (id : String) : Prop :=
  id = defaultTenant ∨
    ∃ table now name after tenant,
      createTenant table now name = .ok (after, tenant) ∧ tenant.id = id

/-- Exactly the non-empty slugs can be created. -/
theorem producible_iff {id : String} :
    Producible id ↔
      id = defaultTenant ∨ (id ≠ "" ∧ ∃ name, slugifyTenantId name = id) := by
  constructor
  · rintro (isDefault | ⟨table, now, name, after, tenant, created, rfl⟩)
    · exact Or.inl isDefault
    · unfold createTenant at created
      dsimp only at created
      split_ifs at created with empty taken
      simp only [Except.ok.injEq, Prod.mk.injEq] at created
      rw [← created.2]
      exact Or.inr ⟨empty, name, rfl⟩
  · rintro (isDefault | ⟨nonempty, name, rfl⟩)
    · exact Or.inl isDefault
    · refine Or.inr ⟨⟨[], List.nodup_nil⟩, "", name, ?_⟩
      simp [createTenant, nonempty]

/-- The character is kept in a slug, in lower case. -/
def isSlugChar (ch : Char) : Bool :=
  ch.toLower.isAlphanum || ch.toLower == '_'

/-- The words of a text, the first of which goes on with `current`. -/
def wordsFrom (current : List Char) : List Char → List (List Char)
  | [] => if current = [] then [] else [current]
  | ch :: rest =>
      if isSlugChar ch then wordsFrom (current ++ [ch.toLower]) rest
      else if current = [] then wordsFrom [] rest
      else current :: wordsFrom [] rest

/-- The words of a name, in lower case. -/
def nameWords (name : String) : List (List Char) :=
  wordsFrom [] name.toList

/-! ## Words -/

theorem hyphen_not_slugChar {ch : Char} (kept : isSlugChar ch) :
    ch.toLower ≠ '-' := by
  intro same
  rw [isSlugChar, same] at kept
  revert kept
  decide

theorem wordsFrom_plain {current : List Char} (plain : '-' ∉ current)
    (chars : List Char) : ∀ word ∈ wordsFrom current chars, '-' ∉ word := by
  induction chars generalizing current with
  | nil =>
      rw [wordsFrom]
      split_ifs
      · exact fun _ => nofun
      · exact List.forall_mem_singleton.mpr plain
  | cons ch rest ih =>
      rw [wordsFrom]
      split_ifs with kept first
      · apply ih
        rw [List.mem_append, List.mem_singleton, not_or]
        exact ⟨plain, (hyphen_not_slugChar kept).symm⟩
      · exact ih List.not_mem_nil
      · exact List.forall_mem_cons.mpr ⟨plain, ih List.not_mem_nil⟩

theorem wordsFrom_nonempty (current chars : List Char) :
    ∀ word ∈ wordsFrom current chars, word ≠ [] := by
  induction chars generalizing current with
  | nil =>
      rw [wordsFrom]
      split_ifs with empty
      · exact fun _ => nofun
      · exact List.forall_mem_singleton.mpr empty
  | cons ch rest ih =>
      rw [wordsFrom]
      split_ifs with kept empty
      · exact ih _
      · exact ih []
      · exact List.forall_mem_cons.mpr ⟨empty, ih []⟩

/-- The words joined with hyphens. -/
def joinWords (words : List (List Char)) : List Char :=
  ['-'].intercalate words

theorem joinWords_eq_nil {words : List (List Char)}
    (nonempty : ∀ word ∈ words, word ≠ []) :
    joinWords words = [] ↔ words = [] := by
  cases words with
  | nil => exact iff_of_true rfl rfl
  | cons word rest =>
      refine iff_of_false ?_ (List.cons_ne_nil _ _)
      have first := nonempty word List.mem_cons_self
      cases rest with
      | nil => rwa [joinWords, List.intercalate_singleton]
      | cons next rest =>
          rw [joinWords, List.intercalate_cons_cons]
          exact List.append_ne_nil_of_left_ne_nil
            (List.append_ne_nil_of_left_ne_nil first _) _

theorem joinWords_cons {word : List Char} {rest : List (List Char)}
    (more : rest ≠ []) :
    joinWords (word :: rest) = word ++ '-' :: joinWords rest := by
  rw [joinWords, List.intercalate_cons_of_ne_nil more, List.append_assoc]
  rfl

theorem joinWords_inj {left right : List (List Char)}
    (leftPlain : ∀ word ∈ left, '-' ∉ word)
    (rightPlain : ∀ word ∈ right, '-' ∉ word)
    (leftSome : left ≠ []) (rightSome : right ≠ []) :
    joinWords left = joinWords right ↔ left = right := by
  refine ⟨fun same => ?_, congrArg joinWords⟩
  have read := congrArg (List.splitOn '-') same
  rwa [joinWords, joinWords, List.splitOn_intercalate '-' leftPlain leftSome,
    List.splitOn_intercalate '-' rightPlain rightSome] at read

/-! ## Slugs -/

/-- What is trimmed of two texts is of the second, unless it all goes. -/
theorem trimEndMatches_append (pattern : Char) (front back : List Char) :
    trimEndMatches pattern (front ++ back) =
      if trimEndMatches pattern back = [] then trimEndMatches pattern front
      else front ++ trimEndMatches pattern back := by
  rw [trimEndMatches, trimEndMatches, trimEndMatches, List.reverse_append,
    List.dropWhile_append]
  by_cases gone : back.reverse.dropWhile (· == pattern) = []
  · rw [gone, List.reverse_nil, if_pos rfl]
    rfl
  · rw [if_neg (mt List.isEmpty_iff.mp gone),
      if_neg (mt List.reverse_eq_nil_iff.mp gone), List.reverse_append,
      List.reverse_reverse]

/-- A text whose last character is another one is not trimmed. -/
theorem trimEndMatches_of_not_mem {pattern : Char} {text : List Char}
    (absent : pattern ∉ text) : trimEndMatches pattern text = text := by
  rw [trimEndMatches]
  cases backwards : text.reverse with
  | nil =>
      rw [List.reverse_eq_nil_iff.mp backwards]
      rfl
  | cons last rest =>
      have differs : ¬ last == pattern := by
        intro same
        apply absent
        rw [← List.mem_reverse, backwards, ← beq_iff_eq.mp same]
        exact List.mem_cons_self
      rw [List.dropWhile_cons, if_neg differs, ← backwards,
        List.reverse_reverse]

/-- What the loop pushes, behind a started word and after a hyphen. -/
theorem slugLoop_words (chars : List Char) :
    (∀ word : List Char, word ≠ [] → '-' ∉ word →
        trimEndMatches '-' (word ++ slugLoop false chars) =
          joinWords (wordsFrom word chars)) ∧
      trimEndMatches '-' (slugLoop true chars) =
        joinWords (wordsFrom [] chars) := by
  induction chars with
  | nil =>
      constructor
      · intro word started plain
        rw [slugLoop, List.append_nil, trimEndMatches_of_not_mem plain,
          wordsFrom, if_neg started, joinWords, List.intercalate_singleton]
      · rfl
  | cons ch rest ih =>
      obtain ⟨inWord, afterHyphen⟩ := ih
      by_cases kept : isSlugChar ch
      · have lower : '-' ∉ [ch.toLower] := by
          rw [List.mem_singleton]
          exact (hyphen_not_slugChar kept).symm
        have pushed : ∀ lastDash, slugLoop lastDash (ch :: rest) =
            [ch.toLower] ++ slugLoop false rest := by
          intro lastDash
          rw [slugLoop]
          exact if_pos kept
        constructor
        · intro word started plain
          rw [pushed, ← List.append_assoc, wordsFrom, if_pos kept]
          apply inWord _ (List.concat_ne_nil _ _)
          rw [List.mem_append, not_or]
          exact ⟨plain, lower⟩
        · rw [pushed, wordsFrom, if_pos kept, List.nil_append]
          exact inWord _ (List.cons_ne_nil _ _) lower
      · constructor
        · intro word started plain
          have pushed : slugLoop false (ch :: rest) =
              ['-'] ++ slugLoop true rest := by
            rw [slugLoop]
            exact if_neg kept
          rw [pushed, wordsFrom, if_neg kept, if_neg started,
            trimEndMatches_append, trimEndMatches_append, afterHyphen]
          have hyphen : trimEndMatches '-' ['-'] = [] := by decide
          by_cases last : wordsFrom [] rest = []
          · rw [last, joinWords, joinWords, List.intercalate_singleton,
              List.intercalate_nil, if_pos rfl, hyphen, if_pos rfl]
            exact trimEndMatches_of_not_mem plain
          · have more : joinWords (wordsFrom [] rest) ≠ [] :=
              fun empty => last
                ((joinWords_eq_nil (wordsFrom_nonempty [] rest)).mp empty)
            rw [if_neg more, joinWords_cons last,
              if_neg (List.append_ne_nil_of_right_ne_nil _ more)]
            rfl
        · have pushed : slugLoop true (ch :: rest) = slugLoop true rest := by
            rw [slugLoop]
            exact if_neg kept
          rw [pushed, wordsFrom, if_neg kept, if_pos rfl]
          exact afterHyphen

theorem toList_slugifyTenantId (name : String) :
    (slugifyTenantId name).toList = joinWords (nameWords name) := by
  rw [slugifyTenantId, String.toList_ofList]
  exact (slugLoop_words name.toList).2

theorem slugifyTenantId_eq_empty {name : String} :
    slugifyTenantId name = "" ↔ nameWords name = [] := by
  rw [← String.toList_inj, toList_slugifyTenantId]
  exact joinWords_eq_nil (wordsFrom_nonempty [] _)

/-! ## The laws of slugs -/

/-- An ASCII letter, a digit or an underscore. -/
def isWordChar (ch : Char) : Bool := ch.isAlphanum || ch == '_'

/-- A character of `[a-z0-9_-]`. -/
def isSlugLetter (ch : Char) : Bool :=
  ch.isLower || ch.isDigit || ch == '_' || ch == '-'

/-- The maximal parts without a hyphen. -/
def hyphenParts (text : List Char) : List (List Char) :=
  fields (· == '-') text

/-- The maximal runs of ASCII letters, digits and underscores. -/
def wordRuns (text : List Char) : List (List Char) :=
  fields (!isWordChar ·) text

/-- What makes the slug of a name a stable name of one directory. -/
structure SlugLaws (name : String) : Prop where
  letters : ∀ ch ∈ (slugifyTenantId name).toList, isSlugLetter ch
  starts : (slugifyTenantId name).toList.head? ≠ some '-'
  ends : (slugifyTenantId name).toList.getLast? ≠ some '-'
  single : ¬ ['-', '-'] <:+: (slugifyTenantId name).toList
  idempotent : slugifyTenantId (slugifyTenantId name) = slugifyTenantId name
  empty : slugifyTenantId name = "" ↔ ∀ ch ∈ name.toList, ¬ isWordChar ch
  parts : hyphenParts (slugifyTenantId name).toList =
    (wordRuns name.toList).map (List.map Char.toLower)
  directory : '/' ∉ (slugifyTenantId name).toList ∧
    slugifyTenantId name ≠ "." ∧ slugifyTenantId name ≠ ".."

/-! ### Characters -/

/-- A slug character is one whose lower case is kept, and only letters have one. -/
theorem isSlugChar_eq (ch : Char) : isSlugChar ch = isWordChar ch := by
  by_cases upper : ch.isUpper
  · have alpha : ch.isAlpha := by rw [Char.isAlpha, upper, Bool.true_or]
    simp [isSlugChar, isWordChar, Char.isAlphanum, alpha]
  · rw [isSlugChar, Char.toLower_eq_of_not_isUpper upper]
    rfl

theorem isSlugLetter_toLower {ch : Char} (kept : isSlugChar ch) :
    isSlugLetter ch.toLower := by
  rw [isSlugChar, Char.isAlphanum, Char.isAlpha_toLower_eq_isAlpha,
    ← Char.isLower_toLower_eq_isAlpha] at kept
  rw [isSlugLetter, kept, Bool.true_or]

/-! ### Words -/

/-- A word of a slug: characters of a slug without a hyphen, in lower case. -/
def IsSlugWord (word : List Char) : Prop :=
  word ≠ [] ∧ ∀ ch ∈ word,
    isSlugLetter ch ∧ isWordChar ch ∧ ch ≠ '-' ∧ ch.toLower = ch

theorem isSlugWord_char {ch : Char} (kept : isSlugChar ch) :
    isSlugLetter ch.toLower ∧ isWordChar ch.toLower ∧ ch.toLower ≠ '-' ∧
      ch.toLower.toLower = ch.toLower := by
  refine ⟨isSlugLetter_toLower kept, ?_, hyphen_not_slugChar kept,
    Char.toLower_toLower_eq_toLower ch⟩
  rw [← isSlugChar_eq, isSlugChar, Char.toLower_toLower_eq_toLower]
  exact kept

/-- The words of a text are its runs of word characters in lower case. -/
theorem wordsFrom_eq (chars : List Char) :
    (∀ run : List Char, run ≠ [] → (∀ ch ∈ run, isWordChar ch) →
        wordsFrom (run.map Char.toLower) chars =
          (wordRuns (run ++ chars)).map (List.map Char.toLower)) ∧
      wordsFrom [] chars = (wordRuns chars).map (List.map Char.toLower) := by
  induction chars with
  | nil =>
      refine ⟨fun run started isRun => ?_, rfl⟩
      rw [wordsFrom, if_neg, List.append_nil, wordRuns, fields_run started]
      · rfl
      · intro ch member
        rw [isRun ch member, Bool.not_true]
      · rwa [List.map_eq_nil_iff]
  | cons ch rest ih =>
      rcases ih with ⟨inRun, between⟩
      by_cases kept : isWordChar ch
      · have step : ∀ current, wordsFrom current (ch :: rest) =
            wordsFrom (current ++ [ch.toLower]) rest := by
          intro current
          rw [wordsFrom, if_pos (by rwa [isSlugChar_eq])]
        constructor
        · intro run started isRun
          have longer := inRun (run ++ [ch]) (List.concat_ne_nil _ _) (by
            simpa [or_imp, forall_and] using ⟨isRun, kept⟩)
          rw [step, ← List.map_singleton, ← List.map_append, longer,
            List.append_assoc, List.singleton_append]
        · have longer := inRun [ch] (List.cons_ne_nil _ _) (by simpa using kept)
          rw [step]
          exact longer
      · have separates : (!isWordChar ch) = true := by
          rw [Bool.not_eq_true] at kept
          rw [kept, Bool.not_false]
        have behind : wordRuns ([ch] ++ rest) = wordRuns rest :=
          fields_breaks_append (by simpa using separates)
        constructor
        · intro run started isRun
          have cut : wordRuns (run ++ ch :: rest) =
              fields (!isWordChar ·) run ++ wordRuns rest :=
            fields_append_break separates
          rw [wordsFrom, if_neg (by rwa [isSlugChar_eq]), if_neg, between, cut,
            fields_run started]
          · rfl
          · intro other member
            rw [isRun other member, Bool.not_true]
          · rwa [List.map_eq_nil_iff]
        · rw [wordsFrom, if_neg (by rwa [isSlugChar_eq]), if_pos rfl, between,
            ← behind]
          rfl

theorem nameWords_eq (name : String) :
    nameWords name = (wordRuns name.toList).map (List.map Char.toLower) :=
  (wordsFrom_eq name.toList).2

theorem isSlugWord_nameWords (name : String) :
    ∀ word ∈ nameWords name, IsSlugWord word := by
  intro word member
  refine ⟨wordsFrom_nonempty [] _ word member, ?_⟩
  rw [nameWords_eq] at member
  rcases List.mem_map.mp member with ⟨run, isRun, rfl⟩
  intro ch inWord
  rcases List.mem_map.mp inWord with ⟨origin, inRun, rfl⟩
  have word := (mem_fields isRun origin inRun).2
  rw [Bool.not_eq_false'] at word
  exact isSlugWord_char (by rwa [isSlugChar_eq])

/-! ### Joined words -/

section

variable {words : List (List Char)}

theorem joinWords_singleton (word : List Char) : joinWords [word] = word :=
  List.intercalate_singleton

/-- Words can be read off their join with any kind of break that has hyphens. -/
theorem fields_joinWords {isBreak : Char → Bool} (hyphen : isBreak '-')
    (isRuns : ∀ word ∈ words, word ≠ [] ∧ ∀ ch ∈ word, isBreak ch = false) :
    fields isBreak (joinWords words) = words := by
  induction words with
  | nil => rfl
  | cons word rest ih =>
      rcases List.forall_mem_cons.mp isRuns with ⟨⟨nonempty, isRun⟩, others⟩
      cases rest with
      | nil => rw [joinWords_singleton, fields_run nonempty isRun]
      | cons next rest =>
          rw [joinWords_cons (List.cons_ne_nil _ _), fields_append_break hyphen,
            fields_run nonempty isRun, ih others]
          rfl

theorem letters_joinWords (isWords : ∀ word ∈ words, IsSlugWord word) :
    ∀ ch ∈ joinWords words, isSlugLetter ch := by
  induction words with
  | nil => exact fun _ => nofun
  | cons word rest ih =>
      rcases List.forall_mem_cons.mp isWords with ⟨isWord, others⟩
      have own : ∀ ch ∈ word, isSlugLetter ch := fun ch member =>
        (isWord.2 ch member).1
      cases rest with
      | nil => rwa [joinWords_singleton]
      | cons next rest =>
          rw [joinWords_cons (List.cons_ne_nil _ _)]
          refine List.forall_mem_append.mpr ⟨own, ?_⟩
          exact List.forall_mem_cons.mpr ⟨by decide, ih others⟩

theorem head?_joinWords (isWords : ∀ word ∈ words, IsSlugWord word) :
    (joinWords words).head? ≠ some '-' := by
  cases words with
  | nil => exact nofun
  | cons word rest =>
      rcases isWords word List.mem_cons_self with ⟨nonempty, isWord⟩
      cases word with
      | nil => exact absurd rfl nonempty
      | cons ch word =>
          have first : (joinWords ((ch :: word) :: rest)).head? = some ch := by
            cases rest with
            | nil => rw [joinWords_singleton, List.head?_cons]
            | cons next rest =>
                rw [joinWords_cons (List.cons_ne_nil _ _), List.cons_append,
                  List.head?_cons]
          rw [first]
          intro same
          exact (isWord ch List.mem_cons_self).2.2.1 (Option.some.inj same)

theorem hyphens_infix_append {word text : List Char} (plain : '-' ∉ word)
    (twice : ['-', '-'] <:+: word ++ text) : ['-', '-'] <:+: text := by
  induction word with
  | nil => exact twice
  | cons ch word ih =>
      rw [List.mem_cons, not_or] at plain
      rw [List.cons_append, List.infix_cons_iff] at twice
      rcases twice with here | later
      · exact absurd (List.cons_prefix_cons.mp here).1 plain.1
      · exact ih plain.2 later

theorem single_joinWords (isWords : ∀ word ∈ words, IsSlugWord word) :
    ¬ ['-', '-'] <:+: joinWords words := by
  induction words with
  | nil => exact fun twice => absurd (List.infix_nil.mp twice) nofun
  | cons word rest ih =>
      rcases List.forall_mem_cons.mp isWords with ⟨isWord, others⟩
      have plain : '-' ∉ word := fun member =>
        (isWord.2 '-' member).2.2.1 rfl
      intro twice
      cases rest with
      | nil =>
          rw [joinWords_singleton, ← List.append_nil word] at twice
          exact absurd (List.infix_nil.mp (hyphens_infix_append plain twice))
            nofun
      | cons next rest =>
          rw [joinWords_cons (List.cons_ne_nil _ _)] at twice
          rcases List.infix_cons_iff.mp (hyphens_infix_append plain twice) with
            here | later
          · rcases (List.cons_prefix_cons.mp here).2 with ⟨more, shape⟩
            apply head?_joinWords others
            rw [← shape]
            rfl
          · exact ih others later

end

theorem getLast?_trimEndMatches (pattern : Char) (text : List Char) :
    (trimEndMatches pattern text).getLast? ≠ some pattern := by
  have stops : Stops (· == pattern) (trimEndMatches pattern text).reverse := by
    rw [trimEndMatches, List.reverse_reverse]
    exact stops_dropWhile _
  rw [← List.head?_reverse]
  cases reversed : (trimEndMatches pattern text).reverse with
  | nil => exact nofun
  | cons last front =>
      rw [reversed] at stops
      intro same
      have other := stops_cons.mp stops
      rw [Option.some.inj same, beq_self_eq_true] at other
      cases other

/-- Every slug keeps the laws, whatever the name. -/
theorem slugLaws (name : String) : SlugLaws name := by
  have isWords := isSlugWord_nameWords name
  have slug := toList_slugifyTenantId name
  have letters : ∀ ch ∈ (slugifyTenantId name).toList, isSlugLetter ch := by
    rw [slug]
    exact letters_joinWords isWords
  have runs : wordRuns (slugifyTenantId name).toList = nameWords name := by
    rw [slug]
    refine fields_joinWords (by decide) fun word member => ?_
    refine ⟨(isWords word member).1, fun ch inWord => ?_⟩
    rw [((isWords word member).2 ch inWord).2.1, Bool.not_true]
  have lowered : (nameWords name).map (List.map Char.toLower) =
      nameWords name := by
    have each : ∀ word ∈ nameWords name, word.map Char.toLower = word := by
      intro word member
      have same : word.map Char.toLower = word.map id :=
        List.map_congr_left fun ch inWord =>
          ((isWords word member).2 ch inWord).2.2.2
      rw [same, List.map_id]
    rw [List.map_congr_left each, List.map_id']
  exact
    { letters
      starts := by
        rw [slug]
        exact head?_joinWords isWords
      ends := by
        rw [slugifyTenantId, String.toList_ofList]
        exact getLast?_trimEndMatches '-' _
      single := by
        rw [slug]
        exact single_joinWords isWords
      idempotent := by
        rw [← String.toList_inj, toList_slugifyTenantId, nameWords_eq, runs,
          lowered, slug]
      empty := by
        rw [slugifyTenantId_eq_empty, nameWords_eq, List.map_eq_nil_iff,
          wordRuns, fields_eq_nil_iff]
        simp
      parts := by
        rw [slug, ← nameWords_eq]
        refine fields_joinWords rfl fun word member => ?_
        refine ⟨(isWords word member).1, fun ch inWord => ?_⟩
        exact beq_eq_false_iff_ne.mpr ((isWords word member).2 ch inWord).2.2.1
      directory := by
        have other : ∀ ch, isSlugLetter ch = false →
            ch ∉ (slugifyTenantId name).toList := by
          intro ch notLetter member
          rw [letters ch member] at notLetter
          cases notLetter
        have noDot := other '.' (by decide)
        refine ⟨other '/' (by decide), ?_, ?_⟩
        · intro same
          rw [same] at noDot
          exact noDot (by decide)
        · intro same
          rw [same] at noDot
          exact noDot (by decide) }

end OpenSnow.Catalog.Tenants
