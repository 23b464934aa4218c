import OpenSnow.Server.ControlPlane
import OpenSnow.Server.SecretNames

/-!
# Secrets under every spelling

When the search for secrets in a payload finds the key that a list of words
spells, in each of the six styles.  It knows some names only on their own and
others behind any words, and it sees the pieces of a key, which are not always
its words.
-/

namespace OpenSnow.Server.SecretPayloads

open Foundation.JoinedWords
open Rust
open Server.ControlPlane

/-! ## The names of secrets -/

/-- The names that are secrets on their own. -/
def exactNames : List String :=
  ["client_secret", "token", "password", "passwd", "api_key", "apikey",
    "access_key", "secret_key", "secret_access_key", "private_key", "secret"]

/-- The names that are secrets behind other words as well. -/
def endingNames : List String :=
  ["token", "password", "private_key", "access_key", "api_key", "apikey",
    "secret_key"]

/-- The words of a name. -/
def nameWords (name : String) : List (List Char) :=
  name.toList.splitOn '_'

/-- The pieces are a name, or some of them stand before one. -/
def Recognised (pieces : List (List Char)) : Prop :=
  (∃ name ∈ exactNames, pieces = nameWords name) ∨
    ∃ name ∈ endingNames, ∃ front ≠ [], pieces = front ++ nameWords name

/-- The words end with the name of a secret. -/
def EndsWithSecret (words : List (List Char)) : Prop :=
  ∃ name ∈ exactNames, nameWords name <:+ words

theorem joined_nameWords (name : String) :
    joined '_' (nameWords name) = name.toList :=
  List.intercalate_splitOn '_'

theorem areWords_nameWords :
    ∀ name ∈ exactNames, AreWords (nameWords name) := by
  decide

theorem endingNames_subset : ∀ name ∈ endingNames, name ∈ exactNames := by
  decide

section Names

variable {words : List (List Char)}

theorem joined_eq_name_iff (areWords : AreWords words) {name : String}
    (isName : name ∈ exactNames) :
    name.toList = joined '_' words ↔ words = nameWords name := by
  rw [← joined_nameWords, eq_comm, joined_inj
    (separable_of_areWords areWords)
    (separable_of_areWords (areWords_nameWords name isName))]

theorem name_suffix_iff (areWords : AreWords words) {name : String}
    (isName : name ∈ endingNames) :
    ("_" ++ name).toList <:+ joined '_' words ↔
      ∃ front ≠ [], words = front ++ nameWords name := by
  have underscore : "_".toList = ['_'] := rfl
  have isExact := endingNames_subset name isName
  rw [String.toList_append, underscore, List.singleton_append,
    ← joined_nameWords]
  exact suffix_joined_iff (separable_of_areWords areWords)
    (separable_of_areWords (areWords_nameWords name isExact))
    (List.splitOn_ne_nil _ _)

/-- A text ends as one of the texts that it is or ends with. -/
theorem getLast?_of_suffix {suffixes : List String} {text : List Char}
    (nonempty : ∀ suffix ∈ suffixes, suffix.toList ≠ [])
    (ends : ∃ suffix ∈ suffixes, suffix.toList <:+ text) :
    ∃ suffix ∈ suffixes, text.getLast? = suffix.toList.getLast? := by
  obtain ⟨suffix, member, front, rfl⟩ := ends
  exact ⟨suffix, member,
    List.getLast?_append_of_ne_nil front (nonempty suffix member)⟩

/-- A text that is one of some texts, or ends with one of others. -/
theorem suffix_of_any {ends whole : List String} {text : List Char}
    (found : ends.any (hasSuffix · text) = true ∨
      whole.any (·.toList == text) = true) :
    ∃ suffix ∈ ends ++ whole, suffix.toList <:+ text := by
  rcases found with found | found
  · obtain ⟨suffix, member, ends⟩ := List.any_eq_true.mp found
    exact ⟨suffix, List.mem_append_left _ member,
      List.isSuffixOf_iff_suffix.mp ends⟩
  · obtain ⟨name, member, same⟩ := List.any_eq_true.mp found
    refine ⟨name, List.mem_append_right _ member, ?_⟩
    rw [beq_iff_eq.mp same]

/-- The texts that a handle is or ends with. -/
def handleTexts : List String :=
  ["_handle", "_handle_ref", "_handle_refs"] ++
    ["handle", "secret_handle", "secret_handles"]

/-- The texts that a secret is or ends with. -/
def secretTexts : List String :=
  endingNames.map ("_" ++ ·) ++ exactNames

/-- No text is a handle and a secret: their last letters differ. -/
theorem secretTexts_ne_handleTexts :
    ∀ suffix ∈ secretTexts, ∀ handle ∈ handleTexts,
      suffix.toList.getLast? ≠ handle.toList.getLast? := by
  decide

theorem not_isHandleKey {text : List Char}
    (secret : (endingNames.map ("_" ++ ·)).any (hasSuffix · text) = true ∨
      exactNames.any (·.toList == text) = true) :
    isHandleKey text = false := by
  rw [Bool.eq_false_iff]
  intro isHandle
  obtain ⟨suffix, isSecret, suffixLast⟩ :=
    getLast?_of_suffix (by decide) (suffix_of_any secret)
  obtain ⟨handle, isIn, handleLast⟩ :=
    getLast?_of_suffix (by decide)
      (suffix_of_any (Bool.or_eq_true_iff.mp isHandle))
  exact secretTexts_ne_handleTexts suffix isSecret handle isIn
    (suffixLast.symm.trans handleLast)

theorem isSecretKey_eq (key : String) :
    isSecretKey key = true ↔
      (endingNames.map ("_" ++ ·)).any
            (hasSuffix · (normalizedSecretKey key)) = true ∨
        exactNames.any (·.toList == normalizedSecretKey key) = true := by
  have isOr : isSecretKey key =
      (!isHandleKey (normalizedSecretKey key) &&
        (exactNames.any (·.toList == normalizedSecretKey key) ||
          (endingNames.map ("_" ++ ·)).any
            (hasSuffix · (normalizedSecretKey key)))) := by
    rfl
  rw [isOr, Bool.and_eq_true, Bool.or_eq_true, Bool.not_eq_true']
  constructor
  · exact fun found => found.2.symm
  · exact fun found => ⟨not_isHandleKey found, found.symm⟩

/-- A spelled key is a secret exactly when its pieces are recognised. -/
theorem isSecretKey_render_iff (style : Style) (areWords : AreWords words) :
    isSecretKey (render style words) = true ↔
      Recognised (pieces style words) := by
  have arePieces := areWords_pieces style areWords
  rw [isSecretKey_eq, normalizedSecretKey_render style areWords, or_comm,
    Recognised, List.any_map, List.any_eq_true, List.any_eq_true]
  refine or_congr ?_ ?_
  · refine exists_congr fun name => and_congr_right fun isName => ?_
    rw [beq_iff_eq, joined_eq_name_iff arePieces isName]
  · refine exists_congr fun name => and_congr_right fun isName => ?_
    rw [← name_suffix_iff arePieces isName]
    exact List.isSuffixOf_iff_suffix

end Names

/-! ## Payloads -/

mutual

/-- The fields of a payload, at any depth. -/
def allFields (value : Json.Value) : List (String × Json.Value) :=
  match value with
  | .object fields => fieldsOfFields fields
  | .array items => fieldsOfItems items
  | _ => []

def fieldsOfFields :
    List (String × Json.Value) → List (String × Json.Value)
  | [] => []
  | (key, nested) :: rest =>
      (key, nested) :: (allFields nested ++ fieldsOfFields rest)

def fieldsOfItems : List Json.Value → List (String × Json.Value)
  | [] => []
  | item :: rest => allFields item ++ fieldsOfItems rest

end

/-- The field has the key of a secret, and a value. -/
def IsSecretField (field : String × Json.Value) : Prop :=
  isSecretKey field.1 = true ∧ field.2.isNull = false

mutual

/-- A secret is found exactly if some field is one. -/
theorem containsPlaintextSecret_isSome_iff (value : Json.Value) :
    (containsPlaintextSecret value).isSome ↔
      ∃ field ∈ allFields value, IsSecretField field := by
  match value with
  | .object fields =>
      rw [containsPlaintextSecret, allFields]
      exact secretInFields_isSome_iff fields
  | .array items =>
      rw [containsPlaintextSecret, allFields]
      exact secretInItems_isSome_iff items
  | .null => simp [containsPlaintextSecret, allFields]
  | .bool _ => simp [containsPlaintextSecret, allFields]
  | .number _ => simp [containsPlaintextSecret, allFields]
  | .string _ => simp [containsPlaintextSecret, allFields]

theorem secretInFields_isSome_iff (fields : List (String × Json.Value)) :
    (secretInFields fields).isSome ↔
      ∃ field ∈ fieldsOfFields fields, IsSecretField field := by
  match fields with
  | [] => simp [secretInFields, fieldsOfFields]
  | (key, nested) :: rest =>
      rw [secretInFields, fieldsOfFields, Option.isSome_or, Bool.or_eq_true,
        secretInFields_isSome_iff rest]
      simp only [List.mem_cons, List.mem_append, or_and_right, exists_or,
        exists_eq_left]
      rw [← containsPlaintextSecret_isSome_iff nested]
      by_cases secret : IsSecretField (key, nested)
      · have found : (isSecretKey key && !nested.isNull) = true := by
          rw [secret.1, secret.2]
          rfl
        simp only [found, if_true, Option.isSome_some, true_or, secret]
      · have notFound : (isSecretKey key && !nested.isNull) = false := by
          rw [Bool.eq_false_iff]
          intro found
          rw [Bool.and_eq_true, Bool.not_eq_true'] at found
          exact secret found
        simp only [notFound, Bool.false_eq_true, if_false, secret, false_or]

theorem secretInItems_isSome_iff (items : List Json.Value) :
    (secretInItems items).isSome ↔
      ∃ field ∈ fieldsOfItems items, IsSecretField field := by
  match items with
  | [] => simp [secretInItems, fieldsOfItems]
  | item :: rest =>
      rw [secretInItems, fieldsOfItems, Option.isSome_or, Bool.or_eq_true,
        containsPlaintextSecret_isSome_iff item,
        secretInItems_isSome_iff rest]
      simp only [List.mem_append, or_and_right, exists_or]

end

/-- The payload is let through. -/
def Accepted (payload : Json.Value) : Prop :=
  rejectPlaintextSecretPayload payload = .ok ()

theorem accepted_iff (payload : Json.Value) :
    Accepted payload ↔ ∀ field ∈ allFields payload, ¬ IsSecretField field := by
  have found := containsPlaintextSecret_isSome_iff payload
  rw [Accepted, rejectPlaintextSecretPayload]
  cases secret : containsPlaintextSecret payload with
  | none =>
      rw [secret] at found
      simp only [Option.isSome_none, Bool.false_eq_true, false_iff,
        not_exists, not_and] at found
      exact iff_of_true rfl found
  | some key =>
      rw [secret] at found
      obtain ⟨field, member, isSecret⟩ := found.mp rfl
      refine iff_of_false nofun ?_
      intro none
      exact none field member isSecret

mutual

/-- The payload with other keys. -/
def renameKeys (rename : String → String) (value : Json.Value) :
    Json.Value :=
  match value with
  | .object fields => .object (renameFields rename fields)
  | .array items => .array (renameItems rename items)
  | value => value

def renameFields (rename : String → String) :
    List (String × Json.Value) → List (String × Json.Value)
  | [] => []
  | (key, nested) :: rest =>
      (rename key, renameKeys rename nested) :: renameFields rename rest

def renameItems (rename : String → String) :
    List Json.Value → List Json.Value
  | [] => []
  | item :: rest => renameKeys rename item :: renameItems rename rest

end

theorem isNull_renameKeys (rename : String → String) (value : Json.Value) :
    (renameKeys rename value).isNull = value.isNull := by
  cases value <;> rw [renameKeys] <;> first | rfl | exact nofun

mutual

/-- Renaming a payload renames its fields. -/
theorem allFields_renameKeys (rename : String → String)
    (value : Json.Value) :
    allFields (renameKeys rename value) =
      (allFields value).map fun field =>
        (rename field.1, renameKeys rename field.2) := by
  match value with
  | .object fields =>
      rw [renameKeys, allFields, allFields]
      exact fieldsOfFields_renameFields rename fields
  | .array items =>
      rw [renameKeys, allFields, allFields]
      exact fieldsOfItems_renameItems rename items
  | .null => simp [renameKeys, allFields]
  | .bool _ => simp [renameKeys, allFields]
  | .number _ => simp [renameKeys, allFields]
  | .string _ => simp [renameKeys, allFields]

theorem fieldsOfFields_renameFields (rename : String → String)
    (fields : List (String × Json.Value)) :
    fieldsOfFields (renameFields rename fields) =
      (fieldsOfFields fields).map fun field =>
        (rename field.1, renameKeys rename field.2) := by
  match fields with
  | [] => rw [renameFields, fieldsOfFields, List.map_nil]
  | (key, nested) :: rest =>
      rw [renameFields, fieldsOfFields, fieldsOfFields, List.map_cons,
        List.map_append, allFields_renameKeys rename nested,
        fieldsOfFields_renameFields rename rest]

theorem fieldsOfItems_renameItems (rename : String → String)
    (items : List Json.Value) :
    fieldsOfItems (renameItems rename items) =
      (fieldsOfItems items).map fun field =>
        (rename field.1, renameKeys rename field.2) := by
  match items with
  | [] => rw [renameItems, fieldsOfItems, List.map_nil]
  | item :: rest =>
      rw [renameItems, fieldsOfItems, fieldsOfItems, List.map_append,
        allFields_renameKeys rename item,
        fieldsOfItems_renameItems rename rest]

end

/-- Names that are secrets alike make no difference. -/
theorem accepted_renameKeys_iff {rename : String → String}
    (alike : ∀ key, isSecretKey (rename key) = isSecretKey key)
    (payload : Json.Value) :
    Accepted (renameKeys rename payload) ↔ Accepted payload := by
  rw [accepted_iff, accepted_iff, allFields_renameKeys,
    List.forall_mem_map]
  refine forall₂_congr fun field _ => not_congr ?_
  rw [IsSecretField, IsSecretField, alike, isNull_renameKeys]

/-! ## Handles -/

def handleWord : List Char := "handle".toList

theorem areWords_append_handle {words : List (List Char)}
    (areWords : AreWords words) : AreWords (words ++ [handleWord]) := by
  intro word member
  rcases List.mem_append.mp member with old | isHandle
  · exact areWords word old
  · rw [List.mem_singleton.mp isHandle]
    decide

/-- The last hump ends with the last word. -/
theorem joinHumps_append_handle :
    ∀ (shown : Bool) (piece : List Char) (words : List (List Char)),
      ∃ init last, joinHumps shown piece (words ++ [handleWord]) =
        init ++ [last ++ handleWord]
  | shown, piece, [] => by
      rw [List.nil_append, joinHumps]
      split_ifs
      · exact ⟨[piece], [], rfl⟩
      · exact ⟨[], piece, rfl⟩
  | shown, piece, word :: rest => by
      rw [List.cons_append, joinHumps]
      split_ifs
      · obtain ⟨init, last, isLast⟩ :=
          joinHumps_append_handle (shows word) word rest
        exact ⟨piece :: init, last, by rw [isLast, List.cons_append]⟩
      · exact joinHumps_append_handle (shows word) (piece ++ word) rest

theorem pieces_append_handle (style : Style) (words : List (List Char)) :
    ∃ init last, pieces style (words ++ [handleWord]) =
      init ++ [last ++ handleWord] := by
  cases style with
  | snake => exact ⟨words, [], rfl⟩
  | kebab => exact ⟨words, [], rfl⟩
  | spaced => exact ⟨words, [], rfl⟩
  | screaming =>
      refine ⟨words.flatMap cutBehindDigits, [], ?_⟩
      change (words ++ [handleWord]).flatMap cutBehindDigits = _
      rw [List.flatMap_append]
      rfl
  | camel =>
      cases words with
      | nil => exact ⟨[], [], rfl⟩
      | cons first rest => exact joinHumps_append_handle true first rest
  | pascal =>
      cases words with
      | nil => exact ⟨[], [], rfl⟩
      | cons first rest =>
          exact joinHumps_append_handle (shows first) first rest

/-- No spelling of words that end with a handle is the key of a secret. -/
theorem not_isSecretKey_handle (style : Style) {words : List (List Char)}
    (areWords : AreWords words) :
    isSecretKey (render style (words ++ [handleWord])) = false := by
  rw [Bool.eq_false_iff]
  intro secret
  rw [isSecretKey_eq] at secret
  obtain ⟨suffix, isSecret, suffixLast⟩ :=
    getLast?_of_suffix (by decide) (suffix_of_any secret)
  obtain ⟨init, last, isLast⟩ := pieces_append_handle style words
  rw [normalizedSecretKey_render style (areWords_append_handle areWords),
    isLast] at suffixLast
  have ends : (joined '_' (init ++ [last ++ handleWord])).getLast? =
      "handle".toList.getLast? := by
    by_cases isEmpty : init = []
    · rw [isEmpty, List.nil_append, joined_singleton]
      exact List.getLast?_append_of_ne_nil last (by decide)
    · rw [joined_append isEmpty (List.cons_ne_nil _ _), joined_singleton,
        List.getLast?_append_of_ne_nil _ (List.cons_ne_nil _ _),
        ← List.cons_append]
      exact List.getLast?_append_of_ne_nil _ (by decide)
  exact secretTexts_ne_handleTexts suffix isSecret "handle" (by decide)
    (suffixLast.symm.trans ends)

/-! ## Every spelling -/

/-- A key in another style. -/
def respell (style other : Style) (words : List (List Char)) (key : String) :
    String :=
  if key = render style words then render other words else key

/--
A payload with a spelling of the words is rejected, if they end with the name
of a secret, and another spelling makes no difference.
-/
structure SpellingsFound (words : List (List Char)) : Prop where
  found : EndsWithSecret words →
    ∀ style payload value, (render style words, value) ∈ allFields payload →
      value.isNull = false →
        ∃ failure, rejectPlaintextSecretPayload payload = .error failure
  same : ∀ style other payload,
    Accepted (renameKeys (respell style other words) payload) ↔
      Accepted payload

/-- A payload whose secret keys are those of handles is accepted. -/
def HandlesAccepted : Prop :=
  ∀ payload,
    (∀ field ∈ allFields payload, isSecretKey field.1 = true →
      ∃ style words, AreWords words ∧
        field.1 = render style (words ++ [handleWord])) →
      Accepted payload

/--
In every style the pieces of the key are recognised if and only if the words
end with the name of a secret.
-/
def ReadAlike (words : List (List Char)) : Prop :=
  ∀ style, Recognised (pieces style words) ↔ EndsWithSecret words

theorem handlesAccepted : HandlesAccepted := by
  intro payload handles
  rw [accepted_iff]
  rintro field member ⟨secret, -⟩
  obtain ⟨style, words, areWords, isKey⟩ := handles field member secret
  rw [isKey, not_isSecretKey_handle style areWords] at secret
  cases secret

variable {words : List (List Char)}

/-- What the pieces of one style make recognised is the name of a secret. -/
theorem endsWithSecret_of_recognised
    (recognised : Recognised words) : EndsWithSecret words := by
  rcases recognised with ⟨name, isName, rfl⟩ | ⟨name, isName, front, -, rfl⟩
  · exact ⟨name, isName, List.suffix_rfl⟩
  · exact ⟨name, endingNames_subset name isName, List.suffix_append _ _⟩

section Spellings

variable {words : List (List Char)}

/-- A payload with one field. -/
theorem accepted_singleton_iff (key : String) :
    Accepted (.object [(key, .bool true)]) ↔ isSecretKey key = false := by
  rw [accepted_iff]
  simp [allFields, fieldsOfFields, IsSecretField, Json.Value.isNull]

theorem SpellingsFound.readAlike (spellings : SpellingsFound words)
    (areWords : AreWords words) : ReadAlike words := by
  have alike : ∀ style,
      isSecretKey (render style words) =
        isSecretKey (render .snake words) := by
    intro style
    have same := spellings.same .snake style
      (.object [(render .snake words, .bool true)])
    have renamed : renameKeys (respell .snake style words)
        (.object [(render .snake words, .bool true)]) =
          .object [(render style words, .bool true)] := by
      rw [renameKeys, renameFields, renameFields, renameKeys, respell,
        if_pos rfl]
      exact nofun
      exact nofun
    rw [renamed, accepted_singleton_iff, accepted_singleton_iff] at same
    cases snake : isSecretKey (render .snake words) with
    | false => exact same.mpr snake
    | true =>
        by_contra other
        rw [Bool.not_eq_true] at other
        rw [same.mp other] at snake
        cases snake
  intro style
  rw [← isSecretKey_render_iff style areWords, alike]
  constructor
  · intro secret
    rw [isSecretKey_render_iff .snake areWords] at secret
    exact endsWithSecret_of_recognised secret
  · intro ends
    by_contra missed
    rw [Bool.not_eq_true] at missed
    obtain ⟨failure, rejected⟩ := spellings.found ends .snake
      (.object [(render .snake words, .bool true)]) (.bool true)
      (by simp [allFields, fieldsOfFields]) rfl
    have accepted := (accepted_singleton_iff _).mpr missed
    rw [Accepted, rejected] at accepted
    cases accepted

theorem ReadAlike.spellingsFound (alike : ReadAlike words)
    (areWords : AreWords words) : SpellingsFound words where
  found := by
    intro ends style payload value member nonNull
    have secret := (isSecretKey_render_iff style areWords).mpr
      ((alike style).mpr ends)
    rcases outcome : rejectPlaintextSecretPayload payload
      with failure | ⟨⟩
    · exact ⟨failure, rfl⟩
    · exact absurd ⟨secret, nonNull⟩
        ((accepted_iff payload).mp outcome _ member)
  same := by
    intro style other payload
    apply accepted_renameKeys_iff
    intro key
    rw [respell]
    split_ifs with isKey
    · rw [isKey, Bool.eq_iff_iff, isSecretKey_render_iff _ areWords,
        isSecretKey_render_iff _ areWords, alike, alike]
    · rfl

/--
Every spelling of the words is found, and handles are accepted, exactly when
the pieces of the key are recognised in every style as the words are.
-/
theorem spellingsFound_iff (areWords : AreWords words) :
    SpellingsFound words ∧ HandlesAccepted ↔ ReadAlike words := by
  constructor
  · exact fun found => found.1.readAlike areWords
  · exact fun alike => ⟨alike.spellingsFound areWords, handlesAccepted⟩

end Spellings

/-! ## Words of letters -/

/-- At least two letters, and no digit. -/
def IsPlain (word : List Char) : Prop :=
  2 ≤ word.length ∧ ∀ ch ∈ word, ch.isLower = true

theorem IsPlain.startsLower {word : List Char} (plain : IsPlain word) :
    startsLower word = true := by
  obtain ⟨long, lower⟩ := plain
  cases word with
  | nil => exact absurd long (by decide)
  | cons ch rest => exact lower ch List.mem_cons_self

theorem IsPlain.shows {word : List Char} (plain : IsPlain word) :
    shows word = true := by
  rw [SecretPayloads.shows, decide_eq_true plain.1, Bool.true_or]

theorem joinHumps_of_plain {piece : List Char} :
    ∀ {words : List (List Char)}, (∀ word ∈ words, IsPlain word) →
      joinHumps true piece words = piece :: words
  | [], _ => rfl
  | word :: rest, plain => by
      rw [List.forall_mem_cons] at plain
      rw [joinHumps, plain.1.startsLower, plain.1.shows, Bool.and_self,
        if_pos rfl, joinHumps_of_plain plain.2]

theorem cutBehindDigits_of_plain :
    ∀ {word : List Char}, word ≠ [] → (∀ ch ∈ word, ch.isLower = true) →
      cutBehindDigits word = [word]
  | [], nonempty, _ => absurd rfl nonempty
  | [ch], _, _ => rfl
  | ch :: second :: rest, _, lower => by
      rw [List.forall_mem_cons] at lower
      rw [cutBehindDigits,
        cutBehindDigits_of_plain (List.cons_ne_nil _ _) lower.2]
      dsimp only
      rw [not_isDigit_of_isLower lower.1, Bool.false_and,
        if_neg Bool.false_ne_true]

/-- Words of two letters or more are told apart in every style. -/
theorem pieces_of_plain (style : Style)
    (plain : ∀ word ∈ words, IsPlain word) : pieces style words = words := by
  cases style with
  | snake => rfl
  | kebab => rfl
  | spaced => rfl
  | screaming =>
      change words.flatMap cutBehindDigits = words
      have whole : ∀ word ∈ words, cutBehindDigits word = [word] := by
        intro word member
        obtain ⟨long, lower⟩ := plain word member
        refine cutBehindDigits_of_plain ?_ lower
        rintro rfl
        exact absurd long (by decide)
      rw [List.flatMap_congr whole]
      exact List.flatMap_singleton' words
  | camel =>
      cases words with
      | nil => rfl
      | cons first rest =>
          exact joinHumps_of_plain (List.forall_mem_cons.mp plain).2
  | pascal =>
      cases words with
      | nil => rfl
      | cons first rest =>
          rw [List.forall_mem_cons] at plain
          change joinHumps (shows first) first rest = first :: rest
          rw [plain.1.shows, joinHumps_of_plain plain.2]

/-- For such words only the ending matters. -/
theorem readAlike_iff_of_plain (plain : ∀ word ∈ words, IsPlain word) :
    ReadAlike words ↔ (EndsWithSecret words → Recognised words) := by
  rw [ReadAlike]
  simp only [pieces_of_plain _ plain]
  constructor
  · exact fun alike => (alike .snake).mpr
  · exact fun found _ => ⟨endsWithSecret_of_recognised, found⟩

/-! ## Two names -/

def wordsOf (words : List String) : List (List Char) :=
  words.map String.toList

/-- The secret of an OIDC client is let through in every style. -/
theorem oidcClientSecret_accepted :
    EndsWithSecret (wordsOf ["oidc", "client", "secret"]) ∧
      Accepted (.object [("oidcClientSecret", .string "s3cret")]) ∧
        ¬ (SpellingsFound (wordsOf ["oidc", "client", "secret"]) ∧
          HandlesAccepted) := by
  have ends : EndsWithSecret (wordsOf ["oidc", "client", "secret"]) :=
    ⟨"client_secret", by decide, by decide⟩
  refine ⟨ends, ?_, ?_⟩
  · rw [Accepted, rejectPlaintextSecretPayload]
    have none : containsPlaintextSecret
        (.object [("oidcClientSecret", .string "s3cret")]) = none := by
      decide
    rw [none]
  · rintro ⟨spellings, -⟩
    obtain ⟨failure, rejected⟩ := spellings.found ends .snake
      (.object [(render .snake (wordsOf ["oidc", "client", "secret"]),
        .string "s3cret")]) (.string "s3cret")
      (by simp [allFields, fieldsOfFields]) rfl
    have none : containsPlaintextSecret
        (.object [(render .snake (wordsOf ["oidc", "client", "secret"]),
          .string "s3cret")]) = none := by
      decide
    rw [rejectPlaintextSecretPayload, none] at rejected
    cases rejected

theorem spellingsFound_iff_dbPassword :
    SpellingsFound (wordsOf ["db", "password"]) ∧ HandlesAccepted ↔
      ReadAlike (wordsOf ["db", "password"]) :=
  spellingsFound_iff (by decide)

end OpenSnow.Server.SecretPayloads
