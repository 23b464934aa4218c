import Mathlib.Data.List.Nodup
import OpenSnow.Auth.Sealing

/-!
# The key ring of the secret store

A store starts with the legacy key.  Keys are added and made current; none is
ever removed, so what was sealed at any time is opened at any later time.
-/

namespace OpenSnow.Auth.Sealing

open Rust.Text

variable {Key : Type}

/-! ## The ring -/

/-- A single named data key. -/
structure DataKey (Key : Type) where
  id : String
  key : Key
deriving DecidableEq

/-- The data keys that a store can decrypt with, and the current one. -/
structure KeyRing (Key : Type) where
  keys : List (DataKey Key)
  currentKeyId : String
  idsDistinct : (keys.map DataKey.id).Nodup
  idsPlain : ∀ key ∈ keys, '.' ∉ key.id.toList
  legacyRegistered : legacyKeyId ∈ keys.map DataKey.id
  currentRegistered : currentKeyId ∈ keys.map DataKey.id

/-- The ways an operation on the keys can fail. -/
inductive KeyError where
  /-- "data-key master material must not be empty". -/
  | emptyMaster
  /-- "data-key id must not be empty". -/
  | emptyId
  /-- "data-key id must not contain '.'". -/
  | dottedId
  /-- "data-key id '{}' is already registered". -/
  | alreadyRegistered
  /-- "cannot set current key: unknown key id '{}'". -/
  | unknownKey
deriving DecidableEq, Repr

theorem legacyKeyId_plain : '.' ∉ legacyKeyId.toList := by decide

section

variable (derive : List UInt8 → Key)

/-- `local_dev`: a ring with the legacy key. -/
def KeyRing.localDev (masterKey : String) : Except KeyError (KeyRing Key) :=
  if masterKey = "" then .error .emptyMaster
  else
    .ok
      { keys := [⟨legacyKeyId, derive (utf8Bytes masterKey)⟩]
        currentKeyId := legacyKeyId
        idsDistinct := List.nodup_singleton _
        idsPlain := List.forall_mem_singleton.mpr legacyKeyId_plain
        legacyRegistered := List.mem_singleton_self _
        currentRegistered := List.mem_singleton_self _ }

/-- `add_key`, as `with_rotated_key` and `register_decrypt_key` use it. -/
def KeyRing.addKey (ring : KeyRing Key) (keyId masterKey : String)
    (makeCurrent : Bool) : Except KeyError (KeyRing Key) :=
  if keyId = "" then .error .emptyId
  else if dotted : '.' ∈ keyId.toList then .error .dottedId
  else if masterKey = "" then .error .emptyMaster
  else if taken : keyId ∈ ring.keys.map DataKey.id then
    .error .alreadyRegistered
  else
    .ok
      { keys := ring.keys ++ [⟨keyId, derive (utf8Bytes masterKey)⟩]
        currentKeyId := if makeCurrent then keyId else ring.currentKeyId
        idsDistinct := by
          rw [List.map_append, List.map_singleton, ← List.concat_eq_append]
          exact ring.idsDistinct.concat taken
        idsPlain :=
          List.forall_mem_append.mpr
            ⟨ring.idsPlain, List.forall_mem_singleton.mpr dotted⟩
        legacyRegistered := by
          rw [List.map_append]
          exact List.mem_append_left _ ring.legacyRegistered
        currentRegistered := by
          rw [List.map_append, List.map_singleton]
          split_ifs
          · exact List.mem_append_right _ (List.mem_singleton_self _)
          · exact List.mem_append_left _ ring.currentRegistered }

end

/-- Promote an already-registered key to be the current encryption key. -/
def KeyRing.setCurrentKey (ring : KeyRing Key) (keyId : String) :
    Except KeyError (KeyRing Key) :=
  if registered : keyId ∈ ring.keys.map DataKey.id then
    .ok
      { ring with currentKeyId := keyId, currentRegistered := registered }
  else .error .unknownKey

def KeyRing.keyFor (ring : KeyRing Key) (keyId : String) :
    Option (DataKey Key) :=
  ring.keys.find? fun key => key.id = keyId

/-- The key that new seals are written with; the code panics without one. -/
def KeyRing.currentKey (ring : KeyRing Key) : Option (DataKey Key) :=
  ring.keyFor ring.currentKeyId

/-! ## Sealing and opening -/

/-- The ways `seal` does not return a payload. -/
inductive SealError where
  /-- "current key id must reference a registered key". -/
  | noCurrentKey
  /-- "failed to seal secret with AES-256-GCM". -/
  | cipher
deriving DecidableEq, Repr

/-- The ways `unseal` does not return a secret. -/
inductive UnsealError where
  /-- "invalid sealed secret payload: missing key id". -/
  | missingKeyId
  | missingNonce
  | missingCiphertext
  /-- "sealed secret uses an unsupported or legacy format …". -/
  | unsupportedFormat
  /-- "no data key registered for key id '{}'". -/
  | unknownKey (keyId : String)
  | hex (error : HexError)
  /-- "invalid sealed secret payload: bad nonce length". -/
  | nonceLength
  /-- "authentication failed (tampered or wrong key)". -/
  | authentication
  /-- "sealed secret payload is not UTF-8". -/
  | notUtf8
deriving DecidableEq, Repr

section

variable (aead : Aead Key)

/-- Seal a secret under a fresh nonce with the current key. -/
def KeyRing.seal (ring : KeyRing Key) (nonce : Nonce) (rawSecret : String) :
    Except SealError String :=
  match ring.currentKey with
  | none => .error .noCurrentKey
  | some dataKey =>
      if dataKey.id = legacyKeyId then
        match aead.encrypt dataKey.key nonce (utf8Bytes sealedPayloadV1)
            (utf8Bytes rawSecret) with
        | some ciphertext => .ok (v1Text nonce.bytes ciphertext)
        | none => .error .cipher
      else
        match aead.encrypt dataKey.key nonce (utf8Bytes (v2Aad dataKey.id))
            (utf8Bytes rawSecret) with
        | some ciphertext => .ok (v2Text dataKey.id nonce.bytes ciphertext)
        | none => .error .cipher

/-- Decrypt the fields of a payload with a key. -/
def openAead (dataKey : DataKey Key) (nonceHex cipherHex : List Char)
    (aad : String) : Except UnsealError String :=
  match hexDecode nonceHex with
  | .error error => .error (.hex error)
  | .ok nonceBytes =>
      if length : nonceBytes.length = 12 then
        match hexDecode cipherHex with
        | .error error => .error (.hex error)
        | .ok ciphertext =>
            match aead.decrypt dataKey.key ⟨nonceBytes, length⟩
                (utf8Bytes aad) ciphertext with
            | none => .error .authentication
            | some plain =>
                match String.fromUTF8? ⟨plain.toArray⟩ with
                | some secret => .ok secret
                | none => .error .notUtf8
      else .error .nonceLength

/-- Decrypt with the key of an id, if there is one. -/
def KeyRing.openWith (ring : KeyRing Key) (keyId : String)
    (nonceHex cipherHex : List Char) (aad : String) :
    Except UnsealError String :=
  match ring.keyFor keyId with
  | some dataKey => openAead aead dataKey nonceHex cipherHex aad
  | none => .error (.unknownKey keyId)

/-- Open a sealed payload with the key that its format names. -/
def KeyRing.unseal (ring : KeyRing Key) (payload : String) :
    Except UnsealError String :=
  let version := firstPart '.' payload.toList
  if version = sealedPayloadV1.toList then
    let parts := splitn '.' 3 payload.toList
    match parts[1]?, parts[2]? with
    | none, _ => .error .missingNonce
    | some _, none => .error .missingCiphertext
    | some nonceHex, some cipherHex =>
        ring.openWith aead legacyKeyId nonceHex cipherHex sealedPayloadV1
  else if version = sealedPayloadV2.toList then
    let parts := splitn '.' 4 payload.toList
    match parts[1]?, parts[2]?, parts[3]? with
    | none, _, _ => .error .missingKeyId
    | some _, none, _ => .error .missingNonce
    | some _, some _, none => .error .missingCiphertext
    | some keyId, some nonceHex, some cipherHex =>
        ring.openWith aead (String.ofList keyId) nonceHex cipherHex
          (v2Aad (String.ofList keyId))
  else .error .unsupportedFormat

end

/-! ## Keys are found -/

section

variable {ring : KeyRing Key} {aead : Aead Key}

variable {dataKey : DataKey Key}

theorem KeyRing.keyFor_eq_some {keyId : String}
    (found : ring.keyFor keyId = some dataKey) :
    dataKey ∈ ring.keys ∧ dataKey.id = keyId :=
  ⟨List.mem_of_find?_eq_some found, by simpa using List.find?_some found⟩

theorem KeyRing.exists_keyFor {keyId : String}
    (registered : keyId ∈ ring.keys.map DataKey.id) :
    ∃ dataKey, ring.keyFor keyId = some dataKey := by
  obtain ⟨dataKey, member, rfl⟩ := List.mem_map.mp registered
  exact Option.isSome_iff_exists.mp
    (List.find?_isSome.mpr ⟨dataKey, member, by simp⟩)

theorem KeyRing.exists_currentKey (ring : KeyRing Key) :
    ∃ dataKey ∈ ring.keys, ring.currentKey = some dataKey := by
  obtain ⟨dataKey, found⟩ := KeyRing.exists_keyFor ring.currentRegistered
  exact ⟨dataKey, (KeyRing.keyFor_eq_some found).1, found⟩

/-! ## What a payload is opened as -/

/-- A payload of the legacy format, read at its dots. -/
theorem KeyRing.unseal_v1 {payload : String}
    {nonceHex cipherHex : List Char} (plain : '.' ∉ nonceHex)
    (shape :
      payload.toList =
        ['v', '1'] ++ '.' :: (nonceHex ++ '.' :: cipherHex)) :
    ring.unseal aead payload =
      ring.openWith aead legacyKeyId nonceHex cipherHex sealedPayloadV1 := by
  have version : firstPart '.' payload.toList = sealedPayloadV1.toList := by
    rw [shape, firstPart_append (by decide)]
    decide
  have parts :
      splitn '.' 3 payload.toList = [['v', '1'], nonceHex, cipherHex] := by
    rw [shape, splitn_append (by decide), splitn_append plain, splitn]
  unfold KeyRing.unseal
  rw [if_pos version, parts]
  rfl

/-- A payload that names its key, read at its dots. -/
theorem KeyRing.unseal_v2 {payload : String}
    {keyId nonceHex cipherHex : List Char} (plainId : '.' ∉ keyId)
    (plain : '.' ∉ nonceHex)
    (shape :
      payload.toList =
        ['v', '2'] ++ '.' ::
          (keyId ++ '.' :: (nonceHex ++ '.' :: cipherHex))) :
    ring.unseal aead payload =
      ring.openWith aead (String.ofList keyId) nonceHex cipherHex
        (v2Aad (String.ofList keyId)) := by
  have version : firstPart '.' payload.toList = ['v', '2'] := by
    rw [shape, firstPart_append (by decide)]
  have notV1 : ['v', '2'] ≠ sealedPayloadV1.toList := by decide
  have isV2 : ['v', '2'] = sealedPayloadV2.toList := by decide
  have parts :
      splitn '.' 4 payload.toList =
        [['v', '2'], keyId, nonceHex, cipherHex] := by
    rw [shape, splitn_append (by decide), splitn_append plainId,
      splitn_append plain, splitn]
  unfold KeyRing.unseal
  rw [version, if_neg notV1, if_pos isV2, parts]
  rfl

/-- A tag of the second format in front of two fields only. -/
theorem KeyRing.unseal_v2_short {payload : String}
    {keyId nonceHex : List Char} (plainId : '.' ∉ keyId)
    (plain : '.' ∉ nonceHex)
    (shape :
      payload.toList = ['v', '2'] ++ '.' :: (keyId ++ '.' :: nonceHex)) :
    ring.unseal aead payload = .error .missingCiphertext := by
  have version : firstPart '.' payload.toList = ['v', '2'] := by
    rw [shape, firstPart_append (by decide)]
  have notV1 : ['v', '2'] ≠ sealedPayloadV1.toList := by decide
  have isV2 : ['v', '2'] = sealedPayloadV2.toList := by decide
  have parts :
      splitn '.' 4 payload.toList = [['v', '2'], keyId, nonceHex] := by
    rw [shape, splitn_append (by decide), splitn_append plainId,
      splitn_plain plain]
  unfold KeyRing.unseal
  rw [version, if_neg notV1, if_pos isV2, parts]
  rfl

theorem openAead_encoded (dataKey : DataKey Key) (nonce : Nonce)
    (ciphertext : List UInt8) (aad : String) :
    openAead aead dataKey (hexEncode nonce.bytes) (hexEncode ciphertext)
        aad =
      match aead.decrypt dataKey.key nonce (utf8Bytes aad) ciphertext with
      | none => .error .authentication
      | some plain =>
          match String.fromUTF8? ⟨plain.toArray⟩ with
          | some secret => .ok secret
          | none => .error .notUtf8 := by
  unfold openAead
  rw [hexDecode_hexEncode, hexDecode_hexEncode]
  exact dif_pos nonce.length

variable {nonce : Nonce}

/-- A secret is sealed with the associated data of the current key. -/
theorem KeyRing.seal_of_current {rawSecret : String}
    (current : ring.currentKey = some dataKey) :
    ring.seal aead nonce rawSecret =
      match aead.encrypt dataKey.key nonce (utf8Bytes (aadFor dataKey.id))
          (utf8Bytes rawSecret) with
      | some ciphertext =>
          .ok (if dataKey.id = legacyKeyId then v1Text nonce.bytes ciphertext
            else v2Text dataKey.id nonce.bytes ciphertext)
      | none => .error .cipher := by
  rw [KeyRing.seal, current, aadFor]
  dsimp only
  split_ifs <;> rfl

/-- What a sealed payload is made of. -/
theorem KeyRing.of_seal {rawSecret payload : String}
    (sealed : ring.seal aead nonce rawSecret = .ok payload) :
    ∃ dataKey ciphertext, ring.keyFor dataKey.id = some dataKey ∧
      '.' ∉ dataKey.id.toList ∧
      aead.encrypt dataKey.key nonce (utf8Bytes (aadFor dataKey.id))
          (utf8Bytes rawSecret) = some ciphertext ∧
      payload =
        if dataKey.id = legacyKeyId then v1Text nonce.bytes ciphertext
        else v2Text dataKey.id nonce.bytes ciphertext := by
  obtain ⟨dataKey, member, current⟩ := ring.exists_currentKey
  have isCurrent := (KeyRing.keyFor_eq_some current).2
  have registered : ring.keyFor dataKey.id = some dataKey :=
    isCurrent ▸ current
  have plainId := ring.idsPlain dataKey member
  rw [KeyRing.seal_of_current current] at sealed
  cases encrypted : aead.encrypt dataKey.key nonce
      (utf8Bytes (aadFor dataKey.id)) (utf8Bytes rawSecret) with
  | none =>
      rw [encrypted] at sealed
      cases sealed
  | some ciphertext =>
      rw [encrypted] at sealed
      cases sealed
      exact ⟨dataKey, ciphertext, registered, plainId, encrypted, rfl⟩

/-- The key, nonce and associated data of the seal open the payload. -/
theorem openAead_sealed (authentic : aead.Authentic) {aad rawSecret : String}
    {ciphertext : List UInt8} (encrypted :
      aead.encrypt dataKey.key nonce (utf8Bytes aad) (utf8Bytes rawSecret) =
        some ciphertext) :
    openAead aead dataKey (hexEncode nonce.bytes) (hexEncode ciphertext)
      aad = .ok rawSecret := by
  rw [openAead_encoded, authentic.opens encrypted]
  dsimp only
  rw [fromUTF8_utf8Bytes]

/-- With other associated data than at the seal, nothing is opened. -/
theorem openWith_other_aad (authentic : aead.Authentic)
    {key : Key} {aad other : String} {message ciphertext : List UInt8}
    (encrypted :
      aead.encrypt key nonce (utf8Bytes aad) message = some ciphertext)
    (differs : other ≠ aad) (keyId secret : String) :
    ring.openWith aead keyId (hexEncode nonce.bytes) (hexEncode ciphertext)
      other ≠ .ok secret := by
  rw [KeyRing.openWith]
  cases ring.keyFor keyId with
  | none => exact nofun
  | some dataKey =>
      dsimp only
      rw [openAead_encoded]
      cases opened : aead.decrypt dataKey.key nonce (utf8Bytes other)
          ciphertext with
      | none => exact nofun
      | some plain =>
          obtain ⟨-, -, sameAad⟩ := authentic.rejects encrypted opened
          exact absurd (utf8Bytes_injective sameAad) differs

/-! ## Runs -/

end

/-- An operation on the keys of a store. -/
inductive KeyOperation where
  | addKey (keyId masterKey : String) (makeCurrent : Bool)
  | setCurrentKey (keyId : String)
deriving DecidableEq, Repr

section

variable {derive : List UInt8 → Key}

/-- An operation that fails leaves the ring as it was. -/
def KeyRing.perform (derive : List UInt8 → Key) (ring : KeyRing Key) :
    KeyOperation → KeyRing Key
  | .addKey keyId masterKey makeCurrent =>
      ((ring.addKey derive keyId masterKey makeCurrent).toOption).getD ring
  | .setCurrentKey keyId => ((ring.setCurrentKey keyId).toOption).getD ring

def KeyRing.run (derive : List UInt8 → Key) (ring : KeyRing Key)
    (operations : List KeyOperation) : KeyRing Key :=
  operations.foldl (KeyRing.perform derive) ring

/-- An operation only adds keys. -/
theorem KeyRing.keys_perform (ring : KeyRing Key)
    (operation : KeyOperation) :
    ring.keys <+: (ring.perform derive operation).keys := by
  cases operation with
  | addKey keyId masterKey makeCurrent =>
      rw [KeyRing.perform, KeyRing.addKey]
      split_ifs
      · exact List.prefix_rfl
      · exact List.prefix_rfl
      · exact List.prefix_rfl
      · exact List.prefix_rfl
      all_goals exact List.prefix_append _ _
  | setCurrentKey keyId =>
      rw [KeyRing.perform, KeyRing.setCurrentKey]
      split_ifs
      · exact List.prefix_rfl
      · exact List.prefix_rfl

theorem KeyRing.keys_run (ring : KeyRing Key)
    (operations : List KeyOperation) :
    ring.keys <+: (ring.run derive operations).keys := by
  induction operations generalizing ring with
  | nil => exact List.prefix_rfl
  | cons operation rest ih =>
      exact (ring.keys_perform operation).trans (ih _)

/-- A key that is found once is found for ever. -/
theorem KeyRing.keyFor_run {ring : KeyRing Key} {keyId : String}
    {dataKey : DataKey Key} (found : ring.keyFor keyId = some dataKey)
    (operations : List KeyOperation) :
    (ring.run derive operations).keyFor keyId = some dataKey := by
  obtain ⟨more, extended⟩ := @KeyRing.keys_run _ derive ring operations
  rw [KeyRing.keyFor, ← extended, List.find?_append]
  rw [KeyRing.keyFor] at found
  rw [found, Option.some_or]

theorem KeyRing.run_append (ring : KeyRing Key)
    (before later : List KeyOperation) :
    ring.run derive (before ++ later) =
      (ring.run derive before).run derive later :=
  List.foldl_append

/-- A payload that opens to a secret, whatever is done with the keys next. -/
def KeyRing.Holds (derive : List UInt8 → Key) (aead : Aead Key)
    (ring : KeyRing Key) (payload secret : String) : Prop :=
  ∀ later, (ring.run derive later).unseal aead payload = .ok secret

theorem KeyRing.Holds.unseal {aead : Aead Key} {ring : KeyRing Key}
    {payload secret : String} (held : ring.Holds derive aead payload secret) :
    ring.unseal aead payload = .ok secret :=
  held []

theorem KeyRing.Holds.perform {aead : Aead Key} {ring : KeyRing Key}
    {payload secret : String} (held : ring.Holds derive aead payload secret)
    (operation : KeyOperation) :
    (ring.perform derive operation).Holds derive aead payload secret :=
  fun later => held (operation :: later)

theorem KeyRing.holds_of_seal {aead : Aead Key}
    (authentic : aead.Authentic) {ring : KeyRing Key} {nonce : Nonce}
    {rawSecret payload : String}
    (sealed : ring.seal aead nonce rawSecret = .ok payload) :
    ring.Holds derive aead payload rawSecret := by
  intro later
  obtain ⟨dataKey, ciphertext, registered, plainId, encrypted, isPayload⟩ :=
    KeyRing.of_seal sealed
  have stillRegistered := @KeyRing.keyFor_run _ derive _ _ _ registered later
  have plainNonce := dot_not_mem_hexEncode nonce.bytes
  by_cases legacy : dataKey.id = legacyKeyId
  · rw [if_pos legacy] at isPayload
    rw [aadFor, if_pos legacy] at encrypted
    rw [KeyRing.unseal_v1 plainNonce (isPayload ▸ toList_v1Text _ _),
      KeyRing.openWith, ← legacy, stillRegistered]
    exact openAead_sealed authentic encrypted
  · rw [if_neg legacy] at isPayload
    rw [aadFor, if_neg legacy] at encrypted
    rw [KeyRing.unseal_v2 plainId plainNonce
      (isPayload ▸ toList_v2Text _ _ _), String.ofList_toList,
      KeyRing.openWith, stillRegistered]
    exact openAead_sealed authentic encrypted

end

/-! ## Payloads under another tag -/

/-- A payload with its key id replaced, or its format tag changed. -/
inductive Retagged : String → String → Prop where
  | keyId {keyId other rest : String} (plain : '.' ∉ keyId.toList)
      (otherPlain : '.' ∉ other.toList) (differs : other ≠ keyId) :
      Retagged ("v2." ++ keyId ++ "." ++ rest) ("v2." ++ other ++ "." ++ rest)
  /-- A `v1` payload, attributed to a key. -/
  | toV2 {keyId rest : String} (plain : '.' ∉ keyId.toList) :
      Retagged ("v1." ++ rest) ("v2." ++ keyId ++ "." ++ rest)
  /-- A `v2` payload without its key id. -/
  | toV1 {keyId rest : String} (plain : '.' ∉ keyId.toList) :
      Retagged ("v2." ++ keyId ++ "." ++ rest) ("v1." ++ rest)
  | tagV2 {rest : String} : Retagged ("v1." ++ rest) ("v2." ++ rest)
  | tagV1 {rest : String} : Retagged ("v2." ++ rest) ("v1." ++ rest)

theorem toList_v1_append (rest : String) :
    ("v1." ++ rest).toList = ['v', '1'] ++ '.' :: rest.toList := by
  simp

theorem toList_v2_append (rest : String) :
    ("v2." ++ rest).toList = ['v', '2'] ++ '.' :: rest.toList := by
  simp

theorem toList_v2_key_append (keyId rest : String) :
    ("v2." ++ keyId ++ "." ++ rest).toList =
      ['v', '2'] ++ '.' :: (keyId.toList ++ '.' :: rest.toList) := by
  simp

/-- Texts that are split at their first dots. -/
theorem split_inj {front front' back back' : List Char}
    (plain : '.' ∉ front) (plain' : '.' ∉ front')
    (same : front ++ '.' :: back = front' ++ '.' :: back') :
    front = front' ∧ back = back' := by
  have parts := congrArg (splitn '.' 2) same
  rw [splitn_append plain, splitn_append plain'] at parts
  simpa [splitn] using parts

section

variable {ring : KeyRing Key} {aead : Aead Key}

/-- A payload of the legacy key does not open under another tag. -/
theorem KeyRing.unseal_retagged_v1 (authentic : aead.Authentic)
    {key : Key} {nonce : Nonce} {message ciphertext : List UInt8}
    (encrypted :
      aead.encrypt key nonce (utf8Bytes sealedPayloadV1) message =
        some ciphertext)
    {payload forged : String} (retagged : Retagged payload forged)
    (isPayload : payload = v1Text nonce.bytes ciphertext) (secret : String) :
    ring.unseal aead forged ≠ .ok secret := by
  have chars := congrArg String.toList isPayload
  rw [toList_v1Text] at chars
  have plainNonce := dot_not_mem_hexEncode nonce.bytes
  have plainCipher := dot_not_mem_hexEncode ciphertext
  cases retagged with
  | keyId plain otherPlain differs =>
      rw [toList_v2_key_append] at chars
      exact absurd (split_inj (by decide) (by decide) chars).1 (by decide)
  | @toV2 keyId rest plain =>
      rw [toList_v1_append] at chars
      have body := (split_inj (by decide) (by decide) chars).2
      rw [KeyRing.unseal_v2 plain plainNonce
        (by rw [toList_v2_key_append, body])]
      exact openWith_other_aad authentic encrypted (v2Aad_ne_v1 _) _ secret
  | toV1 plain =>
      rw [toList_v2_key_append] at chars
      exact absurd (split_inj (by decide) (by decide) chars).1 (by decide)
  | @tagV2 rest =>
      rw [toList_v1_append] at chars
      have body := (split_inj (by decide) (by decide) chars).2
      rw [KeyRing.unseal_v2_short plainNonce plainCipher
        (by rw [toList_v2_append, body])]
      exact nofun
  | tagV1 =>
      rw [toList_v2_append] at chars
      exact absurd (split_inj (by decide) (by decide) chars).1 (by decide)

/-- A payload that names its key does not open under another tag or key. -/
theorem KeyRing.unseal_retagged_v2 (authentic : aead.Authentic)
    {key : Key} {nonce : Nonce} {keyId : String}
    {message ciphertext : List UInt8} (plainId : '.' ∉ keyId.toList)
    (encrypted :
      aead.encrypt key nonce (utf8Bytes (v2Aad keyId)) message =
        some ciphertext)
    {payload forged : String} (retagged : Retagged payload forged)
    (isPayload : payload = v2Text keyId nonce.bytes ciphertext)
    (secret : String) : ring.unseal aead forged ≠ .ok secret := by
  have chars := congrArg String.toList isPayload
  rw [toList_v2Text] at chars
  have plainNonce := dot_not_mem_hexEncode nonce.bytes
  cases retagged with
  | @keyId named other rest plain otherPlain differs =>
      rw [toList_v2_key_append] at chars
      obtain ⟨sameId, body⟩ := split_inj plain plainId
        (split_inj (by decide) (by decide) chars).2
      have otherAad : v2Aad (String.ofList other.toList) ≠ v2Aad keyId := by
        rw [String.ofList_toList, Ne, v2Aad_inj]
        rintro rfl
        exact differs (String.toList_inj.mp sameId).symm
      rw [KeyRing.unseal_v2 otherPlain plainNonce
        (by rw [toList_v2_key_append, body])]
      exact openWith_other_aad authentic encrypted otherAad _ secret
  | toV2 plain =>
      rw [toList_v1_append] at chars
      exact absurd (split_inj (by decide) (by decide) chars).1 (by decide)
  | @toV1 named rest plain =>
      rw [toList_v2_key_append] at chars
      obtain ⟨-, body⟩ := split_inj plain plainId
        (split_inj (by decide) (by decide) chars).2
      rw [KeyRing.unseal_v1 plainNonce (by rw [toList_v1_append, body])]
      exact openWith_other_aad authentic encrypted (v2Aad_ne_v1 keyId).symm _
        secret
  | tagV2 =>
      rw [toList_v1_append] at chars
      exact absurd (split_inj (by decide) (by decide) chars).1 (by decide)
  | @tagV1 rest =>
      -- the key id is read as the nonce, and nonce and ciphertext, with the
      -- dot between them, as the ciphertext
      rw [toList_v2_append] at chars
      have body := (split_inj (by decide) (by decide) chars).2
      rw [KeyRing.unseal_v1 plainId (by rw [toList_v1_append, body]),
        KeyRing.openWith]
      cases ring.keyFor legacyKeyId with
      | none => exact nofun
      | some dataKey =>
          dsimp only
          rw [openAead]
          cases hexDecode keyId.toList with
          | error failure => exact nofun
          | ok nonceBytes =>
              dsimp only
              split_ifs with length
              · cases read : hexDecode
                    (hexEncode nonce.bytes ++ '.' :: hexEncode ciphertext) with
                | error failure => exact nofun
                | ok decoded => exact absurd read (hexDecode_dot _ _ _)
              · exact nofun

end

/--
In every run of key operations the current key is found, and what is sealed
at any point is opened to its secret at every later point, while no retagged
payload opens.
-/
theorem sealed_never_stranded {aead : Aead Key} (authentic : aead.Authentic)
    (derive : List UInt8 → Key) (ring : KeyRing Key) :
    (∀ operations, ∃ dataKey ∈ (ring.run derive operations).keys,
      (ring.run derive operations).currentKey = some dataKey) ∧
    ∀ before later nonce rawSecret payload,
      (ring.run derive before).seal aead nonce rawSecret = .ok payload →
        (ring.run derive (before ++ later)).unseal aead payload =
            .ok rawSecret ∧
          ∀ forged, Retagged payload forged → ∀ secret,
            (ring.run derive (before ++ later)).unseal aead forged ≠
              .ok secret := by
  refine ⟨fun operations => (ring.run derive operations).exists_currentKey,
    ?_⟩
  intro before later nonce rawSecret payload sealed
  have held := @KeyRing.holds_of_seal _ derive _ authentic _ _ _ _ sealed
  refine ⟨KeyRing.run_append ring before later ▸ held later, ?_⟩
  intro forged retagged secret
  obtain ⟨dataKey, ciphertext, -, plainId, encrypted, isPayload⟩ :=
    KeyRing.of_seal sealed
  by_cases legacy : dataKey.id = legacyKeyId
  · rw [if_pos legacy] at isPayload
    rw [aadFor, if_pos legacy] at encrypted
    exact KeyRing.unseal_retagged_v1 authentic encrypted retagged isPayload
      secret
  · rw [if_neg legacy] at isPayload
    rw [aadFor, if_neg legacy] at encrypted
    exact KeyRing.unseal_retagged_v2 authentic plainId encrypted retagged
      isPayload secret

/-! ## A cipher that is authentic -/

/-- A field with a mark before each byte and one behind the last. -/
def marked : List UInt8 → List UInt8
  | [] => [0]
  | byte :: rest => 1 :: byte :: marked rest

theorem marked_append_inj :
    ∀ {field other rest otherRest : List UInt8},
      marked field ++ rest = marked other ++ otherRest →
        field = other ∧ rest = otherRest
  | [], [], _, _, same => ⟨rfl, (List.cons.inj same).2⟩
  | [], _ :: _, _, _, same => absurd (List.cons.inj same).1 (by decide)
  | _ :: _, [], _, _, same => absurd (List.cons.inj same).1 (by decide)
  | byte :: field, head :: other, _, _, same => by
      obtain ⟨sameByte, tails⟩ := List.cons.inj (List.cons.inj same).2
      obtain ⟨sameField, sameRest⟩ := marked_append_inj tails
      exact ⟨by rw [sameByte, sameField], sameRest⟩

/-- The key, nonce and associated data, written in front of a message. -/
def header (key : List UInt8) (nonce : Nonce) (aad : List UInt8) :
    List UInt8 :=
  marked key ++ (marked nonce.bytes ++ marked aad)

/-- A cipher that hides nothing, but tells what a text was encrypted under. -/
def openCipher : Aead (List UInt8) where
  encrypt key nonce aad message := some (header key nonce aad ++ message)
  decrypt key nonce aad ciphertext :=
    if (header key nonce aad).isPrefixOf ciphertext then
      some (ciphertext.drop (header key nonce aad).length)
    else none

theorem openCipher_authentic : openCipher.Authentic where
  opens := by
    rintro key nonce aad message ciphertext ⟨⟩
    have isFront : (header key nonce aad).isPrefixOf
        (header key nonce aad ++ message) :=
      List.isPrefixOf_iff_prefix.mpr (List.prefix_append _ _)
    rw [openCipher]
    dsimp only
    rw [if_pos isFront, List.drop_left]
  rejects := by
    rintro key nonce aad message ciphertext ⟨⟩ otherKey otherNonce otherAad
      opened decrypted
    rw [openCipher] at decrypted
    dsimp only at decrypted
    split_ifs at decrypted with isFront
    obtain ⟨rest, same⟩ := List.isPrefixOf_iff_prefix.mp isFront
    rw [header, header, List.append_assoc, List.append_assoc,
      List.append_assoc, List.append_assoc] at same
    obtain ⟨sameKey, tails⟩ := marked_append_inj same
    obtain ⟨sameNonce, tails⟩ := marked_append_inj tails
    obtain ⟨sameAad, -⟩ := marked_append_inj tails
    refine ⟨sameKey, ?_, sameAad⟩
    cases otherNonce
    cases nonce
    cases sameNonce
    rfl

/-- The ring that a store starts with. -/
def smallRing : KeyRing (List UInt8) where
  keys := [⟨legacyKeyId, utf8Bytes "m"⟩]
  currentKeyId := legacyKeyId
  idsDistinct := List.nodup_singleton _
  idsPlain := List.forall_mem_singleton.mpr legacyKeyId_plain
  legacyRegistered := List.mem_singleton_self _
  currentRegistered := List.mem_singleton_self _

def zeroNonce : Nonce where
  bytes := List.replicate 12 0
  length := rfl

/-- A payload of the legacy key is opened after a rotation. -/
theorem legacy_payload_opened :
    KeyRing.localDev id "m" = .ok smallRing ∧
      (smallRing.run id ([] ++ [.addKey "k2" "n" true])).unseal openCipher
        (v1Text zeroNonce.bytes
          (header (utf8Bytes "m") zeroNonce (utf8Bytes sealedPayloadV1) ++
            utf8Bytes "p@ss")) = .ok "p@ss" :=
  ⟨rfl, ((sealed_never_stranded openCipher_authentic id smallRing).2 []
    [.addKey "k2" "n" true] zeroNonce "p@ss" _ rfl).1⟩

/-! ## Corrupted payloads -/

/-- The nonce and the ciphertext of a payload whose key is in the ring. -/
def KeyRing.Opens (ring : KeyRing Key) (payload : String)
    (nonceHex cipherHex : List Char) : Prop :=
  '.' ∉ nonceHex ∧
    (payload.toList = ['v', '1'] ++ '.' :: (nonceHex ++ '.' :: cipherHex) ∨
      ∃ keyId, '.' ∉ keyId ∧ String.ofList keyId ∈ ring.keys.map DataKey.id ∧
        payload.toList =
          ['v', '2'] ++ '.' ::
            (keyId ++ '.' :: (nonceHex ++ '.' :: cipherHex)))

/--
Of the fields the nonce is misaligned, or it is one and the ciphertext is
misaligned.
-/
def KeyRing.Crashes (ring : KeyRing Key) (payload : String) : Prop :=
  ∃ nonceHex cipherHex, ring.Opens payload nonceHex cipherHex ∧
    (Misaligned nonceHex ∨
      HexPaired nonceHex ∧ nonceHex.length = 24 ∧ Misaligned cipherHex)

section

variable {ring : KeyRing Key} {aead : Aead Key} {payload : String}
variable {nonceHex cipherHex : List Char}

/-- Two decoded fields can crash the decryption, the nonce first. -/
theorem openAead_panics_iff (dataKey : DataKey Key) (aad : String) :
    openAead aead dataKey nonceHex cipherHex aad =
        .error (.hex .notBoundary) ↔
      Misaligned nonceHex ∨
        HexPaired nonceHex ∧ nonceHex.length = 24 ∧ Misaligned cipherHex := by
  rw [openAead, ← hexDecode_panics_iff, ← hexDecode_panics_iff]
  cases nonceRead : hexDecode nonceHex with
  | error failure =>
      have unpaired : ¬ HexPaired nonceHex := by
        intro paired
        rcases hexDecode_of_paired paired with ⟨bytes, decoded, -⟩
        rw [nonceRead] at decoded
        cases decoded
      simp [unpaired]
  | ok nonceBytes =>
      rcases paired_of_hexDecode nonceRead with ⟨paired, length⟩
      dsimp only
      split_ifs with isNonce
      · have whole : nonceHex.length = 24 := by rw [length, isNonce]
        cases cipherRead : hexDecode cipherHex with
        | error failure => simp [paired, whole]
        | ok ciphertext =>
            refine iff_of_false ?_ (by simp)
            dsimp only
            cases aead.decrypt dataKey.key ⟨nonceBytes, isNonce⟩ (utf8Bytes aad)
                ciphertext with
            | none => exact nofun
            | some plain =>
                dsimp only
                cases String.fromUTF8? ⟨plain.toArray⟩ <;> exact nofun
      · refine iff_of_false nofun ?_
        rintro (crashed | ⟨-, whole, -⟩)
        · cases crashed
        · omega

theorem KeyRing.unseal_of_opens (opens : ring.Opens payload nonceHex cipherHex) :
    ∃ dataKey aad, ring.unseal aead payload =
      openAead aead dataKey nonceHex cipherHex aad := by
  rcases opens with ⟨plain, shape | ⟨keyId, plainId, registered, shape⟩⟩
  · rcases KeyRing.exists_keyFor ring.legacyRegistered with ⟨dataKey, found⟩
    refine ⟨dataKey, sealedPayloadV1, ?_⟩
    rw [KeyRing.unseal_v1 plain shape, KeyRing.openWith, found]
  · rcases KeyRing.exists_keyFor registered with ⟨dataKey, found⟩
    refine ⟨dataKey, v2Aad (String.ofList keyId), ?_⟩
    rw [KeyRing.unseal_v2 plainId plain shape, KeyRing.openWith, found]

/-- Only the fields of a payload whose key is in the ring are decoded. -/
theorem KeyRing.exists_opens {error : HexError}
    (failed : ring.unseal aead payload = .error (.hex error)) :
    ∃ nonceHex cipherHex, ring.Opens payload nonceHex cipherHex := by
  have split (text : List Char) : '.' ∉ text ∨
      ∃ front back, text = front ++ '.' :: back ∧ '.' ∉ front := by
    by_cases dotted : '.' ∈ text
    · exact Or.inr (List.eq_append_cons_of_mem dotted)
    · exact Or.inl dotted
  unfold KeyRing.unseal at failed
  dsimp only at failed
  rcases split payload.toList with plain | ⟨version, fields, shape, plain⟩
  · rw [splitn_plain plain, splitn_plain plain] at failed
    split_ifs at failed <;> cases failed
  · have isVersion : firstPart '.' payload.toList = version := by
      rw [shape, firstPart_append plain]
    rw [isVersion, shape, splitn_append plain, splitn_append plain] at failed
    split_ifs at failed with isV1 isV2
    · rcases split fields with plainNonce | ⟨nonceHex, cipherHex, rfl, plainNonce⟩
      · rw [splitn_plain plainNonce] at failed
        cases failed
      · refine ⟨nonceHex, cipherHex, plainNonce, Or.inl ?_⟩
        rw [shape, isV1]
        rfl
    · rcases split fields with plainId | ⟨keyId, others, rfl, plainId⟩
      · rw [splitn_plain plainId] at failed
        cases failed
      · rw [splitn_append plainId] at failed
        rcases split others with
          plainNonce | ⟨nonceHex, cipherHex, rfl, plainNonce⟩
        · rw [splitn_plain plainNonce] at failed
          cases failed
        · rw [splitn_append plainNonce, splitn] at failed
          refine ⟨nonceHex, cipherHex, plainNonce,
            Or.inr ⟨keyId, plainId, ?_, ?_⟩⟩
          · cases found : ring.keyFor (String.ofList keyId) with
            | none =>
                change ring.openWith aead _ _ _ _ = _ at failed
                rw [KeyRing.openWith, found] at failed
                cases failed
            | some dataKey =>
                rcases KeyRing.keyFor_eq_some found with ⟨member, same⟩
                exact List.mem_map.mpr ⟨dataKey, member, same⟩
          · rw [shape, isV2]
            rfl
    · cases failed

theorem KeyRing.unseal_panics_iff :
    ring.unseal aead payload = .error (.hex .notBoundary) ↔
      ring.Crashes payload := by
  constructor
  · intro crashed
    rcases KeyRing.exists_opens crashed with ⟨nonceHex, cipherHex, opens⟩
    rcases @KeyRing.unseal_of_opens _ ring aead _ _ _ opens with
      ⟨dataKey, aad, same⟩
    rw [same, openAead_panics_iff] at crashed
    exact ⟨nonceHex, cipherHex, opens, crashed⟩
  · rintro ⟨nonceHex, cipherHex, opens, misaligned⟩
    rcases @KeyRing.unseal_of_opens _ ring aead _ _ _ opens with
      ⟨dataKey, aad, same⟩
    rw [same, openAead_panics_iff]
    exact misaligned

end

/--
Encoded bytes decode.  A text decodes to bytes that encode to it unless it has
a sign, and it is decoded without a panic unless it is misaligned; so is a
payload with its nonce and its ciphertext.
-/
theorem hexCodec_iff (aead : Aead Key) (ring : KeyRing Key)
    (bytes : List UInt8) (text : List Char) (payload : String) :
    hexDecode (hexEncode bytes) = .ok bytes ∧
      (EncodesBack text ↔ ¬ Signed text) ∧
      (hexDecode text ≠ .error .notBoundary ↔ ¬ Misaligned text) ∧
      (ring.unseal aead payload ≠ .error (.hex .notBoundary) ↔
        ¬ ring.Crashes payload) :=
  ⟨hexDecode_hexEncode bytes, encodesBack_iff text,
    not_congr (hexDecode_panics_iff text), not_congr KeyRing.unseal_panics_iff⟩

/-- `+f` decodes to the byte that is written `0f`. -/
theorem signed_text_decodes :
    ¬ ∀ text, EncodesBack text ∧ hexDecode text ≠ .error .notBoundary := by
  intro exact
  have same := (exact ['+', 'f']).1 [15] (by decide)
  revert same
  decide

end OpenSnow.Auth.Sealing
