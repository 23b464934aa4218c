import OpenSnow.Rust.Slice

/-!
# Sealed payloads

The text form of a secret sealed with AES-256-GCM: fields separated by dots,
with the nonce and the ciphertext in hexadecimal.  A payload of the legacy key
is `v1.nonce.ciphertext`; any other names its key, as in
`v2.key.nonce.ciphertext`.  The tag and the key id are bound as associated
data.  The cipher itself is a parameter.
-/

namespace OpenSnow.Auth.Sealing

open Rust.Text

/-! ## Hexadecimal -/

/-- The two digits of a byte. -/
def hexByte (byte : UInt8) : List Char :=
  [Nat.digitChar (byte.toNat / 16), Nat.digitChar (byte.toNat % 16)]

def hexEncode (bytes : List UInt8) : List Char :=
  bytes.flatMap hexByte

/-- The ways `hex_decode` does not return bytes. -/
inductive HexError where
  /-- "invalid hex length". -/
  | length
  /-- "invalid hex in sealed payload". -/
  | digit
  /-- The slice of two bytes ends inside a character, and the code panics. -/
  | notBoundary
deriving DecidableEq, Repr

def hexDigit (ch : Char) : Option Nat :=
  if '0' ≤ ch ∧ ch ≤ '9' then some (ch.toNat - '0'.toNat)
  else if 'a' ≤ ch ∧ ch ≤ 'f' then some (ch.toNat - 'a'.toNat + 10)
  else if 'A' ≤ ch ∧ ch ≤ 'F' then some (ch.toNat - 'A'.toNat + 10)
  else none

/-- `u8::from_str_radix` of two characters, the first of which may be `+`. -/
def hexPair (high low : Char) : Option UInt8 :=
  match hexDigit high, hexDigit low with
  | some high, some low => some (UInt8.ofNat (16 * high + low))
  | none, some low => if high = '+' then some (UInt8.ofNat low) else none
  | _, none => none

/-- The loop of `hex_decode`, over slices of two bytes. -/
def hexPairs : List Char → Except HexError (List UInt8)
  | [] => .ok []
  | [last] =>
      if last.utf8Size = 2 then .error .digit else .error .notBoundary
  | high :: low :: rest =>
      if high.utf8Size = 1 then
        if low.utf8Size = 1 then
          match hexPair high low with
          | some byte => (hexPairs rest).map (byte :: ·)
          | none => .error .digit
        else .error .notBoundary
      else if high.utf8Size = 2 then .error .digit
      else .error .notBoundary

def hexDecode (input : List Char) : Except HexError (List UInt8) :=
  if (input.map Char.utf8Size).sum % 2 = 0 then hexPairs input
  else .error .length

theorem digitChar_facts (digit : Fin 16) :
    hexDigit (Nat.digitChar digit) = some digit.val ∧
      (Nat.digitChar digit).utf8Size = 1 ∧ Nat.digitChar digit ≠ '.' := by
  revert digit
  decide

/-- The digits of a byte are a byte wide, no dots, and read back. -/
theorem hexByte_facts (byte : UInt8) :
    ∃ high low, hexByte byte = [high, low] ∧ high.utf8Size = 1 ∧
      low.utf8Size = 1 ∧ high ≠ '.' ∧ low ≠ '.' ∧
      hexPair high low = some byte := by
  have small := byte.toNat_lt
  obtain ⟨highRead, highWidth, highDot⟩ :=
    digitChar_facts ⟨byte.toNat / 16, by omega⟩
  obtain ⟨lowRead, lowWidth, lowDot⟩ :=
    digitChar_facts ⟨byte.toNat % 16, by omega⟩
  refine ⟨_, _, rfl, highWidth, lowWidth, highDot, lowDot, ?_⟩
  dsimp only at highRead lowRead
  rw [hexPair, highRead, lowRead]
  have whole : 16 * (byte.toNat / 16) + byte.toNat % 16 = byte.toNat := by
    omega
  simp [whole]

variable (bytes : List UInt8)

theorem dot_not_mem_hexEncode :
    '.' ∉ hexEncode bytes := by
  rw [hexEncode, List.mem_flatMap]
  rintro ⟨byte, -, dot⟩
  obtain ⟨high, low, written, -, -, highDot, lowDot, -⟩ := hexByte_facts byte
  rw [written, List.mem_pair] at dot
  rcases dot with isHigh | isLow
  · exact highDot isHigh.symm
  · exact lowDot isLow.symm

/-- What was encoded decodes, up to what stands behind it. -/
theorem hexPairs_append (rest : List Char) :
    hexPairs (hexEncode bytes ++ rest) =
      (hexPairs rest).map (bytes ++ ·) := by
  induction bytes with
  | nil =>
      cases read : hexPairs rest with
      | error failure => exact read
      | ok others => exact read
  | cons byte bytes ih =>
      obtain ⟨high, low, written, highWidth, lowWidth, -, -, read⟩ :=
        hexByte_facts byte
      rw [hexEncode, List.flatMap_cons, written]
      change hexPairs (high :: low :: (hexEncode bytes ++ rest)) = _
      rw [hexPairs, if_pos highWidth, if_pos lowWidth, read, ih]
      cases hexPairs rest <;> rfl

theorem hexEncode_width :
    ((hexEncode bytes).map Char.utf8Size).sum = 2 * bytes.length := by
  induction bytes with
  | nil => rfl
  | cons byte bytes ih =>
      obtain ⟨high, low, written, highWidth, lowWidth, -⟩ :=
        hexByte_facts byte
      rw [hexEncode, List.flatMap_cons, written, List.map_append,
        List.sum_append, ← hexEncode, ih, List.length_cons]
      simp only [List.map_cons, List.map_nil, List.sum_cons, List.sum_nil,
        highWidth, lowWidth]
      omega

theorem hexDecode_hexEncode :
    hexDecode (hexEncode bytes) = .ok bytes := by
  have read := hexPairs_append bytes []
  rw [List.append_nil] at read
  rw [hexDecode, hexEncode_width, if_pos (Nat.mul_mod_right 2 _), read]
  exact congrArg Except.ok (List.append_nil bytes)

/-- A dot behind encoded bytes does not decode. -/
theorem hexDecode_dot (rest : List Char) (decoded : List UInt8) :
    hexDecode (hexEncode bytes ++ '.' :: rest) ≠ .ok decoded := by
  have dotFails : ∀ plain, hexPairs ('.' :: rest) ≠ .ok plain := by
    intro plain
    cases rest with
    | nil => exact nofun
    | cons low rest =>
        have noPair : hexPair '.' low = none := by
          have noDigit : hexDigit '.' = none := by decide
          rw [hexPair, noDigit]
          cases hexDigit low <;> rfl
        have width : '.'.utf8Size = 1 := by decide
        rw [hexPairs, if_pos width, noPair]
        split_ifs
        · exact nofun
        · exact nofun
  intro succeeded
  rw [hexDecode] at succeeded
  split_ifs at succeeded with even
  rw [hexPairs_append] at succeeded
  cases read : hexPairs ('.' :: rest) with
  | error failure =>
      rw [read] at succeeded
      cases succeeded
  | ok plain => exact dotFails plain read

/-! ## What decodes -/

/-- Pairs that `from_str_radix` reads, of which `+` and a digit is one. -/
def HexPaired : List Char → Prop
  | [] => True
  | [_] => False
  | high :: low :: rest => (hexPair high low).isSome ∧ HexPaired rest

/-- What a text decodes to encodes to the text, up to letter case. -/
def EncodesBack (text : List Char) : Prop :=
  ∀ bytes, hexDecode text = .ok bytes →
    (hexEncode bytes).map Char.toLower = text.map Char.toLower

/-- The text decodes although it has a sign. -/
def Signed (text : List Char) : Prop := HexPaired text ∧ '+' ∈ text

/--
The two bytes at the start of a text end inside a character: the first one has
more than two bytes, or it has one and the second has more.
-/
def CutsCharacter (ch : Char) (rest : List Char) : Prop :=
  2 < ch.utf8Size ∨ ch.utf8Size = 1 ∧ ∃ next ∈ rest.head?, next.utf8Size ≠ 1

/-- Behind pairs that are read, the next two bytes end inside a character. -/
def Misaligned (text : List Char) : Prop :=
  utf8Len text % 2 = 0 ∧
    ∃ front ch rest, text = front ++ ch :: rest ∧ HexPaired front ∧
      CutsCharacter ch rest

/-- What a digit says of its character. -/
def DigitOf (ch : Char) (digit : Nat) : Prop :=
  ch.utf8Size = 1 ∧ ch ≠ '+' ∧ digit < 16 ∧
    (Nat.digitChar digit).toLower = ch.toLower

instance (ch : Char) (digit : Nat) : Decidable (DigitOf ch digit) :=
  inferInstanceAs (Decidable (_ ∧ _))

theorem digitOf_code (code : Fin 128) :
    (hexDigit (Char.ofNat code)).all fun digit =>
      DigitOf (Char.ofNat code) digit := by
  revert code
  decide

theorem digitOf_hexDigit {ch : Char} {digit : Nat}
    (read : hexDigit ch = some digit) : DigitOf ch digit := by
  have small : ch.toNat < 128 := by
    have le {bound : Char} (below : ch ≤ bound) : ch.toNat ≤ bound.toNat := below
    rw [hexDigit] at read
    split_ifs at read with decimal lower upper
    · exact (le decimal.2).trans_lt (by decide)
    · exact (le lower.2).trans_lt (by decide)
    · exact (le upper.2).trans_lt (by decide)
  have facts := digitOf_code ⟨ch.toNat, small⟩
  rw [Char.ofNat_toNat, read] at facts
  simpa using facts

/-- What a pair that is read says of its characters. -/
theorem hexPair_facts {high low : Char} {byte : UInt8}
    (read : hexPair high low = some byte) :
    high.utf8Size = 1 ∧ low.utf8Size = 1 ∧ low ≠ '+' ∧
      ((hexByte byte).map Char.toLower = [high.toLower, low.toLower] ↔
        high ≠ '+') := by
  have small {left right : Nat} (leftSmall : left < 16) (rightSmall : right < 16) :
      hexByte (UInt8.ofNat (16 * left + right)) =
        [Nat.digitChar left, Nat.digitChar right] := by
    have value : (UInt8.ofNat (16 * left + right)).toNat = 16 * left + right := by
      rw [UInt8.toNat_ofNat_of_lt']
      have bound : 16 * left + right < 256 := by omega
      exact bound
    have high : (16 * left + right) / 16 = left := by omega
    have low : (16 * left + right) % 16 = right := by omega
    rw [hexByte, value, high, low]
  rw [hexPair] at read
  cases lowRead : hexDigit low with
  | none =>
      cases highRead : hexDigit high with
      | none =>
          rw [lowRead, highRead] at read
          cases read
      | some left =>
          rw [lowRead, highRead] at read
          cases read
  | some right =>
      rcases digitOf_hexDigit lowRead with ⟨lowWidth, lowPlain, lowSmall, lowLower⟩
      cases highRead : hexDigit high with
      | some left =>
          rw [highRead, lowRead] at read
          rcases digitOf_hexDigit highRead with ⟨width, plain, leftSmall, lower⟩
          refine ⟨width, lowWidth, lowPlain, iff_of_true ?_ plain⟩
          rw [← Option.some.inj read, small leftSmall lowSmall, List.map_cons,
            List.map_singleton, lower, lowLower]
      | none =>
          rw [highRead, lowRead] at read
          dsimp only at read
          split_ifs at read with sign
          have own : hexByte byte = [Nat.digitChar 0, Nat.digitChar right] := by
            rw [← Option.some.inj read, ← small (by decide) lowSmall]
            simp
          subst sign
          refine ⟨by decide, lowWidth, lowPlain, iff_of_false ?_ (by simp)⟩
          rw [own, List.map_cons, List.cons.injEq]
          exact fun same => absurd same.1 (by decide)

variable {text : List Char}

/-- The pairs of a text decode, to the same digits unless there is a sign. -/
theorem hexPairs_of_paired (paired : HexPaired text) :
    utf8Len text % 2 = 0 ∧ ∃ bytes, hexPairs text = .ok bytes ∧
      ((hexEncode bytes).map Char.toLower = text.map Char.toLower ↔
        '+' ∉ text) := by
  induction text using HexPaired.induct with
  | case1 => exact ⟨rfl, [], rfl, by simp [hexEncode]⟩
  | case2 last => exact absurd paired id
  | case3 high low rest ih =>
      rcases Option.isSome_iff_exists.mp paired.1 with ⟨byte, read⟩
      rcases hexPair_facts read with ⟨width, lowWidth, lowPlain, own⟩
      rcases ih paired.2 with ⟨even, bytes, decoded, others⟩
      refine ⟨?_, byte :: bytes, ?_, ?_⟩
      · rw [utf8Len_cons, utf8Len_cons, width, lowWidth]
        omega
      · rw [hexPairs, if_pos width, if_pos lowWidth, read, decoded]
        rfl
      · have sign : '+' ∉ high :: low :: rest ↔ high ≠ '+' ∧ '+' ∉ rest := by
          rw [List.mem_cons, List.mem_cons, not_or, not_or]
          exact ⟨fun none => ⟨Ne.symm none.1, none.2.2⟩,
            fun none => ⟨Ne.symm none.1, Ne.symm lowPlain, none.2⟩⟩
        have pair : (hexByte byte).map Char.toLower =
              [high.toLower, low.toLower] ∧
            (hexEncode bytes).map Char.toLower = rest.map Char.toLower ↔
              ((hexByte byte).map Char.toLower ++
                (hexEncode bytes).map Char.toLower =
                  [high.toLower, low.toLower] ++ rest.map Char.toLower) := by
          constructor
          · rintro ⟨first, second⟩
            rw [first, second]
          · exact fun same => List.append_inj same rfl
        rw [sign, ← own, ← others, pair, hexEncode, List.flatMap_cons,
          List.map_append]
        rfl

theorem hexDecode_of_paired (paired : HexPaired text) :
    ∃ bytes, hexDecode text = .ok bytes ∧
      ((hexEncode bytes).map Char.toLower = text.map Char.toLower ↔
        '+' ∉ text) := by
  rcases hexPairs_of_paired paired with ⟨even, bytes, decoded, same⟩
  refine ⟨bytes, ?_, same⟩
  rw [hexDecode, ← utf8Len, if_pos even, decoded]

/-- Only pairs that are read decode, each to a byte. -/
theorem paired_of_hexPairs {bytes : List UInt8}
    (decoded : hexPairs text = .ok bytes) :
    HexPaired text ∧ text.length = 2 * bytes.length := by
  induction text using HexPaired.induct generalizing bytes with
  | case1 =>
      rw [hexPairs, Except.ok.injEq] at decoded
      rw [← decoded]
      exact ⟨trivial, rfl⟩
  | case2 last =>
      rw [hexPairs] at decoded
      split_ifs at decoded
  | case3 high low rest ih =>
      rw [hexPairs] at decoded
      split_ifs at decoded with width lowWidth
      · cases read : hexPair high low with
        | none =>
            rw [read] at decoded
            cases decoded
        | some byte =>
            rw [read] at decoded
            cases others : hexPairs rest with
            | error failure =>
                rw [others] at decoded
                cases decoded
            | ok more =>
                rw [others] at decoded
                cases decoded
                rcases ih others with ⟨paired, length⟩
                refine ⟨⟨by rw [read]; rfl, paired⟩, ?_⟩
                rw [List.length_cons, List.length_cons, List.length_cons, length]
                omega

theorem paired_of_hexDecode {bytes : List UInt8}
    (decoded : hexDecode text = .ok bytes) :
    HexPaired text ∧ text.length = 2 * bytes.length := by
  rw [hexDecode] at decoded
  split_ifs at decoded
  exact paired_of_hexPairs decoded

/-- What decodes encodes back exactly unless the text has a sign. -/
theorem encodesBack_iff (text : List Char) : EncodesBack text ↔ ¬ Signed text := by
  constructor
  · rintro back ⟨paired, sign⟩
    rcases hexDecode_of_paired paired with ⟨bytes, decoded, same⟩
    exact same.mp (back bytes decoded) sign
  · intro unsigned bytes decoded
    have paired := (paired_of_hexDecode decoded).1
    rcases hexDecode_of_paired paired with ⟨others, again, same⟩
    rw [decoded, Except.ok.injEq] at again
    rw [again]
    exact same.mpr fun sign => unsigned ⟨paired, sign⟩

/-- Such two bytes stand at the start or behind pairs that start the text. -/
theorem exists_cut_iff {high low : Char} {rest : List Char} :
    (∃ front ch more, high :: low :: rest = front ++ ch :: more ∧
        HexPaired front ∧ CutsCharacter ch more) ↔
      CutsCharacter high (low :: rest) ∨ (hexPair high low).isSome ∧
        ∃ front ch more, rest = front ++ ch :: more ∧ HexPaired front ∧
          CutsCharacter ch more := by
  constructor
  · rintro ⟨front, ch, more, shape, paired, cut⟩
    match front with
    | [] =>
        rw [List.nil_append, List.cons.injEq] at shape
        rw [shape.1, shape.2]
        exact Or.inl cut
    | [_] => exact absurd paired id
    | first :: second :: front =>
        rw [List.cons_append, List.cons_append, List.cons.injEq,
          List.cons.injEq] at shape
        rcases shape with ⟨rfl, rfl, behind⟩
        exact Or.inr ⟨paired.1, front, ch, more, behind, paired.2, cut⟩
  · rintro (here | ⟨read, front, ch, more, rfl, paired, cut⟩)
    · exact ⟨[], high, low :: rest, rfl, trivial, here⟩
    · exact ⟨high :: low :: front, ch, more, rfl, ⟨read, paired⟩, cut⟩

/-- Two bytes are sliced off inside a character exactly behind read pairs. -/
theorem hexPairs_panics_iff (even : utf8Len text % 2 = 0) :
    hexPairs text = .error .notBoundary ↔
      ∃ front ch rest, text = front ++ ch :: rest ∧ HexPaired front ∧
        CutsCharacter ch rest := by
  induction text using HexPaired.induct with
  | case1 => exact iff_of_false nofun (by simp)
  | case2 last =>
      have alone : (∃ front ch rest, [last] = front ++ ch :: rest ∧
          HexPaired front ∧ CutsCharacter ch rest) ↔ 2 < last.utf8Size := by
        constructor
        · rintro ⟨front, ch, rest, shape, -, cut⟩
          cases front with
          | cons first front => simp at shape
          | nil =>
              rw [List.nil_append, List.cons.injEq] at shape
              rcases shape with ⟨rfl, rfl⟩
              rcases cut with long | ⟨-, next, isNext, -⟩
              · exact long
              · cases isNext
        · exact fun long => ⟨[], last, [], rfl, trivial, Or.inl long⟩
      rw [alone, hexPairs]
      rw [utf8Len_cons, utf8Len_nil] at even
      have positive := last.utf8Size_pos
      split_ifs with two
      · exact iff_of_false nofun (by omega)
      · exact iff_of_true rfl (by omega)
  | case3 high low rest ih =>
      have positive := high.utf8Size_pos
      rw [exists_cut_iff, hexPairs, CutsCharacter]
      rw [utf8Len_cons, utf8Len_cons] at even
      split_ifs with one lowOne two
      · cases read : hexPair high low with
        | none =>
            refine iff_of_false nofun ?_
            simp [one, lowOne]
        | some byte =>
            have onwards := ih (by omega)
            have kept (result : Except HexError (List UInt8)) :
                result.map (byte :: ·) = .error .notBoundary ↔
                  result = .error .notBoundary := by
              cases result <;> simp [Except.map]
            have here : ¬ (2 < high.utf8Size ∨ high.utf8Size = 1 ∧
                ∃ next ∈ (low :: rest).head?, next.utf8Size ≠ 1) := by
              simp [one, lowOne]
            rw [or_iff_right here, ← onwards, Option.isSome_some]
            dsimp only
            rw [kept]
            exact (and_iff_right rfl).symm
      · exact iff_of_true rfl (Or.inl (Or.inr ⟨one, low, rfl, lowOne⟩))
      · refine iff_of_false nofun ?_
        rintro (cut | ⟨read, -⟩)
        · omega
        · rcases Option.isSome_iff_exists.mp read with ⟨byte, read⟩
          exact one (hexPair_facts read).1
      · exact iff_of_true rfl (Or.inl (Or.inl (by omega)))

theorem hexDecode_panics_iff (text : List Char) :
    hexDecode text = .error .notBoundary ↔ Misaligned text := by
  rw [hexDecode, Misaligned, ← utf8Len]
  by_cases even : utf8Len text % 2 = 0
  · rw [if_pos even, hexPairs_panics_iff even, and_iff_right even]
  · rw [if_neg even]
    exact iff_of_false (fun same => by cases same) fun both => even both.1

/-! ## The cipher -/

/-- A nonce of AES-GCM: twelve bytes. -/
structure Nonce where
  bytes : List UInt8
  length : bytes.length = 12
deriving DecidableEq

/-- A cipher with associated data, which both operations can refuse. -/
structure Aead (Key : Type) where
  encrypt : Key → Nonce → (aad message : List UInt8) → Option (List UInt8)
  decrypt : Key → Nonce → (aad ciphertext : List UInt8) → Option (List UInt8)

/--
The cipher decrypts exactly what was encrypted under the same key, nonce and
associated data.
-/
structure Aead.Authentic {Key : Type} (aead : Aead Key) : Prop where
  opens : ∀ {key nonce aad message ciphertext},
    aead.encrypt key nonce aad message = some ciphertext →
      aead.decrypt key nonce aad ciphertext = some message
  rejects : ∀ {key nonce aad message ciphertext},
    aead.encrypt key nonce aad message = some ciphertext →
      ∀ {otherKey otherNonce otherAad opened},
        aead.decrypt otherKey otherNonce otherAad ciphertext = some opened →
          otherKey = key ∧ otherNonce = nonce ∧ otherAad = aad

/-! ## The formats -/

def sealedPayloadV1 : String := "v1"

def sealedPayloadV2 : String := "v2"

/-- The key id of the key that opens `v1` payloads. -/
def legacyKeyId : String := "v1"

/-- The associated data of a payload that names its key. -/
def v2Aad (keyId : String) : String :=
  sealedPayloadV2 ++ "." ++ keyId

/-- The associated data of a payload under a key. -/
def aadFor (keyId : String) : String :=
  if keyId = legacyKeyId then sealedPayloadV1 else v2Aad keyId

/-- The text of a payload under the legacy key. -/
def v1Text (nonce ciphertext : List UInt8) : String :=
  sealedPayloadV1 ++ "." ++ String.ofList (hexEncode nonce) ++ "." ++
    String.ofList (hexEncode ciphertext)

/-- The text of a payload under a named key. -/
def v2Text (keyId : String) (nonce ciphertext : List UInt8) : String :=
  sealedPayloadV2 ++ "." ++ keyId ++ "." ++
    String.ofList (hexEncode nonce) ++ "." ++
    String.ofList (hexEncode ciphertext)

theorem toList_v1Text (nonce ciphertext : List UInt8) :
    (v1Text nonce ciphertext).toList =
      ['v', '1'] ++ '.' ::
        (hexEncode nonce ++ '.' :: hexEncode ciphertext) := by
  simp [v1Text, sealedPayloadV1]

theorem toList_v2Text (keyId : String) (nonce ciphertext : List UInt8) :
    (v2Text keyId nonce ciphertext).toList =
      ['v', '2'] ++ '.' :: (keyId.toList ++ '.' ::
        (hexEncode nonce ++ '.' :: hexEncode ciphertext)) := by
  simp [v2Text, sealedPayloadV2]

theorem v2Aad_inj {keyId other : String} :
    v2Aad keyId = v2Aad other ↔ keyId = other :=
  String.append_right_inj _

theorem v2Aad_ne_v1 (keyId : String) : v2Aad keyId ≠ sealedPayloadV1 := by
  intro same
  have chars := congrArg String.toList same
  simp [v2Aad, sealedPayloadV1, sealedPayloadV2] at chars

theorem fromUTF8_utf8Bytes (text : String) :
    String.fromUTF8? ⟨(utf8Bytes text).toArray⟩ = some text := by
  have whole : (⟨(utf8Bytes text).toArray⟩ : ByteArray) = text.toByteArray := by
    apply ByteArray.ext
    exact Array.toArray_toList
  rw [whole, String.fromUTF8?, dif_pos text.isValidUTF8]
  rfl

end OpenSnow.Auth.Sealing
