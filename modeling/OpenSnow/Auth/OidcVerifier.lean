import Mathlib.Data.List.Destutter
import OpenSnow.Auth.ProductTokens
import OpenSnow.Foundation.Columns
import OpenSnow.Foundation.Effect

/-!
# External identity providers

A verifier accepts tokens that an external identity provider has issued: it
takes a key from the JWKS of the provider, has the signature checked with it,
and maps the claims of the token to those of a product token.

What the JWT library does with a token and with the components of a key is a
parameter, and so is what a request for the JWKS gives.
-/

namespace OpenSnow.Auth.OidcVerifier

open Auth.ProductTokens (Algorithm Claims Header)
open Foundation
open Rust.Integer
open Rust.Json
open Rust.Text

/-! ## Keys -/

/-- A JSON Web Key, as far as it is read. -/
structure Jwk where
  kid : Option String
  kty : String
  keyUse : Option String
  n : Option String
  e : Option String
  x : Option String
  y : Option String
deriving DecidableEq, Repr

/-- `Validation` of the JWT library; without audiences there is no check. -/
structure Validation where
  algorithm : Algorithm
  issuers : List String
  audiences : Option (List String)
deriving DecidableEq, Repr

/-- What the JWT library does. -/
structure JwtLibrary (Token Key : Type) where
  decodeHeader : Token → Option Header
  fromEcComponents : String → String → Option Key
  fromRsaComponents : String → String → Option Key
  decode : Token → Key → Validation → Option Value

def isEc (alg : Algorithm) : Bool := alg == .es256 || alg == .es384

def wantKty (alg : Algorithm) : String := if isEc alg then "EC" else "RSA"

/-- The first key of the id, or else the first signing key of the family. -/
def selectKey (keys : List Jwk) (kid : Option String) (alg : Algorithm) :
    Option Jwk :=
  (kid.bind fun kid => keys.find? fun key => key.kid = some kid).or
    (keys.find? fun key => key.kty = wantKty alg && key.keyUse ≠ some "enc")

/-- The component, or the failure that it is missing. -/
def component (family name : String) (value : Option String) :
    Except String String :=
  match value with
  | some value => .ok value
  | none => .error (family ++ " JWK missing '" ++ name ++ "'")

/-- The result, or the context that its failure is told with. -/
def withContext {Value : Type} (context : String) (result : Option Value) :
    Except String Value :=
  match result with
  | some value => .ok value
  | none => .error context

variable {Token Key : Type}

def decodingKeyFor (library : JwtLibrary Token Key) (alg : Algorithm)
    (jwk : Jwk) : Except String Key := do
  if isEc alg then
    let x ← component "EC" "x" jwk.x
    let y ← component "EC" "y" jwk.y
    withContext "invalid EC JWK" (library.fromEcComponents x y)
  else
    let n ← component "RSA" "n" jwk.n
    let e ← component "RSA" "e" jwk.e
    withContext "invalid RSA JWK" (library.fromRsaComponents n e)

/-! ## Claims -/

/-- `Value::as_i64`: an integer without a fraction or an exponent. -/
def asI64 : Value → Option Int
  | .number text =>
      let value : Option Int :=
        match text.toList with
        | '-' :: digits =>
            ((parseDigits digits).filter fun value => value ≠ 0).map
              fun value => -value
        | digits => (parseDigits digits).map fun value => value
      value.filter fun value => FitsI64 value
  | _ => none

/-- `str::split_whitespace`. -/
def splitWhitespace (text : String) : List String :=
  (fields isWhitespace text.toList).map String.ofList

/-- `Vec::sort` and then `Vec::dedup`. -/
def sortDedup (words : List String) : List String :=
  (orderBy id words).destutter (· ≠ ·)

def stringOrArray : Option Value → List String
  | some (.string text) => splitWhitespace text
  | some (.array values) => values.filterMap Value.asStr
  | _ => []

def extractScopes (raw : Value) : List String :=
  sortDedup
    ((((raw.get "scope").bind Value.asStr).toList.flatMap splitWhitespace) ++
      stringOrArray (raw.get "scp") ++ stringOrArray (raw.get "scopes"))

/-- The first item of an array, if it is a text, or the claim that is one. -/
def firstRole (claim : Option Value) : Option String :=
  (((claim.bind Value.asArray).bind List.head?).bind Value.asStr).or
    (claim.bind Value.asStr)

def extractRole (raw : Value) : Option String :=
  (((raw.get "role").bind Value.asStr).or (firstRole (raw.get "roles"))).or
    (firstRole (raw.get "groups"))

/-- The text of the first claim that is there, if that is a text. -/
def firstClaim (raw : Value) (keys : List String) : Option String :=
  (keys.findSome? raw.get).bind Value.asStr

def mapClaims (raw : Value) (issuer defaultRole : String) : Claims where
  userId := 0
  username :=
    (firstClaim raw ["preferred_username", "email", "sub"]).getD "external"
  role := (extractRole raw).getD defaultRole
  tenantId := (firstClaim raw ["tenant_id", "tid"]).getD "default"
  scopes := extractScopes raw
  sessionId := none
  authMethod := some "external_idp"
  issuer := some issuer
  audience := (raw.get "aud").bind Value.asStr
  iat := ((raw.get "iat").bind asI64).getD 0
  exp := ((raw.get "exp").bind asI64).getD 0

/-! ## Verification -/

structure ExternalIdpVerifier where
  issuer : String
  audiences : List String
  defaultRole : String
deriving DecidableEq, Repr

def defaultAllowedAlgs : List Algorithm := [.rs256, .rs384, .rs512, .es256]

/-- `Algorithm` as `Debug` shows it. -/
def algorithmText : Algorithm → String
  | .hs256 => "HS256"
  | .hs384 => "HS384"
  | .hs512 => "HS512"
  | .es256 => "ES256"
  | .es384 => "ES384"
  | .rs256 => "RS256"
  | .rs384 => "RS384"
  | .rs512 => "RS512"
  | .ps256 => "PS256"
  | .ps384 => "PS384"
  | .ps512 => "PS512"
  | .edDsa => "EdDSA"

/-- An optional text as `Debug` shows it. -/
def optionText : Option String → String
  | none => "None"
  | some text => "Some(" ++ debugText text ++ ")"

/-- The key that the signature is checked with, and what it is made from. -/
def signatureKey (library : JwtLibrary Token Key) (keys : List Jwk)
    (header : Header) : Except String (Jwk × Key) := do
  let jwk ←
    withContext ("no matching JWK for kid=" ++ optionText header.kid)
      (selectKey keys header.kid header.alg)
  let key ← decodingKeyFor library header.alg jwk
  .ok (jwk, key)

namespace ExternalIdpVerifier

def validation (verifier : ExternalIdpVerifier) (alg : Algorithm) :
    Validation where
  algorithm := alg
  issuers := [verifier.issuer]
  audiences :=
    if verifier.audiences.isEmpty then none else some verifier.audiences

/-- The part of `verify` that gives the payload of the token. -/
def payload (library : JwtLibrary Token Key) (jwks : Except String (List Jwk))
    (verifier : ExternalIdpVerifier) (token : Token) :
    Except String Value := do
  let header ←
    withContext "failed to decode token header" (library.decodeHeader token)
  if header.alg ∉ defaultAllowedAlgs then
    .error
      ("token algorithm " ++ algorithmText header.alg ++ " is not permitted")
  else
    let keys ← jwks
    let (_, key) ← signatureKey library keys header
    withContext "external token verification failed"
      (library.decode token key (verifier.validation header.alg))

def verify (library : JwtLibrary Token Key) (jwks : Except String (List Jwk))
    (verifier : ExternalIdpVerifier) (token : Token) :
    Except String Claims := do
  let payload ← verifier.payload library jwks token
  .ok (mapClaims payload verifier.issuer verifier.defaultRole)

end ExternalIdpVerifier

/-! ## What is promised -/

/-- The key type of an algorithm. -/
def family : Algorithm → String
  | .hs256 | .hs384 | .hs512 => "oct"
  | .es256 | .es384 => "EC"
  | .rs256 | .rs384 | .rs512 | .ps256 | .ps384 | .ps512 => "RSA"
  | .edDsa => "OKP"

/-- A key for signatures of the algorithm. -/
def IsUsable (alg : Algorithm) (jwk : Jwk) : Prop :=
  jwk.kty = family alg ∧ jwk.keyUse ≠ some "enc"

/-- The key for a header is usable, and has the id of the header. -/
structure SelectsKey (library : JwtLibrary Token Key) (keys : List Jwk)
    (header : Header) : Prop where
  usable : ∀ jwk key, signatureKey library keys header = .ok (jwk, key) →
    IsUsable header.alg jwk
  named : ∀ kid, header.kid = some kid →
    (∃ jwk ∈ keys, jwk.kid = some kid) →
      ∀ jwk, selectKey keys header.kid header.alg = some jwk →
        jwk.kid = some kid ∧
          ((∃ other ∈ keys,
              other.kid = some kid ∧ IsUsable header.alg other) →
            IsUsable header.alg jwk)

/-- The text of the first claim that is a text. -/
def firstText (raw : Value) (keys : List String) : Option String :=
  keys.findSome? fun key => (raw.get key).bind Value.asStr

/-- A word of a claim that is a text. -/
def IsWordOf (claim : Option Value) (word : String) : Prop :=
  ∃ text, claim = some (.string text) ∧ word ∈ splitWhitespace text

/-- A text in a claim that is an array. -/
def IsListedIn (claim : Option Value) (word : String) : Prop :=
  ∃ values, claim = some (.array values) ∧ .string word ∈ values

structure MapsClaims (raw : Value) (claims : Claims) : Prop where
  noSession : claims.sessionId = none
  username : ∀ name,
    firstText raw ["preferred_username", "email", "sub"] = some name →
      claims.username = name
  nodup : claims.scopes.Nodup
  scopes : ∀ word, word ∈ claims.scopes ↔
    IsWordOf (raw.get "scope") word ∨ IsWordOf (raw.get "scp") word ∨
      IsListedIn (raw.get "scp") word ∨ IsListedIn (raw.get "scopes") word

/-- A token is checked with the right key and mapped to the right claims. -/
structure Verifies (library : JwtLibrary Token Key)
    (jwks : Except String (List Jwk)) (verifier : ExternalIdpVerifier)
    (token : Token) : Prop where
  key : ∀ header keys, library.decodeHeader token = some header →
    header.alg ∈ defaultAllowedAlgs → jwks = .ok keys →
      SelectsKey library keys header
  claims : ∀ payload, verifier.payload library jwks token = .ok payload →
    ∀ claims, verifier.verify library jwks token = .ok claims →
      MapsClaims payload claims

/-! ## When it is kept -/

/--
The first key with the id of the header is usable; or none with the id is, and
the first one has no components to check a signature with.
-/
def UsableLeads (library : JwtLibrary Token Key) (keys : List Jwk)
    (header : Header) : Prop :=
  ∀ kid front first back, header.kid = some kid →
    keys = front ++ first :: back → first.kid = some kid →
      (∀ other ∈ front, other.kid ≠ some kid) →
        IsUsable header.alg first ∨
          (∀ other ∈ keys,
              other.kid = some kid → ¬ IsUsable header.alg other) ∧
            ∀ key, decodingKeyFor library header.alg first ≠ .ok key

/-- A claim is the text, and those before it are not there. -/
def LeadsAs (raw : Value) (keys : List String) (text : String) : Prop :=
  ∃ front key back, keys = front ++ key :: back ∧
    raw.get key = some (.string text) ∧ ∀ other ∈ front, raw.get other = none

/--
No claim of another kind stands before the text that names the user, and a
word of a text `scopes` is among the other scopes, too.
-/
structure ReadsAlike (raw : Value) : Prop where
  name : ∀ name,
    firstText raw ["preferred_username", "email", "sub"] = some name →
      LeadsAs raw ["preferred_username", "email", "sub"] name ∨
        name = "external"
  scopes : ∀ word, IsWordOf (raw.get "scopes") word →
    IsWordOf (raw.get "scope") word ∨ IsWordOf (raw.get "scp") word ∨
      IsListedIn (raw.get "scp") word

/-! ## Keys -/

theorem wantKty_eq_family {alg : Algorithm}
    (allowed : alg ∈ defaultAllowedAlgs) : wantKty alg = family alg := by
  simp only [defaultAllowedAlgs, List.mem_cons, List.not_mem_nil,
    or_false] at allowed
  rcases allowed with rfl | rfl | rfl | rfl <;> rfl

theorem withContext_ok_iff {Result : Type} {context : String}
    {result : Option Result} {value : Result} :
    withContext context result = .ok value ↔ result = some value := by
  cases result <;> simp [withContext]

theorem asStr_eq_some {value : Value} {text : String} :
    value.asStr = some text ↔ value = .string text := by
  cases value <;> simp [Value.asStr]

section

variable {library : JwtLibrary Token Key} {keys : List Jwk} {header : Header}

theorem signatureKey_ok_iff {jwk : Jwk} {key : Key} :
    signatureKey library keys header = .ok (jwk, key) ↔
      selectKey keys header.kid header.alg = some jwk ∧
        decodingKeyFor library header.alg jwk = .ok key := by
  constructor
  · intro ok
    obtain ⟨selected, isSelected, ok⟩ := except_bind_ok ok
    obtain ⟨made, isMade, ok⟩ := except_bind_ok ok
    cases ok
    exact ⟨withContext_ok_iff.mp isSelected, isMade⟩
  · rintro ⟨isSelected, isMade⟩
    rw [signatureKey, isSelected, withContext]
    simp only [bind, Except.bind, isMade]

/-- The first key with an id. -/
def IsFirstNamed (keys : List Jwk) (kid : String) (first : Jwk) : Prop :=
  keys.find? (fun key => key.kid = some kid) = some first

theorem isFirstNamed_iff {kid : String} {first : Jwk} :
    IsFirstNamed keys kid first ↔
      first.kid = some kid ∧ ∃ front back, keys = front ++ first :: back ∧
        ∀ other ∈ front, other.kid ≠ some kid := by
  rw [IsFirstNamed, List.find?_eq_some_iff_append]
  simp

theorem selectKey_of_isFirstNamed {kid : String} {first : Jwk}
    (isKid : header.kid = some kid) (isFirst : IsFirstNamed keys kid first) :
    selectKey keys header.kid header.alg = some first := by
  rw [selectKey, isKid, Option.bind_some, isFirst, Option.some_or]

/-- Without a key of the id the selected key is usable. -/
theorem usable_of_selectKey (allowed : header.alg ∈ defaultAllowedAlgs)
    {jwk : Jwk} (selected : selectKey keys header.kid header.alg = some jwk)
    (unnamed : ∀ kid, header.kid = some kid →
      ∀ first, ¬ IsFirstNamed keys kid first) :
    IsUsable header.alg jwk := by
  have absent : (header.kid.bind fun kid =>
      keys.find? fun key => key.kid = some kid) = none := by
    cases isKid : header.kid with
    | none => rfl
    | some kid =>
        rw [Option.bind_some, Option.eq_none_iff_forall_ne_some]
        exact unnamed kid isKid
  rw [selectKey, absent, Option.none_or] at selected
  have signing := List.find?_some selected
  rw [Bool.and_eq_true, decide_eq_true_iff, decide_eq_true_iff,
    wantKty_eq_family allowed] at signing
  exact signing

/-- The usable key that leads, in terms of the first key with the id. -/
theorem usableLeads_iff :
    UsableLeads library keys header ↔
      ∀ kid first, header.kid = some kid → IsFirstNamed keys kid first →
        IsUsable header.alg first ∨
          (∀ other ∈ keys,
              other.kid = some kid → ¬ IsUsable header.alg other) ∧
            ∀ key, decodingKeyFor library header.alg first ≠ .ok key := by
  constructor
  · intro leads kid first isKid isFirst
    obtain ⟨isNamed, front, back, whole, before⟩ :=
      isFirstNamed_iff.mp isFirst
    exact leads kid front first back isKid whole isNamed before
  · intro leads kid front first back isKid whole isNamed before
    exact leads kid first isKid
      (isFirstNamed_iff.mpr ⟨isNamed, front, back, whole, before⟩)

theorem selectsKey_iff (allowed : header.alg ∈ defaultAllowedAlgs) :
    SelectsKey library keys header ↔ UsableLeads library keys header := by
  rw [usableLeads_iff]
  constructor
  · intro selects kid first isKid isFirst
    have selected := selectKey_of_isFirstNamed isKid isFirst
    have isNamed := (isFirstNamed_iff.mp isFirst).1
    by_cases usable : IsUsable header.alg first
    · exact Or.inl usable
    · refine Or.inr ⟨fun other member named otherUsable => usable ?_,
        fun key made => usable ?_⟩
      · exact (selects.named kid isKid ⟨other, member, named⟩ first
          selected).2 ⟨other, member, named, otherUsable⟩
      · exact selects.usable first key
          (signatureKey_ok_iff.mpr ⟨selected, made⟩)
  · intro leads
    refine ⟨?_, ?_⟩
    · intro jwk key ok
      obtain ⟨selected, made⟩ := signatureKey_ok_iff.mp ok
      by_cases named : ∃ kid first, header.kid = some kid ∧
          IsFirstNamed keys kid first
      · obtain ⟨kid, first, isKid, isFirst⟩ := named
        cases selected.symm.trans (selectKey_of_isFirstNamed isKid isFirst)
        rcases leads kid jwk isKid isFirst with usable | ⟨-, unmade⟩
        · exact usable
        · exact absurd made (unmade key)
      · exact usable_of_selectKey allowed selected
          fun kid isKid first isFirst => named ⟨kid, first, isKid, isFirst⟩
    · rintro kid isKid ⟨held, heldMember, heldNamed⟩ jwk selected
      have someNamed : (keys.find? fun key => key.kid = some kid).isSome :=
        List.find?_isSome.mpr ⟨held, heldMember, by simpa using heldNamed⟩
      obtain ⟨first, isFirst⟩ := Option.isSome_iff_exists.mp someNamed
      cases selected.symm.trans (selectKey_of_isFirstNamed isKid isFirst)
      refine ⟨(isFirstNamed_iff.mp isFirst).1, ?_⟩
      rintro ⟨other, member, named, otherUsable⟩
      rcases leads kid jwk isKid isFirst with usable | ⟨unusable, -⟩
      · exact usable
      · exact absurd otherUsable (unusable other member named)

end

/-! ## Scopes -/

theorem sortDedup_eq (words : List String) :
    sortDedup words = (orderBy id words).dedup := by
  have sorted : (orderBy id words).Pairwise (· ≤ ·) :=
    pairwise_orderBy id words
  exact sorted.destutter_eq_dedup

theorem nodup_sortDedup (words : List String) : (sortDedup words).Nodup := by
  rw [sortDedup_eq]
  exact List.nodup_dedup _

theorem mem_sortDedup {words : List String} {word : String} :
    word ∈ sortDedup words ↔ word ∈ words := by
  rw [sortDedup_eq, List.mem_dedup, mem_orderBy]

theorem mem_stringOrArray {claim : Option Value} {word : String} :
    word ∈ stringOrArray claim ↔ IsWordOf claim word ∨ IsListedIn claim word := by
  match claim with
  | some (.string text) => simp [stringOrArray, IsWordOf, IsListedIn]
  | some (.array values) =>
      simp [stringOrArray, IsWordOf, IsListedIn, asStr_eq_some]
  | none => simp [stringOrArray, IsWordOf, IsListedIn]
  | some .null => simp [stringOrArray, IsWordOf, IsListedIn]
  | some (.bool _) => simp [stringOrArray, IsWordOf, IsListedIn]
  | some (.number _) => simp [stringOrArray, IsWordOf, IsListedIn]
  | some (.object _) => simp [stringOrArray, IsWordOf, IsListedIn]

theorem mem_extractScopes {raw : Value} {word : String} :
    word ∈ extractScopes raw ↔
      IsWordOf (raw.get "scope") word ∨
        (IsWordOf (raw.get "scp") word ∨ IsListedIn (raw.get "scp") word) ∨
          IsWordOf (raw.get "scopes") word ∨
            IsListedIn (raw.get "scopes") word := by
  have scope : word ∈ ((raw.get "scope").bind Value.asStr).toList.flatMap
      splitWhitespace ↔ IsWordOf (raw.get "scope") word := by
    simp [IsWordOf, Option.bind_eq_some_iff, asStr_eq_some]
  rw [extractScopes, mem_sortDedup, List.mem_append, List.mem_append,
    mem_stringOrArray, mem_stringOrArray, scope, or_assoc]

/-- A claim is a text or an array. -/
theorem not_isListedIn_of_isWordOf {claim : Option Value} {word other : String}
    (isWord : IsWordOf claim word) : ¬ IsListedIn claim other := by
  rintro ⟨values, isArray, -⟩
  obtain ⟨text, isText, -⟩ := isWord
  cases isText.symm.trans isArray

/-! ## Names -/

section

variable {raw : Value} {keys : List String} {text : String}

theorem firstClaim_eq_some :
    firstClaim raw keys = some text ↔ LeadsAs raw keys text := by
  rw [firstClaim, Option.bind_eq_some_iff]
  constructor
  · rintro ⟨value, found, isText⟩
    obtain ⟨front, key, back, whole, isValue, absent⟩ :=
      List.findSome?_eq_some_iff.mp found
    rw [asStr_eq_some.mp isText] at isValue
    exact ⟨front, key, back, whole, isValue, absent⟩
  · rintro ⟨front, key, back, whole, isValue, absent⟩
    exact ⟨_, List.findSome?_eq_some_iff.mpr
      ⟨front, key, back, whole, isValue, absent⟩, rfl⟩

/-- The text of the first claim is the first text. -/
theorem LeadsAs.firstText (leads : LeadsAs raw keys text) :
    firstText raw keys = some text := by
  obtain ⟨front, key, back, whole, isValue, absent⟩ := leads
  refine List.findSome?_eq_some_iff.mpr
    ⟨front, key, back, whole, by rw [isValue]; rfl, ?_⟩
  intro other member
  rw [absent other member]
  rfl

theorem username_eq_iff
    (isFirst : firstText raw keys = some text) :
    (firstClaim raw keys).getD "external" = text ↔
      LeadsAs raw keys text ∨ text = "external" := by
  rw [← firstClaim_eq_some]
  cases found : firstClaim raw keys with
  | none => simp [eq_comm]
  | some other =>
      have same := (firstClaim_eq_some.mp found).firstText
      obtain rfl := Option.some.inj (same.symm.trans isFirst)
      simp

end

theorem mapsClaims_iff {raw : Value} {issuer defaultRole : String} :
    MapsClaims raw (mapClaims raw issuer defaultRole) ↔ ReadsAlike raw := by
  constructor
  · intro maps
    refine ⟨fun name isFirst =>
      (username_eq_iff isFirst).mp (maps.username name isFirst), ?_⟩
    intro word isWord
    have among := (maps.scopes word).mp
      (mem_extractScopes.mpr (Or.inr (Or.inr (Or.inl isWord))))
    rcases among with scope | scp | listed | listed
    · exact Or.inl scope
    · exact Or.inr (Or.inl scp)
    · exact Or.inr (Or.inr listed)
    · exact absurd listed (not_isListedIn_of_isWordOf isWord)
  · intro reads
    refine ⟨rfl, fun name isFirst =>
      (username_eq_iff isFirst).mpr (reads.name name isFirst),
      nodup_sortDedup _, fun word => mem_extractScopes.trans ?_⟩
    have alike := reads.scopes word
    tauto

/--
A token is verified as it is to be exactly when the first key with the id of
its header is one for its signature, and the claims of its payload read alike.
-/
theorem verifies_iff (library : JwtLibrary Token Key)
    (jwks : Except String (List Jwk)) (verifier : ExternalIdpVerifier)
    (token : Token) :
    Verifies library jwks verifier token ↔
      (∀ header keys, library.decodeHeader token = some header →
        header.alg ∈ defaultAllowedAlgs → jwks = .ok keys →
          UsableLeads library keys header) ∧
        ∀ payload, verifier.payload library jwks token = .ok payload →
          ReadsAlike payload := by
  constructor
  · intro verifies
    refine ⟨?_, ?_⟩
    · intro header keys isHeader allowed fetched
      exact (selectsKey_iff allowed).mp
        (verifies.key header keys isHeader allowed fetched)
    · intro payload isPayload
      have verified : verifier.verify library jwks token =
          .ok (mapClaims payload verifier.issuer verifier.defaultRole) := by
        rw [ExternalIdpVerifier.verify, isPayload]
        rfl
      exact mapsClaims_iff.mp (verifies.claims payload isPayload _ verified)
  · rintro ⟨leads, reads⟩
    refine ⟨?_, ?_⟩
    · intro header keys isHeader allowed fetched
      exact (selectsKey_iff allowed).mpr
        (leads header keys isHeader allowed fetched)
    · intro payload isPayload claims verified
      rw [ExternalIdpVerifier.verify, isPayload] at verified
      cases verified
      exact mapsClaims_iff.mpr (reads payload isPayload)

/-! ## Tokens that are verified otherwise -/

/-- A token that says what it is signed with. -/
structure SignedToken where
  header : Header
  payload : Value
  signedWith : String × String

/-- A library that compares the components of a key. -/
def comparing : JwtLibrary SignedToken (String × String) where
  decodeHeader token := some token.header
  fromEcComponents x y := some (x, y)
  fromRsaComponents n e := some (n, e)
  decode token key validation :=
    if token.signedWith = key ∧
        ((token.payload.get "iss").bind Value.asStr).any
          (· ∈ validation.issuers) then
      some token.payload
    else none

def acmeVerifier : ExternalIdpVerifier :=
  ⟨"https://acme.okta.test", [], "PUBLIC"⟩

def rsaKey (keyUse modulus : String) : Jwk :=
  ⟨some "k", "RSA", some keyUse, some modulus, some "AQAB", none, none⟩

def signedToken (fields : Fields) (modulus : String) : SignedToken where
  header := ⟨.rs256, some "k"⟩
  payload := .object fields
  signedWith := (modulus, "AQAB")

theorem verifies_iff_signingKey :
    Verifies comparing (.ok [rsaKey "sig" "m2"]) acmeVerifier
      (signedToken
        [("iss", .string "https://acme.okta.test"),
          ("sub", .string "u1")] "m2") := by
  refine (verifies_iff _ _ _ _).mpr ⟨?_, ?_⟩
  · rintro _ _ ⟨⟩ - ⟨⟩
    rw [usableLeads_iff]
    rintro _ _ ⟨⟩ ⟨⟩
    exact Or.inl ⟨rfl, by decide⟩
  · rintro _ ⟨⟩
    refine ⟨?_, ?_⟩
    · rintro name ⟨⟩
      exact Or.inl
        ⟨["preferred_username", "email"], "sub", [], rfl, rfl, by decide⟩
    · rintro word ⟨text, ⟨⟩, -⟩

/--
An encryption key of the id is used in front of a signing key, and a user name
that is a number hides the e-mail.
-/
theorem verifies_otherwise :
    ¬ Verifies comparing (.ok [rsaKey "enc" "m1", rsaKey "sig" "m2"])
        acmeVerifier
        (signedToken [("iss", .string "https://acme.okta.test")] "m1") ∧
      ¬ Verifies comparing (.ok [rsaKey "sig" "m2"]) acmeVerifier
        (signedToken
          [("email", .string "ann@acme.com"),
            ("iss", .string "https://acme.okta.test"),
            ("preferred_username", .number "7")] "m2") := by
  constructor
  · intro verifies
    have selects := verifies.key _ _ rfl (by decide) rfl
    exact (selects.usable (rsaKey "enc" "m1") ("m1", "AQAB") rfl).2 rfl
  · intro verifies
    have maps := verifies.claims _ rfl _ rfl
    exact absurd (maps.username "ann@acme.com" rfl) (by decide)

end OpenSnow.Auth.OidcVerifier
