import Mathlib.Data.List.Basic
import OpenSnow.Rust.Integer
import OpenSnow.Rust.Json
import OpenSnow.Rust.Text

/-!
# Product tokens

A manager signs and validates the JWTs of OpenSnow.  In enterprise mode it has
a list of keys with ids; one of them is active and signs, the others only
verify, and some ids are revoked.

A token is what its three parts say: a header, claims, and the key that it is
signed with.  A signature is valid under that key alone.
-/

namespace OpenSnow.Auth.ProductTokens

open Rust.Integer
open Rust.Json
open Rust.Text

/-! ## Keys -/

/-- The algorithms of `jsonwebtoken`. -/
inductive Algorithm where
  | hs256
  | hs384
  | hs512
  | es256
  | es384
  | rs256
  | rs384
  | rs512
  | ps256
  | ps384
  | ps512
  | edDsa
deriving DecidableEq, Repr

/-- Public JWK metadata published for product-token verification. -/
structure JsonWebKey where
  kty : String
  keyUse : String
  alg : String
  kid : String
  n : Option String
  e : Option String
  crv : Option String
  x : Option String
  y : Option String
deriving DecidableEq, Repr

namespace JsonWebKey

def rsa (kid n e : String) : JsonWebKey :=
  ⟨"RSA", "sig", "RS256", kid, some n, some e, none, none, none⟩

def ecP256 (kid x y : String) : JsonWebKey :=
  ⟨"EC", "sig", "ES256", kid, none, none, some "P-256", some x, some y⟩

/-- The parameters of a key that are there; the others are skipped. -/
def present (parameters : List (String × Option String)) : Fields :=
  parameters.filterMap fun parameter =>
    parameter.2.map fun text => (parameter.1, .string text)

def toValue (jwk : JsonWebKey) : Value :=
  .record
    ([("kty", .string jwk.kty), ("use", .string jwk.keyUse),
        ("alg", .string jwk.alg), ("kid", .string jwk.kid)] ++
      present
        [("n", jwk.n), ("e", jwk.e), ("crv", jwk.crv), ("x", jwk.x),
          ("y", jwk.y)])

end JsonWebKey

variable {Key : Type}

/-- The algorithms of enterprise keys. -/
def Algorithm.IsEnterprise (algorithm : Algorithm) : Prop :=
  algorithm = .rs256 ∨ algorithm = .es256

instance (algorithm : Algorithm) : Decidable algorithm.IsEnterprise :=
  inferInstanceAs (Decidable (_ ∨ _))

/--
A key of an enterprise deployment.  What it signs with, if it can, and what it
verifies with are the two halves of one key.
-/
structure EnterpriseJwtKey (Key : Type) where
  kid : String
  algorithm : Algorithm
  encodingKey : Option Key
  decodingKey : Key
  jwk : Option JsonWebKey
  enterprise : algorithm.IsEnterprise
  paired : ∀ key ∈ encodingKey, key = decodingKey

namespace EnterpriseJwtKey

/-- `from_pem`, for the texts of the two halves of a key. -/
def fromPem (kid : String) (algorithm : Algorithm) (key : Key)
    (jwk : Option JsonWebKey) : Except String (EnterpriseJwtKey Key) :=
  if enterprise : algorithm.IsEnterprise then
    .ok ⟨kid, algorithm, some key, key, jwk, enterprise, by simp⟩
  else .error "enterprise JWT algorithm must be RS256 or ES256"

def verifyOnlyFromPem (kid : String) (algorithm : Algorithm) (key : Key)
    (jwk : Option JsonWebKey) : Except String (EnterpriseJwtKey Key) :=
  if enterprise : algorithm.IsEnterprise then
    .ok ⟨kid, algorithm, none, key, jwk, enterprise, nofun⟩
  else .error "enterprise JWT algorithm must be RS256 or ES256"

end EnterpriseJwtKey

/-! ## Managers -/

structure EnterpriseJwtConfig (Key : Type) where
  issuer : String
  audience : String
  activeKey : EnterpriseJwtKey Key
  verificationKeys : List (EnterpriseJwtKey Key)
  revokedKids : List String

structure EnterpriseJwtIssuer (Key : Type) where
  issuer : String
  audience : String
  activeKid : String
  keys : List (EnterpriseJwtKey Key)
  revokedKids : List String

/-- `JwtManager`, which is known by its mode. -/
inductive JwtManager (Key : Type) where
  | localHs256 (key : Key)
  | enterprise (issuer : EnterpriseJwtIssuer Key)

/-- The keys of a configuration, the active one first. -/
def EnterpriseJwtConfig.keys (config : EnterpriseJwtConfig Key) :
    List (EnterpriseJwtKey Key) :=
  config.activeKey :: config.verificationKeys

namespace JwtManager

def enterpriseOf (config : EnterpriseJwtConfig Key) :
    Except String (JwtManager Key) :=
  if (trim config.issuer.toList).isEmpty then
    .error "enterprise JWT issuer is required"
  else if (trim config.audience.toList).isEmpty then
    .error "enterprise JWT audience is required"
  else if config.activeKey.encodingKey.isNone then
    .error "enterprise active JWT key must include private key material"
  else
    .ok
      (.enterprise
        { issuer := config.issuer
          audience := config.audience
          activeKid := config.activeKey.kid
          keys := config.keys
          revokedKids := config.revokedKids })

def withRevokedKids (manager : JwtManager Key) (revokedKids : List String) :
    JwtManager Key :=
  match manager with
  | .localHs256 key => .localHs256 key
  | .enterprise issuer => .enterprise { issuer with revokedKids }

end JwtManager

/-! ## Tokens -/

/-- The claims of a token. -/
structure Claims where
  userId : Int
  username : String
  role : String
  tenantId : String
  scopes : List String
  sessionId : Option String
  authMethod : Option String
  issuer : Option String
  audience : Option String
  iat : Int
  exp : Int
deriving DecidableEq, Repr

structure Header where
  alg : Algorithm
  kid : Option String
deriving DecidableEq, Repr

/-- A token, with the key that its signature is valid under. -/
structure Token (Key : Type) where
  header : Header
  claims : Claims
  signedWith : Key
deriving DecidableEq

structure SsoSessionTokenRequest where
  userId : Int
  username : String
  role : String
  tenantId : String
  scopes : List String
  sessionId : String
  expiryHours : Int

namespace JwtManager

/-- The time that a token expires at, as a release build computes it. -/
def expiry (now expiryHours : Int) : Int :=
  wrapI64 (now + expiryHours * 3600)

/-- The part of `generate_token_inner` behind the claims. -/
def sign (manager : JwtManager Key) (claims : Claims) :
    Except String (Token Key) :=
  match manager with
  | .localHs256 key => .ok ⟨⟨.hs256, none⟩, claims, key⟩
  | .enterprise issuer =>
      if issuer.activeKid ∈ issuer.revokedKids then
        .error "active enterprise JWT key is revoked"
      else
        match issuer.keys.find? fun key => key.kid = issuer.activeKid with
        | none => .error "active enterprise JWT key is not configured"
        | some activeKey =>
            match activeKey.encodingKey with
            | none => .error "active enterprise JWT key is verify-only"
            | some encodingKey =>
                .ok
                  ⟨⟨activeKey.algorithm, some activeKey.kid⟩, claims,
                    encodingKey⟩

def generateTokenInner (manager : JwtManager Key) (now : Int) (userId : Int)
    (username role tenantId : String) (scopes : List String)
    (expiryHours : Int) (issuer audience sessionId authMethod : Option String) :
    Except String (Token Key) :=
  manager.sign
    { userId, username, role, tenantId, scopes, sessionId, authMethod, issuer,
      audience
      iat := now
      exp := expiry now expiryHours }

def generateTokenWithScopes (manager : JwtManager Key) (now userId : Int)
    (username role tenantId : String) (scopes : List String)
    (expiryHours : Int) : Except String (Token Key) :=
  match manager with
  | .localHs256 _ =>
      manager.generateTokenInner now userId username role tenantId scopes
        expiryHours none none none (some "client_credentials")
  | .enterprise issuer =>
      manager.generateTokenInner now userId username role tenantId scopes
        expiryHours (some issuer.issuer) (some issuer.audience) none
        (some "client_credentials")

def generateTokenForTenant (manager : JwtManager Key) (now userId : Int)
    (username role tenantId : String) (expiryHours : Int) :
    Except String (Token Key) :=
  manager.generateTokenWithScopes now userId username role tenantId [role]
    expiryHours

def generateToken (manager : JwtManager Key) (now userId : Int)
    (username role : String) (expiryHours : Int) : Except String (Token Key) :=
  manager.generateTokenForTenant now userId username role "default" expiryHours

def generateSsoSessionToken (manager : JwtManager Key) (now : Int)
    (req : SsoSessionTokenRequest) : Except String (Token Key) :=
  let (issuer, audience) :=
    match manager with
    | .localHs256 _ => (none, none)
    | .enterprise settings => (some settings.issuer, some settings.audience)
  manager.generateTokenInner now req.userId req.username req.role req.tenantId
    req.scopes req.expiryHours issuer audience (some req.sessionId)
    (some "oidc")

end JwtManager

/-! ## Validation -/

/-- `jsonwebtoken::Validation`, as far as it is set. -/
structure Validation where
  algorithm : Algorithm
  leeway : Int
  validateExp : Bool
  issuers : Option (List String)
  audiences : Option (List String)

/-- A token is not past its expiry by more than the leeway. -/
def Unexpired (leeway now : Int) (claims : Claims) : Prop :=
  now ≤ claims.exp + leeway

instance (leeway now : Int) (claims : Claims) :
    Decidable (Unexpired leeway now claims) :=
  inferInstanceAs (Decidable (_ ≤ _))

/-- The claim, where there is one, is among what is expected, if anything is. -/
def expectsIssuer (expected : Option (List String)) (issuer : Option String) :
    Bool :=
  expected.all fun issuers => issuer.all (· ∈ issuers)

/-- An audience that is not expected is refused where none is set, too. -/
def expectsAudience (expected : Option (List String))
    (audience : Option String) : Bool :=
  audience.all fun audience => expected.any fun audiences => audience ∈ audiences

/-- `jsonwebtoken::decode`, as it is configured here. -/
def decode [DecidableEq Key] (now : Int) (token : Token Key) (key : Key)
    (validation : Validation) : Except String Claims :=
  if token.header.alg ≠ validation.algorithm then .error "InvalidAlgorithm"
  else if token.signedWith ≠ key then .error "InvalidSignature"
  else if validation.validateExp ∧
      ¬ Unexpired validation.leeway now token.claims then
    .error "ExpiredSignature"
  else if !expectsIssuer validation.issuers token.claims.issuer then
    .error "InvalidIssuer"
  else if !expectsAudience validation.audiences token.claims.audience then
    .error "InvalidAudience"
  else .ok token.claims

namespace JwtManager

variable [DecidableEq Key]

/-- The leeway is that of a new `Validation`, which stays as it is. -/
def validateToken (leeway now : Int) (manager : JwtManager Key)
    (token : Token Key) : Except String Claims :=
  match manager with
  | .localHs256 key =>
      (decode now token key ⟨.hs256, leeway, true, none, none⟩).mapError
        fun _ => "invalid or expired JWT"
  | .enterprise issuer =>
      match token.header.kid with
      | none => .error "enterprise JWT missing kid"
      | some kid =>
          if kid ∈ issuer.revokedKids then
            .error "enterprise JWT kid is revoked"
          else
            match
              issuer.keys.find? fun key =>
                key.kid = kid && key.algorithm = token.header.alg
            with
            | none => .error "enterprise JWT kid is not trusted"
            | some key =>
                (decode now token key.decodingKey
                    ⟨key.algorithm, leeway, true, some [issuer.issuer],
                      some [issuer.audience]⟩).mapError
                  fun _ => "invalid enterprise JWT"

/-- Publish non-revoked enterprise verification keys as a JWKS document. -/
def jwks (manager : JwtManager Key) : Option Value :=
  match manager with
  | .localHs256 _ => none
  | .enterprise issuer =>
      let keys :=
        ((issuer.keys.filter fun key => key.kid ∉ issuer.revokedKids).filterMap
          EnterpriseJwtKey.jwk).map JsonWebKey.toValue
      some (.record [("keys", .array keys)])

end JwtManager

end OpenSnow.Auth.ProductTokens
