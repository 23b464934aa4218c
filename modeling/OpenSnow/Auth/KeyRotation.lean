import Mathlib.Data.List.Nodup
import OpenSnow.Auth.ProductTokens

/-!
# Rotation of the product-token keys

A deployment goes through configurations.  Each one may retire the active key,
install a new one under a new id, drop keys and revoke ids.  An id names the
same key in all of them, so a token lives as long as its key is configured and
its id is not revoked.
-/

namespace OpenSnow.Auth.ProductTokens

open Rust.Json
open Rust.Text

variable {Key : Type}

/-! ## Requests for tokens -/

/-- The ways to have a token generated. -/
inductive Generation where
  | token (userId : Int) (username role : String) (expiryHours : Int)
  | forTenant (userId : Int) (username role tenantId : String)
      (expiryHours : Int)
  | withScopes (userId : Int) (username role tenantId : String)
      (scopes : List String) (expiryHours : Int)
  | ssoSession (req : SsoSessionTokenRequest)

def JwtManager.generate (manager : JwtManager Key) (now : Int) :
    Generation → Except String (Token Key)
  | .token userId username role expiryHours =>
      manager.generateToken now userId username role expiryHours
  | .forTenant userId username role tenantId expiryHours =>
      manager.generateTokenForTenant now userId username role tenantId
        expiryHours
  | .withScopes userId username role tenantId scopes expiryHours =>
      manager.generateTokenWithScopes now userId username role tenantId scopes
        expiryHours
  | .ssoSession req => manager.generateSsoSessionToken now req

/-- What a token is asked to say, for an issuer and an audience. -/
def Generation.claims (issuer audience : String) (now : Int) :
    Generation → Claims
  | .token userId username role expiryHours =>
      ⟨userId, username, role, "default", [role], none,
        some "client_credentials", some issuer, some audience, now,
        JwtManager.expiry now expiryHours⟩
  | .forTenant userId username role tenantId expiryHours =>
      ⟨userId, username, role, tenantId, [role], none,
        some "client_credentials", some issuer, some audience, now,
        JwtManager.expiry now expiryHours⟩
  | .withScopes userId username role tenantId scopes expiryHours =>
      ⟨userId, username, role, tenantId, scopes, none,
        some "client_credentials", some issuer, some audience, now,
        JwtManager.expiry now expiryHours⟩
  | .ssoSession req =>
      ⟨req.userId, req.username, req.role, req.tenantId, req.scopes,
        some req.sessionId, some "oidc", some issuer, some audience, now,
        JwtManager.expiry now req.expiryHours⟩

theorem generate_enterprise (settings : EnterpriseJwtIssuer Key) (now : Int)
    (generation : Generation) :
    (JwtManager.enterprise settings).generate now generation =
      (JwtManager.enterprise settings).sign
        (generation.claims settings.issuer settings.audience now) := by
  cases generation <;> rfl

theorem claims_issuer (issuer audience : String) (now : Int)
    (generation : Generation) :
    (generation.claims issuer audience now).issuer = some issuer := by
  cases generation <;> rfl

theorem claims_audience (issuer audience : String) (now : Int)
    (generation : Generation) :
    (generation.claims issuer audience now).audience = some audience := by
  cases generation <;> rfl

/-! ## One configuration -/

section Configuration

variable {config : EnterpriseJwtConfig Key} {manager : JwtManager Key}

section

variable (accepted : JwtManager.enterpriseOf config = .ok manager)

include accepted

theorem of_enterpriseOf :
    config.activeKey.encodingKey = some config.activeKey.decodingKey ∧
      manager = .enterprise
        ⟨config.issuer, config.audience, config.activeKey.kid, config.keys,
          config.revokedKids⟩ := by
  rw [JwtManager.enterpriseOf] at accepted
  split_ifs at accepted with noIssuer noAudience noKey
  rw [Except.ok.injEq] at accepted
  refine ⟨?_, accepted.symm⟩
  cases held : config.activeKey.encodingKey with
  | none => exact absurd (Option.isNone_iff_eq_none.mpr held) noKey
  | some key => rw [config.activeKey.paired key held]

/-- A token is signed with the active key, unless that is revoked. -/
theorem sign_ok_iff {claims : Claims} {token : Token Key} :
    manager.sign claims = .ok token ↔
      config.activeKey.kid ∉ config.revokedKids ∧
        token =
          ⟨⟨config.activeKey.algorithm, some config.activeKey.kid⟩, claims,
            config.activeKey.decodingKey⟩ := by
  obtain ⟨signs, rfl⟩ := of_enterpriseOf accepted
  rw [JwtManager.sign]
  dsimp only
  by_cases revoked : config.activeKey.kid ∈ config.revokedKids
  · rw [if_pos revoked]
    exact iff_of_false nofun fun kept => kept.1 revoked
  · have active : (config.keys.find? fun key =>
        key.kid = config.activeKey.kid) = some config.activeKey :=
      List.find?_cons_of_pos (decide_eq_true rfl)
    rw [if_neg revoked, active]
    dsimp only
    rw [signs, Except.ok.injEq]
    exact ⟨fun same => ⟨revoked, same.symm⟩, fun kept => kept.2.symm⟩

theorem sign_error
    (revoked : config.activeKey.kid ∈ config.revokedKids) (claims : Claims) :
    manager.sign claims = .error "active enterprise JWT key is revoked" := by
  obtain ⟨-, rfl⟩ := of_enterpriseOf accepted
  exact if_pos revoked

theorem jwks_of_enterpriseOf :
    ∃ published : List JsonWebKey,
      manager.jwks =
          some (.record
            [("keys", .array (published.map JsonWebKey.toValue))]) ∧
        ∀ jwk, jwk ∈ published ↔
          ∃ key ∈ config.keys, key.kid ∉ config.revokedKids ∧
            key.jwk = some jwk := by
  obtain ⟨-, rfl⟩ := of_enterpriseOf accepted
  refine ⟨_, rfl, fun jwk => ?_⟩
  simp only [List.mem_filterMap, List.mem_filter, decide_eq_true_eq, and_assoc]

end

end Configuration

/-- The key of an id and its algorithm. -/
theorem find_key {keys : List (EnterpriseJwtKey Key)}
    (distinct : (keys.map EnterpriseJwtKey.kid).Nodup) {kid : String}
    {algorithm : Algorithm} {key : EnterpriseJwtKey Key} :
    (keys.find? fun key => key.kid = kid && key.algorithm = algorithm) =
        some key ↔
      key ∈ keys ∧ key.kid = kid ∧ key.algorithm = algorithm := by
  constructor
  · intro found
    have fits := List.find?_some found
    rw [Bool.and_eq_true, decide_eq_true_iff, decide_eq_true_iff] at fits
    exact ⟨List.mem_of_find?_eq_some found, fits⟩
  · rintro ⟨member, isKid, isAlgorithm⟩
    cases found : keys.find? fun key =>
        key.kid = kid && key.algorithm = algorithm with
    | none =>
        have misfits := List.find?_eq_none.mp found key member
        rw [isKid, isAlgorithm] at misfits
        simp at misfits
    | some other =>
        have fits := List.find?_some found
        rw [Bool.and_eq_true, decide_eq_true_iff, decide_eq_true_iff] at fits
        rw [Option.some.injEq]
        exact List.inj_on_of_nodup_map distinct
          (List.mem_of_find?_eq_some found) member (fits.1.trans isKid.symm)

section Validation

variable [DecidableEq Key] {config : EnterpriseJwtConfig Key}
  {manager : JwtManager Key}

theorem decode_ok_iff {now : Int} {token : Token Key} {key : Key}
    {validation : Validation} {claims : Claims} :
    decode now token key validation = .ok claims ↔
      claims = token.claims ∧ token.header.alg = validation.algorithm ∧
        token.signedWith = key ∧
        (validation.validateExp →
          Unexpired validation.leeway now token.claims) ∧
        expectsIssuer validation.issuers token.claims.issuer ∧
        expectsAudience validation.audiences token.claims.audience := by
  rw [decode]
  split_ifs with alg signature expired issuer audience
  · exact iff_of_false nofun fun holds => alg holds.2.1
  · exact iff_of_false nofun fun holds => signature holds.2.2.1
  · exact iff_of_false nofun fun holds =>
      expired.2 (holds.2.2.2.1 expired.1)
  · refine iff_of_false nofun fun holds => ?_
    rw [holds.2.2.2.2.1] at issuer
    cases issuer
  · refine iff_of_false nofun fun holds => ?_
    rw [holds.2.2.2.2.2] at audience
    cases audience
  · rw [Except.ok.injEq]
    rw [ne_eq, not_not] at alg signature
    rw [Bool.not_eq_true', Bool.not_eq_false] at issuer audience
    rw [not_and, not_not] at expired
    exact
      ⟨fun same =>
          ⟨same.symm, alg, signature, expired, issuer, audience⟩,
        fun holds => holds.1.symm⟩

theorem mapError_ok_iff {Value Error : Type} {report : String → Error}
    {outcome : Except String Value} {value : Value} :
    outcome.mapError report = .ok value ↔ outcome = .ok value := by
  cases outcome with
  | error message => exact iff_of_false nofun nofun
  | ok result => exact Iff.of_eq (by simp [Except.mapError])

/-- The tokens that the manager of a configuration validates. -/
theorem validateToken_ok_iff
    (accepted : JwtManager.enterpriseOf config = .ok manager)
    (distinct : (config.keys.map EnterpriseJwtKey.kid).Nodup)
    {leeway now : Int} {token : Token Key} {claims : Claims} :
    manager.validateToken leeway now token = .ok claims ↔
      ∃ key ∈ config.keys, token.header = ⟨key.algorithm, some key.kid⟩ ∧
        key.kid ∉ config.revokedKids ∧
        decode now token key.decodingKey
          ⟨key.algorithm, leeway, true, some [config.issuer],
            some [config.audience]⟩ = .ok claims := by
  obtain ⟨-, rfl⟩ := of_enterpriseOf accepted
  rw [JwtManager.validateToken]
  dsimp only
  cases isKid : token.header.kid with
  | none =>
      refine iff_of_false nofun ?_
      rintro ⟨key, -, header, -⟩
      rw [header] at isKid
      cases isKid
  | some kid =>
      dsimp only
      split_ifs with revoked
      · refine iff_of_false nofun ?_
        rintro ⟨key, -, header, kept, -⟩
        rw [header, Option.some.injEq] at isKid
        exact kept (isKid ▸ revoked)
      · have heads : ∀ {key : EnterpriseJwtKey Key},
            key ∈ config.keys → token.header = ⟨key.algorithm, some key.kid⟩ →
              (config.keys.find? fun key =>
                key.kid = kid && key.algorithm = token.header.alg) =
                some key := by
          intro key member header
          rw [header, Option.some.injEq] at isKid
          exact (find_key distinct).mpr ⟨member, isKid, by rw [header]⟩
        cases found : config.keys.find? fun key =>
            key.kid = kid && key.algorithm = token.header.alg with
        | none =>
            refine iff_of_false nofun ?_
            rintro ⟨key, member, header, -⟩
            rw [heads member header] at found
            cases found
        | some key =>
            obtain ⟨member, hasKid, hasAlgorithm⟩ := (find_key distinct).mp found
            have header : token.header = ⟨key.algorithm, some key.kid⟩ := by
              rw [hasKid, hasAlgorithm, ← isKid]
            dsimp only
            rw [mapError_ok_iff]
            constructor
            · intro decodes
              exact ⟨key, member, header, hasKid ▸ revoked, decodes⟩
            · rintro ⟨other, otherMember, otherHeader, -, decodes⟩
              rw [heads otherMember otherHeader, Option.some.injEq] at found
              rwa [← found]

end Validation

/-! ## Rotations -/

/-- One key, which may have lost the half that signs. -/
def SameKey (key other : EnterpriseJwtKey Key) : Prop :=
  key.kid = other.kid ∧ key.algorithm = other.algorithm ∧
    key.decodingKey = other.decodingKey

/-- The ids that a history of configurations has used. -/
def usedKids (history : List (EnterpriseJwtConfig Key)) : List String :=
  history.flatMap fun config => config.keys.map EnterpriseJwtKey.kid

/--
The next configuration of a deployment: its keys are keys of the current one,
the active key among them, or new keys under new ids, and revoked ids stay
revoked.
-/
structure Rotates (current next : EnterpriseJwtConfig Key)
    (history : List (EnterpriseJwtConfig Key)) : Prop where
  issuer : next.issuer = current.issuer
  audience : next.audience = current.audience
  distinct : (next.keys.map EnterpriseJwtKey.kid).Nodup
  keys : ∀ key ∈ next.keys, (∃ old ∈ current.keys, SameKey old key) ∨
    key.kid ∉ usedKids history
  revoked : current.revokedKids ⊆ next.revokedKids

/-- The configurations that a deployment goes through, the newest first. -/
inductive Rotations : List (EnterpriseJwtConfig Key) → Prop where
  | first {config : EnterpriseJwtConfig Key}
      (distinct : (config.keys.map EnterpriseJwtKey.kid).Nodup) :
      Rotations [config]
  | rotate {current next : EnterpriseJwtConfig Key}
      {earlier : List (EnterpriseJwtConfig Key)}
      (before : Rotations (current :: earlier))
      (rotates : Rotates current next (current :: earlier)) :
      Rotations (next :: current :: earlier)

/-- An id names one key, and all configurations have one issuer. -/
structure Coherent (history : List (EnterpriseJwtConfig Key)) : Prop where
  distinct : ∀ config ∈ history,
    (config.keys.map EnterpriseJwtKey.kid).Nodup
  named : ∀ config ∈ history, ∀ other ∈ history, ∀ key ∈ config.keys,
    ∀ otherKey ∈ other.keys, key.kid = otherKey.kid → SameKey key otherKey
  issuer : ∀ config ∈ history, ∀ other ∈ history,
    config.issuer = other.issuer ∧ config.audience = other.audience

theorem SameKey.symm {key other : EnterpriseJwtKey Key}
    (same : SameKey key other) : SameKey other key :=
  ⟨same.1.symm, same.2.1.symm, same.2.2.symm⟩

theorem SameKey.trans {key other third : EnterpriseJwtKey Key}
    (same : SameKey key other) (onwards : SameKey other third) :
    SameKey key third :=
  ⟨same.1.trans onwards.1, same.2.1.trans onwards.2.1,
    same.2.2.trans onwards.2.2⟩

theorem named_of_distinct {config : EnterpriseJwtConfig Key}
    (distinct : (config.keys.map EnterpriseJwtKey.kid).Nodup) :
    ∀ key ∈ config.keys, ∀ other ∈ config.keys, key.kid = other.kid →
      SameKey key other := by
  intro key member other otherMember same
  rw [List.inj_on_of_nodup_map distinct member otherMember same]
  exact ⟨rfl, rfl, rfl⟩

section Histories

variable {current next : EnterpriseJwtConfig Key}
  {history earlier : List (EnterpriseJwtConfig Key)}

theorem mem_usedKids {kid : String} :
    kid ∈ usedKids history ↔
      ∃ config ∈ history, ∃ key ∈ config.keys, key.kid = kid := by
  simp only [usedKids, List.mem_flatMap, List.mem_map]

/-- A key of the next configuration is the one that its id named before. -/
theorem Rotates.named (rotates : Rotates current next (current :: earlier))
    (coherent : Coherent (current :: earlier)) :
    ∀ key ∈ next.keys, ∀ config ∈ current :: earlier,
      ∀ other ∈ config.keys, key.kid = other.kid → SameKey key other := by
  intro key member config known other otherMember same
  rcases rotates.keys key member with ⟨old, oldMember, sameOld⟩ | fresh
  · exact sameOld.symm.trans
      (coherent.named current List.mem_cons_self config known old oldMember
        other otherMember (sameOld.1.trans same))
  · exact absurd (mem_usedKids.mpr ⟨config, known, other, otherMember, same.symm⟩)
      fresh

theorem Coherent.rotate (coherent : Coherent (current :: earlier))
    (rotates : Rotates current next (current :: earlier)) :
    Coherent (next :: current :: earlier) := by
  have settings : ∀ config ∈ current :: earlier,
      next.issuer = config.issuer ∧ next.audience = config.audience := by
    intro config known
    have same := coherent.issuer current List.mem_cons_self config known
    exact ⟨rotates.issuer.trans same.1, rotates.audience.trans same.2⟩
  refine ⟨?_, ?_, ?_⟩
  · exact List.forall_mem_cons.mpr ⟨rotates.distinct, coherent.distinct⟩
  · intro config known other otherKnown
    rcases List.mem_cons.mp known with rfl | older
    · rcases List.mem_cons.mp otherKnown with rfl | otherOlder
      · exact named_of_distinct rotates.distinct
      · exact fun key member => rotates.named coherent key member other otherOlder
    · rcases List.mem_cons.mp otherKnown with rfl | otherOlder
      · exact fun key member otherKey otherMember same =>
          (rotates.named coherent otherKey otherMember config older key member
            same.symm).symm
      · exact coherent.named config older other otherOlder
  · intro config known other otherKnown
    rcases List.mem_cons.mp known with rfl | older
    · rcases List.mem_cons.mp otherKnown with rfl | otherOlder
      · exact ⟨rfl, rfl⟩
      · exact settings other otherOlder
    · rcases List.mem_cons.mp otherKnown with rfl | otherOlder
      · exact ⟨(settings config older).1.symm, (settings config older).2.symm⟩
      · exact coherent.issuer config older other otherOlder

theorem Rotations.coherent (rotations : Rotations history) :
    Coherent history := by
  induction rotations with
  | first distinct =>
      rename_i config
      refine ⟨List.forall_mem_singleton.mpr distinct, ?_, ?_⟩
      · intro one known other otherKnown
        rw [List.mem_singleton.mp known, List.mem_singleton.mp otherKnown]
        exact named_of_distinct distinct
      · intro one known other otherKnown
        rw [List.mem_singleton.mp known, List.mem_singleton.mp otherKnown]
        exact ⟨rfl, rfl⟩
  | rotate before rotates ih => exact ih.rotate rotates

end Histories

/-! ## The life of a token -/

section Tokens

variable {current issuing : EnterpriseJwtConfig Key}
  {earlier : List (EnterpriseJwtConfig Key)}

/-- The key that a token was signed with is configured under its id. -/
theorem configured_iff (coherent : Coherent (current :: earlier))
    (known : issuing ∈ current :: earlier) :
    (∃ key ∈ current.keys, key.kid = issuing.activeKey.kid) ↔
      ∃ key ∈ current.keys, SameKey issuing.activeKey key := by
  constructor
  · rintro ⟨key, member, same⟩
    exact ⟨key, member, coherent.named issuing known current
      List.mem_cons_self _ List.mem_cons_self key member same.symm⟩
  · rintro ⟨key, member, same⟩
    exact ⟨key, member, same.1.symm⟩

variable [DecidableEq Key] {issuer validator : JwtManager Key}

/-- What is generated under one configuration, validated under another. -/
theorem validateToken_generated (coherent : Coherent (current :: earlier))
    (known : issuing ∈ current :: earlier)
    (issues : JwtManager.enterpriseOf issuing = .ok issuer)
    (validates : JwtManager.enterpriseOf current = .ok validator)
    {generation : Generation} {issuedAt : Int} {token : Token Key}
    (generated : issuer.generate issuedAt generation = .ok token)
    (leeway now : Int) (claims : Claims) :
    validator.validateToken leeway now token = .ok claims ↔
      claims = generation.claims issuing.issuer issuing.audience issuedAt ∧
        Unexpired leeway now claims ∧
        (∃ key ∈ current.keys, token.header.kid = some key.kid) ∧
        ∀ kid ∈ token.header.kid, kid ∉ current.revokedKids := by
  have signed : issuer.sign (generation.claims issuing.issuer issuing.audience
      issuedAt) = .ok token := by
    obtain ⟨-, shape⟩ := of_enterpriseOf issues
    rw [shape] at generated ⊢
    rw [generate_enterprise] at generated
    exact generated
  obtain ⟨-, rfl⟩ := (sign_ok_iff issues).mp signed
  rw [validateToken_ok_iff validates
    (coherent.distinct current List.mem_cons_self)]
  obtain ⟨sameIssuer, sameAudience⟩ :=
    coherent.issuer issuing known current List.mem_cons_self
  simp only [decode_ok_iff, Header.mk.injEq, Option.some.injEq,
    Option.mem_some_iff, forall_eq', claims_issuer, claims_audience]
  constructor
  · rintro ⟨key, member, ⟨-, sameKid⟩, kept, rfl, -, -, unexpired, -⟩
    rw [sameKid]
    exact ⟨rfl, unexpired trivial, ⟨key, member, rfl⟩, kept⟩
  · rintro ⟨rfl, unexpired, ⟨key, member, sameKid⟩, kept⟩
    obtain ⟨other, otherMember, same⟩ := (configured_iff coherent known).mp
      ⟨key, member, sameKid.symm⟩
    refine ⟨other, otherMember, ⟨same.2.1, same.1⟩, same.1 ▸ kept, rfl,
      same.2.1, same.2.2, fun _ => unexpired, ?_, ?_⟩
    · simp [expectsIssuer, sameIssuer]
    · simp [expectsAudience, sameAudience]

/--
Tokens survive the rotation of keys and die with their key, revoked keys are
not published, and a revoked active key does not sign.
-/
theorem tokens_follow_keys (rotations : Rotations (current :: earlier))
    (known : issuing ∈ current :: earlier)
    (issues : JwtManager.enterpriseOf issuing = .ok issuer)
    (validates : JwtManager.enterpriseOf current = .ok validator) :
    (∀ generation issuedAt token,
        issuer.generate issuedAt generation = .ok token →
          ∀ leeway now claims,
            validator.validateToken leeway now token = .ok claims ↔
              claims =
                  generation.claims issuing.issuer issuing.audience issuedAt ∧
                Unexpired leeway now claims ∧
                (∃ key ∈ current.keys, token.header.kid = some key.kid) ∧
                ∀ kid ∈ token.header.kid, kid ∉ current.revokedKids) ∧
      (∃ published : List JsonWebKey,
        validator.jwks =
            some (.record
              [("keys", .array (published.map JsonWebKey.toValue))]) ∧
          ∀ jwk, jwk ∈ published ↔
            ∃ key ∈ current.keys, key.kid ∉ current.revokedKids ∧
              key.jwk = some jwk) ∧
      (current.activeKey.kid ∈ current.revokedKids →
        ∀ generation issuedAt, ∃ message,
          validator.generate issuedAt generation = .error message) := by
  refine ⟨fun generation issuedAt token generated =>
    validateToken_generated rotations.coherent known issues validates generated,
    jwks_of_enterpriseOf validates, fun revoked generation issuedAt => ?_⟩
  have refuses := sign_error validates revoked
  obtain ⟨-, shape⟩ := of_enterpriseOf validates
  rw [shape] at refuses ⊢
  rw [generate_enterprise]
  exact ⟨_, refuses _⟩

end Tokens

/-! ## A rotation -/

/-- A key that signs, known by its secret. -/
def signingKey (kid secret : String) : EnterpriseJwtKey String :=
  ⟨kid, .rs256, some secret, secret, some (.rsa kid secret "AQAB"),
    Or.inl rfl, by simp⟩

/-- The same key, without the half that signs. -/
def retiredKey (kid secret : String) : EnterpriseJwtKey String :=
  ⟨kid, .rs256, none, secret, some (.rsa kid secret "AQAB"), Or.inl rfl, nofun⟩

def beforeRotation : EnterpriseJwtConfig String :=
  ⟨"opensnow", "api", signingKey "kid-1" "one", [], []⟩

def afterRotation : EnterpriseJwtConfig String :=
  ⟨"opensnow", "api", signingKey "kid-2" "two", [retiredKey "kid-1" "one"],
    ["kid-0"]⟩

theorem rotated : Rotations [afterRotation, beforeRotation] := by
  refine .rotate (.first (by decide)) ⟨rfl, rfl, by decide, ?_, nofun⟩
  intro key member
  rcases List.mem_cons.mp member with rfl | retired
  · exact Or.inr (by decide)
  · rw [List.mem_singleton.mp retired]
    exact Or.inl ⟨_, List.mem_cons_self, rfl, rfl, rfl⟩

/-- A token of before the rotation. -/
theorem tokens_follow_keys_rotated :
    (JwtManager.enterprise
        ⟨"opensnow", "api", "kid-2", afterRotation.keys, ["kid-0"]⟩
      ).validateToken 60 2000
        ⟨⟨.rs256, some "kid-1"⟩,
          ⟨1, "alice", "ANALYST", "default", ["ANALYST"], none,
            some "client_credentials", some "opensnow", some "api", 1000,
            4600⟩,
          "one"⟩ =
      .ok
        ⟨1, "alice", "ANALYST", "default", ["ANALYST"], none,
          some "client_credentials", some "opensnow", some "api", 1000, 4600⟩ :=
  ((tokens_follow_keys rotated
      (List.mem_cons_of_mem _ (List.mem_singleton_self beforeRotation))
      (by rfl) (by rfl)).1 (.token 1 "alice" "ANALYST" 1) 1000 _ (by rfl) 60
    2000 _).mpr
    ⟨by rfl, by decide, ⟨retiredKey "kid-1" "one", by simp [afterRotation,
      EnterpriseJwtConfig.keys], rfl⟩, by decide⟩

end OpenSnow.Auth.ProductTokens
