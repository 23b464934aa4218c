import Mathlib.Data.Prod.Lex
import OpenSnow.Auth.LoginSafety
import OpenSnow.Foundation.Effect

/-!
# Completeness of OIDC logins

Which logins are let in: the connection that an e-mail address is sent to, and
the claims of a token that complete the login it was issued for.

The lookup takes the first enabled connection that lists the domain, whatever
its protocol, and the claims are read with the first text of an audience that
is an array.
-/

namespace OpenSnow.Auth.OidcLogin

open Auth.Sso
open Foundation
open Rust.Json
open Rust.Text

/-! ## The lookup -/

/-- `WHERE enabled = 1 ORDER BY account_id, id`. -/
def enabledConnections (catalog : SsoCatalog) : List IdpConnection :=
  orderBy (fun connection => toLex connection.key)
    (catalog.connections.rows.filter (·.enabled))

def findOidcConnectionByEmail (fault : Option String) (catalog : SsoCatalog)
    (email : String) : SsoResult (Option IdpConnection) :=
  match emailDomain email with
  | none => .error "invalid email: missing @"
  | some domain =>
      match fault with
      | some message => .error message
      | none =>
          .ok ((enabledConnections catalog).find? fun connection =>
            connection.allowedDomains.any (eqIgnoreAsciiCase · domain))

/-! ## The claims of a token -/

structure OidcClaims where
  sub : String
  iss : Option String
  aud : Option Value
  nonce : Option String
  email : Option String
  emailVerified : Option Bool
  extra : Fields

namespace OidcClaims

/-- A claim from its field, or from the other claims when it is a text. -/
def textClaim (claims : OidcClaims) (field : Option String) (key : String) :
    Option String :=
  field.or ((claims.extra.get key).bind Value.asStr)

def issuerClaim (claims : OidcClaims) : Option String :=
  claims.textClaim claims.iss "iss"

def nonceClaim (claims : OidcClaims) : Option String :=
  claims.textClaim claims.nonce "nonce"

def audienceClaim (claims : OidcClaims) : Option Value :=
  claims.aud.or (claims.extra.get "aud")

def emailVerifiedClaim (claims : OidcClaims) : Bool :=
  (claims.emailVerified.or
    ((claims.extra.get "email_verified").bind Value.asBool)).getD false

end OidcClaims

/-- The claim, or the failure that it is missing. -/
def claimed {Claim : Type} (claim : Option Claim) (name : String) :
    SsoResult Claim :=
  match claim with
  | some claim => .ok claim
  | none => .error ("OIDC token missing " ++ name)

/-- The audience that a claim is read as. -/
def readAudience : Option Value → Option String
  | some (.string text) => some text
  | some (.array values) => values.findSome? Value.asStr
  | _ => none

def verifiedClaimsFromOidcClaims (claims : OidcClaims) :
    SsoResult VerifiedOidcClaims := do
  let issuer ← claimed claims.issuerClaim "issuer"
  let audience ← claimed (readAudience claims.audienceClaim) "audience"
  let nonce ← claimed claims.nonceClaim "nonce"
  let email ← claimed claims.email "email"
  .ok
    { issuer := issuer
      audience := audience
      subject := claims.sub
      email := email
      emailVerified := claims.emailVerifiedClaim
      nonce := nonce
      extra := claims.extra }

/-! ## A completion by itself -/

/-- The accesses of a completion with nothing between them. -/
def completeOidcLogin (tables : LoginTables) (login : Login) :
    SsoResult (SsoSession × LoginTables) := do
  match tables.unconsumed login.state with
  | none => .error "invalid or consumed OIDC state"
  | some transaction =>
      checkTransaction login transaction
      match tables.catalog.connections.find transaction.connectionKey with
      | none => .error "idp connection not found"
      | some connection =>
          checkClaims login.claims connection
          .ok
            (sessionOf login transaction
              (mappingRows tables.catalog transaction.connectionKey),
              { tables with transactions := tables.consumed login.state })

/-- The claims of a token, read and taken to the completion of a login. -/
def completeWithClaims (tables : LoginTables) (state pkceVerifier : String)
    (claims : OidcClaims) : SsoResult (SsoSession × LoginTables) := do
  let verified ← verifiedClaimsFromOidcClaims claims
  completeOidcLogin tables ⟨state, pkceVerifier, verified⟩

/-! ## What is promised -/

/-- An enabled OIDC connection that lists the domain of an address. -/
structure Serves (connection : IdpConnection) (email : String) : Prop where
  enabled : connection.enabled
  protocol : connection.protocol = .oidc
  domain : DomainAllowed connection.allowedDomains email

/-- An address is sent to a connection that serves it. -/
def FindsService (catalog : SsoCatalog) (email : String) : Prop :=
  ∃ connection ∈ catalog.connections.rows, Serves connection email ∧
    findOidcConnectionByEmail none catalog email = .ok (some connection)

/-- The client is the audience, or one of them. -/
def Addressed (clientId : String) : Option Value → Prop
  | some (.string text) => text = clientId
  | some (.array values) => .string clientId ∈ values
  | _ => False

/-- Claims for a login that waits to be completed. -/
structure IssuedFor (tables : LoginTables) (state pkceVerifier : String)
    (claims : OidcClaims) (transaction : LoginTransaction)
    (connection : IdpConnection) : Prop where
  pending : tables.unconsumed state = some transaction
  verifier : transaction.pkceVerifier = pkceVerifier
  isConnection :
    tables.catalog.connections.find transaction.connectionKey =
      some connection
  issuer : claims.issuerClaim = some connection.issuer
  audience : Addressed connection.clientId claims.audienceClaim
  nonce : claims.nonceClaim = some transaction.nonce
  verified : claims.emailVerifiedClaim
  email : ∃ email, claims.email = some email ∧
    DomainAllowed connection.allowedDomains email

def Completes (tables : LoginTables) (state pkceVerifier : String)
    (claims : OidcClaims) : Prop :=
  ∃ session after,
    completeWithClaims tables state pkceVerifier claims =
      .ok (session, after)

/-! ## When it is kept -/

/--
A connection that serves the address stands, by account and id, before all
others that are enabled and list its domain but are not OIDC.
-/
def ServiceLeads (catalog : SsoCatalog) (email : String) : Prop :=
  ∃ connection ∈ catalog.connections.rows, Serves connection email ∧
    ∀ other ∈ catalog.connections.rows, other.enabled →
      DomainAllowed other.allowedDomains email → other.protocol ≠ .oidc →
        toLex connection.key < toLex other.key

/-- In an audience that is an array the client is the first text. -/
def ClientLeads (clientId : String) (audience : Option Value) : Prop :=
  ∀ values, audience = some (.array values) →
    ∃ front back, values = front ++ .string clientId :: back ∧
      ∀ value ∈ front, value.asStr = none

/-! ## The lookup -/

variable {catalog : SsoCatalog}

theorem findOidcConnectionByEmail_some
    {email : String} {connection : IdpConnection}
    (found : findOidcConnectionByEmail none catalog email =
      .ok (some connection)) :
    connection ∈ catalog.connections.rows ∧ connection.enabled ∧
      DomainAllowed connection.allowedDomains email ∧
      ∀ other ∈ catalog.connections.rows, other.enabled →
        DomainAllowed other.allowedDomains email →
          toLex connection.key ≤ toLex other.key := by
  rw [findOidcConnectionByEmail] at found
  cases isDomain : emailDomain email with
  | none =>
      rw [isDomain] at found
      cases found
  | some domain =>
      rw [isDomain] at found
      obtain ⟨member, listed, lowest⟩ := find?_orderBy (Except.ok.inj found)
      obtain ⟨member, enabled⟩ := List.mem_filter.mp member
      refine ⟨member, enabled,
        domainAllowed_iff.mpr ⟨domain, isDomain, listed⟩, ?_⟩
      intro other otherMember otherEnabled allowed
      obtain ⟨_, same, otherListed⟩ := domainAllowed_iff.mp allowed
      cases isDomain.symm.trans same
      exact lowest other
        (List.mem_filter.mpr ⟨otherMember, otherEnabled⟩) otherListed

/-- An address that some enabled connection lists is sent to one. -/
theorem findOidcConnectionByEmail_isSome
    {email : String} {connection : IdpConnection}
    (member : connection ∈ catalog.connections.rows)
    (enabled : connection.enabled)
    (allowed : DomainAllowed connection.allowedDomains email) :
    ∃ found, findOidcConnectionByEmail none catalog email =
      .ok (some found) := by
  obtain ⟨domain, isDomain, listed⟩ := domainAllowed_iff.mp allowed
  have isSome : ((enabledConnections catalog).find? fun connection =>
      connection.allowedDomains.any (eqIgnoreAsciiCase · domain)).isSome :=
    List.find?_isSome.mpr
      ⟨connection,
        mem_orderBy.mpr (List.mem_filter.mpr ⟨member, enabled⟩), listed⟩
  obtain ⟨found, isFound⟩ := Option.isSome_iff_exists.mp isSome
  refine ⟨found, ?_⟩
  rw [findOidcConnectionByEmail, isDomain]
  exact congrArg Except.ok isFound

theorem findsService_iff {email : String} :
    FindsService catalog email ↔ ServiceLeads catalog email := by
  constructor
  · rintro ⟨connection, member, serves, found⟩
    obtain ⟨-, -, -, lowest⟩ := findOidcConnectionByEmail_some found
    refine ⟨connection, member, serves, ?_⟩
    intro other otherMember enabled allowed otherProtocol
    refine lt_of_le_of_ne (lowest other otherMember enabled allowed) ?_
    intro sameKey
    obtain rfl := List.inj_on_of_nodup_map catalog.connections.distinct
      member otherMember (toLex_inj.mp sameKey)
    exact otherProtocol serves.protocol
  · rintro ⟨connection, member, serves, leads⟩
    obtain ⟨found, isFound⟩ := findOidcConnectionByEmail_isSome member
      serves.enabled serves.domain
    obtain ⟨foundMember, enabled, allowed, lowest⟩ :=
      findOidcConnectionByEmail_some isFound
    refine ⟨found, foundMember, ⟨enabled, ?_, allowed⟩, isFound⟩
    by_contra otherProtocol
    exact absurd
      (lowest connection member serves.enabled serves.domain)
      (not_le_of_gt (leads found foundMember enabled allowed otherProtocol))

/-! ## The completion -/

theorem findSome?_asStr_iff {values : List Value} {text : String} :
    values.findSome? Value.asStr = some text ↔
      ∃ front back, values = front ++ .string text :: back ∧
        ∀ value ∈ front, value.asStr = none := by
  rw [List.findSome?_eq_some_iff]
  constructor
  · rintro ⟨front, value, back, whole, isText, noTexts⟩
    cases value with
    | string text =>
        obtain rfl := Option.some.inj isText
        exact ⟨front, back, whole, noTexts⟩
    | _ => cases isText
  · rintro ⟨front, back, whole, noTexts⟩
    exact ⟨front, _, back, whole, rfl, noTexts⟩

/-- The client is read as the audience when it leads it. -/
theorem readAudience_iff {clientId : String} {audience : Option Value}
    (addressed : Addressed clientId audience) :
    readAudience audience = some clientId ↔
      ClientLeads clientId audience := by
  match audience, addressed with
  | some (.string text), addressed =>
      exact iff_of_true (congrArg some addressed) nofun
  | some (.array values), _ =>
      rw [readAudience, findSome?_asStr_iff]
      constructor
      · rintro leads _ ⟨⟩
        exact leads
      · exact fun leads => leads values rfl

theorem verifiedClaimsFromOidcClaims_ok_iff {claims : OidcClaims}
    {verified : VerifiedOidcClaims} :
    verifiedClaimsFromOidcClaims claims = .ok verified ↔
      claims.issuerClaim = some verified.issuer ∧
        readAudience claims.audienceClaim = some verified.audience ∧
        claims.nonceClaim = some verified.nonce ∧
        claims.email = some verified.email ∧
        claims.sub = verified.subject ∧
        claims.emailVerifiedClaim = verified.emailVerified ∧
        claims.extra = verified.extra := by
  obtain ⟨issuer, audience, subject, email, emailVerified, nonce, extra⟩ :=
    verified
  rw [verifiedClaimsFromOidcClaims]
  cases claims.issuerClaim with
  | none => exact iff_of_false nofun nofun
  | some _ =>
  cases readAudience claims.audienceClaim with
  | none => exact iff_of_false nofun nofun
  | some _ =>
  cases claims.nonceClaim with
  | none => exact iff_of_false nofun nofun
  | some _ =>
  cases claims.email with
  | none => exact iff_of_false nofun nofun
  | some _ =>
  simp only [claimed, bind, Except.bind, Except.ok.injEq,
    VerifiedOidcClaims.mk.injEq, Option.some.injEq]
  tauto

section

variable {tables : LoginTables} {transaction : LoginTransaction}
  {connection : IdpConnection}

theorem completeOidcLogin_ok_iff {login : Login}
    (pending : tables.unconsumed login.state = some transaction)
    (isConnection :
      tables.catalog.connections.find transaction.connectionKey =
        some connection) :
    (∃ session after, completeOidcLogin tables login =
        .ok (session, after)) ↔
      checkTransaction login transaction = .ok () ∧
        checkClaims login.claims connection = .ok () := by
  have body : completeOidcLogin tables login =
      (checkTransaction login transaction >>= fun _ =>
        checkClaims login.claims connection >>= fun _ =>
          .ok
            (sessionOf login transaction
              (mappingRows tables.catalog transaction.connectionKey),
              { tables with
                transactions := tables.consumed login.state })) := by
    rw [completeOidcLogin, pending]
    simp only [isConnection]
  rw [body]
  constructor
  · rintro ⟨session, after, completed⟩
    obtain ⟨_, agrees, completed⟩ := except_bind_ok completed
    obtain ⟨_, isFor, -⟩ := except_bind_ok completed
    exact ⟨agrees, isFor⟩
  · rintro ⟨agrees, isFor⟩
    rw [agrees, isFor]
    exact ⟨_, _, rfl⟩

/-- Of claims issued for a login, only the order of the audience matters. -/
theorem completes_iff {state pkceVerifier : String} {claims : OidcClaims}
    (issued :
      IssuedFor tables state pkceVerifier claims transaction connection) :
    Completes tables state pkceVerifier claims ↔
      ClientLeads connection.clientId claims.audienceClaim := by
  rw [← readAudience_iff issued.audience]
  obtain ⟨email, isEmail, allowed⟩ := issued.email
  constructor
  · rintro ⟨session, after, completed⟩
    obtain ⟨verified, read, completed⟩ := except_bind_ok completed
    rw [verifiedClaimsFromOidcClaims_ok_iff] at read
    have checks := (completeOidcLogin_ok_iff issued.pending
      issued.isConnection).mp ⟨session, after, completed⟩
    exact read.2.1.trans
      (congrArg some (checkClaims_ok_iff.mp checks.2).audience)
  · intro readClient
    let verified : VerifiedOidcClaims :=
      { issuer := connection.issuer
        audience := connection.clientId
        subject := claims.sub
        email := email
        emailVerified := claims.emailVerifiedClaim
        nonce := transaction.nonce
        extra := claims.extra }
    have read : verifiedClaimsFromOidcClaims claims = .ok verified :=
      verifiedClaimsFromOidcClaims_ok_iff.mpr
        ⟨issued.issuer, readClient, issued.nonce, isEmail, rfl, rfl, rfl⟩
    rw [Completes, completeWithClaims, read]
    refine (completeOidcLogin_ok_iff issued.pending
      issued.isConnection).mpr ⟨?_, ?_⟩
    · exact checkTransaction_ok_iff.mpr
        ⟨issued.verifier, rfl, issued.verified⟩
    · exact checkClaims_ok_iff.mpr ⟨rfl, rfl, allowed⟩

end

/-! ### With other calls -/

/-- A store in which a call is at an access. -/
def LoginStore.under (store : LoginStore) (number : Nat) (access : Access) :
    LoginStore :=
  { store with calls := Function.update store.calls number (some access) }

section

variable {challenge : String → String} {moment : LoginMoment}
  {store : LoginStore} {number : Nat}

theorem proceed_of_goesOn {access next : Access}
    (calm : moment.fault = none)
    (performed : access.perform challenge moment store.tables =
      goesOn store.tables next) :
    (store.under number access).perform challenge (.proceed number moment) =
      store.under number next := by
  simp [LoginStore.perform, LoginStore.under, LoginStore.settle, calm,
    performed, goesOn, checked]

theorem proceed_of_failed {access : Access} {message : String}
    (free : store.calls number = none) (calm : moment.fault = none)
    (performed : access.perform challenge moment store.tables =
      failed store.tables message) :
    (store.under number access).perform challenge (.proceed number moment) =
      store := by
  have ended : Function.update store.calls number none = store.calls := by
    rw [← free, Function.update_eq_self]
  simp [LoginStore.perform, LoginStore.under, LoginStore.settle, calm,
    performed, failed, ended]

theorem run_idle (free : store.calls number = none) (rounds : Nat) :
    store.run challenge (List.replicate rounds (.proceed number moment)) =
      store := by
  induction rounds with
  | zero => rfl
  | succ rounds ih =>
      rw [List.replicate_succ]
      change (store.perform challenge (.proceed number moment)).run challenge
        _ = store
      simp only [LoginStore.perform, free]
      exact ih

theorem run_of_goesOn {access next : Access} (calm : moment.fault = none)
    (rounds : Nat)
    (performed : access.perform challenge moment store.tables =
      goesOn store.tables next) :
    (store.under number access).run challenge
        (List.replicate (rounds + 1) (.proceed number moment)) =
      (store.under number next).run challenge
        (List.replicate rounds (.proceed number moment)) := by
  rw [List.replicate_succ, LoginStore.run, List.foldl_cons,
    proceed_of_goesOn calm performed]
  rfl

theorem run_of_failed {access : Access} {message : String}
    (free : store.calls number = none) (calm : moment.fault = none)
    (rounds : Nat)
    (performed : access.perform challenge moment store.tables =
      failed store.tables message) :
    (store.under number access).run challenge
        (List.replicate (rounds + 1) (.proceed number moment)) = store := by
  rw [List.replicate_succ, LoginStore.run, List.foldl_cons,
    proceed_of_failed free calm performed]
  exact run_idle free rounds

/-- What a completion leaves of a store, by the result that it has. -/
def Leaves (store : LoginStore) (login : Login) (after : LoginStore) :
    SsoResult (SsoSession × LoginTables) → Prop
  | .error _ => after = store
  | .ok (session, tables) =>
      ∃ completion, completion.login = login ∧
        completion.session = session ∧
        after =
          { store with
            tables := tables
            history := .completed completion :: store.history }

section

variable (free : store.calls number = none)

include free

theorem leaves_consume (calm : moment.fault = none) (login : Login)
    (transaction : LoginTransaction) (connection : IdpConnection)
    (mappings : List RedactedIdpRoleMapping) :
    Leaves store login
      ((store.under number
          (.consume login transaction connection mappings)).run challenge
        (List.replicate 1 (.proceed number moment)))
      (.ok
        (sessionOf login transaction mappings,
          { store.tables with
            transactions := store.tables.consumed login.state })) := by
  have ended : Function.update store.calls number none = store.calls := by
    rw [← free, Function.update_eq_self]
  refine
    ⟨⟨login, sessionOf login transaction mappings, connection, mappings,
        store.tables.catalog⟩,
      rfl, rfl, ?_⟩
  simp [LoginStore.run, LoginStore.perform, LoginStore.under,
    LoginStore.settle, Access.perform, calm, ended]

theorem leaves_readConnection (calm : moment.fault = none) (login : Login)
    (transaction : LoginTransaction) :
    Leaves store login
      ((store.under number (.readConnection login transaction)).run challenge
        (List.replicate 3 (.proceed number moment)))
      (match
          store.tables.catalog.connections.find transaction.connectionKey with
        | none => .error "idp connection not found"
        | some connection => do
            checkClaims login.claims connection
            .ok
              (sessionOf login transaction
                (mappingRows store.tables.catalog transaction.connectionKey),
                { store.tables with
                  transactions := store.tables.consumed login.state })) := by
  cases isConnection :
      store.tables.catalog.connections.find transaction.connectionKey with
  | none =>
      have stops : (Access.readConnection login transaction).perform
          challenge moment store.tables =
            failed store.tables "idp connection not found" := by
        simp only [Access.perform, isConnection]
      exact run_of_failed free calm 2 stops
  | some connection =>
      have reads : (Access.readConnection login transaction).perform
          challenge moment store.tables =
            checked store.tables (checkClaims login.claims connection)
              (.readMappings login transaction connection) := by
        simp only [Access.perform, isConnection]
      dsimp only
      cases isFor : checkClaims login.claims connection with
      | error message =>
          rw [isFor] at reads
          exact run_of_failed free calm 2 reads
      | ok _ =>
          rw [isFor] at reads
          have maps : (Access.readMappings login transaction
              connection).perform challenge moment store.tables =
                goesOn store.tables _ := rfl
          rw [run_of_goesOn calm 2 reads, run_of_goesOn calm 1 maps]
          exact leaves_consume free calm login transaction connection _

end

end

/--
An address that some connection serves is sent to one that serves it when such
a connection leads, and claims issued for a login complete it when the client
leads their audience.
-/
theorem oidcLogins_complete_iff (catalog : SsoCatalog) (email : String)
    (tables : LoginTables) (state pkceVerifier : String)
    (claims : OidcClaims) (transaction : LoginTransaction)
    (connection : IdpConnection) :
    ((∃ connection ∈ catalog.connections.rows, Serves connection email) →
      (FindsService catalog email ↔ ServiceLeads catalog email)) ∧
      (IssuedFor tables state pkceVerifier claims transaction connection →
        (Completes tables state pkceVerifier claims ↔
          ClientLeads connection.clientId claims.audienceClaim)) :=
  ⟨fun _ => findsService_iff, completes_iff⟩

/-- A login that waits for the connection of a catalog. -/
def waitingTables (catalog : SsoCatalog) : LoginTables where
  catalog := catalog
  transactions :=
    Keyed.empty.put
      (newTransaction ⟨"s", "n", "v"⟩ "acme" "okta"
        "https://app.test/callback")

def acmeClaims (audience : List Value) : OidcClaims where
  sub := "u1"
  iss := some "https://acme.okta.test"
  aud := some (.array audience)
  nonce := some "n"
  email := some "ann@acme.com"
  emailVerified := some true
  extra := []

theorem acmeConnection_serves : Serves acmeConnection "Ann@ACME.com" :=
  ⟨rfl, rfl, domainAllowed_iff.mpr ⟨"acme.com", by decide, by decide⟩⟩

theorem acmeClaims_issuedFor {audience : List Value}
    (addressed : .string "client" ∈ audience) :
    IssuedFor (waitingTables acmeCatalog) "s" "v" (acmeClaims audience)
      (newTransaction ⟨"s", "n", "v"⟩ "acme" "okta"
        "https://app.test/callback") acmeConnection where
  pending := rfl
  verifier := rfl
  isConnection := rfl
  issuer := rfl
  audience := addressed
  nonce := rfl
  verified := rfl
  email :=
    ⟨_, rfl, domainAllowed_iff.mpr ⟨"acme.com", by decide, by decide⟩⟩

theorem oidcLogins_complete_iff_acme :
    FindsService acmeCatalog "Ann@ACME.com" ∧
      Completes (waitingTables acmeCatalog) "s" "v"
        (acmeClaims [.string "client", .string "other"]) := by
  have complete := oidcLogins_complete_iff acmeCatalog "Ann@ACME.com"
    (waitingTables acmeCatalog) "s" "v"
    (acmeClaims [.string "client", .string "other"])
    (newTransaction ⟨"s", "n", "v"⟩ "acme" "okta"
      "https://app.test/callback") acmeConnection
  constructor
  · refine (complete.1
      ⟨acmeConnection, List.mem_cons_self, acmeConnection_serves⟩).mpr ?_
    refine ⟨acmeConnection, List.mem_cons_self, acmeConnection_serves, ?_⟩
    intro other member _ _ otherProtocol
    obtain rfl := List.mem_singleton.mp member
    exact absurd rfl otherProtocol
  · refine (complete.2 (acmeClaims_issuedFor List.mem_cons_self)).mpr ?_
    rintro _ ⟨⟩
    exact ⟨[], [.string "other"], rfl, nofun⟩

/-- A SAML connection of the same domain, before the OIDC one. -/
def contendedCatalog : SsoCatalog where
  connections :=
    acmeCatalog.connections.put
      { acmeConnection with id := "adfs", protocol := .saml }
  mappings := .empty

/--
The SAML connection takes the addresses of the domain, and an audience that
has the client second is read as the other one.
-/
theorem oidcLogins_incomplete :
    ((∃ connection ∈ contendedCatalog.connections.rows,
        Serves connection "Ann@ACME.com") ∧
      ¬ FindsService contendedCatalog "Ann@ACME.com") ∧
      (IssuedFor (waitingTables acmeCatalog) "s" "v"
          (acmeClaims [.string "other", .string "client"])
          (newTransaction ⟨"s", "n", "v"⟩ "acme" "okta"
            "https://app.test/callback") acmeConnection ∧
        ¬ Completes (waitingTables acmeCatalog) "s" "v"
          (acmeClaims [.string "other", .string "client"])) := by
  refine
    ⟨⟨⟨acmeConnection, List.mem_cons_self, acmeConnection_serves⟩, ?_⟩,
      acmeClaims_issuedFor (List.mem_cons_of_mem _ List.mem_cons_self), ?_⟩
  · rintro ⟨connection, -, serves, found⟩
    have first : findOidcConnectionByEmail none contendedCatalog
        "Ann@ACME.com" =
          .ok (some
            { acmeConnection with id := "adfs", protocol := .saml }) := by
      decide
    cases found.symm.trans first
    cases serves.protocol
  · rintro ⟨session, after, completed⟩
    cases completed

end OpenSnow.Auth.OidcLogin
