import Mathlib
import OpenSnow.Auth.OidcLogin

/-!
# Safety of OIDC logins

What a completed login says about its state, its claims and the catalog.  A
completion reads its state, the connection and the mappings one after the
other, and marks the state as consumed without looking at it again.
-/

namespace OpenSnow.Auth.OidcLogin

open Auth.Sso
open Foundation
open Rust.Json
open Rust.Text

/-! ## What is promised -/

/-- The domain of an address is one of the allowed ones. -/
def DomainAllowed (allowedDomains : List String) (email : String) : Prop :=
  ∃ front domain, email.toList = front ++ '@' :: domain ∧ '@' ∉ domain ∧
    ∃ allowed ∈ allowedDomains,
      eqIgnoreAsciiCase allowed (String.ofList domain)

/-- A role is one of the mappings that the claims match. -/
def Earned (mappings : List RedactedIdpRoleMapping) (claims : Fields)
    (role : String) : Prop :=
  ∃ mapping ∈ mappings, isEarned claims mapping ∧ mapping.roleId = role

/-- The roles are those that are earned, or the public one if none is. -/
def GrantsExactly (mappings : List RedactedIdpRoleMapping) (claims : Fields)
    (roles : List String) : Prop :=
  ∀ role, role ∈ roles ↔
    Earned mappings claims role ∨
      (∀ other, ¬ Earned mappings claims other) ∧ role = "PUBLIC"

/-- The claims were made for the connection. -/
structure MadeFor (claims : VerifiedOidcClaims) (connection : IdpConnection) :
    Prop where
  issuer : claims.issuer = connection.issuer
  audience : claims.audience = connection.clientId
  domain : DomainAllowed connection.allowedDomains claims.email

/-- The login was started with the state, nonce and verifier it shows. -/
def Issued (login : Login) (key : String × String) (before : List Event) :
    Prop :=
  ∃ transaction, .started transaction ∈ before ∧
    transaction.connectionKey = key ∧ transaction.state = login.state ∧
    transaction.nonce = login.claims.nonce ∧
    transaction.pkceVerifier = login.pkceVerifier

def SsoSession.connectionKey (session : SsoSession) : String × String :=
  (session.accountId, session.connectionId)

/-- What a completion has seen when it read. -/
structure AcceptsAsRead (completion : Completion) (before : List Event) :
    Prop where
  issued : Issued completion.login completion.session.connectionKey before
  verified : completion.login.claims.emailVerified
  isConnection :
    completion.connection.key = completion.session.connectionKey
  madeFor : MadeFor completion.login.claims completion.connection
  grants : GrantsExactly completion.mappings completion.login.claims.extra
    completion.session.roles

/-- What a completion is to have when it returns. -/
structure Accepts (completion : Completion) (before : List Event) :
    Prop where
  firstUse : ∀ earlier, .completed earlier ∈ before →
    earlier.login.state ≠ completion.login.state
  issued : Issued completion.login completion.session.connectionKey before
  verified : completion.login.claims.emailVerified
  connection : ∃ connection,
    completion.catalog.connections.find completion.session.connectionKey =
        some connection ∧
      connection.enabled ∧ connection.protocol = .oidc ∧
      MadeFor completion.login.claims connection
  grants :
    GrantsExactly
      (mappingRows completion.catalog completion.session.connectionKey)
      completion.login.claims.extra completion.session.roles

def CompletionsAccept (accepts : Completion → List Event → Prop)
    (event : Event) (before : List Event) : Prop :=
  ∀ completion, event = .completed completion → accepts completion before

/-! ## When it is kept -/

/-- The state that a login is started with was not drawn before. -/
def DrawsFresh (store : LoginStore) : Step → Prop
  | .proceed number moment =>
      ∀ accountId connectionId redirectUri connection,
        store.calls number =
            some
              (.startInsert accountId connectionId redirectUri connection) →
          ∀ transaction, .started transaction ∈ store.history →
            transaction.state ≠ moment.tokens.state
  | _ => True

/-- The UPDATE of a completion finds its state unconsumed. -/
def FindsUnconsumed (store : LoginStore) : Step → Prop
  | .proceed number moment =>
      ∀ login transaction connection mappings,
        store.calls number =
            some (.consume login transaction connection mappings) →
          moment.fault = none →
            ∃ row, store.tables.unconsumed login.state = some row
  | _ => True

/-- A completion reads a connection that is enabled and OIDC. -/
def ReadsEnabled (store : LoginStore) : Step → Prop
  | .proceed number _ =>
      ∀ login transaction connection,
        store.calls number = some (.readConnection login transaction) →
          store.tables.catalog.connections.find transaction.connectionKey =
              some connection →
            connection.enabled ∧ connection.protocol = .oidc
  | _ => True

/-- The part of a connection that a login depends on. -/
def judged (connection : IdpConnection) :
    SsoProtocol × Bool × String × String × List String :=
  (connection.protocol, connection.enabled, connection.issuer,
    connection.clientId, connection.allowedDomains)

/-- The UPDATE of a completion finds the connection and mappings it read. -/
def FindsAsRead (store : LoginStore) : Step → Prop
  | .proceed number moment =>
      ∀ login transaction connection mappings,
        store.calls number =
            some (.consume login transaction connection mappings) →
          moment.fault = none →
            (store.tables.catalog.connections.find
                transaction.connectionKey).map judged =
                some (judged connection) ∧
              mappingRows store.tables.catalog transaction.connectionKey =
                mappings
  | _ => True

/-! ## Checks -/

variable {transaction : LoginTransaction}

theorem checkTransaction_ok_iff {login : Login} :
    checkTransaction login transaction = .ok () ↔
      transaction.pkceVerifier = login.pkceVerifier ∧
        transaction.nonce = login.claims.nonce ∧
        login.claims.emailVerified := by
  rw [checkTransaction, check_bind_ok_iff, check_bind_ok_iff,
    require_ok_iff, require_ok_iff, require_ok_iff, beq_iff_eq, beq_iff_eq]

theorem toAsciiLowercase_idem (text : String) :
    toAsciiLowercase (toAsciiLowercase text) = toAsciiLowercase text := by
  simp [toAsciiLowercase, Function.comp_def]

/-- A text with a separator, cut at the last one. -/
theorem lastSplit_spec {separator : Char} {text : List Char}
    (member : separator ∈ text) :
    (∃ front, text = front ++ separator :: lastSplit separator text) ∧
      separator ∉ lastSplit separator text := by
  have plain : separator ∉ lastSplit separator text := by
    rw [lastSplit, List.mem_reverse]
    intro taken
    simpa using List.mem_takeWhile_imp taken
  refine ⟨?_, plain⟩
  have cut : lastSplit separator text =
      (text.reverse.takeWhile (· != separator)).reverse := rfl
  have whole := List.takeWhile_append_dropWhile
    (p := (· != separator)) (l := text.reverse)
  cases rest : text.reverse.dropWhile (· != separator) with
  | nil =>
      rw [rest, List.append_nil] at whole
      rw [cut, whole, List.reverse_reverse] at plain
      exact absurd member plain
  | cons head back =>
      have isSeparator : head = separator := by
        have stops := List.head_dropWhile_not (· != separator)
          (l := text.reverse) (by rw [rest]; exact List.cons_ne_nil _ _)
        simpa [rest] using stops
      rw [rest, isSeparator] at whole
      refine ⟨back.reverse, ?_⟩
      have turned := congrArg List.reverse whole
      rw [List.reverse_append, List.reverse_cons, List.reverse_reverse,
        List.append_assoc, List.singleton_append] at turned
      exact turned.symm

/-- What stands behind the last separator has no separator. -/
theorem lastSplit_append {separator : Char} {front back : List Char}
    (plain : separator ∉ back) :
    lastSplit separator (front ++ separator :: back) = back := by
  have behind : ∀ ch ∈ back.reverse, (ch != separator) = true := by
    intro ch member
    rw [bne_iff_ne]
    rintro rfl
    exact plain (List.mem_reverse.mp member)
  rw [lastSplit, List.reverse_append, List.reverse_cons, List.append_assoc,
    List.singleton_append, List.takeWhile_append_of_pos behind,
    List.takeWhile_cons_of_neg (by simp), List.append_nil,
    List.reverse_reverse]

/-- An address is allowed when the domain read from it is listed. -/
theorem domainAllowed_iff {allowedDomains : List String} {email : String} :
    DomainAllowed allowedDomains email ↔
      ∃ domain, emailDomain email = some domain ∧
        allowedDomains.any (eqIgnoreAsciiCase · domain) := by
  have alike : ∀ allowed domain : String,
      eqIgnoreAsciiCase allowed (toAsciiLowercase domain) =
        eqIgnoreAsciiCase allowed domain := by
    intro allowed domain
    rw [eqIgnoreAsciiCase, eqIgnoreAsciiCase, toAsciiLowercase_idem]
  constructor
  · rintro ⟨front, domain, whole, plain, allowed, member, same⟩
    have hasDomain : '@' ∈ email.toList := by
      rw [whole]
      exact List.mem_append_right front List.mem_cons_self
    refine ⟨toAsciiLowercase (String.ofList domain), ?_, ?_⟩
    · rw [emailDomain, if_pos hasDomain, whole, lastSplit_append plain]
    · exact List.any_eq_true.mpr
        ⟨allowed, member, (alike allowed _).trans same⟩
  · rintro ⟨domain, read, listed⟩
    rw [emailDomain] at read
    split_ifs at read with hasDomain
    obtain rfl := Option.some.inj read
    obtain ⟨allowed, member, same⟩ := List.any_eq_true.mp listed
    obtain ⟨⟨front, whole⟩, plain⟩ := lastSplit_spec hasDomain
    exact ⟨front, _, whole, plain, allowed, member,
      (alike allowed _).symm.trans same⟩

theorem checkClaims_ok_iff {claims : VerifiedOidcClaims}
    {connection : IdpConnection} :
    checkClaims claims connection = .ok () ↔
      MadeFor claims connection := by
  have allowed : DomainAllowed connection.allowedDomains claims.email ↔ _ :=
    domainAllowed_iff
  rw [checkClaims, check_bind_ok_iff, check_bind_ok_iff, require_ok_iff,
    require_ok_iff, beq_iff_eq, beq_iff_eq]
  cases read : emailDomain claims.email with
  | none =>
      rw [read] at allowed
      refine iff_of_false (fun both => nomatch both.2.2) fun madeFor => ?_
      obtain ⟨_, ⟨⟩, -⟩ := allowed.mp madeFor.domain
  | some domain =>
      rw [read] at allowed
      simp only [Option.some.injEq, exists_eq_left'] at allowed
      rw [require_ok_iff, ← allowed]
      exact ⟨fun ⟨issuer, audience, domain⟩ => ⟨issuer, audience, domain⟩,
        fun madeFor => ⟨madeFor.issuer, madeFor.audience, madeFor.domain⟩⟩

/-! ## Roles -/

theorem mem_applyIdpRoleMappings {mappings : List RedactedIdpRoleMapping}
    {claims : Fields} {role : String} :
    role ∈ applyIdpRoleMappings mappings claims ↔
      Earned mappings claims role := by
  have loop : ∀ (rest : List RedactedIdpRoleMapping) (roles : List String),
      role ∈ rest.foldl
          (fun roles mapping =>
            if isEarned claims mapping && !roles.contains mapping.roleId then
              roles ++ [mapping.roleId]
            else roles) roles ↔
        role ∈ roles ∨ Earned rest claims role := by
    intro rest
    induction rest with
    | nil =>
        intro roles
        simp [Earned]
    | cons mapping rest ih =>
        intro roles
        rw [List.foldl_cons, ih]
        have first : Earned (mapping :: rest) claims role ↔
            (isEarned claims mapping ∧ mapping.roleId = role) ∨
              Earned rest claims role := by
          simp [Earned]
        rw [first, ← or_assoc]
        refine or_congr_left ?_
        split_ifs with takes
        · rw [Bool.and_eq_true] at takes
          rw [List.mem_append, List.mem_singleton, and_iff_right takes.1,
            eq_comm]
        · rw [or_iff_left_of_imp]
          rintro ⟨earned, rfl⟩
          simpa [earned] using takes
  rw [applyIdpRoleMappings, loop, or_iff_right List.not_mem_nil]

theorem grantedRoles_grants (mappings : List RedactedIdpRoleMapping)
    (claims : Fields) :
    GrantsExactly mappings claims (grantedRoles mappings claims) := by
  intro role
  rw [grantedRoles]
  cases roles : applyIdpRoleMappings mappings claims with
  | nil =>
      have none : ∀ other, ¬ Earned mappings claims other := by
        intro other earned
        rw [← mem_applyIdpRoleMappings, roles] at earned
        exact List.not_mem_nil earned
      simp [none]
  | cons first rest =>
      have some : Earned mappings claims first := by
        rw [← mem_applyIdpRoleMappings, roles]
        exact List.mem_cons_self
      have notPublic : ¬ ((∀ other, ¬ Earned mappings claims other) ∧
          role = "PUBLIC") := fun both => both.1 first some
      rw [or_iff_left notPublic, ← mem_applyIdpRoleMappings, roles]
      rfl

/-! ## What an access can do -/

/-- Whether an access follows a check of the login that it is made for. -/
def Access.isOpen : Access → Prop
  | .readConnection _ _ => False
  | .readMappings _ _ _ => False
  | .consume _ _ _ _ => False
  | _ => True

/-- An access that goes on to another one. -/
def goesOn (tables : LoginTables) (next : Access) : Effect :=
  checked tables (.ok ()) next

inductive Gives (moment : LoginMoment) (tables : LoginTables) :
    Access → Effect → Prop where
  | failed {access : Access} (message : String) :
      Gives moment tables access (failed tables message)
  | opened {access next : Access} (isOpen : next.isOpen) :
      Gives moment tables access (goesOn tables next)
  | started {accountId connectionId redirectUri : String}
      {connection : IdpConnection} {row : LoginTransaction}
      {answer : LoginAnswer}
      (isRow : row =
        newTransaction moment.tokens accountId connectionId redirectUri) :
      Gives moment tables
        (.startInsert accountId connectionId redirectUri connection)
        ⟨tables.transactions.put row, some (.started row),
          .returned (.ok answer)⟩
  | presented {login : Login} {transaction : LoginTransaction}
      (found : tables.unconsumed login.state = some transaction)
      (agrees : checkTransaction login transaction = .ok ()) :
      Gives moment tables (.readTransaction login)
        (goesOn tables (.readConnection login transaction))
  | matched {login : Login} {transaction : LoginTransaction}
      {connection : IdpConnection}
      (found : tables.catalog.connections.find transaction.connectionKey =
        some connection)
      (agrees : checkClaims login.claims connection = .ok ()) :
      Gives moment tables (.readConnection login transaction)
        (goesOn tables (.readMappings login transaction connection))
  | mapped {login : Login} {transaction : LoginTransaction}
      {connection : IdpConnection} :
      Gives moment tables (.readMappings login transaction connection)
        (goesOn tables
          (.consume login transaction connection
            (mappingRows tables.catalog transaction.connectionKey)))
  | consumed {login : Login} {transaction : LoginTransaction}
      {connection : IdpConnection} {mappings : List RedactedIdpRoleMapping}
      (healthy : moment.fault = none) :
      Gives moment tables (.consume login transaction connection mappings)
        ⟨tables.consumed login.state,
          some
            (.completed
              ⟨login, sessionOf login transaction mappings, connection,
                mappings, tables.catalog⟩),
          .returned
            (.ok (.session (sessionOf login transaction mappings)))⟩

section

variable {moment : LoginMoment} {tables : LoginTables}

theorem checked_cases (check : SsoResult Unit) (next : Access) :
    (∃ message, checked tables check next = failed tables message) ∨
      check = .ok () ∧ checked tables check next = goesOn tables next := by
  cases check with
  | error message => exact .inl ⟨message, rfl⟩
  | ok _ => exact .inr ⟨rfl, rfl⟩

theorem gives_checked {access next : Access} {check : SsoResult Unit}
    (gives : check = .ok () →
      Gives moment tables access (goesOn tables next)) :
    Gives moment tables access (checked tables check next) := by
  obtain ⟨message, same⟩ | ⟨accepted, same⟩ :=
    @checked_cases tables check next
  · exact same ▸ .failed message
  · exact same ▸ gives accepted

theorem perform_gives (challenge : String → String)
    (healthy : moment.fault = none) (access : Access) :
    Gives moment tables access
      (access.perform challenge moment tables) := by
  cases access with
  | startRead accountId connectionId redirectUri =>
      rw [Access.perform]
      cases tables.catalog.connections.find (accountId, connectionId) with
      | none => exact .failed _
      | some connection => exact gives_checked fun _ => .opened trivial
  | startInsert accountId connectionId redirectUri connection =>
      rw [Access.perform]
      split_ifs
      · exact .failed _
      · exact .failed _
      · exact .started rfl
  | pendingLogin state code =>
      rw [Access.perform]
      cases tables.unconsumed state with
      | none => exact .failed _
      | some pending => exact .opened trivial
  | codeRead pending code =>
      rw [Access.perform]
      cases tables.catalog.connections.find pending.connectionKey with
      | none => exact .failed _
      | some connection => exact gives_checked fun _ => .opened trivial
  | exchange pending connection code =>
      rw [Access.perform]
      cases moment.reply with
      | error message => exact .failed _
      | ok claims => exact .opened trivial
  | readTransaction login =>
      rw [Access.perform]
      cases found : tables.unconsumed login.state with
      | none => exact .failed _
      | some transaction =>
          exact gives_checked fun agrees => .presented found agrees
  | readConnection login transaction =>
      rw [Access.perform]
      cases found :
          tables.catalog.connections.find transaction.connectionKey with
      | none => exact .failed _
      | some connection =>
          exact gives_checked fun agrees => .matched found agrees
  | readMappings login transaction connection => exact .mapped
  | consume login transaction connection mappings => exact .consumed healthy

end

/-! ## Steps -/

/-- What a step does to a store. -/
inductive Moves (store : LoginStore) : Step → LoginStore → Prop where
  | idle {step : Step} : Moves store step store
  | wrote {step : Step} (catalog : SsoCatalog) :
      Moves store step (store.withCatalog catalog)
  | deleted {step : Step} (accountId connectionId : String) :
      Moves store step
        { store with
          tables := store.tables.deleteIdpConnection accountId connectionId }
  | began {number : Nat} {request : LoginRequest} :
      Moves store (.call number request)
        { store with
          calls := Function.update store.calls number request.start }
  | proceeded {number : Nat} {moment : LoginMoment} {access : Access}
      {effect : Effect} (pending : store.calls number = some access)
      (gives : Gives moment store.tables access effect) :
      Moves store (.proceed number moment) (store.settle number effect)

theorem perform_moves (challenge : String → String) (store : LoginStore)
    (step : Step) : Moves store step (store.perform challenge step) := by
  cases step with
  | upsertConnection moment request => exact .wrote _
  | deleteConnection accountId connectionId => exact .deleted _ _
  | upsertMapping moment accountId connectionId claimKey claimValue roleId =>
      exact .wrote _
  | deleteMapping moment accountId mappingId => exact .wrote _
  | call number request =>
      rw [LoginStore.perform]
      cases store.calls number with
      | none => exact .began
      | some access => exact .idle
  | proceed number moment =>
      rw [LoginStore.perform]
      cases pending : store.calls number with
      | none => exact .idle
      | some access =>
          refine .proceeded pending ?_
          cases faulty : moment.fault with
          | some message => exact .failed message
          | none => exact perform_gives challenge faulty access

/-! ## Transactions -/

/-- A transaction as it was started. -/
def LoginTransaction.fresh (transaction : LoginTransaction) :
    LoginTransaction :=
  { transaction with consumed := false }

theorem unconsumed_eq_some {tables : LoginTables} {state : String}
    {row : LoginTransaction} :
    tables.unconsumed state = some row ↔
      tables.transactions.find state = some row ∧ row.consumed = false := by
  rw [LoginTables.unconsumed, Option.filter_eq_some_iff, Bool.not_eq_true']

/-- The UPDATE changes the row of its state only, and marks it. -/
theorem of_mem_consumed {tables : LoginTables} {state : String}
    {row : LoginTransaction} (member : row ∈ (tables.consumed state).rows) :
    (∃ held ∈ tables.transactions.rows, row.fresh = held.fresh) ∧
      (row.state = state → row.consumed) ∧
      (row.state ≠ state → row ∈ tables.transactions.rows) := by
  rw [LoginTables.consumed] at member
  cases found : tables.transactions.find state with
  | none =>
      rw [found] at member
      refine ⟨⟨row, member, rfl⟩, fun isState => ?_, fun _ => member⟩
      exact absurd isState (Keyed.find_eq_none.mp found row member)
  | some held =>
      rw [found] at member
      obtain ⟨isMember, isState⟩ := Keyed.find_eq_some.mp found
      rcases Keyed.mem_put.mp member with rfl | ⟨isOld, differs⟩
      · exact ⟨⟨held, isMember, rfl⟩, fun _ => rfl,
          fun other => absurd isState other⟩
      · exact ⟨⟨row, isOld, rfl⟩,
          fun same => absurd (same.trans isState.symm) differs,
          fun _ => isOld⟩

/-- A completion shows what its transaction was started with. -/
structure Presented (history : List Event) (login : Login)
    (transaction : LoginTransaction) : Prop where
  started : .started transaction.fresh ∈ history
  isState : transaction.state = login.state
  isNonce : transaction.nonce = login.claims.nonce
  isVerifier : transaction.pkceVerifier = login.pkceVerifier
  verified : login.claims.emailVerified

/-- What a call knows before an access. -/
def Knows (history : List Event) : Access → Prop
  | .readConnection login transaction => Presented history login transaction
  | .readMappings login transaction connection =>
      Presented history login transaction ∧
        connection.key = transaction.connectionKey ∧
        MadeFor login.claims connection
  | .consume login transaction connection _ =>
      Presented history login transaction ∧
        connection.key = transaction.connectionKey ∧
        MadeFor login.claims connection
  | _ => True

variable {history : List Event}

theorem Presented.later {login : Login}
    (presented : Presented history login transaction)
    (events : List Event) : Presented (events ++ history) login transaction :=
  { presented with
    started := List.mem_append_right events presented.started }

theorem Knows.later {access : Access}
    (knows : Knows history access) (events : List Event) :
    Knows (events ++ history) access := by
  cases access with
  | readConnection login transaction => exact Presented.later knows events
  | readMappings login transaction connection =>
      exact ⟨knows.1.later events, knows.2⟩
  | consume login transaction connection mappings =>
      exact ⟨knows.1.later events, knows.2⟩
  | _ => trivial

theorem knows_of_isOpen {access : Access}
    (isOpen : access.isOpen) : Knows history access := by
  cases access with
  | readConnection login transaction => exact isOpen.elim
  | readMappings login transaction connection => exact isOpen.elim
  | consume login transaction connection mappings => exact isOpen.elim
  | _ => trivial

theorem Presented.issued {login : Login}
    (presented : Presented history login transaction) :
    Issued login transaction.connectionKey history :=
  ⟨transaction.fresh, presented.started, rfl, presented.isState,
    presented.isNonce, presented.isVerifier⟩

/-! ## What completions have seen -/

section

variable {store after : LoginStore} {step : Step}

variable {effect : Effect}

/-- The calls after an access: its own, if it goes on, and the others. -/
theorem of_calls_settle {number other : Nat} {access : Access}
    (pending : (store.settle number effect).calls other = some access) :
    effect.next = .access access ∨ store.calls other = some access := by
  rw [LoginStore.settle] at pending
  dsimp only at pending
  by_cases same : other = number
  · rw [same, Function.update_self] at pending
    cases isNext : effect.next with
    | access next =>
        rw [isNext] at pending
        cases pending
        exact .inl rfl
    | returned outcome =>
        rw [isNext] at pending
        cases pending
  · rw [Function.update_of_ne same] at pending
    exact .inr pending

/-- Transactions were started, and calls have seen what they go on with. -/
structure Recorded (store : LoginStore) : Prop where
  started : ∀ row ∈ store.tables.transactions.rows,
    .started row.fresh ∈ store.history
  knows : ∀ number access, store.calls number = some access →
    Knows store.history access
  throughout : Throughout (CompletionsAccept AcceptsAsRead) store.history

variable (catalog : SsoCatalog)

theorem recorded_initial :
    Recorded (.initial catalog) where
  started _ member := absurd member List.not_mem_nil
  knows _ _ absent := nomatch absent
  throughout := trivial

variable {number : Nat}

section

variable (recorded : Recorded store)

include recorded

theorem Recorded.settle (started : ∀ row ∈ effect.transactions.rows,
      .started row.fresh ∈ effect.recorded.toList ++ store.history)
    (knows : ∀ access, effect.next = .access access →
      Knows store.history access)
    (accepts : ∀ completion, effect.recorded = some (.completed completion) →
      AcceptsAsRead completion store.history) :
    Recorded (store.settle number effect) := by
  refine ⟨started, ?_, ?_⟩
  · intro other access pending
    rcases of_calls_settle pending with isNext | before
    · exact (knows access isNext).later _
    · exact (recorded.knows other access before).later _
  · rw [LoginStore.settle]
    dsimp only
    cases isRecorded : effect.recorded with
    | none => exact recorded.throughout
    | some event =>
        refine ⟨?_, recorded.throughout⟩
        rintro completion rfl
        exact accepts completion isRecorded

theorem Recorded.goesOn {next : Access} (knows : Knows store.history next) :
    Recorded (store.settle number (goesOn store.tables next)) := by
  refine recorded.settle recorded.started ?_ fun _ done => nomatch done
  rintro _ ⟨⟩
  exact knows

/-- The transaction that a login shows was started with what it shows. -/
theorem Recorded.presented {login : Login} {transaction : LoginTransaction}
    (found : store.tables.unconsumed login.state = some transaction)
    (agrees : checkTransaction login transaction = .ok ()) :
    Presented store.history login transaction := by
  obtain ⟨isVerifier, isNonce, verified⟩ := checkTransaction_ok_iff.mp agrees
  obtain ⟨isRow, -⟩ := unconsumed_eq_some.mp found
  exact ⟨recorded.started _ (Keyed.mem_of_find isRow),
    Keyed.key_of_find isRow, isNonce, isVerifier, verified⟩

theorem Recorded.moved (moves : Moves store step after) : Recorded after := by
  cases moves with
  | idle => exact recorded
  | wrote catalog =>
      exact ⟨recorded.started, recorded.knows, recorded.throughout⟩
  | deleted accountId connectionId =>
      refine ⟨fun row member => ?_, recorded.knows, recorded.throughout⟩
      exact recorded.started row (Keyed.mem_keep.mp member).1
  | @began number request =>
      refine ⟨recorded.started, fun other access pending => ?_,
        recorded.throughout⟩
      dsimp only at pending
      by_cases same : other = number
      · rw [same, Function.update_self] at pending
        cases pending
        cases request <;> trivial
      · rw [Function.update_of_ne same] at pending
        exact recorded.knows other access pending
  | @proceeded number moment access effect pending gives =>
      have knows := recorded.knows number access pending
      cases gives with
      | failed message =>
          exact recorded.settle recorded.started
            (fun _ isNext => nomatch isNext) fun _ done => nomatch done
      | opened isOpen => exact recorded.goesOn (knows_of_isOpen isOpen)
      | @started accountId connectionId redirectUri connection row answer
          isRow =>
          refine recorded.settle (fun other member => ?_)
            (fun _ isNext => nomatch isNext) fun _ done => nomatch done
          rcases Keyed.mem_put.mp member with rfl | ⟨isOld, -⟩
          · rw [isRow]
            exact List.mem_cons_self
          · exact List.mem_cons_of_mem _ (recorded.started other isOld)
      | presented found agrees =>
          exact recorded.goesOn (recorded.presented found agrees)
      | matched found agrees =>
          exact recorded.goesOn
            ⟨knows, Keyed.key_of_find found, checkClaims_ok_iff.mp agrees⟩
      | mapped => exact recorded.goesOn knows
      | @consumed login transaction connection mappings healthy =>
          obtain ⟨presented, isConnection, madeFor⟩ := knows
          refine recorded.settle (fun row member => ?_)
            (fun _ isNext => nomatch isNext) ?_
          · obtain ⟨⟨held, isHeld, same⟩, -⟩ := of_mem_consumed member
            exact same ▸
              List.mem_cons_of_mem _ (recorded.started held isHeld)
          · rintro completion ⟨⟩
            exact ⟨presented.issued, presented.verified, isConnection,
              madeFor, grantedRoles_grants _ _⟩

end

/-! ## A state is used once -/

/-- A state that was used was started once, and is marked. -/
structure UsedOnce (store : LoginStore) : Prop where
  marked : ∀ completion, .completed completion ∈ store.history →
    ∀ row ∈ store.tables.transactions.rows,
      row.state = completion.login.state → row.consumed
  started : ∀ completion, .completed completion ∈ store.history →
    ∃ transaction, .started transaction ∈ store.history ∧
      transaction.state = completion.login.state

theorem usedOnce_initial :
    UsedOnce (.initial catalog) where
  marked _ absent := absurd absent List.not_mem_nil
  started _ absent := absurd absent List.not_mem_nil

theorem UsedOnce.quiet (usedOnce : UsedOnce store)
    (same : effect.transactions = store.tables.transactions)
    (silent : effect.recorded = none) :
    UsedOnce (store.settle number effect) := by
  rw [LoginStore.settle, same, silent]
  exact ⟨usedOnce.marked, usedOnce.started⟩

theorem UsedOnce.moved (usedOnce : UsedOnce store)
    (recorded : Recorded store) (fresh : DrawsFresh store step)
    (moves : Moves store step after) : UsedOnce after := by
  cases moves with
  | idle => exact usedOnce
  | wrote catalog => exact ⟨usedOnce.marked, usedOnce.started⟩
  | deleted accountId connectionId =>
      refine ⟨fun completion done row member => ?_, usedOnce.started⟩
      exact usedOnce.marked completion done row (Keyed.mem_keep.mp member).1
  | began => exact ⟨usedOnce.marked, usedOnce.started⟩
  | @proceeded number moment access effect pending gives =>
      cases gives with
      | failed message => exact usedOnce.quiet rfl rfl
      | opened isOpen => exact usedOnce.quiet rfl rfl
      | presented found agrees => exact usedOnce.quiet rfl rfl
      | matched found agrees => exact usedOnce.quiet rfl rfl
      | mapped => exact usedOnce.quiet rfl rfl
      | @started accountId connectionId redirectUri connection row answer
          isRow =>
          have ofOld : ∀ {completion : Completion},
              .completed completion ∈
                  (store.settle number
                    ⟨store.tables.transactions.put row, some (.started row),
                      .returned (.ok answer)⟩).history →
                .completed completion ∈ store.history := by
            intro completion done
            cases done with
            | tail _ old => exact old
          constructor
          · intro completion done other member isState
            rcases Keyed.mem_put.mp member with rfl | ⟨isOld, -⟩
            · obtain ⟨transaction, isStarted, same⟩ :=
                usedOnce.started completion (ofOld done)
              have drawn : other.state = moment.tokens.state :=
                congrArg LoginTransaction.state isRow
              exact absurd ((same.trans isState.symm).trans drawn)
                (fresh accountId connectionId redirectUri connection pending
                  transaction isStarted)
            · exact usedOnce.marked completion (ofOld done) other isOld
                isState
          · intro completion done
            obtain ⟨transaction, isStarted, same⟩ :=
              usedOnce.started completion (ofOld done)
            exact ⟨transaction, List.mem_cons_of_mem _ isStarted, same⟩
      | @consumed login transaction connection mappings healthy =>
          obtain ⟨presented, -⟩ := recorded.knows number _ pending
          constructor
          · intro completion done row member isState
            obtain ⟨-, marks, others⟩ := of_mem_consumed member
            cases done with
            | head => exact marks isState
            | tail _ old =>
                by_cases same : row.state = login.state
                · exact marks same
                · exact usedOnce.marked completion old row (others same)
                    isState
          · intro completion done
            cases done with
            | head =>
                exact ⟨transaction.fresh,
                  List.mem_cons_of_mem _ presented.started,
                  presented.isState⟩
            | tail _ old =>
                obtain ⟨earlier, isStarted, same⟩ :=
                  usedOnce.started completion old
                exact ⟨earlier, List.mem_cons_of_mem _ isStarted, same⟩

/-! ## Completions that are safe -/

/-- What a call has read of its connection beyond what it checks. -/
def ReadAsEnabled : Access → Prop
  | .readMappings _ _ connection =>
      connection.enabled ∧ connection.protocol = .oidc
  | .consume _ _ connection _ =>
      connection.enabled ∧ connection.protocol = .oidc
  | _ => True

structure Accepted (store : LoginStore) : Prop where
  enabled : ∀ number access, store.calls number = some access →
    ReadAsEnabled access
  throughout : Throughout (CompletionsAccept Accepts) store.history

theorem accepted_initial :
    Accepted (.initial catalog) where
  enabled _ _ absent := nomatch absent
  throughout := trivial

theorem Accepted.settle (accepted : Accepted store)
    (enabled : ∀ access, effect.next = .access access →
      ReadAsEnabled access)
    (accepts : ∀ completion, effect.recorded = some (.completed completion) →
      Accepts completion store.history) :
    Accepted (store.settle number effect) := by
  refine ⟨fun other access pending => ?_, ?_⟩
  · rcases of_calls_settle pending with isNext | before
    · exact enabled access isNext
    · exact accepted.enabled other access before
  · rw [LoginStore.settle]
    dsimp only
    cases isRecorded : effect.recorded with
    | none => exact accepted.throughout
    | some event =>
        refine ⟨?_, accepted.throughout⟩
        rintro completion rfl
        exact accepts completion isRecorded

/-- The claims were made for any connection that is judged alike. -/
theorem MadeFor.of_judged {claims : VerifiedOidcClaims}
    {connection other : IdpConnection} (madeFor : MadeFor claims connection)
    (alike : judged other = judged connection) : MadeFor claims other := by
  rw [judged, judged] at alike
  simp only [Prod.mk.injEq] at alike
  obtain ⟨-, -, issuer, clientId, domains⟩ := alike
  exact ⟨madeFor.issuer.trans issuer.symm,
    madeFor.audience.trans clientId.symm, domains ▸ madeFor.domain⟩

theorem Accepted.goesOn {next : Access}
    (accepted : Accepted store) (enabled : ReadAsEnabled next) :
    Accepted (store.settle number (goesOn store.tables next)) := by
  refine accepted.settle ?_ fun _ done => nomatch done
  rintro _ ⟨⟩
  exact enabled

/-- Before the connection is read nothing is known of it. -/
theorem readAsEnabled_of_isOpen {access : Access} (isOpen : access.isOpen) :
    ReadAsEnabled access := by
  cases access with
  | readMappings login transaction connection => exact isOpen.elim
  | consume login transaction connection mappings => exact isOpen.elim
  | _ => trivial

/-- A completion that finds what it has read is one that it may make. -/
theorem accepts_of_asRead {login : Login} {transaction row : LoginTransaction}
    {connection : IdpConnection} {mappings : List RedactedIdpRoleMapping}
    (usedOnce : UsedOnce store)
    (knows : Knows store.history
      (.consume login transaction connection mappings))
    (enabled : connection.enabled ∧ connection.protocol = .oidc)
    (isRow : store.tables.unconsumed login.state = some row)
    (isJudged :
      (store.tables.catalog.connections.find transaction.connectionKey).map
        judged = some (judged connection))
    (sameMappings :
      mappingRows store.tables.catalog transaction.connectionKey =
        mappings) :
    Accepts
      ⟨login, sessionOf login transaction mappings, connection, mappings,
        store.tables.catalog⟩ store.history := by
  obtain ⟨presented, -, madeFor⟩ := knows
  obtain ⟨isFound, notConsumed⟩ := unconsumed_eq_some.mp isRow
  obtain ⟨current, isCurrent, alike⟩ := Option.map_eq_some_iff.mp isJudged
  have firstUse : ∀ earlier, .completed earlier ∈ store.history →
      earlier.login.state ≠ login.state := by
    intro earlier done sameState
    have marked := usedOnce.marked earlier done row
      (Keyed.mem_of_find isFound)
      ((Keyed.key_of_find isFound).trans sameState.symm)
    rw [notConsumed] at marked
    cases marked
  have grants : GrantsExactly
      (mappingRows store.tables.catalog transaction.connectionKey)
      login.claims.extra (grantedRoles mappings login.claims.extra) := by
    rw [sameMappings]
    exact grantedRoles_grants _ _
  exact
    { firstUse
      issued := presented.issued
      verified := presented.verified
      connection :=
        ⟨current, isCurrent, (congrArg (·.2.1) alike).trans enabled.1,
          (congrArg (·.1) alike).trans enabled.2, madeFor.of_judged alike⟩
      grants }

theorem Accepted.moved (accepted : Accepted store)
    (recorded : Recorded store) (usedOnce : UsedOnce store)
    (unconsumed : FindsUnconsumed store step)
    (readsEnabled : ReadsEnabled store step)
    (asRead : FindsAsRead store step)
    (moves : Moves store step after) : Accepted after := by
  cases moves with
  | idle => exact accepted
  | wrote catalog => exact ⟨accepted.enabled, accepted.throughout⟩
  | deleted accountId connectionId =>
      exact ⟨accepted.enabled, accepted.throughout⟩
  | @began number request =>
      refine ⟨fun other access pending => ?_, accepted.throughout⟩
      dsimp only at pending
      by_cases same : other = number
      · rw [same, Function.update_self] at pending
        cases pending
        cases request <;> trivial
      · rw [Function.update_of_ne same] at pending
        exact accepted.enabled other access pending
  | @proceeded number moment access effect pending gives =>
      cases gives with
      | failed message =>
          exact accepted.settle (fun _ isNext => nomatch isNext)
            fun _ done => nomatch done
      | opened isOpen => exact accepted.goesOn (readAsEnabled_of_isOpen isOpen)
      | started isRow =>
          exact accepted.settle (fun _ isNext => nomatch isNext)
            fun _ done => nomatch done
      | presented found agrees => exact accepted.goesOn trivial
      | @matched login transaction connection found agrees =>
          exact accepted.goesOn
            (readsEnabled login transaction connection pending found)
      | mapped =>
          have enabled := accepted.enabled number _ pending
          exact accepted.goesOn enabled
      | @consumed login transaction connection mappings healthy =>
          refine accepted.settle (fun _ isNext => nomatch isNext) ?_
          rintro _ ⟨⟩
          obtain ⟨row, isRow⟩ :=
            unconsumed login transaction connection mappings pending healthy
          obtain ⟨isJudged, sameMappings⟩ :=
            asRead login transaction connection mappings pending healthy
          exact accepts_of_asRead usedOnce (recorded.knows number _ pending)
            (accepted.enabled number _ pending) isRow isJudged sameMappings

/-! ## Runs -/

/--
If random states are fresh, a completion reads a connection that is enabled
and OIDC, and its UPDATE finds the state unconsumed and the connection and the
mappings as they were read, then every completion of a run is as promised.
Without a condition every completion is as promised of what it has read.
-/
theorem completions_safe (challenge : String → String)
    (catalog : SsoCatalog) (steps : List Step) :
    (Along (LoginStore.perform challenge)
        (fun store step =>
          DrawsFresh store step ∧ ReadsEnabled store step ∧
            FindsUnconsumed store step ∧ FindsAsRead store step)
        (.initial catalog) steps →
      Throughout (CompletionsAccept Accepts)
        ((LoginStore.initial catalog).run challenge steps).history) ∧
    Throughout (CompletionsAccept AcceptsAsRead)
      ((LoginStore.initial catalog).run challenge steps).history := by
  constructor
  · intro along
    have kept : ∀ store step,
        (Recorded store ∧ UsedOnce store) ∧ Accepted store →
          DrawsFresh store step ∧ ReadsEnabled store step ∧
              FindsUnconsumed store step ∧ FindsAsRead store step →
            (Recorded (store.perform challenge step) ∧
                UsedOnce (store.perform challenge step)) ∧
              Accepted (store.perform challenge step) := by
      rintro store step ⟨⟨recorded, usedOnce⟩, accepted⟩
        ⟨fresh, readsEnabled, unconsumed, asRead⟩
      have moves := perform_moves challenge store step
      exact ⟨⟨recorded.moved moves, usedOnce.moved recorded fresh moves⟩,
        accepted.moved recorded usedOnce unconsumed readsEnabled asRead
          moves⟩
    have holds := along.invariant kept
      ⟨⟨recorded_initial catalog, usedOnce_initial catalog⟩,
        accepted_initial catalog⟩
    exact holds.2.throughout
  · have recorded : Recorded
        ((LoginStore.initial catalog).run challenge steps) :=
      List.foldlRecOn steps _ (recorded_initial catalog)
        fun store recorded step _ =>
          recorded.moved (perform_moves challenge store step)
    exact recorded.throughout

end

/-! ## Logins that are not safe -/

def Event.completion : Event → Option Completion
  | .completed completion => some completion
  | .started _ => none

/-- The logins that completed, the newest first. -/
def completions (history : List Event) : List Completion :=
  history.filterMap Event.completion

/-- Completions that are as promised have different states. -/
theorem states_nodup (safe : Throughout (CompletionsAccept Accepts) history) :
    ((completions history).map (·.login.state)).Nodup := by
  induction history with
  | nil => exact List.nodup_nil
  | cons event before ih =>
      obtain ⟨accepts, earlier⟩ := safe
      cases event with
      | started transaction => exact ih earlier
      | completed completion =>
          change (completion.login.state ::
            (completions before).map (·.login.state)).Nodup
          rw [List.nodup_cons]
          refine ⟨fun again => ?_, ih earlier⟩
          obtain ⟨other, isOther, same⟩ := List.mem_map.mp again
          obtain ⟨event, isEvent, isCompletion⟩ :=
            List.mem_filterMap.mp isOther
          cases event with
          | started transaction => cases isCompletion
          | completed first =>
              cases isCompletion
              exact (accepts completion rfl).firstUse other isEvent same

/-- Whether the connection of a login was enabled when it completed. -/
def Completion.enabled (completion : Completion) : Option Bool :=
  (completion.catalog.connections.find
    completion.session.connectionKey).map (·.enabled)

theorem enabled_of_safe
    (safe : Throughout (CompletionsAccept Accepts) history) :
    ∀ completion ∈ completions history, completion.enabled = some true := by
  induction history with
  | nil => exact fun _ absent => nomatch absent
  | cons event before ih =>
      obtain ⟨accepts, earlier⟩ := safe
      cases event with
      | started transaction => exact ih earlier
      | completed completion =>
          intro other member
          cases member with
          | head =>
              obtain ⟨connection, isCurrent, enabled, -⟩ :=
                (accepts completion rfl).connection
              rw [Completion.enabled, isCurrent, Option.map_some, enabled]
          | tail _ old => exact ih earlier other old

def acmeConnection : IdpConnection where
  accountId := "acme"
  id := "okta"
  protocol := .oidc
  enabled := true
  issuer := "https://acme.okta.test"
  clientId := "client"
  clientSecretHandle := none
  allowedDomains := ["acme.com"]
  scopes := "openid email profile"

def acmeCatalog : SsoCatalog where
  connections := Keyed.empty.put acmeConnection
  mappings := .empty

def smallMoment : LoginMoment where
  fault := none
  tokens := ⟨"s", "n", "v"⟩
  reply := .error "no code"

def acmeLogin : Login where
  state := "s"
  pkceVerifier := "v"
  claims :=
    { issuer := "https://acme.okta.test"
      audience := "client"
      subject := "u1"
      email := "ann@acme.com"
      emailVerified := true
      nonce := "n"
      extra := [] }

def acmeRun (steps : List Step) : LoginStore :=
  (LoginStore.initial acmeCatalog).run id
    ([.call 0 (.startOidcLogin "acme" "okta" "https://app.test/callback"),
      .proceed 0 smallMoment, .proceed 0 smallMoment] ++ steps)

/-- Two completions of one state read it before either marks it. -/
def twiceCompleted : List Step :=
  [.call 1 (.completeOidcLogin acmeLogin), .proceed 1 smallMoment,
    .call 2 (.completeOidcLogin acmeLogin), .proceed 2 smallMoment,
    .proceed 1 smallMoment, .proceed 1 smallMoment, .proceed 1 smallMoment,
    .proceed 2 smallMoment, .proceed 2 smallMoment, .proceed 2 smallMoment]

/-- The connection is disabled between the start and the completion. -/
def disabledMeanwhile : List Step :=
  [.upsertConnection ⟨fun _ => none, fun _ _ _ _ => none⟩
      { accountId := "acme"
        connectionId := "okta"
        protocol := .oidc
        enabled := false
        issuer := "https://acme.okta.test"
        clientId := "client"
        clientSecret := none
        clientSecretHandle := none
        allowedDomains := ["acme.com"]
        scopes := none },
    .call 1 (.completeOidcLogin acmeLogin), .proceed 1 smallMoment,
    .proceed 1 smallMoment, .proceed 1 smallMoment, .proceed 1 smallMoment]

/-- A state completes two logins, and a disabled connection completes one. -/
theorem logins_unsafe :
    ¬ Throughout (CompletionsAccept Accepts)
        (acmeRun twiceCompleted).history ∧
      ¬ Throughout (CompletionsAccept Accepts)
        (acmeRun disabledMeanwhile).history := by
  have twice :
      (completions (acmeRun twiceCompleted).history).map (·.login.state) =
        ["s", "s"] := by
    decide
  have disabled :
      (completions (acmeRun disabledMeanwhile).history).map
        Completion.enabled = [some false] := by
    decide
  constructor
  · intro safe
    have nodup := states_nodup safe
    rw [twice] at nodup
    exact absurd nodup (by decide)
  · intro safe
    obtain ⟨completion, only, isDisabled⟩ :=
      List.map_eq_singleton_iff.mp disabled
    have enabled := enabled_of_safe safe completion
      (only ▸ List.mem_singleton_self completion)
    cases isDisabled.symm.trans enabled

/-- One login, started and completed by one call after the other. -/
def onceCompleted : List Step :=
  [.call 0 (.startOidcLogin "acme" "okta" "https://app.test/callback"),
    .proceed 0 smallMoment, .proceed 0 smallMoment,
    .call 1 (.completeOidcLogin acmeLogin), .proceed 1 smallMoment,
    .proceed 1 smallMoment, .proceed 1 smallMoment, .proceed 1 smallMoment]

theorem onceCompleted_along :
    Along (LoginStore.perform id)
      (fun store step =>
        DrawsFresh store step ∧ ReadsEnabled store step ∧
          FindsUnconsumed store step ∧ FindsAsRead store step)
      (.initial acmeCatalog) onceCompleted := by
  refine
    ⟨⟨trivial, trivial, trivial, trivial⟩, ⟨?_, ?_, ?_, ?_⟩,
      ⟨?fresh, ?_, ?_, ?_⟩,
      ⟨trivial, trivial, trivial, trivial⟩, ⟨?_, ?_, ?_, ?_⟩,
      ⟨?_, ?reads, ?_, ?_⟩, ⟨?_, ?_, ?_, ?_⟩,
      ⟨?_, ?_, ?unconsumed, ?asRead⟩, trivial⟩
  case fresh =>
    rintro accountId connectionId redirectUri connection - transaction ⟨⟩
  case reads =>
    rintro login transaction connection ⟨⟩ found
    cases found
    exact ⟨rfl, rfl⟩
  case unconsumed =>
    rintro login transaction connection mappings ⟨⟩ -
    exact ⟨_, rfl⟩
  case asRead =>
    rintro login transaction connection mappings ⟨⟩ -
    exact ⟨rfl, rfl⟩
  all_goals
    first
    | (rintro _ _ _ ⟨⟩; done)
    | rintro _ _ _ _ ⟨⟩

theorem onceCompleted_safe :
    Throughout (CompletionsAccept Accepts)
      ((LoginStore.initial acmeCatalog).run id onceCompleted).history :=
  (completions_safe id acmeCatalog onceCompleted).1 onceCompleted_along

end OpenSnow.Auth.OidcLogin
