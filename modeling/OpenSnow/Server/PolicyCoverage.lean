import OpenSnow.Server.Policy
import OpenSnow.Sql.Relations

/-!
# Which reads the object policy covers

The analyser asks for `SELECT` on a name exactly when the name stands behind a
`FROM` or a `JOIN` in the analyser's own tokens.  A relation that a query
reads from any other place is not asked for, and nothing else stops the query.
-/

namespace OpenSnow.Server

open Auth
open Rust.Text
open Sql

/-! ## What the analyser asks for -/

/-- Tokens that the search for a name passes over. -/
def PassedOver (token : String) : Prop :=
  isSkippedWord token ∨ ¬ isIdentifierToken token

/--
The name stands in the tokens behind a `FROM` or a `JOIN`, with nothing but
tokens in between that the search for a name passes over.
-/
def Introduced (tokens : List String) (name : String) : Prop :=
  ∃ before keyword skipped object after,
    tokens = before ++ keyword :: (skipped ++ object :: after) ∧
      isReadKeyword keyword ∧
      (∀ token ∈ skipped, PassedOver token) ∧
      ¬ PassedOver object ∧
      ¬ isQueryWord object ∧
      normalizeObjectName object = name ∧ name ≠ ""

/-- The statement is of a kind whose `FROM` and `JOIN` tokens are looked at. -/
def ReadsCollected (tokens : List String) : Prop :=
  ∃ first rest, tokens = first :: rest ∧
    toAsciiUppercase first ∈ ["SELECT", "WITH", "INSERT", "CREATE"]

variable {tokens : List String}

theorem nextObject_eq_some_iff {object : String} :
    nextObject tokens = some object ↔
      ∃ skipped after, tokens = skipped ++ object :: after ∧
        (∀ token ∈ skipped, PassedOver token) ∧ ¬ PassedOver object := by
  induction tokens with
  | nil => simp [nextObject]
  | cons token rest ih =>
      by_cases passed : PassedOver token
      · have skips : nextObject (token :: rest) = nextObject rest := by
          rcases passed with skippedWord | notIdentifier
          · rw [nextObject, if_pos skippedWord]
          · rw [nextObject, if_neg notIdentifier, ite_self]
        rw [skips, ih]
        constructor
        · rintro ⟨skipped, after, rfl, allPassed, notPassed⟩
          refine ⟨token :: skipped, after, rfl, ?_, notPassed⟩
          intro other member
          rcases List.mem_cons.mp member with isFirst | inRest
          · rwa [isFirst]
          · exact allPassed other inRest
        · rintro ⟨skipped, after, shape, allPassed, notPassed⟩
          cases skipped with
          | nil =>
              rw [List.nil_append, List.cons.injEq] at shape
              rw [shape.1] at passed
              exact absurd passed notPassed
          | cons first skipped =>
              rw [List.cons_append, List.cons.injEq] at shape
              exact
                ⟨skipped, after, shape.2,
                  fun other member => allPassed other (by simp [member]),
                  notPassed⟩
      · have found : nextObject (token :: rest) = some token := by
          rw [PassedOver, not_or, not_not] at passed
          rw [nextObject, if_neg passed.1, if_pos passed.2]
        rw [found, Option.some.injEq]
        constructor
        · rintro rfl
          exact ⟨[], rest, rfl, by simp, passed⟩
        · rintro ⟨skipped, after, shape, allPassed, -⟩
          cases skipped with
          | nil => exact (List.cons.inj shape).1
          | cons first skipped =>
              rw [List.cons_append, List.cons.injEq] at shape
              rw [shape.1] at passed
              exact absurd (allPassed first (by simp)) passed

variable {rest : List String}

theorem introduced_cons_iff {token name : String} :
    Introduced (token :: rest) name ↔
      (isReadKeyword token ∧ ∃ object, nextObject rest = some object ∧
          ¬ isQueryWord object ∧ normalizeObjectName object = name ∧
            name ≠ "") ∨
        Introduced rest name := by
  constructor
  · rintro ⟨before, keyword, skipped, object, after, shape, reads, passed,
      stops, named⟩
    cases before with
    | nil =>
        rw [List.nil_append, List.cons.injEq] at shape
        rw [← shape.1] at reads
        exact
          Or.inl ⟨reads, object,
            nextObject_eq_some_iff.mpr
              ⟨skipped, after, shape.2, passed, stops⟩,
            named⟩
    | cons first before =>
        rw [List.cons_append, List.cons.injEq] at shape
        exact
          Or.inr ⟨before, keyword, skipped, object, after, shape.2, reads,
            passed, stops, named⟩
  · rintro (⟨reads, object, found, named⟩ |
      ⟨before, keyword, skipped, object, after, rfl, others⟩)
    · rcases nextObject_eq_some_iff.mp found with
        ⟨skipped, after, rfl, passed, stops⟩
      exact
        ⟨[], token, skipped, object, after, rfl, reads, passed, stops, named⟩
    · exact
        ⟨token :: before, keyword, skipped, object, after, rfl, others⟩

variable {reqs : List SqlRequirement} {req : SqlRequirement}
  {privilege : Privilege}

theorem mem_pushObjectReq {objectType : ObjectType} {rawName : String} :
    req ∈ pushObjectReq reqs privilege objectType rawName ↔
      req ∈ reqs ∨
        (normalizeObjectName rawName ≠ "" ∧
          req = ⟨privilege, objectType, normalizeObjectName rawName⟩) := by
  rw [pushObjectReq]
  split
  · rename_i skipped
    constructor
    · exact Or.inl
    · rintro (known | ⟨nonempty, rfl⟩)
      · exact known
      · simp only [Bool.or_eq_true, String.isEmpty_iff, nonempty, false_or,
          List.any_eq_true, Bool.and_eq_true, beq_iff_eq] at skipped
        rcases skipped with ⟨other, member, ⟨samePrivilege, sameType⟩, sameName⟩
        rw [← samePrivilege, ← sameType, ← sameName]
        exact member
  · rename_i pushed
    have nonempty : normalizeObjectName rawName ≠ "" := by
      intro empty
      simp [empty] at pushed
    rw [List.mem_append, List.mem_singleton]
    exact or_congr Iff.rfl ⟨fun same => ⟨nonempty, same⟩, And.right⟩

theorem mem_collectRead {token : String} :
    req ∈ collectRead token rest reqs ↔
      req ∈ reqs ∨
        (isReadKeyword token ∧ ∃ object, nextObject rest = some object ∧
          ¬ isQueryWord object ∧ normalizeObjectName object ≠ "" ∧
            req = ⟨.select, .table, normalizeObjectName object⟩) := by
  rw [collectRead]
  split
  · rename_i reads
    cases found : nextObject rest with
    | none => simp
    | some object =>
        by_cases queryWord : isQueryWord object
        · simp [queryWord]
        · simp only [queryWord, reads, Bool.false_eq_true, if_false,
            pushTableReq, mem_pushObjectReq, Option.some.injEq, true_and,
            exists_eq_left', not_false_eq_true]
  · rename_i others
    simp [others]

/-- The loop asks for `SELECT` on every name that is introduced. -/
theorem mem_collectSelectRequirements :
    req ∈ collectSelectRequirements tokens reqs ↔
      req ∈ reqs ∨
        ∃ name, Introduced tokens name ∧ req = ⟨.select, .table, name⟩ := by
  induction tokens generalizing reqs with
  | nil => simp [collectSelectRequirements, Introduced]
  | cons token rest ih =>
      rw [collectSelectRequirements, ih, mem_collectRead, or_assoc]
      apply or_congr Iff.rfl
      constructor
      · rintro (⟨reads, object, found, notQuery, nonempty, rfl⟩ |
          ⟨name, introduced, rfl⟩)
        · exact
            ⟨_, introduced_cons_iff.mpr
              (Or.inl ⟨reads, object, found, notQuery, rfl, nonempty⟩), rfl⟩
        · exact ⟨name, introduced_cons_iff.mpr (Or.inr introduced), rfl⟩
      · rintro ⟨name, introduced, rfl⟩
        rcases introduced_cons_iff.mp introduced with
          ⟨reads, object, found, notQuery, rfl, nonempty⟩ | introduced
        · exact Or.inl ⟨reads, object, found, notQuery, nonempty, rfl⟩
        · exact Or.inr ⟨name, introduced, rfl⟩

theorem privilege_of_mem_pushObjectReq
    {objectType : ObjectType} {rawName : String}
    (member : req ∈ pushObjectReq [] privilege objectType rawName) :
    req.privilege = privilege := by
  rcases mem_pushObjectReq.mp member with known | ⟨-, rfl⟩
  · cases known
  · rfl

theorem privilege_of_mem_collectTyped {kindIdx : Nat} (member :
      req ∈ collectTypedObjectRequirement tokens [] kindIdx privilege) :
    req.privilege = privilege := by
  rw [collectTypedObjectRequirement] at member
  split at member
  · cases member
  · split at member
    · cases member
    · split at member
      · cases member
      · exact privilege_of_mem_pushObjectReq member

theorem privilege_of_mem_collectInsertTarget
    (member : req ∈ collectInsertTarget tokens []) :
    req.privilege = .insert := by
  rw [collectInsertTarget] at member
  split at member
  · cases member
  · split at member
    · cases member
    · exact privilege_of_mem_pushObjectReq member

theorem readsCollected_cons_iff {first : String} :
    ReadsCollected (first :: rest) ↔
      toAsciiUppercase first ∈ ["SELECT", "WITH", "INSERT", "CREATE"] := by
  constructor
  · rintro ⟨other, tail, same, kind⟩
    rwa [(List.cons.inj same).1]
  · intro kind
    exact ⟨first, rest, rfl, kind⟩

/-- What a statement asks for its own object does not stand in for a read. -/
theorem select_mem_collect_iff {name : String}
    (others : ∀ req ∈ reqs, req.privilege ≠ .select) :
    ⟨.select, .table, name⟩ ∈ collectSelectRequirements tokens reqs ↔
      Introduced tokens name := by
  rw [mem_collectSelectRequirements]
  constructor
  · rintro (known | ⟨read, introduced, same⟩)
    · exact absurd rfl (others _ known)
    · rwa [(SqlRequirement.mk.inj same).2.2]
  · intro introduced
    exact Or.inr ⟨name, introduced, rfl⟩

/-- A text needs `SELECT` on the names its tokens introduce, and no others. -/
theorem select_mem_analyzeSql_iff {sql name : String} :
    ⟨.select, .table, name⟩ ∈ analyzeSql sql ↔
      ReadsCollected (tokenizeSql sql) ∧
        Introduced (tokenizeSql sql) name := by
  rw [analyzeSql]
  cases tokens : tokenizeSql sql with
  | nil => simp [ReadsCollected]
  | cons first rest =>
      have askedNothing : ∀ privilege, privilege ≠ .select →
          ⟨.select, .table, name⟩ ∉
            collectTypedObjectRequirement (first :: rest) [] 1 privilege := by
        intro privilege other member
        exact other (privilege_of_mem_collectTyped member).symm
      rw [readsCollected_cons_iff]
      dsimp only
      split
      · rename_i kind
        rw [kind, select_mem_collect_iff (by simp)]
        simp
      · rename_i kind
        rw [kind, select_mem_collect_iff (by simp)]
        simp
      · rename_i kind
        simp [kind, askedNothing .drop (by decide)]
      · rename_i kind
        rw [kind, select_mem_collect_iff fun req member =>
          (privilege_of_mem_collectInsertTarget member).trans_ne (by decide)]
        simp
      · rename_i kind
        rw [kind, select_mem_collect_iff fun req member =>
          (privilege_of_mem_collectTyped member).trans_ne (by decide)]
        simp
      · rename_i kind
        simp [kind, askedNothing .alter (by decide)]
      · rename_i notSelect notWith notDrop notInsert notCreate notAlter
        constructor
        · intro member
          cases member
        · rintro ⟨kind, -⟩
          simp only [List.mem_cons, List.not_mem_nil, or_false] at kind
          rcases kind with select | withList | insert | create
          · exact (notSelect select).elim
          · exact (notWith withList).elim
          · exact (notInsert insert).elim
          · exact (notCreate create).elim

/-! ## What the policy decides -/

variable {auth : AuthContext}

theorem checkRequirements_eq_allow_iff {policy : ObjectPolicyStore} :
    policy.checkRequirements auth reqs = .allow ↔
      ∀ req ∈ reqs, policy.privileges.Authorises auth.role req.privilege
        req.objectType req.objectName := by
  induction reqs with
  | nil => simp [ObjectPolicyStore.checkRequirements]
  | cons req rest ih =>
      rw [ObjectPolicyStore.checkRequirements, List.forall_mem_cons, ← ih]
      simp only [PrivilegeStore.Authorises]
      split
      · rename_i allowed
        simp [allowed]
      · rename_i refused
        simp [refused]
      · rename_i failed
        simp [failed]

/-- A caller who is no admin is allowed what the table authorises. -/
theorem checkSql_eq_allow_iff {policy : ObjectPolicyStore} {sql : String}
    (notAdmin : ¬ auth.isPlatformAdmin) :
    policy.checkSql auth sql = .allow ↔
      (analyzeSql sql ≠ [] ∨ isSafeObjectlessStatement sql) ∧
        ∀ req ∈ analyzeSql sql, policy.privileges.Authorises auth.role
          req.privilege req.objectType req.objectName := by
  rw [ObjectPolicyStore.checkSql, if_neg notAdmin,
    ← checkRequirements_eq_allow_iff]
  dsimp only
  split
  · rename_i unsupported
    rw [Bool.and_eq_true, List.isEmpty_iff, Bool.not_eq_true'] at unsupported
    simp [unsupported]
  · rename_i supported
    rw [Bool.and_eq_true, List.isEmpty_iff, Bool.not_eq_true', not_and_or,
      Bool.not_eq_false] at supported
    simp [supported]

theorem exists_deny_iff {decision : PolicyDecision} :
    (∃ denial, decision = .deny denial) ↔ decision ≠ .allow := by
  cases decision <;> simp

/-! ## Relations that are read -/

/--
The text asks for `SELECT` on the relation, and every caller whom the table
does not authorise to read it is denied.
-/
def SelectGuarded (sql relation : String) : Prop :=
  ⟨.select, .table, normalizeObjectName relation⟩ ∈ analyzeSql sql ∧
    ∀ (policy : ObjectPolicyStore) (auth : AuthContext),
      ¬ auth.isPlatformAdmin →
        ¬ policy.privileges.Authorises auth.role .select .table
            (normalizeObjectName relation) →
          ∃ denial, policy.checkSql auth sql = .deny denial

theorem selectGuarded_iff {sql relation : String} :
    SelectGuarded sql relation ↔
      ReadsCollected (tokenizeSql sql) ∧
        Introduced (tokenizeSql sql) (normalizeObjectName relation) := by
  rw [← select_mem_analyzeSql_iff]
  constructor
  · exact And.left
  · intro required
    refine ⟨required, ?_⟩
    intro policy auth notAdmin unauthorised
    rw [exists_deny_iff, ne_eq, checkSql_eq_allow_iff notAdmin]
    rintro ⟨-, authorised⟩
    exact unauthorised (authorised _ required)

/-- Every relation that the text reads is guarded. -/
def ReadsGuarded (sql : String) : Prop :=
  ∀ relation ∈ relationsRead sql, SelectGuarded sql relation

/--
The reads of a text are guarded exactly when each relation that it reads
stands behind a `FROM` or a `JOIN` in the analyser's tokens.
-/
theorem readsGuarded_iff (sql : String) :
    ReadsGuarded sql ↔
      ∀ relation ∈ relationsRead sql,
        ReadsCollected (tokenizeSql sql) ∧
          Introduced (tokenizeSql sql) (normalizeObjectName relation) := by
  constructor
  · intro guarded relation read
    exact selectGuarded_iff.mp (guarded relation read)
  · intro introduced relation read
    exact selectGuarded_iff.mpr (introduced relation read)

/-- Of the items of a `FROM` list only the first one is asked for. -/
def commaItem : String := "SELECT * FROM allowed_orders, secret_orders"

/-- A table that lets the caller read `allowed_orders` alone. -/
def allowedOrders : ObjectPolicyStore :=
  ⟨.granting "ANALYST" [(.select, .table, "allowed_orders")]⟩

theorem commaItem_not_readsGuarded :
    leadingKeyword commaItem = some "SELECT" ∧
      "secret_orders" ∈ relationsRead commaItem ∧
      ¬ analyst.isPlatformAdmin ∧
      ¬ allowedOrders.privileges.Authorises analyst.role .select .table
          "secret_orders" ∧
      allowedOrders.checkSql analyst commaItem = .allow ∧
      ¬ ReadsGuarded commaItem := by
  have read : "secret_orders" ∈ relationsRead commaItem := by
    decide
  have unrequired :
      ⟨.select, .table, normalizeObjectName "secret_orders"⟩ ∉
        analyzeSql commaItem := by
    decide
  refine ⟨by decide, read, by decide, by decide,
    by decide, ?_⟩
  intro guarded
  exact unrequired (guarded _ read).1

/-- So is no quoted name that touches its `FROM`, and none behind a comment. -/
example :
    ∀ sql ∈ ["SELECT * FROM\"secret_orders\"",
        "SELECT * FROM /* the */ secret_orders"],
      (relationsRead sql).length = 1 ∧
        ⟨.select, .table, "secret_orders"⟩ ∉ analyzeSql sql := by
  decide

theorem mem_analyzeSql_of_query {sql : String}
    (query : isSafeObjectlessStatement sql) (member : req ∈ analyzeSql sql) :
    ∃ name, Introduced (tokenizeSql sql) name ∧
      req = ⟨.select, .table, name⟩ := by
  have collected :
      analyzeSql sql = collectSelectRequirements (tokenizeSql sql) [] := by
    rw [isSafeObjectlessStatement] at query
    rw [analyzeSql]
    cases tokens : tokenizeSql sql with
    | nil => rfl
    | cons first rest =>
        simp only [tokens, List.head?_cons, Option.any_some,
          decide_eq_true_eq, List.mem_cons, List.not_mem_nil,
          or_false] at query
        rcases query with select | withList
        · simp only [select]
        · simp only [withList]
  rw [collected, mem_collectSelectRequirements] at member
  exact member.resolve_left List.not_mem_nil

/--
A relation that is not introduced is open: for every caller there is a table
that does not authorise the relation and yet lets the query pass.
-/
theorem query_allowed_of_not_introduced {sql name : String}
    (query : isSafeObjectlessStatement sql)
    (hidden : ¬ Introduced (tokenizeSql sql) name)
    (notAdmin : ¬ auth.isPlatformAdmin)
    (notAccountAdmin : toUppercase auth.role ≠ "ACCOUNTADMIN") :
    ∃ policy : ObjectPolicyStore,
      ¬ policy.privileges.Authorises auth.role .select .table name ∧
        policy.checkSql auth sql = .allow := by
  let grants := (analyzeSql sql).map fun req =>
    (req.privilege, req.objectType, req.objectName)
  refine ⟨⟨.granting auth.role grants⟩, ?_, ?_⟩
  · intro authorised
    rcases mem_of_granting_authorises notAccountAdmin authorised with
      ⟨grant, granted, named⟩
    rcases List.mem_map.mp granted with ⟨req, required, rfl⟩
    rcases mem_analyzeSql_of_query query required with
      ⟨other, introduced, rfl⟩
    rw [← named] at hidden
    exact hidden introduced
  · rw [checkSql_eq_allow_iff notAdmin]
    refine ⟨Or.inr query, ?_⟩
    intro req required
    exact granting_authorises (List.mem_map.mpr ⟨req, required, rfl⟩)

end OpenSnow.Server
