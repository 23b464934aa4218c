import OpenSnow.Foundation.Columns
import OpenSnow.Foundation.Keyed
import OpenSnow.Foundation.SeparatorJoin

/-!
# The SCIM tables

The SCIM tokens, users and groups of all accounts in the catalog, with the
statements that read and write them.
-/

namespace OpenSnow.Catalog.Scim

open Foundation
open Foundation.NumberedNames

/-! ## Tokens -/

structure ScimTokenSnapshot where
  id : String
  accountId : String
  label : String
  createdAt : String
  revokedAt : Option String
deriving DecidableEq, Repr

/-- A row of `scim_tokens`. -/
structure ScimTokenRecord where
  snapshot : ScimTokenSnapshot
  secretHash : String
deriving DecidableEq, Repr

def ScimTokenRecord.id (record : ScimTokenRecord) : String :=
  record.snapshot.id

/-- The token, revoked at a time. -/
def ScimTokenRecord.revoke (record : ScimTokenRecord) (now : String) :
    ScimTokenRecord :=
  { record with snapshot := { record.snapshot with revokedAt := some now } }

abbrev TokenTable := Keyed ScimTokenRecord.id

/-- The rows of an account. -/
def ofAccount {Row : Type} (owner : Row → String) (accountId : String)
    (rows : List Row) : List Row :=
  rows.filter fun row => owner row = accountId

/-- The id of a row by the number of rows that the account has. -/
def nextId {Row : Type} (kind : String) (owner : Row → String)
    (accountId : String) (rows : List Row) : String :=
  numbered kind accountId ((ofAccount owner accountId rows).length + 1)

def ScimTokenRecord.owner (record : ScimTokenRecord) : String :=
  record.snapshot.accountId

def nextScimTokenId (accountId : String) (tokens : TokenTable) : String :=
  nextId "sct_" ScimTokenRecord.owner accountId tokens.rows

/-- A row that is there keeps its account and its times. -/
def upsertScimToken (tokens : TokenTable) (record : ScimTokenRecord) :
    TokenTable :=
  tokens.put <|
    match tokens.find record.id with
    | some held =>
        { held with
          snapshot := { held.snapshot with label := record.snapshot.label }
          secretHash := record.secretHash }
    | none => record

/-- Revoke a token of an account, if there is one with the id. -/
def revokeScimToken (tokens : TokenTable) (accountId tokenId now : String) :
    Option TokenTable :=
  ((tokens.find tokenId).filter fun record => record.owner = accountId).map
    fun record => tokens.put (record.revoke now)

def listScimTokens (accountId : String) (tokens : TokenTable) :
    List ScimTokenSnapshot :=
  (orderBy ScimTokenRecord.id
    (ofAccount ScimTokenRecord.owner accountId tokens.rows)).map
    ScimTokenRecord.snapshot

def allScimTokens (tokens : TokenTable) : List ScimTokenRecord :=
  orderBy ScimTokenRecord.id tokens.rows

/-! ## Users -/

/-- A row of `scim_users`. -/
structure ScimUserRecord where
  id : String
  accountId : String
  userName : String
  displayName : Option String
  active : Bool
  lifecycle : String
  externalId : Option String
  createdAt : String
  updatedAt : String
deriving DecidableEq, Repr

/-- The primary key of a user. -/
def ScimUserRecord.key (user : ScimUserRecord) : String × String :=
  (user.accountId, user.id)

abbrev UserTable := Keyed ScimUserRecord.key

def nextScimUserId (accountId : String) (users : UserTable) : String :=
  nextId "scu_" ScimUserRecord.accountId accountId users.rows

def getScimUserByName (users : UserTable) (accountId userName : String) :
    Option ScimUserRecord :=
  users.rows.find? fun user =>
    user.accountId = accountId ∧ user.userName = userName

/-- Another user of the account has the name. -/
def nameTaken (users : UserTable) (user : ScimUserRecord) : Bool :=
  users.rows.any fun other =>
    other.accountId = user.accountId ∧ other.userName = user.userName ∧
      other.id ≠ user.id

/-- The row that an upsert leaves: it keeps the time of its creation. -/
def ScimUserRecord.over (user : ScimUserRecord)
    (held : Option ScimUserRecord) : ScimUserRecord :=
  { user with createdAt := (held.map (·.createdAt)).getD user.createdAt }

/-- The names of an account are unique, so that an upsert can fail. -/
def upsertScimUser (users : UserTable) (user : ScimUserRecord) :
    Option UserTable :=
  if nameTaken users user then none
  else some (users.put (user.over (users.find user.key)))

def listScimUsers (accountId : String) (filter : Option String)
    (users : UserTable) : List ScimUserRecord :=
  orderBy ScimUserRecord.userName
    ((ofAccount ScimUserRecord.accountId accountId users.rows).filter
      fun user => filter.all fun name => user.userName = name)

/-! ## Groups -/

/-- A row of `scim_groups`. -/
structure ScimGroupRecord where
  id : String
  accountId : String
  displayName : String
  role : String
  members : List String
  tombstoned : Bool
  createdAt : String
  updatedAt : String
deriving DecidableEq, Repr

/-- The primary key of a group. -/
def ScimGroupRecord.key (group : ScimGroupRecord) : String × String :=
  (group.accountId, group.id)

abbrev GroupTable := Keyed ScimGroupRecord.key

def nextScimGroupId (accountId : String) (groups : GroupTable) : String :=
  nextId "scg_" ScimGroupRecord.accountId accountId groups.rows

/-- The row that an upsert leaves: it keeps the time of its creation. -/
def ScimGroupRecord.over (group : ScimGroupRecord)
    (held : Option ScimGroupRecord) : ScimGroupRecord :=
  { group with createdAt := (held.map (·.createdAt)).getD group.createdAt }

def upsertScimGroup (groups : GroupTable) (group : ScimGroupRecord) :
    GroupTable :=
  groups.put (group.over (groups.find group.key))

def listScimGroups (accountId : String) (groups : GroupTable) :
    List ScimGroupRecord :=
  orderBy ScimGroupRecord.displayName
    (ofAccount ScimGroupRecord.accountId accountId groups.rows)

/-! ## All tables -/

structure ScimTables where
  tokens : TokenTable
  users : UserTable
  groups : GroupTable

def ScimTables.empty : ScimTables := ⟨.empty, .empty, .empty⟩

/-! ### The rows of an account -/

def usersOf (accountId : String) (users : UserTable) : List ScimUserRecord :=
  ofAccount ScimUserRecord.accountId accountId users.rows

def groupsOf (accountId : String) (groups : GroupTable) :
    List ScimGroupRecord :=
  ofAccount ScimGroupRecord.accountId accountId groups.rows

variable {users : UserTable} {user : ScimUserRecord}

theorem mem_usersOf {accountId : String} :
    user ∈ usersOf accountId users ↔
      user ∈ users.rows ∧ user.accountId = accountId := by
  rw [usersOf, ofAccount, List.mem_filter, decide_eq_true_eq]

theorem find_user (users : UserTable) (accountId userId : String) :
    users.find (accountId, userId) =
      (usersOf accountId users).find? fun user => user.id = userId := by
  rw [usersOf, ofAccount, List.find?_filter, Keyed.find]
  refine congrArg (fun wanted => users.rows.find? wanted) (funext fun user => ?_)
  simp [ScimUserRecord.key]

theorem find_group (groups : GroupTable) (accountId groupId : String) :
    groups.find (accountId, groupId) =
      (groupsOf accountId groups).find? fun group => group.id = groupId := by
  rw [groupsOf, ofAccount, List.find?_filter, Keyed.find]
  refine
    congrArg (fun wanted => groups.rows.find? wanted) (funext fun group => ?_)
  simp [ScimGroupRecord.key]

theorem find_name (users : UserTable) (accountId userName : String) :
    getScimUserByName users accountId userName =
      (usersOf accountId users).find? fun user => user.userName = userName := by
  rw [usersOf, ofAccount, List.find?_filter, getScimUserByName]
  refine congrArg (fun wanted => users.rows.find? wanted) (funext fun user => ?_)
  simp

theorem account_of_find {accountId userId : String}
    (found : users.find (accountId, userId) = some user) :
    user.accountId = accountId :=
  congrArg Prod.fst (Keyed.key_of_find found)

variable {groups : GroupTable} {group : ScimGroupRecord}

theorem account_of_find_group {accountId groupId : String}
    (found : groups.find (accountId, groupId) = some group) :
    group.accountId = accountId :=
  congrArg Prod.fst (Keyed.key_of_find found)

theorem usersOf_put {other : String} (foreign : user.accountId ≠ other) :
    usersOf other (users.put user) = usersOf other users := by
  refine Keyed.filter_put_of_not (decide_eq_false foreign) ?_
  intro held _ sameKey
  rw [show held.accountId = user.accountId from congrArg Prod.fst sameKey]
  exact decide_eq_false foreign

theorem groupsOf_put {other : String} (foreign : group.accountId ≠ other) :
    groupsOf other (groups.put group) = groupsOf other groups := by
  refine Keyed.filter_put_of_not (decide_eq_false foreign) ?_
  intro held _ sameKey
  rw [show held.accountId = group.accountId from congrArg Prod.fst sameKey]
  exact decide_eq_false foreign

theorem length_usersOf_put_new
    (absent : users.find user.key = none) (accountId : String) :
    (usersOf accountId (users.put user)).length =
      (usersOf accountId users).length +
        if user.accountId = accountId then 1 else 0 := by
  rw [usersOf, usersOf, Keyed.rows_put_of_absent absent, ofAccount, ofAccount,
    List.filter_append, List.length_append, List.filter_singleton]
  by_cases own : user.accountId = accountId
  · simp [own]
  · simp [own]

theorem length_usersOf_put_held
    {user held : ScimUserRecord} (found : users.find user.key = some held)
    (accountId : String) :
    (usersOf accountId (users.put user)).length =
      (usersOf accountId users).length := by
  refine Keyed.length_filter_put_of_held found ?_
  have sameAccount : held.accountId = user.accountId :=
    congrArg Prod.fst (Keyed.key_of_find found)
  rw [sameAccount]

theorem length_usersOf_le (users : UserTable) (user : ScimUserRecord)
    (accountId : String) :
    (usersOf accountId users).length ≤
      (usersOf accountId (users.put user)).length := by
  cases found : users.find user.key with
  | none =>
      rw [length_usersOf_put_new found]
      exact Nat.le_add_right _ _
  | some held => rw [length_usersOf_put_held found]

theorem length_groupsOf_put_new (absent : groups.find group.key = none)
    (accountId : String) :
    (groupsOf accountId (groups.put group)).length =
      (groupsOf accountId groups).length +
        if group.accountId = accountId then 1 else 0 := by
  rw [groupsOf, groupsOf, Keyed.rows_put_of_absent absent, ofAccount,
    ofAccount, List.filter_append, List.length_append, List.filter_singleton]
  by_cases own : group.accountId = accountId
  · simp [own]
  · simp [own]

theorem length_groupsOf_le (groups : GroupTable) (group : ScimGroupRecord)
    (accountId : String) :
    (groupsOf accountId groups).length ≤
      (groupsOf accountId (groups.put group)).length := by
  cases found : groups.find group.key with
  | none =>
      rw [length_groupsOf_put_new found]
      exact Nat.le_add_right _ _
  | some held =>
      refine Nat.le_of_eq (Keyed.length_filter_put_of_held found ?_).symm
      have sameAccount : held.accountId = group.accountId :=
        congrArg Prod.fst (Keyed.key_of_find found)
      rw [sameAccount]

end OpenSnow.Catalog.Scim
