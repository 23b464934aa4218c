import Mathlib.Logic.Function.Basic
import OpenSnow.Catalog.Scim
import OpenSnow.Rust.Json
import OpenSnow.Rust.Text

/-!
# The SCIM directory

Tokens, users and groups, kept in memory or in the catalog.  Every operation
is written twice: once for the catalog, when it opens, and once for the maps
of the process.

Rows of a hash map stand in the order in which the map is iterated.  Faults of
the catalog, the clock and the generated salts are parameters.  Audit events
are left out.
-/

namespace OpenSnow.Server.Scim

open Catalog.Scim
open Foundation
open Foundation.NumberedNames
open Rust
open Rust.Text

/-! ## States and moments -/

/-- The maps of the process, with the counters for new ids. -/
structure ScimDirectoryInner where
  tokenCounter : Nat
  userCounter : Nat
  groupCounter : Nat
  tokens : TokenTable
  users : UserTable
  /-- The id of the last user that was given a name. -/
  usersByName : String × String → Option String
  groups : GroupTable

def ScimDirectoryInner.empty : ScimDirectoryInner where
  tokenCounter := 0
  userCounter := 0
  groupCounter := 0
  tokens := .empty
  users := .empty
  usersByName := fun _ => none
  groups := .empty

/-- The maps of the process and the tables of the catalog. -/
structure ScimDirectory where
  inner : ScimDirectoryInner
  tables : ScimTables

def ScimDirectory.empty : ScimDirectory := ⟨.empty, .empty⟩

/-- A statement of the catalog that can fail. -/
inductive ScimOp where
  | nextTokenId
  | upsertToken
  | revokeToken
  | listTokens
  | allTokens
  | nextUserId
  | getUser
  | getUserByName
  | upsertUser
  | listUsers
  | nextGroupId
  | getGroup
  | upsertGroup
  | listGroups
deriving DecidableEq, Repr

/-- What a call meets outside the directory. -/
structure ScimMoment where
  /-- The directory is durable and its catalog opens. -/
  opens : Bool
  fails : ScimOp → Bool
  now : String

/-- The catalog opens and all its statements succeed. -/
def ScimMoment.Works (moment : ScimMoment) : Prop :=
  moment.opens ∧ ∀ op, moment.fails op = false

/-- A moment at which the catalog works. -/
def calm : ScimMoment := ⟨true, fun _ => false, "2026-01-01T00:00:00Z"⟩

/-- The answer of a query, or nothing when it fails. -/
def ScimMoment.answer {Answer : Type} (moment : ScimMoment) (op : ScimOp)
    (answer : Option Answer) : Option Answer :=
  if moment.fails op then none else answer

/-! ## Tokens -/

/-- What Argon2 and the random numbers contribute to a new token. -/
structure TokenCrypto where
  /-- The hash of a secret, with a salt of its own. -/
  hash : String → String
  /-- The salt of a new secret: base 64, without a dollar sign. -/
  salt : String
  plain : '_' ∉ salt.toList

structure ScimTokenIssue where
  id : String
  accountId : String
  label : String
  secret : String
  createdAt : String
deriving DecidableEq, Repr

/-- A blank label is replaced. -/
def tokenLabel (label : String) : String :=
  if (trim label.toList).isEmpty then "scim" else label

def tokenSecret (accountId : String) (counter : Nat) (salt : String) :
    String :=
  numbered "scim_" accountId counter ++ "_" ++ salt

namespace ScimDirectory

def tokenId (moment : ScimMoment) (accountId : String) (counter : Nat)
    (tables : ScimTables) : String :=
  if moment.opens ∧ ¬ moment.fails .nextTokenId then
    nextScimTokenId accountId tables.tokens
  else numbered "sct_" accountId counter

/--
Issue a token.  A catalog that does not take it is only warned about, also
when it does not open for the second time.
-/
def rotateToken (moment : ScimMoment) (crypto : TokenCrypto)
    (accountId label : String) (directory : ScimDirectory) :
    ScimTokenIssue × ScimDirectory :=
  let counter := directory.inner.tokenCounter + 1
  let id := tokenId moment accountId counter directory.tables
  let secret := tokenSecret accountId counter crypto.salt
  let record : ScimTokenRecord :=
    { snapshot :=
        { id, accountId, label := tokenLabel label
          createdAt := moment.now, revokedAt := none }
      secretHash := crypto.hash secret }
  let inner :=
    { directory.inner with
      tokenCounter := counter, tokens := directory.inner.tokens.put record }
  let tables :=
    if moment.opens ∧ ¬ moment.fails .upsertToken then
      { directory.tables with
        tokens := upsertScimToken directory.tables.tokens record }
    else directory.tables
  (⟨id, accountId, tokenLabel label, secret, moment.now⟩, ⟨inner, tables⟩)

def unknownToken (tokenId : String) : String :=
  "unknown SCIM token: " ++ tokenId

/-- The part of `revoke_token` that the catalog does. -/
def revokeStored (moment : ScimMoment) (accountId tokenId : String)
    (directory : ScimDirectory) : Except String Unit × ScimDirectory :=
  if moment.opens ∧ ¬ moment.fails .revokeToken then
    match revokeScimToken directory.tables.tokens accountId tokenId
        moment.now with
    | some tokens =>
        (.ok (), { directory with tables := { directory.tables with tokens } })
    | none => (.error (unknownToken tokenId), directory)
  else (.ok (), directory)

/-- Revoke a token that the map of the process knows. -/
def revokeToken (moment : ScimMoment) (accountId tokenId : String)
    (directory : ScimDirectory) : Except String Unit × ScimDirectory :=
  match directory.inner.tokens.find tokenId with
  | none => (.error (unknownToken tokenId), directory)
  | some record =>
      if record.owner ≠ accountId then
        (.error "SCIM token account mismatch", directory)
      else
        revokeStored moment accountId tokenId
          { directory with
            inner :=
              { directory.inner with
                tokens :=
                  directory.inner.tokens.put (record.revoke moment.now) } }

/-- The tokens in the map, by their times and their ids. -/
def memoryTokens (accountId : String) (tokens : TokenTable) :
    List ScimTokenSnapshot :=
  (((ofAccount ScimTokenRecord.owner accountId tokens.rows).map
      ScimTokenRecord.snapshot).insertionSort fun left right =>
    left.createdAt < right.createdAt ∨
      left.createdAt = right.createdAt ∧ left.id ≤ right.id)

def listTokens (moment : ScimMoment) (accountId : String)
    (directory : ScimDirectory) : List ScimTokenSnapshot :=
  if moment.opens ∧ ¬ moment.fails .listTokens then
    listScimTokens accountId directory.tables.tokens
  else memoryTokens accountId directory.inner.tokens

/-- The token is not revoked and the secret fits it. -/
def fits (verify : String → String → Bool) (secret : String)
    (record : ScimTokenRecord) : Bool :=
  record.snapshot.revokedAt.isNone && verify record.secretHash secret

def authenticateToken (moment : ScimMoment)
    (verify : String → String → Bool) (secret : String)
    (directory : ScimDirectory) : Option ScimTokenSnapshot :=
  ((if moment.opens ∧ ¬ moment.fails .allTokens then
      allScimTokens directory.tables.tokens
    else directory.inner.tokens.rows).find? (fits verify secret)).map
    ScimTokenRecord.snapshot

/-! ## Users -/

/-- A text field of a payload. -/
def textField (payload : Json.Value) (field : String) : Option String :=
  (payload.get field).bind Json.Value.asStr

/-- The name that a payload asks for, in lower case; blank if it names none. -/
def requestedUserName (payload : Json.Value) : String :=
  toAsciiLowercase
    (String.ofList (trim ((textField payload "userName").getD "").toList))

def requestedActive (payload : Json.Value) : Bool :=
  ((payload.get "active").bind Json.Value.asBool).getD true

def lifecycleOf (active : Bool) : String :=
  if active then "active" else "deactivated"

/-- The user that a payload describes, over the one that is there. -/
def userOf (accountId id requested : String)
    (existing : Option ScimUserRecord) (payload : Json.Value) (now : String) :
    ScimUserRecord where
  id := id
  accountId := accountId
  userName :=
    if requested.isEmpty then (existing.map (·.userName)).getD id
    else requested
  displayName :=
    (textField payload "displayName").or (existing.bind (·.displayName))
  active := requestedActive payload
  lifecycle := lifecycleOf (requestedActive payload)
  externalId := textField payload "externalId"
  createdAt := (existing.map (·.createdAt)).getD now
  updatedAt := now

/-- The user that the catalog finds for an upsert, by id or by name. -/
def durableUser (moment : ScimMoment) (accountId : String)
    (id : Option String) (requested : String) (users : UserTable) :
    Option ScimUserRecord :=
  (id.bind fun id => moment.answer .getUser (users.find (accountId, id))).or
    (if requested.isEmpty then none
    else
      moment.answer .getUserByName
        (getScimUserByName users accountId requested))

/-- An id from the catalog, or one with the time in it. -/
def durableUserId (moment : ScimMoment) (accountId : String)
    (users : UserTable) : String :=
  (moment.answer .nextUserId (some (nextScimUserId accountId users))).getD
    ("usr_" ++ accountId ++ "_" ++ moment.now)

/-- What the catalog keeps of a user; a failure is only warned about. -/
def storeUser (moment : ScimMoment) (user : ScimUserRecord)
    (users : UserTable) : UserTable :=
  (moment.answer .upsertUser (upsertScimUser users user)).getD users

def durableUpsertUser (moment : ScimMoment) (accountId : String)
    (id : Option String) (payload : Json.Value) (users : UserTable) :
    ScimUserRecord × UserTable :=
  let requested := requestedUserName payload
  let existing := durableUser moment accountId id requested users
  let newId :=
    (id.or (existing.map (·.id))).getD (durableUserId moment accountId users)
  let user := userOf accountId newId requested existing payload moment.now
  (user, storeUser moment user users)

/-- The id of a user that the maps know, by id or by name. -/
def knownUserId (inner : ScimDirectoryInner) (accountId : String)
    (id : Option String) (requested : String) : Option String :=
  id.or (inner.usersByName (accountId, requested))

def memoryUserId (accountId : String) (counter : Nat) : String :=
  numbered "usr_" accountId counter

def memoryUpsertUser (moment : ScimMoment) (accountId : String)
    (id : Option String) (payload : Json.Value)
    (inner : ScimDirectoryInner) : ScimUserRecord × ScimDirectoryInner :=
  let requested := requestedUserName payload
  let known := knownUserId inner accountId id requested
  let counter :=
    if known.isSome then inner.userCounter else inner.userCounter + 1
  let newId := known.getD (memoryUserId accountId counter)
  let user :=
    userOf accountId newId requested (inner.users.find (accountId, newId))
      payload moment.now
  (user,
    { inner with
      userCounter := counter
      usersByName :=
        Function.update inner.usersByName (accountId, user.userName)
          (some newId)
      users := inner.users.put user })

/-- Change the users in the catalog, which gives a result as well. -/
def withUsers {Result : Type} (directory : ScimDirectory)
    (change : UserTable → Result × UserTable) : Result × ScimDirectory :=
  let (result, users) := change directory.tables.users
  (result, { directory with tables := { directory.tables with users } })

def withInner {Result : Type} (directory : ScimDirectory)
    (change : ScimDirectoryInner → Result × ScimDirectoryInner) :
    Result × ScimDirectory :=
  let (result, inner) := change directory.inner
  (result, { directory with inner })

def upsertUser (moment : ScimMoment) (accountId : String)
    (id : Option String) (payload : Json.Value)
    (directory : ScimDirectory) : ScimUserRecord × ScimDirectory :=
  if moment.opens then
    withUsers directory (durableUpsertUser moment accountId id payload)
  else withInner directory (memoryUpsertUser moment accountId id payload)

/-- The user with another lifecycle. -/
def activated (active : Bool) (now : String) (user : ScimUserRecord) :
    ScimUserRecord :=
  { user with active, lifecycle := lifecycleOf active, updatedAt := now }

def durableSetUserActive (moment : ScimMoment) (accountId userId : String)
    (active : Bool) (users : UserTable) :
    Option ScimUserRecord × UserTable :=
  match moment.answer .getUser (users.find (accountId, userId)) with
  | none => (none, users)
  | some held =>
      let user := activated active moment.now held
      (some user, storeUser moment user users)

def memorySetUserActive (moment : ScimMoment) (accountId userId : String)
    (active : Bool) (inner : ScimDirectoryInner) :
    Option ScimUserRecord × ScimDirectoryInner :=
  match inner.users.find (accountId, userId) with
  | none => (none, inner)
  | some held =>
      let user := activated active moment.now held
      (some user, { inner with users := inner.users.put user })

def setUserActive (moment : ScimMoment) (accountId userId : String)
    (active : Bool) (directory : ScimDirectory) :
    Option ScimUserRecord × ScimDirectory :=
  if moment.opens then
    withUsers directory (durableSetUserActive moment accountId userId active)
  else
    withInner directory (memorySetUserActive moment accountId userId active)

def userSnapshot (moment : ScimMoment) (accountId userId : String)
    (directory : ScimDirectory) : Option ScimUserRecord :=
  if moment.opens then
    moment.answer .getUser
      (directory.tables.users.find (accountId, userId))
  else directory.inner.users.find (accountId, userId)

/-- The users in the map by their names; a filter has no letter case. -/
def memoryUsers (accountId : String) (filter : Option String)
    (users : UserTable) : List ScimUserRecord :=
  listScimUsers accountId (filter.map toAsciiLowercase) users

def listUsers (moment : ScimMoment) (accountId : String)
    (filter : Option String) (directory : ScimDirectory) :
    List ScimUserRecord :=
  if moment.opens ∧ ¬ moment.fails .listUsers then
    listScimUsers accountId filter directory.tables.users
  else memoryUsers accountId filter directory.inner.users

/-! ## Groups -/

def normalizeScimRole (displayName : String) : String :=
  let upper :=
    toAsciiUppercase (String.ofList (trim displayName.toList))
  if upper = "ACCOUNTOWNER" ∨ upper = "ACCOUNT_OWNER" ∨ upper = "OWNER" then
    "ACCOUNTOWNER"
  else if upper = "ACCOUNTADMIN" ∨ upper = "ACCOUNT_ADMIN" ∨
      upper = "ADMIN" then
    "ACCOUNTADMIN"
  else if upper = "SYSADMIN" then "SYSADMIN"
  else if upper = "ANALYST" then "ANALYST"
  else
    toAsciiUppercase (String.ofList (upper.toList.map fun ch =>
      if ch = ' ' ∨ ch = '-' then '_' else ch))

/-- The members that a payload names, if it has a list of them. -/
def requestedMembers (payload : Json.Value) : Option (List String) :=
  ((payload.get "members").bind Json.Value.asArray).map fun members =>
    members.filterMap fun member => textField member "value"

def requestedDisplayName (payload : Json.Value) : String :=
  (textField payload "displayName").getD "SCIM"

/-- The group that a payload describes, over the one that is there. -/
def groupOf (accountId id : String) (existing : Option ScimGroupRecord)
    (payload : Json.Value) (now : String) : ScimGroupRecord where
  id := id
  accountId := accountId
  displayName := requestedDisplayName payload
  role := normalizeScimRole (requestedDisplayName payload)
  members :=
    (requestedMembers payload).getD ((existing.map (·.members)).getD [])
  tombstoned := false
  createdAt := (existing.map (·.createdAt)).getD now
  updatedAt := now

/-- An id from the catalog, or one with the time in it. -/
def durableGroupId (moment : ScimMoment) (accountId : String)
    (groups : GroupTable) : String :=
  (moment.answer .nextGroupId (some (nextScimGroupId accountId groups))).getD
    ("grp_" ++ accountId ++ "_" ++ moment.now)

/-- What the catalog keeps of a group; a failure is only warned about. -/
def storeGroup (moment : ScimMoment) (group : ScimGroupRecord)
    (groups : GroupTable) : GroupTable :=
  (moment.answer .upsertGroup (some (upsertScimGroup groups group))).getD
    groups

def durableUpsertGroup (moment : ScimMoment) (accountId : String)
    (id : Option String) (payload : Json.Value) (groups : GroupTable) :
    ScimGroupRecord × GroupTable :=
  let existing :=
    id.bind fun id => moment.answer .getGroup (groups.find (accountId, id))
  let newId := id.getD (durableGroupId moment accountId groups)
  let group := groupOf accountId newId existing payload moment.now
  (group, storeGroup moment group groups)

def memoryGroupId (accountId : String) (counter : Nat) : String :=
  numbered "grp_" accountId counter

def memoryUpsertGroup (moment : ScimMoment) (accountId : String)
    (id : Option String) (payload : Json.Value)
    (inner : ScimDirectoryInner) : ScimGroupRecord × ScimDirectoryInner :=
  let counter :=
    if id.isSome then inner.groupCounter else inner.groupCounter + 1
  let newId := id.getD (memoryGroupId accountId counter)
  let group :=
    groupOf accountId newId (inner.groups.find (accountId, newId)) payload
      moment.now
  (group,
    { inner with groupCounter := counter, groups := inner.groups.put group })

def withGroups {Result : Type} (directory : ScimDirectory)
    (change : GroupTable → Result × GroupTable) : Result × ScimDirectory :=
  let (result, groups) := change directory.tables.groups
  (result, { directory with tables := { directory.tables with groups } })

def upsertGroup (moment : ScimMoment) (accountId : String)
    (id : Option String) (payload : Json.Value)
    (directory : ScimDirectory) : ScimGroupRecord × ScimDirectory :=
  if moment.opens then
    withGroups directory (durableUpsertGroup moment accountId id payload)
  else withInner directory (memoryUpsertGroup moment accountId id payload)

/-- The group without its members, marked as deleted. -/
def tombstone (now : String) (group : ScimGroupRecord) : ScimGroupRecord :=
  { group with tombstoned := true, members := [], updatedAt := now }

def durableTombstoneGroup (moment : ScimMoment) (accountId groupId : String)
    (groups : GroupTable) : Option ScimGroupRecord × GroupTable :=
  match moment.answer .getGroup (groups.find (accountId, groupId)) with
  | none => (none, groups)
  | some held =>
      let group := tombstone moment.now held
      (some group, storeGroup moment group groups)

def memoryTombstoneGroup (moment : ScimMoment) (accountId groupId : String)
    (inner : ScimDirectoryInner) :
    Option ScimGroupRecord × ScimDirectoryInner :=
  match inner.groups.find (accountId, groupId) with
  | none => (none, inner)
  | some held =>
      let group := tombstone moment.now held
      (some group, { inner with groups := inner.groups.put group })

def tombstoneGroup (moment : ScimMoment) (accountId groupId : String)
    (directory : ScimDirectory) :
    Option ScimGroupRecord × ScimDirectory :=
  if moment.opens then
    withGroups directory (durableTombstoneGroup moment accountId groupId)
  else withInner directory (memoryTombstoneGroup moment accountId groupId)

def groupSnapshot (moment : ScimMoment) (accountId groupId : String)
    (directory : ScimDirectory) : Option ScimGroupRecord :=
  if moment.opens then
    moment.answer .getGroup
      (directory.tables.groups.find (accountId, groupId))
  else directory.inner.groups.find (accountId, groupId)

/-- The groups in the map by their names, without the deleted ones. -/
def memoryGroups (accountId : String) (groups : GroupTable) :
    List ScimGroupRecord :=
  orderBy ScimGroupRecord.displayName
    ((ofAccount ScimGroupRecord.accountId accountId groups.rows).filter
      fun group => !group.tombstoned)

def listGroups (moment : ScimMoment) (accountId : String)
    (directory : ScimDirectory) : List ScimGroupRecord :=
  if moment.opens ∧ ¬ moment.fails .listGroups then
    listScimGroups accountId directory.tables.groups
  else memoryGroups accountId directory.inner.groups

end ScimDirectory

end OpenSnow.Server.Scim
