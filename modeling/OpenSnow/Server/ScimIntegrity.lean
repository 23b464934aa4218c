import OpenSnow.Foundation.Runs
import OpenSnow.Server.ScimMemory

/-!
# Integrity of the SCIM directory

What a POST adds, how names and ids find users, and what a snapshot reads
after an upsert.  New ids are made from counters, which do not know the ids
that a PUT brought in; the maps take a name that another user has, and keep
the names that users had before; the catalog refuses such names and can fail,
and the answer does not show it.
-/

namespace OpenSnow.Server.Scim

open Catalog.Scim
open Foundation
open Rust
open ScimDirectory

/-! ## What is promised -/

/-- A new row, beside all the rows that were there. -/
structure Added {Row Key : Type} [DecidableEq Key] {key : Row → Key}
    (row : Row) (before after : Keyed key) : Prop where
  fresh : before.find (key row) = none
  rows : ∀ other, other ∈ after.rows ↔ other = row ∨ other ∈ before.rows

/-- The users that a call works on. -/
def usersAt (moment : ScimMoment) (directory : ScimDirectory) : UserTable :=
  if moment.opens then directory.tables.users else directory.inner.users

/-- The groups that a call works on. -/
def groupsAt (moment : ScimMoment) (directory : ScimDirectory) : GroupTable :=
  if moment.opens then directory.tables.groups else directory.inner.groups

/-- The user that a name leads to in the maps. -/
def memoryUserByName (inner : ScimDirectoryInner)
    (accountId userName : String) : Option ScimUserRecord :=
  (inner.usersByName (accountId, userName)).bind fun userId =>
    inner.users.find (accountId, userId)

def userByNameAt (moment : ScimMoment) (directory : ScimDirectory)
    (accountId userName : String) : Option ScimUserRecord :=
  if moment.opens then
    getScimUserByName directory.tables.users accountId userName
  else memoryUserByName directory.inner accountId userName

/-- No two users of an account have the same name. -/
def UniqueNames (users : UserTable) : Prop :=
  ∀ accountId, ∀ user ∈ usersOf accountId users,
    ∀ other ∈ usersOf accountId users,
      user.userName = other.userName → user = other

instance (users : UserTable) : Decidable (UniqueNames users) :=
  decidable_of_iff
    (∀ user ∈ users.rows, ∀ other ∈ users.rows,
      user.accountId = other.accountId →
        user.userName = other.userName → user = other)
    ⟨fun unique _ user member other otherMember =>
        unique user (mem_usersOf.mp member).1 other
          (mem_usersOf.mp otherMember).1
          ((mem_usersOf.mp member).2.trans
            (mem_usersOf.mp otherMember).2.symm),
      fun unique user member other otherMember sameAccount =>
        unique other.accountId user (mem_usersOf.mpr ⟨member, sameAccount⟩)
          other (mem_usersOf.mpr ⟨otherMember, rfl⟩)⟩

/-- Names belong to one user, and lead to the same record as its id. -/
structure NamesAgree (moment : ScimMoment) (directory : ScimDirectory) :
    Prop where
  unique : UniqueNames (usersAt moment directory)
  byName : ∀ accountId, ∀ user ∈ usersOf accountId (usersAt moment directory),
    userByNameAt moment directory accountId user.userName =
      (usersAt moment directory).find (accountId, user.id)
  byId : ∀ accountId userName user,
    userByNameAt moment directory accountId userName = some user →
      (usersAt moment directory).find (accountId, user.id) = some user

/-- No user of the account has the name. -/
def Unnamed (users : UserTable) (accountId name : String) : Prop :=
  ∀ user ∈ usersOf accountId users, user.userName ≠ name

/--
A POST of a name that nobody has adds a user, and the snapshots of the same
directory read the returned record, unless they fail.
-/
structure UserUpserted (moment : ScimMoment) (accountId : String)
    (id : Option String) (payload : Json.Value) (before : ScimDirectory)
    (user : ScimUserRecord) (after : ScimDirectory) : Prop where
  added : id = none →
    Unnamed (usersAt moment before) accountId (requestedUserName payload) →
      Added user (usersAt moment before) (usersAt moment after) ∧
        groupsAt moment after = groupsAt moment before
  read : ∀ later : ScimMoment, later.opens = moment.opens →
    later.fails .getUser = false →
      userSnapshot later accountId user.id after = some user

structure GroupUpserted (moment : ScimMoment) (accountId : String)
    (id : Option String) (before : ScimDirectory) (group : ScimGroupRecord)
    (after : ScimDirectory) : Prop where
  added : id = none →
    Added group (groupsAt moment before) (groupsAt moment after) ∧
      usersAt moment after = usersAt moment before
  read : ∀ later : ScimMoment, later.opens = moment.opens →
    later.fails .getGroup = false →
      groupSnapshot later accountId group.id after = some group

/-- What a call that upserts leaves. -/
def Upserted (directory : ScimDirectory) (step : DirectoryStep) : Prop :=
  match step.call with
  | .upsertUser accountId id payload =>
      let (user, after) :=
        upsertUser step.moment accountId id payload directory
      UserUpserted step.moment accountId id payload directory user after
  | .upsertGroup accountId id payload =>
      let (group, after) :=
        upsertGroup step.moment accountId id payload directory
      GroupUpserted step.moment accountId id directory group after
  | _ => True

def performed (directory : ScimDirectory) (step : DirectoryStep) :
    ScimDirectory :=
  (perform step.moment directory step.call).2

/-- Names agree before the call, and it leaves what is promised of upserts. -/
def Sound (directory : ScimDirectory) (step : DirectoryStep) : Prop :=
  (∀ moment, NamesAgree moment directory) ∧ Upserted directory step

/-! ## When it holds -/

/-- No user of the account, but the one with the id, has the name. -/
def NameFree (users : UserTable) (accountId userId name : String) : Prop :=
  ∀ user ∈ usersOf accountId users, user.userName = name → user.id = userId

/-- The name that a payload gives to the user with the id. -/
def wantedName (users : UserTable) (accountId userId : String)
    (payload : Json.Value) : String :=
  if (requestedUserName payload).isEmpty then
    ((users.find (accountId, userId)).map (·.userName)).getD userId
  else requestedUserName payload

/-- No user has the id, and none the name that a user with it gets. -/
def Vacant (users : UserTable) (accountId userId : String)
    (payload : Json.Value) : Prop :=
  users.find (accountId, userId) = none ∧
    NameFree users accountId userId
      (wantedName users accountId userId payload)

instance (users : UserTable) (accountId name : String) :
    Decidable (Unnamed users accountId name) :=
  inferInstanceAs
    (Decidable (∀ user ∈ usersOf accountId users, user.userName ≠ name))

instance (users : UserTable) (accountId userId name : String) :
    Decidable (NameFree users accountId userId name) :=
  inferInstanceAs
    (Decidable (∀ user ∈ usersOf accountId users,
      user.userName = name → user.id = userId))

instance (users : UserTable) (accountId userId : String)
    (payload : Json.Value) :
    Decidable (Vacant users accountId userId payload) :=
  inferInstanceAs (Decidable (_ ∧ _))

/--
The catalog takes the user: the write succeeds, no other user has the name, a
user that is there can be read, and the id of a new one is vacant.
-/
def TablesSpare (moment : ScimMoment) (accountId : String)
    (payload : Json.Value) (users : UserTable) : Option String → Prop
  | some userId =>
      moment.fails .upsertUser = false ∧
        (moment.fails .getUser → users.find (accountId, userId) = none) ∧
          NameFree users accountId userId
            (wantedName users accountId userId payload)
  | none =>
      moment.fails .upsertUser = false ∧
        if (requestedUserName payload).isEmpty ∨
            Unnamed users accountId (requestedUserName payload) then
          Vacant users accountId (durableUserId moment accountId users)
            payload
        else moment.fails .getUserByName = false

/--
The maps take the user: no other user has the name, no user had it that has
another name now, and the id of a new one is vacant.
-/
def MapsSpare (accountId : String) (payload : Json.Value)
    (inner : ScimDirectoryInner) : Option String → Prop
  | some userId =>
      NameFree inner.users accountId userId
        (wantedName inner.users accountId userId payload)
  | none =>
      Unnamed inner.users accountId (requestedUserName payload) →
        inner.usersByName (accountId, requestedUserName payload) = none ∧
          Vacant inner.users accountId
            (memoryUserId accountId (inner.userCounter + 1)) payload

instance (moment : ScimMoment) (accountId : String) (payload : Json.Value)
    (users : UserTable) :
    DecidablePred (TablesSpare moment accountId payload users)
  | some _ => inferInstanceAs (Decidable (_ ∧ _ ∧ _))
  | none => inferInstanceAs (Decidable (_ ∧ ite _ _ _))

instance (accountId : String) (payload : Json.Value)
    (inner : ScimDirectoryInner) :
    DecidablePred (MapsSpare accountId payload inner)
  | some _ => inferInstanceAs (Decidable (NameFree ..))
  | none => inferInstanceAs (Decidable (_ → _ ∧ _))

def GroupTablesSpare (moment : ScimMoment) (accountId : String)
    (groups : GroupTable) : Option String → Prop
  | some groupId =>
      moment.fails .upsertGroup = false ∧
        (moment.fails .getGroup → groups.find (accountId, groupId) = none)
  | none =>
      moment.fails .upsertGroup = false ∧
        groups.find (accountId, durableGroupId moment accountId groups) = none

def GroupMapsSpare (accountId : String) (inner : ScimDirectoryInner) :
    Option String → Prop
  | some _ => True
  | none =>
      inner.groups.find
        (accountId, memoryGroupId accountId (inner.groupCounter + 1)) = none

instance (moment : ScimMoment) (accountId : String) (groups : GroupTable) :
    DecidablePred (GroupTablesSpare moment accountId groups)
  | some _ => inferInstanceAs (Decidable (_ ∧ _))
  | none => inferInstanceAs (Decidable (_ ∧ _))

instance (accountId : String) (inner : ScimDirectoryInner) :
    DecidablePred (GroupMapsSpare accountId inner)
  | some _ => inferInstanceAs (Decidable True)
  | none => inferInstanceAs (Decidable (_ = _))

/-- The call meets none of the ways in which an upsert goes wrong. -/
def Spares (directory : ScimDirectory) (step : DirectoryStep) : Prop :=
  match step.call with
  | .upsertUser accountId id payload =>
      if step.moment.opens then
        TablesSpare step.moment accountId payload directory.tables.users id
      else MapsSpare accountId payload directory.inner id
  | .upsertGroup accountId id _ =>
      if step.moment.opens then
        GroupTablesSpare step.moment accountId directory.tables.groups id
      else GroupMapsSpare accountId directory.inner id
  | _ => True

instance (directory : ScimDirectory) : DecidablePred (Spares directory)
  | ⟨_, .upsertUser ..⟩ => inferInstanceAs (Decidable (ite _ _ _))
  | ⟨_, .upsertGroup ..⟩ => inferInstanceAs (Decidable (ite _ _ _))
  | ⟨_, .setUserActive ..⟩ => inferInstanceAs (Decidable True)
  | ⟨_, .userSnapshot ..⟩ => inferInstanceAs (Decidable True)
  | ⟨_, .listUsers ..⟩ => inferInstanceAs (Decidable True)
  | ⟨_, .tombstoneGroup ..⟩ => inferInstanceAs (Decidable True)
  | ⟨_, .groupSnapshot ..⟩ => inferInstanceAs (Decidable True)
  | ⟨_, .listGroups ..⟩ => inferInstanceAs (Decidable True)

/-! ## Rows and names -/

theorem Added.put {Row Key : Type} [DecidableEq Key] {key : Row → Key}
    {table : Keyed key} {row : Row} (fresh : table.find (key row) = none) :
    Added row table (table.put row) where
  fresh := fresh
  rows other := by
    rw [Keyed.mem_put]
    constructor
    · rintro (rfl | ⟨earlier, -⟩)
      · exact Or.inl rfl
      · exact Or.inr earlier
    · rintro (rfl | earlier)
      · exact Or.inl rfl
      · exact Or.inr ⟨earlier, Keyed.find_eq_none.mp fresh other earlier⟩

section Users

variable {users : UserTable} {accountId userId now : String}
  {payload : Json.Value}

theorem UniqueNames.eq (unique : UniqueNames users)
    {user other : ScimUserRecord} (member : user ∈ users.rows)
    (otherMember : other ∈ users.rows)
    (sameAccount : user.accountId = other.accountId)
    (sameName : user.userName = other.userName) : user = other :=
  unique other.accountId user (mem_usersOf.mpr ⟨member, sameAccount⟩) other
    (mem_usersOf.mpr ⟨otherMember, rfl⟩) sameName

variable {user : ScimUserRecord}

theorem find_of_usersOf (member : user ∈ usersOf accountId users) :
    users.find (accountId, user.id) = some user := by
  obtain ⟨isRow, rfl⟩ := mem_usersOf.mp member
  exact Keyed.find_of_mem isRow

theorem usersOf_of_find (found : users.find (accountId, userId) = some user) :
    user ∈ usersOf accountId users :=
  mem_usersOf.mpr ⟨Keyed.mem_of_find found, account_of_find found⟩

theorem name_eq_none {name : String} :
    getScimUserByName users accountId name = none ↔
      Unnamed users accountId name := by
  rw [find_name, List.find?_eq_none]
  exact forall₂_congr fun user _ => not_congr decide_eq_true_iff

theorem named_of_name {name : String}
    (found : getScimUserByName users accountId name = some user) :
    user ∈ usersOf accountId users ∧ user.userName = name := by
  rw [find_name] at found
  have named := List.find?_some found
  exact ⟨List.mem_of_find?_eq_some found, of_decide_eq_true named⟩

theorem UniqueNames.byName (unique : UniqueNames users)
    (member : user ∈ usersOf accountId users) :
    getScimUserByName users accountId user.userName =
      users.find (accountId, user.id) := by
  obtain ⟨other, found⟩ := Option.ne_none_iff_exists'.mp
    fun missing => name_eq_none.mp missing user member rfl
  obtain ⟨otherMember, sameName⟩ := named_of_name found
  rw [found, find_of_usersOf member,
    unique accountId other otherMember user member sameName]

/-- The user that an upsert writes at an id. -/
def writtenUser (users : UserTable) (accountId userId : String)
    (payload : Json.Value) (now : String) : ScimUserRecord :=
  userOf accountId userId (requestedUserName payload)
    (users.find (accountId, userId)) payload now

theorem writtenUser_userName :
    (writtenUser users accountId userId payload now).userName =
      wantedName users accountId userId payload := by
  rw [writtenUser, userOf, wantedName]

theorem wantedName_of_named (member : user ∈ usersOf accountId users)
    (named : user.userName = requestedUserName payload) :
    wantedName users accountId user.id payload = user.userName := by
  rw [wantedName, find_of_usersOf member, Option.map_some, Option.getD_some,
    named, ite_self]

theorem wantedName_of_nonblank
    (named : (requestedUserName payload).isEmpty = false) :
    wantedName users accountId userId payload = requestedUserName payload := by
  rw [wantedName, if_neg (by rw [named]; exact Bool.false_ne_true)]

theorem nameFree_of_named (unique : UniqueNames users)
    (member : user ∈ usersOf accountId users)
    (named : user.userName = requestedUserName payload) :
    NameFree users accountId user.id
      (wantedName users accountId user.id payload) := by
  intro other otherMember sameName
  rw [wantedName_of_named member named] at sameName
  rw [unique accountId other otherMember user member sameName]

/-! ### What the catalog keeps -/

theorem not_nameTaken
    (free : NameFree users user.accountId user.id user.userName) :
    nameTaken users user = false := by
  rw [nameTaken, List.any_eq_false]
  intro other member
  rw [decide_eq_true_iff]
  rintro ⟨sameAccount, sameName, differs⟩
  exact differs
    (free other (mem_usersOf.mpr ⟨member, sameAccount⟩) sameName)

theorem over_eq_self {held : Option ScimUserRecord}
    (same : ∀ row ∈ held, row.createdAt = user.createdAt) :
    user.over held = user := by
  cases held with
  | none => rfl
  | some row => rw [ScimUserRecord.over, Option.map_some, Option.getD_some,
      same row rfl]

theorem storeUser_written {moment : ScimMoment}
    (succeeds : moment.fails .upsertUser = false)
    (free : NameFree users accountId userId
      (wantedName users accountId userId payload)) :
    storeUser moment (writtenUser users accountId userId payload now) users =
      users.put (writtenUser users accountId userId payload now) := by
  have untaken : nameTaken users
      (writtenUser users accountId userId payload now) = false :=
    not_nameTaken (writtenUser_userName ▸ free)
  have created : ∀ row ∈ users.find
      (writtenUser users accountId userId payload now).key,
        row.createdAt =
          (writtenUser users accountId userId payload now).createdAt := by
    intro row found
    have same : users.find (accountId, userId) = some row := found
    rw [writtenUser, same]
    rfl
  rw [storeUser, ScimMoment.answer, succeeds, if_neg Bool.false_ne_true, upsertScimUser,
    untaken, if_neg Bool.false_ne_true, Option.getD_some, over_eq_self created]

/-- The catalog refuses a name that another user of the account has. -/
theorem UniqueNames.storeUser (unique : UniqueNames users)
    (moment : ScimMoment) (user : ScimUserRecord) :
    UniqueNames (storeUser moment user users) := by
  unfold ScimDirectory.storeUser ScimMoment.answer upsertScimUser
  split_ifs with fails taken
  · exact unique
  · exact unique
  · rw [Option.getD_some]
    have others : ∀ other ∈ users.rows, other.key ≠ user.key →
        other.accountId = user.accountId → other.userName ≠ user.userName := by
      intro other member differs sameAccount sameName
      refine taken (List.any_eq_true.mpr
        ⟨other, member, decide_eq_true ⟨sameAccount, sameName, ?_⟩⟩)
      exact fun sameId => differs (Prod.ext sameAccount sameId)
    intro owner first firstMember second secondMember sameName
    obtain ⟨firstRow, firstOwner⟩ := mem_usersOf.mp firstMember
    obtain ⟨secondRow, secondOwner⟩ := mem_usersOf.mp secondMember
    rcases Keyed.mem_put.mp firstRow with rfl | ⟨firstHeld, firstKey⟩
    · rcases Keyed.mem_put.mp secondRow with rfl | ⟨secondHeld, secondKey⟩
      · rfl
      · exact absurd sameName.symm
          (others second secondHeld secondKey
            (secondOwner.trans firstOwner.symm))
    · rcases Keyed.mem_put.mp secondRow with rfl | ⟨secondHeld, secondKey⟩
      · exact absurd sameName
          (others first firstHeld firstKey
            (firstOwner.trans secondOwner.symm))
      · exact unique.eq firstHeld secondHeld
          (firstOwner.trans secondOwner.symm) sameName

end Users

/-! ## One upsert of a user -/

/-- The upsert puts its user at an id, where no other user has the name. -/
structure Written (now accountId : String) (id : Option String)
    (payload : Json.Value) (users : UserTable) (userId : String)
    (user : ScimUserRecord) (after : UserTable) : Prop where
  user_eq : user = writtenUser users accountId userId payload now
  after_eq : after = users.put user
  free : NameFree users accountId userId
    (wantedName users accountId userId payload)
  fresh : id = none →
    Unnamed users accountId (requestedUserName payload) →
      users.find (accountId, userId) = none

theorem ScimMoment.answer_none {Answer : Type} (moment : ScimMoment)
    (op : ScimOp) : moment.answer op (none : Option Answer) = none := by
  rw [ScimMoment.answer, ite_self]

variable {moment : ScimMoment}

theorem ScimMoment.answer_of_works {Answer : Type}
    {op : ScimOp} (works : moment.fails op = false)
    (answer : Option Answer) : moment.answer op answer = answer := by
  rw [ScimMoment.answer, works, if_neg Bool.false_ne_true]

/-- A query that fails only where it would find nothing. -/
theorem ScimMoment.answer_of_reads {Answer : Type}
    {op : ScimOp} {answer : Option Answer}
    (reads : moment.fails op → answer = none) :
    moment.answer op answer = answer := by
  rw [ScimMoment.answer]
  split_ifs with fails
  · exact (reads fails).symm
  · rfl

section Durable

variable {moment : ScimMoment} {accountId userId : String}
  {id : Option String} {payload : Json.Value} {users : UserTable}

/-- An upsert that knows the user at the id that it writes. -/
theorem written_of_existing
    (existing : durableUser moment accountId id (requestedUserName payload)
      users = users.find (accountId, userId))
    (isId : (id.or ((users.find (accountId, userId)).map (·.id))).getD
      (durableUserId moment accountId users) = userId)
    (succeeds : moment.fails .upsertUser = false)
    (free : NameFree users accountId userId
      (wantedName users accountId userId payload))
    (fresh : id = none →
      Unnamed users accountId (requestedUserName payload) →
        users.find (accountId, userId) = none) :
    Written moment.now accountId id payload users userId
      (durableUpsertUser moment accountId id payload users).1
      (durableUpsertUser moment accountId id payload users).2 := by
  have isWritten : (durableUpsertUser moment accountId id payload users).1 =
      writtenUser users accountId userId payload moment.now := by
    simp only [durableUpsertUser, existing, isId]
    rfl
  refine ⟨isWritten, ?_, free, fresh⟩
  rw [isWritten]
  exact (congrArg (fun user => storeUser moment user users) isWritten).trans
    (storeUser_written succeeds free)

/-- The catalog finds the user with a given id and no other. -/
theorem durableUser_given
    (reads : moment.fails .getUser → users.find (accountId, userId) = none)
    (free : NameFree users accountId userId
      (wantedName users accountId userId payload)) :
    durableUser moment accountId (some userId) (requestedUserName payload)
      users = users.find (accountId, userId) := by
  rw [durableUser, Option.bind_some, ScimMoment.answer_of_reads reads]
  cases found : users.find (accountId, userId) with
  | some held => rw [Option.some_or]
  | none =>
      rw [Option.none_or]
      split_ifs with blank
      · rfl
      · cases named :
            getScimUserByName users accountId (requestedUserName payload) with
        | none => exact moment.answer_none _
        | some user =>
            obtain ⟨member, isName⟩ := named_of_name named
            rw [wantedName_of_nonblank (Bool.eq_false_iff.mpr blank)] at free
            have isUser := find_of_usersOf member
            rw [free user member isName, found] at isUser
            cases isUser

theorem written_durable (unique : UniqueNames users)
    (spares : TablesSpare moment accountId payload users id) :
    ∃ userId, Written moment.now accountId id payload users userId
      (durableUpsertUser moment accountId id payload users).1
      (durableUpsertUser moment accountId id payload users).2 := by
  cases id with
  | some userId =>
      obtain ⟨succeeds, reads, free⟩ := spares
      exact ⟨userId, written_of_existing (durableUser_given reads free) rfl
        succeeds free nofun⟩
  | none =>
      rw [TablesSpare] at spares
      split_ifs at spares with new
      · obtain ⟨succeeds, absent, free⟩ := spares
        refine ⟨_, written_of_existing ?_ ?_ succeeds free
          fun _ _ => absent⟩
        · rw [durableUser, Option.bind_none, Option.none_or, absent]
          split_ifs with blank
          · rfl
          · rw [name_eq_none.mpr (new.resolve_left blank),
              ScimMoment.answer_none]
        · rw [absent]
          rfl
      · obtain ⟨succeeds, works⟩ := spares
        rw [not_or] at new
        obtain ⟨user, named⟩ := Option.ne_none_iff_exists'.mp
          fun missing => new.2 (name_eq_none.mp missing)
        obtain ⟨member, isName⟩ := named_of_name named
        have isUser := find_of_usersOf member
        refine ⟨user.id, written_of_existing ?_ ?_ succeeds
          (nameFree_of_named unique member isName)
          fun _ unnamed => absurd unnamed new.2⟩
        · rw [durableUser, Option.bind_none, Option.none_or, if_neg new.1,
            ScimMoment.answer_of_works works, named, isUser]
        · rw [isUser]
          rfl

end Durable

/-- Every user in the maps is found by the name. -/
def Named (inner : ScimDirectoryInner) : Prop :=
  ∀ user ∈ inner.users.rows,
    inner.usersByName (user.accountId, user.userName) = some user.id

section Maps

variable {inner : ScimDirectoryInner} {accountId : String}
  {id : Option String} {payload : Json.Value}

theorem Named.uniqueNames (named : Named inner) : UniqueNames inner.users := by
  intro accountId user member other otherMember sameName
  obtain ⟨isRow, isOwner⟩ := mem_usersOf.mp member
  obtain ⟨otherRow, otherOwner⟩ := mem_usersOf.mp otherMember
  have sameAccount := isOwner.trans otherOwner.symm
  have sameId := named user isRow
  rw [sameAccount, sameName, named other otherRow] at sameId
  exact List.inj_on_of_nodup_map inner.users.distinct isRow otherRow
    (Prod.ext sameAccount (Option.some.inj sameId).symm)

theorem Named.byName (named : Named inner) {user : ScimUserRecord}
    (member : user ∈ usersOf accountId inner.users) :
    memoryUserByName inner accountId user.userName =
      inner.users.find (accountId, user.id) := by
  obtain ⟨isRow, rfl⟩ := mem_usersOf.mp member
  rw [memoryUserByName, named user isRow, Option.bind_some]

theorem written_memory (moment : ScimMoment) (named : Named inner)
    (spares : MapsSpare accountId payload inner id) :
    Written moment.now accountId id payload inner.users
      (targetId inner accountId id payload)
      (memoryUpsertUser moment accountId id payload inner).1
      (memoryUpsertUser moment accountId id payload inner).2.users := by
  refine ⟨rfl, rfl, ?_, ?_⟩
  · cases id with
    | some userId => exact spares
    | none =>
        by_cases unnamed :
            Unnamed inner.users accountId (requestedUserName payload)
        · obtain ⟨unknown, -, free⟩ := spares unnamed
          have isId : targetId inner accountId none payload =
              memoryUserId accountId (inner.userCounter + 1) := by
            rw [targetId, targetCounter, knownUserId, Option.none_or, unknown]
            rfl
          rw [isId]
          exact free
        · rw [Unnamed] at unnamed
          push Not at unnamed
          obtain ⟨user, member, isName⟩ := unnamed
          have isId : targetId inner accountId none payload = user.id := by
            obtain ⟨isRow, rfl⟩ := mem_usersOf.mp member
            rw [targetId, knownUserId, Option.none_or, ← isName,
              named user isRow, Option.getD_some]
          rw [isId]
          exact nameFree_of_named named.uniqueNames member isName
  · rintro rfl unnamed
    obtain ⟨unknown, absent, -⟩ := spares unnamed
    rw [targetId, targetCounter, knownUserId, Option.none_or, unknown]
    exact absent

end Maps

/-- The snapshots of the directory that an upsert worked on. -/
theorem userSnapshot_eq_find {moment later : ScimMoment}
    (sameTables : later.opens = moment.opens)
    (works : later.fails .getUser = false) (accountId userId : String)
    (directory : ScimDirectory) :
    userSnapshot later accountId userId directory =
      (usersAt moment directory).find (accountId, userId) := by
  rw [userSnapshot, usersAt, sameTables, ScimMoment.answer_of_works works]
  split_ifs <;> rfl

theorem groupSnapshot_eq_find {moment later : ScimMoment}
    (sameTables : later.opens = moment.opens)
    (works : later.fails .getGroup = false) (accountId groupId : String)
    (directory : ScimDirectory) :
    groupSnapshot later accountId groupId directory =
      (groupsAt moment directory).find (accountId, groupId) := by
  rw [groupSnapshot, groupsAt, sameTables, ScimMoment.answer_of_works works]
  split_ifs <;> rfl

variable {accountId : String} {id : Option String}

/-- What was put is added if its id is new, and is what a snapshot reads. -/
theorem UserUpserted.of_written {payload : Json.Value}
    {before after : ScimDirectory} {userId : String} {user : ScimUserRecord}
    (written : Written moment.now accountId id payload
      (usersAt moment before) userId user (usersAt moment after))
    (others : groupsAt moment after = groupsAt moment before) :
    UserUpserted moment accountId id payload before user after := by
  obtain ⟨rfl, put, -, fresh⟩ := written
  constructor
  · intro new unnamed
    rw [put]
    exact ⟨Added.put (fresh new unnamed), others⟩
  · intro later sameTables works
    rw [userSnapshot_eq_find sameTables works, put, Keyed.find_put]
    exact if_pos rfl

/-! ## One upsert of a group -/

/-- The upsert puts its group at an id. -/
structure GroupWritten (accountId : String) (id : Option String)
    (groups : GroupTable) (group : ScimGroupRecord) (after : GroupTable) :
    Prop where
  owner : group.accountId = accountId
  after_eq : after = groups.put group
  fresh : id = none → groups.find (accountId, group.id) = none

theorem groupWritten_durable {groups : GroupTable} (payload : Json.Value)
    (spares : GroupTablesSpare moment accountId groups id) :
    GroupWritten accountId id groups
      (durableUpsertGroup moment accountId id payload groups).1
      (durableUpsertGroup moment accountId id payload groups).2 := by
  have stored : ∀ group : ScimGroupRecord,
      moment.fails .upsertGroup = false →
        (∀ row ∈ groups.find group.key, row.createdAt = group.createdAt) →
          storeGroup moment group groups = groups.put group := by
    intro group succeeds created
    rw [storeGroup, ScimMoment.answer_of_works succeeds, Option.getD_some,
      upsertScimGroup, ScimGroupRecord.over]
    cases held : groups.find group.key with
    | none => rfl
    | some row =>
        rw [Option.map_some, Option.getD_some, created row held]
  cases id with
  | some groupId =>
      obtain ⟨succeeds, reads⟩ := spares
      refine ⟨rfl, stored _ succeeds fun row found => ?_, nofun⟩
      have isRow : groups.find (accountId, groupId) = some row := found
      change _ = ((Option.map _ (moment.answer .getGroup
        (groups.find (accountId, groupId)))).getD _)
      rw [ScimMoment.answer_of_reads reads, isRow]
      rfl
  | none =>
      obtain ⟨succeeds, absent⟩ := spares
      refine ⟨rfl, stored _ succeeds fun row found => ?_, fun _ => absent⟩
      exact absurd (absent.symm.trans found) nofun

variable {inner : ScimDirectoryInner}

theorem groupWritten_memory (moment : ScimMoment) (payload : Json.Value)
    (spares : GroupMapsSpare accountId inner id) :
    GroupWritten accountId id inner.groups
      (memoryUpsertGroup moment accountId id payload inner).1
      (memoryUpsertGroup moment accountId id payload inner).2.groups where
  owner := rfl
  after_eq := rfl
  fresh := by
    rintro rfl
    exact spares

theorem GroupUpserted.of_written {before after : ScimDirectory}
    {group : ScimGroupRecord}
    (written : GroupWritten accountId id (groupsAt moment before) group
      (groupsAt moment after))
    (others : usersAt moment after = usersAt moment before) :
    GroupUpserted moment accountId id before group after := by
  obtain ⟨rfl, put, fresh⟩ := written
  constructor
  · intro new
    rw [put]
    exact ⟨Added.put (fresh new), others⟩
  · intro later sameTables works
    rw [groupSnapshot_eq_find sameTables works, put, Keyed.find_put]
    exact if_pos rfl

/-! ## Runs -/

/-- What every step keeps of the names. -/
structure Consistent (directory : ScimDirectory) : Prop where
  named : Named directory.inner
  unique : UniqueNames directory.tables.users

variable {directory : ScimDirectory}

theorem Consistent.namesAgree
    (consistent : Consistent directory) (moment : ScimMoment) :
    NamesAgree moment directory := by
  obtain ⟨opens, fails, now⟩ := moment
  cases opens with
  | true =>
      exact ⟨consistent.unique, fun _ _ => consistent.unique.byName,
        fun _ _ _ found => find_of_usersOf (named_of_name found).1⟩
  | false =>
      refine ⟨consistent.named.uniqueNames, fun _ _ => consistent.named.byName,
        fun accountId userName user found => ?_⟩
      obtain ⟨userId, -, isUser⟩ := Option.bind_eq_some_iff.mp found
      exact find_of_usersOf (usersOf_of_find isUser)

section

variable (named : Named inner)

include named

/-- A user that keeps the id and the name of one who is there. -/
theorem Named.putHeld
    {user held : ScimUserRecord} (member : held ∈ inner.users.rows)
    (sameKey : user.key = held.key) (sameName : user.userName = held.userName) :
    Named { inner with users := inner.users.put user } := by
  intro other otherMember
  rcases Keyed.mem_put.mp otherMember with rfl | ⟨earlier, -⟩
  · have sameAccount : other.accountId = held.accountId :=
      congrArg Prod.fst sameKey
    have sameId : other.id = held.id := congrArg Prod.snd sameKey
    rw [sameAccount, sameId, sameName]
    exact named held member
  · exact named other earlier

theorem Named.upsertUser (moment : ScimMoment)
    {payload : Json.Value} (spares : MapsSpare accountId payload inner id) :
    Named (memoryUpsertUser moment accountId id payload inner).2 := by
  have written := written_memory moment named spares
  rw [memoryUpsertUser_target]
  intro other member
  rcases Keyed.mem_put.mp member with rfl | ⟨earlier, otherKey⟩
  · exact Function.update_self _ _ _
  · refine (Function.update_of_ne (fun sameName => otherKey ?_) _ _).trans
      (named other earlier)
    rw [Prod.mk.injEq] at sameName
    have isName : other.userName = wantedName inner.users accountId
        (targetId inner accountId id payload) payload :=
      sameName.2.trans writtenUser_userName
    exact Prod.ext sameName.1
      (written.free other (mem_usersOf.mpr ⟨earlier, sameName.1⟩) isName)

theorem Named.setUserActive (moment : ScimMoment) (accountId userId : String)
    (active : Bool) :
    Named (memorySetUserActive moment accountId userId active inner).2 := by
  unfold memorySetUserActive
  cases found : inner.users.find (accountId, userId) with
  | none => exact named
  | some held => exact named.putHeld (Keyed.mem_of_find found) rfl rfl

theorem named_tombstoneGroup
    (moment : ScimMoment) (accountId groupId : String) :
    Named (memoryTombstoneGroup moment accountId groupId inner).2 := by
  unfold memoryTombstoneGroup
  cases inner.groups.find (accountId, groupId) <;> exact named

end

theorem UniqueNames.setUserActive {users : UserTable}
    (unique : UniqueNames users) (moment : ScimMoment)
    (accountId userId : String) (active : Bool) :
    UniqueNames
      (durableSetUserActive moment accountId userId active users).2 := by
  unfold durableSetUserActive
  split
  · exact unique
  · exact unique.storeUser _ _

variable {step : DirectoryStep}

section

variable (consistent : Consistent directory)

include consistent

section

variable (spares : Spares directory step)

include spares

theorem Consistent.performed :
    Consistent (performed directory step) := by
  obtain ⟨named, unique⟩ := consistent
  obtain ⟨⟨opens, fails, now⟩, call⟩ := step
  cases call with
  | upsertUser accountId id payload =>
      cases opens with
      | true => exact ⟨named, unique.storeUser _ _⟩
      | false => exact ⟨named.upsertUser _ spares, unique⟩
  | setUserActive accountId userId active =>
      cases opens with
      | true => exact ⟨named, unique.setUserActive _ _ _ _⟩
      | false => exact ⟨named.setUserActive _ _ _ _, unique⟩
  | tombstoneGroup accountId groupId =>
      cases opens with
      | true => exact ⟨named, unique⟩
      | false => exact ⟨named_tombstoneGroup named _ _ _, unique⟩
  | upsertGroup accountId id payload =>
      cases opens with
      | true => exact ⟨named, unique⟩
      | false => exact ⟨named, unique⟩
  | _ => exact ⟨named, unique⟩

theorem Consistent.upserted : Upserted directory step := by
  obtain ⟨⟨opens, fails, now⟩, call⟩ := step
  cases call with
  | upsertUser accountId id payload =>
      cases opens with
      | true =>
          obtain ⟨userId, written⟩ := written_durable consistent.unique spares
          exact UserUpserted.of_written written rfl
      | false =>
          exact UserUpserted.of_written
            (written_memory _ consistent.named spares) rfl
  | upsertGroup accountId id payload =>
      cases opens with
      | true =>
          exact GroupUpserted.of_written
            (groupWritten_durable payload spares) rfl
      | false =>
          exact GroupUpserted.of_written
            (groupWritten_memory _ payload spares) rfl
  | _ => trivial

theorem Consistent.sound : Sound directory step :=
  ⟨consistent.namesAgree, consistent.upserted spares⟩

end

end

/--
The maps of a new process and the tables that the catalog has kept: in every
run of calls that meet none of the defects, names agree in all states and
every upsert leaves what is promised.
-/
theorem sound_of_spares {tables : ScimTables}
    (unique : UniqueNames tables.users) {steps : List DirectoryStep}
    (spared : Along performed Spares ⟨.empty, tables⟩ steps) :
    Along performed Sound ⟨.empty, tables⟩ steps ∧
      ∀ moment,
        NamesAgree moment (steps.foldl performed ⟨.empty, tables⟩) := by
  have kept : ∀ directory step, Consistent directory →
      Spares directory step → Consistent (performed directory step) :=
    fun _ _ consistent spares => consistent.performed spares
  have start : Consistent ⟨.empty, tables⟩ := ⟨nofun, unique⟩
  refine ⟨spared.imply kept ?_ start,
    (spared.invariant kept start).namesAgree⟩
  exact fun _ _ consistent spares => consistent.sound spares

/-! ### Runs that meet the condition, and runs that do not -/

/-- A moment without a catalog. -/
def mapsOnly : ScimMoment := { calm with opens := false }

def userNamed (name : String) : Json.Value :=
  .object [("userName", .string name)]

/-- A user is created, renamed, replaced and stopped in both directories. -/
def spacedSteps : List DirectoryStep :=
  [⟨calm, .upsertUser "acme" none (userNamed "Ada")⟩,
    ⟨calm, .upsertUser "acme" (some "scu_acme_1") (userNamed "eve")⟩,
    ⟨calm, .upsertGroup "acme" none (.object [])⟩,
    ⟨mapsOnly, .upsertUser "acme" none (userNamed "Ada")⟩,
    ⟨mapsOnly, .upsertUser "acme" (some "u7") (userNamed "bob")⟩,
    ⟨mapsOnly, .setUserActive "acme" "u7" false⟩,
    ⟨mapsOnly, .upsertGroup "acme" none (.object [])⟩]

theorem spacedSteps_sound :
    Along performed Sound .empty spacedSteps ∧
      ∀ moment, NamesAgree moment (spacedSteps.foldl performed .empty) :=
  sound_of_spares (by decide)
    ⟨by decide, by decide, by decide,
      by decide, by decide, trivial, by decide,
      trivial⟩

/-- A PUT brings in the id that a POST is given next. -/
def replacedSteps : List DirectoryStep :=
  [⟨mapsOnly, .upsertUser "acme" (some "usr_acme_1") (userNamed "bob")⟩,
    ⟨mapsOnly, .upsertUser "acme" none (userNamed "ada")⟩]

/-- A PUT asks for a name that another user has. -/
def takenSteps (moment : ScimMoment) : List DirectoryStep :=
  [⟨moment, .upsertUser "acme" none (userNamed "ada")⟩,
    ⟨moment, .upsertUser "acme" (some "u2") (userNamed "ada")⟩,
    ⟨moment, .listUsers "acme" none⟩]

/--
A new user replaces one that is there; the maps keep two users of one name;
the catalog keeps one of them, and the other is returned all the same.
-/
theorem collisions_not_sound :
    ¬ Along performed Sound .empty replacedSteps ∧
      ¬ Along performed Sound .empty (takenSteps mapsOnly) ∧
        ¬ Along performed Sound .empty (takenSteps calm) := by
  refine ⟨?_, ?_, ?_⟩
  · rintro ⟨-, ⟨-, upserted⟩, -⟩
    have fresh := (UserUpserted.added upserted rfl (by decide)).1.fresh
    revert fresh
    decide
  · rintro ⟨-, -, ⟨agree, -⟩, -⟩
    have unique := (agree mapsOnly).unique
    revert unique
    decide
  · rintro ⟨-, ⟨-, upserted⟩, -⟩
    have read := UserUpserted.read upserted calm rfl rfl
    revert read
    decide

end OpenSnow.Server.Scim
