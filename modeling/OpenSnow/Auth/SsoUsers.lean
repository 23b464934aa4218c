import Mathlib.Data.List.Nodup
import OpenSnow.Foundation.Runs

/-!
# Users of SSO logins and local users

Both live in one table under their names, an SSO user under its e-mail, and
their roles in another.  A login replaces the roles of its e-mail whatever the
account, so users are kept apart only while no two of them share a name.
-/

namespace OpenSnow.Auth

open Foundation

/-! ## Tables -/

/-- A row of `users`. -/
structure UserRow where
  id : Nat
  username : String
  passwordHash : String
  role : String
deriving DecidableEq, Repr

/-- The `users` table with its two keys. -/
structure UserTable where
  rows : List UserRow
  /-- The greatest id that was ever given. -/
  lastId : Nat
  usernames : (rows.map UserRow.username).Nodup
  ids : (rows.map UserRow.id).Nodup
  bounded : ∀ row ∈ rows, row.id ≤ lastId

/-- The `users` and `user_roles` tables; the second one may not exist. -/
structure UserTables where
  users : UserTable
  userRoles : Option (List (String × String))

namespace UserTable

def empty : UserTable where
  rows := []
  lastId := 0
  usernames := List.nodup_nil
  ids := List.nodup_nil
  bounded _ := nofun

def find (table : UserTable) (username : String) : Option UserRow :=
  table.rows.find? fun row => row.username = username

/-- `INSERT`, unless the name is taken. -/
def insert (table : UserTable) (username passwordHash role : String) :
    Option UserTable :=
  if taken : username ∈ table.rows.map UserRow.username then none
  else
    some
      { rows := ⟨table.lastId + 1, username, passwordHash, role⟩ :: table.rows
        lastId := table.lastId + 1
        usernames := List.nodup_cons.mpr ⟨taken, table.usernames⟩
        ids := by
          refine List.nodup_cons.mpr ⟨fun given => ?_, table.ids⟩
          obtain ⟨row, member, isNew⟩ := List.mem_map.mp given
          have bound := table.bounded row member
          have new : row.id = table.lastId + 1 := isNew
          omega
        bounded := by
          intro row member
          rcases List.mem_cons.mp member with rfl | old
          · exact Nat.le_refl _
          · exact Nat.le_succ_of_le (table.bounded row old) }

/-- `UPDATE users SET role = ? WHERE id = ?` on one row. -/
def updated (id : Nat) (role : String) (row : UserRow) : UserRow :=
  if row.id = id then { row with role } else row

@[simp]
theorem username_updated (id : Nat) (role : String) (row : UserRow) :
    (updated id role row).username = row.username := by
  unfold updated
  split_ifs <;> rfl

@[simp]
theorem id_updated (id : Nat) (role : String) (row : UserRow) :
    (updated id role row).id = row.id := by
  unfold updated
  split_ifs <;> rfl

def setRole (table : UserTable) (id : Nat) (role : String) : UserTable where
  rows := table.rows.map (updated id role)
  lastId := table.lastId
  usernames := by
    rw [List.map_map]
    have same : UserRow.username ∘ updated id role = UserRow.username :=
      funext fun row => username_updated id role row
    rw [same]
    exact table.usernames
  ids := by
    rw [List.map_map]
    have same : UserRow.id ∘ updated id role = UserRow.id :=
      funext fun row => id_updated id role row
    rw [same]
    exact table.ids
  bounded := by
    intro row member
    obtain ⟨old, oldMember, rfl⟩ := List.mem_map.mp member
    rw [id_updated]
    exact table.bounded old oldMember

end UserTable

/-! ## Calls -/

/-- Which SQL statements of a call fail. -/
structure SqlFaults where
  select : Bool
  write : Bool
  deleteRoles : Bool
  insertRole : Nat → Bool

/-- The roles table without the rows of a user, unless the statement fails. -/
def deleteRoles (faults : SqlFaults) (email : String)
    (roles : List (String × String)) : List (String × String) :=
  if faults.deleteRoles then roles
  else roles.filter fun row => row.1 ≠ email

/-- `INSERT OR IGNORE` for one role after the other. -/
def insertRoles (faults : SqlFaults) (email : String) :
    Nat → List String → List (String × String) → List (String × String)
  | _, [], roles => roles
  | index, role :: rest, roles =>
      let inserted :=
        if faults.insertRole index ∨ (email, role) ∈ roles then roles
        else roles ++ [(email, role)]
      insertRoles faults email (index + 1) rest inserted

/-- The role of the `users` row of an SSO user. -/
def primaryRole (roleIds : List String) : String :=
  roleIds.head?.getD "PUBLIC"

/-- `upsert_sso_user`: the id of the user and the new tables, or an error. -/
def upsertSsoUser (tables : UserTables) (_tenantId email : String)
    (roleIds : List String) (faults : SqlFaults) :
    Option (Nat × UserTables) :=
  let found := if faults.select then none else tables.users.find email
  let written : Option (Nat × UserTable) :=
    if faults.write then none
    else
      match found with
      | some row =>
          some (row.id, tables.users.setRole row.id (primaryRole roleIds))
      | none =>
          (tables.users.insert email "oidc:no-password"
            (primaryRole roleIds)).map fun users => (users.lastId, users)
  written.map fun (id, users) =>
    (id,
      { users
        userRoles := tables.userRoles.map fun roles =>
          insertRoles faults email 0 roleIds
            (deleteRoles faults email roles) })

/-- `create_user`, with the hash of the password. -/
def createUser (tables : UserTables) (username passwordHash role : String)
    (faults : SqlFaults) : Option (Nat × UserTables) :=
  if faults.write then none
  else
    (tables.users.insert username passwordHash role).map fun users =>
      (users.lastId, { tables with users })

/-- `authenticate`: the role of the user, if the password fits the hash. -/
def authenticate (verifyPassword : String → String → Bool)
    (tables : UserTables) (username password : String) : Option String :=
  match tables.users.find username with
  | none => none
  | some row =>
      if verifyPassword password row.passwordHash then some row.role else none

/-! ## Accounts -/

/-- Whose user it is. -/
inductive Account where
  | sso (tenantId : String)
  | localUsers
deriving DecidableEq, Repr

/-- The role and the role set that a user was given. -/
structure Given where
  role : String
  roles : List String
deriving DecidableEq, Repr

/-- The roles of a name in `user_roles`. -/
def storedRoles (tables : UserTables) (username : String) : List String :=
  ((tables.userRoles.getD []).filter fun row => row.1 = username).map Prod.snd

/-- The tables, and what every user was given last. -/
structure UserState where
  tables : UserTables
  given : Account → String → Option Given

/--
Any tables, whose users are each the user of some account and have what is
stored for them.
-/
def UserState.start (tables : UserTables) (owner : String → Account) :
    UserState where
  tables := tables
  given account username :=
    if owner username = account then
      (tables.users.find username).map fun row =>
        ⟨row.role, storedRoles tables username⟩
    else none

inductive UserCall where
  | upsert (tenantId email : String) (roleIds : List String)
      (faults : SqlFaults)
  | create (username passwordHash role : String) (faults : SqlFaults)

/-- One more user was given something. -/
def give (given : Account → String → Option Given) (account : Account)
    (username : String) (what : Given) : Account → String → Option Given :=
  fun other name =>
    if other = account ∧ name = username then some what
    else given other name

def UserState.perform (state : UserState) : UserCall → UserState
  | .upsert tenantId email roleIds faults =>
      match upsertSsoUser state.tables tenantId email roleIds faults with
      | none => state
      | some (_, tables) =>
          { tables
            given := give state.given (.sso tenantId) email
              ⟨primaryRole roleIds, roleIds⟩ }
  | .create username passwordHash role faults =>
      match createUser state.tables username passwordHash role faults with
      | none => state
      | some (_, tables) =>
          { tables
            given := give state.given .localUsers username
              ⟨role, storedRoles tables username⟩ }

/-- Every user has what it was given last, whatever others were given. -/
structure KeepsApart (verifyPassword : String → String → Bool)
    (state : UserState) : Prop where
  role : ∀ account username given,
    state.given account username = some given →
      ∃ row, state.tables.users.find username = some row ∧
        row.role = given.role
  roles : ∀ account username given,
    state.given account username = some given →
      ∀ role, role ∈ storedRoles state.tables username ↔ role ∈ given.roles
  /-- A local user logs in with the role that it was created with. -/
  login : ∀ username given, state.given .localUsers username = some given →
    ∀ password role,
      authenticate verifyPassword state.tables username password = some role →
        role = given.role

/-- What a login gives is what this user has. -/
def Given.Agrees (given : Given) (roleIds : List String) : Prop :=
  given.role = primaryRole roleIds ∧
    ∀ role, role ∈ given.roles ↔ role ∈ roleIds

/--
The statements on `user_roles` succeed, and whoever else has the e-mail for
its name has the same roles.
-/
def Unshared (state : UserState) : UserCall → Prop
  | .upsert tenantId email roleIds faults =>
      state.tables.userRoles.isSome ∧ faults.deleteRoles = false ∧
        (∀ index, faults.insertRole index = false) ∧
        ∀ account given, account ≠ .sso tenantId →
          state.given account email = some given → given.Agrees roleIds
  | .create _ _ _ _ => True

/-! ## What statements do -/

namespace UserTable

variable {table after : UserTable}

theorem find_eq_none {username : String} :
    table.find username = none ↔
      username ∉ table.rows.map UserRow.username := by
  rw [find, List.find?_eq_none, List.mem_map]
  constructor
  · rintro absent ⟨row, member, isName⟩
    exact absent row member (decide_eq_true isName)
  · intro absent row member isName
    exact absent ⟨row, member, of_decide_eq_true isName⟩

theorem find_insert {username passwordHash role : String}
    (inserted : table.insert username passwordHash role = some after) :
    after.find username =
        some ⟨table.lastId + 1, username, passwordHash, role⟩ ∧
      table.find username = none ∧
        ∀ other ≠ username, after.find other = table.find other := by
  unfold insert at inserted
  split_ifs at inserted with taken
  rw [Option.some.injEq] at inserted
  rw [← inserted]
  refine ⟨?_, find_eq_none.mpr taken, ?_⟩
  · exact List.find?_cons_of_pos (decide_eq_true rfl)
  · intro other different
    apply List.find?_cons_of_neg
    rw [decide_eq_true_iff]
    exact Ne.symm different

theorem find_setRole (id : Nat) (role username : String) :
    (table.setRole id role).find username =
      (table.find username).map (updated id role) := by
  have same : ((fun row : UserRow => decide (row.username = username)) ∘
      updated id role) = fun row => decide (row.username = username) := by
    funext row
    rw [Function.comp_apply, username_updated]
  rw [find, find, setRole, List.find?_map, same]

/-- The other users keep their rows. -/
theorem find_setRole_of_ne {row : UserRow} {role username other : String}
    (found : table.find username = some row) (different : other ≠ username) :
    (table.setRole row.id role).find other = table.find other := by
  rw [find_setRole]
  cases foundOther : table.find other with
  | none => rfl
  | some otherRow =>
      have isName : row.username = username :=
        by simpa using List.find?_some found
      have isOther : otherRow.username = other :=
        by simpa using List.find?_some foundOther
      have ids : otherRow.id ≠ row.id := by
        intro same
        have rows := List.inj_on_of_nodup_map table.ids
          (List.mem_of_find?_eq_some foundOther)
          (List.mem_of_find?_eq_some found) same
        exact different (by rw [← isOther, ← isName, rows])
      rw [Option.map_some, updated, if_neg ids]

end UserTable

theorem mem_storedRoles {tables : UserTables} {username role : String} :
    role ∈ storedRoles tables username ↔
      (username, role) ∈ tables.userRoles.getD [] := by
  rw [storedRoles, List.mem_map]
  constructor
  · rintro ⟨⟨name, stored⟩, member, rfl⟩
    obtain ⟨held, isName⟩ := List.mem_filter.mp member
    have isUser : name = username := of_decide_eq_true isName
    exact isUser ▸ held
  · intro member
    exact ⟨(username, role),
      List.mem_filter.mpr ⟨member, decide_eq_true rfl⟩, rfl⟩

variable {faults : SqlFaults} {roleIds : List String}

theorem mem_insertRoles {email : String}
    (succeed : ∀ index, faults.insertRole index = false)
    {index : Nat} {roles : List (String × String)} {row : String × String} :
    row ∈ insertRoles faults email index roleIds roles ↔
      row ∈ roles ∨ row.1 = email ∧ row.2 ∈ roleIds := by
  induction roleIds generalizing index roles with
  | nil =>
      rw [insertRoles]
      exact (or_iff_left fun none_ => List.not_mem_nil none_.2).symm
  | cons role rest ih =>
      rw [insertRoles, ih, succeed index]
      have own : row = (email, role) ↔ row.1 = email ∧ row.2 = role :=
        Prod.ext_iff
      by_cases held : (email, role) ∈ roles
      · have same : row = (email, role) → row ∈ roles := fun isOwn =>
          isOwn ▸ held
        rw [if_pos (Or.inr held), List.mem_cons]
        tauto
      · rw [if_neg (not_or.mpr ⟨Bool.false_ne_true, held⟩), List.mem_append,
          List.mem_singleton, own, List.mem_cons]
        tauto

variable {tables after : UserTables}

/-- What an upsert that returns `Ok` leaves in the tables. -/
theorem upsertSsoUser_ok {tenantId email : String} {id : Nat}
    (ok : upsertSsoUser tables tenantId email roleIds faults =
      some (id, after)) :
    (∃ row, after.users.find email = some row ∧
        row.role = primaryRole roleIds) ∧
      (∀ other ≠ email,
        after.users.find other = tables.users.find other) ∧
        after.userRoles = tables.userRoles.map fun roles =>
          insertRoles faults email 0 roleIds
            (deleteRoles faults email roles) := by
  have inserts : ∀ {users : UserTable},
      tables.users.insert email "oidc:no-password" (primaryRole roleIds) =
          some users →
        (∃ row, users.find email = some row ∧
            row.role = primaryRole roleIds) ∧
          ∀ other ≠ email, users.find other = tables.users.find other := by
    intro users inserted
    obtain ⟨found, -, others⟩ := UserTable.find_insert inserted
    exact ⟨⟨_, found, rfl⟩, others⟩
  unfold upsertSsoUser at ok
  dsimp only at ok
  obtain ⟨⟨userId, users⟩, written, isAfter⟩ := Option.map_eq_some_iff.mp ok
  rw [Prod.mk.injEq] at isAfter
  obtain ⟨-, rfl⟩ := isAfter
  rw [← and_assoc]
  refine ⟨?_, rfl⟩
  split_ifs at written with failed selectFails
  · obtain ⟨inserted, isInserted, same⟩ := Option.map_eq_some_iff.mp written
    cases same
    exact inserts isInserted
  · cases found : tables.users.find email with
    | none =>
        rw [found] at written
        obtain ⟨inserted, isInserted, same⟩ :=
          Option.map_eq_some_iff.mp written
        cases same
        exact inserts isInserted
    | some row =>
        rw [found] at written
        cases written
        refine ⟨⟨{ row with role := primaryRole roleIds }, ?_, rfl⟩, ?_⟩
        · rw [UserTable.find_setRole, found, Option.map_some,
            UserTable.updated, if_pos rfl]
        · exact fun other => UserTable.find_setRole_of_ne found

/-- The roles after an upsert whose statements succeed. -/
theorem storedRoles_upsert {email : String}
    (exists_ : tables.userRoles.isSome) (deletes : faults.deleteRoles = false)
    (succeed : ∀ index, faults.insertRole index = false)
    (isAfter : after.userRoles = tables.userRoles.map fun roles =>
      insertRoles faults email 0 roleIds (deleteRoles faults email roles))
    (username role : String) :
    role ∈ storedRoles after username ↔
      if username = email then role ∈ roleIds
      else role ∈ storedRoles tables username := by
  obtain ⟨roles, isRoles⟩ := Option.isSome_iff_exists.mp exists_
  have kept : ∀ row, row ∈ deleteRoles faults email roles ↔
      row ∈ roles ∧ row.1 ≠ email := by
    intro row
    rw [deleteRoles, deletes, if_neg Bool.false_ne_true, List.mem_filter,
      decide_eq_true_iff]
  rw [mem_storedRoles, mem_storedRoles, isAfter, isRoles, Option.map_some,
    Option.getD_some, Option.getD_some, mem_insertRoles succeed, kept]
  split_ifs with own
  · simp only [own]
    tauto
  · simp only [own]
    tauto

theorem createUser_ok {username passwordHash role : String} {id : Nat}
    (ok : createUser tables username passwordHash role faults =
      some (id, after)) :
    (∃ row, after.users.find username = some row ∧ row.role = role) ∧
      tables.users.find username = none ∧
        (∀ other ≠ username,
          after.users.find other = tables.users.find other) ∧
          after.userRoles = tables.userRoles := by
  unfold createUser at ok
  split_ifs at ok with failed
  obtain ⟨users, inserted, isAfter⟩ := Option.map_eq_some_iff.mp ok
  rw [Prod.mk.injEq] at isAfter
  obtain ⟨-, rfl⟩ := isAfter
  obtain ⟨found, new, others⟩ := UserTable.find_insert inserted
  exact ⟨⟨_, found, rfl⟩, new, others, rfl⟩

/-! ## Runs -/

section

variable {verifyPassword : String → String → Bool} {state : UserState}

/-- What is stored for users decides what they log in with. -/
theorem KeepsApart.of_stored
    (stored : ∀ account username given,
      state.given account username = some given →
        (∃ row, state.tables.users.find username = some row ∧
            row.role = given.role) ∧
          ∀ role, role ∈ storedRoles state.tables username ↔
            role ∈ given.roles) :
    KeepsApart verifyPassword state where
  role account username given isGiven :=
    (stored account username given isGiven).1
  roles account username given isGiven :=
    (stored account username given isGiven).2
  login := by
    intro username given isGiven password role authenticated
    obtain ⟨row, found, isRole⟩ :=
      (stored .localUsers username given isGiven).1
    rw [authenticate, found] at authenticated
    dsimp only at authenticated
    split_ifs at authenticated with verified
    rw [← isRole]
    exact (Option.some.inj authenticated).symm

theorem KeepsApart.start (tables : UserTables) (owner : String → Account) :
    KeepsApart verifyPassword (.start tables owner) := by
  apply KeepsApart.of_stored
  intro account username given isGiven
  rw [UserState.start] at isGiven ⊢
  dsimp only at isGiven ⊢
  split_ifs at isGiven
  obtain ⟨row, found, rfl⟩ := Option.map_eq_some_iff.mp isGiven
  exact ⟨⟨row, found, rfl⟩, fun _ => Iff.rfl⟩

theorem give_eq_some {given : Account → String → Option Given}
    {account other : Account} {username name : String} {what found : Given}
    (isFound : give given account username what other name = some found) :
    (other = account ∧ name = username ∧ found = what) ∨
      (¬ (other = account ∧ name = username) ∧
        given other name = some found) := by
  unfold give at isFound
  split_ifs at isFound with own
  · exact Or.inl ⟨own.1, own.2, (Option.some.inj isFound).symm⟩
  · exact Or.inr ⟨own, isFound⟩

theorem KeepsApart.upsert (apart : KeepsApart verifyPassword state)
    {tenantId email : String} {roleIds : List String} {faults : SqlFaults}
    (unshared : Unshared state (.upsert tenantId email roleIds faults)) :
    KeepsApart verifyPassword
      (state.perform (.upsert tenantId email roleIds faults)) := by
  rw [UserState.perform]
  split
  · exact apart
  · rename_i id after ok
    obtain ⟨exists_, deletes, succeed, agree⟩ := unshared
    obtain ⟨⟨row, found, isPrimary⟩, others, isAfter⟩ := upsertSsoUser_ok ok
    have roles := storedRoles_upsert exists_ deletes succeed isAfter
    apply KeepsApart.of_stored
    intro account username given isGiven
    by_cases own : username = email
    · have agrees : given.Agrees roleIds := by
        rcases give_eq_some isGiven with ⟨-, -, rfl⟩ | ⟨other, before⟩
        · exact ⟨rfl, fun _ => Iff.rfl⟩
        · have different : account ≠ .sso tenantId :=
            fun same => other ⟨same, own⟩
          exact agree account given different (own ▸ before)
      subst own
      refine ⟨⟨row, found, isPrimary.trans agrees.1.symm⟩, ?_⟩
      intro role
      rw [roles username role, if_pos rfl, agrees.2 role]
    · have before : state.given account username = some given := by
        rcases give_eq_some isGiven with ⟨-, isName, -⟩ | ⟨-, before⟩
        · exact absurd isName own
        · exact before
      refine ⟨?_, ?_⟩
      · dsimp only
        rw [others username own]
        exact apart.role account username given before
      · intro role
        rw [roles username role, if_neg own]
        exact apart.roles account username given before role

theorem KeepsApart.create (apart : KeepsApart verifyPassword state)
    (username passwordHash role : String) (faults : SqlFaults) :
    KeepsApart verifyPassword
      (state.perform (.create username passwordHash role faults)) := by
  rw [UserState.perform]
  split
  · exact apart
  · rename_i id after ok
    obtain ⟨⟨row, found, isRole⟩, new, others, isAfter⟩ := createUser_ok ok
    have roles : ∀ name, storedRoles after name =
        storedRoles state.tables name := by
      intro name
      rw [storedRoles, storedRoles, isAfter]
    apply KeepsApart.of_stored
    intro account name given isGiven
    rcases give_eq_some isGiven with ⟨-, isName, rfl⟩ | ⟨-, before⟩
    · rw [isName]
      exact ⟨⟨row, found, isRole⟩, fun _ => Iff.rfl⟩
    · -- The name was free, so this is the user of another name.
      obtain ⟨held, isHeld, -⟩ := apart.role account name given before
      have different : name ≠ username := by
        intro same
        rw [same, new] at isHeld
        cases isHeld
      refine ⟨?_, ?_⟩
      · dsimp only
        rw [others name different]
        exact apart.role account name given before
      · intro other
        dsimp only
        rw [roles]
        exact apart.roles account name given before other

end

/--
In a run in which no login shares its e-mail with a user who has other roles,
and no statement on the roles fails, every user has what it was given last.
-/
theorem keepsApart_of_unshared (verifyPassword : String → String → Bool)
    (tables : UserTables) (owner : String → Account) (calls : List UserCall)
    (unshared :
      Along UserState.perform Unshared (.start tables owner) calls) :
    KeepsApart verifyPassword
      (calls.foldl UserState.perform (.start tables owner)) := by
  apply unshared.invariant _ (KeepsApart.start tables owner)
  intro state call apart unsharedCall
  cases call with
  | upsert tenantId email roleIds faults => exact apart.upsert unsharedCall
  | create username passwordHash role faults =>
      exact apart.create username passwordHash role faults

/-! ## Logins that share an e-mail -/

/-- No statement fails. -/
def noFaults : SqlFaults := ⟨false, false, false, fun _ => false⟩

/-- Tables without users. -/
def noUsers : UserTables := ⟨.empty, some []⟩

theorem keepsApart_two_tenants :
    KeepsApart (fun _ _ => true)
      (([.create "admin" "hash" "ACCOUNTADMIN" noFaults,
          .upsert "acme" "a@acme.com" ["SYSADMIN"] noFaults,
          .upsert "umbrella" "b@umbrella.com" [] noFaults] :
            List UserCall).foldl UserState.perform
        (.start noUsers fun _ => .localUsers)) := by
  apply keepsApart_of_unshared
  refine ⟨trivial, ⟨rfl, rfl, fun _ => rfl, ?_⟩, ⟨rfl, rfl, fun _ => rfl, ?_⟩,
    trivial⟩
  · intro account given _ isGiven
    rcases give_eq_some isGiven with ⟨-, isName, -⟩ | ⟨-, before⟩
    · exact absurd isName (by decide)
    · rw [UserState.start] at before
      dsimp only at before
      split_ifs at before
      cases before
  · intro account given _ isGiven
    rcases give_eq_some isGiven with ⟨-, isName, -⟩ | ⟨-, before⟩
    · exact absurd isName (by decide)
    · rcases give_eq_some before with ⟨-, isName, -⟩ | ⟨-, before⟩
      · exact absurd isName (by decide)
      · rw [UserState.start] at before
        dsimp only at before
        split_ifs at before
        cases before

/--
A login in one account takes the roles of the same e-mail in another, and of a
local user; and a login whose statement on the roles fails returns `Ok`.
-/
theorem sso_roles_leak :
    let verifyPassword := fun _ _ : String => true
    let run := fun calls : List UserCall =>
      calls.foldl UserState.perform (.start noUsers fun _ => .localUsers)
    ¬ KeepsApart verifyPassword
        (run
          [.upsert "acme" "a@acme.com" ["SYSADMIN"] noFaults,
            .upsert "umbrella" "a@acme.com" ["PUBLIC"] noFaults]) ∧
      ¬ KeepsApart verifyPassword
        (run
          [.create "ops@acme.com" "hash" "PUBLIC" noFaults,
            .upsert "umbrella" "ops@acme.com" ["ACCOUNTADMIN"] noFaults]) ∧
        ¬ KeepsApart verifyPassword
          (run
            [.upsert "acme" "a@acme.com" ["PUBLIC"]
              { noFaults with insertRole := fun _ => true }]) := by
  intro verifyPassword run
  refine ⟨?_, ?_, ?_⟩
  · intro apart
    obtain ⟨row, found, isRole⟩ :=
      apart.role (.sso "acme") "a@acme.com" ⟨"SYSADMIN", ["SYSADMIN"]⟩
        (by decide)
    revert isRole
    cases (Option.some.inj found)
    decide
  · intro apart
    have role := apart.login "ops@acme.com" ⟨"PUBLIC", []⟩ (by decide) "pw"
      "ACCOUNTADMIN" (by decide)
    revert role
    decide
  · intro apart
    have stored := apart.roles (.sso "acme") "a@acme.com"
      ⟨"PUBLIC", ["PUBLIC"]⟩ (by decide) "PUBLIC"
    revert stored
    decide

end OpenSnow.Auth
