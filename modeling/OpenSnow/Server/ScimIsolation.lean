import OpenSnow.Server.ScimRoutes

/-!
# Isolation of SCIM accounts

What a SCIM request changes and what its reply depends on: the directory of
the account of its token, the registry of clients by the names of users, and
the counters that all accounts share.
-/

namespace OpenSnow.Server.Scim

open Catalog.Scim
open Foundation
open Foundation.NumberedNames
open Rust
open ScimDirectory

/-! ## The directory of an account -/

/-- What the maps and the tables hold for one account. -/
structure AccountView where
  users : List ScimUserRecord
  names : String → Option String
  groups : List ScimGroupRecord
  storedUsers : List ScimUserRecord
  storedGroups : List ScimGroupRecord

def view (accountId : String) (directory : ScimDirectory) : AccountView where
  users := usersOf accountId directory.inner.users
  names := fun name => directory.inner.usersByName (accountId, name)
  groups := groupsOf accountId directory.inner.groups
  storedUsers := usersOf accountId directory.tables.users
  storedGroups := groupsOf accountId directory.tables.groups

/-! ### Writing -/

variable {moment : ScimMoment}

theorem usersOf_storeUser {users : UserTable}
    {user : ScimUserRecord} {other : String}
    (foreign : user.accountId ≠ other) :
    usersOf other (storeUser moment user users) = usersOf other users := by
  unfold storeUser ScimMoment.answer upsertScimUser
  split_ifs
  · rfl
  · rfl
  · exact usersOf_put foreign

theorem groupsOf_storeGroup {groups : GroupTable}
    {group : ScimGroupRecord} {other : String}
    (foreign : group.accountId ≠ other) :
    groupsOf other (storeGroup moment group groups) =
      groupsOf other groups := by
  unfold storeGroup ScimMoment.answer upsertScimGroup
  split_ifs
  · rfl
  · exact groupsOf_put foreign

/-! ## Other accounts -/

section Others

variable {accountId other : String} (foreign : accountId ≠ other)
  (moment : ScimMoment) (directory : ScimDirectory)

theorem view_withUsers {Result : Type} {directory : ScimDirectory}
    {change : UserTable → Result × UserTable}
    (kept : usersOf other (change directory.tables.users).2 =
      usersOf other directory.tables.users) :
    view other (withUsers directory change).2 = view other directory := by
  simp only [view, withUsers, kept]

theorem view_withGroups {Result : Type} {directory : ScimDirectory}
    {change : GroupTable → Result × GroupTable}
    (kept : groupsOf other (change directory.tables.groups).2 =
      groupsOf other directory.tables.groups) :
    view other (withGroups directory change).2 = view other directory := by
  simp only [view, withGroups, kept]

include foreign

theorem view_memoryUser {Result : Type} {result : Result} {counter : Nat}
    {name : String} {id : Option String} {user : ScimUserRecord}
    (owner : user.accountId = accountId) :
    view other (withInner directory fun inner => (result,
        { inner with
          userCounter := counter
          usersByName :=
            Function.update inner.usersByName (accountId, name) id
          users := inner.users.put user })).2 =
      view other directory := by
  have names : ∀ name', Function.update directory.inner.usersByName
      (accountId, name) id (other, name') =
        directory.inner.usersByName (other, name') := by
    intro name'
    exact Function.update_of_ne
      (fun same => foreign (congrArg Prod.fst same).symm) _ _
  simp only [view, withInner, names, usersOf_put (owner.symm ▸ foreign)]

theorem view_upsertUser (id : Option String) (payload : Json.Value) :
    view other (upsertUser moment accountId id payload directory).2 =
      view other directory := by
  unfold upsertUser
  split_ifs
  · exact view_withUsers (usersOf_storeUser foreign)
  · exact view_memoryUser foreign directory rfl

theorem view_setUserActive (userId : String) (active : Bool) :
    view other (setUserActive moment accountId userId active directory).2 =
      view other directory := by
  unfold setUserActive
  split_ifs
  · apply view_withUsers
    unfold durableSetUserActive ScimMoment.answer
    split_ifs
    · rfl
    · cases found : directory.tables.users.find (accountId, userId) with
      | none => rfl
      | some user =>
          apply usersOf_storeUser
          rw [← account_of_find found] at foreign
          exact foreign
  · unfold withInner memorySetUserActive
    cases found : directory.inner.users.find (accountId, userId) with
    | none => rfl
    | some user =>
        have owner : (activated active moment.now user).accountId ≠ other := by
          rw [← account_of_find found] at foreign
          exact foreign
        simp only [view, usersOf_put owner]

theorem view_upsertGroup (id : Option String) (payload : Json.Value) :
    view other (upsertGroup moment accountId id payload directory).2 =
      view other directory := by
  unfold upsertGroup
  split_ifs
  · exact view_withGroups (groupsOf_storeGroup foreign)
  · unfold withInner memoryUpsertGroup
    have owner : ∀ newId existing, (groupOf accountId newId existing payload
        moment.now).accountId ≠ other := fun _ _ => foreign
    simp only [view, groupsOf_put (owner _ _)]

theorem view_tombstoneGroup (groupId : String) :
    view other (tombstoneGroup moment accountId groupId directory).2 =
      view other directory := by
  unfold tombstoneGroup
  split_ifs
  · apply view_withGroups
    unfold durableTombstoneGroup ScimMoment.answer
    split_ifs
    · rfl
    · cases found : directory.tables.groups.find (accountId, groupId) with
      | none => rfl
      | some group =>
          apply groupsOf_storeGroup
          rw [← account_of_find_group found] at foreign
          exact foreign
  · unfold withInner memoryTombstoneGroup
    cases found : directory.inner.groups.find (accountId, groupId) with
    | none => rfl
    | some group =>
        have owner : (tombstone moment.now group).accountId ≠ other := by
          rw [← account_of_find_group found] at foreign
          exact foreign
        simp only [view, groupsOf_put owner]

end Others

/-! ## The clients of a server -/

namespace ScimServer

@[simp]
theorem directory_stopClient (userName : String) (server : ScimServer) :
    (server.stopClient userName).directory = server.directory := by
  unfold stopClient
  cases server.clients.revokeClient userName deactivatedReason <;> rfl

@[simp]
theorem directory_stopInactive (user : ScimUserRecord) (server : ScimServer) :
    (server.stopInactive user).directory = server.directory := by
  unfold stopInactive
  split_ifs
  · rfl
  · exact directory_stopClient _ _

@[simp]
theorem withDirectory_fst {Result : Type} (server : ScimServer)
    (change : ScimDirectory → Result × ScimDirectory) :
    (server.withDirectory change).1 = (change server.directory).1 :=
  rfl

@[simp]
theorem withDirectory_directory {Result : Type} (server : ScimServer)
    (change : ScimDirectory → Result × ScimDirectory) :
    (server.withDirectory change).2.directory = (change server.directory).2 :=
  rfl

@[simp]
theorem withDirectory_clients {Result : Type} (server : ScimServer)
    (change : ScimDirectory → Result × ScimDirectory) :
    (server.withDirectory change).2.clients = server.clients :=
  rfl

/-- A request leaves the directories of other accounts as they are. -/
theorem view_handle {accountId other : String} (foreign : accountId ≠ other)
    (moment : ScimMoment) (server : ScimServer) (request : ScimRequest) :
    view other (server.handle moment accountId request).2.directory =
      view other server.directory := by
  cases request with
  | createUser payload => exact view_upsertUser foreign _ _ _ _
  | listUsers query => rfl
  | getUser userId => rfl
  | putUser userId payload =>
      rw [handle, putUser, directory_stopInactive]
      exact view_upsertUser foreign _ _ _ _
  | patchUser userId payload =>
      rw [handle, patchUser]
      cases patchedActive payload with
      | none => rfl
      | some active =>
          have kept := view_setUserActive foreign moment server.directory
            userId active
          dsimp only
          split
          · next _ _ changed =>
              rw [← kept, ← withDirectory_directory server, changed]
          · next _ _ _ changed =>
              rw [← kept, ← withDirectory_directory server, changed,
                directory_stopInactive]
  | deleteUser userId =>
      have kept := view_setUserActive foreign moment server.directory
        userId false
      rw [handle, deleteUser]
      split
      · next _ _ changed =>
          rw [← kept, ← withDirectory_directory server, changed]
      · next _ _ _ changed =>
          rw [← kept, ← withDirectory_directory server, changed,
            directory_stopClient]
  | createGroup payload => exact view_upsertGroup foreign _ _ _ _
  | listGroups query => rfl
  | getGroup groupId => rfl
  | putGroup groupId payload => exact view_upsertGroup foreign _ _ _ _
  | deleteGroup groupId =>
      have kept := view_tombstoneGroup foreign moment server.directory groupId
      rw [handle, deleteGroup]
      split
      · next _ _ changed =>
          rw [← kept, ← withDirectory_directory server, changed]
      · next _ _ _ changed =>
          rw [← kept, ← withDirectory_directory server, changed]

end ScimServer

/-! ### Which client a request stops -/

theorem setUserActive_fst (moment : ScimMoment) (accountId userId : String)
    (active : Bool) (directory : ScimDirectory) :
    (setUserActive moment accountId userId active directory).1 =
      (userSnapshot moment accountId userId directory).map
        (activated active moment.now) := by
  unfold setUserActive userSnapshot
  split_ifs
  · change (durableSetUserActive moment accountId userId active
      directory.tables.users).1 = _
    unfold durableSetUserActive
    cases moment.answer .getUser
      (directory.tables.users.find (accountId, userId)) <;> rfl
  · change (memorySetUserActive moment accountId userId active
      directory.inner).1 = _
    unfold memorySetUserActive
    cases directory.inner.users.find (accountId, userId) <;> rfl

/-- The name that a user has after an upsert of its id. -/
def upsertedName (moment : ScimMoment) (accountId userId : String)
    (payload : Json.Value) (directory : ScimDirectory) : String :=
  if (requestedUserName payload).isEmpty then
    ((userSnapshot moment accountId userId directory).map
      (·.userName)).getD userId
  else requestedUserName payload

theorem upsertUser_given (moment : ScimMoment) (accountId userId : String)
    (payload : Json.Value) (directory : ScimDirectory) :
    ∃ existing,
      (upsertUser moment accountId (some userId) payload directory).1 =
        userOf accountId userId (requestedUserName payload) existing payload
          moment.now ∧
      ((requestedUserName payload).isEmpty →
        existing = userSnapshot moment accountId userId directory) := by
  unfold upsertUser userSnapshot
  split_ifs
  · refine ⟨_, rfl, fun unnamed => ?_⟩
    rw [durableUser, if_pos unnamed, Option.or_none]
    rfl
  · exact ⟨_, rfl, fun _ => rfl⟩

theorem upsertUser_userName (moment : ScimMoment) (accountId userId : String)
    (payload : Json.Value) (directory : ScimDirectory) :
    (upsertUser moment accountId (some userId) payload
      directory).1.userName =
      upsertedName moment accountId userId payload directory := by
  obtain ⟨existing, isUser, unnamed⟩ :=
    upsertUser_given moment accountId userId payload directory
  rw [isUser, upsertedName, userOf]
  dsimp only
  split_ifs with blank
  · rw [unnamed blank]
  · rfl

theorem upsertUser_active (moment : ScimMoment) (accountId userId : String)
    (payload : Json.Value) (directory : ScimDirectory) :
    (upsertUser moment accountId (some userId) payload directory).1.active =
      requestedActive payload := by
  obtain ⟨existing, isUser, -⟩ :=
    upsertUser_given moment accountId userId payload directory
  rw [isUser, userOf]

/-- The name of the user that a request deactivates. -/
def stoppedName (moment : ScimMoment) (accountId : String)
    (directory : ScimDirectory) : ScimRequest → Option String
  | .putUser userId payload =>
      if requestedActive payload then none
      else some (upsertedName moment accountId userId payload directory)
  | .patchUser userId payload =>
      if patchedActive payload = some false then
        (userSnapshot moment accountId userId directory).map (·.userName)
      else none
  | .deleteUser userId =>
      (userSnapshot moment accountId userId directory).map (·.userName)
  | _ => none

/-- The client after its user was deactivated. -/
def stopped (client : RegisteredClient) : RegisteredClient :=
  { client with status := .revoked, statusReason := some deactivatedReason }

/-- The registry after the client of a name was stopped, if there is one. -/
def stopIn (clients : ClientRegistry) (name : Option String) :
    ClientRegistry := fun clientId =>
  if name = some clientId then (clients clientId).map stopped
  else clients clientId

@[simp]
theorem stopIn_none (clients : ClientRegistry) :
    stopIn clients none = clients :=
  rfl

namespace ScimServer

theorem clients_stopClient (userName : String) (server : ScimServer) :
    (server.stopClient userName).clients =
      stopIn server.clients (some userName) := by
  funext clientId
  unfold stopClient ClientRegistry.revokeClient ClientRegistry.setStatus
    stopIn
  cases registered : server.clients userName with
  | none =>
      dsimp only
      split_ifs with same
      · rw [← Option.some.inj same, registered]
        rfl
      · rfl
  | some client =>
      dsimp only
      split_ifs with same
      · rw [← Option.some.inj same, registered,
          ClientRegistry.insert_self]
        rfl
      · rw [ClientRegistry.insert_of_ne fun isSame =>
          same (congrArg some isSame.symm)]

theorem clients_handle (moment : ScimMoment) (accountId : String)
    (server : ScimServer) (request : ScimRequest) :
    (server.handle moment accountId request).2.clients =
      stopIn server.clients
        (stoppedName moment accountId server.directory request) := by
  cases request with
  | createUser payload => rfl
  | listUsers query => rfl
  | getUser userId => rfl
  | putUser userId payload =>
      rw [handle, putUser, stoppedName]
      dsimp only
      rw [stopInactive, withDirectory_fst, upsertUser_active]
      split_ifs
      · rfl
      · rw [clients_stopClient, upsertUser_userName]
        rfl
  | patchUser userId payload =>
      rw [handle, patchUser, stoppedName]
      cases patchedActive payload with
      | none => rfl
      | some active =>
          have result := setUserActive_fst moment accountId userId active
            server.directory
          rw [← withDirectory_fst server] at result
          dsimp only
          split
          · next after changed =>
              have clients := withDirectory_clients server
                (setUserActive moment accountId userId active)
              rw [changed] at result clients
              rw [Option.map_eq_none_iff.mp result.symm, Option.map_none,
                ite_self, stopIn_none, ← clients]
          · next user after changed =>
              have clients := withDirectory_clients server
                (setUserActive moment accountId userId active)
              rw [changed] at result clients
              obtain ⟨held, isHeld, rfl⟩ :=
                Option.map_eq_some_iff.mp result.symm
              rw [isHeld, stopInactive]
              cases active with
              | true => exact clients
              | false =>
                  exact (clients_stopClient _ _).trans
                    (congrArg (fun before => stopIn before _) clients)
  | deleteUser userId =>
      rw [handle, deleteUser, stoppedName]
      have result := setUserActive_fst moment accountId userId false
        server.directory
      rw [← withDirectory_fst server] at result
      have clients := withDirectory_clients server
        (setUserActive moment accountId userId false)
      split
      · next after changed =>
          rw [changed] at result clients
          rw [Option.map_eq_none_iff.mp result.symm, Option.map_none,
            stopIn_none, ← clients]
      · next user after changed =>
          rw [changed] at result clients
          obtain ⟨held, isHeld, rfl⟩ := Option.map_eq_some_iff.mp result.symm
          rw [isHeld]
          exact (clients_stopClient _ _).trans
            (congrArg (fun before => stopIn before _) clients)
  | createGroup payload => rfl
  | listGroups query => rfl
  | getGroup groupId => rfl
  | putGroup groupId payload => rfl
  | deleteGroup groupId =>
      have clients := withDirectory_clients server
        (tombstoneGroup moment accountId groupId)
      change (server.deleteGroup moment accountId groupId).2.clients =
        server.clients
      rw [deleteGroup]
      split
      · next _ _ changed =>
          rw [← clients, changed]
      · next _ _ _ changed =>
          rw [← clients, changed]

end ScimServer

/-! ## What a reply depends on -/

section Replies

variable {accountId : String} {left right : ScimDirectory}
  (same : view accountId left = view accountId right)
  (moment : ScimMoment)

include same

theorem users_eq : usersOf accountId left.inner.users =
    usersOf accountId right.inner.users :=
  congrArg AccountView.users same

theorem storedUsers_eq : usersOf accountId left.tables.users =
    usersOf accountId right.tables.users :=
  congrArg AccountView.storedUsers same

theorem groups_eq : groupsOf accountId left.inner.groups =
    groupsOf accountId right.inner.groups :=
  congrArg AccountView.groups same

theorem storedGroups_eq : groupsOf accountId left.tables.groups =
    groupsOf accountId right.tables.groups :=
  congrArg AccountView.storedGroups same

theorem names_eq (name : String) :
    left.inner.usersByName (accountId, name) =
      right.inner.usersByName (accountId, name) :=
  congrFun (congrArg AccountView.names same) name

theorem userSnapshot_eq (userId : String) :
    userSnapshot moment accountId userId left =
      userSnapshot moment accountId userId right := by
  unfold userSnapshot
  rw [find_user, find_user, find_user, find_user, users_eq same,
    storedUsers_eq same]

theorem groupSnapshot_eq (groupId : String) :
    groupSnapshot moment accountId groupId left =
      groupSnapshot moment accountId groupId right := by
  unfold groupSnapshot
  rw [find_group, find_group, find_group, find_group, groups_eq same,
    storedGroups_eq same]

theorem durableUpsertUser_eq (id : Option String) (payload : Json.Value) :
    (durableUpsertUser moment accountId id payload left.tables.users).1 =
      (durableUpsertUser moment accountId id payload
        right.tables.users).1 := by
  have found : ∀ requested,
      durableUser moment accountId id requested left.tables.users =
        durableUser moment accountId id requested right.tables.users := by
    intro requested
    simp only [durableUser, find_user, find_name, storedUsers_eq same]
  have next : durableUserId moment accountId left.tables.users =
      durableUserId moment accountId right.tables.users := by
    have rows := storedUsers_eq same
    unfold usersOf at rows
    simp only [durableUserId, nextScimUserId, nextId, rows]
  simp only [durableUpsertUser, found, next]

variable {id : Option String} {payload : Json.Value}

/-- Two maps that know the user give it the same record. -/
theorem memoryUpsertUser_eq (known : (knownUserId left.inner accountId id
      (requestedUserName payload)).isSome) :
    (memoryUpsertUser moment accountId id payload left.inner).1 =
      (memoryUpsertUser moment accountId id payload right.inner).1 := by
  have knowing : knownUserId left.inner accountId id
        (requestedUserName payload) =
      knownUserId right.inner accountId id (requestedUserName payload) := by
    rw [knownUserId, knownUserId, names_eq same]
  obtain ⟨userId, isId⟩ := Option.isSome_iff_exists.mp known
  simp only [memoryUpsertUser, ← knowing, isId, Option.getD_some, find_user,
    users_eq same]

theorem upsertUser_eq (known : moment.opens = false →
      (knownUserId left.inner accountId id
        (requestedUserName payload)).isSome) :
    (upsertUser moment accountId id payload left).1 =
      (upsertUser moment accountId id payload right).1 := by
  unfold upsertUser
  split_ifs with opens
  · exact durableUpsertUser_eq same moment id payload
  · exact memoryUpsertUser_eq same moment (known (by simpa using opens))

theorem upsertGroup_eq (known : moment.opens = false → id.isSome) :
    (upsertGroup moment accountId id payload left).1 =
      (upsertGroup moment accountId id payload right).1 := by
  have rows := storedGroups_eq same
  unfold groupsOf at rows
  unfold upsertGroup
  split_ifs with opens
  · have next : durableGroupId moment accountId left.tables.groups =
        durableGroupId moment accountId right.tables.groups := by
      simp only [durableGroupId, nextScimGroupId, nextId, rows]
    simp only [withGroups, durableUpsertGroup, next, find_group,
      storedGroups_eq same]
  · obtain ⟨groupId, rfl⟩ :=
      Option.isSome_iff_exists.mp (known (by simpa using opens))
    simp only [withInner, memoryUpsertGroup, Option.getD_some, find_group,
      groups_eq same]

theorem tombstoneGroup_eq (groupId : String) :
    (tombstoneGroup moment accountId groupId left).1 =
      (tombstoneGroup moment accountId groupId right).1 := by
  have result : ∀ directory,
      (tombstoneGroup moment accountId groupId directory).1 =
        (groupSnapshot moment accountId groupId directory).map
          (tombstone moment.now) := by
    intro directory
    unfold tombstoneGroup groupSnapshot
    split_ifs
    · change (durableTombstoneGroup moment accountId groupId
        directory.tables.groups).1 = _
      unfold durableTombstoneGroup
      cases moment.answer .getGroup
        (directory.tables.groups.find (accountId, groupId)) <;> rfl
    · change (memoryTombstoneGroup moment accountId groupId
        directory.inner).1 = _
      unfold memoryTombstoneGroup
      cases directory.inner.groups.find (accountId, groupId) <;> rfl
  rw [result, result, groupSnapshot_eq same]

theorem setUserActive_eq (userId : String) (active : Bool) :
    (setUserActive moment accountId userId active left).1 =
      (setUserActive moment accountId userId active right).1 := by
  rw [setUserActive_fst, setUserActive_fst, userSnapshot_eq same]

theorem listUsers_eq (filter : Option String) :
    listUsers moment accountId filter left =
      listUsers moment accountId filter right := by
  have users := users_eq same
  have storedUsers := storedUsers_eq same
  unfold usersOf at users storedUsers
  simp only [listUsers, memoryUsers, listScimUsers, users, storedUsers]

theorem listGroups_eq :
    listGroups moment accountId left = listGroups moment accountId right := by
  have groups := groups_eq same
  have storedGroups := storedGroups_eq same
  unfold groupsOf at groups storedGroups
  simp only [listGroups, memoryGroups, listScimGroups, groups, storedGroups]

end Replies

/-- The request takes an id from the counters of the process. -/
def CountsUp (moment : ScimMoment) (accountId : String)
    (inner : ScimDirectoryInner) : ScimRequest → Prop
  | .createUser payload =>
      moment.opens = false ∧
        inner.usersByName (accountId, requestedUserName payload) = none
  | .createGroup _ => moment.opens = false
  | _ => False

namespace ScimServer

theorem patchUser_fst (moment : ScimMoment) (accountId userId : String)
    (payload : Json.Value) (server : ScimServer) :
    (server.patchUser moment accountId userId payload).1 =
      match patchedActive payload with
      | none =>
          jsonReply 400 (detail "400" "unsupported SCIM PATCH operation")
      | some active =>
          match (setUserActive moment accountId userId active
              server.directory).1 with
          | none => unknownUser
          | some user => jsonReply 200 (scimUserJson user) := by
  unfold patchUser
  cases patchedActive payload with
  | none => rfl
  | some active =>
      dsimp only
      rw [← withDirectory_fst server]
      rcases server.withDirectory
        (setUserActive moment accountId userId active) with ⟨_ | user, after⟩
      · rfl
      · rfl

theorem deleteUser_fst (moment : ScimMoment) (accountId userId : String)
    (server : ScimServer) :
    (server.deleteUser moment accountId userId).1 =
      match (setUserActive moment accountId userId false
          server.directory).1 with
      | none => unknownUser
      | some _ => noContent := by
  unfold deleteUser
  rw [← withDirectory_fst server]
  rcases server.withDirectory
    (setUserActive moment accountId userId false) with ⟨_ | user, after⟩
  · rfl
  · rfl

theorem deleteGroup_fst (moment : ScimMoment) (accountId groupId : String)
    (server : ScimServer) :
    (server.deleteGroup moment accountId groupId).1 =
      match (tombstoneGroup moment accountId groupId
          server.directory).1 with
      | none => unknownGroup
      | some _ => noContent := by
  unfold deleteGroup
  rw [← withDirectory_fst server]
  rcases server.withDirectory
    (tombstoneGroup moment accountId groupId) with ⟨_ | group, after⟩
  · rfl
  · rfl

theorem reply_handle {accountId : String} {left right : ScimServer}
    (same : view accountId left.directory = view accountId right.directory)
    {moment : ScimMoment} {request : ScimRequest}
    (counted : ¬ CountsUp moment accountId left.directory.inner request) :
    (left.handle moment accountId request).1 =
      (right.handle moment accountId request).1 := by
  cases request with
  | createUser payload =>
      have known : moment.opens = false →
          (knownUserId left.directory.inner accountId none
            (requestedUserName payload)).isSome := by
        intro closed
        rw [knownUserId, Option.none_or, Option.isSome_iff_ne_none]
        exact fun absent => counted ⟨closed, absent⟩
      exact congrArg (fun user => jsonReply 201 (scimUserJson user))
        (upsertUser_eq same moment known)
  | listUsers query =>
      exact congrArg (listReply scimUserJson query)
        (listUsers_eq same moment (filterUserName query.filter))
  | getUser userId =>
      simp only [handle, getUserReply, userSnapshot_eq same]
  | putUser userId payload =>
      exact congrArg (fun user => jsonReply 200 (scimUserJson user))
        (upsertUser_eq same moment fun _ => rfl)
  | patchUser userId payload =>
      simp only [handle, patchUser_fst, setUserActive_eq same]
  | deleteUser userId =>
      simp only [handle, deleteUser_fst, setUserActive_eq same]
  | createGroup payload =>
      have known : moment.opens = false → (none : Option String).isSome :=
        fun closed => absurd closed counted
      exact congrArg (fun group => jsonReply 201 (scimGroupJson group))
        (upsertGroup_eq same moment known)
  | listGroups query =>
      exact congrArg (listReply scimGroupJson query) (listGroups_eq same moment)
  | getGroup groupId =>
      simp only [handle, getGroupReply, groupSnapshot_eq same]
  | putGroup groupId payload =>
      exact congrArg (fun group => jsonReply 200 (scimGroupJson group))
        (upsertGroup_eq same moment fun _ => rfl)
  | deleteGroup groupId =>
      simp only [handle, deleteGroup_fst, tombstoneGroup_eq same]

end ScimServer

/-! ## Isolation -/

/-- The client has neither the tenant nor the account. -/
def Foreign (accountId : String) (client : RegisteredClient) : Prop :=
  client.tenantId ≠ accountId ∧ client.accountId ≠ some accountId

/-- The secret of the request is the secret of a token of the account. -/
def AuthenticatedAs (accountId : String) (call : ScimCall)
    (server : ScimServer) : Prop :=
  ∃ secret token, bearerSecret call.headers = some secret ∧
    authenticateToken call.checking call.verify secret server.directory =
      some token ∧ token.accountId = accountId

/-- What is promised of a request with a token of the account. -/
structure Isolated (accountId : String) (call : ScimCall)
    (server : ScimServer) : Prop where
  directories : ∀ other, accountId ≠ other →
    view other (scimServe call server).2.directory =
      view other server.directory
  clients : ∀ clientId client, server.clients clientId = some client →
    Foreign accountId client →
      (scimServe call server).2.clients clientId = some client
  reply : ∀ other : ScimServer, AuthenticatedAs accountId call other →
    view accountId server.directory = view accountId other.directory →
      (scimServe call server).1 = (scimServe call other).1

/-- The headers name no other account. -/
def Admits (accountId : String) (headers : ScimHeaders) : Prop :=
  (requestedAccount headers).all (· == accountId)

/--
A request that is admitted deactivates no user with the name of another
account's client, unless that client is stopped so already, and takes no id
from the counters of the process.
-/
def KeepsApart (accountId : String) (call : ScimCall) (server : ScimServer) :
    Prop :=
  Admits accountId call.headers →
    (∀ name ∈ stoppedName call.acting accountId server.directory call.request,
      ∀ client, server.clients name = some client →
        Foreign accountId client → stopped client = client) ∧
      ¬ CountsUp call.acting accountId server.directory.inner call.request

/-- The refusal of a token for a header with another account. -/
def otherAccount : ScimReply :=
  jsonReply 403
    (schemaDetail "403" "SCIM token is scoped to a different account")

section Served

variable {accountId : String} {call : ScimCall} {server : ScimServer}

section

variable (authenticated : AuthenticatedAs accountId call server)

include authenticated

theorem scimAccount_eq :
    scimAccountFromHeaders call.checking call.verify call.headers
        server.directory =
      if (requestedAccount call.headers).all (· == accountId) then
        .ok accountId
      else .error otherAccount := by
  obtain ⟨secret, token, isSecret, isToken, rfl⟩ := authenticated
  rw [scimAccountFromHeaders, isSecret, Option.bind_some, isToken]
  rfl

theorem scimServe_admitted (admits : Admits accountId call.headers) :
    scimServe call server =
      server.handle call.acting accountId call.request := by
  unfold Admits at admits
  rw [scimServe, scimAccount_eq authenticated, if_pos admits]

theorem scimServe_refused (refused : ¬ Admits accountId call.headers) :
    scimServe call server = (otherAccount, server) := by
  unfold Admits at refused
  rw [scimServe, scimAccount_eq authenticated, if_neg refused]

end

end Served

/-- The server with both counters one further on. -/
def counted (server : ScimServer) : ScimServer :=
  { server with
    directory :=
      { server.directory with
        inner :=
          { server.directory.inner with
            userCounter := server.directory.inner.userCounter + 1
            groupCounter := server.directory.inner.groupCounter + 1 } } }

theorem numbered_succ_ne (kind owner : String) (number : Nat) :
    numbered kind owner number ≠ numbered kind owner (number + 1) := by
  intro same
  exact absurd (numbered_inj.mp same).2 (Nat.succ_ne_self number).symm

theorem id_of_scimUserJson (user : ScimUserRecord) :
    (scimUserJson user).get "id" = some (.string user.id) := by
  simp [scimUserJson, Json.Value.record, Json.Fields.of, Json.Value.get,
    Json.Fields.get_insert]

theorem id_of_scimGroupJson (group : ScimGroupRecord) :
    (scimGroupJson group).get "id" = some (.string group.id) := by
  simp [scimGroupJson, Json.Value.record, Json.Fields.of, Json.Value.get,
    Json.Fields.get_insert]

theorem jsonReply_ne {status : Nat} {left right : Json.Value} (key : String)
    (differs : left.get key ≠ right.get key) :
    jsonReply status left ≠ jsonReply status right := by
  intro same
  have bodies := congrArg ScimReply.body same
  exact differs (congrArg (fun body => Json.Value.get body key)
    (Option.some.inj bodies))

theorem upsertUser_id (closed : moment.opens = false)
    {accountId : String} {payload : Json.Value} {directory : ScimDirectory}
    (unknown : directory.inner.usersByName
      (accountId, requestedUserName payload) = none) :
    (upsertUser moment accountId none payload directory).1.id =
      memoryUserId accountId (directory.inner.userCounter + 1) := by
  rw [upsertUser, if_neg (by rw [closed]; exact Bool.false_ne_true)]
  simp [withInner, memoryUpsertUser, knownUserId, unknown, userOf]

theorem upsertGroup_id (closed : moment.opens = false)
    (accountId : String) (payload : Json.Value) (directory : ScimDirectory) :
    (upsertGroup moment accountId none payload directory).1.id =
      memoryGroupId accountId (directory.inner.groupCounter + 1) := by
  rw [upsertGroup, if_neg (by rw [closed]; exact Bool.false_ne_true)]
  simp [withInner, memoryUpsertGroup, groupOf]

/-- A reply with a generated id tells how far the counter is. -/
theorem reply_counted {accountId : String}
    {server : ScimServer} {request : ScimRequest}
    (counts : CountsUp moment accountId server.directory.inner request) :
    (server.handle moment accountId request).1 ≠
      ((counted server).handle moment accountId request).1 := by
  cases request with
  | createUser payload =>
      obtain ⟨closed, unknown⟩ := counts
      change jsonReply 201 (scimUserJson (upsertUser moment accountId none
          payload server.directory).1) ≠
        jsonReply 201 (scimUserJson (upsertUser moment accountId none
          payload (counted server).directory).1)
      refine jsonReply_ne "id" ?_
      have later : (counted server).directory.inner.usersByName
          (accountId, requestedUserName payload) = none := unknown
      rw [id_of_scimUserJson, id_of_scimUserJson, upsertUser_id closed unknown,
        upsertUser_id closed later]
      intro same
      rw [Option.some.injEq, Json.Value.string.injEq] at same
      exact numbered_succ_ne "usr_" accountId _ same
  | createGroup payload =>
      change jsonReply 201 (scimGroupJson (upsertGroup moment accountId none
          payload server.directory).1) ≠
        jsonReply 201 (scimGroupJson (upsertGroup moment accountId none
          payload (counted server).directory).1)
      refine jsonReply_ne "id" ?_
      rw [id_of_scimGroupJson, id_of_scimGroupJson, upsertGroup_id counts,
        upsertGroup_id counts]
      intro same
      rw [Option.some.injEq, Json.Value.string.injEq] at same
      exact numbered_succ_ne "grp_" accountId _ same
  | _ => exact counts.elim

/-- A request is isolated exactly if it keeps the accounts apart. -/
theorem scim_isolated_iff {accountId : String} {call : ScimCall}
    {server : ScimServer}
    (authenticated : AuthenticatedAs accountId call server) :
    Isolated accountId call server ↔ KeepsApart accountId call server := by
  constructor
  · intro isolated admits
    have served := scimServe_admitted authenticated admits
    constructor
    · intro name stops client registered foreign
      have kept := isolated.clients name client registered foreign
      rw [served, ScimServer.clients_handle, Option.mem_def.mp stops, stopIn,
        if_pos rfl, registered] at kept
      exact Option.some.inj kept
    · intro counts
      have alike : AuthenticatedAs accountId call (counted server) :=
        authenticated
      have same := isolated.reply (counted server) alike rfl
      rw [served, scimServe_admitted alike admits] at same
      exact reply_counted counts same
  · intro apart
    by_cases admits : Admits accountId call.headers
    · obtain ⟨spares, uncounted⟩ := apart admits
      have served := scimServe_admitted authenticated admits
      refine ⟨?_, ?_, ?_⟩
      · intro other foreign
        rw [served, ScimServer.view_handle foreign]
      · intro clientId client registered foreign
        rw [served, ScimServer.clients_handle, stopIn]
        split_ifs with stops
        · rw [registered, Option.map_some,
            spares clientId stops client registered foreign]
        · exact registered
      · intro other alike same
        rw [served, scimServe_admitted alike admits]
        exact ScimServer.reply_handle same uncounted
    · have served := scimServe_refused authenticated admits
      refine ⟨?_, ?_, ?_⟩
      · intro other _
        rw [served]
      · intro clientId client registered _
        rw [served]
        exact registered
      · intro other alike _
        rw [served, scimServe_refused alike admits]

/-! ### Two accounts -/

def acmeToken : ScimTokenRecord where
  snapshot := ⟨"sct_acme_1", "acme", "okta", calm.now, none⟩
  secretHash := "scim_acme_1_c2FsdA"

/-- A client of another account than `acme`. -/
def globexClient : RegisteredClient :=
  { RegisteredClient.new "$argon2id$" "ANALYST" with tenantId := "globex" }

/-- The token of `acme` and a user of `acme` with the name of the client. -/
def twoAccounts : ScimServer where
  clients := ClientRegistry.empty.insert "globex-etl" globexClient
  directory :=
    (upsertUser calm "acme" none
      (.object [("userName", .string "globex-etl")])
      { ScimDirectory.empty with
        tables := { ScimTables.empty with tokens := Keyed.empty.put acmeToken }
        }).2

def acmeCall (request : ScimRequest) : ScimCall where
  checking := calm
  acting := calm
  verify := fun hash secret => hash == secret
  headers := ⟨some "Bearer scim_acme_1_c2FsdA", none⟩
  request := request

def createAda : ScimRequest :=
  .createUser (.object [("userName", .string "ada")])

theorem acmeCall_authenticated (request : ScimRequest) :
    AuthenticatedAs "acme" (acmeCall request) twoAccounts := by
  have secret : bearerSecret (acmeCall createAda).headers =
      some "scim_acme_1_c2FsdA" := by decide
  have token : authenticateToken calm (fun hash secret => hash == secret)
      "scim_acme_1_c2FsdA" twoAccounts.directory =
        some acmeToken.snapshot := by decide
  exact ⟨_, _, secret, token, rfl⟩

theorem scim_isolated_ada :
    Isolated "acme" (acmeCall createAda) twoAccounts := by
  refine (scim_isolated_iff (acmeCall_authenticated createAda)).mpr ?_
  intro _
  constructor
  · intro name stops
    cases stops
  · rintro ⟨closed, -⟩
    cases closed

/-- The deleted user of `acme` takes the client of `globex` along. -/
theorem scim_isolated_fails :
    AuthenticatedAs "acme" (acmeCall (.deleteUser "scu_acme_1"))
        twoAccounts ∧
      ¬ Isolated "acme" (acmeCall (.deleteUser "scu_acme_1"))
        twoAccounts := by
  refine ⟨acmeCall_authenticated _, fun isolated => ?_⟩
  have foreign : Foreign "acme" globexClient := ⟨by decide, nofun⟩
  have kept := isolated.clients "globex-etl" globexClient rfl foreign
  revert kept
  decide

end OpenSnow.Server.Scim
