import OpenSnow.Foundation.Lists
import OpenSnow.Server.Scim

/-!
# The SCIM directory in memory

The calls on users and groups as data, with their answers; those that do not
reach what the two SCIM directories do differently; what they keep in memory;
and the ids that they issue, each with the id that the catalog issues in its
place.
-/

namespace OpenSnow.Server.Scim

open Catalog.Scim
open Foundation
open Foundation.NumberedNames
open Foundation.Swaps
open Rust
open Rust.Text
open ScimDirectory

/-! ## Calls and answers -/

inductive DirectoryCall where
  | upsertUser (accountId : String) (id : Option String)
      (payload : Json.Value)
  | setUserActive (accountId userId : String) (active : Bool)
  | userSnapshot (accountId userId : String)
  | listUsers (accountId : String) (filter : Option String)
  | upsertGroup (accountId : String) (id : Option String)
      (payload : Json.Value)
  | tombstoneGroup (accountId groupId : String)
  | groupSnapshot (accountId groupId : String)
  | listGroups (accountId : String)

inductive DirectoryAnswer where
  | user (user : Option ScimUserRecord)
  | users (users : List ScimUserRecord)
  | group (group : Option ScimGroupRecord)
  | groups (groups : List ScimGroupRecord)
deriving DecidableEq, Repr

def perform (moment : ScimMoment) (directory : ScimDirectory) :
    DirectoryCall → DirectoryAnswer × ScimDirectory
  | .upsertUser accountId id payload =>
      let (user, after) := upsertUser moment accountId id payload directory
      (.user (some user), after)
  | .setUserActive accountId userId active =>
      let (user, after) :=
        setUserActive moment accountId userId active directory
      (.user user, after)
  | .userSnapshot accountId userId =>
      (.user (userSnapshot moment accountId userId directory), directory)
  | .listUsers accountId filter =>
      (.users (listUsers moment accountId filter directory), directory)
  | .upsertGroup accountId id payload =>
      let (group, after) := upsertGroup moment accountId id payload directory
      (.group (some group), after)
  | .tombstoneGroup accountId groupId =>
      let (group, after) := tombstoneGroup moment accountId groupId directory
      (.group group, after)
  | .groupSnapshot accountId groupId =>
      (.group (groupSnapshot moment accountId groupId directory), directory)
  | .listGroups accountId =>
      (.groups (listGroups moment accountId directory), directory)

/-- A call at a moment. -/
structure DirectoryStep where
  moment : ScimMoment
  call : DirectoryCall

/-- The answers to a sequence of calls. -/
def answers (directory : ScimDirectory) :
    List DirectoryStep → List DirectoryAnswer
  | [] => []
  | step :: rest =>
      let (answer, after) := perform step.moment directory step.call
      answer :: answers after rest

/-- The same call on a directory without a catalog. -/
def DirectoryStep.inMemory (step : DirectoryStep) : DirectoryStep :=
  { step with moment := { step.moment with opens := false } }

/-! ## Renaming ids -/

section Renaming

variable (rename : String → String)

def renameUser (user : ScimUserRecord) : ScimUserRecord :=
  { user with id := rename user.id }

def renameGroup (group : ScimGroupRecord) : ScimGroupRecord :=
  { group with
    id := rename group.id, members := group.members.map rename }

/-- Rename the members that the payload of a group names. -/
def renameMembers (payload : Json.Value) : Json.Value :=
  payload.mapField "members"
    (Json.Value.mapItems (Json.Value.mapField "value"
      (Json.Value.mapText rename)))

def DirectoryCall.renamed : DirectoryCall → DirectoryCall
  | .upsertUser accountId id payload =>
      .upsertUser accountId (id.map rename) payload
  | .setUserActive accountId userId active =>
      .setUserActive accountId (rename userId) active
  | .userSnapshot accountId userId =>
      .userSnapshot accountId (rename userId)
  | .listUsers accountId filter => .listUsers accountId filter
  | .upsertGroup accountId id payload =>
      .upsertGroup accountId (id.map rename) (renameMembers rename payload)
  | .tombstoneGroup accountId groupId =>
      .tombstoneGroup accountId (rename groupId)
  | .groupSnapshot accountId groupId =>
      .groupSnapshot accountId (rename groupId)
  | .listGroups accountId => .listGroups accountId

def DirectoryAnswer.renamed : DirectoryAnswer → DirectoryAnswer
  | .user found => .user (found.map (renameUser rename))
  | .users rows => .users (rows.map (renameUser rename))
  | .group found => .group (found.map (renameGroup rename))
  | .groups rows => .groups (rows.map (renameGroup rename))

def DirectoryStep.renamed (step : DirectoryStep) : DirectoryStep :=
  { step with call := step.call.renamed rename }

/-! ### What a renamed payload asks for -/

variable {rename}

theorem textField_renameMembers {field : String} (other : field ≠ "members")
    (payload : Json.Value) :
    textField (renameMembers rename payload) field =
      textField payload field := by
  rw [textField, renameMembers, Json.Value.get_mapField, if_neg other,
    textField]

theorem textField_mapText (field : String) (member : Json.Value) :
    textField (member.mapField field (Json.Value.mapText rename)) field =
      (textField member field).map rename := by
  rw [textField, Json.Value.get_mapField, if_pos rfl, textField]
  cases member.get field with
  | none => rfl
  | some value => exact Json.Value.asStr_mapText rename value

theorem requestedMembers_renameMembers (payload : Json.Value) :
    requestedMembers (renameMembers rename payload) =
      (requestedMembers payload).map fun members => members.map rename := by
  rw [requestedMembers, renameMembers, Json.Value.get_mapField, if_pos rfl,
    requestedMembers]
  cases payload.get "members" with
  | none => rfl
  | some value =>
      rw [Option.map_some, Option.bind_some, Json.Value.asArray_mapItems,
        Option.bind_some, Option.map_map, Option.map_map]
      refine congrArg (fun read => value.asArray.map read) (funext fun items => ?_)
      simp only [Function.comp_apply, List.filterMap_map, List.map_filterMap]
      exact List.filterMap_congr fun member _ =>
        textField_mapText "value" member

theorem userOf_rename {accountId id requested now : String}
    {existing : Option ScimUserRecord} {payload : Json.Value}
    (named : requested.isEmpty → existing = none → rename id = id) :
    userOf accountId (rename id) requested
        (existing.map (renameUser rename)) payload now =
      renameUser rename
        (userOf accountId id requested existing payload now) := by
  cases existing with
  | none =>
      simp only [userOf, renameUser, Option.map_none, Option.getD_none]
      split_ifs with blank
      · rw [named blank rfl]
      · rfl
  | some held => rfl

theorem groupOf_rename (accountId id now : String)
    (existing : Option ScimGroupRecord) (payload : Json.Value) :
    groupOf accountId (rename id) (existing.map (renameGroup rename))
        (renameMembers rename payload) now =
      renameGroup rename (groupOf accountId id existing payload now) := by
  have displayName : requestedDisplayName (renameMembers rename payload) =
      requestedDisplayName payload := by
    rw [requestedDisplayName, textField_renameMembers (by decide),
      requestedDisplayName]
  simp only [groupOf, renameGroup, displayName,
    requestedMembers_renameMembers]
  cases requestedMembers payload <;> cases existing <;> rfl

end Renaming

/-! ## Calls on which the two agree -/

/-- One of the two directories could give the id to a new row. -/
def LooksGenerated (id : String) : Prop :=
  ∃ kind ∈ ["usr_", "scu_", "grp_", "scg_"], ∃ accountId number,
    id = numbered kind accountId number

/-- The id of a user that is there, or no id that is ever generated. -/
def UserId (inner : ScimDirectoryInner) (accountId userId : String) : Prop :=
  (inner.users.find (accountId, userId)).isSome ∨ ¬ LooksGenerated userId

def GroupId (inner : ScimDirectoryInner) (accountId groupId : String) :
    Prop :=
  (inner.groups.find (accountId, groupId)).isSome ∨ ¬ LooksGenerated groupId

/-- The name that an upsert of an id gives a user in memory. -/
def givenName (inner : ScimDirectoryInner) (accountId userId : String)
    (payload : Json.Value) : String :=
  if (requestedUserName payload).isEmpty then
    ((inner.users.find (accountId, userId)).map (·.userName)).getD userId
  else requestedUserName payload

/--
The call does not reach what the two directories do differently: names that
another user has or had, new users without a name, filters with capital
letters, lists with deleted groups or with groups of one name, and ids that
look like generated ones.
-/
def SameOnBoth (inner : ScimDirectoryInner) : DirectoryCall → Prop
  | .upsertUser accountId (some userId) payload =>
      UserId inner accountId userId ∧
        ∀ user ∈ usersOf accountId inner.users,
          user.userName = givenName inner accountId userId payload →
            user.id = userId
  | .upsertUser accountId none payload =>
      (requestedUserName payload).isEmpty = false ∧
        ∀ userId ∈ inner.usersByName (accountId, requestedUserName payload),
          ∃ user, inner.users.find (accountId, userId) = some user ∧
            user.userName = requestedUserName payload
  | .setUserActive accountId userId _ => UserId inner accountId userId
  | .userSnapshot accountId userId => UserId inner accountId userId
  | .listUsers _ filter => ∀ name ∈ filter, toAsciiLowercase name = name
  | .upsertGroup accountId id _ => ∀ groupId ∈ id,
      GroupId inner accountId groupId
  | .tombstoneGroup accountId groupId => GroupId inner accountId groupId
  | .groupSnapshot accountId groupId => GroupId inner accountId groupId
  | .listGroups accountId =>
      (∀ group ∈ groupsOf accountId inner.groups, group.tombstoned = false) ∧
        ∀ group ∈ groupsOf accountId inner.groups,
          ∀ other ∈ groupsOf accountId inner.groups,
            group.displayName = other.displayName → group = other

/-- The catalog works throughout, and the two agree on each call. -/
def SameRun : ScimDirectory → List DirectoryStep → Prop
  | _, [] => True
  | directory, step :: rest =>
      step.moment.Works ∧ SameOnBoth directory.inner step.call ∧
        SameRun (perform step.inMemory.moment directory step.call).2 rest

/-! ## The directory in memory -/

/-- What runs of such calls keep in memory. -/
structure Tidy (inner : ScimDirectoryInner) : Prop where
  named : ∀ user ∈ inner.users.rows,
    inner.usersByName (user.accountId, user.userName) = some user.id
  users : ∀ user ∈ inner.users.rows, LooksGenerated user.id →
    ∃ accountId number, number ≤ inner.userCounter ∧
      user.id = memoryUserId accountId number
  groups : ∀ group ∈ inner.groups.rows, LooksGenerated group.id →
    ∃ accountId number, number ≤ inner.groupCounter ∧
      group.id = memoryGroupId accountId number

theorem tidy_empty : Tidy .empty where
  named _ member := nomatch member
  users _ member := nomatch member
  groups _ member := nomatch member

section Memory

variable {inner : ScimDirectoryInner}

theorem looksGenerated_memoryUserId (accountId : String) (number : Nat) :
    LooksGenerated (memoryUserId accountId number) :=
  ⟨"usr_", by decide, accountId, number, rfl⟩

theorem looksGenerated_memoryGroupId (accountId : String) (number : Nat) :
    LooksGenerated (memoryGroupId accountId number) :=
  ⟨"grp_", by decide, accountId, number, rfl⟩

section

variable (tidy : Tidy inner)

include tidy

theorem Tidy.nextUser_absent (accountId : String) :
    inner.users.find
      (accountId, memoryUserId accountId (inner.userCounter + 1)) = none := by
  rw [Keyed.find_eq_none]
  intro user member sameKey
  have sameId : user.id = memoryUserId accountId (inner.userCounter + 1) :=
    congrArg Prod.snd sameKey
  obtain ⟨owner, number, bound, isNumber⟩ := tidy.users user member
    (sameId ▸ looksGenerated_memoryUserId _ _)
  have same := (numbered_inj.mp (sameId.symm.trans isNumber)).2
  omega

theorem Tidy.nextGroup_absent (accountId : String) :
    inner.groups.find
      (accountId, memoryGroupId accountId (inner.groupCounter + 1)) =
        none := by
  rw [Keyed.find_eq_none]
  intro group member sameKey
  have sameId : group.id = memoryGroupId accountId (inner.groupCounter + 1) :=
    congrArg Prod.snd sameKey
  obtain ⟨owner, number, bound, isNumber⟩ := tidy.groups group member
    (sameId ▸ looksGenerated_memoryGroupId _ _)
  have same := (numbered_inj.mp (sameId.symm.trans isNumber)).2
  omega

theorem Tidy.id_of_name {accountId name : String}
    {user : ScimUserRecord} (member : user ∈ usersOf accountId inner.users)
    (named : user.userName = name) :
    inner.usersByName (accountId, name) = some user.id := by
  obtain ⟨isRow, rfl⟩ := mem_usersOf.mp member
  rw [← named]
  exact tidy.named user isRow

/-- A written user keeps the maps tidy. -/
theorem Tidy.putUser {user : ScimUserRecord}
    {counter : Nat} {names : String × String → Option String}
    (further : inner.userCounter ≤ counter)
    (own : names (user.accountId, user.userName) = some user.id)
    (others : ∀ other ∈ inner.users.rows, other.key ≠ user.key →
      names (other.accountId, other.userName) =
        inner.usersByName (other.accountId, other.userName))
    (origin : LooksGenerated user.id →
      ∃ accountId number, number ≤ counter ∧
        user.id = memoryUserId accountId number) :
    Tidy
      { inner with
        userCounter := counter, usersByName := names
        users := inner.users.put user } where
  named other member := by
    rcases Keyed.mem_put.mp member with rfl | ⟨earlier, otherKey⟩
    · exact own
    · exact (others other earlier otherKey).trans (tidy.named other earlier)
  users other member looks := by
    rcases Keyed.mem_put.mp member with rfl | ⟨earlier, -⟩
    · exact origin looks
    · obtain ⟨accountId, number, bound, isNumber⟩ :=
        tidy.users other earlier looks
      exact ⟨accountId, number, bound.trans further, isNumber⟩
  groups := tidy.groups

theorem Tidy.putGroup {group : ScimGroupRecord}
    {counter : Nat} (further : inner.groupCounter ≤ counter)
    (origin : LooksGenerated group.id →
      ∃ accountId number, number ≤ counter ∧
        group.id = memoryGroupId accountId number) :
    Tidy
      { inner with
        groupCounter := counter, groups := inner.groups.put group } where
  named := tidy.named
  users := tidy.users
  groups other member looks := by
    rcases Keyed.mem_put.mp member with rfl | ⟨earlier, -⟩
    · exact origin looks
    · obtain ⟨accountId, number, bound, isNumber⟩ :=
        tidy.groups other earlier looks
      exact ⟨accountId, number, bound.trans further, isNumber⟩

end

/-! ### The target of an upsert -/

/-- The counter after an upsert, and the id that it writes. -/
def targetCounter (inner : ScimDirectoryInner) (accountId : String)
    (id : Option String) (payload : Json.Value) : Nat :=
  if (knownUserId inner accountId id (requestedUserName payload)).isSome then
    inner.userCounter
  else inner.userCounter + 1

def targetId (inner : ScimDirectoryInner) (accountId : String)
    (id : Option String) (payload : Json.Value) : String :=
  (knownUserId inner accountId id (requestedUserName payload)).getD
    (memoryUserId accountId (targetCounter inner accountId id payload))

/-- The user that an upsert writes. -/
def targetUser (inner : ScimDirectoryInner) (accountId : String)
    (id : Option String) (payload : Json.Value) (now : String) :
    ScimUserRecord :=
  userOf accountId (targetId inner accountId id payload)
    (requestedUserName payload)
    (inner.users.find (accountId, targetId inner accountId id payload))
    payload now

theorem memoryUpsertUser_target (moment : ScimMoment) (accountId : String)
    (id : Option String) (payload : Json.Value)
    (inner : ScimDirectoryInner) :
    memoryUpsertUser moment accountId id payload inner =
      let user := targetUser inner accountId id payload moment.now
      (user,
        { inner with
          userCounter := targetCounter inner accountId id payload
          usersByName :=
            Function.update inner.usersByName (accountId, user.userName)
              (some user.id)
          users := inner.users.put user }) :=
  rfl

/-- What is known of the target of an upsert on which the two agree. -/
structure Target (inner : ScimDirectoryInner) (accountId : String)
    (id : Option String) (payload : Json.Value) : Prop where
  /-- No other user has the name. -/
  free : ∀ other ∈ usersOf accountId inner.users,
    other.userName =
        givenName inner accountId (targetId inner accountId id payload)
          payload →
      other.id = targetId inner accountId id payload
  /-- The id is known or given, or it is the next one of the counter. -/
  origin :
    (knownUserId inner accountId id (requestedUserName payload)).isSome ∧
        UserId inner accountId (targetId inner accountId id payload) ∨
      id = none ∧
        inner.usersByName (accountId, requestedUserName payload) = none ∧
          (requestedUserName payload).isEmpty = false

variable {accountId : String} {id : Option String} {payload : Json.Value}

theorem Tidy.target (tidy : Tidy inner)
    (same : SameOnBoth inner (.upsertUser accountId id payload)) :
    Target inner accountId id payload := by
  cases id with
  | some userId => exact ⟨same.2, Or.inl ⟨rfl, same.1⟩⟩
  | none =>
      obtain ⟨named, current⟩ := same
      have isName : ∀ userId, givenName inner accountId userId payload =
          requestedUserName payload := by
        intro userId
        rw [givenName, if_neg (by rw [named]; exact Bool.false_ne_true)]
      cases known :
          inner.usersByName (accountId, requestedUserName payload) with
      | none =>
          refine ⟨fun other member sameName => ?_, Or.inr ⟨rfl, known, named⟩⟩
          rw [isName] at sameName
          rw [tidy.id_of_name member sameName] at known
          cases known
      | some userId =>
          obtain ⟨user, found, -⟩ := current userId known
          have isId : targetId inner accountId none payload = userId := by
            rw [targetId, knownUserId, Option.none_or, known]
            rfl
          refine ⟨fun other member sameName => ?_, Or.inl ⟨?_, ?_⟩⟩
          · rw [isName] at sameName
            rw [tidy.id_of_name member sameName] at known
            rw [isId, Option.some.inj known]
          · rw [knownUserId, Option.none_or, known]
            rfl
          · rw [isId]
            exact Or.inl (by rw [found]; rfl)

theorem targetUser_userName (inner : ScimDirectoryInner)
    (accountId now : String) (id : Option String) (payload : Json.Value) :
    (targetUser inner accountId id payload now).userName =
      givenName inner accountId (targetId inner accountId id payload)
        payload := by
  rw [targetUser, userOf, givenName]

theorem le_targetCounter (inner : ScimDirectoryInner) (accountId : String)
    (id : Option String) (payload : Json.Value) :
    inner.userCounter ≤ targetCounter inner accountId id payload := by
  unfold targetCounter
  split_ifs
  · exact Nat.le_refl _
  · exact Nat.le_succ _

theorem Tidy.upsertUser (tidy : Tidy inner) (moment : ScimMoment)
    (same : SameOnBoth inner (.upsertUser accountId id payload)) :
    Tidy (memoryUpsertUser moment accountId id payload inner).2 := by
  have target := tidy.target same
  rw [memoryUpsertUser_target]
  refine tidy.putUser (le_targetCounter _ _ _ _) ?_ ?_ ?_
  · exact Function.update_self _ _ _
  · intro other member otherKey
    refine Function.update_of_ne (fun sameName => otherKey ?_) _ _
    rw [Prod.mk.injEq, targetUser_userName] at sameName
    have sameId := target.free other
      (mem_usersOf.mpr ⟨member, sameName.1⟩) sameName.2
    exact Prod.ext sameName.1 sameId
  · intro looks
    rcases target.origin with ⟨known, held | plain⟩ | ⟨rfl, unknown, -⟩
    · obtain ⟨user, found⟩ := Option.isSome_iff_exists.mp held
      have isId : user.id = targetId inner accountId id payload :=
        congrArg Prod.snd (Keyed.key_of_find found)
      obtain ⟨owner, number, bound, isNumber⟩ :=
        tidy.users user (Keyed.mem_of_find found) (isId.symm ▸ looks)
      exact ⟨owner, number, bound.trans (le_targetCounter _ _ _ _),
        isId.symm.trans isNumber⟩
    · exact absurd looks plain
    · refine ⟨accountId, targetCounter inner accountId none payload,
        Nat.le_refl _, ?_⟩
      change targetId inner accountId none payload = _
      rw [targetId, knownUserId, Option.none_or, unknown]
      rfl

theorem Tidy.setUserActive (tidy : Tidy inner) (moment : ScimMoment)
    (accountId userId : String) (active : Bool) :
    Tidy (memorySetUserActive moment accountId userId active inner).2 := by
  unfold memorySetUserActive
  cases found : inner.users.find (accountId, userId) with
  | none => exact tidy
  | some held =>
      exact tidy.putUser (Nat.le_refl _)
        (tidy.named held (Keyed.mem_of_find found)) (fun _ _ _ => rfl)
        (tidy.users held (Keyed.mem_of_find found))

/-- The counter after an upsert of a group, and the id that it writes. -/
def groupTargetCounter (inner : ScimDirectoryInner) (id : Option String) :
    Nat :=
  if id.isSome then inner.groupCounter else inner.groupCounter + 1

def groupTargetId (inner : ScimDirectoryInner) (accountId : String)
    (id : Option String) : String :=
  id.getD (memoryGroupId accountId (groupTargetCounter inner id))

def targetGroup (inner : ScimDirectoryInner) (accountId : String)
    (id : Option String) (payload : Json.Value) (now : String) :
    ScimGroupRecord :=
  groupOf accountId (groupTargetId inner accountId id)
    (inner.groups.find (accountId, groupTargetId inner accountId id))
    payload now

theorem memoryUpsertGroup_target (moment : ScimMoment) (accountId : String)
    (id : Option String) (payload : Json.Value)
    (inner : ScimDirectoryInner) :
    memoryUpsertGroup moment accountId id payload inner =
      let group := targetGroup inner accountId id payload moment.now
      (group,
        { inner with
          groupCounter := groupTargetCounter inner id
          groups := inner.groups.put group }) :=
  rfl

theorem le_groupTargetCounter (inner : ScimDirectoryInner)
    (id : Option String) :
    inner.groupCounter ≤ groupTargetCounter inner id := by
  unfold groupTargetCounter
  split_ifs
  · exact Nat.le_refl _
  · exact Nat.le_succ _

theorem Tidy.upsertGroup (tidy : Tidy inner) (moment : ScimMoment)
    (same : SameOnBoth inner (.upsertGroup accountId id payload)) :
    Tidy (memoryUpsertGroup moment accountId id payload inner).2 := by
  rw [memoryUpsertGroup_target]
  refine tidy.putGroup (le_groupTargetCounter _ _) fun looks => ?_
  cases id with
  | none => exact ⟨accountId, _, Nat.le_refl _, rfl⟩
  | some groupId =>
      rcases same groupId rfl with held | plain
      · obtain ⟨group, found⟩ := Option.isSome_iff_exists.mp held
        have isId : group.id = groupId :=
          congrArg Prod.snd (Keyed.key_of_find found)
        obtain ⟨owner, number, bound, isNumber⟩ :=
          tidy.groups group (Keyed.mem_of_find found) (isId.symm ▸ looks)
        exact ⟨owner, number, bound, isId.symm.trans isNumber⟩
      · exact absurd looks plain

theorem Tidy.tombstoneGroup (tidy : Tidy inner) (moment : ScimMoment)
    (accountId groupId : String) :
    Tidy (memoryTombstoneGroup moment accountId groupId inner).2 := by
  unfold memoryTombstoneGroup
  cases found : inner.groups.find (accountId, groupId) with
  | none => exact tidy
  | some held =>
      exact tidy.putGroup (Nat.le_refl _)
        (tidy.groups held (Keyed.mem_of_find found))

/-- The maps after a call. -/
def memoryAfter (moment : ScimMoment) (inner : ScimDirectoryInner) :
    DirectoryCall → ScimDirectoryInner
  | .upsertUser accountId id payload =>
      (memoryUpsertUser moment accountId id payload inner).2
  | .setUserActive accountId userId active =>
      (memorySetUserActive moment accountId userId active inner).2
  | .upsertGroup accountId id payload =>
      (memoryUpsertGroup moment accountId id payload inner).2
  | .tombstoneGroup accountId groupId =>
      (memoryTombstoneGroup moment accountId groupId inner).2
  | _ => inner

theorem perform_inMemory (step : DirectoryStep) (directory : ScimDirectory) :
    (perform step.inMemory.moment directory step.call).2.inner =
      memoryAfter step.inMemory.moment directory.inner step.call := by
  obtain ⟨moment, call⟩ := step
  cases call <;> rfl

theorem Tidy.after (tidy : Tidy inner) (moment : ScimMoment)
    {call : DirectoryCall} (same : SameOnBoth inner call) :
    Tidy (memoryAfter moment inner call) := by
  cases call with
  | upsertUser accountId id payload => exact tidy.upsertUser moment same
  | setUserActive accountId userId active =>
      exact tidy.setUserActive moment accountId userId active
  | upsertGroup accountId id payload => exact tidy.upsertGroup moment same
  | tombstoneGroup accountId groupId =>
      exact tidy.tombstoneGroup moment accountId groupId
  | _ => exact tidy

end Memory

/-! ## The ids that are issued -/

/-- The id of a new row in memory, with the id that the catalog gives it. -/
def issued (inner : ScimDirectoryInner) :
    DirectoryCall → Option (String × String)
  | .upsertUser accountId none payload =>
      if (inner.usersByName (accountId, requestedUserName payload)).isSome then
        none
      else
        some (memoryUserId accountId (inner.userCounter + 1),
          numbered "scu_" accountId
            ((usersOf accountId inner.users).length + 1))
  | .upsertGroup accountId none _ =>
      some (memoryGroupId accountId (inner.groupCounter + 1),
        numbered "scg_" accountId
          ((groupsOf accountId inner.groups).length + 1))
  | _ => none

/-- All ids that a run in memory issues, with those of the catalog. -/
def issuedPairs : ScimDirectory → List DirectoryStep →
    List (String × String)
  | _, [] => []
  | directory, step :: rest =>
      (issued directory.inner step.call).toList ++
        issuedPairs (perform step.inMemory.moment directory step.call).2 rest

/-- The pair is issued when both counts are further on. -/
def Later (inner : ScimDirectoryInner) (pair : String × String) : Prop :=
  (∃ accountId number count, inner.userCounter < number ∧
      (usersOf accountId inner.users).length < count ∧
        pair = (memoryUserId accountId number,
          numbered "scu_" accountId count)) ∨
    ∃ accountId number count, inner.groupCounter < number ∧
      (groupsOf accountId inner.groups).length < count ∧
        pair = (memoryGroupId accountId number,
          numbered "scg_" accountId count)

/-- The maps only grow. -/
structure Grows (before after : ScimDirectoryInner) : Prop where
  users : before.userCounter ≤ after.userCounter
  groups : before.groupCounter ≤ after.groupCounter
  usersOf : ∀ accountId, (usersOf accountId before.users).length ≤
    (Catalog.Scim.usersOf accountId after.users).length
  groupsOf : ∀ accountId, (groupsOf accountId before.groups).length ≤
    (Catalog.Scim.groupsOf accountId after.groups).length

variable {pair : String × String}

theorem Later.mono {before after : ScimDirectoryInner}
    (later : Later after pair) (grows : Grows before after) : Later before pair:= by
  rcases later with ⟨accountId, number, count, further, more, isPair⟩ |
    ⟨accountId, number, count, further, more, isPair⟩
  · exact Or.inl ⟨accountId, number, count,
      Nat.lt_of_le_of_lt grows.users further,
      Nat.lt_of_le_of_lt (grows.usersOf accountId) more, isPair⟩
  · exact Or.inr ⟨accountId, number, count,
      Nat.lt_of_le_of_lt grows.groups further,
      Nat.lt_of_le_of_lt (grows.groupsOf accountId) more, isPair⟩

theorem Grows.refl (inner : ScimDirectoryInner) : Grows inner inner :=
  ⟨Nat.le_refl _, Nat.le_refl _, fun _ => Nat.le_refl _,
    fun _ => Nat.le_refl _⟩

theorem grows_after (moment : ScimMoment) (inner : ScimDirectoryInner)
    (call : DirectoryCall) : Grows inner (memoryAfter moment inner call) := by
  cases call with
  | upsertUser accountId id payload =>
      exact ⟨le_targetCounter _ _ _ _, Nat.le_refl _,
        length_usersOf_le _ _, fun _ => Nat.le_refl _⟩
  | setUserActive accountId userId active =>
      change Grows inner
        (memorySetUserActive moment accountId userId active inner).2
      unfold memorySetUserActive
      cases inner.users.find (accountId, userId) with
      | none => exact .refl inner
      | some held =>
          exact ⟨Nat.le_refl _, Nat.le_refl _, length_usersOf_le _ _,
            fun _ => Nat.le_refl _⟩
  | upsertGroup accountId id payload =>
      exact ⟨Nat.le_refl _, le_groupTargetCounter _ _,
        fun _ => Nat.le_refl _, length_groupsOf_le _ _⟩
  | tombstoneGroup accountId groupId =>
      change Grows inner
        (memoryTombstoneGroup moment accountId groupId inner).2
      unfold memoryTombstoneGroup
      cases inner.groups.find (accountId, groupId) with
      | none => exact .refl inner
      | some held =>
          exact ⟨Nat.le_refl _, Nat.le_refl _, fun _ => Nat.le_refl _,
            length_groupsOf_le _ _⟩
  | _ => exact .refl inner

variable {inner : ScimDirectoryInner}

theorem issued_user {accountId : String} {payload : Json.Value} (isPair :
      issued inner (.upsertUser accountId none payload) = some pair) :
    inner.usersByName (accountId, requestedUserName payload) = none ∧
      pair = (memoryUserId accountId (inner.userCounter + 1),
        numbered "scu_" accountId
          ((usersOf accountId inner.users).length + 1)) := by
  rw [issued] at isPair
  split_ifs at isPair with known
  exact ⟨Option.not_isSome_iff_eq_none.mp known, (Option.some.inj isPair).symm⟩

theorem issued_later {call : DirectoryCall}
    (isPair : issued inner call = some pair) :
    Later inner pair := by
  match call with
  | .upsertUser accountId none payload =>
      exact Or.inl ⟨accountId, _, _, Nat.lt_succ_self _, Nat.lt_succ_self _,
        (issued_user isPair).2⟩
  | .upsertGroup accountId none payload =>
      exact Or.inr ⟨accountId, _, _, Nat.lt_succ_self _, Nat.lt_succ_self _,
        (Option.some.inj isPair).symm⟩

/-- Two pairs of the same kind, of which one is further on. -/
theorem apart_of_lt {kind kind' accountId other : String}
    {number later count more : Nat}
    (sameLength : kind.toList.length = kind'.toList.length)
    (differs : kind ≠ kind') (further : number < later)
    (longer : accountId = other → count < more) :
    Apart (numbered kind accountId number, numbered kind' accountId count)
      (numbered kind other later, numbered kind' other more) := by
  refine ⟨?_, numbered_ne sameLength differs _ _ _ _,
    numbered_ne sameLength.symm differs.symm _ _ _ _, ?_⟩
  · intro same
    exact Nat.ne_of_lt further (numbered_inj.mp same).2
  · intro same
    obtain ⟨sameAccount, sameCount⟩ := numbered_inj.mp same
    exact Nat.ne_of_lt (longer sameAccount) sameCount

/-- The id of a user and the id of a group have nothing in common. -/
theorem apart_kinds (accountId other : String)
    (number count later more : Nat) :
    Apart (memoryUserId accountId number, numbered "scu_" accountId count)
      (memoryGroupId other later, numbered "scg_" other more) :=
  ⟨numbered_ne (by decide) (by decide) _ _ _ _,
    numbered_ne (by decide) (by decide) _ _ _ _,
    numbered_ne (by decide) (by decide) _ _ _ _,
    numbered_ne (by decide) (by decide) _ _ _ _⟩

/-- A pair has nothing in common with those that are issued later. -/
theorem issued_apart (tidy : Tidy inner)
    {moment : ScimMoment} {call : DirectoryCall}
    {pair other : String × String} (isPair : issued inner call = some pair)
    (later : Later (memoryAfter moment inner call) other) :
    Apart pair other := by
  match call with
  | .upsertUser accountId none payload =>
      obtain ⟨unknown, rfl⟩ := issued_user isPair
      have counter : targetCounter inner accountId none payload =
          inner.userCounter + 1 := by
        rw [targetCounter, knownUserId, Option.none_or, unknown]
        rfl
      have isId : targetId inner accountId none payload =
          memoryUserId accountId (inner.userCounter + 1) := by
        rw [targetId, knownUserId, Option.none_or, unknown, counter]
        rfl
      have absent : inner.users.find (targetUser inner accountId none payload
          moment.now).key = none := by
        change inner.users.find
          (accountId, targetId inner accountId none payload) = none
        rw [isId, tidy.nextUser_absent]
      rw [memoryAfter, memoryUpsertUser_target] at later
      rcases later with ⟨owner, number, count, further, more, rfl⟩ |
        ⟨owner, number, count, further, more, rfl⟩
      · refine apart_of_lt (by decide) (by decide) (counter ▸ further) ?_
        rintro rfl
        have own : (targetUser inner accountId none payload
          moment.now).accountId = accountId := rfl
        have longer := length_usersOf_put_new absent accountId
        rw [if_pos own] at longer
        exact longer ▸ more
      · exact apart_kinds _ _ _ _ _ _
  | .upsertGroup accountId none payload =>
      cases isPair
      have absent : inner.groups.find (targetGroup inner accountId none
          payload moment.now).key = none :=
        tidy.nextGroup_absent accountId
      rw [memoryAfter, memoryUpsertGroup_target] at later
      rcases later with ⟨owner, number, count, further, more, rfl⟩ |
        ⟨owner, number, count, further, more, rfl⟩
      · exact (apart_kinds _ _ _ _ _ _).symm
      · refine apart_of_lt (by decide) (by decide) further ?_
        rintro rfl
        have own : (targetGroup inner accountId none payload
          moment.now).accountId = accountId := rfl
        have longer := length_groupsOf_put_new absent accountId
        rw [if_pos own] at longer
        exact longer ▸ more

variable {steps : List DirectoryStep}

theorem issuedPairs_later :
    ∀ {directory : ScimDirectory} {pair : String × String},
      pair ∈ issuedPairs directory steps → Later directory.inner pair := by
  induction steps with
  | nil => exact fun member => nomatch member
  | cons step rest ih =>
      intro directory pair member
      rw [issuedPairs, List.mem_append, Option.mem_toList] at member
      rcases member with now | later
      · exact issued_later now
      · have grows := grows_after step.inMemory.moment directory.inner
          step.call
        rw [← perform_inMemory] at grows
        exact (ih later).mono grows

theorem issuedPairs_apart :
    ∀ {directory : ScimDirectory}, Tidy directory.inner →
      SameRun directory steps →
        (issuedPairs directory steps).Pairwise Apart := by
  induction steps with
  | nil => exact fun _ _ => List.Pairwise.nil
  | cons step rest ih =>
      intro directory tidy same
      have next : Tidy
          (perform step.inMemory.moment directory step.call).2.inner := by
        rw [perform_inMemory]
        exact tidy.after _ same.2.1
      rw [issuedPairs, List.pairwise_append]
      refine ⟨?_, ih next same.2.2, ?_⟩
      · cases issued directory.inner step.call with
        | none => exact List.Pairwise.nil
        | some pair => exact List.pairwise_singleton _ _
      · intro pair now other later
        have furtherOn := issuedPairs_later later
        rw [perform_inMemory] at furtherOn
        exact issued_apart tidy (Option.mem_toList.mp now) furtherOn

/-- Both ids of a pair look generated. -/
theorem looksGenerated_of_issued {directory : ScimDirectory}
    (member : pair ∈ issuedPairs directory steps) :
    LooksGenerated pair.1 ∧ LooksGenerated pair.2 := by
  rcases issuedPairs_later member with
    ⟨accountId, number, count, -, -, rfl⟩ |
    ⟨accountId, number, count, -, -, rfl⟩
  · exact ⟨⟨"usr_", by decide, accountId, number, rfl⟩,
      ⟨"scu_", by decide, accountId, count, rfl⟩⟩
  · exact ⟨⟨"grp_", by decide, accountId, number, rfl⟩,
      ⟨"scg_", by decide, accountId, count, rfl⟩⟩

end OpenSnow.Server.Scim
