import OpenSnow.Server.ScimMemory

/-!
# The catalog follows the memory

The tables of the catalog as the image of the maps of the process, with the
ids renamed, and the statements of the catalog on such tables.
-/

namespace OpenSnow.Server.Scim

open Catalog.Scim
open Foundation
open Rust
open Rust.Text
open ScimDirectory

/-! ## The catalog follows the maps -/

theorem key_bijective (rename : Equiv.Perm String) :
    Function.Bijective fun key : String × String =>
      (key.1, rename key.2) := by
  constructor
  · intro left right same
    rw [Prod.mk.injEq] at same
    exact Prod.ext same.1 (rename.injective same.2)
  · rintro ⟨accountId, id⟩
    exact ⟨(accountId, rename.symm id),
      Prod.ext rfl (rename.apply_symm_apply id)⟩

def userTranslation (rename : Equiv.Perm String) :
    Keyed.Translation ScimUserRecord.key ScimUserRecord.key where
  row := renameUser rename
  keyOf := fun key => (key.1, rename key.2)
  key_row _ := rfl
  bijective := key_bijective rename

def groupTranslation (rename : Equiv.Perm String) :
    Keyed.Translation ScimGroupRecord.key ScimGroupRecord.key where
  row := renameGroup rename
  keyOf := fun key => (key.1, rename key.2)
  key_row _ := rfl
  bijective := key_bijective rename

/-- The tables hold the rows of the maps with their ids renamed. -/
structure Alike (rename : Equiv.Perm String) (inner : ScimDirectoryInner)
    (tables : ScimTables) : Prop where
  users : Keyed.Image (userTranslation rename) inner.users tables.users
  groups : Keyed.Image (groupTranslation rename) inner.groups tables.groups

theorem alike_empty (rename : Equiv.Perm String) :
    Alike rename .empty .empty :=
  ⟨Keyed.image_empty _, Keyed.image_empty _⟩

theorem answer_of_works {Answer : Type} {moment : ScimMoment}
    (works : moment.Works) (op : ScimOp) (answer : Option Answer) :
    moment.answer op answer = answer := by
  rw [ScimMoment.answer, if_neg (by rw [works.2 op]; exact Bool.false_ne_true)]

section Follows

variable {rename : Equiv.Perm String} {inner : ScimDirectoryInner}
  {tables : ScimTables}

section

variable (alike : Alike rename inner tables)

include alike

theorem Alike.find_user (accountId userId : String) :
    tables.users.find (accountId, rename userId) =
      (inner.users.find (accountId, userId)).map (renameUser rename) :=
  alike.users (accountId, userId)

theorem Alike.find_group (accountId groupId : String) :
    tables.groups.find (accountId, rename groupId) =
      (inner.groups.find (accountId, groupId)).map (renameGroup rename) :=
  alike.groups (accountId, groupId)

theorem Alike.usersOf_perm (accountId : String) :
    (usersOf accountId tables.users).Perm
      ((usersOf accountId inner.users).map (renameUser rename)) :=
  alike.users.filter_perm fun _ => rfl

theorem Alike.groupsOf_perm (accountId : String) :
    (groupsOf accountId tables.groups).Perm
      ((groupsOf accountId inner.groups).map (renameGroup rename)) :=
  alike.groups.filter_perm fun _ => rfl

theorem Alike.length_usersOf (accountId : String) :
    (usersOf accountId tables.users).length =
      (usersOf accountId inner.users).length := by
  rw [(alike.usersOf_perm accountId).length_eq, List.length_map]

theorem Alike.length_groupsOf (accountId : String) :
    (groupsOf accountId tables.groups).length =
      (groupsOf accountId inner.groups).length := by
  rw [(alike.groupsOf_perm accountId).length_eq, List.length_map]

/-! ### Names -/

theorem Alike.name_none {accountId name : String}
    (unused : ∀ user ∈ usersOf accountId inner.users,
      user.userName ≠ name) :
    getScimUserByName tables.users accountId name = none := by
  rw [find_name, List.find?_eq_none]
  intro row member
  obtain ⟨user, isUser, rfl⟩ := List.mem_map.mp
    ((alike.usersOf_perm accountId).mem_iff.mp member)
  rw [decide_eq_true_eq]
  exact unused user isUser

theorem Alike.name_some (tidy : Tidy inner) {accountId userId name : String}
    {user : ScimUserRecord}
    (found : inner.users.find (accountId, userId) = some user)
    (named : user.userName = name) :
    getScimUserByName tables.users accountId name =
      some (renameUser rename user) := by
  have own : user ∈ usersOf accountId inner.users :=
    mem_usersOf.mpr ⟨Keyed.mem_of_find found, account_of_find found⟩
  have isRow : renameUser rename user ∈ usersOf accountId tables.users :=
    (alike.usersOf_perm accountId).mem_iff.mpr (List.mem_map_of_mem own)
  rw [find_name]
  obtain ⟨row, first⟩ : ∃ row, (usersOf accountId tables.users).find?
      (fun row => row.userName = name) = some row :=
    Option.isSome_iff_exists.mp
      (List.find?_isSome.mpr ⟨_, isRow, decide_eq_true named⟩)
  obtain ⟨other, isOther, rfl⟩ := List.mem_map.mp
    ((alike.usersOf_perm accountId).mem_iff.mp
      (List.mem_of_find?_eq_some first))
  have otherNamed : (renameUser rename other).userName = name := by
    simpa using List.find?_some first
  have sameId := (tidy.id_of_name own named).symm.trans
    (tidy.id_of_name isOther otherNamed)
  obtain ⟨otherMember, otherAccount⟩ := mem_usersOf.mp isOther
  have sameKey : other.key = user.key :=
    Prod.ext (otherAccount.trans (account_of_find found).symm)
      (Option.some.inj sameId).symm
  have same := List.inj_on_of_nodup_map inner.users.distinct otherMember
    (Keyed.mem_of_find found) sameKey
  rw [first, same]

end

/-! ### Writing -/

variable {moment : ScimMoment}

/-- The catalog takes a user whose name no other user has. -/
theorem Alike.put_user (alike : Alike rename inner tables)
    (works : moment.Works) {user : ScimUserRecord}
    (free : ∀ other ∈ usersOf user.accountId inner.users,
      other.userName = user.userName → other.id = user.id)
    (created : ∀ held ∈ inner.users.find user.key,
      held.createdAt = user.createdAt) :
    storeUser moment (renameUser rename user) tables.users =
      tables.users.put (renameUser rename user) := by
  have notTaken : nameTaken tables.users (renameUser rename user) = false := by
    rw [nameTaken, List.any_eq_false]
    intro row member taken
    rw [decide_eq_true_eq] at taken
    obtain ⟨sameAccount, sameName, otherId⟩ := taken
    obtain ⟨other, isOther, rfl⟩ := List.mem_map.mp
      ((alike.usersOf_perm user.accountId).mem_iff.mp
        (mem_usersOf.mpr ⟨member, sameAccount⟩))
    exact otherId (congrArg rename (free other isOther sameName))
  have held : tables.users.find (renameUser rename user).key =
      (inner.users.find user.key).map (renameUser rename) :=
    alike.users user.key
  have kept : (renameUser rename user).over
      (tables.users.find (renameUser rename user).key) =
        renameUser rename user := by
    rw [held, ScimUserRecord.over]
    cases found : inner.users.find user.key with
    | none => rfl
    | some earlier =>
        have sameTime := created earlier found
        change { renameUser rename user with
          createdAt := earlier.createdAt } = _
        rw [sameTime]
        rfl
  rw [ScimDirectory.storeUser, answer_of_works works, upsertScimUser,
    if_neg (by rw [notTaken]; exact Bool.false_ne_true), kept]
  rfl

theorem Alike.put_group (alike : Alike rename inner tables)
    (works : moment.Works) {group : ScimGroupRecord}
    (created : ∀ held ∈ inner.groups.find group.key,
      held.createdAt = group.createdAt) :
    storeGroup moment (renameGroup rename group) tables.groups =
      tables.groups.put (renameGroup rename group) := by
  have held : tables.groups.find (renameGroup rename group).key =
      (inner.groups.find group.key).map (renameGroup rename) :=
    alike.groups group.key
  have kept : (renameGroup rename group).over
      (tables.groups.find (renameGroup rename group).key) =
        renameGroup rename group := by
    rw [held, ScimGroupRecord.over]
    cases found : inner.groups.find group.key with
    | none => rfl
    | some earlier =>
        have sameTime := created earlier found
        change { renameGroup rename group with
          createdAt := earlier.createdAt } = _
        rw [sameTime]
        rfl
  rw [ScimDirectory.storeGroup, answer_of_works works, upsertScimGroup, kept]
  rfl

/-! ### Upserts of users -/

/-- Ids that are never generated are not renamed. -/
def Fixes (rename : Equiv.Perm String) : Prop :=
  ∀ id, ¬ LooksGenerated id → rename id = id

/-- The id that memory issues is renamed to the id that the catalog issues. -/
def Renames (rename : Equiv.Perm String) (inner : ScimDirectoryInner)
    (call : DirectoryCall) : Prop :=
  ∀ pair ∈ issued inner call, rename pair.1 = pair.2

/-- What the catalog finds and writes, given what memory finds and writes. -/
structure DurableTarget (rename : Equiv.Perm String)
    (inner : ScimDirectoryInner) (tables : ScimTables) (moment : ScimMoment)
    (accountId : String) (id : Option String) (payload : Json.Value) :
    Prop where
  existing : durableUser moment accountId (id.map rename)
      (requestedUserName payload) tables.users =
    (inner.users.find (accountId, targetId inner accountId id payload)).map
      (renameUser rename)
  newId : ((id.map rename).or
      ((durableUser moment accountId (id.map rename)
        (requestedUserName payload) tables.users).map (·.id))).getD
      (durableUserId moment accountId tables.users) =
    rename (targetId inner accountId id payload)

variable {payload : Json.Value}

theorem Alike.target_given (alike : Alike rename inner tables)
    (works : moment.Works) {accountId userId : String}
    (same : SameOnBoth inner (.upsertUser accountId (some userId) payload)) :
    DurableTarget rename inner tables moment accountId (some userId)
      payload := by
  refine ⟨?_, rfl⟩
  change (moment.answer .getUser
      (tables.users.find (accountId, rename userId))).or _ =
    (inner.users.find (accountId, userId)).map (renameUser rename)
  rw [answer_of_works works, alike.find_user]
  cases found : inner.users.find (accountId, userId) with
  | some user => rfl
  | none =>
      rw [Option.map_none, Option.none_or]
      split_ifs with blank
      · rfl
      · rw [answer_of_works works]
        apply alike.name_none
        intro user member named
        have sameId := same.2 user member (by rw [givenName, if_neg blank, named])
        obtain ⟨isRow, owner⟩ := mem_usersOf.mp member
        exact Keyed.find_eq_none.mp found user isRow (Prod.ext owner sameId)

theorem Alike.target_named (alike : Alike rename inner tables)
    (tidy : Tidy inner) (works : moment.Works) {accountId userId : String}
    (same : SameOnBoth inner (.upsertUser accountId none payload))
    (known : inner.usersByName (accountId, requestedUserName payload) =
      some userId) :
    DurableTarget rename inner tables moment accountId none payload := by
  obtain ⟨user, found, named⟩ := same.2 userId known
  have isId : targetId inner accountId none payload = userId := by
    rw [targetId, knownUserId, Option.none_or, known]
    rfl
  have existing : durableUser moment accountId none
      (requestedUserName payload) tables.users =
        some (renameUser rename user) := by
    rw [durableUser, Option.bind_none, Option.none_or,
      if_neg (by rw [same.1]; exact Bool.false_ne_true), answer_of_works works,
      alike.name_some tidy found named]
  refine ⟨?_, ?_⟩
  · rw [Option.map_none, existing, isId, found]
    rfl
  · rw [Option.map_none, existing, isId]
    exact congrArg (fun key : String × String => rename key.2)
      (Keyed.key_of_find found)

variable {accountId : String}

theorem Alike.target_new (alike : Alike rename inner tables)
    (tidy : Tidy inner) (works : moment.Works)
    (same : SameOnBoth inner (.upsertUser accountId none payload))
    (renames : Renames rename inner (.upsertUser accountId none payload))
    (unknown : inner.usersByName (accountId, requestedUserName payload) =
      none) :
    DurableTarget rename inner tables moment accountId none payload := by
  have isId : targetId inner accountId none payload =
      memoryUserId accountId (inner.userCounter + 1) := by
    rw [targetId, targetCounter, knownUserId, Option.none_or, unknown]
    rfl
  have existing : durableUser moment accountId none
      (requestedUserName payload) tables.users = none := by
    rw [durableUser, Option.bind_none, Option.none_or,
      if_neg (by rw [same.1]; exact Bool.false_ne_true), answer_of_works works]
    apply alike.name_none
    intro user member named
    rw [tidy.id_of_name member named] at unknown
    cases unknown
  have pair := renames _ (by rw [issued, unknown]; rfl)
  have count : (ofAccount ScimUserRecord.accountId accountId
      tables.users.rows).length = (usersOf accountId inner.users).length :=
    alike.length_usersOf accountId
  refine ⟨?_, ?_⟩
  · rw [Option.map_none, existing, isId, tidy.nextUser_absent]
    rfl
  · rw [Option.map_none, existing, isId, pair, durableUserId,
      answer_of_works works, nextScimUserId, nextId, count]
    rfl

variable {id : Option String}

section

variable (alike : Alike rename inner tables)

include alike

theorem Alike.target (tidy : Tidy inner) (works : moment.Works)
    (same : SameOnBoth inner (.upsertUser accountId id payload))
    (renames : Renames rename inner (.upsertUser accountId id payload)) :
    DurableTarget rename inner tables moment accountId id payload := by
  cases id with
  | some userId => exact alike.target_given works same
  | none =>
      cases known :
          inner.usersByName (accountId, requestedUserName payload) with
      | none => exact alike.target_new tidy works same renames known
      | some userId => exact alike.target_named tidy works same known

/-- The catalog writes the same user under the renamed id. -/
theorem Alike.durable_upsertUser (tidy : Tidy inner) (fixes : Fixes rename)
    (works : moment.Works)
    (same : SameOnBoth inner (.upsertUser accountId id payload))
    (renames : Renames rename inner (.upsertUser accountId id payload)) :
    durableUpsertUser moment accountId (id.map rename) payload
        tables.users =
      let user := renameUser rename
        (targetUser inner accountId id payload moment.now)
      (user, tables.users.put user) := by
  have target := tidy.target same
  obtain ⟨existing, newId⟩ := alike.target tidy works same renames
  have record : userOf accountId
        (rename (targetId inner accountId id payload))
        (requestedUserName payload)
        ((inner.users.find (accountId,
          targetId inner accountId id payload)).map (renameUser rename))
        payload moment.now =
      renameUser rename
        (targetUser inner accountId id payload moment.now) := by
    apply userOf_rename
    intro blank absent
    rcases target.origin with ⟨-, held | plain⟩ | ⟨-, -, named⟩
    · rw [absent] at held
      cases held
    · exact fixes _ plain
    · rw [named] at blank
      cases blank
  have stored : storeUser moment (renameUser rename
        (targetUser inner accountId id payload moment.now)) tables.users =
      tables.users.put (renameUser rename
        (targetUser inner accountId id payload moment.now)) := by
    refine alike.put_user works ?_ ?_
    · intro other member sameName
      rw [targetUser_userName] at sameName
      exact target.free other member sameName
    · intro held isHeld
      have found : inner.users.find
          (accountId, targetId inner accountId id payload) = some held :=
        isHeld
      rw [targetUser, userOf, found]
      rfl
  unfold ScimDirectory.durableUpsertUser
  dsimp only
  rw [newId, existing, record, stored]

/-! ### Lifecycles of users -/

/-- A change of a found user that keeps its name and the time of creation. -/
theorem Alike.put_held (tidy : Tidy inner) (works : moment.Works)
    {key : String × String} {held : ScimUserRecord}
    (found : inner.users.find key = some held) (active : Bool) (now : String) :
    storeUser moment (renameUser rename (activated active now held))
        tables.users =
      tables.users.put (renameUser rename (activated active now held)) := by
  have own : held ∈ inner.users.rows := Keyed.mem_of_find found
  refine alike.put_user works ?_ ?_
  · intro other member sameName
    have isOther := tidy.id_of_name member sameName
    exact Option.some.inj (isOther.symm.trans (tidy.named held own))
  · intro earlier isEarlier
    have isHeld : inner.users.find held.key = some earlier := isEarlier
    rw [Keyed.find_of_mem own] at isHeld
    rw [← Option.some.inj isHeld]
    rfl

theorem Alike.durable_setUserActive (tidy : Tidy inner) (works : moment.Works)
    (accountId userId : String) (active : Bool) :
    durableSetUserActive moment accountId (rename userId) active
        tables.users =
      match inner.users.find (accountId, userId) with
      | none => (none, tables.users)
      | some held =>
          let user := renameUser rename (activated active moment.now held)
          (some user, tables.users.put user) := by
  unfold ScimDirectory.durableSetUserActive
  rw [answer_of_works works, alike.find_user]
  cases found : inner.users.find (accountId, userId) with
  | none => rfl
  | some held =>
      have stored := alike.put_held tidy works found active moment.now
      change (some (renameUser rename (activated active moment.now held)),
        storeUser moment (renameUser rename
          (activated active moment.now held)) tables.users) = _
      rw [stored]

/-! ### Groups -/

theorem Alike.durable_upsertGroup (works : moment.Works) (tidy : Tidy inner)
    (renames : Renames rename inner (.upsertGroup accountId id payload)) :
    durableUpsertGroup moment accountId (id.map rename)
        (renameMembers rename payload) tables.groups =
      let group := renameGroup rename
        (targetGroup inner accountId id payload moment.now)
      (group, tables.groups.put group) := by
  have existing : ((id.map rename).bind fun id =>
        moment.answer .getGroup (tables.groups.find (accountId, id))) =
      (inner.groups.find (accountId, groupTargetId inner accountId id)).map
        (renameGroup rename) := by
    cases id with
    | some groupId =>
        rw [Option.map_some, Option.bind_some, answer_of_works works,
          alike.find_group]
        rfl
    | none =>
        have absent : inner.groups.find
            (accountId, groupTargetId inner accountId none) = none :=
          tidy.nextGroup_absent accountId
        rw [absent]
        rfl
  have newId : (id.map rename).getD
      (durableGroupId moment accountId tables.groups) =
        rename (groupTargetId inner accountId id) := by
    cases id with
    | some groupId => rfl
    | none =>
        have pair := renames _ rfl
        have count : (ofAccount ScimGroupRecord.accountId accountId
            tables.groups.rows).length =
              (groupsOf accountId inner.groups).length :=
          alike.length_groupsOf accountId
        rw [Option.map_none, Option.getD_none, durableGroupId,
          answer_of_works works, nextScimGroupId, nextId, count]
        exact pair.symm
  have stored : storeGroup moment (renameGroup rename
        (targetGroup inner accountId id payload moment.now)) tables.groups =
      tables.groups.put (renameGroup rename
        (targetGroup inner accountId id payload moment.now)) := by
    refine alike.put_group works ?_
    intro held isHeld
    have found : inner.groups.find
        (accountId, groupTargetId inner accountId id) = some held := isHeld
    rw [targetGroup, groupOf, found]
    rfl
  unfold ScimDirectory.durableUpsertGroup
  dsimp only
  rw [newId, existing, groupOf_rename, ← targetGroup, stored]

theorem Alike.durable_tombstoneGroup (works : moment.Works)
    (accountId groupId : String) :
    durableTombstoneGroup moment accountId (rename groupId) tables.groups =
      match inner.groups.find (accountId, groupId) with
      | none => (none, tables.groups)
      | some held =>
          let group := renameGroup rename (tombstone moment.now held)
          (some group, tables.groups.put group) := by
  unfold ScimDirectory.durableTombstoneGroup
  rw [answer_of_works works, alike.find_group]
  cases found : inner.groups.find (accountId, groupId) with
  | none => rfl
  | some held =>
      have stored : storeGroup moment (renameGroup rename
            (tombstone moment.now held)) tables.groups =
          tables.groups.put (renameGroup rename
            (tombstone moment.now held)) := by
        refine alike.put_group works ?_
        intro earlier isEarlier
        have isHeld : inner.groups.find held.key = some earlier := isEarlier
        rw [Keyed.find_of_mem (Keyed.mem_of_find found)] at isHeld
        rw [← Option.some.inj isHeld]
        rfl
      change (some (renameGroup rename (tombstone moment.now held)),
        storeGroup moment (renameGroup rename (tombstone moment.now held))
          tables.groups) = _
      rw [stored]

end

/-! ### Lists -/

/-- Rows of the two directories with one order are listed alike. -/
theorem orderBy_follows {Row : Type} {column : Row → String}
    {change : Row → Row} {left right : List Row}
    (same : right.Perm (left.map change))
    (kept : ∀ row, column (change row) = column row)
    (distinct : ∀ row ∈ left, ∀ other ∈ left,
      column row = column other → row = other) :
    orderBy column right = (orderBy column left).map change := by
  rw [← orderBy_map kept]
  refine (orderBy_eq_of_perm same.symm ?_).symm
  intro row isRow other isOther sameColumn
  obtain ⟨before, isBefore, rfl⟩ := List.mem_map.mp isRow
  obtain ⟨before', isBefore', rfl⟩ := List.mem_map.mp isOther
  rw [kept, kept] at sameColumn
  rw [distinct before isBefore before' isBefore' sameColumn]

theorem Alike.users_listed (alike : Alike rename inner tables)
    (tidy : Tidy inner) (accountId : String) (filter : Option String) :
    listScimUsers accountId filter tables.users =
      (listScimUsers accountId filter inner.users).map
        (renameUser rename) := by
  refine orderBy_follows ?_ (fun _ => rfl) ?_
  · have selected := (alike.usersOf_perm accountId).filter fun user =>
      filter.all fun name => user.userName = name
    rw [List.filter_map] at selected
    exact selected
  · intro user isUser other isOther sameName
    have own := (List.mem_filter.mp isUser).1
    have otherOwn := (List.mem_filter.mp isOther).1
    have sameId := (tidy.id_of_name own sameName).symm.trans
      (tidy.id_of_name otherOwn rfl)
    obtain ⟨isRow, account⟩ := mem_usersOf.mp own
    obtain ⟨isOtherRow, otherAccount⟩ := mem_usersOf.mp otherOwn
    exact List.inj_on_of_nodup_map inner.users.distinct isRow isOtherRow
      (Prod.ext (account.trans otherAccount.symm) (Option.some.inj sameId))

theorem Alike.groups_listed (alike : Alike rename inner tables)
    (same : SameOnBoth inner (.listGroups accountId)) :
    listScimGroups accountId tables.groups =
      (memoryGroups accountId inner.groups).map (renameGroup rename) := by
  have live : (ofAccount ScimGroupRecord.accountId accountId
        inner.groups.rows).filter (fun group => !group.tombstoned) =
      groupsOf accountId inner.groups := by
    refine List.filter_eq_self.mpr fun group member => ?_
    rw [same.1 group member]
    rfl
  rw [memoryGroups, live]
  exact orderBy_follows (alike.groupsOf_perm accountId) (fun _ => rfl) same.2

end Follows

end OpenSnow.Server.Scim
