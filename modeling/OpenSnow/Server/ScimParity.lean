import OpenSnow.Server.ScimFollows

/-!
# The two SCIM directories

The directory in memory and the directory in the catalog, run side by side
from empty.  They give new rows different ids, so that their answers are
compared up to a renaming of ids.
-/

namespace OpenSnow.Server.Scim

open Catalog.Scim
open Foundation.NumberedNames
open Foundation.Swaps
open Rust
open Rust.Text
open ScimDirectory

/-! ## Both directories side by side -/

/-- The answers agree and the tables still follow the maps. -/
def Follows (rename : Equiv.Perm String)
    (memory durable : DirectoryAnswer × ScimDirectory) : Prop :=
  durable.1 = memory.1.renamed rename ∧
    Alike rename memory.2.inner durable.2.tables

section Calls

variable {rename : Equiv.Perm String} {memory durable : ScimDirectory}
  (alike : Alike rename memory.inner durable.tables)
  (tidy : Tidy memory.inner) (fixes : Fixes rename) {moment : ScimMoment}
  (works : moment.Works)

include alike tidy works

theorem follows_setUserActive (accountId userId : String) (active : Bool) :
    Follows rename
      (perform { moment with opens := false } memory
        (.setUserActive accountId userId active))
      (perform moment durable
        (.setUserActive accountId (rename userId) active)) := by
  have opened : setUserActive moment accountId (rename userId) active
      durable = withUsers durable (durableSetUserActive moment accountId
        (rename userId) active) := if_pos works.1
  have closed : setUserActive { moment with opens := false } accountId userId
      active memory = withInner memory (memorySetUserActive
        { moment with opens := false } accountId userId active) := rfl
  rw [Follows, perform, perform, opened, closed, withUsers,
    alike.durable_setUserActive tidy works, withInner, memorySetUserActive]
  cases found : memory.inner.users.find (accountId, userId) with
  | none => exact ⟨rfl, alike⟩
  | some held => exact ⟨rfl, alike.users.put _, alike.groups⟩

omit tidy in
theorem follows_tombstoneGroup (accountId groupId : String) :
    Follows rename
      (perform { moment with opens := false } memory
        (.tombstoneGroup accountId groupId))
      (perform moment durable
        (.tombstoneGroup accountId (rename groupId))) := by
  have opened : tombstoneGroup moment accountId (rename groupId) durable =
      withGroups durable (durableTombstoneGroup moment accountId
        (rename groupId)) := if_pos works.1
  have closed : tombstoneGroup { moment with opens := false } accountId
      groupId memory = withInner memory (memoryTombstoneGroup
        { moment with opens := false } accountId groupId) := rfl
  rw [Follows, perform, perform, opened, closed, withGroups,
    alike.durable_tombstoneGroup works, withInner, memoryTombstoneGroup]
  cases found : memory.inner.groups.find (accountId, groupId) with
  | none => exact ⟨rfl, alike⟩
  | some held => exact ⟨rfl, alike.users, alike.groups.put _⟩

include fixes

variable {accountId : String}

theorem follows_upsertUser {id : Option String} {payload : Json.Value}
    (same : SameOnBoth memory.inner (.upsertUser accountId id payload))
    (renames : Renames rename memory.inner
      (.upsertUser accountId id payload)) :
    Follows rename
      (perform { moment with opens := false } memory
        (.upsertUser accountId id payload))
      (perform moment durable
        (.upsertUser accountId (id.map rename) payload)) := by
  have opened : upsertUser moment accountId (id.map rename) payload durable =
      withUsers durable (durableUpsertUser moment accountId (id.map rename)
        payload) := if_pos works.1
  have closed : upsertUser { moment with opens := false } accountId id
      payload memory = withInner memory (memoryUpsertUser
        { moment with opens := false } accountId id payload) := rfl
  rw [Follows, perform, perform, opened, closed, withUsers,
    alike.durable_upsertUser tidy fixes works same renames, withInner,
    memoryUpsertUser_target]
  exact ⟨rfl, alike.users.put _, alike.groups⟩

omit fixes in
theorem follows_upsertGroup {id : Option String} {payload : Json.Value}
    (renames : Renames rename memory.inner
      (.upsertGroup accountId id payload)) :
    Follows rename
      (perform { moment with opens := false } memory
        (.upsertGroup accountId id payload))
      (perform moment durable
        (.upsertGroup accountId (id.map rename)
          (renameMembers rename payload))) := by
  have opened : upsertGroup moment accountId (id.map rename)
      (renameMembers rename payload) durable =
        withGroups durable (durableUpsertGroup moment accountId
          (id.map rename) (renameMembers rename payload)) := if_pos works.1
  have closed : upsertGroup { moment with opens := false } accountId id
      payload memory = withInner memory (memoryUpsertGroup
        { moment with opens := false } accountId id payload) := rfl
  rw [Follows, perform, perform, opened, closed, withGroups,
    alike.durable_upsertGroup works tidy renames, withInner,
    memoryUpsertGroup_target]
  exact ⟨rfl, alike.users, alike.groups.put _⟩

omit fixes in
/-- The reads of the two directories. -/
theorem follows_listUsers {filter : Option String}
    (same : SameOnBoth memory.inner (.listUsers accountId filter)) :
    Follows rename
      (perform { moment with opens := false } memory
        (.listUsers accountId filter))
      (perform moment durable (.listUsers accountId filter)) := by
  have opened : listUsers moment accountId filter durable =
      listScimUsers accountId filter durable.tables.users :=
    if_pos ⟨works.1, by rw [works.2]; exact Bool.false_ne_true⟩
  have lower : filter.map toAsciiLowercase = filter := by
    cases filter with
    | none => rfl
    | some name => exact congrArg some (same name rfl)
  have closed : listUsers { moment with opens := false } accountId filter
      memory = listScimUsers accountId filter memory.inner.users := by
    rw [listUsers, if_neg (fun opens => Bool.false_ne_true opens.1), memoryUsers, lower]
  rw [Follows, perform, perform, opened, closed, alike.users_listed tidy]
  exact ⟨rfl, alike⟩

omit fixes tidy in
theorem follows_listGroups
    (same : SameOnBoth memory.inner (.listGroups accountId)) :
    Follows rename
      (perform { moment with opens := false } memory (.listGroups accountId))
      (perform moment durable (.listGroups accountId)) := by
  have opened : listGroups moment accountId durable =
      listScimGroups accountId durable.tables.groups :=
    if_pos ⟨works.1, by rw [works.2]; exact Bool.false_ne_true⟩
  have closed : listGroups { moment with opens := false } accountId memory =
      memoryGroups accountId memory.inner.groups := by
    rw [listGroups, if_neg (fun opens => Bool.false_ne_true opens.1)]
  rw [Follows, perform, perform, opened, closed, alike.groups_listed same]
  exact ⟨rfl, alike⟩

theorem follows_step {call : DirectoryCall}
    (same : SameOnBoth memory.inner call)
    (renames : Renames rename memory.inner call) :
    Follows rename
      (perform { moment with opens := false } memory call)
      (perform moment durable (call.renamed rename)) := by
  cases call with
  | upsertUser accountId id payload =>
      exact follows_upsertUser alike tidy fixes works same renames
  | setUserActive accountId userId active =>
      exact follows_setUserActive alike tidy works accountId userId active
  | userSnapshot accountId userId =>
      have opened : userSnapshot moment accountId (rename userId) durable =
          moment.answer .getUser
            (durable.tables.users.find (accountId, rename userId)) :=
        if_pos works.1
      rw [Follows, DirectoryCall.renamed, perform, perform, opened,
        answer_of_works works, alike.find_user]
      exact ⟨rfl, alike⟩
  | listUsers accountId filter =>
      exact follows_listUsers alike tidy works same
  | upsertGroup accountId id payload =>
      exact follows_upsertGroup alike tidy works renames
  | tombstoneGroup accountId groupId =>
      exact follows_tombstoneGroup alike works accountId groupId
  | groupSnapshot accountId groupId =>
      have opened : groupSnapshot moment accountId (rename groupId) durable =
          moment.answer .getGroup
            (durable.tables.groups.find (accountId, rename groupId)) :=
        if_pos works.1
      rw [Follows, DirectoryCall.renamed, perform, perform, opened,
        answer_of_works works, alike.find_group]
      exact ⟨rfl, alike⟩
  | listGroups accountId => exact follows_listGroups alike works same

end Calls

/-! ## Every run -/

theorem answers_follow {rename : Equiv.Perm String} (fixes : Fixes rename)
    {steps : List DirectoryStep} :
    ∀ {memory durable : ScimDirectory},
      Alike rename memory.inner durable.tables → Tidy memory.inner →
      SameRun memory steps →
      (∀ pair ∈ issuedPairs memory steps, rename pair.1 = pair.2) →
        answers durable (steps.map (·.renamed rename)) =
          (answers memory (steps.map (·.inMemory))).map
            (·.renamed rename) := by
  induction steps with
  | nil => exact fun _ _ _ _ => rfl
  | cons step rest ih =>
      intro memory durable alike tidy same renames
      obtain ⟨works, sameCall, sameRest⟩ := same
      obtain ⟨answered, next⟩ := follows_step alike tidy fixes works sameCall
        fun pair now => renames pair
          (List.mem_append_left _ (Option.mem_toList.mpr now))
      have tidyNext : Tidy
          (perform step.inMemory.moment memory step.call).2.inner := by
        rw [perform_inMemory]
        exact tidy.after _ sameCall
      have later := ih next tidyNext sameRest fun pair member =>
        renames pair (List.mem_append_right _ member)
      rw [List.map_cons, List.map_cons, answers, answers, List.map_cons]
      exact congrArg₂ List.cons answered later

/--
From empty, the two directories give the same answers up to a renaming of
generated ids, as long as no call reaches what they do differently.
-/
theorem directories_agree {steps : List DirectoryStep}
    (same : SameRun .empty steps) :
    ∃ rename : Equiv.Perm String,
      (∀ id, ¬ LooksGenerated id → rename id = id) ∧
        answers .empty (steps.map (·.renamed rename)) =
          (answers .empty (steps.map (·.inMemory))).map
            (·.renamed rename) := by
  have apart := issuedPairs_apart tidy_empty same
  have fixes : Fixes (swaps (issuedPairs .empty steps)) := by
    intro id plain
    apply swaps_of_not_mem
    intro pair member
    have looks := looksGenerated_of_issued member
    exact ⟨fun isId => plain (isId ▸ looks.1),
      fun isId => plain (isId ▸ looks.2)⟩
  exact ⟨_, fixes, answers_follow fixes (alike_empty _) tidy_empty same
    fun pair member => swaps_fst apart member⟩

/-! ### Runs of one account -/

def ada : Json.Value := .object [("userName", .string "Ada")]

def analysts : Json.Value :=
  .object
    [("displayName", .string "Analyst"),
      ("members", .array [.object [("value", .string "usr_acme_1")]])]

/-- A user and a group with the user, and the lists of both. -/
def acmeSteps : List DirectoryStep :=
  [⟨calm, .upsertUser "acme" none ada⟩,
    ⟨calm, .upsertGroup "acme" none analysts⟩,
    ⟨calm, .listUsers "acme" (some "ada")⟩, ⟨calm, .listGroups "acme"⟩]

theorem acmeSteps_same : SameRun .empty acmeSteps := by
  have works : calm.Works := ⟨rfl, fun _ => rfl⟩
  refine ⟨works, ⟨by decide, fun _ known => nomatch known⟩, works,
    (fun _ given => nomatch given), works, ?_, works, ?_, trivial⟩
  · rintro name ⟨⟩
    decide
  · have groups : groupsOf "acme" (perform acmeSteps[1].inMemory.moment
        (perform acmeSteps[0].inMemory.moment .empty
          acmeSteps[0].call).2 acmeSteps[1].call).2.inner.groups =
        [⟨"grp_acme_1", "acme", "Analyst", "ANALYST", ["usr_acme_1"], false,
          calm.now, calm.now⟩] := by decide
    constructor
    · intro group member
      have isGroup := groups ▸ member
      rw [List.mem_singleton] at isGroup
      rw [isGroup]
    · intro group member other otherMember _
      have isGroup := groups ▸ member
      have isOther := groups ▸ otherMember
      rw [List.mem_singleton] at isGroup isOther
      rw [isGroup, isOther]

theorem directories_agree_acme :
    ∃ rename : Equiv.Perm String,
      (∀ id, ¬ LooksGenerated id → rename id = id) ∧
        answers .empty (acmeSteps.map (·.renamed rename)) =
          (answers .empty (acmeSteps.map (·.inMemory))).map
            (·.renamed rename) :=
  directories_agree acmeSteps_same

/-- A group with a given id that is deleted, and the list after that. -/
def deletedTeam : List DirectoryStep :=
  [⟨calm, .upsertGroup "acme" (some "team") (.object [])⟩,
    ⟨calm, .tombstoneGroup "acme" "team"⟩, ⟨calm, .listGroups "acme"⟩]

theorem team_not_generated : ¬ LooksGenerated "team" := by
  rintro ⟨kind, isKind, accountId, number, same⟩
  have firsts := congrArg (fun text => text.toList.head?) same
  have start : "team".toList.head? = some 't' := by decide
  simp only [numbered, String.toList_append, start] at firsts
  simp only [List.mem_cons, List.not_mem_nil, or_false] at isKind
  rcases isKind with rfl | rfl | rfl | rfl <;> simp at firsts

/-- How many groups an answer lists. -/
def listed : DirectoryAnswer → Nat
  | .groups rows => rows.length
  | _ => 0

theorem listed_renamed (rename : String → String) (answer : DirectoryAnswer) :
    listed (answer.renamed rename) = listed answer := by
  cases answer with
  | groups rows => exact List.length_map _
  | _ => rfl

/-- The catalog lists the deleted group, and the memory does not. -/
theorem directories_agree_fails :
    ¬ ∃ rename : Equiv.Perm String,
      (∀ id, ¬ LooksGenerated id → rename id = id) ∧
        answers .empty (deletedTeam.map (·.renamed rename)) =
          (answers .empty (deletedTeam.map (·.inMemory))).map
            (·.renamed rename) := by
  rintro ⟨rename, fixes, same⟩
  have fixed : rename "team" = "team" := fixes _ team_not_generated
  have steps : deletedTeam.map (·.renamed rename) = deletedTeam := by
    simp [deletedTeam, DirectoryStep.renamed, DirectoryCall.renamed, fixed,
      renameMembers, Json.Value.mapField]
  rw [steps] at same
  have counts := congrArg (fun answers => answers.map listed) same
  simp only [List.map_map, Function.comp_def, listed_renamed] at counts
  revert counts
  decide

end OpenSnow.Server.Scim
