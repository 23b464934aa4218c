import OpenSnow.Catalog.ControlPlane
import OpenSnow.Foundation.Runs

/-!
# Account bootstrap records

The `account_bootstrap_records` table over any registrations.  A registration
replaces the record under the id of its name, so a record is kept from others
only as long as no two registered names have the same words.
-/

namespace OpenSnow.Catalog.Accounts

open Catalog.ControlPlane
open Catalog.Tenants
open Foundation

/-! ## Registration -/

structure AccountMembership where
  email : String
  accountId : String
  role : String
  createdAt : String
deriving DecidableEq, Repr

/-- All that a registration creates. -/
structure Bootstrap extends AccountBootstrap where
  ownerMembership : AccountMembership
  serviceIdentity : ServiceIdentityClient
deriving DecidableEq, Repr

/-- The bootstrap of `register_account`. -/
def bootstrapOf (now accountName ownerEmail : String) : Bootstrap :=
  let accountId := accountIdFromName accountName
  { toAccountBootstrap := registerAccount now accountName ownerEmail
    ownerMembership :=
      { email := ownerEmail, accountId, role := "ACCOUNTOWNER"
        createdAt := now }
    serviceIdentity :=
      { id := "svc_" ++ accountId ++ "_bootstrap"
        accountId
        workspaceId := some ("ws_" ++ accountId ++ "_default")
        secretHash := ""
        role := "ACCOUNTADMIN"
        scopes := ["*"]
        status := "active"
        statusReason := none
        expiresAt := none
        lastUsedAt := none
        rotatedAt := none
        revokedAt := none
        createdAt := now } }

/-- A row of `account_bootstrap_records`. -/
structure BootstrapRow where
  accountId : String
  bootstrap : Bootstrap
  createdAt : String
deriving DecidableEq, Repr

abbrev BootstrapTable := Keyed BootstrapRow.accountId

/-- The arguments of `register_account`, and the times of its two clocks. -/
structure Registration where
  accountName : String
  ownerEmail : String
  now : String
  storedAt : String
deriving DecidableEq, Repr

def Registration.accountId (registration : Registration) : String :=
  accountIdFromName registration.accountName

def Registration.row (registration : Registration) : BootstrapRow where
  accountId := registration.accountId
  bootstrap :=
    bootstrapOf registration.now registration.accountName
      registration.ownerEmail
  createdAt := registration.storedAt

/-- `INSERT OR REPLACE INTO account_bootstrap_records …`. -/
def register (table : BootstrapTable) (registration : Registration) :
    BootstrapTable :=
  table.put registration.row

@[simp]
theorem find_register (table : BootstrapTable) (registration : Registration)
    (accountId : String) :
    (register table registration).find accountId =
      if registration.accountId = accountId then some registration.row
      else table.find accountId :=
  Keyed.find_put _ _ _

/-! ## Names of one account -/

/-- The words that an account id is made of; a name without words has one. -/
def accountWords (name : String) : List (List Char) :=
  if nameWords name = [] then ["account".toList] else nameWords name

theorem toList_accountIdFromName (name : String) :
    (accountIdFromName name).toList = joinWords (accountWords name) := by
  unfold accountIdFromName accountWords
  dsimp only
  split_ifs with empty wordless wordless
  · exact (List.intercalate_singleton).symm
  · exact absurd (slugifyTenantId_eq_empty.mp empty) wordless
  · exact absurd (slugifyTenantId_eq_empty.mpr wordless) empty
  · exact toList_slugifyTenantId name

theorem accountWords_ne_nil (name : String) : accountWords name ≠ [] := by
  unfold accountWords
  split_ifs with wordless
  · exact List.cons_ne_nil _ _
  · exact wordless

theorem accountWords_plain (name : String) :
    ∀ word ∈ accountWords name, '-' ∉ word := by
  unfold accountWords
  split_ifs
  · exact List.forall_mem_singleton.mpr (by decide)
  · exact wordsFrom_plain List.not_mem_nil _

/-- Two names have one account id exactly when they have the same words. -/
theorem accountIdFromName_eq_iff {name other : String} :
    accountIdFromName name = accountIdFromName other ↔
      accountWords name = accountWords other := by
  rw [← String.toList_inj, toList_accountIdFromName, toList_accountIdFromName]
  exact joinWords_inj (accountWords_plain name) (accountWords_plain other)
    (accountWords_ne_nil name) (accountWords_ne_nil other)

/-! ## Runs -/

/-- A registration meets no record of another name under its account id. -/
def KeepsRecords (table : BootstrapTable) (registration : Registration) :
    Prop :=
  ∀ row, table.find registration.accountId = some row →
    row.bootstrap.account.name = registration.accountName

/-- No registration of the run replaces a record of another name. -/
def NeverReplaces (registrations : List Registration) : Prop :=
  Along register KeepsRecords .empty registrations

/-- The registrations so far have their records in the table. -/
def Recorded (performed : List Registration) (table : BootstrapTable) :
    Prop :=
  ∀ registration ∈ performed, ∃ row,
    table.find registration.accountId = some row ∧
      row.bootstrap.account.name = registration.accountName

/-- Every record is that of a registration so far. -/
def RecordedFrom (performed : List Registration) (table : BootstrapTable) :
    Prop :=
  ∀ accountId row, table.find accountId = some row →
    ∃ registration ∈ performed, registration.accountId = accountId ∧
      row.bootstrap.account.name = registration.accountName

theorem Recorded.register {performed : List Registration}
    {table : BootstrapTable} {registration : Registration}
    (recorded : Recorded performed table)
    (keeps : KeepsRecords table registration) :
    Recorded (registration :: performed)
      (Accounts.register table registration) := by
  intro earlier member
  rw [find_register]
  rcases List.mem_cons.mp member with rfl | before
  · exact ⟨earlier.row, if_pos rfl, rfl⟩
  · obtain ⟨row, found, named⟩ := recorded earlier before
    split_ifs with same
    · -- the record that is replaced is of the registration's own name
      refine ⟨registration.row, rfl, ?_⟩
      rw [← named]
      exact (keeps row (same ▸ found)).symm
    · exact ⟨row, found, named⟩

theorem RecordedFrom.register {performed : List Registration}
    {table : BootstrapTable} (recorded : RecordedFrom performed table)
    (registration : Registration) :
    RecordedFrom (registration :: performed)
      (Accounts.register table registration) := by
  intro accountId row found
  rw [find_register] at found
  split_ifs at found with same
  · cases found
    exact ⟨registration, List.mem_cons_self, same, rfl⟩
  · obtain ⟨earlier, before, rest⟩ := recorded accountId row found
    exact ⟨earlier, List.mem_cons_of_mem _ before, rest⟩

/-- After a run that replaces nothing, all its registrations are recorded. -/
theorem recorded_of_along :
    ∀ {performed registrations : List Registration} {table : BootstrapTable},
      Along register KeepsRecords table registrations →
        Recorded performed table →
          Recorded (registrations.reverse ++ performed)
            (registrations.foldl register table)
  | performed, [], _, _, recorded => recorded
  | performed, registration :: rest, table, ⟨keeps, later⟩, recorded => by
      rw [List.reverse_cons, List.append_assoc, List.singleton_append]
      exact recorded_of_along later (recorded.register keeps)

/-- Registrations whose names are told apart replace nothing. -/
theorem along_of_distinct :
    ∀ {performed registrations : List Registration} {table : BootstrapTable},
      (∀ left ∈ registrations.reverse ++ performed,
        ∀ right ∈ registrations.reverse ++ performed,
          left.accountId = right.accountId →
            left.accountName = right.accountName) →
        RecordedFrom performed table →
          Along register KeepsRecords table registrations
  | _, [], _, _, _ => trivial
  | performed, registration :: rest, table, distinct, recorded => by
      rw [List.reverse_cons, List.append_assoc, List.singleton_append]
        at distinct
      constructor
      · intro row found
        obtain ⟨earlier, before, sameId, named⟩ := recorded _ row found
        rw [named]
        exact distinct earlier
          (List.mem_append_right _ (List.mem_cons_of_mem _ before))
          registration (List.mem_append_right _ List.mem_cons_self) sameId
      · exact along_of_distinct distinct (recorded.register registration)

/--
A run of registrations never replaces the record of another name exactly when
no two of its names have the same words.
-/
theorem neverReplaces_iff (registrations : List Registration) :
    NeverReplaces registrations ↔
      ∀ left ∈ registrations, ∀ right ∈ registrations,
        left.accountName ≠ right.accountName →
          accountWords left.accountName ≠
            accountWords right.accountName := by
  constructor
  · intro along left leftMem right rightMem differ sameWords
    have recorded :
        Recorded (registrations.reverse ++ [])
          (registrations.foldl register .empty) :=
      recorded_of_along along fun _ => nofun
    rw [List.append_nil] at recorded
    obtain ⟨leftRow, leftFound, leftName⟩ :=
      recorded left (List.mem_reverse.mpr leftMem)
    obtain ⟨rightRow, rightFound, rightName⟩ :=
      recorded right (List.mem_reverse.mpr rightMem)
    have sameId : left.accountId = right.accountId :=
      accountIdFromName_eq_iff.mpr sameWords
    rw [sameId, rightFound, Option.some.injEq] at leftFound
    rw [← leftName, ← rightName, leftFound] at differ
    exact differ rfl
  · intro distinct
    have apart : ∀ left ∈ registrations.reverse ++ [],
        ∀ right ∈ registrations.reverse ++ [],
          left.accountId = right.accountId →
            left.accountName = right.accountName := by
      rw [List.append_nil]
      intro left leftMem right rightMem sameId
      by_contra differ
      exact distinct left (List.mem_reverse.mp leftMem) right
        (List.mem_reverse.mp rightMem) differ
        (accountIdFromName_eq_iff.mp sameId)
    exact along_of_distinct apart fun _ _ => nofun

/-- Two customers whose names differ in case and punctuation. -/
theorem acme_record_replaced :
    ¬ NeverReplaces
      [⟨"Acme Corp", "owner@acme.test", "t1", "t1"⟩,
        ⟨"ACME-Corp.", "intruder@example.test", "t2", "t2"⟩] := by
  rintro ⟨-, keeps, -⟩
  have replaced := keeps
    (Registration.row ⟨"Acme Corp", "owner@acme.test", "t1", "t1"⟩)
    (by decide)
  revert replaced
  decide

end OpenSnow.Catalog.Accounts
