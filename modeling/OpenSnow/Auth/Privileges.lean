import Mathlib.Data.List.Dedup
import OpenSnow.Rust.Text

/-!
# Roles and privileges

Three built-in roles form a chain.  Every other role stands between `PUBLIC`
and `SYSADMIN`.

A row of the privilege table grants one privilege on one object to one role,
all four as texts.  No row stands twice in the table.
-/

namespace OpenSnow.Auth

open Rust.Text

/-- Built-in roles with a defined hierarchy. -/
inductive BuiltinRole where
  | accountAdmin
  | sysAdmin
  | publicRole
deriving DecidableEq, Repr

/-- `BuiltinRole::priority`: higher is more privileged. -/
def BuiltinRole.priority : BuiltinRole → Nat
  | .accountAdmin => 100
  | .sysAdmin => 50
  | .publicRole => 0

def BuiltinRole.fromName (name : String) : Option BuiltinRole :=
  match toUppercase name with
  | "ACCOUNTADMIN" => some .accountAdmin
  | "SYSADMIN" => some .sysAdmin
  | "PUBLIC" => some .publicRole
  | _ => none

/-- The priority of a role by name; custom roles have priority 10. -/
def rolePriority (roleName : String) : Nat :=
  ((BuiltinRole.fromName roleName).map BuiltinRole.priority).getD 10

/-- The first role is equal to or higher in the hierarchy than the second. -/
def roleIncludes (roleA roleB : String) : Bool :=
  rolePriority roleB ≤ rolePriority roleA

theorem roleIncludes_self (role : String) : roleIncludes role role := by
  simp [roleIncludes]

/-! ## The privilege table -/

/-- Object types that can have privileges. -/
inductive ObjectType where
  | database
  | schema
  | warehouse
  | stage
  | table
deriving DecidableEq, Repr

/-- `ObjectType::fmt`. -/
def ObjectType.toText : ObjectType → String
  | .database => "DATABASE"
  | .schema => "SCHEMA"
  | .warehouse => "WAREHOUSE"
  | .stage => "STAGE"
  | .table => "TABLE"

/-- Privileges that can be granted. -/
inductive Privilege where
  | select
  | insert
  | create
  | drop
  | alter
  | all
deriving DecidableEq, Repr

/-- `Privilege::fmt`. -/
def Privilege.toText : Privilege → String
  | .select => "SELECT"
  | .insert => "INSERT"
  | .create => "CREATE"
  | .drop => "DROP"
  | .alter => "ALTER"
  | .all => "ALL"

/-- `Privilege::from_str`. -/
def Privilege.parse (text : String) : Option Privilege :=
  match toUppercase text with
  | "SELECT" => some .select
  | "INSERT" => some .insert
  | "CREATE" => some .create
  | "DROP" => some .drop
  | "ALTER" => some .alter
  | "ALL" => some .all
  | _ => none

/-- `Privilege::covers`: `ALL` covers everything. -/
def Privilege.covers (granted other : Privilege) : Bool :=
  granted == .all || granted == other

theorem Privilege.parse_toText (privilege : Privilege) :
    Privilege.parse privilege.toText = some privilege := by
  cases privilege <;> decide

/-- A row of the `privileges` table. -/
structure PrivilegeRow where
  roleName : String
  privilege : String
  objectType : String
  objectName : String
deriving DecidableEq, Repr

/--
The privilege store: its rows in the order of their ids, and the error that
the database answers every statement with, if it fails.
-/
structure PrivilegeStore where
  rows : List PrivilegeRow
  unique : rows.Nodup
  fault : Option String

/-- The store of `PrivilegeStore::new` on a new database. -/
def PrivilegeStore.empty : PrivilegeStore := ⟨[], List.nodup_nil, none⟩

/-- Grant a privilege on an object to a role; a row that exists is kept. -/
def PrivilegeStore.grantPrivilege (store : PrivilegeStore) (role : String)
    (privilege : Privilege) (objectType : ObjectType) (objectName : String) :
    Except String PrivilegeStore :=
  let row : PrivilegeRow :=
    ⟨role, privilege.toText, objectType.toText, objectName⟩
  match store.fault with
  | some error => .error error
  | none =>
      if absent : row ∉ store.rows then
        .ok
          { store with
            rows := store.rows ++ [row]
            unique := List.concat_eq_append ▸ store.unique.concat absent }
      else .ok store

/-- Revoke a privilege on an object from a role. -/
def PrivilegeStore.revokePrivilege (store : PrivilegeStore) (role : String)
    (privilege : Privilege) (objectType : ObjectType) (objectName : String) :
    Except String PrivilegeStore :=
  let row : PrivilegeRow :=
    ⟨role, privilege.toText, objectType.toText, objectName⟩
  match store.fault with
  | some error => .error error
  | none =>
      if row ∈ store.rows then
        .ok
          { store with
            rows := store.rows.erase row
            unique := store.unique.erase row }
      else .error "privilege not found"

/-- A row lets a role use a privilege. -/
def PrivilegeRow.permits (row : PrivilegeRow) (userRole : String)
    (privilege : Privilege) : Bool :=
  roleIncludes userRole row.roleName &&
    (Privilege.parse row.privilege).any (·.covers privilege)

def PrivilegeStore.checkPrivilege (store : PrivilegeStore) (userRole : String)
    (privilege : Privilege) (objectType : ObjectType) (objectName : String) :
    Except String Bool :=
  -- ACCOUNTADMIN bypasses all checks
  if toUppercase userRole = "ACCOUNTADMIN" then .ok true
  else
    match store.fault with
    | some error => .error error
    | none =>
        .ok <|
          (store.rows.filter fun row =>
              row.objectType = objectType.toText ∧
                row.objectName = objectName).any
            (·.permits userRole privilege)

/-- The table authorises a role to use a privilege on an object. -/
def PrivilegeStore.Authorises (store : PrivilegeStore) (userRole : String)
    (privilege : Privilege) (objectType : ObjectType)
    (objectName : String) : Prop :=
  store.checkPrivilege userRole privilege objectType objectName = .ok true

instance (store : PrivilegeStore) (userRole : String) (privilege : Privilege)
    (objectType : ObjectType) (objectName : String) :
    Decidable (store.Authorises userRole privilege objectType objectName) :=
  inferInstanceAs (Decidable (_ = _))

theorem permits_toText (role : String) (privilege : Privilege)
    (objectType objectName : String) :
    PrivilegeRow.permits ⟨role, privilege.toText, objectType, objectName⟩ role
      privilege := by
  simp [PrivilegeRow.permits, roleIncludes_self, Privilege.parse_toText,
    Privilege.covers]

variable {privilege : Privilege} {objectType : ObjectType}

theorem authorises_iff {store : PrivilegeStore} {userRole objectName : String}
    (notAccountAdmin : toUppercase userRole ≠ "ACCOUNTADMIN") :
    store.Authorises userRole privilege objectType objectName ↔
      store.fault = none ∧
        ∃ row ∈ store.rows, row.objectType = objectType.toText ∧
          row.objectName = objectName ∧ row.permits userRole privilege := by
  rw [PrivilegeStore.Authorises, PrivilegeStore.checkPrivilege,
    if_neg notAccountAdmin]
  cases store.fault with
  | some error => simp
  | none =>
      simp only [Except.ok.injEq, List.any_filter, List.any_eq_true,
        Bool.and_eq_true, decide_eq_true_eq, and_assoc, true_and]

/-- The store that grants a role these privileges and nothing else. -/
def PrivilegeStore.granting (role : String)
    (grants : List (Privilege × ObjectType × String)) : PrivilegeStore where
  rows :=
    (grants.map fun (privilege, objectType, objectName) =>
      ⟨role, privilege.toText, objectType.toText, objectName⟩).dedup
  unique := List.nodup_dedup _
  fault := none

variable {grants : List (Privilege × ObjectType × String)}

theorem granting_authorises {role : String} {objectName : String}
    (granted : (privilege, objectType, objectName) ∈ grants) :
    (PrivilegeStore.granting role grants).Authorises role privilege objectType
      objectName := by
  by_cases accountAdmin : toUppercase role = "ACCOUNTADMIN"
  · rw [PrivilegeStore.Authorises, PrivilegeStore.checkPrivilege,
      if_pos accountAdmin]
  · rw [authorises_iff accountAdmin]
    exact
      ⟨rfl, _, List.mem_dedup.mpr (List.mem_map.mpr ⟨_, granted, rfl⟩),
        rfl, rfl, permits_toText role privilege _ _⟩

theorem ObjectType.toText_injective :
    Function.Injective ObjectType.toText := by
  intro left right same
  cases left <;> cases right <;> first | rfl | (revert same; decide)

variable {role objectName : String}

/-- What this store authorises is covered by a grant for the object. -/
theorem of_granting_authorises
    (notAccountAdmin : toUppercase role ≠ "ACCOUNTADMIN") (authorised :
      (PrivilegeStore.granting role grants).Authorises role privilege
        objectType objectName) :
    ∃ granted, (granted, objectType, objectName) ∈ grants ∧
      granted.covers privilege := by
  rw [authorises_iff notAccountAdmin] at authorised
  rcases authorised with ⟨-, row, member, sameType, sameName, permits⟩
  rcases List.mem_map.mp (List.mem_dedup.mp member) with
    ⟨⟨granted, itsType, itsName⟩, known, rfl⟩
  rw [PrivilegeRow.permits, Privilege.parse_toText, Bool.and_eq_true] at permits
  refine ⟨granted, ?_, permits.2⟩
  rw [← ObjectType.toText_injective sameType, ← sameName]
  exact known

theorem mem_of_granting_authorises
    (notAccountAdmin : toUppercase role ≠ "ACCOUNTADMIN") (authorised :
      (PrivilegeStore.granting role grants).Authorises role privilege
        objectType objectName) :
    ∃ grant ∈ grants, grant.2.2 = objectName := by
  rcases of_granting_authorises notAccountAdmin authorised with
    ⟨granted, known, -⟩
  exact ⟨_, known, rfl⟩

/-- The store that lets a role read these tables and nothing else. -/
def PrivilegeStore.reading (role : String) (names : List String) :
    PrivilegeStore :=
  .granting role (names.map fun name => (.select, .table, name))

theorem reading_authorises {role name : String} {names : List String}
    (member : name ∈ names) :
    (PrivilegeStore.reading role names).Authorises role .select .table name :=
  granting_authorises (List.mem_map.mpr ⟨name, member, rfl⟩)

theorem of_reading_authorises {names : List String}
    (notAccountAdmin : toUppercase role ≠ "ACCOUNTADMIN") (authorised :
      (PrivilegeStore.reading role names).Authorises role privilege objectType
        objectName) :
    privilege = .select ∧ objectType = .table ∧ objectName ∈ names := by
  rcases of_granting_authorises notAccountAdmin authorised with
    ⟨granted, known, covers⟩
  rcases List.mem_map.mp known with ⟨name, member, same⟩
  simp only [Prod.mk.injEq] at same
  rcases same with ⟨rfl, rfl, rfl⟩
  refine ⟨?_, rfl, member⟩
  rw [Privilege.covers, Bool.or_eq_true, beq_iff_eq, beq_iff_eq] at covers
  exact (covers.resolve_left (by decide)).symm

end OpenSnow.Auth
