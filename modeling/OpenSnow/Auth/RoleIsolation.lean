import OpenSnow.Auth.Privileges

/-!
# Grants to other roles

What a role is authorised to do depends on the grants to every role that it
includes.  The built-in chain is monotone; custom roles all have one priority,
so each of them includes every other one.
-/

namespace OpenSnow.Auth

open Rust.Text

/-! ## Roles -/

/-- A role that is not built in. -/
def IsCustom (role : String) : Prop := BuiltinRole.fromName role = none

instance (role : String) : Decidable (IsCustom role) :=
  inferInstanceAs (Decidable (_ = _))

variable {role : String}

theorem rolePriority_custom (custom : IsCustom role) :
    rolePriority role = 10 := by
  rw [rolePriority, custom]
  rfl

theorem roleIncludes_custom {role other : String} (custom : IsCustom role)
    (otherCustom : IsCustom other) : roleIncludes role other := by
  rw [roleIncludes, rolePriority_custom custom,
    rolePriority_custom otherCustom]
  rfl

theorem fromName_accountAdmin :
    BuiltinRole.fromName role = some .accountAdmin ↔
      toUppercase role = "ACCOUNTADMIN" := by
  rw [BuiltinRole.fromName]
  constructor
  · intro found
    split at found <;> first | assumption | cases found
  · intro upper
    simp only [upper]

theorem rolePriority_accountAdmin :
    toUppercase role = "ACCOUNTADMIN" ↔ 100 ≤ rolePriority role := by
  rw [← fromName_accountAdmin, rolePriority]
  cases BuiltinRole.fromName role with
  | none => exact iff_of_false nofun (by decide)
  | some builtin => cases builtin <;> decide

theorem not_accountAdmin_of_custom (custom : IsCustom role) :
    toUppercase role ≠ "ACCOUNTADMIN" := by
  rw [ne_eq, rolePriority_accountAdmin, rolePriority_custom custom]
  decide

/-! ## The chain of roles -/

/-- A role that stands higher is authorised to do at least as much. -/
theorem authorises_mono {store : PrivilegeStore} {lower higher : String}
    (ordered : rolePriority lower ≤ rolePriority higher)
    {privilege : Privilege} {objectType : ObjectType} {objectName : String}
    (authorised : store.Authorises lower privilege objectType objectName) :
    store.Authorises higher privilege objectType objectName := by
  by_cases top : toUppercase higher = "ACCOUNTADMIN"
  · rw [PrivilegeStore.Authorises, PrivilegeStore.checkPrivilege, if_pos top]
  · have notTop : toUppercase lower ≠ "ACCOUNTADMIN" := by
      rw [rolePriority_accountAdmin] at top
      rw [ne_eq, rolePriority_accountAdmin]
      exact fun high => top (high.trans ordered)
    rw [authorises_iff notTop] at authorised
    rw [authorises_iff top]
    obtain ⟨works, row, member, sameType, sameName, permits⟩ := authorised
    rw [PrivilegeRow.permits, Bool.and_eq_true, roleIncludes,
      decide_eq_true_iff] at permits
    refine ⟨works, row, member, sameType, sameName, ?_⟩
    rw [PrivilegeRow.permits, Bool.and_eq_true, roleIncludes,
      decide_eq_true_iff]
    exact ⟨permits.1.trans ordered, permits.2⟩

/-! ## Changes to the grants of one role -/

/-- The row grants a privilege that covers this one, on this object. -/
def PrivilegeRow.Grants (row : PrivilegeRow) (privilege : Privilege)
    (objectType : ObjectType) (objectName : String) : Prop :=
  row.objectType = objectType.toText ∧ row.objectName = objectName ∧
    (Privilege.parse row.privilege).any (·.covers privilege)

/-- A role has a grant of its own that covers a privilege on an object. -/
def PrivilegeStore.HoldsGrant (store : PrivilegeStore) (role : String)
    (privilege : Privilege) (objectType : ObjectType) (objectName : String) :
    Prop :=
  ∃ row ∈ store.rows, row.roleName = role ∧
    row.Grants privilege objectType objectName

/-- The two tables are the same but for the grants to a role. -/
structure DifferIn (role : String) (before after : PrivilegeStore) : Prop where
  fault : before.fault = after.fault
  rows : ∀ row, row.roleName ≠ role → (row ∈ before.rows ↔ row ∈ after.rows)

/-- A call that grants a role a privilege, or revokes one from it. -/
inductive GrantCall where
  | grant (privilege : Privilege) (objectType : ObjectType)
      (objectName : String)
  | revoke (privilege : Privilege) (objectType : ObjectType)
      (objectName : String)

/-- The store after a call; a call that fails changes nothing. -/
def GrantCall.perform (role : String) (store : PrivilegeStore)
    (call : GrantCall) : PrivilegeStore :=
  let outcome :=
    match call with
    | .grant privilege objectType objectName =>
        store.grantPrivilege role privilege objectType objectName
    | .revoke privilege objectType objectName =>
        store.revokePrivilege role privilege objectType objectName
  match outcome with
  | .ok changed => changed
  | .error _ => store

theorem DifferIn.perform {before after : PrivilegeStore}
    (differ : DifferIn role before after) (call : GrantCall) :
    DifferIn role before (call.perform role after) := by
  have other : ∀ {row : PrivilegeRow} {privilege objectType objectName},
      row.roleName ≠ role →
        row ≠ ⟨role, privilege, objectType, objectName⟩ := by
    rintro row privilege objectType objectName isOther rfl
    exact isOther rfl
  cases call with
  | grant privilege objectType objectName =>
      rw [GrantCall.perform, PrivilegeStore.grantPrivilege]
      cases fault : after.fault with
      | some error => exact differ
      | none =>
          dsimp only
          split_ifs with held
          · exact differ
          · refine ⟨differ.fault.trans fault, fun row isOther => ?_⟩
            dsimp only
            rw [List.mem_append, List.mem_singleton, differ.rows row isOther]
            exact (or_iff_left (other isOther)).symm
  | revoke privilege objectType objectName =>
      rw [GrantCall.perform, PrivilegeStore.revokePrivilege]
      cases fault : after.fault with
      | some error => exact differ
      | none =>
          dsimp only
          split_ifs with held
          · refine ⟨differ.fault.trans fault, fun row isOther => ?_⟩
            dsimp only
            rw [List.mem_erase_of_ne (other isOther)]
            exact differ.rows row isOther
          · exact differ

/-- Calls about a role change the grants to that role alone. -/
theorem differIn_calls (role : String) (store : PrivilegeStore)
    (calls : List GrantCall) :
    DifferIn role store (calls.foldl (GrantCall.perform role) store) :=
  List.foldlRecOn calls (GrantCall.perform role)
    ⟨rfl, fun _ _ => Iff.rfl⟩ fun _ differ call _ => differ.perform call

/-! ## What a role sees of the grants to another one -/

section Isolation

variable {role other : String} {before after : PrivilegeStore}
  {privilege : Privilege} {objectType : ObjectType} {objectName : String}

/-- The table without the grants to a role authorises another one already. -/
def AuthorisesWithout (store : PrivilegeStore) (role other : String)
    (privilege : Privilege) (objectType : ObjectType) (objectName : String) :
    Prop :=
  ∃ row ∈ store.rows, row.roleName ≠ other ∧ roleIncludes role row.roleName ∧
    row.Grants privilege objectType objectName

/-- A custom role has its own grants and those of every other custom role. -/
theorem authorises_custom_iff (custom : IsCustom role)
    (otherCustom : IsCustom other) {store : PrivilegeStore}
    (works : store.fault = none) :
    store.Authorises role privilege objectType objectName ↔
      AuthorisesWithout store role other privilege objectType objectName ∨
        store.HoldsGrant other privilege objectType objectName := by
  rw [authorises_iff (not_accountAdmin_of_custom custom)]
  constructor
  · rintro ⟨-, row, member, sameType, sameName, permits⟩
    rw [PrivilegeRow.permits, Bool.and_eq_true] at permits
    have grants : row.Grants privilege objectType objectName :=
      ⟨sameType, sameName, permits.2⟩
    by_cases isOther : row.roleName = other
    · exact Or.inr ⟨row, member, isOther, grants⟩
    · exact Or.inl ⟨row, member, isOther, permits.1, grants⟩
  · rintro (⟨row, member, -, includes, grants⟩ | ⟨row, member, rfl, grants⟩)
    · refine ⟨works, row, member, grants.1, grants.2.1, ?_⟩
      rw [PrivilegeRow.permits, includes, grants.2.2]
      rfl
    · refine ⟨works, row, member, grants.1, grants.2.1, ?_⟩
      rw [PrivilegeRow.permits, roleIncludes_custom custom otherCustom,
        grants.2.2]
      rfl

theorem authorisesWithout_iff (differ : DifferIn other before after) :
    AuthorisesWithout before role other privilege objectType objectName ↔
      AuthorisesWithout after role other privilege objectType objectName :=
  exists_congr fun row =>
    ⟨fun ⟨member, isOther, rest⟩ =>
        ⟨(differ.rows row isOther).mp member, isOther, rest⟩,
      fun ⟨member, isOther, rest⟩ =>
        ⟨(differ.rows row isOther).mpr member, isOther, rest⟩⟩

/-- Without a fault, a check says whether the table authorises. -/
theorem checkPrivilege_eq_iff (custom : IsCustom role)
    (works : before.fault = none) (alsoWorks : after.fault = none) :
    before.checkPrivilege role privilege objectType objectName =
        after.checkPrivilege role privilege objectType objectName ↔
      (before.Authorises role privilege objectType objectName ↔
        after.Authorises role privilege objectType objectName) := by
  have notTop := not_accountAdmin_of_custom custom
  rw [PrivilegeStore.Authorises, PrivilegeStore.Authorises,
    PrivilegeStore.checkPrivilege, PrivilegeStore.checkPrivilege,
    if_neg notTop, if_neg notTop, works, alsoWorks]
  dsimp only
  rw [Except.ok.injEq, Except.ok.injEq, Except.ok.injEq, Bool.eq_iff_iff]

/--
A change of the grants to one custom role is unseen by another one exactly if
the grants to other roles authorise it already, or the changed role holds a
covering grant both before and after, or neither.  The built-in chain with a
custom role in it is monotone.
-/
theorem roleIsolation_iff (custom : IsCustom role)
    (otherCustom : IsCustom other) (differ : DifferIn other before after) :
    (∀ privilege objectType objectName,
        before.checkPrivilege role privilege objectType objectName =
            after.checkPrivilege role privilege objectType objectName ↔
          before.fault ≠ none ∨
            AuthorisesWithout before role other privilege objectType
              objectName ∨
            (before.HoldsGrant other privilege objectType objectName ↔
              after.HoldsGrant other privilege objectType objectName)) ∧
      ["PUBLIC", role, "SYSADMIN", "ACCOUNTADMIN"].Pairwise
        fun lower higher => ∀ privilege objectType objectName,
          before.Authorises lower privilege objectType objectName →
            before.Authorises higher privilege objectType objectName := by
  constructor
  · intro privilege objectType objectName
    cases fault : before.fault with
    | some error =>
        have alsoFaulty : after.fault = some error :=
          differ.fault.symm.trans fault
        have notTop := not_accountAdmin_of_custom custom
        rw [PrivilegeStore.checkPrivilege, PrivilegeStore.checkPrivilege,
          if_neg notTop, if_neg notTop, fault, alsoFaulty]
        exact iff_of_true rfl (Or.inl (Option.some_ne_none error))
    | none =>
        have works : after.fault = none := differ.fault.symm.trans fault
        rw [checkPrivilege_eq_iff custom fault works,
          authorises_custom_iff custom otherCustom fault,
          authorises_custom_iff custom otherCustom works,
          ← authorisesWithout_iff differ,
          or_iff_right (not_not.mpr (rfl : (none : Option String) = none))]
        tauto
  · have chain :
        ["PUBLIC", role, "SYSADMIN", "ACCOUNTADMIN"].Pairwise
          fun lower higher => rolePriority lower ≤ rolePriority higher := by
      have bottom : rolePriority "PUBLIC" = 0 := by decide
      have third : rolePriority "SYSADMIN" = 50 := by decide
      have top : rolePriority "ACCOUNTADMIN" = 100 := by decide
      simp [bottom, third, top, rolePriority_custom custom]
    exact chain.imp fun ordered _ _ _ => authorises_mono ordered

/-- A grant on one table, seen by another role that asks about another one. -/
theorem roleIsolation_otherTable :
    PrivilegeStore.empty.checkPrivilege "ANALYST" .select .table "calls" =
      ([GrantCall.grant .select .table "payroll"].foldl
        (GrantCall.perform "FINANCE") .empty).checkPrivilege "ANALYST" .select
          .table "calls" := by
  have custom : IsCustom "ANALYST" ∧ IsCustom "FINANCE" := by decide
  have unheld : ∀ store : PrivilegeStore,
      store.rows ⊆ [⟨"FINANCE", "SELECT", "TABLE", "payroll"⟩] →
        ¬ store.HoldsGrant "FINANCE" .select .table "calls" := by
    rintro store known ⟨row, member, -, -, sameName, -⟩
    rw [List.mem_singleton.mp (known member)] at sameName
    revert sameName
    decide
  exact
    ((roleIsolation_iff custom.1 custom.2 (differIn_calls _ _ _)).1 _ _ _).mpr
      (Or.inr (Or.inr (iff_of_false (unheld _ (by decide))
        (unheld _ (by decide)))))

/-- A grant to one custom role is a grant to every other one. -/
theorem roleIsolation_shared :
    IsCustom "ANALYST" ∧ IsCustom "FINANCE" ∧ "ANALYST" ≠ "FINANCE" ∧
      PrivilegeStore.empty.checkPrivilege "ANALYST" .select .table "payroll" =
        .ok false ∧
      ([GrantCall.grant .select .table "payroll"].foldl
        (GrantCall.perform "FINANCE") .empty).checkPrivilege "ANALYST" .select
          .table "payroll" = .ok true := by
  refine ⟨?_, ?_, ?_, ?_, ?_⟩ <;> decide

end Isolation

end OpenSnow.Auth
