import OpenSnow.Catalog.Tenants
import OpenSnow.Foundation.SeparatorJoin

/-!
# Engine names of ingest tables

All tenants share one engine session, so a flush registers a table under a
name made from the tenant id and the table name.  The separator consists of
characters that are legal on both sides of it.
-/

namespace OpenSnow.Ingest.Registration

open Catalog.Tenants
open Foundation.SeparatorJoin

/-- `is_valid_ident`, the table names that `ingest_batch` accepts. -/
def isValidIdent (text : String) : Bool :=
  text.toList != [] &&
    text.toList.all (fun ch => ch.isAlphanum || ch == '_') &&
    text.toList.head?.any (fun ch => ch.isAlpha || ch == '_')

/-- The engine name that an ingest table is registered under. -/
def registeredTableName (tenantId table : String) : String :=
  if tenantId = defaultTenant then table else tenantId ++ "__" ++ table

/-! ## Which keys share a name -/

/--
The name of the first table already contains what the second tenant's prefix
adds to the first tenant's prefix.
-/
def Shadows (tenant table tenant' table' : String) : Prop :=
  tenant' ≠ defaultTenant ∧
    if tenant = defaultTenant then
      table = tenant' ++ "__" ++ table'
    else
      (tenant' = tenant ++ "_" ∧ table = "_" ++ table') ∨
        ∃ middle, tenant' = tenant ++ "__" ++ middle ∧
          table = middle ++ "__" ++ table'

theorem prefixed_eq_prefixed_iff {tenant table tenant' table' : String} :
    tenant ++ "__" ++ table = tenant' ++ "__" ++ table' ↔
      (tenant = tenant' ∧ table = table') ∨
        Overhangs ['_', '_'] tenant.toList table.toList
          tenant'.toList table'.toList ∨
        Overhangs ['_', '_'] tenant'.toList table'.toList
          tenant.toList table.toList := by
  have separator : "__".toList = ['_', '_'] := rfl
  rw [← String.toList_inj]
  simp only [String.toList_append, separator, List.append_assoc]
  rw [join_eq_join_iff, String.toList_inj, String.toList_inj]

theorem overhangs_iff {tenant table tenant' table' : String} :
    Overhangs ['_', '_'] tenant.toList table.toList
        tenant'.toList table'.toList ↔
      (tenant' = tenant ++ "_" ∧ table = "_" ++ table') ∨
        ∃ middle, tenant' = tenant ++ "__" ++ middle ∧
          table = middle ++ "__" ++ table' := by
  have one : "_".toList = ['_'] := rfl
  have two : "__".toList = ['_', '_'] := rfl
  rw [overhangs_twice_iff]
  simp only [← String.toList_inj, String.toList_append, one, two,
    List.append_assoc, List.singleton_append]
  refine or_congr_right ⟨?_, ?_⟩
  · rintro ⟨middle, tenantEq, tableEq⟩
    exact ⟨String.ofList middle, by simpa using tenantEq,
      by simpa using tableEq⟩
  · rintro ⟨middle, tenantEq, tableEq⟩
    exact ⟨middle.toList, tenantEq, tableEq⟩

/-- Behind two tenant prefixes, names collide exactly by an overhang. -/
theorem prefixed_separates_iff (tenant table tenant' table' : String) :
    (tenant ++ "__" ++ table = tenant' ++ "__" ++ table' →
        tenant = tenant' ∧ table = table') ↔
      ¬ Overhangs ['_', '_'] tenant.toList table.toList
          tenant'.toList table'.toList ∧
        ¬ Overhangs ['_', '_'] tenant'.toList table'.toList
          tenant.toList table.toList := by
  rw [prefixed_eq_prefixed_iff]
  constructor
  · intro separates
    constructor
    · intro overhangs
      have same := separates (Or.inr (Or.inl overhangs))
      exact overhangs.left_ne (congrArg String.toList same.1)
    · intro overhangs
      have same := separates (Or.inr (Or.inr overhangs))
      exact overhangs.left_ne (congrArg String.toList same.1.symm)
  · rintro ⟨noOverhang, noOverhang'⟩ (same | overhangs | overhangs)
    · exact same
    · exact absurd overhangs noOverhang
    · exact absurd overhangs noOverhang'

/--
Two ingest tables of different tenants share an engine name exactly when one
of them shadows the other.
-/
theorem registeredTableName_separates_iff
    (tenant table tenant' table' : String) :
    (registeredTableName tenant table = registeredTableName tenant' table' →
        (tenant, table) = (tenant', table')) ↔
      ¬ Shadows tenant table tenant' table' ∧
        ¬ Shadows tenant' table' tenant table := by
  rw [Prod.mk.injEq]
  by_cases isDefault : tenant = defaultTenant
  · by_cases isDefault' : tenant' = defaultTenant
    · simp [registeredTableName, Shadows, isDefault, isDefault']
    · have different : ¬ defaultTenant = tenant' := Ne.symm isDefault'
      simp [registeredTableName, Shadows, isDefault, isDefault', different]
  · by_cases isDefault' : tenant' = defaultTenant
    · simp [registeredTableName, Shadows, isDefault, isDefault', eq_comm]
    · rw [Shadows, Shadows, ← overhangs_iff, ← overhangs_iff,
        registeredTableName, registeredTableName, if_neg isDefault,
        if_neg isDefault', if_neg isDefault, if_neg isDefault']
      simpa only [ne_eq, isDefault, isDefault', not_false_eq_true, true_and]
        using prefixed_separates_iff tenant table tenant' table'

/-- A table of the default tenant that carries another tenant's prefix. -/
theorem default_tenant_shadows_acme :
    Producible "default" ∧ Producible "acme" ∧
      isValidIdent "acme__x" = true ∧ isValidIdent "x" = true ∧
      registeredTableName "default" "acme__x" =
        registeredTableName "acme" "x" ∧
      ("default", "acme__x") ≠ ("acme", "x") := by
  refine ⟨Or.inl rfl, producible_iff.mpr (Or.inr ⟨by decide, "Acme", ?_⟩), ?_⟩
  · decide
  · decide

end OpenSnow.Ingest.Registration
