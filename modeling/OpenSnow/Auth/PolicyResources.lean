import OpenSnow.Foundation.SeparatorJoin

/-!
# Policy resources

What a policy decision or an audit event is about is written as a type and an
id within an organization.  The id joins the tenant and the names of the object
with dots; the id of a query is the query's own, without the tenant.  Names are
free texts, so a dot in one of them can be read as the end of another.
-/

namespace OpenSnow.Auth

open Foundation

inductive OpenSnowResource where
  | warehouse (organizationId tenantId name : String)
  | database (organizationId tenantId database : String)
  | schema (organizationId tenantId database schema : String)
  | table (organizationId tenantId database schema table : String)
  | stage (organizationId tenantId stage : String)
  | integration (organizationId tenantId name : String)
  | query (organizationId tenantId queryId : String)
deriving DecidableEq, Repr

structure PolicyResource where
  organizationId : Option String
  tenantId : Option String
  resourceType : String
  resourceId : String
  resourceName : Option String
deriving DecidableEq, Repr

namespace OpenSnowResource

def policyResource : OpenSnowResource → PolicyResource
  | warehouse organization tenant name =>
      ⟨some organization, some tenant, "warehouse",
        tenant ++ "." ++ name, some name⟩
  | database organization tenant name =>
      ⟨some organization, some tenant, "database",
        tenant ++ "." ++ name, some name⟩
  | schema organization tenant inDatabase name =>
      ⟨some organization, some tenant, "schema",
        tenant ++ "." ++ inDatabase ++ "." ++ name,
        some (inDatabase ++ "." ++ name)⟩
  | table organization tenant inDatabase inSchema name =>
      ⟨some organization, some tenant, "table",
        tenant ++ "." ++ inDatabase ++ "." ++ inSchema ++ "." ++ name,
        some (inDatabase ++ "." ++ inSchema ++ "." ++ name)⟩
  | stage organization tenant name =>
      ⟨some organization, some tenant, "stage",
        tenant ++ "." ++ name, some name⟩
  | integration organization tenant name =>
      ⟨some organization, some tenant, "integration",
        tenant ++ "." ++ name, some name⟩
  | query organization tenant id =>
      ⟨some organization, some tenant, "query", id, some id⟩

end OpenSnowResource

/-- What a consumer looks a resource up by. -/
def PolicyResource.key (resource : PolicyResource) :
    Option String × String × String :=
  (resource.organizationId, resource.resourceType, resource.resourceId)

/-! ## The parts of an id -/

namespace OpenSnowResource

inductive Kind where
  | warehouse | database | schema | table | stage | integration | query
deriving DecidableEq, Repr

def kind : OpenSnowResource → Kind
  | warehouse .. => .warehouse
  | database .. => .database
  | schema .. => .schema
  | table .. => .table
  | stage .. => .stage
  | integration .. => .integration
  | query .. => .query

def organizationId : OpenSnowResource → String
  | warehouse organization .. | database organization ..
  | schema organization .. | table organization ..
  | stage organization .. | integration organization ..
  | query organization .. => organization

/-- The texts that the id is made of. -/
def idParts : OpenSnowResource → List String
  | warehouse _ tenant name | database _ tenant name
  | stage _ tenant name | integration _ tenant name => [tenant, name]
  | schema _ tenant inDatabase name => [tenant, inDatabase, name]
  | table _ tenant inDatabase inSchema name =>
      [tenant, inDatabase, inSchema, name]
  | query _ _ id => [id]

/-- The parts of the id, cut at all their dots. -/
def idPieces (resource : OpenSnowResource) : List (List Char) :=
  JoinedWords.pieces '.' (resource.idParts.map String.toList)

end OpenSnowResource

/-- Two resources that differ, and are not told apart by their keys. -/
structure Confused (left right : OpenSnowResource) : Prop where
  differ : left ≠ right
  organizationId : left.organizationId = right.organizationId
  kind : left.kind = right.kind
  idPieces : left.idPieces = right.idPieces

namespace OpenSnowResource

variable (resource : OpenSnowResource)

theorem idParts_ne_nil :
    resource.idParts.map String.toList ≠ [] := by
  cases resource <;> exact List.cons_ne_nil _ _

theorem toList_resourceId :
    resource.policyResource.resourceId.toList =
      JoinedWords.joined '.' (resource.idParts.map String.toList) := by
  have dot : ".".toList = ['.'] := by decide
  cases resource <;>
    simp [policyResource, idParts, JoinedWords.joined_cons_cons, dot]

variable {left right : OpenSnowResource}

theorem resourceType_eq_iff :
    left.policyResource.resourceType = right.policyResource.resourceType ↔
      left.kind = right.kind := by
  cases left <;> cases right <;> simp [policyResource, kind]

theorem policyResource_organizationId :
    resource.policyResource.organizationId =
      some resource.organizationId := by
  cases resource <;> rfl

theorem key_eq_iff :
    left.policyResource.key = right.policyResource.key ↔
      left.organizationId = right.organizationId ∧
        left.kind = right.kind ∧ left.idPieces = right.idPieces := by
  rw [PolicyResource.key, PolicyResource.key, Prod.mk.injEq, Prod.mk.injEq,
    policyResource_organizationId, policyResource_organizationId,
    Option.some_inj, resourceType_eq_iff,
    ← @String.toList_inj left.policyResource.resourceId, toList_resourceId, toList_resourceId,
    JoinedWords.joined_eq_joined_iff left.idParts_ne_nil right.idParts_ne_nil]
  rfl

/--
A key identifies a resource, unless another resource of the type and the
organization is cut into the same pieces by its dots.
-/
theorem identified_iff (left right : OpenSnowResource) :
    (left.policyResource.key = right.policyResource.key → left = right) ↔
      ¬ Confused left right := by
  rw [key_eq_iff]
  constructor
  · intro identifies confused
    exact confused.differ
      (identifies ⟨confused.organizationId, confused.kind, confused.idPieces⟩)
  · rintro unconfused ⟨organizationId, kind, idPieces⟩
    by_contra differ
    exact unconfused ⟨differ, organizationId, kind, idPieces⟩

/-- A schema in a database with a dot, and a query of another tenant. -/
theorem keys_confused :
    ¬ ((schema "org" "prod" "a.b" "c").policyResource.key =
        (schema "org" "prod" "a" "b.c").policyResource.key →
      schema "org" "prod" "a.b" "c" = schema "org" "prod" "a" "b.c") ∧
    ¬ ((query "org" "prod" "q1").policyResource.key =
        (query "org" "test" "q1").policyResource.key →
      query "org" "prod" "q1" = query "org" "test" "q1") := by
  decide

/-! ## Names without dots -/

theorem length_idParts (same : left.kind = right.kind) :
    left.idParts.length = right.idParts.length := by
  cases left <;> cases right <;> simp_all [kind, idParts]

/-- An object is its organization, its kind and the parts of its id. -/
theorem eq_of_idParts (isObject : left.kind ≠ .query)
    (organization : left.organizationId = right.organizationId)
    (sameKind : left.kind = right.kind)
    (parts : left.idParts = right.idParts) : left = right := by
  cases left <;> cases right <;>
    simp_all [kind, organizationId, idParts]

end OpenSnowResource

open OpenSnowResource in
/-- Objects are only confused over a dot in front of the last part. -/
theorem Confused.dotted {left right : OpenSnowResource}
    (confused : Confused left right) (isObject : left.kind ≠ .query) :
    ∃ part ∈ left.idParts.dropLast ++ right.idParts.dropLast,
      '.' ∈ part.toList := by
  by_contra! plain
  rw [List.forall_mem_append] at plain
  have plainFront : ∀ {parts : List String},
      (∀ part ∈ parts.dropLast, '.' ∉ part.toList) →
        ∀ word ∈ (parts.map String.toList).dropLast, '.' ∉ word := by
    intro parts isPlain word member
    rw [← List.map_dropLast] at member
    obtain ⟨part, inParts, rfl⟩ := List.mem_map.mp member
    exact isPlain part inParts
  have alike := (JoinedWords.joined_eq_joined_iff left.idParts_ne_nil
    right.idParts_ne_nil).mpr confused.idPieces
  have same := JoinedWords.joined_inj_of_plain_front
    (by rw [List.length_map, List.length_map, length_idParts confused.kind])
    (plainFront plain.1) (plainFront plain.2) alike
  refine confused.differ (eq_of_idParts isObject confused.organizationId
    confused.kind ?_)
  exact List.map_injective_iff.mpr (fun _ _ => String.toList_inj.mp) same

end OpenSnow.Auth
