import OpenSnow.Auth.Sso
import OpenSnow.Foundation.SeparatorJoin

/-!
# Ids of role mappings

The id of a role mapping joins its columns with colons.  The ids of the
account, the connection and the role have no colon, but the key and the value
of the claim are free texts, so two claims can read alike once they are joined.
-/

namespace OpenSnow.Auth.Sso

open Foundation
open Foundation.SeparatorJoin

/-! ## Calls -/

/-- What `upsert_idp_role_mapping` is given. -/
structure MappingUpsert where
  accountId : String
  connectionId : String
  claimKey : String
  claimValue : String
  roleId : String
deriving DecidableEq, Repr

namespace MappingUpsert

def mapping (request : MappingUpsert) : RedactedIdpRoleMapping :=
  mappingOf request.accountId request.connectionId request.claimKey
    request.claimValue request.roleId

def hasSafeIds (request : MappingUpsert) : Bool :=
  isSafeId request.accountId && isSafeId request.connectionId &&
    isSafeId request.roleId

end MappingUpsert

inductive MappingCall where
  | upsert (moment : SsoMoment) (request : MappingUpsert)
  | delete (moment : SsoMoment) (accountId mappingId : String)

def MappingCall.perform (catalog : SsoCatalog) : MappingCall → SsoCatalog
  | .upsert moment request =>
      (upsertIdpRoleMapping moment request.mapping catalog).2
  | .delete moment accountId mappingId =>
      (deleteIdpRoleMapping moment accountId mappingId catalog).2

/-- What calls make of a catalog that has connections and no mappings. -/
def afterCalls (connections : Keyed IdpConnection.key)
    (calls : List MappingCall) : SsoCatalog :=
  calls.foldl MappingCall.perform ⟨connections, .empty⟩

def MappingCall.request : MappingCall → Option MappingUpsert
  | .upsert _ request => some request
  | .delete _ _ _ => none

/-- What is upserted with safe ids. -/
def upserts (calls : List MappingCall) : List MappingUpsert :=
  (calls.filterMap MappingCall.request).filter MappingUpsert.hasSafeIds

/-! ## What is promised -/

/-- An upsert among the calls has returned the mapping. -/
def Returned (connections : Keyed IdpConnection.key)
    (calls : List MappingCall) (request : MappingUpsert) : Prop :=
  ∃ earlier moment later, calls = earlier ++ .upsert moment request :: later ∧
    (upsertIdpRoleMapping moment request.mapping
      (afterCalls connections earlier)).1 = .ok request.mapping

/-- Mappings are told apart by their ids in a run of calls. -/
structure IdsIdentify (connections : Keyed IdpConnection.key)
    (calls : List MappingCall) : Prop where
  distinct : ∀ left ∈ upserts calls, ∀ right ∈ upserts calls,
    left.accountId = right.accountId → left ≠ right →
      left.mapping.id ≠ right.mapping.id
  upserted : ∀ before moment request after,
    calls = before ++ .upsert moment request :: after →
      request.hasSafeIds →
        (connections.find (request.accountId, request.connectionId)).isSome →
          moment.fault .upsertMapping = none →
            let result := upsertIdpRoleMapping moment request.mapping
              (afterCalls connections before)
            result.1 = .ok request.mapping ∧
              request.mapping ∈ result.2.mappings.rows
  deleted : ∀ before moment request after,
    calls = before ++
        .delete moment request.accountId request.mapping.id :: after →
      Returned connections before request →
        moment.fault .deleteMapping = none →
          let held := (afterCalls connections before).mappings.rows
          let result := deleteIdpRoleMapping moment request.accountId
            request.mapping.id (afterCalls connections before)
          result.1 = .ok (decide (request.mapping ∈ held)) ∧
            ∀ row, row ∈ result.2.mappings.rows ↔
              row ∈ held ∧ row ≠ request.mapping

/-! ## When it is kept -/

/--
Two upserts for one connection and role, with a colon in the key of the second
where the key of the first ends: what stands between that colon and the end of
the key is the start of the value of the first.
-/
structure Ambiguous (left right : MappingUpsert) : Prop where
  accountId : left.accountId = right.accountId
  connectionId : left.connectionId = right.connectionId
  roleId : left.roleId = right.roleId
  claim : ∃ middle, right.claimKey = left.claimKey ++ ":" ++ middle ∧
    left.claimValue = middle ++ ":" ++ right.claimValue

/-! ## Which ids are alike -/

theorem colon_not_mem_of_isSafeId {text : String} (safe : isSafeId text) :
    ':' ∉ text.toList := by
  rw [isSafeId, Bool.and_eq_true, List.all_eq_true] at safe
  intro member
  exact absurd (safe.2 ':' member) (by decide)

theorem toList_id (request : MappingUpsert) :
    request.mapping.id.toList =
      request.accountId.toList ++ ':' ::
        (request.connectionId.toList ++ ':' ::
          ((request.claimKey.toList ++ ':' :: request.claimValue.toList) ++
            ':' :: request.roleId.toList)) := by
  have colon : ":".toList = [':'] := by decide
  simp [MappingUpsert.mapping, mappingOf, colon]

theorem exists_toList {P : List Char → Prop} :
    (∃ letters, P letters) ↔ ∃ text : String, P text.toList :=
  ⟨fun ⟨letters, holds⟩ =>
      ⟨String.ofList letters, String.toList_ofList.symm ▸ holds⟩,
    fun ⟨text, holds⟩ => ⟨text.toList, holds⟩⟩

theorem overhangs_colon_iff {left right left' right' : String} :
    Overhangs [':'] left.toList right.toList left'.toList right'.toList ↔
      ∃ middle, left' = left ++ ":" ++ middle ∧
        right = middle ++ ":" ++ right' := by
  have colon : ":".toList = [':'] := by decide
  rw [overhangs_once_iff, exists_toList]
  refine exists_congr fun middle => and_congr ?_ ?_
  · rw [← String.toList_inj]
    simp [colon]
  · rw [← String.toList_inj]
    simp [colon]

theorem Ambiguous.ne {left right : MappingUpsert}
    (ambiguous : Ambiguous left right) : left ≠ right := by
  rintro rfl
  obtain ⟨middle, longer, -⟩ := ambiguous.claim
  have lengths := congrArg (fun text => text.toList.length) longer
  simp [show ":".toList = [':'] by decide] at lengths

theorem id_eq_iff {left right : MappingUpsert} (safe : left.hasSafeIds)
    (safe' : right.hasSafeIds) :
    left.mapping.id = right.mapping.id ↔
      left = right ∨ Ambiguous left right ∨ Ambiguous right left := by
  rw [MappingUpsert.hasSafeIds, Bool.and_eq_true, Bool.and_eq_true]
    at safe safe'
  obtain ⟨⟨account, connection⟩, role⟩ := safe
  obtain ⟨⟨account', connection'⟩, role'⟩ := safe'
  rw [← String.toList_inj, toList_id, toList_id,
    join_once_iff_of_left (colon_not_mem_of_isSafeId account)
      (colon_not_mem_of_isSafeId account'),
    join_once_iff_of_left (colon_not_mem_of_isSafeId connection)
      (colon_not_mem_of_isSafeId connection'),
    join_once_iff_of_right (colon_not_mem_of_isSafeId role)
      (colon_not_mem_of_isSafeId role'),
    String.toList_inj, String.toList_inj, String.toList_inj]
  have claims := @join_eq_join_iff _ [':'] left.claimKey.toList
    left.claimValue.toList right.claimKey.toList right.claimValue.toList
  rw [String.toList_inj, String.toList_inj, overhangs_colon_iff,
    overhangs_colon_iff] at claims
  constructor
  · rintro ⟨sameAccount, sameConnection, alike, sameRole⟩
    rcases claims.mp alike with ⟨sameKey, sameValue⟩ | claim | claim
    · left
      cases left
      cases right
      cases sameAccount
      cases sameConnection
      cases sameKey
      cases sameValue
      cases sameRole
      rfl
    · exact Or.inr
        (Or.inl ⟨sameAccount, sameConnection, sameRole, claim⟩)
    · exact Or.inr (Or.inr
        ⟨sameAccount.symm, sameConnection.symm, sameRole.symm, claim⟩)
  · rintro (rfl | ambiguous | ambiguous)
    · exact ⟨rfl, rfl, rfl, rfl⟩
    · exact ⟨ambiguous.accountId, ambiguous.connectionId,
        claims.mpr (Or.inr (Or.inl ambiguous.claim)), ambiguous.roleId⟩
    · exact ⟨ambiguous.accountId.symm, ambiguous.connectionId.symm,
        claims.mpr (Or.inr (Or.inr ambiguous.claim)), ambiguous.roleId.symm⟩

/-! ## What a call can do -/

theorem mem_upserts {calls : List MappingCall} {request : MappingUpsert} :
    request ∈ upserts calls ↔
      (∃ moment, .upsert moment request ∈ calls) ∧ request.hasSafeIds := by
  rw [upserts, List.mem_filter, List.mem_filterMap]
  refine and_congr_left fun _ => ⟨?_, ?_⟩
  · rintro ⟨call, member, isRequest⟩
    cases call with
    | upsert moment other =>
        cases isRequest
        exact ⟨moment, member⟩
    | delete moment accountId mappingId => cases isRequest
  · rintro ⟨moment, member⟩
    exact ⟨_, member, rfl⟩

section

variable {moment : SsoMoment} {request : MappingUpsert} {catalog : SsoCatalog}

theorem attempt_ok_iff {op : SsoOp} :
    attempt moment op = .ok () ↔ moment.fault op = none := by
  rw [attempt]
  cases moment.fault op <;> simp

theorem checkMapping_ok_iff :
    checkMapping moment request.mapping = .ok () ↔
      request.hasSafeIds ∧ moment.fault .upsertMapping = none := by
  rw [checkMapping, check_bind_ok_iff, check_bind_ok_iff, check_bind_ok_iff,
    validateSafeId, validateSafeId, validateSafeId, require_ok_iff,
    require_ok_iff, require_ok_iff, attempt_ok_iff, MappingUpsert.hasSafeIds,
    Bool.and_eq_true, Bool.and_eq_true, and_assoc, and_assoc]
  rfl

theorem checkDelete_ok_iff {accountId : String} :
    checkDelete moment accountId = .ok () ↔
      isSafeId accountId ∧ moment.fault .deleteMapping = none := by
  rw [checkDelete, check_bind_ok_iff, validateSafeId, require_ok_iff,
    attempt_ok_iff]

/-- An upsert leaves the catalog, or puts the new mapping to it. -/
theorem upsertIdpRoleMapping_catalog :
    (upsertIdpRoleMapping moment request.mapping catalog).2 = catalog ∨
      request.hasSafeIds ∧
        (upsertIdpRoleMapping moment request.mapping catalog).2 =
          { catalog with mappings := catalog.mappings.put request.mapping } := by
  rw [upsertIdpRoleMapping]
  cases checks : checkMapping moment request.mapping with
  | error message => exact Or.inl rfl
  | ok _ =>
      rw [insertMapping]
      split_ifs with isHeld
      · exact Or.inl rfl
      · exact Or.inl rfl
      · exact Or.inl rfl
      · exact Or.inr ⟨(checkMapping_ok_iff.mp checks).1, rfl⟩

end

theorem deleteIdpRoleMapping_catalog (moment : SsoMoment)
    (accountId mappingId : String) (catalog : SsoCatalog) :
    (deleteIdpRoleMapping moment accountId mappingId catalog).2 = catalog ∨
      (deleteIdpRoleMapping moment accountId mappingId catalog).2 =
        { catalog with
          mappings := catalog.mappings.keep fun mapping =>
            !isNamed accountId mappingId mapping } := by
  rw [deleteIdpRoleMapping]
  cases checkDelete moment accountId with
  | error message => exact Or.inl rfl
  | ok _ => exact Or.inr rfl

theorem perform_connections (catalog : SsoCatalog) (call : MappingCall) :
    (call.perform catalog).connections = catalog.connections := by
  cases call with
  | upsert moment request =>
      rw [MappingCall.perform]
      rcases upsertIdpRoleMapping_catalog with same | ⟨-, put⟩
      · rw [same]
      · rw [put]
  | delete moment accountId mappingId =>
      rw [MappingCall.perform]
      rcases deleteIdpRoleMapping_catalog moment accountId mappingId catalog
        with same | kept
      · rw [same]
      · rw [kept]

/-- A mapping was held before the call, or is upserted by it. -/
theorem of_mem_perform {catalog : SsoCatalog} {call : MappingCall}
    {row : RedactedIdpRoleMapping}
    (member : row ∈ (call.perform catalog).mappings.rows) :
    row ∈ catalog.mappings.rows ∨
      ∃ request ∈ upserts [call], row = request.mapping := by
  cases call with
  | upsert moment request =>
      rw [MappingCall.perform] at member
      rcases upsertIdpRoleMapping_catalog with same | ⟨safe, put⟩
      · rw [same] at member
        exact Or.inl member
      · rw [put] at member
        rcases Keyed.mem_put.mp member with isNew | ⟨old, -⟩
        · exact Or.inr
            ⟨request,
              mem_upserts.mpr ⟨⟨moment, List.mem_singleton_self _⟩, safe⟩,
              isNew⟩
        · exact Or.inl old
  | delete moment accountId mappingId =>
      rw [MappingCall.perform] at member
      rcases deleteIdpRoleMapping_catalog moment accountId mappingId catalog
        with same | kept
      · rw [same] at member
        exact Or.inl member
      · rw [kept] at member
        exact Or.inl (Keyed.mem_keep.mp member).1

/-! ## Runs of calls -/

section

variable {connections : Keyed IdpConnection.key}

theorem afterCalls_concat (calls : List MappingCall) (call : MappingCall) :
    afterCalls connections (calls ++ [call]) =
      call.perform (afterCalls connections calls) := by
  rw [afterCalls, List.foldl_append]
  rfl

theorem afterCalls_connections (calls : List MappingCall) :
    (afterCalls connections calls).connections = connections := by
  induction calls using List.reverseRecOn with
  | nil => rfl
  | append_singleton calls call ih =>
      rw [afterCalls_concat, perform_connections, ih]

/-- Every mapping that is held was upserted. -/
theorem held_upserted {calls : List MappingCall}
    {row : RedactedIdpRoleMapping}
    (held : row ∈ (afterCalls connections calls).mappings.rows) :
    ∃ request ∈ upserts calls, row = request.mapping := by
  induction calls using List.reverseRecOn with
  | nil => exact absurd held List.not_mem_nil
  | append_singleton calls call ih =>
      rw [upserts, List.filterMap_append, List.filter_append]
      rw [afterCalls_concat] at held
      rcases of_mem_perform held with old | ⟨request, isNew, same⟩
      · obtain ⟨request, member, same⟩ := ih old
        exact ⟨request, List.mem_append_left _ member, same⟩
      · exact ⟨request, List.mem_append_right _ isNew, same⟩

theorem Returned.upserted {calls : List MappingCall}
    {request : MappingUpsert} (returned : Returned connections calls request) :
    request ∈ upserts calls := by
  obtain ⟨earlier, moment, later, rfl, ok⟩ := returned
  refine mem_upserts.mpr
    ⟨⟨moment, List.mem_append_right _ List.mem_cons_self⟩, ?_⟩
  rw [upsertIdpRoleMapping] at ok
  cases checks : checkMapping moment request.mapping with
  | error message =>
      rw [checks] at ok
      cases ok
  | ok _ => exact (checkMapping_ok_iff.mp checks).1

theorem upserts_mono {calls before after : List MappingCall}
    (split : calls = before ++ after) {request : MappingUpsert}
    (member : request ∈ upserts before) : request ∈ upserts calls := by
  obtain ⟨⟨moment, member⟩, safe⟩ := mem_upserts.mp member
  exact mem_upserts.mpr
    ⟨⟨moment, split ▸ List.mem_append_left after member⟩, safe⟩

/-! ### Without ambiguous claims -/

section

variable {calls : List MappingCall}
  (unambiguous : ∀ left ∈ upserts calls, ∀ right ∈ upserts calls,
    ¬ Ambiguous left right)

include unambiguous

theorem eq_of_id_eq {left right : MappingUpsert} (isLeft : left ∈ upserts calls)
    (isRight : right ∈ upserts calls)
    (same : left.mapping.id = right.mapping.id) : left = right := by
  rcases (id_eq_iff (mem_upserts.mp isLeft).2 (mem_upserts.mp isRight).2).mp
    same with same | ambiguous | ambiguous
  · exact same
  · exact absurd ambiguous (unambiguous left isLeft right isRight)
  · exact absurd ambiguous (unambiguous right isRight left isLeft)

variable {before after : List MappingCall}

/-- A held mapping with the id of one that is upserted is that one. -/
theorem held_eq_of_id_eq
    (split : calls = before ++ after) {request : MappingUpsert}
    (isRequest : request ∈ upserts calls) {row : RedactedIdpRoleMapping}
    (held : row ∈ (afterCalls connections before).mappings.rows)
    (same : row.id = request.mapping.id) : row = request.mapping := by
  obtain ⟨other, member, rfl⟩ := held_upserted held
  rw [eq_of_id_eq unambiguous (upserts_mono split member) isRequest same]

theorem upserted_of_unambiguous {moment : SsoMoment} {request : MappingUpsert}
    (split : calls = before ++ .upsert moment request :: after)
    (safe : request.hasSafeIds) (connected :
      (connections.find (request.accountId, request.connectionId)).isSome)
    (healthy : moment.fault .upsertMapping = none) :
    let result := upsertIdpRoleMapping moment request.mapping
      (afterCalls connections before)
    result.1 = .ok request.mapping ∧
      request.mapping ∈ result.2.mappings.rows := by
  have isRequest : request ∈ upserts calls :=
    mem_upserts.mpr
      ⟨⟨moment, split ▸ List.mem_append_right _ List.mem_cons_self⟩, safe⟩
  rw [upsertIdpRoleMapping, checkMapping_ok_iff.mpr ⟨safe, healthy⟩]
  simp only [insertMapping]
  by_cases isHeld : (afterCalls connections before).mappings.rows.any
      fun held => held.columns = request.mapping.columns
  · rw [if_pos isHeld]
    obtain ⟨row, held, sameColumns⟩ := List.any_eq_true.mp isHeld
    obtain ⟨other, -, rfl⟩ := held_upserted held
    have same : other.mapping = request.mapping := by
      simp only [RedactedIdpRoleMapping.columns, MappingUpsert.mapping,
        mappingOf, decide_eq_true_eq, Prod.mk.injEq] at sameColumns
      obtain ⟨account, connection, key, value, role⟩ := sameColumns
      rw [MappingUpsert.mapping, MappingUpsert.mapping, account, connection,
        key, value, role]
    exact ⟨rfl, same ▸ held⟩
  · rw [if_neg isHeld]
    have idFree : (afterCalls connections before).mappings.find
        request.mapping.id = none := by
      refine Keyed.find_eq_none.mpr fun row held same => isHeld ?_
      rw [held_eq_of_id_eq unambiguous split isRequest held same] at held
      exact List.any_eq_true.mpr ⟨_, held, by simp⟩
    have known : (afterCalls connections before).connections.find
        (request.mapping.accountId, request.mapping.connectionId) ≠ none := by
      rw [afterCalls_connections]
      exact Option.isSome_iff_ne_none.mp connected
    rw [idFree, if_neg (by simp), if_neg (by simpa using known)]
    exact ⟨rfl, Keyed.mem_put.mpr (Or.inl rfl)⟩

theorem deleted_of_unambiguous {moment : SsoMoment} {request : MappingUpsert}
    (split : calls = before ++ after)
    (returned : Returned connections before request)
    (healthy : moment.fault .deleteMapping = none) :
    let held := (afterCalls connections before).mappings.rows
    let result := deleteIdpRoleMapping moment request.accountId
      request.mapping.id (afterCalls connections before)
    result.1 = .ok (decide (request.mapping ∈ held)) ∧
      ∀ row, row ∈ result.2.mappings.rows ↔
        row ∈ held ∧ row ≠ request.mapping := by
  have isRequest : request ∈ upserts calls :=
    upserts_mono split returned.upserted
  have safe : isSafeId request.accountId := by
    have safe := (mem_upserts.mp isRequest).2
    rw [MappingUpsert.hasSafeIds, Bool.and_eq_true, Bool.and_eq_true] at safe
    exact safe.1.1
  have named : ∀ row ∈ (afterCalls connections before).mappings.rows,
      isNamed request.accountId request.mapping.id row ↔
        row = request.mapping := by
    intro row held
    rw [isNamed, decide_eq_true_iff]
    constructor
    · rintro ⟨-, same⟩
      exact held_eq_of_id_eq unambiguous split isRequest held same
    · rintro rfl
      exact ⟨rfl, rfl⟩
  rw [deleteIdpRoleMapping, checkDelete_ok_iff.mpr ⟨safe, healthy⟩]
  refine ⟨congrArg Except.ok ?_, fun row => ?_⟩
  · rw [Bool.eq_iff_iff, List.any_eq_true, decide_eq_true_iff]
    constructor
    · rintro ⟨row, held, isNamed⟩
      exact (named row held).mp isNamed ▸ held
    · intro held
      exact ⟨_, held, (named _ held).mpr rfl⟩
  · rw [Keyed.mem_keep, Bool.not_eq_true']
    refine and_congr_right fun held => ?_
    rw [Ne, ← named row held, Bool.not_eq_true]

end

end

/--
In a run of upserts and deletions the ids identify the mappings exactly when
no two of the upserts are ambiguous.
-/
theorem idsIdentify_iff (connections : Keyed IdpConnection.key)
    (calls : List MappingCall) :
    IdsIdentify connections calls ↔
      ∀ left ∈ upserts calls, ∀ right ∈ upserts calls,
        ¬ Ambiguous left right := by
  constructor
  · intro identify left isLeft right isRight ambiguous
    refine identify.distinct left isLeft right isRight ambiguous.accountId
      ambiguous.ne ?_
    exact (id_eq_iff (mem_upserts.mp isLeft).2
      (mem_upserts.mp isRight).2).mpr (Or.inr (Or.inl ambiguous))
  · intro unambiguous
    refine ⟨?_, ?_, ?_⟩
    · intro left isLeft right isRight _ differ same
      exact differ (eq_of_id_eq unambiguous isLeft isRight same)
    · intro before moment request after split safe connected healthy
      exact upserted_of_unambiguous unambiguous split safe connected healthy
    · intro before moment request after split returned healthy
      exact deleted_of_unambiguous unambiguous split returned healthy

/-- Two claims that read `groups:eu:admins` once they are joined. -/
def joinedClaims : List MappingCall :=
  [.upsert ⟨fun _ => none, fun _ _ _ _ => none⟩
      ⟨"acme", "okta", "groups", "eu:admins", "ADMIN"⟩,
    .upsert ⟨fun _ => none, fun _ _ _ _ => none⟩
      ⟨"acme", "okta", "groups:eu", "admins", "ADMIN"⟩]

def oktaConnections : Keyed IdpConnection.key :=
  Keyed.empty.put
    { accountId := "acme"
      id := "okta"
      protocol := .oidc
      enabled := true
      issuer := "https://acme.okta.test"
      clientId := "client"
      clientSecretHandle := none
      allowedDomains := ["acme.com"]
      scopes := "openid email profile" }

/-- The second upsert fails, since the first one holds its id. -/
theorem joinedClaims_confused :
    ¬ IdsIdentify oktaConnections joinedClaims := by
  intro identify
  have second := identify.upserted
    [.upsert ⟨fun _ => none, fun _ _ _ _ => none⟩
      ⟨"acme", "okta", "groups", "eu:admins", "ADMIN"⟩]
    ⟨fun _ => none, fun _ _ _ _ => none⟩
    ⟨"acme", "okta", "groups:eu", "admins", "ADMIN"⟩ [] rfl
    (by decide) rfl rfl
  cases second.1

end OpenSnow.Auth.Sso
