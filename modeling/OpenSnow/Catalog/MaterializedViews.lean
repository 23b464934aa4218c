import OpenSnow.Catalog.Tenants
import OpenSnow.Foundation.Columns
import OpenSnow.Foundation.Keyed
import OpenSnow.Foundation.Runs

/-!
# Materialized views in the catalog

The `materialized_views` table and the statements on it, each for a tenant.
A catalog file from before multi-tenancy keeps `name` as the primary key of
the table when it is opened: the migration adds the tenant column and a unique
index over tenant and name, but no two tenants can have a view of one name.
What a tenant sees is what it would see of a catalog with its own views alone,
as long as no upsert meets a view of another tenant under its name there.
-/

namespace OpenSnow.Catalog.MaterializedViews

open Catalog.Tenants
open Foundation

/-! ## The table -/

/-- A materialized view as it is read back. -/
structure MaterializedView where
  name : String
  sql : String
  lastRefreshed : String
  parquetPath : String
deriving DecidableEq, Repr

/-- A row of `materialized_views`. -/
structure ViewRow where
  tenantId : String
  view : MaterializedView
deriving DecidableEq, Repr

def ViewRow.name (row : ViewRow) : String :=
  row.view.name

/-- The conflict target of the upsert. -/
def ViewRow.key (row : ViewRow) : String × String :=
  (row.tenantId, row.name)

/-- The table, with the primary key that it was created with. -/
structure ViewTable where
  views : Keyed ViewRow.key
  /-- `name TEXT PRIMARY KEY`, as in the files of old versions. -/
  nameIsKey : Bool
  namesDistinct : nameIsKey = true → (views.rows.map ViewRow.name).Nodup

/-- The table of a catalog file before it is opened. -/
inductive CatalogFile where
  /-- There is no such table. -/
  | fresh
  /-- The table has no column `tenant_id`. -/
  | legacy (views : Keyed MaterializedView.name)
  /-- The file was opened before. -/
  | migrated (table : ViewTable)

def ofDefaultTenant (view : MaterializedView) : ViewRow where
  tenantId := defaultTenant
  view := view

/-- What the migration makes of a legacy table: its views are the default's. -/
def backfill (views : Keyed MaterializedView.name) : ViewTable where
  views :=
    { rows := views.rows.map ofDefaultTenant
      distinct := by
        rw [List.map_map]
        apply List.Nodup.of_map Prod.snd
        rw [List.map_map]
        exact views.distinct }
  nameIsKey := true
  namesDistinct := fun _ => by
    rw [List.map_map]
    exact views.distinct

/-- `Catalog::open`, as far as the table is concerned. -/
def openCatalog : CatalogFile → ViewTable
  | .fresh => ⟨.empty, false, nofun⟩
  | .legacy views => backfill views
  | .migrated table => table

/-! ## The statements -/

inductive ViewError where
  /-- "UNIQUE constraint failed: materialized_views.name". -/
  | nameTaken
  /-- "Materialized view '{}' not found in tenant '{}'". -/
  | notFound
deriving DecidableEq, Repr

/--
A write of the row keeps to a primary key over the names: only the row that it
replaces has its name.
-/
def ViewTable.Admits (table : ViewTable) (row : ViewRow) : Prop :=
  table.nameIsKey = true →
    ∀ other ∈ table.views.rows, other.name = row.name → other.key = row.key

instance (table : ViewTable) (row : ViewRow) : Decidable (table.Admits row) :=
  inferInstanceAs (Decidable (_ → _))

/-- The table with a view written for its key. -/
def ViewTable.write (table : ViewTable) (row : ViewRow)
    (admitted : table.Admits row) : ViewTable where
  views := table.views.put row
  nameIsKey := table.nameIsKey
  namesDistinct := fun isKey => by
    cases found : table.views.find row.key with
    | some held =>
        have heldKey : held.key = row.key := Keyed.key_of_find found
        rw [Keyed.map_put_of_held found (congrArg Prod.snd heldKey)]
        exact table.namesDistinct isKey
    | none =>
        rw [Keyed.rows_put_of_absent found, List.map_append,
          List.map_singleton, ← List.concat_eq_append]
        refine (table.namesDistinct isKey).concat ?_
        intro taken
        obtain ⟨other, member, sameName⟩ := List.mem_map.mp taken
        exact Keyed.find_eq_none.mp found other member
          (admitted isKey other member sameName)

/--
`INSERT … ON CONFLICT(tenant_id, name) DO UPDATE`.  Another view under the
name violates the primary key of a legacy table, which is not the conflict
target.
-/
def upsertMaterializedView (table : ViewTable)
    (tenantId name sql parquetPath now : String) :
    Except ViewError ViewTable :=
  let row : ViewRow := ⟨tenantId, name, sql, now, parquetPath⟩
  if admitted : table.Admits row then .ok (table.write row admitted)
  else .error .nameTaken

/-- A row that takes the place of a held one is admitted. -/
theorem ViewTable.admits_of_find {table : ViewTable} {row held : ViewRow}
    (found : table.views.find row.key = some held) : table.Admits row := by
  intro isKey other member sameName
  have heldKey : held.key = row.key := Keyed.key_of_find found
  have heldName : held.name = row.name := congrArg Prod.snd heldKey
  rw [List.inj_on_of_nodup_map (table.namesDistinct isKey) member
    (Keyed.mem_of_find found) (sameName.trans heldName.symm), heldKey]

/-- The row, refreshed at a time. -/
def ViewRow.touched (row : ViewRow) (now : String) : ViewRow :=
  { row with view := { row.view with lastRefreshed := now } }

/-- `UPDATE … SET last_refreshed`; there must be such a row. -/
def touchMaterializedView (table : ViewTable) (tenantId name now : String) :
    Except ViewError ViewTable :=
  match found : table.views.find (tenantId, name) with
  | some held =>
      .ok (table.write (held.touched now) (ViewTable.admits_of_find
        (Keyed.key_of_find found ▸ found)))
  | none => .error .notFound

def getMaterializedView (table : ViewTable) (tenantId name : String) :
    Option MaterializedView :=
  (table.views.find (tenantId, name)).map ViewRow.view

/-- The row belongs to the tenant. -/
def ViewRow.ofTenant (tenantId : String) (row : ViewRow) : Bool :=
  row.tenantId = tenantId

def listMaterializedViews (table : ViewTable) (tenantId : String) :
    List MaterializedView :=
  (orderBy ViewRow.name
    (table.views.rows.filter (ViewRow.ofTenant tenantId))).map ViewRow.view

/-- The table without some of its rows. -/
def ViewTable.keep (table : ViewTable) (kept : ViewRow → Bool) :
    ViewTable where
  views := table.views.keep kept
  nameIsKey := table.nameIsKey
  namesDistinct := fun isKey =>
    (List.filter_sublist.map ViewRow.name).nodup (table.namesDistinct isKey)

/-- Whether there was a row to delete, and the table without it. -/
def deleteMaterializedView (table : ViewTable) (tenantId name : String) :
    Bool × ViewTable :=
  ((table.views.find (tenantId, name)).isSome,
    table.keep fun row => row.key ≠ (tenantId, name))

/-! ## Calls -/

inductive ViewRequest where
  | upsert (name sql parquetPath now : String)
  | touch (name now : String)
  | get (name : String)
  | list
  | delete (name : String)
deriving DecidableEq, Repr

structure ViewCall where
  tenantId : String
  request : ViewRequest
deriving DecidableEq, Repr

inductive ViewReply where
  | done
  | failed (error : ViewError)
  | found (view : Option MaterializedView)
  | listed (views : List MaterializedView)
  | removed (any : Bool)
deriving DecidableEq, Repr

/-- A statement that fails changes nothing. -/
def settle (table : ViewTable) :
    Except ViewError ViewTable → ViewReply × ViewTable
  | .ok after => (.done, after)
  | .error error => (.failed error, table)

def serve (table : ViewTable) (call : ViewCall) : ViewReply × ViewTable :=
  match call.request with
  | .upsert name sql parquetPath now =>
      settle table
        (upsertMaterializedView table call.tenantId name sql parquetPath now)
  | .touch name now =>
      settle table (touchMaterializedView table call.tenantId name now)
  | .get name => (.found (getMaterializedView table call.tenantId name), table)
  | .list => (.listed (listMaterializedViews table call.tenantId), table)
  | .delete name =>
      let deleted := deleteMaterializedView table call.tenantId name
      (.removed deleted.1, deleted.2)

def perform (table : ViewTable) (call : ViewCall) : ViewTable :=
  (serve table call).2

/-- The replies to the calls of one tenant. -/
def replies (tenantId : String) :
    ViewTable → List ViewCall → List ViewReply
  | _, [] => []
  | table, call :: rest =>
      if call.tenantId = tenantId then
        (serve table call).1 :: replies tenantId (perform table call) rest
      else replies tenantId (perform table call) rest

/-- A table with the tenant's own rows alone, and no key over the names. -/
def ViewTable.own (table : ViewTable) (tenantId : String) : ViewTable where
  views := table.views.keep (ViewRow.ofTenant tenantId)
  nameIsKey := false
  namesDistinct := nofun

/-- The calls of one tenant. -/
def callsOf (tenantId : String) (calls : List ViewCall) : List ViewCall :=
  calls.filter fun call => call.tenantId = tenantId

/--
Every tenant sees what it would see if no other tenant had views or made
calls; no upsert fails.
-/
def TenantsSeparate (table : ViewTable) (calls : List ViewCall) : Prop :=
  ∀ tenantId,
    replies tenantId table calls =
        replies tenantId (table.own tenantId) (callsOf tenantId calls) ∧
      .failed .nameTaken ∉ replies tenantId table calls

/--
An upsert into a table whose key is the name meets no view of another tenant
under its name.
-/
def NameUnclaimed (table : ViewTable) (call : ViewCall) : Prop :=
  match call.request with
  | .upsert name _ _ _ =>
      table.nameIsKey = true →
        ∀ row ∈ table.views.rows, row.name = name →
          row.tenantId = call.tenantId
  | _ => True

/-! ## One call -/

theorem ViewTable.ext {left right : ViewTable}
    (rows : left.views.rows = right.views.rows)
    (keys : left.nameIsKey = right.nameIsKey) : left = right := by
  obtain ⟨views, isKey, distinct⟩ := left
  obtain ⟨views', isKey', distinct'⟩ := right
  cases Keyed.ext rows
  cases keys
  rfl

section

variable {table : ViewTable} {tenantId : String}

theorem rows_own (table : ViewTable) (tenantId : String) :
    (table.own tenantId).views.rows =
      table.views.rows.filter (ViewRow.ofTenant tenantId) :=
  rfl

variable {row : ViewRow}

theorem ofTenant_iff :
    row.ofTenant tenantId ↔ row.tenantId = tenantId :=
  decide_eq_true_iff

/-- A tenant finds its own views among all views. -/
theorem find_own (table : ViewTable) (tenantId name : String) :
    (table.own tenantId).views.find (tenantId, name) =
      table.views.find (tenantId, name) := by
  apply Keyed.find_keep
  intro row _ isKey
  exact ofTenant_iff.mpr (congrArg Prod.fst isKey)

theorem own_write (mine : row.tenantId = tenantId)
    (admitted : table.Admits row)
    (ownAdmitted : (table.own tenantId).Admits row) :
    (table.write row admitted).own tenantId =
      (table.own tenantId).write row ownAdmitted := by
  refine ViewTable.ext ?_ rfl
  refine Keyed.filter_putRow_of_wanted (ofTenant_iff.mpr mine) ?_
  intro held _ sameKey
  exact ofTenant_iff.mpr ((congrArg Prod.fst sameKey).trans mine)

theorem own_write_of_ne (differs : row.tenantId ≠ tenantId)
    (admitted : table.Admits row) :
    (table.write row admitted).own tenantId = table.own tenantId := by
  refine ViewTable.ext ?_ rfl
  apply Keyed.filter_put_of_not
  · exact decide_eq_false differs
  · intro held _ sameKey
    exact decide_eq_false fun mine =>
      differs ((congrArg Prod.fst sameKey).symm.trans mine)

theorem own_keep (kept : ViewRow → Bool) :
    (table.keep kept).own tenantId = (table.own tenantId).keep kept := by
  refine ViewTable.ext ?_ rfl
  change List.filter _ (List.filter _ _) = List.filter _ (List.filter _ _)
  rw [List.filter_filter, List.filter_filter]
  exact List.filter_congr fun row _ => Bool.and_comm _ _

/-- To keep all rows of a tenant leaves its own rows. -/
theorem own_keep_of_forall {kept : ViewRow → Bool}
    (all : ∀ row : ViewRow, row.tenantId = tenantId → kept row) :
    (table.keep kept).own tenantId = table.own tenantId := by
  refine ViewTable.ext ?_ rfl
  change List.filter _ (List.filter _ _) = List.filter _ _
  rw [List.filter_filter]
  apply List.filter_congr
  intro row _
  cases mine : row.ofTenant tenantId with
  | true => rw [all row (ofTenant_iff.mp mine)]; rfl
  | false => rfl

theorem admits_own (row : ViewRow) : (table.own tenantId).Admits row := nofun

/-- A name that no other tenant has is admitted. -/
theorem admits_iff {name : String} (named : row.name = name)
    (mine : row.tenantId = tenantId) :
    table.Admits row ↔
      (table.nameIsKey = true →
        ∀ other ∈ table.views.rows, other.name = name →
          other.tenantId = tenantId) := by
  apply imp_congr_right
  intro _
  apply forall₂_congr
  intro other _
  rw [named, ViewRow.key, ViewRow.key, named, mine, Prod.mk.injEq]
  exact imp_congr_right fun sameName => and_iff_left sameName

/-- A touch writes the refreshed row, if there is one. -/
theorem touchMaterializedView_of_find {name now : String} {held : ViewRow}
    (found : table.views.find (tenantId, name) = some held)
    (admitted : table.Admits (held.touched now)) :
    touchMaterializedView table tenantId name now =
      .ok (table.write (held.touched now) admitted) := by
  unfold touchMaterializedView
  split
  · rename_i other alsoFound
    rw [found, Option.some.injEq] at alsoFound
    cases alsoFound
    rfl
  · rename_i missing
    rw [found] at missing
    cases missing

theorem touchMaterializedView_of_none {name now : String}
    (missing : table.views.find (tenantId, name) = none) :
    touchMaterializedView table tenantId name now = .error .notFound := by
  unfold touchMaterializedView
  split
  · rename_i other found
    rw [missing] at found
    cases found
  · rfl

variable {call : ViewCall}

/-- A call of another tenant leaves the tenant's own rows. -/
theorem own_perform_of_ne (other : call.tenantId ≠ tenantId) :
    (perform table call).own tenantId = table.own tenantId := by
  obtain ⟨caller, request⟩ := call
  dsimp only at other
  cases request with
  | upsert name sql parquetPath now =>
      simp only [perform, serve, upsertMaterializedView]
      split_ifs with admitted
      · exact own_write_of_ne other admitted
      · rfl
  | touch name now =>
      simp only [perform, serve]
      cases found : table.views.find (caller, name) with
      | none =>
          rw [touchMaterializedView_of_none found]
          rfl
      | some held =>
          have heldKey : held.key = (caller, name) := Keyed.key_of_find found
          have notMine : (held.touched now).tenantId ≠ tenantId := fun mine =>
            other ((congrArg Prod.fst heldKey).symm.trans mine)
          have admitted : table.Admits (held.touched now) :=
            ViewTable.admits_of_find (heldKey ▸ found)
          rw [touchMaterializedView_of_find found admitted]
          exact own_write_of_ne notMine admitted
  | get name => rfl
  | list => rfl
  | delete name =>
      apply own_keep_of_forall
      intro row mine
      apply decide_eq_true
      intro sameKey
      exact other ((congrArg Prod.fst sameKey).symm.trans mine)

/-- A call of the tenant is served as if there were only its own rows. -/
theorem serve_own (mine : call.tenantId = tenantId)
    (unclaimed : NameUnclaimed table call) :
    serve (table.own tenantId) call =
      ((serve table call).1, (perform table call).own tenantId) := by
  obtain ⟨caller, request⟩ := call
  dsimp only at mine
  subst mine
  cases request with
  | upsert name sql parquetPath now =>
      have admitted : table.Admits ⟨caller, name, sql, now, parquetPath⟩ :=
        (admits_iff rfl rfl).mpr unclaimed
      simp only [perform, serve, upsertMaterializedView, dif_pos admitted,
        dif_pos (admits_own _), settle]
      rw [own_write rfl admitted (admits_own _)]
  | touch name now =>
      have sameFind := find_own table caller name
      simp only [perform, serve]
      cases found : table.views.find (caller, name) with
      | none =>
          rw [touchMaterializedView_of_none found,
            touchMaterializedView_of_none (sameFind.trans found)]
          rfl
      | some held =>
          have heldKey : held.key = (caller, name) := Keyed.key_of_find found
          have admitted : table.Admits (held.touched now) :=
            ViewTable.admits_of_find (heldKey ▸ found)
          have mine : (held.touched now).tenantId = caller :=
            congrArg Prod.fst heldKey
          have written :
              (table.write (held.touched now) admitted).own caller =
                (table.own caller).write (held.touched now)
                  (admits_own _) :=
            own_write mine admitted (admits_own _)
          rw [touchMaterializedView_of_find found admitted,
            touchMaterializedView_of_find (sameFind.trans found)
              (admits_own _), ← written]
          rfl
  | get name =>
      simp only [perform, serve, getMaterializedView, find_own]
  | list =>
      simp only [perform, serve, listMaterializedViews, rows_own,
        List.filter_filter, Bool.and_self]
  | delete name =>
      simp only [perform, serve, deleteMaterializedView, find_own, own_keep]

/-- An upsert fails exactly when the name is another tenant's. -/
theorem serve_ne_nameTaken_iff :
    (serve table call).1 ≠ .failed .nameTaken ↔ NameUnclaimed table call := by
  obtain ⟨caller, request⟩ := call
  cases request with
  | upsert name sql parquetPath now =>
      let row : ViewRow := ⟨caller, name, sql, now, parquetPath⟩
      have unclaimed :
          table.Admits row ↔ NameUnclaimed table
            ⟨caller, .upsert name sql parquetPath now⟩ :=
        admits_iff rfl rfl
      refine Iff.trans ?_ unclaimed
      simp only [serve, upsertMaterializedView]
      split_ifs with admitted
      · exact ⟨fun _ => admitted, fun _ => nofun⟩
      · exact ⟨fun differs => absurd rfl differs, fun is => absurd is admitted⟩
  | touch name now =>
      refine iff_of_true ?_ trivial
      simp only [serve]
      cases found : table.views.find (caller, name) with
      | none => rw [touchMaterializedView_of_none found]; exact nofun
      | some held =>
          have heldKey : held.key = (caller, name) := Keyed.key_of_find found
          rw [touchMaterializedView_of_find found
            (ViewTable.admits_of_find (heldKey ▸ found))]
          exact nofun
  | get name => exact iff_of_true nofun trivial
  | list => exact iff_of_true nofun trivial
  | delete name => exact iff_of_true nofun trivial

/-! ## Runs -/

variable {rest : List ViewCall}

theorem replies_cons_of_ne (other : call.tenantId ≠ tenantId) :
    replies tenantId table (call :: rest) =
      replies tenantId (perform table call) rest := by
  rw [replies, if_neg other]

theorem replies_cons_of_eq (mine : call.tenantId = tenantId) :
    replies tenantId table (call :: rest) =
      (serve table call).1 :: replies tenantId (perform table call) rest := by
  rw [replies, if_pos mine]

theorem callsOf_cons_of_ne (other : call.tenantId ≠ tenantId) :
    callsOf tenantId (call :: rest) = callsOf tenantId rest :=
  List.filter_cons_of_neg (by simpa using other)

theorem callsOf_cons_of_eq (mine : call.tenantId = tenantId) :
    callsOf tenantId (call :: rest) = call :: callsOf tenantId rest :=
  List.filter_cons_of_pos (by simpa using mine)

end

/-- Along a run without claimed names, a tenant sees its own views alone. -/
theorem replies_own (tenantId : String) :
    ∀ {table : ViewTable} {calls : List ViewCall},
      Along perform NameUnclaimed table calls →
        replies tenantId table calls =
          replies tenantId (table.own tenantId) (callsOf tenantId calls)
  | _, [], _ => rfl
  | table, call :: rest, ⟨unclaimed, later⟩ => by
      have following := replies_own tenantId later
      by_cases mine : call.tenantId = tenantId
      · have served := serve_own mine unclaimed
        have after :
            perform (table.own tenantId) call =
              (perform table call).own tenantId := by
          rw [perform, served]
        rw [replies_cons_of_eq mine, callsOf_cons_of_eq mine,
          replies_cons_of_eq mine, following, after, served]
      · rw [replies_cons_of_ne mine, callsOf_cons_of_ne mine, following,
          own_perform_of_ne mine]

/-- No upsert fails exactly when no upsert meets a claimed name. -/
theorem along_unclaimed_iff :
    ∀ {table : ViewTable} {calls : List ViewCall},
      Along perform NameUnclaimed table calls ↔
        ∀ tenantId, .failed .nameTaken ∉ replies tenantId table calls
  | _, [] => iff_of_true trivial fun _ => List.not_mem_nil
  | table, call :: rest => by
      have following :
          Along perform NameUnclaimed (perform table call) rest ↔
            ∀ tenantId, .failed .nameTaken ∉
              replies tenantId (perform table call) rest :=
        along_unclaimed_iff
      rw [Along, following, ← serve_ne_nameTaken_iff]
      constructor
      · rintro ⟨first, later⟩ tenantId
        by_cases mine : call.tenantId = tenantId
        · rw [replies_cons_of_eq mine, List.mem_cons, not_or]
          exact ⟨first.symm, later tenantId⟩
        · rw [replies_cons_of_ne mine]
          exact later tenantId
      · intro never
        constructor
        · have mine := never call.tenantId
          rw [replies_cons_of_eq rfl, List.mem_cons, not_or] at mine
          exact Ne.symm mine.1
        · intro tenantId
          have seen := never tenantId
          by_cases mine : call.tenantId = tenantId
          · rw [replies_cons_of_eq mine, List.mem_cons, not_or] at seen
            exact seen.2
          · rwa [replies_cons_of_ne mine] at seen

/-- No statement changes the primary key of the table. -/
theorem nameIsKey_perform (table : ViewTable) (call : ViewCall) :
    (perform table call).nameIsKey = table.nameIsKey := by
  obtain ⟨caller, request⟩ := call
  cases request with
  | upsert name sql parquetPath now =>
      simp only [perform, serve, upsertMaterializedView]
      split_ifs <;> rfl
  | touch name now =>
      simp only [perform, serve]
      cases found : table.views.find (caller, name) with
      | none =>
          rw [touchMaterializedView_of_none found]
          rfl
      | some held =>
          have heldKey : held.key = (caller, name) := Keyed.key_of_find found
          rw [touchMaterializedView_of_find found
            (ViewTable.admits_of_find (heldKey ▸ found))]
          rfl
  | get name => rfl
  | list => rfl
  | delete name => rfl

/-- A table that was created with the key over tenant and name. -/
theorem along_unclaimed_of_new :
    ∀ {table : ViewTable} (calls : List ViewCall),
      table.nameIsKey = false → Along perform NameUnclaimed table calls
  | _, [], _ => trivial
  | table, call :: rest, new => by
      refine ⟨?_, along_unclaimed_of_new rest
        ((nameIsKey_perform table call).trans new)⟩
      obtain ⟨caller, request⟩ := call
      cases request with
      | upsert name sql parquetPath now =>
          intro isKey
          rw [new] at isKey
          cases isKey
      | touch name now => trivial
      | get name => trivial
      | list => trivial
      | delete name => trivial

/-- In a catalog of this version every tenant sees its own views alone. -/
theorem fresh_replies_own (calls : List ViewCall) (tenantId : String) :
    replies tenantId (openCatalog .fresh) calls =
      replies tenantId ((openCatalog .fresh).own tenantId)
        (callsOf tenantId calls) :=
  replies_own tenantId (along_unclaimed_of_new calls rfl)

/--
Tenants see their own views alone exactly when, in a catalog whose key is
still the name, no upsert meets a view of another tenant under its name.
-/
theorem tenantsSeparate_iff (file : CatalogFile) (calls : List ViewCall) :
    TenantsSeparate (openCatalog file) calls ↔
      Along perform NameUnclaimed (openCatalog file) calls := by
  constructor
  · intro separate
    exact along_unclaimed_iff.mpr fun tenantId => (separate tenantId).2
  · intro unclaimed tenantId
    exact ⟨replies_own tenantId unclaimed,
      along_unclaimed_iff.mp unclaimed tenantId⟩

/-- A catalog of an old version with the view that the upgrade test stores. -/
def legacyFile : CatalogFile :=
  .legacy
    { rows :=
        [⟨"mv_legacy", "SELECT 1", "2026-01-01T00:00:00Z",
          "/warehouse/mv_legacy.parquet"⟩]
      distinct := List.nodup_singleton _ }

/-- After the upgrade no other tenant can have a view of that name. -/
theorem legacy_name_taken :
    ¬ TenantsSeparate (openCatalog legacyFile)
      [⟨"acme", .upsert "mv_legacy" "SELECT 2" "/warehouse/acme.parquet"
        "2026-02-01T00:00:00Z"⟩] := by
  intro separate
  have alone := (separate "acme").1
  revert alone
  decide

end OpenSnow.Catalog.MaterializedViews
