import OpenSnow.Ingest.Buffer
import OpenSnow.Rust.Json

/-!
# The directories of tenants

The tenant of a request is whatever its header or its token says.  The ingest
buffer keeps rows by tenant, and a flush joins the tenant into the path of the
directory that it writes to.  The files of a tenant stay in a directory of its
own when the tenant is a name that a directory can have.
-/

namespace OpenSnow.Server

open Catalog.Tenants (defaultTenant)
open Ingest.Buffer
open Ingest.Registration (isValidIdent)
open Rust
open Rust.Path

/-! ## The tenant of a request -/

/-- `HeaderValue::to_str`, on the bytes of a header. -/
def headerText (value : List Char) : Option (List Char) :=
  if value.all fun ch => (32 ≤ ch.toNat && ch.toNat < 127) || ch == '\t' then
    some value
  else none

/-- The trimmed text of a header, unless it is blank. -/
def requestedAccount (value : Option (List Char)) : Option String :=
  match value.bind headerText with
  | none => none
  | some text =>
      let trimmed := Text.trim text
      if trimmed = [] then none else some (String.ofList trimmed)

/-- The headers of a request that name an account. -/
structure AccountHeaders where
  /-- `X-Tenant-ID`. -/
  tenant : Option (List Char)
  /-- `X-Account-ID`. -/
  account : Option (List Char)

def parseHeader (headers : AccountHeaders) : Option String :=
  requestedAccount headers.tenant

/-- Who sends a request: without a token, or with a valid one. -/
inductive Caller where
  | anonymous (headers : AccountHeaders)
  | bearer (tenantId : String) (headers : AccountHeaders)

/--
The tenant that a request is bound to.  With a token it is the token's, and a
header that asks for another is answered with a status.
-/
def Caller.tenant : Caller → Except Nat String
  | .anonymous headers => .ok ((parseHeader headers).getD defaultTenant)
  | .bearer tenantId headers =>
      if [headers.tenant, headers.account].any fun value =>
          (requestedAccount value).any fun requested => requested != tenantId
      then .error 403
      else .ok tenantId

/-! ## Batches -/

structure IngestBatchRequest where
  table : String
  rows : List Json.Value

structure IngestReceipt where
  tenantId : String
  table : String
  rowsReceived : Nat
  bufferedRows : Nat
deriving DecidableEq

def isObject : Json.Value → Bool
  | .object _ => true
  | _ => false

/-- `ingest_batch`: a message, or the receipt and the new buffer. -/
def ingestBatch (state : BufferState Json.Value) (tenant : String)
    (req : IngestBatchRequest) :
    Except String (IngestReceipt × BufferState Json.Value) :=
  if ¬ isValidIdent req.table then .error "invalid table name"
  else if req.rows.isEmpty then .error "rows must be non-empty"
  else if req.rows.any fun row => !isObject row then
    .error "every row must be a JSON object"
  else
    let pushed := state.push (tenant, req.table) req.rows
    .ok (⟨tenant, req.table, req.rows.length, pushed.2⟩, pushed.1)

/-- The caller's request puts these rows under this key. -/
def Caller.Ingests (caller : Caller) (batch : Key × List Json.Value) : Prop :=
  ∃ tenant state receipt,
    caller.tenant = .ok tenant ∧
      ingestBatch state tenant ⟨batch.1.2, batch.2⟩ =
        .ok (receipt, (state.push batch.1 batch.2).1) ∧
      batch.1.1 = tenant

/-! ## What is written where -/

section

variable {Row : Type*} {Dir : Type*}

/-- The descriptors of the files that were written. -/
def written (world : World Row Dir) : List FlushedTable :=
  world.reported ++ world.flushes.flatMap Flush.flushed

/-- Every file that was written is in the directory of its own tenant. -/
structure Confined (warehouse : String) (current : Directory)
    (world : World Row Directory) : Prop where
  /-- Every file has a descriptor. -/
  described : ∀ dir stamp, world.files dir stamp ≠ none →
    ∃ table ∈ written world,
      current.resolve table.parquetPath.dir = dir ∧
        table.parquetPath.stamp = stamp
  /-- Files are under the warehouse's directory of their tenant. -/
  under : ∀ table ∈ written world,
    (current.resolve warehouse).names ++ [table.tenantId] <+:
      (current.resolve table.parquetPath.dir).names
  /-- Files of different tenants are in different directories. -/
  apart : ∀ table ∈ written world, ∀ other ∈ written world,
    table.tenantId ≠ other.tenantId →
      current.resolve table.parquetPath.dir ≠
        current.resolve other.parquetPath.dir

/-- The requests of two callers leave every file where it belongs. -/
def TenantsConfined (warehouse : String) (current : Directory)
    (first second : Caller) : Prop :=
  ∀ world : World Json.Value Directory,
    Reachable warehouse current.resolve world →
      (∀ batch ∈ world.pushed,
        first.Ingests batch ∨ second.Ingests batch) →
        Confined warehouse current world

/-- The tenant that the caller's requests are bound to is a proper name. -/
def Caller.Named (caller : Caller) : Prop :=
  ∀ tenant, caller.tenant = .ok tenant → ProperName tenant

/-! ## Descriptors -/

/-- Everything in the buffer, in a flush or in a file was pushed. -/
structure Traced [DecidableEq Dir] (warehouse : String)
    (resolve : String → Dir) (world : World Row Dir) : Prop where
  buffered : ∀ entry ∈ world.state.buffers,
    entry.1 ∈ world.pushed.map Prod.fst
  drained : ∀ flush ∈ world.flushes, ∀ entry ∈ flush.drained,
    entry.1 ∈ world.pushed.map Prod.fst
  placed : ∀ table ∈ written world,
    table.key ∈ world.pushed.map Prod.fst ∧
      table.parquetPath.dir = tableDir warehouse table.key
  described : ∀ dir stamp, world.files dir stamp ≠ none →
    ∃ table ∈ written world,
      resolve table.parquetPath.dir = dir ∧
        table.parquetPath.stamp = stamp

theorem key_of_mem_extendEntry {key : Key} {rows : List Row}
    {entries : List (Key × List Row)} {entry : Key × List Row}
    (member : entry ∈ extendEntry key rows entries) :
    entry.1 = key ∨ ∃ old ∈ entries, old.1 = entry.1 := by
  induction entries with
  | nil =>
      rw [List.mem_singleton.mp member]
      exact Or.inl rfl
  | cons first rest ih =>
      rw [extendEntry] at member
      split_ifs at member with same
      · rcases List.mem_cons.mp member with rfl | inRest
        · exact Or.inl rfl
        · exact Or.inr ⟨entry, List.mem_cons_of_mem _ inRest, rfl⟩
      · rcases List.mem_cons.mp member with rfl | inRest
        · exact Or.inr ⟨_, List.mem_cons_self, rfl⟩
        · rcases ih inRest with isKey | ⟨old, oldMember, isOld⟩
          · exact Or.inl isKey
          · exact Or.inr ⟨old, List.mem_cons_of_mem _ oldMember, isOld⟩

variable [DecidableEq Dir] {warehouse : String} {resolve : String → Dir}

theorem Traced.initial :
    Traced warehouse resolve (.initial : World Row Dir) where
  buffered _ := nofun
  drained _ := nofun
  placed _ := nofun
  described _ _ present := absurd rfl present

variable {world : World Row Dir} {before after : List (Flush Row)}

/-- What the flushes hold when one of them has gone on. -/
theorem Traced.drained_next (traced : Traced warehouse resolve world)
    {flush next : Flush Row}
    (running : world.flushes = before ++ flush :: after)
    (fewer : ∀ entry ∈ next.drained, entry ∈ flush.drained) :
    ∀ other ∈ before ++ next :: after, ∀ entry ∈ other.drained,
      entry.1 ∈ world.pushed.map Prod.fst := by
  have held := traced.drained
  rw [running] at held
  intro other member entry inOther
  rcases List.mem_append.mp member with inBefore | inRest
  · exact held other (List.mem_append_left _ inBefore) entry inOther
  · rcases List.mem_cons.mp inRest with rfl | inAfter
    · exact
        held flush (List.mem_append_right _ List.mem_cons_self) entry
          (fewer entry inOther)
    · exact
        held other
          (List.mem_append_right _ (List.mem_cons_of_mem _ inAfter)) entry
          inOther

variable {flush : Flush Row}

section

variable (traced : Traced warehouse resolve world)

include traced

theorem Traced.next_pushed {key : Key}
    {rows : List Row} {rest : List (Key × List Row)}
    (running : world.flushes = before ++ flush :: after)
    (isNext : flush.drained = (key, rows) :: rest) :
    key ∈ world.pushed.map Prod.fst := by
  refine traced.drained flush ?_ (key, rows) ?_
  · rw [running]
    exact List.mem_append_right _ List.mem_cons_self
  · rw [isNext]
    exact List.mem_cons_self

/-- The running flushes are the same, but for one that has gone on. -/
theorem Traced.of_flush {flush next : Flush Row} {state : BufferState Row}
    (running : world.flushes = before ++ flush :: after)
    (buffered : ∀ entry ∈ state.buffers,
      entry.1 ∈ world.pushed.map Prod.fst)
    (drained : ∀ entry ∈ next.drained, entry ∈ flush.drained)
    (flushed : next.flushed = flush.flushed) :
    Traced warehouse resolve
      { world with state := state, flushes := before ++ next :: after } := by
  have same : ∀ table,
      table ∈ written
          { world with state := state, flushes := before ++ next :: after } ↔
        table ∈ written world := by
    intro table
    rw [written, written, running, List.flatMap_append, List.flatMap_append,
      List.flatMap_cons, List.flatMap_cons, flushed]
  exact
    { buffered := buffered
      drained := traced.drained_next running drained
      placed := fun table member => traced.placed table ((same table).mp member)
      described := by
        intro dir stamp present
        obtain ⟨table, member, where_⟩ := traced.described dir stamp present
        exact ⟨table, (same table).mpr member, where_⟩ }

theorem Traced.push (key : Key) (rows : List Row) :
    Traced warehouse resolve
      { world with
        state := (world.state.push key rows).1
        pushed := (key, rows) :: world.pushed } := by
  have older : ∀ {other : Key},
      other ∈ world.pushed.map Prod.fst →
        other ∈ ((key, rows) :: world.pushed).map Prod.fst :=
    fun member => List.mem_cons_of_mem _ member
  exact
    { buffered := by
        intro entry member
        rcases key_of_mem_extendEntry member with isKey |
          ⟨old, oldMember, isOld⟩
        · rw [isKey]
          exact List.mem_cons_self
        · exact older (isOld ▸ traced.buffered old oldMember)
      drained := fun flush member entry held =>
        older (traced.drained flush member entry held)
      placed := fun table member =>
        (traced.placed table member).imp_left older
      described := traced.described }

/-- A file is written with its descriptor. -/
theorem Traced.write {key : Key}
    {rows : List Row} {rest : List (Key × List Row)}
    (running : world.flushes = before ++ flush :: after)
    (isNext : flush.drained = (key, rows) :: rest) (stamp : String) :
    Traced warehouse resolve
      { world with
        files :=
          writeFile resolve world.files ⟨tableDir warehouse key, stamp⟩ rows
        flushes :=
          before ++
            { drained := rest
              flushed :=
                flush.flushed ++ [flushedTable warehouse key stamp rows]
              totalRows := flush.totalRows + rows.length } :: after } := by
  have same : ∀ table,
      table ∈ written
          { world with
            files :=
              writeFile resolve world.files ⟨tableDir warehouse key, stamp⟩
                rows
            flushes :=
              before ++
                { drained := rest
                  flushed :=
                    flush.flushed ++ [flushedTable warehouse key stamp rows]
                  totalRows := flush.totalRows + rows.length } :: after } ↔
        table ∈ written world ∨
          table = flushedTable warehouse key stamp rows := by
    intro table
    simp only [written, running, List.flatMap_append, List.flatMap_cons,
      List.mem_append, List.mem_singleton]
    tauto
  exact
    { buffered := traced.buffered
      drained := by
        apply traced.drained_next running
        intro entry held
        rw [isNext]
        exact List.mem_cons_of_mem _ held
      placed := by
        intro table member
        rcases (same table).mp member with old | rfl
        · exact traced.placed table old
        · exact ⟨traced.next_pushed running isNext, rfl⟩
      described := by
        intro dir fileStamp present
        change writeFile resolve world.files _ rows dir fileStamp ≠ none
          at present
        rw [writeFile] at present
        split_ifs at present with own
        · exact ⟨_, (same _).mpr (Or.inr rfl), own.1.symm, own.2.symm⟩
        · obtain ⟨table, member, where_⟩ :=
            traced.described dir fileStamp present
          exact ⟨table, (same table).mpr (Or.inl member), where_⟩ }

/-- The descriptors of a flush are reported when it is over. -/
theorem Traced.finish {state : BufferState Row}
    (running : world.flushes = before ++ flush :: after)
    (buffers : state.buffers = world.state.buffers) :
    Traced warehouse resolve
      { world with
        state := state
        flushes := before ++ after
        reported := world.reported ++ flush.flushed } := by
  have same : ∀ table,
      table ∈ written
          { world with
            state := state
            flushes := before ++ after
            reported := world.reported ++ flush.flushed } ↔
        table ∈ written world := by
    intro table
    simp only [written, running, List.flatMap_append, List.flatMap_cons,
      List.mem_append]
    tauto
  exact
    { buffered := fun entry member =>
        traced.buffered entry (buffers ▸ member)
      drained := by
        intro other member entry held
        refine traced.drained other ?_ entry held
        rw [running]
        rcases List.mem_append.mp member with inBefore | inAfter
        · exact List.mem_append_left _ inBefore
        · exact List.mem_append_right _ (List.mem_cons_of_mem _ inAfter)
      placed := fun table member =>
        traced.placed table ((same table).mp member)
      described := by
        intro dir stamp present
        obtain ⟨table, member, where_⟩ := traced.described dir stamp present
        exact ⟨table, (same table).mpr member, where_⟩ }

end

theorem Traced.step {world next : World Row Dir}
    (traced : Traced warehouse resolve world)
    (step : Step warehouse resolve world next) :
    Traced warehouse resolve next := by
  cases step with
  | push key rows => exact traced.push key rows
  | drain drained anyOrder =>
      exact
        { buffered := fun _ => nofun
          drained := by
            intro flush member entry held
            rcases List.mem_cons.mp member with rfl | inRest
            · exact traced.buffered entry (anyOrder.mem_iff.mp held)
            · exact traced.drained flush inRest entry held
          placed := traced.placed
          described := traced.described }
  | skipEmpty before after flush key rest running isNext =>
      apply traced.of_flush running traced.buffered
      · intro entry held
        rw [isNext]
        exact List.mem_cons_of_mem _ held
      · rfl
  | rebuffer before after flush key rows rest running isNext nonempty =>
      apply traced.of_flush running
      · intro entry member
        rcases key_of_mem_extendEntry member with isKey |
          ⟨old, oldMember, isOld⟩
        · exact isKey ▸ traced.next_pushed running isNext
        · exact isOld ▸ traced.buffered old oldMember
      · intro entry held
        rw [isNext]
        exact List.mem_cons_of_mem _ held
      · rfl
  | written before after flush key rows rest stamp running isNext =>
      exact traced.write running isNext stamp
  | finish before after flush now running =>
      exact traced.finish running rfl

theorem traced_of_reachable (reachable : Reachable warehouse resolve world) :
    Traced warehouse resolve world := by
  induction reachable with
  | refl => exact .initial
  | tail _ step ih => exact ih.step step

end

/-! ## Directories of keys -/

section

variable {warehouse : String} {current : Directory}

theorem properName_of_isValidIdent {table : String}
    (valid : isValidIdent table = true) : ProperName table := by
  unfold isValidIdent at valid
  rw [Bool.and_eq_true, Bool.and_eq_true] at valid
  obtain ⟨⟨nonempty, word⟩, -⟩ := valid
  have characters : ∀ ch ∈ table.toList,
      (ch.isAlphanum || ch == '_') = true := List.all_eq_true.mp word
  refine ⟨?_, ?_, ?_, ?_⟩
  · rintro rfl
    exact absurd nonempty (by decide)
  · rintro rfl
    exact absurd (characters '.' (by decide)) (by decide)
  · rintro rfl
    exact absurd (characters '.' (by decide)) (by decide)
  · intro slash
    exact absurd (characters '/' slash) (by decide)

/-- Whatever the tenant, the directory of a key ends in two names. -/
theorem names_tableDir (warehouse : String) (current : Directory)
    (tenant : String) {table : String} (valid : isValidIdent table = true) :
    (current.resolve (tableDir warehouse (tenant, table))).names =
      (current.resolve (joinPath warehouse tenant)).names ++
        ["ingest", table] := by
  have ingest : ProperName "ingest" := by decide
  have isTable := properName_of_isValidIdent valid
  rw [tableDir,
    Directory.resolve_joinPath _ _ (Directory.relative_of_proper isTable),
    Directory.walk_of_proper isTable,
    Directory.resolve_joinPath _ _ (Directory.relative_of_proper ingest),
    Directory.walk_of_proper ingest, List.append_assoc]
  rfl

theorem names_tableDir_of_proper (warehouse : String) (current : Directory)
    {tenant table : String} (isProper : ProperName tenant)
    (valid : isValidIdent table = true) :
    (current.resolve (tableDir warehouse (tenant, table))).names =
      (current.resolve warehouse).names ++ [tenant, "ingest", table] := by
  rw [names_tableDir warehouse current tenant valid,
    Directory.resolve_joinPath _ _ (Directory.relative_of_proper isProper),
    Directory.walk_of_proper isProper, List.append_assoc]
  rfl

/-! ## Callers -/

theorem Caller.Ingests.key {caller : Caller}
    {batch : Key × List Json.Value} (ingests : caller.Ingests batch) :
    caller.tenant = .ok batch.1.1 ∧ isValidIdent batch.1.2 = true := by
  obtain ⟨tenant, state, receipt, bound, accepted, isTenant⟩ := ingests
  refine ⟨isTenant ▸ bound, ?_⟩
  unfold ingestBatch at accepted
  by_contra invalid
  rw [if_pos invalid] at accepted
  cases accepted

/-- A batch of one empty object. -/
def sampleRows : List Json.Value := [.object []]

theorem Caller.ingests_sample {caller : Caller} {tenant : String}
    (bound : caller.tenant = .ok tenant) :
    caller.Ingests ((tenant, "t"), sampleRows) := by
  refine ⟨tenant, .default, ⟨tenant, "t", 1, 1⟩, bound, ?_, rfl⟩
  have valid : isValidIdent "t" = true := by decide
  have nonempty : sampleRows.isEmpty = false := rfl
  have objects : (sampleRows.any fun row => !isObject row) = false := rfl
  rw [ingestBatch, if_neg (not_not.mpr valid), nonempty,
    if_neg Bool.false_ne_true, objects, if_neg Bool.false_ne_true]
  rfl

/-- One batch of the tenant was pushed and written. -/
def sampleWorld (warehouse : String) (current : Directory)
    (tenant : String) : World Json.Value Directory where
  state := .default
  flushes :=
    [⟨[], [flushedTable warehouse (tenant, "t") "s" sampleRows], 1⟩]
  files :=
    writeFile current.resolve (fun _ _ => none)
      ⟨tableDir warehouse (tenant, "t"), "s"⟩ sampleRows
  pushed := [((tenant, "t"), sampleRows)]
  reported := []

theorem reachable_sampleWorld (warehouse : String) (current : Directory)
    (tenant : String) :
    Reachable warehouse current.resolve
      (sampleWorld warehouse current tenant) := by
  have push : Step warehouse current.resolve .initial
      { (.initial : World Json.Value Directory) with
        state := _
        pushed := [((tenant, "t"), sampleRows)] } :=
    .push .initial (tenant, "t") sampleRows
  have pushed := Relation.ReflTransGen.single push
  have drained := pushed.tail
    (Step.drain _ [((tenant, "t"), sampleRows)] (List.Perm.refl _))
  exact drained.tail
    (Step.written _ [] [] ⟨[((tenant, "t"), sampleRows)], [], 0⟩
      (tenant, "t") sampleRows [] "s" rfl rfl nofun rfl)

/-- A tenant whose files stay in its directory is a proper name. -/
theorem TenantsConfined.named {first second : Caller}
    (confined : TenantsConfined warehouse current first second) :
    first.Named ∧ second.Named := by
  have named : ∀ caller : Caller, caller = first ∨ caller = second →
      caller.Named := by
    intro caller either tenant bound
    have ingests := Caller.ingests_sample bound
    have placed := confined _ (reachable_sampleWorld warehouse current tenant)
      (by
        intro batch member
        rw [List.mem_singleton.mp member]
        rcases either with rfl | rfl
        · exact Or.inl ingests
        · exact Or.inr ingests)
    have inside := placed.under
      (flushedTable warehouse (tenant, "t") "s" sampleRows)
      (List.mem_singleton.mpr rfl)
    have member : tenant ∈
        (current.resolve (tableDir warehouse (tenant, "t"))).names :=
      inside.subset
        (List.mem_append_right _ (List.mem_singleton.mpr rfl))
    exact (current.resolve _).proper tenant member
  exact ⟨named first (Or.inl rfl), named second (Or.inr rfl)⟩

end

/--
The files that two callers' batches are flushed to stay in the directories of
their tenants, and in different ones, exactly if both tenants are names that a
directory can have.
-/
theorem tenantsConfined_iff (warehouse : String) (current : Directory)
    (first second : Caller) :
    TenantsConfined warehouse current first second ↔
      first.Named ∧ second.Named := by
  constructor
  · exact TenantsConfined.named
  · rintro ⟨firstNamed, secondNamed⟩ world reachable ingested
    have traced := traced_of_reachable reachable
    have keys : ∀ table ∈ written world,
        ProperName table.tenantId ∧ isValidIdent table.tableName = true ∧
          table.parquetPath.dir =
            tableDir warehouse (table.tenantId, table.tableName) := by
      intro table member
      obtain ⟨pushed, place⟩ := traced.placed table member
      obtain ⟨batch, batchMember, isKey⟩ := List.mem_map.mp pushed
      have key : batch.1 = (table.tenantId, table.tableName) := isKey
      rcases ingested batch batchMember with ingests | ingests
      · obtain ⟨bound, valid⟩ := ingests.key
        rw [key] at bound valid
        exact ⟨firstNamed _ bound, valid, place⟩
      · obtain ⟨bound, valid⟩ := ingests.key
        rw [key] at bound valid
        exact ⟨secondNamed _ bound, valid, place⟩
    have names : ∀ table ∈ written world,
        (current.resolve table.parquetPath.dir).names =
          (current.resolve warehouse).names ++
            [table.tenantId, "ingest", table.tableName] := by
      intro table member
      obtain ⟨isProper, valid, place⟩ := keys table member
      rw [place]
      exact names_tableDir_of_proper warehouse current isProper valid
    exact
      { described := traced.described
        under := by
          intro table member
          rw [names table member]
          exact ⟨["ingest", table.tableName], List.append_assoc _ _ _⟩
        apart := by
          intro table member other otherMember different same
          have equal := congrArg Directory.names same
          rw [names table member, names other otherMember,
            List.append_cancel_left_eq, List.cons.injEq] at equal
          exact different equal.1 }

/-- Headers that name the parent directory, and another tenant's directory. -/
theorem header_leaves_directory :
    let upwards := Caller.anonymous ⟨some "../other".toList, none⟩
    let acme := Caller.anonymous ⟨some "acme".toList, none⟩
    let dotted := Caller.anonymous ⟨some "./acme".toList, none⟩
    (upwards.tenant.toOption = some "../other" ∧
        dotted.tenant.toOption = some "./acme") ∧
      (Directory.root.resolve
            (tableDir "/warehouse" ("../other", "t"))).names =
          ["other", "ingest", "t"] ∧
        Directory.root.resolve (tableDir "/warehouse" ("./acme", "t")) =
            Directory.root.resolve (tableDir "/warehouse" ("acme", "t")) ∧
          ¬ TenantsConfined "/warehouse" .root upwards acme ∧
            ¬ TenantsConfined "/warehouse" .root dotted acme := by
  intro upwards acme dotted
  refine ⟨⟨by decide, by decide⟩, by decide, by decide, ?_, ?_⟩
  · intro confined
    exact absurd (confined.named.1 "../other" rfl) (by decide)
  · intro confined
    exact absurd (confined.named.1 "./acme" rfl) (by decide)

end OpenSnow.Server
