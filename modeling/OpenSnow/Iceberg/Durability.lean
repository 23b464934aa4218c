import OpenSnow.Foundation.DecimalOrder
import OpenSnow.Iceberg.Table

/-!
# Reopening an Iceberg table

Every append writes the whole metadata under the name of its version, and
`open` reads the file whose name comes last in the dictionary.  The dictionary
orders versions by their numerals, so what is reopened depends on how many
appends there were.
-/

namespace OpenSnow.Iceberg.Durability

open Arrow
open Foundation.DecimalOrder
open Foundation.Listing
open Iceberg.Table
open Rust.Path

/-! ## Version names -/

theorem versionFileName_toList (version : Nat) :
    (versionFileName version).toList =
      'v' :: numeral version ('.' :: "metadata.json".toList) := by
  have stem : "v".toList = ['v'] := rfl
  have suffix : ".metadata.json".toList = '.' :: "metadata.json".toList := rfl
  rw [versionFileName, String.toList_append, String.toList_append, stem,
    suffix, Nat.toString_eq_ofList_toDigits, String.toList_ofList]
  rfl

theorem isJson_versionFileName (version : Nat) :
    isJson (versionFileName version) = true := by
  have split :
      versionFileName version =
        ("v" ++ toString version ++ ".metadata") ++ "." ++ "json" := by
    have suffix : ".metadata.json" = ".metadata" ++ ("." ++ "json") := rfl
    rw [versionFileName, suffix]
    simp only [String.append_assoc]
  rw [isJson, split, extension_append]
  · simp
  · simp
  · decide
  · decide

theorem versionFileName_le_iff {left right : Nat} :
    versionFileName left ≤ versionFileName right ↔
      ¬ Precedes (numeral right ('.' :: "metadata.json".toList))
        (numeral left ('.' :: "metadata.json".toList)) := by
  rw [← not_lt, string_lt_iff, versionFileName_toList,
    versionFileName_toList, precedes_cons_iff]
  simp

variable {count : Nat}

/--
The names of the versions `1, …, count` end with that of `count` exactly when
all decimal digits of `count` but the last are nines.
-/
theorem versionFileName_last_iff (positive : 0 < count) :
    (∀ version, 0 < version → version ≤ count →
        versionFileName version ≤ versionFileName count) ↔
      ∃ exponent, count / 10 + 1 = 10 ^ exponent := by
  have dotBelow : ∀ digit < 10, '.' < Nat.digitChar digit := by decide
  simp only [versionFileName_le_iff]
  exact numeral_last_iff dotBelow positive _

/-! ## Runs of appends -/

variable {Doc Row : Type}

/-- The batches of one append and its environment. -/
structure AppendRequest (Doc Row : Type) where
  env : AppendEnv Doc
  batches : List (RecordBatch Row)

/-- Append one request after the other through one handle. -/
def runAppends (codec : MetadataCodec Doc) :
    TableState Doc Row → List (AppendRequest Doc Row) →
      TableState Doc Row × List (Except AppendError Snapshot)
  | state, [] => (state, [])
  | state, request :: rest =>
      let (after, result) :=
        append codec request.env request.batches state
      let (final, results) := runAppends codec after rest
      (final, result :: results)

/-- The call returned a snapshot. -/
def Succeeded (result : Except AppendError Snapshot) : Prop :=
  ∃ snapshot, result = .ok snapshot

instance : DecidablePred Succeeded
  | .ok snapshot => isTrue ⟨snapshot, rfl⟩
  | .error _ => isFalse (by rintro ⟨snapshot, isOk⟩; cases isOk)

/--
After `count` appends from a start directory: the current version holds the
metadata of the handle, and every other file holds something else.
-/
structure Versions (codec : MetadataCodec Doc) (uuid : String)
    (start : Directory Doc) (count : Nat) (state : TableState Doc Row) :
    Prop where
  uuidKept : state.table.metadata.tableUuid = uuid
  length : state.table.metadata.snapshots.length = count
  current : ∃ json,
    state.files.metadata.lookup (versionFileName (max count 1)) = some json ∧
      codec.decode json = some state.table.metadata
  names : ∀ name, name ∈ state.files.metadata ↔
    name ∈ start ∨
      ∃ version, 0 < version ∧ version ≤ max count 1 ∧
        name = versionFileName version
  others : ∀ name json metadata,
    name ≠ versionFileName (max count 1) →
      state.files.metadata.lookup name = some json →
        codec.decode json = some metadata →
          metadata.tableUuid ≠ uuid ∨ metadata.snapshots.length < count

/-- No document in the directory carries the uuid. -/
def FreshUuid (codec : MetadataCodec Doc) (uuid : String)
    (directory : Directory Doc) : Prop :=
  ∀ name json metadata, directory.lookup name = some json →
    codec.decode json = some metadata → metadata.tableUuid ≠ uuid

variable {codec : MetadataCodec Doc}

theorem Versions.create {uuid location : String}
    {schema : Schema} {files created : TableFiles Doc Row}
    {table : IcebergTable} (fresh : FreshUuid codec uuid files.metadata)
    (creates :
      Table.create codec uuid location schema files =
        some (table, created)) :
    Versions codec uuid files.metadata 0 ⟨table, created⟩ := by
  have firstName : "v1.metadata.json" = versionFileName 1 := by decide
  unfold Table.create at creates
  dsimp only at creates
  split at creates
  · cases creates
  · rename_i json encoded
    simp only [Option.some.injEq, Prod.mk.injEq] at creates
    rcases creates with ⟨rfl, rfl⟩
    rw [firstName]
    refine ⟨rfl, rfl, ?_, ?_, ?_⟩
    · exact
        ⟨json, Finmap.lookup_insert _, codec.decode_encode _ _ encoded⟩
    · intro name
      rw [Finmap.mem_insert]
      constructor
      · rintro (isFirst | old)
        · exact Or.inr ⟨1, by decide, by decide, isFirst⟩
        · exact Or.inl old
      · rintro (old | ⟨version, positive, bound, rfl⟩)
        · exact Or.inr old
        · have one : version = 1 := by omega
          exact Or.inl (by rw [one])
    · intro name other metadata notCurrent present decoded
      have old : files.metadata.lookup name = some other := by
        rw [← present]
        exact (Finmap.lookup_insert_of_ne _ notCurrent).symm
      exact Or.inl (fresh name other metadata old decoded)

theorem Versions.append {codec : MetadataCodec Doc} {uuid : String}
    {start : Directory Doc} {count : Nat} {state after : TableState Doc Row}
    {env : AppendEnv Doc} {batches : List (RecordBatch Row)}
    {snapshot : Snapshot}
    (versions : Versions codec uuid start count state)
    (ok :
      Table.append codec env batches state = (after, .ok snapshot)) :
    Versions codec uuid start (count + 1) after := by
  rcases append_ok ok with ⟨metadata, json, encoded, files⟩
  have maximum : max (count + 1) 1 = count + 1 := by omega
  rw [versions.length] at files
  refine ⟨?_, ?_, ?_, ?_, ?_⟩
  · rw [metadata]
    exact versions.uuidKept
  · rw [metadata, TableMetadata.push, List.length_append, versions.length,
      List.length_singleton]
  · refine ⟨json, ?_, ?_⟩
    · rw [files, maximum, Finmap.lookup_insert]
    · rw [metadata]
      exact codec.decode_encode _ _ encoded
  · intro name
    rw [files, Finmap.mem_insert, versions.names, maximum]
    constructor
    · rintro (isNew | old | ⟨version, positive, bound, rfl⟩)
      · exact Or.inr ⟨count + 1, by omega, le_rfl, isNew⟩
      · exact Or.inl old
      · exact Or.inr ⟨version, positive, by omega, rfl⟩
    · rintro (old | ⟨version, positive, bound, rfl⟩)
      · exact Or.inr (Or.inl old)
      · rcases Nat.eq_or_lt_of_le bound with isNew | below
        · exact Or.inl (by rw [isNew])
        · exact Or.inr (Or.inr ⟨version, positive, by omega, rfl⟩)
  · intro name other found notCurrent present decoded
    rw [maximum] at notCurrent
    rw [files, Finmap.lookup_insert_of_ne _ notCurrent] at present
    by_cases wasCurrent : name = versionFileName (max count 1)
    · rcases versions.current with ⟨current, currentPresent, currentDecoded⟩
      rw [wasCurrent, currentPresent, Option.some.injEq] at present
      rw [← present, currentDecoded, Option.some.injEq] at decoded
      rw [← decoded, versions.length]
      exact Or.inr (Nat.lt_succ_self count)
    · rcases versions.others name other found wasCurrent present decoded
        with foreign | shorter
      · exact Or.inl foreign
      · exact Or.inr (shorter.trans (Nat.lt_succ_self count))

variable {start : Directory Doc} {state : TableState Doc Row}

theorem Versions.run {uuid : String} (requests : List (AppendRequest Doc Row))
    (versions : Versions codec uuid start count state) (allOk :
      ∀ result ∈ (runAppends codec state requests).2, Succeeded result) :
    Versions codec uuid start (count + requests.length)
      (runAppends codec state requests).1 := by
  induction requests generalizing count state with
  | nil => exact versions
  | cons request rest ih =>
      rcases appended :
          Table.append codec request.env request.batches state
        with ⟨after, result⟩
      simp only [runAppends, appended, List.mem_cons,
        forall_eq_or_imp] at allOk
      rcases allOk with ⟨⟨snapshot, rfl⟩, restOk⟩
      have final := ih (versions.append appended) restOk
      rw [List.length_cons, ← Nat.add_assoc, Nat.add_right_comm]
      simpa only [runAppends, appended] using final

/-! ## Reopening -/

/-- What is reopened is the metadata of the handle exactly when it is the latest. -/
theorem Versions.reopen_iff {uuid : String}
    (versions : Versions codec uuid start count state) (location : String) :
    (∃ reopened, openTable codec location state.files = .ok reopened ∧
        reopened.metadata = state.table.metadata) ↔
      latest isJson state.files.metadata =
        some (versionFileName (max count 1)) := by
  rcases versions.current with ⟨json, present, decoded⟩
  constructor
  · rintro ⟨reopened, opened, same⟩
    unfold openTable at opened
    split at opened
    · cases opened
    · rename_i name isLatest
      split at opened
      · cases opened
      · rename_i metadata found
        rw [Except.ok.injEq] at opened
        rcases Option.bind_eq_some_iff.mp found
          with ⟨other, otherPresent, otherDecoded⟩
        have isCurrent : metadata = state.table.metadata := by
          rw [← same, ← opened]
        by_contra notLatest
        rw [isLatest, Option.some.injEq] at notLatest
        rcases versions.others name other metadata notLatest otherPresent
            otherDecoded
          with foreign | shorter
        · exact foreign (isCurrent ▸ versions.uuidKept)
        · rw [isCurrent, versions.length] at shorter
          exact Nat.lt_irrefl count shorter
  · intro isLatest
    exact ⟨_, openTable_of_latest isLatest present decoded location, rfl⟩

theorem Versions.latest_iff {uuid : String}
    (versions : Versions codec uuid start count state) :
    latest isJson state.files.metadata =
        some (versionFileName (max count 1)) ↔
      (∃ exponent, count / 10 + 1 = 10 ^ exponent) ∧
        ∀ name ∈ start, isJson name = true →
          name ≤ versionFileName (max count 1) := by
  have maxPositive : 0 < max count 1 := by omega
  have sameTens : max count 1 / 10 = count / 10 := by omega
  have currentPresent :
      versionFileName (max count 1) ∈ state.files.metadata := by
    rw [versions.names]
    exact Or.inr ⟨max count 1, maxPositive, le_rfl, rfl⟩
  rw [latest_eq_some_iff, ← sameTens, ← versionFileName_last_iff maxPositive]
  constructor
  · rintro ⟨-, greatest⟩
    constructor
    · intro version positive bound
      apply greatest
      · rw [versions.names]
        exact Or.inr ⟨version, positive, bound, rfl⟩
      · exact isJson_versionFileName version
    · intro name member named
      exact greatest name ((versions.names name).mpr (Or.inl member)) named
  · rintro ⟨ownBelow, startBelow⟩
    refine ⟨⟨currentPresent, isJson_versionFileName _⟩, ?_⟩
    intro name member named
    rcases (versions.names name).mp member
      with old | ⟨version, positive, bound, rfl⟩
    · exact startBelow name old named
    · exact ownBelow version positive bound

/--
After creating a table and `requests.length` successful appends, reopening
yields the metadata of the appending handle exactly when all decimal digits of
the number of appends but the last are nines and no `.json` file that was
there before sorts behind the newest version.
-/
theorem reopen_after_appends_iff
    {codec : MetadataCodec Doc} {uuid location : String} {schema : Schema}
    {files created : TableFiles Doc Row} {table : IcebergTable}
    (fresh : FreshUuid codec uuid files.metadata)
    (creates :
      create codec uuid location schema files = some (table, created))
    (requests : List (AppendRequest Doc Row))
    (allOk :
      ∀ result ∈ (runAppends codec ⟨table, created⟩ requests).2,
        Succeeded result) :
    let final := (runAppends codec ⟨table, created⟩ requests).1
    (∃ reopened, openTable codec location final.files = .ok reopened ∧
        reopened.metadata = final.table.metadata) ↔
      (∃ exponent, requests.length / 10 + 1 = 10 ^ exponent) ∧
        ∀ name ∈ files.metadata, isJson name = true →
          name ≤ versionFileName (max requests.length 1) := by
  intro final
  have versions := (Versions.create fresh creates).run requests allOk
  rw [Nat.zero_add] at versions
  rw [versions.reopen_iff location, versions.latest_iff]

/-! ## Ten appends -/

/-- Metadata stored as it is. -/
def plainCodec : MetadataCodec TableMetadata where
  encode := some
  decode := some
  decode_encode := by
    intro metadata doc encoded
    exact encoded.symm

/-- An append of one empty batch at a given second, without any fault. -/
def plainRequest (second : Nat) : AppendRequest TableMetadata Unit where
  env :=
    { idMs := 1000 * second
      counter := second
      timestampMs := 1000 * second
      createDataFileFails := false
      openWriterFails := false
      writeBatchFails := fun _ => false
      closeWriterFails := false
      metadataFault := none }
  batches := [⟨[], []⟩]

/-- A table created in empty directories. -/
def plainStart : TableState TableMetadata Unit :=
  let created := create plainCodec "uuid" "/table" [] ⟨∅, ∅⟩
  ⟨(created.get rfl).1, (created.get rfl).2⟩

/-- The tenth version sorts before the ninth, which is what is reopened. -/
theorem ten_appends_reopened_stale :
    let (final, results) :=
      runAppends plainCodec plainStart ((List.range 10).map plainRequest)
    create plainCodec "uuid" "/table" [] ⟨∅, ∅⟩ =
        some (plainStart.table, plainStart.files) ∧
      (∀ result ∈ results, Succeeded result) ∧
        final.table.metadata.snapshots.length = 10 ∧
          (openTable plainCodec "/table" final.files).toOption.map
              (·.metadata.snapshots.length) = some 9 :=
  ⟨rfl, by decide⟩

theorem reopen_after_appends_iff_one_append :
    let final := (runAppends plainCodec plainStart [plainRequest 1]).1
    (∃ reopened, openTable plainCodec "/table" final.files = .ok reopened ∧
        reopened.metadata = final.table.metadata) ↔
      (∃ exponent, [plainRequest 1].length / 10 + 1 = 10 ^ exponent) ∧
        ∀ name ∈ (∅ : Directory TableMetadata), isJson name = true →
          name ≤ versionFileName (max [plainRequest 1].length 1) := by
  have fresh : FreshUuid plainCodec "uuid" ∅ := by
    intro name json metadata present
    rw [Finmap.lookup_empty] at present
    cases present
  have creates :
      create plainCodec "uuid" "/table" [] ⟨∅, (∅ : Directory _)⟩ =
        some (plainStart.table, plainStart.files) := rfl
  exact
    reopen_after_appends_iff fresh creates [plainRequest 1]
      (by decide)

end OpenSnow.Iceberg.Durability
