import OpenSnow.Foundation.Lists
import OpenSnow.Iceberg.SnapshotLog

/-!
# Time travel

A query at a timestamp reads the data files of the snapshots whose commit time
is not later.  Commit times are in milliseconds; a date stands for its
23:59:59.  The text formats are chrono's and the query is DataFusion's: both
are taken as they are.
-/

namespace OpenSnow.Iceberg.TimeTravel

open Arrow
open Foundation
open Foundation.Cuts
open Iceberg.Durability
open Iceberg.Restarts
open Iceberg.Table (AppendEnv IcebergTable MetadataCodec Snapshot
  TableFiles TableMetadata TableState)

/-! ## Timestamps -/

/--
A time as chrono keeps it: seconds since the epoch, and nanoseconds that go
past a second in a leap second.
-/
structure Instant where
  seconds : Int
  nanos : Nat
deriving DecidableEq, Repr

/-- `DateTime::timestamp_millis`. -/
def Instant.timestampMillis (instant : Instant) : Int :=
  instant.seconds * 1000 + (instant.nanos / 1000000 : Nat)

/-- Where the time lies on the clock that stamps commits. -/
def Instant.nanosSinceEpoch (instant : Instant) : Int :=
  instant.seconds * 1000000000 + instant.nanos

/-- The readers of chrono that `parse_timestamp` tries. -/
structure Chrono where
  /-- `DateTime::parse_from_rfc3339`, in UTC. -/
  rfc3339 : String → Option Instant
  /-- `NaiveDateTime::parse_from_str` with a format, taken as UTC. -/
  naiveDateTime : String → String → Option Instant
  /-- `NaiveDate::parse_from_str` with a format, in days since the epoch. -/
  naiveDate : String → String → Option Int

/-- `and_hms_opt(23, 59, 59)` on a day, taken as UTC. -/
def endOfDay (day : Int) : Instant where
  seconds := day * 86400 + (23 * 3600 + 59 * 60 + 59)
  nanos := 0

def cannotParse (text : String) : String :=
  "Cannot parse timestamp: '" ++ text ++
    "'. Use YYYY-MM-DD or YYYY-MM-DD HH:MM:SS"

def parseTimestamp (chrono : Chrono) (text : String) :
    Except String Instant :=
  match chrono.rfc3339 text with
  | some time => .ok time
  | none =>
      match chrono.naiveDateTime text "%Y-%m-%d %H:%M:%S" with
      | some time => .ok time
      | none =>
          match chrono.naiveDateTime text "%Y-%m-%dT%H:%M:%S" with
          | some time => .ok time
          | none =>
              match chrono.naiveDate text "%Y-%m-%d" with
              | some day => .ok (endOfDay day)
              | none => .error (cannotParse text)

/-- A text that only the last format reads. -/
structure DateOnly (chrono : Chrono) (text : String) (day : Int) : Prop where
  notRfc3339 : chrono.rfc3339 text = none
  notSpaced : chrono.naiveDateTime text "%Y-%m-%d %H:%M:%S" = none
  notJoined : chrono.naiveDateTime text "%Y-%m-%dT%H:%M:%S" = none
  isDate : chrono.naiveDate text "%Y-%m-%d" = some day

theorem DateOnly.parseTimestamp {chrono : Chrono} {text : String} {day : Int}
    (date : DateOnly chrono text day) :
    parseTimestamp chrono text = .ok (endOfDay day) := by
  rw [TimeTravel.parseTimestamp]
  simp only [date.notRfc3339, date.notSpaced, date.notJoined, date.isDate]

/-- An earlier commit is one whose millisecond is not later. -/
theorem le_timestampMillis_iff {instant : Instant} {timestampMs : Int} :
    timestampMs ≤ instant.timestampMillis ↔
      timestampMs * 1000000 ≤ instant.nanosSinceEpoch := by
  have parts := Nat.div_add_mod instant.nanos 1000000
  have small := Nat.mod_lt instant.nanos (show 0 < 1000000 by decide)
  rw [Instant.timestampMillis, Instant.nanosSinceEpoch]
  omega

theorem timestampMillis_mono {earlier later : Instant}
    (le : earlier.nanosSinceEpoch ≤ later.nanosSinceEpoch) :
    earlier.timestampMillis ≤ later.timestampMillis :=
  le_timestampMillis_iff.mpr
    ((le_timestampMillis_iff.mp le_rfl).trans le)

/-! ## Queries -/

/-- A DataFusion session. -/
structure Engine (Failure Row : Type) where
  /-- `register_parquet` under an alias, when it fails. -/
  registerParquet : String → String → Option Failure
  /-- `sql` and `collect`, over the files that are registered. -/
  sql : List (String × String) → String →
    Except Failure (List (RecordBatch Row))

section

variable {Failure Row : Type}

def partAlias (index : Nat) : String :=
  "__tt_part_" ++ toString index

/-- Register the files one after the other under their aliases. -/
def Engine.registerAll (engine : Engine Failure Row) :
    Nat → List String → Except Failure (List (String × String))
  | _, [] => .ok []
  | index, file :: rest =>
      match engine.registerParquet (partAlias index) file with
      | some failure => .error failure
      | none =>
          (engine.registerAll (index + 1) rest).map
            ((partAlias index, file) :: ·)

/-- The statement over all parts. -/
def partsSql (count : Nat) (sqlAfterFrom : String) : String :=
  if count = 1 then "SELECT * FROM __tt_part_0 " ++ sqlAfterFrom
  else
    let unions := (List.range count).map fun index =>
      "SELECT * FROM " ++ partAlias index
    "SELECT * FROM (" ++ " UNION ALL ".intercalate unions ++ ") " ++
      sqlAfterFrom

/-- What `query_at_timestamp` does with the files it found. -/
def Engine.readFiles (engine : Engine Failure Row) (files : List String)
    (sqlAfterFrom : String) : Except Failure (List (RecordBatch Row)) :=
  if files.isEmpty then .ok []
  else
    match engine.registerAll 0 files with
    | .error failure => .error failure
    | .ok registered =>
        engine.sql registered (partsSql files.length sqlAfterFrom)

inductive QueryError (Failure : Type) where
  | timestamp (message : String)
  | engine (failure : Failure)

def queryAtTimestamp (chrono : Chrono) (engine : Engine Failure Row)
    (table : IcebergTable) (timestamp sqlAfterFrom : String) :
    Except (QueryError Failure) (List (RecordBatch Row)) :=
  match parseTimestamp chrono timestamp with
  | .error message => .error (.timestamp message)
  | .ok time =>
      let files := table.dataFilesAt time.timestampMillis
      (engine.readFiles files sqlAfterFrom).mapError .engine

end

/-- The query reads these files, whatever the session makes of them. -/
def Reads (chrono : Chrono) (table : IcebergTable) (timestamp : String)
    (files : List String) : Prop :=
  ∀ (Failure Row : Type) (engine : Engine Failure Row) (sqlAfterFrom : String),
    queryAtTimestamp chrono engine table timestamp sqlAfterFrom =
      (engine.readFiles files sqlAfterFrom).mapError .engine

/-- A session that fails with what is registered. -/
def showing : Engine (List String) Unit where
  registerParquet _ _ := none
  sql registered _ := .error (registered.map Prod.snd)

theorem registerAll_showing (index : Nat) (files : List String) :
    ∃ registered, showing.registerAll index files = .ok registered ∧
      registered.map Prod.snd = files := by
  induction files generalizing index with
  | nil => exact ⟨[], rfl, rfl⟩
  | cons file rest ih =>
      obtain ⟨registered, isOk, files⟩ := ih (index + 1)
      refine ⟨(partAlias index, file) :: registered, ?_, ?_⟩
      · rw [Engine.registerAll, isOk]
        rfl
      · rw [List.map_cons, files]

theorem readFiles_showing (files : List String) :
    showing.readFiles files "" =
      if files.isEmpty then .ok [] else .error files := by
  rw [Engine.readFiles]
  split
  · rfl
  · obtain ⟨registered, isOk, isFiles⟩ := registerAll_showing 0 files
    rw [isOk]
    change Except.error (registered.map Prod.snd) = _
    rw [isFiles]

section

variable {chrono : Chrono} {table : IcebergTable} {timestamp : String}

theorem reads_of_parsed {time : Instant}
    (parsed : parseTimestamp chrono timestamp = .ok time) :
    Reads chrono table timestamp (table.dataFilesAt time.timestampMillis) := by
  intro Failure Row engine sqlAfterFrom
  rw [queryAtTimestamp, parsed]

/-- A query does not read two lists of files. -/
theorem Reads.unique {files others : List String}
    (reads : Reads chrono table timestamp files)
    (alsoReads : Reads chrono table timestamp others) : files = others := by
  have same := (reads _ _ showing "").symm.trans (alsoReads _ _ showing "")
  rw [readFiles_showing, readFiles_showing] at same
  cases files with
  | nil =>
      cases others with
      | nil => rfl
      | cons => cases same
  | cons file rest =>
      cases others with
      | nil => cases same
      | cons other others =>
          simpa [Except.mapError] using same

end

/-! ## Commit times -/

/-- The commit times rise along the list and are not in the future. -/
structure Timed (clock : Nat) (metadata : TableMetadata) : Prop where
  rising :
    (metadata.snapshots.map fun snapshot => snapshot.timestampMs).Pairwise
      (· ≤ ·)
  past : ∀ snapshot ∈ metadata.snapshots, snapshot.timestampMs ≤ clock

variable {metadata : TableMetadata}

theorem Timed.later {clock : Nat}
    (timed : Timed clock metadata) {later : Nat} (le : clock ≤ later) :
    Timed later metadata where
  rising := timed.rising
  past := by
    intro snapshot member
    have past := timed.past snapshot member
    omega

theorem timed_of_empty {clock : Nat}
    (isEmpty : metadata.snapshots = []) : Timed clock metadata where
  rising := by
    rw [isEmpty]
    exact List.Pairwise.nil
  past := by
    rw [isEmpty]
    exact fun _ => nofun

theorem Timed.push {clock : Nat}
    (timed : Timed clock metadata) {snapshot : Snapshot} {later : Nat}
    (le : clock ≤ later) (isTime : snapshot.timestampMs = later) :
    Timed later (metadata.push snapshot) where
  rising := by
    rw [TableMetadata.push, List.map_append, List.pairwise_append]
    refine ⟨timed.rising, List.pairwise_singleton _ _, ?_⟩
    intro time member other isNew
    obtain ⟨past, isPast, rfl⟩ := List.mem_map.mp member
    cases List.mem_singleton.mp isNew
    have past := timed.past past isPast
    dsimp only
    omega
  past := by
    intro other member
    rcases List.mem_append.mp member with old | isNew
    · have past := timed.past other old
      omega
    · cases List.mem_singleton.mp isNew
      exact isTime.le

section

variable {Doc Row : Type} {codec : MetadataCodec Doc} {location : String}
  {state : Location Doc Row}

/-- What a handle holds, and what can be read from the directory. -/
structure Stamped (codec : MetadataCodec Doc) (state : Location Doc Row) :
    Prop where
  handles : ∀ handle table, state.handles handle = some table →
    Timed state.clock table.metadata
  files : ∀ name doc metadata, state.files.metadata.lookup name = some doc →
    codec.decode doc = some metadata → Timed state.clock metadata

/-- What a failed write leaves of a metadata file does not parse. -/
def TornUnreadable (codec : MetadataCodec Doc) (_ : Location Doc Row) :
    Call Doc Row → Prop
  | .append _ request _ _ =>
      ∀ left, request.env.metadataFault = some (.torn left) →
        codec.decode left = none
  | _ => True

theorem stamped_empty : Stamped codec (.empty : Location Doc Row) where
  handles _ _ held := by cases held
  files name _ _ present := by
    rw [Location.empty, Finmap.lookup_empty] at present
    cases present

section

variable (stamped : Stamped codec state)

include stamped

theorem Stamped.hold {handle : Nat}
    {table : IcebergTable} (timed : Timed state.clock table.metadata) :
    ∀ other held,
      Function.update state.handles handle (some table) other = some held →
        Timed state.clock held.metadata := by
  intro other held isHeld
  by_cases same : other = handle
  · subst same
    rw [Function.update_self] at isHeld
    cases isHeld
    exact timed
  · rw [Function.update_of_ne same] at isHeld
    exact stamped.handles other held isHeld

theorem Stamped.write {name : String}
    {doc : Doc} (timed : ∀ metadata, codec.decode doc = some metadata →
      Timed state.clock metadata) :
    ∀ other json metadata,
      (state.files.metadata.insert name doc).lookup other = some json →
        codec.decode json = some metadata → Timed state.clock metadata := by
  intro other json metadata present decoded
  by_cases same : other = name
  · subst same
    rw [Finmap.lookup_insert] at present
    cases present
    exact timed metadata decoded
  · rw [Finmap.lookup_insert_of_ne _ same] at present
    exact stamped.files other json metadata present decoded

theorem Stamped.createTable (handle : Nat)
    (tableUuid : String) (schema : Schema) :
    Stamped codec
      (state.perform codec location
        (.createTable handle tableUuid schema)) := by
  rw [Location.perform]
  split
  · exact stamped
  · rename_i table files created
    unfold Table.create at created
    dsimp only at created
    split at created
    · cases created
    · rename_i json encoded
      cases created
      refine ⟨stamped.hold (timed_of_empty rfl), stamped.write ?_⟩
      intro metadata decoded
      rw [codec.decode_encode _ _ encoded] at decoded
      cases decoded
      exact timed_of_empty rfl

theorem Stamped.openTable (handle : Nat) :
    Stamped codec (state.perform codec location (.openTable handle)) := by
  rw [Location.perform]
  split
  · exact stamped
  · rename_i table opened
    refine ⟨stamped.hold ?_, stamped.files⟩
    unfold Table.openTable at opened
    split at opened
    · cases opened
    · split at opened
      · cases opened
      · rename_i metadata found
        cases opened
        obtain ⟨json, present, decoded⟩ := Option.bind_eq_some_iff.mp found
        exact stamped.files _ json metadata present decoded

end

/-- What an append does to the metadata of its handle and of the directory. -/
theorem append_metadata {env : AppendEnv Doc}
    {batches : List (RecordBatch Row)} {before after : TableState Doc Row}
    {result : Except Table.AppendError Snapshot}
    (outcome : Table.append codec env batches before = (after, result)) :
    (after.table.metadata = before.table.metadata ∧
        after.files.metadata = before.files.metadata) ∨
      ∃ snapshot : Snapshot, snapshot.timestampMs = env.timestampMs ∧
        after.table.metadata = before.table.metadata.push snapshot ∧
          (after.files.metadata = before.files.metadata ∨
            ∃ name doc,
              after.files.metadata =
                before.files.metadata.insert name doc ∧
              (env.metadataFault = some (.torn doc) ∨
                codec.encode (before.table.metadata.push snapshot) =
                  some doc)) := by
  have kept := Table.writeDataFile_metadata env batches before.files
  unfold Table.append at outcome
  rcases written : Table.writeDataFile env batches before.files
    with ⟨files, error | totalRows⟩
  · rw [written] at kept outcome
    cases outcome
    exact Or.inl ⟨rfl, kept⟩
  · rw [written] at kept outcome
    refine Or.inr ⟨Table.nextSnapshot env before.table totalRows, rfl, ?_⟩
    dsimp only at outcome kept
    split at outcome
    · cases outcome
      exact ⟨rfl, Or.inl kept⟩
    · rename_i json encoded
      split at outcome
      · cases outcome
        exact ⟨rfl, Or.inl kept⟩
      · rename_i left torn
        cases outcome
        exact ⟨rfl, Or.inr ⟨_, left, by rw [← kept], Or.inl torn⟩⟩
      · cases outcome
        exact ⟨rfl, Or.inr ⟨_, json, by rw [← kept], Or.inr encoded⟩⟩

theorem Stamped.append (stamped : Stamped codec state) {handle : Nat}
    {request : AppendRequest Doc Row} {elapsed later : Nat}
    (whole : TornUnreadable codec state
      (.append handle request elapsed later)) :
    Stamped codec
      (state.perform codec location
        (.append handle request elapsed later)) := by
  rw [Location.perform]
  split
  · exact stamped
  · rename_i table held
    have le : state.clock ≤ state.clock + elapsed + later := by omega
    have timed := stamped.handles handle table held
    have sooner : Stamped codec
        { state with clock := state.clock + elapsed + later } :=
      { handles := fun other table held =>
          (stamped.handles other table held).later le
        files := fun name doc metadata present decoded =>
          (stamped.files name doc metadata present decoded).later le }
    rcases outcome : Table.append codec
        (state.envOf request.env elapsed later) request.batches
        ⟨table, state.files⟩ with ⟨after, result⟩
    rcases append_metadata outcome
      with ⟨sameTable, sameFiles⟩ | ⟨snapshot, isTime, pushed, files⟩
    · refine ⟨sooner.hold ?_, ?_⟩
      · rw [sameTable]
        exact timed.later le
      · dsimp only
        rw [sameFiles]
        exact sooner.files
    · have timedPush := timed.push le isTime
      refine ⟨sooner.hold ?_, ?_⟩
      · rw [pushed]
        exact timedPush
      · dsimp only
        rcases files with same | ⟨name, doc, isInsert, isTorn | encoded⟩
        · rw [same]
          exact sooner.files
        · rw [isInsert]
          refine sooner.write ?_
          intro metadata decoded
          rw [whole doc isTorn] at decoded
          cases decoded
        · rw [isInsert]
          refine sooner.write ?_
          intro metadata decoded
          rw [codec.decode_encode _ _ encoded] at decoded
          cases decoded
          exact timedPush

theorem Stamped.perform (stamped : Stamped codec state) {call : Call Doc Row}
    (whole : TornUnreadable codec state call) :
    Stamped codec (state.perform codec location call) := by
  cases call with
  | createTable handle tableUuid schema =>
      exact stamped.createTable handle tableUuid schema
  | openTable handle => exact stamped.openTable handle
  | append handle request elapsed later => exact stamped.append whole
  | appendElsewhere => exact ⟨stamped.handles, stamped.files⟩
  | restart => exact ⟨fun _ _ => nofun, stamped.files⟩

end

/-! ## The laws -/

/-- The UTC day of a commit, counted from the epoch. -/
def commitDay (snapshot : Snapshot) : Int :=
  snapshot.timestampMs / 86400000

/-- The data files of some snapshots. -/
def filesOf (snapshots : List Snapshot) : List String :=
  snapshots.map Snapshot.manifestList

structure TimeTravelLaws (chrono : Chrono) (table : IcebergTable) : Prop where
  /-- Queries read prefixes of the log, and a later one no shorter prefix. -/
  growing : ∀ earlier later first second,
    parseTimestamp chrono earlier = .ok first →
      parseTimestamp chrono later = .ok second →
        first.nanosSinceEpoch ≤ second.nanosSinceEpoch →
          ∃ short long, short ≤ long ∧ long ≤ table.snapshots.length ∧
            Reads chrono table earlier (filesOf (table.snapshots.take short)) ∧
            Reads chrono table later (filesOf (table.snapshots.take long))
  /-- A query no earlier than the last commit reads everything. -/
  complete : ∀ timestamp time,
    parseTimestamp chrono timestamp = .ok time →
      (∀ last, table.snapshots.getLast? = some last →
        last.timestampMs * 1000000 ≤ time.nanosSinceEpoch) →
          Reads chrono table timestamp table.dataFiles
  /-- A date reads what was committed on that day or before. -/
  wholeDay : ∀ timestamp day, DateOnly chrono timestamp day →
    Reads chrono table timestamp
      (filesOf
        (table.snapshots.filter fun snapshot => commitDay snapshot ≤ day))

/-- Nothing was committed between 23:59:59.000 of the day and its midnight. -/
def LastSecondFree (table : IcebergTable) (day : Int) : Prop :=
  ∀ snapshot ∈ table.snapshots,
    ¬ (day * 86400000 + 86399000 < snapshot.timestampMs ∧
      snapshot.timestampMs < (day + 1) * 86400000)

section

variable {clock : Nat} {table : IcebergTable} {chrono : Chrono}

theorem Timed.isCut (timed : Timed clock table.metadata) (bound : Int) :
    IsCut (fun snapshot : Snapshot => decide (snapshot.timestampMs ≤ bound))
      table.snapshots :=
  isCut_of_rising timed.rising bound

theorem dataFilesAt_eq (timestampMs : Int) :
    table.dataFilesAt timestampMs =
      filesOf (table.snapshots.filter
        fun snapshot => snapshot.timestampMs ≤ timestampMs) :=
  rfl

theorem take_of_isPrefix {snapshots : List Snapshot}
    (isPrefix : snapshots <+: table.snapshots) :
    table.snapshots.take snapshots.length = snapshots :=
  (List.prefix_iff_eq_take.mp isPrefix).symm

theorem Timed.growing (timed : Timed clock table.metadata)
    {earlier later : String} {first second : Instant}
    (parsedEarlier : parseTimestamp chrono earlier = .ok first)
    (parsedLater : parseTimestamp chrono later = .ok second)
    (le : first.nanosSinceEpoch ≤ second.nanosSinceEpoch) :
    ∃ short long, short ≤ long ∧ long ≤ table.snapshots.length ∧
      Reads chrono table earlier (filesOf (table.snapshots.take short)) ∧
      Reads chrono table later (filesOf (table.snapshots.take long)) := by
  have leMillis := timestampMillis_mono le
  have shortPrefix := (timed.isCut first.timestampMillis).filter_isPrefix
  have longPrefix := (timed.isCut second.timestampMillis).filter_isPrefix
  have between :=
    (timed.isCut first.timestampMillis).filter_isPrefix_filter
      (fun (snapshot : Snapshot) _ within =>
        decide_eq_true ((of_decide_eq_true within).trans leMillis))
  refine ⟨_, _, between.length_le, longPrefix.length_le, ?_, ?_⟩
  · rw [take_of_isPrefix shortPrefix, ← dataFilesAt_eq]
    exact reads_of_parsed parsedEarlier
  · rw [take_of_isPrefix longPrefix, ← dataFilesAt_eq]
    exact reads_of_parsed parsedLater

theorem Timed.complete (timed : Timed clock table.metadata)
    {timestamp : String} {time : Instant}
    (parsed : parseTimestamp chrono timestamp = .ok time)
    (late : ∀ last, table.snapshots.getLast? = some last →
      last.timestampMs * 1000000 ≤ time.nanosSinceEpoch) :
    Reads chrono table timestamp table.dataFiles := by
  have all : table.snapshots.filter
      (fun snapshot => snapshot.timestampMs ≤ time.timestampMillis) =
        table.snapshots := by
    rcases List.eq_nil_or_concat table.snapshots
      with isNil | ⟨init, last, isConcat⟩
    · rw [isNil]
      rfl
    · rw [List.concat_eq_append] at isConcat
      have isLast : table.snapshots.getLast? = some last := by
        rw [isConcat, List.getLast?_append, List.getLast?_singleton]
        rfl
      have lastWithin := le_timestampMillis_iff.mpr (late last isLast)
      have cut := timed.isCut time.timestampMillis
      rw [List.filter_eq_self]
      intro snapshot member
      rw [isConcat] at cut member
      rcases List.mem_append.mp member with old | isNew
      · exact (List.pairwise_append.mp cut).2.2 snapshot old last
          (List.mem_singleton_self last) (decide_eq_true lastWithin)
      · cases List.mem_singleton.mp isNew
        exact decide_eq_true lastWithin
  have reads : Reads chrono table timestamp _ := reads_of_parsed parsed
  rwa [dataFilesAt_eq, all] at reads

theorem timestampMillis_endOfDay (day : Int) :
    (endOfDay day).timestampMillis = day * 86400000 + 86399000 := by
  rw [Instant.timestampMillis, endOfDay]
  dsimp only
  omega

/-- A date reads the whole day exactly when its last second is free. -/
theorem reads_wholeDay_iff {timestamp : String} {day : Int}
    (date : DateOnly chrono timestamp day) :
    Reads chrono table timestamp
        (filesOf
          (table.snapshots.filter fun snapshot =>
            commitDay snapshot ≤ day)) ↔
      LastSecondFree table day := by
  have reads : Reads chrono table timestamp _ :=
    reads_of_parsed date.parseTimestamp
  rw [dataFilesAt_eq, timestampMillis_endOfDay] at reads
  have implies : ∀ snapshot ∈ table.snapshots,
      decide (snapshot.timestampMs ≤ day * 86400000 + 86399000) = true →
        decide (commitDay snapshot ≤ day) = true := by
    intro snapshot _ within
    rw [decide_eq_true_eq] at within ⊢
    rw [commitDay]
    omega
  have exactly :
      filesOf
          (table.snapshots.filter fun snapshot =>
            snapshot.timestampMs ≤ day * 86400000 + 86399000) =
          filesOf
            (table.snapshots.filter fun snapshot =>
              commitDay snapshot ≤ day) ↔
        _ :=
    filter_map_eq_iff implies
  have free : LastSecondFree table day ↔
      ∀ snapshot ∈ table.snapshots,
        decide (commitDay snapshot ≤ day) = true →
          decide (snapshot.timestampMs ≤ day * 86400000 + 86399000) =
            true := by
    refine forall₂_congr ?_
    intro snapshot _
    rw [decide_eq_true_eq, decide_eq_true_eq, commitDay]
    omega
  rw [free, ← exactly]
  constructor
  · intro whole
    exact reads.unique whole
  · intro same
    rw [← same]
    exact reads

end

/--
Every table that calls of `create`, `open` and `append` have made keeps the
laws exactly when the last second of every day that a date names is free of
commits.
-/
theorem timeTravelLaws_iff {Doc Row : Type} (chrono : Chrono)
    (codec : MetadataCodec Doc) (location : String)
    {calls : List (Call Doc Row)}
    (whole : Along (Location.perform codec location) (TornUnreadable codec)
      .empty calls)
    {handle : Nat} {table : IcebergTable}
    (held : (calls.foldl (Location.perform codec location) .empty).handles
      handle = some table) :
    TimeTravelLaws chrono table ↔
      ∀ timestamp day, DateOnly chrono timestamp day →
        LastSecondFree table day := by
  have stamped := whole.invariant
    (fun _ _ stamped whole => stamped.perform whole) stamped_empty
  have timed := stamped.handles handle table held
  constructor
  · intro laws timestamp day date
    exact (reads_wholeDay_iff date).mp (laws.wholeDay timestamp day date)
  · intro free
    exact
      { growing := fun _ _ _ _ parsedEarlier parsedLater le =>
          timed.growing parsedEarlier parsedLater le
        complete := fun _ _ parsed late => timed.complete parsed late
        wholeDay := fun timestamp day date =>
          (reads_wholeDay_iff date).mpr (free timestamp day date) }

/-! ## A commit half a second before midnight -/

/-- Chrono on one date and on other texts that are no timestamps. -/
def oneDate : Chrono where
  rfc3339 _ := none
  naiveDateTime _ _ := none
  naiveDate text _ := if text = "2024-01-15" then some 19737 else none

/-- One append at a time given in milliseconds. -/
def appendAt (timestampMs : Nat) : List (Call TableMetadata Unit) :=
  [.createTable 0 "uuid" [], .append 0 (plainAppend oneRow) timestampMs 0]

theorem appendAt_whole (timestampMs : Nat) :
    Along (Location.perform plainCodec "/table") (TornUnreadable plainCodec)
      .empty (appendAt timestampMs) :=
  ⟨trivial, fun _ => nofun, trivial⟩

theorem oneDate_dateOnly : DateOnly oneDate "2024-01-15" 19737 :=
  ⟨rfl, rfl, rfl, by decide⟩

/-- The table with one commit on 2024-01-15 at 23:59:59.500. -/
theorem lastSecond_missing :
    ∃ table,
      ((appendAt (19737 * 86400000 + 86399500)).foldl
          (Location.perform plainCodec "/table") .empty).handles 0 =
        some table ∧
      table.snapshots.map commitDay = [19737] ∧
        Reads oneDate table "2024-01-15" [] ∧
          ¬ TimeTravelLaws oneDate table := by
  refine ⟨_, rfl, by decide, ?_, ?_⟩
  · exact reads_of_parsed oneDate_dateOnly.parseTimestamp
  · intro laws
    have free := (reads_wholeDay_iff oneDate_dateOnly).mp
      (laws.wholeDay _ _ oneDate_dateOnly)
    exact free _ (List.mem_singleton_self _) (by decide)

/-- A commit in the first hour of the day leaves its last second free. -/
theorem timeTravelLaws_iff_oneCommit :
    ∃ table,
      ((appendAt (19737 * 86400000 + 3600000)).foldl
          (Location.perform plainCodec "/table") .empty).handles 0 =
        some table ∧
      (TimeTravelLaws oneDate table ↔
        ∀ timestamp day, DateOnly oneDate timestamp day →
          LastSecondFree table day) := by
  rcases held :
      ((appendAt (19737 * 86400000 + 3600000)).foldl
        (Location.perform plainCodec "/table") .empty).handles 0
    with _ | table
  · exact absurd held (by decide)
  · exact ⟨table, rfl, timeTravelLaws_iff oneDate plainCodec "/table"
      (appendAt_whole _) held⟩

end OpenSnow.Iceberg.TimeTravel
