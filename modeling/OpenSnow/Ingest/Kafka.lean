import Mathlib.Data.List.Perm.Basic
import Mathlib.Logic.Function.Basic
import OpenSnow.Foundation.Runs
import OpenSnow.Rust.Json

/-!
# The Kafka ingester

Payloads gather in a buffer, and a flush converts the whole buffer into one
Parquet file whose name has the table and the time in it.  The buffer is
cleared after every flush, whatever came of it.

The parser of JSON values and the reader that converts a batch are parameters,
and so are the clock and what the file system does.
-/

namespace OpenSnow.Ingest.Kafka

open Foundation
open Rust

/-- The bytes of a message. -/
abbrev Payload := List UInt8

/-- What is used of the JSON parser and of the reader of JSON batches. -/
structure Arrow (Schema Row : Type) where
  /-- `serde_json::from_slice`. -/
  parse : Payload → Option Json.Value
  /-- `infer_json_schema_from_iterator` over one value. -/
  inferSchema : Json.Value → Option Schema
  /-- The batches of a reader over lines, unless one of them fails. -/
  decode : Schema → Payload → Option (List (List Row))

variable {Schema Row : Type}

namespace Arrow

/-- `infer_schema_from_json`. -/
def inferSchemaFromJson (arrow : Arrow Schema Row) (payload : Payload) :
    Option Schema :=
  (arrow.parse payload).bind arrow.inferSchema

/-- The payload is a JSON object. -/
def valid (arrow : Arrow Schema Row) (payload : Payload) : Bool :=
  match arrow.parse payload with
  | some (.object _) => true
  | _ => false

end Arrow

structure KafkaIngester where
  tableName : String
  batchSize : Nat
deriving DecidableEq, Repr

/-- What comes of the directory and of the file of a flush. -/
inductive WriteOutcome where
  | written
  /-- The directory or the file is not created. -/
  | refused
  /-- The file is created, and writing to it fails. -/
  | torn
deriving DecidableEq, Repr

/-- A file that was flushed, with the records of its batch. -/
structure Partition (Row : Type) where
  name : String
  records : List Payload
  batches : List (List Row)

/-- The variables of the loop, the directory of the table, and a history. -/
structure Loop (Schema Row : Type) where
  buf : List Payload
  schema : Option Schema
  files : String → Option (List (List Row))
  /-- Whether `run` returned without an error, once it returned. -/
  returned : Option Bool
  consumed : List Payload
  /-- The newest first. -/
  flushed : List (Partition Row)

def Loop.start (files : String → Option (List (List Row))) :
    Loop Schema Row where
  buf := []
  schema := none
  files := files
  returned := none
  consumed := []
  flushed := []

inductive LoopStep where
  /-- A message, then whether the interval is over, the time and the file. -/
  | message (payload : Option Payload) (expired : Bool) (stamp : String)
      (outcome : WriteOutcome)
  | consumerError
  | timeout (expired : Bool) (stamp : String) (outcome : WriteOutcome)
  | ended (stamp : String) (outcome : WriteOutcome)

/-- Records as lines. -/
def combined (records : List Payload) : Payload :=
  records.flatMap fun record => record ++ [10]

namespace KafkaIngester

variable (ingester : KafkaIngester) (arrow : Arrow Schema Row)

def fileName (stamp : String) : String :=
  ingester.tableName ++ "_" ++ stamp ++ ".parquet"

/-- `flush_batch`: the state with its files, and whether it succeeded. -/
def flushBatch (state : Loop Schema Row) (schema : Schema) (stamp : String)
    (outcome : WriteOutcome) : Loop Schema Row × Bool :=
  match arrow.decode schema (combined state.buf) with
  | none => (state, false)
  | some [] => (state, true)
  | some (batch :: rest) =>
      let name := ingester.fileName stamp
      match outcome with
      | .refused => (state, false)
      | .torn =>
          ({ state with files := Function.update state.files name (some []) },
            false)
      | .written =>
          ({ state with
              files :=
                Function.update state.files name (some (batch :: rest))
              flushed := ⟨name, state.buf, batch :: rest⟩ :: state.flushed },
            true)

/-- A flush, without which a batch is dropped, and the buffer afterwards. -/
def flushBuffer (state : Loop Schema Row) (stamp : String)
    (outcome : WriteOutcome) : Loop Schema Row × Bool :=
  let flushed :=
    match state.schema with
    | some schema => ingester.flushBatch arrow state schema stamp outcome
    | none => (state, true)
  ({ flushed.1 with buf := [] }, flushed.2)

/-- `should_flush`. -/
def shouldFlush (state : Loop Schema Row) (expired : Bool) : Bool :=
  decide (ingester.batchSize ≤ state.buf.length) ||
    (expired && !state.buf.isEmpty)

/-- What the loop does after a message or a timeout. -/
def flushIfDue (state : Loop Schema Row) (expired : Bool) (stamp : String)
    (outcome : WriteOutcome) : Loop Schema Row :=
  if ingester.shouldFlush state expired then
    (ingester.flushBuffer arrow state stamp outcome).1
  else state

/-- A message, which may have no payload. -/
def push (state : Loop Schema Row) : Option Payload → Loop Schema Row
  | none => state
  | some payload =>
      { state with
        buf := state.buf ++ [payload]
        schema :=
          match state.schema with
          | some schema => some schema
          | none => arrow.inferSchemaFromJson payload
        consumed := state.consumed ++ [payload] }

def perform (state : Loop Schema Row) (step : LoopStep) :
    Loop Schema Row :=
  if state.returned.isSome then state
  else
    match step with
    | .message payload expired stamp outcome =>
        ingester.flushIfDue arrow (push arrow state payload) expired stamp
          outcome
    | .consumerError => state
    | .timeout expired stamp outcome =>
        ingester.flushIfDue arrow state expired stamp outcome
    | .ended stamp outcome =>
        if state.buf.isEmpty then { state with returned := some true }
        else
          let last := ingester.flushBuffer arrow state stamp outcome
          { last.1 with returned := some last.2 }

end KafkaIngester

/--
Every valid record is in one flushed file or in the buffer, and the flushed
files are on the disk as they were converted, beside the earlier ones.
-/
structure NothingLost (arrow : Arrow Schema Row)
    (before : String → Option (List (List Row)))
    (state : Loop Schema Row) : Prop where
  conserved :
    (state.consumed.filter arrow.valid).Perm
      ((state.flushed.flatMap Partition.records ++ state.buf).filter
        arrow.valid)
  onDisk : ∀ part ∈ state.flushed,
    state.files part.name = some part.batches ∧
      ∃ schema,
        arrow.decode schema (combined part.records) = some part.batches
  distinct : (state.flushed.map Partition.name).Nodup
  older : ∀ {name file}, before name = some file →
    state.files name = some file

section

variable (ingester : KafkaIngester) (arrow : Arrow Schema Row)

/-- No record of the buffer is valid. -/
def NoneValid (state : Loop Schema Row) : Prop :=
  ∀ record ∈ state.buf, arrow.valid record = false

/--
The schema is known, the reader takes the whole batch, and the batch is
written, unless no record in it is valid; and no file has the name of the new
one, unless none is created.
-/
def FlushSpares (state : Loop Schema Row) (stamp : String)
    (outcome : WriteOutcome) : Prop :=
  match state.schema.bind fun schema =>
      arrow.decode schema (combined state.buf) with
  | none => NoneValid arrow state
  | some [] => NoneValid arrow state
  | some (_ :: _) =>
      (outcome = .written ∨ NoneValid arrow state) ∧
        (outcome = .refused ∨
          state.files (ingester.fileName stamp) = none)

/-- The flush of a step, if there is one, spares what it should keep. -/
def Spares (state : Loop Schema Row) (step : LoopStep) : Prop :=
  state.returned = none →
    match step with
    | .message payload expired stamp outcome =>
        let pushed := KafkaIngester.push arrow state payload
        ingester.shouldFlush pushed expired = true →
          FlushSpares ingester arrow pushed stamp outcome
    | .consumerError => True
    | .timeout expired stamp outcome =>
        ingester.shouldFlush state expired = true →
          FlushSpares ingester arrow state stamp outcome
    | .ended stamp outcome =>
        state.buf ≠ [] → FlushSpares ingester arrow state stamp outcome

end

/-! ## What such steps keep -/

section

variable {ingester : KafkaIngester} {arrow : Arrow Schema Row}
variable {before : String → Option (List (List Row))}
variable {state : Loop Schema Row}

theorem NothingLost.start : NothingLost arrow before (.start before) where
  conserved := List.Perm.refl _
  onDisk _ := nofun
  distinct := List.nodup_nil
  older := id

section

variable (kept : NothingLost arrow before state)

include kept

theorem NothingLost.push (payload : Option Payload) :
    NothingLost arrow before (KafkaIngester.push arrow state payload) := by
  cases payload with
  | none => exact kept
  | some payload =>
      exact
        { conserved := by
            rw [KafkaIngester.push]
            dsimp only
            rw [List.filter_append, ← List.append_assoc, List.filter_append]
            exact kept.conserved.append_right _
          onDisk := kept.onDisk
          distinct := kept.distinct
          older := kept.older }

/-- A buffer without a valid record may be dropped. -/
theorem NothingLost.drop (noneValid : NoneValid arrow state) :
    NothingLost arrow before { state with buf := [] } where
  conserved := by
    have nothing : state.buf.filter arrow.valid = [] := by
      rw [List.filter_eq_nil_iff]
      intro record member isValid
      rw [noneValid record member] at isValid
      cases isValid
    have conserved := kept.conserved
    rw [List.filter_append, nothing, List.append_nil] at conserved
    rw [List.append_nil]
    exact conserved
  onDisk := kept.onDisk
  distinct := kept.distinct
  older := kept.older

/-- A file with a new name changes no other. -/
theorem NothingLost.create {name : String} (free : state.files name = none)
    (file : List (List Row)) :
    NothingLost arrow before
      { state with files := Function.update state.files name (some file) } := by
  have others : ∀ {other found}, state.files other = some found →
      Function.update state.files name (some file) other = some found := by
    intro other found isFile
    rw [Function.update_of_ne]
    · exact isFile
    · rintro rfl
      rw [free] at isFile
      cases isFile
  exact
    { conserved := kept.conserved
      onDisk := fun part member =>
        ⟨others (kept.onDisk part member).1, (kept.onDisk part member).2⟩
      distinct := kept.distinct
      older := fun isFile => others (kept.older isFile) }

/-- A batch that was written moves from the buffer to its file. -/
theorem NothingLost.written
    {name : String} {schema : Schema} {batches : List (List Row)} (decoded :
      arrow.decode schema (combined state.buf) = some batches)
    (free : state.files name = none) :
    NothingLost arrow before
      { state with
        files := Function.update state.files name (some batches)
        flushed := ⟨name, state.buf, batches⟩ :: state.flushed
        buf := [] } := by
  have created := kept.create free batches
  exact
    { conserved := by
        refine kept.conserved.trans (List.Perm.filter _ ?_)
        rw [List.flatMap_cons, List.append_nil]
        exact List.perm_append_comm
      onDisk := by
        intro part member
        rcases List.mem_cons.mp member with isNew | old
        · rw [isNew]
          exact ⟨Function.update_self .., schema, decoded⟩
        · exact created.onDisk part old
      distinct := by
        rw [List.map_cons, List.nodup_cons]
        refine ⟨fun taken => ?_, kept.distinct⟩
        obtain ⟨part, member, same⟩ := List.mem_map.mp taken
        have present := (kept.onDisk part member).1
        rw [same, free] at present
        cases present
      older := created.older }

theorem NothingLost.flushBuffer {stamp : String} {outcome : WriteOutcome}
    (spares : FlushSpares ingester arrow state stamp outcome) :
    NothingLost arrow before
      (ingester.flushBuffer arrow state stamp outcome).1 := by
  rw [KafkaIngester.flushBuffer]
  dsimp only
  rw [FlushSpares] at spares
  cases known : state.schema with
  | none =>
      rw [known] at spares
      exact kept.drop spares
  | some schema =>
      rw [known, Option.bind_some] at spares
      dsimp only
      rw [KafkaIngester.flushBatch]
      cases decoded : arrow.decode schema (combined state.buf) with
      | none =>
          rw [decoded] at spares
          exact kept.drop spares
      | some batches =>
          rw [decoded] at spares
          cases batches with
          | nil => exact kept.drop spares
          | cons batch rest =>
              obtain ⟨succeeds, free⟩ := spares
              cases outcome with
              | refused =>
                  exact kept.drop (succeeds.resolve_left nofun)
              | torn =>
                  exact (kept.create (free.resolve_left nofun) []).drop
                    (succeeds.resolve_left nofun)
              | written =>
                  exact kept.written decoded (free.resolve_left nofun)

theorem NothingLost.flushIfDue
    {expired : Bool} {stamp : String} {outcome : WriteOutcome}
    (spares : ingester.shouldFlush state expired = true →
      FlushSpares ingester arrow state stamp outcome) :
    NothingLost arrow before
      (ingester.flushIfDue arrow state expired stamp outcome) := by
  rw [KafkaIngester.flushIfDue]
  split_ifs with due
  · exact kept.flushBuffer (spares due)
  · exact kept

theorem NothingLost.return (result : Option Bool) :
    NothingLost arrow before { state with returned := result } where
  conserved := kept.conserved
  onDisk := kept.onDisk
  distinct := kept.distinct
  older := kept.older

theorem NothingLost.perform
    {step : LoopStep} (spares : Spares ingester arrow state step) :
    NothingLost arrow before (ingester.perform arrow state step) := by
  unfold KafkaIngester.perform
  by_cases returned : state.returned.isSome
  · rw [if_pos returned]
    exact kept
  rw [if_neg returned]
  have spared := spares (Option.not_isSome_iff_eq_none.mp returned)
  cases step with
  | message payload expired stamp outcome =>
      exact (kept.push payload).flushIfDue spared
  | consumerError => exact kept
  | timeout expired stamp outcome => exact kept.flushIfDue spared
  | ended stamp outcome =>
      dsimp only
      split_ifs with empty
      · exact kept.return _
      · refine (kept.flushBuffer (spared ?_)).return _
        exact fun nothing => empty (List.isEmpty_iff.mpr nothing)

end

end

/-- The bytes of an object whose one field `a` is `1`. -/
def sampleRecord : Payload :=
  [123, 34, 97, 34, 58, 49, 125]

/-- How many lines of the text are the sample record, if all are. -/
def sampleLines : Payload → Option Nat
  | [] => some 0
  | 123 :: 34 :: 97 :: 34 :: 58 :: 49 :: 125 :: 10 :: rest =>
      (sampleLines rest).map (· + 1)
  | _ => none

/-- A parser and a reader that know the sample record only. -/
def sampleArrow : Arrow Unit Nat where
  parse payload :=
    if payload = sampleRecord then some (.object [("a", .number "1")])
    else none
  inferSchema _ := some ()
  decode _ text :=
    (sampleLines text).map fun count =>
      if count = 0 then [] else [List.replicate count 1]

def sampleIngester : KafkaIngester where
  tableName := "events"
  batchSize := 2

/-- Three records and a malformed one, with a flush at the second record. -/
def spacedSteps : List LoopStep :=
  [.message (some sampleRecord) false "1" .written,
    .message (some sampleRecord) false "1" .written,
    .message (some [120]) true "2" .refused,
    .message (some sampleRecord) false "3" .written]

end OpenSnow.Ingest.Kafka
