import Mathlib.Data.List.Nodup
import Mathlib.Tactic.SplitIfs
import OpenSnow.Foundation.Runs
import OpenSnow.Rust.Json

/-!
# The chart store

Charts are kept in one JSON file.  A request loads it, changes the list and
stores the list, and other requests may do the same in between.  A file that
cannot be read or parsed counts as an empty list.
-/

namespace OpenSnow.Server.Charts

open Foundation
open Rust.Json

/-! ## Charts -/

def maxCharts : Nat := 500

def chartId (chart : Value) : Option String :=
  (chart.get "id").bind Value.asStr

/-- The id that a chart without one gets. -/
def generatedId (millis : Int) : String := "c" ++ toString millis

/-- The spec of a chart, with its id and the time of its creation. -/
def stamped (fields : Fields) (id now : String) : Value :=
  let named := Fields.insert "id" (.string id) fields
  .object
    (if (Fields.get named "created_at").isNone then
      Fields.insert "created_at" (.string now) named
    else named)

/--
`save_chart` without its load and its store: the new list and the chart, or
the text of the refusal.
-/
def saveChart (charts : List Value) (spec : Value) (millis : Int)
    (now : String) : Except String (List Value × Value) :=
  match spec with
  | .object fields =>
      if ((Fields.get fields "title").bind Value.asStr).isNone ||
          ((Fields.get fields "sql").bind Value.asStr).isNone then
        .error "title and sql are required"
      else
        let id :=
          ((Fields.get fields "id").bind Value.asStr).getD
            (generatedId millis)
        let chart := stamped fields id now
        match charts.findIdx? fun held => chartId held = some id with
        | some pos => .ok (charts.set pos chart, chart)
        | none =>
            if maxCharts ≤ charts.length then .error "chart limit reached"
            else .ok (charts ++ [chart], chart)
  | _ => .error "title and sql are required"

/-- `delete_chart` without its load and its store. -/
def deleteChart (charts : List Value) (id : String) : List Value :=
  charts.filter fun held => chartId held ≠ some id

/-! ## The file and the requests -/

inductive ChartFile where
  | missing
  | unparsable
  | charts (list : List Value)

def ChartFile.load : ChartFile → List Value
  | .charts list => list
  | _ => []

def ChartFile.isUnparsable : ChartFile → Bool
  | .unparsable => true
  | _ => false

inductive Request where
  | save (spec : Value)
  | delete (id : String)

/-- An answer that says that the request succeeded. -/
inductive Acknowledgement where
  /-- The id in the request, if it has one, and the chart in the answer. -/
  | saved (asked : Option String) (chart : Value)
  | deleted (id : String)

def Acknowledgement.isDeleted : Acknowledgement → Bool
  | .deleted _ => true
  | .saved _ _ => false

/-- The list to be stored and the answer, unless the request is refused. -/
def Request.modified (request : Request) (charts : List Value)
    (millis : Int) (now : String) :
    Option (List Value × Acknowledgement) :=
  match request with
  | .save spec =>
      match saveChart charts spec millis now with
      | .ok (after, chart) => some (after, .saved (chartId spec) chart)
      | .error _ => none
  | .delete id => some (deleteChart charts id, .deleted id)

/-- What comes of `store`. -/
inductive StoreOutcome where
  | written
  /-- The file stays as it is. -/
  | refused
  /-- The file is truncated, and writing to it fails. -/
  | torn
deriving DecidableEq, Repr

/-- A request after its load. -/
structure Pending where
  request : Request
  loaded : List Value

structure ChartStore where
  file : ChartFile
  pending : List Pending
  /-- The newest first. -/
  acknowledged : List Acknowledgement
  /-- Whether a file that could not be parsed was replaced by a list. -/
  replaced : Bool

def ChartStore.start (file : ChartFile) : ChartStore where
  file := file
  pending := []
  acknowledged := []
  replaced := false

inductive ChartStep where
  | load (request : Request)
  /-- A request that has loaded goes on, with the clock that it reads. -/
  | store (index : Nat) (millis : Int) (now : String)
      (outcome : StoreOutcome)

def ChartFile.after (file : ChartFile) (charts : List Value) :
    StoreOutcome → ChartFile
  | .written => .charts charts
  | .refused => file
  | .torn => .unparsable

/-- A deletion is acknowledged whatever comes of its store. -/
def ChartStore.perform (state : ChartStore) : ChartStep → ChartStore
  | .load request =>
      { state with pending := ⟨request, state.file.load⟩ :: state.pending }
  | .store index millis now outcome =>
      match state.pending[index]? with
      | none => state
      | some call =>
          let rest := state.pending.eraseIdx index
          match call.request.modified call.loaded millis now with
          | none => { state with pending := rest }
          | some (charts, answer) =>
              { file := state.file.after charts outcome
                pending := rest
                acknowledged :=
                  if outcome = .written ∨ answer.isDeleted then
                    answer :: state.acknowledged
                  else state.acknowledged
                replaced :=
                  state.replaced ||
                    (decide (outcome = .written) && state.file.isUnparsable) }

/-! ## Keeping what was acknowledged -/

/-- The request was about the chart of this id. -/
def Acknowledgement.Addresses (answer : Acknowledgement) (id : String) :
    Prop :=
  match answer with
  | .saved asked _ => asked = some id
  | .deleted other => other = id

/-- The chart was saved, and its id was not addressed afterwards. -/
def Standing (chart : Value) : List Acknowledgement → Prop
  | [] => False
  | answer :: before =>
      (∃ asked, answer = .saved asked chart) ∨
        ((∀ id, chartId chart = some id → ¬ answer.Addresses id) ∧
          Standing chart before)

/-- Distinct ids, and not too many charts. -/
structure WellFormed (charts : List Value) : Prop where
  distinct : (charts.filterMap chartId).Nodup
  bounded : charts.length ≤ maxCharts

structure ChartsKept (state : ChartStore) : Prop where
  present : ∀ chart, Standing chart state.acknowledged →
    chart ∈ state.file.load
  wellFormed : WellFormed state.file.load
  unreplaced : state.replaced = false

/--
A list is stored over a file that can be parsed or is missing, as it would be
had the file been loaded only now, and under an id of its own where the
request has none; and a store fails without harm to the file, unless the file
has no charts.
-/
def Spares (state : ChartStore) : ChartStep → Prop
  | .load _ => True
  | .store index millis now outcome =>
      ∀ call, state.pending[index]? = some call →
        ∀ stored, call.request.modified call.loaded millis now =
            some stored →
          match outcome with
          | .refused => True
          | .torn => state.file.load = []
          | .written =>
              state.file.isUnparsable = false ∧
                call.request.modified state.file.load millis now =
                    some stored ∧
                  ∀ spec, call.request = .save spec →
                    chartId spec = none →
                      ∀ held ∈ state.file.load,
                        chartId held ≠ some (generatedId millis)

/-! ### One request -/

theorem chartId_stamped (fields : Fields) (id now : String) :
    chartId (stamped fields id now) = some id := by
  have named : (Fields.get (Fields.insert "id" (.string id) fields) "id").bind
      Value.asStr = some id := by
    rw [Fields.get_insert, if_pos rfl]
    rfl
  rw [chartId, stamped]
  split_ifs
  · change (Fields.get (Fields.insert "created_at" _ _) "id").bind _ = _
    rw [Fields.get_insert, if_neg (by decide)]
    exact named
  · exact named

/-- What a successful save does to the list. -/
structure Saved (charts after : List Value) (chart : Value) (id : String) :
    Prop where
  named : chartId chart = some id
  outcome :
    (∃ pos old, charts[pos]? = some old ∧ chartId old = some id ∧
        after = charts.set pos chart) ∨
      ((∀ held ∈ charts, chartId held ≠ some id) ∧
        charts.length < maxCharts ∧ after = charts ++ [chart])

theorem saved_of_saveChart {charts after : List Value} {spec chart : Value}
    {millis : Int} {now : String}
    (saved : saveChart charts spec millis now = .ok (after, chart)) :
    Saved charts after chart ((chartId spec).getD (generatedId millis)) := by
  cases spec with
  | object fields =>
      rw [saveChart] at saved
      dsimp only at saved
      split at saved
      · cases saved
      split at saved
      · rename_i pos found
        cases saved
        obtain ⟨bound, isId, -⟩ :=
          List.findIdx?_eq_some_iff_getElem.mp found
        exact
          { named := chartId_stamped ..
            outcome :=
              Or.inl ⟨pos, _, List.getElem?_eq_getElem bound,
                of_decide_eq_true isId, rfl⟩ }
      · rename_i absent
        split at saved
        · cases saved
        cases saved
        refine
          { named := chartId_stamped ..
            outcome := Or.inr ⟨fun held member => ?_, by omega, rfl⟩ }
        exact of_decide_eq_false
          (List.findIdx?_eq_none_iff.mp absent held member)
  | _ => cases saved

section

variable {charts after : List Value} {chart : Value} {id : String}

section

variable (saved : Saved charts after chart id)

include saved

theorem Saved.mem : chart ∈ after := by
  rcases saved.outcome with ⟨pos, old, isOld, -, rfl⟩ | ⟨-, -, rfl⟩
  · exact List.mem_set (List.getElem?_eq_some_iff.mp isOld).1 chart
  · exact List.mem_append_right _ List.mem_cons_self

theorem Saved.mem_of_mem
    {held : Value} (member : held ∈ charts) (other : chartId held ≠ some id) :
    held ∈ after := by
  rcases saved.outcome with ⟨pos, old, isOld, isId, rfl⟩ | ⟨-, -, rfl⟩
  · obtain ⟨index, bound, isHeld⟩ := List.mem_iff_getElem.mp member
    have different : pos ≠ index := by
      rintro rfl
      rw [List.getElem?_eq_getElem bound, isHeld, Option.some.injEq] at isOld
      exact other (isOld ▸ isId)
    have bound' : index < (charts.set pos chart).length :=
      (List.length_set ..).symm ▸ bound
    rw [← isHeld, ← List.getElem_set_of_ne different chart bound']
    exact List.getElem_mem _
  · exact List.mem_append_left _ member

theorem Saved.wellFormed (before : WellFormed charts) : WellFormed after := by
  rcases saved.outcome with ⟨pos, old, isOld, isId, rfl⟩ | ⟨new, room, rfl⟩
  · refine ⟨?_, by rw [List.length_set]; exact before.bounded⟩
    obtain ⟨bound, atPos⟩ := List.getElem?_eq_some_iff.mp isOld
    have sameIds : (charts.set pos chart).map chartId =
        charts.map chartId := by
      rw [List.map_set, saved.named, ← isId, ← atPos]
      refine List.ext_getElem (List.length_set ..) fun index inSet inMap => ?_
      rw [List.getElem_set]
      split_ifs with same
      · subst same
        exact (List.getElem_map ..).symm
      · rfl
    have throughMap : ∀ list : List Value,
        list.filterMap chartId = (list.map chartId).filterMap (·) :=
      fun list => by
        rw [List.filterMap_map]
        rfl
    rw [throughMap, sameIds, ← throughMap]
    exact before.distinct
  · constructor
    · rw [List.filterMap_append, List.filterMap_cons, saved.named]
      dsimp only
      rw [List.filterMap_nil, List.nodup_append]
      refine ⟨before.distinct, List.nodup_singleton _, ?_⟩
      intro first member second isNew same
      obtain ⟨held, isHeld, isId⟩ := List.mem_filterMap.mp member
      rw [List.mem_singleton.mp isNew] at same
      exact new held isHeld (same ▸ isId)
    · rw [List.length_append, List.length_singleton]
      exact room

end

end

theorem mem_deleteChart {charts : List Value} {id : String} {held : Value} :
    held ∈ deleteChart charts id ↔
      held ∈ charts ∧ chartId held ≠ some id := by
  rw [deleteChart, List.mem_filter, decide_eq_true_eq]

theorem WellFormed.deleteChart {charts : List Value} (id : String)
    (before : WellFormed charts) : WellFormed (deleteChart charts id) where
  distinct :=
    (List.filter_sublist.filterMap _).nodup before.distinct
  bounded := (List.length_filter_le _ _).trans before.bounded

/-! ### One store -/

variable {answer : Acknowledgement}

/-- A chart that stands after an answer was saved by it or stood before. -/
theorem Standing.cases {chart : Value} {acknowledged : List Acknowledgement}
    (standing : Standing chart (answer :: acknowledged)) :
    (∃ asked, answer = .saved asked chart) ∨
      ((∀ id, chartId chart = some id → ¬ answer.Addresses id) ∧
        Standing chart acknowledged) := standing

/-- What is written has the charts that stand after the answer. -/
theorem present_of_modified {charts after : List Value}
    {request : Request} {millis : Int}
    {now : String} {acknowledged : List Acknowledgement}
    (modified : request.modified charts millis now = some (after, answer))
    (new : ∀ spec, request = .save spec → chartId spec = none →
      ∀ held ∈ charts, chartId held ≠ some (generatedId millis))
    (present : ∀ chart, Standing chart acknowledged → chart ∈ charts) :
    ∀ chart, Standing chart (answer :: acknowledged) → chart ∈ after := by
  intro chart standing
  cases request with
  | save spec =>
      rw [Request.modified] at modified
      split at modified
      · rename_i list result saving
        cases modified
        have saved := saved_of_saveChart saving
        rcases standing.cases with ⟨asked, same⟩ | ⟨unaddressed, before⟩
        · cases same
          exact saved.mem
        · have member := present chart before
          refine saved.mem_of_mem member fun isId => ?_
          cases asked : chartId spec with
          | none =>
              rw [asked, Option.getD_none] at isId
              exact new spec rfl asked chart member isId
          | some id =>
              rw [asked, Option.getD_some] at isId
              exact unaddressed id isId asked
      · cases modified
  | delete id =>
      cases modified
      rcases standing.cases with ⟨asked, same⟩ | ⟨unaddressed, before⟩
      · cases same
      · refine mem_deleteChart.mpr ⟨present chart before, fun isId => ?_⟩
        exact unaddressed id isId rfl

theorem WellFormed.modified {charts after : List Value} {request : Request}
    {millis : Int} {now : String} (before : WellFormed charts)
    (modified : request.modified charts millis now = some (after, answer)) :
    WellFormed after := by
  cases request with
  | save spec =>
      rw [Request.modified] at modified
      split at modified
      · rename_i list result saving
        cases modified
        exact (saved_of_saveChart saving).wellFormed before
      · cases modified
  | delete id =>
      cases modified
      exact before.deleteChart id

theorem ChartsKept.perform {state : ChartStore} (kept : ChartsKept state)
    {step : ChartStep} (spares : Spares state step) :
    ChartsKept (state.perform step) := by
  cases step with
  | load request =>
      exact ⟨kept.present, kept.wellFormed, kept.unreplaced⟩
  | store index millis now outcome =>
      rw [ChartStore.perform]
      cases found : state.pending[index]? with
      | none => exact kept
      | some call =>
          dsimp only
          cases changed : call.request.modified call.loaded millis now with
          | none => exact ⟨kept.present, kept.wellFormed, kept.unreplaced⟩
          | some stored =>
              obtain ⟨charts, answer⟩ := stored
              have condition := spares call found (charts, answer) changed
              -- Without a store, only a deletion may have been answered.
              have stillStanding : ∀ {chart}, Standing chart
                  (if answer.isDeleted = true then
                    answer :: state.acknowledged
                  else state.acknowledged) →
                  Standing chart state.acknowledged := by
                intro chart standing
                split_ifs at standing with deleted
                · rcases standing.cases with ⟨asked, same⟩ | ⟨-, before⟩
                  · rw [same] at deleted
                    cases deleted
                  · exact before
                · exact standing
              cases outcome with
              | refused =>
                  refine ⟨fun chart standing => ?_, kept.wellFormed, ?_⟩
                  · simp only [reduceCtorEq, false_or] at standing
                    exact kept.present chart (stillStanding standing)
                  · exact (Bool.or_false _).trans kept.unreplaced
              | torn =>
                  refine ⟨fun chart standing => ?_, ?_, ?_⟩
                  · simp only [reduceCtorEq, false_or] at standing
                    have member := kept.present chart (stillStanding standing)
                    rw [condition] at member
                    cases member
                  · exact ⟨List.nodup_nil, Nat.zero_le _⟩
                  · exact (Bool.or_false _).trans kept.unreplaced
              | written =>
                  obtain ⟨parsable, same, new⟩ := condition
                  refine ⟨?_, kept.wellFormed.modified same, ?_⟩
                  · exact present_of_modified same new kept.present
                  · dsimp only
                    rw [kept.unreplaced, parsable]
                    rfl

/--
In every run whose requests store what they would have stored had they loaded
the file only then, the file keeps what was acknowledged.
-/
theorem chartsKept_of_spares (file : ChartFile) (steps : List ChartStep)
    (wellFormed : WellFormed file.load)
    (spares : Along ChartStore.perform Spares (.start file) steps) :
    ChartsKept (steps.foldl ChartStore.perform (.start file)) :=
  spares.invariant (fun _ _ kept spared => kept.perform spared)
    ⟨fun _ standing => standing.elim, wellFormed, rfl⟩

/-! ## Runs -/

/-- A chart of this id, if any, as a request gives it. -/
def sampleSpec (id : Option String) : Value :=
  .object
    ((id.map fun id => ("id", .string id)).toList ++
      [("sql", .string "SELECT 1"), ("title", .string "Revenue")])

/-- Two charts are saved, one after the other, and one of them is deleted. -/
def turns : List ChartStep :=
  [.load (.save (sampleSpec none)), .store 0 1 "now" .written,
    .load (.save (sampleSpec (some "x"))), .store 0 2 "now" .written,
    .load (.delete "c1"), .store 0 3 "now" .written]

theorem turns_chartsKept :
    ChartsKept (turns.foldl ChartStore.perform (.start .missing)) := by
  refine chartsKept_of_spares .missing turns
    ⟨List.nodup_nil, Nat.zero_le _⟩ ?_
  refine ⟨trivial, ?_, trivial, ?_, trivial, ?_, trivial⟩
  · intro call found stored changed
    cases found
    exact ⟨rfl, changed, fun _ _ _ held member => nomatch member⟩
  · intro call found stored changed
    cases found
    refine ⟨rfl, changed, fun spec isSpec unnamed => ?_⟩
    cases isSpec
    exact absurd unnamed (by decide)
  · intro call found stored changed
    cases found
    exact ⟨rfl, changed, nofun⟩

/-- Two requests load the empty list, and the second store drops a chart. -/
theorem second_save_replaces_first :
    ¬ ChartsKept
        (([.load (.save (sampleSpec (some "a"))),
            .load (.save (sampleSpec (some "b"))),
            .store 1 1 "now" .written, .store 0 2 "now" .written] :
              List ChartStep).foldl ChartStore.perform (.start .missing)) := by
  intro kept
  have member := kept.present
    (stamped [("id", .string "a"), ("sql", .string "SELECT 1"),
      ("title", .string "Revenue")] "a" "now")
    (Or.inr ⟨fun id isId same => ?_, Or.inl ⟨some "a", rfl⟩⟩)
  · have ids := congrArg chartId (List.mem_singleton.mp member)
    revert ids
    decide
  · rw [chartId_stamped] at isId
    cases isId
    have addressed : chartId (sampleSpec (some "b")) = some "a" := same
    revert addressed
    decide

end OpenSnow.Server.Charts
