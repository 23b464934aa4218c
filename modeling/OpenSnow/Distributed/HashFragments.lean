import Mathlib.Algebra.Group.Int.Defs
import Mathlib.Data.List.Forall2
import OpenSnow.Distributed.Partitioner
import OpenSnow.Foundation.Buckets
import OpenSnow.Foundation.SeparatorJoin

/-!
# What the fragments of a hash partitioned query return

A fragment filters the query by the bucket of a column's hash.  The filter is
read as SQL reads it: an expression over `NULL` is `NULL`, `MOD` is the
truncated remainder, and a row is kept only when the condition is true.  A row
whose hash column is `NULL` is therefore kept by no fragment; every other row
is kept by exactly one.
-/

namespace OpenSnow.Distributed

open Arrow
open Foundation
open Foundation.Buckets

variable {Row Value : Type}

/-! ## The filter -/

/-- Integer expressions over the columns of a row. -/
inductive Scalar where
  | hash (column : String)
  | literal (value : Nat)
  | mod (dividend divisor : Scalar)
  | abs (operand : Scalar)
deriving DecidableEq, Repr

def Scalar.text : Scalar → String
  | .hash column => "HASH(" ++ column ++ ")"
  | .literal value => toString value
  | .mod dividend divisor =>
      "MOD(" ++ dividend.text ++ ", " ++ divisor.text ++ ")"
  | .abs operand => "ABS(" ++ operand.text ++ ")"

/-- The value of an expression, if it is not `NULL`. -/
def Scalar.eval (hash : Value → Int) (column : String → Option Value) :
    Scalar → Option Int
  | .hash name => (column name).map hash
  | .literal value => some value
  | .mod dividend divisor =>
      match dividend.eval hash column, divisor.eval hash column with
      | some left, some right => some (left.tmod right)
      | _, _ => none
  | .abs operand =>
      (operand.eval hash column).map fun value => value.natAbs

/-- All columns of the rows of a query for which an equation is true. -/
structure FilteredQuery where
  inner : String
  left : Scalar
  right : Scalar
deriving DecidableEq, Repr

def FilteredQuery.text (query : FilteredQuery) : String :=
  "SELECT * FROM (" ++ query.inner ++ ") AS __opensnow_inner WHERE " ++
    query.left.text ++ " = " ++ query.right.text

theorem FilteredQuery.text_eq (query : FilteredQuery) :
    query.text =
      "SELECT * FROM (" ++ query.inner ++ ") AS __opensnow_inner WHERE " ++
        query.left.text ++ " = " ++ query.right.text :=
  rfl

/-- The truth of the condition; it is unknown when a side is `NULL`. -/
def FilteredQuery.truth (query : FilteredQuery) (hash : Value → Int)
    (column : String → Option Value) : Option Bool :=
  match query.left.eval hash column, query.right.eval hash column with
  | some left, some right => some (left = right)
  | _, _ => none

/-- The query of a fragment of a hash partitioned query. -/
def hashQuery (sql column : String) (count index : Nat) : FilteredQuery where
  inner := sql
  left := .abs (.mod (.hash column) (.literal count))
  right := .literal index

theorem fragmentSql_hashColumn (sql column : String) (count index : Nat) :
    fragmentSql sql count index (.hashColumn column) =
      (hashQuery sql column count index).text := by
  have written :
      fragmentSql sql count index (.hashColumn column) =
        "SELECT * FROM (" ++ sql ++
          ") AS __opensnow_inner WHERE ABS(MOD(HASH(" ++ column ++ "), " ++
          toString count ++ ")) = " ++ toString index :=
    rfl
  apply String.toList_inj.mp
  rw [written, FilteredQuery.text_eq]
  simp [hashQuery, Scalar.text]

theorem hashQuery_text_inj {sql column : String} {count index other : Nat}
    (same :
      (hashQuery sql column count index).text =
        (hashQuery sql column count other).text) : index = other := by
  have chars := congrArg String.toList same
  simp only [FilteredQuery.text_eq, hashQuery, Scalar.text,
    String.toList_append,
    List.append_cancel_left_eq, String.toList_inj] at chars
  exact NumberedNames.toString_inj.mp chars

/-! ## What a query returns -/

/-- The rows that a query returns, and what their columns hold. -/
structure Relation (Row Value : Type) where
  schema : Schema
  rows : List Row
  /-- The value of a column, if it is not `NULL`. -/
  column : String → Row → Option Value

/-- The rows of some batches. -/
def rowsOf (batches : List (RecordBatch Row)) : List Row :=
  batches.flatMap RecordBatch.rows

/-- A filter keeps the rows for which its condition is true. -/
def FilteredQuery.kept (query : FilteredQuery) (hash : Value → Int)
    (relation : Relation Row Value) : List Row :=
  relation.rows.filter fun row =>
    query.truth hash (fun name => relation.column name row) = some true

/-- Batches that answer a filtered query, its rows in any order. -/
def FilteredQuery.AnsweredBy (query : FilteredQuery) (hash : Value → Int)
    (relation : Relation Row Value) (batches : List (RecordBatch Row)) :
    Prop :=
  (∀ batch ∈ batches, batch.schema = relation.schema) ∧
    (rowsOf batches).Perm (query.kept hash relation)

/-- The workers answer the fragments of a query as SQL reads them. -/
def ReadsFragments (returns : String → List (RecordBatch Row) → Prop)
    (hash : Value → Int) (relation : Relation Row Value)
    (sql column : String) (count : Nat) : Prop :=
  ∀ index < count, ∀ batches,
    returns (hashQuery sql column count index).text batches ↔
      (hashQuery sql column count index).AnsweredBy hash relation batches

/--
Exactly one fragment of the plan returns each row of the relation, and the
merged answers to all fragments are the rows of the relation in some order.
-/
def PartitionsRows (returns : String → List (RecordBatch Row) → Prop)
    (relation : Relation Row Value) (plan : PartitionedPlan) : Prop :=
  (∀ row ∈ relation.rows, ∃! fragment, fragment ∈ plan.fragments ∧
    ∃ batches, returns fragment.sql batches ∧ row ∈ rowsOf batches) ∧
  ∀ answers,
    List.Forall₂ (fun fragment batches => returns fragment.sql batches)
        plan.fragments answers →
      ∃ merged, mergeResults answers = .ok merged ∧
        (rowsOf merged).Perm relation.rows

/-! ## Buckets -/

/-- The fragment whose condition is true for a row. -/
def bucketOf (hash : Value → Int) (relation : Relation Row Value)
    (column : String) (count : Nat) (row : Row) : Option Nat :=
  (relation.column column row).map fun value =>
    ((hash value).tmod count).natAbs

section

variable {hash : Value → Int} {relation : Relation Row Value}
  {column sql : String} {count : Nat}

theorem kept_hashQuery (index : Nat) :
    (hashQuery sql column count index).kept hash relation =
      bucketRows (bucketOf hash relation column count) relation.rows
        index := by
  apply List.filter_congr
  intro row _
  rw [decide_eq_decide]
  simp only [FilteredQuery.truth, hashQuery, Scalar.eval, bucketOf]
  cases relation.column column row with
  | none => simp
  | some value =>
      simp only [Option.map_some, Option.some.injEq, decide_eq_true_eq]
      exact Int.natCast_inj

theorem natAbs_tmod_lt (value : Int) (positive : 0 < count) :
    (value.tmod count).natAbs < count := by
  rw [Int.natAbs_tmod, Int.natAbs_natCast]
  exact Nat.mod_lt _ positive

theorem fragments_splitQuery_hashColumn (queryId : String)
    (several : 2 ≤ count) :
    (splitQuery queryId sql count (.hashColumn column)).fragments =
      (List.range count).map fun index =>
        { partitionId := index
          totalPartitions := count
          sql := (hashQuery sql column count index).text } := by
  have atLeastOne : max count 1 = count := by omega
  have notOne : ¬ count = 1 := by omega
  simp only [splitQuery, atLeastOne, if_neg notOne, fragmentSql_hashColumn]

variable {returns : String → List (RecordBatch Row) → Prop}

/-- A fragment returns the rows of its bucket. -/
theorem exists_answer_iff
    (reads : ReadsFragments returns hash relation sql column count)
    {index : Nat} (below : index < count) {row : Row} :
    (∃ batches, returns (hashQuery sql column count index).text batches ∧
        row ∈ rowsOf batches) ↔
      row ∈ relation.rows ∧
        bucketOf hash relation column count row = some index := by
  have kept : (hashQuery sql column count index).kept hash relation = _ :=
    kept_hashQuery index
  rw [← mem_bucketRows, ← kept]
  constructor
  · rintro ⟨batches, answer, member⟩
    exact ((reads index below batches).mp answer).2.mem_iff.mp member
  · intro member
    let batch : RecordBatch Row :=
      ⟨relation.schema, (hashQuery sql column count index).kept hash relation⟩
    have whole : rowsOf [batch] = batch.rows := List.flatMap_singleton _ _
    refine ⟨[batch], (reads index below _).mpr ⟨?_, ?_⟩, whole ▸ member⟩
    · intro other isBatch
      rw [List.mem_singleton.mp isBatch]
    · rw [whole]

/-- Answers to all fragments have the rows of all buckets. -/
theorem rowsOf_answers
    (reads : ReadsFragments returns hash relation sql column count) :
    ∀ {indices : List Nat} {answers : List (List (RecordBatch Row))},
      (∀ index ∈ indices, index < count) →
      List.Forall₂ (fun index batches =>
        returns (hashQuery sql column count index).text batches)
        indices answers →
      (∀ batch ∈ answers.flatten, batch.schema = relation.schema) ∧
        (rowsOf answers.flatten).Perm
          (indices.flatMap
            (bucketRows (bucketOf hash relation column count) relation.rows))
  | _, _, _, .nil => ⟨fun _ => nofun, List.Perm.refl []⟩
  | index :: _, batches :: _, below, .cons answer rest => by
      rw [List.forall_mem_cons] at below
      obtain ⟨schemas, rows⟩ := (reads index below.1 batches).mp answer
      obtain ⟨restSchemas, restRows⟩ := rowsOf_answers reads below.2 rest
      rw [kept_hashQuery] at rows
      rw [List.flatten_cons]
      constructor
      · exact List.forall_mem_append.mpr ⟨schemas, restSchemas⟩
      · rw [rowsOf, List.flatMap_append, List.flatMap_cons]
        exact rows.append restRows

theorem mergeResults_of_schema {schema : Schema}
    {answers : List (List (RecordBatch Row))}
    (all : ∀ batch ∈ answers.flatten, batch.schema = schema) :
    mergeResults answers = .ok answers.flatten := by
  apply mergeResults_of_oneSchema
  intro left leftMem right rightMem
  rw [all left leftMem, all right rightMem]

end

/-! ## Workers that read the fragments -/

/-- Workers that know the fragments of one query, and answer them as SQL. -/
def fragmentWorkers (hash : Value → Int) (relation : Relation Row Value)
    (sql column : String) (count : Nat) (text : String)
    (batches : List (RecordBatch Row)) : Prop :=
  ∃ index < count, text = (hashQuery sql column count index).text ∧
    (hashQuery sql column count index).AnsweredBy hash relation batches

theorem fragmentWorkers_reads (hash : Value → Int)
    (relation : Relation Row Value) (sql column : String) (count : Nat) :
    ReadsFragments (fragmentWorkers hash relation sql column count) hash
      relation sql column count := by
  intro index below batches
  constructor
  · rintro ⟨other, -, same, answered⟩
    rwa [hashQuery_text_inj same]
  · intro answered
    exact ⟨index, below, rfl, answered⟩

/-- Two rows whose hashes are the ends of the 64-bit integers. -/
def extremeRows : Relation Nat Int where
  schema := [⟨"id", "Int64", true⟩]
  rows := [0, 1]
  column _ row := if row = 0 then some (-2 ^ 63) else some (2 ^ 63 - 1)

/-- One row, and `NULL` in its only column. -/
def nullRow : Relation Nat Int where
  schema := [⟨"id", "Int64", true⟩]
  rows := [0]
  column _ _ := none

end OpenSnow.Distributed
