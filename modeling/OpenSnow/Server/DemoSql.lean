import OpenSnow.Rust.Text

/-!
# Validation of demo SQL

The wire protocol and the REST routes each have a validator.  The two check
the same things in the same order and answer with the same messages; how they
find statements, keywords and names is their own.
-/

namespace OpenSnow.Server.DemoSql

open Rust.Text

def maxDemoQueryBytes : Nat := 64 * 1024

def sqlCompatibilityDoc : String := "docs/SQL_COMPATIBILITY.md"

/-- What a validator does in its own way. -/
structure Scanners where
  splitSqlStatements : String → List String
  firstKeyword : String → String
  createRelationTarget : String → Option String
  createMaterializationQuery : String → Option String
  isSupportedDemoStatement : String → Bool

def isValidDemoRelationName (name : String) : Bool :=
  !name.isEmpty && name.utf8ByteSize ≤ 128 &&
    name.toList.all (fun ch => ch.isAlphanum || ch == '_') &&
    name.toList.head?.any (fun ch => ch.isAlpha || ch == '_')

namespace Scanners

variable (scanners : Scanners)

def validateDemoMaterializationQuery (sql : String) : Except String Unit :=
  match scanners.createMaterializationQuery sql with
  | none => .ok ()
  | some querySql =>
      match scanners.firstKeyword querySql with
      | "SELECT" | "WITH" => .ok ()
      | keyword =>
          .error
            ("Unsupported SQL statement for the external demo: CREATE " ++
              "materialization query must start with SELECT or WITH, got " ++
              keyword ++ ". See " ++ sqlCompatibilityDoc ++ ".")

/-- The checks of one statement in `validate_demo_sql`. -/
def validateStatement (statement : String) : Except String String :=
  match
    (scanners.createRelationTarget statement).filter
      (!isValidDemoRelationName ·)
  with
  | some target =>
      .error
        ("invalid demo table identifier: " ++ target ++
          ". Use an unquoted table name with letters, numbers, and " ++
          "underscores only. See " ++ sqlCompatibilityDoc ++ ".")
  | none =>
      match scanners.validateDemoMaterializationQuery statement with
      | .error message => .error message
      | .ok () =>
          if scanners.isSupportedDemoStatement statement then .ok statement
          else
            .error
              ("Unsupported SQL statement for the external demo: " ++
                scanners.firstKeyword statement ++
                ". Supported demo statements include SELECT/WITH/EXPLAIN, " ++
                "SHOW, DESCRIBE, CREATE TABLE AS SELECT with safe " ++
                "identifiers, CREATE/REFRESH MATERIALIZED VIEW, and " ++
                "warehouse SHOW/CREATE/ALTER/USE. Use /api/v1/ingest for " ++
                "demo loads. See " ++ sqlCompatibilityDoc ++ ".")

def validateDemoSql (sql : String) : Except String String :=
  if (trim sql.toList).isEmpty then
    .error "SQL must not be empty. Try: SELECT 1 AS smoke"
  else if maxDemoQueryBytes < sql.utf8ByteSize then
    .error
      ("SQL text is too large for the external demo (" ++
        toString maxDemoQueryBytes ++ " bytes max). Use a smaller statement " ++
        "or load data through documented ingest paths.")
  else
    match scanners.splitSqlStatements sql with
    | [statement] => scanners.validateStatement statement
    | statements =>
        .error
          ("OpenSnow demo accepts one SQL statement per request; received " ++
            toString statements.length ++ ". Split multi-step workflows " ++
            "into separate requests. See " ++ sqlCompatibilityDoc ++ ".")

/-! ## What is accepted -/

/-- The statement passes the checks of one statement. -/
structure Admits (statement : String) : Prop where
  target : ∀ name, scanners.createRelationTarget statement = some name →
    isValidDemoRelationName name
  query : ∀ querySql,
    scanners.createMaterializationQuery statement = some querySql →
      scanners.firstKeyword querySql = "SELECT" ∨
        scanners.firstKeyword querySql = "WITH"
  supported : scanners.isSupportedDemoStatement statement

/-- A text is within the limits of a request. -/
def WithinLimits (sql : String) : Prop :=
  trim sql.toList ≠ [] ∧ sql.utf8ByteSize ≤ maxDemoQueryBytes

variable {scanners}

theorem validateDemoMaterializationQuery_ok_iff {statement : String} :
    scanners.validateDemoMaterializationQuery statement = .ok () ↔
      ∀ querySql,
        scanners.createMaterializationQuery statement = some querySql →
          scanners.firstKeyword querySql = "SELECT" ∨
            scanners.firstKeyword querySql = "WITH" := by
  rw [validateDemoMaterializationQuery]
  cases scanners.createMaterializationQuery statement with
  | none => simp
  | some querySql =>
      simp only [Option.some.injEq, forall_eq']
      split
      · rename_i select
        simp [select]
      · rename_i withList
        simp [withList]
      · rename_i notSelect notWith
        simp only [reduceCtorEq, false_iff, not_or]
        exact ⟨notSelect, notWith⟩

theorem validateStatement_ok_iff {statement accepted : String} :
    scanners.validateStatement statement = .ok accepted ↔
      accepted = statement ∧ scanners.Admits statement := by
  rw [validateStatement]
  cases wrongTarget :
      (scanners.createRelationTarget statement).filter
        (!isValidDemoRelationName ·) with
  | some target =>
      rcases Option.filter_eq_some_iff.mp wrongTarget with ⟨named, invalid⟩
      simp only [reduceCtorEq, false_iff, not_and]
      intro _ admits
      rw [admits.target target named] at invalid
      cases invalid
  | none =>
      have target : ∀ name,
          scanners.createRelationTarget statement = some name →
            isValidDemoRelationName name := by
        intro name named
        have valid := Option.filter_eq_none_iff.mp wrongTarget name named
        simpa using valid
      cases checked :
          scanners.validateDemoMaterializationQuery statement with
      | error message =>
          simp only [reduceCtorEq, false_iff, not_and]
          intro _ admits
          rw [validateDemoMaterializationQuery_ok_iff.mpr admits.query]
            at checked
          cases checked
      | ok passed =>
          have query := validateDemoMaterializationQuery_ok_iff.mp checked
          by_cases supported : scanners.isSupportedDemoStatement statement
          · rw [if_pos supported, Except.ok.injEq]
            exact
              ⟨fun same => ⟨same.symm, ⟨target, query, supported⟩⟩,
                fun accepts => accepts.1.symm⟩
          · rw [if_neg supported]
            simp only [reduceCtorEq, false_iff, not_and]
            exact fun _ admits => supported admits.supported

/-- A text is accepted with its one statement. -/
theorem validateDemoSql_ok_iff {sql accepted : String} :
    scanners.validateDemoSql sql = .ok accepted ↔
      WithinLimits sql ∧ scanners.splitSqlStatements sql = [accepted] ∧
        scanners.Admits accepted := by
  rw [validateDemoSql, WithinLimits]
  by_cases empty : (trim sql.toList).isEmpty
  · rw [if_pos empty]
    rw [List.isEmpty_iff] at empty
    simp [empty]
  · rw [if_neg empty]
    rw [List.isEmpty_iff] at empty
    by_cases large : maxDemoQueryBytes < sql.utf8ByteSize
    · rw [if_pos large]
      simp [Nat.not_le.mpr large]
    · rw [if_neg large]
      simp only [ne_eq, empty, not_false_eq_true, true_and,
        Nat.not_lt.mp large]
      split
      · rename_i statement one
        rw [validateStatement_ok_iff, one, List.cons.injEq]
        constructor
        · rintro ⟨rfl, admits⟩
          exact ⟨⟨rfl, rfl⟩, admits⟩
        · rintro ⟨⟨rfl, -⟩, admits⟩
          exact ⟨rfl, admits⟩
      · rename_i several
        simp only [reduceCtorEq, false_iff, not_and]
        intro one
        exact absurd one (several accepted)

end Scanners

end OpenSnow.Server.DemoSql
