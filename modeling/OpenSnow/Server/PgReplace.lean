import OpenSnow.Server.PgSink

/-!
# Exports that replace a table

An export that replaces its target drops and creates the table and inserts the
rows in statements of their own.  The state after each of them can be the last
one, and only the first and the last are states that a caller is promised.
-/

namespace OpenSnow.Server.PgSink

open Foundation

variable {Floating Row : Type}

/-! ## The states in between -/

/-- The table that is created for the rows of these groups. -/
def recreated (target : Target Row) (cols : List TargetColumn)
    (chunks : List (List (List String))) : Table Row :=
  ⟨cols, [], chunks.flatten.map (target.stored cols cols)⟩

/-- What so many statements leave of the table. -/
def leftBy (target : Target Row) (cols : List TargetColumn)
    (chunks : List (List (List String))) (before : Option (Table Row)) :
    Nat → Option (Table Row)
  | 0 | 1 => before
  | 2 => none
  | inserted + 3 => some (recreated target cols (chunks.take inserted))

theorem foldl_insertions (target : Target Row) (cols : List TargetColumn)
    (schema table : String) (chunks : List (List (List String)))
    (rows : List Row) :
    (chunks.map (Statement.insert schema table cols)).foldl target.apply
        (some ⟨cols, [], rows⟩) =
      some ⟨cols, [], rows ++ chunks.flatten.map (target.stored cols cols)⟩ := by
  induction chunks generalizing rows with
  | nil => simp
  | cons chunk chunks ih =>
      rw [List.map_cons, List.foldl_cons, Target.apply, Option.map_some, ih,
        List.flatten_cons, List.map_append, List.append_assoc]

theorem foldl_steps (target : Target Row) (cols : List TargetColumn)
    (schema table : String) (chunks : List (List (List String)))
    (before : Option (Table Row)) (count : Nat) :
    (((steps cols schema table .replace chunks).map Prod.snd).take count).foldl
        target.apply before =
      leftBy target cols chunks before count := by
  have insertions :
      (chunks.map (insertion cols schema table)).map Prod.snd =
        chunks.map (Statement.insert schema table cols) := by
    rw [List.map_map]
    rfl
  rw [steps, if_pos rfl, List.map_cons, List.map_append, insertions]
  rcases count with _ | _ | _ | inserted
  · rfl
  · rfl
  · rfl
  · have inserts := foldl_insertions target cols schema table
      (chunks.take inserted) []
    rw [List.map_take] at inserts
    exact inserts

/--
The table is as before after so many statements: the first drops nothing, the
second drops only what there is, and the others build a table of their own.
-/
def Spares (target : Target Row) (cols : List TargetColumn)
    (chunks : List (List (List String))) (before : Option (Table Row))
    (applied : Nat) : Prop :=
  applied ≤ 1 ∨ (applied = 2 ∧ before = none) ∨
    ∃ inserted, applied = inserted + 3 ∧
      before = some (recreated target cols (chunks.take inserted))

variable {target : Target Row} {before : Option (Table Row)}

theorem leftBy_eq_iff {cols : List TargetColumn}
    {chunks : List (List (List String))} {applied : Nat} :
    leftBy target cols chunks before applied = before ↔
      Spares target cols chunks before applied := by
  match applied with
  | 0 => simp [leftBy, Spares]
  | 1 => simp [leftBy, Spares]
  | 2 => simp [leftBy, Spares, eq_comm]
  | inserted + 3 =>
      have many : ¬ inserted + 3 ≤ 1 := by omega
      have more : inserted + 3 ≠ 2 := by omega
      simp [leftBy, Spares, many, more, eq_comm]

/-! ## Casts -/

/-- Every column of a batch with rows is cast. -/
def AllCast (casts : Casts Floating)
    (batches : List (RecordBatch Floating)) : Prop :=
  ∀ batch ∈ batches, batch.numRows ≠ 0 →
    ∀ column ∈ batch.columns, casts.castError column = none

variable {casts : Casts Floating}

theorem exists_mapM_cast_iff {columns : List (Column Floating)} :
    (∃ texts, columns.mapM casts.cast = .ok texts) ↔
      ∀ column ∈ columns, casts.castError column = none := by
  induction columns with
  | nil => exact iff_of_true ⟨[], rfl⟩ fun _ member => absurd member List.not_mem_nil
  | cons column columns ih =>
      rw [List.forall_mem_cons, ← ih, List.mapM_cons, Casts.cast]
      cases casts.castError column with
      | some reason =>
          refine iff_of_false ?_ fun both => Option.some_ne_none reason both.1
          rintro ⟨texts, ok⟩
          cases ok
      | none =>
          rw [eq_self_iff_true, true_and]
          constructor
          · rintro ⟨texts, ok⟩
            rcases except_bind_ok ok with ⟨first, -, later⟩
            rcases except_bind_ok later with ⟨others, areOthers, -⟩
            exact ⟨others, areOthers⟩
          · rintro ⟨others, areOthers⟩
            rw [areOthers]
            exact ⟨_, rfl⟩

theorem groups_snd_eq_false_iff {casts : Casts Floating}
    {cols : List TargetColumn} {batches : List (RecordBatch Floating)} :
    (groups casts cols batches).2 = false ↔ AllCast casts batches := by
  induction batches with
  | nil => exact iff_of_true rfl fun _ member => absurd member List.not_mem_nil
  | cons batch rest ih =>
      rw [AllCast, List.forall_mem_cons, ← AllCast, ← ih, groups]
      by_cases empty : batch.numRows = 0
      · rw [if_pos empty]
        exact (and_iff_right fun some => absurd empty some).symm
      · rw [if_neg empty, imp_iff_right empty, ← exists_mapM_cast_iff,
          RecordBatch.tuples]
        cases batch.columns.mapM casts.cast with
        | error reason =>
            refine iff_of_false (Bool.noConfusion ·) ?_
            rintro ⟨⟨texts, ok⟩, -⟩
            cases ok
        | ok texts => exact (and_iff_right ⟨texts, rfl⟩).symm

/-! ## Exports -/

/-- The result set that an export loads, if it comes that far. -/
def Export.reached (request : Export Floating) : Option (ResultSet Floating) :=
  if !isSafeIdent request.schema || !isSafeIdent request.table then none
  else
    match request.queried with
    | .error _ => none
    | .ok result =>
        if result.batches ≠ [] ∧ request.connection = .connected then
          some result
        else none

def ResultSet.cols (result : ResultSet Floating) : List TargetColumn :=
  targetColumns result.fields

variable {request : Export Floating}

/-- An export that sends nothing is a failure. -/
theorem export_of_not_reached (casts : Casts Floating) (target : Target Row)
    (stops : request.reached = none) (mode : WriteMode) :
    ∃ failure, exportToPostgres casts target request mode = .fail failure := by
  rw [Export.reached] at stops
  rw [exportToPostgres]
  split
  · exact ⟨_, rfl⟩
  · rename_i safe
    rw [if_neg safe] at stops
    cases queried : request.queried with
    | error reason => exact ⟨_, rfl⟩
    | ok result =>
        rw [queried] at stops
        dsimp only at stops ⊢
        cases batches : result.batches with
        | nil => exact ⟨_, rfl⟩
        | cons first rest =>
            cases connection : request.connection with
            | timedOut => exact ⟨_, rfl⟩
            | refused => exact ⟨_, rfl⟩
            | connected =>
                rw [if_pos ⟨by rw [batches]; exact List.cons_ne_nil _ _,
                  connection⟩] at stops
                cases stops

variable {result : ResultSet Floating}

theorem export_of_reached (casts : Casts Floating) (target : Target Row)
    (comes : request.reached = some result) (mode : WriteMode) :
    request.queried = .ok result ∧
      exportToPostgres casts target request mode =
        load casts target result.cols request.schema request.table
          result.batches mode := by
  rw [Export.reached] at comes
  rw [exportToPostgres]
  split at comes
  · cases comes
  · rename_i safe
    rw [if_neg safe]
    cases queried : request.queried with
    | error reason =>
        rw [queried] at comes
        cases comes
    | ok found =>
        rw [queried] at comes
        dsimp only at comes ⊢
        split at comes
        · rename_i both
          cases comes
          refine ⟨rfl, ?_⟩
          cases batches : result.batches with
          | nil => exact absurd batches both.1
          | cons first rest =>
              have isField : first.fields = result.fields :=
                result.uniform first (by rw [batches]; exact List.mem_cons_self)
              dsimp only
              rw [both.2, isField, ← batches, ResultSet.cols]
        · cases comes

/-- The table with the rows of the result set and no others. -/
def exported (casts : Casts Floating) (target : Target Row)
    (result : ResultSet Floating) : Table Row :=
  ⟨result.cols, [],
    (literalRows casts result.batches).map
      (target.stored result.cols result.cols)⟩

/--
After a failure the target is as it was before, and after a success it is the
exported table.
-/
def AllOrNothing (casts : Casts Floating) (target : Target Row)
    (request : Export Floating) (before : Option (Table Row)) :
    Except String Nat × Session Row → Prop
  | (.error _, after) => after.table = before
  | (.ok _, after) =>
      ∃ result, request.queried = .ok result ∧
        after.table = some (exported casts target result)

/-- The statements of an export that loads a result set. -/
def Export.steps (casts : Casts Floating) (request : Export Floating)
    (result : ResultSet Floating) : List (String × Statement) :=
  PgSink.steps result.cols request.schema request.table .replace
    (groups casts result.cols result.batches).1

theorem foldl_all_steps (casts : Casts Floating) (target : Target Row)
    (request : Export Floating) (result : ResultSet Floating)
    (before : Option (Table Row)) :
    ((request.steps casts result).map Prod.snd).foldl target.apply before =
      some (recreated target result.cols
        (groups casts result.cols result.batches).1) := by
  have whole := foldl_steps target result.cols request.schema request.table
    (groups casts result.cols result.batches).1 before
    (request.steps casts result).length
  rw [Export.steps, List.take_of_length_le (by rw [List.length_map])] at whole
  rw [Export.steps, whole, steps, if_pos rfl]
  simp only [List.length_cons, List.length_append, List.length_map,
    List.length_nil]
  rw [Nat.zero_add, Nat.add_comm 2, leftBy, List.take_length]

/-- A load that carries out all statements either exports all or stops at a cast. -/
theorem load_of_noneFails (queried : request.queried = .ok result)
    (none : NoneFails target.replies 0 (request.steps casts result).length) :
    AllOrNothing casts target request before
        (load casts target result.cols request.schema request.table
          result.batches .replace ⟨before, []⟩) ↔
      AllCast casts result.batches ∨
        Spares target result.cols
          (groups casts result.cols result.batches).1 before
          (request.steps casts result).length := by
  have sends := @sendAll_of_noneFails Row target ⟨before, []⟩ _ none
  rw [load_eq, ← Export.steps, Effect.bind_ok sends, foldl_all_steps,
    ← @groups_snd_eq_false_iff Floating casts result.cols, finish]
  cases castFails : (groups casts result.cols result.batches).2 with
  | false =>
      rw [if_neg Bool.false_ne_true]
      refine iff_of_true ⟨result, queried, ?_⟩ (Or.inl rfl)
      rw [recreated, exported, ResultSet.cols,
        flatten_groups result.uniform castFails]
  | true =>
      rw [if_pos rfl, or_iff_right (Bool.noConfusion ·), ← leftBy_eq_iff]
      have whole := foldl_steps target result.cols request.schema
        request.table (groups casts result.cols result.batches).1 before
        (request.steps casts result).length
      rw [← Export.steps, List.take_of_length_le (by rw [List.length_map]),
        foldl_all_steps] at whole
      rw [← whole]
      rfl

theorem load_of_failure
    (fails : ¬ NoneFails target.replies 0 (request.steps casts result).length) :
    AllOrNothing casts target request before
        (load casts target result.cols request.schema request.table
          result.batches .replace ⟨before, []⟩) ↔
      Spares target result.cols
        (groups casts result.cols result.batches).1 before
        (carriedOut target.replies 0
          (request.steps casts result).length) := by
  rcases @sendAll_of_failure Row target ⟨before, []⟩ _ fails with
    ⟨failure, after, sends, left⟩
  rw [load_eq, ← Export.steps, Effect.bind_error sends, ← leftBy_eq_iff,
    ← foldl_steps target result.cols request.schema request.table, ← Export.steps]
  change after.table = before ↔ _
  rw [left]
  rfl

/--
An export that replaces a table is atomic exactly when every statement is
carried out and every column cast, or the statements that are carried out leave
the table as it was.
-/
theorem replace_allOrNothing_iff (casts : Casts Floating) (target : Target Row)
    (request : Export Floating) (before : Option (Table Row)) :
    AllOrNothing casts target request before
        (exportToPostgres casts target request .replace ⟨before, []⟩) ↔
      ∀ result, request.reached = some result →
        (NoneFails target.replies 0 (request.steps casts result).length ∧
            AllCast casts result.batches) ∨
          Spares target result.cols
            (groups casts result.cols result.batches).1 before
            (carriedOut target.replies 0
              (request.steps casts result).length) := by
  cases comes : request.reached with
  | none =>
      rcases export_of_not_reached casts target comes .replace with
        ⟨failure, fails⟩
      rw [fails]
      exact iff_of_true rfl fun _ impossible => nomatch impossible
  | some result =>
      rcases export_of_reached casts target comes .replace with
        ⟨queried, loads⟩
      rw [loads]
      refine Iff.trans ?_
        ⟨fun holds _ same => Option.some.inj same ▸ holds,
          fun all => all result rfl⟩
      by_cases none :
          NoneFails target.replies 0 (request.steps casts result).length
      · rw [load_of_noneFails queried none, carriedOut_of_noneFails none,
          and_iff_right none]
      · rw [load_of_failure none, or_iff_right fun both => none both.1]

/-! ## A table that is lost -/

/-- The result of a join that selects a column of the same name twice. -/
def joinedIds : ResultSet Unit where
  fields := [⟨"id", .int64⟩, ⟨"id", .int64⟩]
  batches :=
    [⟨1, [⟨⟨"id", .int64⟩, [some (.integer 1)], by simp [Datum.InType]⟩,
        ⟨⟨"id", .int64⟩, [some (.integer 2)], by simp [Datum.InType]⟩],
      by simp⟩]
  uniform := by simp [RecordBatch.fields]

/-- The target rejects the third statement: a column name is given twice. -/
def rejectsTwins : Target (List String) where
  stored _ _ literals := literals
  replies number := if number = 2 then .failed false else .carriedOut

/-- Integers are shown without any of these. -/
def integerCasts : Casts Unit where
  shownFinite _ _ := ""
  shownInstant _ _ _ := ""
  castError _ := none

def joinedExport : Export Unit :=
  ⟨"public", "orders", .ok joinedIds, .connected⟩

def orders : Table (List String) := ⟨[("total", .bigint)], [], [["10"]]⟩

/-- The export fails, and the table that was to be replaced is gone. -/
theorem replaced_table_lost :
    ¬ AllOrNothing integerCasts rejectsTwins joinedExport (some orders)
        (exportToPostgres integerCasts rejectsTwins joinedExport .replace
          ⟨some orders, []⟩) := by
  have safe : (!isSafeIdent "public" || !isSafeIdent "orders") = false := by
    decide
  have unsafeNot :
      ¬ (!isSafeIdent joinedExport.schema ||
          !isSafeIdent joinedExport.table) = true := by
    rw [joinedExport, safe]
    exact Bool.false_ne_true
  rw [exportToPostgres, if_neg unsafeNot]
  intro same
  change none = some orders at same
  cases same

end OpenSnow.Server.PgSink
