import Mathlib.Data.List.Nodup
import Mathlib.Data.List.Perm.Basic
import Mathlib.Tactic.Common

/-!
# Rows with a primary key

A table whose rows have different keys, with the lookup of a key and the one
write that all of them come down to: put a row in the place of the row with
its key, or behind all others.
-/

namespace OpenSnow.Foundation

/-- A table whose rows have different keys. -/
structure Keyed {Row Key : Type} (key : Row → Key) where
  rows : List Row
  distinct : (rows.map key).Nodup

namespace Keyed

variable {Row Key : Type} {key : Row → Key}

def empty : Keyed key where
  rows := []
  distinct := List.nodup_nil

@[ext]
theorem ext {left right : Keyed key} (rows : left.rows = right.rows) :
    left = right := by
  cases left
  cases right
  cases rows
  rfl

variable [DecidableEq Key]

/-- The row with a key. -/
def find (table : Keyed key) (wanted : Key) : Option Row :=
  table.rows.find? fun row => key row = wanted

@[simp]
theorem find_empty (wanted : Key) :
    (empty : Keyed key).find wanted = none :=
  rfl

variable {table : Keyed key} {wanted : Key} {row : Row}

theorem find_eq_some :
    table.find wanted = some row ↔ row ∈ table.rows ∧ key row = wanted := by
  constructor
  · intro found
    exact ⟨List.mem_of_find?_eq_some found,
      by simpa using List.find?_some found⟩
  · rintro ⟨member, rfl⟩
    obtain ⟨held, found⟩ :
        ∃ held, table.find (key row) = some held :=
      Option.isSome_iff_exists.mp
        (List.find?_isSome.mpr ⟨row, member, by simp⟩)
    have heldMember := List.mem_of_find?_eq_some found
    have sameKey : key held = key row := by
      simpa using List.find?_some found
    rw [found, List.inj_on_of_nodup_map table.distinct heldMember member
      sameKey]

theorem key_of_find (found : table.find wanted = some row) : key row = wanted:=
  (find_eq_some.mp found).2

theorem mem_of_find (found : table.find wanted = some row) : row ∈ table.rows:=
  (find_eq_some.mp found).1

theorem find_of_mem
    (member : row ∈ table.rows) : table.find (key row) = some row :=
  find_eq_some.mpr ⟨member, rfl⟩

theorem find_eq_none :
    table.find wanted = none ↔ ∀ row ∈ table.rows, key row ≠ wanted := by
  simp [find]

/-! ## Writing -/

/-- The rows with one of them replaced, or with one more. -/
def putRow (key : Row → Key) (row : Row) : List Row → List Row
  | [] => [row]
  | held :: rest =>
      if key held = key row then row :: rest else held :: putRow key row rest

variable {row other : Row}

theorem mem_putRow {rows : List Row} (distinct : (rows.map key).Nodup) :
    other ∈ putRow key row rows ↔
      other = row ∨ other ∈ rows ∧ key other ≠ key row := by
  induction rows with
  | nil => simp [putRow]
  | cons held rest ih =>
      rw [List.map_cons, List.nodup_cons] at distinct
      obtain ⟨fresh, distinct⟩ := distinct
      rw [putRow]
      split_ifs with same
      · have elsewhere : other ∈ rest → key other ≠ key row := by
          rintro member sameKey
          exact fresh (same.trans sameKey.symm ▸
            List.mem_map_of_mem member)
        simp only [List.mem_cons]
        constructor
        · rintro (isRow | member)
          · exact Or.inl isRow
          · exact Or.inr ⟨Or.inr member, elsewhere member⟩
        · rintro (isRow | ⟨isHeld | member, other⟩)
          · exact Or.inl isRow
          · exact absurd (isHeld ▸ same) other
          · exact Or.inr member
      · rw [List.mem_cons, ih distinct, List.mem_cons]
        constructor
        · rintro (rfl | isRow | ⟨member, other⟩)
          · exact Or.inr ⟨Or.inl rfl, same⟩
          · exact Or.inl isRow
          · exact Or.inr ⟨Or.inr member, other⟩
        · rintro (isRow | ⟨rfl | member, other⟩)
          · exact Or.inr (Or.inl isRow)
          · exact Or.inl rfl
          · exact Or.inr (Or.inr ⟨member, other⟩)

theorem putRow_distinct {rows : List Row} (distinct : (rows.map key).Nodup) :
    ((putRow key row rows).map key).Nodup := by
  induction rows with
  | nil => exact List.nodup_singleton _
  | cons held rest ih =>
      rw [List.map_cons, List.nodup_cons] at distinct
      obtain ⟨fresh, distinct⟩ := distinct
      rw [putRow]
      split_ifs with same
      · rw [List.map_cons, List.nodup_cons, ← same]
        exact ⟨fresh, distinct⟩
      · rw [List.map_cons, List.nodup_cons]
        refine ⟨?_, ih distinct⟩
        rw [List.mem_map]
        rintro ⟨other, member, sameKey⟩
        rcases (mem_putRow distinct).mp member with rfl | ⟨member, -⟩
        · exact same sameKey.symm
        · exact fresh (sameKey ▸ List.mem_map_of_mem member)

/-- Put a row in the place of the row with its key, or behind all others. -/
def put (table : Keyed key) (row : Row) : Keyed key where
  rows := putRow key row table.rows
  distinct := putRow_distinct table.distinct

theorem mem_put :
    other ∈ (table.put row).rows ↔
      other = row ∨ other ∈ table.rows ∧ key other ≠ key row :=
  mem_putRow table.distinct

theorem mem_put_of_ne (differs : key other ≠ key row) :
    other ∈ (table.put row).rows ↔ other ∈ table.rows := by
  rw [mem_put, and_iff_left differs, or_iff_right]
  rintro rfl
  exact differs rfl

/-- To put a row that is there changes nothing. -/
theorem mem_put_of_mem (held : row ∈ table.rows) :
    other ∈ (table.put row).rows ↔ other ∈ table.rows := by
  rw [mem_put]
  constructor
  · rintro (rfl | ⟨member, -⟩)
    · exact held
    · exact member
  · intro member
    by_cases same : key other = key row
    · exact Or.inl
        (List.inj_on_of_nodup_map table.distinct member held same)
    · exact Or.inr ⟨member, same⟩

@[simp]
theorem find_put (table : Keyed key) (row : Row) (wanted : Key) :
    (table.put row).find wanted =
      if key row = wanted then some row else table.find wanted := by
  apply Option.ext
  intro other
  rw [find_eq_some, mem_put]
  split_ifs with same
  · rw [Option.some.injEq]
    constructor
    · rintro ⟨rfl | ⟨member, differs⟩, wantedKey⟩
      · rfl
      · exact absurd (wantedKey.trans same.symm) differs
    · rintro rfl
      exact ⟨Or.inl rfl, same⟩
  · rw [find_eq_some]
    constructor
    · rintro ⟨rfl | ⟨member, -⟩, wantedKey⟩
      · exact absurd wantedKey same
      · exact ⟨member, wantedKey⟩
    · rintro ⟨member, rfl⟩
      exact ⟨Or.inr ⟨member, fun sameKey => same sameKey.symm⟩, rfl⟩

/-- What one table holds of another it holds with one more row in both. -/
theorem find_put_of_find {P : Row → Prop} {left right : Keyed key}
    (holds : ∀ wanted held, left.find wanted = some held → P held →
      right.find wanted = some held)
    (row : Row) (wanted : Key) (held : Row)
    (found : (left.put row).find wanted = some held) (property : P held) :
    (right.put row).find wanted = some held := by
  rw [find_put] at found ⊢
  split_ifs at found ⊢ with same
  · exact found
  · exact holds wanted held found property

theorem find_put_ne_none (known : table.find wanted ≠ none) (row : Row) :
    (table.put row).find wanted ≠ none := by
  rw [find_put]
  split_ifs
  · exact Option.some_ne_none row
  · exact known

/-! ### Which rows a write leaves -/

theorem rows_put_of_absent (absent : table.find (key row) = none) :
    (table.put row).rows = table.rows ++ [row] := by
  have append : ∀ rows : List Row, (∀ held ∈ rows, key held ≠ key row) →
      putRow key row rows = rows ++ [row] := by
    intro rows
    induction rows with
    | nil => exact fun _ => rfl
    | cons held rest ih =>
        intro others
        rw [List.forall_mem_cons] at others
        rw [putRow, if_neg others.1, ih others.2, List.cons_append]
  exact append table.rows (find_eq_none.mp absent)

variable {wanted : Row → Bool}

/-- A selection without the old and the new row stays as it is. -/
theorem filter_put_of_not (new : wanted row = false)
    (old : ∀ held ∈ table.rows, key held = key row → wanted held = false) :
    (table.put row).rows.filter wanted = table.rows.filter wanted := by
  have same : ∀ rows : List Row,
      (∀ held ∈ rows, key held = key row → wanted held = false) →
        (putRow key row rows).filter wanted =
          rows.filter wanted := by
    intro rows
    induction rows with
    | nil =>
        intro _
        rw [putRow, List.filter_cons_of_neg (by rw [new]; exact nofun)]
    | cons held rest ih =>
        intro old
        rw [List.forall_mem_cons] at old
        rw [putRow]
        split_ifs with sameKey
        · rw [List.filter_cons_of_neg (by rw [new]; exact nofun),
            List.filter_cons_of_neg (by rw [old.1 sameKey]; exact nofun)]
        · rw [List.filter_cons, List.filter_cons, ih old.2]
  exact same table.rows old

/-- Replacing a row by one of the same selection keeps their number. -/
theorem length_filter_put_of_held {row held : Row}
    (found : table.find (key row) = some held)
    (alike : wanted held = wanted row) :
    ((table.put row).rows.filter wanted).length =
      (table.rows.filter wanted).length := by
  have same : ∀ rows : List Row,
      (rows.find? fun other => key other = key row) = some held →
        ((putRow key row rows).filter wanted).length =
          (rows.filter wanted).length := by
    intro rows
    induction rows with
    | nil => exact nofun
    | cons other rest ih =>
        intro found
        rw [putRow]
        split_ifs with sameKey
        · rw [List.find?_cons_of_pos (by simpa using sameKey)] at found
          cases found
          rw [List.filter_cons, List.filter_cons, alike]
          split <;> rfl
        · rw [List.find?_cons_of_neg (by simpa using sameKey)] at found
          rw [List.filter_cons, List.filter_cons]
          split
          · rw [List.length_cons, List.length_cons, ih found]
          · exact ih found
  exact same table.rows found

/-- A column that a held row and its replacement agree in is as before. -/
theorem map_put_of_held {Column : Type} {column : Row → Column}
    {row held : Row} (found : table.find (key row) = some held)
    (alike : column held = column row) :
    (table.put row).rows.map column = table.rows.map column := by
  have same : ∀ rows : List Row,
      (rows.find? fun other => key other = key row) = some held →
        (putRow key row rows).map column = rows.map column := by
    intro rows
    induction rows with
    | nil => exact nofun
    | cons other rest ih =>
        intro found
        rw [putRow]
        split_ifs with sameKey
        · rw [List.find?_cons_of_pos (by simpa using sameKey)] at found
          cases found
          rw [List.map_cons, List.map_cons, alike]
        · rw [List.find?_cons_of_neg (by simpa using sameKey)] at found
          rw [List.map_cons, List.map_cons, ih found]
  exact same table.rows found

/-- A selection by the key can be made before or after a write to it. -/
theorem filter_putRow_of_wanted (new : wanted row) {rows : List Row}
    (old : ∀ held ∈ rows, key held = key row → wanted held) :
    (putRow key row rows).filter wanted =
      putRow key row (rows.filter wanted) := by
  induction rows with
  | nil => rw [putRow, List.filter_cons_of_pos new]; rfl
  | cons held rest ih =>
      rw [List.forall_mem_cons] at old
      rw [putRow]
      split_ifs with sameKey
      · rw [List.filter_cons_of_pos new,
          List.filter_cons_of_pos (old.1 sameKey), putRow, if_pos sameKey]
      · rw [List.filter_cons, List.filter_cons]
        split
        · rw [putRow, if_neg sameKey, ih old.2]
        · exact ih old.2

/-! ## Deleting -/

/-- Only the rows that are kept. -/
def keep (table : Keyed key) (kept : Row → Bool) : Keyed key where
  rows := table.rows.filter kept
  distinct :=
    (List.filter_sublist.map key).nodup table.distinct

omit [DecidableEq Key] in
theorem mem_keep {kept : Row → Bool} :
    row ∈ (table.keep kept).rows ↔ row ∈ table.rows ∧ kept row :=
  List.mem_filter

/-- A key whose row would be kept is found as before. -/
theorem find_keep {table : Keyed key} {kept : Row → Bool} {wanted : Key}
    (keeps : ∀ row ∈ table.rows, key row = wanted → kept row) :
    (table.keep kept).find wanted = table.find wanted := by
  apply Option.ext
  intro row
  rw [find_eq_some, find_eq_some, mem_keep, and_assoc]
  constructor
  · rintro ⟨member, -, isKey⟩
    exact ⟨member, isKey⟩
  · rintro ⟨member, isKey⟩
    exact ⟨member, keeps row member isKey, isKey⟩

end Keyed

end OpenSnow.Foundation

/-!
## Images of keyed rows

A table whose rows are the images of the rows of another table, under keys
that are translated one to one.  Writing a row and its image keeps the two
tables so, and what is selected of them is the same up to order.
-/

namespace OpenSnow.Foundation.Keyed

/-- How rows and keys of one table are translated to those of another. -/
structure Translation {Row Key Row' Key' : Type} (key : Row → Key)
    (key' : Row' → Key') where
  row : Row → Row'
  keyOf : Key → Key'
  key_row : ∀ held, key' (row held) = keyOf (key held)
  bijective : Function.Bijective keyOf

variable {Row Key Row' Key' : Type} {key : Row → Key} {key' : Row' → Key'}
  [DecidableEq Key] [DecidableEq Key']

/-- Every key has the image of the row that it has in the other table. -/
def Image (translation : Translation key key') (table : Keyed key)
    (table' : Keyed key') : Prop :=
  ∀ wanted, table'.find (translation.keyOf wanted) =
    (table.find wanted).map translation.row

variable {translation : Translation key key'} {table : Keyed key}
  {table' : Keyed key'}

theorem image_empty (translation : Translation key key') :
    Image translation .empty .empty := fun _ => rfl

theorem Image.put (image : Image translation table table') (row : Row) :
    Image translation (table.put row) (table'.put (translation.row row)) := by
  intro wanted
  rw [find_put, find_put, translation.key_row]
  by_cases same : key row = wanted
  · rw [if_pos same, if_pos (congrArg translation.keyOf same)]
    rfl
  · rw [if_neg same, if_neg (translation.bijective.injective.ne same)]
    exact image wanted

theorem Image.mem_iff (image : Image translation table table')
    {row' : Row'} :
    row' ∈ table'.rows ↔ ∃ row ∈ table.rows, translation.row row = row' := by
  constructor
  · intro member
    obtain ⟨wanted, isKey⟩ := translation.bijective.surjective (key' row')
    have found := image wanted
    rw [isKey, find_of_mem member, eq_comm, Option.map_eq_some_iff] at found
    obtain ⟨row, isRow, isImage⟩ := found
    exact ⟨row, mem_of_find isRow, isImage⟩
  · rintro ⟨row, member, rfl⟩
    have found := image (key row)
    rw [find_of_mem member, Option.map_some, ← translation.key_row] at found
    exact mem_of_find found

omit [DecidableEq Key] [DecidableEq Key'] in
theorem Image.nodup (translation : Translation key key')
    (table : Keyed key) : (table.rows.map translation.row).Nodup := by
  have keys : ((table.rows.map translation.row).map key').Nodup := by
    rw [List.map_map]
    have same : key' ∘ translation.row = translation.keyOf ∘ key :=
      funext translation.key_row
    rw [same, ← List.map_map]
    exact table.distinct.map translation.bijective.injective
  exact List.Nodup.of_map _ keys

/-- What is selected of the two tables is the same up to order. -/
theorem Image.filter_perm (image : Image translation table table')
    {wanted : Row → Bool} {wanted' : Row' → Bool}
    (alike : ∀ row, wanted' (translation.row row) = wanted row) :
    (table'.rows.filter wanted').Perm
      ((table.rows.filter wanted).map translation.row) := by
  have selected : (table.rows.filter wanted).map translation.row =
      (table.rows.map translation.row).filter wanted' := by
    rw [List.filter_map]
    exact congrArg (fun select => (table.rows.filter select).map _)
      (funext fun row => (alike row).symm)
  rw [selected]
  refine List.Perm.filter _ ?_
  rw [List.perm_ext_iff_of_nodup (List.Nodup.of_map _ table'.distinct)
    (Image.nodup translation table)]
  intro row'
  rw [image.mem_iff, List.mem_map]

end OpenSnow.Foundation.Keyed
