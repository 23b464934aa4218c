import Mathlib.Algebra.GroupWithZero.Nat
import OpenSnow.Rust.Text

/-!
# Byte offsets

A Rust string is sliced by byte offsets.  A slice panics when an offset lies
behind the end of the string or inside a character, or when the start lies
behind the end of the slice.
-/

namespace OpenSnow.Rust.Text

/-- A computation that returns a value or panics with `none`. -/
abbrev Panics (α : Type) := Option α

/-- `str::len`. -/
def utf8Len (text : List Char) : Nat := (text.map Char.utf8Size).sum

/-- `&text[start..]`. -/
def sliceFrom : List Char → Nat → Panics (List Char)
  | text, 0 => some text
  | [], _ + 1 => none
  | ch :: rest, start + 1 =>
      if ch.utf8Size ≤ start + 1 then
        sliceFrom rest (start + 1 - ch.utf8Size)
      else none

/-- `&text[..stop]`. -/
def sliceTo : List Char → Nat → Panics (List Char)
  | _, 0 => some []
  | [], _ + 1 => none
  | ch :: rest, stop + 1 =>
      if ch.utf8Size ≤ stop + 1 then
        (sliceTo rest (stop + 1 - ch.utf8Size)).map (ch :: ·)
      else none

/-- `&text[start..stop]`. -/
def slice (text : List Char) (start stop : Nat) : Panics (List Char) :=
  if start ≤ stop then
    (sliceFrom text start).bind (sliceTo · (stop - start))
  else none

/-- `str::find`: the offset of the first occurrence. -/
def find (needle : List Char) : List Char → Option Nat
  | [] => if needle.isEmpty then some 0 else none
  | ch :: rest =>
      if needle.isPrefixOf (ch :: rest) then some 0
      else (find needle rest).map (ch.utf8Size + ·)

/-! ## Lengths -/

@[simp]
theorem utf8Len_nil : utf8Len [] = 0 := rfl

@[simp]
theorem utf8Len_cons (ch : Char) (rest : List Char) :
    utf8Len (ch :: rest) = ch.utf8Size + utf8Len rest := by
  simp [utf8Len]

@[simp]
theorem utf8Len_append (front back : List Char) :
    utf8Len (front ++ back) = utf8Len front + utf8Len back := by
  simp [utf8Len]

theorem utf8ByteSize_ofList (text : List Char) :
    (String.ofList text).utf8ByteSize = utf8Len text := by
  induction text with
  | nil => rfl
  | cons ch rest ih =>
      rw [String.ofList_cons, String.utf8ByteSize_append, ih, utf8Len_cons,
        String.utf8ByteSize_singleton]

theorem utf8Size_of_ascii {ch : Char} (ascii : ch.toNat < 0x80) :
    ch.utf8Size = 1 := by
  rw [Char.utf8Size_eq_one_iff, UInt32.le_iff_toNat_le]
  exact Nat.le_of_lt_succ ascii

variable {text : List Char}

theorem utf8Len_of_ascii
    (ascii : ∀ ch ∈ text, ch.toNat < 0x80) : utf8Len text = text.length := by
  induction text with
  | nil => rfl
  | cons ch rest ih =>
      rw [utf8Len_cons, utf8Size_of_ascii (ascii ch (by simp)),
        ih fun other member => ascii other (by simp [member]),
        List.length_cons, Nat.add_comm]

/-! ## Slices -/

theorem sliceFrom_cons {ch : Char} {rest : List Char} {start : Nat} :
    sliceFrom (ch :: rest) (ch.utf8Size + start) = sliceFrom rest start := by
  have positive := ch.utf8Size_pos
  cases width : ch.utf8Size with
  | zero => omega
  | succ less =>
      have total : less + 1 + start = (less + start) + 1 := by omega
      rw [total, sliceFrom, if_pos (by omega), width]
      congr 1
      omega

theorem sliceTo_cons {ch : Char} {rest : List Char} {stop : Nat} :
    sliceTo (ch :: rest) (ch.utf8Size + stop) =
      (sliceTo rest stop).map (ch :: ·) := by
  have positive := ch.utf8Size_pos
  cases width : ch.utf8Size with
  | zero => omega
  | succ less =>
      have total : less + 1 + stop = (less + stop) + 1 := by omega
      rw [total, sliceTo, if_pos (by omega), width]
      congr 2
      omega

@[simp]
theorem sliceFrom_append (before after : List Char) :
    sliceFrom (before ++ after) (utf8Len before) = some after := by
  induction before with
  | nil => cases after <;> rfl
  | cons ch before ih =>
      rw [List.cons_append, utf8Len_cons, sliceFrom_cons, ih]

@[simp]
theorem sliceTo_append (before after : List Char) :
    sliceTo (before ++ after) (utf8Len before) = some before := by
  induction before with
  | nil => cases after <;> rfl
  | cons ch before ih =>
      rw [List.cons_append, utf8Len_cons, sliceTo_cons, ih]
      rfl

/-- A slice to the end of a string exists exactly behind a part of it. -/
theorem sliceFrom_eq_some_iff {text after : List Char} {start : Nat} :
    sliceFrom text start = some after ↔
      ∃ before, text = before ++ after ∧ utf8Len before = start := by
  constructor
  · intro sliced
    induction text generalizing start with
    | nil =>
        cases start with
        | zero =>
            rw [sliceFrom, Option.some.injEq] at sliced
            exact ⟨[], sliced, rfl⟩
        | succ start => cases sliced
    | cons ch rest ih =>
        cases start with
        | zero =>
            rw [sliceFrom, Option.some.injEq] at sliced
            exact ⟨[], sliced, rfl⟩
        | succ start =>
            rw [sliceFrom] at sliced
            split at sliced
            · rename_i fits
              rcases ih sliced with ⟨before, shape, length⟩
              refine ⟨ch :: before, by rw [shape, List.cons_append], ?_⟩
              rw [utf8Len_cons, length]
              omega
            · cases sliced
  · rintro ⟨before, rfl, rfl⟩
    exact sliceFrom_append before after

theorem sliceTo_eq_some_iff {text before : List Char} {stop : Nat} :
    sliceTo text stop = some before ↔
      ∃ after, text = before ++ after ∧ utf8Len before = stop := by
  constructor
  · intro sliced
    induction text generalizing stop before with
    | nil =>
        cases stop with
        | zero =>
            rw [sliceTo, Option.some.injEq] at sliced
            exact ⟨[], by rw [← sliced]; rfl, by rw [← sliced]; rfl⟩
        | succ stop => cases sliced
    | cons ch rest ih =>
        cases stop with
        | zero =>
            rw [sliceTo, Option.some.injEq] at sliced
            exact ⟨ch :: rest, by rw [← sliced]; rfl, by rw [← sliced]; rfl⟩
        | succ stop =>
            rw [sliceTo] at sliced
            split at sliced
            · rename_i fits
              rcases Option.map_eq_some_iff.mp sliced with
                ⟨front, inner, rfl⟩
              rcases ih inner with ⟨after, shape, length⟩
              refine ⟨after, by rw [shape, List.cons_append], ?_⟩
              rw [utf8Len_cons, length]
              omega
            · cases sliced
  · rintro ⟨after, rfl, rfl⟩
    exact sliceTo_append before after

theorem slice_eq_some_iff {text middle : List Char} {start stop : Nat} :
    slice text start stop = some middle ↔
      ∃ before after, text = before ++ (middle ++ after) ∧
        utf8Len before = start ∧ start + utf8Len middle = stop := by
  rw [slice]
  constructor
  · intro sliced
    split at sliced
    · rename_i ordered
      rcases Option.bind_eq_some_iff.mp sliced with ⟨rest, front, back⟩
      rcases sliceFrom_eq_some_iff.mp front with ⟨before, rfl, length⟩
      rcases sliceTo_eq_some_iff.mp back with ⟨after, rfl, inner⟩
      exact ⟨before, after, rfl, length, by omega⟩
    · cases sliced
  · rintro ⟨before, after, rfl, rfl, rfl⟩
    rw [if_pos (by omega), sliceFrom_append, Option.bind_some,
      Nat.add_sub_cancel_left, sliceTo_append]

theorem slice_append (before middle after : List Char) :
    slice (before ++ (middle ++ after)) (utf8Len before)
        (utf8Len before + utf8Len middle) =
      some middle :=
  slice_eq_some_iff.mpr ⟨before, after, rfl, rfl, rfl⟩

theorem slice_zero (text : List Char) (stop : Nat) :
    slice text 0 stop = sliceTo text stop := by
  rw [slice, if_pos (Nat.zero_le stop), sliceFrom, Option.bind_some,
    Nat.sub_zero]

theorem slice_behind {front rest : List Char} {start stop : Nat}
    (length : utf8Len front = start) (ordered : start ≤ stop) :
    slice (front ++ rest) start stop = sliceTo rest (stop - start) := by
  rw [slice, if_pos ordered, ← length, sliceFrom_append, Option.bind_some]

/-! ## Places to cut -/

/-- The text can be cut at this offset. -/
def IsBoundary (text : List Char) (offset : Nat) : Prop :=
  ∃ before after, text = before ++ after ∧ utf8Len before = offset

theorem sliceFrom_isSome_iff {start : Nat} :
    (sliceFrom text start).isSome ↔ IsBoundary text start := by
  rw [Option.isSome_iff_exists]
  constructor
  · rintro ⟨after, sliced⟩
    rcases sliceFrom_eq_some_iff.mp sliced with ⟨before, shape, length⟩
    exact ⟨before, after, shape, length⟩
  · rintro ⟨before, after, shape, length⟩
    exact ⟨after, sliceFrom_eq_some_iff.mpr ⟨before, shape, length⟩⟩

theorem sliceTo_isSome_iff {stop : Nat} :
    (sliceTo text stop).isSome ↔ IsBoundary text stop := by
  rw [Option.isSome_iff_exists]
  constructor
  · rintro ⟨before, sliced⟩
    rcases sliceTo_eq_some_iff.mp sliced with ⟨after, shape, length⟩
    exact ⟨before, after, shape, length⟩
  · rintro ⟨before, after, shape, length⟩
    exact ⟨before, sliceTo_eq_some_iff.mpr ⟨after, shape, length⟩⟩

theorem isBoundary_end (text : List Char) : IsBoundary text (utf8Len text) :=
  ⟨text, [], (List.append_nil text).symm, rfl⟩

/-- The part in front of the earlier cut is a part of the other one's. -/
theorem prefix_of_utf8Len_le {text front back before after : List Char}
    (cut : text = front ++ back) (cutToo : text = before ++ after)
    (ordered : utf8Len front ≤ utf8Len before) : front <+: before := by
  have isPrefix : front <+: text := ⟨back, cut.symm⟩
  have isPrefixToo : before <+: text := ⟨after, cutToo.symm⟩
  rcases List.prefix_or_prefix_of_prefix isPrefix isPrefixToo with
    inside | ⟨more, rfl⟩
  · exact inside
  · cases more with
    | nil => rw [List.append_nil]
    | cons ch more =>
        have positive := ch.utf8Size_pos
        rw [utf8Len_append, utf8Len_cons] at ordered
        omega

theorem slice_isSome_iff {start stop : Nat} :
    (slice text start stop).isSome ↔
      start ≤ stop ∧ IsBoundary text start ∧ IsBoundary text stop := by
  rw [Option.isSome_iff_exists]
  constructor
  · rintro ⟨middle, sliced⟩
    rcases slice_eq_some_iff.mp sliced with ⟨before, after, rfl, rfl, rfl⟩
    refine ⟨by omega, ⟨before, _, rfl, rfl⟩, before ++ middle, after, ?_, ?_⟩
    · rw [List.append_assoc]
    · rw [utf8Len_append]
  · rintro ⟨ordered, ⟨front, back, rfl, rfl⟩, before, after, shape, rfl⟩
    rcases prefix_of_utf8Len_le rfl shape ordered with ⟨middle, rfl⟩
    rw [List.append_assoc, List.append_cancel_left_eq] at shape
    refine ⟨middle, slice_eq_some_iff.mpr ⟨front, after, by rw [shape], rfl, ?_⟩⟩
    rw [utf8Len_append]

/-! ## Searching -/

/-- An offset that was found is that of an occurrence. -/
theorem find_eq_some {needle text : List Char} {offset : Nat}
    (found : find needle text = some offset) :
    ∃ before after, text = before ++ (needle ++ after) ∧
      utf8Len before = offset := by
  induction text generalizing offset with
  | nil =>
      rw [find] at found
      split at found
      · rename_i empty
        rw [Option.some.injEq] at found
        rw [List.isEmpty_iff] at empty
        exact ⟨[], [], by rw [empty]; rfl, found⟩
      · cases found
  | cons ch rest ih =>
      rw [find] at found
      split at found
      · rename_i here
        rw [Option.some.injEq] at found
        rcases List.isPrefixOf_iff_prefix.mp here with ⟨after, shape⟩
        exact ⟨[], after, shape.symm, found⟩
      · rcases Option.map_eq_some_iff.mp found with ⟨inner, later, rfl⟩
        rcases ih later with ⟨before, after, shape, length⟩
        refine ⟨ch :: before, after, by rw [shape, List.cons_append], ?_⟩
        rw [utf8Len_cons, length]

theorem find_cons {needle rest : List Char} {ch : Char} {offset : Nat}
    (found : find needle (ch :: rest) = some offset)
    (notHere : ¬ needle <+: ch :: rest) :
    ∃ inner, find needle rest = some inner ∧
      offset = ch.utf8Size + inner := by
  rw [find, if_neg (by rwa [List.isPrefixOf_iff_prefix])] at found
  rcases Option.map_eq_some_iff.mp found with ⟨inner, later, same⟩
  exact ⟨inner, later, same.symm⟩

/-- An occurrence before which there is none is found. -/
theorem find_append_first {needle before after : List Char}
    (first : ∀ front back, before = front ++ back → back ≠ [] →
      ¬ needle <+: back ++ (needle ++ after)) :
    find needle (before ++ (needle ++ after)) = some (utf8Len before) := by
  induction before with
  | nil =>
      rw [List.nil_append]
      cases form : needle ++ after with
      | nil =>
          rw [List.append_eq_nil_iff] at form
          rw [form.1]
          rfl
      | cons ch rest =>
          rw [find, if_pos]
          · rfl
          · rw [List.isPrefixOf_iff_prefix, ← form]
            exact List.prefix_append needle after
  | cons ch before ih =>
      have notHere := first [] (ch :: before) rfl (List.cons_ne_nil ch before)
      have later := ih fun front back shape =>
        first (ch :: front) back (by rw [shape, List.cons_append])
      rw [List.cons_append] at notHere
      rw [List.cons_append, find,
        if_neg (by rwa [List.isPrefixOf_iff_prefix]), later, utf8Len_cons]
      rfl

theorem sliceFrom_find {needle text : List Char} {offset : Nat}
    (found : find needle text = some offset) :
    ∃ after, sliceFrom text (offset + utf8Len needle) = some after := by
  rcases find_eq_some found with ⟨before, after, shape, length⟩
  refine ⟨after, sliceFrom_eq_some_iff.mpr ⟨before ++ needle, ?_, ?_⟩⟩
  · rw [shape, List.append_assoc]
  · rw [utf8Len_append, length]

end OpenSnow.Rust.Text
