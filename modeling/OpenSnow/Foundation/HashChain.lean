import Mathlib.Data.List.Induction
import Mathlib.Data.List.Nodup
import Mathlib.Tactic.Common

/-!
# Hash chains over a log of rows

A row of a hash-chained log stores the digest of its predecessor, its own
digest and some payload.  A log is *linked* from a start digest when every row
stores the digest before it and its own digest is the hash of that link and
its payload.  An auditor who does not know the start digest can only *accept*
a log: every row is sealed, and every row but the first links to the row
before it.

The two main results compare acceptance with what happened to a linked log.
Removing rows is accepted exactly when the surviving rows are contiguous, and
a row whose payload was rewritten is no longer sealed.
-/

namespace OpenSnow.Foundation.HashChain

open List

variable {Row Digest Payload : Type*}

/-- How a log row is read as a chain link, and how links are hashed. -/
structure ChainView (Row Digest Payload : Type*) where
  prev : Row → Digest
  digest : Row → Digest
  payload : Row → Payload
  hash : Digest → Payload → Digest

namespace ChainView

variable (view : ChainView Row Digest Payload)

/-- The hash a row ought to store. -/
def expectedDigest (row : Row) : Digest :=
  view.hash (view.prev row) (view.payload row)

/-- The stored digest is the hash of the stored link and payload. -/
def Sealed (row : Row) : Prop :=
  view.digest row = view.expectedDigest row

/-- The rows extend, one after the other, the digest they start from. -/
def Linked : Digest → List Row → Prop
  | _, [] => True
  | start, row :: rest =>
      view.prev row = start ∧ view.Sealed row ∧
        Linked (view.digest row) rest

/-- The digest at the end of a log that started from `start`. -/
def tailDigest (start : Digest) (rows : List Row) : Digest :=
  rows.foldl (fun _ row => view.digest row) start

/--
What an auditor checks.  The first row is only compared with a digest when the
auditor already expects one.
-/
def Accepted : Option Digest → List Row → Prop
  | _, [] => True
  | expected, row :: rest =>
      (∀ want ∈ expected, view.prev row = want) ∧ view.Sealed row ∧
        Accepted (some (view.digest row)) rest

/-- The digest an auditor expects after reading a log. -/
def carriedDigest (expected : Option Digest) (rows : List Row) :
    Option Digest :=
  rows.foldl (fun _ row => some (view.digest row)) expected

/-- No two rows of the set hash to one digest unless link and payload agree. -/
def CollisionFreeOn (rows : Set Row) : Prop :=
  ∀ left ∈ rows, ∀ right ∈ rows,
    view.expectedDigest left = view.expectedDigest right →
      view.prev left = view.prev right ∧
        view.payload left = view.payload right

/-! ## Tails and links -/

variable (start : Digest)

@[simp]
theorem tailDigest_nil :
    view.tailDigest start [] = start := rfl

@[simp]
theorem tailDigest_cons (row : Row) (rest : List Row) :
    view.tailDigest start (row :: rest) =
      view.tailDigest (view.digest row) rest := rfl

@[simp]
theorem tailDigest_append (front back : List Row) :
    view.tailDigest start (front ++ back) =
      view.tailDigest (view.tailDigest start front) back := by
  simp [tailDigest]

theorem tailDigest_mem (rows : List Row) :
    view.tailDigest start rows ∈ start :: rows.map view.digest := by
  induction rows generalizing start with
  | nil => simp
  | cons row rest ih =>
      rw [tailDigest_cons]
      exact List.mem_cons_of_mem _ (ih (view.digest row))

variable {view}

variable {start : Digest}

theorem linked_append {front back : List Row} :
    view.Linked start (front ++ back) ↔
      view.Linked start front ∧
        view.Linked (view.tailDigest start front) back := by
  induction front generalizing start with
  | nil => simp [Linked]
  | cons row rest ih => simp [Linked, ih, and_assoc]

variable {rows : List Row} {row : Row}

section

variable (linked : view.Linked start rows)

include linked

theorem Linked.snoc (link : view.prev row = view.tailDigest start rows)
    (rowSealed : view.Sealed row) :
    view.Linked start (rows ++ [row]) :=
  linked_append.mpr ⟨linked, link, rowSealed, trivial⟩

theorem Linked.sealed_of_mem (member : row ∈ rows) :
    view.Sealed row := by
  obtain ⟨front, back, rfl⟩ := List.append_of_mem member
  exact (linked_append.mp linked).2.2.1

/-- Every row stores the start digest or the digest of some row. -/
theorem Linked.prev_mem (member : row ∈ rows) :
    view.prev row ∈ start :: rows.map view.digest := by
  obtain ⟨front, back, rfl⟩ := List.append_of_mem member
  have link : view.prev row = view.tailDigest start front :=
    (linked_append.mp linked).2.1
  rw [link]
  have tailMem := view.tailDigest_mem start front
  simp only [List.map_append, List.mem_cons, List.mem_append] at tailMem ⊢
  rcases tailMem with isStart | inFront
  · exact Or.inl isStart
  · exact Or.inr (Or.inl inFront)

/-! ## Digests of a linked log never repeat -/

/--
In a collision-free linked log the start digest and all row digests are
distinct.  A repeated digest would force the links below it to repeat as well,
down to a row whose digest is the start digest.
-/
theorem Linked.nodup_digests {valid : Set Row}
    (allValid : ∀ row ∈ rows, row ∈ valid)
    (collisionFree : view.CollisionFreeOn valid)
    (startFresh : ∀ row ∈ valid, view.expectedDigest row ≠ start) :
    (start :: rows.map view.digest).Nodup := by
  induction rows using List.reverseRecOn with
  | nil => simp
  | append_singleton front last ih =>
      obtain ⟨frontLinked, lastLink, lastSealed, -⟩ :=
        linked_append.mp linked
      have frontNodup := ih frontLinked
        (fun row member => allValid row (List.mem_append_left _ member))
      have lastValid : last ∈ valid := allValid last (by simp)
      have lastFresh :
          view.digest last ∉ start :: front.map view.digest := by
        intro repeated
        rcases List.mem_cons.mp repeated with isStart | inFront
        · exact startFresh last lastValid (lastSealed ▸ isStart)
        · obtain ⟨other, otherMem, sameDigest⟩ := List.mem_map.mp inFront
          have otherValid : other ∈ valid :=
            allValid other (List.mem_append_left _ otherMem)
          have sameHash :
              view.expectedDigest other = view.expectedDigest last := by
            rw [← frontLinked.sealed_of_mem otherMem, ← lastSealed, sameDigest]
          have sameLink : view.prev other = view.prev last :=
            (collisionFree other otherValid last lastValid sameHash).1
          -- the tail seen by `other` would be the tail seen by `last`
          obtain ⟨below, above, rfl⟩ := List.append_of_mem otherMem
          have otherLink :
              view.prev other = view.tailDigest start below :=
            (linked_append.mp frontLinked).2.1
          rw [otherLink, lastLink, tailDigest_append,
            tailDigest_cons] at sameLink
          have lowMem := view.tailDigest_mem start below
          have highMem := view.tailDigest_mem (view.digest other) above
          rw [← sameLink] at highMem
          rw [List.map_append, List.map_cons, ← List.cons_append] at frontNodup
          exact (List.nodup_append.mp frontNodup).2.2 _ lowMem _ highMem rfl
      rw [List.map_append, ← List.cons_append]
      simpa using List.Nodup.concat lastFresh frontNodup

end

/-! ## Acceptance -/

@[simp]
theorem accepted_some_iff_linked :
    view.Accepted (some start) rows ↔ view.Linked start rows := by
  induction rows generalizing start with
  | nil => simp [Accepted, Linked]
  | cons row rest ih => simp [Accepted, Linked, ih]

theorem accepted_append {expected : Option Digest}
    {front back : List Row} :
    view.Accepted expected (front ++ back) ↔
      view.Accepted expected front ∧
        view.Accepted (view.carriedDigest expected front) back := by
  induction front generalizing expected with
  | nil => simp [Accepted, carriedDigest]
  | cons row rest ih => simp [Accepted, carriedDigest, ih, and_assoc]

/-- A linked log is accepted whether or not its start digest is known. -/
theorem Linked.accepted (linked : view.Linked start rows) :
    view.Accepted none rows := by
  cases rows with
  | nil => trivial
  | cons row rest =>
      obtain ⟨-, rowSealed, restLinked⟩ := linked
      exact ⟨by simp, rowSealed, accepted_some_iff_linked.mpr restLinked⟩

/-! ## Removing rows -/

/-- Some removed row lies between two rows that were kept. -/
def Gap (keep : Row → Bool) (rows : List Row) : Prop :=
  ∃ before lost after, [before, lost, after] <+ rows ∧
    keep before = true ∧ keep lost = false ∧ keep after = true

/-- Some removed row lies before a row that was kept. -/
def Beheaded (keep : Row → Bool) (rows : List Row) : Prop :=
  ∃ lost after, [lost, after] <+ rows ∧
    keep lost = false ∧ keep after = true

variable {keep : Row → Bool} {rest : List Row}

theorem beheaded_cons_of_keep (kept : keep row = true) :
    Beheaded keep (row :: rest) ↔ Beheaded keep rest := by
  constructor
  · rintro ⟨lost, after, sublist, lostGone, afterKept⟩
    refine ⟨lost, after, ?_, lostGone, afterKept⟩
    cases sublist with
    | cons _ below => exact below
    | cons_cons _ below => simp [kept] at lostGone
  · rintro ⟨lost, after, sublist, lostGone, afterKept⟩
    exact ⟨lost, after, sublist.cons row, lostGone, afterKept⟩

theorem beheaded_cons_of_lost (lost : keep row = false) :
    Beheaded keep (row :: rest) ↔ ∃ after ∈ rest, keep after = true := by
  constructor
  · rintro ⟨gone, after, sublist, -, afterKept⟩
    refine ⟨after, ?_, afterKept⟩
    cases sublist with
    | cons _ below => exact below.subset (by simp)
    | cons_cons _ below => exact below.subset (by simp)
  · rintro ⟨after, member, afterKept⟩
    exact ⟨row, after, (List.singleton_sublist.mpr member).cons_cons row,
      lost, afterKept⟩

theorem gap_cons_of_keep (kept : keep row = true) :
    Gap keep (row :: rest) ↔ Beheaded keep rest := by
  constructor
  · rintro ⟨before, lost, after, sublist, -, lostGone, afterKept⟩
    refine ⟨lost, after, ?_, lostGone, afterKept⟩
    cases sublist with
    | cons _ below => exact (List.sublist_cons_self _ _).trans below
    | cons_cons _ below => exact below
  · rintro ⟨lost, after, sublist, lostGone, afterKept⟩
    exact ⟨row, lost, after, sublist.cons_cons row, kept, lostGone, afterKept⟩

theorem gap_cons_of_lost (lost : keep row = false) :
    Gap keep (row :: rest) ↔ Gap keep rest := by
  constructor
  · rintro ⟨before, gone, after, sublist, beforeKept, goneLost, afterKept⟩
    refine ⟨before, gone, after, ?_, beforeKept, goneLost, afterKept⟩
    cases sublist with
    | cons _ below => exact below
    | cons_cons _ below => simp [lost] at beforeKept
  · rintro ⟨before, gone, after, sublist, beforeKept, goneLost, afterKept⟩
    exact ⟨before, gone, after, sublist.cons row, beforeKept, goneLost,
      afterKept⟩

/-- In an ordered log a gap can be read off the order of its three rows. -/
theorem gap_iff_of_pairwise {before : Row → Row → Prop} (keep : Row → Bool)
    (asymmetric : ∀ {left right}, before left right → ¬ before right left)
    (ordered : rows.Pairwise before) :
    Gap keep rows ↔
      ∃ first ∈ rows, ∃ lost ∈ rows, ∃ last ∈ rows,
        before first lost ∧ before lost last ∧
          keep first = true ∧ keep lost = false ∧ keep last = true := by
  constructor
  · rintro ⟨first, lost, last, sublist, firstKept, lostGone, lastKept⟩
    have triple := ordered.sublist sublist
    simp only [List.pairwise_cons, List.mem_cons, List.not_mem_nil,
      or_false, forall_eq_or_imp, forall_eq] at triple
    exact
      ⟨first, sublist.subset (by simp), lost, sublist.subset (by simp),
        last, sublist.subset (by simp), triple.1.1, triple.2.1, firstKept,
        lostGone, lastKept⟩
  · rintro ⟨first, firstMem, lost, lostMem, last, lastMem, firstLost,
      lostLast, firstKept, lostGone, lastKept⟩
    refine ⟨first, lost, last, ?_, firstKept, lostGone, lastKept⟩
    rcases List.append_of_mem lostMem with ⟨front, back, rfl⟩
    rcases List.pairwise_append.mp ordered with ⟨-, lostBack, frontLost⟩
    have irreflexive : ∀ row, ¬ before row row :=
      fun row self => asymmetric self self
    have firstFront : first ∈ front := by
      rcases List.mem_append.mp firstMem with inFront | notFront
      · exact inFront
      · rcases List.mem_cons.mp notFront with isLost | inBack
        · exact absurd (isLost ▸ firstLost) (irreflexive lost)
        · exact absurd ((List.pairwise_cons.mp lostBack).1 first inBack)
            (asymmetric firstLost)
    have lastBack : last ∈ back := by
      rcases List.mem_append.mp lastMem with inFront | notFront
      · exact absurd (frontLost last inFront lost (by simp))
          (asymmetric lostLast)
      · rcases List.mem_cons.mp notFront with isLost | inBack
        · exact absurd (isLost ▸ lostLast) (irreflexive lost)
        · exact inBack
    exact
      (List.singleton_sublist.mpr firstFront).append
        ((List.singleton_sublist.mpr lastBack).cons_cons lost)

/--
An auditor who knows the start digest notices every removal except one at the
end of the log.
-/
theorem Linked.filter_iff_not_beheaded
    {start : Digest} {rows : List Row} (keep : Row → Bool)
    (linked : view.Linked start rows)
    (distinct : (start :: rows.map view.digest).Nodup) :
    view.Linked start (rows.filter keep) ↔ ¬ Beheaded keep rows := by
  induction rows generalizing start with
  | nil => simp [Linked, Beheaded]
  | cons row rest ih =>
      obtain ⟨rowLink, rowSealed, restLinked⟩ := linked
      have restDistinct : (view.digest row :: rest.map view.digest).Nodup :=
        (List.nodup_cons.mp distinct).2
      cases kept : keep row with
      | true =>
          rw [List.filter_cons_of_pos kept, beheaded_cons_of_keep kept]
          simp [Linked, rowLink, rowSealed, ih restLinked restDistinct]
      | false =>
          rw [List.filter_cons_of_neg (by simp [kept]),
            beheaded_cons_of_lost kept]
          constructor
          · rintro survivors ⟨after, afterMem, afterKept⟩
            -- the first survivor stores a digest above the start digest
            obtain ⟨first, others, firstEq⟩ :
                ∃ first others, rest.filter keep = first :: others := by
              apply List.exists_cons_of_ne_nil
              exact List.ne_nil_of_mem
                (List.mem_filter.mpr ⟨afterMem, afterKept⟩)
            rw [firstEq] at survivors
            have firstMem : first ∈ rest :=
              (List.mem_filter.mp (firstEq ▸ List.mem_cons_self)).1
            have aboveStart := restLinked.prev_mem firstMem
            rw [survivors.1, ← List.map_cons] at aboveStart
            exact (List.nodup_cons.mp distinct).1 aboveStart
          · intro noneKept
            have empty : rest.filter keep = [] := by
              rw [List.filter_eq_nil_iff]
              intro after afterMem afterKept
              exact noneKept ⟨after, afterMem, afterKept⟩
            simp [empty, Linked]

/--
An auditor who does not know the start digest notices a removal exactly when
it leaves a gap between two surviving rows.
-/
theorem Linked.filter_accepted_iff_not_gap
    {start : Digest} {rows : List Row} (keep : Row → Bool)
    (linked : view.Linked start rows)
    (distinct : (start :: rows.map view.digest).Nodup) :
    view.Accepted none (rows.filter keep) ↔ ¬ Gap keep rows := by
  induction rows generalizing start with
  | nil => simp [Accepted, Gap]
  | cons row rest ih =>
      obtain ⟨-, rowSealed, restLinked⟩ := linked
      have restDistinct : (view.digest row :: rest.map view.digest).Nodup :=
        (List.nodup_cons.mp distinct).2
      cases kept : keep row with
      | true =>
          rw [List.filter_cons_of_pos kept, gap_cons_of_keep kept,
            ← restLinked.filter_iff_not_beheaded keep restDistinct]
          simp [Accepted, rowSealed]
      | false =>
          rw [List.filter_cons_of_neg (by simp [kept]),
            gap_cons_of_lost kept]
          exact ih restLinked restDistinct

/-! ## Rewriting payloads -/

/--
A sealed row whose payload is rewritten under untouched digests is no longer
sealed.
-/
theorem not_sealed_of_rewritten
    {valid : Set Row} {original rewritten : Row}
    (collisionFree : view.CollisionFreeOn valid)
    (originalValid : original ∈ valid) (rewrittenValid : rewritten ∈ valid)
    (originalSealed : view.Sealed original)
    (sameDigest : view.digest rewritten = view.digest original)
    (newPayload : view.payload rewritten ≠ view.payload original) :
    ¬ view.Sealed rewritten := by
  intro rewrittenSealed
  have sameHash :
      view.expectedDigest rewritten = view.expectedDigest original := by
    rw [← rewrittenSealed, ← originalSealed, sameDigest]
  exact newPayload
    (collisionFree rewritten rewrittenValid original originalValid sameHash).2

end ChainView

end OpenSnow.Foundation.HashChain
