import OpenSnow.Catalog.AuditChain

/-!
# What the audit verifier notices

An untouched table always verifies.  About a table that was touched,
`verify_audit_chain` notices exactly what an auditor without a start hash can
notice: a rewritten row is reported at its own id, whereas removed rows are
noticed only between two survivors.
-/

namespace OpenSnow.Catalog.AuditIntegrity

open Catalog.AuditEvents
open Catalog.AuditChain
open Foundation.HashChain
open Rust.Text

variable {Event : Type*}

/-! ## What the verifier reports -/

section Verifier

variable {sha256 : List UInt8 → List UInt8} {accountId : String}

/-- Legacy rows are counted and otherwise ignored. -/
theorem verifyRows_legacy {legacy : List AuditRow}
    (unhashed : ∀ row ∈ legacy, row.entryHash = "")
    (verified preChain : Nat) (expectedPrev : Option String)
    (rest : List AuditRow) :
    verifyRows sha256 accountId verified preChain expectedPrev
        (legacy ++ rest) =
      verifyRows sha256 accountId verified (preChain + legacy.length)
        expectedPrev rest := by
  induction legacy generalizing preChain with
  | nil => rfl
  | cons row others ih =>
      have rowUnhashed := unhashed row (by simp)
      have othersUnhashed : ∀ row ∈ others, row.entryHash = "" :=
        fun row member => unhashed row (by simp [member])
      rw [List.cons_append, verifyRows, if_pos rowUnhashed,
        ih othersUnhashed, List.length_cons]
      congr 1
      omega

theorem linkMismatch_eq_none_iff {expectedPrev : Option String}
    {row : AuditRow} :
    linkMismatch expectedPrev row = none ↔
      ∀ want ∈ expectedPrev, row.prevHash = want := by
  cases expectedPrev <;> simp [linkMismatch]

/-- The verifier walks over accepted rows and remembers the last hash. -/
theorem verifyRows_accepted {rows : List AuditRow}
    (hashed : ∀ row ∈ rows, row.entryHash ≠ "")
    (own : ∀ row ∈ rows, row.accountId = accountId)
    (verified preChain : Nat) (expectedPrev : Option String)
    (accepted : (auditView sha256).Accepted expectedPrev rows)
    (rest : List AuditRow) :
    verifyRows sha256 accountId verified preChain expectedPrev
        (rows ++ rest) =
      verifyRows sha256 accountId (verified + rows.length) preChain
        ((auditView sha256).carriedDigest expectedPrev rows) rest := by
  induction rows generalizing verified expectedPrev with
  | nil => rfl
  | cons row others ih =>
      rcases accepted with ⟨link, rowSealed, othersAccepted⟩
      have rowHashed := hashed row (by simp)
      have hashMatches :
          computeAuditEntryHash sha256 row.prevHash accountId
            row.organizationId row.eventJson = row.entryHash := by
        rw [← own row (by simp)]
        exact rowSealed.symm
      rw [List.cons_append, verifyRows, if_neg rowHashed,
        linkMismatch_eq_none_iff.mpr link]
      simp only [hashMatches, if_true, List.length_cons]
      have othersVerified :=
        ih (fun row member => hashed row (by simp [member]))
          (fun row member => own row (by simp [member]))
          (verified + 1) (some row.entryHash) othersAccepted
      rw [othersVerified]
      congr 1
      omega

/-- On hashed rows the report is valid exactly when the rows are accepted. -/
theorem verifyRows_valid_iff {rows : List AuditRow}
    (hashed : ∀ row ∈ rows, row.entryHash ≠ "")
    (own : ∀ row ∈ rows, row.accountId = accountId)
    (verified preChain : Nat) (expectedPrev : Option String) :
    (verifyRows sha256 accountId verified preChain expectedPrev rows).valid =
        true ↔
      (auditView sha256).Accepted expectedPrev rows := by
  induction rows generalizing verified expectedPrev with
  | nil => simp [verifyRows, AuditChainStatus.intact, ChainView.Accepted]
  | cons row others ih =>
      have rowHashed := hashed row (by simp)
      have rowOwn := own row (by simp)
      have othersIff :=
        ih (fun row member => hashed row (by simp [member]))
          (fun row member => own row (by simp [member]))
          (verified + 1) (some row.entryHash)
      have sealedIff : (auditView sha256).Sealed row ↔
          computeAuditEntryHash sha256 row.prevHash accountId
            row.organizationId row.eventJson = row.entryHash := by
        rw [← rowOwn]
        exact eq_comm
      rw [verifyRows, if_neg rowHashed, ChainView.Accepted, sealedIff]
      cases link : linkMismatch expectedPrev row with
      | some want =>
          have unlinked : ¬ ∀ want ∈ expectedPrev, row.prevHash = want := by
            rw [← linkMismatch_eq_none_iff, link]
            exact Option.some_ne_none want
          exact
            ⟨fun valid => by simp [AuditChainStatus.broken] at valid,
              fun accepted => absurd accepted.1 unlinked⟩
      | none =>
          have linked := linkMismatch_eq_none_iff.mp link
          by_cases hashMatches :
              computeAuditEntryHash sha256 row.prevHash accountId
                row.organizationId row.eventJson = row.entryHash
          · simp only [hashMatches, if_true, true_and]
            exact ⟨fun valid => ⟨linked, othersIff.mp valid⟩,
              fun accepted => othersIff.mpr accepted.2⟩
          · simp [hashMatches, AuditChainStatus.broken]

end Verifier

/-! ## Untouched tables -/

/--
After any run of appends over any accounts, from a table of legacy rows, the
chain of every account verifies, with one verified entry for every append that
was made for the account.
-/
theorem verify_after_appends
    {sha256 : List UInt8 → List UInt8}
    (nonempty : ∀ bytes, sha256 bytes ≠ [])
    (serialize : Event → Option String)
    (table : AuditTable)
    (legacy : ∀ row ∈ table.rows, row.entryHash = "")
    (calls : List (AppendCall Event)) (accountId : String) :
    verifyAuditChain sha256 (runAppends sha256 serialize table calls).1
        accountId =
      .intact accountId
        ((runAppends sha256 serialize table calls).2.countP
          (·.accountId = accountId))
        (table.rowsOf accountId).length := by
  rcases (ChainOf.of_unhashed legacy).run serialize nonempty calls
    with ⟨added, chain, count⟩
  have own : ∀ row ∈ added, row.accountId = accountId := by
    intro row member
    have stored : row ∈ table.rowsOf accountId ++ ([] ++ added) := by
      simp [member]
    rw [← chain.split] at stored
    exact (mem_rowsOf.mp stored).2
  rw [verifyAuditChain, chain.split, verifyRows_legacy chain.legacyUnhashed]
  have walked :=
    verifyRows_accepted chain.chainedHashed own 0
      (0 + (table.rowsOf accountId).length) none chain.linked.accepted []
  rw [List.append_nil] at walked
  rw [walked, verifyRows]
  simp [count]

theorem verify_after_appends_two_accounts :
    verifyAuditChain (fun _ => [0])
        (runAppends (fun _ => [0]) some AuditTable.empty
          [⟨"acct_a", none, "a1"⟩, ⟨"acct_b", some "org", "b1"⟩,
            ⟨"acct_a", none, "a2"⟩]).1
        "acct_a" =
      .intact "acct_a"
        ((runAppends (fun _ => [0]) some AuditTable.empty
          [⟨"acct_a", none, "a1"⟩, ⟨"acct_b", some "org", "b1"⟩,
            ⟨"acct_a", none, "a2"⟩]).2.countP (·.accountId = "acct_a"))
        (AuditTable.empty.rowsOf "acct_a").length :=
  verify_after_appends (by simp) some AuditTable.empty
    (by simp [AuditTable.empty]) _ "acct_a"

/-! ## Tables produced by appends alone -/

variable {sha256 : List UInt8 → List UInt8}

/-- From a fresh table an account's rows are its chain. -/
theorem fresh_chain (nonempty : ∀ bytes, sha256 bytes ≠ [])
    (serialize : Event → Option String)
    (calls : List (AppendCall Event)) (accountId : String) :
    ChainOf sha256 (runAppends sha256 serialize .empty calls).1 accountId []
      ((runAppends sha256 serialize .empty calls).1.rowsOf accountId) := by
  have noRows : AuditTable.empty.rowsOf accountId = [] := rfl
  have legacy : ∀ row ∈ AuditTable.empty.rows, row.entryHash = "" := by
    simp [AuditTable.empty]
  rcases (ChainOf.of_unhashed legacy).run serialize nonempty calls
    with ⟨added, chain, -⟩
  rw [noRows] at chain
  have rows := chain.split
  rw [List.nil_append, List.nil_append] at rows
  rw [List.nil_append] at chain
  rw [rows]
  exact chain

/-! ## Deleted rows -/

/-- `DELETE FROM audit_events WHERE …`. -/
def deleteRows (table : AuditTable) (removed : AuditRow → Bool) :
    AuditTable where
  rows := table.rows.filter fun row => !removed row
  sequence := table.sequence
  ordered := table.ordered.filter _
  bounded := fun row member => table.bounded row (List.mem_filter.mp member).1
  fits := fun row member => table.fits row (List.mem_filter.mp member).1

theorem rowsOf_deleteRows (table : AuditTable) (removed : AuditRow → Bool)
    (accountId : String) :
    (deleteRows table removed).rowsOf accountId =
      (table.rowsOf accountId).filter fun row => !removed row := by
  simp only [AuditTable.rowsOf, deleteRows, List.filter_filter, Bool.and_comm]

/--
Deleting rows of a table produced by appends is reported exactly when a
deleted row lies between two rows of the account that are still there.
-/
theorem deletion_reported_iff
    {sha256 : List UInt8 → List UInt8}
    (injective : Function.Injective sha256)
    (nonempty : ∀ bytes, sha256 bytes ≠ [])
    (serialize : Event → Option String)
    (calls : List (AppendCall Event)) (accountId : String)
    (removed : AuditRow → Bool) :
    let table := (runAppends sha256 serialize .empty calls).1
    (verifyAuditChain sha256 (deleteRows table removed) accountId).valid =
        false ↔
      ∃ before ∈ table.rowsOf accountId, ∃ lost ∈ table.rowsOf accountId,
        ∃ after ∈ table.rowsOf accountId,
          before.id < lost.id ∧ lost.id < after.id ∧
            removed before = false ∧ removed lost = true ∧
              removed after = false := by
  intro table
  have chain := fresh_chain nonempty serialize calls accountId
  have distinct :=
    chain.linked.nodup_digests
      (fun row member => table.fits row (mem_rowsOf.mp member).1)
      (auditView_collisionFree injective)
      (fun row _ => expectedDigest_ne_empty nonempty row)
  have survivorsHashed : ∀ row ∈
      (table.rowsOf accountId).filter fun row => !removed row,
      row.entryHash ≠ "" :=
    fun row member => chain.chainedHashed row (List.mem_filter.mp member).1
  have survivorsOwn : ∀ row ∈
      (table.rowsOf accountId).filter fun row => !removed row,
      row.accountId = accountId :=
    fun row member => (mem_rowsOf.mp (List.mem_filter.mp member).1).2
  have reported :=
    @verifyRows_valid_iff sha256 accountId _ survivorsHashed survivorsOwn
      0 0 none
  have gap :=
    ChainView.gap_iff_of_pairwise (fun row => !removed row)
      (fun below above => (Int.lt_trans below above).false)
      (rowsOf_ordered table accountId)
  rw [chain.linked.filter_accepted_iff_not_gap _ distinct, gap] at reported
  rw [verifyAuditChain, rowsOf_deleteRows, ← Bool.not_eq_true, reported,
    not_not]
  simp

/-- The last row of a log is deleted and the report is still valid. -/
theorem last_row_deletion_unreported :
    let sha256 : List UInt8 → List UInt8 := List.cons 0
    let table := (runAppends sha256 some .empty [⟨"acct", none, "drop"⟩]).1
    let removed : AuditRow → Bool := fun row => row.id = 1
    Function.Injective sha256 ∧ (∀ bytes, sha256 bytes ≠ []) ∧
      (∃ row ∈ table.rowsOf "acct", removed row = true) ∧
        (verifyAuditChain sha256 (deleteRows table removed) "acct").valid =
          true := by
  refine ⟨List.cons_injective, fun bytes => List.cons_ne_nil 0 bytes, ?_⟩
  decide +kernel

theorem deletion_reported_iff_two_appends :
    let sha256 : List UInt8 → List UInt8 := List.cons 0
    let table :=
      (runAppends sha256 some .empty
        [⟨"acct", none, "create"⟩, ⟨"acct", none, "drop"⟩]).1
    let removed : AuditRow → Bool := fun row => row.id = 1
    (verifyAuditChain sha256 (deleteRows table removed) "acct").valid =
        false ↔
      ∃ before ∈ table.rowsOf "acct", ∃ lost ∈ table.rowsOf "acct",
        ∃ after ∈ table.rowsOf "acct",
          before.id < lost.id ∧ lost.id < after.id ∧
            removed before = false ∧ removed lost = true ∧
              removed after = false :=
  deletion_reported_iff List.cons_injective
    (fun bytes => List.cons_ne_nil 0 bytes) some
    [⟨"acct", none, "create"⟩, ⟨"acct", none, "drop"⟩] "acct" _

/-! ## Rewritten rows -/

/-- The row with its `organization_id` and `event_json` columns replaced. -/
def rewritten (rewrite : AuditRow → Option String × String)
    (row : AuditRow) : AuditRow :=
  { row with
    organizationId := (rewrite row).1
    eventJson := (rewrite row).2 }

/-- `UPDATE audit_events SET organization_id = …, event_json = …`. -/
def updateRows (table : AuditTable)
    (rewrite : AuditRow → Option String × String)
    (fits : ∀ row ∈ table.rows, (rewritten rewrite row).Fits) :
    AuditTable where
  rows := table.rows.map (rewritten rewrite)
  sequence := table.sequence
  ordered := by
    rw [List.pairwise_map]
    exact table.ordered
  bounded := by
    intro row member
    rcases List.mem_map.mp member with ⟨original, stored, rfl⟩
    exact table.bounded original stored
  fits := by
    intro row member
    rcases List.mem_map.mp member with ⟨original, stored, rfl⟩
    exact fits original stored

theorem rowsOf_updateRows (table : AuditTable)
    (rewrite : AuditRow → Option String × String)
    (fits : ∀ row ∈ table.rows, (rewritten rewrite row).Fits)
    (accountId : String) :
    (updateRows table rewrite fits).rowsOf accountId =
      (table.rowsOf accountId).map (rewritten rewrite) := by
  simp only [AuditTable.rowsOf, updateRows, List.filter_map]
  rfl

/-- The rewrite changes a column of the row. -/
def Edited (rewrite : AuditRow → Option String × String)
    (row : AuditRow) : Prop :=
  rewrite row ≠ (row.organizationId, row.eventJson)

instance (rewrite : AuditRow → Option String × String) (row : AuditRow) :
    Decidable (Edited rewrite row) :=
  inferInstanceAs (Decidable (_ ≠ _))

variable {rewrite : AuditRow → Option String × String}

theorem rewritten_eq_self {row : AuditRow} (unedited : ¬ Edited rewrite row) :
    rewritten rewrite row = row := by
  have same := not_not.mp unedited
  simp [rewritten, same]

variable {front back : List AuditRow}

/-- The verifier stops at an unsealed row whose predecessors are accepted. -/
theorem verifyRows_unsealed {accountId : String} {row : AuditRow}
    (frontHashed : ∀ row ∈ front, row.entryHash ≠ "")
    (frontOwn : ∀ row ∈ front, row.accountId = accountId)
    (accepted : (auditView sha256).Accepted none front)
    (hashed : row.entryHash ≠ "") (own : row.accountId = accountId)
    (link : ∀ want ∈ (auditView sha256).carriedDigest none front,
      row.prevHash = want)
    (notSealed : ¬ (auditView sha256).Sealed row) :
    verifyRows sha256 accountId 0 0 none (front ++ row :: back) =
      .broken accountId row.id entryHashMismatch front.length 0 := by
  have mismatch :
      computeAuditEntryHash sha256 row.prevHash accountId
        row.organizationId row.eventJson ≠ row.entryHash := by
    rw [← own]
    exact fun recomputed => notSealed recomputed.symm
  rw [verifyRows_accepted frontHashed frontOwn 0 0 none accepted, verifyRows,
    if_neg hashed, linkMismatch_eq_none_iff.mpr link]
  simp [mismatch]

/-- The first edited row of a chain is where its verification breaks. -/
theorem verify_broken_at_first_edit {table : AuditTable}
    {accountId : String} {first : AuditRow}
    (injective : Function.Injective sha256)
    (chain : ChainOf sha256 table accountId [] (front ++ first :: back))
    (fits : ∀ row ∈ table.rows, (rewritten rewrite row).Fits)
    (firstEdited : Edited rewrite first)
    (frontUnedited : ∀ row ∈ front, ¬ Edited rewrite row) :
    verifyAuditChain sha256 (updateRows table rewrite fits) accountId =
      .broken accountId first.id entryHashMismatch front.length 0 := by
  have stored : ∀ row ∈ front ++ first :: back,
      row ∈ table.rows ∧ row.accountId = accountId := by
    intro row member
    rw [← List.nil_append (front ++ first :: back), ← chain.split] at member
    exact mem_rowsOf.mp member
  have firstStored := stored first (by simp)
  have frontSame : front.map (rewritten rewrite) = front := by
    conv_rhs => rw [← List.map_id front]
    exact List.map_congr_left
      fun row member => rewritten_eq_self (frontUnedited row member)
  have acceptedWhole := chain.linked.accepted
  rcases ChainView.accepted_append.mp acceptedWhole
    with ⟨frontAccepted, firstAccepted⟩
  have notSealed :
      ¬ (auditView sha256).Sealed (rewritten rewrite first) := by
    refine ChainView.not_sealed_of_rewritten
      (auditView_collisionFree injective)
      (table.fits first firstStored.1) (fits first firstStored.1)
      (chain.linked.sealed_of_mem (by simp)) rfl ?_
    intro samePayload
    apply firstEdited
    simp only [auditView, rewritten, Prod.mk.injEq, true_and] at samePayload
    exact Prod.ext samePayload.1 samePayload.2
  rw [verifyAuditChain, rowsOf_updateRows, chain.split, List.nil_append,
    List.map_append, List.map_cons, frontSame]
  exact
    verifyRows_unsealed
      (fun row member => chain.chainedHashed row (by simp [member]))
      (fun row member => (stored row (by simp [member])).2)
      frontAccepted (chain.chainedHashed first (by simp)) firstStored.2
      firstAccepted.1 notSealed

theorem countP_below_first {first : AuditRow}
    (ordered : (front ++ first :: back).Pairwise
      fun earlier later => earlier.id < later.id) :
    (front ++ first :: back).countP (·.id < first.id) = front.length := by
  rcases List.pairwise_append.mp ordered with ⟨-, firstBack, frontBelow⟩
  have allBelow : front.countP (·.id < first.id) = front.length := by
    rw [List.countP_eq_length]
    intro row member
    simpa using frontBelow row member first (by simp)
  have noneBelow : (first :: back).countP (·.id < first.id) = 0 := by
    rw [List.countP_eq_zero]
    intro row member
    rcases List.mem_cons.mp member with isFirst | inBack
    · simp [isFirst]
    · have above := (List.pairwise_cons.mp firstBack).1 row inBack
      simp only [decide_eq_true_eq]
      omega
  rw [List.countP_append, allBelow, noneBelow, Nat.add_zero]

/--
Rewriting the event or the organization of any rows of a table produced by
appends is reported at the first edited row, after one verified entry for
every row before it.
-/
theorem edits_reported_at_first
    {sha256 : List UInt8 → List UInt8}
    (injective : Function.Injective sha256)
    (nonempty : ∀ bytes, sha256 bytes ≠ [])
    (serialize : Event → Option String)
    (calls : List (AppendCall Event)) (accountId : String)
    (rewrite : AuditRow → Option String × String)
    (fits : ∀ row ∈ (runAppends sha256 serialize .empty calls).1.rows,
      (rewritten rewrite row).Fits)
    (touched :
      ∃ row ∈ (runAppends sha256 serialize .empty calls).1.rowsOf accountId,
        Edited rewrite row) :
    let table := (runAppends sha256 serialize .empty calls).1
    ∃ first ∈ table.rowsOf accountId,
      Edited rewrite first ∧
        (∀ row ∈ table.rowsOf accountId, Edited rewrite row →
          first.id ≤ row.id) ∧
        verifyAuditChain sha256 (updateRows table rewrite fits) accountId =
          .broken accountId first.id entryHashMismatch
            ((table.rowsOf accountId).countP (·.id < first.id)) 0 := by
  intro table
  have chain := fresh_chain nonempty serialize calls accountId
  have ordered := rowsOf_ordered table accountId
  have found : ((table.rowsOf accountId).find? (Edited rewrite ·)).isSome := by
    rw [List.find?_isSome]
    simpa using touched
  rcases Option.isSome_iff_exists.mp found with ⟨first, firstFound⟩
  rcases List.find?_eq_some_iff_append.mp firstFound
    with ⟨firstEdited, front, back, rows, frontUnedited⟩
  have firstIsEdited : Edited rewrite first := of_decide_eq_true firstEdited
  have noneBefore : ∀ row ∈ front, ¬ Edited rewrite row := by
    simpa using frontUnedited
  change ChainOf sha256 table accountId [] (table.rowsOf accountId) at chain
  rw [rows] at chain ordered
  have report :=
    verify_broken_at_first_edit injective chain fits firstIsEdited noneBefore
  rw [← countP_below_first ordered] at report
  rw [rows]
  refine ⟨first, by simp, firstIsEdited, ?_, report⟩
  intro row member edited
  rcases List.mem_append.mp member with inFront | notFront
  · exact absurd edited (noneBefore row inFront)
  · rcases List.mem_cons.mp notFront with isFirst | inBack
    · rw [isFirst]
    · have firstBack := (List.pairwise_append.mp ordered).2.1
      exact ((List.pairwise_cons.mp firstBack).1 row inBack).le

theorem edits_reported_at_first_single_row :
    let sha256 : List UInt8 → List UInt8 := List.cons 0
    let table :=
      (runAppends sha256 some .empty [⟨"acct", none, "create"⟩]).1
    ∃ fits : ∀ row ∈ table.rows, (rewritten (fun _ => (none, "")) row).Fits,
      ∃ first ∈ table.rowsOf "acct",
        Edited (fun _ => (none, "")) first ∧
          (∀ row ∈ table.rowsOf "acct", Edited (fun _ => (none, "")) row →
            first.id ≤ row.id) ∧
          verifyAuditChain sha256
              (updateRows table (fun _ => (none, "")) fits) "acct" =
            .broken "acct" first.id entryHashMismatch
              ((table.rowsOf "acct").countP (·.id < first.id)) 0 :=
  ⟨by decide +kernel,
    edits_reported_at_first List.cons_injective
      (fun bytes => List.cons_ne_nil 0 bytes) some
      [⟨"acct", none, "create"⟩] "acct" _ _ (by decide +kernel)⟩

end OpenSnow.Catalog.AuditIntegrity
