import OpenSnow.Catalog.AuditEvents

/-!
# The audit chain of an account

The rows of one account form a hash chain from the empty hash, preceded by
the account's legacy rows.  Appends keep that shape for every account at once,
whatever account they are made for.

The hash of a row separates rows: its preimage can be cut into the stored
fields in one way only.
-/

namespace OpenSnow.Catalog.AuditChain

open Catalog.AuditEvents
open Foundation.HashChain
open Foundation.SelfDelimiting
open Rust.Text

/-! ## The row hash separates rows -/

theorem hexByte_injective : Function.Injective hexByte := by
  intro left right equal
  have digits : ∀ low high : Fin 16,
      Nat.digitChar low = Nat.digitChar high → low = high := by
    decide
  simp only [hexByte, List.cons.injEq, and_true] at equal
  have leftFits := left.toNat_lt
  have rightFits := right.toNat_lt
  have highNibble :=
    digits ⟨left.toNat / 16, by omega⟩ ⟨right.toNat / 16, by omega⟩ equal.1
  have lowNibble :=
    digits ⟨left.toNat % 16, by omega⟩ ⟨right.toNat % 16, by omega⟩ equal.2
  simp only [Fin.mk.injEq] at highNibble lowNibble
  apply UInt8.toNat_inj.mp
  omega

theorem hexText_injective : Function.Injective hexText := by
  intro left right equal
  have sameDigits := String.ofList_injective equal
  induction left generalizing right with
  | nil =>
      cases right with
      | nil => rfl
      | cons byte rest => simp [hexByte] at sameDigits
  | cons leftByte leftRest ih =>
      cases right with
      | nil => simp [hexByte] at sameDigits
      | cons rightByte rightRest =>
          rw [List.flatMap_cons, List.flatMap_cons] at sameDigits
          have split := List.append_inj sameDigits (by simp [hexByte])
          rw [hexByte_injective split.1,
            ih (congrArg String.ofList split.2) split.2]

theorem hexText_ne_empty {digest : List UInt8} (nonempty : digest ≠ []) :
    hexText digest ≠ "" := by
  intro empty
  exact nonempty (hexText_injective (empty.trans (by rfl)))

/-- The stream hashed for a row is a tag followed by delimited fields. -/
theorem auditPreimage_eq
    (prevHash accountId : String) (organizationId : Option String)
    (eventJson : String) :
    auditPreimage prevHash accountId organizationId eventJson =
      utf8Bytes "opensnow-audit-chain/v1" ++
        (lengthPrefixed 8 (utf8Bytes prevHash) ++
          (lengthPrefixed 8 (utf8Bytes accountId) ++
            (optionTagged (lengthPrefixed 8)
                (organizationId.map utf8Bytes) ++
              lengthPrefixed 8 (utf8Bytes eventJson)))) := by
  cases organizationId <;>
    simp [auditPreimage, feedField, optionTagged, List.append_assoc]

theorem length_lt_of_textFits {text : String} (fits : TextFits text) :
    (utf8Bytes text).length < 256 ^ 8 := by
  have bound : (utf8Bytes text).length ≤ 1000000000 := fits
  omega

/-- No field boundary can be moved: the stream determines the stored fields. -/
theorem auditPreimage_inj {left right : AuditRow}
    (leftFits : left.Fits) (rightFits : right.Fits)
    (equal :
      auditPreimage left.prevHash left.accountId left.organizationId
          left.eventJson =
        auditPreimage right.prevHash right.accountId right.organizationId
          right.eventJson) :
    left.prevHash = right.prevHash ∧ left.accountId = right.accountId ∧
      left.organizationId = right.organizationId ∧
      left.eventJson = right.eventJson := by
  have field := lengthPrefixed_selfDelimiting 8
  have optional := optionTagged_selfDelimiting field
  rw [auditPreimage_eq, auditPreimage_eq] at equal
  have untagged := List.append_cancel_left equal
  rcases leftFits with ⟨leftAccount, leftOrg, leftEvent, leftPrev, -⟩
  rcases rightFits with ⟨rightAccount, rightOrg, rightEvent, rightPrev, -⟩
  rcases field _ (length_lt_of_textFits leftPrev)
      _ (length_lt_of_textFits rightPrev) _ _ untagged
    with ⟨prevEqual, afterPrev⟩
  rcases field _ (length_lt_of_textFits leftAccount)
      _ (length_lt_of_textFits rightAccount) _ _ afterPrev
    with ⟨accountEqual, afterAccount⟩
  have organizationFits : ∀ organizationId : Option String,
      TextFits (organizationId.getD "") →
      ∀ bytes ∈ organizationId.map utf8Bytes,
        bytes ∈ { field : List UInt8 | field.length < 256 ^ 8 } := by
    intro organizationId fits bytes member
    cases organizationId with
    | none => simp at member
    | some org =>
        rw [Option.map_some, Option.mem_some_iff] at member
        rw [← member]
        exact length_lt_of_textFits fits
  rcases optional _ (organizationFits _ leftOrg)
      _ (organizationFits _ rightOrg) _ _ afterAccount
    with ⟨organizationEqual, afterOrganization⟩
  have eventEqual :=
    field.injOn (length_lt_of_textFits leftEvent)
      (length_lt_of_textFits rightEvent) afterOrganization
  exact
    ⟨utf8Bytes_injective prevEqual, utf8Bytes_injective accountEqual,
      Option.map_injective utf8Bytes_injective organizationEqual,
      utf8Bytes_injective eventEqual⟩

/-! ## Audit rows as chain links -/

/-- How `verify_audit_chain` reads a stored row. -/
def auditView (sha256 : List UInt8 → List UInt8) :
    ChainView AuditRow String (String × Option String × String) where
  prev := AuditRow.prevHash
  digest := AuditRow.entryHash
  payload row := (row.accountId, row.organizationId, row.eventJson)
  hash prevHash fields :=
    computeAuditEntryHash sha256 prevHash fields.1 fields.2.1 fields.2.2

theorem auditView_collisionFree {sha256 : List UInt8 → List UInt8}
    (injective : Function.Injective sha256) :
    (auditView sha256).CollisionFreeOn { row | row.Fits } := by
  intro left leftFits right rightFits sameHash
  rcases auditPreimage_inj leftFits rightFits
      (injective (hexText_injective sameHash))
    with ⟨prevEqual, accountEqual, organizationEqual, eventEqual⟩
  exact
    ⟨prevEqual, by
      simp [auditView, accountEqual, organizationEqual, eventEqual]⟩

theorem expectedDigest_ne_empty {sha256 : List UInt8 → List UInt8}
    (nonempty : ∀ bytes, sha256 bytes ≠ []) (row : AuditRow) :
    (auditView sha256).expectedDigest row ≠ "" :=
  hexText_ne_empty (nonempty _)

/-! ## Runs of appends -/

/-- The arguments of one `append_audit_event` call. -/
structure AppendCall (Event : Type*) where
  accountId : String
  organizationId : Option String
  event : Event

variable {Event : Type*}

/--
Make the calls one after the other.  A failed call leaves the table as it was;
the result lists the calls that succeeded.
-/
def runAppends
    (sha256 : List UInt8 → List UInt8)
    (serialize : Event → Option String) :
    AuditTable → List (AppendCall Event) →
      AuditTable × List (AppendCall Event)
  | table, [] => (table, [])
  | table, call :: rest =>
      match
        appendAuditEvent sha256 serialize table call.accountId
          call.organizationId call.event
      with
      | .ok (next, _) =>
          let (final, acked) := runAppends sha256 serialize next rest
          (final, call :: acked)
      | .error _ => runAppends sha256 serialize table rest

/-- The rows of an account: legacy rows, then a chain from the empty hash. -/
structure ChainOf
    (sha256 : List UInt8 → List UInt8) (table : AuditTable)
    (accountId : String) (legacy chained : List AuditRow) : Prop where
  split : table.rowsOf accountId = legacy ++ chained
  legacyUnhashed : ∀ row ∈ legacy, row.entryHash = ""
  chainedHashed : ∀ row ∈ chained, row.entryHash ≠ ""
  linked : (auditView sha256).Linked "" chained

namespace ChainOf

variable {sha256 : List UInt8 → List UInt8} {table : AuditTable}
  {accountId : String} {legacy chained : List AuditRow}

theorem of_unhashed (unhashed : ∀ row ∈ table.rows, row.entryHash = "") :
    ChainOf sha256 table accountId (table.rowsOf accountId) [] where
  split := by simp
  legacyUnhashed := by
    intro row member
    exact unhashed row (mem_rowsOf.mp member).1
  chainedHashed := by simp
  linked := trivial

/-- What `append_audit_event` reads is the tail of the chain. -/
theorem lastEntryHash_eq
    (chain : ChainOf sha256 table accountId legacy chained) :
    table.lastEntryHash accountId =
      (auditView sha256).tailDigest "" chained := by
  rw [AuditTable.lastEntryHash, chain.split]
  induction chained using List.reverseRecOn with
  | nil =>
      cases last : legacy.getLast? with
      | none => simp [last]
      | some row =>
          have unhashed :=
            chain.legacyUnhashed row (List.mem_of_getLast? last)
          simp [last, unhashed]
  | append_singleton front last _ =>
      rw [← List.append_assoc, List.getLast?_concat]
      simp [auditView]

/-- A successful append for the account extends its chain by one row. -/
theorem append_own {serialize : Event → Option String} {after : AuditTable}
    {organizationId : Option String} {event : Event} {id : Int}
    (nonempty : ∀ bytes, sha256 bytes ≠ [])
    (chain : ChainOf sha256 table accountId legacy chained)
    (ok :
      appendAuditEvent sha256 serialize table accountId organizationId event =
        .ok (after, id)) :
    ∃ row, ChainOf sha256 after accountId legacy (chained ++ [row]) := by
  rcases appendAuditEvent_ok ok with ⟨eventJson, -, rows, -⟩
  have rowSealed : (auditView sha256).Sealed
      (chainedRow sha256 table accountId organizationId eventJson) := rfl
  refine
    ⟨chainedRow sha256 table accountId organizationId eventJson, ?_, ?_, ?_,
      ?_⟩
  · have own := chain.split
    rw [AuditTable.rowsOf] at own ⊢
    rw [rows, List.filter_append, own]
    simp [chainedRow]
  · exact chain.legacyUnhashed
  · intro row member
    rcases List.mem_append.mp member with old | new
    · exact chain.chainedHashed row old
    · rw [List.mem_singleton.mp new]
      exact hexText_ne_empty (nonempty _)
  · exact chain.linked.snoc chain.lastEntryHash_eq rowSealed

/-- A successful append for another account leaves the chain alone. -/
theorem append_other {serialize : Event → Option String}
    {after : AuditTable} {other : String}
    {organizationId : Option String} {event : Event} {id : Int}
    (chain : ChainOf sha256 table accountId legacy chained)
    (different : other ≠ accountId)
    (ok :
      appendAuditEvent sha256 serialize table other organizationId event =
        .ok (after, id)) :
    ChainOf sha256 after accountId legacy chained := by
  rcases appendAuditEvent_ok ok with ⟨eventJson, -, rows, -⟩
  refine ⟨?_, chain.legacyUnhashed, chain.chainedHashed, chain.linked⟩
  have own := chain.split
  rw [AuditTable.rowsOf] at own ⊢
  rw [rows, List.filter_append, own]
  simp [chainedRow, different]

/--
Any run of appends keeps the legacy rows of the account and extends its chain
by one row for every call that succeeded for it.
-/
theorem run (serialize : Event → Option String)
    (nonempty : ∀ bytes, sha256 bytes ≠ [])
    (calls : List (AppendCall Event))
    (chain : ChainOf sha256 table accountId legacy chained) :
    ∃ added,
      ChainOf sha256 (runAppends sha256 serialize table calls).1 accountId
        legacy (chained ++ added) ∧
      added.length =
        (runAppends sha256 serialize table calls).2.countP
          (·.accountId = accountId) := by
  induction calls generalizing table chained with
  | nil => exact ⟨[], by simpa [runAppends] using chain⟩
  | cons call rest ih =>
      rw [runAppends]
      split
      · rename_i next id ok
        by_cases own : call.accountId = accountId
        · rw [own] at ok
          rcases chain.append_own nonempty ok with ⟨row, extended⟩
          rcases ih extended with ⟨added, final, count⟩
          refine ⟨row :: added, ?_, ?_⟩
          · simpa using final
          · simp [own, count]
        · rcases ih (chain.append_other own ok) with ⟨added, final, count⟩
          exact ⟨added, final, by simp [own, count]⟩
      · exact ih chain

end ChainOf

end OpenSnow.Catalog.AuditChain
