import Mathlib.Algebra.Group.Int.Defs
import OpenSnow.Foundation.HashChain
import OpenSnow.Foundation.SelfDelimiting
import OpenSnow.Rust.Text

/-!
# The audit event table

The `audit_events` table of the catalog, the hash that chains its rows per
account, and the two operations on it: appending an event and verifying the
chain of one account.

SHA-256 is a function from byte streams to byte strings and the JSON
serialiser a partial function from events to text; everything else is the
catalog's own code.
-/

namespace OpenSnow.Catalog.AuditEvents

open Foundation.SelfDelimiting
open Rust.Text

/-! ## Hashing a row -/

/-- The two lower-case hexadecimal digits of a byte. -/
def hexByte (byte : UInt8) : List Char :=
  [Nat.digitChar (byte.toNat / 16), Nat.digitChar (byte.toNat % 16)]

/-- A digest as the text the catalog stores. -/
def hexText (digest : List UInt8) : String :=
  String.ofList (digest.flatMap hexByte)

/-- Feed a length-prefixed field into the bytes hashed so far. -/
def feedField (hasher bytes : List UInt8) : List UInt8 :=
  hasher ++ lengthPrefixed 8 bytes

/-- The byte stream hashed for one row. -/
def auditPreimage
    (prevHash accountId : String)
    (organizationId : Option String)
    (eventJson : String) : List UInt8 :=
  let hasher := utf8Bytes "opensnow-audit-chain/v1"
  let hasher := feedField hasher (utf8Bytes prevHash)
  let hasher := feedField hasher (utf8Bytes accountId)
  let hasher :=
    match organizationId with
    | some org => feedField (hasher ++ [1]) (utf8Bytes org)
    | none => hasher ++ [0]
  feedField hasher (utf8Bytes eventJson)

/-- The canonical audit entry hash of a row. -/
def computeAuditEntryHash
    (sha256 : List UInt8 → List UInt8)
    (prevHash accountId : String)
    (organizationId : Option String)
    (eventJson : String) : String :=
  hexText (sha256 (auditPreimage prevHash accountId organizationId eventJson))

/-! ## Rows and tables -/

/-- One row of `audit_events`. -/
structure AuditRow where
  id : Int
  accountId : String
  organizationId : Option String
  eventJson : String
  prevHash : String
  entryHash : String
deriving DecidableEq, Repr

/-- SQLite refuses to store a text longer than its `SQLITE_MAX_LENGTH`. -/
def maxTextLength : Nat := 1000000000

/-- A text column value that SQLite stores. -/
def TextFits (text : String) : Prop :=
  (utf8Bytes text).length ≤ maxTextLength

instance (text : String) : Decidable (TextFits text) :=
  inferInstanceAs (Decidable (_ ≤ _))

/-- Every text column of the row can be stored. -/
def AuditRow.Fits (row : AuditRow) : Prop :=
  TextFits row.accountId ∧ TextFits (row.organizationId.getD "") ∧
    TextFits row.eventJson ∧ TextFits row.prevHash ∧ TextFits row.entryHash

instance (row : AuditRow) : Decidable row.Fits :=
  inferInstanceAs (Decidable (_ ∧ _ ∧ _ ∧ _ ∧ _))

/--
The `audit_events` table.  Its primary key is an `AUTOINCREMENT` rowid: rows
are kept in id order and `sequence` is at least every id ever assigned.
-/
structure AuditTable where
  rows : List AuditRow
  sequence : Int
  ordered : rows.Pairwise fun earlier later => earlier.id < later.id
  bounded : ∀ row ∈ rows, row.id ≤ sequence
  fits : ∀ row ∈ rows, row.Fits

/-- A freshly migrated table. -/
def AuditTable.empty : AuditTable where
  rows := []
  sequence := 0
  ordered := List.Pairwise.nil
  bounded := by simp
  fits := by simp

/-- `SELECT … WHERE account_id = ?1 ORDER BY id ASC`. -/
def AuditTable.rowsOf (table : AuditTable) (accountId : String) :
    List AuditRow :=
  table.rows.filter fun row => row.accountId = accountId

@[simp]
theorem mem_rowsOf {table : AuditTable} {accountId : String}
    {row : AuditRow} :
    row ∈ table.rowsOf accountId ↔
      row ∈ table.rows ∧ row.accountId = accountId := by
  simp [AuditTable.rowsOf]

theorem rowsOf_ordered (table : AuditTable) (accountId : String) :
    (table.rowsOf accountId).Pairwise
      fun earlier later => earlier.id < later.id :=
  table.ordered.filter _

/-! ## Appending -/

/-- The ways `append_audit_event` can fail. -/
inductive AppendError where
  /-- The event does not serialise. -/
  | serialize
  /-- A column exceeds what SQLite stores. -/
  | textTooBig
  /-- The largest rowid is in use. -/
  | full
deriving DecidableEq, Repr

/-- The largest SQLite rowid. -/
def maxRowId : Int := 2 ^ 63 - 1

/-- `INSERT INTO audit_events …`, returning the new rowid. -/
def AuditTable.insert
    (table : AuditTable)
    (accountId : String)
    (organizationId : Option String)
    (eventJson prevHash entryHash : String) :
    Except AppendError (AuditTable × Int) :=
  let row : AuditRow :=
    { id := table.sequence + 1
      accountId, organizationId, eventJson, prevHash, entryHash }
  if rowFits : row.Fits then
    if table.sequence < maxRowId then
      .ok
        ({ rows := table.rows ++ [row]
           sequence := row.id
           ordered := by
             rw [List.pairwise_append]
             refine ⟨table.ordered, List.pairwise_singleton _ _, ?_⟩
             intro earlier earlierMem later laterMem
             rw [List.mem_singleton.mp laterMem]
             exact Int.lt_add_one_of_le (table.bounded earlier earlierMem)
           bounded := by
             intro stored storedMem
             rcases List.mem_append.mp storedMem with old | new
             · exact (table.bounded stored old).trans
                 (Int.le_add_one le_rfl)
             · rw [List.mem_singleton.mp new]
           fits := by
             intro stored storedMem
             rcases List.mem_append.mp storedMem with old | new
             · exact table.fits stored old
             · rw [List.mem_singleton.mp new]
               exact rowFits },
         row.id)
    else .error .full
  else .error .textTooBig

/-- `entry_hash` of the account's last row, or the empty string. -/
def AuditTable.lastEntryHash (table : AuditTable) (accountId : String) :
    String :=
  ((table.rowsOf accountId).getLast?.map AuditRow.entryHash).getD ""

/-- Append a tamper-evident audit event. -/
def appendAuditEvent {Event : Type*}
    (sha256 : List UInt8 → List UInt8)
    (serialize : Event → Option String)
    (table : AuditTable)
    (accountId : String)
    (organizationId : Option String)
    (event : Event) :
    Except AppendError (AuditTable × Int) :=
  match serialize event with
  | none => .error .serialize
  | some eventJson =>
      let prevHash := table.lastEntryHash accountId
      let entryHash :=
        computeAuditEntryHash sha256 prevHash accountId organizationId
          eventJson
      table.insert accountId organizationId eventJson prevHash entryHash

/-- The row that an append of `eventJson` adds. -/
def chainedRow
    (sha256 : List UInt8 → List UInt8)
    (table : AuditTable)
    (accountId : String)
    (organizationId : Option String)
    (eventJson : String) : AuditRow where
  id := table.sequence + 1
  accountId := accountId
  organizationId := organizationId
  eventJson := eventJson
  prevHash := table.lastEntryHash accountId
  entryHash :=
    computeAuditEntryHash sha256 (table.lastEntryHash accountId) accountId
      organizationId eventJson

/-- Everything a successful append does to the table. -/
theorem appendAuditEvent_ok {Event : Type*}
    {sha256 : List UInt8 → List UInt8}
    {serialize : Event → Option String}
    {table after : AuditTable} {accountId : String}
    {organizationId : Option String} {event : Event} {id : Int}
    (ok :
      appendAuditEvent sha256 serialize table accountId organizationId event =
        .ok (after, id)) :
    ∃ eventJson, serialize event = some eventJson ∧
      after.rows =
        table.rows ++
          [chainedRow sha256 table accountId organizationId eventJson] ∧
      id = table.sequence + 1 := by
  unfold appendAuditEvent at ok
  split at ok
  · cases ok
  · rename_i eventJson serialized
    unfold AuditTable.insert at ok
    dsimp only at ok
    split_ifs at ok with rowFits room
    simp only [Except.ok.injEq, Prod.mk.injEq] at ok
    obtain ⟨rfl, rfl⟩ := ok
    exact ⟨eventJson, serialized, rfl, rfl⟩

/-! ## Verifying -/

/-- The report of `verify_audit_chain`. -/
structure AuditChainStatus where
  accountId : String
  valid : Bool
  verifiedEntries : Nat
  preChainEntries : Nat
  brokenAtId : Option Int
  detail : Option String
deriving DecidableEq, Repr

def AuditChainStatus.broken
    (accountId : String) (id : Int) (detail : String)
    (verified preChain : Nat) : AuditChainStatus where
  accountId := accountId
  valid := false
  verifiedEntries := verified
  preChainEntries := preChain
  brokenAtId := some id
  detail := some detail

/-- The report of a chain without a divergence. -/
def AuditChainStatus.intact
    (accountId : String) (verified preChain : Nat) : AuditChainStatus where
  accountId := accountId
  valid := true
  verifiedEntries := verified
  preChainEntries := preChain
  brokenAtId := none
  detail := none

/-- The message for a row that links to a hash nobody expects. -/
def prevHashMismatch (prevHash wantPrev : String) : String :=
  "prev_hash mismatch: row links to " ++ debugText prevHash ++
    " but previous entry hash was " ++ debugText wantPrev

/-- The message for a row that does not hash to its stored hash. -/
def entryHashMismatch : String :=
  "entry_hash mismatch: row contents do not match stored hash (tampered)"

/-- `prev_hash` differs from the hash the verifier carries, if it carries one. -/
def linkMismatch (expectedPrev : Option String) (row : AuditRow) :
    Option String :=
  expectedPrev.filter fun wantPrev => row.prevHash != wantPrev

/-- The loop of `verify_audit_chain` over the rows of one account. -/
def verifyRows
    (sha256 : List UInt8 → List UInt8) (accountId : String)
    (verified preChain : Nat) (expectedPrev : Option String) :
    List AuditRow → AuditChainStatus
  | [] => .intact accountId verified preChain
  | row :: rest =>
      -- legacy rows have no hash and do not anchor the chain
      if row.entryHash = "" then
        verifyRows sha256 accountId verified (preChain + 1) expectedPrev rest
      else
        match linkMismatch expectedPrev row with
        | some wantPrev =>
            .broken accountId row.id
              (prevHashMismatch row.prevHash wantPrev) verified preChain
        | none =>
            let recomputed :=
              computeAuditEntryHash sha256 row.prevHash accountId
                row.organizationId row.eventJson
            if recomputed = row.entryHash then
              verifyRows sha256 accountId (verified + 1) preChain
                (some row.entryHash) rest
            else
              .broken accountId row.id entryHashMismatch verified preChain

/-- Recompute the audit hash chain of an account and report integrity. -/
def verifyAuditChain
    (sha256 : List UInt8 → List UInt8)
    (table : AuditTable) (accountId : String) : AuditChainStatus :=
  verifyRows sha256 accountId 0 0 none (table.rowsOf accountId)

end OpenSnow.Catalog.AuditEvents
