import OpenSnow.Server.Scim

/-!
# The life of SCIM tokens

Tokens are issued, listed and authenticated from the catalog, and revoked
through the map of the process.  Over a run, with restarts in between, the two
have to know the same tokens.
-/

namespace OpenSnow.Server.Scim

open Catalog.Scim
open Foundation
open Foundation.NumberedNames
open ScimDirectory

/-! ## Runs -/

/-- A call of the directory, or the start of another process. -/
inductive TokenEvent where
  | rotate (moment : ScimMoment) (crypto : TokenCrypto)
      (accountId label : String)
  | revoke (moment : ScimMoment) (accountId tokenId : String)
  | authenticate (moment : ScimMoment) (secret : String)
  | restart

/-- The directory, with the tokens that were issued and revoked so far. -/
structure TokenHistory where
  directory : ScimDirectory
  issued : List ScimTokenIssue
  /-- The ids for which `revoke_token` has answered `Ok`. -/
  revoked : List String

namespace TokenHistory

def fresh : TokenHistory := ⟨.empty, [], []⟩

def rotate (history : TokenHistory) (moment : ScimMoment)
    (crypto : TokenCrypto) (accountId label : String) : TokenHistory :=
  let (issue, directory) :=
    rotateToken moment crypto accountId label history.directory
  { history with directory, issued := issue :: history.issued }

def revoke (history : TokenHistory) (moment : ScimMoment)
    (accountId tokenId : String) : TokenHistory :=
  match revokeToken moment accountId tokenId history.directory with
  | (.ok (), directory) =>
      { history with directory, revoked := tokenId :: history.revoked }
  | (.error _, directory) => { history with directory }

/-- Another process on the same catalog starts with empty maps. -/
def restart (history : TokenHistory) : TokenHistory :=
  { history with directory := { history.directory with inner := .empty } }

/-- Authentication leaves the directory as it is. -/
def step (history : TokenHistory) : TokenEvent → TokenHistory
  | .rotate moment crypto accountId label =>
      history.rotate moment crypto accountId label
  | .revoke moment accountId tokenId =>
      history.revoke moment accountId tokenId
  | .authenticate _ _ => history
  | .restart => history.restart

def run (history : TokenHistory) (events : List TokenEvent) : TokenHistory :=
  events.foldl step history

end TokenHistory

/-! ## What is promised -/

/-- What is promised of the tokens after a run. -/
structure TokensKept (verify : String → String → Bool)
    (history : TokenHistory) : Prop where
  distinct : (history.issued.map ScimTokenIssue.id).Nodup
  authenticates : ∀ issue ∈ history.issued, issue.id ∉ history.revoked →
    ∀ moment, ∃ token,
      authenticateToken moment verify issue.secret history.directory =
        some token ∧ token.accountId = issue.accountId
  revocable : ∀ moment later accountId,
    ∀ token ∈ listTokens moment accountId history.directory,
      token.revokedAt = none →
        (revokeToken later accountId token.id history.directory).1 = .ok ()
  refused : ∀ issue ∈ history.issued, issue.id ∈ history.revoked →
    ∀ moment,
      authenticateToken moment verify issue.secret history.directory = none

/--
The catalog works when a token is written, and a process starts when the
catalog has no token that is not revoked.
-/
def Careful (history : TokenHistory) : TokenEvent → Prop
  | .rotate moment _ _ _ => moment.Works
  | .revoke moment _ _ => moment.Works
  | .authenticate _ _ => True
  | .restart => ∀ record ∈ history.directory.tables.tokens.rows,
      record.snapshot.revokedAt.isSome

def CarefulRun : TokenHistory → List TokenEvent → Prop
  | _, [] => True
  | history, event :: rest =>
      Careful history event ∧ CarefulRun (history.step event) rest

/-- Argon2 accepts exactly the secret that was hashed. -/
def TokenEvent.Exact (verify : String → String → Bool) : TokenEvent → Prop
  | .rotate _ crypto _ _ => ∀ secret other,
      verify (crypto.hash secret) other ↔ other = secret
  | _ => True

/-- The salt of the secret that the event makes. -/
def TokenEvent.salt : TokenEvent → Option String
  | .rotate _ crypto _ _ => some crypto.salt
  | _ => none

/-! ## The invariant -/

/-- The row of an issued token. -/
def Holds (verify : String → String → Bool) (history : TokenHistory)
    (issue : ScimTokenIssue) (record : ScimTokenRecord) : Prop :=
  record.owner = issue.accountId ∧
    (∀ other, verify record.secretHash other ↔ other = issue.secret) ∧
    (record.snapshot.revokedAt.isSome ↔ issue.id ∈ history.revoked)

/-- The number of an account's tokens in the catalog. -/
def tokenCount (accountId : String) (tokens : TokenTable) : Nat :=
  (ofAccount ScimTokenRecord.owner accountId tokens.rows).length

/-- What careful runs keep, with the salts that were used. -/
structure Kept (verify : String → String → Bool) (salts : List String)
    (history : TokenHistory) : Prop where
  /-- Every issued token has its row. -/
  row : ∀ issue ∈ history.issued, ∃ record,
    history.directory.tables.tokens.find issue.id = some record ∧
      Holds verify history issue record
  /-- Every row is the row of an issued token. -/
  issue : ∀ record ∈ history.directory.tables.tokens.rows,
    ∃ issue ∈ history.issued, issue.id = record.id
  /-- The map knows no other tokens than the catalog. -/
  stored : ∀ tokenId record,
    history.directory.inner.tokens.find tokenId = some record →
      history.directory.tables.tokens.find tokenId = some record
  /-- The map knows all tokens that can be used. -/
  mapped : ∀ tokenId record,
    history.directory.tables.tokens.find tokenId = some record →
      record.snapshot.revokedAt = none →
        history.directory.inner.tokens.find tokenId = some record
  /-- Only tokens with a row are revoked. -/
  known : ∀ tokenId ∈ history.revoked,
    history.directory.tables.tokens.find tokenId ≠ none
  numbered : ∀ issue ∈ history.issued, ∃ number,
    number ≤ tokenCount issue.accountId history.directory.tables.tokens ∧
      issue.id = numbered "sct_" issue.accountId number
  distinct : (history.issued.map ScimTokenIssue.id).Nodup
  salted : ∀ issue ∈ history.issued, ∃ stem, ∃ salt ∈ salts,
    '_' ∉ salt.toList ∧ issue.secret = stem ++ "_" ++ salt
  secrets : (history.issued.map ScimTokenIssue.secret).Nodup

theorem kept_fresh (verify : String → String → Bool) :
    Kept verify [] .fresh where
  row _ member := nomatch member
  issue _ member := nomatch member
  stored _ _ found := nomatch found
  mapped _ _ found := nomatch found
  known _ member := nomatch member
  numbered _ member := nomatch member
  distinct := List.nodup_nil
  salted _ member := nomatch member
  secrets := List.nodup_nil

/-! ## What the invariant says -/

section Kept

variable {verify : String → String → Bool} {salts : List String}
  {history : TokenHistory}

variable {record : ScimTokenRecord}

theorem Kept.mem_stored (kept : Kept verify salts history)
    (member : record ∈ history.directory.inner.tokens.rows) :
    record ∈ history.directory.tables.tokens.rows :=
  Keyed.mem_of_find (kept.stored _ _ (Keyed.find_of_mem member))

variable {issue : ScimTokenIssue}

/-- A row that a secret fits is the row of the token with this secret. -/
theorem Kept.row_of_fits (kept : Kept verify salts history)
    (issued : issue ∈ history.issued)
    (member : record ∈ history.directory.tables.tokens.rows)
    (fitting : fits verify issue.secret record) :
    history.directory.tables.tokens.find issue.id = some record := by
  obtain ⟨other, otherIssued, sameId⟩ := kept.issue record member
  obtain ⟨row, found, -, exact, -⟩ := kept.row other otherIssued
  have isRow : row = record := by
    rw [sameId, Keyed.find_of_mem member] at found
    exact (Option.some.inj found).symm
  subst isRow
  rw [fits, Bool.and_eq_true] at fitting
  have sameSecret := (exact issue.secret).mp fitting.2
  rw [List.inj_on_of_nodup_map kept.secrets issued otherIssued sameSecret,
    found]

/-- The rows that an authentication looks through. -/
def searched (moment : ScimMoment) (directory : ScimDirectory) :
    List ScimTokenRecord :=
  if moment.opens ∧ ¬ moment.fails .allTokens then
    allScimTokens directory.tables.tokens
  else directory.inner.tokens.rows

section

variable (kept : Kept verify salts history)

include kept

theorem Kept.mem_of_searched {moment : ScimMoment}
    (member : record ∈ searched moment history.directory) :
    record ∈ history.directory.tables.tokens.rows := by
  unfold searched at member
  split_ifs at member
  · exact mem_orderBy.mp member
  · exact kept.mem_stored member

theorem Kept.mem_searched (moment : ScimMoment) {tokenId : String}
    (found : history.directory.tables.tokens.find tokenId = some record)
    (usable : record.snapshot.revokedAt = none) :
    record ∈ searched moment history.directory := by
  unfold searched
  split_ifs
  · exact mem_orderBy.mpr (Keyed.mem_of_find found)
  · exact Keyed.mem_of_find (kept.mapped _ _ found usable)

theorem Kept.authenticates (issued : issue ∈ history.issued)
    (usable : issue.id ∉ history.revoked) (moment : ScimMoment) :
    ∃ token,
      authenticateToken moment verify issue.secret history.directory =
        some token ∧ token.accountId = issue.accountId := by
  obtain ⟨record, found, owner, exact, revoked⟩ := kept.row issue issued
  have notRevoked : record.snapshot.revokedAt = none :=
    Option.not_isSome_iff_eq_none.mp (mt revoked.mp usable)
  have fitting : fits verify issue.secret record := by
    rw [fits, notRevoked, (exact issue.secret).mpr rfl]
    rfl
  obtain ⟨first, isFirst⟩ := Option.isSome_iff_exists.mp
    (List.find?_isSome.mpr
      ⟨record, kept.mem_searched moment found notRevoked, fitting⟩)
  have sameRow := kept.row_of_fits issued
    (kept.mem_of_searched (List.mem_of_find?_eq_some isFirst))
    (List.find?_some isFirst)
  rw [found] at sameRow
  cases sameRow
  refine ⟨record.snapshot, ?_, owner⟩
  rw [authenticateToken, ← searched, isFirst]
  rfl

theorem Kept.refused (issued : issue ∈ history.issued)
    (stopped : issue.id ∈ history.revoked) (moment : ScimMoment) :
    authenticateToken moment verify issue.secret history.directory =
      none := by
  obtain ⟨record, found, -, -, revoked⟩ := kept.row issue issued
  rw [authenticateToken, ← searched, Option.map_eq_none_iff,
    List.find?_eq_none]
  intro other member fitting
  have sameRow :=
    kept.row_of_fits issued (kept.mem_of_searched member) fitting
  rw [found] at sameRow
  cases sameRow
  rw [fits, Bool.and_eq_true] at fitting
  have unused := revoked.mpr stopped
  rw [Option.isNone_iff_eq_none.mp fitting.1] at unused
  cases unused

/-- Both lists are lists of rows of the account, as the map has them. -/
theorem Kept.listed
    {moment : ScimMoment} {accountId : String} {token : ScimTokenSnapshot}
    (member : token ∈ listTokens moment accountId history.directory)
    (usable : token.revokedAt = none) :
    ∃ record, history.directory.inner.tokens.find token.id = some record ∧
      record.owner = accountId := by
  have mapped : ∀ record ∈ history.directory.tables.tokens.rows,
      record.snapshot = token →
        history.directory.inner.tokens.find token.id = some record := by
    rintro record isRow rfl
    exact kept.mapped _ _ (Keyed.find_of_mem isRow) usable
  unfold listTokens at member
  split_ifs at member
  · rw [listScimTokens, List.mem_map] at member
    obtain ⟨record, isRow, isToken⟩ := member
    rw [mem_orderBy, ofAccount, List.mem_filter, decide_eq_true_eq] at isRow
    exact ⟨record, mapped record isRow.1 isToken, isRow.2⟩
  · rw [memoryTokens, List.mem_insertionSort, List.mem_map] at member
    obtain ⟨record, isRow, isToken⟩ := member
    rw [ofAccount, List.mem_filter, decide_eq_true_eq] at isRow
    exact
      ⟨record, mapped record (kept.mem_stored isRow.1) isToken, isRow.2⟩

/-- What `revoke_token` does with a token that the map knows. -/
theorem Kept.revokeToken_ok (moment : ScimMoment) {accountId tokenId : String}
    (found : history.directory.inner.tokens.find tokenId = some record)
    (owner : record.owner = accountId) :
    revokeToken moment accountId tokenId history.directory =
      (.ok (),
        { inner :=
            { history.directory.inner with
              tokens :=
                history.directory.inner.tokens.put
                  (record.revoke moment.now) }
          tables :=
            if moment.opens ∧ ¬ moment.fails .revokeToken then
              { history.directory.tables with
                tokens :=
                  history.directory.tables.tokens.put
                    (record.revoke moment.now) }
            else history.directory.tables }) := by
  have stored := kept.stored _ _ found
  rw [revokeToken, found]
  dsimp only
  rw [if_neg (not_not_intro owner), revokeStored]
  split_ifs
  · rw [revokeScimToken]
    dsimp only
    rw [stored, Option.filter_some_pos (by simpa using owner)]
    rfl
  · rfl

theorem Kept.tokensKept :
    TokensKept verify history where
  distinct := kept.distinct
  authenticates issue issued usable moment :=
    kept.authenticates issued usable moment
  revocable moment later accountId token member usable := by
    obtain ⟨record, found, owner⟩ := kept.listed member usable
    rw [kept.revokeToken_ok later found owner]
  refused issue issued stopped moment :=
    kept.refused issued stopped moment

end

end Kept

/-! ## The steps -/

theorem Kept.nextId_absent {verify : String → String → Bool}
    {salts : List String} {history : TokenHistory}
    (kept : Kept verify salts history) (accountId : String) :
    history.directory.tables.tokens.find
      (nextScimTokenId accountId history.directory.tables.tokens) = none := by
  rw [Keyed.find_eq_none]
  intro record member sameId
  obtain ⟨issue, issued, isRow⟩ := kept.issue record member
  obtain ⟨number, bound, isNumber⟩ := kept.numbered issue issued
  have same := isRow.symm.trans isNumber
  rw [sameId, nextScimTokenId, nextId, numbered_inj] at same
  rw [tokenCount, ← same.1] at bound
  omega

section Steps

variable {verify : String → String → Bool} {salts : List String}
  {history : TokenHistory}

/-- The row of a new token. -/
def newRow (moment : ScimMoment) (crypto : TokenCrypto)
    (accountId label id : String) (counter : Nat) : ScimTokenRecord where
  snapshot :=
    { id, accountId, label := tokenLabel label
      createdAt := moment.now, revokedAt := none }
  secretHash := crypto.hash (tokenSecret accountId counter crypto.salt)

variable {moment : ScimMoment}

section

variable (kept : Kept verify salts history)

include kept

/-- A working catalog takes the new row, as the map does. -/
theorem Kept.rotateToken_eq (works : moment.Works) (crypto : TokenCrypto)
    (accountId label : String) :
    rotateToken moment crypto accountId label history.directory =
      let counter := history.directory.inner.tokenCounter + 1
      let id := nextScimTokenId accountId history.directory.tables.tokens
      let record := newRow moment crypto accountId label id counter
      (⟨id, accountId, tokenLabel label,
          tokenSecret accountId counter crypto.salt, moment.now⟩,
        { inner :=
            { history.directory.inner with
              tokenCounter := counter
              tokens := history.directory.inner.tokens.put record }
          tables :=
            { history.directory.tables with
              tokens := history.directory.tables.tokens.put record } }) := by
  have opens : ∀ op, moment.opens = true ∧ ¬ moment.fails op = true :=
    fun op => ⟨works.1, by rw [works.2 op]; exact Bool.false_ne_true⟩
  rw [rotateToken]
  simp only [tokenId, if_pos (opens _)]
  rw [upsertScimToken]
  simp only [ScimTokenRecord.id, kept.nextId_absent]
  rfl

theorem Kept.stored_put (record : ScimTokenRecord) : ∀ tokenId row,
      (history.directory.inner.tokens.put record).find tokenId = some row →
        (history.directory.tables.tokens.put record).find tokenId =
          some row := by
  intro tokenId row found
  exact
    Keyed.find_put_of_find (fun wanted held found (_ : True) =>
      kept.stored wanted held found) record tokenId row found trivial

theorem Kept.nextId_unused (accountId : String) : ∀ issue ∈ history.issued,
      issue.id ≠ nextScimTokenId accountId history.directory.tables.tokens := by
  intro issue issued sameId
  obtain ⟨row, found, -⟩ := kept.row issue issued
  rw [sameId, kept.nextId_absent] at found
  cases found

/-- A secret ends in its salt. -/
theorem Kept.secret_unused
    {crypto : TokenCrypto} (fresh : crypto.salt ∉ salts) (accountId : String)
    (counter : Nat) : ∀ issue ∈ history.issued,
      issue.secret ≠ tokenSecret accountId counter crypto.salt := by
  intro issue issued sameSecret
  obtain ⟨stem, salt, used, plain, isSalted⟩ := kept.salted issue issued
  have same := isSalted.symm.trans sameSecret
  rw [tokenSecret, tail_inj plain crypto.plain] at same
  exact fresh (same.2 ▸ used)

end

theorem tokenCount_put_of_absent {tokens : TokenTable}
    {record : ScimTokenRecord} (absent : tokens.find record.id = none)
    (accountId : String) :
    tokenCount accountId (tokens.put record) =
      tokenCount accountId tokens + if record.owner = accountId then 1 else 0 := by
  rw [tokenCount, tokenCount, Keyed.rows_put_of_absent absent, ofAccount,
    ofAccount, List.filter_append, List.length_append, List.filter_singleton]
  by_cases own : record.owner = accountId
  · simp [own]
  · simp [own]

theorem Kept.rotate (kept : Kept verify salts history)
    (works : moment.Works) {crypto : TokenCrypto} (exact : ∀ secret other,
      verify (crypto.hash secret) other ↔ other = secret)
    (fresh : crypto.salt ∉ salts) (accountId label : String) :
    Kept verify (crypto.salt :: salts)
      (history.rotate moment crypto accountId label) := by
  have absent := kept.nextId_absent accountId
  have unused := kept.nextId_unused accountId
  have unusedSecret := kept.secret_unused fresh accountId
    (history.directory.inner.tokenCounter + 1)
  rw [TokenHistory.rotate, kept.rotateToken_eq works]
  dsimp only
  generalize isId : nextScimTokenId accountId
    history.directory.tables.tokens = id at absent unused ⊢
  generalize isRecord : newRow moment crypto accountId label id
    (history.directory.inner.tokenCounter + 1) = record
  generalize isSecret : tokenSecret accountId
    (history.directory.inner.tokenCounter + 1) crypto.salt = secret
    at unusedSecret ⊢
  have recordId : record.id = id := by rw [← isRecord]; rfl
  have recordOwner : record.owner = accountId := by rw [← isRecord]; rfl
  have usable : record.snapshot.revokedAt = none := by rw [← isRecord]; rfl
  have notRevoked : id ∉ history.revoked := fun member =>
    kept.known id member absent
  have rowAbsent : history.directory.tables.tokens.find record.id = none := by
    rw [recordId, absent]
  have counts := tokenCount_put_of_absent rowAbsent
  rw [recordOwner] at counts
  refine
    { row := ?_, issue := ?_, stored := ?_, mapped := ?_, known := ?_
      numbered := ?_, distinct := ?_, salted := ?_, secrets := ?_ }
  · rintro issue issued
    rcases List.mem_cons.mp issued with rfl | earlier
    · refine ⟨record, ?_, recordOwner, ?_, ?_⟩
      · rw [Keyed.find_put, if_pos recordId]
      · intro other
        rw [← isRecord, ← isSecret]
        exact exact _ other
      · rw [usable]
        exact iff_of_false (by simp) notRevoked
    · obtain ⟨row, found, holds⟩ := kept.row issue earlier
      refine ⟨row, ?_, holds⟩
      rw [Keyed.find_put, recordId, if_neg (unused issue earlier).symm, found]
  · intro row member
    rw [Keyed.rows_put_of_absent rowAbsent, List.mem_append,
      List.mem_singleton] at member
    rcases member with earlier | rfl
    · obtain ⟨issue, issued, isRow⟩ := kept.issue row earlier
      exact ⟨issue, List.mem_cons_of_mem _ issued, isRow⟩
    · exact ⟨_, List.mem_cons_self, recordId.symm⟩
  · exact kept.stored_put record
  · exact Keyed.find_put_of_find kept.mapped record
  · exact fun tokenId member => Keyed.find_put_ne_none (kept.known _ member) _
  · intro issue issued
    rcases List.mem_cons.mp issued with rfl | earlier
    · refine ⟨tokenCount accountId history.directory.tables.tokens + 1,
        ?_, isId.symm⟩
      exact Nat.le_of_eq (by rw [counts, if_pos rfl])
    · obtain ⟨number, bound, isNumber⟩ := kept.numbered issue earlier
      refine ⟨number, bound.trans ?_, isNumber⟩
      rw [counts]
      exact Nat.le_add_right _ _
  · rw [List.map_cons, List.nodup_cons, List.mem_map]
    refine ⟨?_, kept.distinct⟩
    rintro ⟨issue, issued, sameId⟩
    exact unused issue issued sameId
  · intro issue issued
    rcases List.mem_cons.mp issued with rfl | earlier
    · exact ⟨_, _, List.mem_cons_self, crypto.plain, isSecret.symm⟩
    · obtain ⟨stem, salt, used, plain, isSalted⟩ := kept.salted issue earlier
      exact ⟨stem, salt, List.mem_cons_of_mem _ used, plain, isSalted⟩
  · rw [List.map_cons, List.nodup_cons, List.mem_map]
    refine ⟨?_, kept.secrets⟩
    rintro ⟨issue, issued, sameSecret⟩
    exact unusedSecret issue issued sameSecret

theorem revoke_id (record : ScimTokenRecord) (now : String) :
    (record.revoke now).id = record.id :=
  rfl

section

variable (kept : Kept verify salts history)

include kept

theorem Kept.revokeKnown (works : moment.Works) {tokenId : String}
    {record : ScimTokenRecord}
    (found : history.directory.inner.tokens.find tokenId = some record) :
    Kept verify salts
      (history.revoke moment record.owner tokenId) := by
  have stored := kept.stored _ _ found
  have isId : record.id = tokenId := Keyed.key_of_find found
  have opens : moment.opens = true ∧ ¬ moment.fails .revokeToken = true :=
    ⟨works.1, by rw [works.2]; exact Bool.false_ne_true⟩
  rw [TokenHistory.revoke, kept.revokeToken_ok moment found rfl,
    if_pos opens]
  dsimp only
  have counts : ∀ other, tokenCount other
        (history.directory.tables.tokens.put (record.revoke moment.now)) =
      tokenCount other history.directory.tables.tokens := by
    intro other
    have held : history.directory.tables.tokens.find
        (record.revoke moment.now).id = some record := by
      rw [revoke_id, isId, stored]
    exact Keyed.length_filter_put_of_held held rfl
  refine
    { row := ?_, issue := ?_, stored := ?_, mapped := ?_, known := ?_
      numbered := ?_, distinct := kept.distinct, salted := kept.salted
      secrets := kept.secrets }
  · intro issue issued
    obtain ⟨row, isRow, owner, exact, revoked⟩ := kept.row issue issued
    rw [Keyed.find_put, revoke_id, isId]
    split_ifs with same
    · subst same
      rw [stored] at isRow
      cases isRow
      exact ⟨_, rfl, owner, exact,
        iff_of_true rfl List.mem_cons_self⟩
    · refine ⟨row, isRow, owner, exact, revoked.trans ?_⟩
      rw [List.mem_cons, or_iff_right fun isSame => same isSame.symm]
  · intro row member
    rcases Keyed.mem_put.mp member with rfl | ⟨earlier, -⟩
    · exact kept.issue record (Keyed.mem_of_find stored)
    · exact kept.issue row earlier
  · exact kept.stored_put (record.revoke moment.now)
  · exact Keyed.find_put_of_find kept.mapped (record.revoke moment.now)
  · intro other member
    apply Keyed.find_put_ne_none
    rcases List.mem_cons.mp member with rfl | earlier
    · rw [stored]
      exact Option.some_ne_none record
    · exact kept.known other earlier
  · intro issue issued
    rw [counts]
    exact kept.numbered issue issued

theorem Kept.revoke (works : moment.Works) (accountId tokenId : String) :
    Kept verify salts (history.revoke moment accountId tokenId) := by
  cases found : history.directory.inner.tokens.find tokenId with
  | none =>
      rw [TokenHistory.revoke, revokeToken, found]
      exact kept
  | some record =>
      by_cases owner : record.owner = accountId
      · subst owner
        exact kept.revokeKnown works found
      · rw [TokenHistory.revoke, revokeToken, found]
        dsimp only
        rw [if_pos owner]
        exact kept

theorem Kept.restart (idle : ∀ record ∈ history.directory.tables.tokens.rows,
      record.snapshot.revokedAt.isSome) :
    Kept verify salts history.restart where
  row := kept.row
  issue := kept.issue
  stored _ _ found := nomatch found
  mapped _ record found live := by
    have revoked := idle record (Keyed.mem_of_find found)
    rw [live] at revoked
    cases revoked
  known := kept.known
  numbered := kept.numbered
  distinct := kept.distinct
  salted := kept.salted
  secrets := kept.secrets

theorem Kept.step {event : TokenEvent}
    (careful : Careful history event) (exact : event.Exact verify)
    (fresh : ∀ salt ∈ event.salt, salt ∉ salts) :
    Kept verify (event.salt.toList ++ salts) (history.step event) := by
  cases event with
  | rotate moment crypto accountId label =>
      exact kept.rotate careful exact (fresh crypto.salt rfl) accountId label
  | revoke moment accountId tokenId =>
      exact kept.revoke careful accountId tokenId
  | authenticate moment secret => exact kept
  | restart => exact kept.restart careful

end

end Steps

/-! ## Every run -/

theorem Kept.run {verify : String → String → Bool}
    {events : List TokenEvent} :
    ∀ {salts : List String} {history : TokenHistory},
      Kept verify salts history → CarefulRun history events →
      (∀ event ∈ events, event.Exact verify) →
      (∀ salt ∈ events.filterMap TokenEvent.salt, salt ∉ salts) →
      (events.filterMap TokenEvent.salt).Nodup →
        ∃ used, Kept verify used (history.run events) := by
  induction events with
  | nil => exact fun kept _ _ _ _ => ⟨_, kept⟩
  | cons event rest ih =>
      intro salts history kept careful exact fresh distinct
      rw [List.forall_mem_cons] at exact
      have own : ∀ salt ∈ event.salt, salt ∉ salts ∧
          salt ∉ rest.filterMap TokenEvent.salt := by
        intro salt isSalt
        rw [List.filterMap_cons, isSalt] at fresh distinct
        exact ⟨fresh salt List.mem_cons_self,
          (List.nodup_cons.mp distinct).1⟩
      have others : rest.filterMap TokenEvent.salt <:+
          (event :: rest).filterMap TokenEvent.salt :=
        (List.suffix_cons event rest).filterMap _
      refine ih (kept.step careful.1 exact.1 fun salt isSalt =>
        (own salt isSalt).1) careful.2 exact.2 ?_
        (others.sublist.nodup distinct)
      intro salt used
      rw [List.mem_append, Option.mem_toList, not_or]
      exact ⟨fun isSalt => (own salt isSalt).2 used,
        fresh salt (others.subset used)⟩

/--
A run that writes tokens only while the catalog works, and restarts only
without usable tokens, keeps what is promised of tokens.
-/
theorem tokens_kept {verify : String → String → Bool}
    {events : List TokenEvent} (careful : CarefulRun .fresh events)
    (exact : ∀ event ∈ events, event.Exact verify)
    (distinct : (events.filterMap TokenEvent.salt).Nodup) :
    TokensKept verify (TokenHistory.fresh.run events) := by
  obtain ⟨used, kept⟩ := (kept_fresh verify).run careful exact
    (fun _ _ => List.not_mem_nil) distinct
  exact kept.tokensKept

/-! ### Runs of one account -/

/-- A secret that is its own hash. -/
def plainCrypto (salt : String) (plain : '_' ∉ salt.toList) : TokenCrypto :=
  ⟨id, salt, plain⟩

def rotateAcme : TokenEvent :=
  .rotate calm (plainCrypto "c2FsdA" (by decide)) "acme" "okta"

/-- A token is issued and revoked, and another one after a restart. -/
def acmeRun : List TokenEvent :=
  [rotateAcme, .revoke calm "acme" "sct_acme_1", .restart,
    .rotate calm (plainCrypto "cGVwcGVy" (by decide)) "acme" "okta"]

theorem tokens_kept_acme :
    CarefulRun .fresh acmeRun ∧
      TokensKept (fun hash secret => hash == secret)
        (TokenHistory.fresh.run acmeRun) := by
  have careful : CarefulRun .fresh acmeRun := by
    refine ⟨⟨rfl, fun _ => rfl⟩, ⟨rfl, fun _ => rfl⟩, ?_,
      ⟨rfl, fun _ => rfl⟩, trivial⟩
    intro record member
    have revoked : ∀ record ∈ (TokenHistory.fresh.run
        (acmeRun.take 2)).directory.tables.tokens.rows,
        record.snapshot.revokedAt.isSome := by decide
    exact revoked record member
  refine ⟨careful, tokens_kept careful ?_ (by decide)⟩
  have exact : ∀ secret other : String,
      (secret == other) = true ↔ other = secret := by
    intro secret other
    rw [beq_iff_eq]
    exact eq_comm
  simp [acmeRun, rotateAcme, TokenEvent.Exact, plainCrypto, exact]

/-- After a restart, the token that is listed cannot be revoked. -/
theorem tokens_kept_fails :
    (∀ event ∈ [rotateAcme, .restart],
      event.Exact fun hash secret => hash == secret) ∧
      ¬ TokensKept (fun hash secret => hash == secret)
        (TokenHistory.fresh.run [rotateAcme, .restart]) := by
  constructor
  · have exact : ∀ secret other : String,
        (secret == other) = true ↔ other = secret := by
      intro secret other
      rw [beq_iff_eq]
      exact eq_comm
    simp [rotateAcme, TokenEvent.Exact, plainCrypto, exact]
  · intro promised
    have listed :
        ⟨"sct_acme_1", "acme", "okta", "2026-01-01T00:00:00Z", none⟩ ∈
          listTokens calm "acme"
            (TokenHistory.fresh.run [rotateAcme, .restart]).directory := by
      decide
    have refusal := promised.revocable calm calm "acme" _ listed rfl
    revert refusal
    decide

end OpenSnow.Server.Scim
