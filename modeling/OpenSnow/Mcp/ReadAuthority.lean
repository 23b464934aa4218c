import OpenSnow.Mcp.StatementEffects

/-!
# What read authority can change

A caller who may only read is accepted by two analysers and by the tools that a
read scope is enough for.  Both analysers accept definitions that read from a
table and name no object in the way the analyser expects; the engine carries
them out and ignores the rest of their texts.
-/

namespace OpenSnow.Mcp

open Auth
open OpenSnow.Core
open Core.Commands
open Foundation
open Rust.Json
open Rust.Text
open Server (AuthContext Claims Letters ObjectPolicyStore)

/-! ## Callers -/

/-- The claims that a caller acts with, and the object policy in force. -/
structure Caller where
  claims : Claims
  policy : Option PrivilegeStore

/-- A caller with read scopes alone, who may only `SELECT` from tables. -/
structure Caller.ReadsOnly (caller : Caller) : Prop where
  scopes : ∀ scope ∈ caller.claims.scopes, scope ∈ readScopes
  role : caller.claims.role ∉ ["ACCOUNTADMIN", "SYSADMIN"]
  selects : ∀ store, caller.policy = some store →
    ∀ privilege objectType objectName,
      store.Authorises caller.claims.role privilege objectType objectName →
        privilege = .select ∧ objectType = .table

/-- A caller who may read these tables. -/
def readerOf (names : List String) : Caller where
  claims :=
    ⟨1, "test-user", "ANALYST", "default", ["sql.query"], none, none⟩
  policy := some (.reading "ANALYST" names)

theorem readerOf_readsOnly (names : List String) :
    (readerOf names).ReadsOnly where
  scopes := by
    rintro scope (_ | ⟨_, ⟨⟩⟩)
    decide
  role := show "ANALYST" ∉ ["ACCOUNTADMIN", "SYSADMIN"] by decide
  selects := by
    rintro store ⟨⟩ privilege objectType objectName authorised
    have reads := of_reading_authorises (by decide) authorised
    exact ⟨reads.1, reads.2.1⟩

theorem Caller.ReadsOnly.hasScope {caller : Caller}
    (reads : caller.ReadsOnly) {scope : String} (control : scope ∉ readScopes) :
    hasScope caller.claims scope = false := by
  rw [Mcp.hasScope, List.any_eq_false]
  intro held member
  have known := reads.scopes held member
  simp only [Bool.or_eq_true, beq_iff_eq, not_or]
  constructor
  · rintro rfl
    exact control known
  · rintro rfl
    exact absurd known (by decide)

theorem Caller.ReadsOnly.not_admin {caller : Caller}
    (reads : caller.ReadsOnly) : ¬ isPlatformAdmin caller.claims := by
  rw [isPlatformAdmin, reads.hasScope (by decide), reads.hasScope (by decide),
    Bool.or_false, Bool.or_false, decide_eq_true_iff]
  exact reads.role

theorem isPlatformAdmin_ofClaims (claims : Claims) :
    (AuthContext.ofClaims claims).isPlatformAdmin = isPlatformAdmin claims := by
  rw [Bool.eq_iff_iff]
  simp [AuthContext.isPlatformAdmin, AuthContext.hasAnyScope,
    AuthContext.hasScope, AuthContext.ofClaims, isPlatformAdmin, hasScope,
    or_assoc]

/-! ## What is promised -/

/-- What a caller asks for, and who decides on it. -/
inductive Entry where
  /-- A text for `ObjectPolicyStore::check_sql`. -/
  | checkSql (sql : String)
  /-- A text for `authorize_sql_for_claims`. -/
  | authorizeSql (sql : String)
  /-- A call of a tool that counts as read-only. -/
  | tool (called : Tool) (arguments : Value)

def Entry.Accepts (caller : Caller) : Entry → Prop
  | .checkSql sql =>
      ∃ store, caller.policy = some store ∧
        ObjectPolicyStore.checkSql ⟨store⟩ (.ofClaims caller.claims) sql =
          .allow
  | .authorizeSql sql =>
      authorizeSqlForClaims caller.claims caller.policy sql = .ok ()
  | .tool called arguments =>
      called.name ∈ readTools ∧
        authorizeClaimsForTool (some caller.claims) caller.policy called.name
            arguments = .ok ()

def Entry.statements (world : AgentWorld) : Entry → List Statement
  | .checkSql sql | .authorizeSql sql => [.sql sql]
  | .tool called arguments => handleToolCall world arguments called

section Promise

variable {Row Key Location Contents : Type} [DecidableEq Key]
  [DecidableEq Location] (platform : Platform Row Key Location Contents)
  (engine : QueryEngine (EngineState Row Key Location Contents))
  (world : AgentWorld)

/--
Whatever is executed for a caller who may only read dispatches no altering
command and changes nothing.
-/
def KeepsReadAuthority (entry : Entry) : Prop :=
  ∀ caller : Caller, caller.ReadsOnly → entry.Accepts caller →
    ∀ statement ∈ entry.statements world,
      statement.Harmless platform engine

/-- The definitions that `check_sql` can take for a read. -/
def creations : List Handler :=
  [.createWarehouse, .ctas, .createMaterializedView]

/-- The definitions that `authorize_sql_for_claims` can take for a read. -/
def definitions : List Handler :=
  [.createWarehouse, .alterWarehouse, .createMaterializedView,
    .dropMaterializedView]

/--
No text that asks for reads alone is such a definition, and no query of
`refactor_test` is an altering command.  What no command handler takes is left
to the query engine.
-/
def Entry.ReadsAsAsked : Entry → Prop
  | .checkSql sql => Server.AsksReadsAlone sql → ¬ Alters engine creations sql
  | .authorizeSql sql => AsksReadsAlone sql → ¬ Alters engine definitions sql
  | .tool .refactorTest arguments =>
      ∀ sql ∈ strsParam arguments "queries",
        ¬ Alters engine alteringHandlers sql
  | .tool _ _ => True

end Promise

/-! ## Letters of verbs -/

variable {handler : Handler}

theorem letters_of_verb {front suffix : List Char}
    (upper : front.map Char.toUpper = handler.letters.toList) :
    handler.letters.toList <+:
      (toAsciiUppercase (String.ofList (front ++ suffix))).toList := by
  rw [toAsciiUppercase, String.toList_ofList, String.toList_ofList,
    List.map_append, upper]
  exact List.prefix_append _ _

/-- The letters at the start of a text that takes an altering branch. -/
theorem exists_letters {text : List Char}
    (stops : Stops isWhitespace text) (alters : handler.alters)
    (row : (true, handler) ∈ branches text) :
    ∃ front rest, text = front ++ rest ∧ Letters front ∧
      front.map Char.toUpper = handler.letters.toList := by
  have begins := letters_of_branch stops row
  have known := (alters_iff_letters handler).mp alters
  have spelled : ∀ letters ∈ ["CR", "AL", "CO", "RE", "DR"],
      AsciiSpelled letters.toList ∧ letters.toList.all Char.isAlpha ∧
        letters.toList ≠ [] := by
    decide
  rcases spelled _ known with ⟨ascii, letters, nonempty⟩
  rcases exists_spelling ascii begins with ⟨front, rest, shape, upper, -⟩
  refine ⟨front, rest, shape, ⟨?_, letters_of_upper upper letters⟩, upper⟩
  rintro rfl
  exact nonempty upper.symm

/-- The letters of the altering branches that verbs of reads can have. -/
theorem read_letters :
    ∀ letters ∈ ["CR", "AL", "CO", "RE", "DR"],
      (∀ verb ∈ ["SELECT", "WITH", "INSERT", "CREATE"],
        letters.toList <+: verb.toList → letters = "CR" ∧ verb = "CREATE") ∧
      ∀ verb ∈ analysedVerbs, letters.toList <+: verb.toList →
        (letters, verb) ∈
          [("CR", "CREATE"), ("AL", "ALTER"), ("DR", "DROP")] := by
  decide

/-- A first token that spells a verb starts with a letter. -/
theorem head_letter_of_verb {first verb : String}
    (upper : toAsciiUppercase first = verb)
    (letters : verb.toList.all Char.isAlpha) :
    ∀ ch ∈ first.toList.head?, ch.isAlpha := by
  intro ch isHead
  have spelled : first.toList.map Char.toUpper = verb.toList := by
    rw [← upper, toAsciiUppercase, String.toList_ofList]
  exact letters_of_upper spelled letters ch (List.mem_of_mem_head? isHead)

variable {sql : String}

/-- What `check_sql` takes for a read alters something as a creation alone. -/
theorem begins_creations (reads : Server.AsksReadsAlone sql)
    (begins : Begins alteringHandlers (stripped sql.toList)) :
    Begins creations (stripped sql.toList) := by
  rcases begins with ⟨handler, member, row⟩
  have alters := (mem_alteringHandlers_iff handler).mp member
  rcases exists_letters (stripped_stops _) alters row with
    ⟨front, rest, shape, letters, upper⟩
  rcases reads with ⟨first, more, tokens, owns, -⟩
  have verb : toAsciiUppercase first ∈
      ["SELECT", "WITH", "INSERT", "CREATE"] := by
    have queries : ["SELECT", "WITH"] ⊆
        ["SELECT", "WITH", "INSERT", "CREATE"] := by decide
    rcases owns with query | ⟨insert, -⟩ | ⟨create, -⟩
    · exact queries query
    · rw [insert]
      decide
    · rw [create]
      decide
  have allLetters : ∀ word ∈ ["SELECT", "WITH", "INSERT", "CREATE"],
      word.toList.all Char.isAlpha := by
    decide
  have head := head_letter_of_verb rfl (allLetters _ verb)
  rw [Server.stripped_of_letter tokens head] at shape
  rcases Server.tokenizeSql_letters shape letters with
    ⟨suffix, others, found⟩
  rw [tokens, List.cons.injEq] at found
  rw [found.1] at verb
  have known := (alters_iff_letters handler).mp alters
  have create :=
    ((read_letters _ known).1 _ verb (letters_of_verb upper)).1
  refine ⟨handler, ?_, row⟩
  revert create
  cases handler <;> decide

/-- `DROP TABLE` with one blank between the words and one behind them. -/
theorem afterKeywords_dropTable {text : List Char}
    (begins : hasPrefix (upperChars text) "DROP TABLE ") :
    (afterKeywords text ["DROP", "TABLE"]).isSome := by
  rcases
      @exists_spelling "DROP TABLE ".toList _ (by decide)
        (List.isPrefixOf_iff_prefix.mp begins) with
    ⟨front, rest, rfl, upper, -⟩
  have words : "DROP TABLE ".toList =
      "DROP".toList ++ ' ' :: ("TABLE".toList ++ [' ']) := by
    decide
  rw [words] at upper
  rcases List.map_eq_append_iff.mp upper with
    ⟨drop, behind, rfl, isDrop, others⟩
  rcases List.map_eq_cons_iff.mp others with
    ⟨first, after, rfl, isFirst, last⟩
  rcases List.map_eq_append_iff.mp last with
    ⟨table, ending, rfl, isTable, blank⟩
  rcases List.map_eq_singleton_iff.mp blank with ⟨second, rfl, isSecond⟩
  rw [toUpper_eq_iff (by decide)] at isFirst isSecond
  rw [isFirst, isSecond]
  have spellsDrop : Spells drop "DROP" := ⟨isDrop, by decide, by decide⟩
  have spellsTable : Spells table "TABLE" := ⟨isTable, by decide, by decide⟩
  have one :=
    @afterKeyword_append [] drop (' ' :: (table ++ ' ' :: rest)) _ blank_nil
      spellsDrop (stops_cons.mpr (by decide))
  have two :=
    @afterKeyword_append [' '] table (' ' :: rest) _
      (blank_cons.mpr ⟨by decide, blank_nil⟩) spellsTable
      (stops_cons.mpr (by decide))
  have shape : drop ++ ' ' :: (table ++ [' ']) ++ rest =
      [] ++ (drop ++ ' ' :: (table ++ ' ' :: rest)) := by
    simp
  rw [shape, afterKeywords, one, Option.bind_some, afterKeywords]
  change (((afterKeyword ([' '] ++ (table ++ ' ' :: rest)) "TABLE").bind
    _).isSome : Bool)
  rw [two]
  rfl

/-- A statement about a table asks for its own object. -/
theorem not_ownsNothing_of_table {sql first verb : String}
    {rest : List String} (tokens : tokenizeSql sql = first :: rest)
    (table : (tokenizeSql sql)[1]?.any (eqIgnoreAsciiCase · "TABLE"))
    (definition : verb ∈ ["CREATE", "DROP"]) :
    ¬ OwnsNothing (first :: rest) verb := by
  rw [tokens] at table
  have others : verb ∉ ["SELECT", "WITH"] ∧ verb ≠ "INSERT" := by
    revert definition
    simp only [List.mem_cons, List.not_mem_nil, or_false]
    rintro (rfl | rfl) <;> decide
  rintro (query | ⟨insert, -⟩ | ⟨-, noTable⟩)
  · exact others.1 query
  · exact others.2 insert
  · exact noTable table

/-- What `authorize_sql_for_claims` takes for a read names no table to alter. -/
theorem begins_definitions (reads : AsksReadsAlone sql)
    (begins : Begins alteringHandlers (stripped sql.toList)) :
    Begins definitions (stripped sql.toList) := by
  rcases begins with ⟨handler, member, row⟩
  have alters := (mem_alteringHandlers_iff handler).mp member
  rcases exists_letters (stripped_stops _) alters row with
    ⟨front, rest, shape, letters, upper⟩
  rcases reads with ⟨first, more, tokens, -, owns, -⟩
  rcases tokenizeSql_letters shape letters with ⟨suffix, others, found⟩
  have isFirst := found
  rw [tokens, List.cons.injEq] at isFirst
  have known := (alters_iff_letters handler).mp alters
  have looked := owns.looked
  rw [isFirst.1] at looked
  have pair :=
    (read_letters _ known).2 _ looked (letters_of_verb upper)
  rw [← isFirst.1] at pair
  cases handler with
  | createWarehouse => exact ⟨_, by decide, row⟩
  | alterWarehouse => exact ⟨_, by decide, row⟩
  | createMaterializedView => exact ⟨_, by decide, row⟩
  | dropMaterializedView => exact ⟨_, by decide, row⟩
  | ctas =>
      have creates : createsTable (stripped sql.toList) := by
        simpa [branches] using row
      rcases Option.isSome_iff_exists.mp (createsTable_keywords creates) with
        ⟨behind, follows⟩
      have table :=
        second_of_afterKeywords (by decide) (by decide) (by decide) follows
      have create : toAsciiUppercase first = "CREATE" := by
        simpa [Handler.letters] using pair
      rw [create] at owns
      exact absurd owns (not_ownsNothing_of_table tokens table (by decide))
  | dropTable =>
      have drops :
          hasPrefix (upperChars (stripped sql.toList)) "DROP TABLE " := by
        simpa [branches] using row
      rcases Option.isSome_iff_exists.mp (afterKeywords_dropTable drops) with
        ⟨behind, follows⟩
      have table :=
        second_of_afterKeywords (by decide) (by decide) (by decide) follows
      have drop : toAsciiUppercase first = "DROP" := by
        simpa [Handler.letters] using pair
      rw [drop] at owns
      exact absurd owns (not_ownsNothing_of_table tokens table (by decide))
  | copyInto | refreshMaterializedView =>
      simp [Handler.letters] at pair
  | showWarehouses | useWarehouse | showTables | showDatabases | describe =>
      cases alters

/-! ## Who is accepted -/

/-- Some caller who may only read is accepted. -/
def Entry.Admitted (entry : Entry) : Prop :=
  ∃ caller : Caller, caller.ReadsOnly ∧ entry.Accepts caller

theorem admitted_checkSql_iff :
    (Entry.checkSql sql).Admitted ↔ Server.AsksReadsAlone sql := by
  rw [Server.asksReadsAlone_iff]
  constructor
  · rintro ⟨caller, reads, store, held, allowed⟩
    have notAdmin : ¬ (AuthContext.ofClaims caller.claims).isPlatformAdmin := by
      rw [isPlatformAdmin_ofClaims]
      exact reads.not_admin
    rw [Server.checkSql_eq_allow_iff notAdmin] at allowed
    exact
      ⟨allowed.1, fun req member =>
        reads.selects store held _ _ _ (allowed.2 req member)⟩
  · rintro ⟨asked, selects⟩
    let names := (Server.analyzeSql sql).map (·.objectName)
    have reads := readerOf_readsOnly names
    refine ⟨readerOf names, reads, _, rfl, ?_⟩
    rw [Server.checkSql_eq_allow_iff
      (isPlatformAdmin_ofClaims _ ▸ reads.not_admin)]
    refine ⟨asked, fun req member => ?_⟩
    rw [(selects req member).1, (selects req member).2]
    exact reading_authorises (List.mem_map_of_mem member)

theorem admitted_authorizeSql_iff :
    (Entry.authorizeSql sql).Admitted ↔ AsksReadsAlone sql := by
  rw [asksReadsAlone_iff]
  constructor
  · rintro ⟨caller, reads, accepted⟩
    rcases (authorizeSqlForClaims_ok_iff reads.not_admin).mp accepted with
      ⟨reqs, analysed, asked, authorised⟩
    refine ⟨reqs, analysed, asked, fun req member => ?_⟩
    rcases authorised req member with ⟨store, held, allowed⟩
    exact (reads.selects store held _ _ _ allowed).1
  · rintro ⟨reqs, analysed, asked, selects⟩
    let names := reqs.map (·.2.2)
    have reads := readerOf_readsOnly names
    refine
      ⟨readerOf names, reads,
        (authorizeSqlForClaims_ok_iff reads.not_admin).mpr
          ⟨reqs, analysed, asked, fun req member => ⟨_, rfl, ?_⟩⟩⟩
    rw [selects req member, analyzeMcpSql_tables analysed req member]
    exact reading_authorises (List.mem_map_of_mem member)

theorem admitted_tool_iff {called : Tool} {arguments : Value} :
    (Entry.tool called arguments).Admitted ↔ called.name ∈ readTools := by
  constructor
  · rintro ⟨caller, -, known, -⟩
    exact known
  · intro known
    refine ⟨readerOf [], readerOf_readsOnly [], known, ?_⟩
    have satisfied : claimsSatisfy (readerOf []).claims [] readScopes := by
      decide
    rw [authorizeClaimsForTool, if_pos known, allowIf, if_pos satisfied]

/-! ## When read authority stays read-only -/

/-- Handlers that cover what a text begins with tell what it alters. -/
theorem alters_iff_of_begins {Row Key Location Contents : Type}
    {engine : QueryEngine (EngineState Row Key Location Contents)}
    {handlers : List Handler} (known : handlers ⊆ alteringHandlers)
    (covered : Begins alteringHandlers (stripped sql.toList) →
      Begins handlers (stripped sql.toList)) :
    Alters engine alteringHandlers sql ↔ Alters engine handlers sql := by
  apply or_congr _ Iff.rfl
  refine ⟨covered, ?_⟩
  rintro ⟨handler, member, row⟩
  exact ⟨handler, known member, row⟩

section Promise

variable {Row Key Location Contents : Type} [DecidableEq Key]
  [DecidableEq Location] (platform : Platform Row Key Location Contents)
  (engine : QueryEngine (EngineState Row Key Location Contents))
  (world : AgentWorld)

theorem keeps_iff_of_admitted {entry : Entry} {admitted : Prop}
    (same : entry.Admitted ↔ admitted) :
    KeepsReadAuthority platform engine world entry ↔
      (admitted →
        ∀ statement ∈ entry.statements world,
          statement.Harmless platform engine) := by
  rw [← same]
  constructor
  · rintro keeps ⟨caller, reads, accepted⟩
    exact keeps caller reads accepted
  · intro harmless caller reads accepted
    exact harmless ⟨caller, reads, accepted⟩

end Promise

/-! ## Commands that a reader runs -/

/-- A query engine that only answers queries. -/
def answering {State : Type} : QueryEngine State :=
  ⟨fun state _ => state, fun _ _ _ => rfl⟩

theorem not_keeps_of_dispatched {engine} {world : AgentWorld} {entry : Entry}
    {caller : Caller}
    (reads : caller.ReadsOnly) (accepted : entry.Accepts caller)
    (member : .sql sql ∈ entry.statements world)
    (dispatched : handlerOf sql = some (some handler))
    (alters : handler.alters) :
    ¬ KeepsReadAuthority smallPlatform engine world entry := by
  intro keeps
  have harmless := keeps caller reads accepted _ member
  exact harmless.dispatched sql handler rfl dispatched alters

end OpenSnow.Mcp
