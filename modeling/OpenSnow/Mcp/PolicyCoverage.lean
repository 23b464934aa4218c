import OpenSnow.Mcp.Policy

/-!
# What the MCP analyser asks for

Every `FROM` and `JOIN` among the tokens asks for `SELECT` on the name behind
it, and a text in which one of them has no name is refused.  An `INSERT` and a
statement about a `TABLE` ask for their own privilege besides.
-/

namespace OpenSnow.Mcp

open Auth
open Rust.Text
open Server (Claims isReadKeyword normalizeObjectName)

/-! ## Names behind keywords -/

/-- The name stands behind a `FROM` or a `JOIN`. -/
def Introduced (tokens : List String) (name : String) : Prop :=
  ∃ keyword after object, keyword :: after <:+ tokens ∧
    isReadKeyword keyword ∧ nextSqlObject after = .ok (some object) ∧
      normalizeObjectName object = name

/-- Behind every `FROM` and `JOIN` stands a name that can be a table's. -/
def ReadsNamed (tokens : List String) : Prop :=
  ∀ keyword after, keyword :: after <:+ tokens → isReadKeyword keyword →
    ∃ object, nextSqlObject after = .ok (some object) ∧
      isSafeTableIdentifier (normalizeObjectName object)

variable {rest : List String}

theorem introduced_cons_iff {token name : String} :
    Introduced (token :: rest) name ↔
      (isReadKeyword token ∧ ∃ object, nextSqlObject rest = .ok (some object) ∧
          normalizeObjectName object = name) ∨
        Introduced rest name := by
  constructor
  · rintro ⟨keyword, after, object, suffix, reads, found, named⟩
    rcases List.suffix_cons_iff.mp suffix with here | later
    · rw [List.cons.injEq] at here
      rcases here with ⟨rfl, rfl⟩
      exact Or.inl ⟨reads, object, found, named⟩
    · exact Or.inr ⟨keyword, after, object, later, reads, found, named⟩
  · rintro (⟨reads, object, found, named⟩ |
      ⟨keyword, after, object, suffix, others⟩)
    · exact ⟨token, rest, object, List.suffix_rfl, reads, found, named⟩
    · exact
        ⟨keyword, after, object, suffix.trans (List.suffix_cons token rest),
          others⟩

theorem readsNamed_cons_iff {token : String} :
    ReadsNamed (token :: rest) ↔
      (isReadKeyword token →
          ∃ object, nextSqlObject rest = .ok (some object) ∧
            isSafeTableIdentifier (normalizeObjectName object)) ∧
        ReadsNamed rest := by
  constructor
  · intro named
    exact
      ⟨named token rest List.suffix_rfl, fun keyword after suffix =>
        named keyword after (suffix.trans (List.suffix_cons token rest))⟩
  · rintro ⟨first, others⟩ keyword after suffix reads
    rcases List.suffix_cons_iff.mp suffix with here | later
    · rw [List.cons.injEq] at here
      rcases here with ⟨rfl, rfl⟩
      exact first reads
    · exact others keyword after later reads

/-! ## Requirements -/

/-- Every requirement is about a table. -/
def AboutTables (reqs : List Requirement) : Prop :=
  ∀ req ∈ reqs, req.2.1 = .table

theorem aboutTables_nil : AboutTables [] := by
  rintro req ⟨⟩

/-- What a list of requirements becomes when one is pushed. -/
structure Pushed (reqs out : List Requirement) (privilege : Privilege)
    (name : String) : Prop where
  safe : isSafeTableIdentifier name
  mem : ∀ req, req ∈ out ↔ req ∈ reqs ∨ req = (privilege, .table, name)

variable {reqs out : List Requirement} {privilege : Privilege}

theorem Pushed.aboutTables {name : String}
    (pushed : Pushed reqs out privilege name) (tables : AboutTables reqs) :
    AboutTables out := by
  intro req member
  rcases (pushed.mem req).mp member with known | rfl
  · exact tables req known
  · rfl

theorem pushed_of_ok {raw : String} (tables : AboutTables reqs)
    (ok : pushTableReq reqs privilege raw = .ok out) :
    Pushed reqs out privilege (normalizeObjectName raw) := by
  rw [pushTableReq] at ok
  split at ok
  · cases ok
  · rename_i accepted
    have safe : isSafeTableIdentifier (normalizeObjectName raw) := by
      simpa using accepted
    split at ok
    · rename_i known
      rw [Except.ok.injEq] at ok
      refine ⟨safe, fun req => ?_⟩
      rw [← ok]
      refine ⟨Or.inl, ?_⟩
      rintro (member | rfl)
      · exact member
      · rcases List.any_eq_true.mp known with ⟨other, member, same⟩
        rw [Bool.and_eq_true, beq_iff_eq, beq_iff_eq] at same
        have isOther :
            other = (privilege, .table, normalizeObjectName raw) :=
          Prod.ext same.1 (Prod.ext (tables other member) same.2)
        rwa [isOther] at member
    · rw [Except.ok.injEq] at ok
      refine ⟨safe, fun req => ?_⟩
      rw [← ok, List.mem_append, List.mem_singleton]

variable {tokens : List String}

theorem requireObject_ok (tables : AboutTables reqs)
    (ok : requireObject tokens privilege reqs = .ok out) :
    ∃ object, nextSqlObject tokens = .ok (some object) ∧
      Pushed reqs out privilege (normalizeObjectName object) := by
  rw [requireObject] at ok
  split at ok
  · rename_i object found
    exact ⟨object, found, pushed_of_ok tables ok⟩
  · cases ok
  · cases ok

theorem requireObject_of_named {object : String}
    (found : nextSqlObject tokens = .ok (some object))
    (safe : isSafeTableIdentifier (normalizeObjectName object))
    (privilege : Privilege) (reqs : List Requirement) :
    ∃ out, requireObject tokens privilege reqs = .ok out := by
  simp only [requireObject, found, pushTableReq, safe, Bool.not_true,
    Bool.false_eq_true, if_false]
  split
  · exact ⟨_, rfl⟩
  · exact ⟨_, rfl⟩

/-- What the loop over the tokens has collected. -/
structure Collected (tokens : List String) (reqs out : List Requirement) :
    Prop where
  named : ReadsNamed tokens
  mem : ∀ req, req ∈ out ↔
    req ∈ reqs ∨ ∃ name, Introduced tokens name ∧ req = (.select, .table, name)

theorem collected_of_ok (tables : AboutTables reqs)
    (ok : collectSelectReqs tokens reqs = .ok out) :
    Collected tokens reqs out := by
  induction tokens generalizing reqs with
  | nil =>
      rw [collectSelectReqs, Except.ok.injEq] at ok
      have none : ∀ name, ¬ Introduced [] name := by
        rintro name ⟨keyword, after, object, suffix, -⟩
        cases List.suffix_nil.mp suffix
      refine ⟨?_, fun req => by simp [ok, none]⟩
      intro keyword after suffix
      cases List.suffix_nil.mp suffix
  | cons token rest ih =>
      rw [collectSelectReqs] at ok
      by_cases reads : isReadKeyword token
      · rw [if_pos reads] at ok
        cases first : requireObject rest .select reqs with
        | error wrong =>
            rw [first] at ok
            cases ok
        | ok next =>
            rw [first] at ok
            rcases requireObject_ok tables first with ⟨object, found, pushed⟩
            have others := ih (pushed.aboutTables tables) ok
            refine ⟨?_, fun req => ?_⟩
            · exact
                readsNamed_cons_iff.mpr
                  ⟨fun _ => ⟨object, found, pushed.safe⟩, others.named⟩
            · rw [others.mem, pushed.mem, or_assoc]
              apply or_congr Iff.rfl
              simp only [introduced_cons_iff, reads, found, Except.ok.injEq,
                Option.some.injEq, true_and, exists_eq_left']
              constructor
              · rintro (rfl | ⟨name, introduced, rfl⟩)
                · exact ⟨_, Or.inl rfl, rfl⟩
                · exact ⟨name, Or.inr introduced, rfl⟩
              · rintro ⟨name, rfl | introduced, rfl⟩
                · exact Or.inl rfl
                · exact Or.inr ⟨name, introduced, rfl⟩
      · rw [if_neg reads] at ok
        have others := ih tables ok
        refine ⟨?_, fun req => ?_⟩
        · exact
            readsNamed_cons_iff.mpr
              ⟨fun read => absurd read reads, others.named⟩
        · simp [others.mem, introduced_cons_iff, reads]

theorem Collected.aboutTables (collected : Collected tokens reqs out)
    (tables : AboutTables reqs) : AboutTables out := by
  intro req member
  rcases (collected.mem req).mp member with known | ⟨name, -, rfl⟩
  · exact tables req known
  · rfl

theorem collect_of_named (named : ReadsNamed tokens)
    (reqs : List Requirement) :
    ∃ out, collectSelectReqs tokens reqs = .ok out := by
  induction tokens generalizing reqs with
  | nil => exact ⟨reqs, rfl⟩
  | cons token rest ih =>
      rw [readsNamed_cons_iff] at named
      rw [collectSelectReqs]
      split
      · rename_i reads
        rcases named.1 reads with ⟨object, found, safe⟩
        rcases requireObject_of_named found safe .select reqs with
          ⟨next, pushed⟩
        rw [pushed]
        exact ih named.2 next
      · exact ih named.2 reqs

/-! ## Statements -/

/-- What a statement asks for its own object, if its verb is looked at. -/
def ownReqs (tokens : List String) :
    String → Option (Except Unit (List Requirement))
  | "SELECT" | "WITH" => some (.ok [])
  | "INSERT" => some (insertReqs tokens)
  | "CREATE" => some (tableReqs .create tokens)
  | "DROP" => some (tableReqs .drop tokens)
  | "ALTER" => some (tableReqs .alter tokens)
  | _ => none

/-- The verbs of the statements whose tokens are looked at. -/
def analysedVerbs : List String :=
  ["SELECT", "WITH", "INSERT", "CREATE", "DROP", "ALTER"]

variable {verb : String}

theorem ownReqs_isSome_iff :
    (ownReqs tokens verb).isSome ↔ verb ∈ analysedVerbs := by
  unfold ownReqs
  split <;> simp_all [analysedVerbs]

theorem analyzeMcpSql_eq {sql first : String}
    (tokens : tokenizeSql sql = first :: rest) :
    analyzeMcpSql sql =
      match ownReqs (first :: rest) (toAsciiUppercase first) with
      | none => .ok []
      | some own => own.bind (collectSelectReqs (first :: rest)) := by
  rw [analyzeMcpSql, tokens]
  dsimp only
  generalize toAsciiUppercase first = verb
  rcases Decidable.em (verb ∈ analysedVerbs) with looked | skipped
  · simp only [analysedVerbs, List.mem_cons, List.not_mem_nil, or_false]
      at looked
    rcases looked with rfl | rfl | rfl | rfl | rfl | rfl <;> rfl
  · have none : ownReqs (first :: rest) verb = none := by
      rw [← Option.not_isSome_iff_eq_none, ownReqs_isSome_iff]
      exact skipped
    rw [none]
    simp only [analysedVerbs, List.mem_cons, List.not_mem_nil, or_false,
      not_or] at skipped
    split <;> first | rfl | tauto

/-- A requirement for an object of one's own neither is `SELECT` nor `ALL`. -/
def OwnObjects (reqs : List Requirement) : Prop :=
  ∀ req ∈ reqs, ¬ req.1.covers .select ∧ req.2.1 = .table

theorem ownObjects_nil : OwnObjects [] := by
  rintro req ⟨⟩

variable {reqs : List Requirement}

theorem ownObjects_of_required (own : ¬ privilege.covers .select)
    (ok : requireObject tokens privilege [] = .ok reqs) :
    OwnObjects reqs ∧ reqs ≠ [] := by
  rcases requireObject_ok aboutTables_nil ok with ⟨object, -, pushed⟩
  constructor
  · intro req member
    rcases (pushed.mem req).mp member with known | rfl
    · cases known
    · exact ⟨own, rfl⟩
  · rintro rfl
    cases (pushed.mem _).mpr (Or.inr rfl)

/-- The statement is about no table of its own. -/
def OwnsNothing (tokens : List String) (verb : String) : Prop :=
  verb ∈ ["SELECT", "WITH"] ∨
    (verb = "INSERT" ∧ ∀ token ∈ tokens, ¬ eqIgnoreAsciiCase token "INTO") ∨
    (verb ∈ ["CREATE", "DROP", "ALTER"] ∧
      ¬ tokens[1]?.any (eqIgnoreAsciiCase · "TABLE"))

theorem tableReqs_ok (own : ¬ privilege.covers .select)
    (ok : tableReqs privilege tokens = .ok reqs) :
    OwnObjects reqs ∧
      (reqs = [] ↔ ¬ tokens[1]?.any (eqIgnoreAsciiCase · "TABLE")) := by
  rw [tableReqs] at ok
  split at ok
  · rename_i table
    rcases ownObjects_of_required own ok with ⟨objects, nonempty⟩
    exact ⟨objects, by simp [nonempty, table]⟩
  · rename_i other
    rw [Except.ok.injEq] at ok
    rw [← ok]
    exact ⟨ownObjects_nil, by simp [other]⟩

theorem insertReqs_ok (ok : insertReqs tokens = .ok reqs) :
    OwnObjects reqs ∧
      (reqs = [] ↔ ∀ token ∈ tokens, ¬ eqIgnoreAsciiCase token "INTO") := by
  rw [insertReqs] at ok
  split at ok
  · rename_i absent
    rw [Except.ok.injEq] at ok
    rw [List.findIdx?_eq_none_iff] at absent
    rw [← ok]
    refine ⟨ownObjects_nil, ?_⟩
    simpa using absent
  · rename_i idx found
    rcases ownObjects_of_required (by decide) ok with ⟨objects, nonempty⟩
    rw [List.findIdx?_eq_some_iff_getElem] at found
    rcases found with ⟨bound, into, -⟩
    refine ⟨objects, iff_of_false nonempty fun absent => ?_⟩
    exact absent tokens[idx] (List.getElem_mem bound) into

theorem ownReqs_ok (own : ownReqs tokens verb = some (.ok reqs)) :
    OwnObjects reqs ∧ (reqs = [] ↔ OwnsNothing tokens verb) := by
  unfold ownReqs at own
  split at own
  · rw [Option.some.injEq, Except.ok.injEq] at own
    rw [← own]
    exact ⟨ownObjects_nil, by simp [OwnsNothing]⟩
  · rw [Option.some.injEq, Except.ok.injEq] at own
    rw [← own]
    exact ⟨ownObjects_nil, by simp [OwnsNothing]⟩
  · rw [Option.some.injEq] at own
    refine ⟨(insertReqs_ok own).1, (insertReqs_ok own).2.trans ?_⟩
    simp [OwnsNothing]
  · rw [Option.some.injEq] at own
    refine
      ⟨(tableReqs_ok (by decide) own).1,
        (tableReqs_ok (by decide) own).2.trans ?_⟩
    simp [OwnsNothing]
  · rw [Option.some.injEq] at own
    refine
      ⟨(tableReqs_ok (by decide) own).1,
        (tableReqs_ok (by decide) own).2.trans ?_⟩
    simp [OwnsNothing]
  · rw [Option.some.injEq] at own
    refine
      ⟨(tableReqs_ok (by decide) own).1,
        (tableReqs_ok (by decide) own).2.trans ?_⟩
    simp [OwnsNothing]
  · cases own

/-- What a text is asked for, when it is analysed without an error. -/
structure Analysed (tokens : List String) (verb : String)
    (reqs : List Requirement) : Prop where
  named : ReadsNamed tokens
  select : ∀ req, req.1.covers .select →
    (req ∈ reqs ↔
      ∃ name, Introduced tokens name ∧ req = (.select, .table, name))
  alone : (∀ req ∈ reqs, req.1 = .select) ↔ OwnsNothing tokens verb

theorem analysed_of_collected
    {own reqs : List Requirement} (objects : OwnObjects own)
    (empty : own = [] ↔ OwnsNothing tokens verb)
    (collected : Collected tokens own reqs) : Analysed tokens verb reqs where
  named := collected.named
  select := by
    intro req isSelect
    rw [collected.mem, or_iff_right]
    exact fun member => (objects req member).1 isSelect
  alone := by
    rw [← empty]
    constructor
    · intro selects
      rw [List.eq_nil_iff_forall_not_mem]
      intro req member
      have isSelect := selects req ((collected.mem req).mpr (Or.inl member))
      exact (objects req member).1 (by rw [isSelect]; rfl)
    · rintro rfl req member
      rcases (collected.mem req).mp member with known | ⟨name, -, rfl⟩
      · cases known
      · rfl

/-- The analysis of a statement whose verb is looked at. -/
theorem analysed_of_ok {sql first : String}
    (tokens : tokenizeSql sql = first :: rest)
    (looked : toAsciiUppercase first ∈ analysedVerbs)
    (ok : analyzeMcpSql sql = .ok reqs) :
    Analysed (first :: rest) (toAsciiUppercase first) reqs := by
  rw [analyzeMcpSql_eq tokens] at ok
  rcases Option.isSome_iff_exists.mp (ownReqs_isSome_iff.mpr looked) with
    ⟨result, own⟩
  rw [own] at ok
  cases result with
  | error wrong => cases ok
  | ok reqs =>
      rcases ownReqs_ok own with ⟨objects, empty⟩
      have tables : AboutTables reqs := fun req member =>
        (objects req member).2
      exact analysed_of_collected objects empty (collected_of_ok tables ok)

variable {sql : String}

/-- Whatever is asked for is about a table. -/
theorem analyzeMcpSql_tables
    (ok : analyzeMcpSql sql = .ok reqs) : AboutTables reqs := by
  cases tokens : tokenizeSql sql with
  | nil =>
      rw [analyzeMcpSql, tokens, Except.ok.injEq] at ok
      rw [← ok]
      exact aboutTables_nil
  | cons first rest =>
      rw [analyzeMcpSql_eq tokens] at ok
      cases own : ownReqs (first :: rest) (toAsciiUppercase first) with
      | none =>
          rw [own, Except.ok.injEq] at ok
          rw [← ok]
          exact aboutTables_nil
      | some result =>
          rw [own] at ok
          cases result with
          | error wrong => cases ok
          | ok reqs =>
              have tables : AboutTables reqs := fun req member =>
                ((ownReqs_ok own).1 req member).2
              exact (collected_of_ok tables ok).aboutTables tables

theorem analyzeMcpSql_of_not_looked
    (skipped : ∀ first ∈ (tokenizeSql sql).head?,
      toAsciiUppercase first ∉ analysedVerbs) :
    analyzeMcpSql sql = .ok [] := by
  cases tokens : tokenizeSql sql with
  | nil => rw [analyzeMcpSql, tokens]
  | cons first rest =>
      rw [tokens] at skipped
      have none : ownReqs (first :: rest) (toAsciiUppercase first) = none := by
        rw [← Option.not_isSome_iff_eq_none, ownReqs_isSome_iff]
        exact skipped first rfl
      rw [analyzeMcpSql_eq tokens, none]

theorem isSafeObjectlessQuery_iff :
    isSafeObjectlessQuery sql ↔
      ∃ first ∈ (tokenizeSql sql).head?,
        toAsciiUppercase first ∈ ["SELECT", "WITH"] := by
  rw [isSafeObjectlessQuery, Option.any_eq_true]
  simp

/-! ## Decisions -/

theorem checkRequirements_ok_iff {policy : PrivilegeStore} {role : String} :
    checkRequirements policy role reqs = .ok () ↔
      ∀ req ∈ reqs, policy.Authorises role req.1 req.2.1 req.2.2 := by
  induction reqs with
  | nil => simp [checkRequirements]
  | cons req rest ih =>
      rcases req with ⟨privilege, objectType, objectName⟩
      rw [checkRequirements, List.forall_mem_cons, ← ih]
      simp only [PrivilegeStore.Authorises]
      split
      · rename_i allowed
        simp [allowed]
      · rename_i refused
        simp [refused]
      · rename_i failed
        simp [failed]

/-- A caller who is no admin is allowed what the policy authorises. -/
theorem authorizeSqlForClaims_ok_iff {claims : Claims}
    {policy : Option PrivilegeStore} (notAdmin : ¬ isPlatformAdmin claims) :
    authorizeSqlForClaims claims policy sql = .ok () ↔
      ∃ reqs, analyzeMcpSql sql = .ok reqs ∧
        (reqs ≠ [] ∨ isSafeObjectlessQuery sql) ∧
        ∀ req ∈ reqs, ∃ store, policy = some store ∧
          store.Authorises claims.role req.1 req.2.1 req.2.2 := by
  rw [authorizeSqlForClaims, if_neg notAdmin]
  cases analysed : analyzeMcpSql sql with
  | error failed => simp
  | ok reqs =>
      simp only [Except.ok.injEq, exists_eq_left']
      cases reqs with
      | nil => simp
      | cons req reqs =>
          cases policy with
          | none =>
              simp only [reduceCtorEq, false_and, exists_false, imp_false,
                false_iff, not_and, not_forall, not_not]
              exact fun _ => ⟨req, List.mem_cons_self⟩
          | some store => simp [checkRequirements_ok_iff]

/-- A text that some caller can pass with begins with a verb that is looked at. -/
theorem looked_of_asked (ok : analyzeMcpSql sql = .ok reqs)
    (asked : reqs ≠ [] ∨ isSafeObjectlessQuery sql) :
    ∃ first rest, tokenizeSql sql = first :: rest ∧
      toAsciiUppercase first ∈ analysedVerbs := by
  have looked : ∃ first ∈ (tokenizeSql sql).head?,
      toAsciiUppercase first ∈ analysedVerbs := by
    by_contra skipped
    push Not at skipped
    rw [analyzeMcpSql_of_not_looked skipped, Except.ok.injEq] at ok
    rcases asked with nonempty | objectless
    · exact nonempty ok.symm
    · rcases isSafeObjectlessQuery_iff.mp objectless with ⟨first, head, query⟩
      have queries : ["SELECT", "WITH"] ⊆ analysedVerbs := by decide
      exact skipped first head (queries query)
  rcases looked with ⟨first, head, isLooked⟩
  rcases List.head?_eq_some_iff.mp head with ⟨rest, tokens⟩
  exact ⟨first, rest, tokens, isLooked⟩

/-! ## Texts that ask for reads alone -/

/--
A text that asks for `SELECT` and for nothing else: a query, or a statement
about no table of its own in which some table is read from.
-/
structure ReadsAlone (tokens : List String) (verb : String) : Prop where
  named : ReadsNamed tokens
  ownsNothing : OwnsNothing tokens verb
  asks : verb ∈ ["SELECT", "WITH"] ∨ ∃ name, Introduced tokens name

/-- The text that `sql` is to the analyser asks for reads alone. -/
def AsksReadsAlone (sql : String) : Prop :=
  ∃ first rest, tokenizeSql sql = first :: rest ∧
    ReadsAlone (first :: rest) (toAsciiUppercase first)

theorem OwnsNothing.looked
    (owns : OwnsNothing tokens verb) : verb ∈ analysedVerbs := by
  have queries : ["SELECT", "WITH"] ⊆ analysedVerbs := by decide
  have definitions : ["CREATE", "DROP", "ALTER"] ⊆ analysedVerbs := by decide
  rcases owns with query | ⟨rfl, -⟩ | ⟨definition, -⟩
  · exact queries query
  · decide
  · exact definitions definition

theorem OwnsNothing.ownReqs_eq (owns : OwnsNothing tokens verb) :
    ownReqs tokens verb = some (.ok []) := by
  rcases owns with query | ⟨rfl, noInto⟩ | ⟨definition, noTable⟩
  · simp only [List.mem_cons, List.not_mem_nil, or_false] at query
    rcases query with rfl | rfl <;> rfl
  · have absent : tokens.findIdx? (eqIgnoreAsciiCase · "INTO") = none := by
      simpa [List.findIdx?_eq_none_iff] using noInto
    simp only [ownReqs, insertReqs, absent]
  · simp only [List.mem_cons, List.not_mem_nil, or_false] at definition
    rcases definition with rfl | rfl | rfl <;>
      simp only [ownReqs, tableReqs, if_neg noTable]

/-- The texts whose analysis asks for `SELECT` alone and is not refused. -/
theorem asksReadsAlone_iff :
    AsksReadsAlone sql ↔
      ∃ reqs, analyzeMcpSql sql = .ok reqs ∧
        (reqs ≠ [] ∨ isSafeObjectlessQuery sql) ∧
        ∀ req ∈ reqs, req.1 = .select := by
  constructor
  · rintro ⟨first, rest, tokens, named, owns, asks⟩
    rcases collect_of_named named [] with ⟨reqs, collected⟩
    have ok : analyzeMcpSql sql = .ok reqs := by
      rw [analyzeMcpSql_eq tokens, owns.ownReqs_eq]
      exact collected
    have analysed := analysed_of_ok tokens owns.looked ok
    refine ⟨reqs, ok, ?_, analysed.alone.mpr owns⟩
    rcases asks with query | ⟨name, introduced⟩
    · right
      exact
        isSafeObjectlessQuery_iff.mpr ⟨first, by rw [tokens]; rfl, query⟩
    · left
      have member := (analysed.select _ rfl).mpr ⟨name, introduced, rfl⟩
      exact List.ne_nil_of_mem member
  · rintro ⟨reqs, ok, asked, selects⟩
    rcases looked_of_asked ok asked with ⟨first, rest, tokens, isLooked⟩
    have analysed := analysed_of_ok tokens isLooked ok
    refine
      ⟨first, rest, tokens, analysed.named, analysed.alone.mp selects, ?_⟩
    rcases asked with nonempty | objectless
    · right
      rcases List.exists_mem_of_ne_nil reqs nonempty with ⟨req, member⟩
      have covers : req.1.covers .select := by
        rw [selects req member]
        rfl
      rcases (analysed.select req covers).mp member with
        ⟨name, introduced, -⟩
      exact ⟨name, introduced⟩
    · left
      rcases isSafeObjectlessQuery_iff.mp objectless with
        ⟨query, isHead, isQuery⟩
      rw [tokens, List.head?_cons, Option.mem_some_iff] at isHead
      rwa [← isHead] at isQuery

end OpenSnow.Mcp
