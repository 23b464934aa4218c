import OpenSnow.Core.Templates

/-!
# The SQL of compliance

Builders of queries and erasures for banks and for telecoms.  Those for banks
put their arguments into literals as they are; those for telecoms drop the
characters that they do not expect before.
-/

namespace OpenSnow.Industry.Compliance

open Core.Templates
open Sql.Literals

/-! ## Banking -/

def psd2ConsentCheck (customerId : List Char) : Statement where
  front :=
    "SELECT
    c.customer_id,
    c.name,
    consent.consent_id,
    consent.scope,
    consent.granted_date,
    consent.expiry_date,
    consent.status,
    CASE
        WHEN consent.status = 'active'
             AND consent.expiry_date >= CURRENT_DATE
        THEN 'VALID'
        WHEN consent.status = 'active'
             AND consent.expiry_date < CURRENT_DATE
        THEN 'EXPIRED'
        WHEN consent.status = 'revoked'
        THEN 'REVOKED'
        ELSE 'MISSING'
    END AS consent_validity
FROM customers c
LEFT JOIN psd2_consents consent
    ON c.customer_id = consent.customer_id
WHERE c.customer_id = "
  places := [(.literal customerId, "\nORDER BY consent.granted_date DESC")]

def psd2ConsentCheckSql (customerId : List Char) : List Char :=
  (psd2ConsentCheck customerId).text

def amlScreening (customerId : List Char) (threshold : Printed) : Statement where
  front :=
    "WITH customer_txns AS (
    SELECT
        t.txn_id,
        t.account_from,
        t.account_to,
        t.amount,
        t.currency,
        t.timestamp,
        t.txn_type,
        t.channel,
        t.status
    FROM transactions t
    JOIN accounts a ON t.account_from = a.account_id
    WHERE a.customer_id = "
  places :=
    [(.literal customerId,
      "
      AND t.status = 'completed'
),
large_txns AS (
    SELECT *
    FROM customer_txns
    WHERE amount >= "),
     (.number threshold,
      "
),
rapid_transfers AS (
    SELECT
        ct1.txn_id AS txn_id_1,
        ct2.txn_id AS txn_id_2,
        ct1.amount AS amount_1,
        ct2.amount AS amount_2,
        ct1.timestamp AS ts_1,
        ct2.timestamp AS ts_2
    FROM customer_txns ct1
    JOIN customer_txns ct2
        ON ct1.txn_id < ct2.txn_id
        AND ct2.timestamp BETWEEN ct1.timestamp
            AND ct1.timestamp + INTERVAL '1' HOUR
    WHERE ct1.txn_type = 'transfer'
      AND ct2.txn_type = 'transfer'
),
daily_aggregates AS (
    SELECT
        CAST(timestamp AS DATE) AS txn_date,
        COUNT(*) AS txn_count,
        SUM(amount) AS daily_total,
        COUNT(DISTINCT channel) AS channels_used
    FROM customer_txns
    GROUP BY CAST(timestamp AS DATE)
)
SELECT
    'large_transactions' AS check_type,
    COUNT(*) AS hit_count,
    SUM(amount) AS total_amount
FROM large_txns
UNION ALL
SELECT
    'rapid_transfers' AS check_type,
    COUNT(*) AS hit_count,
    SUM(amount_1 + amount_2) AS total_amount
FROM rapid_transfers
UNION ALL
SELECT
    'high_volume_days' AS check_type,
    COUNT(*) AS hit_count,
    SUM(daily_total) AS total_amount
FROM daily_aggregates
WHERE txn_count > 20 OR daily_total > "),
     (.number threshold, " * 5")]

def amlScreeningSql (customerId : List Char) (threshold : Printed) : List Char :=
  (amlScreening customerId threshold).text

def soxAuditTrail (table start stop : List Char) : Statement where
  front :=
    "SELECT
    audit.event_id,
    audit.table_name,
    audit.operation,
    audit.user_id,
    audit.timestamp,
    audit.old_values,
    audit.new_values,
    audit.ip_address,
    audit.session_id,
    u.name AS user_name,
    u.role AS user_role
FROM audit_log audit
LEFT JOIN users u ON audit.user_id = u.user_id
WHERE audit.table_name = "
  places :=
    [(.literal table,
      "\n  AND audit.timestamp >= TIMESTAMP "),
     (.literal start,
      "\n  AND audit.timestamp <= TIMESTAMP "),
     (.literal stop,
      "\nORDER BY audit.timestamp ASC")]

def soxAuditTrailSql (table start stop : List Char) : List Char :=
  (soxAuditTrail table start stop).text

/-- The statements of the erasure; the first one names the customer in a comment. -/
def gdprErasure (customerId : List Char) : List Statement :=
  [ { front := "-- GDPR Right to Erasure - Customer Data Deletion\n"
      places :=
        [(.remark "-- Customer: " customerId,
          "-- Execute within a single transaction

-- Step 1: Delete AML alerts (references customer)
DELETE FROM aml_alerts
WHERE customer_id = "),
         (.literal customerId, "")] },
    { front :=
        "-- Step 2: Delete cards (references accounts owned by customer)
DELETE FROM cards
WHERE account_id IN (
    SELECT account_id FROM accounts WHERE customer_id = "
      places := [(.literal customerId, "\n)")] },
    { front :=
        "-- Step 3: Delete transactions (references accounts owned by customer)
DELETE FROM transactions
WHERE account_from IN (
    SELECT account_id FROM accounts WHERE customer_id = "
      places :=
        [(.literal customerId,
          "
)
OR account_to IN (
    SELECT account_id FROM accounts WHERE customer_id = "),
         (.literal customerId,
          "\n)")] },
    { front :=
        "-- Step 4: Delete loans (references customer)
DELETE FROM loans
WHERE customer_id = "
      places := [(.literal customerId, "")] },
    { front :=
        "-- Step 5: Delete PSD2 consents (references customer)
DELETE FROM psd2_consents
WHERE customer_id = "
      places := [(.literal customerId, "")] },
    { front :=
        "-- Step 6: Delete accounts (references customer)
DELETE FROM accounts
WHERE customer_id = "
      places := [(.literal customerId, "")] },
    { front :=
        "-- Step 7: Delete the customer record itself
DELETE FROM customers
WHERE customer_id = "
      places := [(.literal customerId, "")] },
    { front :=
        "-- Step 8: Log the erasure event for compliance audit
INSERT INTO gdpr_erasure_log (customer_id, erasure_timestamp, requested_by)
VALUES ("
      places :=
        [(.literal customerId, ", CURRENT_TIMESTAMP, 'gdpr_automation')")] } ]

def gdprErasureSql (customerId : List Char) : List Char :=
  endedScript ((gdprErasure customerId).map Statement.text)

/-! ## Telecoms -/

def sanitizeMsisdn (input : List Char) : List Char :=
  input.filter fun ch => ch.isDigit || ch == '+'

def sanitizeTimestamp (input : List Char) : List Char :=
  input.filter fun ch =>
    ch.isDigit || ch == '-' || ch == ':' || ch == ' ' || ch == 'T' || ch == 'Z'

def gdprDeleteSubscriber (msisdn : List Char) : List Statement :=
  let sanitized := sanitizeMsisdn msisdn
  [ { front :=
        "DELETE FROM subscribers WHERE msisdn = "
      places := [(.literal sanitized, "")] },
    { front :=
        "DELETE FROM cdr_voice WHERE caller = "
      places :=
        [(.literal sanitized, " OR callee = "),
         (.literal sanitized, "")] },
    { front :=
        "DELETE FROM cdr_sms WHERE sender = "
      places :=
        [(.literal sanitized, " OR receiver = "),
         (.literal sanitized, "")] },
    { front :=
        "DELETE FROM cdr_data WHERE msisdn = "
      places := [(.literal sanitized, "")] },
    { front :=
        "INSERT INTO gdpr_audit_log (msisdn_hash, action, timestamp) VALUES (SHA256("
      places :=
        [(.literal sanitized, "), 'DELETE_ALL', NOW())")] } ]

def lawfulInterceptQuery (msisdn start stop : List Char) : List Statement :=
  let sanitized := sanitizeMsisdn msisdn
  let startSafe := sanitizeTimestamp start
  let endSafe := sanitizeTimestamp stop
  [ { front :=
        "SELECT 'VOICE' AS record_type, caller, callee, start_time, " ++
          "duration_seconds, tower_id, cell_id, call_status, mcc_mnc FROM cdr_voice WHERE (caller = "
      places :=
        [(.literal sanitized, " OR callee = "),
         (.literal sanitized, ") AND start_time BETWEEN "),
         (.literal startSafe, " AND "),
         (.literal endSafe, " ORDER BY start_time")] },
    { front :=
        "SELECT 'SMS' AS record_type, sender, receiver, timestamp, " ++
          "message_type, tower_id, delivery_status FROM cdr_sms WHERE (sender = "
      places :=
        [(.literal sanitized, " OR receiver = "),
         (.literal sanitized, ") AND timestamp BETWEEN "),
         (.literal startSafe, " AND "),
         (.literal endSafe, " ORDER BY timestamp")] },
    { front :=
        "SELECT 'DATA' AS record_type, msisdn, start_time, end_time, " ++
          "bytes_up, bytes_down, apn, rat_type, tower_id FROM cdr_data WHERE msisdn = "
      places :=
        [(.literal sanitized, " AND start_time BETWEEN "),
         (.literal startSafe, " AND "),
         (.literal endSafe, " ORDER BY start_time")] },
    { front :=
        "SELECT msisdn, imsi, iccid, name, plan, status, " ++
          "activation_date, region FROM subscribers WHERE msisdn = "
      places := [(.literal sanitized, "")] } ]

/-! ## The fixed texts -/

section

variable (customerId table start stop msisdn : List Char) (threshold : Printed)

set_option maxRecDepth 20000

theorem isLast_empty : IsLast "".toList := Or.inl rfl

theorem literal_before_empty (value : List Char) :
    (Place.literal value).Before "".toList := nofun

/-- A statement that ends with its only literal. -/
theorem sound_literal {front : String} (isFront : IsFront front.toList)
    (value : List Char) : Statement.Sound ⟨front, [(.literal value, "")]⟩ :=
  ⟨isFront, literal_before_empty value, isLast_empty⟩

theorem psd2ConsentCheck_sound : (psd2ConsentCheck customerId).Sound where
  front := of_chars ⟨_, rfl, by decide⟩
  shaped := ⟨literal_before ⟨_, rfl, by decide⟩, of_chars ⟨_, rfl, by decide⟩⟩

theorem amlScreening_sound : (amlScreening customerId threshold).Sound where
  front := of_chars ⟨_, rfl, by decide⟩
  shaped :=
    ⟨literal_before ⟨_, rfl, by decide⟩, of_chars ⟨_, rfl, by decide⟩,
      number_before ⟨_, rfl, by decide⟩, of_chars ⟨_, rfl, by decide⟩,
      number_before ⟨_, rfl, by decide⟩, of_chars ⟨_, rfl, by decide⟩⟩

theorem soxAuditTrail_sound : (soxAuditTrail table start stop).Sound where
  front := of_chars ⟨_, rfl, by decide⟩
  shaped :=
    ⟨literal_before ⟨_, rfl, by decide⟩, of_chars ⟨_, rfl, by decide⟩,
      literal_before ⟨_, rfl, by decide⟩, of_chars ⟨_, rfl, by decide⟩,
      literal_before ⟨_, rfl, by decide⟩, of_chars ⟨_, rfl, by decide⟩⟩

theorem gdprErasure_sound :
    ∀ statement ∈ gdprErasure customerId, statement.Sound := by
  simp only [gdprErasure, List.forall_mem_cons]
  refine ⟨⟨?_, ?_, ?_, literal_before_empty _, isLast_empty⟩, ⟨?_, ?_, ?_⟩,
    ⟨?_, ?_, ?_, ?_, ?_⟩, sound_literal ?_ _, sound_literal ?_ _,
    sound_literal ?_ _, sound_literal ?_ _, ⟨?_, ?_, ?_⟩, nofun⟩
  all_goals first
    | exact of_chars ⟨_, rfl, by decide⟩
    | exact literal_before ⟨_, rfl, by decide⟩
    | exact remark_before ⟨_, rfl, by decide⟩

theorem gdprDeleteSubscriber_sound :
    ∀ statement ∈ gdprDeleteSubscriber msisdn, statement.Sound := by
  simp only [gdprDeleteSubscriber, List.forall_mem_cons]
  refine ⟨sound_literal ?_ _, ⟨?_, ?_, ?_, literal_before_empty _, isLast_empty⟩,
    ⟨?_, ?_, ?_, literal_before_empty _, isLast_empty⟩, sound_literal ?_ _,
    ⟨?_, ?_, ?_⟩, nofun⟩
  all_goals first
    | exact of_chars ⟨_, rfl, by decide⟩
    | exact literal_before ⟨_, rfl, by decide⟩

theorem lawfulInterceptQuery_sound :
    ∀ statement ∈ lawfulInterceptQuery msisdn start stop, statement.Sound := by
  simp only [lawfulInterceptQuery, List.forall_mem_cons]
  refine ⟨⟨?voice, ?_, ?_, ?_, ?_, ?_, ?_, ?_, ?_⟩,
    ⟨?messages, ?_, ?_, ?_, ?_, ?_, ?_, ?_, ?_⟩,
    ⟨?sessions, ?_, ?_, ?_, ?_, ?_, ?_⟩, sound_literal ?profile _, nofun⟩
  case voice | messages | sessions | profile =>
    exact of_chars_append ⟨_, _, rfl, rfl, by decide⟩
  all_goals first
    | exact of_chars ⟨_, rfl, by decide⟩
    | exact literal_before ⟨_, rfl, by decide⟩

end

/-! ## What the arguments are read as -/

section

variable (customerId table start stop msisdn : List Char) (threshold : Printed)

theorem psd2ConsentCheckSql_iff :
    InjectionFree (psd2ConsentCheckSql customerId) [psd2ConsentCheck customerId] ↔
      '\'' ∉ customerId := by
  have fits : (psd2ConsentCheck customerId).Fits ↔ '\'' ∉ customerId := by
    simp [psd2ConsentCheck]
  rw [psd2ConsentCheckSql, ← fits]
  apply injectionFree_iff (psd2ConsentCheck_sound customerId)
  simp [psd2ConsentCheck]

theorem amlScreeningSql_iff :
    InjectionFree (amlScreeningSql customerId threshold)
        [amlScreening customerId threshold] ↔
      '\'' ∉ customerId := by
  have fits : (amlScreening customerId threshold).Fits ↔ '\'' ∉ customerId := by
    simp [amlScreening]
  rw [amlScreeningSql, ← fits]
  apply injectionFree_iff (amlScreening_sound customerId threshold)
  simp [amlScreening]

theorem soxAuditTrailSql_iff :
    InjectionFree (soxAuditTrailSql table start stop)
        [soxAuditTrail table start stop] ↔
      '\'' ∉ table ∧ '\'' ∉ start ∧ '\'' ∉ stop := by
  have fits : (soxAuditTrail table start stop).Fits ↔
      '\'' ∉ table ∧ '\'' ∉ start ∧ '\'' ∉ stop := by
    simp [soxAuditTrail]
  rw [soxAuditTrailSql, ← fits]
  apply injectionFree_iff (soxAuditTrail_sound table start stop)
  simp [soxAuditTrail]

theorem quote_not_mem_sanitizeMsisdn : '\'' ∉ sanitizeMsisdn msisdn := by
  simp [sanitizeMsisdn]

theorem quote_not_mem_sanitizeTimestamp : '\'' ∉ sanitizeTimestamp start := by
  simp [sanitizeTimestamp]

theorem gdprDeleteSubscriber_free :
    ∀ statement ∈ gdprDeleteSubscriber msisdn,
      InjectionFree statement.text [statement] := by
  intro statement member
  apply injectionFree_single (gdprDeleteSubscriber_sound msisdn statement member)
  have noQuote := quote_not_mem_sanitizeMsisdn msisdn
  revert statement
  simp only [gdprDeleteSubscriber, List.forall_mem_cons, fits_mk, literal_fits]
  simp [noQuote]

theorem lawfulInterceptQuery_free :
    ∀ statement ∈ lawfulInterceptQuery msisdn start stop,
      InjectionFree statement.text [statement] := by
  intro statement member
  apply injectionFree_single
    (lawfulInterceptQuery_sound start stop msisdn statement member)
  have noQuote := quote_not_mem_sanitizeMsisdn msisdn
  have noQuoteStart := quote_not_mem_sanitizeTimestamp start
  have noQuoteStop := quote_not_mem_sanitizeTimestamp stop
  revert statement
  simp only [lawfulInterceptQuery, List.forall_mem_cons, fits_mk, literal_fits]
  simp [noQuote, noQuoteStart, noQuoteStop]

/-- What stands behind the first line break of the argument, on lines of its own. -/
def behindBreak (value : List Char) : List Char :=
  value.dropWhile (· ≠ '\n') ++ ['\n']

theorem remark_fits_iff :
    (Place.remark "-- Customer: " customerId).Fits ↔
      Skipped (behindBreak customerId) := by
  have noBreak : '\n' ∉ " Customer: ".toList := by decide
  have shape : "-- Customer: ".toList = '-' :: '-' :: " Customer: ".toList := by
    decide
  rw [Place.Fits, shape, behindBreak]
  exact skipped_remark_iff noBreak

theorem gdprErasure_fits {customerId : List Char} (noQuote : '\'' ∉ customerId)
    (skipped : Skipped (behindBreak customerId)) :
    ∀ statement ∈ gdprErasure customerId, statement.Fits := by
  have remark := (remark_fits_iff customerId).mpr skipped
  simp only [gdprErasure, List.forall_mem_cons, fits_mk, literal_fits]
  simp [noQuote, remark]

/-- Nine literals with the argument, and one comment. -/
theorem gdprErasure_counts :
    ((gdprErasure customerId).map Statement.undoubled).sum =
        9 * customerId.count '\'' ∧
      ((gdprErasure customerId).map Statement.remarked).sum =
        customerId.count '\'' := by
  have label : "-- Customer: ".toList.count '\'' = 0 := by decide
  constructor
  · simp only [gdprErasure, List.map_cons, List.map_nil, List.sum_cons,
      List.sum_nil, Statement.undoubled, Place.undoubled]
    omega
  · simp only [gdprErasure, List.map_cons, List.map_nil, List.sum_cons,
      List.sum_nil, Statement.remarked, Place.remarked, List.count_append, label]
    omega

theorem gdprErasure_noQuote {customerId : List Char}
    (free : InjectionFree (gdprErasureSql customerId) (gdprErasure customerId)) :
    '\'' ∉ customerId := by
  have few :=
    undoubled_le (gdprErasure_sound customerId) (count_endedScript _) free
  rw [(gdprErasure_counts customerId).1, (gdprErasure_counts customerId).2] at few
  rw [← List.count_eq_zero]
  omega

theorem gdprErasure_skipped {customerId : List Char}
    (free : InjectionFree (gdprErasureSql customerId) (gdprErasure customerId)) :
    Skipped (behindBreak customerId) := by
  have noQuote := gdprErasure_noQuote free
  by_cases empty : customerId = []
  · rw [empty]
    decide
  · have none := (gdprErasure_counts customerId).2
    rw [List.count_eq_zero.mpr noQuote] at none
    have sound := gdprErasure_sound customerId
    rw [← remark_fits_iff]
    refine skipped_of_injectionFree sound free none rfl ?_ ?_ ?_ noQuote empty
      ?_ ?_ ?noEnd ⟨_, rfl⟩
    case noEnd =>
      dsimp only
      decide +kernel
    all_goals decide +kernel

theorem gdprErasureSql_iff :
    InjectionFree (gdprErasureSql customerId) (gdprErasure customerId) ↔
      '\'' ∉ customerId ∧ Skipped (behindBreak customerId) := by
  constructor
  · exact fun free => ⟨gdprErasure_noQuote free, gdprErasure_skipped free⟩
  · rintro ⟨noQuote, skipped⟩
    apply injectionFree_endedScript (by rw [gdprErasure]; exact List.cons_ne_nil _ _)
      (gdprErasure_sound customerId) (gdprErasure_fits noQuote skipped)

/-- Letters and digits are read as a literal by every builder. -/
theorem plain_free {customerId table start stop : List Char}
    (plain : ∀ ch ∈ customerId ++ (table ++ (start ++ stop)), ch.isAlphanum) :
    InjectionFree (psd2ConsentCheckSql customerId) [psd2ConsentCheck customerId] ∧
      InjectionFree (amlScreeningSql customerId threshold)
        [amlScreening customerId threshold] ∧
      InjectionFree (soxAuditTrailSql table start stop)
        [soxAuditTrail table start stop] ∧
      InjectionFree (gdprErasureSql customerId) (gdprErasure customerId) := by
  simp only [List.mem_append, or_imp, forall_and] at plain
  have noQuote {text : List Char} (letters : ∀ ch ∈ text, ch.isAlphanum) :
      '\'' ∉ text := fun member => absurd (letters '\'' member) (by decide)
  have skipped : Skipped (behindBreak customerId) := by
    have noBreak : customerId.dropWhile (· ≠ '\n') = [] := by
      rw [List.dropWhile_eq_nil_iff]
      intro ch member
      have other : ch ≠ '\n' := by
        rintro rfl
        exact absurd (plain.1 '\n' member) (by decide)
      simpa using other
    rw [behindBreak, noBreak]
    decide
  exact
    ⟨(psd2ConsentCheckSql_iff customerId).mpr (noQuote plain.1),
      (amlScreeningSql_iff customerId threshold).mpr (noQuote plain.1),
      (soxAuditTrailSql_iff table start stop).mpr
        ⟨noQuote plain.2.1, noQuote plain.2.2.1, noQuote plain.2.2.2⟩,
      (gdprErasureSql_iff customerId).mpr ⟨noQuote plain.1, skipped⟩⟩

end

/--
Which arguments the builders put into literals as they are.  Those for banks
need arguments without quotes; the erasure writes its argument into a comment
too, so what stands behind a line break of it must be skipped like a comment.
Those for telecoms take any argument.
-/
theorem injectionLaws_iff (customerId table start stop msisdn : List Char)
    (threshold : Printed) :
    (InjectionFree (psd2ConsentCheckSql customerId)
        [psd2ConsentCheck customerId] ↔
      '\'' ∉ customerId) ∧
    (InjectionFree (amlScreeningSql customerId threshold)
        [amlScreening customerId threshold] ↔
      '\'' ∉ customerId) ∧
    (InjectionFree (soxAuditTrailSql table start stop)
        [soxAuditTrail table start stop] ↔
      '\'' ∉ table ∧ '\'' ∉ start ∧ '\'' ∉ stop) ∧
    (InjectionFree (gdprErasureSql customerId) (gdprErasure customerId) ↔
      '\'' ∉ customerId ∧ Skipped (behindBreak customerId)) ∧
    (∀ statement ∈ gdprDeleteSubscriber msisdn,
      InjectionFree statement.text [statement]) ∧
    ∀ statement ∈ lawfulInterceptQuery msisdn start stop,
      InjectionFree statement.text [statement] :=
  ⟨psd2ConsentCheckSql_iff customerId, amlScreeningSql_iff customerId threshold,
    soxAuditTrailSql_iff table start stop, gdprErasureSql_iff customerId,
    gdprDeleteSubscriber_free msisdn, lawfulInterceptQuery_free start stop msisdn⟩

/-- The rows of all customers are deleted. -/
theorem quote_widens_erasure :
    let customerId := "x' OR '1'='1".toList
    ¬ InjectionFree (gdprErasureSql customerId) (gdprErasure customerId) ∧
      lexemes
          (Statement.text
            ⟨"DELETE FROM loans\nWHERE customer_id = ", [(.literal customerId, "")]⟩) =
        [.word "DELETE".toList, .word "FROM".toList, .word "loans".toList,
          .word "WHERE".toList, .word "customer_id".toList, .symbol '=',
          .text "x".toList, .word "OR".toList, .text "1".toList, .symbol '=',
          .text "1".toList] := by
  refine ⟨fun free => ?_, by decide⟩
  exact gdprErasure_noQuote free (by decide)

end OpenSnow.Industry.Compliance
