import OpenSnow.Rust.Integer
import OpenSnow.Rust.Slice

/-!
# Luhn checks

The checks of card numbers and of device numbers (IMEI).  Both add up the
digits from the right, every second one doubled, on 32 bits: a number that is
long enough overflows them.
-/

namespace OpenSnow.Industry.Luhn

open Rust.Integer
open Rust.Text

/-! ## Card numbers -/

/-- Twice a digit, less nine behind nine. -/
def doubled (digit : Nat) : Nat :=
  if digit * 2 > 9 then digit * 2 - 9 else digit * 2

/-- What a digit adds at a place that is counted from the right. -/
def summand (place digit : Nat) : Nat :=
  if place % 2 = 1 then doubled digit else digit

/-- The digits are added from the right, on 32 bits. -/
def sumLoop : Nat → Nat → List Nat → Panics Nat
  | _, sum, [] => some sum
  | place, sum, digit :: rest =>
      (unsigned 32 (sum + summand place digit)).bind fun sum =>
        sumLoop (place + 1) sum rest

def luhnCheckValue (number : List Char) : Panics Bool :=
  ((number.filter Char.isDigit).mapM toDigit).bind fun digits =>
    if digits.length < 2 then some false
    else (sumLoop 0 0 digits.reverse).map fun sum => decide (sum % 10 = 0)

/-! ## Device numbers -/

def luhnCheck (digits : List Char) : Panics Bool :=
  if utf8Len digits ≠ 15 ∨ ¬ digits.all Char.isDigit then some false
  else
    let summands := digits.reverse.zipIdx.mapM fun (ch, place) =>
      (toDigit ch).map (summand place)
    let sum := summands.bind fun summands =>
      summands.foldlM (fun sum value => unsigned 32 (sum + value)) 0
    sum.map fun sum => decide (sum % 10 = 0)

/-! ## Sums -/

/-- The value of a digit. -/
def value (ch : Char) : Nat := ch.toNat - '0'.toNat

/-- What digits add that others follow. -/
def sumBefore (behind : Nat) : List Nat → Nat
  | [] => 0
  | digit :: rest => summand (rest.length + behind) digit + sumBefore behind rest

/-- The sum of a number as it should be. -/
def luhnSum (number : List Char) : Nat :=
  sumBefore 0 ((number.filter Char.isDigit).map value)

/-- The two digits that may change places unseen. -/
def ZeroNine (ch other : Char) : Prop :=
  ch = '0' ∧ other = '9' ∨ ch = '9' ∧ other = '0'

def OnlyDigits (text : List Char) : Prop := ∀ digit ∈ text, digit.isDigit

/-- A number has at least two digits, and nothing else. -/
structure Number where
  text : List Char
  isDigit : OnlyDigits text
  long : 2 ≤ text.length

/--
One last digit is right, and in an accepted number every other digit and every
swap of neighbours is found.
-/
structure LuhnLaws (number : Number) : Prop where
  last : ∃ last, last.isDigit ∧
    luhnCheckValue (number.text.dropLast ++ [last]) = some true ∧
      ∀ other, other.isDigit → other ≠ last →
        luhnCheckValue (number.text.dropLast ++ [other]) = some false
  change : luhnCheckValue number.text = some true →
    ∀ front ch other back, number.text = front ++ ch :: back →
      other.isDigit → other ≠ ch →
        luhnCheckValue (front ++ other :: back) = some false
  swap : luhnCheckValue number.text = some true →
    ∀ front ch other back, number.text = front ++ ch :: other :: back →
      other ≠ ch → ¬ ZeroNine ch other →
        luhnCheckValue (front ++ other :: ch :: back) = some false

/-- The sums of the numbers that are compared stay within 32 bits. -/
structure SumsFit (number : Number) : Prop where
  last : ∀ last, last.isDigit →
    luhnSum (number.text.dropLast ++ [last]) < 2 ^ 32
  change : luhnSum number.text % 10 = 0 →
    ∀ front ch other back, number.text = front ++ ch :: back →
      other.isDigit → other ≠ ch → luhnSum (front ++ other :: back) < 2 ^ 32
  swap : luhnSum number.text % 10 = 0 →
    ∀ front ch other back, number.text = front ++ ch :: other :: back →
      other ≠ ch → ¬ ZeroNine ch other →
        luhnSum (front ++ other :: ch :: back) < 2 ^ 32

/-! ## The loop -/

theorem sumBefore_append (behind : Nat) (front back : List Nat) :
    sumBefore behind (front ++ back) =
      sumBefore (back.length + behind) front + sumBefore behind back := by
  induction front with
  | nil => rw [List.nil_append, sumBefore, Nat.zero_add]
  | cons digit front ih =>
      rw [List.cons_append, sumBefore, sumBefore, ih, List.length_append,
        Nat.add_assoc, Nat.add_assoc]

theorem sumBefore_singleton (behind digit : Nat) :
    sumBefore behind [digit] = summand behind digit := by
  rw [sumBefore, sumBefore, List.length_nil, Nat.zero_add, Nat.add_zero]

/-- The loop adds as it should until 32 bits are too few. -/
theorem sumLoop_eq (place : Nat) {sum : Nat} (fits : sum < 2 ^ 32)
    (digits : List Nat) :
    sumLoop place sum digits.reverse =
      unsigned 32 (sum + sumBefore place digits) := by
  induction digits using List.reverseRecOn generalizing place sum with
  | nil =>
      rw [List.reverse_nil, sumLoop, sumBefore, Nat.add_zero, unsigned,
        if_pos fits]
  | append_singleton digits digit ih =>
      rw [List.reverse_append, List.reverse_singleton, List.singleton_append,
        sumLoop, sumBefore_append, List.length_singleton, sumBefore_singleton,
        Nat.add_comm 1 place, Nat.add_comm (sumBefore _ _), ← Nat.add_assoc]
      by_cases next : sum + summand place digit < 2 ^ 32
      · rw [unsigned, if_pos next, Option.bind_some, ih _ next]
      · rw [unsigned, if_neg next, unsigned, if_neg (by omega)]
        rfl

theorem mapM_toDigit {text : List Char} (isDigit : OnlyDigits text) :
    text.mapM toDigit = some (text.map value) := by
  induction text with
  | nil => rfl
  | cons ch rest ih =>
      rw [OnlyDigits, List.forall_mem_cons] at isDigit
      rw [List.mapM_cons, ih isDigit.2, toDigit, if_pos isDigit.1]
      rfl

variable (number : List Char)

theorem onlyDigits_filter :
    OnlyDigits (number.filter Char.isDigit) := fun _ member =>
  (List.mem_filter.mp member).2

theorem luhnCheckValue_eq :
    luhnCheckValue number =
      if (number.filter Char.isDigit).length < 2 then some false
      else
        (unsigned 32 (luhnSum number)).map fun sum => decide (sum % 10 = 0) := by
  rw [luhnCheckValue, mapM_toDigit (onlyDigits_filter number), Option.bind_some,
    List.length_map, sumLoop_eq 0 (by decide), Nat.zero_add]
  rfl

section

variable {number : List Char} (isDigit : OnlyDigits number)
  (long : 2 ≤ number.length)

include isDigit long

theorem luhnCheckValue_digits :
    luhnCheckValue number =
      (unsigned 32 (luhnSum number)).map fun sum => decide (sum % 10 = 0) := by
  rw [luhnCheckValue_eq, List.filter_eq_self.mpr isDigit, if_neg]
  exact Nat.not_lt.mpr long

theorem accepts_iff :
    luhnCheckValue number = some true ↔
      luhnSum number < 2 ^ 32 ∧ luhnSum number % 10 = 0 := by
  rw [luhnCheckValue_digits isDigit long, unsigned]
  by_cases fits : luhnSum number < 2 ^ 32
  · rw [if_pos fits, Option.map_some, Option.some.injEq, decide_eq_true_eq]
    exact (and_iff_right fits).symm
  · rw [if_neg fits]
    exact ⟨nofun, fun accepted => absurd accepted.1 fits⟩

theorem rejects_iff :
    luhnCheckValue number = some false ↔
      luhnSum number < 2 ^ 32 ∧ luhnSum number % 10 ≠ 0 := by
  rw [luhnCheckValue_digits isDigit long, unsigned]
  by_cases fits : luhnSum number < 2 ^ 32
  · rw [if_pos fits, Option.map_some, Option.some.injEq, decide_eq_false_iff_not]
    exact (and_iff_right fits).symm
  · rw [if_neg fits]
    exact ⟨nofun, fun rejected => absurd rejected.1 fits⟩

end

/-! ## Digits -/

section

variable {digit other : Nat} (small : digit < 10) (smallToo : other < 10)

include small in
theorem summand_lt (place : Nat) : summand place digit < 10 := by
  rw [summand, doubled]
  split_ifs <;> omega

include small smallToo

theorem summand_ne (apart : digit ≠ other) (place : Nat) :
    summand place digit ≠ summand place other := by
  rw [summand, summand, doubled, doubled]
  split_ifs <;> omega

/-- Neighbours that change places change the last digit of the sum. -/
theorem summand_swap_ne (apart : digit ≠ other)
    (notZeroNine : ¬ (digit = 0 ∧ other = 9 ∨ digit = 9 ∧ other = 0))
    (place : Nat) :
    (summand (place + 1) digit + summand place other) % 10 ≠
      (summand (place + 1) other + summand place digit) % 10 := by
  rw [summand, summand, summand, summand]
  rcases Nat.mod_two_eq_zero_or_one place with even | odd
  · have next : (place + 1) % 2 = 1 := by omega
    rw [if_pos next, if_neg (by omega), if_pos next, if_neg (by omega), doubled,
      doubled]
    split_ifs <;> omega
  · have next : ¬ (place + 1) % 2 = 1 := by omega
    rw [if_neg next, if_pos odd, if_neg next, if_pos odd, doubled, doubled]
    split_ifs <;> omega

end

section

variable {ch other : Char}

theorem bounds_of_isDigit (isDigit : ch.isDigit) :
    '0'.toNat ≤ ch.toNat ∧ ch.toNat ≤ '9'.toNat := by
  simpa [Char.isDigit, UInt32.le_iff_toNat_le] using isDigit

theorem value_lt (isDigit : ch.isDigit) : value ch < 10 := by
  have bounds := bounds_of_isDigit isDigit
  have nine : '9'.toNat = '0'.toNat + 9 := rfl
  rw [value]
  omega

theorem value_inj (isDigit : ch.isDigit) (isDigitToo : other.isDigit)
    (same : value ch = value other) : ch = other := by
  have bounds := bounds_of_isDigit isDigit
  have bounds' := bounds_of_isDigit isDigitToo
  rw [value, value] at same
  exact Char.toNat_inj.mp (by omega)

end

/-! ## Numbers that differ a little -/

section

variable {front back : List Char} {ch other : Char}

theorem luhnSum_around (isDigit : OnlyDigits (front ++ ch :: back)) :
    luhnSum (front ++ ch :: back) =
      sumBefore (back.length + 1) (front.map value) +
        (summand back.length (value ch) + sumBefore 0 (back.map value)) := by
  rw [luhnSum, List.filter_eq_self.mpr isDigit, List.map_append, List.map_cons,
    sumBefore_append, sumBefore, List.length_cons, List.length_map,
    Nat.add_zero, Nat.add_zero (List.length back)]

theorem luhnSum_pair
    (isDigit : OnlyDigits (front ++ ch :: other :: back)) :
    luhnSum (front ++ ch :: other :: back) =
      sumBefore (back.length + 2) (front.map value) +
        (summand (back.length + 1) (value ch) +
          (summand back.length (value other) +
            sumBefore 0 (back.map value))) := by
  rw [luhnSum_around isDigit, List.map_cons, sumBefore, List.length_cons,
    List.length_map, Nat.add_zero (List.length back)]

theorem luhnSum_replace_ne (isDigit : OnlyDigits (front ++ ch :: back))
    (isDigitToo : OnlyDigits (front ++ other :: back))
    (apart : other ≠ ch) :
    luhnSum (front ++ ch :: back) % 10 ≠
      luhnSum (front ++ other :: back) % 10 := by
  have digit := isDigit ch (by simp)
  have digit' := isDigitToo other (by simp)
  have small := summand_lt (value_lt digit) back.length
  have small' := summand_lt (value_lt digit') back.length
  have values : value ch ≠ value other := fun same =>
    apart (value_inj digit digit' same).symm
  have differ :=
    summand_ne (value_lt digit) (value_lt digit') values back.length
  rw [luhnSum_around isDigit, luhnSum_around isDigitToo]
  omega

theorem luhnSum_swap_ne
    (isDigit : OnlyDigits (front ++ ch :: other :: back))
    (isDigitToo : OnlyDigits (front ++ other :: ch :: back))
    (apart : other ≠ ch) (notZeroNine : ¬ ZeroNine ch other) :
    luhnSum (front ++ ch :: other :: back) % 10 ≠
      luhnSum (front ++ other :: ch :: back) % 10 := by
  have digit := isDigit ch (by simp)
  have digit' := isDigit other (by simp)
  have values : value ch ≠ value other := fun same =>
    apart (value_inj digit digit' same).symm
  have notThose :
      ¬ (value ch = 0 ∧ value other = 9 ∨ value ch = 9 ∧ value other = 0) := by
    rintro (⟨zero, nine⟩ | ⟨nine, zero⟩)
    · exact
        notZeroNine (Or.inl
          ⟨value_inj digit rfl zero, value_inj digit' rfl nine⟩)
    · exact
        notZeroNine (Or.inr
          ⟨value_inj digit rfl nine, value_inj digit' rfl zero⟩)
  have differ :=
    summand_swap_ne (value_lt digit) (value_lt digit') values notThose back.length
  rw [luhnSum_pair isDigit, luhnSum_pair isDigitToo]
  omega

theorem OnlyDigits.append_singleton (isDigit : OnlyDigits front)
    (digit : ch.isDigit) : OnlyDigits (front ++ [ch]) := by
  intro other member
  rcases List.mem_append.mp member with inFront | isLast
  · exact isDigit other inFront
  · rwa [List.mem_singleton.mp isLast]

/-- Some last digit makes the sum a multiple of ten. -/
theorem exists_last (isDigit : OnlyDigits front) :
    ∃ last, last.isDigit ∧ luhnSum (front ++ [last]) % 10 = 0 := by
  have small : (10 - sumBefore 1 (front.map value) % 10) % 10 < 10 :=
    Nat.mod_lt _ (by decide)
  have table : ∀ digit < 10, (Nat.digitChar digit).isDigit ∧
      value (Nat.digitChar digit) = digit := by
    decide
  rcases table _ small with ⟨digit, isValue⟩
  refine ⟨_, digit, ?_⟩
  rw [luhnSum_around (isDigit.append_singleton digit), isValue,
    List.length_nil, summand, if_neg (by decide), List.map_nil, sumBefore,
    Nat.zero_add]
  omega

end

variable (number : Number)

theorem Number.onlyDigits_dropLast :
    OnlyDigits number.text.dropLast := fun digit member =>
  number.isDigit digit (List.dropLast_subset _ member)

theorem Number.exists_last :
    ∃ last, last.isDigit ∧ number.text = number.text.dropLast ++ [last] := by
  have nonempty : number.text ≠ [] := by
    intro empty
    have long := number.long
    rw [empty] at long
    exact absurd long (by decide)
  exact
    ⟨number.text.getLast nonempty, number.isDigit _ (List.getLast_mem nonempty),
      (List.dropLast_append_getLast nonempty).symm⟩

theorem Number.long_last (last : Char) :
    2 ≤ (number.text.dropLast ++ [last]).length := by
  have long := number.long
  rw [List.length_append, List.length_dropLast, List.length_singleton]
  omega

theorem OnlyDigits.replace {front back : List Char} {ch other : Char}
    (isDigit : OnlyDigits (front ++ ch :: back)) (digit : other.isDigit) :
    OnlyDigits (front ++ other :: back) := by
  rw [OnlyDigits, List.forall_mem_append, List.forall_mem_cons] at isDigit ⊢
  exact ⟨isDigit.1, digit, isDigit.2.2⟩

theorem OnlyDigits.swap {front back : List Char} {ch other : Char}
    (isDigit : OnlyDigits (front ++ ch :: other :: back)) :
    OnlyDigits (front ++ other :: ch :: back) := by
  rw [OnlyDigits, List.forall_mem_append, List.forall_mem_cons,
    List.forall_mem_cons] at isDigit ⊢
  exact ⟨isDigit.1, isDigit.2.2.1, isDigit.2.1, isDigit.2.2.2⟩

/-- The laws hold of exactly the numbers whose sums stay within 32 bits. -/
theorem luhnLaws_iff_sumsFit (number : Number) :
    LuhnLaws number ↔ SumsFit number := by
  have front := number.onlyDigits_dropLast
  have lengths : ∀ {text : List Char}, text.length = number.text.length →
      2 ≤ text.length := fun same => same ▸ number.long
  constructor
  · intro laws
    have last : ∀ last, last.isDigit →
        luhnSum (number.text.dropLast ++ [last]) < 2 ^ 32 := by
      intro last digit
      have isDigit := front.append_singleton digit
      have long := number.long_last last
      rcases laws.last with ⟨right, -, accepted, others⟩
      by_cases same : last = right
      · rw [← same, accepts_iff isDigit long] at accepted
        exact accepted.1
      · exact ((rejects_iff isDigit long).mp (others last digit same)).1
    have accepted : luhnSum number.text % 10 = 0 →
        luhnCheckValue number.text = some true := by
      intro multiple
      rcases number.exists_last with ⟨own, digit, shape⟩
      rw [accepts_iff number.isDigit number.long]
      exact ⟨by rw [shape]; exact last own digit, multiple⟩
    refine ⟨last, ?_, ?_⟩
    · intro multiple before ch other behind shape digit apart
      have isDigit := number.isDigit
      rw [shape] at isDigit
      have rejected :=
        laws.change (accepted multiple) before ch other behind shape digit apart
      rw [rejects_iff (isDigit.replace digit)
        (lengths (by rw [shape]; simp))] at rejected
      exact rejected.1
    · intro multiple before ch other behind shape apart notZeroNine
      have isDigit := number.isDigit
      rw [shape] at isDigit
      have rejected :=
        laws.swap (accepted multiple) before ch other behind shape apart
          notZeroNine
      rw [rejects_iff isDigit.swap (lengths (by rw [shape]; simp))] at rejected
      exact rejected.1
  · intro fits
    refine ⟨?_, ?_, ?_⟩
    · rcases OpenSnow.Industry.Luhn.exists_last front with ⟨last, digit, multiple⟩
      have isDigit := front.append_singleton digit
      refine ⟨last, digit, ?_, fun other digit' apart => ?_⟩
      · exact
          (accepts_iff isDigit (number.long_last last)).mpr
            ⟨fits.last last digit, multiple⟩
      · have isDigit' := front.append_singleton digit'
        have differ := luhnSum_replace_ne isDigit isDigit' apart
        rw [multiple] at differ
        exact
          (rejects_iff isDigit' (number.long_last other)).mpr
            ⟨fits.last other digit', differ.symm⟩
    · intro accepted before ch other behind shape digit apart
      have isDigit := number.isDigit
      have multiple := ((accepts_iff isDigit number.long).mp accepted).2
      have sum := fits.change multiple before ch other behind shape digit apart
      rw [shape] at isDigit multiple
      have differ := luhnSum_replace_ne isDigit (isDigit.replace digit) apart
      rw [multiple] at differ
      exact
        (rejects_iff (isDigit.replace digit)
          (lengths (by rw [shape]; simp))).mpr ⟨sum, differ.symm⟩
    · intro accepted before ch other behind shape apart notZeroNine
      have isDigit := number.isDigit
      have multiple := ((accepts_iff isDigit number.long).mp accepted).2
      have sum :=
        fits.swap multiple before ch other behind shape apart notZeroNine
      rw [shape] at isDigit multiple
      have differ := luhnSum_swap_ne isDigit isDigit.swap apart notZeroNine
      rw [multiple] at differ
      exact
        (rejects_iff isDigit.swap (lengths (by rw [shape]; simp))).mpr
          ⟨sum, differ.symm⟩

/-! ## Lengths -/

theorem sumBefore_le {digits : List Nat} (small : ∀ digit ∈ digits, digit < 10)
    (behind : Nat) : sumBefore behind digits ≤ 9 * digits.length := by
  induction digits with
  | nil => exact Nat.le_refl 0
  | cons digit rest ih =>
      rw [List.forall_mem_cons] at small
      have here := summand_lt small.1 (rest.length + behind)
      have others := ih small.2
      rw [sumBefore, List.length_cons]
      omega

theorem luhnSum_le (number : List Char) :
    luhnSum number ≤ 9 * number.length := by
  have small : ∀ digit ∈ (number.filter Char.isDigit).map value, digit < 10 := by
    intro digit member
    rcases List.mem_map.mp member with ⟨ch, inFilter, rfl⟩
    exact value_lt (onlyDigits_filter number ch inFilter)
  have shorter : (number.filter Char.isDigit).length ≤ number.length :=
    List.length_filter_le _ _
  have bound := sumBefore_le small 0
  rw [List.length_map] at bound
  rw [luhnSum]
  omega

/-- Numbers of fewer than 477218589 digits are short enough. -/
theorem sumsFit_of_short {number : Number}
    (short : 9 * number.text.length < 2 ^ 32) : SumsFit number := by
  have within : ∀ {text : List Char}, text.length = number.text.length →
      luhnSum text < 2 ^ 32 := by
    intro text same
    have bound := luhnSum_le text
    omega
  refine ⟨?_, ?_, ?_⟩
  · intro last digit
    have long := number.long
    refine within ?_
    rw [List.length_append, List.length_dropLast, List.length_singleton]
    omega
  · intro multiple front ch other back shape digit apart
    exact within (by rw [shape]; simp)
  · intro multiple front ch other back shape apart notZeroNine
    exact within (by rw [shape]; simp)

/-- A number that is made of nines. -/
def nines (more : Nat) : Number where
  text := List.replicate (more + 2) '9'
  isDigit := fun _ member => List.eq_of_mem_replicate member ▸ rfl
  long := by
    rw [List.length_replicate]
    exact Nat.le_add_left 2 more

theorem sumBefore_nines (count behind : Nat) :
    sumBefore behind (List.replicate count 9) = 9 * count := by
  have nine : ∀ place, summand place 9 = 9 := by
    intro place
    rw [summand]
    split <;> rfl
  induction count with
  | zero => rfl
  | succ count ih =>
      rw [List.replicate_succ, sumBefore, nine, ih]
      omega

theorem luhnSum_nines (more : Nat) :
    luhnSum (nines more).text = 9 * (more + 2) := by
  rw [luhnSum, List.filter_eq_self.mpr (nines more).isDigit, nines,
    List.map_replicate]
  exact sumBefore_nines (more + 2) 0

theorem not_sumsFit_nines {more : Nat} (many : 2 ^ 32 ≤ 9 * (more + 2)) :
    ¬ SumsFit (nines more) := by
  intro fits
  have sum := fits.last '9' rfl
  have whole : (nines more).text.dropLast ++ ['9'] = (nines more).text := by
    rw [nines, List.dropLast_replicate, ← List.replicate_succ']
    rfl
  rw [whole, luhnSum_nines] at sum
  exact Nat.not_lt.mpr many sum

/-- So many nines are more than 32 bits can add. -/
theorem nines_not_lawful : ¬ LuhnLaws (nines 477218587) := fun laws =>
  not_sumsFit_nines (by decide) ((luhnLaws_iff_sumsFit _).mp laws)

/-! ## Both checks -/

theorem foldlM_summands {text : List Char} (isDigit : OnlyDigits text)
    (place sum : Nat) :
    (((text.zipIdx place).mapM fun (ch, place) =>
        (toDigit ch).map (summand place)).bind fun summands =>
      summands.foldlM (fun sum value => unsigned 32 (sum + value)) sum) =
      sumLoop place sum (text.map value) := by
  induction text generalizing place sum with
  | nil => rfl
  | cons ch rest ih =>
      rw [OnlyDigits, List.forall_mem_cons] at isDigit
      have digit : toDigit ch = some (value ch) := if_pos isDigit.1
      rw [List.zipIdx_cons, List.mapM_cons, List.map_cons, sumLoop]
      simp only [digit, Option.map_some, Option.bind_eq_bind, Option.bind_some,
        Option.bind_assoc, Option.pure_def, List.foldlM_cons]
      cases unsigned 32 (sum + summand place (value ch)) with
      | none => simp
      | some sum =>
          simp only [Option.bind_some]
          exact ih isDigit.2 (place + 1) sum

/-- Both checks agree on the numbers of fifteen digits. -/
theorem luhnCheck_eq {digits : List Char} (isDigit : OnlyDigits digits)
    (length : digits.length = 15) : luhnCheck digits = luhnCheckValue digits := by
  have bytes : utf8Len digits = 15 := by
    rw [utf8Len_of_ascii, length]
    intro ch member
    have bounds := bounds_of_isDigit (isDigit ch member)
    exact Nat.lt_of_le_of_lt bounds.2 (by decide)
  have reversed : OnlyDigits digits.reverse := fun digit member =>
    isDigit digit (List.mem_reverse.mp member)
  have sums := foldlM_summands reversed 0 0
  rw [List.map_reverse, sumLoop_eq 0 (by decide), Nat.zero_add] at sums
  rw [luhnCheckValue_digits isDigit (by omega), luhnCheck, if_neg]
  · dsimp only
    rw [sums, luhnSum, List.filter_eq_self.mpr isDigit]
  · rw [not_or, not_not, not_not, List.all_eq_true]
    exact ⟨bytes, isDigit⟩

/--
A number keeps the laws exactly when its sums stay within 32 bits; on fifteen
digits both checks agree, and nothing but digits counts.
-/
theorem luhnLaws_iff (number : Number) (text other : List Char) :
    (LuhnLaws number ↔ SumsFit number) ∧
      (OnlyDigits text → text.length = 15 →
        luhnCheck text = luhnCheckValue text) ∧
      (text.filter Char.isDigit = other.filter Char.isDigit →
        luhnCheckValue text = luhnCheckValue other) := by
  refine ⟨luhnLaws_iff_sumsFit number, luhnCheck_eq, fun same => ?_⟩
  rw [luhnCheckValue, luhnCheckValue, same]

end OpenSnow.Industry.Luhn
