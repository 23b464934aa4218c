import Mathlib.Algebra.Group.Nat.Defs
import Mathlib.Data.List.Infix
import OpenSnow.Foundation.Spans

/-!
# The warm-up of a worker

A worker checks itself until a check passes, which sets its ready flag.  After
each failed check it waits, twice as long as before and half a minute at most.
The power of two is taken on 64 bits and before the cap, so that the
sixty-fourth failure in a row overflows it.
-/

namespace OpenSnow.Queue

open Foundation

variable {Error : Type}

/-- Where the loop of `run_warmup` is. -/
inductive WarmupPhase where
  | checking
  | passed
  | panicked
deriving DecidableEq, Repr

/-- A failed attempt, and the seconds that the loop then sleeps. -/
structure Retry (Error : Type) where
  attempt : Nat
  error : Error
  wait : Nat
deriving DecidableEq, Repr

structure Warmup (Error : Type) where
  /-- The flag that the readiness probe reads. -/
  ready : Bool
  attempt : Nat
  /-- The failed attempts, the oldest first. -/
  retries : List (Retry Error)
  /-- Whether arithmetic has overflowed. -/
  overflowed : Bool
  phase : WarmupPhase
deriving DecidableEq, Repr

def Warmup.start : Warmup Error where
  ready := false
  attempt := 0
  retries := []
  overflowed := false
  phase := .checking

section

variable (overflowChecks : Bool)

/--
Unsigned arithmetic on so many bits, by its exact result.  An overflow panics,
or keeps the low bits where overflow checks are off.
-/
def Warmup.compute (warmup : Warmup Error) (bits exact : Nat)
    (next : Nat → Warmup Error → Warmup Error) : Warmup Error :=
  if exact < 2 ^ bits then next exact warmup
  else if overflowChecks then
    { warmup with overflowed := true, phase := .panicked }
  else next (exact % 2 ^ bits) { warmup with overflowed := true }

/-- What the loop does about a failed check. -/
def Warmup.retry (warmup : Warmup Error) (error : Error) : Warmup Error :=
  warmup.compute overflowChecks 64 (2 ^ warmup.attempt) fun power warmup =>
    let retry := { attempt := warmup.attempt, error, wait := min power 30 }
    { warmup with retries := warmup.retries ++ [retry] }

/-- One pass through the loop, with what the check returns. -/
def Warmup.step (warmup : Warmup Error) (check : Except Error Unit) :
    Warmup Error :=
  if warmup.phase = .checking then
    warmup.compute overflowChecks 32 (warmup.attempt + 1)
      fun attempt warmup =>
        let warmup := { warmup with attempt }
        match check with
        | .ok () => { warmup with ready := true, phase := .passed }
        | .error error => warmup.retry overflowChecks error
  else warmup

/-- `run_warmup`, whose checks return these results one after the other. -/
def runWarmup (checks : List (Except Error Unit)) : Warmup Error :=
  checks.foldl (Warmup.step overflowChecks) .start

end

def fails (check : Except Error Unit) : Bool := !check.isOk

/-- The checks that fail before one passes. -/
def failures (checks : List (Except Error Unit)) :
    List (Except Error Unit) :=
  checks.takeWhile fails

/-- What the warm-up has done when these checks have returned. -/
structure WarmupLaw (checks : List (Except Error Unit))
    (warmup : Warmup Error) : Prop where
  sound : warmup.overflowed = false ∧ warmup.phase ≠ .panicked
  /-- Every failure is followed by a wait. -/
  waits : warmup.retries.map (fun retry => .error retry.error) =
    failures checks
  bounded : ∀ retry ∈ warmup.retries, 2 ≤ retry.wait ∧ retry.wait ≤ 30
  rising : warmup.retries.Pairwise fun before after =>
    before.wait ≤ after.wait
  ready_iff : warmup.ready = true ↔ ∃ check ∈ checks, check.isOk

/-- The warm-up does not break, however many checks have returned. -/
def NeverBreaks (overflowChecks : Bool) (checks : List (Except Error Unit)) :
    Prop :=
  ∀ done, done <+: checks → WarmupLaw done (runWarmup overflowChecks done)

/-! ## One pass -/

section

variable {overflowChecks : Bool}

variable {warmup : Warmup Error} {next : Nat → Warmup Error → Warmup Error}

theorem Warmup.compute_of_lt {bits exact : Nat} (fits : exact < 2 ^ bits) :
    warmup.compute overflowChecks bits exact next = next exact warmup :=
  if_pos fits

theorem Warmup.compute_overflowed {bits exact : Nat} (large : 2 ^ bits ≤ exact)
    (keeps : ∀ value warmup,
      (next value warmup).overflowed = warmup.overflowed) :
    (warmup.compute overflowChecks bits exact next).overflowed = true := by
  rw [Warmup.compute, if_neg (Nat.not_lt.mpr large)]
  cases overflowChecks with
  | true => rfl
  | false => exact keeps _ _

/-- The wait behind a failure that so many are before. -/
def backoff (before : Nat) : Nat := min (2 ^ (before + 1)) 30

theorem backoff_bounded (before : Nat) :
    2 ≤ backoff before ∧ backoff before ≤ 30 := by
  have positive : 2 ^ 1 ≤ 2 ^ (before + 1) :=
    Nat.pow_le_pow_right (by decide) (by omega)
  exact ⟨Nat.le_min.mpr ⟨positive, by decide⟩, Nat.min_le_right _ _⟩

theorem backoff_mono {before later : Nat} (le : before ≤ later) :
    backoff before ≤ backoff later :=
  Nat.le_min.mpr
    ⟨(Nat.min_le_left _ 30).trans
      (Nat.pow_le_pow_right (by decide) (Nat.succ_le_succ le)),
      Nat.min_le_right _ 30⟩

/-- The loop after nothing but these checks, which have all failed. -/
structure Steady (failed : List (Except Error Unit))
    (warmup : Warmup Error) : Prop where
  ready : warmup.ready = false
  attempt : warmup.attempt = failed.length
  errors : warmup.retries.map (fun retry => .error retry.error) = failed
  waits : warmup.retries.map Retry.wait =
    (List.range failed.length).map backoff
  overflowed : warmup.overflowed = false
  phase : warmup.phase = .checking

theorem steady_start : Steady [] (Warmup.start : Warmup Error) :=
  ⟨rfl, rfl, rfl, rfl, rfl, rfl⟩

variable {failed : List (Except Error Unit)}

section

variable (steady : Steady failed warmup)

include steady

/-- The waits are the powers of two up to the cap. -/
theorem Steady.bounded :
    ∀ retry ∈ warmup.retries, 2 ≤ retry.wait ∧ retry.wait ≤ 30 := by
  intro retry member
  have listed := List.mem_map_of_mem (f := Retry.wait) member
  rw [steady.waits] at listed
  obtain ⟨before, -, isWait⟩ := List.mem_map.mp listed
  rw [← isWait]
  exact backoff_bounded before

theorem Steady.rising :
    warmup.retries.Pairwise fun before after => before.wait ≤ after.wait := by
  have ascending : ((List.range failed.length).map backoff).Pairwise
      (· ≤ ·) :=
    List.pairwise_map.mpr
      (List.pairwise_le_range.imp fun le => backoff_mono le)
  rw [← steady.waits] at ascending
  exact List.pairwise_map.mp ascending

/-- The attempt is counted on 32 bits. -/
theorem Steady.step_eq (few : failed.length < 64) (check : Except Error Unit) :
    warmup.step overflowChecks check =
      match check with
      | .ok () =>
          { warmup with
            attempt := failed.length + 1, ready := true, phase := .passed }
      | .error error =>
          { warmup with attempt := failed.length + 1 }.retry overflowChecks
            error := by
  have fits : failed.length + 1 < 2 ^ 32 := by omega
  rw [Warmup.step, if_pos steady.phase, steady.attempt,
    Warmup.compute_of_lt fits]

/-- One more failure, of sixty-three at most. -/
theorem Steady.fail (few : failed.length + 1 < 64) (error : Error) :
    Steady (failed ++ [.error error])
      (warmup.step overflowChecks (.error error)) := by
  have fits : 2 ^ (failed.length + 1) < 2 ^ 64 :=
    Nat.pow_lt_pow_right (by decide) few
  rw [steady.step_eq (by omega)]
  dsimp only
  rw [Warmup.retry, Warmup.compute_of_lt fits]
  exact
    { ready := steady.ready
      attempt := by simp
      errors := by simp [steady.errors]
      waits := by simp [steady.waits, List.range_succ, backoff]
      overflowed := steady.overflowed
      phase := steady.phase }

/-- The sixty-fourth failure. -/
theorem Steady.overflows (last : failed.length = 63) (error : Error) :
    (warmup.step overflowChecks (.error error)).overflowed = true := by
  rw [steady.step_eq (by omega), last]
  exact Warmup.compute_overflowed (Nat.le_refl (2 ^ 64)) fun _ _ => rfl

end

end

/-! ## Whole runs -/

section

variable {overflowChecks : Bool}

theorem runWarmup_append (first second : List (Except Error Unit)) :
    runWarmup overflowChecks (first ++ second) =
      second.foldl (Warmup.step overflowChecks)
        (runWarmup overflowChecks first) :=
  List.foldl_append

theorem foldl_step_of_ended {warmup : Warmup Error}
    (ended : warmup.phase ≠ .checking) (checks : List (Except Error Unit)) :
    checks.foldl (Warmup.step overflowChecks) warmup = warmup := by
  induction checks with
  | nil => rfl
  | cons check rest ih =>
      rw [List.foldl_cons, Warmup.step, if_neg ended]
      exact ih

theorem steady_runWarmup {failed : List (Except Error Unit)}
    (allFail : ∀ check ∈ failed, fails check) (few : failed.length < 64) :
    Steady failed (runWarmup overflowChecks failed) := by
  induction failed using List.reverseRecOn with
  | nil => exact steady_start
  | append_singleton failed check ih =>
      rw [List.length_append, List.length_singleton] at few
      have before := ih
        (fun other member => allFail other (List.mem_append_left _ member))
        (by omega)
      rw [runWarmup_append]
      cases check with
      | error error => exact before.fail few error
      | ok _ => cases allFail _ List.mem_concat_self

variable {checks : List (Except Error Unit)}

theorem fails_of_mem_failures :
    ∀ check ∈ failures checks, fails check :=
  List.all_eq_true.mp List.all_takeWhile

theorem length_failures_le (done rest : List (Except Error Unit)) :
    (failures done).length ≤ (failures (done ++ rest)).length := by
  rw [failures, failures, List.takeWhile_append]
  split
  · rename_i whole
    rw [whole, List.length_append]
    exact Nat.le_add_right _ _
  · exact Nat.le_refl _

/-- Fewer than sixty-four failures are no trouble. -/
theorem warmupLaw_of_few (few : (failures checks).length < 64) :
    WarmupLaw checks (runWarmup overflowChecks checks) := by
  have steady : Steady (failures checks)
      (runWarmup overflowChecks (failures checks)) :=
    steady_runWarmup fails_of_mem_failures few
  have stops : Stops fails (checks.dropWhile fails) :=
    stops_dropWhile checks
  have whole : failures checks ++ checks.dropWhile fails = checks :=
    List.takeWhile_append_dropWhile
  generalize checks.dropWhile fails = rest at stops whole
  cases rest with
  | nil =>
      rw [List.append_nil] at whole
      rw [whole] at steady
      have notReady : ¬ ∃ check ∈ checks, check.isOk := by
        rintro ⟨check, member, isOk⟩
        rw [← whole] at member
        have failed := fails_of_mem_failures check member
        rw [fails, isOk] at failed
        cases failed
      exact
        { sound := ⟨steady.overflowed, fun panicked => by
            cases steady.phase.symm.trans panicked⟩
          waits := steady.errors.trans whole.symm
          bounded := steady.bounded
          rising := steady.rising
          ready_iff := by simp [steady.ready, notReady] }
  | cons check more =>
      cases check with
      | error error => cases stops_cons.mp stops
      | ok _ =>
          have passes : (Except.ok () : Except Error Unit) ∈ checks := by
            rw [← whole]
            exact List.mem_append_right _ List.mem_cons_self
          have run : runWarmup overflowChecks checks = _ :=
            (congrArg (runWarmup overflowChecks) whole.symm).trans
              (runWarmup_append _ _)
          rw [List.foldl_cons, steady.step_eq few,
            foldl_step_of_ended (by nofun)] at run
          rw [run]
          exact
            { sound := ⟨steady.overflowed, nofun⟩
              waits := steady.errors
              bounded := steady.bounded
              rising := steady.rising
              ready_iff := iff_of_true rfl ⟨_, passes, rfl⟩ }

/-- The sixty-fourth failure breaks the run that ends with it. -/
theorem not_warmupLaw_of_many (many : 64 ≤ (failures checks).length) :
    ¬ WarmupLaw ((failures checks).take 64)
      (runWarmup overflowChecks ((failures checks).take 64)) := by
  intro law
  have allFail : ∀ check ∈ failures checks, fails check :=
    fails_of_mem_failures
  have steady : Steady ((failures checks).take 63)
      (runWarmup overflowChecks ((failures checks).take 63)) :=
    steady_runWarmup
      (fun check member => allFail check (List.mem_of_mem_take member))
      (by rw [List.length_take]; omega)
  have last : ((failures checks).take 63).length = 63 := by
    rw [List.length_take]
    omega
  have split : (failures checks).take 64 =
      (failures checks).take 63 ++ [(failures checks)[63]] :=
    List.take_succ_eq_append_getElem (by omega)
  have overflowed := law.sound.1
  rw [split, runWarmup_append, List.foldl_cons, List.foldl_nil] at overflowed
  cases check : (failures checks)[63] with
  | error error =>
      rw [check, steady.overflows last error] at overflowed
      cases overflowed
  | ok _ =>
      have failed := allFail _ (List.getElem_mem (show 63 < _ by omega))
      rw [check] at failed
      cases failed

/-- The warm-up never breaks exactly when fewer than sixty-four checks fail. -/
theorem neverBreaks_iff (overflowChecks : Bool)
    (checks : List (Except Error Unit)) :
    NeverBreaks overflowChecks checks ↔ (failures checks).length < 64 := by
  constructor
  · intro never
    by_contra many
    exact not_warmupLaw_of_many (by omega)
      (never _ ((List.take_prefix 64 _).trans (List.takeWhile_prefix _)))
  · rintro few done ⟨rest, rfl⟩
    exact warmupLaw_of_few
      (Nat.lt_of_le_of_lt (length_failures_le done rest) few)

/-- The catalog cannot be reached for sixty-four attempts. -/
def unreachable : List (Except String Unit) :=
  List.replicate 64 (.error "catalog check failed")

/-- The last attempt panics, or is followed by no wait. -/
theorem sixtyFour_failures :
    ((runWarmup true unreachable).phase = .panicked ∧
        ¬ NeverBreaks true unreachable) ∧
      ((runWarmup false unreachable).retries.getLast?.map Retry.wait = some 0 ∧
        ¬ NeverBreaks false unreachable) := by
  have panicked : (runWarmup true unreachable).phase = .panicked := by
    decide +kernel
  have overflowed : (runWarmup false unreachable).overflowed = true := by
    decide +kernel
  refine ⟨⟨panicked, fun never => ?_⟩, ⟨by decide +kernel, fun never => ?_⟩⟩
  · exact (never _ List.prefix_rfl).sound.2 panicked
  · cases overflowed.symm.trans (never _ List.prefix_rfl).sound.1

end

end OpenSnow.Queue
