import Mathlib.Data.List.Infix
import Yaaos.Base.Double

set_option autoImplicit false

namespace Yaaos.Tasks

open Yaaos.Base

inductive LoopError where
  | overflowError
  | valueError
deriving DecidableEq

inductive TickOutcome where
  | done
  | failed
deriving DecidableEq

def maxSleepSeconds : Double := .finite (.ofNat 120 (by omega))

def backoffSleep (consecutiveFailures : Nat) (tickInterval maxSleep : Double) : Except LoopError Double :=
  if 2 ^ consecutiveFailures < 2 ^ 1024 then
    .ok (Double.pyMin (tickInterval.timesPower consecutiveFailures) maxSleep)
  else .error .overflowError

def sleep : Double → Except LoopError Unit
  | .nan => .error .valueError
  | _ => .ok ()

def schedulerTurn (tickInterval : Double) (consecutiveFailures : Nat) (outcome : TickOutcome) :
    Except LoopError (Nat × Double) := do
  let (consecutiveFailures, sleepSeconds) ← match outcome with
    | .done => pure (0, tickInterval)
    | .failed => do
        let consecutiveFailures := consecutiveFailures + 1
        let sleepSeconds ← backoffSleep consecutiveFailures tickInterval maxSleepSeconds
        pure (consecutiveFailures, sleepSeconds)
  sleep sleepSeconds
  pure (consecutiveFailures, sleepSeconds)

def schedulerLoop (tickInterval : Double) (consecutiveFailures : Nat) : List TickOutcome → Except LoopError (List Double)
  | [] => .ok []
  | outcome :: rest => do
      let (consecutiveFailures, sleepSeconds) ← schedulerTurn tickInterval consecutiveFailures outcome
      let sleeps ← schedulerLoop tickInterval consecutiveFailures rest
      pure (sleepSeconds :: sleeps)

variable (tickInterval : Double) (failures : Nat)

theorem power_below (failures limit : Nat) : 2 ^ failures < 2 ^ limit ↔ failures < limit :=
  Nat.pow_lt_pow_iff_right Nat.one_lt_two

theorem backoffSleep_short (tickInterval maxSleep : Double) (short : failures < 1024) :
    backoffSleep failures tickInterval maxSleep =
      .ok (Double.pyMin (tickInterval.timesPower failures) maxSleep) :=
  if_pos ((power_below failures 1024).mpr short)

theorem backoffSleep_long (tickInterval maxSleep : Double) (long : 1024 ≤ failures) :
    backoffSleep failures tickInterval maxSleep = .error .overflowError :=
  if_neg (mt (power_below failures 1024).mp (Nat.not_lt.mpr long))

structure BacksOff (tickInterval : Double) (failures : Nat) : Prop where
  capped : ∃ delay, backoffSleep failures tickInterval maxSleepSeconds = .ok delay ∧ delay.le maxSleepSeconds
  climbs : ∀ fewer ≤ failures, ∃ before after, backoffSleep fewer tickInterval maxSleepSeconds = .ok before ∧
    backoffSleep failures tickInterval maxSleepSeconds = .ok after ∧ before.le after

-- An interval for which longer outages do not mean shorter sleeps.
def Growing (failures : Nat) : Double → Prop
  | .nan => False
  | .infinity _ => True
  | .finite number => 0 ≤ number.units ∨ failures = 0

theorem sleep_capped (tickInterval : Double) (isNumber : tickInterval ≠ .nan) (short : failures < 1024) :
    ∃ delay, backoffSleep failures tickInterval maxSleepSeconds = .ok delay ∧ delay.le maxSleepSeconds := by
  obtain ⟨product, same⟩ := Double.value_timesPower failures tickInterval isNumber
  exact ⟨_, backoffSleep_short failures tickInterval _ short, _, _, Double.value_pyMin _ _ _ _ same rfl, rfl, min_le_right _ _⟩

theorem pyMin_mono (left right bound : Double) (isNumber : bound ≠ .nan) (ordered : left.le right) :
    (Double.pyMin left bound).le (Double.pyMin right bound) := by
  obtain ⟨low, high, atLeft, atRight, below⟩ := ordered
  cases atBound : bound.value with
  | none => exact absurd (Double.value_none bound atBound) isNumber
  | some cap =>
      exact ⟨_, _, Double.value_pyMin _ _ _ _ atLeft atBound, Double.value_pyMin _ _ _ _ atRight atBound,
        min_le_min_right cap below⟩

theorem growing_ordered (failures fewer : Nat) (growing : Growing failures tickInterval)
    (ordered : fewer ≤ failures) : (tickInterval.timesPower fewer).le (tickInterval.timesPower failures) := by
  cases tickInterval with
  | nan => exact growing.elim
  | infinity negative =>
      obtain ⟨place, same⟩ := Double.value_timesPower 0 (.infinity negative) Double.noConfusion
      exact ⟨place, place, same, same, le_rfl⟩
  | finite number =>
      rcases growing with positive | none
      · exact Double.timesPower_mono number fewer failures positive ordered
      · have same : fewer = failures := by omega
        obtain ⟨place, product⟩ := Double.value_timesPower failures (.finite number) Double.noConfusion
        rw [same]
        exact ⟨place, place, product, product, le_rfl⟩

theorem negative_shrinks (number : FiniteDouble) (failures : Nat) (negative : number.units < 0) (some_ : 0 < failures) :
    ¬ (Double.pyMin ((Double.finite number).timesPower 0) maxSleepSeconds).le
        (Double.pyMin ((Double.finite number).timesPower failures) maxSleepSeconds) := by
  intro ordered
  obtain ⟨place, product⟩ := Double.value_timesPower failures (.finite number) Double.noConfusion
  rw [Double.timesPower_zero] at ordered
  have below := (Double.le_iff _ _ _ _ (Double.value_pyMin _ _ _ _ rfl rfl)
    (Double.value_pyMin _ _ _ _ product rfl)).mp ordered
  have falls := Double.timesPower_falls number failures negative some_ place product
  have capped : number.units ≤ (FiniteDouble.ofNat 120 (by omega)).units := by
    exact Int.le_trans (Int.le_of_lt negative) (Int.natCast_nonneg _)
  rw [min_eq_left capped] at below
  exact absurd (lt_of_le_of_lt (below.trans (min_le_left _ _)) falls) (lt_irrefl _)

theorem backsOff_iff :
    BacksOff tickInterval failures ↔ failures < 1024 ∧ Growing failures tickInterval := by
  constructor
  · rintro ⟨⟨delay, slept, capped⟩, climbs⟩
    have short : failures < 1024 := by
      by_contra long
      rw [backoffSleep_long failures _ _ (Nat.not_lt.mp long)] at slept
      cases slept
    refine ⟨short, ?_⟩
    obtain ⟨before, after, first, last, ordered⟩ := climbs 0 (Nat.zero_le failures)
    rw [backoffSleep_short _ _ _ (by omega)] at first
    rw [backoffSleep_short failures _ _ short] at last
    cases first
    cases last
    cases tickInterval with
    | nan =>
        obtain ⟨_, _, absent, _⟩ := ordered
        cases absent
    | infinity negative => trivial
    | finite number =>
        by_cases positive : 0 ≤ number.units
        · exact .inl positive
        · by_cases none : failures = 0
          · exact .inr none
          · exact absurd ordered (negative_shrinks number failures (by omega) (by omega))
  · rintro ⟨short, growing⟩
    have isNumber : tickInterval ≠ .nan := by
      rintro rfl
      exact growing
    refine ⟨sleep_capped failures tickInterval isNumber short, ?_⟩
    intro fewer ordered
    refine ⟨_, _, backoffSleep_short fewer _ _ (by omega), backoffSleep_short failures _ _ short, ?_⟩
    apply pyMin_mono _ _ _ Double.noConfusion
    exact growing_ordered tickInterval failures fewer growing ordered

theorem infix_behind {α : Type} (text front back : List α) (letter : α) (absent : letter ∉ text)
    (longer : front.length < text.length) :
    text <:+: front ++ letter :: back ↔ text <:+: back := by
  have skips (front : List α) (longer : front.length < text.length) : ¬ text <+: front ++ letter :: back := by
    intro starts
    have marked : front ++ [letter] <+: front ++ letter :: back := by simp
    have inside := List.prefix_of_prefix_length_le marked starts (by simp; omega)
    exact absent (inside.subset (by simp))
  induction front with
  | nil =>
      have starts : ¬ text <+: letter :: back := skips [] longer
      rw [List.nil_append, List.infix_cons_iff, or_iff_right starts]
  | cons first rest ih =>
      rw [List.cons_append, List.infix_cons_iff, ← List.cons_append, or_iff_right (skips _ longer)]
      exact ih (Nat.lt_of_succ_lt longer)

def outage : List TickOutcome := List.replicate 1024 .failed

theorem turn_done (isNumber : tickInterval ≠ .nan) :
    schedulerTurn tickInterval failures .done = .ok (0, tickInterval) := by
  cases tickInterval with
  | nan => exact absurd rfl isNumber
  | infinity negative => rfl
  | finite number => rfl

theorem turn_failed (isNumber : tickInterval ≠ .nan)
    (short : failures + 1 < 1024) :
    ∃ delay, schedulerTurn tickInterval failures .failed = .ok (failures + 1, delay) := by
  obtain ⟨delay, slept, capped⟩ := sleep_capped (failures + 1) tickInterval isNumber short
  refine ⟨delay, ?_⟩
  unfold schedulerTurn
  simp only [slept]
  cases delay with
  | nan =>
      obtain ⟨_, _, absent, _⟩ := capped
      cases absent
  | infinity negative => rfl
  | finite number => rfl

theorem turn_nan (outcome : TickOutcome) : schedulerTurn .nan 0 outcome = .error .valueError := by
  cases outcome with
  | done => rfl
  | failed =>
      unfold schedulerTurn
      simp only [backoffSleep_short (0 + 1) .nan maxSleepSeconds (by omega)]
      rfl

theorem turn_overflows (long : 1024 ≤ failures + 1) :
    schedulerTurn tickInterval failures .failed = .error .overflowError := by
  unfold schedulerTurn
  simp only [backoffSleep_long _ tickInterval maxSleepSeconds long]
  rfl

theorem loop_turn (failures after : Nat) (delay : Double) (outcome : TickOutcome)
    (rest : List TickOutcome) (turned : schedulerTurn tickInterval failures outcome = .ok (after, delay)) :
    (∃ sleeps, schedulerLoop tickInterval failures (outcome :: rest) = .ok sleeps) ↔
      ∃ sleeps, schedulerLoop tickInterval after rest = .ok sleeps := by
  have opens : schedulerLoop tickInterval failures (outcome :: rest) =
      (schedulerLoop tickInterval after rest).map fun sleeps => delay :: sleeps := by
    rw [schedulerLoop, turned]
    change (schedulerLoop tickInterval after rest).bind _ = _
    cases schedulerLoop tickInterval after rest with
    | error why => rfl
    | ok sleeps => rfl
  rw [opens]
  cases schedulerLoop tickInterval after rest with
  | error why => simp [Except.map]
  | ok sleeps => simp [Except.map]

theorem loop_counts (outcomes : List TickOutcome) (isNumber : tickInterval ≠ .nan)
    (short : failures < 1024) :
    (∃ sleeps, schedulerLoop tickInterval failures outcomes = .ok sleeps) ↔
      ¬ outage <:+: List.replicate failures .failed ++ outcomes := by
  induction outcomes generalizing failures with
  | nil =>
      refine iff_of_true ⟨[], rfl⟩ ?_
      intro inside
      have longer := inside.length_le
      simp only [outage, List.append_nil, List.length_replicate] at longer
      omega
  | cons outcome rest ih =>
      cases outcome with
      | done =>
          rw [loop_turn tickInterval failures 0 _ .done rest (turn_done tickInterval failures isNumber),
            ih 0 (by omega), infix_behind outage]
          · rfl
          · intro member
            cases List.eq_of_mem_replicate member
          · rw [outage, List.length_replicate, List.length_replicate]
            exact short
      | failed =>
          have counted : List.replicate failures TickOutcome.failed ++ .failed :: rest =
              List.replicate (failures + 1) .failed ++ rest := by
            rw [List.replicate_succ', List.append_assoc]
            rfl
          rw [counted]
          by_cases full : 1024 ≤ failures + 1
          · apply iff_of_false
            · rintro ⟨sleeps, slept⟩
              rw [schedulerLoop, turn_overflows tickInterval failures full] at slept
              cases slept
            · have reached : failures + 1 = 1024 := by omega
              rw [not_not, reached]
              exact (List.prefix_append _ _).isInfix
          · obtain ⟨delay, turned⟩ := turn_failed tickInterval failures isNumber (by omega)
            rw [loop_turn tickInterval failures _ _ .failed rest turned]
            exact ih (failures + 1) (by omega)

theorem loop_survives (outcomes : List TickOutcome) :
    (∃ sleeps, schedulerLoop tickInterval 0 outcomes = .ok sleeps) ↔
      ¬ outage <:+: outcomes ∧ (outcomes = [] ∨ tickInterval ≠ .nan) := by
  by_cases isNumber : tickInterval = .nan
  · rw [isNumber]
    cases outcomes with
    | nil =>
        refine iff_of_true ⟨[], rfl⟩ ⟨?_, .inl rfl⟩
        intro inside
        have longer := inside.length_le
        rw [outage, List.length_replicate, List.length_nil] at longer
        omega
    | cons outcome rest =>
        apply iff_of_false
        · rintro ⟨sleeps, slept⟩
          rw [schedulerLoop, turn_nan] at slept
          cases slept
        · rintro ⟨_, empty | number⟩
          · cases empty
          · exact number rfl
  · rw [loop_counts tickInterval 0 outcomes isNumber (by omega), List.replicate_zero, List.nil_append,
      and_iff_left (.inr isNumber)]

-- The sleeps and the loop do as they are meant to exactly below 1024 failures in a row,
-- for an interval that is a number and, where sleeps are compared, not negative.
theorem scheduler_survives_iff :
    (∀ failures, BacksOff tickInterval failures ↔ failures < 1024 ∧ Growing failures tickInterval) ∧
      ∀ outcomes, (∃ sleeps, schedulerLoop tickInterval 0 outcomes = .ok sleeps) ↔
        ¬ outage <:+: outcomes ∧ (outcomes = [] ∨ tickInterval ≠ .nan) :=
  ⟨backsOff_iff tickInterval, loop_survives tickInterval⟩

theorem outage_overflows :
    backoffSleep 1024 (.finite (.ofNat 20 (by omega))) maxSleepSeconds = .error .overflowError ∧
      ¬ ∃ sleeps, schedulerLoop (.finite (.ofNat 20 (by omega))) 0 outage = .ok sleeps := by
  refine ⟨backoffSleep_long 1024 _ _ le_rfl, ?_⟩
  intro survives
  exact ((loop_survives _ outage).mp survives).1 List.infix_rfl

end Yaaos.Tasks
