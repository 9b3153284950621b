import Mathlib.Order.Interval.Set.Defs
import Mathlib.Algebra.Order.Group.Unbundled.Abs
import Yaaos.Base.Rounding

set_option autoImplicit false

namespace Yaaos.Agent

open Yaaos.Base

def minute : Int := 60000000000

def defaultSteps : List Int := [1 * minute, 3 * minute, 5 * minute, 15 * minute, 60 * minute]

abbrev Rng := Set.Icc (0 : ℚ) 1

structure Schedule where
  steps : List Int
  attempt : Nat
  maxElapsed : Int
  firstFailed : Option Int
  deriving DecidableEq

def newWithStepsAndDeadline (steps : List Int) (maxElapsed : Int) : Schedule where
  steps := if steps = [] then defaultSteps else steps
  attempt := 0
  maxElapsed := maxElapsed
  firstFailed := none

def truncate (value : ℚ) : Int := if 0 ≤ value then ⌊value⌋ else ⌈value⌉

-- The conversion drops the fraction. Beyond an int64 its result is left to the processor;
-- this one is amd64's.
def durationOf (value : ℚ) : Int :=
  if -2 ^ 63 ≤ truncate value ∧ truncate value < 2 ^ 63 then truncate value else -2 ^ 63

def jitterPercent : ℚ := 20

inductive SleepResult where
  | slept
  | deadlineExceeded
  | cancelled
  deriving DecidableEq

namespace Schedule

def windowedLocked (schedule : Schedule) (attempt : Nat) (rng : Rng) : Int :=
  let index := if attempt ≥ schedule.steps.length then schedule.steps.length - 1 else attempt
  let base := schedule.steps.getD index 0
  let jitter := float64 (float64 (float64 (rng.val * 2) - 1) * float64 (jitterPercent / 100))
  durationOf (float64 (float64 base * float64 (1 + jitter)))

def peek (schedule : Schedule) (rng : Rng) : Int := schedule.windowedLocked schedule.attempt rng

def exhausted (schedule : Schedule) (now : Int) : Bool :=
  match schedule.firstFailed with
  | some first => schedule.maxElapsed > 0 && now - first ≥ schedule.maxElapsed
  | none => false

def reset (schedule : Schedule) : Schedule := { schedule with attempt := 0, firstFailed := none }

def stamp (schedule : Schedule) (now : Int) : Schedule :=
  if schedule.maxElapsed > 0 ∧ schedule.firstFailed = none then { schedule with firstFailed := some now } else schedule

def fallAsleep (schedule : Schedule) (now : Int) (rng : Rng) : Schedule × Option Int :=
  let stamped := schedule.stamp now
  if stamped.exhausted now then (stamped, none)
  else
    ({ stamped with attempt := if stamped.attempt < stamped.steps.length - 1 then stamped.attempt + 1 else stamped.attempt },
      some (stamped.windowedLocked stamped.attempt rng))

end Schedule

structure BackoffCall where
  now : Int
  rng : Rng
  sleeps : Bool

def Schedule.call (schedule : Schedule) (call : BackoffCall) : Schedule :=
  if call.sleeps then (schedule.fallAsleep call.now call.rng).1 else schedule

def Schedule.calls (schedule : Schedule) (calls : List BackoffCall) : Schedule := calls.foldl Schedule.call schedule

-- When Sleep returns, and with what. `during` are the calls made while it waits, and
-- `done` is the moment at which its context is cancelled.
def Schedule.sleep (schedule : Schedule) (now : Int) (rng : Rng) (done : Option Int) (during : List BackoffCall) :
    Int × SleepResult :=
  match schedule.fallAsleep now rng with
  | (_, none) => (now, .deadlineExceeded)
  | (asleep, some delay) =>
      let wakes := now + max 0 delay
      match done.filter (· < wakes) with
      | some moment => (max now moment, .cancelled)
      | none => (wakes, if (asleep.calls during).exhausted wakes then .deadlineExceeded else .slept)

def firstBegan (before : List BackoffCall) (now : Int) : Int :=
  match before.find? BackoffCall.sleeps with
  | some call => call.now
  | none => now

def CapReached (maxElapsed first now : Int) : Prop := 0 < maxElapsed ∧ first + maxElapsed ≤ now

instance (maxElapsed first now : Int) : Decidable (CapReached maxElapsed first now) :=
  inferInstanceAs (Decidable (0 < maxElapsed ∧ first + maxElapsed ≤ now))

def band (step : Int) : ℚ := |(step : ℚ)| * (1 / 5 + 1 / 2 ^ 50)

-- Every delay in the band of the step is an int64.
def Fits (step : Int) : Prop := |(step : ℚ)| + band step < 2 ^ 63

def InBand (step delay : Int) : Prop := Fits step → ∃ duration : ℚ, |duration - step| ≤ band step ∧ delay = truncate duration

theorem truncate_bounded (value : ℚ) (small : |value| < 2 ^ 63) :
    -2 ^ 63 ≤ truncate value ∧ truncate value < 2 ^ 63 := by
  obtain ⟨low, high⟩ := abs_lt.mp small
  rw [truncate]
  split
  · constructor
    · refine Int.le_floor.mpr ?_
      push_cast
      linarith
    · refine Int.floor_lt.mpr ?_
      push_cast
      linarith
  · constructor
    · refine Int.le_ceil_iff.mpr ?_
      push_cast
      linarith
    · refine lt_of_le_of_lt (Int.ceil_le.mpr (show value ≤ ((0 : Int) : ℚ) by push_cast; linarith)) (by norm_num)

theorem factor_near (rng : Rng) :
    |float64 (1 + float64 (float64 (float64 (rng.val * 2) - 1) * float64 (jitterPercent / 100))) - 1| ≤
      1 / 5 + 5 / 2 ^ 53 := by
  obtain ⟨value, low, high⟩ := rng
  have percent := float64_off (jitterPercent / 100) (1 / 5) (by rw [jitterPercent]; norm_num [abs_le])
  have doubled := float64_off (value * 2) 2 (by rw [abs_le]; constructor <;> linarith)
  rw [jitterPercent] at percent ⊢
  dsimp only
  generalize float64 (20 / 100) = share at percent ⊢
  generalize float64 (value * 2) = twice at doubled ⊢
  rw [abs_le] at percent doubled
  have near : |twice - 1| ≤ 1 + 2 / 2 ^ 53 := by
    rw [abs_le]
    constructor <;> linarith
  have centred := float64_off _ _ near
  generalize float64 (twice - 1) = centre at centred ⊢
  have inside : |centre| ≤ 1 + 4 / 2 ^ 53 := by
    rw [abs_le] at centred near ⊢
    constructor <;> linarith
  have short : |share| ≤ 1 / 5 + 1 / 2 ^ 53 := by
    rw [abs_le]
    constructor <;> linarith
  have product : |centre * share| ≤ (1 + 4 / 2 ^ 53) * (1 / 5 + 1 / 2 ^ 53) := by
    rw [abs_mul]
    exact mul_le_mul inside short (abs_nonneg _) (by norm_num)
  have rounded := float64_off _ _ product
  generalize float64 (centre * share) = jitter at rounded ⊢
  rw [abs_le] at product rounded
  have sum := float64_off (1 + jitter) 2 (by rw [abs_le]; constructor <;> linarith)
  rw [abs_le] at sum ⊢
  constructor <;> linarith

theorem product_near (step : Int) (factor : ℚ) (near : |factor - 1| ≤ 1 / 5 + 5 / 2 ^ 53) :
    |float64 (float64 step * factor) - step| ≤ band step := by
  have converted := float64_near (step : ℚ)
  generalize float64 (step : ℚ) = base at converted ⊢
  have size : 0 ≤ |(step : ℚ)| := abs_nonneg _
  have wide : |base| ≤ |(step : ℚ)| * (1 + 1 / 2 ^ 53) := by
    have split := abs_add_le (base - step) step
    rw [sub_add_cancel] at split
    linarith
  have grown : |factor| ≤ 13 / 10 := by
    rw [abs_le] at near ⊢
    constructor <;> linarith
  have product : |base * factor| ≤ |(step : ℚ)| * (1 + 1 / 2 ^ 53) * (13 / 10) := by
    rw [abs_mul]
    exact mul_le_mul wide grown (abs_nonneg _) (by positivity)
  have rounded := float64_off _ _ product
  have jittered : |base * factor - base| ≤ |(step : ℚ)| * (1 + 1 / 2 ^ 53) * (1 / 5 + 5 / 2 ^ 53) := by
    rw [show base * factor - base = base * (factor - 1) by ring, abs_mul]
    exact mul_le_mul wide near (abs_nonneg _) (by positivity)
  rw [band]
  rw [abs_le] at converted rounded jittered ⊢
  constructor <;> linarith

theorem windowed_band (schedule : Schedule) (attempt : Nat) (rng : Rng) :
    InBand (schedule.steps.getD (min attempt (schedule.steps.length - 1)) 0) (schedule.windowedLocked attempt rng) := by
  have index : (if attempt ≥ schedule.steps.length then schedule.steps.length - 1 else attempt) =
      min attempt (schedule.steps.length - 1) := by
    split <;> omega
  rw [Schedule.windowedLocked, index]
  generalize schedule.steps.getD (min attempt (schedule.steps.length - 1)) 0 = base
  intro fits
  have near := product_near base _ (factor_near rng)
  refine ⟨_, near, ?_⟩
  rw [durationOf, if_pos]
  apply truncate_bounded
  calc _ ≤ |(base : ℚ)| + band base := by
        rw [abs_le] at near ⊢
        have below := neg_abs_le (base : ℚ)
        have above := le_abs_self (base : ℚ)
        constructor <;> linarith
    _ < 2 ^ 63 := fits

section Calls

variable (schedule : Schedule) (now : Int) (rng : Rng)

theorem fallAsleep_kept (stamped : schedule.stamp now = schedule) :
    (schedule.fallAsleep now rng).1.firstFailed = schedule.firstFailed ∧
      (schedule.fallAsleep now rng).1.maxElapsed = schedule.maxElapsed := by
  rw [Schedule.fallAsleep, stamped]
  split <;> exact ⟨rfl, rfl⟩

theorem stamp_rest : (schedule.stamp now).steps = schedule.steps ∧ (schedule.stamp now).attempt = schedule.attempt ∧
    (schedule.stamp now).maxElapsed = schedule.maxElapsed := by
  rw [Schedule.stamp]
  split <;> exact ⟨rfl, rfl, rfl⟩

theorem stamp_done (again : Int) (done : schedule.maxElapsed > 0 → schedule.firstFailed ≠ none) :
    schedule.stamp again = schedule :=
  if_neg fun both => done both.1 both.2

theorem calls_kept (calls : List BackoffCall) (done : schedule.maxElapsed > 0 → schedule.firstFailed ≠ none) :
    (schedule.calls calls).firstFailed = schedule.firstFailed ∧ (schedule.calls calls).maxElapsed = schedule.maxElapsed := by
  induction calls generalizing schedule with
  | nil => exact ⟨rfl, rfl⟩
  | cons call rest ih =>
      have kept : (schedule.call call).firstFailed = schedule.firstFailed ∧
          (schedule.call call).maxElapsed = schedule.maxElapsed := by
        rw [Schedule.call]
        split
        · exact fallAsleep_kept schedule call.now call.rng (stamp_done schedule call.now done)
        · exact ⟨rfl, rfl⟩
      have later := ih (schedule.call call) (by rw [kept.1, kept.2]; exact done)
      exact ⟨later.1.trans kept.1, later.2.trans kept.2⟩

theorem exhausted_kept (calls : List BackoffCall) (done : schedule.maxElapsed > 0 → schedule.firstFailed ≠ none) :
    (schedule.calls calls).exhausted now = schedule.exhausted now := by
  obtain ⟨first, capped⟩ := calls_kept schedule calls done
  rw [Schedule.exhausted, Schedule.exhausted, first, capped]

end Calls

structure Stands (steps : List Int) (maxElapsed : Int) (before : List BackoffCall) (schedule : Schedule) : Prop where
  ramp : schedule.steps = steps
  capped : schedule.maxElapsed = maxElapsed
  first : schedule.firstFailed = if 0 < maxElapsed then (before.find? BackoffCall.sleeps).map BackoffCall.now else none
  counted : ∀ now, (before.map BackoffCall.now ++ [now]).Pairwise (· ≤ ·) →
    ¬ CapReached maxElapsed (firstBegan before now) now →
      schedule.attempt = min (before.countP BackoffCall.sleeps) (steps.length - 1)

section Standing

variable (steps : List Int) (maxElapsed : Int) (before : List BackoffCall) (schedule : Schedule)
  (stands : Stands steps maxElapsed before schedule) (now : Int) (rng : Rng)
include stands

theorem stamp_first : (schedule.stamp now).firstFailed =
    if 0 < maxElapsed then some (firstBegan before now) else none := by
  have first := stands.first
  rw [Schedule.stamp, stands.capped, firstBegan]
  by_cases positive : 0 < maxElapsed
  · rw [if_pos positive] at first ⊢
    cases found : before.find? BackoffCall.sleeps with
    | none =>
        rw [found] at first
        rw [if_pos ⟨positive, first⟩]
    | some call =>
        rw [found] at first
        rw [if_neg fun both => absurd (first.symm.trans both.2) (by simp), first]
        rfl
  · rw [if_neg positive] at first ⊢
    rw [if_neg fun both => positive both.1, first]

theorem stamp_exhausted (moment : Int) : (schedule.stamp now).exhausted moment = true ↔
    CapReached maxElapsed (firstBegan before now) moment := by
  rw [Schedule.exhausted, stamp_first steps maxElapsed before schedule stands now, (stamp_rest schedule now).2.2,
    stands.capped, CapReached]
  by_cases positive : 0 < maxElapsed
  · rw [if_pos positive]
    dsimp only
    rw [Bool.and_eq_true, decide_eq_true_eq, decide_eq_true_eq]
    omega
  · rw [if_neg positive]
    simp [positive]

theorem fallAsleep_stands (fresh : ¬ CapReached maxElapsed (firstBegan before now) now) :
    (schedule.fallAsleep now rng).1.attempt = (if schedule.attempt < steps.length - 1 then schedule.attempt + 1
      else schedule.attempt) ∧
    (schedule.fallAsleep now rng).2 = some (schedule.windowedLocked schedule.attempt rng) := by
  have asleep : (schedule.stamp now).exhausted now ≠ true := fun reached =>
    fresh ((stamp_exhausted steps maxElapsed before schedule stands now now).mp reached)
  obtain ⟨ramp, attempt, _⟩ := stamp_rest schedule now
  rw [Schedule.fallAsleep, if_neg asleep, Schedule.windowedLocked, Schedule.windowedLocked, ramp, attempt, stands.ramp]
  exact ⟨rfl, rfl⟩

theorem fallAsleep_first : (schedule.fallAsleep now rng).1.firstFailed = (schedule.stamp now).firstFailed ∧
    (schedule.fallAsleep now rng).1.maxElapsed = maxElapsed ∧ (schedule.fallAsleep now rng).1.steps = steps := by
  obtain ⟨ramp, _, capped⟩ := stamp_rest schedule now
  rw [Schedule.fallAsleep]
  split
  · exact ⟨rfl, capped.trans stands.capped, ramp.trans stands.ramp⟩
  · exact ⟨rfl, capped.trans stands.capped, ramp.trans stands.ramp⟩

theorem call_stands (call : BackoffCall) : Stands steps maxElapsed (before ++ [call]) (schedule.call call) := by
  cases sleeps : call.sleeps with
  | false =>
      have same : schedule.call call = schedule := by
        rw [Schedule.call, sleeps]
        rfl
      have unseen : (before ++ [call]).find? BackoffCall.sleeps = before.find? BackoffCall.sleeps := by
        rw [List.find?_append, List.find?_cons_of_neg (by simp [sleeps]), List.find?_nil, Option.or_none]
      rw [same]
      refine ⟨stands.ramp, stands.capped, by rw [unseen]; exact stands.first, fun now ordered fresh => ?_⟩
      rw [firstBegan, unseen] at fresh
      rw [List.countP_append, List.countP_cons_of_neg (by simp [sleeps]), List.countP_nil, Nat.add_zero]
      refine stands.counted now (ordered.sublist ?_) fresh
      rw [List.map_append, List.append_assoc]
      exact (List.Sublist.refl _).append (List.sublist_append_right _ _)
  | true =>
      have taken : schedule.call call = (schedule.fallAsleep call.now call.rng).1 := by
        rw [Schedule.call, sleeps]
        rfl
      obtain ⟨first, capped, ramp⟩ := fallAsleep_first steps maxElapsed before schedule stands call.now call.rng
      have seen : ((before ++ [call]).find? BackoffCall.sleeps).map BackoffCall.now = some (firstBegan before call.now) := by
        rw [firstBegan, List.find?_append, List.find?_cons_of_pos (by simp [sleeps])]
        cases before.find? BackoffCall.sleeps <;> rfl
      have began (now : Int) : firstBegan (before ++ [call]) now = firstBegan before call.now := by
        obtain ⟨_, found, same⟩ := Option.map_eq_some_iff.mp seen
        rw [firstBegan, found]
        exact same
      rw [taken]
      refine ⟨ramp, capped, ?_, fun now ordered fresh => ?_⟩
      · rw [first, stamp_first steps maxElapsed before schedule stands call.now]
        rw [seen]
      · rw [began] at fresh
        rw [List.map_append, List.append_assoc] at ordered
        have earlier : call.now ≤ now := by
          have both := (List.pairwise_append.mp ordered).2.1
          simpa using both
        have before_ : (before.map BackoffCall.now ++ [call.now]).Pairwise (· ≤ ·) :=
          ordered.sublist ((List.Sublist.refl _).append (List.sublist_append_left _ _))
        have still : ¬ CapReached maxElapsed (firstBegan before call.now) call.now := fun reached =>
          fresh ⟨reached.1, le_trans reached.2 earlier⟩
        rw [(fallAsleep_stands steps maxElapsed before schedule stands call.now call.rng still).1,
          stands.counted call.now before_ still, List.countP_append, List.countP_cons_of_pos sleeps, List.countP_nil]
        split <;> omega

end Standing

theorem calls_stand (schedule : Schedule) (calls : List BackoffCall) :
    Stands schedule.steps schedule.maxElapsed calls (schedule.reset.calls calls) := by
  induction calls using List.reverseRecOn with
  | nil => exact ⟨rfl, rfl, (ite_self none).symm, fun now _ _ => (Nat.zero_min _).symm⟩
  | append_singleton before call ih =>
      rw [Schedule.calls, List.foldl_append]
      exact call_stands _ _ before _ ih call

-- A Sleep that begins once the cap is reached does not wait. Any other lasts its own delay,
-- and fails exactly when the cap is reached by its end.
theorem sleep_bounded (schedule : Schedule) (before during : List BackoffCall) (now : Int) (rng : Rng)
    (ordered : (before.map BackoffCall.now ++ [now]).Pairwise (· ≤ ·)) :
    (CapReached schedule.maxElapsed (firstBegan before now) now → ∀ done,
      (schedule.reset.calls before).sleep now rng done during = (now, .deadlineExceeded)) ∧
    (¬ CapReached schedule.maxElapsed (firstBegan before now) now → ∃ delay,
      InBand (schedule.steps.getD (min (before.countP BackoffCall.sleeps) (schedule.steps.length - 1)) 0) delay ∧
      (schedule.reset.calls before).sleep now rng none during = (now + max 0 delay,
        if CapReached schedule.maxElapsed (firstBegan before now) (now + max 0 delay) then .deadlineExceeded
        else .slept)) := by
  have stands := calls_stand schedule before
  have first := fallAsleep_first _ _ before _ stands now rng
  have reached := stamp_exhausted _ _ before _ stands now
  constructor
  · intro past done
    have none_ : ((schedule.reset.calls before).fallAsleep now rng).2 = none := by
      rw [Schedule.fallAsleep, if_pos ((reached now).mpr past)]
    rw [Schedule.sleep]
    cases asleep : (schedule.reset.calls before).fallAsleep now rng with
    | mk woken delay =>
        rw [asleep] at none_
        rw [show delay = none from none_]
  · intro fresh
    have some_ := (fallAsleep_stands _ _ before _ stands now rng fresh).2
    have band := windowed_band (schedule.reset.calls before) (schedule.reset.calls before).attempt rng
    rw [stands.ramp, stands.counted now ordered fresh, Nat.min_assoc, Nat.min_self] at band
    refine ⟨_, band, ?_⟩
    rw [← stands.counted now ordered fresh]
    rw [Schedule.sleep]
    cases asleep : (schedule.reset.calls before).fallAsleep now rng with
    | mk woken delay =>
        rw [asleep] at some_ first
        have done : woken.maxElapsed > 0 → woken.firstFailed ≠ none := by
          intro capped
          rw [show woken.firstFailed = _ from first.1, stamp_first _ _ before _ stands now,
            if_pos (show 0 < schedule.maxElapsed from first.2.1 ▸ capped)]
          exact Option.some_ne_none _
        have same (moment : Int) : woken.exhausted moment = ((schedule.reset.calls before).stamp now).exhausted moment := by
          rw [Schedule.exhausted, Schedule.exhausted, show woken.firstFailed = _ from first.1,
            show woken.maxElapsed = _ from first.2.1, (stamp_rest _ now).2.2, stands.capped]
        rw [show delay = some _ from some_]
        dsimp only [Option.filter_none]
        rw [exhausted_kept woken _ during done, same]
        refine congrArg (Prod.mk _) (if_congr (reached _) rfl rfl)

def middle : Rng := ⟨1 / 2, by norm_num, by norm_num⟩

theorem sleep_bounded_default : (((newWithStepsAndDeadline [] (60 * minute)).reset.calls
    [{ now := 0, rng := middle, sleeps := true }]).sleep (60 * minute) middle none []) = (60 * minute, .deadlineExceeded) :=
  (sleep_bounded (newWithStepsAndDeadline [] (60 * minute)) [{ now := 0, rng := middle, sleeps := true }] []
    (60 * minute) middle (by decide)).1 (by decide) none

-- A cap of one minute on a step of an hour: Sleep waits for the hour.
theorem sleep_overruns : (newWithStepsAndDeadline [60 * minute] (1 * minute)).reset.sleep 0 middle none [] =
    (60 * minute, .deadlineExceeded) ∧ 0 + 1 * minute < 60 * minute := by
  decide +kernel

end Yaaos.Agent
