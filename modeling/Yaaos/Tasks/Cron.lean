import Mathlib.Data.List.Nodup
import Yaaos.Base.Calendar
import Yaaos.Base.PyValue

set_option autoImplicit false

namespace Yaaos.Tasks

open Yaaos.Base

def splitOn (mark : Nat) (letters : PyText) : List PyText :=
  letters.foldr
    (fun letter parts => if letter = mark then [] :: parts else match parts with
      | [] => [[letter]]
      | part :: rest => (letter :: part) :: rest)
    [[]]

def splitOnce (mark : Nat) (letters : PyText) : Option (PyText × PyText) :=
  match letters.dropWhile fun letter => letter ≠ mark with
  | [] => none
  | _ :: rest => some (letters.takeWhile fun letter => letter ≠ mark, rest)

def fieldsOf (letters : PyText) : List PyText :=
  (splitOn 32 (letters.map fun letter => if isSpace letter then 32 else letter)).filter fun part => !part.isEmpty

-- The digits for zero of the scripts that have decimal digits, each followed by the
-- nine others.
def decimalZeros : List Nat :=
  [48, 1632, 1776, 1984, 2406, 2534, 2662, 2790, 2918, 3046, 3174, 3302, 3430, 3558, 3664, 3792, 3872, 4160, 4240,
    6112, 6160, 6470, 6608, 6784, 6800, 6992, 7088, 7232, 7248, 42528, 43216, 43264, 43472, 43504, 43600, 44016,
    65296, 66720, 68912, 68928, 69734, 69872, 69942, 70096, 70384, 70736, 70864, 71248, 71360, 71376, 71386, 71472,
    71904, 72016, 72688, 72784, 73040, 73120, 73552, 90416, 92768, 92864, 93008, 93552, 118000, 120782, 120792,
    120802, 120812, 120822, 123200, 123632, 124144, 124401, 125264, 130032]

def decimalValue (letter : Nat) : Option Nat :=
  (decimalZeros.find? fun first => first ≤ letter ∧ letter ≤ first + 9).map fun first => letter - first

def digitsValue : Nat → Bool → PyText → Option Nat
  | value, digitBefore, [] => if digitBefore then some value else none
  | value, digitBefore, letter :: rest => match decimalValue letter with
      | some digit => digitsValue (value * 10 + digit) true rest
      | none => if letter = 95 ∧ digitBefore then digitsValue value false rest else none

-- What is left out around a number: of the letters below 128 only some of the spaces.
def isIntSpace (letter : Nat) : Bool :=
  (9 ≤ letter && letter ≤ 13) || letter == 32 || (128 ≤ letter && isSpace letter)

def stripInt (letters : PyText) : PyText :=
  ((letters.dropWhile isIntSpace).reverse.dropWhile isIntSpace).reverse

-- A number in digits of any script, with a sign and single underscores between digits.
def signedValue (letters : PyText) : Option Int :=
  match stripInt letters with
  | 45 :: rest => (digitsValue 0 false rest).map fun (value : Nat) => -(value : Int)
  | 43 :: rest => (digitsValue 0 false rest).map fun (value : Nat) => (value : Int)
  | rest => (digitsValue 0 false rest).map fun (value : Nat) => (value : Int)

def digitCount (letters : PyText) : Nat := letters.countP fun letter => (decimalValue letter).isSome

-- `int(letters)`, none for a ValueError. A number of more than 4300 digits is refused.
def toInt (letters : PyText) : Option Int := if digitCount letters ≤ 4300 then signedValue letters else none

def rangeOf (start stop step : Int) : List Int :=
  (List.range (stop - start + 1).toNat).filterMap fun offset =>
    if (offset : Int) % step = 0 then some (start + offset) else none

def parsePart (part : PyText) (lo hi : Int) : Option (List Int) := do
  let (base, step) ← match splitOnce 47 part with
    | none => some (part, (1 : Int))
    | some (base, stepText) => do
        let step ← toInt stepText
        if step ≤ 0 then none else some (base, step)
  if base = pyText "*" then some (rangeOf lo hi step)
  else match splitOnce 45 base with
    | some (startText, stopText) => do
        let start ← toInt startText
        let stop ← toInt stopText
        if start < lo ∨ stop > hi ∨ start > stop then none else some (rangeOf start stop step)
    | none => do
        let value ← toInt base
        if value < lo ∨ value > hi then none else some [value]

def parseField (field : PyText) (lo hi : Int) : Option (List Int) :=
  ((splitOn 44 field).mapM fun part => parsePart part lo hi).map List.flatten

structure CronExpr where
  minute : List Int
  hour : List Int
  dom : List Int
  month : List Int
  dow : List Int

def CronExpr.parse (expr : PyText) : Option CronExpr :=
  match fieldsOf expr with
  | [minute, hour, dom, month, dow] => do
      let minute ← parseField minute 0 59
      let hour ← parseField hour 0 23
      let dom ← parseField dom 1 31
      let month ← parseField month 1 12
      let dow ← parseField dow 0 6
      some { minute := minute, hour := hour, dom := dom, month := month, dow := dow }
  | _ => none

-- A week begins on Sunday here.
def CronExpr.hits (cron : CronExpr) (slot : Minute) : Bool :=
  cron.minute.contains (slot.minute : Int) && cron.hour.contains (slot.hour : Int) &&
    cron.dom.contains (slot.day : Int) && cron.month.contains (slot.month : Int) &&
    cron.dow.contains (((slot.weekday + 1) % 7 : Nat) : Int)

structure ScheduleEntry where
  scheduleId : String
  cron : CronExpr

-- The rows of `scheduled_runs`, and for each enqueued task the slot it was enqueued for.
structure Ticks where
  claims : List (String × Minute)
  enqueued : List (String × Minute)

instance claim_lawful : LawfulBEq (String × Minute) := inferInstance

def Ticks.claim (ticks : Ticks) (scheduleId : String) (slot : Minute) : Ticks :=
  if (scheduleId, slot) ∈ ticks.claims then ticks
  else { claims := ticks.claims ++ [(scheduleId, slot)], enqueued := ticks.enqueued ++ [(scheduleId, slot)] }

def Ticks.tickOnce (ticks : Ticks) (schedules : List ScheduleEntry) (now : DateTime) : Ticks :=
  schedules.foldl
    (fun ticks schedule => if schedule.cron.hits now.slot then ticks.claim schedule.scheduleId now.slot else ticks)
    ticks

structure Ticks.Claimed (ticks : Ticks) : Prop where
  once : ticks.enqueued.Nodup
  claimed : ∀ entry ∈ ticks.enqueued, entry ∈ ticks.claims

theorem claim_claimed (ticks : Ticks) (scheduleId : String) (slot : Minute) (claimed : ticks.Claimed) :
    (ticks.claim scheduleId slot).Claimed := by
  unfold Ticks.claim
  by_cases taken : (scheduleId, slot) ∈ ticks.claims
  · rw [if_pos taken]
    exact claimed
  · rw [if_neg taken]
    refine ⟨List.nodup_append.mpr ⟨claimed.once, List.nodup_singleton _, ?_⟩, ?_⟩
    · intro entry member added new same
      rw [List.mem_singleton.mp new] at same
      exact taken (same ▸ claimed.claimed entry member)
    · intro entry member
      rcases List.mem_append.mp member with earlier | new
      · exact List.mem_append_left _ (claimed.claimed entry earlier)
      · exact List.mem_append_right _ new

theorem tickOnce_claimed (ticks : Ticks) (schedules : List ScheduleEntry) (now : DateTime) (claimed : ticks.Claimed) :
    (ticks.tickOnce schedules now).Claimed := by
  unfold Ticks.tickOnce
  induction schedules generalizing ticks with
  | nil => exact claimed
  | cons schedule rest ih =>
      rw [List.foldl_cons]
      by_cases hit : schedule.cron.hits now.slot = true
      · rw [if_pos hit]
        exact ih _ (claim_claimed ticks schedule.scheduleId now.slot claimed)
      · rw [if_neg hit]
        exact ih ticks claimed

theorem tickOnce_keeps (ticks : Ticks) (schedules : List ScheduleEntry) (now : DateTime) (entry : String × Minute)
    (member : entry ∈ ticks.enqueued) : entry ∈ (ticks.tickOnce schedules now).enqueued := by
  unfold Ticks.tickOnce
  induction schedules generalizing ticks with
  | nil => exact member
  | cons schedule rest ih =>
      rw [List.foldl_cons]
      refine ih _ ?_
      split
      · unfold Ticks.claim
        split
        · exact member
        · exact List.mem_append_left _ member
      · exact member

example : (CronExpr.parse (pyText "0 9 * * 1-5")).map CronExpr.dow = some [1, 2, 3, 4, 5] := by decide

end Yaaos.Tasks
