import Yaaos.Intake.Schedules
import Yaaos.Tasks.CronGrammar

set_option autoImplicit false

namespace Yaaos.Intake

open Yaaos.Base
open Yaaos.Pipelines
open Yaaos.Tasks

inductive BindingError where
  | invalidSchedule (why : String)
  | unknownMembers (userIds : List Uuid)
  | invalidCron

def validateSchedule (pointKind : String) (schedule : Option Schedule) (memberIds : List Uuid) : Except BindingError Unit :=
  if pointKind = "schedule" then
    match schedule with
    | none => .error (.invalidSchedule "schedule is required for a schedule-kind intake point")
    | some schedule =>
      if schedule.notifyUserIds = [] then .error (.invalidSchedule "schedule requires at least one notify_user_id")
      else
        let unknown := schedule.notifyUserIds.filter fun userId => userId ∉ memberIds
        if unknown ≠ [] then .error (.unknownMembers unknown)
        else match CronExpr.parse (pyText schedule.cron) with
          | none => .error .invalidCron
          | some _ => .ok ()
  else if schedule.isSome then .error (.invalidSchedule "schedule is only valid for a schedule-kind intake point")
  else .ok ()

theorem validated_due (pointKind : String) (schedule : Schedule) (memberIds : List Uuid)
    (accepted : validateSchedule pointKind (some schedule) memberIds = .ok ()) :
    ∃ cron, CronExpr.parse (pyText schedule.cron) = some cron ∧ ∀ slot, schedule.due slot = cron.hits slot := by
  unfold validateSchedule at accepted
  by_cases kind : pointKind = "schedule"
  · rw [if_pos kind] at accepted
    dsimp only at accepted
    by_cases silent : schedule.notifyUserIds = []
    · rw [if_pos silent] at accepted
      cases accepted
    · rw [if_neg silent] at accepted
      split at accepted
      · cases accepted
      · cases parsed : CronExpr.parse (pyText schedule.cron) with
        | none =>
            rw [parsed] at accepted
            cases accepted
        | some cron =>
            refine ⟨cron, rfl, fun slot => ?_⟩
            rw [Schedule.due, parsed]
            rfl
  · rw [if_neg kind] at accepted
    cases accepted

structure ReadAsDocumented (expr : PyText) : Prop where
  accepts : (∃ cron, CronExpr.parse expr = some cron) ↔ ∃ sets, ExprSpells decimalNumerals expr sets
  denotes : ∀ cron sets, CronExpr.parse expr = some cron → ExprSpells decimalNumerals expr sets → cron.sets = sets
  ranged : ∀ cron, CronExpr.parse expr = some cron → cron.sets.InRange
  fires : ∀ cron, CronExpr.parse expr = some cron → ∀ slot, cron.hits slot = true ↔
    (slot.minute : Int) ∈ cron.sets.minute ∧ (slot.hour : Int) ∈ cron.sets.hour ∧ (slot.day : Int) ∈ cron.sets.dom ∧
      (slot.month : Int) ∈ cron.sets.month ∧ (((slot.weekday + 1) % 7 : Nat) : Int) ∈ cron.sets.dow
  ticks : ∀ pointKind schedule memberIds, pyText schedule.cron = expr →
    validateSchedule pointKind (some schedule) memberIds = .ok () →
    ∃ cron, CronExpr.parse expr = some cron ∧ ∀ slot, schedule.due slot = cron.hits slot

-- A text that can be read at all is read as documented exactly where its numbers are in
-- plain digits if and only if none of them is too long.
theorem parse_documented_iff (expr : PyText) :
    ReadAsDocumented expr ↔
      ((∃ sets, ExprSpells signedNumerals expr sets) →
        ((∀ text ∈ numberTexts expr, isPlain text = true) ↔ ∀ text ∈ numberTexts expr, isShort text = true)) := by
  have accepted : (∃ cron, CronExpr.parse expr = some cron) ↔
      (∀ text ∈ numberTexts expr, isShort text = true) ∧ ∃ sets, ExprSpells signedNumerals expr sets := by
    simp only [parse_iff, expr_iff]
    constructor
    · rintro ⟨cron, short, read⟩
      exact ⟨short, cron.sets, cron, read, rfl⟩
    · rintro ⟨short, _, cron, read, _⟩
      exact ⟨cron, short, read⟩
  have documented : (∃ sets, ExprSpells decimalNumerals expr sets) ↔
      (∀ text ∈ numberTexts expr, isPlain text = true) ∧ ∃ sets, ExprSpells signedNumerals expr sets := by
    simp only [documented_iff, exists_and_left]
  constructor
  · intro asWritten readable
    have same := asWritten.accepts
    rw [accepted, documented] at same
    rw [and_iff_left readable, and_iff_left readable] at same
    exact same.symm
  · intro together
    refine ⟨?_, ?_, parse_inRange expr, fun cron _ => hits_iff cron, ?_⟩
    · rw [accepted, documented]
      constructor
      · rintro ⟨short, readable⟩
        exact ⟨(together readable).mpr short, readable⟩
      · rintro ⟨plain, readable⟩
        exact ⟨(together readable).mp plain, readable⟩
    · intro cron sets parsed spelled
      obtain ⟨_, read⟩ := (parse_iff expr cron).mp parsed
      obtain ⟨_, spelled⟩ := (documented_iff expr sets).mp spelled
      obtain ⟨other, again, same⟩ := (expr_iff signedNumerals expr sets).mp spelled
      rw [read] at again
      cases again
      exact same.symm
    · rintro pointKind schedule memberIds rfl accepted
      exact validated_due pointKind schedule memberIds accepted

theorem signed_minute_accepted :
    (CronExpr.parse (pyText "+5 * * * *")).isSome = true ∧
      ¬ ∃ sets, ExprSpells decimalNumerals (pyText "+5 * * * *") sets := by
  refine ⟨by decide +kernel, ?_⟩
  rintro ⟨sets, spelled⟩
  have plain := ((documented_iff _ sets).mp spelled).1 (pyText "+5") (by decide +kernel)
  exact absurd plain (by decide)

end Yaaos.Intake
