import Yaaos.Intake.SlotFiring

set_option autoImplicit false

namespace Yaaos.Intake

open Yaaos.Base
open Yaaos.Pipelines
open Yaaos.Tasks

-- A body begins within the minute that its message was enqueued for.
def OnTime (_ : Clockwork) : ClockLabel → Prop
  | .begin _ claimed now => now.slot = claimed
  | _ => True

structure Punctual (clock : Clockwork) : Prop where
  attempts : ∀ attempt ∈ clock.attempts, attempt.fire.fireTime = attempt.claimed
  bodies : ∀ worker claimed read left, clock.workers worker = .firing claimed read left →
    ∀ fire ∈ read, fire.fireTime = claimed

section Punctuality

variable (clock : Clockwork)

theorem turned_punctual (worker : Nat) (body : TickBody) (punctual : Punctual clock)
    (fits : ∀ claimed read left, body = .firing claimed read left → ∀ fire ∈ read, fire.fireTime = claimed) :
    Punctual { clock with workers := Function.update clock.workers worker body } := by
  refine ⟨punctual.attempts, ?_⟩
  intro other claimed read left at_
  rcases workers_updated clock worker other body claimed read left at_ with ⟨_, own⟩ | before
  · exact fits claimed read left own
  · exact punctual.bodies other claimed read left before

theorem fireNext_punctual (worker : Nat) (env : FireEnv) (claimed : Minute) (read : List DueFire) (fire : DueFire)
    (left : List DueFire) (firing : clock.workers worker = .firing claimed read (fire :: left)) (wound : Wound clock)
    (punctual : Punctual clock) : Punctual (clock.fireNext worker env claimed read fire left) := by
  have times := punctual.bodies worker claimed read (fire :: left) firing
  have own : fire.fireTime = claimed :=
    times fire ((wound.underway worker claimed read (fire :: left) firing).among fire (List.mem_cons_self ..))
  have tried (attempts : List Attempt) (succeeded : Bool)
      (same : attempts = clock.attempts ++ [{ claimed := claimed, fire := fire, succeeded := succeeded }]) :
      ∀ attempt ∈ attempts, attempt.fire.fireTime = attempt.claimed := by
    intro attempt member
    rw [same] at member
    rcases List.mem_append.mp member with earlier | new
    · exact punctual.attempts attempt earlier
    · rw [List.mem_singleton.mp new]
      exact own
  have bodies (other : Nat) (minute : Minute) (seen rest : List DueFire)
      (at_ : Function.update clock.workers worker (.firing claimed read left) other = .firing minute seen rest) :
      ∀ fire ∈ seen, fire.fireTime = minute := by
    rcases workers_updated clock worker other _ minute seen rest at_ with ⟨_, same⟩ | before
    · cases same
      exact times
    · exact punctual.bodies other minute seen rest before
  unfold Clockwork.fireNext
  cases fireOne env clock.store fire with
  | error error => exact ⟨tried _ false rfl, bodies⟩
  | ok store => exact ⟨tried _ true rfl, bodies⟩

theorem clockStep_punctual (next : Clockwork) (label : ClockLabel) (onTime : OnTime clock label)
    (taken : clockStep clock label = .ok next) (wound : Wound clock) (punctual : Punctual clock) : Punctual next := by
  cases clockStep_moves clock next label taken with
  | tick schedules now => exact ⟨punctual.attempts, punctual.bodies⟩
  | begin worker claimed now enqueued =>
      refine turned_punctual clock worker _ punctual fun minute read left same => ?_
      cases same
      intro fire member
      obtain ⟨binding, _, due⟩ := List.mem_filterMap.mp member
      obtain ⟨_, _, time, _⟩ := dueFire_some now.slot binding fire due
      exact time.trans onTime
  | fire worker env claimed read fire left firing =>
      exact fireNext_punctual clock worker env claimed read fire left firing wound punctual
  | leave worker => exact turned_punctual clock worker .idle punctual fun _ _ _ same => by cases same
  | bind bindings => exact ⟨punctual.attempts, punctual.bodies⟩
  | engine label db stepped => exact ⟨punctual.attempts, punctual.bodies⟩

theorem unwound_punctual (unwound : Unwound clock) : Punctual clock := by
  refine ⟨?_, ?_⟩
  · intro attempt member
    rw [unwound.untried] at member
    cases member
  · intro worker claimed read left at_
    rw [unwound.resting worker] at at_
    cases at_

theorem onTime_reachable (reachable : Reachable (clockMachine.restrict OnTime) clock) : Wound clock ∧ Punctual clock :=
  reachable_invariant (clockMachine.restrict OnTime) (fun clock => Wound clock ∧ Punctual clock)
    ⟨fun state unwound => ⟨unwound_wound state unwound, unwound_punctual state unwound⟩,
      fun state label next held allowed taken => ⟨clockStep_wound state next label allowed.1 taken held.1,
        clockStep_punctual state next label allowed.2 taken held.1 held.2⟩⟩ clock reachable

end Punctuality

def HasRun (store : FiringStore) (source : TicketSource) : Prop :=
  (∃ ticket, store.db.tickets.find? source.ticketId = some ticket ∧ ticket.orgId = source.orgId) ∧
    ∃ run ∈ store.db.runs.rows, run.ticketId = source.ticketId

def TriesOne (clock next : Clockwork) : Prop :=
  ∃ claimed fire succeeded, next.attempts = clock.attempts ++ [{ claimed := claimed, fire := fire, succeeded := succeeded }] ∧
    if succeeded then FiresOnce clock.store fire next.store else next.store = clock.store

structure FiredOnce (clock : Clockwork) : Prop where
  succeeded : ∀ attempt ∈ clock.attempts, attempt.succeeded = true →
    ∃ source ∈ clock.store.sources.rows, source.key = attempt.fire.key attempt.claimed ∧ HasRun clock.store source
  only : ∀ source ∈ clock.store.sources.rows, ∃ attempt ∈ clock.attempts, attempt.succeeded = true ∧
    source.key = attempt.fire.key attempt.claimed
  matched : ∀ attempt ∈ clock.attempts, (tickTask, attempt.claimed) ∈ clock.ticks.enqueued ∧
    dueFire attempt.claimed attempt.fire.binding = some attempt.fire
  distinct : ∀ source ∈ clock.store.sources.rows, ∀ other ∈ clock.store.sources.rows, ∀ left right : Attempt,
    source.key = left.fire.key left.claimed → other.key = right.fire.key right.claimed →
      source.ticketId = other.ticketId → left.fire.binding.id = right.fire.binding.id ∧ left.claimed = right.claimed
  tried : ∀ worker claimed read left, clock.workers worker = .firing claimed read left → ∀ fire ∈ read,
    fire ∈ left ∨ ∃ succeeded, ⟨claimed, fire, succeeded⟩ ∈ clock.attempts

theorem fireNext_tries (clock : Clockwork) (worker : Nat) (env : FireEnv) (claimed : Minute) (read : List DueFire)
    (fire : DueFire) (left : List DueFire) (wound : Wound clock) :
    TriesOne clock (clock.fireNext worker env claimed read fire left) := by
  unfold Clockwork.fireNext
  cases fired : fireOne env clock.store fire with
  | error error => exact ⟨claimed, fire, false, rfl, rfl⟩
  | ok store => exact ⟨claimed, fire, true, rfl, (fireOne_fired clock.store env fire wound.booked store fired).once⟩

theorem punctual_firedOnce (clock : Clockwork) (wound : Wound clock) (punctual : Punctual clock) : FiredOnce clock := by
  refine ⟨?_, ?_, ?_, ?_, ?_⟩
  · intro attempt member succeeded
    obtain ⟨source, stored, key⟩ := wound.recorded attempt member succeeded
    rw [punctual.attempts attempt member] at key
    exact ⟨source, stored, key, wound.booked.ticketed source stored, wound.booked.driven source stored⟩
  · intro source stored
    obtain ⟨attempt, member, succeeded, key⟩ := wound.sourced source stored
    rw [punctual.attempts attempt member] at key
    exact ⟨attempt, member, succeeded, key⟩
  · intro attempt member
    obtain ⟨enqueued, genuine⟩ := wound.attempted attempt member
    rw [DueFire.Genuine, punctual.attempts attempt member] at genuine
    exact ⟨enqueued, genuine⟩
  · intro source stored other otherStored left right leftKey rightKey same
    have equal := wound.booked.apart source stored other otherStored same
    rw [equal, rightKey] at leftKey
    simp only [DueFire.key, Prod.mk.injEq] at leftKey
    obtain ⟨binding, slot⟩ := minuteKey_injective _ _ _ _ leftKey.2.2
    exact ⟨binding.symm, slot.symm⟩
  · intro worker claimed read left at_
    exact (wound.underway worker claimed read left at_).tried

-- A slot is enqueued once and a scheduled ticket has its run, in every run; with
-- bodies that are on time, each slot fires what is due in it.
theorem slots_fire_once (clock : Clockwork) :
    (Reachable clockMachine clock → clock.ticks.enqueued.Nodup ∧
      (∀ source ∈ clock.store.sources.rows, HasRun clock.store source) ∧
        ∀ worker env next, clockStep clock (.fire worker env) = .ok next → TriesOne clock next) ∧
    (Reachable (clockMachine.restrict OnTime) clock → FiredOnce clock ∧
      ∀ worker claimed now next, OnTime clock (.begin worker claimed now) →
        clockStep clock (.begin worker claimed now) = .ok next →
          next.workers worker = .firing claimed (clock.bindings.filterMap (dueFire claimed))
            (clock.bindings.filterMap (dueFire claimed))) := by
  refine ⟨fun reachable => ?_, fun reachable => ?_⟩
  · have wound := reachable_wound clock reachable
    refine ⟨wound.claimed.once, fun source stored =>
      ⟨wound.booked.ticketed source stored, wound.booked.driven source stored⟩, fun worker env next taken => ?_⟩
    cases clockStep_moves clock next _ taken with
    | fire worker env claimed read fire left firing => exact fireNext_tries clock worker env claimed read fire left wound
  · obtain ⟨wound, punctual⟩ := onTime_reachable clock reachable
    refine ⟨punctual_firedOnce clock wound punctual, ?_⟩
    intro worker claimed now next onTime taken
    have slot : now.slot = claimed := onTime
    cases clockStep_moves clock next _ taken
    dsimp only
    rw [Function.update_self, listDueScheduleBindings, slot]

def dailyBinding : TriggerBinding :=
  { id := ⟨21, by decide⟩, orgId := 1, repoExternalId := "me/repo", pipelineId := 3, createdBy := none
    schedule := some { name := "daily", cron := "0 9 * * *", kickoffInput := none, notifyUserIds := [] } }

def nine (minute : Fin 60) : Minute := { year := 2024, month := 6, day := 3, hour := 9, minute := minute }

def minutely : ScheduleEntry :=
  { scheduleId := tickTask
    cron :=
      { minute := rangeOf 0 59 1, hour := rangeOf 0 23 1, dom := rangeOf 1 31 1, month := rangeOf 1 12 1
        dow := rangeOf 0 6 1 } }

def dailyClock : Clockwork :=
  { ticks := { claims := [], enqueued := [] }, bindings := [dailyBinding], store := { db := .empty 10, sources := .empty }
    workers := fun _ => .idle, attempts := [] }

def dailyEnv : FireEnv :=
  { engine := sampleEnv sampleActions, resolvePluginId := fun _ _ => some "github", mintBranchName := fun title _ => title }

theorem dailyClock_unwound : Unwound dailyClock :=
  ⟨rfl, rfl, ⟨.empty 10, [], ⟨rfl, rfl, rfl, rfl, rfl, rfl⟩, .nil _⟩, rfl, fun _ => rfl, rfl⟩

def promptRun : List ClockLabel :=
  [.tick [minutely] ⟨nine 0, 0, 0⟩, .begin 0 (nine 0) ⟨nine 0, 30, 0⟩, .fire 0 dailyEnv, .leave 0]

def lateRun : List ClockLabel :=
  [.tick [minutely] ⟨nine 0, 0, 0⟩, .begin 0 (nine 0) ⟨nine 1, 0, 0⟩, .leave 0]

theorem prompt_fired :
    FiredOnce (clockMachine.after dailyClock promptRun) ∧
      (clockMachine.after dailyClock promptRun).attempts.map Attempt.succeeded = [true] := by
  refine ⟨((slots_fire_once _).2 ⟨dailyClock, promptRun, dailyClock_unwound, commits_restrict _ _ _ _ ?_ ?_⟩).1,
    by decide +kernel⟩
  · exact ⟨trivial, by decide +kernel, trivial, by decide +kernel, trivial, by decide +kernel, trivial, by decide +kernel,
      trivial⟩
  · exact ⟨trivial, rfl, trivial, trivial, trivial⟩

-- The binding is due in the slot that was claimed, and the body does not look at it.
theorem late_slot_lost :
    clockMachine.Commits dailyClock lateRun ∧ (dueFire (nine 0) dailyBinding).isSome = true ∧
      (clockMachine.after dailyClock lateRun).ticks.enqueued = [(tickTask, nine 0)] ∧
      (clockMachine.after dailyClock lateRun).attempts.length = 0 ∧
      (clockMachine.after dailyClock lateRun).store.sources.rows.length = 0 :=
  ⟨⟨trivial, by decide +kernel, trivial, by decide +kernel, trivial, by decide +kernel, trivial⟩, by decide +kernel,
    by decide +kernel, by decide +kernel, by decide +kernel⟩

end Yaaos.Intake
