import Yaaos.Intake.PullKeeping
import Yaaos.Pipelines.Lineage
import Yaaos.Tasks.Cron

set_option autoImplicit false

namespace Yaaos.Intake

open Yaaos.Base
open Yaaos.Pipelines
open Yaaos.Tasks

structure Schedule where
  name : String
  cron : String
  kickoffInput : Option String
  notifyUserIds : List Uuid

structure TriggerBinding where
  id : Fin (2 ^ 128)
  orgId : Uuid
  repoExternalId : String
  pipelineId : Uuid
  createdBy : Option Uuid
  schedule : Option Schedule

structure DueFire where
  orgId : Uuid
  binding : TriggerBinding
  schedule : Schedule
  fireTime : Minute

def Schedule.due (schedule : Schedule) (slot : Minute) : Bool :=
  (CronExpr.parse (pyText schedule.cron)).any fun cron => cron.hits slot

def dueFire (slot : Minute) (binding : TriggerBinding) : Option DueFire :=
  match binding.schedule with
  | none => none
  | some schedule =>
      if schedule.due slot then
        some { orgId := binding.orgId, binding := binding, schedule := schedule, fireTime := slot }
      else none

def listDueScheduleBindings (bindings : List TriggerBinding) (now : DateTime) : List DueFire :=
  bindings.filterMap (dueFire now.slot)

theorem dueFire_some (slot : Minute) (binding : TriggerBinding) (fire : DueFire)
    (due : dueFire slot binding = some fire) :
    fire.binding = binding ∧ fire.orgId = binding.orgId ∧ fire.fireTime = slot ∧ binding.schedule = some fire.schedule ∧
      fire.schedule.due slot = true := by
  unfold dueFire at due
  cases scheduled : binding.schedule with
  | none => simp [scheduled] at due
  | some schedule =>
      simp only [scheduled] at due
      by_cases hit : schedule.due slot = true
      · rw [if_pos hit, Option.some.injEq] at due
        subst due
        exact ⟨rfl, rfl, rfl, rfl, hit⟩
      · rw [if_neg hit] at due
        cases due

structure FiringStore where
  db : Db
  sources : Table TicketSource (Uuid × String × String) TicketSource.key

inductive FireError where
  | pluginUnresolved
  | engine (error : EngineError)

structure FireEnv where
  engine : Env
  resolvePluginId : Uuid → String → Option String
  mintBranchName : String → Uuid → String

def DueFire.key (fire : DueFire) (slot : Minute) : Uuid × String × String :=
  (fire.orgId, "schedule", minuteKey fire.binding.id slot)

def scheduleTicket (env : FireEnv) (id : Uuid) (fire : DueFire) (pluginId : String) : Ticket :=
  { id := id, orgId := fire.orgId, status := .pending, currentRunId := none, prId := none
    branchName := env.mintBranchName fire.schedule.name id, pluginId := pluginId
    repoExternalId := fire.binding.repoExternalId }

def FiringStore.createFromSchedule (store : FiringStore) (env : FireEnv) (fire : DueFire) (pluginId : String) :
    FiringStore × Uuid × Bool :=
  match store.sources.find? (fire.key fire.fireTime) with
  | some winner => (store, winner.ticketId, false)
  | none =>
      let ticket := scheduleTicket env (mintTicketId store.db) fire pluginId
      let source : TicketSource :=
        { orgId := fire.orgId, source := "schedule", sourceExternalId := minuteKey fire.binding.id fire.fireTime
          ticketId := ticket.id }
      ({ db :=
          { store.db with
            nextId := ticket.id + 1
            tickets := (store.db.tickets.insert? ticket).getD store.db.tickets }
         sources := (store.sources.insert? source).getD store.sources }, ticket.id, true)

def scheduleKickoff (schedule : Schedule) : Kickoff :=
  { intakePointId := "schedule", actor := .system, inputText := schedule.kickoffInput, prBaseSha := none
    prHeadSha := none, notifyUserIds := schedule.notifyUserIds, revision := none }

def fireOne (env : FireEnv) (store : FiringStore) (fire : DueFire) : Except FireError FiringStore :=
  match env.resolvePluginId fire.orgId fire.binding.repoExternalId with
  | none => .error .pluginUnresolved
  | some pluginId => match store.createFromSchedule env fire pluginId with
      | (existing, _, false) => .ok existing
      | (created, ticketId, true) =>
          match startRun env.engine created.db fire.orgId ticketId fire.binding.pipelineId
              (scheduleKickoff fire.schedule) fire.binding.createdBy with
          | .error error => .error (.engine error)
          | .ok db => .ok { created with db := db }

inductive TickBody where
  | idle
  | firing (claimed : Minute) (read : List DueFire) (left : List DueFire)

structure Attempt where
  claimed : Minute
  fire : DueFire
  succeeded : Bool

structure Clockwork where
  ticks : Ticks
  bindings : List TriggerBinding
  store : FiringStore
  workers : Nat → TickBody
  attempts : List Attempt

inductive ClockLabel where
  | tick (schedules : List ScheduleEntry) (now : DateTime)
  | begin (worker : Nat) (claimed : Minute) (now : DateTime)
  | fire (worker : Nat) (env : FireEnv)
  | leave (worker : Nat)
  | bind (bindings : List TriggerBinding)
  | engine (label : Label)

inductive ClockError where
  | notEnqueued
  | outOfTurn
  | engine (error : EngineError)

def tickTask : String := "pipeline_schedule_tick"

def Clockwork.fireNext (clock : Clockwork) (worker : Nat) (env : FireEnv) (claimed : Minute)
    (read : List DueFire) (fire : DueFire) (left : List DueFire) : Clockwork :=
  let workers := Function.update clock.workers worker (.firing claimed read left)
  match fireOne env clock.store fire with
  | .ok store =>
      { clock with store := store, workers := workers
                   attempts := clock.attempts ++ [{ claimed := claimed, fire := fire, succeeded := true }] }
  | .error _ =>
      { clock with
        workers := workers
        attempts := clock.attempts ++ [{ claimed := claimed, fire := fire, succeeded := false }] }

-- A message may come late, more than once or never; the body reads its own clock.
def clockStep (clock : Clockwork) : ClockLabel → Except ClockError Clockwork
  | .tick schedules now => .ok { clock with ticks := clock.ticks.tickOnce schedules now }
  | .begin worker claimed now =>
      if (tickTask, claimed) ∈ clock.ticks.enqueued then match clock.workers worker with
        | .idle =>
            let read := listDueScheduleBindings clock.bindings now
            .ok { clock with workers := Function.update clock.workers worker (.firing claimed read read) }
        | .firing _ _ _ => .error .outOfTurn
      else .error .notEnqueued
  | .fire worker env => match clock.workers worker with
      | .firing claimed read (fire :: left) => .ok (clock.fireNext worker env claimed read fire left)
      | _ => .error .outOfTurn
  | .leave worker => .ok { clock with workers := Function.update clock.workers worker .idle }
  | .bind bindings => .ok { clock with bindings := bindings }
  | .engine label => match engineStep clock.store.db label with
      | .ok db => .ok { clock with store := { clock.store with db := db } }
      | .error error => .error (.engine error)

structure Unwound (clock : Clockwork) : Prop where
  claims : clock.ticks.claims = []
  enqueued : clock.ticks.enqueued = []
  engine : Reachable runEngine clock.store.db
  sources : clock.store.sources.rows = []
  resting : ∀ worker, clock.workers worker = .idle
  untried : clock.attempts = []

def clockMachine : Machine Clockwork ClockLabel ClockError where
  initial := Unwound
  allowed := fun clock label => match label with
    | .engine label => label.Allowed clock.store.db
    | _ => True
  step := clockStep

end Yaaos.Intake
