import Yaaos.Pipelines.Invariant

set_option autoImplicit false

namespace Yaaos.Pipelines

open Yaaos.Base

def PipelineRun.count (run : PipelineRun) (key : String) : Nat := (run.sendbackCounts.lookup key).getD 0

structure Steady (before after : Session) : Prop where
  id : after.run.id = before.run.id
  orgId : after.run.orgId = before.run.orgId
  ticketId : after.run.ticketId = before.run.ticketId
  state : after.run.state = before.run.state
  pauses : after.run.pauses = before.run.pauses
  counts : ∀ key, before.run.count key ≤ after.run.count key
  runs : after.db.runs = before.db.runs
  tickets : after.db.tickets = before.db.tickets
  nextId : before.db.nextId ≤ after.db.nextId

inductive Turns (env : Env) (before after : Session) : Prop where
  | works (steady : Steady before after)
  | pauses (last : Session) (row : StageExecution) (tripped : List TrippedCondition) (owners : List Uuid)
      (kickoff : Kickoff) (steady : Steady before last) (same : after = enterPause env last row tripped owners kickoff)
  | ends (last : Session) (target : TerminalState) (reason : Option String) (steady : Steady before last)
      (same : after = enterTerminal env last target reason)

variable (session : Session)

theorem steady_refl : Steady session session :=
  ⟨rfl, rfl, rfl, rfl, rfl, fun _ => Nat.le_refl _, rfl, rfl, Nat.le_refl _⟩

theorem steady_trans (first middle last : Session) (left : Steady first middle) (right : Steady middle last) :
    Steady first last where
  id := right.id.trans left.id
  orgId := right.orgId.trans left.orgId
  ticketId := right.ticketId.trans left.ticketId
  state := right.state.trans left.state
  pauses := right.pauses.trans left.pauses
  counts := fun key => Nat.le_trans (left.counts key) (right.counts key)
  runs := right.runs.trans left.runs
  tickets := right.tickets.trans left.tickets
  nextId := Nat.le_trans left.nextId right.nextId

theorem turns_id (env : Env) (start last : Session) (turns : Turns env start last) : last.run.id = start.run.id := by
  cases turns with
  | works steady => exact steady.id
  | pauses paused row tripped owners kickoff steady same =>
      rw [same]
      exact steady.id
  | ends ended target reason steady same =>
      rw [same]
      exact steady.id

theorem turns_ticketId (env : Env) (start last : Session) (turns : Turns env start last) :
    last.run.ticketId = start.run.ticketId := by
  cases turns with
  | works steady => exact steady.ticketId
  | pauses paused row tripped owners kickoff steady same =>
      rw [same]
      exact steady.ticketId
  | ends ended target reason steady same =>
      rw [same]
      exact steady.ticketId

theorem turns_orgId (env : Env) (start last : Session) (turns : Turns env start last) :
    last.run.orgId = start.run.orgId := by
  cases turns with
  | works steady => exact steady.orgId
  | pauses paused row tripped owners kickoff steady same =>
      rw [same]
      exact steady.orgId
  | ends ended target reason steady same =>
      rw [same]
      exact steady.orgId

theorem steady_both (before after : Session) (id : after.run.id = before.run.id)
    (orgId : after.run.orgId = before.run.orgId) (ticketId : after.run.ticketId = before.run.ticketId)
    (state : after.run.state = before.run.state) (pauses : after.run.pauses = before.run.pauses)
    (counts : after.run.sendbackCounts = before.run.sendbackCounts) (runs : after.db.runs = before.db.runs)
    (tickets : after.db.tickets = before.db.tickets) (nextId : before.db.nextId ≤ after.db.nextId) :
    Steady before after :=
  ⟨id, orgId, ticketId, state, pauses, fun key => Nat.le_of_eq (by rw [PipelineRun.count, PipelineRun.count, counts]),
    runs, tickets, nextId⟩

theorem steady_db (db : Db) (runs : db.runs = session.db.runs)
    (tickets : db.tickets = session.db.tickets) (nextId : session.db.nextId ≤ db.nextId) :
    Steady session { session with db := db } :=
  steady_both session _ rfl rfl rfl rfl rfl rfl runs tickets nextId

theorem steady_enqueue (message : Message) : Steady session (session.enqueue message) :=
  steady_db session _ rfl rfl (Nat.le_refl _)

theorem count_set (counts : Dict Nat) (key other : String) (value : Nat) :
    ((Dict.set counts key value).lookup other).getD 0 =
      if other = key then value else (counts.lookup other).getD 0 := by
  rw [Dict.set, Dict.lookup_merge]
  by_cases same : other = key
  · rw [if_pos same, List.lookup_cons, same]
    simp
  · have missed : (other == key) = false := by simpa using same
    rw [if_neg same, List.lookup_cons, missed]
    rfl

theorem authRetryDue_below (run : PipelineRun) (row : StageExecution) (reason : String)
    (due : authRetryDue run row reason = true) : run.count (authRetryKey row.stageName) < 1 := by
  rw [authRetryDue, Bool.and_eq_true] at due
  exact of_decide_eq_true due.2

end Yaaos.Pipelines
