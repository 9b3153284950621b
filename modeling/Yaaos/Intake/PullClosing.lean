import Yaaos.Intake.PullKeeping

set_option autoImplicit false

namespace Yaaos.Intake

open Yaaos.Base
open Yaaos.Pipelines

def Halts (db : Db) (pull : PullRequest) : Prop :=
  ∀ ticket ∈ boundTickets db pull.id pull.orgId, ∀ run ∈ db.runs.rows, run.ticketId = ticket.id → run.halting = true

def Haltable (db : Db) (orgId : Uuid) (pull : PullRequest) : Prop :=
  ∀ ticket ∈ boundTickets db pull.id pull.orgId, ∀ run ∈ db.runs.rows, run.ticketId = ticket.id →
    run.halting = true ∨ pull.orgId = orgId ∧ boundTickets db pull.id pull.orgId = [ticket] ∧
      ticket.status = .running ∧ ticket.currentRunId = some run.id

theorem done_id (row : Ticket) : ({ row with status := .done } : Ticket).id = row.id := rfl

def Db.finishTicket (db : Db) (ticketId : Uuid) : Db :=
  db.updateTicket ticketId (fun _ => true) (fun row => { row with status := .done }) done_id

inductive Closed (env : Env) (db : Db) (pull : PullRequest) : Db → Prop where
  | rests (idle : ∀ ticket, boundTickets db pull.id pull.orgId = [ticket] → ticket.status ≠ .running) :
      Closed env db pull db
  | finishes (ticket : Ticket) (only : boundTickets db pull.id pull.orgId = [ticket]) (running : ticket.status = .running)
      (refused : ∀ runId, ticket.currentRunId = some runId →
        ∃ error, requestCancel env (Db.finishTicket db ticket.id) pull.orgId runId = .error error) :
      Closed env db pull (Db.finishTicket db ticket.id)
  | cancels (ticket : Ticket) (only : boundTickets db pull.id pull.orgId = [ticket]) (running : ticket.status = .running)
      (runId : Uuid) (current : ticket.currentRunId = some runId) (after : Db)
      (cancelled : requestCancel env (Db.finishTicket db ticket.id) pull.orgId runId = .ok after) :
      Closed env db pull after

section Closing

theorem bound_mem (db : Db) (prId orgId : Uuid) (ticket : Ticket) :
    ticket ∈ boundTickets db prId orgId ↔ ticket ∈ db.tickets.rows ∧ ticket.prId = some prId ∧ ticket.orgId = orgId := by
  simp [boundTickets]

theorem complete_running (db : Db) (ticket : Ticket) (member : ticket ∈ db.tickets.rows) (running : ticket.status = .running) :
    complete db ticket.id ticket.orgId = .ok (Db.finishTicket db ticket.id) := by
  simp [complete, Table.find?_of_mem db.tickets ticket member, running, TicketStatus.isTerminal, Db.finishTicket]

theorem handleClosed_closed (env : IntakeEnv) (store : PullStore) (orgId : Uuid) (payload : PullPayload)
    (externalId : String) (pull : PullRequest) (found : store.getByExternal externalId orgId = some pull) :
    (store.handleClosed env orgId payload externalId).1.pulls =
        (store.updateState pull.id (PullStore.closedState payload) orgId).pulls ∧
      (store.handleClosed env orgId payload externalId).1.implied = store.implied ∧
      Closed env.engine store.db pull (store.handleClosed env orgId payload externalId).1.db := by
  obtain ⟨_, own⟩ := getByExternal_some store externalId orgId pull found
  subst own
  unfold PullStore.handleClosed
  simp only [found, getByPr]
  have tables : (store.updateState pull.id (PullStore.closedState payload) pull.orgId).db = store.db := rfl
  rw [tables]
  cases listed : boundTickets store.db pull.id pull.orgId with
  | nil => exact ⟨rfl, rfl, .rests (by simp [listed])⟩
  | cons ticket others =>
      cases others with
      | cons other rest => exact ⟨rfl, rfl, .rests (by simp [listed])⟩
      | nil =>
          have here : ticket ∈ boundTickets store.db pull.id pull.orgId := by simp [listed]
          obtain ⟨member, _, org⟩ := (bound_mem _ _ _ _).mp here
          by_cases running : ticket.status = .running
          · have completed := complete_running store.db ticket member running
            rw [org] at completed
            simp only [running, ne_eq, not_true_eq_false, if_false, completed]
            cases current : ticket.currentRunId with
            | none => exact ⟨rfl, rfl, .finishes ticket listed running (by simp [current])⟩
            | some runId =>
                dsimp only
                cases cancelled : requestCancel env.engine (Db.finishTicket store.db ticket.id) pull.orgId runId with
                | ok after =>
                    dsimp only
                    exact ⟨rfl, rfl, .cancels ticket listed running runId current after cancelled⟩
                | error error =>
                    have refused : ∀ other, ticket.currentRunId = some other →
                        ∃ error, requestCancel env.engine (Db.finishTicket store.db ticket.id) pull.orgId other =
                          .error error := by
                      intro other named
                      rw [current, Option.some.injEq] at named
                      exact ⟨error, named ▸ cancelled⟩
                    cases error <;> exact ⟨rfl, rfl, .finishes ticket listed running refused⟩
          · dsimp only
            rw [if_pos running]
            refine ⟨rfl, rfl, .rests fun other only => ?_⟩
            rw [listed] at only
            cases only
            exact running

theorem finishTicket_anchors (db : Db) (ticketId : Uuid) : Anchors db (Db.finishTicket db ticketId) :=
  anchors_update db ticketId _ _ _ fun _ => ⟨rfl, rfl, rfl⟩

theorem finishTicket_coherent (db : Db) (ticketId : Uuid) (coherent : Coherent db) :
    Coherent (Db.finishTicket db ticketId) :=
  coherent_tickets db _ db.nextId coherent (Nat.le_refl _) (carried_anchors _ _ (finishTicket_anchors db ticketId))

theorem bound_anchored (before after : Db) (prId orgId : Uuid) (anchors : Anchors before after) (ticketId : Uuid) :
    (∃ ticket ∈ boundTickets after prId orgId, ticket.id = ticketId) ↔
      ∃ ticket ∈ boundTickets before prId orgId, ticket.id = ticketId := by
  constructor
  · rintro ⟨next, member, named⟩
    obtain ⟨stored, bound, org⟩ := (bound_mem _ _ _ _).mp member
    obtain ⟨row, rowMember, anchored⟩ := Table.rewrites_backward _ _ _ anchors next stored
    refine ⟨row, (bound_mem _ _ _ _).mpr ⟨rowMember, ?_, ?_⟩, ?_⟩
    · rw [← anchored.prId, bound]
    · rw [← anchored.orgId, org]
    · rw [← anchored.id, named]
  · rintro ⟨row, member, named⟩
    obtain ⟨stored, bound, org⟩ := (bound_mem _ _ _ _).mp member
    obtain ⟨next, nextMember, anchored⟩ := Table.rewrites_forward _ _ _ anchors row stored
    refine ⟨next, (bound_mem _ _ _ _).mpr ⟨nextMember, ?_, ?_⟩, ?_⟩
    · rw [anchored.prId, bound]
    · rw [anchored.orgId, org]
    · rw [anchored.id, named]

theorem halting_promoted (run : PipelineRun) (queued : run.state = .queued) :
    ({ run with state := .running } : PipelineRun).halting = run.halting := by
  simp [PipelineRun.halting, queued, RunState.isTerminal]

theorem halted_before (before after : Db) (runId : Uuid) (halted : Halted before after runId) (next : PipelineRun)
    (member : next ∈ after.runs.rows) (different : next.id ≠ runId) :
    ∃ old ∈ before.runs.rows, old.id = next.id ∧ old.ticketId = next.ticketId ∧ old.halting = next.halting := by
  rcases halted.others next member different with earlier | ⟨old, oldMember, queued, promoted⟩
  · exact ⟨next, earlier, rfl, rfl, rfl⟩
  · rw [promoted]
    exact ⟨old, oldMember, rfl, rfl, (halting_promoted old queued).symm⟩

variable (env : Env) (db after : Db) (pull : PullRequest)

theorem run_org (coherent : Coherent db) (ticket : Ticket) (run : PipelineRun)
    (bound : ticket ∈ boundTickets db pull.id pull.orgId) (member : run ∈ db.runs.rows)
    (own : run.ticketId = ticket.id) : run.orgId = pull.orgId := by
  obtain ⟨stored, _, org⟩ := (bound_mem _ _ _ _).mp bound
  obtain ⟨owner, found, same⟩ := (coherent.sound run member).ticketed
  rw [own, Table.find?_of_mem db.tickets ticket stored, Option.some.injEq] at found
  rw [← same, ← found, org]

theorem closed_halts (coherent : Coherent db) (closed : Closed env db pull after)
    (haltable : Haltable db pull.orgId pull) : Halts after pull := by
  intro next nextBound run member own
  cases closed with
  | rests idle =>
      rcases haltable next nextBound run member own with halting | ⟨_, only, running, _⟩
      · exact halting
      · exact absurd running (idle next only)
  | finishes ticket only running refused =>
      obtain ⟨row, bound, named⟩ :=
        (bound_anchored _ _ _ _ (finishTicket_anchors db ticket.id) next.id).mp ⟨next, nextBound, rfl⟩
      have stored : run ∈ db.runs.rows := member
      rcases haltable row bound run stored (own.trans named.symm) with halting | ⟨_, alone, _, current⟩
      · exact halting
      · rw [only, List.singleton_inj] at alone
        subst alone
        by_cases live : run.state.isTerminal = false
        · obtain ⟨error, raised⟩ := refused run.id current
          have completes := requestCancel_halts env (Db.finishTicket db ticket.id) run
            (finishTicket_coherent db ticket.id coherent) stored live
          rw [run_org db pull coherent ticket run bound stored (own.trans named.symm), raised] at completes
          obtain ⟨_, same, _⟩ := completes
          cases same
        · simp [PipelineRun.halting, live]
  | cancels ticket only running runId current _ cancelled =>
      have halted := requestCancel_only env _ pull.orgId runId (finishTicket_coherent db ticket.id coherent) after cancelled
      by_cases hit : run.id = runId
      · exact halted.own run member hit
      · obtain ⟨old, oldMember, sameId, sameTicket, sameHalting⟩ := halted_before _ _ _ halted run member hit
        have anchors := anchors_trans _ _ _ (finishTicket_anchors db ticket.id) halted.anchors
        obtain ⟨row, bound, named⟩ := (bound_anchored _ _ _ _ anchors next.id).mp ⟨next, nextBound, rfl⟩
        rw [← sameHalting]
        rcases haltable row bound old oldMember (by rw [sameTicket, own, named]) with halting | ⟨_, alone, _, here⟩
        · exact halting
        · rw [only, List.singleton_inj] at alone
          subst alone
          rw [current, Option.some.injEq] at here
          exact absurd (sameId.symm.trans here.symm) hit

theorem closed_haltable (coherent : Coherent db) (closed : Closed env db pull after) (halts : Halts after pull) :
    Haltable db pull.orgId pull := by
  intro ticket bound run member own
  by_cases halting : run.halting = true
  · exact .inl halting
  · cases closed with
    | rests idle => exact absurd (halts ticket bound run member own) halting
    | finishes finished only running refused =>
        obtain ⟨next, nextBound, named⟩ :=
          (bound_anchored _ _ _ _ (finishTicket_anchors db finished.id) ticket.id).mpr ⟨ticket, bound, rfl⟩
        exact absurd (halts next nextBound run member (own.trans named.symm)) halting
    | cancels finished only running runId current _ cancelled =>
        have isFinished : ticket = finished := by simpa [only] using bound
        subst isFinished
        have halted := requestCancel_only env _ pull.orgId runId (finishTicket_coherent db ticket.id coherent) after cancelled
        by_cases hit : run.id = runId
        · rw [hit]
          exact .inr ⟨rfl, only, running, current⟩
        · obtain ⟨next, nextMember, sameNext⟩ := halted.ids run member
          obtain ⟨old, oldMember, sameId, sameTicket, sameHalting⟩ :=
            halted_before _ _ _ halted next nextMember (by rw [sameNext]; exact hit)
          have isRun : old = run := Table.eq_of_key db.runs old run oldMember member (sameId.trans sameNext)
          subst isRun
          have anchors := anchors_trans _ _ _ (finishTicket_anchors db ticket.id) halted.anchors
          obtain ⟨row, rowBound, named⟩ := (bound_anchored _ _ _ _ anchors ticket.id).mpr ⟨ticket, bound, rfl⟩
          have stopped := halts row rowBound next nextMember (by rw [← sameTicket, own, named])
          rw [← sameHalting] at stopped
          exact absurd stopped halting

theorem closed_grown (coherent : Coherent db) (closed : Closed env db pull after) : Grown db after := by
  have finished (ticket : Ticket) : Grown db (Db.finishTicket db ticket.id) :=
    ⟨finishTicket_coherent db ticket.id coherent, carried_anchors _ _ (finishTicket_anchors db ticket.id), Nat.le_refl _⟩
  cases closed with
  | rests idle => exact ⟨coherent, carried_anchors _ _ (anchors_refl db), Nat.le_refl _⟩
  | finishes ticket only running refused => exact finished ticket
  | cancels ticket only running runId current _ cancelled =>
      have grown := finished ticket
      have stepped := requestCancel_stepped env _ pull.orgId runId grown.coherent after cancelled
      have halted := requestCancel_only env _ pull.orgId runId grown.coherent after cancelled
      exact ⟨stepped.coherent, carried_trans _ _ _ grown.carried (carried_anchors _ _ halted.anchors),
        Nat.le_trans grown.grows stepped.advances.nextId⟩

end Closing

end Yaaos.Intake
