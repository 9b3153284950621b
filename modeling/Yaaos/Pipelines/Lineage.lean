import Yaaos.Pipelines.Anchor

set_option autoImplicit false

namespace Yaaos.Pipelines

open Yaaos.Base

def Lineage (before after : Db) : Prop :=
  ∀ run ∈ before.runs.rows, ∃ next ∈ after.runs.rows, next.id = run.id ∧ next.ticketId = run.ticketId

section Moving

variable {created : Ticket → Prop}

theorem came_ticket (db after : Db) (next run : PipelineRun) (bound : run.id < db.nextId) (member : run ∈ db.runs.rows)
    (came : Came db after next) (id : next.id = run.id) : next.ticketId = run.ticketId := by
  have only (old : PipelineRun) (oldMember : old ∈ db.runs.rows) (same : old.id = next.id) : old = run :=
    Table.eq_of_key db.runs old run oldMember member (same.trans id)
  cases came with
  | kept nextMember => rw [only next nextMember rfl]
  | created fresh =>
      rw [← id, fresh] at bound
      exact absurd bound (Nat.lt_irrefl _)
  | promoted old oldMember queued same =>
      rw [← only old oldMember (by rw [same]), same]
  | flagged old oldMember state same =>
      rw [← only old oldMember (by rw [same]), same]
  | withdrawn old oldMember queued completedAt same =>
      rw [← only old oldMember (by rw [same]), same]
  | worked env opened old last oldMember state nextId turns closes same commits =>
      rw [← only old oldMember (by rw [same, turns_id env _ last turns]), same, turns_ticketId env _ last turns]
  | resumed env old pause closed revived last answering revives action turns same commits =>
      rw [← only old answering.member (by rw [same, turns_id env _ last turns, revives.id]), same,
        turns_ticketId env _ last turns, revives.ticketId]
  | stopped env old pause closed revived last answering revives turns closing rows same commits =>
      rw [← only old answering.member (by rw [same, turns_id env _ last turns, revives.id]), same,
        turns_ticketId env _ last turns, revives.ticketId]

theorem moves_lineage (db after : Db) (coherent : Coherent db) (moves : Moves created db after) : Lineage db after := by
  intro run member
  obtain ⟨next, nextMember, id⟩ := moves_ids db after moves run member
  have came := moves_came db after moves next nextMember
  exact ⟨next, nextMember, id, came_ticket db after next run (coherent.sound run member).bound member came id⟩

end Moving

theorem updateTicket_ids (db : Db) (ticketId : Uuid) (selected : Ticket → Bool) (change : Ticket → Ticket)
    (kept : ∀ row, (change row).id = row.id) :
    (db.updateTicket ticketId selected change kept).tickets.rows.map Ticket.id = db.tickets.rows.map Ticket.id := by
  rw [Db.updateTicket]
  change (List.map _ db.tickets.rows).map Ticket.id = _
  rw [List.map_map]
  refine List.map_congr_left fun row _ => ?_
  dsimp only [Function.comp]
  split
  · exact kept row
  · rfl

theorem attemptPromotion_tickets (db : Db) (run : PipelineRun) :
    (attemptPromotion db run).tickets.rows.map Ticket.id = db.tickets.rows.map Ticket.id := by
  rw [attemptPromotion]
  split
  · rfl
  · split
    · rfl
    · rw [Db.enqueue, transitionTicketOnRunStart, transitionTicket, updateTicket_ids, setCurrentRun, updateTicket_ids]
      rfl

theorem insertRun_rows (db : Db) (run : PipelineRun) (queued : run.state = .queued)
    (fresh : ∀ row ∈ db.runs.rows, row.id ≠ run.id) :
    (∃ state, (insertRun db run).runs.rows = db.runs.rows ++ [{ run with state := state }]) ∧
      (insertRun db run).tickets.rows.map Ticket.id = db.tickets.rows.map Ticket.id := by
  obtain ⟨table, inserted⟩ := Table.insert?_fresh db.runs run fresh
  have rows := (Table.insert?_some _ _ _ inserted).1
  let opened : Db := { db with runs := table, nextId := db.nextId + 1 }
  have same : insertRun db run = attemptPromotion opened run := by
    rw [insertRun, inserted]
  rw [same]
  refine ⟨?_, attemptPromotion_tickets opened run⟩
  rw [(attemptPromotion_runs opened run queued).2]
  split
  · refine ⟨.queued, rows.trans ?_⟩
    rw [← queued]
  · refine ⟨.running, ?_⟩
    change (List.map _ table.rows) = _
    rw [rows, List.map_append]
    congr 1
    · refine (List.map_congr_left fun row member => ?_).trans (List.map_id _)
      rw [if_neg (by simpa using fresh row member)]
      rfl
    · simp

theorem insertRun_entered (db : Db) (run : PipelineRun) (queued : run.state = .queued)
    (fresh : ∀ row ∈ db.runs.rows, row.id ≠ run.id) :
    ∃ next ∈ (insertRun db run).runs.rows, ∃ state, next = { run with state := state } := by
  obtain ⟨⟨state, rows⟩, _⟩ := insertRun_rows db run queued fresh
  rw [rows]
  exact ⟨_, List.mem_append_right _ (List.mem_singleton_self _), state, rfl⟩

theorem startRun_rows (env : Env) (db after : Db) (orgId ticketId pipelineId : Uuid) (kickoff : Kickoff)
    (triggeredByUserId : Option Uuid) (coherent : Coherent db)
    (started : startRun env db orgId ticketId pipelineId kickoff triggeredByUserId = .ok after) :
    ∃ flattened state, after.runs.rows = db.runs.rows ++
        [{ newRun db.nextId orgId ticketId (some pipelineId) flattened kickoff none triggeredByUserId with state := state }] ∧
      after.tickets.rows.map Ticket.id = db.tickets.rows.map Ticket.id := by
  rw [startRun] at started
  cases found : env.pipelines orgId pipelineId with
  | none => simp [found] at started
  | some pipeline =>
      rw [found, Except.ok.injEq] at started
      let run := newRun db.nextId orgId ticketId (some pipelineId) pipeline.flattened kickoff none triggeredByUserId
      have fresh : ∀ row ∈ db.runs.rows, row.id ≠ run.id := fun row member =>
        Nat.ne_of_lt (coherent.sound row member).bound
      obtain ⟨⟨state, runs⟩, tickets⟩ := insertRun_rows db run rfl fresh
      rw [← started]
      exact ⟨pipeline.flattened, state, runs, tickets⟩

end Yaaos.Pipelines
