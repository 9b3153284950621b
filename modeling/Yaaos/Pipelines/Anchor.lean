import Yaaos.Pipelines.Mirror

set_option autoImplicit false

namespace Yaaos.Pipelines

open Yaaos.Base

-- The engine moves a ticket's status and its current run, never its org or its
-- pull request.
structure Anchored (row next : Ticket) : Prop where
  id : next.id = row.id
  orgId : next.orgId = row.orgId
  prId : next.prId = row.prId

def Anchors (before after : Db) : Prop := Table.Rewrites Anchored before.tickets after.tickets

def Carried (before after : Db) : Prop :=
  ∀ ticketId ticket, before.tickets.find? ticketId = some ticket →
    ∃ next, after.tickets.find? ticketId = some next ∧ next.orgId = ticket.orgId

theorem anchors_same (before after : Db) (same : after.tickets = before.tickets) : Anchors before after := by
  rw [Anchors, same]
  exact Table.rewrites_refl _ _ fun _ _ => ⟨rfl, rfl, rfl⟩

theorem anchors_refl (db : Db) : Anchors db db := anchors_same db db rfl

theorem anchors_trans (first middle last : Db) (left : Anchors first middle) (right : Anchors middle last) :
    Anchors first last :=
  Table.rewrites_trans _ _ _ _ _ _ (fun _ _ _ _ earlier _ later =>
    ⟨later.id.trans earlier.id, later.orgId.trans earlier.orgId, later.prId.trans earlier.prId⟩) left right

theorem anchors_update (db : Db) (ticketId : Uuid) (selected : Ticket → Bool) (change : Ticket → Ticket)
    (kept : ∀ row, (change row).id = row.id) (anchored : ∀ row, Anchored row (change row)) :
    Anchors db (db.updateTicket ticketId selected change kept) :=
  Table.rewrites_update _ _ _ _ kept (fun _ _ _ => ⟨rfl, rfl, rfl⟩) fun row _ _ => anchored row

theorem anchors_transition (db : Db) (ticketId orgId runId : Uuid) (from_ : TicketStatus → Bool)
    (newStatus : TicketStatus) : Anchors db (transitionTicket db ticketId orgId runId from_ newStatus) :=
  anchors_update db ticketId _ _ _ fun _ => ⟨rfl, rfl, rfl⟩

theorem attemptPromotion_anchors (db : Db) (run : PipelineRun) : Anchors db (attemptPromotion db run) := by
  unfold attemptPromotion
  split
  · exact anchors_refl db
  · split
    · exact anchors_refl db
    · let owned := setCurrentRun (db.saveRun { run with state := .running }) run.ticketId run.id
      have assigned : Anchors db owned := anchors_update _ _ _ _ _ fun _ => ⟨rfl, rfl, rfl⟩
      have started := anchors_transition owned run.ticketId run.orgId run.id (fun status => status == .pending) .running
      exact anchors_trans _ owned _ assigned started

theorem promoteOldestQueued_anchors (db : Db) (ticketId : Uuid) : Anchors db (promoteOldestQueued db ticketId) := by
  unfold promoteOldestQueued
  cases oldestQueued db ticketId with
  | none => exact anchors_refl db
  | some candidate => exact attemptPromotion_anchors db candidate

theorem insertRun_anchors (db : Db) (run : PipelineRun) : Anchors db (insertRun db run) := by
  rcases insertRun_inserted db run with same | ⟨queued, inserted, same⟩
  · rw [same]
    exact anchors_refl db
  · rw [same]
    exact anchors_trans _ _ _ (anchors_same _ _ inserted.tickets) (attemptPromotion_anchors queued run)

theorem turns_anchors (env : Env) (start last : Session) (turns : Turns env start last) :
    Anchors start.db last.commit := by
  cases turns with
  | works steady => exact anchors_same _ _ steady.tickets
  | pauses paused row tripped owners kickoff steady same =>
      have paused_ : last.commit.tickets =
          (transitionTicketOnRunPaused paused.db paused.run.ticketId paused.run.orgId paused.run.id).tickets := by
        rw [same, ← enterPause_tickets env paused row tripped owners kickoff]
        rfl
      refine anchors_trans _ paused.db _ (anchors_same _ _ steady.tickets) ?_
      rw [Anchors, paused_]
      exact anchors_transition _ _ _ _ _ _
  | ends ended target reason steady same =>
      obtain ⟨settled, promotes, _, _, tickets⟩ := enterTerminal_settled env ended target reason
      have closed : Anchors ended.db settled := by
        rw [Anchors, tickets]
        exact anchors_transition _ _ _ _ _ _
      refine anchors_trans _ ended.db _ (anchors_same _ _ steady.tickets) ?_
      refine anchors_trans _ settled _ closed ?_
      have committed : last.commit.tickets = (promoteOldestQueued settled ended.run.ticketId).tickets := by
        rw [same, ← promotes]
        rfl
      rw [Anchors, committed]
      exact promoteOldestQueued_anchors settled _

section Carrying

theorem carried_anchors (before after : Db) (anchors : Anchors before after) : Carried before after := by
  intro ticketId ticket found
  obtain ⟨member, named⟩ := Table.find?_some _ _ _ found
  obtain ⟨next, nextMember, anchored⟩ := Table.rewrites_forward _ _ _ anchors ticket member
  exact ⟨next, Table.find?_eq _ next ticketId nextMember (anchored.id.trans named), anchored.orgId⟩

theorem carried_trans (first middle last : Db) (left : Carried first middle) (right : Carried middle last) :
    Carried first last := by
  intro ticketId ticket found
  obtain ⟨next, nextFound, org⟩ := left ticketId ticket found
  obtain ⟨later, laterFound, laterOrg⟩ := right ticketId next nextFound
  exact ⟨later, laterFound, laterOrg.trans org⟩

theorem carried_insert (db : Db) (ticket : Ticket) :
    Carried db { db with tickets := (db.tickets.insert? ticket).getD db.tickets } := by
  intro ticketId row found
  cases inserted : db.tickets.insert? ticket with
  | none => exact ⟨row, by simpa [inserted] using found, rfl⟩
  | some grown =>
      refine ⟨row, ?_, rfl⟩
      simp [Table.find?_insert _ _ _ _ inserted, found]

theorem carried_update (db : Db) (ticketId : Uuid) (selected : Ticket → Bool) (change : Ticket → Ticket)
    (kept : ∀ row, (change row).id = row.id) (org : ∀ row, (change row).orgId = row.orgId) :
    Carried db (db.updateTicket ticketId selected change kept) :=
  (dbCarries_updateTicket 0 none db ticketId selected change kept org).tickets

theorem coherent_tickets (db : Db) (tickets : Table Ticket Uuid Ticket.id) (nextId : Uuid) (coherent : Coherent db)
    (grows : db.nextId ≤ nextId) (carried : Carried db { db with tickets := tickets, nextId := nextId }) :
    Coherent { db with tickets := tickets, nextId := nextId } := by
  have shared : Shared { db with tickets := tickets, nextId := nextId } :=
    { driven := fun message member runId drives =>
        Nat.lt_of_lt_of_le (coherent.driven message member runId drives) grows
      events := fun args member =>
        ⟨Nat.lt_of_lt_of_le (coherent.events args member).1 grows, (coherent.events args member).2⟩
      commands := fun command stored =>
        ⟨Nat.lt_of_lt_of_le (coherent.commands command stored).1 grows,
          Nat.lt_of_lt_of_le (coherent.commands command stored).2 grows⟩
      claims := fun row member command claimed => Nat.lt_of_lt_of_le (coherent.claims row member command claimed) grows
      workspaceIds := fun row member => Nat.lt_of_lt_of_le (coherent.workspaceIds row member) grows }
  exact coherent_ambient db _ coherent shared rfl grows (fun _ => rfl) carried rfl fun _ => eases_refl _

variable {created : Ticket → Prop}

theorem moves_carried (db after : Db) (moves : Moves created db after) : Carried db after := by
  cases moves with
  | rests _ runs nextId tickets =>
      intro ticketId ticket found
      have standing := tickets ticketId
      rw [found, Option.map_some] at standing
      obtain ⟨next, nextFound, same⟩ := Option.map_eq_some_iff.mp standing
      exact ⟨next, nextFound, congrArg Prod.fst same⟩
  | opens ticket creates => exact carried_insert db ticket
  | starts orgId ticketId pipelineId flattened kickoff current triggeredByUserId =>
      exact carried_anchors _ _ (insertRun_anchors db _)
  | flags run member state => exact carried_anchors _ _ (anchors_same _ _ rfl)
  | withdraws env run member state => exact carried_anchors _ _ (anchors_same _ _ rfl)
  | works env opened run last member state runs tickets nextId turns closes =>
      exact carried_anchors _ _ (anchors_trans _ opened _ (anchors_same _ _ tickets) (turns_anchors env _ last turns))
  | resumes env run pause closed revived last answering revives tickets action turns =>
      refine carried_anchors _ _ (anchors_trans _ revived.db _ ?_ (turns_anchors env _ last turns))
      rw [Anchors, tickets]
      exact anchors_transition _ _ _ _ _ _
  | stops env run pause closed revived last answering revives tickets turns closing stopped rows =>
      exact carried_anchors _ _ (anchors_trans _ revived.db _ (anchors_same _ _ tickets) (turns_anchors env _ last turns))

end Carrying

def PipelineRun.halting (run : PipelineRun) : Bool := run.state.isTerminal || run.cancelRequested

structure Halted (before after : Db) (runId : Uuid) : Prop where
  own : ∀ next ∈ after.runs.rows, next.id = runId → next.halting = true
  others : ∀ next ∈ after.runs.rows, next.id ≠ runId →
    next ∈ before.runs.rows ∨ ∃ old ∈ before.runs.rows, old.state = .queued ∧ next = { old with state := .running }
  ids : ∀ row ∈ before.runs.rows, ∃ next ∈ after.runs.rows, next.id = row.id
  anchors : Anchors before after

section Halting

variable (env : Env) (db : Db) (run : PipelineRun)

theorem halted_saved (member : run ∈ db.runs.rows) (changed : PipelineRun) (id : changed.id = run.id)
    (halting : changed.halting = true) : Halted db (db.saveRun changed) run.id where
  own := by
    intro next nextMember same
    rcases saveRun_rows db changed next nextMember with isChanged | ⟨_, different⟩
    · rw [isChanged]
      exact halting
    · exact absurd (same.trans id.symm) different
  others := by
    intro next nextMember different
    rcases saveRun_rows db changed next nextMember with isChanged | ⟨earlier, _⟩
    · exact absurd (by rw [isChanged, id]) different
    · exact .inl earlier
  ids := by
    intro row rowMember
    by_cases hit : row.id = run.id
    · exact ⟨changed, saveRun_own db changed run member id.symm, id.trans hit.symm⟩
    · exact ⟨row, saveRun_other db changed row rowMember (by rw [id]; exact hit), rfl⟩
  anchors := anchors_same _ _ rfl

theorem halted_turns (start last : Session) (member : run ∈ db.runs.rows) (id : start.run.id = run.id)
    (runs : start.db.runs = db.runs) (tickets : start.db.tickets = db.tickets) (turns : Turns env start last)
    (requested : last.run.cancelRequested = true) : Halted db last.commit run.id where
  own := by
    intro next nextMember same
    rcases saveRun_rows last.db last.run next nextMember with isLast | ⟨_, different⟩
    · simp [isLast, PipelineRun.halting, requested]
    · refine absurd ?_ different
      rw [same, turns_id env start last turns, id]
  others := by
    intro next nextMember different
    rcases turns_split env db start last run next member id runs turns nextMember with isLast | earlier
    · refine absurd ?_ different
      rw [isLast, turns_id env start last turns, id]
    · exact earlier
  ids := fun row rowMember => turns_ids env db start last run row member id runs turns rowMember
  anchors := anchors_trans _ start.db _ (anchors_same _ _ tickets) (turns_anchors env start last turns)

theorem requestCancel_halts (coherent : Coherent db) (member : run ∈ db.runs.rows)
    (live : run.state.isTerminal = false) :
    Completes (requestCancel env db run.orgId run.id) fun after => Halted db after run.id := by
  have found := Table.find?_of_mem db.runs run member
  simp only [requestCancel, found, ne_eq, not_true_eq_false, if_false]
  cases state : run.state with
  | queued => exact completes_ok _ _ (halted_saved db run member _ rfl rfl)
  | running => exact completes_ok _ _ (halted_saved db run member _ rfl (by simp [PipelineRun.halting]))
  | paused =>
      obtain ⟨pause, opened⟩ : ∃ pause, getOpenPauseForRun run = some pause := by
        have stands : Stands (db.messagesFor run.id) (workspaceOf db run) run := coherent.stands run member
        cases stands with
        | paused row rest pause others paused unparked quiet rows kind status pauses opened =>
            exact ⟨pause, by simp [getOpenPauseForRun, pauses, opened]⟩
        | queued other => rw [state] at other; cases other
        | routing args other => rw [state] at other; cases other
        | starting index stage other => rw [state] at other; cases other
        | parked command row rest other => rw [state] at other; cases other
        | ended other => rw [other] at live; cases live
      simp only [opened, cancelPaused]
      let closed : RunPause := { pause with resolvedAt := some env.now }
      let revived : Session :=
        { answered db run closed with
          run := { (answered db run closed).run with state := .running, cancelRequested := true } }
      have closes := finishOrCleanup_closes env revived .cancelled none rfl (paused_stored db run coherent member state)
      refine completes_map _ _ _ (completes_mono _ _ _ (completes_and _ _ _ closes fun last done => ?_) fun _ both => both.2)
      exact halted_turns env db run revived last member rfl rfl rfl (finishOrCleanup_turns env revived _ _ last done)
        (finishOrCleanup_rows env revived _ _ last done).1
  | completed => rw [state] at live; cases live
  | failed => rw [state] at live; cases live
  | killed => rw [state] at live; cases live
  | cancelled => rw [state] at live; cases live

theorem requestCancel_only (orgId runId : Uuid) (coherent : Coherent db) :
    Ensures (requestCancel env db orgId runId) fun after => Halted db after runId := by
  intro after done
  cases found : db.runs.find? runId with
  | none => simp [requestCancel, found] at done
  | some run =>
      obtain ⟨member, named⟩ := Table.find?_some _ _ _ found
      by_cases foreign : run.orgId = orgId
      · by_cases live : run.state.isTerminal = false
        · rw [← foreign, ← named] at done
          rw [← named]
          exact completes_ensures _ _ (requestCancel_halts env db run coherent member live) after done
        · simp only [requestCancel, found, foreign, ne_eq, not_true_eq_false, if_false] at done
          cases state : run.state <;> simp [state, RunState.isTerminal] at live done
      · simp [requestCancel, found, foreign] at done

end Halting

end Yaaos.Pipelines
