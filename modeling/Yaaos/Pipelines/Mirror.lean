import Yaaos.Pipelines.Progress
import Yaaos.Pipelines.Slots

set_option autoImplicit false

namespace Yaaos.Pipelines

open Yaaos.Base

-- What is left of a pause that a cancel or a kill closed: a cancel gives it no resolution.
def RunPause.Stops (pause : RunPause) : Prop :=
  pause.resolvedAt ≠ none ∧ (pause.resolution = none ∨ pause.resolution = some .kill)

structure Unstopped (run : PipelineRun) : Prop where
  spared : ∀ pause ∈ run.pauses, ¬ pause.Stops
  undecided : ∀ pause ∈ run.pauses, pause.resolvedAt = none → pause.resolution = none

inductive Shown (run : PipelineRun) : TicketStatus → Prop where
  | running (state : run.state = .running) (unstopped : Unstopped run) : Shown run .running
  | stopping (state : run.state = .running) (closing : Closing run) (stopped : ∃ pause ∈ run.pauses, pause.Stops) :
      Shown run .hitl
  | paused (state : run.state = .paused) (unstopped : Unstopped run) : Shown run .hitl
  | ended (target : TerminalState) (state : run.state = target.state) : Shown run target.ticketStatus

inductive Mirrors (db : Db) (ticket : Ticket) : List Uuid → Prop where
  | unstarted (status : ticket.status = .pending) (current : ticket.currentRunId = none) : Mirrors db ticket []
  | first (run : PipelineRun) (member : run ∈ db.runs.rows) (own : run.ticketId = ticket.id)
      (current : ticket.currentRunId = some run.id) (shown : Shown run ticket.status) : Mirrors db ticket [run.id]
  | later (run : PipelineRun) (member : run ∈ db.runs.rows) (own : run.ticketId = ticket.id)
      (ended : run.state.isTerminal = true) (shown : Shown run ticket.status) (between : List Uuid) (key : Uuid)
      (current : ticket.currentRunId = some key) : Mirrors db ticket (run.id :: between ++ [key])

def Mirrored (db : Db) (ticketId : Uuid) (promoted : List Uuid) : Prop :=
  db.tickets.find? ticketId = none ∧ promoted = [] ∨
    ∃ ticket, db.tickets.find? ticketId = some ticket ∧ Mirrors db ticket promoted

theorem unstopped_same (run next : PipelineRun) (pauses : next.pauses = run.pauses) (unstopped : Unstopped run) :
    Unstopped next := by
  obtain ⟨spared, undecided⟩ := unstopped
  rw [← pauses] at spared undecided
  exact ⟨spared, undecided⟩

theorem unstopped_empty (run : PipelineRun) (pauses : run.pauses = []) : Unstopped run := by
  constructor <;> simp [pauses]

theorem turns_unstopped (env : Env) (start last : Session) (turns : Turns env start last) (unstopped : Unstopped start.run) :
    Unstopped last.run := by
  cases turns with
  | works steady => exact unstopped_same start.run _ steady.pauses unstopped
  | pauses paused row tripped owners kickoff steady same =>
      obtain ⟨spared, undecided⟩ := unstopped_same start.run _ steady.pauses unstopped
      rw [same]
      constructor
      · intro pause member
        rcases List.mem_cons.mp member with isNew | older
        · rw [isNew]
          exact fun stops => stops.1 rfl
        · exact spared pause older
      · intro pause member
        rcases List.mem_cons.mp member with isNew | older
        · rw [isNew]
          exact fun _ => rfl
        · exact undecided pause older
  | ends ended target reason steady same =>
      rw [same]
      exact unstopped_same start.run _ steady.pauses unstopped

theorem revived_unstopped (db : Db) (run : PipelineRun) (pause closed : RunPause) (revived : Session)
    (answering : Answering db run pause closed) (revives : Revived db run closed revived)
    (action : ∃ chosen, closed.resolution = some chosen ∧ chosen ≠ .kill) (unstopped : Unstopped run) :
    Unstopped revived.run := by
  obtain ⟨chosen, resolution, alive⟩ := action
  constructor
  · intro other member
    rw [revives.pauses] at member
    obtain ⟨before, listed, same⟩ := List.mem_map.mp member
    split at same
    · rw [← same, RunPause.Stops, resolution]
      rintro ⟨_, cancelled | killed⟩
      · cases cancelled
      · exact alive (Option.some.inj killed)
    · rw [← same]
      exact unstopped.spared before listed
  · intro other member
    rw [revives.pauses] at member
    obtain ⟨before, listed, same⟩ := List.mem_map.mp member
    split at same
    · rw [← same]
      exact fun opened => absurd opened answering.resolved
    · rw [← same]
      exact unstopped.undecided before listed

theorem shown_unqueued (run : PipelineRun) (status : TicketStatus) (shown : Shown run status) : run.state ≠ .queued := by
  intro queued
  cases shown with
  | running state => rw [queued] at state; cases state
  | stopping state => rw [queued] at state; cases state
  | paused state => rw [queued] at state; cases state
  | ended target state => rw [queued] at state; cases target <;> cases state

theorem terminal_grounded (run : PipelineRun) (terminal : run.state.isTerminal = true) : run.inFlight = false := by
  rw [PipelineRun.inFlight]
  cases state : run.state <;> simp_all [RunState.isTerminal]

theorem shown_grounded (run : PipelineRun) (status : TicketStatus) (shown : Shown run status)
    (grounded : run.inFlight = false) : run.state.isTerminal = true := by
  cases shown with
  | running state => simp [PipelineRun.inFlight, state] at grounded
  | stopping state => simp [PipelineRun.inFlight, state] at grounded
  | paused state => simp [PipelineRun.inFlight, state] at grounded
  | ended target state =>
      rw [state]
      cases target <;> rfl

theorem shown_ended (run : PipelineRun) (status : TicketStatus) (shown : Shown run status)
    (terminal : run.state.isTerminal = true) : status.isTerminal = true := by
  cases shown with
  | running state => rw [state] at terminal; cases terminal
  | stopping state => rw [state] at terminal; cases terminal
  | paused state => rw [state] at terminal; cases terminal
  | ended target state => cases target <;> rfl

theorem shown_live (run : PipelineRun) (status : TicketStatus) (shown : Shown run status) (flies : run.inFlight = true) :
    status.isTerminal = false := by
  cases shown with
  | running state => rfl
  | stopping state => rfl
  | paused state => rfl
  | ended target state =>
      have terminal : run.state.isTerminal = true := by
        rw [state]
        cases target <;> rfl
      rw [terminal_grounded run terminal] at flies
      cases flies

structure Reflects (run next : PipelineRun) : Prop where
  id : next.id = run.id
  ticketId : next.ticketId = run.ticketId
  shown : ∀ status, Shown run status → Shown next status
  ended : run.state.isTerminal = true → next.state.isTerminal = true

theorem reflects_refl (run : PipelineRun) : Reflects run run := ⟨rfl, rfl, fun _ shown => shown, fun ended => ended⟩

theorem reflects_flagged (run : PipelineRun) : Reflects run { run with cancelRequested := true } := by
  refine ⟨rfl, rfl, fun status shown => ?_, fun ended => ended⟩
  cases shown with
  | running state unstopped => exact .running state (unstopped_same run _ rfl unstopped)
  | paused state unstopped => exact .paused state (unstopped_same run _ rfl unstopped)
  | ended target state => exact .ended target state
  | stopping state closing stopped =>
      refine .stopping state ?_ stopped
      cases closing with
      | cleaning row rest running rows active kind named parked =>
          exact .cleaning row rest running rows active kind named parked
      | ended terminal => exact .ended terminal

theorem mirrored_carried (before after : Db) (ticketId : Uuid) (promoted : List Uuid)
    (tickets : (after.tickets.find? ticketId).map Ticket.standing = (before.tickets.find? ticketId).map Ticket.standing)
    (rows : ∀ run ∈ before.runs.rows, run.ticketId = ticketId → run.state ≠ .queued →
      ∃ next ∈ after.runs.rows, Reflects run next)
    (mirrored : Mirrored before ticketId promoted) : Mirrored after ticketId promoted := by
  rcases mirrored with ⟨absent, none_⟩ | ⟨ticket, found, mirrors⟩
  · rw [absent] at tickets
    exact .inl ⟨Option.map_eq_none_iff.mp tickets, none_⟩
  · rw [found] at tickets
    obtain ⟨next, nextFound, same⟩ := Option.map_eq_some_iff.mp tickets
    have id : ticket.id = ticketId := (Table.find?_some _ _ _ found).2
    have nextId : next.id = ticket.id := (Table.find?_some _ _ _ nextFound).2.trans id.symm
    simp only [Ticket.standing, Prod.mk.injEq] at same
    obtain ⟨_, status, current⟩ := same
    refine .inr ⟨next, nextFound, ?_⟩
    cases mirrors with
    | unstarted pending idle => exact .unstarted (status.trans pending) (current.trans idle)
    | first run member own names shown =>
        obtain ⟨row, rowMember, reflects⟩ := rows run member (own.trans id) (shown_unqueued run _ shown)
        rw [← reflects.id]
        exact .first row rowMember (by rw [reflects.ticketId, own, nextId]) (by rw [current, names, reflects.id])
          (by rw [status]; exact reflects.shown _ shown)
    | later run member own ended shown between key names =>
        obtain ⟨row, rowMember, reflects⟩ := rows run member (own.trans id) (shown_unqueued run _ shown)
        rw [← reflects.id]
        exact .later row rowMember (by rw [reflects.ticketId, own, nextId]) (reflects.ended ended)
          (by rw [status]; exact reflects.shown _ shown) between key (current.trans names)

theorem updateTicket_other (db : Db) (owner ticketId : Uuid) (selected : Ticket → Bool) (change : Ticket → Ticket)
    (kept : ∀ row, (change row).id = row.id) (different : owner ≠ ticketId) :
    (db.updateTicket owner selected change kept).tickets.find? ticketId = db.tickets.find? ticketId := by
  rw [Db.updateTicket, Table.find?_update]
  cases found : db.tickets.find? ticketId with
  | none => rfl
  | some row =>
      have id : row.id = ticketId := (Table.find?_some _ _ _ found).2
      have missed : (row.id == owner) = false := by
        rw [id, beq_eq_false_iff_ne]
        exact different.symm
      rw [Option.map_some, missed, Bool.false_and]
      rfl

theorem updateTicket_own (db : Db) (ticketId : Uuid) (selected : Ticket → Bool) (change : Ticket → Ticket)
    (kept : ∀ row, (change row).id = row.id) (ticket : Ticket) (found : db.tickets.find? ticketId = some ticket) :
    (db.updateTicket ticketId selected change kept).tickets.find? ticketId =
      some (if selected ticket then change ticket else ticket) := by
  have id : ticket.id = ticketId := (Table.find?_some _ _ _ found).2
  have hit : (ticket.id == ticketId) = true := by
    rw [id]
    exact beq_self_eq_true ticketId
  rw [Db.updateTicket, Table.find?_update, found, Option.map_some, hit, Bool.true_and]

def Ticket.moved (ticket : Ticket) (from_ : TicketStatus → Bool) (newStatus : TicketStatus) : Ticket :=
  { ticket with status := if from_ ticket.status then newStatus else ticket.status }

theorem moved_live (ticket : Ticket) (newStatus : TicketStatus) (live : ticket.status.isTerminal = false) :
    (ticket.moved (fun status => !status.isTerminal) newStatus).status = newStatus := by
  rw [Ticket.moved, live]
  rfl

theorem moved_ended (ticket : Ticket) (newStatus : TicketStatus) (ended : ticket.status.isTerminal = true) :
    (ticket.moved (fun status => !status.isTerminal) newStatus).status = ticket.status := by
  rw [Ticket.moved, ended]
  rfl

theorem transitionTicket_own (db : Db) (ticketId orgId runId : Uuid) (from_ : TicketStatus → Bool)
    (newStatus : TicketStatus) (ticket : Ticket) (found : db.tickets.find? ticketId = some ticket)
    (org : ticket.orgId = orgId) (current : ticket.currentRunId = some runId) :
    (transitionTicket db ticketId orgId runId from_ newStatus).tickets.find? ticketId =
      some (ticket.moved from_ newStatus) := by
  have selected : (ticket.orgId == orgId && ticket.currentRunId == some runId && from_ ticket.status) =
      from_ ticket.status := by
    rw [org, current, beq_self_eq_true, beq_self_eq_true, Bool.true_and, Bool.true_and]
  rw [transitionTicket, updateTicket_own db ticketId _ _ _ ticket found]
  simp only [selected, Ticket.moved]
  split <;> rfl

theorem transitionTicket_other (db : Db) (owner ticketId orgId runId : Uuid) (from_ : TicketStatus → Bool)
    (newStatus : TicketStatus) (different : owner ≠ ticketId) :
    (transitionTicket db owner orgId runId from_ newStatus).tickets.find? ticketId = db.tickets.find? ticketId := by
  rw [transitionTicket]
  exact updateTicket_other db owner ticketId _ _ _ different

theorem attemptPromotion_ticket (db : Db) (run : PipelineRun) (ticket : Ticket) (queued : run.state = .queued)
    (free : slotTaken db run ≠ true) (found : db.tickets.find? run.ticketId = some ticket)
    (org : ticket.orgId = run.orgId) :
    (attemptPromotion db run).tickets.find? run.ticketId =
      some { ticket with
        currentRunId := some run.id, status := if ticket.status = .pending then .running else ticket.status } := by
  rw [attemptPromotion, if_neg (not_not.mpr queued), if_neg free]
  have named := updateTicket_own (db.saveRun { run with state := .running }) run.ticketId (fun _ => true)
    (fun row => { row with currentRunId := some run.id }) (fun _ => rfl) ticket found
  rw [if_pos rfl] at named
  have started := transitionTicket_own _ run.ticketId run.orgId run.id (fun status => status == .pending) .running _
    named org rfl
  simp only [Ticket.moved, beq_iff_eq] at started
  exact started

theorem attemptPromotion_otherTicket (db : Db) (run : PipelineRun) (ticketId : Uuid) (different : run.ticketId ≠ ticketId) :
    (attemptPromotion db run).tickets.find? ticketId = db.tickets.find? ticketId := by
  rw [attemptPromotion]
  split
  · rfl
  · split
    · rfl
    · rw [Db.enqueue, transitionTicketOnRunStart, transitionTicket_other _ _ _ _ _ _ _ different, setCurrentRun,
        updateTicket_other _ _ _ _ _ _ different]
      rfl

theorem promoteOldestQueued_otherTicket (db : Db) (owner ticketId : Uuid) (different : owner ≠ ticketId) :
    (promoteOldestQueued db owner).tickets.find? ticketId = db.tickets.find? ticketId := by
  rw [promoteOldestQueued]
  cases found : oldestQueued db owner with
  | none => rfl
  | some run =>
      obtain ⟨_, hit, _⟩ := firstWhere_some _ _ _ run found
      simp only [Bool.and_eq_true, beq_iff_eq] at hit
      exact attemptPromotion_otherTicket db run ticketId (by rw [hit.1]; exact different)

theorem enterPause_tickets (env : Env) (session : Session) (row : StageExecution) (tripped : List TrippedCondition)
    (owners : List Uuid) (kickoff : Kickoff) :
    (enterPause env session row tripped owners kickoff).db.tickets =
      (transitionTicketOnRunPaused session.db session.run.ticketId session.run.orgId session.run.id).tickets := by
  cases owned : session.run.workspaceId with
  | none =>
      simp [enterPause, Session.put, Session.addPause, owned, transitionTicketOnRunPaused, transitionTicket, Db.updateTicket]
  | some workspaceId =>
      simp [enterPause, Session.put, Session.addPause, owned, transitionTicketOnRunPaused, transitionTicket, Db.updateTicket,
        extendExpiry, Db.updateWorkspace]

theorem promotedBy_called (ticketId : Uuid) (line : Line Uuid) (db after : Db) (run : PipelineRun)
    (on : LinesOn ticketId line db after) (member : run ∈ after.runs.rows) (own : run.ticketId = ticketId)
    (flies : run.inFlight = true) (grounded : ∀ old ∈ db.runs.rows, old.id = run.id → old.inFlight = false) :
    promotedBy db after ticketId = [run.id] := by
  obtain ⟨later, lines, _⟩ := on
  rw [← own]
  refine promotedBy_one db after run member flies grounded fun other otherMember otherOwn otherFlies => ?_
  exact lines_one ticketId later after other run lines otherMember member (otherOwn.trans own) own otherFlies flies

theorem promotion_mirrors (db : Db) (run : PipelineRun) (ticket : Ticket) (promoted : List Uuid)
    (member : run ∈ db.runs.rows) (queued : run.state = .queued) (pauses : run.pauses = [])
    (free : slotTaken db run ≠ true) (found : db.tickets.find? run.ticketId = some ticket)
    (org : ticket.orgId = run.orgId) (mirrors : Mirrors db ticket promoted) :
    Mirrored (attemptPromotion db run) run.ticketId (promoted ++ [run.id]) := by
  have id : ticket.id = run.ticketId := (Table.find?_some _ _ _ found).2
  refine .inr ⟨_, attemptPromotion_ticket db run ticket queued free found org, ?_⟩
  have past (old : PipelineRun) (oldMember : old ∈ db.runs.rows) (own : old.ticketId = ticket.id)
      (shown : Shown old ticket.status) :
      old ∈ (attemptPromotion db run).runs.rows ∧ old.state.isTerminal = true ∧
        Shown old (if ticket.status = .pending then .running else ticket.status) := by
    have busy := shown_unqueued old _ shown
    have grounded : old.inFlight = false := by
      refine Bool.eq_false_iff.mpr fun flies => free ((slotTaken_iff db run).mpr ?_)
      refine ⟨old, oldMember, own.trans id, fun same => busy ?_, flies⟩
      rw [Table.eq_of_key db.runs old run oldMember member same]
      exact queued
    have terminal := shown_grounded old _ shown grounded
    have past : ticket.status ≠ .pending := by
      intro pending
      have ended := shown_ended old _ shown terminal
      rw [pending] at ended
      cases ended
    rw [if_neg past]
    exact ⟨attemptPromotion_keeps db run old oldMember member busy, terminal, shown⟩
  cases mirrors with
  | unstarted pending current =>
      have stored : { run with state := .running } ∈ (attemptPromotion db run).runs.rows := by
        rw [(attemptPromotion_runs db run queued).2, if_neg free]
        exact saveRun_own db { run with state := .running } run member rfl
      refine .first { run with state := .running } stored id.symm rfl ?_
      rw [if_pos pending]
      exact .running rfl (unstopped_empty _ pauses)
  | first old oldMember own current shown =>
      obtain ⟨kept, terminal, still⟩ := past old oldMember own shown
      refine .later old kept ?_ terminal ?_ [] run.id rfl
      · exact own
      · exact still
  | later old oldMember own ended shown between key current =>
      obtain ⟨kept, terminal, still⟩ := past old oldMember own shown
      rw [List.cons_append]
      refine .later old kept ?_ terminal ?_ (between ++ [key]) run.id ?_
      · exact own
      · exact still
      · rfl

section Turning

variable (ticketId : Uuid) (line : Line Uuid) (db : Db)

inductive Follows (ticket : Ticket) (run : PipelineRun) : List Uuid → Prop where
  | first (live : ticket.status.isTerminal = false) : Follows ticket run [run.id]
  | later (first : PipelineRun) (member : first ∈ db.runs.rows) (own : first.ticketId = ticketId)
      (different : first.id ≠ run.id) (ended : first.state.isTerminal = true) (shown : Shown first ticket.status)
      (between : List Uuid) : Follows ticket run (first.id :: between ++ [run.id])

theorem mirrors_follows (ticket : Ticket) (run : PipelineRun) (lines : Lines db ticketId line)
    (found : db.tickets.find? ticketId = some ticket) (mirrors : Mirrors db ticket line.served)
    (member : run ∈ db.runs.rows) (own : run.ticketId = ticketId) (flies : run.inFlight = true) :
    ticket.currentRunId = some run.id ∧ Follows ticketId db ticket run line.served ∧
      (line.served = [run.id] → Shown run ticket.status) := by
  have id : ticket.id = ticketId := (Table.find?_some _ _ _ found).2
  have last := (lines.holder run member own flies).2
  generalize line.served = served at mirrors last
  cases mirrors with
  | unstarted pending current => cases last
  | first old oldMember oldOwn current shown =>
      have same : old = run := Table.eq_of_key db.runs old run oldMember member (Option.some.inj last)
      rw [same] at current shown ⊢
      exact ⟨current, .first (shown_live run _ shown flies), fun _ => shown⟩
  | later old oldMember oldOwn ended shown between key current =>
      rw [List.getLast?_concat] at last
      have isKey : key = run.id := Option.some.inj last
      have different : old.id ≠ run.id := by
        intro same
        rw [Table.eq_of_key db.runs old run oldMember member same] at ended
        rw [terminal_grounded run ended] at flies
        cases flies
      rw [isKey] at current ⊢
      refine ⟨current, .later old oldMember (oldOwn.trans id) different ended shown between, fun only => ?_⟩
      exact absurd (List.cons.inj only).1 different

theorem follows_mirrors (after : Db) (ticket next : Ticket) (run last : PipelineRun) (served : List Uuid)
    (follows : Follows ticketId db ticket run served) (member : last ∈ after.runs.rows) (id : last.id = run.id)
    (own : last.ticketId = ticketId)
    (others : ∀ row ∈ db.runs.rows, row.id ≠ run.id → row.state ≠ .queued → row ∈ after.runs.rows)
    (nextId : next.id = ticketId) (current : next.currentRunId = some run.id)
    (moves : ticket.status.isTerminal = false → served = [run.id] → Shown last next.status)
    (rests : ticket.status.isTerminal = true → next.status = ticket.status) : Mirrors after next served := by
  cases follows with
  | first live =>
      have shown := moves live rfl
      rw [← id] at current ⊢
      exact .first last member (own.trans nextId.symm) current shown
  | later first firstMember firstOwn different ended shown between =>
      refine .later first (others first firstMember different (shown_unqueued first _ shown)) ?_ ended ?_ between run.id
        current
      · exact firstOwn.trans nextId.symm
      · rw [rests (shown_ended first _ shown ended)]
        exact shown

theorem promoteOldestQueued_mirrors (settled : Db) (ticket : Ticket)
    (on : LinesOn ticketId line db (promoteOldestQueued settled ticketId))
    (grounded : ∀ row ∈ settled.runs.rows, row.ticketId = ticketId → row.inFlight = false)
    (queuedBefore : ∀ row ∈ settled.runs.rows, row.state = .queued → row ∈ db.runs.rows)
    (unbegun : ∀ row ∈ db.runs.rows, row.state = .queued → row.pauses = [])
    (found : settled.tickets.find? ticketId = some ticket)
    (org : ∀ row ∈ settled.runs.rows, row.ticketId = ticketId → ticket.orgId = row.orgId)
    (mirrors : Mirrors settled ticket line.served) :
    Mirrored (promoteOldestQueued settled ticketId) ticketId
      (line.served ++ promotedBy db (promoteOldestQueued settled ticketId) ticketId) := by
  cases chosen : oldestQueued settled ticketId with
  | none =>
      have same : promoteOldestQueued settled ticketId = settled := by
        rw [promoteOldestQueued, chosen]
      rw [same, promotedBy_none db settled ticketId, List.append_nil]
      · exact .inr ⟨ticket, found, mirrors⟩
      · intro row member own flies
        rw [grounded row member own] at flies
        cases flies
  | some run =>
      obtain ⟨member, hit, _⟩ := firstWhere_some _ _ _ run chosen
      simp only [Bool.and_eq_true, beq_iff_eq] at hit
      obtain ⟨own, queued⟩ := hit
      have same : promoteOldestQueued settled ticketId = attemptPromotion settled run := by
        rw [promoteOldestQueued, chosen]
      have free : slotTaken settled run ≠ true := by
        intro taken
        obtain ⟨other, otherMember, sameTicket, _, flies⟩ := (slotTaken_iff settled run).mp taken
        rw [grounded other otherMember (sameTicket.trans own)] at flies
        cases flies
      rw [same] at on ⊢
      have stored : { run with state := .running } ∈ (attemptPromotion settled run).runs.rows := by
        rw [(attemptPromotion_runs settled run queued).2, if_neg free]
        exact saveRun_own settled { run with state := .running } run member rfl
      have called := promotedBy_called ticketId line db _ { run with state := .running } on stored own rfl
        fun old oldMember sameId => by
          rw [Table.eq_of_key db.runs old run oldMember (queuedBefore run member queued) sameId, PipelineRun.inFlight, queued]
          rfl
      rw [called]
      rw [← own] at found ⊢
      exact promotion_mirrors settled run ticket line.served member queued
        (unbegun run (queuedBefore run member queued) queued) free found (org run member own) mirrors

theorem turns_mirrors (env : Env) (start last : Session) (run : PipelineRun) (ticket : Ticket)
    (lines : Lines db ticketId line) (on : LinesOn ticketId line db last.commit)
    (orgs : ∀ row ∈ db.runs.rows, row.ticketId = ticketId → ticket.orgId = row.orgId) (member : run ∈ db.runs.rows)
    (own : run.ticketId = ticketId) (flies : run.inFlight = true) (id : start.run.id = run.id)
    (owner : start.run.ticketId = run.ticketId) (org : start.run.orgId = run.orgId) (running : start.run.state = .running)
    (runs : start.db.runs = db.runs) (nextId : db.nextId ≤ start.db.nextId)
    (unbegun : ∀ row ∈ db.runs.rows, row.state = .queued → row.pauses = []) (turns : Turns env start last)
    (found : start.db.tickets.find? ticketId = some ticket) (current : ticket.currentRunId = some run.id)
    (follows : Follows ticketId db ticket run line.served)
    (shows : line.served = [run.id] → last.run.state = .running → Shown last.run ticket.status)
    (rests : line.served = [run.id] → last.run.state = .paused → Unstopped last.run) :
    Mirrored last.commit ticketId (line.served ++ promotedBy db last.commit ticketId) := by
  have ticketKey : ticket.id = ticketId := (Table.find?_some _ _ _ found).2
  have lastId := (turns_id env start last turns).trans id
  have lastOwn : last.run.ticketId = ticketId := (turns_ticketId env start last turns).trans (owner.trans own)
  have others (row : PipelineRun) (rowMember : row ∈ db.runs.rows) (different : row.id ≠ run.id) (busy : row.state ≠ .queued) :
      row ∈ last.commit.runs.rows :=
    turns_others env db start last run row member id runs turns rowMember different busy
  have placed (stays : last.run.inFlight = true) : promotedBy db last.commit ticketId = [] :=
    placed_promotedBy db last.commit ticketId
      (turns_placed ticketId db env start last run member flies id owner runs nextId turns fun _ => stays)
  cases turns with
  | works steady =>
      have state := steady.state.trans running
      have stored : last.run ∈ last.commit.runs.rows :=
        saveRun_own last.db last.run run (by rw [steady.runs, runs]; exact member) lastId.symm
      rw [placed ((inFlight_iff last.run).mpr (.inl state)), List.append_nil]
      refine .inr ⟨ticket, ?_, ?_⟩
      · show last.db.tickets.find? ticketId = some ticket
        rw [steady.tickets]
        exact found
      · exact follows_mirrors ticketId db last.commit ticket ticket run last.run line.served follows stored lastId lastOwn
          others ticketKey current (fun _ only => shows only state) fun _ => rfl
  | pauses paused row tripped owners kickoff steady same =>
      have state : last.run.state = .paused := by
        rw [same]
        rfl
      have stored : last.run ∈ last.commit.runs.rows := by
        refine saveRun_own last.db last.run run ?_ lastId.symm
        rw [same, (enterPause_keeps env paused row tripped owners kickoff).1, steady.runs, runs]
        exact member
      rw [placed ((inFlight_iff last.run).mpr (.inr state)), List.append_nil]
      have moved := transitionTicket_own paused.db ticketId paused.run.orgId paused.run.id
        (fun status => !status.isTerminal) .hitl ticket (by rw [steady.tickets]; exact found)
        (by rw [steady.orgId, org]; exact orgs run member own) (by rw [steady.id, id]; exact current)
      refine .inr ⟨_, ?_, follows_mirrors ticketId db last.commit ticket
        (ticket.moved (fun status => !status.isTerminal) .hitl) run last.run line.served follows stored lastId
        lastOwn others ticketKey current (fun live only => ?_) (moved_ended ticket .hitl)⟩
      · show last.db.tickets.find? ticketId = _
        rw [same, enterPause_tickets, steady.ticketId, owner, own]
        exact moved
      · rw [moved_live ticket .hitl live]
        exact .paused state (rests only state)
  | ends ended target reason steady same =>
      obtain ⟨settled, committed, saved, _, tickets⟩ :=
        ends_settled env db start ended run target reason member id runs steady
      rw [← same] at saved
      have terminal : last.run.state.isTerminal = true := by
        rw [same]
        exact enterTerminal_terminal env ended target reason
      have split (row : PipelineRun) (rowMember : row ∈ settled.runs.rows) :
          row = last.run ∨ row ∈ db.runs.rows ∧ row.id ≠ run.id := by
        rw [saved] at rowMember
        exact (saveRun_rows db last.run row rowMember).imp_right fun ⟨earlier, different⟩ => ⟨earlier, by
          rw [← lastId]
          exact different⟩
      have moved := transitionTicket_own ended.db ticketId ended.run.orgId ended.run.id
        (fun status => !status.isTerminal) target.ticketStatus ticket (by rw [steady.tickets]; exact found)
        (by rw [steady.orgId, org]; exact orgs run member own) (by rw [steady.id, id]; exact current)
      have settles : settled.tickets.find? ticketId =
          some (ticket.moved (fun status => !status.isTerminal) target.ticketStatus) := by
        rw [tickets, steady.ticketId, owner, own]
        exact moved
      have after : last.commit = promoteOldestQueued settled ticketId := by
        rw [same, committed, steady.ticketId, owner, own]
      rw [after] at on ⊢
      refine promoteOldestQueued_mirrors ticketId line db settled _ on ?_ ?_ unbegun settles ?_ ?_
      · intro row rowMember rowOwn
        rcases split row rowMember with isLast | ⟨earlier, different⟩
        · rw [isLast]
          exact terminal_grounded last.run terminal
        · refine Bool.eq_false_iff.mpr fun rowFlies => different ?_
          rw [lines_one ticketId line db row run lines earlier member rowOwn own rowFlies flies]
      · intro row rowMember queued
        rcases split row rowMember with isLast | ⟨earlier, _⟩
        · rw [← isLast, queued] at terminal
          cases terminal
        · exact earlier
      · intro row rowMember rowOwn
        rcases split row rowMember with isLast | ⟨earlier, _⟩
        · rw [isLast, same]
          show ticket.orgId = ended.run.orgId
          rw [steady.orgId, org]
          exact orgs run member own
        · exact orgs row earlier rowOwn
      · refine follows_mirrors ticketId db settled ticket _ run last.run line.served follows ?_ lastId lastOwn ?_ ticketKey
          current (fun live _ => ?_) (moved_ended ticket target.ticketStatus)
        · rw [saved]
          exact saveRun_own db last.run run member lastId.symm
        · intro row rowMember different _
          rw [saved]
          exact saveRun_other db last.run row rowMember (by rw [lastId]; exact different)
        · rw [moved_live ticket target.ticketStatus live]
          refine .ended target ?_
          rw [same]
          rfl

theorem turns_otherTicket (env : Env) (start last : Session) (run : PipelineRun) (member : run ∈ db.runs.rows)
    (id : start.run.id = run.id) (runs : start.db.runs = db.runs) (turns : Turns env start last)
    (different : start.run.ticketId ≠ ticketId) :
    last.commit.tickets.find? ticketId = start.db.tickets.find? ticketId := by
  cases turns with
  | works steady => exact congrArg (Table.find? · ticketId) steady.tickets
  | pauses paused row tripped owners kickoff steady same =>
      rw [← steady.ticketId] at different
      rw [← steady.tickets, same]
      show (enterPause env paused row tripped owners kickoff).db.tickets.find? ticketId = _
      rw [enterPause_tickets, transitionTicketOnRunPaused, transitionTicket_other _ _ _ _ _ _ _ different]
  | ends ended target reason steady same =>
      obtain ⟨settled, committed, _, _, tickets⟩ :=
        ends_settled env db start ended run target reason member id runs steady
      rw [← steady.ticketId] at different
      rw [← steady.tickets, same, committed, promoteOldestQueued_otherTicket settled _ ticketId different, tickets,
        transitionTicketOnRunTerminal, transitionTicket_other _ _ _ _ _ _ _ different]

theorem turns_away (env : Env) (start last : Session) (run : PipelineRun) (member : run ∈ db.runs.rows)
    (away : run.ticketId ≠ ticketId) (flies : run.inFlight = true) (id : start.run.id = run.id)
    (owner : start.run.ticketId = run.ticketId) (runs : start.db.runs = db.runs) (nextId : db.nextId ≤ start.db.nextId)
    (turns : Turns env start last) (tickets : start.db.tickets.find? ticketId = db.tickets.find? ticketId)
    (mirrored : Mirrored db ticketId line.served) :
    Mirrored last.commit ticketId (line.served ++ promotedBy db last.commit ticketId) := by
  rw [placed_promotedBy db last.commit ticketId
    (turns_placed ticketId db env start last run member flies id owner runs nextId turns fun own => absurd own away),
    List.append_nil]
  refine mirrored_carried db last.commit ticketId line.served ?_ (fun row rowMember own busy => ?_) mirrored
  · rw [turns_otherTicket ticketId db env start last run member id runs turns (by rw [owner]; exact away), tickets]
  · refine ⟨row, turns_others env db start last run row member id runs turns rowMember (fun same => away ?_) busy,
      reflects_refl row⟩
    rw [← Table.eq_of_key db.runs row run rowMember member same]
    exact own

theorem closing_unpaused (run : PipelineRun) (closing : Closing run) : run.state ≠ .paused := by
  intro paused
  cases closing with
  | cleaning row rest running => rw [paused] at running; cases running
  | ended terminal => rw [paused] at terminal; cases terminal

theorem turns_running (env : Env) (start last : Session) (turns : Turns env start last) (running : last.run.state = .running) :
    Steady start last := by
  cases turns with
  | works steady => exact steady
  | pauses paused row tripped owners kickoff steady same => rw [same] at running; cases running
  | ends ended target reason steady same =>
      have terminal := enterTerminal_terminal env ended target reason
      rw [← same, running] at terminal
      cases terminal

theorem insertRun_mirrored (run : PipelineRun) (state : run.state = .queued) (pauses : run.pauses = []) (id : run.id = db.nextId)
    (ticketed : ∃ ticket, db.tickets.find? run.ticketId = some ticket ∧ ticket.orgId = run.orgId)
    (bound : ∀ row ∈ db.runs.rows, row.id < db.nextId) (mirrored : Mirrored db ticketId line.served)
    (on : LinesOn ticketId line db (insertRun db run)) :
    Mirrored (insertRun db run) ticketId (line.served ++ promotedBy db (insertRun db run) ticketId) := by
  rcases insertRun_inserted db run with same | ⟨queued, inserted, same⟩
  · rw [same, placed_promotedBy db db ticketId (placed_same db db ticketId rfl (Nat.le_refl _)), List.append_nil]
    exact mirrored
  · rw [same] at on ⊢
    have entered := inserted_entered db queued run inserted
    have queues : Mirrored queued ticketId line.served :=
      mirrored_carried db queued ticketId line.served (by rw [inserted.tickets])
        (fun row member _ _ => ⟨row, inserted_kept db queued run row inserted member, reflects_refl row⟩) mirrored
    by_cases own : run.ticketId = ticketId
    · by_cases taken : slotTaken queued run = true
      · have waits : attemptPromotion queued run = queued := by
          rw [attemptPromotion, if_neg (not_not.mpr state), if_pos taken]
        rw [waits, promotedBy_none db queued ticketId, List.append_nil]
        · exact queues
        · intro row member _ flies
          rcases inserted_split db queued run row inserted member with earlier | isRun
          · exact ⟨row, earlier, rfl, flies⟩
          · rw [isRun, PipelineRun.inFlight, state] at flies
            cases flies
      · have stored : { run with state := .running } ∈ (attemptPromotion queued run).runs.rows := by
          rw [(attemptPromotion_runs queued run state).2, if_neg taken]
          exact saveRun_own queued { run with state := .running } run entered rfl
        have called := promotedBy_called ticketId line db _ { run with state := .running } on stored own rfl
          fun row member hit => absurd (hit ▸ bound row member) (by rw [id]; exact Nat.lt_irrefl _)
        rw [called]
        rw [← own] at queues ⊢
        obtain ⟨ticket, found, org⟩ := ticketed
        rw [← inserted.tickets] at found
        rcases queues with ⟨absent, _⟩ | ⟨other, otherFound, mirrors⟩
        · rw [found] at absent
          cases absent
        · rw [found] at otherFound
          cases otherFound
          exact promotion_mirrors queued run ticket line.served entered state pauses taken found org mirrors
    · rw [placed_promotedBy db _ ticketId (inserted_placed ticketId db queued run inserted state own), List.append_nil]
      refine mirrored_carried queued _ ticketId line.served ?_ (fun row member _ busy => ?_) queues
      · rw [attemptPromotion_otherTicket queued run ticketId own]
      · exact ⟨row, attemptPromotion_keeps queued run row member entered busy, reflects_refl row⟩

end Turning

def Ticket.Unowned (ticket : Ticket) : Prop := ticket.status = .pending ∧ ticket.currentRunId = none

section Stepping

variable (ticketId : Uuid) (line : Line Uuid) (db : Db)

theorem ticket_orgs (coherent : Coherent db) (ticket : Ticket) (found : db.tickets.find? ticketId = some ticket) :
    ∀ row ∈ db.runs.rows, row.ticketId = ticketId → ticket.orgId = row.orgId := by
  intro row member own
  obtain ⟨other, otherFound, org⟩ := (coherent.sound row member).ticketed
  rw [own, found] at otherFound
  cases otherFound
  exact org

theorem mirrored_follows (run : PipelineRun) (coherent : Coherent db) (lines : Lines db ticketId line)
    (mirrored : Mirrored db ticketId line.served) (member : run ∈ db.runs.rows) (own : run.ticketId = ticketId)
    (flies : run.inFlight = true) :
    ∃ ticket, db.tickets.find? ticketId = some ticket ∧ ticket.currentRunId = some run.id ∧
      Follows ticketId db ticket run line.served ∧ (line.served = [run.id] → Shown run ticket.status) := by
  obtain ⟨ticket, found, _⟩ := (coherent.sound run member).ticketed
  rw [own] at found
  rcases mirrored with ⟨absent, _⟩ | ⟨other, otherFound, mirrors⟩
  · rw [found] at absent
    cases absent
  · rw [found] at otherFound
    cases otherFound
    exact ⟨ticket, found, mirrors_follows ticketId line db ticket run lines found mirrors member own flies⟩

theorem follows_resumed (ticket : Ticket) (run : PipelineRun) (served : List Uuid)
    (follows : Follows ticketId db ticket run served) :
    Follows ticketId db (ticket.moved (fun status => status == .hitl) .running) run served := by
  cases follows with
  | first live =>
      refine .first ?_
      rw [Ticket.moved]
      simp only
      split
      · rfl
      · exact live
  | later first member own different ended shown between =>
      refine .later first member own different ended ?_ between
      have past : (ticket.status == .hitl) = false := by
        have terminal := shown_ended first _ shown ended
        refine Bool.eq_false_iff.mpr fun hitl => ?_
        rw [beq_iff_eq.mp hitl] at terminal
        cases terminal
      rw [Ticket.moved, past]
      exact shown

theorem shown_paused (run : PipelineRun) (status : TicketStatus) (shown : Shown run status) (paused : run.state = .paused) :
    status = .hitl := by
  cases shown with
  | running state => rw [paused] at state; cases state
  | stopping state => rfl
  | paused state => rfl
  | ended target state => rw [paused] at state; cases target <;> cases state

theorem shown_unstopped (run : PipelineRun) (status : TicketStatus) (shown : Shown run status) (paused : run.state = .paused) :
    Unstopped run := by
  cases shown with
  | running state unstopped => exact unstopped
  | stopping state => rw [paused] at state; cases state
  | paused state unstopped => exact unstopped
  | ended target state => rw [paused] at state; cases target <;> cases state

theorem shown_runs (run : PipelineRun) (status : TicketStatus) (shown : Shown run status) (running : run.state = .running) :
    Unstopped run ∨ Closing run := by
  cases shown with
  | running state unstopped => exact .inl unstopped
  | stopping state closing => exact .inr closing
  | paused state => rw [running] at state; cases state
  | ended target state => rw [running] at state; cases target <;> cases state

theorem shown_running (run last : PipelineRun) (status : TicketStatus) (shown : Shown run status)
    (before : run.state = .running) (state : last.state = .running) (pauses : last.pauses = run.pauses)
    (closes : Closing run → Closes run last) : Shown last status := by
  cases shown with
  | running _ unstopped => exact .running state (unstopped_same run last pauses unstopped)
  | paused paused => rw [before] at paused; cases paused
  | ended target ended => rw [before] at ended; cases target <;> cases ended
  | stopping _ closing stopped =>
      refine .stopping state (closes closing).closing ?_
      rw [pauses]
      exact stopped

theorem moves_mirrored {created : Ticket → Prop} (after : Db) (coherent : Coherent db) (lines : Lines db ticketId line)
    (moves : Moves created db after) (unowned : ∀ ticket, created ticket → ticket.Unowned)
    (mirrored : Mirrored db ticketId line.served) :
    Mirrored after ticketId (line.served ++ promotedBy db after ticketId) := by
  have on := moves_on ticketId line db after coherent moves lines
  have unbegun (row : PipelineRun) (member : row ∈ db.runs.rows) (queued : row.state = .queued) : row.pauses = [] :=
    (stands_unbegun _ _ row (coherent.stands row member) queued).pauses
  have bound (row : PipelineRun) (member : row ∈ db.runs.rows) : row.id < db.nextId := (coherent.sound row member).bound
  have unmoved (runs : after.runs = db.runs) (nextId : db.nextId ≤ after.nextId) :
      promotedBy db after ticketId = [] :=
    placed_promotedBy db after ticketId (placed_same db after ticketId runs nextId)
  have saved (run next : PipelineRun) (member : run ∈ db.runs.rows) (id : next.id = run.id)
      (owner : next.ticketId = run.ticketId) (state : next.inFlight = run.inFlight)
      (reflects : run.state ≠ .queued → Reflects run next) (isAfter : after = db.saveRun next) :
      Mirrored after ticketId (line.served ++ promotedBy db after ticketId) := by
    rw [isAfter, promotedBy_none db _ ticketId, List.append_nil]
    · refine mirrored_carried db _ ticketId line.served rfl (fun row rowMember own busy => ?_) mirrored
      by_cases hit : row.id = run.id
      · rw [Table.eq_of_key db.runs row run rowMember member hit] at busy ⊢
        exact ⟨next, saveRun_own db next run member id.symm, reflects busy⟩
      · exact ⟨row, saveRun_other db next row rowMember (by rw [id]; exact hit), reflects_refl row⟩
    · intro row rowMember own flies
      rcases saveRun_rows db next row rowMember with same | ⟨earlier, _⟩
      · rw [same] at flies ⊢
        exact ⟨run, member, id.symm, state.symm.trans flies⟩
      · exact ⟨row, earlier, rfl, flies⟩
  cases moves with
  | rests _ runs nextId tickets =>
      rw [unmoved runs nextId, List.append_nil]
      refine mirrored_carried db after ticketId line.served (tickets ticketId) (fun row member _ _ => ?_) mirrored
      exact ⟨row, by rw [runs]; exact member, reflects_refl row⟩
  | opens ticket creates =>
      rw [unmoved rfl (Nat.le_refl _), List.append_nil]
      have kept (same : ((db.tickets.insert? ticket).getD db.tickets).find? ticketId = db.tickets.find? ticketId) :
          Mirrored { db with tickets := (db.tickets.insert? ticket).getD db.tickets } ticketId line.served :=
        mirrored_carried db _ ticketId line.served (congrArg _ same) (fun row member _ _ => ⟨row, member, reflects_refl row⟩)
          mirrored
      cases inserted : db.tickets.insert? ticket with
      | none =>
          rw [inserted] at kept
          exact kept rfl
      | some table =>
          rw [inserted] at kept
          have finds := Table.find?_insert db.tickets table ticket ticketId inserted
          rcases mirrored with ⟨absent, none_⟩ | ⟨old, found, _⟩
          · by_cases own : ticket.id = ticketId
            · rw [absent, if_pos own] at finds
              obtain ⟨pending, idle⟩ := unowned ticket creates
              rw [none_]
              exact .inr ⟨ticket, finds, .unstarted pending idle⟩
            · rw [absent, if_neg own] at finds
              exact kept (finds.trans absent.symm)
          · rw [found] at finds
            exact kept (finds.trans found.symm)
  | starts orgId owner pipelineId flattened kickoff current triggeredByUserId ticketed =>
      exact insertRun_mirrored ticketId line db _ rfl rfl rfl ticketed bound mirrored on
  | flags run member state =>
      exact saved run { run with cancelRequested := true } member rfl rfl rfl (fun _ => reflects_flagged run) rfl
  | withdraws env run member state =>
      refine saved run { run with state := .cancelled, completedAt := some env.now } member rfl rfl ?_
        (fun busy => absurd state busy) rfl
      rw [PipelineRun.inFlight, PipelineRun.inFlight, state]
      rfl
  | works env opened run last member state runs tickets nextId turns closes =>
      have flies := (inFlight_iff run).mpr (.inl state)
      by_cases own : run.ticketId = ticketId
      · obtain ⟨ticket, found, current, follows, shown⟩ :=
          mirrored_follows ticketId line db run coherent lines mirrored member own flies
        refine turns_mirrors ticketId line db env ⟨opened, run⟩ last run ticket lines on
          (ticket_orgs ticketId db coherent ticket found) member own flies rfl rfl rfl state runs
          (Nat.le_of_eq nextId.symm) unbegun turns (by rw [tickets]; exact found) current follows
          (fun only running => ?_) fun only paused => ?_
        · exact shown_running run last.run _ (shown only) state running
            (turns_running env ⟨opened, run⟩ last turns running).pauses closes
        · rcases shown_runs run _ (shown only) state with unstopped | closing
          · exact turns_unstopped env ⟨opened, run⟩ last turns unstopped
          · exact absurd paused (closing_unpaused last.run (closes closing).closing)
      · exact turns_away ticketId line db env ⟨opened, run⟩ last run member own flies rfl rfl runs
          (Nat.le_of_eq nextId.symm) turns (congrArg (Table.find? · ticketId) tickets) mirrored
  | resumes env run pause closed revived last answering revives tickets action turns =>
      have flies := (inFlight_iff run).mpr (.inr answering.state)
      have low := Nat.le_of_eq revives.nextId.symm
      by_cases own : run.ticketId = ticketId
      · obtain ⟨ticket, found, current, follows, shown⟩ :=
          mirrored_follows ticketId line db run coherent lines mirrored answering.member own flies
        have orgs := ticket_orgs ticketId db coherent ticket found
        have spared (only : line.served = [run.id]) : Unstopped revived.run :=
          revived_unstopped db run pause closed revived answering revives action
            (shown_unstopped run _ (shown only) answering.state)
        have resumed := transitionTicket_own db ticketId run.orgId run.id (fun status => status == .hitl) .running ticket
          found (orgs run answering.member own) current
        refine turns_mirrors ticketId line db env revived last run
          (ticket.moved (fun status => status == .hitl) .running) lines on orgs answering.member own flies revives.id
          revives.ticketId revives.orgId revives.state revives.runs low unbegun turns ?_ current
          (follows_resumed ticketId db ticket run line.served follows) (fun only running => ?_) fun only _ =>
            turns_unstopped env revived last turns (spared only)
        · rw [tickets, transitionTicketOnRunResumed, own]
          exact resumed
        · rw [Ticket.moved, shown_paused run _ (shown only) answering.state]
          exact .running running (turns_unstopped env revived last turns (spared only))
      · refine turns_away ticketId line db env revived last run answering.member own flies revives.id revives.ticketId
          revives.runs low turns ?_ mirrored
        rw [tickets, transitionTicketOnRunResumed, transitionTicket_other _ _ _ _ _ _ _ own]
  | stops env run pause closed revived last answering revives tickets turns closing stopped rows =>
      have flies := (inFlight_iff run).mpr (.inr answering.state)
      have low := Nat.le_of_eq revives.nextId.symm
      by_cases own : run.ticketId = ticketId
      · obtain ⟨ticket, found, current, follows, shown⟩ :=
          mirrored_follows ticketId line db run coherent lines mirrored answering.member own flies
        refine turns_mirrors ticketId line db env revived last run ticket lines on
          (ticket_orgs ticketId db coherent ticket found) answering.member own flies revives.id revives.ticketId
          revives.orgId revives.state revives.runs low unbegun turns (by rw [tickets]; exact found) current follows
          (fun only running => ?_) fun _ paused => absurd paused (closing_unpaused last.run closing)
        rw [shown_paused run _ (shown only) answering.state]
        refine .stopping running closing ⟨closed, ?_, answering.resolved, ?_⟩
        · rw [(turns_running env revived last turns running).pauses, revives.pauses]
          exact answering_closed db run pause closed answering
        · have undecided := (shown_unstopped run _ (shown only) answering.state).undecided pause answering.paused
            answering.opened
          rwa [undecided] at stopped
      · exact turns_away ticketId line db env revived last run answering.member own flies revives.id revives.ticketId
          revives.runs low turns (congrArg (Table.find? · ticketId) tickets) mirrored

end Stepping

def ticketEngine : Machine Db Label EngineError where
  initial := fun db => Fresh db ∧ ∀ ticket ∈ db.tickets.rows, ticket.Unowned
  allowed := fun db label => label.Allowed db ∧ ∀ ticket, label = .createTicket ticket → ticket.Unowned
  step := engineStep

theorem path_mirrored (ticketId : Uuid) (db last : Db) (labels : List Label) (line : Line Uuid) (coherent : Coherent db)
    (lines : Lines db ticketId line) (mirrored : Mirrored db ticketId line.served)
    (path : Path ticketEngine db labels last) :
    Mirrored last ticketId (line.served ++ promotions ticketId db labels) := by
  induction path generalizing line with
  | nil state =>
      rw [promotions, List.append_nil]
      exact mirrored
  | cons state middle last label labels allowed taken rest ih =>
      have moves := engineStep_moves state label coherent allowed.1 middle taken
      obtain ⟨next, nextLines, served⟩ := moves_on ticketId line state middle coherent moves lines
      have step := moves_mirrored ticketId line state middle coherent lines moves allowed.2 mirrored
      rw [← served] at step
      have later := ih next (engine_inductive.kept state label middle coherent allowed.1 taken) nextLines step
      have same : runEngine.committed label state = middle := by
        show ticketEngine.committed label state = middle
        rw [Machine.committed, taken]
      rw [promotions, same, ← List.append_assoc, ← served]
      exact later

-- A ticket mirrors the first run that is promoted on it.
theorem tickets_mirror (start last : Db) (labels : List Label) (initial : ticketEngine.initial start)
    (path : Path ticketEngine start labels last) (ticket : Ticket) (member : ticket ∈ last.tickets.rows) :
    Mirrors last ticket (promotions ticket.id start labels) := by
  have unstarted : Mirrored start ticket.id [] := by
    cases found : start.tickets.find? ticket.id with
    | none => exact .inl ⟨found, rfl⟩
    | some old =>
        obtain ⟨pending, idle⟩ := initial.2 old (Table.find?_some _ _ _ found).1
        exact .inr ⟨old, found, .unstarted pending idle⟩
  have mirrored := path_mirrored ticket.id start last labels .empty (fresh_coherent start initial.1)
    (fresh_lines ticket.id start initial.1) unstarted path
  rcases mirrored with ⟨absent, _⟩ | ⟨other, found, mirrors⟩
  · rw [Table.find?_of_mem last.tickets ticket member] at absent
    cases absent
  · rw [Table.find?_of_mem last.tickets ticket member] at found
    cases found
    exact mirrors

theorem sampleInitial : ticketEngine.initial (.empty 10) :=
  ⟨⟨rfl, rfl, rfl, rfl, rfl, rfl⟩, fun _ none_ => (by cases none_)⟩

theorem sampleTicket_unowned (ticket : Ticket) (creates : Label.createTicket sampleTicket = .createTicket ticket) :
    ticket.Unowned := by
  cases creates
  exact ⟨rfl, rfl⟩

theorem unowned_other (label : Label) (other : ∀ ticket, label ≠ .createTicket ticket) :
    ∀ ticket, label = .createTicket ticket → ticket.Unowned := fun ticket same => absurd same (other ticket)

theorem sampleTwice_owned : ticketEngine.Commits (.empty 10) sampleTwice := by
  have delivers (position : Nat) := unowned_other (.deliver (sampleEnv sampleActions) position) (by simp)
  have starts := unowned_other (.startRun (sampleEnv sampleActions) 1 2 3 sampleKickoff none) (by simp)
  exact ⟨⟨trivial, sampleTicket_unowned⟩, rfl, ⟨⟨sampleTicket, rfl, rfl⟩, starts⟩, rfl, ⟨⟨_, rfl, rfl⟩, starts⟩, rfl,
    ⟨trivial, delivers 0⟩, rfl, ⟨trivial, delivers 0⟩, rfl, ⟨trivial, delivers 0⟩, rfl, ⟨trivial, delivers 0⟩, rfl,
    ⟨trivial, delivers 0⟩, rfl, trivial⟩

theorem sampleTwice_mirrored :
    ∃ ticket, (ticketEngine.after (.empty 10) sampleTwice).tickets.find? 2 = some ticket ∧
      Mirrors (ticketEngine.after (.empty 10) sampleTwice) ticket [10, 11] :=
  ⟨_, rfl, tickets_mirror (.empty 10) (ticketEngine.after (.empty 10) sampleTwice) sampleTwice sampleInitial
    (commits_path ticketEngine (.empty 10) sampleTwice sampleTwice_owned) _ (Table.find?_some _ 2 _ rfl).1⟩

def sampleFailing : Env := { sampleEnv sampleActions with runAction := fun _ _ => .actionError "refused" }

def sampleRerun : List Label :=
  [.createTicket sampleTicket, .startRun sampleFailing 1 2 3 sampleKickoff none, .deliver sampleFailing 0,
    .deliver sampleFailing 0, .deliver sampleFailing 0, .startRerun sampleFailing 1 10 sampleActor none]

theorem sampleRerun_commits : ticketEngine.Commits (.empty 10) sampleRerun := by
  have delivers := unowned_other (.deliver sampleFailing 0) (by simp)
  exact ⟨⟨trivial, sampleTicket_unowned⟩, rfl,
    ⟨⟨sampleTicket, rfl, rfl⟩, unowned_other (.startRun sampleFailing 1 2 3 sampleKickoff none) (by simp)⟩, rfl,
    ⟨trivial, delivers⟩, rfl, ⟨trivial, delivers⟩, rfl, ⟨trivial, delivers⟩, rfl,
    ⟨trivial, unowned_other (.startRerun sampleFailing 1 10 sampleActor none) (by simp)⟩, rfl, trivial⟩

-- The rerun of a failed ticket runs while its ticket stays failed.
theorem rerun_unmirrored :
    Reachable ticketEngine (ticketEngine.after (.empty 10) sampleRerun) ∧
      ∃ ticket run, (ticketEngine.after (.empty 10) sampleRerun).tickets.find? 2 = some ticket ∧
        (ticketEngine.after (.empty 10) sampleRerun).runs.find? 12 = some run ∧ ticket.currentRunId = some 12 ∧
          run.state = .running ∧ ticket.status = .failed :=
  ⟨⟨.empty 10, sampleRerun, sampleInitial, commits_path ticketEngine (.empty 10) sampleRerun sampleRerun_commits⟩,
    _, _, rfl, rfl, rfl, rfl, rfl⟩

end Yaaos.Pipelines
