import Yaaos.Pipelines.Orders
import Yaaos.Pipelines.WindDown

set_option autoImplicit false

namespace Yaaos.Pipelines

open Yaaos.Base

def SameRows (before after : PipelineRun) : Prop :=
  after.stageExecutions.map (fun row => (row.id, row.kind)) = before.stageExecutions.map fun row => (row.id, row.kind)

structure Closes (before after : PipelineRun) : Prop where
  closing : Closing after
  rows : SameRows before after
  cancelRequested : after.cancelRequested = before.cancelRequested

structure Answering (db : Db) (run : PipelineRun) (pause closed : RunPause) : Prop where
  member : run ∈ db.runs.rows
  state : run.state = .paused
  paused : pause ∈ run.pauses
  opened : pause.resolvedAt = none
  id : closed.id = pause.id
  names : closed.stageExecutionId = pause.stageExecutionId
  resolved : closed.resolvedAt ≠ none

structure Revived (db : Db) (run : PipelineRun) (closed : RunPause) (revived : Session) : Prop where
  id : revived.run.id = run.id
  orgId : revived.run.orgId = run.orgId
  ticketId : revived.run.ticketId = run.ticketId
  state : revived.run.state = .running
  pauses : revived.run.pauses = run.pauses.map fun other => if other.id = closed.id then closed else other
  counts : revived.run.sendbackCounts = run.sendbackCounts
  runs : revived.db.runs = db.runs
  nextId : revived.db.nextId = db.nextId

def Ticket.standing (ticket : Ticket) : Uuid × TicketStatus × Option Uuid := (ticket.orgId, ticket.status, ticket.currentRunId)

inductive Moves (created : Ticket → Prop) (db : Db) : Db → Prop where
  | rests (after : Db) (runs : after.runs = db.runs) (nextId : db.nextId ≤ after.nextId)
      (tickets : ∀ ticketId, (after.tickets.find? ticketId).map Ticket.standing =
        (db.tickets.find? ticketId).map Ticket.standing) : Moves created db after
  | opens (ticket : Ticket) (creates : created ticket) :
      Moves created db { db with tickets := (db.tickets.insert? ticket).getD db.tickets }
  | starts (orgId ticketId : Uuid) (pipelineId : Option Uuid) (flattened : FlattenedDefinition) (kickoff : Kickoff)
      (current : Option Nat) (triggeredByUserId : Option Uuid)
      (ticketed : ∃ ticket, db.tickets.find? ticketId = some ticket ∧ ticket.orgId = orgId) :
      Moves created db
        (insertRun db (newRun db.nextId orgId ticketId pipelineId flattened kickoff current triggeredByUserId))
  | flags (run : PipelineRun) (member : run ∈ db.runs.rows) (state : run.state = .running) :
      Moves created db (db.saveRun { run with cancelRequested := true })
  | withdraws (env : Env) (run : PipelineRun) (member : run ∈ db.runs.rows) (state : run.state = .queued) :
      Moves created db (db.saveRun { run with state := .cancelled, completedAt := some env.now })
  | works (env : Env) (opened : Db) (run : PipelineRun) (last : Session) (member : run ∈ db.runs.rows)
      (state : run.state = .running) (runs : opened.runs = db.runs) (tickets : opened.tickets = db.tickets)
      (nextId : opened.nextId = db.nextId) (turns : Turns env ⟨opened, run⟩ last)
      (closes : Closing run → Closes run last.run) : Moves created db last.commit
  | resumes (env : Env) (run : PipelineRun) (pause closed : RunPause) (revived last : Session)
      (answering : Answering db run pause closed) (revives : Revived db run closed revived)
      (tickets : revived.db.tickets = (transitionTicketOnRunResumed db run.ticketId run.orgId run.id).tickets)
      (action : ∃ chosen, closed.resolution = some chosen ∧ chosen ≠ .kill) (turns : Turns env revived last) :
      Moves created db last.commit
  | stops (env : Env) (run : PipelineRun) (pause closed : RunPause) (revived last : Session)
      (answering : Answering db run pause closed) (revives : Revived db run closed revived)
      (tickets : revived.db.tickets = db.tickets) (turns : Turns env revived last) (closing : Closing last.run)
      (stopped : closed.resolution = pause.resolution ∨ closed.resolution = some .kill)
      (rows : last.run.stageExecutions = run.stageExecutions ∨
        ∃ row, row.kind = .system ∧ last.run.stageExecutions = row :: run.stageExecutions) : Moves created db last.commit

variable {created : Ticket → Prop}

theorem dispatchCleanupStage_rows (session : Session) :
    Ensures (dispatchCleanupStage session) fun after =>
      after.run.cancelRequested = session.run.cancelRequested ∧
        ∃ row, row.kind = .system ∧ after.run.stageExecutions = row :: session.run.stageExecutions := by
  rw [dispatchCleanupStage]
  let row := newExecution session.db.nextId none .system systemStageCleanup
  cases requested : session.run.workspaceId with
  | none =>
      have none_ : (session.addExecution row).run.workspaceId = none := requested
      simp only
      rw [none_]
      exact ensures_error _ _
  | some workspaceId =>
      have some_ : (session.addExecution row).run.workspaceId = some workspaceId := requested
      simp only
      rw [some_]
      refine ensures_bind _ _ (fun after => after.run = (session.addExecution row).run) _ ?_ fun after same => ?_
      · rw [dispatchCleanup]
        exact ensures_read _ _ _ fun db _ => ensures_ok _ _ rfl
      · refine ensures_ok _ _ ?_
        simp only [same]
        exact ⟨rfl, row, rfl, rfl⟩

theorem finishOrCleanup_rows (env : Env) (session : Session) (target : TerminalState) (reason : Option String) :
    Ensures (finishOrCleanup env session target reason) fun after =>
      after.run.cancelRequested = session.run.cancelRequested ∧
        (after.run.stageExecutions = session.run.stageExecutions ∨
          ∃ row, row.kind = .system ∧ after.run.stageExecutions = row :: session.run.stageExecutions) := by
  rw [finishOrCleanup]
  simp only
  split
  · exact ensures_mono _ _ _ (dispatchCleanupStage_rows _) fun after rows => ⟨rows.1, .inr rows.2⟩
  · exact ensures_ok _ _ ⟨rfl, .inl rfl⟩

theorem enterTerminal_commit (env : Env) (last : Session) (target : TerminalState) (reason : Option String)
    (stored : ∃ row ∈ last.db.runs.rows, row.id = last.run.id) :
    (enterTerminal env last target reason).commit = (enterTerminal env last target reason).db := by
  let final : PipelineRun :=
    { last.run with state := target.state, failureReason := reason, completedAt := some env.now }
  have terminal : final.state.isTerminal = true := by
    cases target <;> rfl
  have saved : final ∈ (last.db.saveRun final).runs.rows := by
    obtain ⟨row, member, same⟩ := stored
    exact saveRun_own last.db final row member same
  have promoted (db : Db) (member : final ∈ db.runs.rows) : final ∈ (promoteOldestQueued db final.ticketId).runs.rows := by
    rw [promoteOldestQueued]
    cases found : oldestQueued db final.ticketId with
    | none => exact member
    | some candidate =>
        obtain ⟨candidateMember, hit, _⟩ := firstWhere_some _ _ _ candidate found
        simp only [attemptPromotion]
        split
        · exact member
        · rename_i queued
          split
          · exact member
          · refine saveRun_other db { candidate with state := .running } final member fun same => ?_
            have isCandidate := Table.eq_of_key db.runs final candidate member candidateMember same
            rw [isCandidate, not_not.mp queued] at terminal
            cases terminal
  have hooked (hooks : List String) (db : Db) :
      (hooks.foldl (fun db hook => db.enqueue (.runTerminalHook hook final.orgId final.ticketId)) db).runs = db.runs := by
    induction hooks generalizing db with
    | nil => rfl
    | cons hook rest ih => exact ih _
  refine saveRun_stored _ final (promoted _ ?_)
  rw [hooked]
  exact saved

theorem handleAgentEventImpl_closing (env : Env) (db : Db) (run : PipelineRun) (args : AgentEventArgs)
    (running : run.state = .running) (distinct : (run.stageExecutions.map StageExecution.id).Nodup)
    (closing : Closing run) :
    Ensures (handleAgentEventImpl env ⟨db, run⟩ args) fun after => Closes run after.run := by
  by_cases stale : run.pendingAgentCommandId ≠ some args.agentCommandId
  · rw [handleAgentEventImpl_stale env ⟨db, run⟩ args stale]
    exact ensures_ok _ _ ⟨closing, rfl, rfl⟩
  · cases closing with
    | ended state => rw [running] at state; cases state
    | cleaning row rest state rows active kind named parked =>
        have put (next : StageExecution) (id : next.id = row.id) (same : next.kind = row.kind) :
            SameRows run ((⟨db, { run with pendingAgentCommandId := none }⟩ : Session).put next).run := by
          rw [SameRows, put_rows ⟨db, { run with pendingAgentCommandId := none }⟩ row next rest rows distinct id, rows,
            List.map_cons, List.map_cons, id, same]
        rw [closing_event env db run args row rest rows active kind (not_not.mp stale), handleSystemStageEvent]
        by_cases failed : args.outcomeLabel ≠ "success"
        · simp only [if_pos failed]
          refine ensures_read _ _ _ fun reason _ => ?_
          rw [if_pos named]
          exact ensures_ok _ _ ⟨.ended (finalizeAfterCleanup_terminal env _), put _ rfl rfl, rfl⟩
        · simp only [if_neg failed]
          rw [if_neg (by rw [named]; decide), if_pos named]
          exact ensures_ok _ _ ⟨.ended (finalizeAfterCleanup_terminal env _), put _ rfl rfl, rfl⟩

theorem closing_parked (run : PipelineRun) (running : run.state = .running) (idle : Idle run) : ¬ Closing run := by
  intro closing
  cases closing with
  | cleaning row rest state rows active kind named parked => exact parked idle.unparked
  | ended state => rw [running] at state; cases state

theorem rests_same (db after : Db) (runs : after.runs = db.runs) (nextId : db.nextId ≤ after.nextId)
    (tickets : after.tickets = db.tickets) : Moves created db after :=
  .rests after runs nextId fun ticketId => by rw [tickets]

theorem deliver_moves (env : Env) (db : Db) (position : Nat) (coherent : Coherent db) :
    Ensures (deliver env db position) (Moves created db) := by
  intro next taken
  cases deliver_delivered env db position next taken with
  | skips message at_ passed => exact rests_same db _ rfl (Nat.le_refl _) rfl
  | works message run last at_ named member running done =>
      refine .works env (db.taken position) run last member running rfl rfl rfl (work_turns env _ message last done)
        fun closing => ?_
      cases message with
      | routeRun args =>
          obtain ⟨free, _⟩ := routing_free db position run args coherent at_ member (Option.some.inj named).symm
          exact absurd closing (closing_parked run running free.idle)
      | startStage runId stageIndex =>
          rw [Option.some.inj named] at at_
          obtain ⟨_, _, _, free, _⟩ := starting_free db position run stageIndex coherent at_ member
          exact absurd closing (closing_parked run running free.idle)
      | handleAgentEvent args =>
          exact handleAgentEventImpl_closing env (db.taken position) run args running
            (coherent.sound run member).distinct closing last done
      | runTerminalHook hook orgId ticketId => cases named

section Answering

variable (env : Env) (db : Db) (run : PipelineRun) (pause closed : RunPause)

def answered (db : Db) (run : PipelineRun) (closed : RunPause) : Session :=
  ({ db := db, run := run } : Session).putPause closed

theorem revived_resume (kickoff : Kickoff) (current : Option Nat) :
    Revived db run closed
      (resume { answered db run closed with
        run := { (answered db run closed).run with kickoff := kickoff, currentStageIndex := current } }) :=
  ⟨rfl, rfl, rfl, rfl, rfl, rfl, rfl, rfl⟩

theorem answering_closed (answering : Answering db run pause closed) : closed ∈ (answered db run closed).run.pauses := by
  refine List.mem_map.mpr ⟨pause, answering.paused, ?_⟩
  rw [if_pos answering.id.symm]

theorem revived_stopped (cancelRequested : Bool) :
    Revived db run closed
      { answered db run closed with
        run := { (answered db run closed).run with state := .running, cancelRequested := cancelRequested } } :=
  ⟨rfl, rfl, rfl, rfl, rfl, rfl, rfl, rfl⟩

def Answers (last : Session) : Prop := ∃ revived, Revived db run closed revived ∧ Turns env revived last

theorem resolveWith_moves (resolution : PauseResolution) (answering : Answering db run pause closed)
    (action : closed.resolution = some resolution.action)
    (stored : run.workspaceId ≠ none → workspaceOf db run ≠ none) :
    Ensures (resolveWith env (answered db run closed) pause resolution) fun last =>
      Answers env db run closed last ∧ Moves created db last.commit := by
  have resumed (last : Session) (kickoff : Kickoff) (current : Option Nat) (spared : resolution.action ≠ .kill)
      (turns : Turns env (resume { answered db run closed with
        run := { (answered db run closed).run with kickoff := kickoff, currentStageIndex := current } }) last) :
      Answers env db run closed last ∧ Moves created db last.commit :=
    ⟨⟨_, revived_resume db run closed kickoff current, turns⟩,
      .resumes env run pause closed _ last answering (revived_resume db run closed kickoff current) rfl
        ⟨_, action, spared⟩ turns⟩
  rw [resolveWith]
  cases chosen : resolution.action with
  | approve =>
      refine ensures_read _ _ _ fun row _ => ensures_ok _ _ ?_
      exact resumed _ run.kickoff run.currentStageIndex (by rw [chosen]; decide) (.works (steady_enqueue _ _))
  | instruct =>
      refine ensures_read _ _ _ fun row _ => ?_
      rw [resumeWithInstruction]
      refine ensures_read _ _ _ fun stage _ => ?_
      cases stage.name? with
      | none => exact ensures_error _ _
      | some stageName =>
          refine ensures_mono _ _ _ (startStageImpl_steady env _ _) fun last steady => ?_
          exact resumed last _ _ (by rw [chosen]; decide) (.works steady)
  | sendBack =>
      refine ensures_read _ _ _ fun row _ => ensures_read _ _ _ fun target _ => ?_
      refine ensures_mono _ _ _ (sendBackToStage_worked env _ _ _ _ _ _ rfl) fun last worked => ?_
      have turns := worked_turns env _ _ worked
      exact resumed last run.kickoff run.currentStageIndex (by rw [chosen]; decide) turns
  | kill =>
      have closes := finishOrCleanup_closes env
        { answered db run closed with run := { (answered db run closed).run with state := .running } } .killed none rfl
        stored
      intro last done
      obtain ⟨_, rows⟩ := finishOrCleanup_rows env _ _ _ last done
      have turns := finishOrCleanup_turns env _ _ _ last done
      exact ⟨⟨_, revived_stopped db run closed run.cancelRequested, turns⟩,
        .stops env run pause closed _ last answering (revived_stopped db run closed run.cancelRequested) rfl turns
          (completes_ensures _ _ closes last done) (.inr (by rw [action, chosen])) rows⟩

theorem paused_stored (coherent : Coherent db) (member : run ∈ db.runs.rows) (paused : run.state = .paused) :
    run.workspaceId ≠ none → workspaceOf db run ≠ none := by
  intro _
  have stands : Stands (db.messagesFor run.id) (workspaceOf db run) run := coherent.stands run member
  cases stands with
  | paused row rest pause others state unparked quiet rows kind status pauses opened names closed silent phase unclaimed
      present => exact present
  | queued state => rw [paused] at state; cases state
  | routing args state => rw [paused] at state; cases state
  | starting index stage state => rw [paused] at state; cases state
  | parked command row rest state => rw [paused] at state; cases state
  | ended state => rw [paused] at state; cases state

theorem resolving_answering (pauseId : Uuid) (resolution : PauseResolution) (coherent : Coherent db)
    (resolving : Resolving db pauseId resolution run pause closed) : Answering db run pause closed where
  member := resolving.member
  state := (resolving_answered db pauseId resolution run pause closed coherent resolving).1
  paused := resolving.listed
  opened := resolving.opened
  id := resolving.id
  names := resolving.names
  resolved := resolving.resolved

theorem resolvePause_answers (orgId pauseId : Uuid) (resolution : PauseResolution) (actor : Actor)
    (coherent : Coherent db) :
    Ensures (resolvePause env db orgId pauseId resolution actor) fun next => ∃ run pause closed last,
      Answering db run pause closed ∧ resolveWith env (answered db run closed) pause resolution = .ok last ∧
        Answers env db run closed last ∧ Moves created db last.commit ∧ next = last.commit := by
  intro next taken
  obtain ⟨run, pause, closed, last, resolving, done, same⟩ :=
    resolvePause_resolves env db orgId pauseId resolution actor next taken
  have answering := resolving_answering db run pause closed pauseId resolution coherent resolving
  obtain ⟨answers, moves⟩ := resolveWith_moves env db run pause closed resolution answering resolving.action
    (paused_stored db run coherent answering.member answering.state) last done
  exact ⟨run, pause, closed, last, answering, done, answers, moves, same⟩

theorem resolvePause_moves (orgId pauseId : Uuid) (resolution : PauseResolution) (actor : Actor)
    (coherent : Coherent db) : Ensures (resolvePause env db orgId pauseId resolution actor) (Moves created db) := by
  intro next taken
  obtain ⟨_, _, _, _, _, _, _, moves, same⟩ := resolvePause_answers env db orgId pauseId resolution actor coherent next taken
  rw [same]
  exact moves

theorem requestCancel_moves (orgId runId : Uuid) (coherent : Coherent db) :
    Ensures (requestCancel env db orgId runId) (Moves created db) := by
  intro next taken
  cases requestCancel_cancels env db orgId runId next taken with
  | queued run member named state => exact .withdraws env run member state
  | running run member named state => exact .flags run member state
  | paused run pause last member named paused listed opened done =>
      let closed : RunPause := { pause with resolvedAt := some env.now }
      have answering : Answering db run pause closed :=
        ⟨member, paused, listed, opened, rfl, rfl, by intro same; cases same⟩
      have closes := finishOrCleanup_closes env
        { answered db run closed with
          run := { (answered db run closed).run with state := .running, cancelRequested := true } }
        .cancelled none rfl (paused_stored db run coherent member paused)
      obtain ⟨_, rows⟩ := finishOrCleanup_rows env _ _ _ last done
      exact .stops env run pause closed _ last answering (revived_stopped db run closed true) rfl
        (finishOrCleanup_turns env _ _ _ last done) (completes_ensures _ _ closes last done) (.inl rfl) rows

end Answering

theorem startRun_moves (env : Env) (db : Db) (orgId ticketId pipelineId : Uuid) (kickoff : Kickoff)
    (triggeredByUserId : Option Uuid)
    (ticketed : ∃ ticket, db.tickets.find? ticketId = some ticket ∧ ticket.orgId = orgId) :
    Ensures (startRun env db orgId ticketId pipelineId kickoff triggeredByUserId) (Moves created db) := by
  rw [startRun]
  cases env.pipelines orgId pipelineId with
  | none => exact ensures_error _ _
  | some pipeline => exact ensures_ok _ _ (.starts orgId ticketId _ _ _ _ _ ticketed)

theorem recordTerminalEvent_moves (db : Db) (event : TerminalEvent) :
    Ensures (recordTerminalEvent db event) (Moves created db) := by
  rw [recordTerminalEvent]
  cases db.agentCommands.find? fun row => row.id == event.commandId with
  | none => exact ensures_error _ _
  | some command =>
      simp only
      refine ensures_ok _ _ (rests_same db _ ?_ ?_ ?_)
      · split <;> rfl
      · split <;> exact Nat.le_refl _
      · split <;> rfl

theorem bindPullRequest_moves (db : Db) (ticketId prId : Uuid) :
    Moves created db (db.updateTicket ticketId (fun _ => true) (fun row => { row with prId := some prId }) fun _ => rfl) := by
  refine .rests _ rfl (Nat.le_refl _) fun other => ?_
  rw [Db.updateTicket, Table.find?_update, Option.map_map]
  refine congrArg (Option.map · (db.tickets.find? other)) (funext fun row => ?_)
  simp only [Function.comp]
  split <;> rfl

theorem dismissFinding_moves (db : Db) (findingId : Uuid) (event : FindingStatusEvent) :
    Ensures (dismissFinding db findingId event) (Moves created db) := by
  refine ensures_mono _ _ _ (transitionFinding_only .dismissed db findingId event) fun after only => ?_
  obtain ⟨nextId, findings, low, same⟩ := only
  rw [same]
  exact rests_same db _ rfl low rfl

theorem engineStep_moves (db : Db) (label : Label) (coherent : Coherent db) (allowed : label.Allowed db) :
    Ensures (engineStep db label) (Moves (fun ticket => label = .createTicket ticket) db) := by
  have inserted (next : Db) (started : Started db (label.Allowed db) next) :
      Moves (fun ticket => label = .createTicket ticket) db next := by
    obtain ⟨orgId, ticketId, _, _, _, _, _, ticketed, _⟩ := started
    exact .starts orgId ticketId _ _ _ _ _ (ticketed allowed)
  cases label with
  | startRun => exact ensures_mono _ _ _ (engineStep_started db _ rfl) inserted
  | startRerun => exact ensures_mono _ _ _ (engineStep_started db _ rfl) inserted
  | startRerunFromStage => exact ensures_mono _ _ _ (engineStep_started db _ rfl) inserted
  | requestCancel env orgId runId => exact requestCancel_moves env db orgId runId coherent
  | resolvePause env orgId pauseId resolution actor =>
      exact resolvePause_moves env db orgId pauseId resolution actor coherent
  | deliver env position => exact deliver_moves env db position coherent
  | terminalEvent event => exact recordTerminalEvent_moves db event
  | workspaceStatus workspaceId status => exact ensures_ok _ _ (rests_same db _ rfl (Nat.le_refl _) rfl)
  | createTicket ticket => exact ensures_ok _ _ (.opens ticket rfl)
  | bindPullRequest ticketId prId => exact ensures_ok _ _ (bindPullRequest_moves db ticketId prId)
  | dismissFinding findingId event => exact dismissFinding_moves db findingId event

inductive Came (db after : Db) (next : PipelineRun) : Prop where
  | kept (member : next ∈ db.runs.rows)
  | created (id : next.id = db.nextId) (rows : next.stageExecutions = []) (pauses : next.pauses = [])
      (counts : next.sendbackCounts = [])
  | promoted (old : PipelineRun) (member : old ∈ db.runs.rows) (queued : old.state = .queued)
      (same : next = { old with state := .running })
  | flagged (old : PipelineRun) (member : old ∈ db.runs.rows) (state : old.state = .running)
      (same : next = { old with cancelRequested := true })
  | withdrawn (old : PipelineRun) (member : old ∈ db.runs.rows) (queued : old.state = .queued) (completedAt : Option Nat)
      (same : next = { old with state := .cancelled, completedAt := completedAt })
  | worked (env : Env) (opened : Db) (old : PipelineRun) (last : Session) (member : old ∈ db.runs.rows)
      (state : old.state = .running) (nextId : opened.nextId = db.nextId) (turns : Turns env ⟨opened, old⟩ last)
      (closes : Closing old → Closes old last.run) (same : next = last.run)
      (commits : after = last.commit)
  | resumed (env : Env) (old : PipelineRun) (pause closed : RunPause) (revived last : Session)
      (answering : Answering db old pause closed) (revives : Revived db old closed revived)
      (action : closed.resolution ≠ some .kill) (turns : Turns env revived last) (same : next = last.run)
      (commits : after = last.commit)
  | stopped (env : Env) (old : PipelineRun) (pause closed : RunPause) (revived last : Session)
      (answering : Answering db old pause closed) (revives : Revived db old closed revived)
      (turns : Turns env revived last) (closing : Closing last.run)
      (rows : last.run.stageExecutions = old.stageExecutions ∨
        ∃ row, row.kind = .system ∧ last.run.stageExecutions = row :: old.stageExecutions) (same : next = last.run)
      (commits : after = last.commit)

theorem saveRun_runs (db other : Db) (run : PipelineRun) (same : db.runs = other.runs) :
    (db.saveRun run).runs = (other.saveRun run).runs := by
  rw [Db.saveRun, Db.saveRun]
  simp only [same]

theorem attemptPromotion_runs (db : Db) (run : PipelineRun) (queued : run.state = .queued) :
    (attemptPromotion db run).nextId = db.nextId ∧
      (attemptPromotion db run).runs =
        if slotTaken db run = true then db.runs else (db.saveRun { run with state := .running }).runs := by
  rw [attemptPromotion, if_neg (not_not.mpr queued)]
  by_cases taken : slotTaken db run = true
  · rw [if_pos taken, if_pos taken]
    exact ⟨rfl, rfl⟩
  · rw [if_neg taken, if_neg taken]
    exact ⟨rfl, rfl⟩

theorem attemptPromotion_split (db : Db) (run next : PipelineRun) (queued : run.state = .queued)
    (member : next ∈ (attemptPromotion db run).runs.rows) :
    next ∈ db.runs.rows ∨ next = { run with state := .running } := by
  rw [(attemptPromotion_runs db run queued).2] at member
  split at member
  · exact .inl member
  · rcases saveRun_rows db _ next member with same | ⟨earlier, _⟩
    · exact .inr same
    · exact .inl earlier

theorem attemptPromotion_ids (db : Db) (run row : PipelineRun) (queued : run.state = .queued)
    (member : row ∈ db.runs.rows) : ∃ next ∈ (attemptPromotion db run).runs.rows, next.id = row.id := by
  rw [(attemptPromotion_runs db run queued).2]
  split
  · exact ⟨row, member, rfl⟩
  · by_cases same : row.id = run.id
    · exact ⟨_, saveRun_own db { run with state := .running } row member same, same.symm⟩
    · exact ⟨row, saveRun_other db { run with state := .running } row member same, rfl⟩

structure Inserted (db queued : Db) (run : PipelineRun) : Prop where
  rows : queued.runs.rows = db.runs.rows ++ [run]
  tickets : queued.tickets = db.tickets
  nextId : queued.nextId = db.nextId + 1

theorem insertRun_inserted (db : Db) (run : PipelineRun) :
    insertRun db run = db ∨ ∃ queued, Inserted db queued run ∧ insertRun db run = attemptPromotion queued run := by
  rw [insertRun]
  cases inserted : db.runs.insert? run with
  | none => exact .inl rfl
  | some table =>
      exact .inr ⟨{ db with runs := table, nextId := db.nextId + 1 },
        ⟨(Table.insert?_some _ _ _ inserted).1, rfl, rfl⟩, rfl⟩

theorem inserted_kept (db queued : Db) (run row : PipelineRun) (inserted : Inserted db queued run)
    (member : row ∈ db.runs.rows) : row ∈ queued.runs.rows := by
  rw [inserted.rows]
  exact List.mem_append_left _ member

theorem inserted_entered (db queued : Db) (run : PipelineRun) (inserted : Inserted db queued run) :
    run ∈ queued.runs.rows := by
  rw [inserted.rows]
  exact List.mem_append_right _ (List.mem_singleton.mpr rfl)

theorem inserted_split (db queued : Db) (run row : PipelineRun) (inserted : Inserted db queued run)
    (member : row ∈ queued.runs.rows) : row ∈ db.runs.rows ∨ row = run := by
  rw [inserted.rows] at member
  simpa using member

theorem promoteOldestQueued_split (db : Db) (ticketId : Uuid) (next : PipelineRun)
    (member : next ∈ (promoteOldestQueued db ticketId).runs.rows) :
    next ∈ db.runs.rows ∨ ∃ old ∈ db.runs.rows, old.state = .queued ∧ next = { old with state := .running } := by
  rw [promoteOldestQueued] at member
  cases found : oldestQueued db ticketId with
  | none =>
      rw [found] at member
      exact .inl member
  | some candidate =>
      rw [found] at member
      obtain ⟨present, hit, _⟩ := firstWhere_some _ _ _ candidate found
      simp only [Bool.and_eq_true, beq_iff_eq] at hit
      rcases attemptPromotion_split db candidate next hit.2 member with earlier | same
      · exact .inl earlier
      · exact .inr ⟨candidate, present, hit.2, same⟩

theorem promoteOldestQueued_ids (db : Db) (ticketId : Uuid) (row : PipelineRun) (member : row ∈ db.runs.rows) :
    ∃ next ∈ (promoteOldestQueued db ticketId).runs.rows, next.id = row.id := by
  rw [promoteOldestQueued]
  cases found : oldestQueued db ticketId with
  | none => exact ⟨row, member, rfl⟩
  | some candidate =>
      obtain ⟨_, hit, _⟩ := firstWhere_some _ _ _ candidate found
      simp only [Bool.and_eq_true, beq_iff_eq] at hit
      exact attemptPromotion_ids db candidate row hit.2 member

theorem enterPause_keeps (env : Env) (session : Session) (row : StageExecution) (tripped : List TrippedCondition)
    (owners : List Uuid) (kickoff : Kickoff) :
    (enterPause env session row tripped owners kickoff).db.runs = session.db.runs ∧
      (enterPause env session row tripped owners kickoff).db.nextId = session.db.nextId + 1 := by
  cases owned : session.run.workspaceId with
  | none =>
      simp [enterPause, Session.put, Session.addPause, owned, transitionTicketOnRunPaused, transitionTicket, Db.updateTicket]
  | some workspaceId =>
      simp [enterPause, Session.put, Session.addPause, owned, transitionTicketOnRunPaused, transitionTicket, Db.updateTicket,
        extendExpiry, Db.updateWorkspace]

theorem enterTerminal_settled (env : Env) (session : Session) (target : TerminalState) (reason : Option String) :
    ∃ settled : Db, (enterTerminal env session target reason).db = promoteOldestQueued settled session.run.ticketId ∧
      settled.runs = (session.db.saveRun (enterTerminal env session target reason).run).runs ∧
        settled.nextId = session.db.nextId ∧
          settled.tickets = (transitionTicketOnRunTerminal session.db session.run.ticketId session.run.orgId session.run.id
            target.ticketStatus).tickets := by
  have hooked (hooks : List String) (start : Db) (orgId hookTicket : Uuid) :
      (hooks.foldl (fun db hook => db.enqueue (.runTerminalHook hook orgId hookTicket)) start).runs = start.runs ∧
        (hooks.foldl (fun db hook => db.enqueue (.runTerminalHook hook orgId hookTicket)) start).nextId = start.nextId ∧
          (hooks.foldl (fun db hook => db.enqueue (.runTerminalHook hook orgId hookTicket)) start).tickets =
            start.tickets := by
    induction hooks generalizing start with
    | nil => exact ⟨rfl, rfl, rfl⟩
    | cons hook rest ih => exact ih _
  obtain ⟨runs, nextId, tickets⟩ := hooked env.terminalHooks
    (transitionTicketOnRunTerminal (session.db.saveRun (enterTerminal env session target reason).run) session.run.ticketId
      session.run.orgId session.run.id target.ticketStatus) session.run.orgId session.run.ticketId
  exact ⟨_, rfl, runs, nextId, tickets⟩

theorem ends_settled (env : Env) (db : Db) (start ended : Session) (run : PipelineRun) (target : TerminalState)
    (reason : Option String) (member : run ∈ db.runs.rows) (id : start.run.id = run.id)
    (runs : start.db.runs = db.runs) (steady : Steady start ended) :
    ∃ settled : Db, (enterTerminal env ended target reason).commit = promoteOldestQueued settled ended.run.ticketId ∧
      settled.runs = (db.saveRun (enterTerminal env ended target reason).run).runs ∧
        settled.nextId = ended.db.nextId ∧
          settled.tickets = (transitionTicketOnRunTerminal ended.db ended.run.ticketId ended.run.orgId ended.run.id
            target.ticketStatus).tickets := by
  have stored : ∃ row ∈ ended.db.runs.rows, row.id = ended.run.id :=
    ⟨run, by rw [steady.runs, runs]; exact member, (steady.id.trans id).symm⟩
  obtain ⟨settled, promotes, settledRuns, settledId, tickets⟩ := enterTerminal_settled env ended target reason
  refine ⟨settled, ?_, ?_, settledId, tickets⟩
  · rw [enterTerminal_commit env ended target reason stored, promotes]
  · exact settledRuns.trans (saveRun_runs _ _ _ (steady.runs.trans runs))

theorem enterTerminal_terminal (env : Env) (session : Session) (target : TerminalState) (reason : Option String) :
    (enterTerminal env session target reason).run.state.isTerminal = true := by
  show target.state.isTerminal = true
  cases target <;> rfl

theorem enterTerminal_grounded (env : Env) (session : Session) (target : TerminalState) (reason : Option String) :
    (enterTerminal env session target reason).run.inFlight = false := by
  rw [PipelineRun.inFlight]
  show (target.state == .running || target.state == .paused) = false
  cases target <;> rfl

theorem attemptPromotion_keeps (db : Db) (run row : PipelineRun) (member : row ∈ db.runs.rows) (runMember : run ∈ db.runs.rows)
    (busy : row.state ≠ .queued) : row ∈ (attemptPromotion db run).runs.rows := by
  by_cases queued : run.state = .queued
  · rw [(attemptPromotion_runs db run queued).2]
    split
    · exact member
    · refine saveRun_other db { run with state := .running } row member fun same => busy ?_
      rw [Table.eq_of_key db.runs row run member runMember same]
      exact queued
  · rw [attemptPromotion, if_pos queued]
    exact member

theorem promoteOldestQueued_keeps (db : Db) (ticketId : Uuid) (row : PipelineRun) (member : row ∈ db.runs.rows)
    (busy : row.state ≠ .queued) : row ∈ (promoteOldestQueued db ticketId).runs.rows := by
  rw [promoteOldestQueued]
  cases found : oldestQueued db ticketId with
  | none => exact member
  | some candidate =>
      exact attemptPromotion_keeps db candidate row member (firstWhere_some _ _ _ candidate found).1 busy

theorem turns_split (env : Env) (db : Db) (start last : Session) (run next : PipelineRun) (member : run ∈ db.runs.rows)
    (id : start.run.id = run.id) (runs : start.db.runs = db.runs) (turns : Turns env start last)
    (nextMember : next ∈ last.commit.runs.rows) :
    next = last.run ∨ next ∈ db.runs.rows ∨ ∃ old ∈ db.runs.rows, old.state = .queued ∧ next = { old with state := .running } := by
  cases turns with
  | works steady =>
      rcases saveRun_rows last.db last.run next nextMember with same | ⟨earlier, _⟩
      · exact .inl same
      · rw [steady.runs, runs] at earlier
        exact .inr (.inl earlier)
  | pauses paused row tripped owners kickoff steady same =>
      rw [same] at nextMember ⊢
      rcases saveRun_rows _ _ next nextMember with same | ⟨earlier, _⟩
      · exact .inl same
      · rw [(enterPause_keeps env paused row tripped owners kickoff).1, steady.runs, runs] at earlier
        exact .inr (.inl earlier)
  | ends ended target reason steady same =>
      obtain ⟨settled, committed, saved, _⟩ := ends_settled env db start ended run target reason member id runs steady
      rw [same, committed] at nextMember
      have split (row : PipelineRun) (rowMember : row ∈ settled.runs.rows) : row = last.run ∨ row ∈ db.runs.rows := by
        rw [saved] at rowMember
        rcases saveRun_rows db _ row rowMember with own | ⟨earlier, _⟩
        · exact .inl (by rw [own, same])
        · exact .inr earlier
      rcases promoteOldestQueued_split settled _ next nextMember with earlier | ⟨old, oldMember, queued, promoted⟩
      · rcases split next earlier with own | kept
        · exact .inl own
        · exact .inr (.inl kept)
      · rcases split old oldMember with own | kept
        · have terminal := enterTerminal_terminal env ended target reason
          rw [← same, ← own, queued] at terminal
          cases terminal
        · exact .inr (.inr ⟨old, kept, queued, promoted⟩)

theorem turns_others (env : Env) (db : Db) (start last : Session) (run row : PipelineRun) (member : run ∈ db.runs.rows)
    (id : start.run.id = run.id) (runs : start.db.runs = db.runs) (turns : Turns env start last)
    (rowMember : row ∈ db.runs.rows) (different : row.id ≠ run.id) (busy : row.state ≠ .queued) :
    row ∈ last.commit.runs.rows := by
  have apart : row.id ≠ last.run.id := by
    rw [turns_id env start last turns, id]
    exact different
  cases turns with
  | works steady => exact saveRun_other last.db last.run row (by rw [steady.runs, runs]; exact rowMember) apart
  | pauses paused exec tripped owners kickoff steady same =>
      rw [same] at apart ⊢
      refine saveRun_other _ _ row ?_ apart
      rw [(enterPause_keeps env paused exec tripped owners kickoff).1, steady.runs, runs]
      exact rowMember
  | ends ended target reason steady same =>
      obtain ⟨settled, committed, saved, _⟩ := ends_settled env db start ended run target reason member id runs steady
      rw [same] at apart ⊢
      rw [committed]
      refine promoteOldestQueued_keeps settled _ row ?_ busy
      rw [saved]
      exact saveRun_other db _ row rowMember apart

theorem turns_ids (env : Env) (db : Db) (start last : Session) (run row : PipelineRun) (member : run ∈ db.runs.rows)
    (id : start.run.id = run.id) (runs : start.db.runs = db.runs) (turns : Turns env start last)
    (rowMember : row ∈ db.runs.rows) : ∃ next ∈ last.commit.runs.rows, next.id = row.id := by
  have saved (session : Session) (own : session.run.id = run.id) (same : session.db.runs = db.runs) :
      ∃ next ∈ session.commit.runs.rows, next.id = row.id := by
    by_cases hit : row.id = run.id
    · exact ⟨session.run, saveRun_own session.db session.run row (by rw [same]; exact rowMember) (hit.trans own.symm),
        own.trans hit.symm⟩
    · exact ⟨row, saveRun_other session.db session.run row (by rw [same]; exact rowMember) (by rw [own]; exact hit), rfl⟩
  cases turns with
  | works steady => exact saved last (steady.id.trans id) (steady.runs.trans runs)
  | pauses paused exec tripped owners kickoff steady same =>
      rw [same]
      exact saved _ (steady.id.trans id)
        ((enterPause_keeps env paused exec tripped owners kickoff).1.trans (steady.runs.trans runs))
  | ends ended target reason steady same =>
      obtain ⟨settled, committed, settledRuns, _⟩ := ends_settled env db start ended run target reason member id runs steady
      rw [same, committed]
      have present : ∃ next ∈ settled.runs.rows, next.id = row.id := by
        rw [settledRuns]
        by_cases hit : row.id = run.id
        · exact ⟨_, saveRun_own db _ row rowMember (hit.trans (steady.id.trans id).symm),
            (steady.id.trans id).trans hit.symm⟩
        · exact ⟨row, saveRun_other db _ row rowMember (fun same => hit (same.trans (steady.id.trans id))), rfl⟩
      obtain ⟨next, nextMember, sameId⟩ := present
      obtain ⟨later, laterMember, again⟩ := promoteOldestQueued_ids settled ended.run.ticketId next nextMember
      exact ⟨later, laterMember, again.trans sameId⟩

theorem turns_stored (env : Env) (db : Db) (start last : Session) (run : PipelineRun) (member : run ∈ db.runs.rows)
    (id : start.run.id = run.id) (runs : start.db.runs = db.runs) (turns : Turns env start last) :
    last.run ∈ last.commit.runs.rows := by
  obtain ⟨next, nextMember, same⟩ := turns_ids env db start last run run member id runs turns member
  have own : next.id = last.run.id := by
    rw [same, turns_id env start last turns, id]
  rcases saveRun_rows last.db last.run next nextMember with isLast | ⟨_, different⟩
  · rw [← isLast]
    exact nextMember
  · exact absurd own different

theorem moves_came (db after : Db) (moves : Moves created db after) (next : PipelineRun) (member : next ∈ after.runs.rows) :
    Came db after next := by
  cases moves with
  | rests _ runs => exact .kept (by rw [← runs]; exact member)
  | opens ticket creates => exact .kept member
  | starts orgId ticketId pipelineId flattened kickoff current triggeredByUserId =>
      let run := newRun db.nextId orgId ticketId pipelineId flattened kickoff current triggeredByUserId
      rcases insertRun_inserted db run with same | ⟨queued, inserted, same⟩
      · rw [same] at member
        exact .kept member
      · rw [same] at member
        rcases attemptPromotion_split queued run next rfl member with earlier | promoted
        · rcases inserted_split db queued run next inserted earlier with kept | own
          · exact .kept kept
          · rw [own]
            exact .created rfl rfl rfl rfl
        · rw [promoted]
          exact .created rfl rfl rfl rfl
  | flags run runMember state =>
      rcases saveRun_rows db _ next member with same | ⟨earlier, _⟩
      · exact .flagged run runMember state same
      · exact .kept earlier
  | withdraws env run runMember queued =>
      rcases saveRun_rows db _ next member with same | ⟨earlier, _⟩
      · exact .withdrawn run runMember queued _ same
      · exact .kept earlier
  | works env opened run last runMember state runs tickets nextId turns closes =>
      rcases turns_split env db ⟨opened, run⟩ last run next runMember rfl runs turns member with
        same | kept | ⟨old, oldMember, queued, same⟩
      · exact .worked env opened run last runMember state nextId turns closes same rfl
      · exact .kept kept
      · exact .promoted old oldMember queued same
  | resumes env run pause closed revived last answering revives tickets action turns =>
      rcases turns_split env db revived last run next answering.member revives.id revives.runs turns member with
        same | kept | ⟨old, oldMember, queued, same⟩
      · obtain ⟨chosen, resolution, spared⟩ := action
        have alive : closed.resolution ≠ some .kill := by
          rw [resolution]
          exact fun killed => spared (Option.some.inj killed)
        exact .resumed env run pause closed revived last answering revives alive turns same rfl
      · exact .kept kept
      · exact .promoted old oldMember queued same
  | stops env run pause closed revived last answering revives tickets turns closing stopped rows =>
      rcases turns_split env db revived last run next answering.member revives.id revives.runs turns member with
        same | kept | ⟨old, oldMember, queued, same⟩
      · exact .stopped env run pause closed revived last answering revives turns closing rows same rfl
      · exact .kept kept
      · exact .promoted old oldMember queued same

theorem moves_ids (db after : Db) (moves : Moves created db after) (row : PipelineRun) (member : row ∈ db.runs.rows) :
    ∃ next ∈ after.runs.rows, next.id = row.id := by
  have saved (run changed : PipelineRun) (runMember : run ∈ db.runs.rows) (same : changed.id = run.id) :
      ∃ next ∈ (db.saveRun changed).runs.rows, next.id = row.id := by
    by_cases hit : row.id = run.id
    · exact ⟨changed, saveRun_own db changed run runMember same.symm, same.trans hit.symm⟩
    · exact ⟨row, saveRun_other db changed row member (by rw [same]; exact hit), rfl⟩
  cases moves with
  | rests _ runs => exact ⟨row, by rw [runs]; exact member, rfl⟩
  | opens ticket creates => exact ⟨row, member, rfl⟩
  | starts orgId ticketId pipelineId flattened kickoff current triggeredByUserId =>
      let run := newRun db.nextId orgId ticketId pipelineId flattened kickoff current triggeredByUserId
      rcases insertRun_inserted db run with same | ⟨queued, inserted, same⟩
      · rw [same]
        exact ⟨row, member, rfl⟩
      · rw [same]
        exact attemptPromotion_ids queued run row rfl (inserted_kept db queued run row inserted member)
  | flags run runMember state => exact saved run _ runMember rfl
  | withdraws env run runMember queued => exact saved run _ runMember rfl
  | works env opened run last runMember state runs tickets nextId turns =>
      exact turns_ids env db ⟨opened, run⟩ last run row runMember rfl runs turns member
  | resumes env run pause closed revived last answering revives tickets action turns =>
      exact turns_ids env db revived last run row answering.member revives.id revives.runs turns member
  | stops env run pause closed revived last answering revives tickets turns =>
      exact turns_ids env db revived last run row answering.member revives.id revives.runs turns member

end Yaaos.Pipelines
