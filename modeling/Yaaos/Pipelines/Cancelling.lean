import Yaaos.Pipelines.Outcome

set_option autoImplicit false

namespace Yaaos.Pipelines

open Yaaos.Base

def handling (db : Db) (position : Nat) (run : PipelineRun) : Session :=
  ⟨db.taken position, { run with pendingAgentCommandId := none }⟩

-- While the run is flagged for cancellation, the step lets none of its stages
-- pause at the boundary, blame an earlier stage or ask to go back to one.
def Label.Calm (runId : Uuid) (db : Db) (label : Label) : Prop :=
  ∀ env position args run row, label = .deliver env position →
    db.outbox[position]? = some (.handleAgentEvent args) → args.runId = runId → run ∈ db.runs.rows → run.id = runId →
    run.state = .running → run.cancelRequested = true → run.pendingAgentCommandId = some args.agentCommandId →
    runningExecution run = some row → row.kind ≠ .system → args.outcomeLabel = "success" →
    (∀ crossing, Crosses env (handling db position run) row args.outputs crossing → crossing.Proceeds env) ∧
      ∀ targetIndex target gapText, ¬ AsksBack env (handling db position run) row args.outputs targetIndex target gapText

def AtBoundary (run : PipelineRun) : Prop :=
  ∃ row rest, stageRows run = row :: rest ∧ row.status = .completed ∧ run.currentStageIndex = row.stageIndex

inductive Honoured (db : Db) (run : PipelineRun) : Prop where
  | waits (boundary : AtBoundary run) (running : run.state = .running) (flagged : run.cancelRequested = true)
      (index : Nat) (driven : db.messagesFor run.id = [.routeRun
        { runId := run.id, completedStageIndex := some index, outcomeLabel := some .success, failureReason := none }])
  | decided (boundary : AtBoundary run) (flagged : run.cancelRequested = true) (decided : Decided .cancelled none run)

inductive Heeds (first : PipelineRun) (db : Db) (run : PipelineRun) : Prop where
  | works (running : run.state = .running) (flagged : run.cancelRequested = true) (unsettled : Unsettled first run)
  | ends (terminal : run.state.isTerminal = true) (unsettled : Unsettled first run)
  | honoured (honoured : Honoured db run)

structure Unturned (before after : PipelineRun) : Prop where
  cancelRequested : after.cancelRequested = before.cancelRequested
  unsettled : Unsettled before after
  state : after.state = .running ∨ after.state.isTerminal = true

section Turning

variable (env : Env) (session : Session)

theorem unsettled_system (row : StageExecution) (kind : row.kind = .system) :
    Unsettled session.run (session.put row).run := by
  intro other member work completed
  obtain ⟨old, oldMember, same⟩ := List.mem_map.mp member
  by_cases replaced : old.id = row.id
  · rw [if_pos replaced] at same
    rw [← same] at work
    exact absurd kind work
  · rw [if_neg replaced] at same
    exact ⟨other, same ▸ oldMember, rfl, rfl, completed⟩

theorem unsettled_boundary (before after : PipelineRun) (rows : stageRows after = stageRows before) :
    Unsettled before after := by
  intro row member work completed
  have listed : row ∈ stageRows after := List.mem_filter.mpr ⟨member, by simp [work]⟩
  rw [rows] at listed
  exact ⟨row, (List.mem_filter.mp listed).1, rfl, rfl, completed⟩

theorem halts_boundary (before after : PipelineRun) (halts : Halts before after) (boundary : AtBoundary before) :
    AtBoundary after := by
  obtain ⟨row, rest, rows, completed, current⟩ := boundary
  exact ⟨row, rest, halts.rows.trans rows, completed, halts.current.trans current⟩

theorem finishOrCleanup_halts (target : TerminalState) (reason : Option String) (running : session.run.state = .running) :
    Ensures (finishOrCleanup env session target reason) fun after =>
      Halts session.run after.run ∧ (after.run.state = .running ∨ after.run.state = target.state) := by
  rw [finishOrCleanup]
  simp only
  split
  · refine ensures_mono _ _ _ (dispatchCleanupStage_run _) fun after made => ?_
    obtain ⟨_, row, command, isCleanup, same⟩ := made
    have rows : stageRows after.run = stageRows session.run := by
      rw [same, isCleanup]
      exact List.filter_cons_of_neg (by simp [newExecution])
    rw [same] at rows ⊢
    exact ⟨⟨rows, rfl, rfl⟩, .inl running⟩
  · exact ensures_ok _ _ ⟨⟨rfl, rfl, rfl⟩, .inr rfl⟩

theorem finishOrCleanup_unturned (target : TerminalState) (reason : Option String)
    (running : session.run.state = .running) :
    Ensures (finishOrCleanup env session target reason) fun after => Unturned session.run after.run := by
  refine ensures_mono _ _ _ (finishOrCleanup_halts env session target reason running) fun after ⟨halts, ended⟩ => ?_
  refine ⟨halts.cancelRequested, unsettled_boundary _ _ halts.rows, ended.imp_right fun state => ?_⟩
  rw [state]
  exact target_terminal target

theorem finishOrCleanup_cancels (running : session.run.state = .running) (flagged : session.run.cancelRequested = true) :
    Ensures (finishOrCleanup env session .cancelled none) fun after =>
      Decided .cancelled none after.run ∧ Halts session.run after.run := by
  intro after done
  obtain ⟨halts, _⟩ := finishOrCleanup_halts env session .cancelled none running after done
  refine ⟨?_, halts⟩
  by_cases cleans : session.run.workspaceId ≠ none ∧ session.run.phase ≠ .cleanup
  · obtain ⟨awaits, _, failed, flag, _⟩ := finishOrCleanup_cleans env session .cancelled none running cleans after done
    refine .awaits awaits ?_ failed
    rw [finalTarget, failed, flag, flagged]
    rfl
  · rw [finishOrCleanup] at done
    simp only [if_neg cleans] at done
    cases done
    exact .ended rfl rfl

theorem finalizeAfterCleanup_unturned (last : Session) (cancelRequested : last.run.cancelRequested = session.run.cancelRequested)
    (unsettled : Unsettled session.run last.run) : Unturned session.run (finalizeAfterCleanup env last).run :=
  ⟨cancelRequested, unsettled, .inr (finalizeAfterCleanup_terminal env last)⟩

theorem unturned_trans (first middle last : PipelineRun) (cancelRequested : middle.cancelRequested = first.cancelRequested)
    (unsettled : Unsettled first middle) (unturned : Unturned middle last) : Unturned first last :=
  ⟨unturned.cancelRequested.trans cancelRequested, unsettled_trans _ _ _ unsettled unturned.unsettled, unturned.state⟩

theorem handleSystemStageEvent_unturned (row : StageExecution) (outcomeLabel : String) (outputs : Dict Json)
    (kind : row.kind = .system) (running : session.run.state = .running) :
    Ensures (handleSystemStageEvent env session row outcomeLabel outputs) fun after =>
      Unturned session.run after.run := by
  rw [handleSystemStageEvent]
  by_cases failed : outcomeLabel ≠ "success"
  · simp only [if_pos failed]
    refine ensures_read _ _ _ fun reason _ => ?_
    let settled : StageExecution :=
      { row with completedAt := some env.now, status := .failed, failureReason := some reason }
    have put := unsettled_system session settled kind
    split
    · exact ensures_ok _ _ (finalizeAfterCleanup_unturned env session (session.put settled) rfl put)
    · refine ensures_mono _ _ _ (finishOrCleanup_unturned env (session.put settled) .failed (some reason) running) ?_
      exact fun after => unturned_trans session.run (session.put settled).run after.run rfl put
  · let settled : StageExecution := { row with completedAt := some env.now, status := .completed }
    have put := unsettled_system session settled kind
    have rests (after : Session) (retries : Retries (session.put settled) after) : Unturned session.run after.run :=
      unturned_trans session.run (session.put settled).run after.run rfl put
        ⟨retries.cancelRequested, retries.unsettled, .inl (retries.state.trans running)⟩
    have fails := ensures_mono _ (fun after => Unturned session.run after.run) _
      (finishOrCleanup_unturned env (session.put settled) .failed
        (some "refresh-auth recovery reached a non-skill stage") running)
      fun after => unturned_trans session.run (session.put settled).run after.run rfl put
    simp only [if_neg failed]
    split
    · refine ensures_ok _ _ ⟨rfl, put, .inl running⟩
    · split
      · exact ensures_ok _ _ (finalizeAfterCleanup_unturned env session (session.put settled) rfl put)
      · split
        · refine ensures_read _ _ _ fun stage _ => ?_
          cases stage with
          | skill stage =>
              exact ensures_mono _ _ _ (dispatchSkillStage_retries env (session.put settled) stage _ _) rests
          | review _ => exact fails
          | action _ => exact fails
        · exact ensures_ok _ _ ⟨rfl, put, .inl running⟩

theorem routeRunImpl_unturned (args : RouteRunArgs) (running : session.run.state = .running) :
    Ensures (routeRunImpl env session args) fun after => Unturned session.run after.run := by
  have dispatches (index : Nat) : Unturned session.run (dispatchStage session index).run :=
    ⟨rfl, unsettled_rows _ _ rfl, .inl running⟩
  rw [routeRunImpl]
  cases args.completedStageIndex with
  | none => exact ensures_ok _ _ (dispatches _)
  | some index =>
      simp only
      split
      · exact finishOrCleanup_unturned env session _ _ running
      · split
        · exact finishOrCleanup_unturned env session _ _ running
        · split
          · exact finishOrCleanup_unturned env session _ _ running
          · exact ensures_ok _ _ (dispatches _)

end Turning

section Settling

variable (env : Env) (db : Db) (position : Nat) (run : PipelineRun)

theorem awaiting_row (command : Uuid) (row : StageExecution) (coherent : Coherent db) (member : run ∈ db.runs.rows)
    (awaited : run.pendingAgentCommandId = some command) (active : runningExecution run = some row) :
    ∃ rest, run.stageExecutions = row :: rest ∧ db.messagesFor run.id = [] ∧
      (row.kind ≠ .system → run.currentStageIndex = row.stageIndex) := by
  have stands : Stands (db.messagesFor run.id) (workspaceOf db run) run := coherent.stands run member
  cases stands with
  | queued state rows pauses unparked => rw [unparked] at awaited; cases awaited
  | routing args state idle => rw [idle.unparked] at awaited; cases awaited
  | starting index stage state idle => rw [idle.unparked] at awaited; cases awaited
  | paused row rest pause others state unparked => rw [unparked] at awaited; cases awaited
  | ended state idle => rw [idle.unparked] at awaited; cases awaited
  | parked other head rest state pending closed rows running quiet silent parkedOn =>
      have same : head = row := Option.some.inj ((runningExecution_head run head rest rows running).symm.trans active)
      rw [← same]
      refine ⟨rest, rows, silent, fun work => ?_⟩
      cases parkedOn with
      | provision index stage kind => exact absurd kind work
      | cleanup kind => exact absurd kind work
      | refresh index stage kind => exact absurd kind work
      | stage kind phase current => exact current

theorem put_head (session : Session) (row next : StageExecution) (head : session.run.stageExecutions.head? = some row)
    (same : next.id = row.id) : ∃ others, (session.put next).run.stageExecutions = next :: others := by
  obtain ⟨rest, rows⟩ := List.head?_eq_some_iff.mp head
  rw [Session.put, rows, List.map_cons, if_pos same.symm]
  exact ⟨_, rfl⟩

theorem boundary_head (later : PipelineRun) (row : StageExecution) (rest : List StageExecution)
    (rows : later.stageExecutions = row :: rest) (work : row.kind ≠ .system) (completed : row.status = .completed)
    (current : later.currentStageIndex = row.stageIndex) : AtBoundary later := by
  refine ⟨row, rest.filter fun other => other.kind != .system, ?_, completed, current⟩
  rw [stageRows, rows, List.filter_cons_of_pos (by simp [work])]

theorem returned_calm (row : StageExecution) (outputs : Dict Json) (after : Session) (rest : List StageExecution)
    (rows : run.stageExecutions = row :: rest) (work : row.kind ≠ .system)
    (current : run.currentStageIndex = row.stageIndex) (silent : db.messagesFor run.id = [])
    (running : run.state = .running) (flagged : run.cancelRequested = true)
    (taken : (db.taken position).messagesFor run.id = db.messagesFor run.id)
    (proceeds : ∀ crossing, Crosses env (handling db position run) row outputs crossing → crossing.Proceeds env)
    (stands : ∀ targetIndex target gapText,
      ¬ AsksBack env (handling db position run) row outputs targetIndex target gapText)
    (returned : Returned env (handling db position run) row outputs after) :
    Stays (handling db position run) after ∨ Honoured after.commit after.run := by
  cases returned with
  | stays stays => exact .inl stays
  | asks completed targetIndex target gapText asks sends => exact absurd asks (stands targetIndex target gapText)
  | crosses crossing crosses level outbox commands settles =>
      obtain ⟨id, kind, indexed, index, crossed⟩ := crosses_row env (handling db position run) row outputs crossing crosses
      have calm := proceeds crossing crosses
      cases settles with
      | sendsBack completed targetIndex target gapText resolved sends =>
          rw [calm.unblamed] at resolved
          cases resolved
      | pauses completed tripped owners trips same => exact absurd calm trips
      | proceeds calm same =>
          have sameId : crossing.session.run.id = run.id := level.id
          have held : crossing.session.run.stageExecutions.head? = some crossing.row := by
            have whole : (handling db position run).run.stageExecutions = row :: rest := rows
            rw [crossed, whole, List.map_cons, if_pos id.symm, List.head?_cons]
          obtain ⟨others, newest⟩ := put_head crossing.session crossing.row (crossing.proceeded env) held rfl
          rw [same]
          refine .inr (.waits ?_ ?_ ?_ crossing.index ?_)
          · refine boundary_head _ (crossing.proceeded env) others newest ?_ rfl ?_
            · exact fun system => work (kind.symm.trans system)
            · exact (level.current.trans current).trans indexed.symm
          · exact level.state.trans running
          · exact level.cancelRequested.trans flagged
          · show ((crossing.session.put (crossing.proceeded env)).enqueue
              (routeSuccess crossing.session crossing.index)).db.messagesFor crossing.session.run.id = _
            have quiet : crossing.session.db.messagesFor crossing.session.run.id = [] := by
              rw [Db.messagesFor, outbox, sameId]
              exact taken.trans silent
            exact messagesFor_own (crossing.session.put (crossing.proceeded env)) _ quiet rfl

end Settling

section Heeding

variable (env : Env) (db next : Db) (first run : PipelineRun)

theorem heeds_unturned (after : Db) (later : PipelineRun) (flagged : run.cancelRequested = true)
    (unsettled : Unsettled first run) (unturned : Unturned run later) : Heeds first after later := by
  have still := unsettled_trans first run later unsettled unturned.unsettled
  rcases unturned.state with running | terminal
  · exact .works running (unturned.cancelRequested.trans flagged) still
  · exact .ends terminal still

theorem heeds_transaction (position : Nat) (body : Session → Except EngineError Session) (member : run ∈ db.runs.rows)
    (running : run.state = .running) (flagged : run.cancelRequested = true) (unsettled : Unsettled first run)
    (turns : Ensures (body ⟨db.taken position, run⟩) (Turns env ⟨db.taken position, run⟩))
    (turned : Ensures (body ⟨db.taken position, run⟩) fun last =>
      Unturned run last.run ∨ Honoured last.commit last.run)
    (taken : whileRunning (db.taken position) run.id body = .ok next) :
    ∃ later ∈ next.runs.rows, later.id = run.id ∧ Heeds first next later := by
  rw [whileRunning_running (db.taken position) run body member running] at taken
  refine ensures_map _ _ (fun next => ∃ later ∈ next.runs.rows, later.id = run.id ∧ Heeds first next later)
    (fun last done => ?_) next taken
  have stored := turns_stored env db ⟨db.taken position, run⟩ last run member rfl rfl (turns last done)
  refine ⟨last.run, stored, turns_id env _ last (turns last done), ?_⟩
  rcases turned last done with unturned | honoured
  · exact heeds_unturned first run last.commit last.run flagged unsettled unturned
  · exact .honoured honoured

theorem startStageImpl_turned (position : Nat) (stageIndex : Option Nat) (coherent : Coherent db)
    (at_ : db.outbox[position]? = some (.startStage run.id stageIndex)) (member : run ∈ db.runs.rows)
    (running : run.state = .running) (flagged : run.cancelRequested = true) :
    Ensures (startStageImpl env ⟨db.taken position, run⟩ stageIndex) fun last =>
      Unturned run last.run ∨ Honoured last.commit last.run := by
  obtain ⟨index, _, isIndex, free, current, _⟩ := starting_free db position run stageIndex coherent at_ member
  refine ensures_mono _ _ _ (startStageImpl_begins env ⟨db.taken position, run⟩ stageIndex running) ?_
  rintro last ⟨other, same, begins⟩
  have sameIndex : index = other := Option.some.inj (isIndex.symm.trans same)
  rw [← sameIndex] at begins
  cases begins with
  | opens stage command invocation onward found commands owner carries named revision schema kickoff unsettled =>
      exact .inl ⟨onward.cancelRequested, unsettled, .inl (onward.state.trans running)⟩
  | refused onward commands kickoff unsettled fails =>
      exact .inl ⟨onward.cancelRequested, unsettled, .inl (onward.state.trans running)⟩
  | provisions stays => exact .inl ⟨stays.cancelRequested, stays.unsettled, .inl (stays.state.trans running)⟩
  | acts level commands action newest outbox =>
      obtain ⟨row, rest, rows, work, completed, indexed⟩ := newest
      refine .inr (.waits ?_ (level.state.trans running) (level.cancelRequested.trans flagged) index ?_)
      · exact boundary_head last.run row rest rows work completed ((level.current.trans current).trans indexed.symm)
      · have own : last.run.id = run.id := level.id
        have silent : (db.taken position).messagesFor run.id = [] := free.silent
        show last.db.messagesFor last.run.id = _
        rw [own, Db.messagesFor, outbox, List.filter_append]
        simp only [Db.messagesFor] at silent
        rw [silent]
        simp [routeSuccess, Message.drives?]

theorem handleAgentEventImpl_turned (position : Nat) (args : AgentEventArgs) (coherent : Coherent db)
    (at_ : db.outbox[position]? = some (.handleAgentEvent args)) (member : run ∈ db.runs.rows)
    (owner : args.runId = run.id) (running : run.state = .running) (flagged : run.cancelRequested = true)
    (calm : (Label.deliver env position).Calm run.id db) :
    Ensures (handleAgentEventImpl env ⟨db.taken position, run⟩ args) fun last =>
      Unturned run last.run ∨ Honoured last.commit last.run := by
  refine ensures_mono _ _ _ (handleAgentEventImpl_returned env ⟨db.taken position, run⟩ args) fun last handled => ?_
  rcases handled with same | ⟨row, active, awaited, ⟨system, done⟩ | ⟨work, returned, failed⟩⟩
  · rw [same]
    exact .inl ⟨rfl, unsettled_rows _ _ rfl, .inl running⟩
  · have unturned := handleSystemStageEvent_unturned env (handling db position run) row _ _ system running last done
    exact .inl ⟨unturned.cancelRequested, unturned.unsettled, unturned.state⟩
  · obtain ⟨rest, rows, silent, current⟩ :=
      awaiting_row db run args.agentCommandId row coherent member awaited active
    have stays (kept : Stays (handling db position run) last) : Unturned run last.run :=
      ⟨kept.cancelRequested, kept.unsettled, .inl (kept.state.trans running)⟩
    by_cases succeeded : args.outcomeLabel = "success"
    · obtain ⟨proceeds, stands⟩ :=
        calm env position args run row rfl at_ owner member rfl running flagged awaited active work succeeded
      have settled := returned_calm env db position run row args.outputs last rest rows work (current work) silent running
        flagged (taken_other db position _ at_ run.id (by intro same; cases same)) proceeds stands returned
      exact settled.imp_left stays
    · exact .inl (stays (failed succeeded).1)

theorem works_delivered (position : Nat) (message : Message) (coherent : Coherent db)
    (calm : (Label.deliver env position).Calm run.id db) (at_ : db.outbox[position]? = some message)
    (owner : (Label.deliver env position).subject db = some run.id) (member : run ∈ db.runs.rows)
    (running : run.state = .running) (flagged : run.cancelRequested = true) (unsettled : Unsettled first run)
    (taken : deliver env db position = .ok next) :
    ∃ later ∈ next.runs.rows, later.id = run.id ∧ Heeds first next later := by
  obtain ⟨same, isSame, owner⟩ := Option.bind_eq_some_iff.mp owner
  rw [at_] at isSame
  cases isSame
  rw [deliver_message db position env message at_] at taken
  cases message with
  | routeRun args =>
      have own : args.runId = run.id := Option.some.inj owner
      rw [handleMessage, own] at taken
      exact heeds_transaction env db next first run position _ member running flagged unsettled
        (work_turns env _ (.routeRun args))
        (ensures_mono _ _ _ (routeRunImpl_unturned env ⟨db.taken position, run⟩ args running) fun _ => .inl) taken
  | startStage otherId stageIndex =>
      cases owner
      rw [handleMessage] at taken
      exact heeds_transaction env db next first run position _ member running flagged unsettled
        (work_turns env _ (.startStage run.id stageIndex))
        (startStageImpl_turned env db run position stageIndex coherent at_ member running flagged) taken
  | handleAgentEvent args =>
      have own : args.runId = run.id := Option.some.inj owner
      rw [handleMessage, own] at taken
      exact heeds_transaction env db next first run position _ member running flagged unsettled
        (work_turns env _ (.handleAgentEvent args))
        (handleAgentEventImpl_turned env db run position args coherent at_ member own running flagged calm) taken
  | runTerminalHook => cases owner

theorem waits_routed (position : Nat) (args : RouteRunArgs) (at_ : db.outbox[position]? = some (.routeRun args))
    (owner : args.runId = run.id) (honoured : Honoured db run) (coherent : Coherent db) (member : run ∈ db.runs.rows) :
    Completes (deliver env db position) fun next =>
      ∃ later ∈ next.runs.rows, later.id = run.id ∧ Halts run later ∧ Decided .cancelled none later := by
  obtain ⟨free, provisioned, _⟩ := routing_free db position run args coherent at_ member owner.symm
  have unclosed := closing_parked run free.running free.idle
  cases honoured with
  | decided boundary flagged decided =>
      cases decided with
      | awaits awaits decides failed => exact absurd awaits.closing unclosed
      | ended state failed => exact absurd (.ended (by rw [state]; rfl)) unclosed
  | waits boundary running flagged index driven =>
      have waiting : Message.routeRun args ∈ db.messagesFor run.id :=
        List.mem_filter.mpr ⟨List.mem_of_getElem? at_, by simp [Message.drives?, owner]⟩
      rw [driven] at waiting
      cases List.mem_singleton.mp waiting
      let session : Session := ⟨db.taken position, run⟩
      have routed : routeRunImpl env session
          { runId := run.id, completedStageIndex := some index, outcomeLabel := some .success, failureReason := none } =
          finishOrCleanup env session .cancelled none := by
        rw [routeRunImpl]
        simp only
        rw [if_neg (by decide), if_pos flagged]
      obtain ⟨last, done, _⟩ := finishOrCleanup_closes env session .cancelled none running provisioned
      obtain ⟨decided, halts⟩ := finishOrCleanup_cancels env session running flagged last done
      have turns := finishOrCleanup_turns env session .cancelled none last done
      refine ⟨last.commit, ?_, last.run, turns_stored env db session last run member rfl rfl turns,
        turns_id env session last turns, halts, decided⟩
      rw [deliver_message db position env _ at_, handleMessage, whileRunning_running (db.taken position) run _ member running,
        routed, done]
      rfl

theorem honoured_waits (label : Label) (coherent : Coherent db) (taken : engineStep db label = .ok next)
    (own : label.subject db = some run.id) (member : run ∈ db.runs.rows) (boundary : AtBoundary run)
    (running : run.state = .running) (flagged : run.cancelRequested = true) (index : Nat)
    (driven : db.messagesFor run.id = [.routeRun
      { runId := run.id, completedStageIndex := some index, outcomeLabel := some .success, failureReason := none }]) :
    ∃ later ∈ next.runs.rows, later.id = run.id ∧ Honoured next later := by
  have unmoved (after : Db) (rows : after.runs = db.runs) (messages : after.messagesFor run.id = db.messagesFor run.id) :
      ∃ later ∈ after.runs.rows, later.id = run.id ∧ Honoured after later :=
    ⟨run, by rw [rows]; exact member, rfl, .waits boundary running flagged index (messages.trans driven)⟩
  cases label with
  | startRun => cases own
  | startRerun => cases own
  | startRerunFromStage => cases own
  | requestCancel env orgId otherId =>
      cases own
      have same := requestCancel_flagged env db next run orgId member running flagged taken
      exact unmoved next (by rw [same]) (by rw [same])
  | resolvePause env orgId pauseId resolution actor =>
      have paused := resolvePause_paused db next run env orgId pauseId resolution actor coherent member own taken
      rw [running] at paused
      cases paused
  | deliver env position =>
      obtain ⟨message, at_, owner⟩ := Option.bind_eq_some_iff.mp own
      cases message with
      | routeRun args =>
          have routed := waits_routed env db run position args at_ (Option.some.inj owner)
            (.waits boundary running flagged index driven) coherent member
          obtain ⟨later, laterMember, id, halts, decided⟩ := completes_ensures _ _ routed next taken
          exact ⟨later, laterMember, id, .decided (halts_boundary run later halts boundary)
            (halts.cancelRequested.trans flagged) decided⟩
      | startStage otherId stageIndex =>
          cases owner
          have waiting : Message.startStage run.id stageIndex ∈ db.messagesFor run.id :=
            List.mem_filter.mpr ⟨List.mem_of_getElem? at_, by simp [Message.drives?]⟩
          rw [driven] at waiting
          cases List.mem_singleton.mp waiting
      | handleAgentEvent args =>
          have messages := taken_other db position _ at_ run.id (by intro same; cases same)
          have progress := stands_progress db run (coherent.stands run member)
          have unparked : run.pendingAgentCommandId = none := by
            cases progress with
            | driven _ unparked => exact unparked
            | resting _ unparked => exact unparked
            | parked _ _ _ silent =>
                rw [silent] at driven
                cases driven
          have stale : run.pendingAgentCommandId ≠ some args.agentCommandId := by
            rw [unparked]
            intro same
            cases same
          have ownId : args.runId = run.id := Option.some.inj owner
          rw [engineStep, deliver_message db position env _ at_, handleMessage, ownId,
            whileRunning_running (db.taken position) run _ member running,
            handleAgentEventImpl_stale env ⟨db.taken position, run⟩ args stale] at taken
          cases taken
          have stored : (Session.commit ⟨db.taken position, run⟩) = db.taken position :=
            saveRun_stored (db.taken position) run member
          rw [stored]
          exact unmoved (db.taken position) rfl messages
      | runTerminalHook => cases owner
  | terminalEvent => cases own
  | workspaceStatus => cases own
  | createTicket => cases own
  | bindPullRequest => cases own
  | dismissFinding => cases own

theorem heeds_step (label : Label) (coherent : Coherent db) (allowed : label.Allowed db) (calm : label.Calm run.id db)
    (taken : engineStep db label = .ok next) (member : run ∈ db.runs.rows) (heeds : Heeds first db run) :
    ∃ later ∈ next.runs.rows, later.id = run.id ∧ Heeds first next later := by
  have advances := (engineStep_stepped db label coherent allowed next taken).advances
  have unmoved (other : label.subject db ≠ some run.id) (running : run.state = .running) :
      run ∈ next.runs.rows ∧ next.messagesFor run.id = db.messagesFor run.id :=
    advances.others run member other (by rw [running]; decide)
  cases heeds with
  | ends terminal unsettled =>
      have moves := engineStep_moves db label coherent allowed next taken
      obtain ⟨later, laterMember, id⟩ := moves_ids db next moves run member
      have same := terminal_came db next run later (moves_came db next moves later laterMember) member
        (coherent.sound run member).bound id terminal
      exact ⟨later, laterMember, id, by rw [same]; exact .ends terminal unsettled⟩
  | honoured honoured =>
      cases honoured with
      | decided boundary flagged decided =>
          obtain ⟨later, laterMember, id, still, halts⟩ := decided_step db next run .cancelled none label coherent allowed
            taken member (.inl flagged) decided
          exact ⟨later, laterMember, id, .honoured (.decided (halts_boundary run later halts boundary)
            (halts.cancelRequested.trans flagged) still)⟩
      | waits boundary running flagged index driven =>
          by_cases own : label.subject db = some run.id
          · obtain ⟨later, laterMember, id, honoured⟩ :=
              honoured_waits db next run label coherent taken own member boundary running flagged index driven
            exact ⟨later, laterMember, id, .honoured honoured⟩
          · obtain ⟨kept, messages⟩ := unmoved own running
            exact ⟨run, kept, rfl, .honoured (.waits boundary running flagged index (messages.trans driven))⟩
  | works running flagged unsettled =>
      by_cases own : label.subject db = some run.id
      · cases label with
        | startRun => cases own
        | startRerun => cases own
        | startRerunFromStage => cases own
        | requestCancel env orgId otherId =>
            cases own
            have same := requestCancel_flagged env db next run orgId member running flagged taken
            exact ⟨run, by rw [same]; exact member, rfl, .works running flagged unsettled⟩
        | resolvePause env orgId pauseId resolution actor =>
            have paused := resolvePause_paused db next run env orgId pauseId resolution actor coherent member own taken
            rw [running] at paused
            cases paused
        | deliver env position =>
            obtain ⟨message, at_, _⟩ := Option.bind_eq_some_iff.mp own
            exact works_delivered env db next first run position message coherent calm at_ own member running flagged
              unsettled taken
        | terminalEvent => cases own
        | workspaceStatus => cases own
        | createTicket => cases own
        | bindPullRequest => cases own
        | dismissFinding => cases own
      · exact ⟨run, (unmoved own running).1, rfl, .works running flagged unsettled⟩

theorem heeds_path (labels : List Label) (last : Db) (coherent : Coherent db) (member : run ∈ db.runs.rows)
    (path : Path (runEngine.restrict (Label.Calm run.id)) db labels last) (heeds : Heeds first db run) :
    Coherent last ∧ ∃ later ∈ last.runs.rows, later.id = run.id ∧ Heeds first last later := by
  refine path_keeps (runEngine.restrict (Label.Calm run.id))
    (fun state => Coherent state ∧ ∃ later ∈ state.runs.rows, later.id = run.id ∧ Heeds first state later) ?_ db last
    labels path ⟨coherent, run, member, rfl, heeds⟩
  rintro state label after ⟨still, later, laterMember, id, holds⟩ ⟨allowed, calm⟩ taken
  rw [← id] at calm
  obtain ⟨final, finalMember, sameId, heeds⟩ :=
    heeds_step state after first later label still allowed calm taken laterMember holds
  exact ⟨engine_inductive.kept state label after still allowed taken, final, finalMember, sameId.trans id, heeds⟩

end Heeding

-- A run that is flagged for cancellation ends at the next boundary it comes to, as
-- long as its stages do not pause there and are not sent back.
theorem cancel_honoured (db : Db) (reachable : Reachable runEngine db) (run : PipelineRun) (member : run ∈ db.runs.rows)
    (running : run.state = .running) (flagged : run.cancelRequested = true) (labels : List Label) (last : Db)
    (path : Path (runEngine.restrict (Label.Calm run.id)) db labels last) :
    ∃ later ∈ last.runs.rows, later.id = run.id ∧ later.state ≠ .paused ∧
      (Unsettled run later ∨ Honoured last later) ∧
      (Honoured last later → ∀ env position args, last.outbox[position]? = some (.routeRun args) → args.runId = run.id →
        Completes (deliver env last position) fun next =>
          ∃ ended ∈ next.runs.rows, ended.id = run.id ∧ Halts later ended ∧ Decided .cancelled none ended) := by
  obtain ⟨coherent, later, laterMember, id, heeds⟩ := heeds_path db run run labels last
    (reachable_coherent db reachable) member path (.works running flagged (unsettled_rows run run rfl))
  refine ⟨later, laterMember, id, ?_, ?_, ?_⟩
  · intro paused
    cases heeds with
    | works running => rw [running] at paused; cases paused
    | ends terminal => rw [paused] at terminal; cases terminal
    | honoured honoured =>
        cases honoured with
        | waits boundary running => rw [running] at paused; cases paused
        | decided boundary flagged decided =>
            cases decided with
            | awaits awaits => rw [awaits.state] at paused; cases paused
            | ended state => rw [state] at paused; cases paused
  · cases heeds with
    | works _ _ unsettled => exact .inl unsettled
    | ends _ unsettled => exact .inl unsettled
    | honoured honoured => exact .inr honoured
  · intro honoured env position args at_ owner
    rw [← id] at owner ⊢
    exact waits_routed env last later position args at_ owner honoured coherent laterMember

def sampleSilent : FlattenedDefinition := sampleSkills none .alwaysProceed

-- The stage works, command 15, while its run is asked to stop.
def sampleStopping : Db := runEngine.committed (.requestCancel (sampleEnv sampleSilent) 1 10) (sampleWorking sampleSilent)

def sampleTurn : Label := .deliver (sampleEnv sampleSilent) 0

def sampleReported : Db :=
  runEngine.committed (.terminalEvent (sampleEvent 15 "success" sampleOutputs)) sampleStopping

theorem sampleReported_calm : sampleTurn.Calm 10 sampleReported := by
  intro env position args run row same found _ member id _ _ _ executing _ _
  cases same
  cases found
  have stored := Table.find?_of_mem _ run member
  rw [id] at stored
  cases stored
  cases executing
  refine ⟨fun crossing crosses => ?_, fun targetIndex target gapText asks => ?_⟩
  · cases crosses with
    | main stage skillReturn body kind found phase alone valid done artifact produced recorded =>
        cases found
        cases valid
        cases artifact
        subst recorded
        exact ⟨rfl, fun ticket confidence _ _ => rfl⟩
    | loop stage review reviewReturn reviewed kind found phase => cases phase
    | review stage reviewReturn reviewed kind => cases kind
  · obtain ⟨stage, skillReturn, _, valid, sendBack, _⟩ := asks.asked
    cases valid
    cases sendBack

theorem calm_delivered (runId : Uuid) (db : Db) (env : Env) (position : Nat) (message : Message)
    (at_ : db.outbox[position]? = some message) (other : ∀ args, message ≠ .handleAgentEvent args) :
    (Label.deliver env position).Calm runId db := by
  intro env position args run row same found
  cases same
  rw [at_] at found
  exact absurd (Option.some.inj found) (other args)

-- The stage succeeds, and the ROUTE_RUN behind it cancels the run.
theorem sampleStopping_honoured :
    ∃ later ∈ (runEngine.after sampleReported [sampleTurn, sampleTurn]).runs.rows, later.id = 10 ∧ later.state ≠ .paused ∧
      Honoured (runEngine.after sampleReported [sampleTurn, sampleTurn]) later := by
  let run := (sampleReported.runs.find? 10).get rfl
  have reachable : Reachable runEngine sampleReported :=
    reachable_committed runEngine _ _ (reachable_committed runEngine (.requestCancel (sampleEnv sampleSilent) 1 10) _
      (sampleWorking_reachable sampleSilent) trivial) trivial
  have member := (Table.find?_some _ 10 run (Option.some_get _).symm).1
  let settled := runEngine.committed sampleTurn sampleReported
  have path : Path (runEngine.restrict (Label.Calm 10)) sampleReported [sampleTurn, sampleTurn]
      (runEngine.after sampleReported [sampleTurn, sampleTurn]) := by
    refine .cons _ settled _ _ _ ⟨trivial, sampleReported_calm⟩ rfl (.cons _ _ _ _ _ ⟨trivial, ?_⟩ rfl (.nil _))
    exact calm_delivered 10 settled _ 0 _ rfl fun args same => nomatch same
  obtain ⟨later, laterMember, id, unpaused, honoured, _⟩ :=
    cancel_honoured sampleReported reachable run member rfl rfl [sampleTurn, sampleTurn] _ path
  refine ⟨later, laterMember, id, unpaused, honoured.resolve_left fun unsettled => ?_⟩
  have found := Table.find?_of_mem _ later laterMember
  have settles : ((runEngine.after sampleReported [sampleTurn, sampleTurn]).runs.find? 10).map (fun run =>
      run.stageExecutions.any fun row => decide (row.kind = .skill ∧ row.status = .completed)) = some true := by decide +kernel
  rw [show later.id = 10 from id] at found
  rw [found] at settles
  obtain ⟨row, rowMember, done⟩ := List.any_eq_true.mp (Option.some.inj settles)
  obtain ⟨kind, completed⟩ := of_decide_eq_true done
  obtain ⟨old, oldMember, _, sameKind, before⟩ := unsettled row rowMember (by rw [kind]; decide) completed
  have working : ∀ old ∈ run.stageExecutions, old.kind = .system ∨ old.status ≠ .completed := by decide +kernel
  rcases working old oldMember with system | running
  · rw [sameKind, kind] at system
    cases system
  · exact running before

-- A cancellation requested while the stage works does not keep it from pausing.
theorem flagged_run_pauses :
    ∃ db run labels last, Reachable runEngine db ∧ run ∈ db.runs.rows ∧ run.state = .running ∧
      run.cancelRequested = true ∧ Path runEngine db labels last ∧
      ∃ later ∈ last.runs.rows, later.id = run.id ∧ later.state = .paused := by
  let db := sampleCancel (sampleWorking sampleHitl)
  let run := (db.runs.find? 10).get rfl
  let later := ((sampleHeld true).runs.find? 10).get rfl
  refine ⟨db, run, [.terminalEvent (sampleEvent 15 "success" sampleOutputs), .deliver (sampleEnv sampleHitl) 0],
    sampleHeld true, ?_, (Table.find?_some _ 10 run (Option.some_get _).symm).1, rfl, rfl, ?_, later,
    (Table.find?_some _ 10 later (Option.some_get _).symm).1, rfl, rfl⟩
  · exact reachable_committed runEngine (.requestCancel (sampleEnv sampleHitl) 1 10) _ (sampleWorking_reachable sampleHitl)
      trivial
  · exact commits_path runEngine db _ ⟨trivial, rfl, trivial, rfl, trivial⟩

end Yaaos.Pipelines
