import Yaaos.Pipelines.Progress

set_option autoImplicit false

namespace Yaaos.Pipelines

open Yaaos.Base

inductive Closing (run : PipelineRun) : Prop where
  | cleaning (row : StageExecution) (rest : List StageExecution) (state : run.state = .running)
      (rows : run.stageExecutions = row :: rest) (active : row.status = .running) (kind : row.kind = .system)
      (named : row.stageName = systemStageCleanup) (parked : run.pendingAgentCommandId ≠ none)
  | ended (state : run.state.isTerminal = true)

inductive WindsDown (messages : List Message) (run : PipelineRun) : Prop where
  | routing (index : Nat) (reason : Option String) (state : run.state = .running)
      (driven : messages = [.routeRun
        { runId := run.id, completedStageIndex := some index, outcomeLabel := some .failure, failureReason := reason }])
  | closing (closing : Closing run)

def Winding (db : Db) (runId : Uuid) : Prop :=
  ∃ run ∈ db.runs.rows, run.id = runId ∧ WindsDown (db.messagesFor runId) run

def PlainError (outputs : Dict Json) : Prop :=
  ∀ value, outputs.lookup "error_message" = some value → value.truthy = true → ∃ text, value = .str text

structure Continues (db : Db) (runId : Uuid) : Prop where
  routes : ∀ env position args, db.outbox[position]? = some (.routeRun args) → args.runId = runId →
    Completes (deliver env db position) fun next => ∃ run ∈ next.runs.rows, run.id = runId ∧ Closing run
  reports : ∀ env position args, db.outbox[position]? = some (.handleAgentEvent args) → args.runId = runId →
    (∃ run ∈ db.runs.rows, run.id = runId ∧ run.pendingAgentCommandId = some args.agentCommandId) →
    (args.outcomeLabel ≠ "success" → PlainError args.outputs) →
    Completes (deliver env db position) fun next =>
      ∃ run ∈ next.runs.rows, run.id = runId ∧ run.state.isTerminal = true

section Failing

theorem textOr_plain (outputs : Dict Json) (fallback : String) (plain : PlainError outputs) :
    ∃ text, textOr outputs "error_message" fallback = .ok text := by
  rw [textOr]
  cases found : outputs.lookup "error_message" with
  | none => exact ⟨fallback, rfl⟩
  | some value =>
      by_cases truthy : value.truthy = true
      · obtain ⟨text, isText⟩ := plain value found truthy
        rw [isText] at truthy ⊢
        simp only [if_pos truthy]
        exact ⟨text, rfl⟩
      · simp only [if_neg truthy]
        exact ⟨fallback, rfl⟩

theorem enterTerminal_closing (env : Env) (session : Session) (target : TerminalState) (reason : Option String) :
    Closing (enterTerminal env session target reason).run := by
  refine .ended ?_
  cases target <;> rfl

theorem dispatchCleanup_completes (session : Session) (workspaceId : Uuid) (context : DispatchContext) (row : Workspace)
    (found : session.db.workspaces.find? workspaceId = some row) :
    Completes (dispatchCleanup session workspaceId context) fun after => after.run = session.run := by
  have present : session.mint.db.workspaces.find? workspaceId = some row := found
  rw [dispatchCleanup, dispatchViaWorkspace, present]
  exact completes_ok _ _ rfl

theorem dispatchCleanupStage_closes (session : Session) (running : session.run.state = .running)
    (requested : session.run.workspaceId ≠ none) (stored : workspaceOf session.db session.run ≠ none) :
    Completes (dispatchCleanupStage session) fun after => Closing after.run := by
  obtain ⟨workspaceId, own⟩ := Option.ne_none_iff_exists'.mp requested
  obtain ⟨row, found⟩ := Option.ne_none_iff_exists'.mp stored
  rw [workspaceOf, own, Option.bind_some] at found
  let exec := newExecution session.db.nextId none .system systemStageCleanup
  have owned : (session.addExecution exec).run.workspaceId = some workspaceId := own
  rw [dispatchCleanupStage]
  simp only
  rw [owned]
  refine completes_bind _ _ _ _ (dispatchCleanup_completes (session.addExecution exec) workspaceId _ row found) ?_
  intro after same
  refine completes_ok _ _ (.cleaning exec session.run.stageExecutions ?_ ?_ rfl rfl rfl (by simp))
  · rw [same]
    exact running
  · rw [same]
    rfl

theorem finishOrCleanup_closes (env : Env) (session : Session) (target : TerminalState) (reason : Option String)
    (running : session.run.state = .running)
    (stored : session.run.workspaceId ≠ none → workspaceOf session.db session.run ≠ none) :
    Completes (finishOrCleanup env session target reason) fun after => Closing after.run := by
  rw [finishOrCleanup]
  simp only
  by_cases cleans : session.run.workspaceId ≠ none ∧ session.run.phase ≠ .cleanup
  · rw [if_pos cleans]
    exact dispatchCleanupStage_closes _ running cleans.1 (stored cleans.1)
  · rw [if_neg cleans]
    exact completes_ok _ _ (enterTerminal_closing env _ target reason)

variable (env : Env) (session : Session) (row : StageExecution) (rest : List StageExecution) (outcomeLabel : String)
  (outputs : Dict Json)

theorem handleSystemStageEvent_closes (running : session.run.state = .running) (failed : outcomeLabel ≠ "success")
    (plain : PlainError outputs)
    (stored : session.run.workspaceId ≠ none → workspaceOf session.db session.run ≠ none) :
    Completes (handleSystemStageEvent env session row outcomeLabel outputs) fun after => Closing after.run := by
  obtain ⟨reason, read⟩ := textOr_plain outputs outcomeLabel plain
  rw [handleSystemStageEvent]
  simp only [if_pos failed, read]
  refine completes_bind _ _ (fun text => text = reason) _ ⟨reason, rfl, rfl⟩ fun text _ => ?_
  split
  · exact completes_ok _ _ (enterTerminal_closing env _ _ _)
  · exact finishOrCleanup_closes env _ _ _ running stored

theorem finalizeAfterCleanup_terminal (last : Session) : (finalizeAfterCleanup env last).run.state.isTerminal = true := by
  show (finalTarget last.run).state.isTerminal = true
  cases finalTarget last.run <;> rfl

theorem handleSystemStageEvent_terminal (cleanup : row.stageName = systemStageCleanup) :
    Ensures (handleSystemStageEvent env session row outcomeLabel outputs) fun after =>
      after.run.state.isTerminal = true := by
  rw [handleSystemStageEvent]
  by_cases failed : outcomeLabel ≠ "success"
  · simp only [if_pos failed]
    refine ensures_read _ _ _ fun reason _ => ?_
    rw [if_pos cleanup]
    exact ensures_ok _ _ (finalizeAfterCleanup_terminal env _)
  · simp only [if_neg failed]
    rw [if_neg (by rw [cleanup]; decide), if_pos cleanup]
    exact ensures_ok _ _ (finalizeAfterCleanup_terminal env _)

theorem handleSystemStageEvent_cleaned (cleanup : row.stageName = systemStageCleanup)
    (plain : outcomeLabel ≠ "success" → PlainError outputs) :
    Completes (handleSystemStageEvent env session row outcomeLabel outputs) fun after =>
      after.run.state.isTerminal = true := by
  have settles : ∃ after, handleSystemStageEvent env session row outcomeLabel outputs = .ok after := by
    rw [handleSystemStageEvent]
    by_cases failed : outcomeLabel ≠ "success"
    · obtain ⟨reason, read⟩ := textOr_plain outputs outcomeLabel (plain failed)
      simp only [if_pos failed, read, if_pos cleanup]
      exact ⟨_, rfl⟩
    · simp only [if_neg failed]
      rw [if_neg (by rw [cleanup]; decide), if_pos cleanup]
      exact ⟨_, rfl⟩
  obtain ⟨after, same⟩ := settles
  exact ⟨after, same, handleSystemStageEvent_terminal env session row outcomeLabel outputs cleanup after same⟩

theorem failStage_winds (reason : String) (index : Nat) (running : session.run.state = .running)
    (indexed : row.stageIndex = some index) (silent : session.db.messagesFor session.run.id = []) :
    WindsDown ((failStage env session row reason).db.messagesFor session.run.id)
      (failStage env session row reason).run := by
  refine .routing index (some reason) running ?_
  rw [← indexed]
  exact messagesFor_own (session.put _) (.routeRun
    { runId := session.run.id, completedStageIndex := row.stageIndex, outcomeLabel := some .failure,
      failureReason := some reason }) silent rfl

theorem handleAgentEventImpl_winds (args : AgentEventArgs) (sound : Sound session.db session.run)
    (stands : StandsIn session.db session.run) (awaited : session.run.pendingAgentCommandId = some args.agentCommandId)
    (failed : args.outcomeLabel ≠ "success") (plain : PlainError args.outputs)
    (stored : session.run.workspaceId ≠ none → workspaceOf session.db session.run ≠ none)
    (spent : ∀ row reason, runningExecution session.run = some row → row.kind = .skill →
      textOr args.outputs "error_message" args.outcomeLabel = .ok reason → authRetryDue session.run row reason = false) :
    Completes (handleAgentEventImpl env session args) fun after =>
      WindsDown (after.db.messagesFor session.run.id) after.run := by
  have standing : Stands (session.db.messagesFor session.run.id) (workspaceOf session.db session.run) session.run := stands
  obtain ⟨reason, read⟩ := textOr_plain args.outputs args.outcomeLabel plain
  rw [handleAgentEventImpl, if_neg (not_not.mpr awaited)]
  cases standing with
  | queued state rows pauses unparked => rw [unparked] at awaited; cases awaited
  | routing _ state idle => rw [idle.unparked] at awaited; cases awaited
  | starting index stage state idle => rw [idle.unparked] at awaited; cases awaited
  | paused row rest pause others state unparked => rw [unparked] at awaited; cases awaited
  | ended state idle => rw [idle.unparked] at awaited; cases awaited
  | parked command row rest state pending closed rows active quiet silent parkedOn =>
      have head := runningExecution_head session.run row rest rows active
      have fits := sound_head _ _ _ _ rows sound
      rw [head]
      simp only
      let resumed : Session := { session with run := { session.run with pendingAgentCommandId := none } }
      have closes (kind : row.kind = .system) :
          Completes (handleSystemStageEvent env resumed row args.outcomeLabel args.outputs) fun after =>
            WindsDown (after.db.messagesFor session.run.id) after.run :=
        completes_mono _ _ _
          (handleSystemStageEvent_closes env resumed row args.outcomeLabel args.outputs state failed plain stored)
          fun after closing => .closing closing
      cases parkedOn with
      | provision index stage kind => rw [kind]; exact closes kind
      | cleanup kind => rw [kind]; exact closes kind
      | refresh index stage kind => rw [kind]; exact closes kind
      | stage kind phase current claimed present =>
          have work : row.kind ≠ .system := by
            rcases kind with skill | review
            · rw [skill]; decide
            · rw [review]; decide
          obtain ⟨index, _, indexed, _⟩ := rowOf_indexed _ row fits.rowOf work
          have winds := failStage_winds env resumed row reason index state indexed silent
          rcases kind with skill | review
          · rw [skill]
            simp only
            rw [handleSkillStageEvent, if_pos failed, read]
            have kept : authRetryDue resumed.run row reason = false := spent row reason head skill read
            refine completes_bind _ _ (fun text => text = reason) _ ⟨reason, rfl, rfl⟩ fun text same => ?_
            rw [same, kept]
            exact completes_ok _ _ winds
          · rw [review]
            simp only
            rw [handleReviewStageEvent, if_pos failed, read]
            exact completes_ok _ _ winds

end Failing

section Running

variable (env : Env) (db : Db)

theorem transaction_completes (opened : Db) (run : PipelineRun) (body : Except EngineError Session)
    (post : Session → Prop) (others : Opened opened run.id) (member : run ∈ opened.runs.rows)
    (reaches : Ensures body (Reaches env ⟨opened, run⟩)) (completes : Completes body post) :
    Completes (body.map Session.commit) fun next =>
      ∃ after, next = after.commit ∧ post after ∧ after.run ∈ next.runs.rows ∧ after.run.id = run.id := by
  refine completes_map _ _ _ (completes_mono _ _ _ (completes_and _ _ _ completes reaches) ?_)
  rintro after ⟨holds, settled⟩
  have committed := commit_reaches env opened run after others member settled
  refine ⟨after, rfl, holds, committed.stored, ?_⟩
  cases settled with
  | settled carries => exact carries.id
  | ended last target reason released closes =>
      rw [closes]
      exact released.carries.id

theorem whileRunning_event (position : Nat) (run : PipelineRun) (args : AgentEventArgs) (coherent : Coherent db)
    (at_ : db.outbox[position]? = some (.handleAgentEvent args)) (member : run ∈ db.runs.rows)
    (awaited : run.pendingAgentCommandId = some args.agentCommandId) (post : Session → Prop)
    (completes : Completes (handleAgentEventImpl env ⟨db.taken position, run⟩ args) post) :
    Completes ((handleAgentEventImpl env ⟨db.taken position, run⟩ args).map Session.commit) fun next =>
      ∃ after, next = after.commit ∧ post after ∧ after.run ∈ next.runs.rows ∧ after.run.id = run.id := by
  have still := taken_coherent db position _ at_ coherent rfl
  have released := (coherent.events args (List.mem_of_getElem? at_)).2
  refine transaction_completes env (db.taken position) run _ post (coherent_opened _ run.id still) member ?_ completes
  refine ensures_mono _ _ _ (handleAgentEventImpl_awaited env ⟨db.taken position, run⟩ args (still.sound run member)
    (still.stands run member) released awaited) fun after reaches => ?_
  exact reaches_from env _ _ after (cleared_carries (db.taken position) run) reaches

theorem deliver_failure_winds (position : Nat) (run : PipelineRun) (args : AgentEventArgs) (coherent : Coherent db)
    (at_ : db.outbox[position]? = some (.handleAgentEvent args)) (member : run ∈ db.runs.rows)
    (owner : args.runId = run.id) (running : run.state = .running)
    (awaited : run.pendingAgentCommandId = some args.agentCommandId) (failed : args.outcomeLabel ≠ "success")
    (plain : PlainError args.outputs) (stored : run.workspaceId ≠ none → workspaceOf db run ≠ none)
    (spent : ∀ row reason, runningExecution run = some row → row.kind = .skill →
      textOr args.outputs "error_message" args.outcomeLabel = .ok reason → authRetryDue run row reason = false) :
    Completes (deliver env db position) fun next => Winding next run.id := by
  have still := taken_coherent db position _ at_ coherent rfl
  have winds := handleAgentEventImpl_winds env ⟨db.taken position, run⟩ args (still.sound run member)
    (still.stands run member) awaited failed plain stored spent
  rw [deliver_message db position env _ at_, handleMessage, owner,
    whileRunning_running (db.taken position) run _ member running]
  refine completes_mono _ _ _ (whileRunning_event env db position run args coherent at_ member awaited _ winds) ?_
  rintro next ⟨after, same, holds, present, sameId⟩
  refine ⟨after.run, present, sameId, ?_⟩
  rw [same]
  exact holds

theorem closing_event (run : PipelineRun) (args : AgentEventArgs) (row : StageExecution)
    (rest : List StageExecution) (rows : run.stageExecutions = row :: rest) (active : row.status = .running)
    (kind : row.kind = .system) (awaited : run.pendingAgentCommandId = some args.agentCommandId) :
    handleAgentEventImpl env ⟨db, run⟩ args =
      handleSystemStageEvent env ⟨db, { run with pendingAgentCommandId := none }⟩ row args.outcomeLabel args.outputs := by
  rw [handleAgentEventImpl, if_neg (not_not.mpr awaited), runningExecution_head run row rest rows active]
  simp only
  rw [kind]

theorem winding_route (position : Nat) (run : PipelineRun) (args : RouteRunArgs) (coherent : Coherent db)
    (at_ : db.outbox[position]? = some (.routeRun args)) (member : run ∈ db.runs.rows) (owner : args.runId = run.id)
    (winds : WindsDown (db.messagesFor run.id) run) :
    ∃ index, args.completedStageIndex = some index ∧ args.outcomeLabel = some .failure := by
  obtain ⟨free, _, _⟩ := routing_free db position run args coherent at_ member owner.symm
  cases winds with
  | routing index reason state driven =>
      have waiting : Message.routeRun args ∈ db.messagesFor run.id :=
        List.mem_filter.mpr ⟨List.mem_of_getElem? at_, by simp [Message.drives?, owner]⟩
      rw [driven] at waiting
      cases List.mem_singleton.mp waiting
      exact ⟨index, rfl, rfl⟩
  | closing closing =>
      cases closing with
      | cleaning row rest state rows active kind named parked => exact absurd free.idle.unparked parked
      | ended state =>
          have running : run.state = .running := free.running
          rw [running] at state
          cases state

theorem winding_parked (run : PipelineRun) (command : Uuid) (coherent : Coherent db) (member : run ∈ db.runs.rows)
    (awaited : run.pendingAgentCommandId = some command) (winds : WindsDown (db.messagesFor run.id) run) :
    ∃ row rest, run.state = .running ∧ run.stageExecutions = row :: rest ∧ row.status = .running ∧
      row.kind = .system ∧ row.stageName = systemStageCleanup := by
  have progress := stands_progress db run (coherent.stands run member)
  cases winds with
  | routing index reason state driven =>
      cases progress with
      | parked _ _ _ silent =>
          rw [silent] at driven
          cases driven
      | driven _ unparked => rw [unparked] at awaited; cases awaited
      | resting _ unparked => rw [unparked] at awaited; cases awaited
  | closing closing =>
      cases closing with
      | cleaning row rest state rows active kind named parked => exact ⟨row, rest, state, rows, active, kind, named⟩
      | ended state =>
          cases progress with
          | parked running => rw [running] at state; cases state
          | driven running => rw [running] at state; cases state
          | resting _ unparked => rw [unparked] at awaited; cases awaited

theorem winding_continues (runId : Uuid) (coherent : Coherent db) (winding : Winding db runId) :
    Continues db runId := by
  obtain ⟨run, member, isRun, winds⟩ := winding
  rw [← isRun] at winds ⊢
  constructor
  · intro env position args at_ owner
    obtain ⟨free, provisioned, routes⟩ := routing_free db position run args coherent at_ member owner.symm
    obtain ⟨index, completed, failed⟩ := winding_route db position run args coherent at_ member owner winds
    have closes : Completes (routeRunImpl env ⟨db.taken position, run⟩ args) fun after => Closing after.run := by
      rw [routeRunImpl, completed]
      simp only [if_pos failed]
      exact finishOrCleanup_closes env _ _ _ free.running provisioned
    have opened := taken_opened db position _ at_ run.id coherent (by rw [← owner]; rfl)
    rw [deliver_message db position env _ at_, handleMessage, owner,
      whileRunning_running (db.taken position) run _ member free.running]
    refine completes_mono _ _ _ (transaction_completes env (db.taken position) run _ _ opened member
      (routeRunImpl_reaches env _ ⟨db.taken position, run⟩ args free provisioned routes) closes) ?_
    rintro next ⟨after, _, holds, present, sameId⟩
    exact ⟨after.run, present, sameId, holds⟩
  · rintro env position args at_ owner ⟨other, otherMember, sameId, awaited⟩ plain
    rw [Table.eq_of_key db.runs other run otherMember member sameId] at awaited
    obtain ⟨row, rest, running, rows, active, kind, named⟩ :=
      winding_parked db run args.agentCommandId coherent member awaited winds
    rw [deliver_message db position env _ at_, handleMessage, owner,
      whileRunning_running (db.taken position) run _ member running]
    have cleaned := handleSystemStageEvent_cleaned env
      ⟨db.taken position, { run with pendingAgentCommandId := none }⟩ row args.outcomeLabel args.outputs named plain
    rw [← closing_event env (db.taken position) run args row rest rows active kind awaited] at cleaned
    refine completes_mono _ _ _
      (whileRunning_event env db position run args coherent at_ member awaited _ cleaned) ?_
    rintro next ⟨after, _, holds, present, sameRun⟩
    exact ⟨after.run, present, sameRun, holds⟩

end Running

section Keeping

variable (db next : Db) (run : PipelineRun)

theorem winding_started (messages : List Message) (winds : WindsDown messages run) :
    run.state = .running ∨ run.state.isTerminal = true := by
  cases winds with
  | routing index reason state driven => exact .inl state
  | closing closing =>
      cases closing with
      | cleaning row rest state => exact .inl state
      | ended state => exact .inr state

theorem winding_cancelled (env : Env) (orgId : Uuid) (member : run ∈ db.runs.rows)
    (winds : WindsDown (db.messagesFor run.id) run) (taken : requestCancel env db orgId run.id = .ok next) :
    Winding next run.id := by
  rw [requestCancel, Table.find?_of_mem db.runs run member] at taken
  simp only at taken
  split at taken
  · cases taken
  · rcases winding_started run _ winds with running | terminal
    · rw [running] at taken
      cases taken
      refine ⟨_, saveRun_own db _ run member rfl, rfl, ?_⟩
      cases winds with
      | routing index reason state driven => exact .routing index reason rfl driven
      | closing closing =>
          cases closing with
          | cleaning row rest state rows active kind named parked =>
              exact .closing (.cleaning row rest rfl rows active kind named parked)
          | ended state => rw [running] at state; cases state
    · cases stopped : run.state with
      | queued => rw [stopped] at terminal; cases terminal
      | running => rw [stopped] at terminal; cases terminal
      | paused => rw [stopped] at terminal; cases terminal
      | completed => rw [stopped] at taken; cases taken
      | failed => rw [stopped] at taken; cases taken
      | killed => rw [stopped] at taken; cases taken
      | cancelled => rw [stopped] at taken; cases taken

theorem resolvePause_paused (env : Env) (orgId pauseId : Uuid) (resolution : PauseResolution) (actor : Actor)
    (coherent : Coherent db) (member : run ∈ db.runs.rows)
    (subject : (findPause db pauseId).map (fun found => found.1.id) = some run.id)
    (taken : resolvePause env db orgId pauseId resolution actor = .ok next) : run.state = .paused := by
  obtain ⟨pause, closed, _, resolving, _⟩ :=
    resolvePause_own env db orgId pauseId resolution actor run next member subject taken
  exact (resolving_answered db pauseId resolution run pause closed coherent resolving).1

theorem winding_unpaused (env : Env) (orgId pauseId : Uuid) (resolution : PauseResolution) (actor : Actor)
    (coherent : Coherent db) (member : run ∈ db.runs.rows) (winds : WindsDown (db.messagesFor run.id) run)
    (subject : (findPause db pauseId).map (fun found => found.1.id) = some run.id)
    (taken : resolvePause env db orgId pauseId resolution actor = .ok next) : False := by
  have state := resolvePause_paused db next run env orgId pauseId resolution actor coherent member subject taken
  rcases winding_started run _ winds with running | terminal
  · rw [running] at state; cases state
  · rw [state] at terminal; cases terminal

theorem winding_event (env : Env) (position : Nat) (args : AgentEventArgs) (coherent : Coherent db)
    (at_ : db.outbox[position]? = some (.handleAgentEvent args)) (member : run ∈ db.runs.rows)
    (owner : args.runId = run.id) (winds : WindsDown (db.messagesFor run.id) run)
    (taken : deliver env db position = .ok next) : Winding next run.id := by
  have still := taken_coherent db position _ at_ coherent rfl
  have messages := taken_other db position _ at_ run.id (by intro same; cases same)
  have unmoved : Winding (db.taken position) run.id := ⟨run, member, rfl, by rw [messages]; exact winds⟩
  rw [deliver_message db position env _ at_, handleMessage, owner] at taken
  rcases winding_started run _ winds with running | terminal
  · rw [whileRunning_running (db.taken position) run _ member running] at taken
    by_cases stale : run.pendingAgentCommandId ≠ some args.agentCommandId
    · rw [handleAgentEventImpl_stale env ⟨db.taken position, run⟩ args stale] at taken
      cases taken
      have same : (Session.commit ⟨db.taken position, run⟩) = db.taken position :=
        saveRun_stored (db.taken position) run member
      rw [same]
      exact unmoved
    · have awaited := not_not.mp stale
      obtain ⟨row, rest, _, rows, active, kind, named⟩ :=
        winding_parked db run args.agentCommandId coherent member awaited winds
      rw [closing_event env (db.taken position) run args row rest rows active kind awaited] at taken
      have ends := handleSystemStageEvent_terminal env
        ⟨db.taken position, { run with pendingAgentCommandId := none }⟩ row args.outcomeLabel args.outputs named
      rw [← closing_event env (db.taken position) run args row rest rows active kind awaited] at ends taken
      cases handled : handleAgentEventImpl env ⟨db.taken position, run⟩ args with
      | error error => rw [handled] at taken; cases taken
      | ok after =>
          have steps := whileRunning_event env db position run args coherent at_ member awaited
            (fun after => after.run.state.isTerminal = true) ⟨after, handled, ends after handled⟩
          obtain ⟨last, _, holds, present, sameId⟩ := completes_ensures _ _ steps next taken
          exact ⟨last.run, present, sameId, .closing (.ended holds)⟩
  · have idle : whileRunning (db.taken position) run.id (fun session => handleAgentEventImpl env session args) =
        .ok (db.taken position) := by
      rw [whileRunning, Table.find?_of_mem (db.taken position).runs run member]
      simp only
      rw [if_pos]
      intro running
      rw [running] at terminal
      cases terminal
    rw [idle] at taken
    cases taken
    exact unmoved

theorem winding_step (label : Label) (runId : Uuid) (coherent : Coherent db) (allowed : label.Allowed db)
    (taken : engineStep db label = .ok next) (winding : Winding db runId) : Winding next runId := by
  have advances := (engineStep_stepped db label coherent allowed next taken).advances
  have continues := winding_continues db runId coherent winding
  obtain ⟨run, member, isRun, winds⟩ := winding
  rw [← isRun] at winds continues ⊢
  by_cases own : label.subject db = some run.id
  · cases label with
    | startRun => cases own
    | startRerun => cases own
    | startRerunFromStage => cases own
    | requestCancel env orgId otherId =>
        cases own
        exact winding_cancelled db next run env orgId member winds taken
    | resolvePause env orgId pauseId resolution actor =>
        exact (winding_unpaused db next run env orgId pauseId resolution actor coherent member winds own taken).elim
    | deliver env position =>
        obtain ⟨message, at_, owner⟩ := Option.bind_eq_some_iff.mp own
        cases message with
        | routeRun args =>
            have closes := completes_ensures _ _ (continues.routes env position args at_ (Option.some.inj owner)) next taken
            obtain ⟨last, present, sameId, closing⟩ := closes
            exact ⟨last, present, sameId, .closing closing⟩
        | startStage otherId stageIndex =>
            cases owner
            obtain ⟨_, _, _, free, _⟩ := starting_free db position run stageIndex coherent at_ member
            cases winds with
            | routing index reason state driven =>
                have waiting : Message.startStage run.id stageIndex ∈ db.messagesFor run.id :=
                  List.mem_filter.mpr ⟨List.mem_of_getElem? at_, by simp [Message.drives?]⟩
                rw [driven] at waiting
                cases List.mem_singleton.mp waiting
            | closing closing =>
                cases closing with
                | cleaning row rest state rows active kind named parked => exact absurd free.idle.unparked parked
                | ended state =>
                    have running : run.state = .running := free.running
                    rw [running] at state
                    cases state
        | handleAgentEvent args =>
            exact winding_event db next run env position args coherent at_ member (Option.some.inj owner) winds taken
        | runTerminalHook => cases owner
    | terminalEvent => cases own
    | workspaceStatus => cases own
    | createTicket => cases own
    | bindPullRequest => cases own
    | dismissFinding => cases own
  · have begun : run.state ≠ .queued := by
      intro queued
      rcases winding_started run _ winds with running | terminal
      · rw [running] at queued; cases queued
      · rw [queued] at terminal; cases terminal
    obtain ⟨kept, messages⟩ := advances.others run member own begun
    exact ⟨run, kept, rfl, by rw [messages]; exact winds⟩

theorem winding_path (runId : Uuid) (labels : List Label) (last : Db) (reachable : Reachable runEngine db)
    (path : Path runEngine db labels last) (winding : Winding db runId) : Winding last runId ∧ Coherent last := by
  refine path_keeps runEngine (fun state => Winding state runId ∧ Coherent state) ?_ db last labels path
    ⟨winding, reachable_coherent db reachable⟩
  rintro state label after ⟨winds, coherent⟩ allowed taken
  exact ⟨winding_step state after label runId coherent allowed taken winds,
    engine_inductive.kept state label after coherent allowed taken⟩

end Keeping

-- A failing event that is not answered with an authorisation retry winds its run
-- down: through its ROUTE_RUN and its cleanup to a terminal state.
theorem failure_winds_down (db : Db) (reachable : Reachable runEngine db) (env : Env) (position : Nat)
    (run : PipelineRun) (args : AgentEventArgs) (member : run ∈ db.runs.rows) (running : run.state = .running)
    (at_ : db.outbox[position]? = some (.handleAgentEvent args)) (owner : args.runId = run.id)
    (awaited : run.pendingAgentCommandId = some args.agentCommandId) (failed : args.outcomeLabel ≠ "success")
    (plain : PlainError args.outputs) (stored : run.workspaceId ≠ none → workspaceOf db run ≠ none)
    (spent : ∀ row reason, runningExecution run = some row → row.kind = .skill →
      textOr args.outputs "error_message" args.outcomeLabel = .ok reason → authRetryDue run row reason = false) :
    Completes (deliver env db position) fun next => ∀ labels last, Path runEngine next labels last →
      Winding last run.id ∧ Continues last run.id := by
  have coherent := reachable_coherent db reachable
  have winds := deliver_failure_winds env db position run args coherent at_ member owner running awaited failed plain
    stored spent
  obtain ⟨next, taken, winding⟩ := winds
  refine ⟨next, taken, fun labels last path => ?_⟩
  have reached : Reachable runEngine next := reachable_step runEngine db next (.deliver env position) reachable trivial taken
  obtain ⟨still, after⟩ := winding_path next run.id labels last reached path winding
  exact ⟨still, winding_continues last run.id after still⟩

def sampleProceeds : FlattenedDefinition := sampleSkills none .alwaysProceed

def sampleFailure (text : String) : Db :=
  runEngine.committed (.terminalEvent (sampleEvent 15 "failure" [("error_message", .str text)]))
    (sampleWorking sampleProceeds)

theorem sampleFailure_reachable (text : String) : Reachable runEngine (sampleFailure text) :=
  reachable_committed runEngine _ _ (sampleWorking_reachable sampleProceeds) trivial

theorem sampleFailure_winds_down :
    Completes (deliver (sampleEnv sampleProceeds) (sampleFailure "timed out") 0) fun next =>
      ∀ labels last, Path runEngine next labels last → Winding last 10 ∧ Continues last 10 := by
  let run := ((sampleFailure "timed out").runs.find? 10).get rfl
  have member := (Table.find?_some _ 10 run (Option.some_get _).symm).1
  refine failure_winds_down (sampleFailure "timed out") (sampleFailure_reachable _) (sampleEnv sampleProceeds) 0 run _
    member rfl rfl rfl rfl (by decide) ?_ (fun _ => ?_) ?_
  · intro value found _
    cases found
    exact ⟨_, rfl⟩
  · intro absent
    cases absent
  · intro row reason _ _ read
    cases read
    rfl

theorem not_winding (db : Db) (run : PipelineRun) (found : db.runs.find? run.id = some run)
    (running : run.state = .running) (silent : db.messagesFor run.id = [])
    (other : run.stageExecutions.head?.map StageExecution.stageName ≠ some systemStageCleanup) :
    ¬ Winding db run.id := by
  rintro ⟨same, member, isRun, winds⟩
  have stored := Table.find?_of_mem db.runs same member
  rw [isRun, found] at stored
  cases stored
  cases winds with
  | routing index reason state driven =>
      rw [silent] at driven
      cases driven
  | closing closing =>
      cases closing with
      | cleaning row rest state rows active kind named parked =>
          refine other ?_
          rw [rows]
          exact congrArg some named
      | ended state =>
          rw [running] at state
          cases state

-- An expired credential is answered with a retry, not with a failed run.
theorem authExpired_retries :
    Reachable runEngine (sampleFailure "auth_expired") ∧
      (∃ args, (sampleFailure "auth_expired").outbox[0]? = some (.handleAgentEvent args) ∧ args.runId = 10 ∧
        args.agentCommandId = 15 ∧ args.outcomeLabel ≠ "success") ∧
      (∃ run, (sampleFailure "auth_expired").runs.find? 10 = some run ∧ run.state = .running ∧
        run.pendingAgentCommandId = some 15) ∧
      ∃ next, deliver (sampleEnv sampleProceeds) (sampleFailure "auth_expired") 0 = .ok next ∧ ¬ Winding next 10 := by
  let next := sampleDeliver sampleProceeds (sampleFailure "auth_expired")
  let before := ((sampleFailure "auth_expired").runs.find? 10).get rfl
  let run := (next.runs.find? 10).get rfl
  refine ⟨sampleFailure_reachable _, ⟨_, rfl, rfl, rfl, by decide⟩, ⟨before, (Option.some_get _).symm, rfl, rfl⟩,
    ⟨next, step_committed runEngine (.deliver (sampleEnv sampleProceeds) 0) (sampleFailure "auth_expired") rfl, ?_⟩⟩
  exact not_winding next run (Option.some_get _).symm rfl rfl (by decide)

end Yaaos.Pipelines
