import Yaaos.Pipelines.Pauses
import Yaaos.Pipelines.Returns

set_option autoImplicit false

namespace Yaaos.Pipelines

open Yaaos.Base

-- The calls of `_finish_or_cleanup`, with the session each is made in and what it
-- decides: ROUTE_RUN ends a failed, a cancelled and a completed run, a failing
-- system stage fails its run, and a paused run is killed or cancelled.
inductive Calls (env : Env) (db : Db) : Label → Session → TerminalState → Option String → Prop where
  | failed (position : Nat) (run : PipelineRun) (args : RouteRunArgs) (index : Nat)
      (at_ : db.outbox[position]? = some (.routeRun args)) (member : run ∈ db.runs.rows) (owner : args.runId = run.id)
      (running : run.state = .running) (completed : args.completedStageIndex = some index)
      (outcome : args.outcomeLabel = some .failure) :
      Calls env db (.deliver env position) ⟨db.taken position, run⟩ .failed args.failureReason
  | cancelled (position : Nat) (run : PipelineRun) (args : RouteRunArgs) (index : Nat)
      (at_ : db.outbox[position]? = some (.routeRun args)) (member : run ∈ db.runs.rows) (owner : args.runId = run.id)
      (running : run.state = .running) (completed : args.completedStageIndex = some index)
      (outcome : args.outcomeLabel ≠ some .failure) (requested : run.cancelRequested = true) :
      Calls env db (.deliver env position) ⟨db.taken position, run⟩ .cancelled none
  | completed (position : Nat) (run : PipelineRun) (args : RouteRunArgs) (index : Nat)
      (at_ : db.outbox[position]? = some (.routeRun args)) (member : run ∈ db.runs.rows) (owner : args.runId = run.id)
      (running : run.state = .running) (completed : args.completedStageIndex = some index)
      (outcome : args.outcomeLabel ≠ some .failure) (unrequested : run.cancelRequested = false)
      (last : index + 1 ≥ run.definitionSnapshot.stages.length) :
      Calls env db (.deliver env position) ⟨db.taken position, run⟩ .completed none
  | systemFailed (position : Nat) (run : PipelineRun) (args : AgentEventArgs) (row : StageExecution) (reason : String)
      (at_ : db.outbox[position]? = some (.handleAgentEvent args)) (member : run ∈ db.runs.rows)
      (owner : args.runId = run.id) (running : run.state = .running)
      (awaited : run.pendingAgentCommandId = some args.agentCommandId) (active : runningExecution run = some row)
      (kind : row.kind = .system) (named : row.stageName ≠ systemStageCleanup) (outcome : args.outcomeLabel ≠ "success")
      (read : textOr args.outputs "error_message" args.outcomeLabel = .ok reason) :
      Calls env db (.deliver env position)
        (({ db := db.taken position, run := { run with pendingAgentCommandId := none } } : Session).put
          { row with completedAt := some env.now, status := .failed, failureReason := some reason })
        .failed (some reason)
  | unrefreshed (position : Nat) (run : PipelineRun) (args : AgentEventArgs) (row : StageExecution)
      (stage : ExecutableStage) (at_ : db.outbox[position]? = some (.handleAgentEvent args))
      (member : run ∈ db.runs.rows) (owner : args.runId = run.id) (running : run.state = .running)
      (awaited : run.pendingAgentCommandId = some args.agentCommandId) (active : runningExecution run = some row)
      (kind : row.kind = .system) (named : row.stageName = systemStageRefreshAuth)
      (outcome : args.outcomeLabel = "success")
      (found : stageAt run.definitionSnapshot run.currentStageIndex = .ok stage)
      (unskilled : ∀ skill, stage ≠ .skill skill) :
      Calls env db (.deliver env position)
        (({ db := db.taken position, run := { run with pendingAgentCommandId := none } } : Session).put
          { row with completedAt := some env.now, status := .completed })
        .failed (some "refresh-auth recovery reached a non-skill stage")
  | killed (orgId pauseId userId : Uuid) (resolution : PauseResolution) (actor : Actor) (run : PipelineRun)
      (pause closed : RunPause) (found : findPause db pauseId = some (run, pause)) (own : pause.orgId = orgId)
      (acting : actor.userId? = some userId)
      (responds : isPauseResponder env userId pause.escalationUserIds orgId = true)
      (opened : pause.resolvedAt = none) (action : resolution.action = .kill)
      (closes : closed =
        { pause with
          resolution := some resolution.action, instruction := resolution.instruction,
          sendBackToStage := resolution.sendBackToStage, resolvedBy := some userId, resolvedAt := some env.now }) :
      Calls env db (.resolvePause env orgId pauseId resolution actor)
        { answered db run closed with run := { (answered db run closed).run with state := .running } } .killed none
  | withdrawn (orgId : Uuid) (run : PipelineRun) (pause : RunPause) (member : run ∈ db.runs.rows)
      (own : run.orgId = orgId) (paused : run.state = .paused) (opened : getOpenPauseForRun run = some pause) :
      Calls env db (.requestCancel env orgId run.id)
        { answered db run { pause with resolvedAt := some env.now } with
          run :=
            { (answered db run { pause with resolvedAt := some env.now }).run with
              state := .running, cancelRequested := true } }
        .cancelled none

section Calling

variable (env : Env) (db : Db)

theorem system_event (run : PipelineRun) (args : AgentEventArgs) (row : StageExecution)
    (awaited : run.pendingAgentCommandId = some args.agentCommandId) (active : runningExecution run = some row)
    (kind : row.kind = .system) :
    handleAgentEventImpl env ⟨db, run⟩ args =
      handleSystemStageEvent env ⟨db, { run with pendingAgentCommandId := none }⟩ row args.outcomeLabel args.outputs := by
  rw [handleAgentEventImpl, if_neg (not_not.mpr awaited), active]
  simp only
  rw [kind]

theorem system_failed (session : Session) (row : StageExecution) (outcomeLabel reason : String) (outputs : Dict Json)
    (named : row.stageName ≠ systemStageCleanup) (outcome : outcomeLabel ≠ "success")
    (read : textOr outputs "error_message" outcomeLabel = .ok reason) :
    handleSystemStageEvent env session row outcomeLabel outputs =
      finishOrCleanup env
        (session.put { row with completedAt := some env.now, status := .failed, failureReason := some reason }) .failed
        (some reason) := by
  rw [handleSystemStageEvent]
  simp only [if_pos outcome, read]
  exact if_neg named

theorem system_unrefreshed (session : Session) (row : StageExecution) (stage : ExecutableStage) (outputs : Dict Json)
    (named : row.stageName = systemStageRefreshAuth)
    (found : stageAt session.run.definitionSnapshot session.run.currentStageIndex = .ok stage)
    (unskilled : ∀ skill, stage ≠ .skill skill) :
    handleSystemStageEvent env session row "success" outputs =
      finishOrCleanup env (session.put { row with completedAt := some env.now, status := .completed }) .failed
        (some "refresh-auth recovery reached a non-skill stage") := by
  rw [handleSystemStageEvent]
  simp only
  rw [if_neg (by decide), if_neg (by rw [named]; decide), if_neg (by rw [named]; decide), if_pos named]
  have at_ : stageAt (session.put { row with completedAt := some env.now, status := .completed }).run.definitionSnapshot
      (session.put { row with completedAt := some env.now, status := .completed }).run.currentStageIndex = .ok stage := found
  cases stage with
  | skill skill => exact absurd rfl (unskilled skill)
  | review review => rw [at_]; rfl
  | action action => rw [at_]; rfl

theorem calls_step (label : Label) (session : Session) (target : TerminalState) (reason : Option String)
    (calls : Calls env db label session target reason) :
    engineStep db label = (finishOrCleanup env session target reason).map Session.commit := by
  cases calls with
  | failed position run args index at_ member owner running completed outcome =>
      rw [engineStep, deliver_message db position env _ at_, handleMessage, owner,
        whileRunning_running (db.taken position) run _ member running, routeRunImpl, completed]
      simp only [if_pos outcome]
  | cancelled position run args index at_ member owner running completed outcome requested =>
      rw [engineStep, deliver_message db position env _ at_, handleMessage, owner,
        whileRunning_running (db.taken position) run _ member running, routeRunImpl, completed]
      simp only [if_neg outcome, if_pos requested]
  | completed position run args index at_ member owner running completed outcome unrequested last =>
      rw [engineStep, deliver_message db position env _ at_, handleMessage, owner,
        whileRunning_running (db.taken position) run _ member running, routeRunImpl, completed]
      simp only [if_neg outcome, unrequested, if_pos last]
      rfl
  | systemFailed position run args row reason at_ member owner running awaited active kind named outcome read =>
      rw [engineStep, deliver_message db position env _ at_, handleMessage, owner,
        whileRunning_running (db.taken position) run _ member running,
        system_event env (db.taken position) run args row awaited active kind,
        system_failed env _ row _ reason _ named outcome read]
  | unrefreshed position run args row stage at_ member owner running awaited active kind named outcome found unskilled =>
      rw [engineStep, deliver_message db position env _ at_, handleMessage, owner,
        whileRunning_running (db.taken position) run _ member running,
        system_event env (db.taken position) run args row awaited active kind, outcome,
        system_unrefreshed env ⟨db.taken position, { run with pendingAgentCommandId := none }⟩ row stage _ named found
          unskilled]
  | killed orgId pauseId userId resolution actor run pause closed found own acting responds opened action closes =>
      obtain ⟨_, instruction, sendBackToStage⟩ := resolution
      cases action
      rw [closes, engineStep, resolvePause, found]
      simp only
      rw [if_neg (not_not.mpr own), acting]
      simp only
      rw [if_neg (by simp [responds]), if_neg (not_not.mpr opened), if_neg (by simp)]
      rfl
  | withdrawn orgId run pause member own paused opened =>
      rw [engineStep, requestCancel, Table.find?_of_mem db.runs run member]
      simp only
      rw [if_neg (not_not.mpr own), paused]
      simp only [opened]
      rfl

end Calling

section Cleaning

variable (env : Env) (session : Session)

theorem dispatchCleanupStage_run :
    Ensures (dispatchCleanupStage session) fun after =>
      after.db.runs = session.db.runs ∧
        ∃ row command, row = newExecution session.db.nextId none .system systemStageCleanup ∧
          after.run = { (session.addExecution row).run with phase := .cleanup, pendingAgentCommandId := some command } := by
  rw [dispatchCleanupStage]
  let row := newExecution session.db.nextId none .system systemStageCleanup
  cases requested : session.run.workspaceId with
  | none =>
      have none_ : (session.addExecution row).run.workspaceId = none := requested
      simp only
      rw [none_]
      exact ensures_error _ _
  | some workspaceId =>
      have some_ : (session.addExecution row).run.workspaceId = some workspaceId := requested
      simp only
      rw [some_]
      simp only [dispatchCleanup, dispatchViaWorkspace]
      split
      · exact ensures_error _ _
      · exact ensures_ok _ _ ⟨rfl, row, _, rfl, rfl⟩

structure Awaits (run : PipelineRun) : Prop where
  state : run.state = .running
  closing : Closing run

theorem finishOrCleanup_cleans (target : TerminalState) (reason : Option String) (running : session.run.state = .running)
    (cleans : session.run.workspaceId ≠ none ∧ session.run.phase ≠ .cleanup) :
    Ensures (finishOrCleanup env session target reason) fun after =>
      Awaits after.run ∧ after.run.id = session.run.id ∧ after.run.failureReason = reason ∧
        after.run.cancelRequested = session.run.cancelRequested ∧ after.run.pauses = session.run.pauses := by
  rw [finishOrCleanup]
  simp only
  rw [if_pos cleans]
  refine ensures_mono _ _ _ (dispatchCleanupStage_run _) fun after made => ?_
  obtain ⟨_, row, command, isCleanup, same⟩ := made
  rw [same]
  refine ⟨⟨running, .cleaning row _ running rfl ?_ ?_ ?_ (by simp)⟩, rfl, rfl, rfl, rfl⟩ <;> rw [isCleanup] <;> rfl

-- A run enters `completed` only when no cancellation was requested.
def Honest (after : Session) : Prop := after.run.state = .completed → after.run.cancelRequested = false

theorem honest_running (after : Session) (running : after.run.state = .running) : Honest after := by
  intro completed
  rw [running] at completed
  cases completed

theorem enterTerminal_honest (target : TerminalState) (reason : Option String)
    (free : target = .completed → session.run.cancelRequested = false) :
    Honest (enterTerminal env session target reason) := by
  intro completed
  refine free ?_
  cases target <;> first | rfl | cases completed

theorem finalizeAfterCleanup_honest : Honest (finalizeAfterCleanup env session) := by
  refine enterTerminal_honest env session _ _ fun completed => ?_
  by_cases requested : session.run.cancelRequested = true
  · rw [finalTarget] at completed
    split at completed
    · cases completed
    · cases completed
  · exact Bool.eq_false_iff.mpr requested

theorem finishOrCleanup_honest (target : TerminalState) (reason : Option String) (running : session.run.state = .running)
    (free : target = .completed → session.run.cancelRequested = false) :
    Ensures (finishOrCleanup env session target reason) Honest := by
  rw [finishOrCleanup]
  simp only
  split
  · refine ensures_mono _ _ _ (dispatchCleanupStage_run _) fun after made => ?_
    obtain ⟨_, row, command, _, same⟩ := made
    exact honest_running after (by rw [same]; exact running)
  · exact ensures_ok _ _ (enterTerminal_honest env _ target reason free)

theorem startStageImpl_honest (stageIndex : Option Nat) (running : session.run.state = .running) :
    Ensures (startStageImpl env session stageIndex) Honest :=
  ensures_mono _ _ _ (startStageImpl_steady env session stageIndex) fun after steady =>
    honest_running after (steady.state.trans running)

theorem sends_honest (row : StageExecution) (targetIndex : Nat) (target : SkillStage) (gapText : String)
    (kickoff : Kickoff) (after : Session) (running : session.run.state = .running)
    (sends : SendsBack env session row targetIndex target gapText kickoff after) : Honest after := by
  cases sends with
  | loops same =>
      intro completed
      rw [same] at completed
      cases completed
  | rewinds first started =>
      exact startStageImpl_honest env (rewound session row targetIndex target _) _ running after started

theorem returned_honest (row : StageExecution) (outputs : Dict Json) (after : Session)
    (running : session.run.state = .running) (returned : Returned env session row outputs after) : Honest after := by
  cases returned with
  | stays stays => exact honest_running after (stays.state.trans running)
  | asks completed targetIndex target gapText asks sends => exact sends_honest env (session.put completed) _ _ _ _ _ after running sends
  | crosses crossing crosses level outbox commands settles =>
      have still : crossing.session.run.state = .running := level.state.trans running
      cases settles with
      | proceeds calm same => exact honest_running after (by rw [same]; exact still)
      | sendsBack completed targetIndex target gapText resolved sends =>
          exact sends_honest env (crossing.session.put completed) _ _ _ _ _ after still sends
      | pauses completed tripped owners trips same =>
          intro ended
          rw [same] at ended
          cases ended

theorem handleSystemStageEvent_honest (row : StageExecution) (outcomeLabel : String) (outputs : Dict Json)
    (running : session.run.state = .running) :
    Ensures (handleSystemStageEvent env session row outcomeLabel outputs) Honest := by
  rw [handleSystemStageEvent]
  simp only
  split
  · refine ensures_read _ _ _ fun reason _ => ?_
    split
    · exact ensures_ok _ _ (finalizeAfterCleanup_honest env _)
    · exact finishOrCleanup_honest env _ _ _ running (by intros; contradiction)
  · split
    · exact ensures_ok _ _ (honest_running _ running)
    · split
      · exact ensures_ok _ _ (finalizeAfterCleanup_honest env _)
      · split
        · refine ensures_read _ _ _ fun stage _ => ?_
          cases stage with
          | skill stage =>
              exact ensures_mono _ _ _ (dispatchSkillStage_works env _ stage _ _ _ rfl) fun after works =>
                honest_running after (works.steady.state.trans running)
          | review _ => exact finishOrCleanup_honest env _ _ _ running (by intros; contradiction)
          | action _ => exact finishOrCleanup_honest env _ _ _ running (by intros; contradiction)
        · exact ensures_ok _ _ (honest_running _ running)

theorem handleAgentEventImpl_honest (args : AgentEventArgs) (running : session.run.state = .running) :
    Ensures (handleAgentEventImpl env session args) Honest := by
  refine ensures_mono _ _ _ (handleAgentEventImpl_returned env session args) fun after cases_ => ?_
  rcases cases_ with same | ⟨row, _, _, ⟨_, handled⟩ | ⟨_, returned, _⟩⟩
  · rw [same]
    exact honest_running session running
  · exact handleSystemStageEvent_honest env { session with run := { session.run with pendingAgentCommandId := none } } row
      _ _ running after handled
  · exact returned_honest env { session with run := { session.run with pendingAgentCommandId := none } } row _ after
      running returned

theorem routeRunImpl_honest (args : RouteRunArgs) (running : session.run.state = .running) :
    Ensures (routeRunImpl env session args) Honest := by
  rw [routeRunImpl]
  cases args.completedStageIndex with
  | none => exact ensures_ok _ _ (honest_running _ running)
  | some index =>
      simp only
      split
      · exact finishOrCleanup_honest env session _ _ running (by intros; contradiction)
      · split
        · exact finishOrCleanup_honest env session _ _ running (by intros; contradiction)
        · rename_i unrequested
          split
          · exact finishOrCleanup_honest env session _ _ running fun _ => Bool.eq_false_iff.mpr unrequested
          · exact ensures_ok _ _ (honest_running _ running)

end Cleaning

section Honesty

def AllHonest (db : Db) : Prop := ∀ run ∈ db.runs.rows, run.state = .completed → run.cancelRequested = false

variable (env : Env) (db : Db)

theorem committed_honest (start last : Session) (run : PipelineRun) (member : run ∈ db.runs.rows)
    (id : start.run.id = run.id) (runs : start.db.runs = db.runs) (turns : Turns env start last) (honest : Honest last)
    (all_ : AllHonest db) : AllHonest last.commit := by
  intro next nextMember completed
  rcases turns_split env db start last run next member id runs turns nextMember with same | kept | ⟨old, _, _, promoted⟩
  · rw [same] at completed ⊢
    exact honest completed
  · exact all_ next kept completed
  · rw [promoted] at completed
    cases completed

theorem insertRun_honest (run : PipelineRun) (queued : run.state = .queued) (all_ : AllHonest db) :
    AllHonest (insertRun db run) := by
  intro next nextMember completed
  rcases insertRun_inserted db run with same | ⟨inserted, isInserted, same⟩
  · rw [same] at nextMember
    exact all_ next nextMember completed
  · rw [same] at nextMember
    rcases attemptPromotion_split inserted run next queued nextMember with earlier | promoted
    · rcases inserted_split db inserted run next isInserted earlier with kept | own
      · exact all_ next kept completed
      · rw [own, queued] at completed
        cases completed
    · rw [promoted] at completed
      cases completed

theorem saved_honest (run : PipelineRun) (honest : run.state = .completed → run.cancelRequested = false)
    (all_ : AllHonest db) : AllHonest (db.saveRun run) := by
  intro next nextMember completed
  rcases saveRun_rows db run next nextMember with same | ⟨earlier, _⟩
  · rw [same] at completed ⊢
    exact honest completed
  · exact all_ next earlier completed

theorem deliver_honest (position : Nat) (all_ : AllHonest db) : Ensures (deliver env db position) AllHonest := by
  intro next taken
  cases deliver_delivered env db position next taken with
  | skips message at_ passed => exact all_
  | works message run last at_ named member running done =>
      refine committed_honest env (db.taken position) ⟨db.taken position, run⟩ last run member rfl rfl
        (work_turns env _ message last done) ?_ all_
      cases message with
      | routeRun args => exact routeRunImpl_honest env _ args running last done
      | startStage runId stageIndex => exact startStageImpl_honest env _ stageIndex running last done
      | handleAgentEvent args => exact handleAgentEventImpl_honest env _ args running last done
      | runTerminalHook hook orgId ticketId => cases named

theorem resolveWith_honest (session : Session) (pause : RunPause) (resolution : PauseResolution) :
    Ensures (resolveWith env session pause resolution) Honest := by
  rw [resolveWith]
  cases resolution.action with
  | approve => exact ensures_read _ _ _ fun row _ => ensures_ok _ _ (honest_running _ rfl)
  | instruct =>
      refine ensures_read _ _ _ fun row _ => ?_
      rw [resumeWithInstruction]
      refine ensures_read _ _ _ fun stage _ => ?_
      cases stage.name? with
      | none => exact ensures_error _ _
      | some stageName => exact startStageImpl_honest env _ _ rfl
  | sendBack =>
      refine ensures_read _ _ _ fun row _ => ensures_read _ _ _ fun target _ => ?_
      exact ensures_mono _ _ _ (sendBackToStage_sends env (resume session) row target.1 target.2 "" _) fun last =>
        sends_honest env (resume session) row target.1 target.2 "" _ last rfl
  | kill => exact finishOrCleanup_honest env _ .killed none rfl (by intros; contradiction)

theorem resolvePause_honest (orgId pauseId : Uuid) (resolution : PauseResolution) (actor : Actor) (coherent : Coherent db)
    (all_ : AllHonest db) : Ensures (resolvePause env db orgId pauseId resolution actor) AllHonest := by
  intro next taken
  obtain ⟨run, pause, closed, last, answering, done, ⟨revived, revives, turns⟩, _, same⟩ :=
    @resolvePause_answers (fun _ => False) env db orgId pauseId resolution actor coherent next taken
  rw [same]
  exact committed_honest env db revived last run answering.member revives.id revives.runs turns
    (resolveWith_honest env _ pause resolution last done) all_

theorem requestCancel_honest (orgId runId : Uuid) (all_ : AllHonest db) :
    Ensures (requestCancel env db orgId runId) AllHonest := by
  intro next taken
  cases requestCancel_cancels env db orgId runId next taken with
  | queued run member named state => exact saved_honest db _ (fun completed => nomatch completed) all_
  | running run member named running =>
      exact saved_honest db _ (fun completed => by rw [running] at completed; cases completed) all_
  | paused run pause last member named state listed opened done =>
      let revived : Session :=
        { answered db run { pause with resolvedAt := some env.now } with
          run :=
            { (answered db run { pause with resolvedAt := some env.now }).run with
              state := .running, cancelRequested := true } }
      exact committed_honest env db revived last run member rfl rfl
        (finishOrCleanup_turns env revived .cancelled none last done)
        (finishOrCleanup_honest env revived .cancelled none rfl (fun same => nomatch same) last done) all_

theorem allHonest_step (label : Label) (coherent : Coherent db) (all_ : AllHonest db) :
    Ensures (engineStep db label) AllHonest := by
  have inserted (next : Db) (started : Started db (label.Allowed db) next) : AllHonest next := by
    cases started
    exact insertRun_honest db _ rfl all_
  cases label with
  | startRun => exact ensures_mono _ _ _ (engineStep_started db _ rfl) inserted
  | startRerun => exact ensures_mono _ _ _ (engineStep_started db _ rfl) inserted
  | startRerunFromStage => exact ensures_mono _ _ _ (engineStep_started db _ rfl) inserted
  | requestCancel env orgId runId => exact requestCancel_honest env db orgId runId all_
  | resolvePause env orgId pauseId resolution actor =>
      exact resolvePause_honest env db orgId pauseId resolution actor coherent all_
  | deliver env position => exact deliver_honest env db position all_
  | terminalEvent event =>
      rw [engineStep, recordTerminalEvent]
      split
      · exact ensures_error _ _
      · refine ensures_ok _ _ ?_
        simp only [Db.enqueue]
        split <;> exact all_
  | workspaceStatus workspaceId status => exact ensures_ok _ _ all_
  | createTicket ticket => exact ensures_ok _ _ all_
  | bindPullRequest ticketId prId => exact ensures_ok _ _ all_
  | dismissFinding findingId event =>
      refine ensures_mono _ _ _ (transitionFinding_only .dismissed db findingId event) fun after only => ?_
      obtain ⟨nextId, findings, _, same⟩ := only
      rw [same]
      exact all_

theorem reachable_honest (reachable : Reachable runEngine db) : AllHonest db := by
  refine (reachable_invariant runEngine (fun state => Coherent state ∧ AllHonest state) ⟨?_, ?_⟩ db reachable).2
  · refine fun state fresh => ⟨fresh_coherent state fresh, fun run member => ?_⟩
    rw [fresh.runs] at member
    cases member
  · rintro state label next ⟨coherent, all_⟩ allowed taken
    exact ⟨engine_inductive.kept state label next coherent allowed taken,
      allHonest_step state label coherent all_ next taken⟩

end Honesty

def stageRows (run : PipelineRun) : List StageExecution := run.stageExecutions.filter fun row => row.kind != .system

structure Halts (before after : PipelineRun) : Prop where
  rows : stageRows after = stageRows before
  current : after.currentStageIndex = before.currentStageIndex
  cancelRequested : after.cancelRequested = before.cancelRequested

-- What a run in cleanup is bound for, and where it has come once cleanup is over.
inductive Decided (target : TerminalState) (reason : Option String) (run : PipelineRun) : Prop where
  | awaits (awaits : Awaits run) (decides : finalTarget run = target) (failed : run.failureReason = reason)
  | ended (state : run.state = target.state) (failed : run.failureReason = reason)

section Deciding

variable (env : Env) (db next : Db) (run : PipelineRun) (target : TerminalState) (reason : Option String)

theorem halts_refl : Halts run run := ⟨rfl, rfl, rfl⟩

theorem halts_put (session : Session) (row after : StageExecution) (rest : List StageExecution)
    (rows : session.run.stageExecutions = row :: rest)
    (distinct : (session.run.stageExecutions.map StageExecution.id).Nodup) (id : after.id = row.id)
    (kind : row.kind = .system) (same : after.kind = row.kind) : Halts session.run (session.put after).run := by
  refine ⟨?_, rfl, rfl⟩
  rw [stageRows, stageRows, put_rows session row after rest rows distinct id, rows,
    List.filter_cons_of_neg (by simp [same, kind]), List.filter_cons_of_neg (by simp [kind])]

theorem cleanup_finalizes (session : Session) (row : StageExecution) (rest : List StageExecution) (outcomeLabel : String)
    (outputs : Dict Json) (rows : session.run.stageExecutions = row :: rest) (kind : row.kind = .system)
    (distinct : (session.run.stageExecutions.map StageExecution.id).Nodup)
    (cleanup : row.stageName = systemStageCleanup) :
    Ensures (handleSystemStageEvent env session row outcomeLabel outputs) fun after =>
      after.run.state = (finalTarget session.run).state ∧ after.run.failureReason = session.run.failureReason ∧
        Halts session.run after.run := by
  have settled (after : StageExecution) (id : after.id = row.id) (same : after.kind = row.kind) :
      Halts session.run (finalizeAfterCleanup env (session.put after)).run := by
    have put := halts_put session row after rest rows distinct id kind same
    exact ⟨put.rows, put.current, put.cancelRequested⟩
  rw [handleSystemStageEvent]
  by_cases failed : outcomeLabel ≠ "success"
  · simp only [if_pos failed]
    refine ensures_read _ _ _ fun reason _ => ?_
    rw [if_pos cleanup]
    exact ensures_ok _ _ ⟨rfl, rfl, settled _ rfl rfl⟩
  · simp only [if_neg failed]
    rw [if_neg (by rw [cleanup]; decide), if_pos cleanup]
    exact ensures_ok _ _ ⟨rfl, rfl, settled _ rfl rfl⟩

theorem target_terminal : target.state.isTerminal = true := by
  cases target <;> rfl

theorem requestCancel_flagged (orgId : Uuid) (member : run ∈ db.runs.rows) (running : run.state = .running)
    (flagged : run.cancelRequested = true) (taken : requestCancel env db orgId run.id = .ok next) : next = db := by
  rw [requestCancel, Table.find?_of_mem db.runs run member] at taken
  simp only at taken
  split at taken
  · cases taken
  · rw [running] at taken
    have same : ({ run with state := .running, cancelRequested := true } : PipelineRun) = run := by
      rw [← running, ← flagged]
    cases taken
    exact (congrArg db.saveRun same).trans (saveRun_stored db run member)

theorem terminal_came (later : PipelineRun) (came : Came db next later) (member : run ∈ db.runs.rows)
    (bound : run.id < db.nextId) (id : later.id = run.id) (terminal : run.state.isTerminal = true) : later = run := by
  have own (old : PipelineRun) (oldMember : old ∈ db.runs.rows) (same : later.id = old.id) : old = run :=
    Table.eq_of_key db.runs old run oldMember member (same.symm.trans id)
  have stopped (old : PipelineRun) (oldMember : old ∈ db.runs.rows) (same : later.id = old.id)
      (live : old.state.isTerminal = false) : later = run := by
    rw [own old oldMember same, terminal] at live
    cases live
  cases came with
  | kept isOld => exact own later isOld rfl
  | created isNew => exact absurd bound (by rw [← id, isNew]; exact Nat.lt_irrefl _)
  | promoted old oldMember queued same => exact stopped old oldMember (by rw [same]) (by rw [queued]; rfl)
  | flagged old oldMember state same => exact stopped old oldMember (by rw [same]) (by rw [state]; rfl)
  | withdrawn old oldMember queued completedAt same => exact stopped old oldMember (by rw [same]) (by rw [queued]; rfl)
  | worked env opened old last oldMember state nextId turns closes same commits =>
      exact stopped old oldMember (by rw [same]; exact turns_id env _ last turns) (by rw [state]; rfl)
  | resumed env old pause closed revived last answering revives action turns same commits =>
      exact stopped old answering.member (by rw [same, turns_id env _ last turns, revives.id])
        (by rw [answering.state]; rfl)
  | stopped env old pause closed revived last answering revives turns closing rows same commits =>
      exact stopped old answering.member (by rw [same, turns_id env _ last turns, revives.id])
        (by rw [answering.state]; rfl)

theorem decided_event (position : Nat) (args : AgentEventArgs) (coherent : Coherent db)
    (at_ : db.outbox[position]? = some (.handleAgentEvent args)) (member : run ∈ db.runs.rows)
    (owner : args.runId = run.id) (awaits : Awaits run) (taken : deliver env db position = .ok next) :
    ∃ last ∈ next.runs.rows, last.id = run.id ∧
      (last = run ∨ last.state = (finalTarget run).state ∧ last.failureReason = run.failureReason ∧ Halts run last) := by
  rw [deliver_message db position env _ at_, handleMessage, owner,
    whileRunning_running (db.taken position) run _ member awaits.state] at taken
  refine ensures_map _ _ (fun next => ∃ last ∈ next.runs.rows, last.id = run.id ∧
    (last = run ∨ last.state = (finalTarget run).state ∧ last.failureReason = run.failureReason ∧ Halts run last))
    (fun last handled => ?_) next taken
  have turns := work_turns env ⟨db.taken position, run⟩ (.handleAgentEvent args) last handled
  refine ⟨last.run, turns_stored env db ⟨db.taken position, run⟩ last run member rfl rfl turns,
    turns_id env _ last turns, ?_⟩
  by_cases stale : run.pendingAgentCommandId ≠ some args.agentCommandId
  · rw [handleAgentEventImpl_stale env ⟨db.taken position, run⟩ args stale] at handled
    cases handled
    exact .inl rfl
  · have awaited := not_not.mp stale
    obtain ⟨row, rest, _, rows, active, kind, named⟩ :=
      winding_parked db run args.agentCommandId coherent member awaited (.closing awaits.closing)
    rw [closing_event env (db.taken position) run args row rest rows active kind awaited] at handled
    obtain ⟨state, kept, halts⟩ := cleanup_finalizes env ⟨db.taken position, { run with pendingAgentCommandId := none }⟩ row
      rest _ _ rows kind (coherent.sound run member).distinct named last handled
    exact .inr ⟨state, kept, halts.rows, halts.current, halts.cancelRequested⟩

theorem decided_step (label : Label) (coherent : Coherent db) (allowed : label.Allowed db)
    (taken : engineStep db label = .ok next) (member : run ∈ db.runs.rows)
    (unrequested : run.cancelRequested = true ∨ ∀ env orgId, label ≠ .requestCancel env orgId run.id)
    (decided : Decided target reason run) :
    ∃ last ∈ next.runs.rows, last.id = run.id ∧ Decided target reason last ∧ Halts run last := by
  cases decided with
  | ended state failed =>
      have moves := engineStep_moves db label coherent allowed next taken
      obtain ⟨last, lastMember, id⟩ := moves_ids db next moves run member
      have same := terminal_came db next run last (moves_came db next moves last lastMember) member
        (coherent.sound run member).bound id (by rw [state]; exact target_terminal target)
      exact ⟨last, lastMember, id, by rw [same]; exact ⟨.ended state failed, halts_refl run⟩⟩
  | awaits awaits decides failed =>
      have advances := (engineStep_stepped db label coherent allowed next taken).advances
      have began : run.state ≠ .queued := by
        rw [awaits.state]
        decide
      by_cases own : label.subject db = some run.id
      · cases label with
        | startRun => cases own
        | startRerun => cases own
        | startRerunFromStage => cases own
        | requestCancel env orgId otherId =>
            cases own
            rcases unrequested with flagged | other
            · have same := requestCancel_flagged env db next run orgId member awaits.state flagged taken
              exact ⟨run, by rw [same]; exact member, rfl, .awaits awaits decides failed, halts_refl run⟩
            · exact absurd rfl (other env orgId)
        | resolvePause env orgId pauseId resolution actor =>
            exact (winding_unpaused db next run env orgId pauseId resolution actor coherent member
              (.closing awaits.closing) own taken).elim
        | deliver env position =>
            obtain ⟨message, at_, owner⟩ := Option.bind_eq_some_iff.mp own
            cases message with
            | routeRun args =>
                obtain ⟨free, _⟩ := routing_free db position run args coherent at_ member (Option.some.inj owner).symm
                exact absurd awaits.closing (closing_parked run awaits.state free.idle)
            | startStage otherId stageIndex =>
                cases owner
                obtain ⟨_, _, _, free, _⟩ := starting_free db position run stageIndex coherent at_ member
                exact absurd awaits.closing (closing_parked run awaits.state free.idle)
            | handleAgentEvent args =>
                obtain ⟨last, lastMember, id, same | ⟨state, kept, halts⟩⟩ :=
                  decided_event env db next run position args coherent at_ member (Option.some.inj owner) awaits taken
                · exact ⟨last, lastMember, id, by rw [same]; exact ⟨.awaits awaits decides failed, halts_refl run⟩⟩
                · exact ⟨last, lastMember, id, .ended (by rw [state, decides]) (kept.trans failed), halts⟩
            | runTerminalHook => cases owner
        | terminalEvent => cases own
        | workspaceStatus => cases own
        | createTicket => cases own
        | bindPullRequest => cases own
        | dismissFinding => cases own
      · exact ⟨run, (advances.others run member own began).1, rfl, .awaits awaits decides failed, halts_refl run⟩

theorem decided_path (labels : List Label) (last : Db) (coherent : Coherent db) (member : run ∈ db.runs.rows)
    (path : Path runEngine db labels last)
    (unrequested : ∀ env orgId, Label.requestCancel env orgId run.id ∉ labels) (decided : Decided target reason run) :
    ∃ later ∈ last.runs.rows, later.id = run.id ∧ Decided target reason later := by
  induction path generalizing run with
  | nil state => exact ⟨run, member, rfl, decided⟩
  | cons state middle last label labels allowed taken rest ih =>
      obtain ⟨later, laterMember, id, still, _⟩ := decided_step state middle run target reason label coherent allowed taken
        member (.inr fun env orgId same => unrequested env orgId (by rw [same]; exact List.mem_cons_self)) decided
      have again : ∀ env orgId, Label.requestCancel env orgId later.id ∉ labels := by
        intro env orgId listed
        rw [id] at listed
        exact unrequested env orgId (List.mem_cons_of_mem _ listed)
      obtain ⟨final, finalMember, sameId, holds⟩ :=
        ih later (engine_inductive.kept state label middle coherent allowed taken) laterMember again still
      exact ⟨final, finalMember, sameId.trans id, holds⟩

end Deciding

-- The outcome that `_finalize_after_cleanup` derives for a decision: a kill of a
-- run whose cancellation was requested earlier ends as a cancellation.
def rederived (session : Session) (target : TerminalState) : TerminalState :=
  if target = .killed ∧ session.run.cancelRequested = true then .cancelled else target

section Surviving

variable (env : Env) (db : Db) (label : Label) (session : Session) (target : TerminalState) (reason : Option String)

theorem calls_run (calls : Calls env db label session target reason) :
    ∃ run ∈ db.runs.rows, session.run.id = run.id ∧ session.db.runs = db.runs ∧ session.run.state = .running := by
  cases calls with
  | failed position run args index at_ member owner running => exact ⟨run, member, rfl, rfl, running⟩
  | cancelled position run args index at_ member owner running => exact ⟨run, member, rfl, rfl, running⟩
  | completed position run args index at_ member owner running => exact ⟨run, member, rfl, rfl, running⟩
  | systemFailed position run args row reason at_ member owner running => exact ⟨run, member, rfl, rfl, running⟩
  | unrefreshed position run args row stage at_ member owner running => exact ⟨run, member, rfl, rfl, running⟩
  | killed orgId pauseId userId resolution actor run pause closed found =>
      exact ⟨run, (findPause_some db pauseId run pause found).1, rfl, rfl, rfl⟩
  | withdrawn orgId run pause member => exact ⟨run, member, rfl, rfl, rfl⟩

theorem unkilled_idle (run : PipelineRun) (books : Books db) (member : run ∈ db.runs.rows)
    (running : run.state = .running) (idle : Idle run) : runWasKilled run = false := by
  have spared := book_unkilled db.nextId run (books run member) (closing_parked run running idle)
  rw [runWasKilled, List.any_eq_false]
  intro pause listed kills
  have none_ := spared pause listed
  rw [RunPause.kills, kills] at none_
  cases none_

theorem calls_derive (coherent : Coherent db) (books : Books db)
    (calls : Calls env db label session target reason) :
    finalTarget { session.run with failureReason := reason } = rederived session target := by
  rw [finalTarget, rederived]
  cases calls with
  | failed position run args index at_ member owner running completed outcome =>
      obtain ⟨_, _, routes⟩ := routing_free db position run args coherent at_ member owner.symm
      cases routes with
      | bootstrap => cases completed
      | settled => cases outcome
      | failed row rest reason => rfl
  | cancelled position run args index at_ member owner running completed outcome requested =>
      simp only [requested]
      rfl
  | completed position run args index at_ member owner running completed outcome unrequested last =>
      obtain ⟨free, _⟩ := routing_free db position run args coherent at_ member owner.symm
      have unkilled := unkilled_idle db run books member running free.idle
      rw [runWasKilled] at unkilled
      simp [unrequested, runWasKilled, unkilled]
  | systemFailed => rfl
  | unrefreshed => rfl
  | killed orgId pauseId userId resolution actor run pause closed found own acting responds opened action closes =>
      obtain ⟨member, paused⟩ := findPause_some db pauseId run pause found
      have listed : closed ∈ (answered db run closed).run.pauses := by
        refine List.mem_map.mpr ⟨pause, paused, ?_⟩
        rw [if_pos (by rw [closes])]
      have killed : (answered db run closed).run.pauses.any (fun pause => pause.resolution == some .kill) = true := by
        refine List.any_eq_true.mpr ⟨closed, listed, ?_⟩
        rw [closes, action]
        rfl
      by_cases requested : run.cancelRequested = true
      · have flagged : (answered db run closed).run.cancelRequested = true := requested
        simp [flagged]
      · have unflagged : (answered db run closed).run.cancelRequested = false := Bool.eq_false_iff.mpr requested
        simp [unflagged, runWasKilled, killed]
  | withdrawn => rfl

theorem calls_decides (after : Db) (coherent : Coherent db) (books : Books db)
    (calls : Calls env db label session target reason)
    (cleans : session.run.workspaceId ≠ none ∧ session.run.phase ≠ .cleanup)
    (taken : engineStep db label = .ok after) :
    ∃ run ∈ after.runs.rows, run.id = session.run.id ∧ Decided (rederived session target) reason run := by
  obtain ⟨run, member, id, runs, running⟩ := calls_run env db label session target reason calls
  rw [calls_step env db label session target reason calls] at taken
  refine ensures_map _ _ (fun after => ∃ run ∈ after.runs.rows, run.id = session.run.id ∧
    Decided (rederived session target) reason run) (fun last done => ?_) after taken
  obtain ⟨awaits, sameId, failed, flag, pauses⟩ := finishOrCleanup_cleans env session target reason running cleans last done
  have turns := finishOrCleanup_turns env session target reason last done
  refine ⟨last.run, turns_stored env db session last run member id runs turns, sameId, .awaits awaits ?_ failed⟩
  rw [← calls_derive env db label session target reason coherent books calls]
  rw [finalTarget, finalTarget, runWasKilled, runWasKilled, failed, flag, pauses]

end Surviving

-- A decision outlives its cleanup unless it kills a run that is flagged for
-- cancellation, and a run that is flagged never completes.
theorem outcome_survives (db : Db) (reachable : Reachable runEngine db) :
    (∀ run ∈ db.runs.rows, run.state = .completed → run.cancelRequested = false) ∧
      ∀ (label : Label) (env : Env) (session : Session) (target : TerminalState) (reason : Option String) (after last : Db)
        (labels : List Label), Calls env db label session target reason →
        session.run.workspaceId ≠ none ∧ session.run.phase ≠ .cleanup → label.Allowed db →
        engineStep db label = .ok after → Path runEngine after labels last →
        (∀ env orgId, Label.requestCancel env orgId session.run.id ∉ labels) →
        ∃ run ∈ last.runs.rows, run.id = session.run.id ∧ run.failureReason = reason ∧
          (Awaits run ∨ run.state.isTerminal = true ∧
            (run.state = target.state ↔ (target = .killed → session.run.cancelRequested = false))) := by
  obtain ⟨coherent, books, _⟩ := reachable_books db reachable
  refine ⟨reachable_honest db reachable, ?_⟩
  intro label env session target reason after last labels calls cleans allowed taken path unrequested
  obtain ⟨run, member, id, decided⟩ :=
    calls_decides env db label session target reason after coherent books calls cleans taken
  obtain ⟨later, laterMember, sameId, still⟩ := decided_path after run _ reason labels last
    (engine_inductive.kept db label after coherent allowed taken) member path (by rw [id]; exact unrequested) decided
  refine ⟨later, laterMember, sameId.trans id, ?_⟩
  cases still with
  | awaits awaits decides failed => exact ⟨failed, .inl awaits⟩
  | ended state failed =>
      refine ⟨failed, .inr ⟨by rw [state]; exact target_terminal _, ?_⟩⟩
      rw [state, rederived]
      by_cases overruled : target = .killed ∧ session.run.cancelRequested = true
      · rw [if_pos overruled, overruled.1, overruled.2]
        simp [TerminalState.state]
      · rw [if_neg overruled]
        refine ⟨fun _ killed => Bool.eq_false_iff.mpr fun requested => overruled ⟨killed, requested⟩, fun _ => rfl⟩

def sampleHitl : FlattenedDefinition := sampleSkills none .alwaysHitl

def sampleKill : PauseResolution := { action := .kill, instruction := none, sendBackToStage := none }

def sampleCancel (db : Db) : Db := runEngine.committed (.requestCancel (sampleEnv sampleHitl) 1 10) db

def sampleHeld (cancels : Bool) : Db :=
  sampleReport sampleHitl 15 "success" sampleOutputs
    (if cancels then sampleCancel (sampleWorking sampleHitl) else sampleWorking sampleHitl)

theorem sampleHeld_reachable (cancels : Bool) : Reachable runEngine (sampleHeld cancels) := by
  refine sampleReport_reachable _ _ _ _ _ ?_
  cases cancels with
  | false => exact sampleWorking_reachable sampleHitl
  | true =>
      exact reachable_committed runEngine (.requestCancel (sampleEnv sampleHitl) 1 10) _ (sampleWorking_reachable sampleHitl)
        trivial

def sampleAnswer : Label := .resolvePause (sampleEnv sampleHitl) 1 17 sampleKill sampleActor

def sampleCleaned : List Label :=
  [.terminalEvent (sampleEvent 19 "success" []), .deliver (sampleEnv sampleHitl) 0]

def sampleHeldRun (cancels : Bool) : Option PipelineRun := (sampleHeld cancels).runs.find? 10

theorem sampleAnswer_calls (cancels : Bool) :
    ∃ session, session.run.id = 10 ∧ session.run.cancelRequested = cancels ∧
      Calls (sampleEnv sampleHitl) (sampleHeld cancels) sampleAnswer session .killed none ∧
      session.run.workspaceId ≠ none ∧ session.run.phase ≠ .cleanup := by
  cases cancels with
  | false =>
      let run := (sampleHeldRun false).get rfl
      let pause := run.pauses.head (by decide)
      refine ⟨_, ?_, ?_, .killed 1 17 7 sampleKill sampleActor run pause _ rfl rfl rfl rfl rfl rfl rfl, ?_, ?_⟩
      · rfl
      · rfl
      · decide
      · decide
  | true =>
      let run := (sampleHeldRun true).get rfl
      let pause := run.pauses.head (by decide)
      refine ⟨_, ?_, ?_, .killed 1 17 7 sampleKill sampleActor run pause _ rfl rfl rfl rfl rfl rfl rfl, ?_, ?_⟩
      · rfl
      · rfl
      · decide
      · decide

theorem sampleAnswer_taken (cancels : Bool) :
    engineStep (sampleHeld cancels) sampleAnswer = .ok (runEngine.committed sampleAnswer (sampleHeld cancels)) :=
  step_committed runEngine sampleAnswer (sampleHeld cancels) (by cases cancels <;> rfl)

theorem sampleCleaned_path (cancels : Bool) :
    Path runEngine (runEngine.committed sampleAnswer (sampleHeld cancels)) sampleCleaned
      (runEngine.after (runEngine.committed sampleAnswer (sampleHeld cancels)) sampleCleaned) := by
  refine commits_path runEngine _ _ ?_
  cases cancels <;> exact ⟨trivial, rfl, trivial, rfl, trivial⟩

theorem sampleCleaned_unrequested (env : Env) (orgId runId : Uuid) :
    Label.requestCancel env orgId runId ∉ sampleCleaned := by
  intro listed
  rcases List.mem_cons.mp listed with same | later
  · cases same
  · cases List.mem_singleton.mp later

theorem kill_survives :
    ∃ run ∈ (runEngine.after (runEngine.committed sampleAnswer (sampleHeld false)) sampleCleaned).runs.rows,
      run.id = 10 ∧ run.failureReason = none ∧ (Awaits run ∨ run.state.isTerminal = true ∧ run.state = .killed) := by
  obtain ⟨session, isRun, unflagged, calls, cleans⟩ := sampleAnswer_calls false
  obtain ⟨run, member, id, failed, ended⟩ := (outcome_survives (sampleHeld false) (sampleHeld_reachable false)).2
    sampleAnswer (sampleEnv sampleHitl) session .killed none _ _ sampleCleaned calls cleans trivial
    (sampleAnswer_taken false) (sampleCleaned_path false) fun env orgId => sampleCleaned_unrequested env orgId _
  refine ⟨run, member, id.trans isRun, failed, ended.imp_right fun ⟨terminal, exact_⟩ => ⟨terminal, exact_.mpr ?_⟩⟩
  exact fun _ => unflagged

-- A kill of a run that was flagged for cancellation ends as a cancellation.
theorem flagged_kill_cancels :
    ∃ db last label env session reason after labels, Reachable runEngine db ∧
      Calls env db label session .killed reason ∧ session.run.workspaceId ≠ none ∧ session.run.phase ≠ .cleanup ∧
      label.Allowed db ∧ engineStep db label = .ok after ∧ Path runEngine after labels last ∧
      (∀ env orgId, Label.requestCancel env orgId session.run.id ∉ labels) ∧
      ∃ run, last.runs.find? session.run.id = some run ∧ run.state = .cancelled := by
  obtain ⟨session, isRun, _, calls, cleans⟩ := sampleAnswer_calls true
  refine ⟨sampleHeld true, _, sampleAnswer, sampleEnv sampleHitl, session, none, _, sampleCleaned,
    sampleHeld_reachable true, calls, cleans.1, cleans.2, trivial, sampleAnswer_taken true, sampleCleaned_path true,
    fun env orgId => sampleCleaned_unrequested env orgId _, ?_⟩
  rw [isRun]
  exact ⟨_, rfl, rfl⟩

end Yaaos.Pipelines
