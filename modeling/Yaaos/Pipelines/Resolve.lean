import Yaaos.Pipelines.Handle

set_option autoImplicit false

namespace Yaaos.Pipelines

open Yaaos.Base

structure Answered (origin session : Session) (row : StageExecution) (rest : List StageExecution) : Prop where
  carries : Carries origin session
  sound : Sound session.db session.run
  unparked : session.run.pendingAgentCommandId = none
  quiet : Quiet session.run.stageExecutions
  closed : Closed session.run.pauses
  silent : session.db.messagesFor session.run.id = []
  rows : session.run.stageExecutions = row :: rest
  kind : row.kind = .skill ∨ row.kind = .review
  status : row.status = .completed
  phase : session.run.phase = .stages
  unclaimed : Unclaimed (workspaceOf session.db session.run)
  present : workspaceOf session.db session.run ≠ none

variable (origin session : Session) (env : Env) (row : StageExecution) (rest : List StageExecution)

theorem open_pause (pause found : RunPause) (others : List RunPause) (member : found ∈ pause :: others)
    (opened : found.resolvedAt = none) (closed : Closed others) : found = pause := by
  rcases List.mem_cons.mp member with first | later
  · exact first
  · exact absurd opened (closed found later)

theorem putPause_closed (session : Session) (pause next : RunPause) (others : List RunPause)
    (pauses : session.run.pauses = pause :: others) (closed : Closed others) (same : next.id = pause.id)
    (resolved : next.resolvedAt ≠ none) : Closed (session.putPause next).run.pauses := by
  intro other member
  obtain ⟨old, oldMember, rewritten⟩ := List.mem_map.mp member
  rw [pauses] at oldMember
  by_cases hit : old.id = next.id
  · rw [if_pos hit] at rewritten
    rw [← rewritten]
    exact resolved
  · rw [if_neg hit] at rewritten
    rw [← rewritten]
    rcases List.mem_cons.mp oldMember with first | later
    · exact absurd (by rw [first, same]) hit
    · exact closed old later

theorem answered_put (session : Session) (next : RunPause) (row : StageExecution) (rest : List StageExecution)
    (pause : RunPause) (others : List RunPause) (sound : Sound session.db session.run)
    (unparked : session.run.pendingAgentCommandId = none) (quiet : Quiet session.run.stageExecutions)
    (rows : session.run.stageExecutions = row :: rest) (kind : row.kind = .skill ∨ row.kind = .review)
    (status : row.status = .completed) (pauses : session.run.pauses = pause :: others) (closed : Closed others)
    (silent : session.db.messagesFor session.run.id = []) (phase : session.run.phase = .stages)
    (unclaimed : Unclaimed (workspaceOf session.db session.run)) (present : workspaceOf session.db session.run ≠ none)
    (same : next.id = pause.id) (resolved : next.resolvedAt ≠ none) :
    Answered session (session.putPause next) row rest where
  carries := carries_run session _ rfl rfl rfl rfl rfl rfl
  sound := sound_congr session.db session.run _ rfl rfl rfl rfl rfl rfl sound
  unparked := unparked
  quiet := quiet
  closed := putPause_closed session pause next others pauses closed same resolved
  silent := silent
  rows := rows
  kind := kind
  status := status
  phase := phase
  unclaimed := unclaimed
  present := present

theorem answered_kickoff
    (kickoff : Kickoff) (current : Option Nat) (answered : Answered origin session row rest) :
    Answered origin { session with run := { session.run with kickoff := kickoff, currentStageIndex := current } }
      row rest where
  carries := carries_trans origin session _ answered.carries (carries_run session _ rfl rfl rfl rfl rfl rfl)
  sound := sound_congr session.db session.run _ rfl rfl rfl rfl rfl rfl answered.sound
  unparked := answered.unparked
  quiet := answered.quiet
  closed := answered.closed
  silent := answered.silent
  rows := answered.rows
  kind := answered.kind
  status := answered.status
  phase := answered.phase
  unclaimed := answered.unclaimed
  present := answered.present

theorem resume_free
    (answered : Answered origin session row rest) : Free origin (resume session) where
  carries := carries_trans origin session _ answered.carries (carries_resume session)
  sound := sound_carries _ _ _ _ _ (carries_resume session).db
    (sound_congr session.db session.run _ rfl rfl rfl rfl rfl rfl answered.sound)
  running := rfl
  idle := ⟨answered.unparked, answered.quiet, answered.closed⟩
  silent := answered.silent
  phase := answered.phase
  unclaimed := answered.unclaimed

theorem answered_running
    (cancelRequested : Bool) (answered : Answered origin session row rest) :
    Released origin
      { session with run := { session.run with state := .running, cancelRequested := cancelRequested } } where
  carries := carries_trans origin session _ answered.carries (carries_run session _ rfl rfl rfl rfl rfl rfl)
  sound := sound_congr session.db session.run _ rfl rfl rfl rfl rfl rfl answered.sound
  running := rfl
  idle := ⟨answered.unparked, answered.quiet, answered.closed⟩
  silent := answered.silent

theorem resumeFromPause_reaches (origin session : Session) (row : StageExecution)
    (rest : List StageExecution) (answered : Answered origin session row rest) :
    Reaches env origin (resumeFromPause session row) := by
  have free := resume_free origin session row rest answered
  let message : Message := .routeRun
    { runId := session.run.id, completedStageIndex := row.stageIndex, outcomeLabel := some .success,
      failureReason := none }
  have carries := carries_enqueue (resume session) message rfl
  have kind : row.kind ≠ .system := by
    rcases answered.kind with skill | review
    · rw [skill]; decide
    · rw [review]; decide
  refine .settled (carries_trans origin _ _ free.carries carries) (sound_carries _ _ _ _ _ carries.db free.sound) ?_
  exact .routing _ free.running free.idle (messagesFor_own (resume session) message free.silent rfl)
    (.settled row rest answered.rows kind answered.status) ⟨free.phase, free.unclaimed, fun _ => answered.present⟩

theorem resumeWithInstruction_reaches (origin session : Session) (row : StageExecution)
    (rest : List StageExecution) (instruction : String) (answered : Answered origin session row rest) :
    Ensures (resumeWithInstruction env session row instruction) (Reaches env origin) := by
  have fits := sound_head _ _ _ _ answered.rows answered.sound
  have kind : row.kind ≠ .system := by
    rcases answered.kind with skill | review
    · rw [skill]; decide
    · rw [review]; decide
  obtain ⟨index, stage, indexed, found⟩ := rowOf_indexed _ row fits.rowOf kind
  rw [resumeWithInstruction, indexed, stageAt_some _ index stage found]
  refine ensures_read _ _ _ fun _ same => ?_
  cases same
  cases named : stage.name? with
  | none => exact ensures_error _ _
  | some stageName =>
      have works : stage.isAction = false := by
        cases stage with
        | skill skill => rfl
        | review review => rfl
        | action action => cases named
      have moved := answered_kickoff origin session row rest
        { session.run.kickoff with
          revision := some
            { source := .instruction, text := instruction,
              priorArtifact := ((latestFinal session.db session.run.orgId session.run.ticketId stageName).map
                Artifact.body).getD "" } }
        (some index) answered
      refine startStageImpl_reaches env origin _ index stage (resume_free origin _ row rest moved) rfl found ?_
      intro action
      rw [works] at action
      cases action

theorem resumeWithSendBack_reaches (origin session : Session) (row : StageExecution)
    (rest : List StageExecution) (index : Nat) (stage : SkillStage) (answered : Answered origin session row rest)
    (found : session.run.definitionSnapshot.stages[index]? = some (.skill stage)) :
    Ensures (resumeWithSendBack env session row index stage) (Reaches env origin) :=
  sendBackToStage_reaches env origin (resume session) row rest index stage "" _
    (resume_free origin session row rest answered) ⟨answered.rows, answered.kind, answered.status, answered.present⟩ found

theorem killRun_reaches (origin session : Session) (row : StageExecution) (rest : List StageExecution)
    (answered : Answered origin session row rest) : Ensures (killRun env session) (Reaches env origin) :=
  finishOrCleanup_reaches env origin _ _ _ (answered_running origin session row rest session.run.cancelRequested answered)

theorem checkSendBack_found (run : PipelineRun) (row : StageExecution) (sendBackToStage : Option String) :
    Ensures (checkSendBack run row sendBackToStage) fun target =>
      run.definitionSnapshot.stages[target.1]? = some (.skill target.2) ∧ target.2.name = sendBackToStage.getD "" := by
  rw [checkSendBack]
  by_cases blank : sendBackToStage.getD "" = ""
  · rw [if_pos blank]
    exact ensures_error _ _
  · rw [if_neg blank]
    refine ensures_read _ _ _ fun pausedStage _ => ?_
    cases pausedStage.settles? with
    | none => exact ensures_error _ _
    | some stage =>
        simp only
        cases resolved : resolveSendBackTarget run.definitionSnapshot stage (row.stageIndex.getD 0)
            (sendBackToStage.getD "") with
        | none => exact ensures_error _ _
        | some target => exact ensures_ok _ _ (resolveSendBackTarget_some _ _ _ _ _ _ resolved).2

theorem pausedExecution_head (run : PipelineRun) (pause : RunPause) (row : StageExecution) (rest : List StageExecution)
    (rows : run.stageExecutions = row :: rest) (names : pause.stageExecutionId = row.id) :
    pausedExecution run pause = .ok row := by
  rw [pausedExecution, rows, List.find?_cons_of_pos (by simp [names])]

theorem resolveWith_reaches (origin session : Session) (pause : RunPause) (resolution : PauseResolution)
    (row : StageExecution) (rest : List StageExecution) (answered : Answered origin session row rest)
    (names : pause.stageExecutionId = row.id) :
    Ensures (resolveWith env session pause resolution) (Reaches env origin) := by
  have paused := pausedExecution_head session.run pause row rest answered.rows names
  have onRow (next : StageExecution → Except EngineError Session) (reaches : Ensures (next row) (Reaches env origin)) :
      Ensures (pausedExecution session.run pause >>= next) (Reaches env origin) := by
    rw [paused]
    exact reaches
  rw [resolveWith]
  cases resolution.action with
  | approve => exact onRow _ (ensures_ok _ _ (resumeFromPause_reaches env origin session row rest answered))
  | instruct => exact onRow _ (resumeWithInstruction_reaches env origin session row rest _ answered)
  | sendBack =>
      refine onRow _ (ensures_bind _ _ _ _ (checkSendBack_found session.run row resolution.sendBackToStage) ?_)
      intro target found
      exact resumeWithSendBack_reaches env origin session row rest target.1 target.2 answered found.1
  | kill => exact killRun_reaches env origin session row rest answered

end Yaaos.Pipelines
