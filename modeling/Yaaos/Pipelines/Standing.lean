import Yaaos.Pipelines.System

set_option autoImplicit false

namespace Yaaos.Pipelines

open Yaaos.Base

def Quiet (rows : List StageExecution) : Prop := ∀ row ∈ rows, row.status ≠ .running

def Closed (pauses : List RunPause) : Prop := ∀ pause ∈ pauses, pause.resolvedAt ≠ none

def workspaceOf (db : Db) (run : PipelineRun) : Option Workspace := run.workspaceId.bind db.workspaces.find?

def Looped (stage : SkillStage) (row : StageExecution) : Prop :=
  row.phase ≠ some .main → stage.review ≠ none ∧ recordedArtifact row ≠ none ∧ row.confidence ≠ none

inductive RowOf (flattened : FlattenedDefinition) (row : StageExecution) : Prop where
  | skill (index : Nat) (stage : SkillStage) (kind : row.kind = .skill) (indexed : row.stageIndex = some index)
      (found : flattened.stages[index]? = some (.skill stage)) (looped : Looped stage row)
  | review (index : Nat) (stage : ReviewSkillStage) (kind : row.kind = .review) (indexed : row.stageIndex = some index)
      (found : flattened.stages[index]? = some (.review stage))
  | action (index : Nat) (stage : ActionStage) (kind : row.kind = .action) (indexed : row.stageIndex = some index)
      (found : flattened.stages[index]? = some (.action stage))
  | system (kind : row.kind = .system) (indexed : row.stageIndex = none)

theorem rowOf_indexed (flattened : FlattenedDefinition) (row : StageExecution) (rowOf : RowOf flattened row)
    (kind : row.kind ≠ .system) :
    ∃ index stage, row.stageIndex = some index ∧ flattened.stages[index]? = some stage := by
  cases rowOf with
  | skill index stage kindOf indexed found => exact ⟨index, _, indexed, found⟩
  | review index stage kindOf indexed found => exact ⟨index, _, indexed, found⟩
  | action index stage kindOf indexed found => exact ⟨index, _, indexed, found⟩
  | system kindOf indexed => exact absurd kindOf kind

structure Sound (db : Db) (run : PipelineRun) : Prop where
  bound : run.id < db.nextId
  rowsBound : ∀ row ∈ run.stageExecutions, row.id < db.nextId
  distinct : (run.stageExecutions.map StageExecution.id).Nodup
  rowsOf : ∀ row ∈ run.stageExecutions, RowOf run.definitionSnapshot row
  stored : ∀ row ∈ run.stageExecutions, ∀ artifactId, recordedArtifact row = some artifactId →
    ∃ artifact ∈ db.artifacts, artifact.id = artifactId ∧ artifact.orgId = run.orgId
  workspaceBound : ∀ workspaceId, run.workspaceId = some workspaceId → workspaceId < db.nextId
  workspaceRows : ∀ row ∈ db.workspaces.rows, row.id < db.nextId
  ticketed : ∃ ticket, db.tickets.find? run.ticketId = some ticket ∧ ticket.orgId = run.orgId

structure Idle (run : PipelineRun) : Prop where
  unparked : run.pendingAgentCommandId = none
  quiet : Quiet run.stageExecutions
  closed : Closed run.pauses

def Provisioned (workspace : Option Workspace) (run : PipelineRun) : Prop :=
  run.workspaceId ≠ none → workspace ≠ none

def Unclaimed (workspace : Option Workspace) : Prop :=
  ∀ row, workspace = some row → row.currentCommandId = none

def ClaimedBy (workspace : Option Workspace) (command : Uuid) : Prop :=
  ∀ row, workspace = some row → row.currentCommandId = none ∨ row.currentCommandId = some command

structure Ready (workspace : Option Workspace) (run : PipelineRun) : Prop where
  phase : run.phase = .stages
  unclaimed : Unclaimed workspace
  provisioned : Provisioned workspace run

def StartsAt (run : PipelineRun) : Prop :=
  ∀ index, run.currentStageIndex = some index →
    ∃ stage, run.definitionSnapshot.stages[index]? = some stage ∧ stage.isAction = false

inductive Routes (run : PipelineRun) : RouteRunArgs → Prop where
  | bootstrap (rows : run.stageExecutions = []) (start : StartsAt run) :
      Routes run { runId := run.id, completedStageIndex := none, outcomeLabel := none, failureReason := none }
  | settled (row : StageExecution) (rest : List StageExecution) (rows : run.stageExecutions = row :: rest)
      (kind : row.kind ≠ .system) (status : row.status = .completed) :
      Routes run
        { runId := run.id, completedStageIndex := row.stageIndex, outcomeLabel := some .success, failureReason := none }
  | failed (row : StageExecution) (rest : List StageExecution) (reason : String)
      (rows : run.stageExecutions = row :: rest) (kind : row.kind ≠ .system) (status : row.status = .failed)
      (failureReason : row.failureReason = some reason) :
      Routes run
        { runId := run.id, completedStageIndex := row.stageIndex, outcomeLabel := some .failure,
          failureReason := some reason }

inductive ParkedOn (command : Uuid) (workspace : Option Workspace) (run : PipelineRun) (row : StageExecution) : Prop where
  | provision (index : Nat) (stage : ExecutableStage) (kind : row.kind = .system)
      (named : row.stageName = systemStageProvision) (phase : run.phase = .provision)
      (current : run.currentStageIndex = some index)
      (found : run.definitionSnapshot.stages[index]? = some stage) (works : stage.isAction = false)
      (claimed : ClaimedBy workspace command) (requested : run.workspaceId ≠ none)
  | cleanup (kind : row.kind = .system) (named : row.stageName = systemStageCleanup) (phase : run.phase = .cleanup)
  | refresh (index : Nat) (stage : SkillStage) (kind : row.kind = .system)
      (named : row.stageName = systemStageRefreshAuth) (phase : run.phase = .stages)
      (current : run.currentStageIndex = some index)
      (found : run.definitionSnapshot.stages[index]? = some (.skill stage))
      (claimed : ClaimedBy workspace command) (present : workspace ≠ none)
  | stage (kind : row.kind = .skill ∨ row.kind = .review) (phase : run.phase = .stages)
      (current : run.currentStageIndex = row.stageIndex) (claimed : ClaimedBy workspace command)
      (present : workspace ≠ none)

inductive Stands (messages : List Message) (workspace : Option Workspace) (run : PipelineRun) : Prop where
  | queued (state : run.state = .queued) (rows : run.stageExecutions = []) (pauses : run.pauses = [])
      (unparked : run.pendingAgentCommandId = none) (silent : messages = []) (unprovisioned : run.workspaceId = none)
      (phase : run.phase = .stages) (start : StartsAt run)
  | routing (args : RouteRunArgs) (state : run.state = .running) (idle : Idle run)
      (driven : messages = [.routeRun args]) (routes : Routes run args) (ready : Ready workspace run)
  | starting (index : Nat) (stage : ExecutableStage) (state : run.state = .running) (idle : Idle run)
      (driven : messages = [.startStage run.id (some index)]) (current : run.currentStageIndex = some index)
      (found : run.definitionSnapshot.stages[index]? = some stage) (phase : run.phase = .stages)
      (unclaimed : Unclaimed workspace) (provisioned : stage.isAction = true → Provisioned workspace run)
  | parked (command : Uuid) (row : StageExecution) (rest : List StageExecution) (state : run.state = .running)
      (pending : run.pendingAgentCommandId = some command) (closed : Closed run.pauses)
      (rows : run.stageExecutions = row :: rest) (active : row.status = .running) (quiet : Quiet rest)
      (silent : messages = []) (parkedOn : ParkedOn command workspace run row)
  | paused (row : StageExecution) (rest : List StageExecution) (pause : RunPause) (others : List RunPause)
      (state : run.state = .paused) (unparked : run.pendingAgentCommandId = none)
      (quiet : Quiet run.stageExecutions) (rows : run.stageExecutions = row :: rest)
      (kind : row.kind = .skill ∨ row.kind = .review) (status : row.status = .completed)
      (pauses : run.pauses = pause :: others) (opened : pause.resolvedAt = none)
      (names : pause.stageExecutionId = row.id) (closed : Closed others) (silent : messages = [])
      (phase : run.phase = .stages) (unclaimed : Unclaimed workspace) (present : workspace ≠ none)
  | ended (state : run.state.isTerminal = true) (idle : Idle run) (silent : messages = [])

structure Unbegun (messages : List Message) (run : PipelineRun) : Prop where
  rows : run.stageExecutions = []
  pauses : run.pauses = []
  unparked : run.pendingAgentCommandId = none
  silent : messages = []
  unprovisioned : run.workspaceId = none
  phase : run.phase = .stages
  start : StartsAt run

variable (before after : Option Workspace) (messages : List Message)

theorem stands_unbegun (workspace : Option Workspace) (run : PipelineRun)
    (stands : Stands messages workspace run) (queued : run.state = .queued) : Unbegun messages run := by
  cases stands with
  | queued state rows pauses unparked silent unprovisioned phase start =>
      exact ⟨rows, pauses, unparked, silent, unprovisioned, phase, start⟩
  | routing args state => rw [queued] at state; cases state
  | starting index stage state => rw [queued] at state; cases state
  | parked command row rest state => rw [queued] at state; cases state
  | paused row rest pause others state => rw [queued] at state; cases state
  | ended state => rw [queued] at state; cases state

theorem unbegun_idle (run : PipelineRun) (unbegun : Unbegun messages run) : Idle run := by
  refine ⟨unbegun.unparked, fun row member => ?_, fun pause member => ?_⟩
  · rw [unbegun.rows] at member
    cases member
  · rw [unbegun.pauses] at member
    cases member

def Eases (before after : Option Workspace) : Prop :=
  (before ≠ none → after ≠ none) ∧
    ∀ row, after = some row → row.currentCommandId = none ∨
      ∃ old, before = some old ∧ row.currentCommandId = old.currentCommandId

theorem eases_refl (workspace : Option Workspace) : Eases workspace workspace :=
  ⟨id, fun row found => .inr ⟨row, found, rfl⟩⟩

theorem eases_unclaimed (eases : Eases before after) (unclaimed : Unclaimed before) :
    Unclaimed after := by
  intro row found
  rcases eases.2 row found with free | ⟨old, same, kept⟩
  · exact free
  · rw [kept, unclaimed old same]

theorem eases_claimed (command : Uuid) (eases : Eases before after)
    (claimed : ClaimedBy before command) : ClaimedBy after command := by
  intro row found
  rcases eases.2 row found with free | ⟨old, same, kept⟩
  · exact .inl free
  · rw [kept]
    exact claimed old same

theorem eases_provisioned (run : PipelineRun) (eases : Eases before after)
    (provisioned : Provisioned before run) : Provisioned after run :=
  fun requested => eases.1 (provisioned requested)

theorem eases_ready (run : PipelineRun) (eases : Eases before after)
    (ready : Ready before run) : Ready after run :=
  ⟨ready.phase, eases_unclaimed before after eases ready.unclaimed,
    eases_provisioned before after run eases ready.provisioned⟩

theorem eases_parkedOn (command : Uuid) (before after : Option Workspace) (run : PipelineRun) (row : StageExecution)
    (eases : Eases before after) (parkedOn : ParkedOn command before run row) : ParkedOn command after run row := by
  cases parkedOn with
  | provision index stage kind named phase current found works claimed requested =>
      exact .provision index stage kind named phase current found works
        (eases_claimed before after command eases claimed) requested
  | cleanup kind named phase => exact .cleanup kind named phase
  | refresh index stage kind named phase current found claimed present =>
      exact .refresh index stage kind named phase current found (eases_claimed before after command eases claimed)
        (eases.1 present)
  | stage kind phase current claimed present =>
      exact .stage kind phase current (eases_claimed before after command eases claimed) (eases.1 present)

theorem stands_eases (before after : Option Workspace) (run : PipelineRun)
    (eases : Eases before after) (stands : Stands messages before run) : Stands messages after run := by
  cases stands with
  | queued state rows pauses unparked silent unprovisioned phase start =>
      exact .queued state rows pauses unparked silent unprovisioned phase start
  | routing args state idle driven routes ready =>
      exact .routing args state idle driven routes (eases_ready before after run eases ready)
  | starting index stage state idle driven current found phase unclaimed provisioned =>
      exact .starting index stage state idle driven current found phase
        (eases_unclaimed before after eases unclaimed)
        fun action => eases_provisioned before after run eases (provisioned action)
  | parked command row rest state pending closed rows active quiet silent parkedOn =>
      exact .parked command row rest state pending closed rows active quiet silent
        (eases_parkedOn command before after run row eases parkedOn)
  | paused row rest pause others state unparked quiet rows kind status pauses opened names closed silent phase unclaimed
      present =>
      exact .paused row rest pause others state unparked quiet rows kind status pauses opened names closed silent phase
        (eases_unclaimed before after eases unclaimed) (eases.1 present)
  | ended state idle silent => exact .ended state idle silent

end Yaaos.Pipelines
