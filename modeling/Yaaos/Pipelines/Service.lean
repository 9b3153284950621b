import Yaaos.Pipelines.Resume

set_option autoImplicit false

namespace Yaaos.Pipelines

open Yaaos.Base

def newRun (id orgId ticketId : Uuid) (pipelineId : Option Uuid) (flattened : FlattenedDefinition) (kickoff : Kickoff)
    (currentStageIndex : Option Nat) (triggeredByUserId : Option Uuid) : PipelineRun :=
  { id := id, orgId := orgId, ticketId := ticketId, pipelineId := pipelineId, definitionSnapshot := flattened,
    state := .queued, phase := .stages, currentStageIndex := currentStageIndex, workspaceId := none,
    pendingAgentCommandId := none, cancelRequested := false, kickoff := kickoff, sendbackCounts := [],
    failureReason := none, triggeredByUserId := triggeredByUserId, completedAt := none, stageExecutions := [],
    pauses := [] }

def insertRun (db : Db) (run : PipelineRun) : Db :=
  match db.runs.insert? run with
  | none => db
  | some runs => attemptPromotion { db with runs := runs, nextId := db.nextId + 1 } run

def startRun (env : Env) (db : Db) (orgId ticketId pipelineId : Uuid) (kickoff : Kickoff)
    (triggeredByUserId : Option Uuid) : Except EngineError Db :=
  match env.pipelines orgId pipelineId with
  | none => .error .pipelineNotFound
  | some pipeline =>
      .ok (insertRun db
        (newRun db.nextId orgId ticketId (some pipelineId) pipeline.flattened kickoff none triggeredByUserId))

def RunState.isRerunnable : RunState → Bool
  | .failed | .cancelled | .killed => true
  | _ => false

def startRerun (env : Env) (db : Db) (orgId runId : Uuid) (actor : Actor) (triggeredByUserId : Option Uuid) :
    Except EngineError Db :=
  match db.runs.find? runId with
  | none => .error (.runNotFound runId)
  | some run =>
      if run.orgId ≠ orgId then .error (.runNotFound runId)
      else do
        let ticket ← getTicket db run.ticketId orgId
        if ticket.currentRunId ≠ some runId then .error (.runNotRerunnable runId run.state)
        else if run.state.isRerunnable then
          match run.pipelineId with
          | none => .error .pipelineNotFound
          | some pipelineId =>
              startRun env db orgId run.ticketId pipelineId
                { run.kickoff with actor := actor, intakePointId := "rerun", revision := none } triggeredByUserId
        else .error (.runNotRerunnable runId run.state)

def skillNames (stages : List ExecutableStage) : List String :=
  stages.filterMap fun stage => match stage with
    | .skill prior => some prior.name
    | _ => none

-- The walk of `resolveStageInput`, refusing where that one falls back to the kickoff.
def nearestUpstreamSkillStageResolvable (db : Db) (flattened : FlattenedDefinition) (orgId ticketId : Uuid)
    (fromIndex : Nat) : Except EngineError Unit :=
  match skillNames (flattened.stages.take fromIndex).reverse with
  | [] => .ok ()
  | nearestName :: others =>
      if (nearestName :: others).any fun name => (latestFinal db orgId ticketId name).isSome then .ok ()
      else .error (.missingInheritedArtifact nearestName)

def rerunIndex (flattened : FlattenedDefinition) (fromStage : String) : Option Nat :=
  flattened.stages.findIdx? fun stage => stage.name? == some fromStage

def startRerunFromStage (env : Env) (db : Db) (orgId ticketId : Uuid) (fromStage instruction : String) (actor : Actor)
    (triggeredByUserId : Option Uuid) : Except EngineError Db := do
  let ticket ← getTicket db ticketId orgId
  match ticket.currentRunId with
  | none => .error (.runNotFound ticketId)
  | some currentRunId =>
      match db.runs.find? currentRunId with
      | none => .error (.runNotFound currentRunId)
      | some priorRun =>
          match priorRun.pipelineId.bind (env.pipelines orgId) with
          | none => .error (.stageNotInDefinition fromStage)
          | some pipeline =>
              match rerunIndex pipeline.flattened fromStage with
              | none => .error (.stageNotInDefinition fromStage)
              | some fromIndex => do
                  nearestUpstreamSkillStageResolvable db pipeline.flattened orgId ticketId fromIndex
                  let ownPrior := latestFinal db orgId ticketId fromStage
                  let revision : RevisionContext :=
                    { source := .instruction, text := instruction,
                      priorArtifact := (ownPrior.map Artifact.body).getD "" }
                  let kickoff : Kickoff :=
                    { intakePointId := "rerun", actor := actor, inputText := none, prBaseSha := none, prHeadSha := none,
                      notifyUserIds := [], revision := some revision }
                  .ok (insertRun db (newRun db.nextId orgId ticketId priorRun.pipelineId pipeline.flattened kickoff
                    (some fromIndex) triggeredByUserId))

def Session.commit (session : Session) : Db := session.flush.db

def resumeFromPause (session : Session) (stageExec : StageExecution) : Session :=
  let session := resume session
  session.enqueue (.routeRun
    { runId := session.run.id, completedStageIndex := stageExec.stageIndex, outcomeLabel := some .success,
      failureReason := none })

def resumeWithInstruction (env : Env) (session : Session) (stageExec : StageExecution) (instruction : String) :
    Except EngineError Session := do
  let stage ← stageAt session.run.definitionSnapshot stageExec.stageIndex
  match stage.name? with
  | none => .error (.assertionError "isinstance(stage, SkillStage | ReviewSkillStage)")
  | some stageName =>
      let prior := latestFinal session.db session.run.orgId session.run.ticketId stageName
      let revision : RevisionContext :=
        { source := .instruction, text := instruction, priorArtifact := (prior.map Artifact.body).getD "" }
      let run :=
        { session.run with
          kickoff := { session.run.kickoff with revision := some revision },
          currentStageIndex := stageExec.stageIndex }
      startStageImpl env (resume { session with run := run }) stageExec.stageIndex

def resumeWithSendBack (env : Env) (session : Session) (stageExec : StageExecution) (targetIndex : Nat)
    (targetStage : SkillStage) : Except EngineError Session :=
  sendBackToStage env (resume session) stageExec targetIndex targetStage "" session.run.kickoff

-- Both flip the run back to `running` first, so that cleanup's own event is not
-- dropped as stale.
def killRun (env : Env) (session : Session) : Except EngineError Session :=
  finishOrCleanup env { session with run := { session.run with state := .running } } .killed none

def cancelPaused (env : Env) (session : Session) (pause : RunPause) : Except EngineError Session :=
  let session := session.putPause { pause with resolvedAt := some env.now }
  finishOrCleanup env { session with run := { session.run with state := .running, cancelRequested := true } }
    .cancelled none

def requestCancel (env : Env) (db : Db) (orgId runId : Uuid) : Except EngineError Db :=
  match db.runs.find? runId with
  | none => .error (.runNotFound runId)
  | some run =>
      if run.orgId ≠ orgId then .error (.runNotFound runId)
      else
        let session : Session := { db := db, run := run }
        match run.state with
        | .queued => .ok (cancelQueued env session).commit
        | .running => .ok ({ session with run := { run with cancelRequested := true } } : Session).commit
        | .paused =>
            match getOpenPauseForRun run with
            | none => .error (.assertionError "run is paused but has no open run_pauses row")
            | some pause => (cancelPaused env session pause).map Session.commit
        | _ => .error (.runAlreadyTerminal runId)

def findPause (db : Db) (pauseId : Uuid) : Option (PipelineRun × RunPause) :=
  db.runs.rows.findSome? fun run =>
    (run.pauses.find? fun pause => pause.id == pauseId).map fun pause => (run, pause)

def pausedExecution (run : PipelineRun) (pause : RunPause) : Except EngineError StageExecution :=
  match run.stageExecutions.find? fun row => row.id == pause.stageExecutionId with
  | none => .error (.assertionError "stage_exec is not None")
  | some stageExec => .ok stageExec

def checkSendBack (run : PipelineRun) (stageExec : StageExecution) (sendBackToStage : Option String) :
    Except EngineError (Nat × SkillStage) :=
  let targetName := sendBackToStage.getD ""
  if targetName = "" then .error (.invalidPauseResolution "send_back requires send_back_to_stage")
  else do
    let pausedStage ← stageAt run.definitionSnapshot stageExec.stageIndex
    match pausedStage.settles? with
    | none => .error (.assertionError "isinstance(paused_stage, SkillStage | ReviewSkillStage)")
    | some stage =>
        match resolveSendBackTarget run.definitionSnapshot stage (stageExec.stageIndex.getD 0) targetName with
        | none => .error (.invalidPauseResolution
            ("send_back_to_stage " ++ targetRepr sendBackToStage ++ " is not a valid upstream stage"))
        | some target => .ok target

def resolveWith (env : Env) (session : Session) (pause : RunPause) (resolution : PauseResolution) :
    Except EngineError Session := do
  match resolution.action with
  | .approve =>
      let stageExec ← pausedExecution session.run pause
      .ok (resumeFromPause session stageExec)
  | .instruct =>
      let stageExec ← pausedExecution session.run pause
      resumeWithInstruction env session stageExec (resolution.instruction.getD "")
  | .sendBack =>
      let stageExec ← pausedExecution session.run pause
      let target ← checkSendBack session.run stageExec resolution.sendBackToStage
      resumeWithSendBack env session stageExec target.1 target.2
  | .kill => killRun env session

def resolvePause (env : Env) (db : Db) (orgId pauseId : Uuid) (resolution : PauseResolution) (actor : Actor) :
    Except EngineError Db :=
  match findPause db pauseId with
  | none => .error (.pauseNotFound pauseId)
  | some (run, pause) =>
      if pause.orgId ≠ orgId then .error (.pauseNotFound pauseId)
      else match actor.userId? with
        | none => .error (.notEscalationTarget pauseId)
        | some userId =>
            if !isPauseResponder env userId pause.escalationUserIds orgId then .error (.notEscalationTarget pauseId)
            else if pause.resolvedAt ≠ none then .error (.pauseAlreadyResolved pauseId)
            else if resolution.action = .instruct ∧ resolution.instruction.getD "" = "" then
              .error (.invalidPauseResolution "instruct requires a non-empty instruction")
            else
              let resolved : RunPause :=
                { pause with
                  resolution := some resolution.action, instruction := resolution.instruction,
                  sendBackToStage := resolution.sendBackToStage, resolvedBy := some userId,
                  resolvedAt := some env.now }
              let session := ({ db := db, run := run } : Session).putPause resolved
              (resolveWith env session pause resolution).map Session.commit

def latestNonSystem (run : PipelineRun) : Option StageExecution :=
  run.stageExecutions.find? fun row => row.kind != .system

-- The ROUTE_RUN that `_reconcile_stale_running` derives; none where it skips the run.
def recoveredArgs (run : PipelineRun) : Option RouteRunArgs :=
  match latestNonSystem run with
  | none => some { runId := run.id, completedStageIndex := none, outcomeLabel := none, failureReason := none }
  | some latest =>
      match latest.status with
      | .running => none
      | .completed => some
          { runId := run.id, completedStageIndex := latest.stageIndex, outcomeLabel := some .success,
            failureReason := none }
      | .failed => some
          { runId := run.id, completedStageIndex := latest.stageIndex, outcomeLabel := some .failure,
            failureReason := latest.failureReason }

def reconcileStaleRunning (db : Db) (stale : PipelineRun → Bool) : Db :=
  let candidates := db.runs.rows.filter fun run =>
    run.state == .running && run.pendingAgentCommandId == none && stale run
  { db with outbox := db.outbox ++ (candidates.filterMap recoveredArgs).map .routeRun }

end Yaaos.Pipelines
