import Yaaos.Pipelines.Dispatch

set_option autoImplicit false

namespace Yaaos.Pipelines

open Yaaos.Base

def PipelineRun.inFlight (run : PipelineRun) : Bool := run.state == .running || run.state == .paused

-- `ux_pipeline_runs_one_in_flight`: another run of the ticket holds the slot.
def slotTaken (db : Db) (run : PipelineRun) : Bool :=
  db.runs.rows.any fun other => other.ticketId == run.ticketId && other.id != run.id && other.inFlight

def attemptPromotion (db : Db) (run : PipelineRun) : Db :=
  if run.state ≠ .queued then db
  else if slotTaken db run then db
  else
    let promoted := db.saveRun { run with state := .running }
    let owned := setCurrentRun promoted run.ticketId run.id
    let started := transitionTicketOnRunStart owned run.ticketId run.orgId run.id
    started.enqueue (.routeRun
      { runId := run.id, completedStageIndex := none, outcomeLabel := none, failureReason := none })

def oldestQueued (db : Db) (ticketId : Uuid) : Option PipelineRun :=
  firstWhere db.runs.rows (fun run => run.ticketId == ticketId && run.state == .queued) PipelineRun.id

def promoteOldestQueued (db : Db) (ticketId : Uuid) : Db :=
  match oldestQueued db ticketId with
  | none => db
  | some candidate => attemptPromotion db candidate

def cancelQueued (env : Env) (session : Session) : Session :=
  { session with run := { session.run with state := .cancelled, completedAt := some env.now } }

def resolveEscalationTargets (env : Env) (kickoff : Kickoff) (orgId : Uuid) : List Uuid :=
  match kickoff.actor.userId? with
  | some userId => [userId]
  | none =>
      if kickoff.notifyUserIds ≠ [] then kickoff.notifyUserIds
      else
        match kickoff.actor with
        | .githubUser login => match env.oauthIdentity login with
            | some userId => [userId]
            | none => env.orgAdmins orgId
        | _ => env.orgAdmins orgId

def isPauseResponder (env : Env) (userId : Uuid) (escalationUserIds : List Uuid) (orgId : Uuid) : Bool :=
  escalationUserIds.contains userId || env.coversAdmin userId orgId

inductive BoundaryDecision where
  | proceed
  | pause (tripped : List TrippedCondition) (protectedOwnerUserIds : List Uuid)

def Confidence.rank : Confidence → Nat
  | .low => 0
  | .medium => 1
  | .high => 2

def trippedResiduals (control : BoundaryControl) (residuals : List Finding) : List TrippedCondition :=
  let any_ (severity : Severity) := residuals.any fun finding => finding.severity == severity
  (if control.onBlockerResiduals && any_ .blocker then [.blockerResiduals] else []) ++
    (if control.onShouldFixResiduals && any_ .shouldFix then [.shouldFixResiduals] else []) ++
    (if control.onNitResiduals && any_ .nit then [.nitResiduals] else [])

def trippedConfidence (control : BoundaryControl) (confidence : Confidence) : List TrippedCondition :=
  match control.onConfidenceBelow with
  | none => []
  | some threshold => if confidence.rank < threshold.rank then [.confidenceBelow threshold] else []

def evaluateBoundary (env : Env) (control : BoundaryControl) (orgId : Uuid) (repoExternalId : String)
    (residuals : List Finding) (pathsAffected : List String) (confidence : Confidence) : BoundaryDecision :=
  match control.mode with
  | .alwaysProceed => .proceed
  | .alwaysHitl => .pause [.alwaysHitl] []
  | .conditional =>
      let matched :=
        if control.onProtectedCode && !pathsAffected.isEmpty then env.evaluateProtected orgId repoExternalId pathsAffected
        else { matched := false, ownerUserIds := [] }
      let tripped := trippedResiduals control residuals ++
        (if matched.matched then [.protectedCode] else []) ++ trippedConfidence control confidence
      if tripped.isEmpty then .proceed
      else .pause tripped (if matched.matched then matched.ownerUserIds else [])

def pausedRunWorkspaceGraceSeconds : Nat := 1800

def systemStageProvision : String := "provision-workspace"

def systemStageCleanup : String := "cleanup-workspace"

def systemStageRefreshAuth : String := "refresh-auth"

def enterPause (env : Env) (session : Session) (stageExec : StageExecution) (tripped : List TrippedCondition)
    (protectedOwnerUserIds : List Uuid) (kickoff : Kickoff) : Session :=
  let session := session.put { stageExec with boundaryOutcome := some .paused, boundaryDetail := some tripped }
  let escalationTargets := (resolveEscalationTargets env kickoff session.run.orgId ++ protectedOwnerUserIds).dedup
  let session := session.addPause
    { id := session.db.nextId, orgId := session.run.orgId, stageExecutionId := stageExec.id, tripped := tripped,
      escalationUserIds := escalationTargets, resolution := none, instruction := none, sendBackToStage := none,
      resolvedBy := none, resolvedAt := none }
  let session := { session with run := { session.run with state := .paused } }
  let db := match session.run.workspaceId with
    | none => session.db
    | some workspaceId => extendExpiry session.db workspaceId (env.now + pausedRunWorkspaceGraceSeconds)
  { session with db := transitionTicketOnRunPaused db session.run.ticketId session.run.orgId session.run.id }

def getOpenPauseForRun (run : PipelineRun) : Option RunPause := run.pauses.find? fun pause => pause.resolvedAt == none

-- Flips the run back to `running` together with its ticket.
def resume (session : Session) : Session :=
  let run := { session.run with state := .running }
  { db := transitionTicketOnRunResumed session.db run.ticketId run.orgId run.id, run := run }

def prevReviewedHeadSha (db : Db) (ticketId excludeRunId : Uuid) : Option String :=
  let reviewed := db.runs.rows.filter fun row =>
    row.ticketId == ticketId && row.state == .completed && row.id != excludeRunId && row.kickoff.prHeadSha.isSome
  match reviewed.argmax fun row => toLex (row.completedAt.getD 0, row.id) with
  | none => none
  | some row => row.kickoff.prHeadSha

def buildPrContext (env : Env) (session : Session) (kickoff : Kickoff) (ticket : Ticket) :
    Except EngineError (Option PRContext) :=
  match ticket.prId, kickoff.prHeadSha with
  | some prId, some headSha => do
      let externalId ← getPullRequest env prId
      .ok (some
        { prExternalId := externalId, headSha := headSha, baseSha := kickoff.prBaseSha.getD "",
          prevReviewedHeadSha := prevReviewedHeadSha session.db session.run.ticketId session.run.id })
  | _, _ => .ok none

def latestStageExecution (run : PipelineRun) (stageIndex : Nat) : Option StageExecution :=
  run.stageExecutions.find? fun row => row.stageIndex == some stageIndex

def lastReviewVerdicts (stageExec : StageExecution) : List PriorFindingVerdict :=
  (stageExec.loopState.reverse.findSome? fun entry => match entry with
    | .reviewed _ _ _ _ verdicts => some verdicts
    | .produced _ _ _ _ => none).getD []

def LoopEntry.artifactId? : LoopEntry → Option Uuid
  | .produced _ artifactId _ _ => some artifactId
  | .reviewed _ _ _ _ _ => none

def recordedArtifact (stageExec : StageExecution) : Option Uuid := stageExec.loopState.reverse.findSome? LoopEntry.artifactId?

def lastArtifactId (stageExec : StageExecution) : Except EngineError Uuid :=
  match recordedArtifact stageExec with
  | none => .error (.assertionError "stage execution has no recorded artifact")
  | some artifactId => .ok artifactId

def lastPathsAffected (stageExec : StageExecution) : List String :=
  (stageExec.loopState.reverse.findSome? fun entry => match entry with
    | .produced _ _ _ paths => some paths
    | .reviewed _ _ _ _ _ => none).getD []

def precedingExecution (run : PipelineRun) (stageIndex : Nat) : Option StageExecution :=
  if stageIndex > 0 then latestStageExecution run (stageIndex - 1) else none

def precedingArtifactId : Option StageExecution → Except EngineError (Option Uuid)
  | none => .ok none
  | some preceding => if preceding.kind = .skill then (lastArtifactId preceding).map some else .ok none

def buildActionContext (env : Env) (session : Session) (kickoff : Kickoff) (stageIndex : Nat) :
    Except EngineError ActionContext := do
  let ticket ← getTicket session.db session.run.ticketId session.run.orgId
  let prExternalId ← match ticket.prId with
    | none => .ok none
    | some prId => (getPullRequest env prId).map some
  let preceding := precedingExecution session.run stageIndex
  let artifactId ← precedingArtifactId preceding
  let ownFindings := match preceding with
    | none => []
    | some row => listForStageExecution session.db row.id
  .ok
    { orgId := session.run.orgId, ticketId := session.run.ticketId, runId := session.run.id,
      repoExternalId := ticket.repoExternalId, vcsPluginId := ticket.pluginId, prExternalId := prExternalId,
      branchName := ticket.branchName, intakePointId := kickoff.intakePointId, kickoffInput := kickoff.inputText,
      precedingResiduals := ownFindings.filter fun finding => finding.status == .opened,
      precedingVerdicts := (preceding.map lastReviewVerdicts).getD [], precedingArtifactId := artifactId }

def resolveStageInput (session : Session) (stageIndex : Nat) (kickoff : Kickoff) : String :=
  let upstream := (session.run.definitionSnapshot.stages.take stageIndex).reverse.findSome? fun stage => match stage with
    | .skill prior => (latestFinal session.db session.run.orgId session.run.ticketId prior.name).map Artifact.body
    | _ => none
  upstream.getD (kickoff.inputText.getD "")

def systemCommandContext (run : PipelineRun) (stageExecutionId : Uuid) : DispatchContext :=
  { runId := run.id, ticketId := run.ticketId, stageExecutionId := stageExecutionId, attempt := 0,
    userId := run.triggeredByUserId }

def artifactPath (commandId : Uuid) : String := "$TMPDIR/" ++ uuidText commandId ++ ".md"

def newExecution (id : Uuid) (stageIndex : Option Nat) (kind : StageKind) (stageName : String) : StageExecution :=
  { id := id, stageIndex := stageIndex, kind := kind, stageName := stageName, skillName := none, status := .running,
    phase := none, iteration := 0, confidence := none, loopState := [], boundaryOutcome := none,
    boundaryDetail := none, actionResult := none, revision := none, failureReason := none, completedAt := none }

def dispatchStage (session : Session) (stageIndex : Nat) : Session :=
  let session := { session with run := { session.run with currentStageIndex := some stageIndex } }
  session.enqueue (.startStage session.run.id (some stageIndex))

inductive TerminalState where
  | completed
  | failed
  | killed
  | cancelled
  deriving DecidableEq

def TerminalState.state : TerminalState → RunState
  | .completed => .completed
  | .failed => .failed
  | .killed => .killed
  | .cancelled => .cancelled

def TerminalState.ticketStatus : TerminalState → TicketStatus
  | .completed => .done
  | .failed => .failed
  | .killed => .cancelled
  | .cancelled => .cancelled

def enterTerminal (env : Env) (session : Session) (target : TerminalState) (failureReason : Option String) : Session :=
  let run :=
    { session.run with state := target.state, failureReason := failureReason, completedAt := some env.now }
  let db := transitionTicketOnRunTerminal (session.db.saveRun run) run.ticketId run.orgId run.id target.ticketStatus
  let hooked := env.terminalHooks.foldl (fun db hook => db.enqueue (.runTerminalHook hook run.orgId run.ticketId)) db
  { db := promoteOldestQueued hooked run.ticketId, run := run }

def dispatchCleanupStage (session : Session) : Except EngineError Session := do
  let execId := session.db.nextId
  let session := session.addExecution (newExecution execId none .system systemStageCleanup)
  match session.run.workspaceId with
  | none => .error (.assertionError "run.workspace_id is not None")
  | some workspaceId =>
      let commandId := session.db.nextId
      let session ← dispatchCleanup session workspaceId (systemCommandContext session.run execId)
      .ok
        { session with
          run := { session.run with phase := .cleanup, pendingAgentCommandId := some commandId } }

def finishOrCleanup (env : Env) (session : Session) (target : TerminalState) (failureReason : Option String) :
    Except EngineError Session :=
  let session := { session with run := { session.run with failureReason := failureReason } }
  if session.run.workspaceId ≠ none ∧ session.run.phase ≠ .cleanup then dispatchCleanupStage session
  else .ok (enterTerminal env session target failureReason)

def runWasKilled (run : PipelineRun) : Bool := run.pauses.any fun pause => pause.resolution == some .kill

def finalTarget (run : PipelineRun) : TerminalState :=
  if run.failureReason ≠ none then .failed
  else if run.cancelRequested then .cancelled
  else if runWasKilled run then .killed
  else .completed

def finalizeAfterCleanup (env : Env) (session : Session) : Session :=
  enterTerminal env session (finalTarget session.run) session.run.failureReason

def routeRunImpl (env : Env) (session : Session) (args : RouteRunArgs) : Except EngineError Session :=
  match args.completedStageIndex with
  | none => .ok (dispatchStage session (session.run.currentStageIndex.getD 0))
  | some completedStageIndex =>
      if args.outcomeLabel = some .failure then finishOrCleanup env session .failed args.failureReason
      else if session.run.cancelRequested then finishOrCleanup env session .cancelled none
      else if completedStageIndex + 1 ≥ session.run.definitionSnapshot.stages.length then
        finishOrCleanup env session .completed none
      else .ok (dispatchStage session (completedStageIndex + 1))

def failStage (env : Env) (session : Session) (stageExec : StageExecution) (failureReason : String) : Session :=
  let session := session.put
    { stageExec with status := .failed, failureReason := some failureReason, completedAt := some env.now }
  session.enqueue (.routeRun
    { runId := session.run.id, completedStageIndex := stageExec.stageIndex, outcomeLabel := some .failure,
      failureReason := some failureReason })

def checkout (kickoff : Kickoff) (ticket : Ticket) : Checkout :=
  match kickoff.prHeadSha with
  | some headSha => { headSha := some headSha, branchName := none, baseSha := kickoff.prBaseSha }
  | none => { headSha := none, branchName := some ticket.branchName, baseSha := none }

def dispatchProvisionStage (env : Env) (session : Session) (kickoff : Kickoff) : Except EngineError Session := do
  let ticket ← getTicket session.db session.run.ticketId session.run.orgId
  let execId := session.db.nextId
  let session := session.addExecution (newExecution execId none .system systemStageProvision)
  let workspaceId := session.db.nextId
  let session := session.mint
  let context := systemCommandContext session.run execId
  let commandId := session.db.nextId
  let session ← dispatchProvision env session workspaceId ticket.pluginId ticket.repoExternalId (checkout kickoff ticket)
    context
  .ok
    { session with
      run :=
        { session.run with
          workspaceId := some workspaceId, phase := .provision, pendingAgentCommandId := some commandId } }

-- The tail shared by the four stage dispatches: the plugin and the workspace of
-- the run take the invocation, and `park` records it, or the stage fails for
-- want of a credential.
def invoke (env : Env) (session : Session) (stageExec : StageExecution) (commandId : Uuid) (pluginId : String)
    (invocation : Uuid → Invocation) (park : StageExecution) : Except EngineError Session :=
  if env.pluginRegistered pluginId then
    match session.run.workspaceId with
    | none => .error (.assertionError "run.workspace_id is not None")
    | some workspaceId => do
        match ← dispatchInvocation env session pluginId (invocation workspaceId)
            (systemCommandContext session.run stageExec.id) commandId with
        | .credentialUnavailable userMessage => .ok (failStage env session stageExec userMessage)
        | .parked session =>
            let session := session.put park
            .ok { session with run := { session.run with pendingAgentCommandId := some commandId } }
  else .error (.unknownPlugin pluginId)

def dispatchSkillStage (env : Env) (session : Session) (stage : SkillStage) (stageIndex : Nat) (kickoff : Kickoff)
    (revision : Option RevisionContext) : Except EngineError Session := do
  let stageExec :=
    { newExecution session.db.nextId (some stageIndex) .skill stage.name with
      skillName := some stage.skillName, phase := some .main, revision := revision }
  let session := session.addExecution stageExec
  let commandId := session.db.nextId
  let session := session.mint
  let ticket ← getTicket session.db session.run.ticketId session.run.orgId
  let pr ← buildPrContext env session kickoff ticket
  let invocation (workspaceId : Uuid) : Invocation :=
    { workspaceId := workspaceId, skill := stage.skillName, model := stage.model, effort := stage.effort,
      context :=
        { ticketId := session.run.ticketId, stageName := stage.name, branchName := ticket.branchName,
          input := resolveStageInput session stageIndex kickoff, pr := pr, revision := revision, priorFindings := [],
          artifactPath := artifactPath commandId },
      outputSchema := .skillReturn, wallclockSeconds := stage.wallclockSeconds }
  invoke env session stageExec commandId stage.codingAgentPluginId invocation stageExec

def getFindings (db : Db) : List Uuid → Except EngineError (List Finding)
  | [] => .ok []
  | findingId :: rest => do
      let finding ← getFinding db findingId
      let others ← getFindings db rest
      .ok (finding :: others)

def resolvePriorFindings (env : Env) (session : Session) (stageExec : StageExecution) :
    Except EngineError (List PriorFindingRef) := do
  let commentFindings ← getFindings session.db (env.commentFindingIds session.run.id)
  .ok (mergePriorFindings (listForStageExecution session.db stageExec.id)
    (listOpenForTicket session.db session.run.orgId session.run.ticketId) commentFindings)

def Finding.location (finding : Finding) : String :=
  match finding.codeFile with
  | none => ""
  | some file =>
      if file = "" then ""
      else match finding.codeLine with
        | some line => " (" ++ file ++ ":" ++ toString line ++ ")"
        | none => " (" ++ file ++ ")"

def renderFindingsForFix (findings : List Finding) : String :=
  "\n".intercalate (findings.map fun finding =>
    "- **" ++ finding.handle ++ "** [" ++ finding.severity.text ++ "]" ++ finding.location ++ ": " ++ finding.body)

def dispatchReviewInvocation (env : Env) (session : Session) (stage : SkillStage) (stageExec : StageExecution)
    (artifactBody : String) : Except EngineError Session :=
  match stage.review with
  | none => .error (.assertionError "stage.review is not None")
  | some review => do
      let stageExec := { stageExec with iteration := stageExec.iteration + 1 }
      let session := session.put stageExec
      let commandId := session.db.nextId
      let session := session.mint
      let ticket ← getTicket session.db session.run.ticketId session.run.orgId
      let priorFindings ← resolvePriorFindings env session stageExec
      let pr ← buildPrContext env session session.run.kickoff ticket
      let invocation (workspaceId : Uuid) : Invocation :=
        { workspaceId := workspaceId, skill := review.skillName, model := stage.model, effort := stage.effort,
          context :=
            { ticketId := session.run.ticketId, stageName := stage.name, branchName := ticket.branchName,
              input := artifactBody, pr := pr, revision := none, priorFindings := priorFindings,
              artifactPath := artifactPath commandId },
          outputSchema := .skillReviewReturn, wallclockSeconds := stage.wallclockSeconds }
      invoke env session stageExec commandId stage.codingAgentPluginId invocation
        { stageExec with phase := some .review }

def dispatchFixInvocation (env : Env) (session : Session) (stage : SkillStage) (stageExec : StageExecution)
    (stageIndex : Nat) (kickoff : Kickoff) (priorArtifactBody : String) (residuals : List Finding) :
    Except EngineError Session := do
  let commandId := session.db.nextId
  let session := session.mint
  let ticket ← getTicket session.db session.run.ticketId session.run.orgId
  let pr ← buildPrContext env session kickoff ticket
  let revision : RevisionContext :=
    { source := .fix, text := renderFindingsForFix residuals, priorArtifact := priorArtifactBody }
  let invocation (workspaceId : Uuid) : Invocation :=
    { workspaceId := workspaceId, skill := stage.skillName, model := stage.model, effort := stage.effort,
      context :=
        { ticketId := session.run.ticketId, stageName := stage.name, branchName := ticket.branchName,
          input := resolveStageInput session stageIndex kickoff, pr := pr, revision := some revision,
          priorFindings := [], artifactPath := artifactPath commandId },
      outputSchema := .skillReturn, wallclockSeconds := stage.wallclockSeconds }
  invoke env session stageExec commandId stage.codingAgentPluginId invocation
    { stageExec with revision := some revision, phase := some .fix }

def dispatchReviewOnlyStage (env : Env) (session : Session) (stage : ReviewSkillStage) (stageIndex : Nat)
    (kickoff : Kickoff) (revision : Option RevisionContext) : Except EngineError Session := do
  let stageExec :=
    { newExecution session.db.nextId (some stageIndex) .review stage.name with
      skillName := some stage.skillName, phase := some .review, revision := revision, iteration := 1 }
  let session := session.addExecution stageExec
  let commandId := session.db.nextId
  let session := session.mint
  let ticket ← getTicket session.db session.run.ticketId session.run.orgId
  let priorFindings ← resolvePriorFindings env session stageExec
  let pr ← buildPrContext env session kickoff ticket
  let invocation (workspaceId : Uuid) : Invocation :=
    { workspaceId := workspaceId, skill := stage.skillName, model := stage.model, effort := stage.effort,
      context :=
        { ticketId := session.run.ticketId, stageName := stage.name, branchName := ticket.branchName,
          input := resolveStageInput session stageIndex kickoff, pr := pr, revision := revision,
          priorFindings := priorFindings, artifactPath := artifactPath commandId },
      outputSchema := .skillReviewReturn, wallclockSeconds := stage.wallclockSeconds }
  invoke env session stageExec commandId stage.codingAgentPluginId invocation stageExec

def runActionStage (env : Env) (session : Session) (stage : ActionStage) (stageIndex : Nat) (kickoff : Kickoff) :
    Except EngineError Session := do
  let stageExec := newExecution session.db.nextId (some stageIndex) .action stage.actionId
  let session := session.addExecution stageExec
  let context ← buildActionContext env session kickoff stageIndex
  match env.runAction stage.actionId context with
  | .raised => .error (.actionRaised stage.actionId)
  | .actionError text => .ok (failStage env session stageExec text)
  | .returned result =>
      let session := session.put
        { stageExec with
          status := .completed, actionResult := some result, boundaryOutcome := some .proceeded,
          completedAt := some env.now }
      .ok (session.enqueue (.routeRun
        { runId := session.run.id, completedStageIndex := some stageIndex, outcomeLabel := some .success,
          failureReason := none }))

def startStageImpl (env : Env) (session : Session) (stageIndex : Option Nat) : Except EngineError Session :=
  if session.run.state ≠ .running then .ok session
  else do
    let stage ← stageAt session.run.definitionSnapshot stageIndex
    let index := stageIndex.getD 0
    let kickoff := session.run.kickoff
    match stage with
    | .action action => runActionStage env session action index kickoff
    | .skill skill =>
        if workspaceIsLive session.db session.run.workspaceId then
          let session := { session with run := { session.run with kickoff := { kickoff with revision := none } } }
          dispatchSkillStage env session skill index kickoff kickoff.revision
        else dispatchProvisionStage env session kickoff
    | .review review =>
        if workspaceIsLive session.db session.run.workspaceId then
          let session := { session with run := { session.run with kickoff := { kickoff with revision := none } } }
          dispatchReviewOnlyStage env session review index kickoff kickoff.revision
        else dispatchProvisionStage env session kickoff

end Yaaos.Pipelines
