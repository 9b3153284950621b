import Mathlib.Data.List.Infix
import Yaaos.Pipelines.Engine

set_option autoImplicit false

namespace Yaaos.Pipelines

open Yaaos.Base

def textOr (outputs : Dict Json) (key fallback : String) : Except EngineError String :=
  match outputs.lookup key with
  | none => .ok fallback
  | some value =>
      if value.truthy then
        match value with
        | .str text => .ok text
        | _ => .error (.dataError key)
      else .ok fallback

def outputText (outputs : Dict Json) : Option String :=
  match outputs.lookup "output" with
  | none => some ""
  | some (.str text) => some text
  | some _ => none

def notJsonText : String := "JSON input should be string, bytes or bytearray"

def validateReturn {α : Type} (validate : String → Except String α) (outputs : Dict Json) : Except String α :=
  match outputText outputs with
  | none => .error notJsonText
  | some text => validate text

def isAuthExpired (failureReason : String) : Bool :=
  decide ("auth_expired".toList <:+: failureReason.toList.map Char.toLower)

def artifactBody (outputs : Dict Json) : Option String :=
  match outputs.lookup "artifact" with
  | some (.obj payload) => match payload.lookup "body" with
      | some (.str body) => if body = "" then none else some body
      | _ => none
  | _ => none

def authRetryKey (stageName : String) : String := "auth_retry:" ++ stageName

def applyVerdict (session : Session) (stageExec : StageExecution) (now : Nat) (ownStatus : Uuid → Option FindingStatus)
    (verdict : PriorFindingVerdict) (db : Db) : Except EngineError Db :=
  let event (status : FindingStatus) (method : StatusEventMethod) : FindingStatusEvent :=
    { status := status, method := method, actor := .system, runId := some session.run.id,
      stageExecutionId := some stageExec.id, recordedAt := now }
  match verdict.status with
  | none => .ok db
  | some .fixed => resolveFinding db verdict.findingId (event .resolved .reviewVerdict)
  | some .stillPresent =>
      if (ownStatus verdict.findingId).getD .opened = .resolved then
        reopenFinding db verdict.findingId (event .opened .reviewVerdict)
      else reflagFinding db verdict.findingId (event .opened .reviewVerdict)
  | some .userOverrode => dismissFinding db verdict.findingId (event .dismissed .userOverrode)

def applyVerdicts (session : Session) (stageExec : StageExecution) (now : Nat) (ownStatus : Uuid → Option FindingStatus) :
    List PriorFindingVerdict → Db → Except EngineError Db
  | [], db => .ok db
  | verdict :: rest, db => do
      let db ← applyVerdict session stageExec now ownStatus verdict db
      applyVerdicts session stageExec now ownStatus rest db

def findingSpecs (session : Session) : List SkillReviewFinding → Session × List FindingSpec
  | [] => (session, [])
  | finding :: rest =>
      let spec : FindingSpec :=
        { id := session.db.nextId, severity := finding.severity, body := finding.body, codeFile := finding.codeFile,
          codeLine := finding.codeLine, artifactSection := finding.artifactSection,
          defectInArtifact := finding.defectInArtifact, displayPrefix := finding.category }
      let (session, specs) := findingSpecs session.mint rest
      (session, spec :: specs)

def residualsOf (db : Db) (stageExec : StageExecution) : List Finding :=
  (listForStageExecution db stageExec.id).filter fun finding => finding.status == .opened

def recordAndApplyReview (env : Env) (session : Session) (stageExec : StageExecution) (reviewReturn : SkillReviewReturn)
    (iteration : Nat) : Except EngineError (Session × List Finding) := do
  let minted := findingSpecs session reviewReturn.newFindings
  let recorded := recordFindings minted.1 stageExec iteration
    (latestDisplayId minted.1.db session.run.ticketId + 1) minted.2
  let own := listForStageExecution recorded.1.db stageExec.id
  let ownStatus (findingId : Uuid) := (own.find? fun finding => finding.id == findingId).map Finding.status
  let db ← applyVerdicts recorded.1 stageExec env.now ownStatus reviewReturn.priorFindingVerdicts recorded.1.db
  .ok ({ recorded.1 with db := db }, recorded.2)

-- The first residual whose `defect_in_artifact` names a valid upstream stage.
def resolveResidualSendBack (flattened : FlattenedDefinition) (stage : BoundaryStage) (beforeIndex : Nat) :
    List Finding → Option (Nat × SkillStage × String)
  | [] => none
  | finding :: rest =>
      match finding.defectInArtifact with
      | none => resolveResidualSendBack flattened stage beforeIndex rest
      | some targetName =>
          if targetName = "" then resolveResidualSendBack flattened stage beforeIndex rest
          else match resolveSendBackTarget flattened stage beforeIndex targetName with
            | none => resolveResidualSendBack flattened stage beforeIndex rest
            | some (targetIndex, targetStage) => some (targetIndex, targetStage, finding.body)

def sendBackToStage (env : Env) (session : Session) (stageExec : StageExecution) (targetIndex : Nat)
    (targetStage : SkillStage) (gapText : String) (kickoff : Kickoff) : Except EngineError Session :=
  if (session.run.sendbackCounts.lookup targetStage.name).getD 0 ≥ 1 then
    .ok (enterPause env session stageExec [.sendbackLoop targetStage.name] [] kickoff)
  else
    let session := session.put { stageExec with boundaryOutcome := some .sentBack }
    let prior := latestFinal session.db session.run.orgId session.run.ticketId targetStage.name
    let revision : RevisionContext :=
      { source := .sendBack, text := gapText, priorArtifact := (prior.map Artifact.body).getD "" }
    let run :=
      { session.run with
        sendbackCounts := Dict.set session.run.sendbackCounts targetStage.name 1,
        kickoff := { kickoff with revision := some revision }, currentStageIndex := some targetIndex }
    startStageImpl env { session with run := run } (some targetIndex)

structure Produced where
  session : Session
  skillReturn : SkillReturn
  artifactId : Uuid
  body : String

inductive Validated where
  | ended (session : Session)
  | produced (result : Produced)

def missingArtifactText : String := "outcome=completed requires an artifact but none was provided"

def upstreamTarget (flattened : FlattenedDefinition) (stage : SkillStage) (stageIndex : Nat) :
    Option String → Option (Nat × SkillStage)
  | none => none
  | some targetName =>
      if targetName = "" then none else resolveSendBackTarget flattened stage.settles stageIndex targetName

def targetRepr : Option String → String
  | none => "None"
  | some targetName => "'" ++ targetName ++ "'"

def validateSkillReturnAndArtifact (env : Env) (session : Session) (stage : SkillStage) (stageExec : StageExecution)
    (stageIndex : Nat) (kickoff : Kickoff) (outputs : Dict Json) : Except EngineError Validated :=
  match validateReturn env.skillReturnOf outputs with
  | .error text => .ok (.ended (failStage env session stageExec ("SkillReturn schema violation: " ++ text)))
  | .ok skillReturn =>
      match skillReturn.outcome with
      | .cannotComplete =>
          let reason := skillReturn.outcomeReason.getD ""
          .ok (.ended (failStage env session stageExec
            (if reason = "" then "stage reported cannot_complete" else reason)))
      | .sendBack =>
          match upstreamTarget session.run.definitionSnapshot stage stageIndex skillReturn.sendBackToStage with
          | none => .ok (.ended (failStage env session stageExec
              ("send_back_to_stage " ++ targetRepr skillReturn.sendBackToStage ++ " is not a valid upstream stage")))
          | some (targetIndex, targetStage) => do
              let stageExec := { stageExec with status := .completed, completedAt := some env.now }
              let session ← sendBackToStage env (session.put stageExec) stageExec targetIndex targetStage
                (skillReturn.outcomeReason.getD "") kickoff
              .ok (.ended session)
      | .completed =>
          match artifactBody outputs with
          | none => do
              let reason ← textOr outputs "artifact_error" missingArtifactText
              .ok (.ended (failStage env session stageExec reason))
          | some body =>
              let artifactId := session.db.nextId
              let session := markFinal (storeArtifact session stageExec body) artifactId
              .ok (.produced { session := session, skillReturn := skillReturn, artifactId := artifactId, body := body })

def settleStageBoundary (env : Env) (session : Session) (stage : BoundaryStage) (stageExec : StageExecution)
    (kickoff : Kickoff) (pathsAffected : List String) (stageIndex : Nat) : Except EngineError Session :=
  let residuals := residualsOf session.db stageExec
  let completed := { stageExec with status := .completed, completedAt := some env.now }
  match resolveResidualSendBack session.run.definitionSnapshot stage stageIndex residuals with
  | some (targetIndex, targetStage, gapText) =>
      sendBackToStage env (session.put completed) completed targetIndex targetStage gapText kickoff
  | none => do
      let ticket ← getTicket session.db session.run.ticketId session.run.orgId
      match stageExec.confidence with
      | none => .error (.assertionError "stage_exec.confidence is not None")
      | some confidence =>
          let decision := evaluateBoundary env stage.boundary session.run.orgId ticket.repoExternalId residuals
            pathsAffected confidence
          let session := session.put completed
          match decision with
          | .pause tripped owners => .ok (enterPause env session completed tripped owners kickoff)
          | .proceed =>
              let session := session.put { completed with boundaryOutcome := some .proceeded }
              .ok (session.enqueue (.routeRun
                { runId := session.run.id, completedStageIndex := some stageIndex, outcomeLabel := some .success,
                  failureReason := none }))

def recordProduced (result : Produced) (stageExec : StageExecution) (phase : StagePhase) : StageExecution :=
  { stageExec with
    loopState := stageExec.loopState ++
      [.produced phase result.artifactId result.skillReturn.confidence result.skillReturn.pathsAffected],
    confidence := some (bucketConfidence result.skillReturn.confidence) }

def handleMainReturn (env : Env) (session : Session) (stage : SkillStage) (stageExec : StageExecution) (stageIndex : Nat)
    (kickoff : Kickoff) (outputs : Dict Json) : Except EngineError Session := do
  match ← validateSkillReturnAndArtifact env session stage stageExec stageIndex kickoff outputs with
  | .ended session => .ok session
  | .produced result =>
      let stageExec := recordProduced result stageExec .main
      let session := result.session.put stageExec
      match stage.review with
      | none => settleStageBoundary env session stage.settles stageExec kickoff result.skillReturn.pathsAffected stageIndex
      | some _ => dispatchReviewInvocation env session stage stageExec result.body

def handleFixReturn (env : Env) (session : Session) (stage : SkillStage) (stageExec : StageExecution) (stageIndex : Nat)
    (kickoff : Kickoff) (outputs : Dict Json) : Except EngineError Session := do
  match ← validateSkillReturnAndArtifact env session stage stageExec stageIndex kickoff outputs with
  | .ended session => .ok session
  | .produced result =>
      let stageExec := recordProduced result stageExec .fix
      dispatchReviewInvocation env (result.session.put stageExec) stage stageExec result.body

def reviewEntry (iteration : Nat) (reviewReturn : SkillReviewReturn) (recorded residuals : List Finding) : LoopEntry :=
  .reviewed iteration reviewReturn.confidence (recorded.map Finding.id) (residuals.map Finding.id)
    reviewReturn.priorFindingVerdicts

def handleReviewReturn (env : Env) (session : Session) (stage : SkillStage) (stageExec : StageExecution) (stageIndex : Nat)
    (kickoff : Kickoff) (outputs : Dict Json) : Except EngineError Session :=
  match stage.review with
  | none => .error (.assertionError "stage.review is not None")
  | some review =>
      match validateReturn env.reviewReturnOf outputs with
      | .error text => .ok (failStage env session stageExec ("SkillReviewReturn schema violation: " ++ text))
      | .ok reviewReturn => do
          let reviewed ← recordAndApplyReview env session stageExec reviewReturn stageExec.iteration
          let residuals := residualsOf reviewed.1.db stageExec
          let stageExec :=
            { stageExec with
              loopState := stageExec.loopState ++
                [reviewEntry stageExec.iteration reviewReturn reviewed.2 residuals] }
          let session := reviewed.1.put stageExec
          if residuals ≠ [] ∧ stageExec.iteration < review.maxIterations then do
            let artifactId ← lastArtifactId stageExec
            let artifact ← getArtifact session.db artifactId session.run.orgId
            dispatchFixInvocation env session stage stageExec stageIndex kickoff artifact.body residuals
          else
            settleStageBoundary env session stage.settles stageExec kickoff (lastPathsAffected stageExec) stageIndex

def handleReviewStageEvent (env : Env) (session : Session) (stageExec : StageExecution) (outcomeLabel : String)
    (outputs : Dict Json) : Except EngineError Session :=
  if outcomeLabel ≠ "success" then do
    let failureReason ← textOr outputs "error_message" outcomeLabel
    .ok (failStage env session stageExec failureReason)
  else do
    match ← stageAt session.run.definitionSnapshot stageExec.stageIndex with
    | .review stage =>
        match validateReturn env.reviewReturnOf outputs with
        | .error text => .ok (failStage env session stageExec ("SkillReviewReturn schema violation: " ++ text))
        | .ok reviewReturn => do
            let reviewed ← recordAndApplyReview env session stageExec reviewReturn 1
            let residuals := residualsOf reviewed.1.db stageExec
            let stageExec :=
              { stageExec with
                loopState := stageExec.loopState ++ [reviewEntry 1 reviewReturn reviewed.2 residuals],
                confidence := some (bucketConfidence reviewReturn.confidence) }
            settleStageBoundary env (reviewed.1.put stageExec) stage.settles stageExec session.run.kickoff []
              (stageExec.stageIndex.getD 0)
    | _ => .error (.assertionError "isinstance(stage, ReviewSkillStage)")

def dispatchRefreshAuth (env : Env) (session : Session) (stageExec : StageExecution) (failureReason : String) :
    Except EngineError Session :=
  let run :=
    { session.run with sendbackCounts := Dict.set session.run.sendbackCounts (authRetryKey stageExec.stageName) 1 }
  let session := ({ session with run := run } : Session).put
    { stageExec with status := .failed, failureReason := some failureReason, completedAt := some env.now }
  let execId := session.db.nextId
  let session := session.addExecution (newExecution execId none .system systemStageRefreshAuth)
  match session.run.workspaceId with
  | none => .error (.assertionError "run.workspace_id is not None")
  | some workspaceId => do
      let ticket ← getTicket session.db session.run.ticketId session.run.orgId
      let commandId := session.db.nextId
      let session ← dispatchAuthRefresh env session workspaceId (systemCommandContext session.run execId) ticket.pluginId
      .ok { session with run := { session.run with pendingAgentCommandId := some commandId } }

def authRetryDue (run : PipelineRun) (stageExec : StageExecution) (failureReason : String) : Bool :=
  isAuthExpired failureReason && stageExec.phase == some .main &&
    decide ((run.sendbackCounts.lookup (authRetryKey stageExec.stageName)).getD 0 < 1)

def handleSkillStageEvent (env : Env) (session : Session) (stageExec : StageExecution) (outcomeLabel : String)
    (outputs : Dict Json) : Except EngineError Session :=
  if outcomeLabel ≠ "success" then do
    let failureReason ← textOr outputs "error_message" outcomeLabel
    if authRetryDue session.run stageExec failureReason then dispatchRefreshAuth env session stageExec failureReason
    else .ok (failStage env session stageExec failureReason)
  else do
    match ← stageAt session.run.definitionSnapshot stageExec.stageIndex with
    | .skill stage =>
        let stageIndex := stageExec.stageIndex.getD 0
        let kickoff := session.run.kickoff
        match stageExec.phase with
        | some .review => handleReviewReturn env session stage stageExec stageIndex kickoff outputs
        | some .fix => handleFixReturn env session stage stageExec stageIndex kickoff outputs
        | _ => handleMainReturn env session stage stageExec stageIndex kickoff outputs
    | _ => .error (.assertionError "isinstance(stage, SkillStage)")

def handleSystemStageEvent (env : Env) (session : Session) (stageExec : StageExecution) (outcomeLabel : String)
    (outputs : Dict Json) : Except EngineError Session :=
  let settled := { stageExec with completedAt := some env.now }
  if outcomeLabel ≠ "success" then do
    let failureReason ← textOr outputs "error_message" outcomeLabel
    let session := session.put { settled with status := .failed, failureReason := some failureReason }
    if stageExec.stageName = systemStageCleanup then .ok (finalizeAfterCleanup env session)
    else finishOrCleanup env session .failed (some failureReason)
  else
    let session := session.put { settled with status := .completed }
    if stageExec.stageName = systemStageProvision then
      let session := { session with run := { session.run with phase := .stages } }
      .ok (session.enqueue (.startStage session.run.id session.run.currentStageIndex))
    else if stageExec.stageName = systemStageCleanup then .ok (finalizeAfterCleanup env session)
    else if stageExec.stageName = systemStageRefreshAuth then do
      match ← stageAt session.run.definitionSnapshot session.run.currentStageIndex with
      | .skill stage =>
          dispatchSkillStage env session stage (session.run.currentStageIndex.getD 0) session.run.kickoff none
      | _ => finishOrCleanup env session .failed (some "refresh-auth recovery reached a non-skill stage")
    else .ok session

def runningExecution (run : PipelineRun) : Option StageExecution :=
  run.stageExecutions.find? fun row => row.status == .running

def handleAgentEventImpl (env : Env) (session : Session) (args : AgentEventArgs) : Except EngineError Session :=
  if session.run.pendingAgentCommandId ≠ some args.agentCommandId then .ok session
  else
    match runningExecution session.run with
    | none => .ok session
    | some stageExec =>
        let session := { session with run := { session.run with pendingAgentCommandId := none } }
        match stageExec.kind with
        | .system => handleSystemStageEvent env session stageExec args.outcomeLabel args.outputs
        | .review => handleReviewStageEvent env session stageExec args.outcomeLabel args.outputs
        | _ => handleSkillStageEvent env session stageExec args.outcomeLabel args.outputs

end Yaaos.Pipelines
