import Yaaos.Base.Table
import Yaaos.Pipelines.Definition

set_option autoImplicit false

namespace Yaaos.Pipelines

open Yaaos.Base

inductive RunState where
  | queued
  | running
  | paused
  | completed
  | failed
  | killed
  | cancelled
  deriving DecidableEq

def RunState.isTerminal : RunState → Bool
  | .completed | .failed | .killed | .cancelled => true
  | .queued | .running | .paused => false

inductive RunPhase where
  | provision
  | stages
  | cleanup
  deriving DecidableEq

inductive StageKind where
  | skill
  | review
  | action
  | system
  deriving DecidableEq

inductive StageStatus where
  | running
  | completed
  | failed
  deriving DecidableEq

inductive StagePhase where
  | main
  | review
  | fix
  deriving DecidableEq

inductive BoundaryOutcome where
  | proceeded
  | paused
  | sentBack
  deriving DecidableEq

inductive Severity where
  | blocker
  | shouldFix
  | nit
  deriving DecidableEq

inductive FindingStatus where
  | opened
  | resolved
  | dismissed
  deriving DecidableEq

inductive TicketStatus where
  | pending
  | running
  | hitl
  | done
  | failed
  | cancelled
  deriving DecidableEq

inductive WorkspaceStatus where
  | active
  | expired
  | destroying
  | destroyed
  | destroyFailed
  deriving DecidableEq

-- Each kind of actor carries the ids its validator requires and no others.
inductive Actor where
  | githubUser (login : String)
  | agent (agentId : Uuid)
  | system
  | user (userId : Uuid) (login : Option String)
  | workspace (workspaceId : Uuid)
  | sso (login : Option String)

def Actor.userId? : Actor → Option Uuid
  | .user userId _ => some userId
  | _ => none

inductive RevisionSource where
  | instruction
  | sendBack
  | fix
  deriving DecidableEq

structure RevisionContext where
  source : RevisionSource
  text : String
  priorArtifact : String
  deriving DecidableEq

structure Kickoff where
  intakePointId : String
  actor : Actor
  inputText : Option String
  prBaseSha : Option String
  prHeadSha : Option String
  notifyUserIds : List Uuid
  revision : Option RevisionContext

inductive PauseAction where
  | approve
  | instruct
  | sendBack
  | kill
  deriving DecidableEq

structure PauseResolution where
  action : PauseAction
  instruction : Option String
  sendBackToStage : Option String

structure PRContext where
  prExternalId : String
  headSha : String
  baseSha : String
  prevReviewedHeadSha : Option String

structure PriorFindingRef where
  findingId : Uuid
  severity : Severity
  body : String
  codeFile : Option String
  codeLine : Option Int
  artifactSection : Option String

structure StageInvocationContext where
  ticketId : Uuid
  stageName : String
  branchName : String
  input : String
  pr : Option PRContext
  revision : Option RevisionContext
  priorFindings : List PriorFindingRef
  artifactPath : String

inductive OutputSchema where
  | skillReturn
  | skillReviewReturn
  deriving DecidableEq

structure Invocation where
  workspaceId : Uuid
  skill : String
  model : String
  effort : String
  context : StageInvocationContext
  outputSchema : OutputSchema
  wallclockSeconds : Int

structure DispatchContext where
  runId : Uuid
  ticketId : Uuid
  stageExecutionId : Uuid
  attempt : Nat
  userId : Option Uuid

inductive SkillOutcome where
  | completed
  | cannotComplete
  | sendBack
  deriving DecidableEq

structure SkillReturn where
  outcome : SkillOutcome
  outcomeReason : Option String
  sendBackToStage : Option String
  confidence : Nat
  pathsAffected : List String
  summary : String
  bounded : confidence ≤ 100

structure SkillReviewFinding where
  category : String
  severity : Severity
  body : String
  codeFile : Option String
  codeLine : Option Int
  artifactSection : Option String
  defectInArtifact : Option String

inductive VerdictStatus where
  | fixed
  | stillPresent
  | userOverrode
  deriving DecidableEq

structure PriorFindingVerdict where
  findingId : Uuid
  status : Option VerdictStatus
  reply : Option String

structure SkillReviewReturn where
  newFindings : List SkillReviewFinding
  priorFindingVerdicts : List PriorFindingVerdict
  confidence : Nat
  summary : String
  bounded : confidence ≤ 100

def lowConfidenceMax : Nat := 50

def highConfidenceMin : Nat := 90

def bucketConfidence (value : Nat) : Confidence :=
  if value < lowConfidenceMax then .low else if value < highConfidenceMin then .medium else .high

inductive TrippedCondition where
  | alwaysHitl
  | blockerResiduals
  | shouldFixResiduals
  | nitResiduals
  | protectedCode
  | confidenceBelow (threshold : Confidence)
  | sendbackLoop (stageName : String)

inductive LoopEntry where
  | produced (phase : StagePhase) (artifactId : Uuid) (confidence : Nat) (pathsAffected : List String)
  | reviewed (iteration : Nat) (confidence : Nat) (newFindingIds residualFindingIds : List Uuid)
      (verdicts : List PriorFindingVerdict)

structure StageExecution where
  id : Uuid
  stageIndex : Option Nat
  kind : StageKind
  stageName : String
  skillName : Option String
  status : StageStatus
  phase : Option StagePhase
  iteration : Nat
  confidence : Option Confidence
  loopState : List LoopEntry
  boundaryOutcome : Option BoundaryOutcome
  boundaryDetail : Option (List TrippedCondition)
  actionResult : Option Json
  revision : Option RevisionContext
  failureReason : Option String
  completedAt : Option Nat

structure RunPause where
  id : Uuid
  orgId : Uuid
  stageExecutionId : Uuid
  tripped : List TrippedCondition
  escalationUserIds : List Uuid
  resolution : Option PauseAction
  instruction : Option String
  sendBackToStage : Option String
  resolvedBy : Option Uuid
  resolvedAt : Option Nat

structure PipelineRun where
  id : Uuid
  orgId : Uuid
  ticketId : Uuid
  pipelineId : Option Uuid
  definitionSnapshot : FlattenedDefinition
  state : RunState
  phase : RunPhase
  currentStageIndex : Option Nat
  workspaceId : Option Uuid
  pendingAgentCommandId : Option Uuid
  cancelRequested : Bool
  kickoff : Kickoff
  sendbackCounts : Dict Nat
  failureReason : Option String
  triggeredByUserId : Option Uuid
  completedAt : Option Nat
  stageExecutions : List StageExecution
  pauses : List RunPause

inductive StatusEventMethod where
  | reviewVerdict
  | userOverrode
  deriving DecidableEq

structure FindingStatusEvent where
  status : FindingStatus
  method : StatusEventMethod
  actor : Actor
  runId : Option Uuid
  stageExecutionId : Option Uuid
  recordedAt : Nat

structure Finding where
  id : Uuid
  orgId : Uuid
  ticketId : Uuid
  sourceRunId : Uuid
  sourceStageName : String
  sourceStageExecutionId : Uuid
  firstSeenIteration : Nat
  displayPrefix : String
  displayId : Nat
  severity : Severity
  body : String
  codeFile : Option String
  codeLine : Option Int
  artifactSection : Option String
  defectInArtifact : Option String
  status : FindingStatus
  statusEvents : List FindingStatusEvent
  defendedAt : Option Nat := none

structure FindingSpec where
  id : Uuid
  severity : Severity
  body : String
  codeFile : Option String
  codeLine : Option Int
  artifactSection : Option String
  defectInArtifact : Option String
  displayPrefix : String

structure Artifact where
  id : Uuid
  orgId : Uuid
  ticketId : Uuid
  stageName : String
  runId : Uuid
  stageExecutionId : Uuid
  version : Nat
  iteration : Nat
  body : String
  isFinal : Bool

structure Ticket where
  id : Uuid
  orgId : Uuid
  status : TicketStatus
  currentRunId : Option Uuid
  prId : Option Uuid
  branchName : String
  pluginId : String
  repoExternalId : String

structure Workspace where
  id : Uuid
  orgId : Uuid
  status : WorkspaceStatus
  currentCommandId : Option Uuid
  owningAgentId : Option Uuid
  expiresAt : Nat

structure RepoRef where
  pluginId : String
  externalId : String
  cloneUrl : String
  headSha : Option String
  baseSha : Option String
  branchName : Option String

def truthyText : Option String → Bool
  | none => false
  | some text => decide (text ≠ "")

def RepoRef.checkCheckoutMode (repo : RepoRef) : Bool := truthyText repo.headSha != truthyText repo.branchName

inductive CommandBody where
  | provisionWorkspace (repo : RepoRef) (token : String)
  | cleanupWorkspace
  | refreshWorkspaceAuth (newToken : String)
  | invokeCodingAgent (pluginId : String) (invocation : Invocation)

def CommandBody.isProvision : CommandBody → Bool
  | .provisionWorkspace _ _ => true
  | _ => false

structure AgentCommand where
  id : Uuid
  orgId : Uuid
  workspaceId : Uuid
  context : DispatchContext
  pinnedAgentId : Option Uuid
  body : CommandBody
  done : Bool

structure CodingAgentRun where
  orgId : Uuid
  runId : Uuid
  stageExecutionId : Uuid
  agentCommandId : Uuid
  pluginId : String

inductive RouteOutcome where
  | success
  | failure
  deriving DecidableEq

structure RouteRunArgs where
  runId : Uuid
  completedStageIndex : Option Nat
  outcomeLabel : Option RouteOutcome
  failureReason : Option String
  deriving DecidableEq

structure AgentEventArgs where
  runId : Uuid
  agentCommandId : Uuid
  outcomeLabel : String
  outputs : Dict Json

inductive Message where
  | routeRun (args : RouteRunArgs)
  | startStage (runId : Uuid) (stageIndex : Option Nat)
  | handleAgentEvent (args : AgentEventArgs)
  | runTerminalHook (hook : String) (orgId ticketId : Uuid)

def Message.drives? : Message → Option Uuid
  | .routeRun args => some args.runId
  | .startStage runId _ => some runId
  | .handleAgentEvent _ => none
  | .runTerminalHook _ _ _ => none

end Yaaos.Pipelines
