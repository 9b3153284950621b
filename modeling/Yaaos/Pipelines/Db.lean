import Yaaos.Base.Outcome
import Yaaos.Pipelines.Types

set_option autoImplicit false

namespace Yaaos.Pipelines

open Yaaos.Base

inductive EngineError where
  | assertionError (text : String)
  | indexError
  | typeError (text : String)
  | dataError (column : String)
  | validationError (text : String)
  | ticketNotFound (ticketId : Uuid)
  | pullRequestNotFound (prId : Uuid)
  | workspaceNotFound (workspaceId : Uuid)
  | workspaceClaimFailed (workspaceId : Uuid)
  | noWorkspaceProvider
  | vcsInstallNotFound (orgId : Uuid)
  | unknownPlugin (pluginId : String)
  | codingAgentError (pluginId : String)
  | actionRaised (actionId : String)
  | artifactNotFound (artifactId : Uuid)
  | findingNotFound (findingId : Uuid)
  | invalidFindingTransition (findingId : Uuid) (status : FindingStatus)
  | pipelineNotFound
  | runNotFound (runId : Uuid)
  | runAlreadyTerminal (runId : Uuid)
  | runNotRerunnable (runId : Uuid) (state : RunState)
  | stageNotInDefinition (stageName : String)
  | missingInheritedArtifact (stageName : String)
  | pauseNotFound (pauseId : Uuid)
  | pauseAlreadyResolved (pauseId : Uuid)
  | notEscalationTarget (pauseId : Uuid)
  | invalidPauseResolution (text : String)
  | unknownMessage
  | unknownCommand (commandId : Uuid)

structure ActionContext where
  orgId : Uuid
  ticketId : Uuid
  runId : Uuid
  repoExternalId : String
  vcsPluginId : String
  prExternalId : Option String
  branchName : String
  intakePointId : String
  kickoffInput : Option String
  precedingResiduals : List Finding
  precedingVerdicts : List PriorFindingVerdict
  precedingArtifactId : Option Uuid

inductive ActionOutcome where
  | returned (result : Json)
  | actionError (text : String)
  | raised

inductive BuildOutcome where
  | built
  | credentialUnavailable (userMessage : String)
  | raised

structure ProtectedMatch where
  matched : Bool
  ownerUserIds : List Uuid

structure Pipeline where
  name : String
  flattened : FlattenedDefinition

-- What one transaction reads from outside the engine's own tables: the clock,
-- the validation of a skill's output text, the registered plugins, actions and
-- hooks, and the services of the other modules.
structure Env where
  now : Nat
  skillReturnOf : String → Except String SkillReturn
  reviewReturnOf : String → Except String SkillReviewReturn
  pipelines : Uuid → Uuid → Option Pipeline
  pullRequest : Uuid → Option String
  evaluateProtected : Uuid → String → List String → ProtectedMatch
  oauthIdentity : String → Option Uuid
  orgAdmins : Uuid → List Uuid
  coversAdmin : Uuid → Uuid → Bool
  commentFindingIds : Uuid → List Uuid
  runAction : String → ActionContext → ActionOutcome
  pluginRegistered : String → Bool
  buildCommand : String → Invocation → DispatchContext → BuildOutcome
  providerRegistered : Bool
  installCredentials : String → Uuid → String → Option (String × String)
  installationToken : String → Uuid → Option String
  terminalHooks : List String

-- Every uuid7 minted by the engine or by the database is above all earlier ones.
structure Db where
  nextId : Uuid
  runs : Table PipelineRun Uuid PipelineRun.id
  tickets : Table Ticket Uuid Ticket.id
  workspaces : Table Workspace Uuid Workspace.id
  findings : Table Finding Uuid Finding.id
  artifacts : List Artifact
  agentCommands : List AgentCommand
  codingAgentRuns : List CodingAgentRun
  outbox : List Message

def Db.enqueue (db : Db) (message : Message) : Db := { db with outbox := db.outbox ++ [message] }

def Db.messagesFor (db : Db) (runId : Uuid) : List Message :=
  db.outbox.filter fun message => message.drives? == some runId

def Db.saveRun (db : Db) (run : PipelineRun) : Db :=
  { db with
    runs := db.runs.update (fun row => row.id == run.id) (fun row => if row.id = run.id then run else row)
      (by intro row; by_cases same : row.id = run.id <;> simp [same]) }

def Db.updateTicket (db : Db) (ticketId : Uuid) (selected : Ticket → Bool) (change : Ticket → Ticket)
    (kept : ∀ row, (change row).id = row.id) : Db :=
  { db with tickets := db.tickets.update (fun row => row.id == ticketId && selected row) change kept }

def Db.updateWorkspace (db : Db) (workspaceId : Uuid) (change : Workspace → Workspace)
    (kept : ∀ row, (change row).id = row.id) : Db :=
  { db with workspaces := db.workspaces.update (fun row => row.id == workspaceId) change kept }

-- The run in hand of a transaction, ahead of its row until the flush.
structure Session where
  db : Db
  run : PipelineRun

namespace Session

def flush (session : Session) : Session := { session with db := session.db.saveRun session.run }

def mint (session : Session) : Session :=
  { session with db := { session.db with nextId := session.db.nextId + 1 } }

def enqueue (session : Session) (message : Message) : Session :=
  { session with db := session.db.enqueue message }

def addExecution (session : Session) (row : StageExecution) : Session :=
  { db := { session.db with nextId := session.db.nextId + 1 }
    run := { session.run with stageExecutions := row :: session.run.stageExecutions } }

def addPause (session : Session) (pause : RunPause) : Session :=
  { db := { session.db with nextId := session.db.nextId + 1 }
    run := { session.run with pauses := pause :: session.run.pauses } }

def put (session : Session) (row : StageExecution) : Session :=
  { session with
    run :=
      { session.run with
        stageExecutions := session.run.stageExecutions.map fun other => if other.id = row.id then row else other } }

def putPause (session : Session) (pause : RunPause) : Session :=
  { session with
    run :=
      { session.run with
        pauses := session.run.pauses.map fun other => if other.id = pause.id then pause else other } }

end Session

def stageAt (flattened : FlattenedDefinition) : Option Nat → Except EngineError ExecutableStage
  | none => .error (.typeError "tuple indices must be integers or slices, not NoneType")
  | some index =>
      match flattened.stages[index]? with
      | none => .error .indexError
      | some stage => .ok stage

end Yaaos.Pipelines
