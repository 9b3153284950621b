import Yaaos.Base.Machine
import Yaaos.Pipelines.Service

set_option autoImplicit false

namespace Yaaos.Pipelines

open Yaaos.Base

def whileRunning (db : Db) (runId : Uuid) (body : Session → Except EngineError Session) : Except EngineError Db :=
  match db.runs.find? runId with
  | none => .ok db
  | some run => if run.state ≠ .running then .ok db else (body { db := db, run := run }).map Session.commit

def handleMessage (env : Env) (db : Db) : Message → Except EngineError Db
  | .routeRun args => whileRunning db args.runId fun session => routeRunImpl env session args
  | .startStage runId stageIndex => whileRunning db runId fun session => startStageImpl env session stageIndex
  | .handleAgentEvent args => whileRunning db args.runId fun session => handleAgentEventImpl env session args
  | .runTerminalHook _ _ _ => .ok db

-- The gateway's terminal event: it releases the claim the command holds, retires
-- the command, creates the workspaces row of a successful provision and hands
-- the outcome to the engine.
structure TerminalEvent where
  commandId : Uuid
  succeeded : Bool
  outcomeLabel : String
  outputs : Dict Json
  agentId : Uuid
  expiresAt : Nat

def releaseClaim (db : Db) (commandId : Uuid) : Db :=
  { db with
    workspaces := db.workspaces.update (fun row => row.currentCommandId == some commandId)
      (fun row => { row with currentCommandId := none }) fun _ => rfl }

def retireCommand (db : Db) (commandId : Uuid) : Db :=
  { db with
    agentCommands := db.agentCommands.map fun row => if row.id = commandId then { row with done := true } else row }

def materialiseWorkspace (db : Db) (command : AgentCommand) (event : TerminalEvent) : Db :=
  let row : Workspace :=
    { id := command.workspaceId, orgId := command.orgId, status := .active, currentCommandId := none,
      owningAgentId := some event.agentId, expiresAt := event.expiresAt }
  { db with workspaces := (db.workspaces.insert? row).getD db.workspaces }

def recordTerminalEvent (db : Db) (event : TerminalEvent) : Except EngineError Db :=
  match db.agentCommands.find? fun row => row.id == event.commandId with
  | none => .error (.unknownCommand event.commandId)
  | some command =>
      let retired := retireCommand (releaseClaim db event.commandId) event.commandId
      let db :=
        if command.body.isProvision && event.succeeded then materialiseWorkspace retired command event else retired
      .ok (db.enqueue (.handleAgentEvent
        { runId := command.context.runId, agentCommandId := event.commandId, outcomeLabel := event.outcomeLabel,
          outputs := event.outputs }))

inductive Label where
  | startRun (env : Env) (orgId ticketId pipelineId : Uuid) (kickoff : Kickoff) (triggeredByUserId : Option Uuid)
  | startRerun (env : Env) (orgId runId : Uuid) (actor : Actor) (triggeredByUserId : Option Uuid)
  | startRerunFromStage (env : Env) (orgId ticketId : Uuid) (fromStage instruction : String) (actor : Actor)
      (triggeredByUserId : Option Uuid)
  | requestCancel (env : Env) (orgId runId : Uuid)
  | resolvePause (env : Env) (orgId pauseId : Uuid) (resolution : PauseResolution) (actor : Actor)
  | deliver (env : Env) (position : Nat)
  | terminalEvent (event : TerminalEvent)
  | workspaceStatus (workspaceId : Uuid) (status : WorkspaceStatus)
  | createTicket (ticket : Ticket)
  | bindPullRequest (ticketId prId : Uuid)
  | dismissFinding (findingId : Uuid) (event : FindingStatusEvent)

def deliver (env : Env) (db : Db) (position : Nat) : Except EngineError Db :=
  match db.outbox[position]? with
  | none => .error .unknownMessage
  | some message => handleMessage env { db with outbox := db.outbox.eraseIdx position } message

def engineStep (db : Db) : Label → Except EngineError Db
  | .startRun env orgId ticketId pipelineId kickoff triggeredByUserId =>
      startRun env db orgId ticketId pipelineId kickoff triggeredByUserId
  | .startRerun env orgId runId actor triggeredByUserId => startRerun env db orgId runId actor triggeredByUserId
  | .startRerunFromStage env orgId ticketId fromStage instruction actor triggeredByUserId =>
      startRerunFromStage env db orgId ticketId fromStage instruction actor triggeredByUserId
  | .requestCancel env orgId runId => requestCancel env db orgId runId
  | .resolvePause env orgId pauseId resolution actor => resolvePause env db orgId pauseId resolution actor
  | .deliver env position => deliver env db position
  | .terminalEvent event => recordTerminalEvent db event
  | .workspaceStatus workspaceId status =>
      .ok (db.updateWorkspace workspaceId (fun row => { row with status := status }) fun _ => rfl)
  | .createTicket ticket => .ok { db with tickets := (db.tickets.insert? ticket).getD db.tickets }
  | .bindPullRequest ticketId prId =>
      .ok (db.updateTicket ticketId (fun _ => true) (fun row => { row with prId := some prId }) fun _ => rfl)
  | .dismissFinding findingId event => dismissFinding db findingId event

-- `start_run` is called for a ticket of the org it names.
def Label.Allowed (db : Db) : Label → Prop
  | .startRun _ orgId ticketId _ _ _ => ∃ ticket, db.tickets.find? ticketId = some ticket ∧ ticket.orgId = orgId
  | _ => True

structure Fresh (db : Db) : Prop where
  runs : db.runs.rows = []
  workspaces : db.workspaces.rows = []
  findings : db.findings.rows = []
  artifacts : db.artifacts = []
  agentCommands : db.agentCommands = []
  outbox : db.outbox = []

def runEngine : Machine Db Label EngineError where
  initial := Fresh
  allowed := Label.Allowed
  step := engineStep

end Yaaos.Pipelines
