import Mathlib.Order.Fin.Basic
import Yaaos.Base.Table
import Yaaos.Gateway.Codec

set_option autoImplicit false

namespace Yaaos.Gateway

open Yaaos.Base

inductive CommandStatus where
  | pending
  | claimed
  | delivered
  | done
  deriving DecidableEq, Repr

structure AgentCommandRow where
  id : WireUuid
  orgId : WireUuid
  workspaceId : Option WireUuid
  runId : Option WireUuid
  commandKind : AgentCommandKind
  payload : Dict Json
  status : CommandStatus
  agentId : Option WireUuid
  completionTokenHash : Option String
  claimedAt : Option Nat
  attempt : Nat

inductive AgentLifecycle where
  | unconfigured
  | active
  | draining
  | shutdown
  deriving DecidableEq, Repr

structure WorkspaceAgentRow where
  id : WireUuid
  orgId : WireUuid
  lifecycle : AgentLifecycle
  deriving DecidableEq

inductive WorkspaceStatus where
  | active
  | expired
  | destroying
  | destroyed
  | destroyFailed
  deriving DecidableEq, Repr

structure WorkspaceRow where
  id : WireUuid
  orgId : WireUuid
  owningAgentId : WireUuid
  providerId : String
  specSha : Json
  status : WorkspaceStatus
  currentCommandId : Option WireUuid
  maxIdleSeconds : Int
  activatedAt : Nat
  expiresAt : Int

inductive AgentRunStatus where
  | running
  | success
  | failure
  deriving DecidableEq, Repr

structure CodingAgentRunRow where
  id : WireUuid
  orgId : WireUuid
  agentCommandId : WireUuid
  pluginId : String
  status : AgentRunStatus
  tokensIn : Int
  tokensOut : Int
  durationMs : Option Int
  exitCode : Option Int
  startedAt : Nat
  completedAt : Option Nat
  deriving DecidableEq

structure CodingAgentActivityRow where
  runId : WireUuid
  orgId : WireUuid
  payload : Json

-- One enqueued task: the args of a terminal event, once for each consumer.
structure OutboxRow where
  consumer : String
  runId : WireUuid
  agentCommandId : WireUuid
  outcomeLabel : String
  outputs : Dict Json
  traceparent : Option String

structure GatewayDb where
  agentCommands : Table AgentCommandRow WireUuid AgentCommandRow.id
  workspaceAgents : Table WorkspaceAgentRow WireUuid WorkspaceAgentRow.id
  workspaces : Table WorkspaceRow WireUuid WorkspaceRow.id
  codingAgentRuns : Table CodingAgentRunRow WireUuid CodingAgentRunRow.id
  codingAgentActivity : List CodingAgentActivityRow
  outbox : List OutboxRow

inductive GatewayError where
  | integrity
  | staleClaim (commandId : WireUuid)
  | validation (error : ValidationError)
  | hydratorRaised
  | badPayload

-- Moments are whole microseconds, as a timestamptz keeps them.
def microseconds : Nat := 1000000

def leaseSeconds : Nat := 30

def maxAttempt : Nat := 5

def hydrationRetireCap : Nat := 5

def envelopeKeys : List String :=
  ["kind", "command_id", "workspace_id", "traceparent", "completion_token", "run_id"]

def GatewayDb.updateCommand (db : GatewayDb) (id : WireUuid) (change : AgentCommandRow → AgentCommandRow)
    (kept : ∀ row, (change row).id = row.id) : GatewayDb :=
  { db with agentCommands := db.agentCommands.update (fun row => decide (row.id = id)) change kept }

def envelope (commandId : WireUuid) (kind : AgentCommandKind) (workspaceId : Option WireUuid)
    (effectiveTp : String) (runId : Option WireUuid) : Dict Json :=
  [("kind", .str kind.value), ("command_id", uuidJson commandId), ("traceparent", .str effectiveTp),
   ("completion_token", .null), ("run_id", optionalUuid runId)] ++
    match workspaceId with
    | none => []
    | some id => [("workspace_id", uuidJson id)]

-- `dispatchTp` is the traceparent of the dispatch span, absent without a tracer.
-- The flush enforces the primary key, the uuid7 check and the jsonb encoding.
def enqueueCommandPayload (dispatchTp : Option String) (orgId commandId : WireUuid) (kind : AgentCommandKind)
    (workspaceId : Option WireUuid) (payloadFields : Dict Json) (traceparent : Option String)
    (runId : Option WireUuid) (db : GatewayDb) : Except GatewayError GatewayDb :=
  let effectiveTp := dispatchTp.getD (traceparent.getD "")
  let finalPayload := payloadFields.merge (envelope commandId kind workspaceId effectiveTp runId)
  let row : AgentCommandRow := {
    id := commandId, orgId := orgId, workspaceId := workspaceId, runId := runId, commandKind := kind
    payload := finalPayload, status := .pending, agentId := none, completionTokenHash := none, claimedAt := none
    attempt := 0 }
  if uuidv7Check commandId.val && (Json.obj finalPayload).storable then
    match db.agentCommands.insert? row with
    | none => .error .integrity
    | some agentCommands => .ok { db with agentCommands := agentCommands }
  else .error .integrity

def enqueueCommand (dispatchTp : Option String) (orgId : WireUuid) (command : AgentCommand)
    (runId : Option WireUuid) (db : GatewayDb) : Except GatewayError GatewayDb :=
  let workspaceId := command.workspaceId.filter fun id => decide (id ≠ 0)
  let kindFields := command.modelDump.without envelopeKeys
  enqueueCommandPayload dispatchTp orgId command.commandId command.kind workspaceId kindFields
    (some command.traceparent) runId db

def pinRow (agentId : WireUuid) (row : AgentCommandRow) : AgentCommandRow := { row with agentId := some agentId }

theorem pinRow_id (agentId : WireUuid) (row : AgentCommandRow) : (pinRow agentId row).id = row.id := rfl

def preStampRow (agentId : WireUuid) (placeholderHash : String) (row : AgentCommandRow) : AgentCommandRow :=
  { row with agentId := some agentId, completionTokenHash := some placeholderHash }

theorem preStampRow_id (agentId : WireUuid) (placeholderHash : String) (row : AgentCommandRow) :
    (preStampRow agentId placeholderHash row).id = row.id := rfl

def pinCommandToAgent (commandId agentId : WireUuid) (db : GatewayDb) : GatewayDb :=
  db.updateCommand commandId (pinRow agentId) (pinRow_id agentId)

def preStampCommand (commandId agentId : WireUuid) (placeholderHash : String) (db : GatewayDb) : GatewayDb :=
  db.updateCommand commandId (preStampRow agentId placeholderHash) (preStampRow_id agentId placeholderHash)

structure ClaimRequest where
  lifecycle : AgentLifecycle
  newWorkspaces : Nat
  workspaceIds : List WireUuid

inductive HydrationFailure where
  | credential (userMessage : String)
  | raised

abbrev CommandHydrator := Dict Json → WireUuid → Except HydrationFailure (Dict Json)

-- `token` draws the fresh completion tokens of one call in turn; `locked` are the
-- rows another transaction holds, which SKIP LOCKED passes over.
structure ClaimEnv where
  now : Nat
  token : Nat → String
  sha256 : String → String
  locked : WireUuid → Bool
  hydrators : AgentCommandKind → Option CommandHydrator
  consumers : List String

def agentScopedKinds : List AgentCommandKind := [.configUpdate, .shutdown, .cancelShutdown]

def configUpdateFor (agentId : WireUuid) (row : AgentCommandRow) : Bool :=
  decide (row.commandKind = .configUpdate) && decide (row.agentId = some agentId)

def agentScopedFor (agentId : WireUuid) (row : AgentCommandRow) : Bool :=
  agentScopedKinds.contains row.commandKind && decide (row.agentId = some agentId)

def unassignedProvision (row : AgentCommandRow) : Bool :=
  decide (row.commandKind = .provisionWorkspace) && decide (row.agentId = none)

def pinnedTo (agentId : WireUuid) (workspaceIds : List WireUuid) (row : AgentCommandRow) : Bool :=
  decide (row.agentId = some agentId) && row.workspaceId.any workspaceIds.contains

def oldestPending (locked : WireUuid → Bool) (rows : List AgentCommandRow) (selected : AgentCommandRow → Bool) :
    Option AgentCommandRow :=
  firstWhere rows (fun row => decide (row.status = .pending) && selected row && !locked row.id) AgentCommandRow.id

def selectEligibleRowNowait (locked : WireUuid → Bool) (agentId : WireUuid) (request : ClaimRequest)
    (rows : List AgentCommandRow) : Option AgentCommandRow :=
  if request.lifecycle = .unconfigured then oldestPending locked rows (configUpdateFor agentId)
  else
    (oldestPending locked rows (agentScopedFor agentId)).or
      ((if request.newWorkspaces > 0 then oldestPending locked rows unassignedProvision else none).or
        (if request.workspaceIds.isEmpty then none
          else oldestPending locked rows (pinnedTo agentId request.workspaceIds)))

def enqueueAgentEvent (consumers : List String) (runId agentCommandId : WireUuid) (outcomeLabel : String)
    (outputs : Dict Json) (traceparent : Option String) (db : GatewayDb) : GatewayDb :=
  { db with outbox := db.outbox ++ consumers.map fun consumer => {
      consumer := consumer, runId := runId, agentCommandId := agentCommandId, outcomeLabel := outcomeLabel,
      outputs := outputs, traceparent := traceparent } }

def stampClaim (env : ClaimEnv) (agentId : WireUuid) (raw : String) (row : AgentCommandRow) : AgentCommandRow :=
  { row with
    agentId := some agentId, status := .claimed, claimedAt := some env.now
    completionTokenHash := some (env.sha256 raw) }

theorem stampClaim_id (env : ClaimEnv) (agentId : WireUuid) (raw : String) (row : AgentCommandRow) :
    (stampClaim env agentId raw row).id = row.id := rfl

def revertClaim (row : AgentCommandRow) : AgentCommandRow :=
  { row with status := .pending, claimedAt := none }

variable (row : AgentCommandRow)

theorem revertClaim_id : (revertClaim row).id = row.id := rfl

def retireRow (row : AgentCommandRow) : AgentCommandRow := { row with status := .done }

theorem retireRow_id : (retireRow row).id = row.id := rfl

def reportHydrationFailure (consumers : List String) (row : AgentCommandRow) (userMessage : String) (db : GatewayDb) :
    GatewayDb :=
  match row.runId with
  | none => db
  | some runId => enqueueAgentEvent consumers runId row.id "failure" [("error_message", .str userMessage)] none db

def buildCommand (raw : String) (row : AgentCommandRow) (payload : Dict Json) :
    Except GatewayError AgentCommand :=
  match validatePython payload with
  | .error error => .error (.validation error)
  | .ok command => .ok (command.modelCopy command.traceparent (some raw) (row.runId.or command.runId))

def claimSelected (env : ClaimEnv) (agentId : WireUuid) (request : ClaimRequest) :
    Nat → GatewayDb → AgentCommandRow → Except GatewayError (GatewayDb × Option (AgentCommandRow × AgentCommand))
  | remaining, db, row =>
    let raw := env.token (hydrationRetireCap - remaining)
    let stamped := db.updateCommand row.id (stampClaim env agentId raw) (stampClaim_id env agentId raw)
    match env.hydrators row.commandKind with
    | none => (buildCommand raw row row.payload).map fun command => (stamped, some (row, command))
    | some hydrator =>
      match hydrator row.payload row.orgId with
      | .ok hydratedPayload => (buildCommand raw row hydratedPayload).map fun command => (stamped, some (row, command))
      | .error .raised => .error .hydratorRaised
      | .error (.credential userMessage) =>
        if runBearingKinds.contains row.commandKind then
          match remaining with
          | 0 => .ok (stamped.updateCommand row.id revertClaim revertClaim_id, none)
          | remaining + 1 =>
            let retired := stamped.updateCommand row.id retireRow retireRow_id
            let reported := reportHydrationFailure env.consumers row userMessage retired
            match selectEligibleRowNowait env.locked agentId request reported.agentCommands.rows with
            | none => .ok (reported, none)
            | some next => claimSelected env agentId request remaining reported next
        else .ok (stamped.updateCommand row.id revertClaim revertClaim_id, none)

def claimRow (env : ClaimEnv) (agentId : WireUuid) (request : ClaimRequest) (db : GatewayDb) :
    Except GatewayError (GatewayDb × Option (AgentCommandRow × AgentCommand)) :=
  match selectEligibleRowNowait env.locked agentId request db.agentCommands.rows with
  | none => .ok (db, none)
  | some row => claimSelected env agentId request hydrationRetireCap db row

def claimNext (env : ClaimEnv) (agentId : WireUuid) (request : ClaimRequest) (db : GatewayDb) :
    Except GatewayError (GatewayDb × Option AgentCommand) :=
  (claimRow env agentId request db).map fun claimed => (claimed.1, claimed.2.map Prod.snd)

def acknowledgeReceived (row : AgentCommandRow) : AgentCommandRow :=
  { row with status := if row.status = .claimed then .delivered else row.status }

theorem acknowledgeReceived_id : (acknowledgeReceived row).id = row.id := rfl

def acknowledgeCommandReceived (commandId : WireUuid) (db : GatewayDb) : GatewayDb :=
  db.updateCommand commandId acknowledgeReceived acknowledgeReceived_id

def retireCommand (commandId : WireUuid) (db : GatewayDb) : GatewayDb :=
  db.updateCommand commandId retireRow retireRow_id

def staleClaimed (now : Nat) (locked : WireUuid → Bool) (row : AgentCommandRow) : Bool :=
  decide (row.status = .claimed) && row.claimedAt.any (fun claimedAt => decide (claimedAt + leaseSeconds * microseconds < now)) &&
    !locked row.id

def expireLease (row : AgentCommandRow) : AgentCommandRow :=
  if row.attempt ≥ maxAttempt - 1 then { row with status := .done, attempt := maxAttempt }
  else { row with status := .pending, agentId := none, claimedAt := none, attempt := row.attempt + 1 }

theorem expireLease_id : (expireLease row).id = row.id := by
  unfold expireLease
  split <;> rfl

def requeueStaleClaimed (now : Nat) (locked : WireUuid → Bool) (db : GatewayDb) : GatewayDb :=
  { db with agentCommands := db.agentCommands.update (staleClaimed now locked) expireLease expireLease_id }

end Yaaos.Gateway
