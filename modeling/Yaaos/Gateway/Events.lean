import Yaaos.Gateway.Queue

set_option autoImplicit false

namespace Yaaos.Gateway

open Yaaos.Base

inductive AgentEventKind where
  | progress
  | received
  | completedSuccess
  | completedFailure
  | completedSkipped
  deriving DecidableEq, Repr

structure AgentEvent where
  commandId : WireUuid
  kind : AgentEventKind
  outcomeLabel : Option String
  outputs : Dict Json
  failureReason : Option String
  traceparent : String
  completionToken : Option String
  artifact : Option String
  artifactError : Option String

def AgentEvent.isTerminal (event : AgentEvent) : Bool :=
  match event.kind with
  | .completedSuccess | .completedFailure | .completedSkipped => true
  | .progress | .received => false

structure RunResult where
  output : String
  errorMessage : Option String
  tokensIn : Option Int
  tokensOut : Option Int
  durationMs : Option Int
  exitCode : Option Int
  activity : Json

structure EventEnv where
  now : Nat
  sha256 : String → String
  consumers : List String
  plugins : String → Option (Dict Json → RunResult)
  providerId : String
  agentId : Option WireUuid

def defaultTtlSeconds : Int := 600

def markAgentConfigured (agentId : WireUuid) (db : GatewayDb) : GatewayDb :=
  let waiting := fun agent : WorkspaceAgentRow =>
    decide (agent.id = agentId) && decide (agent.lifecycle = .unconfigured)
  let workspaceAgents := db.workspaceAgents.update waiting (fun agent => { agent with lifecycle := .active }) fun _ => rfl
  { db with workspaceAgents := workspaceAgents }

def releaseCommandClaim (commandId : WireUuid) (db : GatewayDb) : GatewayDb :=
  let held := fun workspace : WorkspaceRow => decide (workspace.currentCommandId = some commandId)
  let workspaces := db.workspaces.update held (fun workspace => { workspace with currentCommandId := none }) fun _ => rfl
  { db with workspaces := workspaces }

def finalizedRun (now : Nat) (status : AgentRunStatus) (result : RunResult) (row : CodingAgentRunRow) :
    CodingAgentRunRow :=
  { row with
    status := status, exitCode := result.exitCode, tokensIn := result.tokensIn.getD 0
    tokensOut := result.tokensOut.getD 0
    durationMs := result.durationMs.or (some (((now - row.startedAt) / 1000 : Nat) : Int))
    completedAt := some now }

def finalizeRun (now : Nat) (run : CodingAgentRunRow) (status : AgentRunStatus) (result : RunResult)
    (db : GatewayDb) : GatewayDb :=
  let own := fun row : CodingAgentRunRow => decide (row.id = run.id)
  let activity : CodingAgentActivityRow := { runId := run.id, orgId := run.orgId, payload := result.activity }
  { db with
    codingAgentRuns := db.codingAgentRuns.update own (finalizedRun now status result) fun _ => rfl
    codingAgentActivity := db.codingAgentActivity ++ [activity] }

def handleTerminalEvent (env : EventEnv) (row : AgentCommandRow) (event : AgentEvent) (db : GatewayDb) :
    GatewayDb × Option (Dict Json) :=
  if runBearingKinds.contains row.commandKind then
    match db.codingAgentRuns.rows.find? fun run => decide (run.agentCommandId = event.commandId) with
    | none => (db, none)
    | some run =>
      match env.plugins run.pluginId with
      | none => (db, none)
      | some parseResult =>
        let status := if event.kind = .completedSuccess then AgentRunStatus.success else .failure
        let result := parseResult event.outputs
        (finalizeRun env.now run status result db,
          some [("output", .str result.output), ("error_message", optionalText result.errorMessage)])
  else (db, none)

def assembleOutputs (event : AgentEvent) (extras : Option (Dict Json)) : Dict Json :=
  let merged := match extras with
    | none => event.outputs
    | some enrichment => event.outputs.merge enrichment
  let failed := match event.failureReason with
    | none => merged
    | some reason =>
      if reason ≠ "" ∧ !((merged.lookup "error_message").any Json.truthy) then
        merged.set "error_message" (.str reason)
      else merged
  let withArtifact := match event.artifact with
    | none => failed
    | some body => failed.set "artifact" (.obj [("body", .str body)])
  let withArtifactError := match event.artifactError with
    | none => withArtifact
    | some reason => withArtifact.set "artifact_error" (.str reason)
  withArtifactError.without ["stdout"]

def payloadSeconds (payload : Dict Json) (key : String) : Int :=
  match payload.lookup key with
  | some (.num seconds _) => if seconds = 0 then defaultTtlSeconds else seconds
  | _ => defaultTtlSeconds

def repoHeadSha (payload : Dict Json) : Json :=
  match payload.lookup "repo" with
  | some (.obj repo) => (repo.lookup "head_sha").getD .null
  | _ => .null

def leanWorkspaceRow (env : EventEnv) (workspaceId orgId agentId : WireUuid) (payload : Dict Json) : WorkspaceRow :=
  { id := workspaceId, orgId := orgId, owningAgentId := agentId, providerId := env.providerId
    specSha := repoHeadSha payload, status := .active, currentCommandId := none
    maxIdleSeconds := payloadSeconds payload "max_idle_seconds", activatedAt := env.now
    expiresAt := (env.now : Int) + payloadSeconds payload "ttl_seconds" * microseconds }

def materialiseProvisionSuccess (env : EventEnv) (agentId : WireUuid) (row : AgentCommandRow) (db : GatewayDb) :
    Except GatewayError GatewayDb :=
  match row.payload.lookup "workspace_id" with
  | none | some .null => .ok db
  | some raw =>
    match readUuid raw with
    | none => .error .badPayload
    | some workspaceId =>
      match db.workspaces.insert? (leanWorkspaceRow env workspaceId row.orgId agentId row.payload) with
      | none => .ok db
      | some workspaces => .ok { db with workspaces := workspaces }

def AgentEvent.label (event : AgentEvent) : String :=
  match event.outcomeLabel with
  | some label => if label ≠ "" then label else if event.kind = .completedFailure then "failure" else "success"
  | none => if event.kind = .completedFailure then "failure" else "success"

def tokenAccepted (env : EventEnv) (row : AgentCommandRow) (event : AgentEvent) : Bool :=
  match row.completionTokenHash with
  | none => true
  | some stored => decide (env.sha256 (event.completionToken.getD "") = stored)

def configureAgent (row : AgentCommandRow) (event : AgentEvent) (db : GatewayDb) : GatewayDb :=
  match row.agentId with
  | none => db
  | some agentId =>
    if event.kind = .completedSuccess ∧ row.commandKind = .configUpdate then markAgentConfigured agentId db else db

def materialise (env : EventEnv) (row : AgentCommandRow) (event : AgentEvent) (db : GatewayDb) :
    Except GatewayError GatewayDb :=
  match env.agentId with
  | none => .ok db
  | some agentId =>
    if row.commandKind = .provisionWorkspace ∧ row.workspaceId.isSome ∧ event.kind = .completedSuccess then
      materialiseProvisionSuccess env agentId row db
    else .ok db

def recordTerminalEvent (env : EventEnv) (row : AgentCommandRow) (event : AgentEvent) (db : GatewayDb) :
    Except GatewayError GatewayDb := do
  let configured := configureAgent row event db
  let released := releaseCommandClaim event.commandId configured
  let retired := retireCommand event.commandId released
  let (finalized, extras) := handleTerminalEvent env row event retired
  let outputs := assembleOutputs event extras
  let materialised ← materialise env row event finalized
  match row.runId with
  | none => .ok materialised
  | some runId =>
    .ok (enqueueAgentEvent env.consumers runId event.commandId event.label outputs (some event.traceparent) materialised)

-- A progress event only publishes to the live activity channel, and a failure of
-- that sink is swallowed.
def recordAgentEvent (env : EventEnv) (event : AgentEvent) (db : GatewayDb) : Except GatewayError GatewayDb :=
  match db.agentCommands.find? event.commandId with
  | none => .error (.staleClaim event.commandId)
  | some row =>
    if tokenAccepted env row event then
      if event.kind = .received then .ok (acknowledgeCommandReceived event.commandId db)
      else if event.isTerminal then recordTerminalEvent env row event db
      else .ok db
    else .error (.staleClaim event.commandId)

variable (env : EventEnv) (row : AgentCommandRow) (event : AgentEvent)

theorem configureAgent_commands (db : GatewayDb) :
    (configureAgent row event db).agentCommands = db.agentCommands := by
  unfold configureAgent
  split
  · rfl
  · split <;> rfl

theorem handleTerminalEvent_commands (db : GatewayDb) :
    (handleTerminalEvent env row event db).1.agentCommands = db.agentCommands := by
  unfold handleTerminalEvent
  split
  · split
    · rfl
    · split <;> rfl
  · rfl

theorem materialise_commands (db after : GatewayDb)
    (returned : materialise env row event db = .ok after) : after.agentCommands = db.agentCommands := by
  unfold materialise materialiseProvisionSuccess at returned
  split at returned
  · cases returned
    rfl
  · split at returned
    · split at returned
      · cases returned
        rfl
      · cases returned
        rfl
      · split at returned
        · cases returned
        · split at returned <;> cases returned <;> rfl
    · cases returned
      rfl

theorem recordTerminalEvent_commands
    (db after : GatewayDb) (returned : recordTerminalEvent env row event db = .ok after) :
    after.agentCommands = (retireCommand event.commandId db).agentCommands := by
  have retired : (retireCommand event.commandId (releaseCommandClaim event.commandId
      (configureAgent row event db))).agentCommands = (retireCommand event.commandId db).agentCommands := by
    simp only [retireCommand, GatewayDb.updateCommand, releaseCommandClaim, configureAgent_commands]
  unfold recordTerminalEvent at returned
  simp only [bind, Except.bind] at returned
  split at returned
  · cases returned
  · rename_i materialised written
    have kept := materialise_commands env row event _ materialised written
    rw [handleTerminalEvent_commands, retired] at kept
    split at returned
    · cases returned
      exact kept
    · cases returned
      exact kept

def eventRow (event : AgentEvent) (row : AgentCommandRow) : AgentCommandRow :=
  if event.kind = .received then acknowledgeReceived row else if event.isTerminal then retireRow row else row

theorem eventRow_id (row : AgentCommandRow) : (eventRow event row).id = row.id := by
  unfold eventRow
  split
  · rfl
  · split <;> rfl

structure EventSpec (env : EventEnv) (event : AgentEvent) (before after : GatewayDb) : Prop where
  accepted : ∃ row, before.agentCommands.find? event.commandId = some row ∧ tokenAccepted env row event = true
  commands : after.agentCommands =
    (before.updateCommand event.commandId (eventRow event) (eventRow_id event)).agentCommands

theorem updateCommand_congr (db : GatewayDb) (id : WireUuid) (change other : AgentCommandRow → AgentCommandRow)
    (kept : ∀ row, (change row).id = row.id) (otherKept : ∀ row, (other row).id = row.id)
    (same : ∀ row, change row = other row) : db.updateCommand id change kept = db.updateCommand id other otherKept := by
  have equal : change = other := funext same
  subst equal
  rfl

theorem recordAgentEvent_spec (before after : GatewayDb)
    (returned : recordAgentEvent env event before = .ok after) : EventSpec env event before after := by
  unfold recordAgentEvent at returned
  split at returned
  · cases returned
  · rename_i row found
    split at returned
    · rename_i accepted
      refine ⟨⟨row, found, accepted⟩, ?_⟩
      split at returned
      · rename_i received
        cases returned
        rw [acknowledgeCommandReceived, updateCommand_congr _ _ _ (eventRow event) _ (eventRow_id event)]
        intro other
        rw [eventRow, if_pos received]
      · rename_i unreceived
        split at returned
        · rename_i terminal
          rw [recordTerminalEvent_commands env row event before after returned, retireCommand,
            updateCommand_congr _ _ _ (eventRow event) _ (eventRow_id event)]
          intro other
          rw [eventRow, if_neg unreceived, if_pos terminal]
        · rename_i progress
          cases returned
          apply Table.ext_rows
          simp [GatewayDb.updateCommand, Table.update, eventRow, unreceived, progress]
    · cases returned

end Yaaos.Gateway
