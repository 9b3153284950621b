import Yaaos.Pipelines.Stores

set_option autoImplicit false

namespace Yaaos.Pipelines

open Yaaos.Base

def workspaceIsLive (db : Db) (workspaceId : Option Uuid) : Bool :=
  match workspaceId.bind db.workspaces.find? with
  | none => false
  | some row => row.status == .active

def extendExpiry (db : Db) (workspaceId : Uuid) (expiresAt : Nat) : Db :=
  db.updateWorkspace workspaceId (fun row => { row with expiresAt := expiresAt }) fun _ => rfl

def enqueueCommand (db : Db) (command : AgentCommand) : Db :=
  { db with agentCommands := db.agentCommands ++ [command] }

def Workspace.claimable (row : Workspace) : Bool := row.currentCommandId == none && row.status == .active

def claim (db : Db) (workspaceId commandId : Uuid) : Db :=
  db.updateWorkspace workspaceId (fun row => { row with currentCommandId := some commandId }) fun _ => rfl

def dispatchViaWorkspace (db : Db) (commandId workspaceId : Uuid) (context : DispatchContext) (body : CommandBody)
    (claimWorkspace : Bool) : Except EngineError Db :=
  match db.workspaces.find? workspaceId with
  | none => .error (.workspaceNotFound workspaceId)
  | some row =>
      let queued := enqueueCommand db
        { id := commandId, orgId := row.orgId, workspaceId := workspaceId, context := context,
          pinnedAgentId := row.owningAgentId, body := body, done := false }
      if claimWorkspace then
        if row.claimable then .ok (claim queued workspaceId commandId) else .error (.workspaceClaimFailed workspaceId)
      else .ok queued

-- The checkout instruction of a `ProvisionWorkspaceSpec`.
structure Checkout where
  headSha : Option String
  branchName : Option String
  baseSha : Option String

-- `dispatch_provision` mints the command id; the workspaces row comes with the
-- agent's success event.
def dispatchProvision (env : Env) (session : Session) (workspaceId : Uuid) (pluginId repoExternalId : String)
    (spec : Checkout) (context : DispatchContext) : Except EngineError Session :=
  if env.providerRegistered then
    match env.installCredentials pluginId session.run.orgId repoExternalId with
    | none => .error (.vcsInstallNotFound session.run.orgId)
    | some (cloneUrl, token) =>
        let repo : RepoRef :=
          { pluginId := pluginId, externalId := repoExternalId, cloneUrl := cloneUrl, headSha := spec.headSha,
            baseSha := spec.baseSha, branchName := spec.branchName }
        if repo.checkCheckoutMode then
          let command : AgentCommand :=
            { id := session.db.nextId, orgId := session.run.orgId, workspaceId := workspaceId, context := context,
              pinnedAgentId := none, body := .provisionWorkspace repo token, done := false }
          .ok { session.mint with db := enqueueCommand session.mint.db command }
        else .error (.validationError "RepoRef requires exactly one of head_sha or branch_name (checkout instruction)")
  else .error .noWorkspaceProvider

def dispatchCleanup (session : Session) (workspaceId : Uuid) (context : DispatchContext) : Except EngineError Session := do
  let commandId := session.db.nextId
  let session := session.mint
  let db ← dispatchViaWorkspace session.db commandId workspaceId context .cleanupWorkspace false
  .ok { session with db := db }

def dispatchAuthRefresh (env : Env) (session : Session) (workspaceId : Uuid) (context : DispatchContext)
    (pluginId : String) : Except EngineError Session :=
  match env.installationToken pluginId session.run.orgId with
  | none => .error (.vcsInstallNotFound session.run.orgId)
  | some newToken => do
      let commandId := session.db.nextId
      let session := session.mint
      let db ← dispatchViaWorkspace session.db commandId workspaceId context (.refreshWorkspaceAuth newToken) false
      .ok { session with db := db }

inductive Dispatched where
  | parked (session : Session)
  | credentialUnavailable (userMessage : String)

def dispatchInvocation (env : Env) (session : Session) (pluginId : String) (invocation : Invocation)
    (context : DispatchContext) (commandId : Uuid) : Except EngineError Dispatched :=
  match session.db.workspaces.find? invocation.workspaceId with
  | none => .error (.workspaceNotFound invocation.workspaceId)
  | some owner =>
      match env.buildCommand pluginId invocation context with
      | .raised => .error (.codingAgentError pluginId)
      | .credentialUnavailable userMessage => .ok (.credentialUnavailable userMessage)
      | .built => do
          let db ← dispatchViaWorkspace session.db commandId invocation.workspaceId context
            (.invokeCodingAgent pluginId invocation) true
          let row : CodingAgentRun :=
            { orgId := owner.orgId, runId := context.runId, stageExecutionId := context.stageExecutionId,
              agentCommandId := commandId, pluginId := pluginId }
          .ok (.parked { session with db := { db with codingAgentRuns := db.codingAgentRuns ++ [row] } })

end Yaaos.Pipelines
