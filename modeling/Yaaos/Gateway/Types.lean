import Yaaos.Base.Json

set_option autoImplicit false

namespace Yaaos.Gateway

open Yaaos.Base

inductive AgentCommandKind where
  | provisionWorkspace
  | writeFiles
  | refreshWorkspaceAuth
  | invokeClaudeCode
  | invokeCodex
  | cleanupWorkspace
  | pushBranch
  | configUpdate
  | shutdown
  | cancelShutdown
  deriving DecidableEq, Repr

def AgentCommandKind.value : AgentCommandKind → String
  | .provisionWorkspace => "ProvisionWorkspace"
  | .writeFiles => "WriteFiles"
  | .refreshWorkspaceAuth => "RefreshWorkspaceAuth"
  | .invokeClaudeCode => "InvokeClaudeCode"
  | .invokeCodex => "InvokeCodex"
  | .cleanupWorkspace => "CleanupWorkspace"
  | .pushBranch => "PushBranch"
  | .configUpdate => "ConfigUpdate"
  | .shutdown => "Shutdown"
  | .cancelShutdown => "CancelShutdown"

def runBearingKinds : List AgentCommandKind := [.invokeClaudeCode, .invokeCodex]

-- A parsed UUID has 128 bits; the rows that store one use it as a number.
abbrev WireUuid := Fin (2 ^ 128)

instance wireUuid_inhabited : NeZero (2 ^ 128) := ⟨by decide⟩

abbrev AtLeast (bound : Int) := { value : Int // bound ≤ value }

def givenText : Option String → Bool
  | none => false
  | some text => decide (text ≠ "")

structure CommandBase where
  commandId : WireUuid
  workspaceId : WireUuid
  traceparent : String
  completionToken : Option String
  runId : Option WireUuid

structure AgentScopedBase where
  commandId : WireUuid
  traceparent : String
  completionToken : Option String
  runId : Option WireUuid

structure RepoRef where
  pluginId : String
  externalId : String
  cloneUrl : String
  headSha : Option String
  baseSha : Option String
  branchName : Option String
  checkoutMode : givenText headSha ≠ givenText branchName

inductive AuthKind where
  | githubInstallation
  | oauth
  deriving DecidableEq, Repr

def AuthKind.value : AuthKind → String
  | .githubInstallation => "github_installation"
  | .oauth => "oauth"

structure AuthBlock where
  kind : AuthKind
  token : String

structure ProvisionWorkspaceFields where
  repo : RepoRef
  history : AtLeast 1
  auth : AuthBlock
  ttlSeconds : AtLeast 60
  maxIdleSeconds : AtLeast 60
  gitUserName : String
  gitUserEmail : String

structure WriteFilesEntry where
  path : String
  content : String
  mode : Option String

structure InvokeClaudeCodeFields where
  invocation : Dict Json
  mcpServers : List (Dict Json)
  wallclockSeconds : AtLeast 1
  resultSpec : Dict Json
  skillPath : String

structure InvokeCodexFields where
  invocation : Dict Json
  wallclockSeconds : AtLeast 1
  resultSpec : Dict Json
  skillPath : String
  outputSchemaJson : Option String

structure AgentConfig where
  maxWorkspaces : AtLeast 1
  otlpEndpoint : Option String
  otlpToken : Option String
  otlpDataset : Option String
  environment : Option String
  apiKeys : Dict String

inductive AgentCommand where
  | provisionWorkspace (base : CommandBase) (fields : ProvisionWorkspaceFields)
  | writeFiles (base : CommandBase) (files : List WriteFilesEntry)
  | refreshWorkspaceAuth (base : CommandBase) (newToken : String)
  | invokeClaudeCode (base : CommandBase) (fields : InvokeClaudeCodeFields)
  | invokeCodex (base : CommandBase) (fields : InvokeCodexFields)
  | cleanupWorkspace (base : CommandBase)
  | pushBranch (base : CommandBase)
  | configUpdate (base : AgentScopedBase) (config : AgentConfig)
  | shutdown (base : AgentScopedBase)
  | cancelShutdown (base : AgentScopedBase)

namespace AgentCommand

def kind : AgentCommand → AgentCommandKind
  | .provisionWorkspace _ _ => .provisionWorkspace
  | .writeFiles _ _ => .writeFiles
  | .refreshWorkspaceAuth _ _ => .refreshWorkspaceAuth
  | .invokeClaudeCode _ _ => .invokeClaudeCode
  | .invokeCodex _ _ => .invokeCodex
  | .cleanupWorkspace _ => .cleanupWorkspace
  | .pushBranch _ => .pushBranch
  | .configUpdate _ _ => .configUpdate
  | .shutdown _ => .shutdown
  | .cancelShutdown _ => .cancelShutdown

def envelope : AgentCommand → AgentScopedBase × Option WireUuid
  | .provisionWorkspace base _ | .writeFiles base _ | .refreshWorkspaceAuth base _
  | .invokeClaudeCode base _ | .invokeCodex base _ | .cleanupWorkspace base | .pushBranch base =>
      ({ commandId := base.commandId, traceparent := base.traceparent, completionToken := base.completionToken,
         runId := base.runId }, some base.workspaceId)
  | .configUpdate base _ | .shutdown base | .cancelShutdown base => (base, none)

def commandId (command : AgentCommand) : WireUuid := command.envelope.1.commandId

def traceparent (command : AgentCommand) : String := command.envelope.1.traceparent

def completionToken (command : AgentCommand) : Option String := command.envelope.1.completionToken

def runId (command : AgentCommand) : Option WireUuid := command.envelope.1.runId

def workspaceId (command : AgentCommand) : Option WireUuid := command.envelope.2

def modelCopy (command : AgentCommand) (traceparent : String) (completionToken : Option String)
    (runId : Option WireUuid) : AgentCommand :=
  let workspace := fun base : CommandBase =>
    { base with traceparent := traceparent, completionToken := completionToken, runId := runId }
  let agent := fun base : AgentScopedBase =>
    { base with traceparent := traceparent, completionToken := completionToken, runId := runId }
  match command with
  | .provisionWorkspace base fields => .provisionWorkspace (workspace base) fields
  | .writeFiles base files => .writeFiles (workspace base) files
  | .refreshWorkspaceAuth base newToken => .refreshWorkspaceAuth (workspace base) newToken
  | .invokeClaudeCode base fields => .invokeClaudeCode (workspace base) fields
  | .invokeCodex base fields => .invokeCodex (workspace base) fields
  | .cleanupWorkspace base => .cleanupWorkspace (workspace base)
  | .pushBranch base => .pushBranch (workspace base)
  | .configUpdate base config => .configUpdate (agent base) config
  | .shutdown base => .shutdown (agent base)
  | .cancelShutdown base => .cancelShutdown (agent base)

end AgentCommand

def optionalText : Option String → Json
  | none => .null
  | some text => .str text

def uuidJson (id : WireUuid) : Json := .str (uuidText id.val)

def optionalUuid : Option WireUuid → Json
  | none => .null
  | some id => uuidJson id

def CommandBase.modelDump (base : CommandBase) (kind : AgentCommandKind) : Dict Json :=
  [("command_id", uuidJson base.commandId), ("workspace_id", uuidJson base.workspaceId),
   ("traceparent", .str base.traceparent), ("completion_token", optionalText base.completionToken),
   ("run_id", optionalUuid base.runId), ("kind", .str kind.value)]

def RepoRef.modelDump (repo : RepoRef) : Json :=
  .obj [("plugin_id", .str repo.pluginId), ("external_id", .str repo.externalId),
    ("clone_url", .str repo.cloneUrl), ("head_sha", optionalText repo.headSha),
    ("base_sha", optionalText repo.baseSha), ("branch_name", optionalText repo.branchName)]

def AuthBlock.modelDump (auth : AuthBlock) : Json :=
  .obj [("kind", .str auth.kind.value), ("token", .str auth.token)]

def WriteFilesEntry.modelDump (entry : WriteFilesEntry) : Json :=
  .obj [("path", .str entry.path), ("content", .str entry.content), ("mode", optionalText entry.mode)]

def limitsDump (wallclockSeconds : AtLeast 1) : Json :=
  .obj [("wallclock_seconds", .num wallclockSeconds.val 0)]

-- The secrets are unwrapped at the JSON encode boundary.
def AgentConfig.modelDump (config : AgentConfig) : Json :=
  .obj [("max_workspaces", .num config.maxWorkspaces.val 0), ("otlp_endpoint", optionalText config.otlpEndpoint),
    ("otlp_token", optionalText config.otlpToken), ("otlp_dataset", optionalText config.otlpDataset),
    ("environment", optionalText config.environment),
    ("api_keys", .obj (config.apiKeys.map fun entry => (entry.1, .str entry.2)))]

def AgentCommand.modelDump : AgentCommand → Dict Json
  | .provisionWorkspace base fields => base.modelDump .provisionWorkspace ++
      [("repo", fields.repo.modelDump), ("history", .num fields.history.val 0), ("auth", fields.auth.modelDump),
       ("ttl_seconds", .num fields.ttlSeconds.val 0), ("max_idle_seconds", .num fields.maxIdleSeconds.val 0),
       ("git_user_name", .str fields.gitUserName), ("git_user_email", .str fields.gitUserEmail)]
  | .writeFiles base files => base.modelDump .writeFiles ++
      [("files", .arr (files.map WriteFilesEntry.modelDump))]
  | .refreshWorkspaceAuth base newToken => base.modelDump .refreshWorkspaceAuth ++ [("new_token", .str newToken)]
  | .invokeClaudeCode base fields => base.modelDump .invokeClaudeCode ++
      [("invocation", .obj fields.invocation), ("mcp_servers", .arr (fields.mcpServers.map .obj)),
       ("limits", limitsDump fields.wallclockSeconds), ("result_spec", .obj fields.resultSpec),
       ("skill_path", .str fields.skillPath)]
  | .invokeCodex base fields => base.modelDump .invokeCodex ++
      [("invocation", .obj fields.invocation), ("limits", limitsDump fields.wallclockSeconds),
       ("result_spec", .obj fields.resultSpec), ("skill_path", .str fields.skillPath),
       ("output_schema_json", optionalText fields.outputSchemaJson)]
  | .cleanupWorkspace base => base.modelDump .cleanupWorkspace
  | .pushBranch base => base.modelDump .pushBranch
  | .configUpdate base config =>
      [("command_id", uuidJson base.commandId), ("traceparent", .str base.traceparent),
       ("kind", .str AgentCommandKind.configUpdate.value), ("config", config.modelDump),
       ("completion_token", optionalText base.completionToken)]
  | .shutdown base =>
      [("command_id", uuidJson base.commandId), ("traceparent", .str base.traceparent),
       ("kind", .str AgentCommandKind.shutdown.value), ("completion_token", optionalText base.completionToken),
       ("run_id", optionalUuid base.runId)]
  | .cancelShutdown base =>
      [("command_id", uuidJson base.commandId), ("traceparent", .str base.traceparent),
       ("kind", .str AgentCommandKind.cancelShutdown.value), ("completion_token", optionalText base.completionToken),
       ("run_id", optionalUuid base.runId)]

end Yaaos.Gateway
