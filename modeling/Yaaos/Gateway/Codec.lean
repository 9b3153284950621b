import Yaaos.Gateway.Types

set_option autoImplicit false

namespace Yaaos.Gateway

open Yaaos.Base

structure ValidationError where
  loc : String
  type : String
  deriving DecidableEq, Repr

def required {α : Type} (fields : Dict Json) (key : String) (type : String) (read : Json → Option α) :
    Except ValidationError α :=
  match fields.lookup key with
  | none => .error { loc := key, type := "missing" }
  | some value =>
    match read value with
    | none => .error { loc := key, type := type }
    | some result => .ok result

def defaulted {α : Type} (fields : Dict Json) (key : String) (type : String) (read : Json → Option α) (default : α) :
    Except ValidationError α :=
  match fields.lookup key with
  | none => .ok default
  | some _ => required fields key type read

def readText : Json → Option String
  | .str text => some text
  | _ => none

def readOptionalText : Json → Option (Option String)
  | .null => some none
  | .str text => some (some text)
  | _ => none

def readUuid : Json → Option WireUuid
  | .str text => (parseUuid text).bind fun id => if bound : id < 2 ^ 128 then some ⟨id, bound⟩ else none
  | _ => none

def readOptionalUuid : Json → Option (Option WireUuid)
  | .null => some none
  | value => (readUuid value).map some

def readAtLeast (bound : Int) : Json → Option (AtLeast bound)
  | .num mantissa 0 => if holds : bound ≤ mantissa then some ⟨mantissa, holds⟩ else none
  | .bool value => if holds : bound ≤ value.toNat then some ⟨value.toNat, holds⟩ else none
  | _ => none

def readDict : Json → Option (Dict Json)
  | .obj fields => some fields
  | _ => none

def readList {α : Type} (read : Json → Option α) : Json → Option (List α)
  | .arr items => items.mapM read
  | _ => none

def readTextDict : Json → Option (Dict String)
  | .obj fields => fields.mapM fun entry => (readText entry.2).map fun text => (entry.1, text)
  | _ => none

def readAuthKind : Json → Option AuthKind
  | .str "github_installation" => some .githubInstallation
  | .str "oauth" => some .oauth
  | _ => none

def nested {α : Type} (validate : Dict Json → Except ValidationError α) (value : Json) : Option α :=
  (readDict value).bind fun fields => (validate fields).toOption

def RepoRef.validate (fields : Dict Json) : Except ValidationError RepoRef := do
  let pluginId ← required fields "plugin_id" "string_type" readText
  let externalId ← required fields "external_id" "string_type" readText
  let cloneUrl ← required fields "clone_url" "string_type" readText
  let headSha ← defaulted fields "head_sha" "string_type" readOptionalText none
  let baseSha ← defaulted fields "base_sha" "string_type" readOptionalText none
  let branchName ← defaulted fields "branch_name" "string_type" readOptionalText none
  if checkoutMode : givenText headSha ≠ givenText branchName then
    .ok { pluginId, externalId, cloneUrl, headSha, baseSha, branchName, checkoutMode }
  else .error { loc := "", type := "value_error" }

def AuthBlock.validate (fields : Dict Json) : Except ValidationError AuthBlock := do
  let kind ← required fields "kind" "literal_error" readAuthKind
  let token ← required fields "token" "string_type" readText
  .ok { kind, token }

def WriteFilesEntry.validate (fields : Dict Json) : Except ValidationError WriteFilesEntry := do
  let path ← required fields "path" "string_type" readText
  let content ← required fields "content" "string_type" readText
  let mode ← defaulted fields "mode" "string_type" readOptionalText none
  .ok { path, content, mode }

def limitsValidate (fields : Dict Json) : Except ValidationError (AtLeast 1) :=
  required fields "wallclock_seconds" "greater_than_equal" (readAtLeast 1)

def AgentConfig.validate (fields : Dict Json) : Except ValidationError AgentConfig := do
  let maxWorkspaces ← required fields "max_workspaces" "greater_than_equal" (readAtLeast 1)
  let otlpEndpoint ← defaulted fields "otlp_endpoint" "string_type" readOptionalText none
  let otlpToken ← defaulted fields "otlp_token" "string_type" readOptionalText none
  let otlpDataset ← defaulted fields "otlp_dataset" "string_type" readOptionalText none
  let environment ← defaulted fields "environment" "string_type" readOptionalText none
  let apiKeys ← defaulted fields "api_keys" "dict_type" readTextDict []
  .ok { maxWorkspaces, otlpEndpoint, otlpToken, otlpDataset, environment, apiKeys }

def CommandBase.validate (fields : Dict Json) : Except ValidationError CommandBase := do
  let commandId ← required fields "command_id" "uuid_parsing" readUuid
  let workspaceId ← required fields "workspace_id" "uuid_parsing" readUuid
  let traceparent ← required fields "traceparent" "string_type" readText
  let completionToken ← defaulted fields "completion_token" "string_type" readOptionalText none
  let runId ← defaulted fields "run_id" "uuid_parsing" readOptionalUuid none
  .ok { commandId, workspaceId, traceparent, completionToken, runId }

def AgentScopedBase.validate (fields : Dict Json) : Except ValidationError AgentScopedBase := do
  let commandId ← required fields "command_id" "uuid_parsing" readUuid
  let traceparent ← required fields "traceparent" "string_type" readText
  let completionToken ← defaulted fields "completion_token" "string_type" readOptionalText none
  let runId ← defaulted fields "run_id" "uuid_parsing" readOptionalUuid none
  .ok { commandId, traceparent, completionToken, runId }

def defaultGitUserName : String := "yaaos"

def defaultGitUserEmail : String := "yaaos[bot]@users.noreply.github.com"

def ProvisionWorkspaceFields.validate (fields : Dict Json) : Except ValidationError ProvisionWorkspaceFields := do
  let repo ← required fields "repo" "model_type" (nested RepoRef.validate)
  let history ← required fields "history" "greater_than_equal" (readAtLeast 1)
  let auth ← required fields "auth" "model_type" (nested AuthBlock.validate)
  let ttlSeconds ← required fields "ttl_seconds" "greater_than_equal" (readAtLeast 60)
  let maxIdleSeconds ← required fields "max_idle_seconds" "greater_than_equal" (readAtLeast 60)
  let gitUserName ← defaulted fields "git_user_name" "string_type" readText defaultGitUserName
  let gitUserEmail ← defaulted fields "git_user_email" "string_type" readText defaultGitUserEmail
  .ok { repo, history, auth, ttlSeconds, maxIdleSeconds, gitUserName, gitUserEmail }

def InvokeClaudeCodeFields.validate (fields : Dict Json) : Except ValidationError InvokeClaudeCodeFields := do
  let invocation ← required fields "invocation" "dict_type" readDict
  let mcpServers ← defaulted fields "mcp_servers" "tuple_type" (readList readDict) []
  let wallclockSeconds ← required fields "limits" "model_type" (nested limitsValidate)
  let resultSpec ← defaulted fields "result_spec" "dict_type" readDict []
  let skillPath ← required fields "skill_path" "string_type" readText
  .ok { invocation, mcpServers, wallclockSeconds, resultSpec, skillPath }

def InvokeCodexFields.validate (fields : Dict Json) : Except ValidationError InvokeCodexFields := do
  let invocation ← required fields "invocation" "dict_type" readDict
  let wallclockSeconds ← required fields "limits" "model_type" (nested limitsValidate)
  let resultSpec ← defaulted fields "result_spec" "dict_type" readDict []
  let skillPath ← required fields "skill_path" "string_type" readText
  let outputSchemaJson ← defaulted fields "output_schema_json" "string_type" readOptionalText none
  .ok { invocation, wallclockSeconds, resultSpec, skillPath, outputSchemaJson }

def workspaceCommand {α : Type} (build : CommandBase → α → AgentCommand)
    (validate : Dict Json → Except ValidationError α) (fields : Dict Json) : Except ValidationError AgentCommand := do
  let base ← CommandBase.validate fields
  let own ← validate fields
  .ok (build base own)

def agentCommand {α : Type} (build : AgentScopedBase → α → AgentCommand)
    (validate : Dict Json → Except ValidationError α) (fields : Dict Json) : Except ValidationError AgentCommand := do
  let base ← AgentScopedBase.validate fields
  let own ← validate fields
  .ok (build base own)

-- `_COMMAND_ADAPTER`: nine of the ten kinds, tagged by `kind`. PushBranch is not
-- in the union the adapter is built from. ConfigUpdate has no run_id to read.
def validatePython (payload : Dict Json) : Except ValidationError AgentCommand :=
  match payload.lookup "kind" with
  | some (.str "ProvisionWorkspace") =>
      workspaceCommand .provisionWorkspace ProvisionWorkspaceFields.validate payload
  | some (.str "WriteFiles") =>
      workspaceCommand .writeFiles
        (fun fields => required fields "files" "tuple_type" (readList (nested WriteFilesEntry.validate))) payload
  | some (.str "RefreshWorkspaceAuth") =>
      workspaceCommand .refreshWorkspaceAuth (fun fields => required fields "new_token" "string_type" readText) payload
  | some (.str "InvokeClaudeCode") => workspaceCommand .invokeClaudeCode InvokeClaudeCodeFields.validate payload
  | some (.str "InvokeCodex") => workspaceCommand .invokeCodex InvokeCodexFields.validate payload
  | some (.str "CleanupWorkspace") => workspaceCommand (fun base _ => .cleanupWorkspace base) (fun _ => .ok ()) payload
  | some (.str "ConfigUpdate") =>
      agentCommand .configUpdate
        (fun fields => required fields "config" "model_type" (nested AgentConfig.validate))
        (payload.without ["run_id"])
  | some (.str "Shutdown") => agentCommand (fun base _ => .shutdown base) (fun _ => .ok ()) payload
  | some (.str "CancelShutdown") => agentCommand (fun base _ => .cancelShutdown base) (fun _ => .ok ()) payload
  | some (.str _) => .error { loc := "kind", type := "union_tag_invalid" }
  | _ => .error { loc := "kind", type := "union_tag_not_found" }

section Fields

variable {α : Type} (fields : Dict Json) (key type : String) (read : Json → Option α)

theorem required_found (value : Json) (result : α) (found : fields.lookup key = some value)
    (reads : read value = some result) : required fields key type read = .ok result := by
  simp only [required, found, reads]

theorem required_missing (absent : fields.lookup key = none) :
    required fields key type read = .error { loc := key, type := "missing" } := by
  simp only [required, absent]

theorem defaulted_found (value : Json) (default result : α) (found : fields.lookup key = some value)
    (reads : read value = some result) : defaulted fields key type read default = .ok result := by
  simp only [defaulted, found]
  exact required_found fields key type read value result found reads

theorem defaulted_missing (default : α) (absent : fields.lookup key = none) :
    defaulted fields key type read default = .ok default := by
  simp only [defaulted, absent]

end Fields

@[simp] theorem readText_str (text : String) : readText (.str text) = some text := rfl

@[simp] theorem readOptionalText_dump (text : Option String) : readOptionalText (optionalText text) = some text := by
  cases text <;> rfl

@[simp] theorem readUuid_dump (id : WireUuid) : readUuid (uuidJson id) = some id := by
  simp only [readUuid, uuidJson, parseUuid_uuidText id.val id.isLt, Option.bind_some, id.isLt, dite_true]

@[simp] theorem readOptionalUuid_dump (id : Option WireUuid) : readOptionalUuid (optionalUuid id) = some id := by
  cases id with
  | none => rfl
  | some id =>
      have parsed := readUuid_dump id
      simp only [uuidJson] at parsed
      simp only [optionalUuid, uuidJson, readOptionalUuid, parsed, Option.map_some]

@[simp] theorem readAtLeast_dump (bound : Int) (value : AtLeast bound) :
    readAtLeast bound (.num value.val 0) = some value := by
  simp only [readAtLeast, value.property, dite_true]

@[simp] theorem readDict_obj (fields : Dict Json) : readDict (.obj fields) = some fields := rfl

theorem mapM_dump {α : Type} (dump : α → Json) (read : Json → Option α) (reads : ∀ item, read (dump item) = some item)
    (items : List α) : (items.map dump).mapM read = some items := by
  induction items with
  | nil => rfl
  | cons item rest ih => simp [List.mapM_cons, reads, ih]

@[simp] theorem readList_dump {α : Type} (dump : α → Json) (read : Json → Option α)
    (reads : ∀ item, read (dump item) = some item) (items : List α) :
    readList read (.arr (items.map dump)) = some items := mapM_dump dump read reads items

@[simp] theorem readTextDict_dump (texts : Dict String) :
    readTextDict (.obj (texts.map fun entry => (entry.1, .str entry.2))) = some texts := by
  simp only [readTextDict]
  induction texts with
  | nil => rfl
  | cons entry rest ih => simp [List.mapM_cons, ih]

@[simp] theorem readAuthKind_dump (kind : AuthKind) : readAuthKind (.str kind.value) = some kind := by
  cases kind <;> rfl

theorem nested_dump {α : Type} (validate : Dict Json → Except ValidationError α) (fields : Dict Json) (result : α)
    (valid : validate fields = .ok result) : nested validate (.obj fields) = some result := by
  simp only [nested, readDict_obj, Option.bind_some, valid, Except.toOption]

end Yaaos.Gateway
