import Yaaos.Gateway.Claim

set_option autoImplicit false

namespace Yaaos.Gateway

open Yaaos.Base

def queuedWorkspaceId (command : AgentCommand) : Option WireUuid :=
  command.workspaceId.filter fun id => decide (id ≠ 0)

def queuedPayload (effectiveTp : String) (command : AgentCommand) (runId : Option WireUuid) : Dict Json :=
  (command.modelDump.without envelopeKeys).merge
    (envelope command.commandId command.kind (queuedWorkspaceId command) effectiveTp runId)

theorem lookup_envelopeKey (payloadFields : Dict Json) (commandId : WireUuid) (kind : AgentCommandKind)
    (workspaceId : Option WireUuid) (effectiveTp : String) (runId : Option WireUuid) (key : String)
    (value : Json) (owned : (envelope commandId kind workspaceId effectiveTp runId).lookup key = some value) :
    (payloadFields.merge (envelope commandId kind workspaceId effectiveTp runId)).lookup key = some value := by
  rw [Dict.lookup_merge, owned, Option.some_or]

section Envelope

variable (commandId : WireUuid) (kind : AgentCommandKind) (workspaceId : Option WireUuid) (effectiveTp : String)
  (runId : Option WireUuid)

theorem envelope_kind : (envelope commandId kind workspaceId effectiveTp runId).lookup "kind" =
    some (.str kind.value) := rfl

theorem envelope_commandId : (envelope commandId kind workspaceId effectiveTp runId).lookup "command_id" =
    some (uuidJson commandId) := rfl

theorem envelope_traceparent : (envelope commandId kind workspaceId effectiveTp runId).lookup "traceparent" =
    some (.str effectiveTp) := rfl

theorem envelope_completionToken : (envelope commandId kind workspaceId effectiveTp runId).lookup "completion_token" =
    some .null := rfl

theorem envelope_runId : (envelope commandId kind workspaceId effectiveTp runId).lookup "run_id" =
    some (optionalUuid runId) := rfl

theorem envelope_workspaceId : (envelope commandId kind workspaceId effectiveTp runId).lookup "workspace_id" =
    workspaceId.map uuidJson := by
  cases workspaceId <;> rfl

theorem envelope_other (key : String) (plain : key ∉ envelopeKeys) :
    (envelope commandId kind workspaceId effectiveTp runId).lookup key = none := by
  simp only [envelopeKeys, List.mem_cons, List.not_mem_nil, or_false, not_or, ← beq_eq_false_iff_ne] at plain
  obtain ⟨kindKey, idKey, workspaceKey, traceKey, tokenKey, runKey⟩ := plain
  cases workspaceId with
  | none => simp only [envelope, List.cons_append, List.nil_append, List.lookup_cons, List.lookup_nil, kindKey, idKey,
      traceKey, tokenKey, runKey]
  | some id => simp only [envelope, List.cons_append, List.nil_append, List.lookup_cons, List.lookup_nil, kindKey,
      idKey, workspaceKey, traceKey, tokenKey, runKey]

end Envelope

section Payload

variable (effectiveTp : String) (command : AgentCommand) (runId : Option WireUuid)

theorem queuedPayload_field (key : String) (plain : key ∉ envelopeKeys) :
    (queuedPayload effectiveTp command runId).lookup key = command.modelDump.lookup key := by
  have kept : envelopeKeys.contains key = false := by simpa using plain
  rw [queuedPayload, Dict.lookup_merge, envelope_other _ _ _ _ _ key plain, Dict.lookup_without, kept]
  simp

theorem commandBase_queued (workspaceId : WireUuid) (placed : queuedWorkspaceId command = some workspaceId) :
    CommandBase.validate (queuedPayload effectiveTp command runId) =
      .ok { commandId := command.commandId, workspaceId := workspaceId, traceparent := effectiveTp
            completionToken := none, runId := runId } := by
  have found := fun key value => lookup_envelopeKey (command.modelDump.without envelopeKeys) command.commandId
    command.kind (queuedWorkspaceId command) effectiveTp runId key value
  rw [CommandBase.validate, queuedPayload,
    required_found _ "command_id" _ _ _ _ (found _ _ (envelope_commandId _ _ _ _ _)) (readUuid_dump _),
    required_found _ "workspace_id" _ _ _ workspaceId
      (found _ _ (by rw [envelope_workspaceId, placed]; rfl)) (readUuid_dump _),
    required_found _ "traceparent" _ _ _ _ (found _ _ (envelope_traceparent _ _ _ _ _)) (readText_str _),
    defaulted_found _ "completion_token" _ _ _ _ none (found _ _ (envelope_completionToken _ _ _ _ _)) rfl,
    defaulted_found _ "run_id" _ _ _ _ _ (found _ _ (envelope_runId _ _ _ _ _)) (readOptionalUuid_dump _)]
  rfl

theorem agentScopedBase_found (payload : Dict Json) (commandId : WireUuid)
    (idFound : payload.lookup "command_id" = some (uuidJson commandId))
    (traceFound : payload.lookup "traceparent" = some (.str effectiveTp))
    (tokenFound : payload.lookup "completion_token" = some .null)
    (runRead : defaulted payload "run_id" "uuid_parsing" readOptionalUuid none = .ok runId) :
    AgentScopedBase.validate payload =
      .ok { commandId := commandId, traceparent := effectiveTp, completionToken := none, runId := runId } := by
  rw [AgentScopedBase.validate, required_found _ "command_id" _ _ _ _ idFound (readUuid_dump _),
    required_found _ "traceparent" _ _ _ _ traceFound (readText_str _),
    defaulted_found _ "completion_token" _ _ _ _ none tokenFound rfl, runRead]
  rfl

theorem agentScopedBase_queued : AgentScopedBase.validate (queuedPayload effectiveTp command runId) =
    .ok { commandId := command.commandId, traceparent := effectiveTp, completionToken := none, runId := runId } := by
  have found := fun key value => lookup_envelopeKey (command.modelDump.without envelopeKeys) command.commandId
    command.kind (queuedWorkspaceId command) effectiveTp runId key value
  apply agentScopedBase_found
  · exact found _ _ (envelope_commandId _ _ _ _ _)
  · exact found _ _ (envelope_traceparent _ _ _ _ _)
  · exact found _ _ (envelope_completionToken _ _ _ _ _)
  · exact defaulted_found _ "run_id" _ _ _ _ _ (found _ _ (envelope_runId _ _ _ _ _)) (readOptionalUuid_dump _)

theorem agentScopedBase_unread :
    AgentScopedBase.validate ((queuedPayload effectiveTp command runId).without ["run_id"]) =
      .ok { commandId := command.commandId, traceparent := effectiveTp, completionToken := none, runId := none } := by
  have found := fun key value => lookup_envelopeKey (command.modelDump.without envelopeKeys) command.commandId
    command.kind (queuedWorkspaceId command) effectiveTp runId key value
  apply agentScopedBase_found
  · rw [Dict.lookup_without]
    exact found _ _ (envelope_commandId _ _ _ _ _)
  · rw [Dict.lookup_without]
    exact found _ _ (envelope_traceparent _ _ _ _ _)
  · rw [Dict.lookup_without]
    exact found _ _ (envelope_completionToken _ _ _ _ _)
  · apply defaulted_missing
    rw [Dict.lookup_without]
    rfl

theorem queuedPayload_kind : (queuedPayload effectiveTp command runId).lookup "kind" = some (.str command.kind.value) :=
  lookup_envelopeKey _ _ _ _ _ _ _ _ (envelope_kind _ _ _ _ _)

end Payload

theorem repoRef_dump (repo : RepoRef) : nested RepoRef.validate repo.modelDump = some repo := by
  apply nested_dump
  rw [RepoRef.validate, required_found _ "plugin_id" _ _ _ _ rfl (readText_str _),
    required_found _ "external_id" _ _ _ _ rfl (readText_str _),
    required_found _ "clone_url" _ _ _ _ rfl (readText_str _),
    defaulted_found _ "head_sha" _ _ _ _ _ rfl (readOptionalText_dump _),
    defaulted_found _ "base_sha" _ _ _ _ _ rfl (readOptionalText_dump _),
    defaulted_found _ "branch_name" _ _ _ _ _ rfl (readOptionalText_dump _)]
  exact dif_pos repo.checkoutMode

theorem authBlock_dump (auth : AuthBlock) : nested AuthBlock.validate auth.modelDump = some auth := by
  apply nested_dump
  rw [AuthBlock.validate, required_found _ "kind" _ _ _ _ rfl (readAuthKind_dump _),
    required_found _ "token" _ _ _ _ rfl (readText_str _)]
  rfl

theorem writeFilesEntry_dump (entry : WriteFilesEntry) :
    nested WriteFilesEntry.validate entry.modelDump = some entry := by
  apply nested_dump
  rw [WriteFilesEntry.validate, required_found _ "path" _ _ _ _ rfl (readText_str _),
    required_found _ "content" _ _ _ _ rfl (readText_str _),
    defaulted_found _ "mode" _ _ _ _ _ rfl (readOptionalText_dump _)]
  rfl

theorem limits_dump (wallclockSeconds : AtLeast 1) :
    nested limitsValidate (limitsDump wallclockSeconds) = some wallclockSeconds := by
  apply nested_dump
  exact required_found _ "wallclock_seconds" _ _ _ _ rfl (readAtLeast_dump 1 wallclockSeconds)

theorem agentConfig_dump (config : AgentConfig) : nested AgentConfig.validate config.modelDump = some config := by
  apply nested_dump
  rw [AgentConfig.validate, required_found _ "max_workspaces" _ _ _ _ rfl (readAtLeast_dump 1 _),
    defaulted_found _ "otlp_endpoint" _ _ _ _ _ rfl (readOptionalText_dump _),
    defaulted_found _ "otlp_token" _ _ _ _ _ rfl (readOptionalText_dump _),
    defaulted_found _ "otlp_dataset" _ _ _ _ _ rfl (readOptionalText_dump _),
    defaulted_found _ "environment" _ _ _ _ _ rfl (readOptionalText_dump _),
    defaulted_found _ "api_keys" _ _ _ _ _ rfl (readTextDict_dump _)]
  rfl

section Decode

variable (effectiveTp : String) (base : CommandBase) (runId : Option WireUuid)

theorem provisionWorkspaceFields_queued (fields : ProvisionWorkspaceFields) :
    ProvisionWorkspaceFields.validate (queuedPayload effectiveTp (.provisionWorkspace base fields) runId) =
      .ok fields := by
  have field := queuedPayload_field effectiveTp (.provisionWorkspace base fields) runId
  rw [ProvisionWorkspaceFields.validate,
    required_found _ "repo" _ _ _ _ ((field "repo" (by decide)).trans rfl) (repoRef_dump _),
    required_found _ "history" _ _ _ _ ((field "history" (by decide)).trans rfl) (readAtLeast_dump 1 _),
    required_found _ "auth" _ _ _ _ ((field "auth" (by decide)).trans rfl) (authBlock_dump _),
    required_found _ "ttl_seconds" _ _ _ _ ((field "ttl_seconds" (by decide)).trans rfl) (readAtLeast_dump 60 _),
    required_found _ "max_idle_seconds" _ _ _ _ ((field "max_idle_seconds" (by decide)).trans rfl)
      (readAtLeast_dump 60 _),
    defaulted_found _ "git_user_name" _ _ _ _ _ ((field "git_user_name" (by decide)).trans rfl) (readText_str _),
    defaulted_found _ "git_user_email" _ _ _ _ _ ((field "git_user_email" (by decide)).trans rfl) (readText_str _)]
  rfl

theorem invokeClaudeCodeFields_queued (fields : InvokeClaudeCodeFields) :
    InvokeClaudeCodeFields.validate (queuedPayload effectiveTp (.invokeClaudeCode base fields) runId) = .ok fields := by
  have field := queuedPayload_field effectiveTp (.invokeClaudeCode base fields) runId
  rw [InvokeClaudeCodeFields.validate,
    required_found _ "invocation" _ _ _ _ ((field "invocation" (by decide)).trans rfl) (readDict_obj _),
    defaulted_found _ "mcp_servers" _ _ _ _ _ ((field "mcp_servers" (by decide)).trans rfl)
      (readList_dump .obj readDict readDict_obj _),
    required_found _ "limits" _ _ _ _ ((field "limits" (by decide)).trans rfl) (limits_dump _),
    defaulted_found _ "result_spec" _ _ _ _ _ ((field "result_spec" (by decide)).trans rfl) (readDict_obj _),
    required_found _ "skill_path" _ _ _ _ ((field "skill_path" (by decide)).trans rfl) (readText_str _)]
  rfl

theorem invokeCodexFields_queued (fields : InvokeCodexFields) :
    InvokeCodexFields.validate (queuedPayload effectiveTp (.invokeCodex base fields) runId) = .ok fields := by
  have field := queuedPayload_field effectiveTp (.invokeCodex base fields) runId
  rw [InvokeCodexFields.validate,
    required_found _ "invocation" _ _ _ _ ((field "invocation" (by decide)).trans rfl) (readDict_obj _),
    required_found _ "limits" _ _ _ _ ((field "limits" (by decide)).trans rfl) (limits_dump _),
    defaulted_found _ "result_spec" _ _ _ _ _ ((field "result_spec" (by decide)).trans rfl) (readDict_obj _),
    required_found _ "skill_path" _ _ _ _ ((field "skill_path" (by decide)).trans rfl) (readText_str _),
    defaulted_found _ "output_schema_json" _ _ _ _ _ ((field "output_schema_json" (by decide)).trans rfl)
      (readOptionalText_dump _)]
  rfl

theorem files_queued (files : List WriteFilesEntry) :
    required (queuedPayload effectiveTp (.writeFiles base files) runId) "files" "tuple_type"
      (readList (nested WriteFilesEntry.validate)) = .ok files :=
  required_found _ "files" _ _ _ _
    ((queuedPayload_field effectiveTp (.writeFiles base files) runId "files" (by decide)).trans rfl)
    (readList_dump WriteFilesEntry.modelDump _ writeFilesEntry_dump files)

theorem newToken_queued (newToken : String) :
    required (queuedPayload effectiveTp (.refreshWorkspaceAuth base newToken) runId) "new_token" "string_type"
      readText = .ok newToken :=
  required_found _ "new_token" _ _ _ _
    ((queuedPayload_field effectiveTp (.refreshWorkspaceAuth base newToken) runId "new_token" (by decide)).trans rfl)
    (readText_str newToken)

theorem config_queued (agent : AgentScopedBase) (config : AgentConfig) :
    required ((queuedPayload effectiveTp (.configUpdate agent config) runId).without ["run_id"]) "config"
      "model_type" (nested AgentConfig.validate) = .ok config := by
  apply required_found _ "config" _ _ _ _ _ (agentConfig_dump config)
  rw [Dict.lookup_without]
  exact (queuedPayload_field effectiveTp (.configUpdate agent config) runId "config" (by decide)).trans rfl

end Decode

section Tagged

variable {α : Type} (validate : Dict Json → Except ValidationError α) (fields : Dict Json)

theorem workspaceCommand_ok (build : CommandBase → α → AgentCommand) (base : CommandBase) (own : α)
    (baseRead : CommandBase.validate fields = .ok base) (ownRead : validate fields = .ok own) :
    workspaceCommand build validate fields = .ok (build base own) := by
  rw [workspaceCommand, baseRead]
  simp only [bind, Except.bind, ownRead]

theorem workspaceCommand_error (build : CommandBase → α → AgentCommand) (error : ValidationError)
    (baseRead : CommandBase.validate fields = .error error) : workspaceCommand build validate fields = .error error := by
  rw [workspaceCommand, baseRead]
  rfl

theorem agentCommand_ok (build : AgentScopedBase → α → AgentCommand) (base : AgentScopedBase) (own : α)
    (baseRead : AgentScopedBase.validate fields = .ok base) (ownRead : validate fields = .ok own) :
    agentCommand build validate fields = .ok (build base own) := by
  rw [agentCommand, baseRead]
  simp only [bind, Except.bind, ownRead]

end Tagged

def decodedRunId (command : AgentCommand) (runId : Option WireUuid) : Option WireUuid :=
  if command.kind = .configUpdate then none else runId

def Decodable (command : AgentCommand) : Prop :=
  command.kind ≠ .pushBranch ∧ command.workspaceId ≠ some 0

theorem queuedWorkspaceId_some (command : AgentCommand) (workspaceId : WireUuid)
    (named : command.workspaceId = some workspaceId) (real : workspaceId ≠ 0) :
    queuedWorkspaceId command = some workspaceId := by
  simp [queuedWorkspaceId, named, real]

theorem validatePython_queued (effectiveTp : String) (command : AgentCommand) (runId : Option WireUuid)
    (decodable : Decodable command) :
    validatePython (queuedPayload effectiveTp command runId) =
      .ok (command.modelCopy effectiveTp none (decodedRunId command runId)) := by
  obtain ⟨known, placed⟩ := decodable
  have tag := queuedPayload_kind effectiveTp command runId
  have based := fun workspaceId named real =>
    commandBase_queued effectiveTp command runId workspaceId (queuedWorkspaceId_some command workspaceId named real)
  unfold validatePython
  rw [tag]
  cases command with
  | provisionWorkspace base fields =>
      exact workspaceCommand_ok _ _ _ _ _ (based base.workspaceId rfl fun nil => placed (congrArg some nil))
        (provisionWorkspaceFields_queued effectiveTp base runId fields)
  | writeFiles base files =>
      exact workspaceCommand_ok _ _ _ _ _ (based base.workspaceId rfl fun nil => placed (congrArg some nil))
        (files_queued effectiveTp base runId files)
  | refreshWorkspaceAuth base newToken =>
      exact workspaceCommand_ok _ _ _ _ _ (based base.workspaceId rfl fun nil => placed (congrArg some nil))
        (newToken_queued effectiveTp base runId newToken)
  | invokeClaudeCode base fields =>
      exact workspaceCommand_ok _ _ _ _ _ (based base.workspaceId rfl fun nil => placed (congrArg some nil))
        (invokeClaudeCodeFields_queued effectiveTp base runId fields)
  | invokeCodex base fields =>
      exact workspaceCommand_ok _ _ _ _ _ (based base.workspaceId rfl fun nil => placed (congrArg some nil))
        (invokeCodexFields_queued effectiveTp base runId fields)
  | cleanupWorkspace base =>
      exact workspaceCommand_ok _ _ _ _ () (based base.workspaceId rfl fun nil => placed (congrArg some nil)) rfl
  | pushBranch base => exact absurd rfl known
  | configUpdate base config =>
      exact agentCommand_ok _ _ _ _ _ (agentScopedBase_unread effectiveTp (.configUpdate base config) runId)
        (config_queued effectiveTp runId base config)
  | shutdown base => exact agentCommand_ok _ _ _ _ () (agentScopedBase_queued effectiveTp (.shutdown base) runId) rfl
  | cancelShutdown base =>
      exact agentCommand_ok _ _ _ _ () (agentScopedBase_queued effectiveTp (.cancelShutdown base) runId) rfl

theorem commandBase_nil (effectiveTp : String) (command : AgentCommand) (runId : Option WireUuid)
    (dropped : queuedWorkspaceId command = none) :
    CommandBase.validate (queuedPayload effectiveTp command runId) =
      .error { loc := "workspace_id", type := "missing" } := by
  have absent : (queuedPayload effectiveTp command runId).lookup "workspace_id" = none := by
    rw [queuedPayload, Dict.lookup_merge, envelope_workspaceId, dropped, Dict.lookup_without]
    rfl
  have named : (queuedPayload effectiveTp command runId).lookup "command_id" = some (uuidJson command.commandId) :=
    lookup_envelopeKey _ _ _ _ _ _ _ _ (envelope_commandId _ _ _ _ _)
  rw [CommandBase.validate, required_found _ "command_id" _ _ _ _ named (readUuid_dump _),
    required_missing _ "workspace_id" _ _ absent]
  rfl

theorem validatePython_undecodable (effectiveTp : String) (command : AgentCommand) (runId : Option WireUuid)
    (undecodable : ¬ Decodable command) :
    ∃ error, validatePython (queuedPayload effectiveTp command runId) = .error error := by
  have tag := queuedPayload_kind effectiveTp command runId
  have nil := fun dropped => commandBase_nil effectiveTp command runId dropped
  unfold validatePython
  rw [tag]
  have workspaceless : command.kind ≠ .pushBranch → queuedWorkspaceId command = none ∧ command.workspaceId.isSome := by
    intro known
    have zero : command.workspaceId = some 0 := by
      by_contra placed
      exact undecodable ⟨known, placed⟩
    simp [queuedWorkspaceId, zero]
  cases command with
  | pushBranch base => exact ⟨{ loc := "kind", type := "union_tag_invalid" }, rfl⟩
  | configUpdate base config => cases (workspaceless (by simp [AgentCommand.kind])).2
  | shutdown base => cases (workspaceless (by simp [AgentCommand.kind])).2
  | cancelShutdown base => cases (workspaceless (by simp [AgentCommand.kind])).2
  | provisionWorkspace base fields =>
      exact ⟨_, workspaceCommand_error _ _ _ _ (nil (workspaceless (by simp [AgentCommand.kind])).1)⟩
  | writeFiles base files =>
      exact ⟨_, workspaceCommand_error _ _ _ _ (nil (workspaceless (by simp [AgentCommand.kind])).1)⟩
  | refreshWorkspaceAuth base newToken =>
      exact ⟨_, workspaceCommand_error _ _ _ _ (nil (workspaceless (by simp [AgentCommand.kind])).1)⟩
  | invokeClaudeCode base fields =>
      exact ⟨_, workspaceCommand_error _ _ _ _ (nil (workspaceless (by simp [AgentCommand.kind])).1)⟩
  | invokeCodex base fields =>
      exact ⟨_, workspaceCommand_error _ _ _ _ (nil (workspaceless (by simp [AgentCommand.kind])).1)⟩
  | cleanupWorkspace base =>
      exact ⟨_, workspaceCommand_error _ _ _ _ (nil (workspaceless (by simp [AgentCommand.kind])).1)⟩

end Yaaos.Gateway
