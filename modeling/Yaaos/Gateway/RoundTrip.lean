import Yaaos.Gateway.Run

set_option autoImplicit false

namespace Yaaos.Gateway

open Yaaos.Base

theorem lastSettled_unhydrated (env : ClaimEnv) (taken : List AgentCommandRow) (row : AgentCommandRow)
    (plain : env.hydrators row.commandKind = none) (last : taken.getLast? = some row) :
    lastSettled env 0 taken = (buildCommand (env.token (taken.length - 1)) row row.payload).map fun command =>
      some (row, command) := by
  simp only [lastSettled, last, settle, plain, Nat.zero_add]

variable (command : AgentCommand) (dispatched : Dispatch)

theorem modelCopy_modelCopy (first second : String) (token later : Option String)
    (runId otherRun : Option WireUuid) :
    (command.modelCopy first token runId).modelCopy second later otherRun = command.modelCopy second later otherRun := by
  cases command <;> rfl

theorem modelCopy_traceparent (traceparent : String) (token : Option String)
    (runId : Option WireUuid) : (command.modelCopy traceparent token runId).traceparent = traceparent := by
  cases command <;> rfl

theorem modelCopy_runId (traceparent : String) (token : Option String)
    (runId : Option WireUuid) : (command.modelCopy traceparent token runId).runId = runId := by
  cases command <;> rfl

theorem buildCommand_dispatched (raw : String) (row : AgentCommandRow)
    (runId : row.runId = dispatched.runId) (decodable : Decodable dispatched.command) :
    buildCommand raw row dispatched.payload =
      .ok (dispatched.command.modelCopy dispatched.effectiveTp (some raw) dispatched.runId) := by
  have merged : dispatched.runId.or (decodedRunId dispatched.command dispatched.runId) = dispatched.runId := by
    cases named : dispatched.runId with
    | none => simp [decodedRunId]
    | some id => rfl
  rw [buildCommand, Dispatch.payload, validatePython_queued _ _ _ decodable]
  simp only [modelCopy_traceparent, modelCopy_modelCopy, modelCopy_runId, runId, merged]

theorem buildCommand_undecodable (raw : String) (row : AgentCommandRow)
    (undecodable : ¬ Decodable dispatched.command) :
    ∃ error, buildCommand raw row dispatched.payload = .error error := by
  obtain ⟨error, raised⟩ := validatePython_undecodable dispatched.effectiveTp dispatched.command dispatched.runId
    undecodable
  exact ⟨.validation error, by rw [buildCommand, Dispatch.payload, raised]⟩

theorem envelope_owned (key : String) (owned : key ∈ envelopeKeys) :
    dispatched.payload.lookup key = (envelope dispatched.command.commandId dispatched.command.kind
      (queuedWorkspaceId dispatched.command) dispatched.effectiveTp dispatched.runId).lookup key := by
  have dropped : envelopeKeys.contains key = true := by simpa using owned
  rw [Dispatch.payload, queuedPayload, Dict.lookup_merge, Dict.lookup_without, dropped, if_pos rfl, Option.or_none]

structure RoundTrips (dispatched : Dispatch) (start : QueueState) (env : ClaimEnv) (agentId : WireUuid)
    (request : ClaimRequest) (row : AgentCommandRow) (db : GatewayDb) : Prop where
  enqueued : ∃ queued, queueStep start (.dispatch dispatched) = .ok queued
  enveloped : ∀ key ∈ envelopeKeys, row.payload.lookup key = (envelope dispatched.command.commandId
    dispatched.command.kind (queuedWorkspaceId dispatched.command) dispatched.effectiveTp dispatched.runId).lookup key
  returned : ∃ after draw, claimNext env agentId request db =
    .ok (after, some (dispatched.command.modelCopy dispatched.effectiveTp (some (env.token draw)) dispatched.runId))

theorem claim_roundTrips_iff (sha256 : String → String) (hydrated : AgentCommandKind → Bool)
    (start queued last : QueueState) (labels : List QueueLabel) (dispatched : Dispatch)
    (enqueued : queueStep start (.dispatch dispatched) = .ok queued)
    (path : Path (gatewayQueue sha256 hydrated) queued labels last) (env : ClaimEnv) (agentId : WireUuid)
    (request : ClaimRequest) (row : AgentCommandRow)
    (selected : row ∈ takenUp env agentId request hydrationRetireCap last.db.agentCommands.rows)
    (own : row.id = dispatched.command.commandId) (plain : env.hydrators dispatched.command.kind = none) :
    ((∀ key ∈ envelopeKeys, row.payload.lookup key = (envelope dispatched.command.commandId
        dispatched.command.kind (queuedWorkspaceId dispatched.command) dispatched.effectiveTp dispatched.runId).lookup key) ∧
      ∃ after draw, claimNext env agentId request last.db = .ok (after, some
        (dispatched.command.modelCopy dispatched.effectiveTp (some (env.token draw)) dispatched.runId))) ↔
      Decodable dispatched.command := by
  have added : dispatched.row ∈ queued.db.agentCommands.rows := by
    rw [(queueStep_dispatch start queued dispatched enqueued).1.rows]
    simp
  obtain ⟨after, present, sameId, sameOrigin⟩ := path_row sha256 hydrated queued last labels path _ added
  have matched : row = after := by
    apply Table.eq_of_key last.db.agentCommands row after (takenUp_member env agentId request _ _ row selected).1 present
    rw [own, sameId, dispatch_row_id]
  rw [← matched, dispatch_row_origin] at sameOrigin
  have kind : row.commandKind = dispatched.command.kind := congrArg CommandOrigin.commandKind sameOrigin
  have payload : row.payload = dispatched.payload := congrArg CommandOrigin.payload sameOrigin
  have runId : row.runId = dispatched.runId := congrArg CommandOrigin.runId sameOrigin
  rw [← kind] at plain
  have handed := claimRow_handed env agentId request last.db
  have unfailing : (credentialsFail env row && runBearingKinds.contains row.commandKind) = false := by
    simp only [credentialsFail, plain, Bool.false_and]
  rw [lastSettled_unhydrated env _ row plain (takenUp_last env agentId request _ _ row unfailing selected),
    payload] at handed
  constructor
  · rintro ⟨_, _, _, returned⟩
    by_contra undecodable
    obtain ⟨error, raised⟩ := buildCommand_undecodable dispatched (env.token _) row undecodable
    rw [raised] at handed
    cases claimed : claimRow env agentId request last.db with
    | error _ => simp [claimNext, claimed, Except.map] at returned
    | ok _ => simp [claimed, Except.map] at handed
  · intro decodable
    refine ⟨fun key owned => payload ▸ envelope_owned dispatched key owned, ?_⟩
    rw [buildCommand_dispatched dispatched _ row runId decodable] at handed
    cases claimed : claimRow env agentId request last.db with
    | error _ => simp [claimed, Except.map] at handed
    | ok outcome =>
        simp only [claimed, Except.map, Except.ok.injEq] at handed
        refine ⟨outcome.1, (takenUp env agentId request hydrationRetireCap last.db.agentCommands.rows).length - 1, ?_⟩
        simp only [claimNext, claimed, Except.map, handed, Option.map_some]

-- The insert asks for a fresh uuid7 and for a payload without NUL. The decoder knows
-- every kind but PushBranch, and a command under the nil workspace loses the
-- workspace_id its class requires.
theorem dispatch_roundTrips_iff (sha256 : String → String) (hydrated : AgentCommandKind → Bool)
    (start last : QueueState) (labels : List QueueLabel) (dispatched : Dispatch) (env : ClaimEnv) (agentId : WireUuid)
    (request : ClaimRequest) (row : AgentCommandRow)
    (selects : ∀ queued, queueStep start (.dispatch dispatched) = .ok queued →
      Path (gatewayQueue sha256 hydrated) queued labels last ∧
        row ∈ takenUp env agentId request hydrationRetireCap last.db.agentCommands.rows ∧
        row.id = dispatched.command.commandId)
    (plain : env.hydrators dispatched.command.kind = none) :
    RoundTrips dispatched start env agentId request row last.db ↔
      Enqueueable dispatched start.db ∧ Decodable dispatched.command := by
  rw [← queueStep_enqueues]
  by_cases accepted : ∃ queued, queueStep start (.dispatch dispatched) = .ok queued
  · obtain ⟨queued, enqueued⟩ := accepted
    obtain ⟨path, selected, own⟩ := selects queued enqueued
    have claimed := claim_roundTrips_iff sha256 hydrated start queued last labels dispatched enqueued path env agentId
      request row selected own plain
    exact ⟨fun trip => ⟨trip.enqueued, claimed.mp ⟨trip.enveloped, trip.returned⟩⟩,
      fun both => ⟨both.1, (claimed.mpr both.2).1, (claimed.mpr both.2).2⟩⟩
  · exact ⟨fun trip => absurd trip.enqueued accepted, fun both => absurd both.1 accepted⟩

def queuedPush : QueueState :=
  committed (.dispatch (sampleDispatch (.pushBranch (sampleBase 5)) (.pinned (sampleId 4)))) .empty

def queuedProvision : QueueState := committed (.dispatch (sampleDispatch sampleProvision .unassigned)) .empty

theorem dispatch_roundTrips_provision :
    RoundTrips (sampleDispatch sampleProvision .unassigned) .empty (sampleClaimEnv 0 "first") (sampleId 4) sampleRequest
      (sampleDispatch sampleProvision .unassigned).row queuedProvision.db ↔
      Enqueueable (sampleDispatch sampleProvision .unassigned) QueueState.empty.db ∧ Decodable sampleProvision := by
  refine dispatch_roundTrips_iff sampleSha256 (fun _ => false) .empty queuedProvision []
    (sampleDispatch sampleProvision .unassigned) (sampleClaimEnv 0 "first") (sampleId 4) sampleRequest
    (sampleDispatch sampleProvision .unassigned).row (fun queued enqueued => ?_) rfl
  have same : queued = queuedProvision := (Except.ok.inj (enqueued.symm.trans rfl))
  rw [same]
  exact ⟨.nil queuedProvision, List.mem_singleton.mpr rfl, rfl⟩

-- A re-push is queued under a kind the decoder was not built with: the claim that
-- selects it raises.
theorem push_never_decodes : ¬ ∀ (sha256 : String → String) (hydrated : AgentCommandKind → Bool)
    (start last : QueueState) (labels : List QueueLabel) (dispatched : Dispatch) (env : ClaimEnv) (agentId : WireUuid)
    (request : ClaimRequest) (row : AgentCommandRow)
    (_ : ∀ queued, queueStep start (.dispatch dispatched) = .ok queued →
      Path (gatewayQueue sha256 hydrated) queued labels last ∧
        row ∈ takenUp env agentId request hydrationRetireCap last.db.agentCommands.rows ∧
        row.id = dispatched.command.commandId)
    (_ : env.hydrators dispatched.command.kind = none), RoundTrips dispatched start env agentId request row last.db := by
  intro always
  have trip := always sampleSha256 (fun _ => false) .empty queuedPush []
    (sampleDispatch (.pushBranch (sampleBase 5)) (.pinned (sampleId 4))) (sampleClaimEnv 0 "first") (sampleId 4)
    sampleRequest (sampleDispatch (.pushBranch (sampleBase 5)) (.pinned (sampleId 4))).row
    (fun queued enqueued => by
      rw [show queued = queuedPush from Except.ok.inj (enqueued.symm.trans rfl)]
      exact ⟨.nil queuedPush, List.mem_singleton.mpr rfl, rfl⟩) rfl
  obtain ⟨after, draw, returned⟩ := trip.returned
  have raised : claimNext (sampleClaimEnv 0 "first") (sampleId 4) sampleRequest queuedPush.db =
      .error (.validation { loc := "kind", type := "union_tag_invalid" }) := rfl
  rw [raised] at returned
  cases returned

end Yaaos.Gateway
