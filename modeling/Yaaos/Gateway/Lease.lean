import Yaaos.Gateway.Run

set_option autoImplicit false

namespace Yaaos.Gateway

open Yaaos.Base

theorem buildCommand_decodes (raw : String) (row : AgentCommandRow) (payload : Dict Json) :
    (∃ command, buildCommand raw row payload = .ok command) ↔ ∃ command, validatePython payload = .ok command := by
  unfold buildCommand
  cases validatePython payload with
  | error error => simp
  | ok command => simp

def ClaimedDecodes (hydrated : AgentCommandKind → Bool) (state : QueueState) : Prop :=
  ∀ row ∈ state.db.agentCommands.rows, row.status = .claimed ∨ row.status = .delivered →
    hydrated row.commandKind = false → ∃ command, validatePython row.payload = .ok command

theorem takenUp_decodes (env : ClaimEnv) (agentId : WireUuid) (request : ClaimRequest) (draw : Nat)
    (row next : AgentCommandRow) (took : TakenUp env agentId request draw row next) (claimed : next.status = .claimed)
    (plain : env.hydrators row.commandKind = none) : ∃ command, validatePython row.payload = .ok command := by
  obtain ⟨command, settled⟩ := took.settled claimed
  simp only [settle, plain] at settled
  cases built : buildCommand (env.token draw) row row.payload with
  | error error => simp [built, Except.map] at settled
  | ok other => exact (buildCommand_decodes _ row _).mp ⟨other, built⟩

theorem claimedDecodes_inductive (sha256 : String → String) (hydrated : AgentCommandKind → Bool) :
    Inductive (gatewayQueue sha256 hydrated) (ClaimedDecodes hydrated) where
  initially := by
    rintro state ⟨empty, _, _⟩ row member
    rw [empty] at member
    cases member
  kept := by
    intro state label next decodes allowed taken after member live plain
    have returned : queueStep state label = .ok next := taken
    rcases queueStep_backward state next label returned after member with ⟨row, old, changed⟩ | ⟨dispatched, _, new, _⟩
    · have kept := (rowChange_kept state label row after changed).2
      have kind : after.commandKind = row.commandKind := congrArg CommandOrigin.commandKind kept
      have payload : after.payload = row.payload := congrArg CommandOrigin.payload kept
      rw [kind] at plain
      rw [payload]
      cases label with
      | dispatch dispatched =>
          rw [show after = row from changed] at live
          exact decodes row old live plain
      | claim env agentId request =>
          rcases changed with ⟨position, _, took⟩ | ⟨_, same⟩
          · have unhydrated : env.hydrators row.commandKind = none := by
              have registered := allowed.claimHydrators env agentId request rfl row.commandKind
              rwa [plain, Option.isSome_eq_false_iff, Option.isNone_iff_eq_none] at registered
            rcases live with claimed | delivered
            · exact takenUp_decodes env agentId request _ row after took claimed unhydrated
            · rcases took.status with status | status | status <;> simp [status] at delivered
          · rw [same] at live
            exact decodes row old live plain
      | event env event =>
          refine decodes row old ?_ plain
          rw [show after = if row.id = event.commandId then eventRow event row else row from changed] at live
          split at live
          · unfold eventRow at live
            split at live
            · by_cases claimed : row.status = .claimed
              · exact .inl claimed
              · simpa [acknowledgeReceived, claimed] using live
            · split at live
              · simp [retireRow] at live
              · exact live
          · exact live
      | requeue now locked =>
          refine decodes row old ?_ plain
          rw [show after = if staleClaimed now locked row then expireLease row else row from changed] at live
          split at live
          · unfold expireLease at live
            split at live <;> simp at live
          · exact live
    · rw [new, (dispatch_row_fresh dispatched).1] at live
      simp at live

def offered (row : AgentCommandRow) : AgentCommandRow :=
  { row with
    status := .pending, claimedAt := none
    agentId := if row.commandKind = .provisionWorkspace then none else row.agentId }

structure Entitled (agent : WorkspaceAgentRow) (request : ClaimRequest) (row : AgentCommandRow) : Prop where
  fit : eligible agent.id request (offered row) = true
  org : row.commandKind = .provisionWorkspace → agent.orgId = row.orgId

def Returns (env : ClaimEnv) (agentId : WireUuid) (request : ClaimRequest) (row : AgentCommandRow) (db : GatewayDb) :
    Prop :=
  ∃ after command, claimRow env agentId request db = .ok (after, some (row, command))

theorem eligible_unassigned (agentId : WireUuid) (request : ClaimRequest) (row : AgentCommandRow)
    (cleared : row.agentId = none) (fit : eligible agentId request row = true) :
    row.commandKind = .provisionWorkspace := by
  unfold eligible at fit
  split at fit
  · simp [configUpdateFor, cleared] at fit
  · have provision : request.newWorkspaces > 0 ∧ unassignedProvision row = true := by
      simpa [agentScopedFor, pinnedTo, cleared] using fit
    simp only [unassignedProvision, Bool.and_eq_true, decide_eq_true_eq] at provision
    exact provision.2.1

theorem claimRow_handed_taken (env : ClaimEnv) (agentId : WireUuid) (request : ClaimRequest) (db : GatewayDb)
    (row : AgentCommandRow) (returned : Returns env agentId request row db) :
    row ∈ takenUp env agentId request hydrationRetireCap db.agentCommands.rows := by
  obtain ⟨after, command, claimed⟩ := returned
  exact ((claimRow_spec env agentId request db after _ claimed).handedRow row command rfl).1

theorem claimRow_first (env : ClaimEnv) (agentId : WireUuid) (request : ClaimRequest) (db : GatewayDb)
    (row : AgentCommandRow) (chosen : selectEligibleRowNowait env.locked agentId request db.agentCommands.rows = some row)
    (plain : env.hydrators row.commandKind = none) (decodes : ∃ command, validatePython row.payload = .ok command) :
    Returns env agentId request row db := by
  obtain ⟨command, built⟩ := (buildCommand_decodes (env.token 0) row row.payload).mpr decodes
  have unfailing : (credentialsFail env row && runBearingKinds.contains row.commandKind) = false := by
    simp only [credentialsFail, plain, Bool.false_and]
  have handed := claimRow_handed env agentId request db
  rw [takenUp_single env agentId request _ _ row chosen (.inl unfailing)] at handed
  simp only [lastSettled, List.getLast?_singleton, List.length_singleton, settle, plain, Nat.sub_self, Nat.add_zero,
    built] at handed
  cases claimed : claimRow env agentId request db with
  | error _ => simp [claimed, Except.map] at handed
  | ok outcome =>
      simp only [claimed, Except.map, Except.ok.injEq] at handed
      exact ⟨outcome.1, command, by rw [claimed, ← handed]⟩

theorem expireLease_requeued (row : AgentCommandRow) (left : row.attempt < maxAttempt - 1) :
    expireLease row =
      { row with status := .pending, agentId := none, claimedAt := none, attempt := row.attempt + 1 } := by
  rw [expireLease, if_neg (Nat.not_le.mpr left)]

-- The requeue clears the agent of every row, and only the unassigned bucket, which
-- holds nothing but ProvisionWorkspace, takes up a row without one.
theorem requeue_returned_iff (sha256 : String → String) (hydrated : AgentCommandKind → Bool)
    (unhydrated : hydrated .provisionWorkspace = false) (state : QueueState)
    (reachable : Reachable (gatewayQueue sha256 hydrated) state) (now : Nat) (locked : WireUuid → Bool)
    (row : AgentCommandRow) (member : row ∈ state.db.agentCommands.rows) (stale : staleClaimed now locked row = true)
    (left : row.attempt < maxAttempt - 1) (agent : WorkspaceAgentRow) (request : ClaimRequest)
    (entitled : Entitled agent request row) (env : ClaimEnv)
    (allowed : (QueueLabel.claim env agent.id request).Allowed sha256 hydrated) (unlocked : env.locked row.id = false)
    (front : ∀ other ∈ (requeueStaleClaimed now locked state.db).agentCommands.rows,
      waiting env.locked other = true → eligible agent.id request other = true →
        other.id = row.id ∨ Precedes agent.id request (offered row) other) :
    Returns env agent.id request (expireLease row) (requeueStaleClaimed now locked state.db) ↔
      row.commandKind = .provisionWorkspace := by
  have flipped := expireLease_requeued row left
  have present : expireLease row ∈ (requeueStaleClaimed now locked state.db).agentCommands.rows :=
    List.mem_map.mpr ⟨row, member, by rw [if_pos stale]⟩
  constructor
  · intro returned
    have taken := claimRow_handed_taken env agent.id request _ _ returned
    have fit := (takenUp_member env agent.id request _ _ _ taken).2.2
    have cleared : (expireLease row).agentId = none := by rw [flipped]
    have provision := eligible_unassigned agent.id request _ cleared fit
    rwa [flipped] at provision
  · intro provision
    have claimed : row.status = .claimed := by
      simp only [staleClaimed, Bool.and_eq_true, decide_eq_true_eq] at stale
      exact stale.1.1
    have same : ∀ kind, kind = AgentCommandKind.provisionWorkspace → env.hydrators kind = none := by
      intro kind named
      have registered := allowed.claimHydrators env agent.id request rfl kind
      rwa [named, unhydrated, Option.isSome_eq_false_iff, Option.isNone_iff_eq_none, ← named] at registered
    have decodes := reachable_invariant (gatewayQueue sha256 hydrated) (ClaimedDecodes hydrated)
      (claimedDecodes_inductive sha256 hydrated) state reachable row member (.inl claimed) (by rw [provision, unhydrated])
    have fit : eligible agent.id request (expireLease row) = true := by
      have found := entitled.fit
      rw [flipped]
      simpa [offered, provision, eligible, configUpdateFor, agentScopedFor, unassignedProvision, pinnedTo] using found
    have bucketed : bucket agent.id request (expireLease row) = bucket agent.id request (offered row) := by
      rw [flipped]
      simp [offered, provision, bucket, agentScopedFor, unassignedProvision]
    refine claimRow_first env agent.id request _ (expireLease row) ?_ (same _ ?_) ?_
    · refine selectEligibleRowNowait_eq env.locked agent.id request _ _ present ?_ fit ?_
      · rw [flipped]
        simp [waiting, unlocked]
      · intro other otherMember held otherFit
        rcases front other otherMember held otherFit with sameId | order
        · exact .inl (Table.eq_of_key _ other _ otherMember present (sameId.trans (expireLease_id row).symm))
        · refine .inr ?_
          rw [Precedes, bucketed, expireLease_id]
          exact order
    · rw [flipped]
      exact provision
    · rw [flipped]
      exact decodes

def leasedProvision : QueueState :=
  committed (.claim (sampleClaimEnv 0 "first") (sampleId 4) sampleRequest)
    (committed (.dispatch (sampleDispatch sampleProvision .unassigned)) .empty)

def leasedCleanup : QueueState :=
  committed (.claim (sampleClaimEnv 0 "first") (sampleId 4) sampleRequest)
    (committed (.dispatch (sampleDispatch (.cleanupWorkspace (sampleBase 9)) (.pinned (sampleId 4)))) .empty)

def leasedRow (command : AgentCommand) (route : Route) : AgentCommandRow :=
  stampClaim (sampleClaimEnv 0 "first") (sampleId 4) "first" (sampleDispatch command route).row

def owningAgent : WorkspaceAgentRow := { id := sampleId 4, orgId := sampleId 2, lifecycle := .active }

theorem leased_reachable (command : AgentCommand) (route : Route) :
    Reachable (gatewayQueue sampleSha256 fun _ => false)
      (committed (.claim (sampleClaimEnv 0 "first") (sampleId 4) sampleRequest)
        (committed (.dispatch (sampleDispatch command route)) .empty)) :=
  reachable_committed _ _ _ _ (reachable_committed _ _ _ _ (reachable_empty _ _) (allowed_dispatch _ _ _))
    (sampleClaim_allowed 0 "first" (sampleId 4))

theorem alone_in_front (rows : List AgentCommandRow) (row offer : AgentCommandRow) (agentId : WireUuid)
    (single : rows = [row]) (other : AgentCommandRow) (member : other ∈ rows) :
    other.id = row.id ∨ Precedes agentId sampleRequest offer other := by
  rw [single, List.mem_singleton] at member
  exact .inl (congrArg AgentCommandRow.id member)

theorem requeue_returned_provision :
    Returns (sampleClaimEnv (50 * microseconds) "second") (sampleId 4) sampleRequest
        (expireLease (leasedRow sampleProvision .unassigned))
        (requeueStaleClaimed (40 * microseconds) (fun _ => false) leasedProvision.db) ↔
      (leasedRow sampleProvision .unassigned).commandKind = .provisionWorkspace :=
  requeue_returned_iff sampleSha256 (fun _ => false) rfl leasedProvision (leased_reachable _ _) (40 * microseconds) (fun _ => false)
    (leasedRow sampleProvision .unassigned) (List.mem_singleton.mpr rfl) (by decide) (by decide) owningAgent sampleRequest
    ⟨rfl, fun _ => rfl⟩ (sampleClaimEnv (50 * microseconds) "second") (sampleClaim_allowed (50 * microseconds) "second" (sampleId 4)) rfl
    fun other member _ _ => alone_in_front _ (expireLease (leasedRow sampleProvision .unassigned)) _ _ rfl other member

-- A CleanupWorkspace whose lease lapses stays pending without an agent for good.
theorem requeue_loses_cleanup : ¬ ∀ (sha256 : String → String) (hydrated : AgentCommandKind → Bool)
    (_ : hydrated .provisionWorkspace = false) (state : QueueState)
    (_ : Reachable (gatewayQueue sha256 hydrated) state) (now : Nat) (locked : WireUuid → Bool)
    (row : AgentCommandRow) (_ : row ∈ state.db.agentCommands.rows) (_ : staleClaimed now locked row = true)
    (_ : row.attempt < maxAttempt - 1) (agent : WorkspaceAgentRow) (request : ClaimRequest)
    (_ : Entitled agent request row) (env : ClaimEnv)
    (_ : (QueueLabel.claim env agent.id request).Allowed sha256 hydrated) (_ : env.locked row.id = false)
    (_ : ∀ other ∈ (requeueStaleClaimed now locked state.db).agentCommands.rows,
      waiting env.locked other = true → eligible agent.id request other = true →
        other.id = row.id ∨ Precedes agent.id request (offered row) other),
    Returns env agent.id request (expireLease row) (requeueStaleClaimed now locked state.db) := by
  intro always
  obtain ⟨after, command, returned⟩ := always sampleSha256 (fun _ => false) rfl leasedCleanup (leased_reachable _ _) (40 * microseconds)
    (fun _ => false) (leasedRow (.cleanupWorkspace (sampleBase 9)) (.pinned (sampleId 4))) (List.mem_singleton.mpr rfl)
    (by decide) (by decide) owningAgent sampleRequest ⟨rfl, fun _ => rfl⟩ (sampleClaimEnv (50 * microseconds) "second")
    (sampleClaim_allowed (50 * microseconds) "second" (sampleId 4)) rfl
    fun other member _ _ => alone_in_front (requeueStaleClaimed (40 * microseconds) (fun _ => false) leasedCleanup.db).agentCommands.rows
      (expireLease (leasedRow (.cleanupWorkspace (sampleBase 9)) (.pinned (sampleId 4)))) _ _ rfl other member
  have missed : claimRow (sampleClaimEnv (50 * microseconds) "second") (sampleId 4) sampleRequest
      (requeueStaleClaimed (40 * microseconds) (fun _ => false) leasedCleanup.db) =
      .ok (requeueStaleClaimed (40 * microseconds) (fun _ => false) leasedCleanup.db, none) := rfl
  rw [show owningAgent.id = sampleId 4 from rfl, missed] at returned
  cases returned

end Yaaos.Gateway
