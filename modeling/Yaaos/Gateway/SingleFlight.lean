import Yaaos.Gateway.PlaneStep

set_option autoImplicit false

namespace Yaaos.Gateway

open Yaaos.Base

def hydrationRetired (env : ClaimEnv) (agentId : WireUuid) (request : ClaimRequest) (rows : List AgentCommandRow) :
    List AgentCommandRow :=
  ((takenUp env agentId request hydrationRetireCap rows).take hydrationRetireCap).filter fun row =>
    credentialsFail env row && runBearingKinds.contains row.commandKind

def Plane.Holds (plane : Plane) (commandId : WireUuid) : Prop :=
  ∃ workspace ∈ plane.db.workspaces.rows, workspace.currentCommandId = some commandId

-- A step outside it retires a command that still holds its workspace: a lease that
-- lapsed once too often, or a credential that could not be minted.
def Releases (plane : Plane) : PlaneLabel → Prop
  | .queue (.requeue now locked) => ∀ row ∈ plane.db.agentCommands.rows, staleClaimed now locked row = true →
      row.attempt ≥ maxAttempt - 1 → ¬ plane.Holds row.id
  | .queue (.claim env agentId request) =>
      ∀ row ∈ hydrationRetired env agentId request plane.db.agentCommands.rows, ¬ plane.Holds row.id
  | _ => True

def releasingPlane (sha256 : String → String) (hydrated : AgentCommandKind → Bool) :
    Machine Plane PlaneLabel PlaneError := (controlPlane sha256 hydrated).restrict Releases

def WorkspaceDispatch.payload (dispatched : WorkspaceDispatch) : Dict Json :=
  queuedPayload (dispatched.dispatchTp.getD dispatched.command.traceparent) dispatched.command dispatched.runId

structure SingleFlight (plane : Plane) : Prop where
  atMostOne : ∀ workspace ∈ plane.db.workspaces.rows, ∀ command ∈ plane.db.agentCommands.rows,
    ∀ other ∈ plane.db.agentCommands.rows, workspace.currentCommandId = some command.id →
      workspace.currentCommandId = some other.id → command = other
  live : ∀ workspace ∈ plane.db.workspaces.rows, ∀ command ∈ plane.db.agentCommands.rows,
    workspace.currentCommandId = some command.id → command.status ≠ .done
  claimable : ∀ workspace ∈ plane.db.workspaces.rows, workspace.status = .active →
    (∀ command ∈ plane.db.agentCommands.rows, command.workspaceId = some workspace.id → command.status = .done) →
    ∀ dispatched : WorkspaceDispatch, dispatched.workspaceId = workspace.id → dispatched.claimWorkspace = true →
      uuidv7Check dispatched.command.commandId.val = true → (Json.obj dispatched.payload).storable = true →
      (∀ command ∈ plane.db.agentCommands.rows, command.id ≠ dispatched.command.commandId) →
      ∃ db, dispatchViaWorkspace dispatched plane.db = .ok db ∧
        db.workspaces.find? workspace.id = some (heldBy dispatched.command.commandId workspace)

def ClaimsLive (plane : Plane) : Prop :=
  ∀ workspace ∈ plane.db.workspaces.rows, ∀ commandId, workspace.currentCommandId = some commandId →
    ∃ command ∈ plane.db.agentCommands.rows, command.id = commandId ∧ command.status ≠ .done ∧
      command.workspaceId = some workspace.id

section Hydration

variable (env : ClaimEnv) (agentId : WireUuid) (request : ClaimRequest)

def Retires (remaining : Nat) (db after : GatewayDb) : Prop :=
  ∀ row ∈ db.agentCommands.rows, ∀ next ∈ after.agentCommands.rows, next.id = row.id → next.status = .done →
    row.status ≠ .done → row ∈ (takenUp env agentId request remaining db.agentCommands.rows).take remaining ∧
      (credentialsFail env row && runBearingKinds.contains row.commandKind) = true

theorem retires_unfinished (remaining : Nat) (db : GatewayDb) (row : AgentCommandRow)
    (change : AgentCommandRow → AgentCommandRow) (kept : ∀ row, (change row).id = row.id)
    (unfinished : ∀ row, (change row).status ≠ .done) :
    Retires env agentId request remaining db (db.updateCommand row.id change kept) := by
  intro before member next present same done live
  obtain ⟨source, sourceMember, rfl⟩ := List.mem_map.mp present
  split at done
  · exact absurd done (unfinished source)
  · rename_i missed
    rw [if_neg missed] at same
    have equal : source = before := Table.eq_of_key _ source before sourceMember member same
    rw [equal] at done
    exact absurd done live

theorem claimSelected_last (remaining : Nat) (db after : GatewayDb) (row : AgentCommandRow)
    (handed : Option (AgentCommandRow × AgentCommand))
    (kept : (credentialsFail env row && runBearingKinds.contains row.commandKind) = false ∨ remaining = 0)
    (returned : claimSelected env agentId request remaining db row = .ok (after, handed)) :
    Retires env agentId request remaining db after := by
  have stamped (raw : String) : Retires env agentId request remaining db
      (db.updateCommand row.id (stampClaim env agentId raw) (stampClaim_id env agentId raw)) :=
    retires_unfinished env agentId request remaining db row _ _ fun _ => nofun
  have reverted (raw : String) : Retires env agentId request remaining db
      ((db.updateCommand row.id (stampClaim env agentId raw) (stampClaim_id env agentId raw)).updateCommand row.id
        revertClaim revertClaim_id) := by
    rw [updateCommand_twice]
    exact retires_unfinished env agentId request remaining db row _ _ fun _ => nofun
  have built (raw : String) (payload : Dict Json) (given : ((buildCommand raw row payload).map fun command =>
      (db.updateCommand row.id (stampClaim env agentId raw) (stampClaim_id env agentId raw), some (row, command))) =
        .ok (after, handed)) : Retires env agentId request remaining db after := by
    cases command : buildCommand raw row payload with
    | error error =>
        rw [command] at given
        cases given
    | ok command =>
        simp only [command, Except.map, Except.ok.injEq, Prod.mk.injEq] at given
        rw [← given.1]
        exact stamped raw
  unfold claimSelected at returned
  unfold credentialsFail at kept
  cases registered : env.hydrators row.commandKind with
  | none =>
      simp only [registered] at returned
      exact built _ _ returned
  | some hydrator =>
      simp only [registered] at returned kept
      cases hydrated : hydrator row.payload row.orgId with
      | ok payload =>
          simp only [hydrated] at returned
          exact built _ _ returned
      | error failure =>
          cases failure with
          | raised => simp [hydrated] at returned
          | credential userMessage =>
              simp only [hydrated, Bool.true_and] at returned kept
              rcases kept with plain | last
              · simp only [plain, Bool.false_eq_true, if_false, Except.ok.injEq, Prod.mk.injEq] at returned
                rw [← returned.1]
                exact reverted _
              · subst last
                simp only [ite_self, Except.ok.injEq, Prod.mk.injEq] at returned
                rw [← returned.1]
                exact reverted _

theorem claimSelected_retires (remaining : Nat) (db after : GatewayDb) (row : AgentCommandRow)
    (handed : Option (AgentCommandRow × AgentCommand))
    (chosen : selectEligibleRowNowait env.locked agentId request db.agentCommands.rows = some row)
    (returned : claimSelected env agentId request remaining db row = .ok (after, handed)) :
    Retires env agentId request remaining db after := by
  induction remaining generalizing db row with
  | zero => exact claimSelected_last env agentId request 0 db after row handed (.inr rfl) returned
  | succ remaining ih =>
      cases fails : credentialsFail env row && runBearingKinds.contains row.commandKind with
      | false => exact claimSelected_last env agentId request (remaining + 1) db after row handed (.inl fails) returned
      | true =>
          obtain ⟨reported, unfolded, commands, _, several⟩ :=
            claimSelected_step env agentId request remaining db row chosen fails
          rw [unfolded] at returned
          obtain ⟨member, _, _⟩ := selectEligibleRowNowait_some env.locked agentId request _ row chosen
          have later : Retires env agentId request remaining reported after := by
            cases next : selectEligibleRowNowait env.locked agentId request reported.agentCommands.rows with
            | none =>
                simp only [next, Except.ok.injEq, Prod.mk.injEq] at returned
                rw [← returned.1]
                intro before present other otherPresent same done live
                rw [Table.eq_of_key _ other before otherPresent present same] at done
                exact absurd done live
            | some following =>
                simp only [next] at returned
                exact ih reported following next returned
          intro before present next nextPresent same done live
          rw [several, List.take_succ_cons]
          by_cases own : before = row
          · rw [own]
            exact ⟨List.mem_cons_self .., fails⟩
          · have other : before.id ≠ row.id := fun equal => own (Table.eq_of_key _ before row present member equal)
            have kept : before ∈ reported.agentCommands.rows := by
              rw [commands]
              exact List.mem_map.mpr ⟨before, present, by rw [if_neg (by simpa using other)]⟩
            obtain ⟨taken, failing⟩ := later before kept next nextPresent same done live
            exact ⟨List.mem_cons_of_mem _ taken, failing⟩

theorem claimRow_retires (db after : GatewayDb) (handed : Option (AgentCommandRow × AgentCommand))
    (returned : claimRow env agentId request db = .ok (after, handed)) (row next : AgentCommandRow)
    (member : row ∈ db.agentCommands.rows) (present : next ∈ after.agentCommands.rows) (same : next.id = row.id)
    (done : next.status = .done) (live : row.status ≠ .done) :
    row ∈ hydrationRetired env agentId request db.agentCommands.rows := by
  unfold claimRow at returned
  cases chosen : selectEligibleRowNowait env.locked agentId request db.agentCommands.rows with
  | none =>
      simp only [chosen, Except.ok.injEq, Prod.mk.injEq] at returned
      rw [← returned.1] at present
      rw [Table.eq_of_key _ next row present member same] at done
      exact absurd done live
  | some first =>
      simp only [chosen] at returned
      exact List.mem_filter.mpr
        (claimSelected_retires env agentId request hydrationRetireCap db after first handed chosen returned row member next
          present same done live)

end Hydration

def Unreported (commandId : WireUuid) : PlaneLabel → Prop
  | .queue (.event _ event) => event.isTerminal = true → event.commandId ≠ commandId
  | _ => True

inductive ClaimOrigin (row : WorkspaceRow) (commandId : WireUuid) : PlaneLabel → Prop where
  | kept (label : PlaneLabel) (held : row.currentCommandId = some commandId)
      (unreported : Unreported commandId label) : ClaimOrigin row commandId label
  | made (dispatched : WorkspaceDispatch) (own : row.id = dispatched.workspaceId)
      (same : dispatched.command.commandId = commandId) : ClaimOrigin row commandId (.dispatchVia dispatched)

theorem claimable_id (workspaceId : WireUuid) (row : WorkspaceRow) (free : claimable workspaceId row = true) :
    row.id = workspaceId := by
  simp only [claimable, Bool.and_eq_true, decide_eq_true_eq] at free
  exact free.1.1

theorem turnedRow_claim (env : TurnEnv) (row : WorkspaceRow) (job : Job) :
    (turnedRow env row job).currentCommandId = row.currentCommandId := by
  have kept (chosen : Prop) [Decidable chosen] (changed : WorkspaceRow)
      (same : changed.currentCommandId = row.currentCommandId) :
      (if chosen then changed else row).currentCommandId = row.currentCommandId := by
    split
    · exact same
    · rfl
  unfold turnedRow
  split
  · exact kept _ _ rfl
  · refine kept _ _ ?_
    split
    · exact kept _ _ rfl
    · rfl
  · exact kept _ _ rfl
  · exact kept _ _ rfl
  · rfl

theorem steppedRow_claim (plane : Plane) (row : WorkspaceRow) (label : PlaneLabel) (commandId : WireUuid)
    (held : (steppedRow plane row label).currentCommandId = some commandId) : ClaimOrigin row commandId label := by
  cases label with
  | queue label =>
      cases label with
      | event env event =>
          simp only [steppedRow, releasedRow] at held
          split at held
          · cases held
          · rename_i other
            exact .kept _ held fun terminal own => other ⟨terminal, by rw [own]; exact held⟩
      | dispatch dispatched => exact .kept _ held trivial
      | claim env agentId request => exact .kept _ held trivial
      | requeue now locked => exact .kept _ held trivial
  | dispatchVia dispatched =>
      simp only [steppedRow, viaRow] at held
      split at held
      · rename_i both
        exact .made dispatched (claimable_id _ row both.2) (Option.some.inj held)
      · exact .kept _ held trivial
  | pause workspaceId =>
      simp only [steppedRow] at held
      split at held
      · exact .kept _ held trivial
      · exact .kept _ held trivial
  | close workspaceId =>
      simp only [steppedRow] at held
      split at held
      · exact .kept _ held trivial
      · exact .kept _ held trivial
  | turn index env =>
      simp only [steppedRow] at held
      split at held
      · exact .kept _ held trivial
      · rw [turnedRow_claim] at held
        exact .kept _ held trivial
  | tick seconds => exact .kept _ held trivial
  | startSweep => exact .kept _ held trivial
  | agentLost offline => exact .kept _ held trivial
  | report env report => exact .kept _ held trivial
  | heartbeat agentId reported => exact .kept _ held trivial
  | crash index => exact .kept _ held trivial

theorem unfinished_acknowledged (row : AgentCommandRow) (live : row.status ≠ .done) :
    (acknowledgeReceived row).status ≠ .done := by
  unfold acknowledgeReceived
  simp only
  split
  · exact nofun
  · exact live

theorem queueStep_live (plane : Plane) (next : QueueState) (label : QueueLabel) (command : AgentCommandRow)
    (taken : queueStep plane.queue label = .ok next) (releases : Releases plane (.queue label))
    (member : command ∈ plane.db.agentCommands.rows) (live : command.status ≠ .done) (held : plane.Holds command.id)
    (unreported : Unreported command.id (.queue label)) :
    ∃ after ∈ next.db.agentCommands.rows, after.id = command.id ∧ after.status ≠ .done ∧
      after.workspaceId = command.workspaceId := by
  obtain ⟨after, present, changed⟩ := queueStep_forward plane.queue next label taken command member
  obtain ⟨sameId, origin⟩ := rowChange_kept plane.queue label command after changed
  refine ⟨after, present, sameId, ?_, congrArg CommandOrigin.workspaceId origin⟩
  cases label with
  | dispatch dispatched =>
      rw [show after = command from changed]
      exact live
  | claim env agentId request =>
      intro done
      simp only [queueStep] at taken
      cases returned : claimRow env agentId request plane.queue.db with
      | error error =>
          rw [returned] at taken
          cases taken
      | ok claimed =>
          rw [returned] at taken
          cases taken
          exact releases command (claimRow_retires env agentId request plane.db claimed.1 claimed.2 returned command after
            member present sameId done live) held
  | event env event =>
      rw [show after = if command.id = event.commandId then eventRow event command else command from changed]
      split
      · rename_i own
        rw [eventRow]
        split
        · exact unfinished_acknowledged command live
        · split
          · rename_i terminal
            exact absurd own.symm (unreported terminal)
          · exact live
      · exact live
  | requeue now locked =>
      rw [show after = if staleClaimed now locked command then expireLease command else command from changed]
      split
      · rename_i stale
        unfold expireLease
        split
        · rename_i capped
          exact absurd held (releases command member stale capped)
        · intro same
          cases same
      · exact live

theorem claimsLive_step (plane next : Plane) (label : PlaneLabel) (sha256 : String → String)
    (hydrated : AgentCommandKind → Bool) (inv : ClaimsLive plane) (allowed : label.Allowed sha256 hydrated plane)
    (releases : Releases plane label) (taken : planeStep plane label = .ok next) : ClaimsLive next := by
  intro workspace member commandId held
  obtain ⟨born, rows, created⟩ := planeStep_workspaces plane next label taken
  rw [rows, List.mem_append] at member
  rcases member with old | new
  · obtain ⟨row, present, rfl⟩ := List.mem_map.mp old
    rw [(steppedRow_same plane row label).id]
    cases steppedRow_claim plane row label commandId held with
    | kept _ before unreported =>
        obtain ⟨command, queued, own, live, placed⟩ := inv row present commandId before
        cases label with
        | queue label =>
            obtain ⟨queue, stepped, rfl⟩ := planeStep_queue plane next label taken
            rw [← own] at before unreported ⊢
            obtain ⟨after, kept, same, still, sameWorkspace⟩ := queueStep_live plane queue label command stepped releases
              queued live ⟨row, present, before⟩ unreported
            exact ⟨after, kept, same, still, sameWorkspace.trans placed⟩
        | dispatchVia dispatched =>
            obtain ⟨db, spec, rfl⟩ := planeStep_via plane next dispatched taken
            obtain ⟨_, _, _, _, commands, _⟩ := spec.enqueued
            refine ⟨command, ?_, own, live, placed⟩
            change command ∈ db.agentCommands.rows
            rw [commands]
            exact List.mem_append_left _ queued
        | tick seconds | pause workspaceId | close workspaceId | startSweep | agentLost offline | report env report
        | heartbeat agentId reported | turn index env | crash index =>
            refine ⟨command, ?_, own, live, placed⟩
            rw [planeStep_commands plane next _ taken rfl]
            exact queued
    | made dispatched placed same =>
        obtain ⟨db, spec, rfl⟩ := planeStep_via plane next dispatched taken
        obtain ⟨_, sent, _, sentCommand, commands, _⟩ := spec.enqueued
        obtain ⟨_, minted, named⟩ := allowed
        refine ⟨sent.row, ?_, ?_, ?_, ?_⟩
        · change sent.row ∈ db.agentCommands.rows
          rw [commands]
          exact List.mem_append_right _ (List.mem_singleton.mpr rfl)
        · rw [dispatch_row_id, sentCommand, same]
        · rw [(dispatch_row_fresh sent).1]
          exact nofun
        · have origin := congrArg CommandOrigin.workspaceId (dispatch_row_origin sent)
          refine origin.trans ?_
          rw [sentCommand, placed]
          exact queuedWorkspaceId_some dispatched.command dispatched.workspaceId named minted
  · obtain ⟨free, _⟩ := born_unclaimed plane workspace label (created workspace (Option.mem_toList.mp new))
    rw [free] at held
    cases held

theorem claimsLive_inductive (sha256 : String → String) (hydrated : AgentCommandKind → Bool) :
    Inductive (releasingPlane sha256 hydrated) ClaimsLive where
  initially := by
    rintro plane ⟨_, workspaces, _⟩ workspace member
    rw [workspaces] at member
    cases member
  kept := fun plane label next inv allowed taken =>
    claimsLive_step plane next label sha256 hydrated inv allowed.1 allowed.2 taken

theorem dispatchViaWorkspace_claims (dispatched : WorkspaceDispatch) (db : GatewayDb) (workspace : WorkspaceRow)
    (found : db.workspaces.find? dispatched.workspaceId = some workspace) (active : workspace.status = .active)
    (free : workspace.currentCommandId = none) (claims : dispatched.claimWorkspace = true)
    (minted : uuidv7Check dispatched.command.commandId.val = true)
    (stored : (Json.obj dispatched.payload).storable = true)
    (fresh : (dispatched.sent workspace).row.id ∉ db.agentCommands.rows.map AgentCommandRow.id) :
    dispatchViaWorkspace dispatched db = .ok ({ db with agentCommands := {
        rows := db.agentCommands.rows ++ [(dispatched.sent workspace).row]
        unique := Table.append_unique _ _ fresh } }.updateWorkspaces (claimable dispatched.workspaceId)
      (heldBy dispatched.command.commandId) fun _ => rfl) := by
  obtain ⟨member, own⟩ := Table.find?_some _ _ _ found
  have gated : db.workspaces.rows.any (claimable dispatched.workspaceId) = true := by
    refine List.any_eq_true.mpr ⟨workspace, member, ?_⟩
    simp only [claimable, own, free, active, decide_true, Bool.and_self]
  unfold dispatchViaWorkspace
  rw [found]
  simp only [dispatchCommand_enqueues (dispatched.sent workspace) db minted stored fresh, claims, if_true, tryClaim, gated]

theorem claimsLive_singleFlight (plane : Plane) (inv : ClaimsLive plane) : SingleFlight plane where
  atMostOne := by
    intro workspace _ command member other otherMember held otherHeld
    have same : command.id = other.id := Option.some.inj (held.symm.trans otherHeld)
    exact Table.eq_of_key _ command other member otherMember same
  live := by
    intro workspace member command queued held
    obtain ⟨other, present, own, live, _⟩ := inv workspace member command.id held
    rw [Table.eq_of_key _ command other queued present own.symm]
    exact live
  claimable := by
    intro workspace member active ended dispatched same claims minted stored fresh
    have free : workspace.currentCommandId = none := by
      by_contra held
      obtain ⟨commandId, holds⟩ := Option.ne_none_iff_exists'.mp held
      obtain ⟨command, queued, _, live, placed⟩ := inv workspace member commandId holds
      exact live (ended command queued placed)
    have found := Table.find?_of_mem _ workspace member
    have unqueued : (dispatched.sent workspace).row.id ∉ plane.db.agentCommands.rows.map AgentCommandRow.id := by
      intro queued
      obtain ⟨command, present, equal⟩ := List.mem_map.mp queued
      exact fresh command present (equal.trans (dispatch_row_id _))
    have returned := dispatchViaWorkspace_claims dispatched plane.db workspace (same ▸ found) active free claims minted
      stored unqueued
    refine ⟨_, returned, Table.find?_eq _ _ _ ?_ rfl⟩
    rw [(dispatchViaWorkspace_spec dispatched plane.db _ returned).workspaces]
    refine List.mem_map.mpr ⟨workspace, member, ?_⟩
    rw [viaRow, if_pos ⟨claims, by simp only [claimable, same, free, active, decide_true, Bool.and_self]⟩]

theorem reachable_singleFlight (sha256 : String → String) (hydrated : AgentCommandKind → Bool) (plane : Plane)
    (reachable : Reachable (releasingPlane sha256 hydrated) plane) : SingleFlight plane :=
  claimsLive_singleFlight plane
    (reachable_invariant _ ClaimsLive (claimsLive_inductive sha256 hydrated) plane reachable)

def sampleInvocation : WorkspaceDispatch := {
  dispatchTp := some "00-0af7651916cd43dd8448eb211c80319c-b7ad6b7169203331-01"
  command := .invokeClaudeCode { sampleBase 7 with traceparent := "" } {
    invocation := [], mcpServers := [], wallclockSeconds := ⟨600, by decide⟩, resultSpec := [], skillPath := "plan" }
  workspaceId := sampleId 1, runId := some (sampleId 3), claimWorkspace := true }

theorem invocation_storable : (Json.obj sampleInvocation.payload).storable = true := by decide +kernel

theorem invocation_fresh : (sampleInvocation.sent provisionedRow).row.id ∉
    provisionedPlane.db.agentCommands.rows.map AgentCommandRow.id := by decide +kernel

def heldPlane : Plane := provisionedPlane.withDb ({ provisionedPlane.db with agentCommands := {
    rows := provisionedPlane.db.agentCommands.rows ++ [(sampleInvocation.sent provisionedRow).row]
    unique := Table.append_unique _ _ invocation_fresh } }.updateWorkspaces (claimable sampleInvocation.workspaceId)
  (heldBy sampleInvocation.command.commandId) fun _ => rfl)

theorem heldPlane_step : planeStep provisionedPlane (.dispatchVia sampleInvocation) = .ok heldPlane := by
  have sent := dispatchViaWorkspace_claims sampleInvocation provisionedPlane.db provisionedRow provisionedPlane_row rfl rfl
    rfl (by decide) invocation_storable invocation_fresh
  simp only [planeStep, sent, Except.map, heldPlane]

theorem heldPlane_reachable : Reachable samplePlane heldPlane := by
  refine reachable_step samplePlane provisionedPlane heldPlane (.dispatchVia sampleInvocation) provisionedPlane_reachable
    ?_ ?_
  · exact ⟨by decide, by decide, rfl⟩
  · rw [samplePlane_step]
    exact heldPlane_step

theorem heldPlane_releasing : Reachable (releasingPlane sampleSha256 sampleHydrated) heldPlane := by
  have queued : Path (samplePlane.restrict Releases) Plane.empty [.queue (.dispatch provisionDispatch)] queuedPlane :=
    path_single _ _ _ _ ⟨provisionDispatch_allowed, trivial⟩ (restricted_step _ _ _ _ queuedPlane_step)
  have provisioned : Path (samplePlane.restrict Releases) queuedPlane sampleProvisioning provisionedPlane := by
    refine commits_restrict samplePlane Releases queuedPlane sampleProvisioning provisionedPlane_commits ?_
    refine ⟨fun row _ held => ?_, trivial, trivial, trivial⟩
    obtain ⟨workspace, member, _⟩ := held
    cases member
  have held : Path (samplePlane.restrict Releases) provisionedPlane [.dispatchVia sampleInvocation] heldPlane :=
    path_single _ _ _ _ ⟨⟨by decide, by decide, rfl⟩, trivial⟩ (restricted_step _ _ _ _ heldPlane_step)
  exact ⟨Plane.empty, _, ⟨⟨rfl, rfl, rfl⟩, rfl, rfl, rfl, rfl, rfl⟩,
    path_append _ _ _ _ _ _ queued (path_append _ _ _ _ _ _ provisioned held)⟩

theorem heldPlane_singleFlight : SingleFlight heldPlane :=
  reachable_singleFlight sampleSha256 sampleHydrated heldPlane heldPlane_releasing

def revokedClaim : PlaneLabel := .queue (.claim (revokedClaimEnv 1 "second") (sampleId 4) sampleRequest)

def revokedPlane : Plane := samplePlane.committed revokedClaim heldPlane

theorem revokedPlane_reachable : Reachable samplePlane revokedPlane :=
  Base.reachable_committed samplePlane revokedClaim heldPlane heldPlane_reachable
    (allowed_queue sampleSha256 sampleHydrated heldPlane _ (revokedClaim_allowed 1 "second" (sampleId 4))
      (by decide +kernel))

theorem hydration_keeps_claim : ¬ ∀ (sha256 : String → String) (hydrated : AgentCommandKind → Bool) (plane : Plane)
    (_ : Reachable (controlPlane sha256 hydrated) plane), SingleFlight plane := by
  intro always
  have flight := always sampleSha256 sampleHydrated revokedPlane revokedPlane_reachable
  have stuck : (revokedPlane.db.workspaces.rows.any fun workspace => revokedPlane.db.agentCommands.rows.any fun command =>
      decide (workspace.currentCommandId = some command.id) && decide (command.status = .done)) = true := by
    decide +kernel
  obtain ⟨workspace, member, some⟩ := List.any_eq_true.mp stuck
  obtain ⟨command, queued, both⟩ := List.any_eq_true.mp some
  rw [Bool.and_eq_true, decide_eq_true_eq, decide_eq_true_eq] at both
  exact flight.live workspace member command queued both.1 both.2

end Yaaos.Gateway
