import Yaaos.Gateway.PlaneStep

set_option autoImplicit false

namespace Yaaos.Gateway

open Yaaos.Base

-- The agents of this tree post no workspace events.
def Eventless : Plane → PlaneLabel → Prop
  | _, .report _ _ => False
  | _, _ => True

def eventlessPlane (sha256 : String → String) (hydrated : AgentCommandKind → Bool) :
    Machine Plane PlaneLabel PlaneError := (controlPlane sha256 hydrated).restrict Eventless

structure Reconciled (begun answered : Plane) (answer : HeartbeatAnswer) : Prop where
  owned : ∀ id ∈ answer.forgottenWorkspaces, ∀ row, answered.workspace id = some row →
    row.owningAgentId = answer.agentId → row.status = .destroyed
  provisioning : ∀ id ∈ answer.forgottenWorkspaces, ∀ command ∈ answered.db.agentCommands.rows,
    provisioningRow command = true → command.workspaceId ≠ some id
  foreign : ∀ id ∈ answer.reported, (begun.workspace id).isSome = true → ∀ row, answered.workspace id = some row →
    row.owningAgentId ≠ answer.agentId ∨ row.status = .destroyed → id ∈ answer.forgottenWorkspaces

def OnlyOwn (begun answered : Plane) (agentId : WireUuid) (reported : List WireUuid) : Prop :=
  ∀ id ∈ reported, (begun.workspace id).isSome = true → ∀ row, answered.workspace id = some row →
    row.owningAgentId ≠ agentId → row.status = .destroyed

structure Provisions (plane : Plane) : Prop where
  placed : ∀ command ∈ plane.db.agentCommands.rows, command.commandKind = .provisionWorkspace →
    ∃ workspaceId, command.workspaceId = some workspaceId ∧
      command.payload.lookup "workspace_id" = some (uuidJson workspaceId)
  unique : ∀ command ∈ plane.db.agentCommands.rows, ∀ other ∈ plane.db.agentCommands.rows,
    command.commandKind = .provisionWorkspace → other.commandKind = .provisionWorkspace →
      command.workspaceId = other.workspaceId → command = other
  ended : ∀ workspace ∈ plane.db.workspaces.rows, ∀ command ∈ plane.db.agentCommands.rows,
    command.commandKind = .provisionWorkspace → command.workspaceId = some workspace.id → command.status = .done
  excluded : ∀ agentId reported provisioning, Job.beating agentId reported provisioning ∈ plane.jobs →
    ∀ id ∈ reported, ∀ command ∈ plane.db.agentCommands.rows, provisioningRow command = true →
      command.workspaceId = some id → id ∈ provisioning
  eventless : ∀ env report verdict, Job.reporting env report verdict ∉ plane.jobs

theorem provisioningRow_iff (command : AgentCommandRow) :
    provisioningRow command = true ↔ command.commandKind = .provisionWorkspace ∧ command.status ≠ .done := by
  rw [provisioningRow, Bool.and_eq_true, decide_eq_true_eq, decide_eq_true_eq]

theorem provisioningIds_mem (reported : List WireUuid) (db : GatewayDb) (id : WireUuid) :
    id ∈ provisioningIds reported db ↔ id ∈ reported ∧
      ∃ command ∈ db.agentCommands.rows, provisioningRow command = true ∧ command.workspaceId = some id := by
  simp only [provisioningIds, List.mem_filterMap, List.mem_filter, Option.filter_eq_some_iff, List.contains_iff_mem]
  constructor
  · rintro ⟨command, ⟨member, flight⟩, named, known⟩
    exact ⟨known, command, member, flight, named⟩
  · rintro ⟨known, command, member, flight, named⟩
    exact ⟨command, ⟨member, flight⟩, named, known⟩

theorem answerHeartbeat_mem (agentId : WireUuid) (reported provisioning : List WireUuid) (plane : Plane)
    (id : WireUuid) : id ∈ (answerHeartbeat agentId reported provisioning plane.db).forgottenWorkspaces ↔
      id ∈ reported ∧ id ∉ provisioning ∧ ∀ row, plane.workspace id = some row → row.status = .destroyed := by
  simp only [answerHeartbeat, reconcileHeartbeat, List.mem_filter, Bool.not_eq_true', Plane.workspace, Plane.db,
    Bool.eq_false_iff, ne_eq, List.contains_iff_mem, and_assoc]
  refine and_congr_right fun _ => and_congr_right fun _ => ?_
  cases plane.queue.db.workspaces.find? id with
  | none => exact ⟨(by intros; contradiction), fun _ => rfl⟩
  | some row =>
      simp only [decide_eq_true_eq, Option.some.injEq]
      exact ⟨fun destroyed other same => same ▸ destroyed, fun all => all row rfl⟩

theorem reconciled_iff (begun answered : Plane) (agentId : WireUuid) (reported : List WireUuid)
    (before : Provisions begun) (inv : Provisions answered)
    (waits : Job.beating agentId reported (provisioningIds reported begun.db) ∈ answered.jobs) :
    Reconciled begun answered (answerHeartbeat agentId reported (provisioningIds reported begun.db) answered.db) ↔
      OnlyOwn begun answered agentId reported := by
  have forgotten := answerHeartbeat_mem agentId reported (provisioningIds reported begun.db) answered
  have materialised (id : WireUuid) (present : (begun.workspace id).isSome = true) :
      id ∉ provisioningIds reported begun.db := by
    intro flight
    obtain ⟨_, command, member, open_, named⟩ := (provisioningIds_mem reported begun.db id).mp flight
    obtain ⟨row, found⟩ := Option.isSome_iff_exists.mp present
    obtain ⟨rowMember, own⟩ := Table.find?_some _ _ _ found
    obtain ⟨kind, live⟩ := (provisioningRow_iff command).mp open_
    exact live (before.ended row rowMember command member kind (by rw [own]; exact named))
  constructor
  · intro reconciled id known present row found other
    have dropped := reconciled.foreign id known present row found (.inl other)
    exact ((forgotten id).mp dropped).2.2 row found
  · intro own
    refine ⟨fun id dropped row found _ => ((forgotten id).mp dropped).2.2 row found, fun id dropped command member flight
      named => ?_, fun id known present row found stray => (forgotten id).mpr ⟨known, materialised id present, ?_⟩⟩
    · obtain ⟨known, missed, _⟩ := (forgotten id).mp dropped
      exact missed (inv.excluded agentId reported _ waits id known command member flight named)
    · intro same equal
      rw [← Option.some.inj (found.symm.trans equal)]
      by_cases ours : row.owningAgentId = agentId
      · exact stray.resolve_left fun other => other ours
      · exact own id known present row found ours

section Kept

variable (sha256 : String → String) (hydrated : AgentCommandKind → Bool) (plane next : Plane) (label : PlaneLabel)

theorem dispatch_row_kind (dispatched : Dispatch) : dispatched.row.commandKind = dispatched.command.kind :=
  congrArg CommandOrigin.commandKind (dispatch_row_origin dispatched)

theorem provision_fresh (dispatched : Dispatch) (kind : dispatched.row.commandKind = .provisionWorkspace)
    (allowed : (PlaneLabel.queue (.dispatch dispatched)).Allowed sha256 hydrated plane) :
    ∃ workspaceId, dispatched.row.workspaceId = some workspaceId ∧
      dispatched.row.payload.lookup "workspace_id" = some (uuidJson workspaceId) ∧ plane.Fresh workspaceId := by
  rw [dispatch_row_kind] at kind
  have placed : ∃ workspaceId, dispatched.command.workspaceId = some workspaceId := by
    cases command : dispatched.command with
    | provisionWorkspace base fields => exact ⟨_, rfl⟩
    | _ => rw [command] at kind; cases kind
  obtain ⟨workspaceId, named⟩ := placed
  obtain ⟨minted, fresh⟩ := allowed.2.2 dispatched rfl kind workspaceId named
  have queued := queuedWorkspaceId_some dispatched.command workspaceId named minted
  have origin := dispatch_row_origin dispatched
  refine ⟨workspaceId, (congrArg CommandOrigin.workspaceId origin).trans queued, ?_, fresh⟩
  rw [show dispatched.row.payload = dispatched.payload from congrArg CommandOrigin.payload origin, Dispatch.payload,
    queuedPayload, queued]
  exact lookup_envelopeKey _ _ _ _ _ _ _ _ (envelope_workspaceId _ _ _ _ _)

inductive ProvisionSource (command : AgentCommandRow) : Prop where
  | kept (old : AgentCommandRow) (member : old ∈ plane.db.agentCommands.rows)
      (changed : PlaneChange plane old command label) (kind : old.commandKind = .provisionWorkspace)
      (placed : old.workspaceId = command.workspaceId) (payload : old.payload = command.payload) :
      ProvisionSource command
  | fresh (workspaceId : WireUuid) (placed : command.workspaceId = some workspaceId)
      (payload : command.payload.lookup "workspace_id" = some (uuidJson workspaceId)) (fresh : plane.Fresh workspaceId)
      (dispatched : Dispatch) (sends : label = .queue (.dispatch dispatched)) (same : command = dispatched.row) :
      ProvisionSource command

theorem planeStep_provision (allowed : label.Allowed sha256 hydrated plane) (taken : planeStep plane label = .ok next)
    (command : AgentCommandRow) (member : command ∈ next.db.agentCommands.rows)
    (kind : command.commandKind = .provisionWorkspace) : ProvisionSource plane label command := by
  cases planeStep_command plane next label taken command member with
  | kept _ old present changed =>
      obtain ⟨_, origin⟩ := planeChange_kept plane old command label changed
      refine .kept old present changed ?_ ?_ ?_
      · rw [← kind]
        exact (congrArg CommandOrigin.commandKind origin).symm
      · exact (congrArg CommandOrigin.workspaceId origin).symm
      · exact (congrArg CommandOrigin.payload origin).symm
  | dispatched dispatched same =>
      subst same
      obtain ⟨workspaceId, placed, payload, fresh⟩ := provision_fresh sha256 hydrated plane dispatched kind allowed
      exact .fresh workspaceId placed payload fresh dispatched rfl rfl
  | sent dispatched sent own same =>
      rw [same, dispatch_row_kind, own] at kind
      exact absurd kind allowed.1

theorem kept_unfinished (old command : AgentCommandRow) (changed : PlaneChange plane old command label)
    (live : command.status ≠ .done) : old.status ≠ .done := by
  intro done
  rw [planeChange_done plane old command label changed done] at live
  exact live done

theorem turnedJob_silent (env : TurnEnv) (job : Job) :
    (∀ agentId reported provisioning, turnedJob env plane job ≠ .beating agentId reported provisioning) ∧
      ∀ eventEnv report verdict, turnedJob env plane job ≠ .reporting eventEnv report verdict := by
  cases job with
  | reaping doomed =>
      cases doomed with
      | nil => exact ⟨fun _ _ _ same => (by cases same), fun _ _ _ same => by cases same⟩
      | cons row rest =>
          rw [turnedJob]
          unfold beginDestroy
          split
          · split
            · exact ⟨fun _ _ _ same => (by cases same), fun _ _ _ same => by cases same⟩
            · simp only
              split <;> exact ⟨fun _ _ _ same => (by cases same), fun _ _ _ same => by cases same⟩
          · exact ⟨fun _ _ _ same => (by cases same), fun _ _ _ same => by cases same⟩
  | ttl _ | idle _ _ | liveness _ | picking _ | committing _ _ | destroying _ _ _ | reporting _ _ _ | beating _ _ _
  | ended => exact ⟨fun _ _ _ same => (by cases same), fun _ _ _ same => by cases same⟩

theorem provisions_excluded (inv : Provisions plane) (allowed : label.Allowed sha256 hydrated plane)
    (taken : planeStep plane label = .ok next) (agentId : WireUuid) (reported provisioning : List WireUuid)
    (waits : Job.beating agentId reported provisioning ∈ next.jobs) (id : WireUuid) (known : id ∈ reported)
    (command : AgentCommandRow) (member : command ∈ next.db.agentCommands.rows) (flight : provisioningRow command = true)
    (named : command.workspaceId = some id) : id ∈ provisioning := by
  obtain ⟨kind, live⟩ := (provisioningRow_iff command).mp flight
  cases planeStep_job plane next label taken _ waits with
  | waited _ present =>
      cases planeStep_provision sha256 hydrated plane next label allowed taken command member kind with
      | kept old oldMember changed oldKind placed _ =>
          have running := (provisioningRow_iff old).mpr ⟨oldKind, kept_unfinished plane label old command changed live⟩
          exact inv.excluded agentId reported provisioning present id known old oldMember running (placed.trans named)
      | fresh workspaceId placed _ fresh _ sends _ =>
          rw [Option.some.inj (placed.symm.trans named)] at fresh
          exact absurd known (fresh.2.2 agentId reported provisioning present)
  | opened _ opens =>
      cases label with
      | heartbeat other others =>
          cases opens
          cases taken
          exact (provisioningIds_mem reported plane.db id).mpr ⟨known, command, member, flight, named⟩
      | report env report =>
          obtain ⟨verdict, _, same⟩ := Option.map_eq_some_iff.mp opens
          cases same
      | startSweep => cases opens
      | agentLost offline => cases opens
      | queue _ | tick _ | dispatchVia _ | pause _ | close _ | turn _ _ | crash _ => cases opens
  | turned index env old waiting same => exact absurd same.symm ((turnedJob_silent plane env old).1 _ _ _)
  | crashed index same => cases same

theorem provisions_ended (inv : Provisions plane) (allowed : label.Allowed sha256 hydrated plane)
    (taken : planeStep plane label = .ok next) (workspace : WorkspaceRow)
    (present : workspace ∈ next.db.workspaces.rows) (command : AgentCommandRow)
    (member : command ∈ next.db.agentCommands.rows) (kind : command.commandKind = .provisionWorkspace)
    (named : command.workspaceId = some workspace.id) : command.status = .done := by
  obtain ⟨born, rows, created⟩ := planeStep_workspaces plane next label taken
  rw [rows, List.mem_append] at present
  cases planeStep_provision sha256 hydrated plane next label allowed taken command member kind with
  | kept old oldMember changed oldKind placed _ =>
      rcases present with before | new
      · obtain ⟨row, rowMember, rfl⟩ := List.mem_map.mp before
        rw [(steppedRow_same plane row label).id] at named
        have done := inv.ended row rowMember old oldMember oldKind (placed.trans named)
        rw [planeChange_done plane old command label changed done]
        exact done
      · have origin := created workspace (Option.mem_toList.mp new)
        cases label with
        | queue label =>
            cases label with
            | event env event =>
                obtain ⟨success, source, raw, agentId, workspaceId, found, sourceKind, read, parsed, built⟩ := origin
                obtain ⟨sourceMember, own⟩ := Table.find?_some _ _ _ found
                obtain ⟨given, sourcePlaced, payload⟩ := inv.placed source sourceMember sourceKind
                rw [payload] at read
                rw [← Option.some.inj read, readUuid_dump] at parsed
                have same : workspace.id = given := by
                  rw [built, ← Option.some.inj parsed]
                  rfl
                have equal : old = source := by
                  refine inv.unique old oldMember source sourceMember oldKind sourceKind ?_
                  rw [placed, named, sourcePlaced, same]
                have terminal : event.isTerminal = true := by rw [AgentEvent.isTerminal, success]
                rw [show command = if old.id = event.commandId then eventRow event old else old from changed, equal,
                  if_pos own, eventRow_terminal event source terminal]
                rfl
            | dispatch _ => exact origin.elim
            | claim _ _ _ => exact origin.elim
            | requeue _ _ => exact origin.elim
        | turn index env =>
            obtain ⟨eventEnv, report, _, waiting, _⟩ := origin
            exact absurd (List.mem_of_getElem? waiting) (inv.eventless eventEnv report .create)
        | tick _ | dispatchVia _ | pause _ | close _ | startSweep | agentLost _ | report _ _ | heartbeat _ _
        | crash _ => exact origin.elim
  | fresh workspaceId placed _ fresh _ sends _ =>
      have same : workspaceId = workspace.id := Option.some.inj (placed.symm.trans named)
      rcases present with before | new
      · obtain ⟨row, rowMember, rfl⟩ := List.mem_map.mp before
        exact absurd ((steppedRow_same plane row label).id.symm.trans same.symm) (fresh.2.1 row rowMember)
      · have origin := created workspace (Option.mem_toList.mp new)
        rw [sends] at origin
        exact origin.elim

theorem provisions_step (inv : Provisions plane) (allowed : label.Allowed sha256 hydrated plane)
    (quiet : Eventless plane label) (taken : planeStep plane label = .ok next) : Provisions next where
  placed := by
    intro command member kind
    cases planeStep_provision sha256 hydrated plane next label allowed taken command member kind with
    | kept old oldMember changed oldKind placed payload =>
        obtain ⟨workspaceId, named, read⟩ := inv.placed old oldMember oldKind
        exact ⟨workspaceId, placed.symm.trans named, payload ▸ read⟩
    | fresh workspaceId placed payload _ _ _ _ => exact ⟨workspaceId, placed, payload⟩
  unique := by
    intro command member other otherMember kind otherKind same
    have unnamed (old : AgentCommandRow) (oldMember : old ∈ plane.db.agentCommands.rows) (workspaceId : WireUuid)
        (fresh : plane.Fresh workspaceId) (placed : old.workspaceId = some workspaceId) : False :=
      fresh.1 old oldMember placed
    cases planeStep_provision sha256 hydrated plane next label allowed taken command member kind with
    | kept old oldMember changed oldKind placed payload =>
        cases planeStep_provision sha256 hydrated plane next label allowed taken other otherMember otherKind with
        | kept source sourceMember sourceChanged sourceKind sourcePlaced _ =>
            have equal := inv.unique old oldMember source sourceMember oldKind sourceKind (by
              rw [placed, sourcePlaced, same])
            refine Table.eq_of_key _ command other member otherMember ?_
            rw [(planeChange_kept plane old command label changed).1, equal,
              (planeChange_kept plane source other label sourceChanged).1]
        | fresh workspaceId otherPlaced _ fresh _ _ _ =>
            exact (unnamed old oldMember workspaceId fresh ((placed.trans same).trans otherPlaced)).elim
    | fresh workspaceId placed payload fresh dispatched sends row =>
        cases planeStep_provision sha256 hydrated plane next label allowed taken other otherMember otherKind with
        | kept source sourceMember _ _ sourcePlaced _ =>
            exact (unnamed source sourceMember workspaceId fresh (sourcePlaced.trans (same.symm.trans placed))).elim
        | fresh _ _ _ _ later again otherRow =>
            rw [sends] at again
            cases again
            exact row.trans otherRow.symm
  ended := provisions_ended sha256 hydrated plane next label inv allowed taken
  excluded := provisions_excluded sha256 hydrated plane next label inv allowed taken
  eventless := by
    intro env report verdict waits
    cases planeStep_job plane next label taken _ waits with
    | waited _ present => exact inv.eventless env report verdict present
    | opened _ opens =>
        cases label with
        | report env report => exact quiet
        | startSweep => cases opens
        | agentLost offline => cases opens
        | heartbeat agentId reported => cases opens
        | queue _ | tick _ | dispatchVia _ | pause _ | close _ | turn _ _ | crash _ => cases opens
    | turned index turnEnv old waiting same => exact (turnedJob_silent plane turnEnv old).2 _ _ _ same.symm
    | crashed index same => cases same

end Kept

theorem provisions_inductive (sha256 : String → String) (hydrated : AgentCommandKind → Bool) :
    Inductive (eventlessPlane sha256 hydrated) Provisions where
  initially := by
    rintro plane ⟨⟨commands, _, _⟩, workspaces, _, _, jobs, _⟩
    have empty (command : AgentCommandRow) : command ∉ plane.db.agentCommands.rows := by
      rw [Plane.db, commands]
      exact List.not_mem_nil
    refine ⟨fun command member => absurd member (empty command), fun command member => absurd member (empty command),
      fun _ _ command member => absurd member (empty command), ?_, ?_⟩
    · intro _ _ _ waits
      rw [jobs] at waits
      cases waits
    · intro _ _ _ waits
      rw [jobs] at waits
      cases waits
  kept := fun plane label next inv allowed taken =>
    provisions_step sha256 hydrated plane next label inv allowed.1 allowed.2 taken

theorem heartbeat_reconciled_iff (sha256 : String → String) (hydrated : AgentCommandKind → Bool)
    (begun heard answered next : Plane) (agentId : WireUuid) (reported : List WireUuid) (labels : List PlaneLabel)
    (env : TurnEnv) (reachable : Reachable (eventlessPlane sha256 hydrated) begun)
    (came : planeStep begun (.heartbeat agentId reported) = .ok heard)
    (path : Path (eventlessPlane sha256 hydrated) heard labels answered)
    (waits : answered.jobs[begun.jobs.length]? =
      some (.beating agentId reported (provisioningIds reported begun.db)))
    (taken : planeStep answered (.turn begun.jobs.length env) = .ok next) :
    ∃ answer, next.answers = answered.answers ++ [answer] ∧ answer.agentId = agentId ∧ answer.reported = reported ∧
      (Reconciled begun answered answer ↔ OnlyOwn begun answered agentId reported) := by
  have before := reachable_invariant _ _ (provisions_inductive sha256 hydrated) begun reachable
  have inv : Provisions answered := by
    refine path_keeps _ _ (provisions_inductive sha256 hydrated).kept heard answered labels path ?_
    exact (provisions_inductive sha256 hydrated).kept begun (.heartbeat agentId reported) heard before ⟨trivial, trivial⟩
      came
  refine ⟨answerHeartbeat agentId reported (provisioningIds reported begun.db) answered.db, ?_, rfl, rfl,
    reconciled_iff begun answered agentId reported before inv (List.mem_of_getElem? waits)⟩
  obtain ⟨job, waiting, ran⟩ := planeStep_turn answered next begun.jobs.length env taken
  rw [waits] at waiting
  cases waiting
  cases ran
  rfl

def sampleReclaim : List PlaneLabel := [
  .queue (.claim (revokedClaimEnv 0 "first") (sampleId 4) sampleRequest), .tick (31 * microseconds),
  .queue (.requeue (31 * microseconds) fun _ => false),
  .queue (.claim (revokedClaimEnv (31 * microseconds) "second") (sampleId 8) sampleRequest),
  .queue (.event { sampleEventEnv with now := 31 * microseconds, agentId := some (sampleId 8) } (provisioned "second"))]

def reclaimedPlane : Plane := samplePlane.after queuedPlane sampleReclaim

theorem reclaimedPlane_commits : samplePlane.Commits queuedPlane sampleReclaim :=
  ⟨allowed_queue _ _ _ _ (revokedClaim_allowed 0 "first" (sampleId 4)) rfl, by decide +kernel, trivial,
    by decide +kernel, allowed_queue _ _ _ _ (allowed_requeue _ _ _ _) (by decide +kernel), by decide +kernel,
    allowed_queue _ _ _ _ (revokedClaim_allowed (31 * microseconds) "second" (sampleId 8)) (by decide +kernel), by decide +kernel,
    allowed_queue _ _ _ _ (allowed_event _ _ _ _ rfl) (by decide +kernel), by decide +kernel, trivial⟩

theorem reclaimedPlane_reachable : Reachable (eventlessPlane sampleSha256 sampleHydrated) reclaimedPlane := by
  have queued : Path (samplePlane.restrict Eventless) Plane.empty [.queue (.dispatch provisionDispatch)] queuedPlane :=
    path_single _ _ _ _ ⟨provisionDispatch_allowed, trivial⟩ (restricted_step _ _ _ _ queuedPlane_step)
  have reclaimed : Path (samplePlane.restrict Eventless) queuedPlane sampleReclaim reclaimedPlane :=
    commits_restrict samplePlane Eventless queuedPlane sampleReclaim reclaimedPlane_commits
      ⟨trivial, trivial, trivial, trivial, trivial, trivial⟩
  exact ⟨Plane.empty, _, ⟨⟨rfl, rfl, rfl⟩, rfl, rfl, rfl, rfl, rfl⟩, path_append _ _ _ _ _ _ queued reclaimed⟩

theorem reclaimedPlane_owner : (reclaimedPlane.workspace (sampleId 1)).map (fun row => (row.owningAgentId, row.status)) =
    some (sampleId 8, .active) := by decide +kernel

def reportedCopy : List WireUuid := [sampleId 1]

def heardPlane : Plane :=
  reclaimedPlane.begin (.beating (sampleId 4) reportedCopy (provisioningIds reportedCopy reclaimedPlane.db))

theorem heardPlane_waits : heardPlane.jobs[reclaimedPlane.jobs.length]? =
    some (.beating (sampleId 4) reportedCopy (provisioningIds reportedCopy reclaimedPlane.db)) :=
  List.getElem?_concat_length

def answeredPlane : Plane :=
  { heardPlane with answers := heardPlane.answers ++ [answerHeartbeat (sampleId 4) reportedCopy
    (provisioningIds reportedCopy reclaimedPlane.db) heardPlane.db] }.setJob reclaimedPlane.jobs.length .ended

theorem answeredPlane_step : planeStep heardPlane (.turn reclaimedPlane.jobs.length calmTurn) = .ok answeredPlane := by
  simp only [planeStep, heardPlane_waits, runJob, answeredPlane]

theorem heartbeat_reclaimed : ∃ answer, answeredPlane.answers = heardPlane.answers ++ [answer] ∧
    answer.agentId = sampleId 4 ∧ answer.reported = reportedCopy ∧
    (Reconciled reclaimedPlane heardPlane answer ↔ OnlyOwn reclaimedPlane heardPlane (sampleId 4) reportedCopy) :=
  heartbeat_reconciled_iff sampleSha256 sampleHydrated reclaimedPlane heardPlane heardPlane answeredPlane (sampleId 4)
    reportedCopy [] calmTurn reclaimedPlane_reachable rfl (.nil heardPlane) heardPlane_waits answeredPlane_step

-- The copy is not among the forgotten workspaces, since its row is there.
theorem second_copy_survives : ¬ ∀ (sha256 : String → String) (hydrated : AgentCommandKind → Bool)
    (begun heard answered next : Plane) (agentId : WireUuid) (reported : List WireUuid) (labels : List PlaneLabel)
    (env : TurnEnv) (_ : Reachable (eventlessPlane sha256 hydrated) begun)
    (_ : planeStep begun (.heartbeat agentId reported) = .ok heard)
    (_ : Path (eventlessPlane sha256 hydrated) heard labels answered)
    (_ : answered.jobs[begun.jobs.length]? = some (.beating agentId reported (provisioningIds reported begun.db)))
    (_ : planeStep answered (.turn begun.jobs.length env) = .ok next),
    ∀ answer, next.answers = answered.answers ++ [answer] → Reconciled begun answered answer := by
  intro always
  have reconciled := always sampleSha256 sampleHydrated reclaimedPlane heardPlane heardPlane answeredPlane (sampleId 4)
    reportedCopy [] calmTurn reclaimedPlane_reachable rfl (.nil heardPlane) heardPlane_waits answeredPlane_step _ rfl
  obtain ⟨row, found, owner⟩ := Option.map_eq_some_iff.mp reclaimedPlane_owner
  obtain ⟨foreign, active⟩ := Prod.mk.inj owner
  have dropped := reconciled.foreign (sampleId 1) (List.mem_singleton.mpr rfl) (by rw [found]; rfl) row found
    (.inl (by rw [foreign]; decide))
  obtain ⟨_, _, gone⟩ := (answerHeartbeat_mem (sampleId 4) reportedCopy _ heardPlane (sampleId 1)).mp dropped
  rw [gone row found] at active
  cases active

end Yaaos.Gateway
