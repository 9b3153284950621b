import Yaaos.Gateway.Reaper
import Yaaos.Gateway.Replay

set_option autoImplicit false

namespace Yaaos.Gateway

open Yaaos.Base

def releasedRow (event : AgentEvent) (row : WorkspaceRow) : WorkspaceRow :=
  if event.isTerminal = true ∧ row.currentCommandId = some event.commandId then { row with currentCommandId := none }
  else row

structure Provisioned (env : EventEnv) (event : AgentEvent) (db : GatewayDb) (row : WorkspaceRow) : Prop where
  success : event.kind = .completedSuccess
  command : ∃ source raw agentId workspaceId, db.agentCommands.find? event.commandId = some source ∧
    source.commandKind = .provisionWorkspace ∧ source.payload.lookup "workspace_id" = some raw ∧
    readUuid raw = some workspaceId ∧ row = leanWorkspaceRow env workspaceId source.orgId agentId source.payload

variable (plane next : Plane) (label : PlaneLabel) (env : EventEnv) (row : AgentCommandRow) (event : AgentEvent)
  (report : WorkspaceEventReport) (db : GatewayDb) (sha256 : String → String) (hydrated : AgentCommandKind → Bool)
  (consumers : List String)

theorem configureAgent_workspaces :
    (configureAgent row event db).workspaces = db.workspaces := by
  unfold configureAgent
  split
  · rfl
  · split <;> rfl

theorem handleTerminalEvent_workspaces :
    (handleTerminalEvent env row event db).1.workspaces = db.workspaces := by
  unfold handleTerminalEvent
  split
  · split
    · rfl
    · split <;> rfl
  · rfl

theorem materialise_workspaces (db after before : GatewayDb)
    (found : before.agentCommands.find? event.commandId = some row)
    (returned : materialise env row event db = .ok after) :
    ∃ born : Option WorkspaceRow, after.workspaces.rows = db.workspaces.rows ++ born.toList ∧
      ∀ workspace, born = some workspace → Provisioned env event before workspace := by
  have unchanged (same : after = db) : ∃ born : Option WorkspaceRow,
      after.workspaces.rows = db.workspaces.rows ++ born.toList ∧
        ∀ workspace, born = some workspace → Provisioned env event before workspace :=
    ⟨none, by rw [same]; exact (List.append_nil _).symm, fun _ impossible => by cases impossible⟩
  unfold materialise at returned
  split at returned
  · exact unchanged (Except.ok.inj returned).symm
  · rename_i agentId _
    split at returned
    · rename_i fits
      unfold materialiseProvisionSuccess at returned
      split at returned
      · exact unchanged (Except.ok.inj returned).symm
      · exact unchanged (Except.ok.inj returned).symm
      · rename_i raw _ named
        split at returned
        · cases returned
        · rename_i workspaceId read
          split at returned
          · exact unchanged (Except.ok.inj returned).symm
          · rename_i workspaces inserted
            cases returned
            refine ⟨some (leanWorkspaceRow env workspaceId row.orgId agentId row.payload),
              (Table.insert?_some _ _ _ inserted).1, fun workspace same => ?_⟩
            cases same
            exact ⟨fits.2.2, row, raw, agentId, workspaceId, found, fits.1, named, read, rfl⟩
    · exact unchanged (Except.ok.inj returned).symm

theorem recordTerminalEvent_workspaces
    (db after : GatewayDb) (terminal : event.isTerminal = true)
    (found : db.agentCommands.find? event.commandId = some row)
    (returned : recordTerminalEvent env row event db = .ok after) :
    ∃ born : Option WorkspaceRow, after.workspaces.rows = db.workspaces.rows.map (releasedRow event) ++ born.toList ∧
      ∀ workspace, born = some workspace → Provisioned env event db workspace := by
  have released : (handleTerminalEvent env row event (retireCommand event.commandId (releaseCommandClaim event.commandId
      (configureAgent row event db)))).1.workspaces.rows = db.workspaces.rows.map (releasedRow event) := by
    rw [handleTerminalEvent_workspaces]
    simp only [retireCommand, GatewayDb.updateCommand, releaseCommandClaim, configureAgent_workspaces, Table.update]
    refine List.map_congr_left fun workspace _ => ?_
    simp only [releasedRow, terminal, true_and, decide_eq_true_eq]
  unfold recordTerminalEvent at returned
  simp only [bind, Except.bind] at returned
  split at returned
  · cases returned
  · rename_i materialised written
    obtain ⟨born, rows, provisioned⟩ := materialise_workspaces env row event _ materialised db found written
    rw [released] at rows
    split at returned
    · cases returned
      exact ⟨born, rows, provisioned⟩
    · cases returned
      exact ⟨born, rows, provisioned⟩

theorem releasedRow_unreleased (rows : List WorkspaceRow) (unfinished : ¬ event.isTerminal = true) :
    rows.map (releasedRow event) = rows := by
  refine (List.map_congr_left fun row _ => ?_).trans (List.map_id rows)
  rw [releasedRow, if_neg fun both => unfinished both.1]
  rfl

theorem recordAgentEvent_workspaces (before after : GatewayDb)
    (returned : recordAgentEvent env event before = .ok after) :
    ∃ born : Option WorkspaceRow,
      after.workspaces.rows = before.workspaces.rows.map (releasedRow event) ++ born.toList ∧
        ∀ workspace, born = some workspace → Provisioned env event before workspace := by
  have unchanged (unfinished : ¬ event.isTerminal = true) (same : after.workspaces = before.workspaces) :
      ∃ born : Option WorkspaceRow,
        after.workspaces.rows = before.workspaces.rows.map (releasedRow event) ++ born.toList ∧
          ∀ workspace, born = some workspace → Provisioned env event before workspace :=
    ⟨none, by rw [same, releasedRow_unreleased event _ unfinished]; exact (List.append_nil _).symm,
      fun _ impossible => by cases impossible⟩
  unfold recordAgentEvent at returned
  split at returned
  · cases returned
  · rename_i row found
    split at returned
    · split at returned
      · rename_i received
        cases returned
        refine unchanged (fun terminal => ?_) rfl
        rw [AgentEvent.isTerminal, received] at terminal
        cases terminal
      · split at returned
        · rename_i terminal
          exact recordTerminalEvent_workspaces env row event before after terminal found returned
        · rename_i progress
          cases returned
          exact unchanged progress rfl
    · cases returned

def viaRow (dispatched : WorkspaceDispatch) (row : WorkspaceRow) : WorkspaceRow :=
  if dispatched.claimWorkspace = true ∧ claimable dispatched.workspaceId row = true then
    heldBy dispatched.command.commandId row
  else row

def turnedRow (env : TurnEnv) (row : WorkspaceRow) : Job → WorkspaceRow
  | .committing session _ => if session.holds row.id then withStatus .expired row else row
  | .reaping (doomed :: _) =>
    if row.id = doomed.id then
      if env.registered doomed.providerId then if row.status = .expired then withStatus .destroying row else row
      else withStatus .destroyFailed row
    else row
  | .destroying doomed attempts _ =>
    if row.id = doomed.id then withStatus (settledStatus env.failure attempts) row else row
  | .reporting _ report (.apply (some status)) => if row.id = report.workspaceId then withStatus status row else row
  | _ => row

def steppedRow (plane : Plane) (row : WorkspaceRow) : PlaneLabel → WorkspaceRow
  | .queue (.event _ event) => releasedRow event row
  | .dispatchVia dispatched => viaRow dispatched row
  | .pause workspaceId =>
    if row.id = workspaceId then extendedTo ((plane.now : Int) + pausedRunWorkspaceGraceSeconds * microseconds) row else row
  | .close workspaceId => if row.id = workspaceId ∧ row.status = .active then withStatus .expired row else row
  | .turn index env => match plane.jobs[index]? with
    | none => row
    | some job => turnedRow env row job
  | _ => row

def Born (plane : Plane) (row : WorkspaceRow) : PlaneLabel → Prop
  | .queue (.event env event) => Provisioned env event plane.db row
  | .turn index _ => ∃ env report source, plane.jobs[index]? = some (.reporting env report .create) ∧
      plane.db.agentCommands.find? report.commandId = some source ∧
      row = leanWorkspaceRow env report.workspaceId source.orgId report.agentId source.payload
  | _ => False

def Restyled (before after : GatewayDb) (change : WorkspaceRow → WorkspaceRow) : Prop :=
  after.workspaces.rows = before.workspaces.rows.map change

theorem restyled_same (before after : GatewayDb) (change : WorkspaceRow → WorkspaceRow)
    (same : after.workspaces = before.workspaces) (still : ∀ row ∈ before.workspaces.rows, change row = row) :
    Restyled before after change := by
  rw [Restyled, same]
  exact ((List.map_congr_left still).trans (List.map_id _)).symm

theorem restyled_status (id : WireUuid) (status : WorkspaceStatus) :
    Restyled db (db.setWorkspaceStatus id status) fun row => if row.id = id then withStatus status row else row := by
  simp only [Restyled, GatewayDb.setWorkspaceStatus, GatewayDb.updateWorkspaces, Table.update, decide_eq_true_eq]

theorem beginDestroy_workspaces (env : TurnEnv) (doomed : DoomedRow) (rest : List DoomedRow) (plane : Plane) :
    Restyled plane.db (beginDestroy env.registered doomed rest plane).1.db fun row =>
      turnedRow env row (.reaping (doomed :: rest)) := by
  unfold beginDestroy
  by_cases known : env.registered doomed.providerId = true
  · simp only [known, turnedRow, if_true]
    cases found : plane.db.workspaces.find? doomed.id with
    | none =>
        refine restyled_same _ _ _ rfl fun row member => ?_
        rw [if_neg ((Table.find?_isNone _ _).mp found row member)]
    | some current =>
        obtain ⟨member, own⟩ := Table.find?_some _ _ _ found
        have only (row : WorkspaceRow) (present : row ∈ plane.db.workspaces.rows) (same : row.id = doomed.id) :
            row = current := Table.eq_of_key _ row current present member (same.trans own.symm)
        by_cases expired : current.status = .expired
        · simp only [expired, if_true]
          refine (restyled_status plane.db doomed.id .destroying).trans (List.map_congr_left fun row present => ?_)
          by_cases same : row.id = doomed.id
          · rw [if_pos same, if_pos same, only row present same, if_pos expired]
          · rw [if_neg same, if_neg same]
        · simp only [expired, if_false]
          refine restyled_same _ _ _ rfl fun row present => ?_
          by_cases same : row.id = doomed.id
          · rw [if_pos same, only row present same, if_neg expired]
          · rw [if_neg same]
  · simp only [known, turnedRow, Bool.false_eq_true, if_false]
    exact restyled_status plane.db doomed.id .destroyFailed

theorem endDestroy_db (failure : Option String) (doomed : DoomedRow) (attempts : Nat) (plane : Plane) :
    (endDestroy failure doomed attempts plane).db =
      plane.db.setWorkspaceStatus doomed.id (settledStatus failure attempts) := by
  unfold endDestroy
  cases failure <;> rfl

theorem resumeRuns_workspaces (resumed : List (WireUuid × WireUuid)) (db : GatewayDb) :
    (resumeRuns consumers resumed db).workspaces = db.workspaces ∧
      (resumeRuns consumers resumed db).agentCommands = db.agentCommands := by
  induction resumed generalizing db with
  | nil => exact ⟨rfl, rfl⟩
  | cons pair rest ih => exact ih (enqueueAgentEvent consumers pair.1 pair.2 "failure" [] none db)

theorem commitExpiry_workspaces (session : ExpirySession) (plane : Plane) :
    Restyled plane.db (commitExpiry consumers session plane).db fun row =>
      if session.holds row.id then withStatus .expired row else row := by
  unfold Restyled commitExpiry
  simp only [Plane.audit, Plane.withDb, Plane.db, resumeRuns_workspaces]
  rfl

theorem closeWorkspace_workspaces (workspaceId : WireUuid) (plane : Plane) :
    Restyled plane.db (closeWorkspace workspaceId plane).db fun row =>
      if row.id = workspaceId ∧ row.status = .active then withStatus .expired row else row := by
  unfold closeWorkspace
  cases found : plane.db.workspaces.find? workspaceId with
  | none =>
      refine restyled_same _ _ _ rfl fun row member => ?_
      rw [if_neg fun both => (Table.find?_isNone _ _).mp found row member both.1]
  | some current =>
      obtain ⟨member, own⟩ := Table.find?_some _ _ _ found
      have only (row : WorkspaceRow) (present : row ∈ plane.db.workspaces.rows) (same : row.id = workspaceId) :
          row = current := Table.eq_of_key _ row current present member (same.trans own.symm)
      by_cases active : current.status = .active
      · simp only [active, if_true]
        refine (restyled_status plane.db workspaceId .expired).trans (List.map_congr_left fun row present => ?_)
        by_cases same : row.id = workspaceId
        · rw [if_pos same, if_pos ⟨same, by rw [only row present same]; exact active⟩]
        · rw [if_neg same, if_neg fun both => same both.1]
      · simp only [active, if_false]
        refine restyled_same _ _ _ rfl fun row present => ?_
        rw [if_neg fun both => active (by rw [← only row present both.1]; exact both.2)]

structure ViaSpec (dispatched : WorkspaceDispatch) (before after : GatewayDb) : Prop where
  enqueued : ∃ row sent, before.workspaces.find? dispatched.workspaceId = some row ∧ sent.command = dispatched.command ∧
    after.agentCommands.rows = before.agentCommands.rows ++ [Dispatch.row sent] ∧
      ∀ other ∈ before.agentCommands.rows, other.id ≠ (Dispatch.row sent).id
  workspaces : Restyled before after (viaRow dispatched)
  free : dispatched.claimWorkspace = true → ∃ row ∈ before.workspaces.rows, claimable dispatched.workspaceId row = true

theorem dispatchViaWorkspace_spec (dispatched : WorkspaceDispatch) (before after : GatewayDb)
    (returned : dispatchViaWorkspace dispatched before = .ok after) : ViaSpec dispatched before after := by
  unfold dispatchViaWorkspace at returned
  cases found : before.workspaces.find? dispatched.workspaceId with
  | none => simp [found] at returned
  | some row =>
      simp only [found] at returned
      split at returned
      · cases returned
      · rename_i enqueued sent
        have spec := dispatchCommand_spec _ before enqueued sent
        have queued : enqueued.workspaces = before.workspaces := spec.others.workspaces
        cases claims : dispatched.claimWorkspace with
        | false =>
            simp only [claims, Bool.false_eq_true, if_false, Except.ok.injEq] at returned
            subst returned
            refine ⟨⟨row, _, found, rfl, spec.rows, spec.fresh⟩, restyled_same _ _ _ queued fun row _ => ?_, fun no => ?_⟩
            · rw [viaRow, claims, if_neg fun both => Bool.false_ne_true both.1]
            · rw [claims] at no
              cases no
        | true =>
            simp only [claims, if_true, tryClaim, queued] at returned
            split at returned
            · cases returned
            · rename_i claimed tried
              cases returned
              split at tried
              · rename_i free
                cases tried
                refine ⟨⟨row, _, found, rfl, spec.rows, spec.fresh⟩, ?_, fun _ => List.any_eq_true.mp free⟩
                simp only [Restyled, GatewayDb.updateWorkspaces, Table.update, queued]
                refine List.map_congr_left fun row _ => ?_
                simp only [viaRow, claims, true_and]
              · cases tried

theorem commitReport_workspaces
    (verdict : ReportVerdict) : ∃ born : Option WorkspaceRow,
      (commitReport env report db verdict).workspaces.rows = db.workspaces.rows.map (fun row =>
        match verdict with
        | .apply (some status) => if row.id = report.workspaceId then withStatus status row else row
        | _ => row) ++ born.toList ∧
      ∀ row, born = some row → verdict = .create ∧ ∃ source,
        db.agentCommands.find? report.commandId = some source ∧
        row = leanWorkspaceRow env report.workspaceId source.orgId report.agentId source.payload := by
  cases verdict with
  | create =>
      simp only [commitReport, List.map_id']
      cases found : db.agentCommands.find? report.commandId with
      | none => exact ⟨none, (List.append_nil _).symm, fun _ impossible => by cases impossible⟩
      | some source =>
          simp only
          split
          · exact ⟨none, (List.append_nil _).symm, fun _ impossible => by cases impossible⟩
          · rename_i workspaces inserted
            exact ⟨some _, (Table.insert?_some _ _ _ inserted).1,
              fun row same => ⟨trivial, source, rfl, (Option.some.inj same).symm⟩⟩
  | apply status =>
      refine ⟨none, ?_, fun _ impossible => by cases impossible⟩
      cases status with
      | none => simp [commitReport]
      | some status => exact (restyled_status db report.workspaceId status).trans (List.append_nil _).symm

theorem planeStep_queue (label : QueueLabel) (taken : planeStep plane (.queue label) = .ok next) :
    ∃ queue, queueStep plane.queue label = .ok queue ∧ next = { plane with queue := queue } := by
  simp only [planeStep] at taken
  split at taken
  · cases taken
  · rename_i queue stepped
    exact ⟨queue, stepped, (Except.ok.inj taken).symm⟩

theorem planeStep_via (dispatched : WorkspaceDispatch)
    (taken : planeStep plane (.dispatchVia dispatched) = .ok next) :
    ∃ db, ViaSpec dispatched plane.db db ∧ next = plane.withDb db := by
  simp only [planeStep] at taken
  cases returned : dispatchViaWorkspace dispatched plane.db with
  | error error =>
      rw [returned] at taken
      cases taken
  | ok db =>
      rw [returned] at taken
      exact ⟨db, dispatchViaWorkspace_spec dispatched plane.db db returned, (Except.ok.inj taken).symm⟩

theorem planeStep_report
    (taken : planeStep plane (.report env report) = .ok next) :
    ∃ verdict, readReport report plane.db = .ok verdict ∧ next = plane.begin (.reporting env report verdict) := by
  simp only [planeStep] at taken
  cases returned : readReport report plane.db with
  | error error =>
      rw [returned] at taken
      cases taken
  | ok verdict =>
      rw [returned] at taken
      exact ⟨verdict, rfl, (Except.ok.inj taken).symm⟩

theorem planeStep_turn (index : Nat) (env : TurnEnv)
    (taken : planeStep plane (.turn index env) = .ok next) :
    ∃ job, plane.jobs[index]? = some job ∧ runJob env plane index job = .ok next := by
  simp only [planeStep] at taken
  split at taken
  · cases taken
  · rename_i job waiting
    exact ⟨job, waiting, taken⟩

theorem queueStep_workspaces (state next : QueueState) (label : QueueLabel) (taken : queueStep state label = .ok next) :
    (∃ env event, label = .event env event ∧ ∃ born : Option WorkspaceRow,
        next.db.workspaces.rows = state.db.workspaces.rows.map (releasedRow event) ++ born.toList ∧
          ∀ row, born = some row → Provisioned env event state.db row) ∨
      ((∀ env event, label ≠ .event env event) ∧ next.db.workspaces = state.db.workspaces) := by
  cases label with
  | dispatch dispatched =>
      obtain ⟨spec, _⟩ := queueStep_dispatch state next dispatched taken
      exact .inr ⟨fun _ _ same => (by cases same), spec.others.workspaces⟩
  | claim env agentId request =>
      obtain ⟨_, spec, _⟩ := queueStep_claim state next env agentId request taken
      exact .inr ⟨fun _ _ same => (by cases same), spec.others.workspaces⟩
  | event env event =>
      obtain ⟨recorded, _⟩ := queueStep_event state next env event taken
      exact .inl ⟨env, event, rfl, recordAgentEvent_workspaces env event state.db next.db recorded⟩
  | requeue now locked =>
      simp only [queueStep, Except.ok.injEq] at taken
      subst taken
      exact .inr ⟨fun _ _ same => (by cases same), rfl⟩

def Workspaces (plane next : Plane) (label : PlaneLabel) : Prop :=
  ∃ born : Option WorkspaceRow,
    next.db.workspaces.rows = plane.db.workspaces.rows.map (fun row => steppedRow plane row label) ++ born.toList ∧
      ∀ row, born = some row → Born plane row label

theorem workspaces_restyled
    (restyled : Restyled plane.db next.db fun row => steppedRow plane row label) : Workspaces plane next label :=
  ⟨none, restyled.trans (List.append_nil _).symm, fun _ impossible => by cases impossible⟩

theorem workspaces_same (same : next.db.workspaces = plane.db.workspaces)
    (still : ∀ row, steppedRow plane row label = row) : Workspaces plane next label :=
  workspaces_restyled plane next label (restyled_same plane.db next.db _ same fun row _ => still row)

theorem runJob_workspaces (env : TurnEnv) (plane next : Plane) (index : Nat) (job : Job)
    (waiting : plane.jobs[index]? = some job) (ran : runJob env plane index job = .ok next) :
    Workspaces plane next (.turn index env) := by
  have stepped (row : WorkspaceRow) : steppedRow plane row (.turn index env) = turnedRow env row job := by
    simp only [steppedRow, waiting]
  have quiet (same : next.db.workspaces = plane.db.workspaces) (still : ∀ row, turnedRow env row job = row) :
      Workspaces plane next (.turn index env) :=
    workspaces_same plane next _ same fun row => (stepped row).trans (still row)
  have restyled (changed : Restyled plane.db next.db fun row => turnedRow env row job) :
      Workspaces plane next (.turn index env) :=
    workspaces_restyled plane next _ (changed.trans (List.map_congr_left fun row _ => (stepped row).symm))
  cases job with
  | ttl clock => cases ran; exact quiet rfl fun _ => rfl
  | idle clock session => cases ran; exact quiet rfl fun _ => rfl
  | liveness session => cases ran; exact quiet rfl fun _ => rfl
  | picking session => cases ran; exact quiet rfl fun _ => rfl
  | committing session doomed => cases ran; exact restyled (commitExpiry_workspaces env.consumers session plane)
  | reaping doomed =>
      cases doomed with
      | nil => cases ran; exact quiet rfl fun _ => rfl
      | cons row rest => cases ran; exact restyled (beginDestroy_workspaces env row rest plane)
  | destroying row attempts rest =>
      cases ran
      refine restyled (Eq.trans ?_ (restyled_status plane.db row.id (settledStatus env.failure attempts)))
      exact congrArg (fun db => db.workspaces.rows) (endDestroy_db env.failure row attempts plane)
  | reporting eventEnv report verdict =>
      cases ran
      obtain ⟨born, rows, created⟩ := commitReport_workspaces eventEnv report plane.db verdict
      refine ⟨born, rows.trans (congrArg (· ++ born.toList) (List.map_congr_left fun row _ => ?_)), fun row same => ?_⟩
      · rw [stepped]
        cases verdict with
        | create => rfl
        | apply status => cases status <;> rfl
      · obtain ⟨rfl, source, found, built⟩ := created row same
        exact ⟨eventEnv, report, source, waiting, found, built⟩
  | beating agentId reported provisioning => cases ran; exact quiet rfl fun _ => rfl
  | ended => cases ran

theorem planeStep_workspaces (taken : planeStep plane label = .ok next) :
    Workspaces plane next label := by
  cases label with
  | queue label =>
      obtain ⟨queue, stepped, rfl⟩ := planeStep_queue plane next label taken
      rcases queueStep_workspaces plane.queue queue label stepped with ⟨env, event, rfl, moved⟩ | ⟨silent, same⟩
      · exact moved
      · refine workspaces_same plane _ _ same fun row => ?_
        cases label with
        | event env event => exact absurd rfl (silent env event)
        | dispatch dispatched => rfl
        | claim env agentId request => rfl
        | requeue now locked => rfl
  | tick seconds => cases taken; exact workspaces_same plane _ _ rfl fun _ => rfl
  | dispatchVia dispatched =>
      obtain ⟨db, spec, rfl⟩ := planeStep_via plane next dispatched taken
      exact workspaces_restyled plane _ _ spec.workspaces
  | pause workspaceId =>
      cases taken
      refine workspaces_restyled plane _ _ ?_
      simp only [Restyled, Plane.withDb, Plane.db, extendExpiry, GatewayDb.updateWorkspaces, Table.update,
        decide_eq_true_eq, steppedRow]
  | close workspaceId =>
      cases taken
      exact workspaces_restyled plane _ _ (closeWorkspace_workspaces workspaceId plane)
  | startSweep => cases taken; exact workspaces_same plane _ _ rfl fun _ => rfl
  | agentLost offline => cases taken; exact workspaces_same plane _ _ rfl fun _ => rfl
  | report env report =>
      obtain ⟨verdict, _, rfl⟩ := planeStep_report plane next env report taken
      exact workspaces_same plane _ _ rfl fun _ => rfl
  | heartbeat agentId reported => cases taken; exact workspaces_same plane _ _ rfl fun _ => rfl
  | turn index env =>
      obtain ⟨job, waiting, ran⟩ := planeStep_turn plane next index env taken
      exact runJob_workspaces env plane next index job waiting ran
  | crash index => cases taken; exact workspaces_same plane _ _ rfl fun _ => rfl

theorem planeStep_row (taken : planeStep plane label = .ok next)
    (id : WireUuid) (row : WorkspaceRow) (found : plane.db.workspaces.find? id = some row)
    (kept : (steppedRow plane row label).id = row.id) :
    next.db.workspaces.find? id = some (steppedRow plane row label) := by
  obtain ⟨born, rows, _⟩ := planeStep_workspaces plane next label taken
  obtain ⟨member, own⟩ := Table.find?_some _ _ _ found
  refine Table.find?_eq _ _ _ ?_ (kept.trans own)
  rw [rows]
  exact List.mem_append_left _ (List.mem_map_of_mem member)

structure SameWorkspace (row next : WorkspaceRow) : Prop where
  id : next.id = row.id
  orgId : next.orgId = row.orgId
  owningAgentId : next.owningAgentId = row.owningAgentId
  providerId : next.providerId = row.providerId
  maxIdleSeconds : next.maxIdleSeconds = row.maxIdleSeconds
  activatedAt : next.activatedAt = row.activatedAt

theorem sameWorkspace_refl (row : WorkspaceRow) : SameWorkspace row row := ⟨rfl, rfl, rfl, rfl, rfl, rfl⟩

theorem sameWorkspace_if (chosen : Prop) [Decidable chosen] (row changed : WorkspaceRow)
    (same : SameWorkspace row changed) : SameWorkspace row (if chosen then changed else row) := by
  split
  · exact same
  · exact sameWorkspace_refl row

theorem sameWorkspace_status (status : WorkspaceStatus) (row : WorkspaceRow) :
    SameWorkspace row (withStatus status row) := ⟨rfl, rfl, rfl, rfl, rfl, rfl⟩

theorem turnedRow_same (env : TurnEnv) (row : WorkspaceRow) (job : Job) : SameWorkspace row (turnedRow env row job) := by
  unfold turnedRow
  split
  · exact sameWorkspace_if _ _ _ (sameWorkspace_status .expired row)
  · refine sameWorkspace_if _ _ _ ?_
    split
    · exact sameWorkspace_if _ _ _ (sameWorkspace_status .destroying row)
    · exact sameWorkspace_status .destroyFailed row
  · exact sameWorkspace_if _ _ _ (sameWorkspace_status _ row)
  · exact sameWorkspace_if _ _ _ (sameWorkspace_status _ row)
  · exact sameWorkspace_refl row

theorem steppedRow_same (plane : Plane) (row : WorkspaceRow) (label : PlaneLabel) :
    SameWorkspace row (steppedRow plane row label) := by
  unfold steppedRow
  split
  · exact sameWorkspace_if _ _ _ ⟨rfl, rfl, rfl, rfl, rfl, rfl⟩
  · exact sameWorkspace_if _ _ _ ⟨rfl, rfl, rfl, rfl, rfl, rfl⟩
  · exact sameWorkspace_if _ _ _ ⟨rfl, rfl, rfl, rfl, rfl, rfl⟩
  · exact sameWorkspace_if _ _ _ (sameWorkspace_status .expired row)
  · split
    · exact sameWorkspace_refl row
    · exact turnedRow_same _ row _
  · exact sameWorkspace_refl row

theorem planeStep_stepped (taken : planeStep plane label = .ok next)
    (id : WireUuid) (row : WorkspaceRow) (found : plane.db.workspaces.find? id = some row) :
    next.db.workspaces.find? id = some (steppedRow plane row label) :=
  planeStep_row plane next label taken id row found (steppedRow_same plane row label).id

def Plane.workspace (plane : Plane) (id : WireUuid) : Option WorkspaceRow := plane.db.workspaces.find? id

def Plane.status (plane : Plane) (id : WireUuid) : Option WorkspaceStatus :=
  (plane.db.workspaces.find? id).map WorkspaceRow.status

theorem born_unclaimed (plane : Plane) (row : WorkspaceRow) (label : PlaneLabel) (born : Born plane row label) :
    row.currentCommandId = none ∧ row.status = .active := by
  cases label with
  | queue label =>
      cases label with
      | event env event =>
          obtain ⟨_, _, _, _, _, _, _, _, _, same⟩ := born
          rw [same]
          exact ⟨rfl, rfl⟩
      | dispatch dispatched => exact born.elim
      | claim env agentId request => exact born.elim
      | requeue now locked => exact born.elim
  | turn index env =>
      obtain ⟨_, _, _, _, _, same⟩ := born
      rw [same]
      exact ⟨rfl, rfl⟩
  | tick seconds => exact born.elim
  | dispatchVia dispatched => exact born.elim
  | pause workspaceId => exact born.elim
  | close workspaceId => exact born.elim
  | startSweep => exact born.elim
  | agentLost offline => exact born.elim
  | report env report => exact born.elim
  | heartbeat agentId reported => exact born.elim
  | crash index => exact born.elim

theorem planeStep_status (taken : planeStep plane label = .ok next)
    (id : WireUuid) (row : WorkspaceRow) (found : plane.workspace id = some row) :
    next.status id = some (steppedRow plane row label).status := by
  rw [Plane.status, planeStep_stepped plane next label taken id row found, Option.map_some]

theorem planeStep_born (taken : planeStep plane label = .ok next)
    (id : WireUuid) (row : WorkspaceRow) (absent : plane.workspace id = none) (found : next.workspace id = some row) :
    Born plane row label := by
  obtain ⟨born, rows, created⟩ := planeStep_workspaces plane next label taken
  obtain ⟨member, own⟩ := Table.find?_some _ _ _ found
  rw [rows, List.mem_append] at member
  rcases member with old | new
  · obtain ⟨before, present, rfl⟩ := List.mem_map.mp old
    rw [(steppedRow_same plane before label).id] at own
    exact absurd own ((Table.find?_isNone _ _).mp absent before present)
  · exact created row (Option.mem_toList.mp new)

def turnedJob (env : TurnEnv) (plane : Plane) : Job → Job
  | .ttl clock => .idle clock (ExpirySession.expire ⟨[], []⟩ (ttlOver clock) "ttl_expired" plane.db)
  | .idle clock session => .liveness (session.expire (idleOver clock) "idle_timeout" plane.db)
  | .liveness session => .picking (failsafeAgentLoss env.offline session plane.db)
  | .picking session => .committing session (pickDoomed env.order session plane)
  | .committing _ doomed => .reaping doomed
  | .reaping [] => .ended
  | .reaping (row :: rest) => (beginDestroy env.registered row rest plane).2
  | .destroying _ _ rest => .reaping rest
  | .reporting _ _ _ | .beating _ _ _ | .ended => .ended

def openedJob (plane : Plane) : PlaneLabel → Option Job
  | .startSweep => some (.ttl plane.now)
  | .agentLost offline => some (.committing (failsafeAgentLoss offline ⟨[], []⟩ plane.db) [])
  | .report env report => (readReport report plane.db).toOption.map (.reporting env report)
  | .heartbeat agentId reported => some (.beating agentId reported (provisioningIds reported plane.db))
  | _ => none

structure WritesRows (plane next : Plane) : Prop where
  now : next.now = plane.now
  jobs : next.jobs = plane.jobs
  answers : next.answers = plane.answers
  commands : next.db.agentCommands = plane.db.agentCommands

theorem commitExpiry_writes (session : ExpirySession) (plane : Plane) :
    WritesRows plane (commitExpiry consumers session plane) :=
  ⟨rfl, rfl, rfl, (resumeRuns_workspaces consumers session.resumed _).2⟩

theorem beginDestroy_writes (registered : String → Bool) (row : DoomedRow) (rest : List DoomedRow) (plane : Plane) :
    WritesRows plane (beginDestroy registered row rest plane).1 := by
  unfold beginDestroy
  split
  · split
    · exact ⟨rfl, rfl, rfl, rfl⟩
    · simp only
      split <;> exact ⟨rfl, rfl, rfl, rfl⟩
  · exact ⟨rfl, rfl, rfl, rfl⟩

theorem endDestroy_writes (failure : Option String) (row : DoomedRow) (attempts : Nat) (plane : Plane) :
    WritesRows plane (endDestroy failure row attempts plane) := by
  unfold endDestroy
  cases failure <;> exact ⟨rfl, rfl, rfl, rfl⟩

theorem closeWorkspace_writes (workspaceId : WireUuid) (plane : Plane) :
    WritesRows plane (closeWorkspace workspaceId plane) := by
  unfold closeWorkspace
  split
  · exact ⟨rfl, rfl, rfl, rfl⟩
  · split <;> exact ⟨rfl, rfl, rfl, rfl⟩

theorem commitReport_commands
    (verdict : ReportVerdict) : (commitReport env report db verdict).agentCommands = db.agentCommands := by
  unfold commitReport
  split
  · split
    · rfl
    · split <;> rfl
  · rfl
  · rfl

theorem runJob_jobs (env : TurnEnv) (plane next : Plane) (index : Nat) (job : Job)
    (ran : runJob env plane index job = .ok next) : next.jobs = plane.jobs.set index (turnedJob env plane job) := by
  cases job with
  | ttl clock => cases ran; rfl
  | idle clock session => cases ran; rfl
  | liveness session => cases ran; rfl
  | picking session => cases ran; rfl
  | committing session doomed => cases ran; rfl
  | reaping doomed =>
      cases doomed with
      | nil => cases ran; rfl
      | cons row rest =>
          cases ran
          simp only [Plane.setJob, (beginDestroy_writes env.registered row rest plane).jobs, turnedJob]
  | destroying row attempts rest =>
      cases ran
      simp only [Plane.setJob, (endDestroy_writes env.failure row attempts plane).jobs, turnedJob]
  | reporting eventEnv report verdict => cases ran; rfl
  | beating agentId reported provisioning => cases ran; rfl
  | ended => cases ran

inductive JobOrigin (plane : Plane) (job : Job) : PlaneLabel → Prop where
  | waited (label : PlaneLabel) (member : job ∈ plane.jobs) : JobOrigin plane job label
  | opened (label : PlaneLabel) (opens : openedJob plane label = some job) : JobOrigin plane job label
  | turned (index : Nat) (env : TurnEnv) (old : Job) (waiting : plane.jobs[index]? = some old)
      (same : job = turnedJob env plane old) : JobOrigin plane job (.turn index env)
  | crashed (index : Nat) (same : job = .ended) : JobOrigin plane job (.crash index)

theorem planeStep_job (taken : planeStep plane label = .ok next) (job : Job)
    (member : job ∈ next.jobs) : JobOrigin plane job label := by
  have kept (same : next.jobs = plane.jobs) : JobOrigin plane job label := .waited label (same ▸ member)
  have begun (other : Job) (opens : openedJob plane label = some other) (same : next.jobs = plane.jobs ++ [other]) :
      JobOrigin plane job label := by
    rw [same, List.mem_append, List.mem_singleton] at member
    rcases member with present | rfl
    · exact .waited label present
    · exact .opened label opens
  cases label with
  | queue label =>
      obtain ⟨queue, _, rfl⟩ := planeStep_queue plane next label taken
      exact kept rfl
  | tick seconds => cases taken; exact kept rfl
  | dispatchVia dispatched =>
      obtain ⟨db, _, rfl⟩ := planeStep_via plane next dispatched taken
      exact kept rfl
  | pause workspaceId => cases taken; exact kept rfl
  | close workspaceId => cases taken; exact kept (closeWorkspace_writes workspaceId plane).jobs
  | startSweep => cases taken; exact begun _ rfl rfl
  | agentLost offline => cases taken; exact begun _ rfl rfl
  | report env report =>
      obtain ⟨verdict, read, rfl⟩ := planeStep_report plane next env report taken
      exact begun (.reporting env report verdict) (by rw [openedJob, read]; rfl) rfl
  | heartbeat agentId reported => cases taken; exact begun _ rfl rfl
  | turn index env =>
      obtain ⟨old, waiting, ran⟩ := planeStep_turn plane next index env taken
      rw [runJob_jobs env plane next index old ran] at member
      rcases List.mem_or_eq_of_mem_set member with present | same
      · exact .waited _ present
      · exact .turned index env old waiting same
  | crash index =>
      cases taken
      rcases List.mem_or_eq_of_mem_set member with present | same
      · exact .waited _ present
      · exact .crashed index same

def PlaneLabel.seconds : PlaneLabel → Nat
  | .tick seconds => seconds
  | _ => 0

theorem runJob_quiet (env : TurnEnv) (plane next : Plane) (index : Nat) (job : Job)
    (ran : runJob env plane index job = .ok next) :
    next.now = plane.now ∧ next.db.agentCommands = plane.db.agentCommands := by
  cases job with
  | reaping doomed =>
      cases doomed with
      | nil => cases ran; exact ⟨rfl, rfl⟩
      | cons row rest =>
          cases ran
          exact ⟨(beginDestroy_writes env.registered row rest plane).now,
            (beginDestroy_writes env.registered row rest plane).commands⟩
  | destroying row attempts rest =>
      cases ran
      exact ⟨(endDestroy_writes env.failure row attempts plane).now,
        (endDestroy_writes env.failure row attempts plane).commands⟩
  | committing session doomed => cases ran; exact ⟨rfl, (commitExpiry_writes env.consumers session plane).commands⟩
  | reporting eventEnv report verdict =>
      cases ran
      exact ⟨rfl, commitReport_commands eventEnv report plane.db verdict⟩
  | ttl clock => cases ran; exact ⟨rfl, rfl⟩
  | idle clock session => cases ran; exact ⟨rfl, rfl⟩
  | liveness session => cases ran; exact ⟨rfl, rfl⟩
  | picking session => cases ran; exact ⟨rfl, rfl⟩
  | beating agentId reported provisioning => cases ran; exact ⟨rfl, rfl⟩
  | ended => cases ran

theorem planeStep_now (taken : planeStep plane label = .ok next) :
    next.now = plane.now + label.seconds := by
  cases label with
  | queue label =>
      obtain ⟨queue, _, rfl⟩ := planeStep_queue plane next label taken
      rfl
  | tick seconds => cases taken; rfl
  | dispatchVia dispatched =>
      obtain ⟨db, _, rfl⟩ := planeStep_via plane next dispatched taken
      rfl
  | close workspaceId =>
      cases taken
      exact (closeWorkspace_writes workspaceId plane).now
  | report env report =>
      obtain ⟨verdict, _, rfl⟩ := planeStep_report plane next env report taken
      rfl
  | turn index env =>
      obtain ⟨job, _, ran⟩ := planeStep_turn plane next index env taken
      exact (runJob_quiet env plane next index job ran).1
  | pause workspaceId => cases taken; rfl
  | startSweep => cases taken; rfl
  | agentLost offline => cases taken; rfl
  | heartbeat agentId reported => cases taken; rfl
  | crash index => cases taken; rfl

def PlaneLabel.enqueues : PlaneLabel → Bool
  | .queue _ | .dispatchVia _ => true
  | _ => false

theorem planeStep_commands (taken : planeStep plane label = .ok next)
    (quiet : label.enqueues = false) : next.db.agentCommands = plane.db.agentCommands := by
  cases label with
  | queue own => cases quiet
  | dispatchVia dispatched => cases quiet
  | close workspaceId => cases taken; exact (closeWorkspace_writes workspaceId plane).commands
  | report env report =>
      obtain ⟨verdict, _, rfl⟩ := planeStep_report plane next env report taken
      rfl
  | turn index env =>
      obtain ⟨job, _, ran⟩ := planeStep_turn plane next index env taken
      exact (runJob_quiet env plane next index job ran).2
  | tick seconds => cases taken; rfl
  | pause workspaceId => cases taken; rfl
  | startSweep => cases taken; rfl
  | agentLost offline => cases taken; rfl
  | heartbeat agentId reported => cases taken; rfl
  | crash index => cases taken; rfl

def PlaneChange (plane : Plane) (old command : AgentCommandRow) : PlaneLabel → Prop
  | .queue label => RowChange plane.queue label old command
  | _ => command = old

inductive CommandSource (plane : Plane) (command : AgentCommandRow) : PlaneLabel → Prop where
  | kept (label : PlaneLabel) (old : AgentCommandRow) (member : old ∈ plane.db.agentCommands.rows)
      (changed : PlaneChange plane old command label) : CommandSource plane command label
  | dispatched (dispatched : Dispatch) (same : command = dispatched.row) :
      CommandSource plane command (.queue (.dispatch dispatched))
  | sent (dispatched : WorkspaceDispatch) (sent : Dispatch) (own : sent.command = dispatched.command)
      (same : command = sent.row) : CommandSource plane command (.dispatchVia dispatched)

theorem planeChange_kept (plane : Plane) (old command : AgentCommandRow) (label : PlaneLabel)
    (changed : PlaneChange plane old command label) : command.id = old.id ∧ command.origin = old.origin := by
  cases label with
  | queue label => exact rowChange_kept plane.queue label old command changed
  | tick _ | dispatchVia _ | pause _ | close _ | startSweep | agentLost _ | report _ _ | heartbeat _ _ | turn _ _
  | crash _ =>
      rw [show command = old from changed]
      exact ⟨rfl, rfl⟩

theorem planeChange_done (plane : Plane) (old command : AgentCommandRow) (label : PlaneLabel)
    (changed : PlaneChange plane old command label) (done : old.status = .done) : command = old := by
  cases label with
  | queue label => exact rowChange_done plane.queue label old command done changed
  | tick _ | dispatchVia _ | pause _ | close _ | startSweep | agentLost _ | report _ _ | heartbeat _ _ | turn _ _
  | crash _ => exact changed

theorem planeStep_command (taken : planeStep plane label = .ok next)
    (command : AgentCommandRow) (member : command ∈ next.db.agentCommands.rows) : CommandSource plane command label := by
  cases label with
  | queue label =>
      obtain ⟨queue, stepped, rfl⟩ := planeStep_queue plane next label taken
      rcases queueStep_backward plane.queue queue label stepped command member with ⟨old, present, changed⟩ |
        ⟨dispatched, rfl, same, _⟩
      · exact .kept _ old present changed
      · exact .dispatched dispatched same
  | dispatchVia dispatched =>
      obtain ⟨db, spec, rfl⟩ := planeStep_via plane next dispatched taken
      obtain ⟨_, sent, _, own, commands, _⟩ := spec.enqueued
      change command ∈ db.agentCommands.rows at member
      rw [commands, List.mem_append, List.mem_singleton] at member
      rcases member with present | same
      · exact .kept _ command present rfl
      · exact .sent dispatched sent own same
  | tick _ | pause _ | close _ | startSweep | agentLost _ | report _ _ | heartbeat _ _ | turn _ _ | crash _ =>
      rw [planeStep_commands plane next _ taken rfl] at member
      exact .kept _ command member rfl

theorem allowed_queue (plane : Plane)
    (label : QueueLabel) (own : label.Allowed sha256 hydrated) (clock : label.clock = some plane.now) :
    (PlaneLabel.queue label).Allowed sha256 hydrated plane := by
  refine ⟨own, fun other same => Option.some.inj (same.symm.trans clock), ?_⟩
  rintro dispatched rfl
  cases clock

theorem allowed_provision (plane : Plane)
    (dispatched : Dispatch) (workspaceId : WireUuid) (named : dispatched.command.workspaceId = some workspaceId)
    (minted : workspaceId ≠ 0) (fresh : plane.Fresh workspaceId) :
    (PlaneLabel.queue (.dispatch dispatched)).Allowed sha256 hydrated plane := by
  refine ⟨allowed_dispatch sha256 hydrated dispatched, nofun, ?_⟩
  intro other same _ id own
  cases same
  cases named.symm.trans own
  exact ⟨minted, fresh⟩

def calmTurn : TurnEnv :=
  { offline := [], order := id, registered := fun _ => true, failure := none, consumers := [] }

def Plane.empty : Plane := {
  queue := .empty, now := 0, destroys := fun _ => untouchedColumns, transitions := [], jobs := [], answers := [] }

theorem fresh_empty (workspaceId : WireUuid) : Plane.empty.Fresh workspaceId :=
  ⟨fun _ none => (List.not_mem_nil none).elim, fun _ none => (List.not_mem_nil none).elim,
    fun _ _ _ none => (List.not_mem_nil none).elim⟩

theorem reachable_emptyPlane :
    Reachable (controlPlane sha256 hydrated) Plane.empty :=
  ⟨Plane.empty, [], ⟨⟨rfl, rfl, rfl⟩, rfl, rfl, rfl, rfl, rfl⟩, .nil Plane.empty⟩

def revokedHydrators (kind : AgentCommandKind) : Option CommandHydrator :=
  if kind = .invokeClaudeCode then some fun _ _ => .error (.credential "no credential") else none

def revokedClaimEnv (now : Nat) (token : String) : ClaimEnv :=
  { sampleClaimEnv now token with hydrators := revokedHydrators }

def sampleHydrated (kind : AgentCommandKind) : Bool := (revokedHydrators kind).isSome

theorem revokedClaim_allowed (now : Nat) (token : String) (agentId : WireUuid) :
    (QueueLabel.claim (revokedClaimEnv now token) agentId sampleRequest).Allowed sampleSha256 sampleHydrated :=
  allowed_claim _ _ _ _ _ rfl fun _ => rfl

def samplePlane : Machine Plane PlaneLabel PlaneError := controlPlane sampleSha256 sampleHydrated

def provisionDispatch : Dispatch := sampleDispatch sampleProvision .unassigned

def queuedPlane : Plane := { Plane.empty with
  queue := { QueueState.empty with
    db := { GatewayDb.empty with agentCommands := {
      rows := GatewayDb.empty.agentCommands.rows ++ [provisionDispatch.row]
      unique := Table.append_unique _ _ List.not_mem_nil } } } }

theorem provision_storable : (Json.obj provisionDispatch.payload).storable = true := by decide +kernel

theorem queuedPlane_step : planeStep Plane.empty (.queue (.dispatch provisionDispatch)) = .ok queuedPlane := by
  have sent := dispatchCommand_enqueues provisionDispatch .empty (by decide) provision_storable List.not_mem_nil
  simp only [planeStep, queueStep, Plane.empty, QueueState.empty, sent, Except.map]
  rfl

theorem samplePlane_step (plane : Plane) (label : PlaneLabel) : samplePlane.step plane label = planeStep plane label :=
  rfl

theorem provisionDispatch_allowed :
    (PlaneLabel.queue (.dispatch provisionDispatch)).Allowed sampleSha256 sampleHydrated Plane.empty :=
  allowed_provision sampleSha256 sampleHydrated Plane.empty provisionDispatch (sampleId 1) rfl (by decide) (fresh_empty _)

theorem queuedPlane_reachable : Reachable samplePlane queuedPlane := by
  refine reachable_step samplePlane Plane.empty queuedPlane (.queue (.dispatch provisionDispatch))
    (reachable_emptyPlane _ _) provisionDispatch_allowed ?_
  rw [samplePlane_step]
  exact queuedPlane_step

theorem restricted_step (extra : Plane → PlaneLabel → Prop) (plane next : Plane) (label : PlaneLabel)
    (taken : planeStep plane label = .ok next) : (samplePlane.restrict extra).step plane label = .ok next := taken

def sampleProvisioning : List PlaneLabel := [
  .queue (.claim (revokedClaimEnv 0 "first") (sampleId 4) sampleRequest), .tick 1,
  .queue (.event sampleEventEnv (provisioned "first"))]

def provisionedPlane : Plane := samplePlane.after queuedPlane sampleProvisioning

theorem provisionedPlane_commits : samplePlane.Commits queuedPlane sampleProvisioning :=
  ⟨allowed_queue _ _ _ _ (revokedClaim_allowed 0 "first" (sampleId 4)) rfl, by decide +kernel, trivial,
    by decide +kernel, allowed_queue _ _ _ _ (allowed_event _ _ _ _ rfl) (by decide +kernel), by decide +kernel, trivial⟩

theorem provisionedPlane_reachable : Reachable samplePlane provisionedPlane :=
  reachable_path _ _ _ sampleProvisioning queuedPlane_reachable (commits_path _ _ _ provisionedPlane_commits)

def provisionedRow : WorkspaceRow :=
  leanWorkspaceRow sampleEventEnv (sampleId 1) (sampleId 2) (sampleId 4) provisionDispatch.payload

theorem provisionedPlane_row : provisionedPlane.db.workspaces.find? (sampleId 1) = some provisionedRow := (rfl)

end Yaaos.Gateway
