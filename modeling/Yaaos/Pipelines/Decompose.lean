import Yaaos.Pipelines.Turn

set_option autoImplicit false

namespace Yaaos.Pipelines

open Yaaos.Base

def Workspace.holding (row : Workspace) : Uuid × Option Uuid × Option Uuid :=
  (row.id, row.owningAgentId, row.currentCommandId)

def Db.holds (db : Db) : List (Uuid × Option Uuid × Option Uuid) := db.workspaces.rows.map Workspace.holding

structure Notes (before after : Session) : Prop where
  id : after.run.id = before.run.id
  orgId : after.run.orgId = before.run.orgId
  ticketId : after.run.ticketId = before.run.ticketId
  definition : after.run.definitionSnapshot = before.run.definitionSnapshot
  rows : after.run.stageExecutions = before.run.stageExecutions
  counts : after.run.sendbackCounts = before.run.sendbackCounts
  current : after.run.currentStageIndex = before.run.currentStageIndex
  workspaceId : after.run.workspaceId = before.run.workspaceId
  state : after.run.state = before.run.state
  pauses : after.run.pauses = before.run.pauses
  pending : after.run.pendingAgentCommandId = before.run.pendingAgentCommandId ∨ after.run.pendingAgentCommandId = none
  nextId : before.db.nextId ≤ after.db.nextId
  runs : after.db.runs = before.db.runs
  outbox : after.db.outbox = before.db.outbox
  commands : after.db.agentCommands = before.db.agentCommands
  artifacts : after.db.artifacts = before.db.artifacts
  holds : after.db.holds = before.db.holds

def invocationCommand (session : Session) (workspace : Workspace) (row : StageExecution) (commandId : Uuid)
    (pluginId : String) (invocation : Invocation) : AgentCommand :=
  { id := commandId, orgId := workspace.orgId, workspaceId := invocation.workspaceId,
    context := systemCommandContext session.run row.id, pinnedAgentId := workspace.owningAgentId,
    body := .invokeCodingAgent pluginId invocation, done := false }

def parked (session : Session) (workspace : Workspace) (row park : StageExecution) (commandId : Uuid) (pluginId : String)
    (invocation : Invocation) : Session :=
  let claimed := claim (enqueueCommand session.db (invocationCommand session workspace row commandId pluginId invocation))
    invocation.workspaceId commandId
  { db :=
      { claimed with
        codingAgentRuns := claimed.codingAgentRuns ++
          [{ orgId := workspace.orgId, runId := session.run.id, stageExecutionId := row.id, agentCommandId := commandId,
             pluginId := pluginId }] }
    run := { (session.put park).run with pendingAgentCommandId := some commandId } }

structure Taken (session : Session) (invocation : Uuid → Invocation) (workspaceId : Uuid) (workspace : Workspace) : Prop where
  own : session.run.workspaceId = some workspaceId
  found : session.db.workspaces.find? (invocation workspaceId).workspaceId = some workspace
  free : workspace.claimable = true

inductive FreshRow (id index : Nat) : ExecutableStage → StageExecution → Prop where
  | skill (stage : SkillStage) (revision : Option RevisionContext) :
      FreshRow id index (.skill stage)
        { newExecution id (some index) .skill stage.name with
          skillName := some stage.skillName, phase := some .main, revision := revision }
  | review (stage : ReviewSkillStage) (revision : Option RevisionContext) :
      FreshRow id index (.review stage)
        { newExecution id (some index) .review stage.name with
          skillName := some stage.skillName, phase := some .review, revision := revision, iteration := 1 }
  | action (stage : ActionStage) :
      FreshRow id index (.action stage) (newExecution id (some index) .action stage.actionId)

def routeSuccess (session : Session) (index : Nat) : Message :=
  .routeRun
    { runId := session.run.id, completedStageIndex := some index, outcomeLabel := some .success, failureReason := none }

def ordered (session : Session) (stageName : String) (command : AgentCommand) (phase : RunPhase) : Session :=
  let added := (session.addExecution (newExecution session.db.nextId none .system stageName)).mint
  { db := enqueueCommand added.db command
    run := { added.run with phase := phase, pendingAgentCommandId := some command.id } }

structure SystemCommand (session : Session) (command : AgentCommand) : Prop where
  id : command.id = session.db.nextId + 1
  context : command.context = systemCommandContext session.run session.db.nextId
  opened : command.done = false
  body : command.body = .cleanupWorkspace ∨ ∃ newToken, command.body = .refreshWorkspaceAuth newToken

def provisioning (session : Session) (command : AgentCommand) : Session :=
  let added := (session.addExecution (newExecution session.db.nextId none .system systemStageProvision)).mint.mint
  { db := enqueueCommand added.db command
    run :=
      { added.run with
        workspaceId := some (session.db.nextId + 1), phase := .provision, pendingAgentCommandId := some command.id } }

structure ProvisionCommand (session : Session) (command : AgentCommand) : Prop where
  id : command.id = session.db.nextId + 2
  workspaceId : command.workspaceId = session.db.nextId + 1
  context : command.context = systemCommandContext session.run session.db.nextId
  opened : command.done = false
  unpinned : command.pinnedAgentId = none
  body : command.body.isProvision = true

def StageExecution.fail (row : StageExecution) (env : Env) (text : String) : StageExecution :=
  { row with status := .failed, failureReason := some text, completedAt := some env.now }

def rewound (session : Session) (row : StageExecution) (targetIndex : Nat) (target : SkillStage) (kickoff : Kickoff) :
    Session :=
  let session := session.put { row with boundaryOutcome := some .sentBack }
  { session with
    run :=
      { session.run with
        sendbackCounts := Dict.set session.run.sendbackCounts target.name 1, kickoff := kickoff,
        currentStageIndex := some targetIndex } }

inductive Starts (env : Env) (index : Nat) (session : Session) : Session → Prop where
  | opens (row : StageExecution) (stage : ExecutableStage) (pluginId : String) (kickoff : Kickoff)
      (invocation : Uuid → Invocation) (workspaceId : Uuid) (workspace : Workspace)
      (found : session.run.definitionSnapshot.stages[index]? = some stage) (works : stage.isAction = false)
      (fresh : FreshRow session.db.nextId index stage row)
      (taken : Taken session invocation workspaceId workspace)
      (input : (invocation workspaceId).context.input = resolveStageInput session index kickoff)
      (target : (invocation workspaceId).workspaceId = workspaceId)
      (schema : (invocation workspaceId).outputSchema = .skillReturn ∨ ∃ review, stage = .review review) :
      Starts env index session
        (parked (session.addExecution row).mint workspace row row (session.db.nextId + 1) pluginId
          (invocation workspaceId))
  | refused (row : StageExecution) (stage : ExecutableStage) (prepared : Session) (text : String)
      (found : session.run.definitionSnapshot.stages[index]? = some stage)
      (fresh : FreshRow session.db.nextId index stage row)
      (same : prepared = session.addExecution row ∨ prepared = (session.addExecution row).mint) :
      Starts env index session (failStage env prepared row text)
  | acted (row : StageExecution) (stage : ActionStage) (result : Json)
      (found : session.run.definitionSnapshot.stages[index]? = some (.action stage))
      (fresh : FreshRow session.db.nextId index (.action stage) row) :
      Starts env index session
        (((session.addExecution row).put
          { row with
            status := .completed, actionResult := some result, boundaryOutcome := some .proceeded,
            completedAt := some env.now }).enqueue (routeSuccess session index))
  | provisions (stage : ExecutableStage) (command : AgentCommand)
      (found : session.run.definitionSnapshot.stages[index]? = some stage) (works : stage.isAction = false)
      (orders : ProvisionCommand session command) : Starts env index session (provisioning session command)

inductive Finishes (env : Env) (session : Session) : Session → Prop where
  | cleans (command : AgentCommand) (ordersIt : SystemCommand session command) (body : command.body = .cleanupWorkspace) :
      Finishes env session (ordered session systemStageCleanup command .cleanup)
  | ends (target : TerminalState) (reason : Option String) : Finishes env session (enterTerminal env session target reason)

theorem notes_refl (session : Session) : Notes session session :=
  ⟨rfl, rfl, rfl, rfl, rfl, rfl, rfl, rfl, rfl, rfl, .inl rfl, Nat.le_refl _, rfl, rfl, rfl, rfl, rfl⟩

theorem notes_kickoff (session : Session) (kickoff : Kickoff) :
    Notes session { session with run := { session.run with kickoff := kickoff } } :=
  { notes_refl session with }

theorem notes_failureReason (session : Session) (reason : Option String) :
    Notes session { session with run := { session.run with failureReason := reason } } :=
  { notes_refl session with }

theorem invoke_result (env : Env) (session : Session) (row park : StageExecution) (commandId : Uuid) (pluginId : String)
    (invocation : Uuid → Invocation) :
    Ensures (invoke env session row commandId pluginId invocation park) fun after =>
      (∃ text, after = failStage env session row text) ∨
        ∃ workspaceId workspace, Taken session invocation workspaceId workspace ∧
          after = parked session workspace row park commandId pluginId (invocation workspaceId) := by
  rw [invoke]
  split
  · cases own : session.run.workspaceId with
    | none => exact ensures_error _ _
    | some workspaceId =>
        simp only [dispatchInvocation]
        cases found : session.db.workspaces.find? (invocation workspaceId).workspaceId with
        | none => exact ensures_error _ _
        | some workspace =>
            simp only
            cases env.buildCommand pluginId (invocation workspaceId) (systemCommandContext session.run row.id) with
            | raised => exact ensures_error _ _
            | credentialUnavailable userMessage => exact ensures_ok _ _ (.inl ⟨userMessage, rfl⟩)
            | built =>
                simp only [dispatchViaWorkspace, found, if_true]
                by_cases free : workspace.claimable = true
                · rw [if_pos free]
                  exact ensures_ok _ _ (.inr ⟨workspaceId, workspace, ⟨own, found, free⟩, rfl⟩)
                · rw [if_neg free]
                  exact ensures_error _ _
  · exact ensures_error _ _

theorem invoke_starts (env : Env) (session : Session) (row : StageExecution) (stage : ExecutableStage) (index : Nat)
    (pluginId : String) (kickoff : Kickoff) (invocation : Uuid → Invocation)
    (found : session.run.definitionSnapshot.stages[index]? = some stage) (works : stage.isAction = false)
    (fresh : FreshRow session.db.nextId index stage row)
    (input : ∀ workspaceId, (invocation workspaceId).context.input = resolveStageInput session index kickoff)
    (target : ∀ workspaceId, (invocation workspaceId).workspaceId = workspaceId)
    (schema : ∀ workspaceId, (invocation workspaceId).outputSchema = .skillReturn ∨ ∃ review, stage = .review review) :
    Ensures (invoke env (session.addExecution row).mint row (session.db.nextId + 1) pluginId invocation row)
      (Starts env index session) := by
  refine ensures_mono _ _ _ (invoke_result env _ row row _ pluginId invocation) fun after result => ?_
  rcases result with ⟨text, same⟩ | ⟨workspaceId, workspace, taken, same⟩
  · rw [same]
    exact .refused row stage _ text found fresh (.inr rfl)
  · rw [same]
    exact .opens row stage pluginId kickoff invocation workspaceId workspace found works fresh
      ⟨taken.own, taken.found, taken.free⟩ (input workspaceId) (target workspaceId) (schema workspaceId)

theorem dispatchSkillStage_starts (env : Env) (session : Session) (stage : SkillStage) (index : Nat) (kickoff : Kickoff)
    (revision : Option RevisionContext)
    (found : session.run.definitionSnapshot.stages[index]? = some (.skill stage)) :
    Ensures (dispatchSkillStage env session stage index kickoff revision) (Starts env index session) := by
  rw [dispatchSkillStage]
  refine ensures_read _ _ _ fun ticket _ => ensures_read _ _ _ fun pr _ => ?_
  exact invoke_starts env session _ (.skill stage) index _ kickoff _ found rfl (.skill stage revision) (fun _ => rfl)
    (fun _ => rfl) fun _ => .inl rfl

theorem dispatchReviewOnlyStage_starts (env : Env) (session : Session) (stage : ReviewSkillStage) (index : Nat)
    (kickoff : Kickoff) (revision : Option RevisionContext)
    (found : session.run.definitionSnapshot.stages[index]? = some (.review stage)) :
    Ensures (dispatchReviewOnlyStage env session stage index kickoff revision) (Starts env index session) := by
  rw [dispatchReviewOnlyStage]
  refine ensures_read _ _ _ fun ticket _ => ensures_read _ _ _ fun findings _ => ensures_read _ _ _ fun pr _ => ?_
  exact invoke_starts env session _ (.review stage) index _ kickoff _ found rfl (.review stage revision) (fun _ => rfl)
    (fun _ => rfl) fun _ => .inr ⟨stage, rfl⟩

theorem dispatchProvisionStage_starts (env : Env) (session : Session) (stage : ExecutableStage) (index : Nat)
    (kickoff : Kickoff) (found : session.run.definitionSnapshot.stages[index]? = some stage)
    (works : stage.isAction = false) :
    Ensures (dispatchProvisionStage env session kickoff) (Starts env index session) := by
  rw [dispatchProvisionStage]
  refine ensures_read _ _ _ fun ticket _ => ?_
  simp only [dispatchProvision]
  split
  · cases env.installCredentials ticket.pluginId
      ((session.addExecution (newExecution session.db.nextId none .system systemStageProvision)).mint).run.orgId
      ticket.repoExternalId with
    | none => exact ensures_error _ _
    | some credentials =>
        simp only
        split
        · exact ensures_ok _ _ (.provisions stage _ found works ⟨rfl, rfl, rfl, rfl, rfl, rfl⟩)
        · exact ensures_error _ _
  · exact ensures_error _ _

theorem runActionStage_starts (env : Env) (session : Session) (stage : ActionStage) (index : Nat) (kickoff : Kickoff)
    (found : session.run.definitionSnapshot.stages[index]? = some (.action stage)) :
    Ensures (runActionStage env session stage index kickoff) (Starts env index session) := by
  rw [runActionStage]
  refine ensures_read _ _ _ fun context _ => ?_
  cases env.runAction stage.actionId context with
  | raised => exact ensures_error _ _
  | actionError text => exact ensures_ok _ _ (.refused _ (.action stage) _ text found (.action stage) (.inl rfl))
  | returned result => exact ensures_ok _ _ (.acted _ stage result found (.action stage))

theorem stageAt_found (flattened : FlattenedDefinition) (stageIndex : Option Nat) (stage : ExecutableStage)
    (at_ : stageAt flattened stageIndex = .ok stage) :
    ∃ index, stageIndex = some index ∧ flattened.stages[index]? = some stage := by
  cases stageIndex with
  | none => cases at_
  | some index =>
      rw [stageAt] at at_
      cases found : flattened.stages[index]? with
      | none =>
          rw [found] at at_
          cases at_
      | some other =>
          rw [found] at at_
          cases at_
          exact ⟨index, rfl, found⟩

theorem startStageImpl_starts (env : Env) (session : Session) (stageIndex : Option Nat)
    (running : session.run.state = .running) :
    Ensures (startStageImpl env session stageIndex) fun after =>
      ∃ index prepared, stageIndex = some index ∧ Notes session prepared ∧ Starts env index prepared after := by
  rw [startStageImpl, if_neg (not_not.mpr running)]
  refine ensures_read _ _ _ fun stage at_ => ?_
  obtain ⟨index, rfl, found⟩ := stageAt_found _ _ _ at_
  have cleared := notes_kickoff session { session.run.kickoff with revision := none }
  cases stage with
  | action action =>
      exact ensures_mono _ _ _ (runActionStage_starts env session action index _ found) fun after starts =>
        ⟨index, session, rfl, notes_refl session, starts⟩
  | skill skill =>
      simp only
      split
      · exact ensures_mono _ _ _ (dispatchSkillStage_starts env _ skill index _ _ found) fun after starts =>
          ⟨index, _, rfl, cleared, starts⟩
      · exact ensures_mono _ _ _ (dispatchProvisionStage_starts env session _ index _ found rfl) fun after starts =>
          ⟨index, session, rfl, notes_refl session, starts⟩
  | review review =>
      simp only
      split
      · exact ensures_mono _ _ _ (dispatchReviewOnlyStage_starts env _ review index _ _ found) fun after starts =>
          ⟨index, _, rfl, cleared, starts⟩
      · exact ensures_mono _ _ _ (dispatchProvisionStage_starts env session _ index _ found rfl) fun after starts =>
          ⟨index, session, rfl, notes_refl session, starts⟩

section Returns

variable (env : Env) (session : Session) (row : StageExecution) (index : Nat)

theorem finishOrCleanup_noted (target : TerminalState) (reason : Option String) :
    Ensures (finishOrCleanup env session target reason)
      (Finishes env { session with run := { session.run with failureReason := reason } }) := by
  rw [finishOrCleanup]
  simp only
  split
  · rw [dispatchCleanupStage]
    simp only
    split
    · exact ensures_error _ _
    · rename_i workspaceId _
      simp only [dispatchCleanup, dispatchViaWorkspace]
      split
      · exact ensures_error _ _
      · exact ensures_ok _ _ (.cleans _ ⟨rfl, rfl, rfl, .inl rfl⟩ rfl)
  · exact ensures_ok _ _ (.ends target reason)

theorem finishOrCleanup_finishes (target : TerminalState) (reason : Option String) :
    Ensures (finishOrCleanup env session target reason) fun after =>
      ∃ noted, Notes session noted ∧ Finishes env noted after :=
  ensures_mono _ _ _ (finishOrCleanup_noted env session target reason) fun _ finishes =>
    ⟨_, notes_failureReason session reason, finishes⟩

end Returns

end Yaaos.Pipelines
