import Yaaos.Pipelines.Decompose

set_option autoImplicit false

namespace Yaaos.Pipelines

open Yaaos.Base

def CommandBody.invocation? : CommandBody → Option Invocation
  | .invokeCodingAgent _ invocation => some invocation
  | _ => none

-- A pass inside the loop of a skill stage: a review of what it produced, or a fix,
-- which carries a text of that loop.
def Invocation.Side (invocation : Invocation) : Prop :=
  (invocation.outputSchema = .skillReviewReturn ∧ invocation.context.revision = none) ∨
    ∃ revision, invocation.context.revision = some revision ∧ revision.source = .fix

def Plain (commands : List AgentCommand) : Prop :=
  ∀ command ∈ commands, ∀ invocation, command.body.invocation? = some invocation → invocation.Side

structure Onward (before after : Session) : Prop where
  id : after.run.id = before.run.id
  definition : after.run.definitionSnapshot = before.run.definitionSnapshot
  state : after.run.state = before.run.state
  current : after.run.currentStageIndex = before.run.currentStageIndex
  cancelRequested : after.run.cancelRequested = before.run.cancelRequested
  phase : after.run.phase = before.run.phase
  routes : ∀ message ∈ after.db.outbox, message ∈ before.db.outbox ∨ ∃ args, message = .routeRun args

structure Level (before after : Session) : Prop extends Onward before after where
  kickoff : after.run.kickoff = before.run.kickoff
  commands : ∃ added, after.db.agentCommands = before.db.agentCommands ++ added ∧ Plain added

def Unsettled (before after : PipelineRun) : Prop :=
  ∀ row ∈ after.stageExecutions, row.kind ≠ .system → row.status = .completed →
    ∃ old ∈ before.stageExecutions, old.id = row.id ∧ old.kind = row.kind ∧ old.status = .completed

structure Stays (before after : Session) : Prop extends Level before after where
  unsettled : Unsettled before.run after.run

structure Retries (before after : Session) : Prop extends Onward before after where
  kickoff : after.run.kickoff = before.run.kickoff
  commands : ∃ added, after.db.agentCommands = before.db.agentCommands ++ added ∧
    ∀ command ∈ added, ∀ invocation, command.body.invocation? = some invocation → invocation.context.revision = none
  unsettled : Unsettled before.run after.run

structure Crossing where
  session : Session
  stage : BoundaryStage
  row : StageExecution
  paths : List String
  index : Nat

inductive Crosses (env : Env) (session : Session) (row : StageExecution) (outputs : Dict Json) : Crossing → Prop where
  | main (stage : SkillStage) (skillReturn : SkillReturn) (body : String)
      (kind : row.kind ≠ .system ∧ row.kind ≠ .review)
      (found : stageAt session.run.definitionSnapshot row.stageIndex = .ok (.skill stage))
      (phase : row.phase ≠ some .review ∧ row.phase ≠ some .fix) (alone : stage.review = none)
      (valid : validateReturn env.skillReturnOf outputs = .ok skillReturn) (done : skillReturn.outcome = .completed)
      (artifact : artifactBody outputs = some body) (produced : StageExecution)
      (recorded : produced = recordProduced
        { session := markFinal (storeArtifact session row body) session.db.nextId, skillReturn := skillReturn,
          artifactId := session.db.nextId, body := body } row .main) :
      Crosses env session row outputs
        { session := (markFinal (storeArtifact session row body) session.db.nextId).put produced,
          stage := stage.settles, row := produced, paths := skillReturn.pathsAffected,
          index := row.stageIndex.getD 0 }
  | loop (stage : SkillStage) (review : ReviewConfig) (reviewReturn : SkillReviewReturn)
      (reviewed : Session × List Finding) (kind : row.kind ≠ .system ∧ row.kind ≠ .review)
      (found : stageAt session.run.definitionSnapshot row.stageIndex = .ok (.skill stage))
      (phase : row.phase = some .review) (reviews : stage.review = some review)
      (valid : validateReturn env.reviewReturnOf outputs = .ok reviewReturn)
      (applied : recordAndApplyReview env session row reviewReturn row.iteration = .ok reviewed)
      (last : ¬ (residualsOf reviewed.1.db row ≠ [] ∧ row.iteration < review.maxIterations)) (noted : StageExecution)
      (recorded : noted =
        { row with
          loopState := row.loopState ++
            [reviewEntry row.iteration reviewReturn reviewed.2 (residualsOf reviewed.1.db row)] }) :
      Crosses env session row outputs
        { session := reviewed.1.put noted, stage := stage.settles, row := noted, paths := lastPathsAffected noted,
          index := row.stageIndex.getD 0 }
  | review (stage : ReviewSkillStage) (reviewReturn : SkillReviewReturn) (reviewed : Session × List Finding)
      (kind : row.kind = .review)
      (found : stageAt session.run.definitionSnapshot row.stageIndex = .ok (.review stage))
      (valid : validateReturn env.reviewReturnOf outputs = .ok reviewReturn)
      (applied : recordAndApplyReview env session row reviewReturn 1 = .ok reviewed) (noted : StageExecution)
      (recorded : noted =
        { row with
          loopState := row.loopState ++ [reviewEntry 1 reviewReturn reviewed.2 (residualsOf reviewed.1.db row)],
          confidence := some (bucketConfidence reviewReturn.confidence) }) :
      Crosses env session row outputs
        { session := reviewed.1.put noted, stage := stage.settles, row := noted, paths := [],
          index := row.stageIndex.getD 0 }

structure AsksBack (env : Env) (session : Session) (row : StageExecution) (outputs : Dict Json) (targetIndex : Nat)
    (target : SkillStage) (gapText : String) : Prop where
  kind : row.kind ≠ .system ∧ row.kind ≠ .review
  phase : row.phase ≠ some .review
  asked : ∃ stage skillReturn, stageAt session.run.definitionSnapshot row.stageIndex = .ok (.skill stage) ∧
    validateReturn env.skillReturnOf outputs = .ok skillReturn ∧ skillReturn.outcome = .sendBack ∧
      upstreamTarget session.run.definitionSnapshot stage (row.stageIndex.getD 0) skillReturn.sendBackToStage =
        some (targetIndex, target) ∧
      gapText = skillReturn.outcomeReason.getD ""

structure Crossing.Proceeds (env : Env) (crossing : Crossing) : Prop where
  unblamed : resolveResidualSendBack crossing.session.run.definitionSnapshot crossing.stage crossing.index
    (residualsOf crossing.session.db crossing.row) = none
  untripped : ∀ ticket confidence,
    getTicket crossing.session.db crossing.session.run.ticketId crossing.session.run.orgId = .ok ticket →
      crossing.row.confidence = some confidence →
        evaluateBoundary env crossing.stage.boundary crossing.session.run.orgId ticket.repoExternalId
          (residualsOf crossing.session.db crossing.row) crossing.paths confidence = .proceed

def Crossing.settle (env : Env) (crossing : Crossing) (kickoff : Kickoff) : Except EngineError Session :=
  settleStageBoundary env crossing.session crossing.stage crossing.row kickoff crossing.paths crossing.index

def Crossing.proceeded (env : Env) (crossing : Crossing) : StageExecution :=
  { crossing.row with status := .completed, completedAt := some env.now, boundaryOutcome := some .proceeded }

def sentBackRevision (session : Session) (target : SkillStage) (gapText : String) : RevisionContext :=
  { source := .sendBack, text := gapText,
    priorArtifact := ((latestFinal session.db session.run.orgId session.run.ticketId target.name).map Artifact.body).getD "" }

inductive SendsBack (env : Env) (session : Session) (row : StageExecution) (targetIndex : Nat) (target : SkillStage)
    (gapText : String) (kickoff : Kickoff) (after : Session) : Prop where
  | loops (same : after = enterPause env session row [.sendbackLoop target.name] [] kickoff)
  | rewinds (first : session.run.count target.name < 1)
      (started : startStageImpl env
        (rewound session row targetIndex target { kickoff with revision := some (sentBackRevision session target gapText) })
        (some targetIndex) = .ok after)

inductive Settles (env : Env) (crossing : Crossing) (kickoff : Kickoff) (after : Session) : Prop where
  | proceeds (calm : crossing.Proceeds env)
      (same : after = (crossing.session.put (crossing.proceeded env)).enqueue
        (routeSuccess crossing.session crossing.index))
  | pauses (row : StageExecution) (tripped : List TrippedCondition) (owners : List Uuid)
      (trips : ¬ crossing.Proceeds env)
      (same : after = enterPause env (crossing.session.put row) row tripped owners kickoff)
  | sendsBack (row : StageExecution) (targetIndex : Nat) (target : SkillStage) (gapText : String)
      (resolved : resolveResidualSendBack crossing.session.run.definitionSnapshot crossing.stage crossing.index
        (residualsOf crossing.session.db crossing.row) = some (targetIndex, target, gapText))
      (sends : SendsBack env (crossing.session.put row) row targetIndex target gapText kickoff after)

inductive Begins (index : Nat) (before after : Session) : Prop where
  | opens (stage : ExecutableStage) (command : AgentCommand) (invocation : Invocation) (onward : Onward before after)
      (found : before.run.definitionSnapshot.stages[index]? = some stage)
      (commands : after.db.agentCommands = before.db.agentCommands ++ [command])
      (owner : command.context.runId = before.run.id) (carries : command.body.invocation? = some invocation)
      (named : stage.name? = some invocation.context.stageName)
      (revision : invocation.context.revision = before.run.kickoff.revision)
      (schema : invocation.outputSchema = .skillReturn ∨ ∃ review, stage = .review review)
      (kickoff : after.run.kickoff = { before.run.kickoff with revision := none })
      (unsettled : Unsettled before.run after.run)
  | refused (onward : Onward before after) (commands : after.db.agentCommands = before.db.agentCommands)
      (kickoff : after.run.kickoff = { before.run.kickoff with revision := none } ∨
        after.run.kickoff = before.run.kickoff ∧ ∃ stage, before.run.definitionSnapshot.stages[index]? = some (.action stage))
      (unsettled : Unsettled before.run after.run)
      (fails : ∃ row rest text, after.run.stageExecutions = row :: rest ∧ row.kind ≠ .system ∧ row.status = .failed ∧
        after.db.outbox = before.db.outbox ++ [.routeRun
          { runId := before.run.id, completedStageIndex := some index, outcomeLabel := some .failure,
            failureReason := some text }])
  | provisions (stays : Stays before { after with run := { after.run with phase := before.run.phase } })
      (phase : after.run.phase = .provision)
      (newest : ∃ row rest, after.run.stageExecutions = row :: rest ∧ row.kind = .system ∧
        row.stageName = systemStageProvision)
      (uncommanded : ∃ command, after.db.agentCommands = before.db.agentCommands ++ [command] ∧
        command.body.invocation? = none)
  | acts (level : Level before after) (commands : after.db.agentCommands = before.db.agentCommands)
      (action : ∃ stage, before.run.definitionSnapshot.stages[index]? = some (.action stage))
      (newest : ∃ row rest, after.run.stageExecutions = row :: rest ∧ row.kind ≠ .system ∧ row.status = .completed ∧
        row.stageIndex = some index)
      (outbox : after.db.outbox = before.db.outbox ++ [routeSuccess before index])

inductive Returned (env : Env) (session : Session) (row : StageExecution) (outputs : Dict Json) (after : Session) : Prop where
  | stays (stays : Stays session after)
      (silent : row.kind = .review → after.db.agentCommands = session.db.agentCommands)
  | crosses (crossing : Crossing) (crosses : Crosses env session row outputs crossing)
      (level : Level session crossing.session) (outbox : crossing.session.db.outbox = session.db.outbox)
      (commands : crossing.session.db.agentCommands = session.db.agentCommands)
      (settles : Settles env crossing session.run.kickoff after)
  | asks (completed : StageExecution) (targetIndex : Nat) (target : SkillStage) (gapText : String)
      (asks : AsksBack env session row outputs targetIndex target gapText)
      (sends : SendsBack env (session.put completed) completed targetIndex target gapText session.run.kickoff after)

theorem onward_refl (session : Session) : Onward session session := ⟨rfl, rfl, rfl, rfl, rfl, rfl, fun _ => .inl⟩

theorem onward_trans (first middle last : Session) (left : Onward first middle) (right : Onward middle last) :
    Onward first last :=
  ⟨right.id.trans left.id, right.definition.trans left.definition, right.state.trans left.state,
    right.current.trans left.current, right.cancelRequested.trans left.cancelRequested, right.phase.trans left.phase,
    fun message member => (right.routes message member).elim (left.routes message) .inr⟩

theorem plain_nil : Plain [] := fun _ member => nomatch member

theorem level_onward (before after : Session) (onward : Onward before after)
    (kickoff : after.run.kickoff = before.run.kickoff) (commands : after.db.agentCommands = before.db.agentCommands) :
    Level before after :=
  { onward with kickoff := kickoff, commands := ⟨[], by rw [commands, List.append_nil], plain_nil⟩ }

theorem level_trans (first middle last : Session) (left : Level first middle) (right : Level middle last) :
    Level first last := by
  refine { onward_trans first middle last left.toOnward right.toOnward with
    kickoff := right.kickoff.trans left.kickoff, commands := ?_ }
  obtain ⟨earlier, firstAdded, firstPlain⟩ := left.commands
  obtain ⟨later, lastAdded, lastPlain⟩ := right.commands
  refine ⟨earlier ++ later, by rw [lastAdded, firstAdded, List.append_assoc], ?_⟩
  intro command member
  rcases List.mem_append.mp member with early | late
  · exact firstPlain command early
  · exact lastPlain command late

theorem unsettled_rows (before after : PipelineRun) (same : after.stageExecutions = before.stageExecutions) :
    Unsettled before after := by
  intro row member _ completed
  rw [same] at member
  exact ⟨row, member, rfl, rfl, completed⟩

theorem unsettled_trans (first middle last : PipelineRun) (left : Unsettled first middle)
    (right : Unsettled middle last) : Unsettled first last := by
  intro row member kind completed
  obtain ⟨old, oldMember, same, sameKind, oldCompleted⟩ := right row member kind completed
  obtain ⟨oldest, oldestMember, again, againKind, settled⟩ := left old oldMember (sameKind ▸ kind) oldCompleted
  exact ⟨oldest, oldestMember, again.trans same, againKind.trans sameKind, settled⟩

theorem unsettled_put (session : Session) (row : StageExecution) (unfinished : row.status ≠ .completed) :
    Unsettled session.run (session.put row).run := by
  intro other member _ completed
  obtain ⟨old, oldMember, same⟩ := List.mem_map.mp member
  by_cases replaced : old.id = row.id
  · rw [if_pos replaced] at same
    rw [← same] at completed
    exact absurd completed unfinished
  · rw [if_neg replaced] at same
    exact ⟨other, same ▸ oldMember, rfl, rfl, completed⟩

theorem unsettled_add (session : Session) (row : StageExecution) (unfinished : row.status ≠ .completed) :
    Unsettled session.run (session.addExecution row).run := by
  intro other member _ completed
  rcases List.mem_cons.mp member with same | older
  · rw [same] at completed
    exact absurd completed unfinished
  · exact ⟨other, older, rfl, rfl, completed⟩

theorem stays_trans (first middle last : Session) (left : Stays first middle) (right : Stays middle last) :
    Stays first last :=
  { level_trans first middle last left.toLevel right.toLevel with
    unsettled := unsettled_trans _ _ _ left.unsettled right.unsettled }

theorem stays_same (before after : Session) (onward : Onward before after)
    (kickoff : after.run.kickoff = before.run.kickoff) (commands : after.db.agentCommands = before.db.agentCommands)
    (rows : after.run.stageExecutions = before.run.stageExecutions) : Stays before after :=
  { level_onward before after onward kickoff commands with unsettled := unsettled_rows _ _ rows }

theorem stays_mint (session : Session) : Stays session session.mint :=
  stays_same session _ ⟨rfl, rfl, rfl, rfl, rfl, rfl, fun _ => .inl⟩ rfl rfl rfl

theorem stays_put (session : Session) (row : StageExecution) (unfinished : row.status ≠ .completed) :
    Stays session (session.put row) :=
  { level_onward session (session.put row) ⟨rfl, rfl, rfl, rfl, rfl, rfl, fun _ => .inl⟩ rfl rfl with
    unsettled := unsettled_put session row unfinished }

theorem level_put (session : Session) (row : StageExecution) : Level session (session.put row) :=
  level_onward session (session.put row) ⟨rfl, rfl, rfl, rfl, rfl, rfl, fun _ => .inl⟩ rfl rfl

theorem stays_add (session : Session) (row : StageExecution) (unfinished : row.status ≠ .completed) :
    Stays session (session.addExecution row) :=
  { level_onward session (session.addExecution row) ⟨rfl, rfl, rfl, rfl, rfl, rfl, fun _ => .inl⟩ rfl rfl with
    unsettled := unsettled_add session row unfinished }

theorem routes_enqueue (session : Session) (args : RouteRunArgs) :
    ∀ message ∈ (session.enqueue (.routeRun args)).db.outbox,
      message ∈ session.db.outbox ∨ ∃ args, message = .routeRun args := by
  intro message member
  rcases List.mem_append.mp member with earlier | last
  · exact .inl earlier
  · exact .inr ⟨args, List.mem_singleton.mp last⟩

theorem stays_enqueue (session : Session) (args : RouteRunArgs) : Stays session (session.enqueue (.routeRun args)) :=
  stays_same session _ ⟨rfl, rfl, rfl, rfl, rfl, rfl, routes_enqueue session args⟩ rfl rfl rfl

theorem stays_findings (session after : Session) (run : after.run = session.run)
    (only : OnlyFindings session.db after.db) : Stays session after := by
  obtain ⟨nextId, findings, _, same⟩ := only
  have routes : ∀ message ∈ after.db.outbox, message ∈ session.db.outbox ∨ ∃ args, message = .routeRun args := by
    rw [same]
    exact fun _ => .inl
  refine stays_same session after ⟨?_, ?_, ?_, ?_, ?_, ?_, routes⟩ (by rw [run]) (by rw [same]) (by rw [run]) <;> rw [run]

theorem stays_ordered (before after : Session) (command : AgentCommand) (onward : Onward before after)
    (kickoff : after.run.kickoff = before.run.kickoff)
    (commands : after.db.agentCommands = before.db.agentCommands ++ [command]) (plain : Plain [command])
    (unsettled : Unsettled before.run after.run) : Stays before after :=
  { onward with kickoff := kickoff, commands := ⟨[command], commands, plain⟩, unsettled := unsettled }

section Passes

variable (env : Env) (session : Session) (row : StageExecution)

theorem failStage_stays (text : String) : Stays session (failStage env session row text) :=
  stays_trans _ _ _ (stays_put session (row.fail env text) (by simp [StageExecution.fail])) (stays_enqueue _ _)

theorem parked_stays (workspace : Workspace) (park : StageExecution) (commandId : Uuid) (pluginId : String)
    (invocation : Invocation) (working : park.status ≠ .completed)
    (side : invocation.Side) : Stays session (parked session workspace row park commandId pluginId invocation) := by
  refine stays_ordered session _ (invocationCommand session workspace row commandId pluginId invocation)
    ⟨rfl, rfl, rfl, rfl, rfl, rfl, fun _ => .inl⟩ rfl rfl ?_ (unsettled_put session park working)
  intro command member other carries
  rw [List.mem_singleton.mp member] at carries
  have same : invocation = other := Option.some.inj carries
  exact same ▸ side

theorem invoke_stays (park : StageExecution) (commandId : Uuid) (pluginId : String) (invocation : Uuid → Invocation)
    (working : park.status ≠ .completed)
    (side : ∀ workspaceId, (invocation workspaceId).Side) :
    Ensures (invoke env session row commandId pluginId invocation park) (Stays session) := by
  refine ensures_mono _ _ _ (invoke_result env session row park commandId pluginId invocation) fun after result => ?_
  rcases result with ⟨text, same⟩ | ⟨workspaceId, workspace, _, same⟩
  · rw [same]
    exact failStage_stays env session row text
  · rw [same]
    exact parked_stays session row workspace park commandId pluginId _ working (side workspaceId)

theorem dispatchReviewInvocation_stays (stage : SkillStage) (body : String) (active : row.status = .running) :
    Ensures (dispatchReviewInvocation env session stage row body) (Stays session) := by
  rw [dispatchReviewInvocation]
  cases stage.review with
  | none => exact ensures_error _ _
  | some review =>
      refine ensures_read _ _ _ fun ticket _ => ensures_read _ _ _ fun findings _ => ensures_read _ _ _ fun pr _ => ?_
      have counted := stays_put session { row with iteration := row.iteration + 1 } (by simp [active])
      refine ensures_mono _ _ _ (invoke_stays env _ _ _ _ _ _ ?_ ?_) fun after stays =>
        stays_trans _ _ _ (stays_trans _ _ _ counted (stays_mint _)) stays
      · simp [active]
      · exact fun _ => .inl ⟨rfl, rfl⟩

theorem dispatchFixInvocation_stays (stage : SkillStage) (index : Nat) (kickoff : Kickoff) (body : String)
    (residuals : List Finding) (active : row.status = .running) :
    Ensures (dispatchFixInvocation env session stage row index kickoff body residuals) (Stays session) := by
  rw [dispatchFixInvocation]
  refine ensures_read _ _ _ fun ticket _ => ensures_read _ _ _ fun pr _ => ?_
  refine ensures_mono _ _ _ (invoke_stays env _ _ _ _ _ _ ?_ ?_) fun after stays =>
    stays_trans _ _ _ (stays_mint _) stays
  · simp [active]
  · exact fun _ => .inr ⟨_, rfl, rfl⟩

theorem stays_retries (before middle after : Session) (stays : Stays before middle) (retries : Retries middle after)
    (commands : middle.db.agentCommands = before.db.agentCommands) : Retries before after :=
  { onward_trans before middle after stays.toOnward retries.toOnward with
    kickoff := retries.kickoff.trans stays.kickoff
    commands := by
      rw [← commands]
      exact retries.commands
    unsettled := unsettled_trans _ _ _ stays.unsettled retries.unsettled }

theorem dispatchSkillStage_retries (stage : SkillStage) (index : Nat) (kickoff : Kickoff) :
    Ensures (dispatchSkillStage env session stage index kickoff none) (Retries session) := by
  rw [dispatchSkillStage]
  refine ensures_read _ _ _ fun ticket _ => ensures_read _ _ _ fun pr _ => ?_
  let added : StageExecution :=
    { newExecution session.db.nextId (some index) .skill stage.name with
      skillName := some stage.skillName, phase := some .main, revision := none }
  have working : added.status ≠ .completed := by simp [added, newExecution]
  have begun := stays_trans _ _ _ (stays_add session added working) (stays_mint _)
  refine ensures_mono _ _ _ (invoke_result env _ _ _ _ _ _) fun after result => ?_
  rcases result with ⟨text, same⟩ | ⟨workspaceId, workspace, _, same⟩
  · rw [same]
    have failed := failStage_stays env (session.addExecution added).mint added text
    exact stays_retries _ _ _ begun { failed with commands := ⟨[], (List.append_nil _).symm, by intros; contradiction⟩ } rfl
  · rw [same]
    refine stays_retries _ _ _ begun ⟨⟨rfl, rfl, rfl, rfl, rfl, rfl, fun _ => .inl⟩, rfl, ⟨_, rfl, ?_⟩,
      unsettled_put (session.addExecution added).mint added working⟩ rfl
    intro command member invocation carries
    rw [List.mem_singleton.mp member] at carries
    cases carries
    rfl

theorem storeArtifact_stays (body : String) (artifactId : Uuid) :
    Stays session (markFinal (storeArtifact session row body) artifactId) :=
  stays_same session _ ⟨rfl, rfl, rfl, rfl, rfl, rfl, fun _ => .inl⟩ rfl rfl rfl

theorem dispatchRefreshAuth_stays (reason : String) :
    Ensures (dispatchRefreshAuth env session row reason) (Stays session) := by
  rw [dispatchRefreshAuth]
  simp only
  split
  · exact ensures_error _ _
  · rename_i workspaceId _
    refine ensures_read _ _ _ fun ticket _ => ?_
    rw [dispatchAuthRefresh]
    split
    · exact ensures_error _ _
    · simp only [dispatchViaWorkspace]
      split
      · exact ensures_error _ _
      · let counted : Session :=
          { session with
            run :=
              { session.run with
                sendbackCounts := Dict.set session.run.sendbackCounts (authRetryKey row.stageName) 1 } }
        have failed := unsettled_put counted (row.fail env reason) (by simp [StageExecution.fail])
        have added := unsettled_add (counted.put (row.fail env reason))
          (newExecution session.db.nextId none .system systemStageRefreshAuth) (by simp [newExecution])
        have both := unsettled_trans _ _ _ failed added
        refine ensures_ok _ _ (stays_ordered session _ _ ⟨rfl, rfl, rfl, rfl, rfl, rfl, fun _ => .inl⟩ rfl rfl ?_ both)
        intro command member invocation carries
        rw [List.mem_singleton.mp member] at carries
        cases carries

end Passes

section Boundary

variable (env : Env)

theorem sendBackToStage_sends (session : Session) (row : StageExecution) (targetIndex : Nat) (target : SkillStage)
    (gapText : String) (kickoff : Kickoff) :
    Ensures (sendBackToStage env session row targetIndex target gapText kickoff)
      (SendsBack env session row targetIndex target gapText kickoff) := by
  rw [sendBackToStage]
  by_cases looped : (session.run.sendbackCounts.lookup target.name).getD 0 ≥ 1
  · rw [if_pos looped]
    exact ensures_ok _ _ (.loops rfl)
  · rw [if_neg looped]
    exact fun after started => .rewinds (Nat.not_le.mp looped) started

theorem put_put (session : Session) (first second : StageExecution) (same : second.id = first.id) :
    (session.put first).put second = session.put second := by
  have rows : ((session.put first).put second).run.stageExecutions = (session.put second).run.stageExecutions := by
    simp only [Session.put, List.map_map]
    refine List.map_congr_left fun row _ => ?_
    by_cases hit : row.id = first.id
    · simp [hit, same]
    · simp [hit, same]
  exact congrArg (fun rows => ({ session with run := { session.run with stageExecutions := rows } } : Session)) rows

theorem settle_settles (crossing : Crossing) (kickoff : Kickoff) :
    Ensures (crossing.settle env kickoff) (Settles env crossing kickoff) := by
  let completed : StageExecution := { crossing.row with status := .completed, completedAt := some env.now }
  rw [Crossing.settle, settleStageBoundary]
  simp only
  cases blamed : resolveResidualSendBack crossing.session.run.definitionSnapshot crossing.stage crossing.index
    (residualsOf crossing.session.db crossing.row) with
  | some found =>
      obtain ⟨targetIndex, target, gapText⟩ := found
      refine ensures_mono _ _ _ (sendBackToStage_sends env _ completed targetIndex target gapText kickoff) ?_
      exact fun after sends => .sendsBack completed targetIndex target gapText blamed sends
  | none =>
      refine ensures_read _ _ _ fun ticket read => ?_
      cases confident : crossing.row.confidence with
      | none => exact ensures_error _ _
      | some confidence =>
          simp only
          cases decision : evaluateBoundary env crossing.stage.boundary crossing.session.run.orgId ticket.repoExternalId
            (residualsOf crossing.session.db crossing.row) crossing.paths confidence with
          | pause tripped owners =>
              refine ensures_ok _ _ (.pauses _ tripped owners (fun calm => ?_) rfl)
              have proceeds := calm.untripped ticket confidence read confident
              rw [decision] at proceeds
              cases proceeds
          | proceed =>
              have calm : crossing.Proceeds env := by
                refine ⟨blamed, fun other sure otherRead same => ?_⟩
                rw [read] at otherRead
                rw [confident] at same
                cases otherRead
                cases same
                exact decision
              refine ensures_ok _ _ (.proceeds calm ?_)
              rw [← confident]
              exact congrArg (fun session => session.enqueue (routeSuccess crossing.session crossing.index))
                (put_put crossing.session completed (crossing.proceeded env) rfl)

end Boundary

section Beginning

variable (env : Env) (session : Session) (index : Nat)

theorem fresh_refused (before prepared : Session) (row : StageExecution) (text : String)
    (added : prepared = session.addExecution row ∨ prepared = (session.addExecution row).mint)
    (kind : row.kind ≠ .system) (indexed : row.stageIndex = some index) (active : row.status ≠ .completed)
    (onward : Onward before session) (commands : session.db.agentCommands = before.db.agentCommands)
    (rows : session.run.stageExecutions = before.run.stageExecutions) (outbox : session.db.outbox = before.db.outbox)
    (kickoff : session.run.kickoff = { before.run.kickoff with revision := none } ∨
      session.run.kickoff = before.run.kickoff ∧
        ∃ stage, before.run.definitionSnapshot.stages[index]? = some (.action stage)) :
    Begins index before (failStage env prepared row text) := by
  have begun : Unsettled session.run (failStage env (session.addExecution row) row text).run :=
    unsettled_trans _ _ _ (unsettled_add session row active)
      (unsettled_put (session.addExecution row) (row.fail env text) (by simp [StageExecution.fail]))
  have whole : Unsettled before.run (failStage env (session.addExecution row) row text).run :=
    unsettled_trans _ _ _ (unsettled_rows _ _ rows) begun
  have fails : ∃ failed rest reason,
      (failStage env (session.addExecution row) row text).run.stageExecutions = failed :: rest ∧
        failed.kind ≠ .system ∧ failed.status = .failed ∧
        (failStage env (session.addExecution row) row text).db.outbox = before.db.outbox ++ [.routeRun
          { runId := before.run.id, completedStageIndex := some index, outcomeLabel := some .failure,
            failureReason := some reason }] := by
    let replaced (other : StageExecution) : StageExecution := if other.id = row.id then row.fail env text else other
    refine ⟨row.fail env text, session.run.stageExecutions.map replaced, text, ?_, kind, rfl, ?_⟩
    · show (row :: session.run.stageExecutions).map replaced = _
      rw [List.map_cons, show replaced row = row.fail env text from if_pos rfl]
    · rw [← outbox, ← onward.id, ← indexed]
      rfl
  have routes : ∀ message ∈ (failStage env (session.addExecution row) row text).db.outbox,
      message ∈ before.db.outbox ∨ ∃ args, message = .routeRun args := by
    rw [← outbox]
    exact routes_enqueue _ _
  rcases added with same | same
  · rw [same]
    exact .refused ⟨onward.id, onward.definition, onward.state, onward.current, onward.cancelRequested, onward.phase,
      routes⟩ commands kickoff whole fails
  · rw [same]
    exact .refused ⟨onward.id, onward.definition, onward.state, onward.current, onward.cancelRequested, onward.phase,
      routes⟩ commands kickoff whole fails

theorem invoke_begins (before : Session) (row : StageExecution) (stage : ExecutableStage) (commandId : Uuid)
    (pluginId : String) (invocation : Uuid → Invocation)
    (found : before.run.definitionSnapshot.stages[index]? = some stage)
    (named : ∀ workspaceId, stage.name? = some (invocation workspaceId).context.stageName)
    (revision : ∀ workspaceId, (invocation workspaceId).context.revision = before.run.kickoff.revision)
    (schema : ∀ workspaceId, (invocation workspaceId).outputSchema = .skillReturn ∨ ∃ review, stage = .review review)
    (kind : row.kind ≠ .system) (indexed : row.stageIndex = some index) (active : row.status = .running)
    (same : session = { before with run := { before.run with kickoff := { before.run.kickoff with revision := none } } }) :
    Ensures (invoke env (session.addExecution row).mint row commandId pluginId invocation row)
      (Begins index before) := by
  refine ensures_mono _ _ _ (invoke_result env _ row row commandId pluginId invocation) fun after result => ?_
  have working : row.status ≠ .completed := by simp [active]
  rcases result with ⟨text, refused⟩ | ⟨workspaceId, workspace, _, opened⟩
  · rw [refused]
    rw [same]
    exact fresh_refused env _ index before _ row text (.inr rfl) kind indexed working
      ⟨rfl, rfl, rfl, rfl, rfl, rfl, fun _ => .inl⟩ rfl rfl rfl (.inl rfl)
  · rw [opened, same]
    refine .opens stage _ (invocation workspaceId) ⟨rfl, rfl, rfl, rfl, rfl, rfl, fun _ => .inl⟩ found rfl rfl rfl
      (named workspaceId) (revision workspaceId) (schema workspaceId) rfl ?_
    have cleared : Unsettled before.run ({ before.run with kickoff := { before.run.kickoff with revision := none } } :
        PipelineRun) := unsettled_rows _ _ rfl
    exact unsettled_trans _ _ _ cleared (unsettled_trans _ _ _
      (unsettled_add { before with run := { before.run with kickoff := { before.run.kickoff with revision := none } } } row
        working) (unsettled_put _ row working))

theorem dispatchProvisionStage_begins (kickoff : Kickoff) :
    Ensures (dispatchProvisionStage env session kickoff) (Begins index session) := by
  rw [dispatchProvisionStage]
  refine ensures_read _ _ _ fun ticket _ => ?_
  simp only [dispatchProvision]
  split
  · split
    · exact ensures_error _ _
    · split
      · refine ensures_ok _ _ (.provisions
          (stays_ordered session _ _ ⟨rfl, rfl, rfl, rfl, rfl, rfl, fun _ => .inl⟩ rfl rfl ?_ ?_) rfl
          ⟨_, _, rfl, rfl, rfl⟩ ⟨_, rfl, rfl⟩)
        · intro command member invocation carries
          rw [List.mem_singleton.mp member] at carries
          cases carries
        · exact unsettled_add session (newExecution session.db.nextId none .system systemStageProvision)
            (by simp [newExecution])
      · exact ensures_error _ _
  · exact ensures_error _ _

theorem runActionStage_begins (stage : ActionStage) (kickoff : Kickoff)
    (found : session.run.definitionSnapshot.stages[index]? = some (.action stage)) :
    Ensures (runActionStage env session stage index kickoff) (Begins index session) := by
  rw [runActionStage]
  refine ensures_read _ _ _ fun context _ => ?_
  let row := newExecution session.db.nextId (some index) .action stage.actionId
  cases env.runAction stage.actionId context with
  | raised => exact ensures_error _ _
  | actionError text =>
      exact ensures_ok _ _ (fresh_refused env session index session _ row text (.inl rfl) (by simp [row, newExecution]) rfl
        (by simp [row, newExecution]) (onward_refl session) rfl rfl rfl (.inr ⟨rfl, stage, found⟩))
  | returned result =>
      let acted : StageExecution :=
        { row with
          status := .completed, actionResult := some result, boundaryOutcome := some .proceeded,
          completedAt := some env.now }
      let replaced (other : StageExecution) : StageExecution := if other.id = row.id then acted else other
      refine ensures_ok _ _ (.acts ?_ rfl ⟨stage, found⟩ ?_ rfl)
      · exact level_onward session _ ⟨rfl, rfl, rfl, rfl, rfl, rfl, routes_enqueue _ _⟩ rfl rfl
      · refine ⟨acted, session.run.stageExecutions.map replaced, ?_, by simp [acted, row, newExecution], rfl, rfl⟩
        show (row :: session.run.stageExecutions).map replaced = _
        rw [List.map_cons, show replaced row = acted from if_pos rfl]

theorem startStageImpl_begins (stageIndex : Option Nat) (running : session.run.state = .running) :
    Ensures (startStageImpl env session stageIndex) fun after =>
      ∃ index, stageIndex = some index ∧ Begins index session after := by
  rw [startStageImpl, if_neg (not_not.mpr running)]
  refine ensures_read _ _ _ fun stage at_ => ?_
  obtain ⟨index, isIndex, found⟩ := stageAt_found session.run.definitionSnapshot stageIndex stage at_
  rw [isIndex]
  have wrapped (body : Except EngineError Session) (begins : Ensures body (Begins index session)) :
      Ensures body fun after => ∃ other, some index = some other ∧ Begins other session after :=
    ensures_mono _ _ _ begins fun after holds => ⟨index, rfl, holds⟩
  refine wrapped _ ?_
  cases stage with
  | action action => exact runActionStage_begins env session index action _ found
  | skill skill =>
      simp only
      split
      · rw [dispatchSkillStage]
        refine ensures_read _ _ _ fun ticket _ => ensures_read _ _ _ fun pr _ => ?_
        exact invoke_begins env _ index session _ (.skill skill) _ _ _ found (fun _ => rfl) (fun _ => rfl)
          (fun _ => .inl rfl) (by simp [newExecution]) rfl rfl rfl
      · exact dispatchProvisionStage_begins env session index _
  | review review =>
      simp only
      split
      · rw [dispatchReviewOnlyStage]
        refine ensures_read _ _ _ fun ticket _ => ensures_read _ _ _ fun findings _ => ensures_read _ _ _ fun pr _ => ?_
        exact invoke_begins env _ index session _ (.review review) _ _ _ found (fun _ => rfl) (fun _ => rfl)
          (fun _ => .inr ⟨review, rfl⟩) (by simp [newExecution]) rfl rfl rfl
      · exact dispatchProvisionStage_begins env session index _

end Beginning

section Returning

variable (env : Env) (session : Session) (row : StageExecution) (outputs : Dict Json)

inductive ValidatedReturn (stage : SkillStage) (kickoff : Kickoff) : Validated → Prop where
  | stays (after : Session) (stays : Stays session after) : ValidatedReturn stage kickoff (.ended after)
  | asks (after : Session) (completed : StageExecution) (skillReturn : SkillReturn) (targetIndex : Nat)
      (target : SkillStage) (valid : validateReturn env.skillReturnOf outputs = .ok skillReturn)
      (asked : skillReturn.outcome = .sendBack)
      (resolved : upstreamTarget session.run.definitionSnapshot stage (row.stageIndex.getD 0)
        skillReturn.sendBackToStage = some (targetIndex, target))
      (sends : SendsBack env (session.put completed) completed targetIndex target (skillReturn.outcomeReason.getD "")
        kickoff after) : ValidatedReturn stage kickoff (.ended after)
  | produced (skillReturn : SkillReturn) (body : String)
      (valid : validateReturn env.skillReturnOf outputs = .ok skillReturn) (done : skillReturn.outcome = .completed)
      (artifact : artifactBody outputs = some body) : ValidatedReturn stage kickoff (.produced
        { session := markFinal (storeArtifact session row body) session.db.nextId, skillReturn := skillReturn,
          artifactId := session.db.nextId, body := body })

theorem validate_returned (stage : SkillStage) (kickoff : Kickoff) :
    Ensures (validateSkillReturnAndArtifact env session stage row (row.stageIndex.getD 0) kickoff outputs)
      (ValidatedReturn env session row outputs stage kickoff) := by
  rw [validateSkillReturnAndArtifact]
  cases valid : validateReturn env.skillReturnOf outputs with
  | error text => exact ensures_ok _ _ (.stays _ (failStage_stays env session row _))
  | ok skillReturn =>
      simp only
      cases outcome : skillReturn.outcome with
      | cannotComplete => exact ensures_ok _ _ (.stays _ (failStage_stays env session row _))
      | sendBack =>
          simp only
          cases resolved : upstreamTarget session.run.definitionSnapshot stage (row.stageIndex.getD 0)
            skillReturn.sendBackToStage with
          | none => exact ensures_ok _ _ (.stays _ (failStage_stays env session row _))
          | some found =>
              obtain ⟨targetIndex, target⟩ := found
              refine ensures_bind _ _ _ _ (sendBackToStage_sends env _ _ targetIndex target _ kickoff) fun after sends => ?_
              exact ensures_ok _ _ (.asks after _ skillReturn targetIndex target valid outcome resolved sends)
      | completed =>
          simp only
          cases artifact : artifactBody outputs with
          | none =>
              exact ensures_read _ _ _ fun reason _ => ensures_ok _ _ (.stays _ (failStage_stays env session row reason))
          | some body => exact ensures_ok _ _ (.produced skillReturn body valid outcome artifact)

theorem crosses_returned (crossing : Crossing) (crosses : Crosses env session row outputs crossing)
    (level : Level session crossing.session) (outbox : crossing.session.db.outbox = session.db.outbox)
    (commands : crossing.session.db.agentCommands = session.db.agentCommands) :
    Ensures (crossing.settle env session.run.kickoff) (Returned env session row outputs) :=
  ensures_mono _ _ _ (settle_settles env crossing session.run.kickoff) fun _ =>
    .crosses crossing crosses level outbox commands

variable (stage : SkillStage) (kind : row.kind ≠ .system ∧ row.kind ≠ .review)
  (found : stageAt session.run.definitionSnapshot row.stageIndex = .ok (.skill stage)) (active : row.status = .running)

include kind found active

theorem handleMainReturn_returned (phase : row.phase ≠ some .review ∧ row.phase ≠ some .fix) :
    Ensures (handleMainReturn env session stage row (row.stageIndex.getD 0) session.run.kickoff outputs)
      (Returned env session row outputs) := by
  rw [handleMainReturn]
  refine ensures_bind _ _ _ _ (validate_returned env session row outputs stage session.run.kickoff) ?_
  intro validated returned
  cases returned with
  | stays after stays => exact ensures_ok _ _ (.stays stays fun same => absurd same kind.2)
  | asks after completed skillReturn targetIndex target valid asked resolved sends =>
      exact ensures_ok _ _ (.asks completed targetIndex target _
        ⟨kind, phase.1, stage, skillReturn, found, valid, asked, resolved, rfl⟩ sends)
  | produced skillReturn body valid done artifact =>
      have stored := storeArtifact_stays session row body session.db.nextId
      simp only
      cases reviews : stage.review with
      | none =>
          have crosses := @Crosses.main env session row outputs stage skillReturn body kind found phase reviews valid
            done artifact _ rfl
          have settled := crosses_returned env session row outputs _ crosses
            (level_trans _ _ _ stored.toLevel (level_put _ _)) rfl rfl
          exact settled
      | some review =>
          have recorded := stays_put (markFinal (storeArtifact session row body) session.db.nextId)
            (recordProduced
              { session := markFinal (storeArtifact session row body) session.db.nextId, skillReturn := skillReturn,
                artifactId := session.db.nextId, body := body } row .main) (by simp [recordProduced, active])
          refine ensures_mono _ _ _ (dispatchReviewInvocation_stays env _ _ stage _ active) fun after stays => ?_
          exact .stays (stays_trans _ _ _ (stays_trans _ _ _ stored recorded) stays) fun same => absurd same kind.2

theorem handleFixReturn_returned (phase : row.phase = some .fix) :
    Ensures (handleFixReturn env session stage row (row.stageIndex.getD 0) session.run.kickoff outputs)
      (Returned env session row outputs) := by
  rw [handleFixReturn]
  refine ensures_bind _ _ _ _ (validate_returned env session row outputs stage session.run.kickoff) ?_
  intro validated returned
  cases returned with
  | stays after stays => exact ensures_ok _ _ (.stays stays fun same => absurd same kind.2)
  | asks after completed skillReturn targetIndex target valid asked resolved sends =>
      exact ensures_ok _ _ (.asks completed targetIndex target _
        ⟨kind, by simp [phase], stage, skillReturn, found, valid, asked, resolved, rfl⟩ sends)
  | produced skillReturn body valid done artifact =>
      have stored := storeArtifact_stays session row body session.db.nextId
      have recorded := stays_put (markFinal (storeArtifact session row body) session.db.nextId)
        (recordProduced
          { session := markFinal (storeArtifact session row body) session.db.nextId, skillReturn := skillReturn,
            artifactId := session.db.nextId, body := body } row .fix) (by simp [recordProduced, active])
      refine ensures_mono _ _ _ (dispatchReviewInvocation_stays env _ _ stage _ active) fun after stays => ?_
      exact .stays (stays_trans _ _ _ (stays_trans _ _ _ stored recorded) stays) fun same => absurd same kind.2

theorem handleReviewReturn_returned (phase : row.phase = some .review) :
    Ensures (handleReviewReturn env session stage row (row.stageIndex.getD 0) session.run.kickoff outputs)
      (Returned env session row outputs) := by
  rw [handleReviewReturn]
  cases reviews : stage.review with
  | none => exact ensures_error _ _
  | some review =>
      simp only
      cases valid : validateReturn env.reviewReturnOf outputs with
      | error text =>
          exact ensures_ok _ _ (.stays (failStage_stays env session row _) fun same => absurd same kind.2)
      | ok reviewReturn =>
          simp only
          refine ensures_read _ _ _ fun reviewed applied => ?_
          have only := recordAndApplyReview_only env session row reviewReturn row.iteration reviewed applied
          have noted := stays_findings session reviewed.1 only.1 only.2
          split
          · refine ensures_read _ _ _ fun artifactId _ => ensures_read _ _ _ fun artifact _ => ?_
            refine ensures_mono _ _ _ (dispatchFixInvocation_stays env _ _ stage _ _ _ _ active) fun after stays => ?_
            exact .stays (stays_trans _ _ _ (stays_trans _ _ _ noted (stays_put _ _ (by simp [active]))) stays)
              fun same => absurd same kind.2
          · rename_i last
            have crosses := @Crosses.loop env session row outputs stage review reviewReturn reviewed kind found phase
              reviews valid applied last _ rfl
            obtain ⟨nextId, findings, _, same⟩ := only.2
            have settled := crosses_returned env session row outputs _ crosses
              (level_trans _ _ _ noted.toLevel (level_put _ _)) (by simp only [Session.put, same])
              (by simp only [Session.put, same])
            exact settled

end Returning

section Events

variable (env : Env) (session : Session) (row : StageExecution) (outcomeLabel : String) (outputs : Dict Json)

theorem crosses_row (crossing : Crossing) (crosses : Crosses env session row outputs crossing) :
    crossing.row.id = row.id ∧ crossing.row.kind = row.kind ∧ crossing.row.stageIndex = row.stageIndex ∧
      crossing.index = row.stageIndex.getD 0 ∧
      crossing.session.run.stageExecutions =
        session.run.stageExecutions.map fun other => if other.id = crossing.row.id then crossing.row else other := by
  cases crosses with
  | main stage skillReturn body kind found phase alone valid done artifact produced recorded =>
      rw [recorded]
      exact ⟨rfl, rfl, rfl, rfl, rfl⟩
  | loop stage review reviewReturn reviewed kind found phase reviews valid applied last noted recorded =>
      have run := (recordAndApplyReview_only env session row reviewReturn row.iteration reviewed applied).1
      rw [recorded]
      exact ⟨rfl, rfl, rfl, rfl, by rw [Session.put, run]⟩
  | review stage reviewReturn reviewed kind found valid applied noted recorded =>
      have run := (recordAndApplyReview_only env session row reviewReturn 1 reviewed applied).1
      rw [recorded]
      exact ⟨rfl, rfl, rfl, rfl, by rw [Session.put, run]⟩

theorem handleSkillStageEvent_failed (failed : outcomeLabel ≠ "success") :
    Ensures (handleSkillStageEvent env session row outcomeLabel outputs) (Stays session) := by
  rw [handleSkillStageEvent, if_pos failed]
  refine ensures_read _ _ _ fun reason _ => ?_
  split
  · exact dispatchRefreshAuth_stays env session row reason
  · exact ensures_ok _ _ (failStage_stays env session row reason)

theorem handleReviewStageEvent_failed (failed : outcomeLabel ≠ "success") :
    Ensures (handleReviewStageEvent env session row outcomeLabel outputs) fun after =>
      Stays session after ∧ after.db.agentCommands = session.db.agentCommands := by
  rw [handleReviewStageEvent, if_pos failed]
  exact ensures_read _ _ _ fun reason _ => ensures_ok _ _ ⟨failStage_stays env session row reason, rfl⟩

variable (active : row.status = .running)

include active

theorem handleSkillStageEvent_returned (kind : row.kind ≠ .system ∧ row.kind ≠ .review) :
    Ensures (handleSkillStageEvent env session row outcomeLabel outputs) (Returned env session row outputs) := by
  by_cases failed : outcomeLabel ≠ "success"
  · exact ensures_mono _ _ _ (handleSkillStageEvent_failed env session row outcomeLabel outputs failed) fun _ stays =>
      .stays stays fun same => absurd same kind.2
  · rw [handleSkillStageEvent, if_neg failed]
    refine ensures_read _ _ _ fun executable found => ?_
    cases executable with
    | review _ => exact ensures_error _ _
    | action _ => exact ensures_error _ _
    | skill stage =>
        simp only
        cases phase : row.phase with
        | none => exact handleMainReturn_returned env session row outputs stage kind found active (by simp [phase])
        | some pass =>
            cases pass with
            | main => exact handleMainReturn_returned env session row outputs stage kind found active (by simp [phase])
            | fix => exact handleFixReturn_returned env session row outputs stage kind found active phase
            | review => exact handleReviewReturn_returned env session row outputs stage kind found active phase

omit active in
theorem handleReviewStageEvent_returned (kind : row.kind = .review) :
    Ensures (handleReviewStageEvent env session row outcomeLabel outputs) (Returned env session row outputs) := by
  by_cases failed : outcomeLabel ≠ "success"
  · exact ensures_mono _ _ _ (handleReviewStageEvent_failed env session row outcomeLabel outputs failed) fun _ stays =>
      .stays stays.1 fun _ => stays.2
  · rw [handleReviewStageEvent, if_neg failed]
    refine ensures_read _ _ _ fun executable found => ?_
    cases executable with
    | skill _ => exact ensures_error _ _
    | action _ => exact ensures_error _ _
    | review stage =>
        simp only
        cases valid : validateReturn env.reviewReturnOf outputs with
        | error text => exact ensures_ok _ _ (.stays (failStage_stays env session row _) fun _ => rfl)
        | ok reviewReturn =>
            simp only
            refine ensures_read _ _ _ fun reviewed applied => ?_
            have only := recordAndApplyReview_only env session row reviewReturn 1 reviewed applied
            have noted := stays_findings session reviewed.1 only.1 only.2
            have crosses := @Crosses.review env session row outputs stage reviewReturn reviewed kind found valid
              applied _ rfl
            obtain ⟨nextId, findings, _, same⟩ := only.2
            have settled := crosses_returned env session row outputs _ crosses
              (level_trans _ _ _ noted.toLevel (level_put _ _)) (by simp only [Session.put, same])
              (by simp only [Session.put, same])
            exact settled

omit row outcomeLabel outputs active in
theorem handleAgentEventImpl_returned (args : AgentEventArgs) :
    Ensures (handleAgentEventImpl env session args) fun after => after = session ∨
      ∃ row, runningExecution session.run = some row ∧
        session.run.pendingAgentCommandId = some args.agentCommandId ∧
        (row.kind = .system ∧
            handleSystemStageEvent env { session with run := { session.run with pendingAgentCommandId := none } } row
              args.outcomeLabel args.outputs = .ok after ∨
          row.kind ≠ .system ∧
            Returned env { session with run := { session.run with pendingAgentCommandId := none } } row args.outputs after ∧
            (args.outcomeLabel ≠ "success" →
              Stays { session with run := { session.run with pendingAgentCommandId := none } } after ∧
                (row.kind = .review → after.db.agentCommands = session.db.agentCommands))) := by
  intro after handled
  by_cases stale : session.run.pendingAgentCommandId ≠ some args.agentCommandId
  · rw [handleAgentEventImpl_stale env session args stale] at handled
    exact .inl (Except.ok.inj handled).symm
  · rw [handleAgentEventImpl, if_neg stale] at handled
    cases running : runningExecution session.run with
    | none =>
        rw [running] at handled
        exact .inl (Except.ok.inj handled).symm
    | some row =>
        have active : row.status = .running := by simpa using List.find?_some running
        refine .inr ⟨row, rfl, not_not.mp stale, ?_⟩
        rw [running] at handled
        cases kind : row.kind with
        | system =>
            simp only [kind] at handled
            exact .inl ⟨rfl, handled⟩
        | review =>
            simp only [kind] at handled
            exact .inr ⟨by simp, handleReviewStageEvent_returned env _ row _ _ kind after handled,
              fun failed => (handleReviewStageEvent_failed env _ row _ _ failed after handled).imp_right fun same _ => same⟩
        | skill =>
            simp only [kind] at handled
            exact .inr ⟨by simp, handleSkillStageEvent_returned env _ row _ _ active (by simp [kind]) after handled,
              fun failed => ⟨handleSkillStageEvent_failed env _ row _ _ failed after handled, by intros; contradiction⟩⟩
        | action =>
            simp only [kind] at handled
            exact .inr ⟨by simp, handleSkillStageEvent_returned env _ row _ _ active (by simp [kind]) after handled,
              fun failed => ⟨handleSkillStageEvent_failed env _ row _ _ failed after handled, by intros; contradiction⟩⟩

end Events

end Yaaos.Pipelines
