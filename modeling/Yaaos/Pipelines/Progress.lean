import Yaaos.Pipelines.Invariant

set_option autoImplicit false

namespace Yaaos.Pipelines

open Yaaos.Base

def runningRows (run : PipelineRun) : List StageExecution := run.stageExecutions.filter fun row => row.status == .running

inductive Progress (db : Db) (run : PipelineRun) : Prop where
  | parked (state : run.state = .running) (pending : run.pendingAgentCommandId ≠ none)
      (active : (runningRows run).length = 1) (silent : db.messagesFor run.id = [])
  | driven (state : run.state = .running) (unparked : run.pendingAgentCommandId = none)
      (quiet : runningRows run = []) (driven : (db.messagesFor run.id).length = 1)
  | resting (state : run.state ≠ .running) (unparked : run.pendingAgentCommandId = none)
      (quiet : runningRows run = []) (silent : db.messagesFor run.id = [])

theorem quiet_runningRows (run : PipelineRun) (quiet : Quiet run.stageExecutions) : runningRows run = [] := by
  refine List.filter_eq_nil_iff.mpr fun row member active => quiet row member ?_
  simpa using active

theorem head_runningRows (run : PipelineRun) (row : StageExecution) (rest : List StageExecution)
    (rows : run.stageExecutions = row :: rest) (active : row.status = .running) (quiet : Quiet rest) :
    runningRows run = [row] := by
  rw [runningRows, rows, List.filter_cons_of_pos (by simp [active])]
  refine congrArg (row :: ·) (List.filter_eq_nil_iff.mpr fun other member running => quiet other member ?_)
  simpa using running

theorem stands_progress (db : Db) (run : PipelineRun) (stands : StandsIn db run) : Progress db run := by
  have standing : Stands (db.messagesFor run.id) (workspaceOf db run) run := stands
  cases standing with
  | queued state rows pauses unparked silent =>
      exact .resting (by rw [state]; decide) unparked (by rw [runningRows, rows]; rfl) silent
  | routing args state idle driven =>
      exact .driven state idle.unparked (quiet_runningRows run idle.quiet) (by rw [driven]; rfl)
  | starting index stage state idle driven =>
      exact .driven state idle.unparked (quiet_runningRows run idle.quiet) (by rw [driven]; rfl)
  | parked command row rest state pending closed rows active quiet silent =>
      exact .parked state (by rw [pending]; simp) (by rw [head_runningRows run row rest rows active quiet]; rfl) silent
  | paused row rest pause others state unparked quiet rows kind status pauses opened names closed silent =>
      exact .resting (by rw [state]; decide) unparked (quiet_runningRows run quiet) silent
  | ended state idle silent =>
      refine .resting (fun running => ?_) idle.unparked (quiet_runningRows run idle.quiet) silent
      rw [running] at state
      cases state

-- A run is never stranded and never driven twice.
theorem reachable_progress (db : Db) (reachable : Reachable runEngine db) (run : PipelineRun)
    (member : run ∈ db.runs.rows) : Progress db run :=
  stands_progress db run ((reachable_coherent db reachable).stands run member)

variable (flattened : FlattenedDefinition)

def sampleActor : Actor := .user 7 none

def sampleKickoff : Kickoff :=
  { intakePointId := "manual", actor := sampleActor, inputText := some "input", prBaseSha := none, prHeadSha := none,
    notifyUserIds := [], revision := none }

def sampleReturn : SkillReturn :=
  { outcome := .completed, outcomeReason := none, sendBackToStage := none, confidence := 95, pathsAffected := [],
    summary := "done", bounded := by decide }

def sampleReviewReturn : SkillReviewReturn :=
  { newFindings := [], priorFindingVerdicts := [], confidence := 95, summary := "done", bounded := by decide }

def sampleEnv (flattened : FlattenedDefinition) : Env :=
  { now := 0, skillReturnOf := fun _ => .ok sampleReturn, reviewReturnOf := fun _ => .ok sampleReviewReturn,
    pipelines := fun _ _ => some { name := "pipeline", flattened := flattened }, pullRequest := fun _ => none,
    evaluateProtected := fun _ _ _ => { matched := false, ownerUserIds := [] }, oauthIdentity := fun _ => none,
    orgAdmins := fun _ => [], coversAdmin := fun _ _ => true, commentFindingIds := fun _ => [],
    runAction := fun _ _ => .returned .null, pluginRegistered := fun _ => true, buildCommand := fun _ _ _ => .built,
    providerRegistered := true, installCredentials := fun _ _ _ => some ("https://github.com/me/repo.git", "token"),
    installationToken := fun _ _ => some "token", terminalHooks := [] }

def sampleTicket : Ticket :=
  { id := 2, orgId := 1, status := .pending, currentRunId := none, prId := none, branchName := "yaaos/ticket-2",
    pluginId := "github", repoExternalId := "42" }

def Db.empty (nextId : Uuid) : Db :=
  { nextId := nextId, runs := .empty, tickets := .empty, workspaces := .empty, findings := .empty, artifacts := [],
    agentCommands := [], codingAgentRuns := [], outbox := [] }

def sampleStarted (flattened : FlattenedDefinition) : Db :=
  runEngine.committed (.startRun (sampleEnv flattened) 1 2 3 sampleKickoff none)
    (runEngine.committed (.createTicket sampleTicket) (.empty 10))

def sampleDeliver (flattened : FlattenedDefinition) (db : Db) : Db :=
  runEngine.committed (.deliver (sampleEnv flattened) 0) db

theorem sampleStarted_reachable : Reachable runEngine (sampleStarted flattened) := by
  have empty : Reachable runEngine (.empty 10) := ⟨.empty 10, [], ⟨rfl, rfl, rfl, rfl, rfl, rfl⟩, .nil _⟩
  refine reachable_committed runEngine _ _ (reachable_committed runEngine _ _ empty trivial) ?_
  exact ⟨sampleTicket, rfl, rfl⟩

theorem sampleDeliver_reachable (db : Db) (reachable : Reachable runEngine db) :
    Reachable runEngine (sampleDeliver flattened db) :=
  reachable_committed runEngine _ _ reachable trivial

def sampleEvent (commandId : Uuid) (outcomeLabel : String) (outputs : Dict Json) : TerminalEvent :=
  { commandId := commandId, succeeded := decide (outcomeLabel = "success"), outcomeLabel := outcomeLabel,
    outputs := outputs, agentId := 5, expiresAt := 100 }

def sampleReport (flattened : FlattenedDefinition) (commandId : Uuid) (outcomeLabel : String) (outputs : Dict Json)
    (db : Db) : Db :=
  sampleDeliver flattened (runEngine.committed (.terminalEvent (sampleEvent commandId outcomeLabel outputs)) db)

theorem sampleReport_reachable (commandId : Uuid) (outcomeLabel : String)
    (outputs : Dict Json) (db : Db) (reachable : Reachable runEngine db) :
    Reachable runEngine (sampleReport flattened commandId outcomeLabel outputs db) :=
  sampleDeliver_reachable flattened _ (reachable_committed runEngine _ _ reachable trivial)

def sampleActions : FlattenedDefinition :=
  { stages := [.action { actionId := "first" }, .action { actionId := "second" }], nonempty := by simp,
    distinct := List.nodup_nil }

theorem unasked_offered : (none : Option Confidence) ≠ some .low := by simp

def sampleSkill (review : Option ReviewConfig) (mode : BoundaryMode) : SkillStage :=
  { name := "code", skillName := "write-code", codingAgentPluginId := "claude_code", model := "opus", effort := "high",
    review := review, contextStages := none, wallclockSeconds := 600,
    boundary :=
      { mode := mode, onBlockerResiduals := false, onShouldFixResiduals := false, onNitResiduals := false,
        onProtectedCode := false, onConfidenceBelow := none, offered := unasked_offered } }

def sampleSkills (review : Option ReviewConfig) (mode : BoundaryMode) : FlattenedDefinition :=
  { stages := [.skill (sampleSkill review mode)], nonempty := by simp, distinct := List.nodup_singleton "code" }

def sampleOutputs : Dict Json := [("output", .str "\x7b\x7d"), ("artifact", .obj [("body", .str "text")])]

def sampleWorking (flattened : FlattenedDefinition) : Db :=
  sampleDeliver flattened (sampleReport flattened 13 "success" []
    (sampleDeliver flattened (sampleDeliver flattened (sampleStarted flattened))))

theorem sampleWorking_reachable : Reachable runEngine (sampleWorking flattened) := by
  refine sampleDeliver_reachable _ _ (sampleReport_reachable _ _ _ _ _ ?_)
  exact sampleDeliver_reachable _ _ (sampleDeliver_reachable _ _ (sampleStarted_reachable flattened))

theorem sampleWorking_progress :
    ∃ run, (sampleWorking (sampleSkills none .alwaysHitl)).runs.find? 10 = some run ∧
      Progress (sampleWorking (sampleSkills none .alwaysHitl)) run :=
  ⟨_, rfl, reachable_progress _ (sampleWorking_reachable _) _ (Table.find?_some _ 10 _ rfl).1⟩

end Yaaos.Pipelines
