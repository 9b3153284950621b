import Yaaos.Pipelines.Progress

set_option autoImplicit false

namespace Yaaos.Pipelines

open Yaaos.Base

inductive NextStep where
  | start (stageIndex : Nat) (revision : Option RevisionContext)
  | finish (target : TerminalState) (failureReason : Option String)

def routeStep (run : PipelineRun) (args : RouteRunArgs) : NextStep :=
  match args.completedStageIndex with
  | none => .start (run.currentStageIndex.getD 0) run.kickoff.revision
  | some completedStageIndex =>
      if args.outcomeLabel = some .failure then .finish .failed args.failureReason
      else if run.cancelRequested then .finish .cancelled none
      else if completedStageIndex + 1 ≥ run.definitionSnapshot.stages.length then .finish .completed none
      else .start (completedStageIndex + 1) run.kickoff.revision

def leadsTo (run : PipelineRun) : Message → Option NextStep
  | .routeRun args => some (routeStep run args)
  | .startStage _ stageIndex => stageIndex.map fun index => .start index run.kickoff.revision
  | .handleAgentEvent _ => none
  | .runTerminalHook _ _ _ => none

def Restores (db : Db) (args : RouteRunArgs) (lost : Message) : Prop :=
  lost = .routeRun args ∨ ∀ env, handleMessage env db (.routeRun args) = .ok (db.enqueue lost)

def Reproduced (db : Db) (position : Nat) (stale : PipelineRun → Bool) (run : PipelineRun) (lost : Message) : Prop :=
  ∃ args, Message.routeRun args ∈ (reconcileStaleRunning (db.taken position) stale).messagesFor run.id ∧
    leadsTo run (.routeRun args) = leadsTo run lost ∧ Restores (db.taken position) args lost

def Recoverable (run : PipelineRun) : Message → Prop
  | .startStage _ stageIndex =>
      ∀ latest, latestNonSystem run = some latest →
        latest.status = .completed ∧ latest.stageIndex.map (· + 1) = stageIndex ∧ run.cancelRequested = false
  | _ => True

theorem routeRunImpl_leadsTo (env : Env) (session : Session) (args : RouteRunArgs) :
    routeRunImpl env session args =
      match routeStep session.run args with
      | .start index _ => .ok (dispatchStage session index)
      | .finish target reason => finishOrCleanup env session target reason := by
  rw [routeRunImpl, routeStep]
  cases args.completedStageIndex with
  | none => rfl
  | some completed =>
      simp only
      by_cases failed : args.outcomeLabel = some .failure
      · simp only [if_pos failed]
      · by_cases cancelled : session.run.cancelRequested = true
        · simp only [if_neg failed, if_pos cancelled]
        · by_cases last : completed + 1 ≥ session.run.definitionSnapshot.stages.length
          · simp only [if_neg failed, if_neg cancelled, if_pos last]
          · simp only [if_neg failed, if_neg cancelled, if_neg last]

theorem routeStep_restores (db : Db) (run : PipelineRun) (args : RouteRunArgs) (index : Nat)
    (revision : Option RevisionContext) (member : run ∈ db.runs.rows) (state : run.state = .running)
    (current : run.currentStageIndex = some index) (owner : args.runId = run.id)
    (step : routeStep run args = .start index revision) : Restores db args (.startStage run.id (some index)) := by
  refine .inr fun env => ?_
  have same : { run with currentStageIndex := some index } = run := by rw [← current]
  have shape : dispatchStage ⟨db, run⟩ index = ⟨db.enqueue (.startStage run.id (some index)), run⟩ := by
    rw [dispatchStage]
    simp only [same]
    rfl
  rw [handleMessage, owner, whileRunning_running db run _ member state, routeRunImpl_leadsTo]
  simp only [step]
  rw [shape]
  exact congrArg Except.ok (saveRun_stored (db.enqueue (.startStage run.id (some index))) run member)

section Sweeping

variable (db : Db) (position : Nat) (stale : PipelineRun → Bool) (run : PipelineRun) (lost : Message)

theorem recoveredArgs_run (args : RouteRunArgs) (recovered : recoveredArgs run = some args) : args.runId = run.id := by
  rw [recoveredArgs] at recovered
  cases found : latestNonSystem run with
  | none =>
      rw [found] at recovered
      cases recovered
      rfl
  | some latest =>
      rw [found] at recovered
      cases status : latest.status with
      | running => simp only [status] at recovered; cases recovered
      | completed => simp only [status] at recovered; cases recovered; rfl
      | failed => simp only [status] at recovered; cases recovered; rfl

theorem swept_args (args : RouteRunArgs) (member : run ∈ db.runs.rows) (state : run.state = .running)
    (unparked : run.pendingAgentCommandId = none) (due : stale run = true) (silent : db.messagesFor run.id = []) :
    Message.routeRun args ∈ (reconcileStaleRunning db stale).messagesFor run.id ↔ recoveredArgs run = some args := by
  have messages : (reconcileStaleRunning db stale).messagesFor run.id = db.messagesFor run.id ++
      ((((db.runs.rows.filter fun run =>
        run.state == .running && run.pendingAgentCommandId == none && stale run).filterMap recoveredArgs).map
          Message.routeRun).filter fun message => message.drives? == some run.id) := by
    rw [Db.messagesFor, reconcileStaleRunning, List.filter_append, Db.messagesFor]
  rw [messages, silent, List.nil_append]
  constructor
  · intro swept
    obtain ⟨sent, drives⟩ := List.mem_filter.mp swept
    obtain ⟨other, derived, same⟩ := List.mem_map.mp sent
    cases same
    obtain ⟨source, candidate, recovered⟩ := List.mem_filterMap.mp derived
    have isSource := recoveredArgs_run source args recovered
    have owner : args.runId = run.id := by simpa [Message.drives?] using drives
    have same := Table.eq_of_key db.runs source run (List.mem_filter.mp candidate).1 member (isSource.symm.trans owner)
    rw [← same]
    exact recovered
  · intro recovered
    refine List.mem_filter.mpr ⟨List.mem_map.mpr ⟨args, List.mem_filterMap.mpr ⟨run, ?_, recovered⟩, rfl⟩, ?_⟩
    · exact List.mem_filter.mpr ⟨member, by simp [state, unparked, due]⟩
    · simp [Message.drives?, recoveredArgs_run run args recovered]

theorem routes_recovered (args : RouteRunArgs) (routes : Routes run args) : recoveredArgs run = some args := by
  cases routes with
  | bootstrap rows start =>
      rw [recoveredArgs, latestNonSystem, rows]
      rfl
  | settled row rest rows kind status =>
      have latest : latestNonSystem run = some row := by
        rw [latestNonSystem, rows, List.find?_cons_of_pos (by simpa using kind)]
      rw [recoveredArgs, latest]
      simp only [status]
  | failed row rest reason rows kind status failureReason =>
      have latest : latestNonSystem run = some row := by
        rw [latestNonSystem, rows, List.find?_cons_of_pos (by simpa using kind)]
      rw [recoveredArgs, latest]
      simp only [status, failureReason]

theorem latestNonSystem_indexed (sound : Sound db run) (latest : StageExecution)
    (newest : latestNonSystem run = some latest) : ∃ index, latest.stageIndex = some index := by
  have kind : latest.kind ≠ .system := by simpa using List.find?_some newest
  obtain ⟨index, _, indexed, _⟩ :=
    rowOf_indexed run.definitionSnapshot latest (sound.rowsOf latest (List.mem_of_find?_eq_some newest)) kind
  exact ⟨index, indexed⟩

theorem start_recovered (index : Nat) (stage : ExecutableStage) (sound : Sound db run) (idle : Idle run)
    (current : run.currentStageIndex = some index) (found : run.definitionSnapshot.stages[index]? = some stage) :
    (∃ args, recoveredArgs run = some args ∧ routeStep run args = .start index run.kickoff.revision) ↔
      Recoverable run (.startStage run.id (some index)) := by
  rw [Recoverable, recoveredArgs]
  cases newest : latestNonSystem run with
  | none =>
      constructor
      · intro _ latest none_
        cases none_
      · intro _
        refine ⟨_, rfl, ?_⟩
        rw [routeStep]
        simp only [current, Option.getD_some]
  | some latest =>
      obtain ⟨completed, indexed⟩ := latestNonSystem_indexed db run sound latest newest
      have settled : latest.status ≠ .running := idle.quiet latest (List.mem_of_find?_eq_some newest)
      have inside : index < run.definitionSnapshot.stages.length := (List.getElem?_eq_some_iff.mp found).1
      simp only [Option.some.injEq, forall_eq', indexed, Option.map_some]
      cases status : latest.status with
      | running => exact absurd status settled
      | failed =>
          constructor
          · rintro ⟨args, isArgs, step⟩
            cases isArgs
            cases step
          · rintro ⟨none_, _⟩
            cases none_
      | completed =>
          have step : routeStep run
              { runId := run.id, completedStageIndex := some completed, outcomeLabel := some .success,
                failureReason := none } =
              if run.cancelRequested then .finish .cancelled none
              else if completed + 1 ≥ run.definitionSnapshot.stages.length then .finish .completed none
              else .start (completed + 1) run.kickoff.revision := by
            rw [routeStep]
            simp only
            rw [if_neg (by decide)]
          simp only [Option.some.injEq, exists_eq_left', step]
          constructor
          · intro same
            by_cases cancelled : run.cancelRequested = true
            · rw [if_pos cancelled] at same
              cases same
            · rw [if_neg cancelled] at same
              by_cases last : completed + 1 ≥ run.definitionSnapshot.stages.length
              · rw [if_pos last] at same
                cases same
              · rw [if_neg last] at same
                cases same
                exact ⟨trivial, rfl, by simpa using cancelled⟩
          · rintro ⟨_, before, kept⟩
            rw [if_neg (by rw [kept]; decide), if_neg (by omega), before]

end Sweeping

section Reproducing

variable (db : Db) (position : Nat) (stale : PipelineRun → Bool) (run : PipelineRun) (lost : Message)

theorem lost_message (coherent : Coherent db) (member : run ∈ db.runs.rows)
    (at_ : db.outbox[position]? = some lost) (own : lost.drives? = some run.id) :
    Idle run ∧ (db.taken position).messagesFor run.id = [] ∧
      ((∃ args, lost = .routeRun args ∧ Routes run args) ∨
        ∃ index stage, lost = .startStage run.id (some index) ∧ run.currentStageIndex = some index ∧
          run.definitionSnapshot.stages[index]? = some stage) := by
  cases lost with
  | routeRun args =>
      have owner : args.runId = run.id := Option.some.inj own
      obtain ⟨free, _, routes⟩ := routing_free db position run args coherent at_ member owner.symm
      exact ⟨free.idle, free.silent, .inl ⟨args, rfl, routes⟩⟩
  | startStage runId stageIndex =>
      have owner : runId = run.id := Option.some.inj own
      rw [owner] at at_ ⊢
      obtain ⟨index, stage, isIndex, free, current, found, _⟩ := starting_free db position run stageIndex coherent at_ member
      exact ⟨free.idle, free.silent, .inr ⟨index, stage, by rw [isIndex], current, found⟩⟩
  | handleAgentEvent args => cases own
  | runTerminalHook hook orgId ticketId => cases own

-- The sweep reproduces the lost message exactly when that was a ROUTE_RUN, or
-- when the run's newest stage row is the completed one before the stage to start.
theorem sweep_reproduces_iff (reachable : Reachable runEngine db) (member : run ∈ db.runs.rows)
    (state : run.state = .running) (at_ : db.outbox[position]? = some lost) (own : lost.drives? = some run.id)
    (due : stale run = true) : Reproduced db position stale run lost ↔ Recoverable run lost := by
  have coherent := reachable_coherent db reachable
  obtain ⟨idle, silent, message⟩ := lost_message db position run lost coherent member at_ own
  have swept (args : RouteRunArgs) := swept_args (db.taken position) stale run args member state idle.unparked due silent
  rw [Reproduced]
  simp only [swept]
  rcases message with ⟨args, isLost, routes⟩ | ⟨index, stage, isLost, current, found⟩
  · rw [isLost]
    exact ⟨fun _ => trivial, fun _ => ⟨args, routes_recovered run args routes, rfl, .inl rfl⟩⟩
  · rw [isLost, ← start_recovered db run index stage (coherent.sound run member) idle current found]
    constructor
    · rintro ⟨args, recovered, same, _⟩
      exact ⟨args, recovered, Option.some.inj same⟩
    · rintro ⟨args, recovered, step⟩
      exact ⟨args, recovered, congrArg some step, routeStep_restores (db.taken position) run args index _ member state
        current (recoveredArgs_run run args recovered) step⟩

end Reproducing

theorem sampleActions_reproduced :
    ∃ run, (sampleDeliver sampleActions (sampleStarted sampleActions)).runs.find? 10 = some run ∧
      (Reproduced (sampleDeliver sampleActions (sampleStarted sampleActions)) 0 (fun _ => true) run
          (.startStage 10 (some 0)) ↔ Recoverable run (.startStage 10 (some 0))) := by
  let db := sampleDeliver sampleActions (sampleStarted sampleActions)
  let run := (db.runs.find? 10).get rfl
  have member := (Table.find?_some _ 10 run (Option.some_get _).symm).1
  exact ⟨run, (Option.some_get _).symm, sweep_reproduces_iff db 0 (fun _ => true) run (.startStage 10 (some 0))
    (sampleDeliver_reachable sampleActions _ (sampleStarted_reachable sampleActions)) member rfl rfl rfl rfl⟩

def sampleReviewed : FlattenedDefinition := sampleSkills none .alwaysHitl

-- The only stage has settled and paused; its workspace expires, the pause is
-- answered with an instruction, and the workspace is provisioned again.
def sampleInstructed : Db :=
  sampleReport sampleReviewed 20 "success" []
    (runEngine.committed
      (.resolvePause (sampleEnv sampleReviewed) 1 17
        { action := .instruct, instruction := some "again", sendBackToStage := none } sampleActor)
      (runEngine.committed (.workspaceStatus 12 .expired)
        (sampleReport sampleReviewed 15 "success" sampleOutputs (sampleWorking sampleReviewed))))

theorem sampleInstructed_reachable : Reachable runEngine sampleInstructed := by
  refine sampleReport_reachable _ _ _ _ _ (reachable_committed runEngine _ _ ?_ trivial)
  refine reachable_committed runEngine _ _ (sampleReport_reachable _ _ _ _ _ ?_) trivial
  exact sampleWorking_reachable sampleReviewed

-- The START_STAGE of the instructed stage is lost, and the sweep completes the run.
theorem instructed_lost :
    Reachable runEngine sampleInstructed ∧
      sampleInstructed.outbox[0]? = some (.startStage 10 (some 0)) ∧
      ∃ run, sampleInstructed.runs.find? 10 = some run ∧ run.state = .running ∧
        ¬ Reproduced sampleInstructed 0 (fun _ => true) run (.startStage 10 (some 0)) := by
  let run := (sampleInstructed.runs.find? 10).get rfl
  have found : sampleInstructed.runs.find? 10 = some run := (Option.some_get _).symm
  refine ⟨sampleInstructed_reachable, rfl, run, found, rfl, ?_⟩
  rintro ⟨args, swept, same, _⟩
  have derived : (reconcileStaleRunning (sampleInstructed.taken 0) fun _ => true).messagesFor run.id =
      [.routeRun { runId := 10, completedStageIndex := some 0, outcomeLabel := some .success, failureReason := none }] :=
    rfl
  rw [derived] at swept
  cases List.mem_singleton.mp swept
  cases same

end Yaaos.Pipelines
