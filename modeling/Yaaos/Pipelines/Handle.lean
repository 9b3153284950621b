import Yaaos.Pipelines.Settle

set_option autoImplicit false

namespace Yaaos.Pipelines

open Yaaos.Base

variable (env : Env) (origin session : Session) (row : StageExecution) (rest : List StageExecution)
  (outcomeLabel : String) (outputs : Dict Json)

theorem handleReviewStageEvent_reaches
    (working : Working origin session row rest) (kind : row.kind = .review) :
    Ensures (handleReviewStageEvent env session row outcomeLabel outputs) (Reaches env origin) := by
  rw [handleReviewStageEvent]
  by_cases failed : outcomeLabel ≠ "success"
  · rw [if_pos failed]
    exact ensures_read _ _ _ fun reason _ => ensures_ok _ _ (failStage_working env origin session row rest reason working)
  · rw [if_neg failed]
    have head := sound_head _ _ _ _ working.rows working.sound
    cases head.rowOf with
    | skill index stage kindOf indexed found looped =>
        rw [kind] at kindOf
        cases kindOf
    | action index stage kindOf indexed found =>
        rw [kind] at kindOf
        cases kindOf
    | system kindOf indexed =>
        rw [kind] at kindOf
        cases kindOf
    | review index stage kindOf indexed found =>
        have staged : stageAt session.run.definitionSnapshot row.stageIndex = .ok (.review stage) := by
          rw [indexed, stageAt_some _ index _ found]
        rw [staged]
        refine ensures_read _ _ _ fun _ same => ?_
        cases same
        simp only
        cases validateReturn env.reviewReturnOf outputs with
        | error text => exact ensures_ok _ _ (failStage_working env origin session row rest _ working)
        | ok reviewReturn =>
            refine ensures_bind _ _ _ _ (recordAndApplyReview_only env session row reviewReturn 1) ?_
            intro reviewed only
            have after := working_findings origin session reviewed.1 row rest working only.1 only.2
            let next : StageExecution :=
              { row with
                loopState := row.loopState ++ [reviewEntry 1 reviewReturn reviewed.2 (residualsOf reviewed.1.db row)],
                confidence := some (bucketConfidence reviewReturn.confidence) }
            have sameArtifact : recordedArtifact next = recordedArtifact row := recordedArtifact_reviewed row 1 _ _ _
            have fits : RowFits reviewed.1.db reviewed.1.run next := by
              refine ⟨?_, ?_⟩
              · rw [only.1]
                exact .review index stage kindOf indexed found
              · rw [sameArtifact]
                exact (sound_head _ _ _ _ after.rows after.sound).stored
            have ready := working_put origin reviewed.1 row next rest after rfl fits working.active rfl rfl
            have here : next.stageIndex.getD 0 = index := by rw [show next.stageIndex = some index from indexed]; rfl
            have settles := settleStageBoundary_reaches env origin (reviewed.1.put next) stage.settles next rest
              session.run.kickoff [] index ready indexed
            rw [← here] at settles
            exact settles

theorem dispatchRefreshAuth_reaches (stage : SkillStage) (index : Nat)
    (row : StageExecution) (rest : List StageExecution) (reason : String) (working : Working origin session row rest)
    (indexed : row.stageIndex = some index)
    (found : session.run.definitionSnapshot.stages[index]? = some (.skill stage)) :
    Ensures (dispatchRefreshAuth env session row reason) (Reaches env origin) := by
  let counted : Session :=
    { session with
      run :=
        { session.run with sendbackCounts := Dict.set session.run.sendbackCounts (authRetryKey row.stageName) 1 } }
  have noted : Working origin counted row rest :=
    { carries := carries_trans origin session _ working.carries (carries_run session _ rfl rfl rfl rfl rfl rfl)
      sound := sound_congr session.db session.run _ rfl rfl rfl rfl rfl rfl working.sound
      running := working.running
      unparked := working.unparked
      closed := working.closed
      rows := working.rows
      active := working.active
      quiet := working.quiet
      silent := working.silent
      kind := working.kind
      phase := working.phase
      current := working.current
      unclaimed := working.unclaimed
      present := working.present }
  let next : StageExecution :=
    { row with status := .failed, failureReason := some reason, completedAt := some env.now }
  have fits : RowFits counted.db counted.run next :=
    rowFits_congr _ _ row next rfl rfl rfl rfl rfl (sound_head _ _ _ _ noted.rows noted.sound)
  have free := free_put origin counted row next rest noted rfl fits (by intro same; cases same)
  let refresh := newExecution (counted.put next).db.nextId none .system systemStageRefreshAuth
  have held := held_add origin (counted.put next) refresh free.toReleased rfl (newExecution_system_fits _ _ _ _) rfl
  rw [dispatchRefreshAuth]
  simp only
  split
  · exact ensures_error _ _
  · rename_i workspaceId requested
    have own : session.run.workspaceId = some workspaceId := requested
    refine ensures_read _ _ _ fun ticket _ => ?_
    rw [dispatchAuthRefresh]
    split
    · exact ensures_error _ _
    · have bound := held.sound.workspaceBound workspaceId own
      refine ensures_bind _ _ _ _
        (dispatchViaWorkspace_commanded ((counted.put next).addExecution refresh) workspaceId _ _ bound) ?_
      intro after commanded
      refine ensures_ok _ _ (park_reaches env origin _ after _ refresh _ held commanded.1 ?_ ?_ rfl ?_)
      · rw [commanded.1.run]
        exact ⟨rfl, rfl, rfl, rfl, rfl, rfl, rfl⟩
      · rw [commanded.1.run]
        exact .inl rfl
      · rw [commanded.1.run]
        have same : workspaceOf after.db session.run = workspaceOf session.db session.run := by
          rw [workspaceOf, commanded.2.1]
          rfl
        refine .refresh index stage rfl rfl working.phase (working.current.trans indexed) found ?_ ?_
        · intro stored isStored
          exact .inl (working.unclaimed stored (same.symm.trans isStored))
        · exact fun absent => working.present (same.symm.trans absent)

theorem handleSkillStageEvent_reaches
    (working : Working origin session row rest) (kind : row.kind = .skill) :
    Ensures (handleSkillStageEvent env session row outcomeLabel outputs) (Reaches env origin) := by
  have head := sound_head _ _ _ _ working.rows working.sound
  cases head.rowOf with
  | review index stage kindOf indexed found =>
      rw [kind] at kindOf
      cases kindOf
  | action index stage kindOf indexed found =>
      rw [kind] at kindOf
      cases kindOf
  | system kindOf indexed =>
      rw [kind] at kindOf
      cases kindOf
  | skill index stage kindOf indexed found looped =>
      rw [handleSkillStageEvent]
      by_cases failed : outcomeLabel ≠ "success"
      · rw [if_pos failed]
        refine ensures_read _ _ _ fun reason _ => ?_
        by_cases due : authRetryDue session.run row reason = true
        · rw [if_pos due]
          exact dispatchRefreshAuth_reaches env origin session stage index row rest reason working indexed found
        · rw [if_neg due]
          exact ensures_ok _ _ (failStage_working env origin session row rest reason working)
      · rw [if_neg failed, indexed, stageAt_some _ index _ found]
        refine ensures_read _ _ _ fun _ same => ?_
        cases same
        have main := handleMainReturn_reaches env origin session stage index row rest session.run.kickoff outputs working
          kind indexed found looped
        simp only [Option.getD_some]
        cases phased : row.phase with
        | none => exact main
        | some phase =>
            cases phase with
            | main => exact main
            | fix =>
                exact handleFixReturn_reaches env origin session stage index row rest _ outputs working kind indexed found
                  looped
            | review =>
                obtain ⟨_, artifact, confident⟩ := looped (by rw [phased]; intro same; cases same)
                exact handleReviewReturn_reaches env origin session stage index row rest _ outputs working
                  ⟨kind, indexed, found, artifact, confident⟩

theorem handleSystemStageEvent_failed (held : Held origin session row rest)
    (failed : outcomeLabel ≠ "success") :
    Ensures (handleSystemStageEvent env session row outcomeLabel outputs) (Reaches env origin) := by
  rw [handleSystemStageEvent]
  simp only
  rw [if_pos failed]
  refine ensures_read _ _ _ fun reason _ => ?_
  have fits := sound_head _ _ _ _ held.rows held.sound
  have released := released_put origin session row
    { row with completedAt := some env.now, status := .failed, failureReason := some reason } rest held rfl
    (rowFits_congr _ _ row _ rfl rfl rfl rfl rfl fits) (by intro same; cases same)
  split
  · exact ensures_ok _ _ (finalizeAfterCleanup_reaches env origin _ released)
  · exact finishOrCleanup_reaches env origin _ _ _ released

theorem handleSystemStageEvent_reaches (command : Uuid) (outcomeLabel : String) (outputs : Dict Json)
    (held : Held origin session row rest) (kind : row.kind = .system)
    (parkedOn : ParkedOn command (workspaceOf session.db session.run) session.run row)
    (freed : ClaimedBy (workspaceOf session.db session.run) command → Unclaimed (workspaceOf session.db session.run)) :
    Ensures (handleSystemStageEvent env session row outcomeLabel outputs) (Reaches env origin) := by
  by_cases failed : outcomeLabel ≠ "success"
  · exact handleSystemStageEvent_failed env origin session row rest outcomeLabel outputs held failed
  · let next : StageExecution := { row with completedAt := some env.now, status := .completed }
    have fits : RowFits session.db session.run next :=
      rowFits_congr _ _ row next rfl rfl rfl rfl rfl (sound_head _ _ _ _ held.rows held.sound)
    have released := released_put origin session row next rest held rfl fits (by intro same; cases same)
    rw [handleSystemStageEvent]
    simp only
    rw [if_neg failed]
    cases parkedOn with
    | stage kindOf => rcases kindOf with skill | review <;> simp [kind] at *
    | cleanup kindOf named phase =>
        rw [if_neg (by rw [named]; decide), if_pos named]
        exact ensures_ok _ _ (finalizeAfterCleanup_reaches env origin _ released)
    | provision index stage kindOf named phase current found works claimed requested =>
        rw [if_pos named]
        let staged : Session :=
          { session.put next with run := { (session.put next).run with phase := .stages } }
        have carries := carries_trans origin _ staged released.carries (carries_run _ _ rfl rfl rfl rfl rfl rfl)
        have sound : Sound staged.db staged.run :=
          sound_congr session.db (session.put next).run _ rfl rfl rfl rfl rfl rfl released.sound
        let message : Message := .startStage session.run.id (some index)
        have enqueued := carries_enqueue staged message rfl
        have shape : staged.enqueue (.startStage session.run.id session.run.currentStageIndex) =
            staged.enqueue message := by
          rw [current]
        refine ensures_ok _ _ ?_
        have reaches : Reaches env origin (staged.enqueue message) := by
          refine .settled (carries_trans origin staged _ carries enqueued) (sound_carries _ _ _ _ _ enqueued.db sound) ?_
          refine .starting index stage released.running
            ⟨released.idle.unparked, released.idle.quiet, released.idle.closed⟩
            (messagesFor_own staged message released.silent rfl) current found rfl (freed claimed) ?_
          intro action
          rw [works] at action
          cases action
        rw [← shape] at reaches
        exact reaches
    | refresh index stage kindOf named phase current found claimed present =>
        rw [if_neg (by rw [named]; decide), if_neg (by rw [named]; decide), if_pos named]
        have at_ : (session.put next).run.currentStageIndex = some index := current
        have foundAfter : (session.put next).run.definitionSnapshot.stages[index]? = some (.skill stage) := found
        rw [at_, stageAt_some _ index _ foundAfter]
        refine ensures_read _ _ _ fun _ same => ?_
        cases same
        exact dispatchSkillStage_reaches env origin _ stage index _ none ⟨released, phase, freed claimed⟩ foundAfter at_
          present

theorem runningExecution_head (run : PipelineRun) (row : StageExecution) (rest : List StageExecution)
    (rows : run.stageExecutions = row :: rest) (active : row.status = .running) : runningExecution run = some row := by
  rw [runningExecution, rows, List.find?_cons_of_pos]
  simp [active]

theorem claimedBy_released (db : Db) (run : PipelineRun) (command : Uuid)
    (released : ∀ row ∈ db.workspaces.rows, row.currentCommandId ≠ some command)
    (claimed : ClaimedBy (workspaceOf db run) command) : Unclaimed (workspaceOf db run) := by
  intro row stored
  rcases claimed row stored with free | held
  · exact free
  · obtain ⟨workspaceId, _, found⟩ := Option.bind_eq_some_iff.mp stored
    exact absurd held (released row (Table.find?_some _ _ _ found).1)

theorem handleAgentEventImpl_awaited (session : Session) (args : AgentEventArgs)
    (sound : Sound session.db session.run)
    (stands : Stands (session.db.messagesFor session.run.id) (workspaceOf session.db session.run) session.run)
    (released : ∀ row ∈ session.db.workspaces.rows, row.currentCommandId ≠ some args.agentCommandId)
    (awaited : session.run.pendingAgentCommandId = some args.agentCommandId) :
    Ensures (handleAgentEventImpl env session args)
      (Reaches env { session with run := { session.run with pendingAgentCommandId := none } }) := by
  rw [handleAgentEventImpl, if_neg (not_not.mpr awaited)]
  cases stands with
  | queued state rows pauses unparked => simp [unparked] at awaited
  | routing _ state idle => simp [idle.unparked] at awaited
  | starting index stage state idle => simp [idle.unparked] at awaited
  | paused row rest pause others state unparked => simp [unparked] at awaited
  | ended state idle => simp [idle.unparked] at awaited
  | parked command row rest state pending closed rows active quiet silent parkedOn =>
      have same : command = args.agentCommandId := Option.some.inj (pending.symm.trans awaited)
      rw [runningExecution_head session.run row rest rows active]
      simp only
      let resumed : Session := { session with run := { session.run with pendingAgentCommandId := none } }
      have held : Held resumed resumed row rest :=
        { carries := carries_refl resumed
          sound := sound_congr session.db session.run _ rfl rfl rfl rfl rfl rfl sound
          running := state
          unparked := rfl
          closed := closed
          rows := rows
          active := active
          quiet := quiet
          silent := silent }
      have freed := claimedBy_released session.db session.run args.agentCommandId released
      rw [← same] at freed
      cases parkedOn with
      | provision index stage kind named phase current found works claimed requested =>
          rw [kind]
          exact handleSystemStageEvent_reaches env resumed resumed row rest command _ _ held kind
            (.provision index stage kind named phase current found works claimed requested) freed
      | cleanup kind named phase =>
          rw [kind]
          exact handleSystemStageEvent_reaches env resumed resumed row rest command _ _ held kind
            (.cleanup kind named phase) freed
      | refresh index stage kind named phase current found claimed present =>
          rw [kind]
          exact handleSystemStageEvent_reaches env resumed resumed row rest command _ _ held kind
            (.refresh index stage kind named phase current found claimed present) freed
      | stage kind phase current claimed present =>
          have working : Working resumed resumed row rest := ⟨held, kind, phase, current, freed claimed, present⟩
          rcases kind with skill | review
          · rw [skill]
            exact handleSkillStageEvent_reaches env resumed resumed row rest _ _ working skill
          · rw [review]
            exact handleReviewStageEvent_reaches env resumed resumed row rest _ _ working review

theorem handleAgentEventImpl_stale (session : Session) (args : AgentEventArgs)
    (stale : session.run.pendingAgentCommandId ≠ some args.agentCommandId) :
    handleAgentEventImpl env session args = .ok session := by
  rw [handleAgentEventImpl, if_pos stale]

end Yaaos.Pipelines
