import Yaaos.Pipelines.Launch

set_option autoImplicit false

namespace Yaaos.Pipelines

open Yaaos.Base

variable (env : Env) (origin session : Session) (stage : SkillStage) (index : Nat) (row : StageExecution)
  (rest : List StageExecution) (kickoff : Kickoff) (outputs : Dict Json) (db : Db)

-- Work on the findings table and the counter only.
def OnlyFindings (before after : Db) : Prop :=
  ∃ nextId findings, before.nextId ≤ nextId ∧ after = { before with nextId := nextId, findings := findings }

theorem onlyFindings_refl : OnlyFindings db db := ⟨db.nextId, db.findings, Nat.le_refl _, rfl⟩

theorem onlyFindings_trans (first middle last : Db) (left : OnlyFindings first middle) (right : OnlyFindings middle last) :
    OnlyFindings first last := by
  obtain ⟨nextId, findings, low, rfl⟩ := left
  obtain ⟨later, others, bound, rfl⟩ := right
  exact ⟨later, others, Nat.le_trans low bound, rfl⟩

theorem onlyFindings_carries (runId : Uuid) (workspaceId : Option Uuid) (before after : Db)
    (only : OnlyFindings before after) : DbCarries runId workspaceId before after := by
  obtain ⟨nextId, findings, low, rfl⟩ := only
  exact dbCarries_same _ _ _ _ rfl low rfl rfl rfl rfl (kept_artifacts before)

theorem findingSpecs_only (session : Session) (findings : List SkillReviewFinding) :
    (findingSpecs session findings).1.run = session.run ∧
      OnlyFindings session.db (findingSpecs session findings).1.db := by
  induction findings generalizing session with
  | nil => exact ⟨rfl, onlyFindings_refl _⟩
  | cons finding rest ih =>
      obtain ⟨run, only⟩ := ih session.mint
      exact ⟨run, onlyFindings_trans session.db session.mint.db _
        ⟨session.db.nextId + 1, session.db.findings, Nat.le_succ _, rfl⟩ only⟩

theorem recordFindings_only (session : Session) (stageExec : StageExecution) (iteration displayId : Nat)
    (specs : List FindingSpec) :
    (recordFindings session stageExec iteration displayId specs).1.run = session.run ∧
      OnlyFindings session.db (recordFindings session stageExec iteration displayId specs).1.db := by
  induction specs generalizing session displayId with
  | nil => exact ⟨rfl, onlyFindings_refl _⟩
  | cons spec rest ih =>
      have step (findings : Table Finding Uuid Finding.id) (displayId : Nat) :
          (recordFindings { session with db := { session.db with findings := findings } } stageExec iteration
              displayId rest).1.run = session.run ∧
            OnlyFindings session.db (recordFindings { session with db := { session.db with findings := findings } }
              stageExec iteration displayId rest).1.db := by
        obtain ⟨run, only⟩ := ih { session with db := { session.db with findings := findings } } displayId
        exact ⟨run, onlyFindings_trans _ _ _ ⟨session.db.nextId, findings, Nat.le_refl _, rfl⟩ only⟩
      rw [recordFindings]
      split
      · exact step _ _
      · exact step _ _

theorem appendEvent_only (findingId : Uuid) (status : FindingStatus) (event : FindingStatusEvent) :
    OnlyFindings db (appendEvent db findingId status event) := ⟨db.nextId, _, Nat.le_refl _, rfl⟩

theorem transitionFinding_only (target : FindingStatus) (db : Db) (findingId : Uuid) (event : FindingStatusEvent) :
    Ensures (transitionFinding target db findingId event) (OnlyFindings db) := by
  refine ensures_read _ _ _ fun row _ => ?_
  by_cases same : row.status = target
  · rw [if_pos same]
    exact ensures_ok _ _ (onlyFindings_refl db)
  · rw [if_neg same]
    by_cases legal : legalTransition row.status target = true
    · rw [if_pos legal]
      exact ensures_ok _ _ (appendEvent_only db findingId target event)
    · rw [if_neg legal]
      exact ensures_error _ _

theorem reflagFinding_only (findingId : Uuid) (event : FindingStatusEvent) :
    Ensures (reflagFinding db findingId event) (OnlyFindings db) := by
  refine ensures_read _ _ _ fun row _ => ?_
  by_cases opened : row.status = .opened
  · rw [if_pos opened]
    exact ensures_ok _ _ (appendEvent_only db findingId .opened event)
  · rw [if_neg opened]
    exact ensures_error _ _

theorem applyVerdict_only (session : Session) (stageExec : StageExecution) (now : Nat)
    (ownStatus : Uuid → Option FindingStatus) (verdict : PriorFindingVerdict) (db : Db) :
    Ensures (applyVerdict session stageExec now ownStatus verdict db) (OnlyFindings db) := by
  rw [applyVerdict]
  cases verdict.status with
  | none => exact ensures_ok _ _ (onlyFindings_refl db)
  | some status =>
      cases status with
      | fixed => exact transitionFinding_only .resolved db _ _
      | stillPresent =>
          simp only
          split
          · exact transitionFinding_only .opened db _ _
          · exact reflagFinding_only db _ _
      | userOverrode => exact transitionFinding_only .dismissed db _ _

theorem applyVerdicts_only (session : Session) (stageExec : StageExecution) (now : Nat)
    (ownStatus : Uuid → Option FindingStatus) (verdicts : List PriorFindingVerdict) (db : Db) :
    Ensures (applyVerdicts session stageExec now ownStatus verdicts db) (OnlyFindings db) := by
  induction verdicts generalizing db with
  | nil => exact ensures_ok _ _ (onlyFindings_refl db)
  | cons verdict rest ih =>
      refine ensures_bind _ _ _ _ (applyVerdict_only session stageExec now ownStatus verdict db) fun middle first => ?_
      exact ensures_mono _ _ _ (ih middle) fun last later => onlyFindings_trans db middle last first later

theorem recordAndApplyReview_only (session : Session) (stageExec : StageExecution)
    (reviewReturn : SkillReviewReturn) (iteration : Nat) :
    Ensures (recordAndApplyReview env session stageExec reviewReturn iteration) fun result =>
      result.1.run = session.run ∧ OnlyFindings session.db result.1.db := by
  have minted := findingSpecs_only session reviewReturn.newFindings
  let start := findingSpecs session reviewReturn.newFindings
  have recorded := recordFindings_only start.1 stageExec iteration
    (latestDisplayId start.1.db session.run.ticketId + 1) start.2
  refine ensures_bind _ _ _ _ (applyVerdicts_only _ stageExec env.now _ _ _) fun last applied => ?_
  refine ensures_ok _ _ ⟨recorded.1.trans minted.1, ?_⟩
  exact onlyFindings_trans _ _ _ (onlyFindings_trans _ _ _ minted.2 recorded.2) applied

theorem working_findings (origin session after : Session) (row : StageExecution) (rest : List StageExecution)
    (working : Working origin session row rest) (run : after.run = session.run)
    (only : OnlyFindings session.db after.db) : Working origin after row rest := by
  have carries := onlyFindings_carries session.run.id session.run.workspaceId session.db after.db only
  obtain ⟨db, _⟩ := after
  simp only at run only carries
  subst run
  obtain ⟨nextId, findings, _, same⟩ := only
  exact working_db origin session row rest db working carries (by rw [same]) (by rw [same])

structure Ripe (flattened : FlattenedDefinition) (stage : SkillStage) (index : Nat) (row : StageExecution) : Prop where
  kind : row.kind = .skill
  indexed : row.stageIndex = some index
  found : flattened.stages[index]? = some (.skill stage)
  artifact : recordedArtifact row ≠ none
  confident : row.confidence ≠ none

theorem ripe_fits (run : PipelineRun) (stage : SkillStage) (index : Nat) (row next : StageExecution)
    (ripe : Ripe run.definitionSnapshot stage index row) (reviews : stage.review ≠ none) (kind : next.kind = row.kind)
    (indexed : next.stageIndex = row.stageIndex) (loop : next.loopState = row.loopState)
    (confidence : next.confidence = row.confidence) (fits : RowFits db run row) : RowFits db run next := by
  have sameArtifact : recordedArtifact next = recordedArtifact row := by rw [recordedArtifact, loop, recordedArtifact]
  refine ⟨.skill index stage (kind.trans ripe.kind) (indexed.trans ripe.indexed) ripe.found fun _ => ?_, ?_⟩
  · exact ⟨reviews, by rw [sameArtifact]; exact ripe.artifact, by rw [confidence]; exact ripe.confident⟩
  · rw [sameArtifact]
    exact fits.stored

theorem dispatchReviewInvocation_reaches (body : String) (working : Working origin session row rest)
    (ripe : Ripe session.run.definitionSnapshot stage index row) :
    Ensures (dispatchReviewInvocation env session stage row body) (Reaches env origin) := by
  rw [dispatchReviewInvocation]
  cases reviews : stage.review with
  | none => exact ensures_error _ _
  | some review =>
      refine ensures_read _ _ _ fun ticket _ => ensures_read _ _ _ fun findings _ => ensures_read _ _ _ fun pr _ => ?_
      let next : StageExecution := { row with iteration := row.iteration + 1 }
      have fits := sound_head session.db session.run row rest working.rows working.sound
      have bumped := working_put origin session row next rest working rfl
        (rowFits_congr _ _ row next rfl rfl rfl rfl rfl fits) working.active rfl rfl
      have parkFits : RowFits session.db session.run { next with phase := some .review } :=
        ripe_fits session.db session.run stage index row { next with phase := some .review } ripe
          (by rw [reviews]; simp) rfl rfl rfl rfl fits
      exact invoke_reaches env origin (session.put next) next _ rest _ _ bumped rfl ⟨parkFits.rowOf, parkFits.stored⟩
        working.active rfl rfl fun _ => rfl

theorem dispatchFixInvocation_reaches (body : String) (residuals : List Finding)
    (working : Working origin session row rest) (ripe : Ripe session.run.definitionSnapshot stage index row)
    (reviews : stage.review ≠ none) :
    Ensures (dispatchFixInvocation env session stage row index kickoff body residuals) (Reaches env origin) := by
  rw [dispatchFixInvocation]
  refine ensures_read _ _ _ fun ticket _ => ensures_read _ _ _ fun pr _ => ?_
  have fits := sound_head session.db session.run row rest working.rows working.sound
  exact invoke_reaches env origin session row _ rest _ _ working rfl
    (ripe_fits _ _ stage index row _ ripe reviews rfl rfl rfl rfl fits) working.active rfl rfl fun _ => rfl

structure Completed (session : Session) (row : StageExecution) (rest : List StageExecution) : Prop where
  rows : session.run.stageExecutions = row :: rest
  kind : row.kind = .skill ∨ row.kind = .review
  status : row.status = .completed
  present : workspaceOf session.db session.run ≠ none

theorem workspaceOf_extendExpiry (run : PipelineRun) (workspaceId : Uuid) (expiresAt : Nat)
    (own : run.workspaceId = some workspaceId) :
    workspaceOf (extendExpiry db workspaceId expiresAt) run =
      (workspaceOf db run).map fun row => { row with expiresAt := expiresAt } := by
  rw [workspaceOf, own, Option.bind_some, extendExpiry, find?_updateWorkspace, if_pos rfl, workspaceOf, own,
    Option.bind_some]

theorem enterPause_reaches
    (tripped : List TrippedCondition) (owners : List Uuid) (kickoff : Kickoff) (free : Free origin session)
    (completed : Completed session row rest) :
    Reaches env origin (enterPause env session row tripped owners kickoff) := by
  let next : StageExecution := { row with boundaryOutcome := some .paused, boundaryDetail := some tripped }
  have fits : RowFits session.db session.run next :=
    rowFits_congr session.db session.run row next rfl rfl rfl rfl rfl
      (sound_head _ _ _ _ completed.rows free.sound)
  have rows := put_rows session row next rest completed.rows free.sound.distinct rfl
  have sound := sound_put session row next rest completed.rows rfl fits free.sound
  have quiet : Quiet (session.put next).run.stageExecutions := by
    rw [rows]
    have settled := free.idle.quiet
    rw [completed.rows] at settled
    exact quiet_cons next rest (settled row List.mem_cons_self) fun other member => settled other (List.mem_cons_of_mem _ member)
  rw [enterPause]
  simp only
  split
  · rename_i own
    have present := completed.present
    have none_ : session.run.workspaceId = none := own
    rw [workspaceOf, none_] at present
    exact absurd rfl present
  · rename_i workspaceId own
    have some_ : session.run.workspaceId = some workspaceId := own
    let paused := (session.put next).addPause
      { id := (session.put next).db.nextId, orgId := session.run.orgId, stageExecutionId := row.id, tripped := tripped,
        escalationUserIds := (resolveEscalationTargets env kickoff session.run.orgId ++ owners).dedup,
        resolution := none, instruction := none, sendBackToStage := none, resolvedBy := none, resolvedAt := none }
    let expiresAt := env.now + pausedRunWorkspaceGraceSeconds
    have extended : DbCarries session.run.id (some workspaceId) paused.db (extendExpiry paused.db workspaceId expiresAt) :=
      dbCarries_extendExpiry session.run.id workspaceId paused.db expiresAt
    have transitioned := dbCarries_transitionTicket session.run.id (some workspaceId)
      (extendExpiry paused.db workspaceId expiresAt) session.run.ticketId session.run.orgId session.run.id
      (fun status => !status.isTerminal) .hitl
    let last := transitionTicketOnRunPaused (extendExpiry paused.db workspaceId expiresAt) session.run.ticketId
      session.run.orgId session.run.id
    have moved : DbCarries session.run.id session.run.workspaceId session.db last := by
      rw [some_]
      exact dbCarries_trans _ _ _ _ _ _ (.inl rfl) (dbCarries_mint session.run.id (some workspaceId) session.db)
        (dbCarries_trans _ _ _ _ _ _ (.inl rfl) extended transitioned)
    refine .settled (carries_trans origin session _ free.carries ⟨rfl, rfl, rfl, rfl, .inl rfl, .inl rfl, moved⟩) ?_ ?_
    · exact sound_carries _ _ _ _ _ moved (sound_congr session.db (session.put next).run _ rfl rfl rfl rfl rfl rfl sound)
    · refine .paused next rest _ session.run.pauses rfl free.idle.unparked quiet rows completed.kind completed.status rfl
        rfl rfl free.idle.closed free.silent free.phase ?_ ?_
      · intro stored found
        have extendedRow := workspaceOf_extendExpiry paused.db session.run workspaceId expiresAt some_
        obtain ⟨old, present, same⟩ := Option.map_eq_some_iff.mp (extendedRow.symm.trans found)
        rw [← same]
        exact free.unclaimed old present
      · intro absent
        have extendedRow := workspaceOf_extendExpiry paused.db session.run workspaceId expiresAt some_
        exact completed.present (Option.map_eq_none_iff.mp (extendedRow.symm.trans absent))

theorem sendBackToStage_reaches (index : Nat) (stage : SkillStage) (gapText : String) (kickoff : Kickoff)
    (free : Free origin session) (completed : Completed session row rest)
    (found : session.run.definitionSnapshot.stages[index]? = some (.skill stage)) :
    Ensures (sendBackToStage env session row index stage gapText kickoff) (Reaches env origin) := by
  rw [sendBackToStage]
  by_cases spent : (session.run.sendbackCounts.lookup stage.name).getD 0 ≥ 1
  · rw [if_pos spent]
    exact ensures_ok _ _ (enterPause_reaches env origin session row rest _ _ _ free completed)
  · rw [if_neg spent]
    let next : StageExecution := { row with boundaryOutcome := some .sentBack }
    have fits : RowFits session.db session.run next :=
      rowFits_congr session.db session.run row next rfl rfl rfl rfl rfl
        (sound_head _ _ _ _ completed.rows free.sound)
    have rows := put_rows session row next rest completed.rows free.sound.distinct rfl
    have sound := sound_put session row next rest completed.rows rfl fits free.sound
    have settled := free.idle.quiet
    rw [completed.rows] at settled
    refine startStageImpl_reaches env origin _ index (.skill stage) ?_ rfl found fun action => by cases action
    exact
      { carries := carries_trans origin session _ free.carries (carries_run session _ rfl rfl rfl rfl rfl rfl)
        sound := sound_congr session.db (session.put next).run _ rfl rfl rfl rfl rfl rfl sound
        running := free.running
        idle :=
          { unparked := free.idle.unparked
            quiet := by
              intro other member
              have listed : other ∈ (session.put next).run.stageExecutions := member
              rw [rows] at listed
              exact quiet_cons next rest (settled row List.mem_cons_self)
                (fun older present => settled older (List.mem_cons_of_mem _ present)) other listed
            closed := free.idle.closed }
        silent := free.silent
        phase := free.phase
        unclaimed := free.unclaimed }

theorem resolveResidualSendBack_some (flattened : FlattenedDefinition) (stage : BoundaryStage) (before index : Nat)
    (target : SkillStage) (gapText : String) (residuals : List Finding)
    (resolved : resolveResidualSendBack flattened stage before residuals = some (index, target, gapText)) :
    index < before ∧ flattened.stages[index]? = some (.skill target) := by
  induction residuals with
  | nil => cases resolved
  | cons finding rest ih =>
      rw [resolveResidualSendBack] at resolved
      cases named : finding.defectInArtifact with
      | none =>
          rw [named] at resolved
          exact ih resolved
      | some targetName =>
          simp only [named] at resolved
          by_cases blank : targetName = ""
          · rw [if_pos blank] at resolved
            exact ih resolved
          · rw [if_neg blank] at resolved
            cases found : resolveSendBackTarget flattened stage before targetName with
            | none =>
                rw [found] at resolved
                exact ih resolved
            | some pair =>
                obtain ⟨at_, candidate⟩ := pair
                simp only [found, Option.some.injEq, Prod.mk.injEq] at resolved
                obtain ⟨rfl, rfl, _⟩ := resolved
                have upstream := resolveSendBackTarget_some flattened stage before targetName at_ candidate found
                exact ⟨upstream.1, upstream.2.1⟩

theorem completed_put (row next : StageExecution) (rest : List StageExecution)
    (working : Working origin session row rest) (same : next.id = row.id) (kind : next.kind = row.kind)
    (status : next.status = .completed) : Completed (session.put next) next rest where
  rows := put_rows session row next rest working.rows working.sound.distinct same
  kind := by rw [kind]; exact working.kind
  status := status
  present := working.present

theorem settleStageBoundary_reaches (stage : BoundaryStage)
    (row : StageExecution) (rest : List StageExecution) (kickoff : Kickoff) (paths : List String) (index : Nat)
    (working : Working origin session row rest) (indexed : row.stageIndex = some index) :
    Ensures (settleStageBoundary env session stage row kickoff paths index) (Reaches env origin) := by
  let next : StageExecution := { row with status := .completed, completedAt := some env.now }
  have fits : RowFits session.db session.run next :=
    rowFits_congr session.db session.run row next rfl rfl rfl rfl rfl
      (sound_head _ _ _ _ working.rows working.sound)
  have free := free_put origin session row next rest working rfl fits (by intro same; cases same)
  have completed := completed_put origin session row next rest working rfl rfl rfl
  rw [settleStageBoundary]
  cases resolved : resolveResidualSendBack session.run.definitionSnapshot stage index (residualsOf session.db row) with
  | some target =>
      obtain ⟨targetIndex, targetStage, gapText⟩ := target
      have found := (resolveResidualSendBack_some _ _ _ _ _ _ _ resolved).2
      exact sendBackToStage_reaches env origin _ next rest targetIndex targetStage gapText kickoff free completed found
  | none =>
      refine ensures_read _ _ _ fun ticket _ => ?_
      split
      · exact ensures_error _ _
      · rename_i confidence _
        cases evaluateBoundary env stage.boundary session.run.orgId ticket.repoExternalId
          (residualsOf session.db row) paths confidence with
        | pause tripped owners =>
            exact ensures_ok _ _ (enterPause_reaches env origin _ next rest tripped owners kickoff free completed)
        | proceed =>
            let last : StageExecution := { next with boundaryOutcome := some .proceeded }
            have lastFits : RowFits (session.put next).db (session.put next).run last :=
              rowFits_congr _ _ next last rfl rfl rfl rfl rfl (sound_head _ _ _ _ completed.rows free.sound)
            have rows := put_rows (session.put next) next last rest completed.rows free.sound.distinct rfl
            have sound := sound_put (session.put next) next last rest completed.rows rfl lastFits free.sound
            let message : Message := .routeRun
              { runId := session.run.id, completedStageIndex := some index, outcomeLabel := some .success,
                failureReason := none }
            have put := carries_put (session.put next) last
            have carries := carries_enqueue ((session.put next).put last) message rfl
            refine ensures_ok _ _ (.settled
              (carries_trans origin _ _ (carries_trans origin _ _ free.carries put) carries)
              (sound_carries _ _ _ _ _ carries.db sound) ?_)
            have routes : Routes ((session.put next).put last).run
                { runId := session.run.id, completedStageIndex := last.stageIndex, outcomeLabel := some .success,
                  failureReason := none } :=
              .settled last rest rows (working_kind origin session row rest working) rfl
            have settled := free.idle.quiet
            rw [completed.rows] at settled
            refine .routing _ free.running ⟨free.idle.unparked, ?_, free.idle.closed⟩
              (messagesFor_own ((session.put next).put last) message free.silent rfl) ?_
              ⟨free.phase, free.unclaimed, fun _ => completed.present⟩
            · intro other member
              have listed : other ∈ ((session.put next).put last).run.stageExecutions := member
              rw [rows] at listed
              exact quiet_cons last rest (settled next List.mem_cons_self)
                (fun older present => settled older (List.mem_cons_of_mem _ present)) other listed
            · rw [← indexed]
              exact routes

def ValidatedAs (env : Env) (origin session : Session) (row : StageExecution) (rest : List StageExecution) :
    Validated → Prop
  | .ended after => Reaches env origin after
  | .produced result => Working origin result.session row rest ∧ result.session.run = session.run ∧
      ∃ artifact ∈ result.session.db.artifacts, artifact.id = result.artifactId ∧ artifact.orgId = session.run.orgId

theorem markFinal_artifacts (session : Session) (artifactId : Uuid) :
    ∀ artifact ∈ session.db.artifacts, ∃ next ∈ (markFinal session artifactId).db.artifacts,
      next.id = artifact.id ∧ next.orgId = artifact.orgId := by
  intro artifact member
  refine ⟨_, List.mem_map.mpr ⟨artifact, member, rfl⟩, ?_⟩
  by_cases same : artifact.id = artifactId <;> simp [same]

theorem storeArtifact_produced
    (body : String) (working : Working origin session row rest) :
    Working origin (markFinal (storeArtifact session row body) session.db.nextId) row rest ∧
      ∃ artifact ∈ (markFinal (storeArtifact session row body) session.db.nextId).db.artifacts,
        artifact.id = session.db.nextId ∧ artifact.orgId = session.run.orgId := by
  have kept := markFinal_artifacts (storeArtifact session row body) session.db.nextId
  have stored : ∀ artifact ∈ session.db.artifacts, artifact ∈ (storeArtifact session row body).db.artifacts :=
    fun artifact member => List.mem_append_left _ member
  constructor
  · refine working_db origin session row rest _ working ?_ rfl rfl
    exact dbCarries_same _ _ _ _ rfl (Nat.le_succ _) rfl rfl rfl rfl
      fun artifact member => kept artifact (stored artifact member)
  · exact kept _ (List.mem_append_right _ (List.mem_singleton.mpr rfl))

theorem validateSkillReturnAndArtifact_as
    (working : Working origin session row rest) :
    Ensures (validateSkillReturnAndArtifact env session stage row index kickoff outputs)
      (ValidatedAs env origin session row rest) := by
  have fails (reason : String) := failStage_working env origin session row rest reason working
  rw [validateSkillReturnAndArtifact]
  cases validateReturn env.skillReturnOf outputs with
  | error text => exact ensures_ok _ _ (fails _)
  | ok skillReturn =>
      simp only
      cases skillReturn.outcome with
      | cannotComplete => exact ensures_ok _ _ (fails _)
      | sendBack =>
          simp only
          cases resolved : upstreamTarget session.run.definitionSnapshot stage index skillReturn.sendBackToStage with
          | none => exact ensures_ok _ _ (fails _)
          | some target =>
              obtain ⟨targetIndex, targetStage⟩ := target
              let next : StageExecution := { row with status := .completed, completedAt := some env.now }
              have fits : RowFits session.db session.run next :=
                rowFits_congr session.db session.run row next rfl rfl rfl rfl rfl
                  (sound_head _ _ _ _ working.rows working.sound)
              have free := free_put origin session row next rest working rfl fits (by intro same; cases same)
              have completed := completed_put origin session row next rest working rfl rfl rfl
              have found : session.run.definitionSnapshot.stages[targetIndex]? = some (.skill targetStage) := by
                cases named : skillReturn.sendBackToStage with
                | none =>
                    rw [named] at resolved
                    cases resolved
                | some targetName =>
                    rw [named, upstreamTarget] at resolved
                    by_cases blank : targetName = ""
                    · rw [if_pos blank] at resolved
                      cases resolved
                    · rw [if_neg blank] at resolved
                      exact (resolveSendBackTarget_some _ _ _ _ _ _ resolved).2.1
              refine ensures_bind _ _ _ _ (sendBackToStage_reaches env origin _ next rest targetIndex targetStage
                (skillReturn.outcomeReason.getD "") kickoff free completed found) fun after reaches => ?_
              exact ensures_ok _ _ reaches
      | completed =>
          simp only
          cases artifactBody outputs with
          | none => exact ensures_read _ _ _ fun reason _ => ensures_ok _ _ (fails reason)
          | some body =>
              obtain ⟨stored, artifact⟩ := storeArtifact_produced origin session row rest body working
              exact ensures_ok _ _ ⟨stored, rfl, artifact⟩

theorem recordedArtifact_produced (result : Produced) (row : StageExecution) (phase : StagePhase) :
    recordedArtifact (recordProduced result row phase) = some result.artifactId := by
  rw [recordedArtifact, recordProduced]
  simp only [List.reverse_append, List.reverse_singleton, List.singleton_append]
  rfl

theorem produced_ripe (origin : Session) (session : Session) (result : Produced) (stage : SkillStage) (index : Nat)
    (row : StageExecution) (rest : List StageExecution) (phase : StagePhase)
    (working : Working origin result.session row rest) (same : result.session.run = session.run)
    (artifact : ∃ artifact ∈ result.session.db.artifacts,
      artifact.id = result.artifactId ∧ artifact.orgId = session.run.orgId)
    (kind : row.kind = .skill) (indexed : row.stageIndex = some index)
    (found : session.run.definitionSnapshot.stages[index]? = some (.skill stage)) (looped : Looped stage row) :
    Working origin (result.session.put (recordProduced result row phase)) (recordProduced result row phase) rest ∧
      Ripe session.run.definitionSnapshot stage index (recordProduced result row phase) := by
  have recorded := recordedArtifact_produced result row phase
  have ripe : Ripe session.run.definitionSnapshot stage index (recordProduced result row phase) :=
    ⟨kind, indexed, found, by rw [recorded]; simp, by simp [recordProduced]⟩
  refine ⟨working_put origin result.session row _ rest working rfl ⟨?_, ?_⟩ working.active rfl rfl, ripe⟩
  · rw [same]
    refine .skill index stage kind indexed found fun past => ?_
    exact ⟨(looped past).1, ripe.artifact, ripe.confident⟩
  · intro artifactId isArtifact
    rw [recorded] at isArtifact
    cases isArtifact
    rw [same]
    exact artifact

theorem handleMainReturn_reaches
    (working : Working origin session row rest) (kind : row.kind = .skill) (indexed : row.stageIndex = some index)
    (found : session.run.definitionSnapshot.stages[index]? = some (.skill stage)) (looped : Looped stage row) :
    Ensures (handleMainReturn env session stage row index kickoff outputs) (Reaches env origin) := by
  refine ensures_bind _ _ _ _
    (validateSkillReturnAndArtifact_as env origin session stage index row rest kickoff outputs working) ?_
  intro validated as_
  cases validated with
  | ended after => exact ensures_ok _ _ as_
  | produced result =>
      obtain ⟨stored, same, artifact⟩ := as_
      obtain ⟨ready, ripe⟩ := produced_ripe origin session result stage index row rest .main stored same artifact kind
        indexed found looped
      simp only
      cases stage.review with
      | none => exact settleStageBoundary_reaches env origin _ _ _ rest _ _ index ready indexed
      | some review =>
          rw [← same] at ripe
          exact dispatchReviewInvocation_reaches env origin _ stage index _ rest _ ready ripe

theorem handleFixReturn_reaches
    (working : Working origin session row rest) (kind : row.kind = .skill) (indexed : row.stageIndex = some index)
    (found : session.run.definitionSnapshot.stages[index]? = some (.skill stage)) (looped : Looped stage row) :
    Ensures (handleFixReturn env session stage row index kickoff outputs) (Reaches env origin) := by
  refine ensures_bind _ _ _ _
    (validateSkillReturnAndArtifact_as env origin session stage index row rest kickoff outputs working) ?_
  intro validated as_
  cases validated with
  | ended after => exact ensures_ok _ _ as_
  | produced result =>
      obtain ⟨stored, same, artifact⟩ := as_
      obtain ⟨ready, ripe⟩ := produced_ripe origin session result stage index row rest .fix stored same artifact kind
        indexed found looped
      rw [← same] at ripe
      exact dispatchReviewInvocation_reaches env origin _ stage index _ rest _ ready ripe

theorem recordedArtifact_reviewed (iteration : Nat) (reviewReturn : SkillReviewReturn)
    (recorded residuals : List Finding) :
    recordedArtifact
        { row with loopState := row.loopState ++ [reviewEntry iteration reviewReturn recorded residuals] } =
      recordedArtifact row := by
  rw [recordedArtifact, recordedArtifact]
  simp only [List.reverse_append, List.reverse_singleton, List.singleton_append]
  rfl

theorem handleReviewReturn_reaches
    (working : Working origin session row rest) (ripe : Ripe session.run.definitionSnapshot stage index row) :
    Ensures (handleReviewReturn env session stage row index kickoff outputs) (Reaches env origin) := by
  rw [handleReviewReturn]
  cases reviews : stage.review with
  | none => exact ensures_error _ _
  | some review =>
      simp only
      cases validateReturn env.reviewReturnOf outputs with
      | error text =>
          exact ensures_ok _ _ (failStage_working env origin session row rest _ working)
      | ok reviewReturn =>
          refine ensures_bind _ _ _ _ (recordAndApplyReview_only env session row reviewReturn row.iteration) ?_
          intro reviewed only
          have after := working_findings origin session reviewed.1 row rest working only.1 only.2
          let next : StageExecution :=
            { row with
              loopState := row.loopState ++
                [reviewEntry row.iteration reviewReturn reviewed.2 (residualsOf reviewed.1.db row)] }
          have sameArtifact : recordedArtifact next = recordedArtifact row := recordedArtifact_reviewed row _ _ _ _
          have nextRipe : Ripe session.run.definitionSnapshot stage index next :=
            ⟨ripe.kind, ripe.indexed, ripe.found, by rw [sameArtifact]; exact ripe.artifact, ripe.confident⟩
          have fits : RowFits reviewed.1.db reviewed.1.run next := by
            refine ⟨?_, ?_⟩
            · rw [only.1]
              exact .skill index stage ripe.kind ripe.indexed ripe.found fun _ =>
                ⟨by rw [reviews]; simp, nextRipe.artifact, nextRipe.confident⟩
            · rw [sameArtifact]
              exact (sound_head _ _ _ _ after.rows after.sound).stored
          have ready := working_put origin reviewed.1 row next rest after rfl fits working.active rfl rfl
          split
          · refine ensures_read _ _ _ fun artifactId _ => ensures_read _ _ _ fun artifact _ => ?_
            rw [← only.1] at nextRipe
            exact dispatchFixInvocation_reaches env origin _ stage index next rest _ _ _ ready nextRipe
              (by rw [reviews]; simp)
          · exact settleStageBoundary_reaches env origin _ _ next rest _ _ index ready ripe.indexed

end Yaaos.Pipelines
