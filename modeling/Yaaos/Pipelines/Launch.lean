import Yaaos.Pipelines.Reach

set_option autoImplicit false

namespace Yaaos.Pipelines

open Yaaos.Base

variable (env : Env) (origin session : Session)

def Invoked (session : Session) : Dispatched → Prop
  | .credentialUnavailable _ => True
  | .parked after => Commanded session after ∧
      ∃ row, workspaceOf after.db session.run = some row ∧ row.currentCommandId = some session.db.nextId

theorem dispatchInvocation_invoked (session : Session) (pluginId : String) (invocation : Invocation)
    (context : DispatchContext) (workspaceId : Uuid) (target : invocation.workspaceId = workspaceId)
    (own : session.run.workspaceId = some workspaceId) (bound : workspaceId < session.db.nextId) :
    Ensures (dispatchInvocation env session.mint pluginId invocation context session.db.nextId) (Invoked session) := by
  rw [dispatchInvocation, target]
  cases found : session.db.workspaces.find? workspaceId with
  | none =>
      have absent : session.mint.db.workspaces.find? workspaceId = none := found
      rw [absent]
      exact ensures_error _ _
  | some owner =>
      have stored : session.mint.db.workspaces.find? workspaceId = some owner := found
      rw [stored]
      simp only
      cases env.buildCommand pluginId invocation context with
      | raised => exact ensures_error _ _
      | credentialUnavailable userMessage => exact ensures_ok _ _ trivial
      | built =>
          simp only [dispatchViaWorkspace, stored, if_true]
          by_cases free : owner.claimable = true
          · rw [if_pos free]
            refine ensures_ok _ _ ⟨⟨rfl, ?_, rfl⟩, ?_⟩
            · let command : AgentCommand :=
                { id := session.db.nextId, orgId := owner.orgId, workspaceId := workspaceId, context := context,
                  pinnedAgentId := owner.owningAgentId, body := .invokeCodingAgent pluginId invocation, done := false }
              have queued := dbCarries_enqueueCommand session.run.id (some workspaceId) session.db session.mint.db command
                (dbCarries_mint _ _ _) (Nat.le_refl _) (Nat.lt_succ_self _) (Nat.lt_succ_of_lt bound)
              have claimed := dbCarries_claim session.run.id workspaceId session.db.nextId session.db _ queued
                (Nat.le_refl _) (Nat.lt_succ_self _)
              rw [own]
              exact { claimed with }
            · refine ⟨{ owner with currentCommandId := some session.db.nextId }, ?_, rfl⟩
              rw [workspaceOf, own, Option.bind_some]
              simp only [claim, find?_updateWorkspace, if_true]
              rw [enqueueCommand]
              simp only [stored, Option.map_some]
          · rw [if_neg free]
            exact ensures_error _ _

theorem invoke_reaches (row park : StageExecution) (rest : List StageExecution)
    (pluginId : String) (invocation : Uuid → Invocation) (working : Working origin session row rest)
    (same : park.id = row.id) (fits : RowFits session.db session.run park) (active : park.status = .running)
    (kind : park.kind = row.kind) (index : park.stageIndex = row.stageIndex)
    (target : ∀ workspaceId, (invocation workspaceId).workspaceId = workspaceId) :
    Ensures (invoke env session.mint row session.db.nextId pluginId invocation park) (Reaches env origin) := by
  rw [invoke]
  by_cases registered : env.pluginRegistered pluginId = true
  · rw [if_pos registered]
    cases own : session.run.workspaceId with
    | none =>
        have none_ : session.mint.run.workspaceId = none := own
        rw [none_]
        exact ensures_error _ _
    | some workspaceId =>
        have some_ : session.mint.run.workspaceId = some workspaceId := own
        rw [some_]
        have bound := working.sound.workspaceBound workspaceId own
        refine ensures_bind _ _ _ _ (dispatchInvocation_invoked env session pluginId _ _ workspaceId
          (target workspaceId) own bound) ?_
        intro dispatched invoked
        cases dispatched with
        | credentialUnavailable userMessage =>
            exact ensures_ok _ _ (failStage_working env origin session.mint row rest userMessage
              (working_mint origin session row rest working))
        | parked after =>
            obtain ⟨commanded, claimedRow, found, claimed⟩ := invoked
            have held := working_put origin session row park rest working same fits active kind index
            have moved : Commanded (session.put park) { after with run := (session.put park).run } :=
              ⟨rfl, commanded.carries, commanded.outbox⟩
            have shape : after.put park = { after with run := (session.put park).run } := by
              rw [Session.put, commanded.run]
              rfl
            simp only
            rw [shape]
            refine ensures_ok _ _ (park_reaches env origin (session.put park) _ _ park rest held.toHeld moved
              ⟨rfl, rfl, rfl, rfl, rfl, rfl, rfl⟩ (.inl rfl) rfl (.stage held.kind held.phase held.current ?_ ?_))
            · intro other isOther
              have sameRow : some other = some claimedRow := by
                rw [← isOther, ← found]
                rfl
              cases sameRow
              exact .inr claimed
            · intro absent
              have gone : workspaceOf after.db session.run = none := absent
              rw [found] at gone
              cases gone
  · rw [if_neg registered]
    exact ensures_error _ _

theorem working_add (row : StageExecution) (free : Free origin session)
    (fresh : row.id = session.db.nextId) (fits : RowFits session.db session.run row) (active : row.status = .running)
    (kind : row.kind = .skill ∨ row.kind = .review) (current : session.run.currentStageIndex = row.stageIndex)
    (present : workspaceOf session.db session.run ≠ none) :
    Working origin (session.addExecution row) row session.run.stageExecutions where
  toHeld := held_add origin session row free.toReleased fresh fits active
  kind := kind
  phase := free.phase
  current := current
  unclaimed := free.unclaimed
  present := present

theorem dispatchSkillStage_reaches (stage : SkillStage) (index : Nat)
    (kickoff : Kickoff) (revision : Option RevisionContext) (free : Free origin session)
    (found : session.run.definitionSnapshot.stages[index]? = some (.skill stage))
    (current : session.run.currentStageIndex = some index) (present : workspaceOf session.db session.run ≠ none) :
    Ensures (dispatchSkillStage env session stage index kickoff revision) (Reaches env origin) := by
  rw [dispatchSkillStage]
  refine ensures_read _ _ _ fun ticket _ => ensures_read _ _ _ fun pr _ => ?_
  have working := working_add origin session
    { newExecution session.db.nextId (some index) .skill stage.name with
      skillName := some stage.skillName, phase := some .main, revision := revision }
    free rfl ⟨.skill index stage rfl rfl found fun loops => absurd rfl loops, by intro _ recorded; cases recorded⟩ rfl
    (.inl rfl) current present
  exact invoke_reaches env origin _ _ _ _ _ _ working rfl (sound_head _ _ _ _ working.rows working.sound) rfl rfl rfl
    fun _ => rfl

theorem dispatchReviewOnlyStage_reaches (stage : ReviewSkillStage) (index : Nat)
    (kickoff : Kickoff) (revision : Option RevisionContext) (free : Free origin session)
    (found : session.run.definitionSnapshot.stages[index]? = some (.review stage))
    (current : session.run.currentStageIndex = some index) (present : workspaceOf session.db session.run ≠ none) :
    Ensures (dispatchReviewOnlyStage env session stage index kickoff revision) (Reaches env origin) := by
  rw [dispatchReviewOnlyStage]
  refine ensures_read _ _ _ fun ticket _ => ensures_read _ _ _ fun findings _ => ensures_read _ _ _ fun pr _ => ?_
  have working := working_add origin session
    { newExecution session.db.nextId (some index) .review stage.name with
      skillName := some stage.skillName, phase := some .review, revision := revision, iteration := 1 }
    free rfl ⟨.review index stage rfl rfl found, by intro _ recorded; cases recorded⟩ rfl (.inr rfl) current present
  exact invoke_reaches env origin _ _ _ _ _ _ working rfl (sound_head _ _ _ _ working.rows working.sound) rfl rfl rfl
    fun _ => rfl

theorem dispatchProvision_commanded (session : Session) (workspaceId : Uuid) (pluginId repoExternalId : String)
    (spec : Checkout) (context : DispatchContext) (bound : workspaceId < session.db.nextId) :
    Ensures (dispatchProvision env session workspaceId pluginId repoExternalId spec context) fun after =>
      Commanded session after ∧ after.db.workspaces = session.db.workspaces := by
  rw [dispatchProvision]
  by_cases registered : env.providerRegistered = true
  · rw [if_pos registered]
    cases env.installCredentials pluginId session.run.orgId repoExternalId with
    | none => exact ensures_error _ _
    | some credentials =>
        simp only
        split
        · refine ensures_ok _ _ ⟨⟨rfl, ?_, rfl⟩, rfl⟩
          exact dbCarries_enqueueCommand _ _ session.db session.mint.db _ (carries_mint session).db (Nat.le_refl _)
            (Nat.lt_succ_self _) (Nat.lt_succ_of_lt bound)
        · exact ensures_error _ _
  · rw [if_neg registered]
    exact ensures_error _ _

theorem find?_fresh (db : Db) (run : PipelineRun) (workspaceId : Uuid) (sound : Sound db run)
    (fresh : db.nextId ≤ workspaceId) : db.workspaces.find? workspaceId = none := by
  rw [Table.find?_isNone]
  intro row member same
  have bound := sound.workspaceRows row member
  rw [same] at bound
  exact absurd bound (Nat.not_lt.mpr fresh)

theorem dispatchProvisionStage_reaches (index : Nat) (stage : ExecutableStage)
    (kickoff : Kickoff) (free : Free origin session) (current : session.run.currentStageIndex = some index)
    (found : session.run.definitionSnapshot.stages[index]? = some stage) (works : stage.isAction = false) :
    Ensures (dispatchProvisionStage env session kickoff) (Reaches env origin) := by
  rw [dispatchProvisionStage]
  refine ensures_read _ _ _ fun ticket _ => ?_
  let row := newExecution session.db.nextId none .system systemStageProvision
  let added := session.addExecution row
  have held := held_add origin session row free.toReleased rfl (newExecution_system_fits _ _ _ _) rfl
  have minted : Held origin added.mint row session.run.stageExecutions :=
    { carries := carries_trans origin added _ held.carries (carries_mint added)
      sound := sound_carries _ _ _ _ added.run (carries_mint added).db held.sound
      running := held.running
      unparked := held.unparked
      closed := held.closed
      rows := held.rows
      active := held.active
      quiet := held.quiet
      silent := held.silent }
  have fresh : added.db.nextId < added.mint.db.nextId := Nat.lt_succ_self _
  refine ensures_bind _ _ _ _ (dispatchProvision_commanded env added.mint added.db.nextId _ _ _ _ fresh) ?_
  intro after commanded
  refine ensures_ok _ _ (park_reaches env origin added.mint after _ row _ minted commanded.1 ?_ ?_ rfl ?_)
  · rw [commanded.1.run]
    exact ⟨rfl, rfl, rfl, rfl, rfl, rfl, rfl⟩
  · exact .inr ⟨added.db.nextId, rfl, held.carries.db.nextId, fresh⟩
  · rw [commanded.1.run]
    refine .provision index stage rfl rfl rfl current found works ?_ (by simp)
    intro claimedRow stored
    rw [workspaceOf, commanded.2] at stored
    have absent := find?_fresh added.db added.run added.db.nextId held.sound (Nat.le_refl _)
    have none_ : added.mint.db.workspaces.find? added.db.nextId = none := absent
    rw [Option.bind_some, none_] at stored
    cases stored

theorem runActionStage_reaches (stage : ActionStage) (index : Nat)
    (kickoff : Kickoff) (free : Free origin session)
    (found : session.run.definitionSnapshot.stages[index]? = some (.action stage))
    (provisioned : Provisioned (workspaceOf session.db session.run) session.run) :
    Ensures (runActionStage env session stage index kickoff) (Reaches env origin) := by
  let row := newExecution session.db.nextId (some index) .action stage.actionId
  let added := session.addExecution row
  have fits : RowFits session.db session.run row :=
    ⟨.action index stage rfl rfl found, by intro _ recorded; cases recorded⟩
  have held := held_add origin session row free.toReleased rfl fits rfl
  rw [runActionStage]
  refine ensures_read _ _ _ fun context _ => ?_
  cases env.runAction stage.actionId context with
  | raised => exact ensures_error _ _
  | actionError text =>
      exact ensures_ok _ _ (failStage_reaches env origin added row _ text held (by intro same; cases same)
        ⟨free.phase, free.unclaimed, provisioned⟩)
  | returned result =>
      let next : StageExecution :=
        { row with
          status := .completed, actionResult := some result, boundaryOutcome := some .proceeded,
          completedAt := some env.now }
      have nextFits : RowFits added.db added.run next :=
        rowFits_congr added.db added.run row next rfl rfl rfl rfl rfl (sound_head _ _ _ _ held.rows held.sound)
      have released := released_put origin added row next _ held rfl nextFits (by intro same; cases same)
      have rows := put_rows added row next _ held.rows held.sound.distinct rfl
      let message : Message := .routeRun
        { runId := session.run.id, completedStageIndex := some index, outcomeLabel := some .success,
          failureReason := none }
      have carries := carries_enqueue (added.put next) message rfl
      refine ensures_ok _ _ (.settled (carries_trans origin _ _ released.carries carries)
        (sound_carries _ _ _ _ _ carries.db released.sound) ?_)
      exact .routing _ released.running released.idle (messagesFor_own (added.put next) message released.silent rfl)
        (.settled next _ rows (by intro same; cases same) rfl) ⟨free.phase, free.unclaimed, provisioned⟩

theorem stageAt_some (flattened : FlattenedDefinition) (index : Nat) (stage : ExecutableStage)
    (found : flattened.stages[index]? = some stage) : stageAt flattened (some index) = .ok stage := by
  simp [stageAt, found]

theorem live_present (db : Db) (run : PipelineRun) (live : workspaceIsLive db run.workspaceId = true) :
    workspaceOf db run ≠ none := by
  intro absent
  rw [workspaceOf] at absent
  rw [workspaceIsLive, absent] at live
  cases live

theorem free_kickoff (kickoff : Kickoff) (free : Free origin session) :
    Free origin { session with run := { session.run with kickoff := kickoff } } where
  carries := carries_trans origin session _ free.carries (carries_run session _ rfl rfl rfl rfl rfl rfl)
  sound := sound_congr session.db session.run _ rfl rfl rfl rfl rfl rfl free.sound
  running := free.running
  idle := ⟨free.idle.unparked, free.idle.quiet, free.idle.closed⟩
  silent := free.silent
  phase := free.phase
  unclaimed := free.unclaimed

theorem startStageImpl_reaches (index : Nat) (stage : ExecutableStage)
    (free : Free origin session) (current : session.run.currentStageIndex = some index)
    (found : session.run.definitionSnapshot.stages[index]? = some stage)
    (provisioned : stage.isAction = true → Provisioned (workspaceOf session.db session.run) session.run) :
    Ensures (startStageImpl env session (some index)) (Reaches env origin) := by
  rw [startStageImpl, if_neg (by simp [free.running]), stageAt_some _ index stage found]
  have cleared := free_kickoff origin session { session.run.kickoff with revision := none } free
  cases stage with
  | action action => exact runActionStage_reaches env origin session action index _ free found (provisioned rfl)
  | skill skill =>
      by_cases live : workspaceIsLive session.db session.run.workspaceId = true
      · refine ensures_read _ _ _ fun _ same => ?_
        cases same
        simp only [if_pos live]
        exact dispatchSkillStage_reaches env origin _ skill index _ _ cleared found current
          (live_present session.db session.run live)
      · refine ensures_read _ _ _ fun _ same => ?_
        cases same
        simp only [if_neg live]
        exact dispatchProvisionStage_reaches env origin session index _ _ free current found rfl
  | review review =>
      by_cases live : workspaceIsLive session.db session.run.workspaceId = true
      · refine ensures_read _ _ _ fun _ same => ?_
        cases same
        simp only [if_pos live]
        exact dispatchReviewOnlyStage_reaches env origin _ review index _ _ cleared found current
          (live_present session.db session.run live)
      · refine ensures_read _ _ _ fun _ same => ?_
        cases same
        simp only [if_neg live]
        exact dispatchProvisionStage_reaches env origin session index _ _ free current found rfl

end Yaaos.Pipelines
