import Yaaos.Pipelines.Frame

set_option autoImplicit false

namespace Yaaos.Pipelines

open Yaaos.Base

structure Released (origin session : Session) : Prop where
  carries : Carries origin session
  sound : Sound session.db session.run
  running : session.run.state = .running
  idle : Idle session.run
  silent : session.db.messagesFor session.run.id = []

structure Free (origin session : Session) : Prop extends Released origin session where
  phase : session.run.phase = .stages
  unclaimed : Unclaimed (workspaceOf session.db session.run)

-- The newest row is still running: the event it waited for is being handled.
structure Held (origin session : Session) (row : StageExecution) (rest : List StageExecution) : Prop where
  carries : Carries origin session
  sound : Sound session.db session.run
  running : session.run.state = .running
  unparked : session.run.pendingAgentCommandId = none
  closed : Closed session.run.pauses
  rows : session.run.stageExecutions = row :: rest
  active : row.status = .running
  quiet : Quiet rest
  silent : session.db.messagesFor session.run.id = []

structure Working (origin session : Session) (row : StageExecution) (rest : List StageExecution) : Prop
    extends Held origin session row rest where
  kind : row.kind = .skill ∨ row.kind = .review
  phase : session.run.phase = .stages
  current : session.run.currentStageIndex = row.stageIndex
  unclaimed : Unclaimed (workspaceOf session.db session.run)
  present : workspaceOf session.db session.run ≠ none

-- How a transaction leaves its run.
inductive Reaches (env : Env) (origin after : Session) : Prop where
  | settled (carries : Carries origin after) (sound : Sound after.db after.run)
      (stands : Stands (after.db.messagesFor after.run.id) (workspaceOf after.db after.run) after.run)
  | ended (last : Session) (target : TerminalState) (reason : Option String) (released : Released origin last)
      (closes : after = enterTerminal env last target reason)

theorem rowOf_congr (flattened : FlattenedDefinition) (row next : StageExecution) (kind : next.kind = row.kind)
    (index : next.stageIndex = row.stageIndex) (phase : next.phase = row.phase) (loop : next.loopState = row.loopState)
    (confidence : next.confidence = row.confidence) (rowOf : RowOf flattened row) : RowOf flattened next := by
  cases rowOf with
  | skill at_ stage kindOf indexed found looped =>
      refine .skill at_ stage (kind.trans kindOf) (index.trans indexed) found ?_
      rw [Looped, phase, recordedArtifact, loop, confidence]
      exact looped
  | review at_ stage kindOf indexed found => exact .review at_ stage (kind.trans kindOf) (index.trans indexed) found
  | action at_ stage kindOf indexed found => exact .action at_ stage (kind.trans kindOf) (index.trans indexed) found
  | system kindOf indexed => exact .system (kind.trans kindOf) (index.trans indexed)

theorem rowFits_congr (db : Db) (run : PipelineRun) (row next : StageExecution) (kind : next.kind = row.kind)
    (index : next.stageIndex = row.stageIndex) (phase : next.phase = row.phase) (loop : next.loopState = row.loopState)
    (confidence : next.confidence = row.confidence) (fits : RowFits db run row) : RowFits db run next :=
  ⟨rowOf_congr run.definitionSnapshot row next kind index phase loop confidence fits.rowOf,
    by rw [recordedArtifact, loop]; exact fits.stored⟩

theorem sound_head (db : Db) (run : PipelineRun) (row : StageExecution) (rest : List StageExecution)
    (rows : run.stageExecutions = row :: rest) (sound : Sound db run) : RowFits db run row :=
  ⟨sound.rowsOf row (by rw [rows]; exact List.mem_cons_self), sound.stored row (by rw [rows]; exact List.mem_cons_self)⟩

theorem quiet_cons (row : StageExecution) (rest : List StageExecution) (settled : row.status ≠ .running)
    (quiet : Quiet rest) : Quiet (row :: rest) := by
  intro other member
  rcases List.mem_cons.mp member with first | later
  · rw [first]
    exact settled
  · exact quiet other later

section Steps

variable (origin session : Session) (row next : StageExecution) (rest : List StageExecution)

theorem held_put (held : Held origin session row rest) (same : next.id = row.id)
    (fits : RowFits session.db session.run next) (active : next.status = .running) :
    Held origin (session.put next) next rest where
  carries := carries_trans origin session _ held.carries (carries_put session next)
  sound := sound_put session row next rest held.rows same fits held.sound
  running := held.running
  unparked := held.unparked
  closed := held.closed
  rows := put_rows session row next rest held.rows held.sound.distinct same
  active := active
  quiet := held.quiet
  silent := held.silent

theorem working_put (working : Working origin session row rest) (same : next.id = row.id)
    (fits : RowFits session.db session.run next) (active : next.status = .running) (kind : next.kind = row.kind)
    (index : next.stageIndex = row.stageIndex) : Working origin (session.put next) next rest where
  toHeld := held_put origin session row next rest working.toHeld same fits active
  kind := by rw [kind]; exact working.kind
  phase := working.phase
  current := working.current.trans index.symm
  unclaimed := working.unclaimed
  present := working.present

theorem released_put (held : Held origin session row rest) (same : next.id = row.id)
    (fits : RowFits session.db session.run next) (settled : next.status ≠ .running) :
    Released origin (session.put next) where
  carries := carries_trans origin session _ held.carries (carries_put session next)
  sound := sound_put session row next rest held.rows same fits held.sound
  running := held.running
  idle :=
    { unparked := held.unparked
      quiet := by
        rw [put_rows session row next rest held.rows held.sound.distinct same]
        exact quiet_cons next rest settled held.quiet
      closed := held.closed }
  silent := held.silent

theorem free_put (working : Working origin session row rest) (same : next.id = row.id)
    (fits : RowFits session.db session.run next) (settled : next.status ≠ .running) :
    Free origin (session.put next) where
  toReleased := released_put origin session row next rest working.toHeld same fits settled
  phase := working.phase
  unclaimed := working.unclaimed

theorem held_add (released : Released origin session) (fresh : row.id = session.db.nextId)
    (fits : RowFits session.db session.run row) (active : row.status = .running) :
    Held origin (session.addExecution row) row session.run.stageExecutions where
  carries := carries_trans origin session _ released.carries (carries_addExecution session row)
  sound := sound_addExecution session row fresh fits released.sound
  running := released.running
  unparked := released.idle.unparked
  closed := released.idle.closed
  rows := rfl
  active := active
  quiet := released.idle.quiet
  silent := released.silent

theorem working_db (db : Db) (working : Working origin session row rest)
    (carries : DbCarries session.run.id session.run.workspaceId session.db db)
    (outbox : db.outbox = session.db.outbox) (workspaces : db.workspaces = session.db.workspaces) :
    Working origin { session with db := db } row rest where
  carries := carries_trans origin session _ working.carries (carries_db session db carries)
  sound := sound_carries _ _ session.db db session.run carries working.sound
  running := working.running
  unparked := working.unparked
  closed := working.closed
  rows := working.rows
  active := working.active
  quiet := working.quiet
  silent := by
    have silent := working.silent
    rw [Db.messagesFor, ← outbox] at silent
    exact silent
  kind := working.kind
  phase := working.phase
  current := working.current
  unclaimed := by
    rw [workspaceOf, workspaces]
    exact working.unclaimed
  present := by
    rw [workspaceOf, workspaces]
    exact working.present

theorem working_mint (working : Working origin session row rest) : Working origin session.mint row rest :=
  working_db origin session row rest _ working (dbCarries_mint _ _ _) rfl rfl

end Steps

variable (env : Env)

theorem messagesFor_own (session : Session) (message : Message) (silent : session.db.messagesFor session.run.id = [])
    (driven : message.drives? = some session.run.id) :
    (session.enqueue message).db.messagesFor (session.enqueue message).run.id = [message] := by
  rw [Session.enqueue]
  rw [messagesFor_enqueue, silent, if_pos driven, List.nil_append]

theorem failStage_reaches (origin session : Session) (row : StageExecution) (rest : List StageExecution)
    (reason : String) (held : Held origin session row rest) (kind : row.kind ≠ .system)
    (ready : Ready (workspaceOf session.db session.run) session.run) :
    Reaches env origin (failStage env session row reason) := by
  let next : StageExecution :=
    { row with status := .failed, failureReason := some reason, completedAt := some env.now }
  have fits : RowFits session.db session.run next :=
    rowFits_congr session.db session.run row next rfl rfl rfl rfl rfl
      (sound_head session.db session.run row rest held.rows held.sound)
  have released := released_put origin session row next rest held rfl fits (by simp [next])
  have rows := put_rows session row next rest held.rows held.sound.distinct rfl
  let message : Message := .routeRun
    { runId := session.run.id, completedStageIndex := row.stageIndex, outcomeLabel := some .failure,
      failureReason := some reason }
  have carries := carries_enqueue (session.put next) message rfl
  refine .settled (carries_trans origin _ _ released.carries carries)
    (sound_carries _ _ _ _ _ carries.db released.sound) ?_
  exact .routing _ released.running released.idle (messagesFor_own (session.put next) message released.silent rfl)
    (.failed next rest reason rows kind rfl rfl) ⟨ready.phase, ready.unclaimed, ready.provisioned⟩

theorem working_kind (origin session : Session) (row : StageExecution) (rest : List StageExecution)
    (working : Working origin session row rest) : row.kind ≠ .system := by
  rcases working.kind with skill | review
  · rw [skill]; decide
  · rw [review]; decide

theorem failStage_working (origin session : Session) (row : StageExecution) (rest : List StageExecution)
    (reason : String) (working : Working origin session row rest) :
    Reaches env origin (failStage env session row reason) :=
  failStage_reaches env origin session row rest reason working.toHeld (working_kind origin session row rest working)
    ⟨working.phase, working.unclaimed, fun _ => working.present⟩

theorem enterTerminal_reaches (origin session : Session) (target : TerminalState) (reason : Option String)
    (released : Released origin session) : Reaches env origin (enterTerminal env session target reason) :=
  .ended session target reason released rfl

structure Commanded (session after : Session) : Prop where
  run : after.run = session.run
  carries : DbCarries session.run.id session.run.workspaceId session.db after.db
  outbox : after.db.outbox = session.db.outbox

theorem dispatchViaWorkspace_commanded (session : Session) (workspaceId : Uuid) (context : DispatchContext)
    (body : CommandBody) (bound : workspaceId < session.db.nextId) :
    Ensures
      (dispatchViaWorkspace session.mint.db session.db.nextId workspaceId context body false >>= fun db =>
        (.ok { session.mint with db := db } : Except EngineError Session))
      fun after => Commanded session after ∧ after.db.workspaces = session.db.workspaces ∧
        session.db.workspaces.find? workspaceId ≠ none := by
  cases found : session.db.workspaces.find? workspaceId with
  | none =>
      have failed : dispatchViaWorkspace session.mint.db session.db.nextId workspaceId context body false =
          .error (.workspaceNotFound workspaceId) := by
        simp [dispatchViaWorkspace, Session.mint, found]
      rw [failed]
      exact ensures_error _ _
  | some row =>
      let command : AgentCommand :=
        { id := session.db.nextId, orgId := row.orgId, workspaceId := workspaceId, context := context,
          pinnedAgentId := row.owningAgentId, body := body, done := false }
      have sent : dispatchViaWorkspace session.mint.db session.db.nextId workspaceId context body false =
          .ok (enqueueCommand session.mint.db command) := by
        simp [dispatchViaWorkspace, Session.mint, found, command]
      rw [sent]
      refine ensures_ok _ _ ⟨⟨rfl, ?_, rfl⟩, rfl, by simp⟩
      exact dbCarries_enqueueCommand _ _ session.db session.mint.db command (carries_mint session).db (Nat.le_refl _)
        (Nat.lt_succ_self _) (Nat.lt_succ_of_lt bound)

theorem newExecution_system_fits (db : Db) (run : PipelineRun) (id : Uuid) (stageName : String) :
    RowFits db run (newExecution id none .system stageName) :=
  ⟨.system rfl rfl, by intro artifactId recorded; cases recorded⟩

structure SameRun (before after : PipelineRun) : Prop where
  id : after.id = before.id
  orgId : after.orgId = before.orgId
  ticketId : after.ticketId = before.ticketId
  definition : after.definitionSnapshot = before.definitionSnapshot
  state : after.state = before.state
  rows : after.stageExecutions = before.stageExecutions
  pauses : after.pauses = before.pauses

theorem park_reaches (origin session after : Session) (run : PipelineRun) (row : StageExecution)
    (rest : List StageExecution) (held : Held origin session row rest) (commanded : Commanded session after) (same : SameRun session.run run)
    (workspace : run.workspaceId = session.run.workspaceId ∨
      ∃ workspaceId, run.workspaceId = some workspaceId ∧ origin.db.nextId ≤ workspaceId ∧
        workspaceId < session.db.nextId)
    (pending : run.pendingAgentCommandId = some session.db.nextId)
    (parkedOn : ParkedOn session.db.nextId (workspaceOf after.db run) run row) :
    Reaches env origin { after with run := run } := by
  have carried : Carries origin after :=
    carries_trans origin session after held.carries
      ⟨by rw [commanded.run], by rw [commanded.run], by rw [commanded.run], by rw [commanded.run],
        .inl (by rw [commanded.run]), .inl (by rw [commanded.run]), commanded.carries⟩
  have later := commanded.carries.nextId
  refine .settled ?_ ?_ ?_
  · refine ⟨?_, ?_, ?_, ?_, ?_, .inr (.inr ⟨_, pending, held.carries.db.nextId⟩), carried.db⟩
    · rw [← held.carries.id, ← same.id]
    · rw [← held.carries.orgId, ← same.orgId]
    · rw [← held.carries.ticketId, ← same.ticketId]
    · rw [← held.carries.definition, ← same.definition]
    · rcases workspace with kept | ⟨workspaceId, moved, low, high⟩
      · rw [kept]
        rcases held.carries.workspace with first | ⟨fresh, moved, low, high⟩
        · exact .inl first
        · exact .inr ⟨fresh, moved, low, Nat.lt_of_lt_of_le high later⟩
      · exact .inr ⟨workspaceId, moved, low, Nat.lt_of_lt_of_le high later⟩
  · have sound := sound_carries _ _ session.db after.db session.run commanded.carries held.sound
    refine ⟨?_, ?_, ?_, ?_, ?_, ?_, sound.workspaceRows, ?_⟩
    · rw [same.id]; exact sound.bound
    · rw [same.rows]; exact sound.rowsBound
    · rw [same.rows]; exact sound.distinct
    · rw [same.rows, same.definition]; exact sound.rowsOf
    · rw [same.rows, same.orgId]; exact sound.stored
    · rcases workspace with kept | ⟨workspaceId, moved, _, high⟩
      · rw [kept]; exact sound.workspaceBound
      · intro other isOther
        rw [moved] at isOther
        cases isOther
        exact Nat.lt_of_lt_of_le high later
    · rw [same.ticketId, same.orgId]; exact sound.ticketed
  · refine .parked session.db.nextId row rest ?_ pending ?_ ?_ held.active held.quiet ?_ ?_
    · rw [same.state]; exact held.running
    · rw [same.pauses]; exact held.closed
    · rw [same.rows]; exact held.rows
    · rw [Db.messagesFor, commanded.outbox, same.id]
      exact held.silent
    · exact parkedOn

theorem dispatchCleanupStage_reaches (origin session : Session) (released : Released origin session) :
    Ensures (dispatchCleanupStage session) (Reaches env origin) := by
  let row := newExecution session.db.nextId none .system systemStageCleanup
  have held := held_add origin session row released rfl (newExecution_system_fits _ _ _ _) rfl
  cases requested : session.run.workspaceId with
  | none =>
      have none_ : (session.addExecution row).run.workspaceId = none := requested
      rw [dispatchCleanupStage]
      simp only
      rw [none_]
      exact ensures_error _ _
  | some workspaceId =>
      have some_ : (session.addExecution row).run.workspaceId = some workspaceId := requested
      rw [dispatchCleanupStage]
      simp only
      rw [some_]
      have bound := held.sound.workspaceBound workspaceId requested
      refine ensures_bind _ _ _ _ (dispatchViaWorkspace_commanded (session.addExecution row) workspaceId _ _ bound) ?_
      intro after commanded
      refine ensures_ok _ _ (park_reaches env origin _ after _ row _ held commanded.1 ?_ ?_ rfl ?_)
      · rw [commanded.1.run]
        exact ⟨rfl, rfl, rfl, rfl, rfl, rfl, rfl⟩
      · rw [commanded.1.run]
        exact .inl rfl
      · exact .cleanup rfl rfl rfl

theorem finishOrCleanup_reaches (origin session : Session) (target : TerminalState)
    (failureReason : Option String) (released : Released origin session) :
    Ensures (finishOrCleanup env session target failureReason) (Reaches env origin) := by
  have noted : Released origin { session with run := { session.run with failureReason := failureReason } } :=
    { carries := carries_trans origin session _ released.carries (carries_run session _ rfl rfl rfl rfl rfl rfl)
      sound := sound_congr session.db session.run _ rfl rfl rfl rfl rfl rfl released.sound
      running := released.running
      idle := ⟨released.idle.unparked, released.idle.quiet, released.idle.closed⟩
      silent := released.silent }
  rw [finishOrCleanup]
  by_cases cleans : session.run.workspaceId ≠ none ∧ session.run.phase ≠ .cleanup
  · simp only
    rw [if_pos cleans]
    exact dispatchCleanupStage_reaches env origin _ noted
  · simp only
    rw [if_neg cleans]
    exact ensures_ok _ _ (enterTerminal_reaches env origin _ target failureReason noted)

theorem finalizeAfterCleanup_reaches (origin session : Session) (released : Released origin session) :
    Reaches env origin (finalizeAfterCleanup env session) :=
  enterTerminal_reaches env origin session _ _ released

theorem dispatchStage_reaches (origin session : Session) (index : Nat) (stage : ExecutableStage)
    (free : Free origin session) (found : session.run.definitionSnapshot.stages[index]? = some stage)
    (provisioned : stage.isAction = true → Provisioned (workspaceOf session.db session.run) session.run) :
    Reaches env origin (dispatchStage session index) := by
  let moved : Session := { session with run := { session.run with currentStageIndex := some index } }
  have carries : Carries origin moved :=
    carries_trans origin session _ free.carries (carries_run session _ rfl rfl rfl rfl rfl rfl)
  have sound : Sound moved.db moved.run := sound_congr session.db session.run _ rfl rfl rfl rfl rfl rfl free.sound
  let message : Message := .startStage session.run.id (some index)
  have enqueued := carries_enqueue moved message rfl
  refine .settled (carries_trans origin moved _ carries enqueued) (sound_carries _ _ _ _ _ enqueued.db sound) ?_
  exact .starting index stage free.running ⟨free.idle.unparked, free.idle.quiet, free.idle.closed⟩
    (messagesFor_own moved message free.silent rfl) rfl found free.phase free.unclaimed provisioned

theorem routeRunImpl_reaches (origin session : Session) (args : RouteRunArgs) (free : Free origin session)
    (provisioned : Provisioned (workspaceOf session.db session.run) session.run) (routes : Routes session.run args) :
    Ensures (routeRunImpl env session args) (Reaches env origin) := by
  rw [routeRunImpl]
  cases completed : args.completedStageIndex with
  | none =>
      have start : ∃ stage, session.run.definitionSnapshot.stages[session.run.currentStageIndex.getD 0]? = some stage := by
        cases routes with
        | bootstrap rows start =>
            cases pinned : session.run.currentStageIndex with
            | none =>
                have long := List.length_pos_of_ne_nil session.run.definitionSnapshot.nonempty
                exact ⟨_, List.getElem?_eq_getElem long⟩
            | some index =>
                obtain ⟨stage, found, _⟩ := start index pinned
                exact ⟨stage, found⟩
        | settled row rest rows kind status =>
            have fits := sound_head session.db session.run row rest rows free.sound
            obtain ⟨index, _, indexed, _⟩ := rowOf_indexed _ row fits.rowOf kind
            rw [indexed] at completed
            cases completed
        | failed row rest reason rows kind status failureReason =>
            have fits := sound_head session.db session.run row rest rows free.sound
            obtain ⟨index, _, indexed, _⟩ := rowOf_indexed _ row fits.rowOf kind
            rw [indexed] at completed
            cases completed
      obtain ⟨stage, found⟩ := start
      exact ensures_ok _ _ (dispatchStage_reaches env origin session _ stage free found fun _ => provisioned)
  | some index =>
      by_cases failed : args.outcomeLabel = some .failure
      · simp only [if_pos failed]
        exact finishOrCleanup_reaches env origin session _ _ free.toReleased
      · by_cases cancelled : session.run.cancelRequested = true
        · simp only [if_neg failed, if_pos cancelled]
          exact finishOrCleanup_reaches env origin session _ _ free.toReleased
        · by_cases last : index + 1 ≥ session.run.definitionSnapshot.stages.length
          · simp only [if_neg failed, if_neg cancelled, if_pos last]
            exact finishOrCleanup_reaches env origin session _ _ free.toReleased
          · simp only [if_neg failed, if_neg cancelled, if_neg last]
            have long : index + 1 < session.run.definitionSnapshot.stages.length := by omega
            exact ensures_ok _ _ (dispatchStage_reaches env origin session _ _ free (List.getElem?_eq_getElem long)
              fun _ => provisioned)

end Yaaos.Pipelines
