import Yaaos.Pipelines.Returns

set_option autoImplicit false

namespace Yaaos.Pipelines

open Yaaos.Base

def LoopEntry.paths? : LoopEntry → Option (List String)
  | .produced _ _ _ paths => some paths
  | .reviewed _ _ _ _ _ => none

def StageExecution.reports (row : StageExecution) : List (List String) := row.loopState.filterMap LoopEntry.paths?

def acceptedReturn (env : Env) (outputs : Dict Json) : List (List String) :=
  match validateReturn env.skillReturnOf outputs with
  | .error _ => []
  | .ok skillReturn =>
      if skillReturn.outcome = .completed ∧ (artifactBody outputs).isSome = true then [skillReturn.pathsAffected] else []

def StageExecution.atWork (row : StageExecution) : Bool :=
  row.kind != .system && row.kind != .review && row.phase != some .review

def rowReports (env : Env) (row : StageExecution) (outcomeLabel : String) (outputs : Dict Json) : List (List String) :=
  if outcomeLabel = "success" ∧ row.atWork = true then acceptedReturn env outputs else []

def share (rowId : Uuid) (row : StageExecution) (reported : List (List String)) : List (List String) :=
  if row.id = rowId then reported else []

def eventReports (env : Env) (run : PipelineRun) (rowId : Uuid) (args : AgentEventArgs) : List (List String) :=
  if run.pendingAgentCommandId = some args.agentCommandId then
    match runningExecution run with
    | none => []
    | some row => share rowId row (rowReports env row args.outcomeLabel args.outputs)
  else []

def Cleared (env : Env) (db : Db) (run : PipelineRun) (control : BoundaryControl) (paths : List String) : Prop :=
  ∃ ticket residuals confidence, getTicket db run.ticketId run.orgId = .ok ticket ∧
    evaluateBoundary env control run.orgId ticket.repoExternalId residuals paths confidence = .proceed

def Crossed (env : Env) (db : Db) (run : PipelineRun) (row : StageExecution) (paths : List String) : Prop :=
  row.kind = .skill → ∃ stage, stageAt run.definitionSnapshot row.stageIndex = .ok (.skill stage) ∧
    Cleared env db run stage.boundary paths

inductive Fate (clears : Prop) (old next : StageExecution) : Prop where
  | stays (status : next.status = old.status) (outcome : next.boundaryOutcome = old.boundaryOutcome)
  | fails (status : next.status = .failed) (outcome : next.boundaryOutcome = old.boundaryOutcome)
  | stops (outcome : next.boundaryOutcome = some .paused ∨ next.boundaryOutcome = some .sentBack)
  | clears (holds : clears)

structure Traced (reported : List (List String)) (clears : Prop) (old next : StageExecution) : Prop where
  reports : next.reports = old.reports ++ reported
  fate : Fate clears old next

def Traces (rowId : Uuid) (reported : List (List String)) (clears : Prop) (before after : Session) : Prop :=
  ∀ row ∈ after.run.stageExecutions, row.id = rowId →
    (∃ old ∈ before.run.stageExecutions, old.id = rowId ∧ Traced reported clears old row) ∨
      before.db.nextId ≤ rowId ∧ row.reports = []

def Sole (rows : List StageExecution) (row : StageExecution) : Prop := ∀ other ∈ rows, other.id = row.id → other = row

section Tracing

variable (rowId : Uuid) (clears : Prop)

theorem last_paths (row : StageExecution) : lastPathsAffected row = row.reports.getLast?.getD [] := by
  change (row.loopState.reverse.findSome? LoopEntry.paths?).getD [] = _
  rw [StageExecution.reports, ← List.head?_reverse, ← List.filterMap_reverse, List.head?_filterMap]

theorem fate_trans (first middle last : StageExecution) (left : Fate clears first middle)
    (right : Fate clears middle last) : Fate clears first last := by
  cases right with
  | stops outcome => exact .stops outcome
  | clears holds => exact .clears holds
  | stays status outcome =>
      cases left with
      | stays earlier same => exact .stays (status.trans earlier) (outcome.trans same)
      | fails earlier same => exact .fails (status.trans earlier) (outcome.trans same)
      | stops stopped => exact .stops (outcome ▸ stopped)
      | clears holds => exact .clears holds
  | fails status outcome =>
      cases left with
      | stays earlier same => exact .fails status (outcome.trans same)
      | fails earlier same => exact .fails status (outcome.trans same)
      | stops stopped => exact .stops (outcome ▸ stopped)
      | clears holds => exact .clears holds

theorem traced_same (old next : StageExecution) (loop : next.loopState = old.loopState) (fate : Fate clears old next) :
    Traced [] clears old next := by
  refine ⟨?_, fate⟩
  rw [StageExecution.reports, StageExecution.reports, loop, List.append_nil]

theorem traced_refl (row : StageExecution) : Traced [] clears row row := traced_same clears row row rfl (.stays rfl rfl)

theorem traces_mono (weak : Prop) (reported : List (List String)) (before after : Session)
    (traces : Traces rowId reported clears before after) (weaker : clears → weak) :
    Traces rowId reported weak before after := by
  intro row member own
  rcases traces row member own with ⟨old, oldMember, same, traced⟩ | fresh
  · refine .inl ⟨old, oldMember, same, traced.reports, ?_⟩
    cases traced.fate with
    | stays status outcome => exact .stays status outcome
    | fails status outcome => exact .fails status outcome
    | stops outcome => exact .stops outcome
    | clears holds => exact .clears (weaker holds)
  · exact .inr fresh

theorem traces_trans (reported : List (List String)) (first middle last : Session)
    (low : first.db.nextId ≤ middle.db.nextId) (left : Traces rowId reported clears first middle)
    (right : Traces rowId [] clears middle last) : Traces rowId reported clears first last := by
  intro row member own
  rcases right row member own with ⟨old, oldMember, same, later⟩ | ⟨fresh, bare⟩
  · have reports : row.reports = old.reports := later.reports.trans (List.append_nil _)
    rcases left old oldMember same with ⟨oldest, oldestMember, again, earlier⟩ | ⟨fresh, bare⟩
    · exact .inl ⟨oldest, oldestMember, again, reports.trans earlier.reports,
        fate_trans clears oldest old row earlier.fate later.fate⟩
    · exact .inr ⟨fresh, reports.trans bare⟩
  · exact .inr ⟨Nat.le_trans low fresh, bare⟩

theorem traces_same (before after : Session) (rows : after.run.stageExecutions = before.run.stageExecutions) :
    Traces rowId [] clears before after := by
  intro row member own
  rw [rows] at member
  exact .inl ⟨row, member, own, traced_refl clears row⟩

theorem traces_from (reported : List (List String)) (first middle last : Session)
    (rows : middle.run.stageExecutions = first.run.stageExecutions) (low : first.db.nextId ≤ middle.db.nextId)
    (right : Traces rowId reported clears middle last) : Traces rowId reported clears first last := by
  intro row member own
  rcases right row member own with ⟨old, oldMember, same, later⟩ | ⟨fresh, bare⟩
  · rw [rows] at oldMember
    exact .inl ⟨old, oldMember, same, later⟩
  · exact .inr ⟨Nat.le_trans low fresh, bare⟩

theorem sole_put (session : Session) (row : StageExecution) : Sole (session.put row).run.stageExecutions row := by
  intro other member same
  obtain ⟨old, oldMember, put⟩ := List.mem_map.mp member
  by_cases hit : old.id = row.id
  · rw [if_pos hit] at put
    exact put.symm
  · rw [if_neg hit] at put
    rw [← put] at same
    exact absurd same hit

theorem sole_member (rows : List StageExecution) (row : StageExecution) (distinct : (rows.map StageExecution.id).Nodup)
    (member : row ∈ rows) : Sole rows row := by
  intro other otherMember same
  exact List.inj_on_of_nodup_map distinct otherMember member same

theorem traces_put (reported : List (List String)) (session : Session) (row next : StageExecution)
    (sole : Sole session.run.stageExecutions row) (same : next.id = row.id)
    (traced : row.id = rowId → Traced reported clears row next) (apart : row.id ≠ rowId → reported = []) :
    Traces rowId reported clears session (session.put next) := by
  intro other member own
  obtain ⟨old, oldMember, put⟩ := List.mem_map.mp member
  by_cases hit : old.id = next.id
  · rw [if_pos hit] at put
    have isRow := sole old oldMember (hit.trans same)
    have named : row.id = rowId := by rw [← same, put, own]
    rw [← put]
    exact .inl ⟨old, oldMember, by rw [isRow, named], isRow ▸ traced named⟩
  · rw [if_neg hit] at put
    have elsewhere : row.id ≠ rowId := by
      rw [← same, ← own, ← put]
      exact fun equal => hit equal.symm
    rw [apart elsewhere]
    exact .inl ⟨other, put ▸ oldMember, own, traced_refl clears other⟩

theorem traces_fresh (session after : Session)
    (rows : ∀ row ∈ after.run.stageExecutions, row.id = session.db.nextId ∧ row.reports = [] ∨
      row ∈ session.run.stageExecutions) : Traces rowId [] clears session after := by
  intro row member own
  rcases rows row member with ⟨fresh, bare⟩ | old
  · exact .inr ⟨by rw [← own, fresh], bare⟩
  · exact .inl ⟨row, old, own, traced_refl clears row⟩

theorem traces_added (session after : Session) (row : StageExecution) (fresh : row.id = session.db.nextId)
    (bare : row.reports = []) (rows : after.run.stageExecutions = row :: session.run.stageExecutions) :
    Traces rowId [] clears session after := by
  apply traces_fresh
  intro other member
  rw [rows] at member
  rcases List.mem_cons.mp member with first | old
  · rw [first]
    exact .inl ⟨fresh, bare⟩
  · exact .inr old

theorem traces_opened (session after : Session) (row next : StageExecution) (fresh : next.id = session.db.nextId)
    (bare : next.reports = []) (rows : after.run.stageExecutions = ((session.addExecution row).put next).run.stageExecutions)
    (same : row.id = next.id) : Traces rowId [] clears session after := by
  apply traces_fresh
  intro other member
  rw [rows] at member
  obtain ⟨old, oldMember, put⟩ := List.mem_map.mp member
  by_cases hit : old.id = next.id
  · rw [if_pos hit] at put
    rw [← put]
    exact .inl ⟨fresh, bare⟩
  · rw [if_neg hit] at put
    rcases List.mem_cons.mp oldMember with first | old
    · exact absurd (first ▸ same) hit
    · exact .inr (put ▸ old)

end Tracing

section Dispatching

variable (rowId : Uuid) (clears : Prop) (env : Env) (session : Session) (row : StageExecution)
  (sole : Sole session.run.stageExecutions row)

include sole

theorem failStage_traces (text : String) : Traces rowId [] clears session (failStage env session row text) := by
  have traced : Traced [] clears row (row.fail env text) := traced_same clears row _ rfl (.fails rfl rfl)
  exact traces_put rowId clears [] session row (row.fail env text) sole rfl (fun _ => traced) fun _ => rfl

theorem invoke_traces (park : StageExecution) (commandId : Uuid) (pluginId : String) (invocation : Uuid → Invocation)
    (same : park.id = row.id) (traced : Traced [] clears row park) :
    Ensures (invoke env session row commandId pluginId invocation park) (Traces rowId [] clears session) := by
  refine ensures_mono _ _ _ (invoke_result env session row park commandId pluginId invocation) fun after result => ?_
  rcases result with ⟨text, failed⟩ | ⟨workspaceId, workspace, _, waits⟩
  · rw [failed]
    exact failStage_traces rowId clears env session row sole text
  · rw [waits]
    exact traces_put rowId clears [] session row park sole same (fun _ => traced) fun _ => rfl

theorem dispatchReviewInvocation_traces (stage : SkillStage) (body : String) :
    Ensures (dispatchReviewInvocation env session stage row body) (Traces rowId [] clears session) := by
  rw [dispatchReviewInvocation]
  cases stage.review with
  | none => exact ensures_error _ _
  | some review =>
      refine ensures_read _ _ _ fun ticket _ => ensures_read _ _ _ fun findings _ => ensures_read _ _ _ fun pr _ => ?_
      let counted : StageExecution := { row with iteration := row.iteration + 1 }
      have bumped := traces_put rowId clears [] session row counted sole rfl
        (fun _ => traced_same clears row counted rfl (.stays rfl rfl)) fun _ => rfl
      have waits : Traced [] clears counted { counted with phase := some .review } :=
        traced_same clears counted _ rfl (.stays rfl rfl)
      refine ensures_mono _ _ _ (invoke_traces rowId clears env (session.put counted).mint counted
        (sole_put session counted) { counted with phase := some .review } _ _ _ rfl waits) fun after later => ?_
      exact traces_trans rowId clears [] session (session.put counted).mint after (Nat.le_succ _) bumped later

theorem dispatchFixInvocation_traces (stage : SkillStage) (index : Nat) (kickoff : Kickoff) (body : String)
    (residuals : List Finding) :
    Ensures (dispatchFixInvocation env session stage row index kickoff body residuals)
      (Traces rowId [] clears session) := by
  rw [dispatchFixInvocation]
  refine ensures_read _ _ _ fun ticket _ => ensures_read _ _ _ fun pr _ => ?_
  refine ensures_mono _ _ _ (invoke_traces rowId clears env session.mint row sole _ _ _ _ rfl
    (traced_same clears row _ rfl (.stays rfl rfl))) fun after later => ?_
  exact traces_from rowId clears [] session session.mint after rfl (Nat.le_succ _) later

theorem dispatchRefreshAuth_traces (reason : String) :
    Ensures (dispatchRefreshAuth env session row reason) (Traces rowId [] clears session) := by
  rw [dispatchRefreshAuth]
  simp only
  split
  · exact ensures_error _ _
  · refine ensures_read _ _ _ fun ticket _ => ?_
    rw [dispatchAuthRefresh]
    split
    · exact ensures_error _ _
    · simp only [dispatchViaWorkspace]
      split
      · exact ensures_error _ _
      · have failed := failStage_traces rowId clears env session row sole reason
        refine ensures_ok _ _ (traces_trans rowId clears [] session (failStage env session row reason) _ (Nat.le_refl _)
          failed ?_)
        exact traces_added rowId clears _ _ (newExecution session.db.nextId none .system systemStageRefreshAuth) rfl rfl rfl

theorem enterPause_traces (next : StageExecution) (tripped : List TrippedCondition) (owners : List Uuid)
    (kickoff : Kickoff) (same : next.id = row.id) (loop : next.loopState = row.loopState) :
    Traces rowId [] clears session (enterPause env session next tripped owners kickoff) := by
  let paused : StageExecution := { next with boundaryOutcome := some .paused, boundaryDetail := some tripped }
  have traced : Traced [] clears row paused := traced_same clears row paused loop (.stops (.inl rfl))
  exact traces_put rowId clears [] session row paused sole same (fun _ => traced) fun _ => rfl

end Dispatching

section Starting

variable (rowId : Uuid) (clears : Prop) (env : Env) (session : Session)

theorem starts_traces (after : Session) (index : Nat) (starts : Starts env index session after) :
    Traces rowId [] clears session after := by
  have unreported (row : StageExecution) (stage : ExecutableStage) (fresh : FreshRow session.db.nextId index stage row) :
      row.id = session.db.nextId ∧ row.reports = [] := by
    cases fresh with
    | skill stage revision => exact ⟨rfl, rfl⟩
    | review stage revision => exact ⟨rfl, rfl⟩
    | action stage => exact ⟨rfl, rfl⟩
  cases starts with
  | opens row stage pluginId kickoff invocation workspaceId workspace found works fresh =>
      obtain ⟨id, bare⟩ := unreported row stage fresh
      exact traces_opened rowId clears session _ row row id bare rfl rfl
  | refused row stage prepared text found fresh same =>
      obtain ⟨id, bare⟩ := unreported row stage fresh
      rcases same with same | same
      · rw [same]
        exact traces_opened rowId clears session _ row (row.fail env text) id bare rfl rfl
      · rw [same]
        exact traces_opened rowId clears session _ row (row.fail env text) id bare rfl rfl
  | acted row stage result found fresh =>
      obtain ⟨id, bare⟩ := unreported row (.action stage) fresh
      exact traces_opened rowId clears session _ row
        { row with
          status := .completed, actionResult := some result, boundaryOutcome := some .proceeded,
          completedAt := some env.now } id bare rfl rfl
  | provisions stage command =>
      exact traces_added rowId clears session _ (newExecution session.db.nextId none .system systemStageProvision) rfl rfl rfl

theorem startStageImpl_traces (stageIndex : Option Nat) :
    Ensures (startStageImpl env session stageIndex) (Traces rowId [] clears session) := by
  by_cases running : session.run.state = .running
  · refine ensures_mono _ _ _ (startStageImpl_starts env session stageIndex running) ?_
    rintro after ⟨index, prepared, _, noted, starts⟩
    exact traces_from rowId clears [] session prepared after noted.rows noted.nextId
      (starts_traces rowId clears env prepared after index starts)
  · rw [startStageImpl, if_pos running]
    exact ensures_ok _ _ (traces_same rowId clears session session rfl)

theorem finishOrCleanup_traces (target : TerminalState) (reason : Option String) :
    Ensures (finishOrCleanup env session target reason) (Traces rowId [] clears session) := by
  refine ensures_mono _ _ _ (finishOrCleanup_finishes env session target reason) ?_
  rintro after ⟨prepared, noted, finishes⟩
  refine traces_from rowId clears [] session prepared after noted.rows noted.nextId ?_
  cases finishes with
  | cleans command =>
      exact traces_added rowId clears prepared _ (newExecution prepared.db.nextId none .system systemStageCleanup) rfl rfl rfl
  | ends target reason => exact traces_same rowId clears prepared _ rfl

theorem sendBackToStage_traces (row next : StageExecution) (targetIndex : Nat) (target : SkillStage) (gapText : String)
    (kickoff : Kickoff) (sole : Sole session.run.stageExecutions row) (same : next.id = row.id)
    (loop : next.loopState = row.loopState) :
    Ensures (sendBackToStage env session next targetIndex target gapText kickoff) (Traces rowId [] clears session) := by
  rw [sendBackToStage]
  by_cases looped : (session.run.sendbackCounts.lookup target.name).getD 0 ≥ 1
  · rw [if_pos looped]
    exact ensures_ok _ _ (enterPause_traces rowId clears env session row sole next _ _ _ same loop)
  · rw [if_neg looped]
    let sentBack : StageExecution := { next with boundaryOutcome := some .sentBack }
    have traced : Traced [] clears row sentBack := traced_same clears row sentBack loop (.stops (.inr rfl))
    have left := traces_put rowId clears [] session row sentBack sole same (fun _ => traced) fun _ => rfl
    refine ensures_mono _ _ _ (startStageImpl_traces rowId clears env _ _) fun after later => ?_
    refine traces_trans rowId clears [] session (session.put sentBack) after (Nat.le_refl _) left ?_
    exact traces_from rowId clears [] (session.put sentBack) _ after rfl (Nat.le_refl _) later

end Starting

section Settling

variable (rowId : Uuid) (env : Env) (session : Session) (row : StageExecution)

theorem enterPause_put (first next : StageExecution) (tripped : List TrippedCondition) (owners : List Uuid)
    (kickoff : Kickoff) (same : next.id = first.id) :
    enterPause env (session.put first) next tripped owners kickoff = enterPause env session next tripped owners kickoff := by
  rw [enterPause, enterPause,
    put_put session first { next with boundaryOutcome := some .paused, boundaryDetail := some tripped } same]

theorem sendBackToStage_put (first next : StageExecution) (targetIndex : Nat) (target : SkillStage) (gapText : String)
    (kickoff : Kickoff) (same : next.id = first.id) :
    sendBackToStage env (session.put first) next targetIndex target gapText kickoff =
      sendBackToStage env session next targetIndex target gapText kickoff := by
  rw [sendBackToStage, sendBackToStage, enterPause_put env session first next _ _ _ same,
    put_put session first { next with boundaryOutcome := some .sentBack } same]
  rfl

theorem settleStageBoundary_traces (stage : BoundaryStage) (kickoff : Kickoff) (paths : List String) (index : Nat)
    (sole : Sole session.run.stageExecutions row) :
    Ensures (settleStageBoundary env session stage row kickoff paths index)
      (Traces rowId [] (row.id = rowId ∧ Cleared env session.db session.run stage.boundary paths) session) := by
  rw [settleStageBoundary]
  let completed : StageExecution := { row with status := .completed, completedAt := some env.now }
  simp only
  cases resolveResidualSendBack session.run.definitionSnapshot stage index (residualsOf session.db row) with
  | some found =>
      obtain ⟨targetIndex, target, gapText⟩ := found
      simp only
      rw [sendBackToStage_put env session completed completed targetIndex target gapText kickoff rfl]
      exact sendBackToStage_traces rowId _ env session row completed targetIndex target gapText kickoff sole rfl rfl
  | none =>
      refine ensures_read _ _ _ fun ticket read => ?_
      cases confident : row.confidence with
      | none => exact ensures_error _ _
      | some confidence =>
          simp only
          cases decision : evaluateBoundary env stage.boundary session.run.orgId ticket.repoExternalId
            (residualsOf session.db row) paths confidence with
          | pause tripped owners =>
              simp only
              rw [← confident, enterPause_put env session completed completed tripped owners kickoff rfl]
              exact ensures_ok _ _ (enterPause_traces rowId _ env session row sole completed tripped owners kickoff rfl rfl)
          | proceed =>
              simp only
              let proceeded : StageExecution := { completed with boundaryOutcome := some .proceeded }
              rw [← confident, put_put session completed proceeded rfl]
              have cleared : Cleared env session.db session.run stage.boundary paths := ⟨ticket, _, confidence, read, decision⟩
              refine ensures_ok _ _ (traces_put rowId _ [] session row proceeded sole rfl ?_ fun _ => rfl)
              exact fun own => traced_same _ row proceeded rfl (.clears ⟨own, cleared⟩)

inductive Sorted (clears : Prop) (outputs : Dict Json) : Validated → Prop where
  | ended (after : Session) (silent : acceptedReturn env outputs = []) (traces : Traces rowId [] clears session after) :
      Sorted clears outputs (.ended after)
  | produced (result : Produced) (reported : acceptedReturn env outputs = [result.skillReturn.pathsAffected])
      (run : result.session.run = session.run) (tickets : result.session.db.tickets = session.db.tickets)
      (nextId : session.db.nextId ≤ result.session.db.nextId) : Sorted clears outputs (.produced result)

theorem validate_sorted (clears : Prop) (stage : SkillStage) (index : Nat) (kickoff : Kickoff) (outputs : Dict Json)
    (sole : Sole session.run.stageExecutions row) :
    Ensures (validateSkillReturnAndArtifact env session stage row index kickoff outputs)
      (Sorted rowId env session clears outputs) := by
  have failed (text : String) : Traces rowId [] clears session (failStage env session row text) :=
    failStage_traces rowId clears env session row sole text
  rw [validateSkillReturnAndArtifact]
  cases valid : validateReturn env.skillReturnOf outputs with
  | error text => exact ensures_ok _ _ (.ended _ (by rw [acceptedReturn, valid]) (failed _))
  | ok skillReturn =>
      have accepted : acceptedReturn env outputs =
          if skillReturn.outcome = .completed ∧ (artifactBody outputs).isSome = true then [skillReturn.pathsAffected]
          else [] := by
        rw [acceptedReturn, valid]
      simp only
      cases outcome : skillReturn.outcome with
      | cannotComplete => exact ensures_ok _ _ (.ended _ (by simp [accepted, outcome]) (failed _))
      | sendBack =>
          have silent : acceptedReturn env outputs = [] := by simp [accepted, outcome]
          simp only
          cases upstreamTarget session.run.definitionSnapshot stage index skillReturn.sendBackToStage with
          | none => exact ensures_ok _ _ (.ended _ silent (failed _))
          | some target =>
              let completed : StageExecution := { row with status := .completed, completedAt := some env.now }
              simp only
              rw [sendBackToStage_put env session completed completed target.1 target.2 _ kickoff rfl]
              refine ensures_bind _ _ _ _ (sendBackToStage_traces rowId clears env session row completed target.1 target.2 _
                kickoff sole rfl rfl) fun after traces => ?_
              exact ensures_ok _ _ (.ended after silent traces)
      | completed =>
          simp only
          cases artifact : artifactBody outputs with
          | none => exact ensures_read _ _ _ fun reason _ => ensures_ok _ _ (.ended _ (by simp [accepted, artifact]) (failed _))
          | some body =>
              exact ensures_ok _ _ (.produced _ (by simp [accepted, outcome, artifact]) rfl rfl (Nat.le_succ _))

end Settling

section Returning

variable (rowId : Uuid) (env : Env) (session : Session) (row : StageExecution) (outputs : Dict Json)

theorem cleared_same (db other : Db) (run next : PipelineRun) (control : BoundaryControl) (paths : List String)
    (tickets : other.tickets = db.tickets) (ticketId : next.ticketId = run.ticketId) (orgId : next.orgId = run.orgId)
    (cleared : Cleared env other next control paths) : Cleared env db run control paths := by
  obtain ⟨ticket, residuals, confidence, read, decision⟩ := cleared
  rw [ticketId, orgId, getTicket, tickets] at read
  rw [orgId] at decision
  exact ⟨ticket, residuals, confidence, read, decision⟩

theorem share_nil : share rowId row [] = [] := by
  rw [share, ite_self]

theorem recordProduced_reports (result : Produced) (phase : StagePhase) :
    (recordProduced result row phase).reports = row.reports ++ [result.skillReturn.pathsAffected] := by
  rw [StageExecution.reports, recordProduced, List.filterMap_append]
  rfl

variable (sole : Sole session.run.stageExecutions row)

include sole

theorem recorded_traces (clears : Prop) (result : Produced) (phase : StagePhase)
    (reported : acceptedReturn env outputs = [result.skillReturn.pathsAffected]) (run : result.session.run = session.run)
    (nextId : session.db.nextId ≤ result.session.db.nextId) :
    Traces rowId (share rowId row (acceptedReturn env outputs)) clears session
      (result.session.put (recordProduced result row phase)) := by
  apply traces_from rowId clears _ session result.session _ (by rw [run]) nextId
  refine traces_put rowId clears _ result.session row _ (by rw [run]; exact sole) rfl ?_ ?_
  · intro own
    refine ⟨?_, .stays rfl rfl⟩
    rw [share, if_pos own, reported]
    exact recordProduced_reports row result phase
  · exact fun other => if_neg other

theorem handleMainReturn_traces (stage : SkillStage) (index : Nat) (kickoff : Kickoff) :
    Ensures (handleMainReturn env session stage row index kickoff outputs)
      (Traces rowId (share rowId row (acceptedReturn env outputs))
        (row.id = rowId ∧ Cleared env session.db session.run stage.boundary
          ((row.reports ++ acceptedReturn env outputs).getLast?.getD [])) session) := by
  rw [handleMainReturn]
  refine ensures_bind _ _ _ _ (validate_sorted rowId env session row False stage index kickoff outputs sole) ?_
  intro validated sorted
  cases sorted with
  | ended after silent traces =>
      rw [silent, share_nil]
      exact ensures_ok _ _ (traces_mono rowId False _ _ _ _ traces False.elim)
  | produced result reported run tickets nextId =>
      let produced := recordProduced result row .main
      have recorded (clears : Prop) := recorded_traces rowId env session row outputs sole clears result .main reported run
        nextId
      simp only
      cases stage.review with
      | none =>
          refine ensures_mono _ _ _ (settleStageBoundary_traces rowId env (result.session.put produced) produced
            stage.settles kickoff result.skillReturn.pathsAffected index (sole_put result.session produced)) ?_
          intro after settled
          refine traces_trans rowId _ _ session (result.session.put produced) after nextId (recorded _)
            (traces_mono rowId _ _ _ _ _ settled ?_)
          rintro ⟨own, cleared⟩
          refine ⟨own, ?_⟩
          rw [reported, List.getLast?_concat]
          exact cleared_same env session.db _ session.run _ _ _ tickets (congrArg PipelineRun.ticketId run)
            (congrArg PipelineRun.orgId run) cleared
      | some review =>
          refine ensures_mono _ _ _ (dispatchReviewInvocation_traces rowId False env (result.session.put produced)
            produced (sole_put result.session produced) stage result.body) fun after later => ?_
          exact traces_trans rowId _ _ session (result.session.put produced) after nextId (recorded _)
            (traces_mono rowId False _ _ _ _ later False.elim)

theorem handleFixReturn_traces (clears : Prop) (stage : SkillStage) (index : Nat) (kickoff : Kickoff) :
    Ensures (handleFixReturn env session stage row index kickoff outputs)
      (Traces rowId (share rowId row (acceptedReturn env outputs)) clears session) := by
  rw [handleFixReturn]
  refine ensures_bind _ _ _ _ (validate_sorted rowId env session row clears stage index kickoff outputs sole) ?_
  intro validated sorted
  cases sorted with
  | ended after silent traces =>
      rw [silent, share_nil]
      exact ensures_ok _ _ traces
  | produced result reported run tickets nextId =>
      let produced := recordProduced result row .fix
      have recorded := recorded_traces rowId env session row outputs sole clears result .fix reported run nextId
      refine ensures_mono _ _ _ (dispatchReviewInvocation_traces rowId clears env (result.session.put produced) produced
        (sole_put result.session produced) stage result.body) fun after later => ?_
      exact traces_trans rowId clears _ session (result.session.put produced) after nextId recorded later

theorem noted_traces (clears : Prop) (reviewed : Session) (noted : StageExecution) (run : reviewed.run = session.run)
    (only : OnlyFindings session.db reviewed.db) (same : noted.id = row.id) (status : noted.status = row.status)
    (outcome : noted.boundaryOutcome = row.boundaryOutcome) (reports : noted.reports = row.reports) :
    Traces rowId [] clears session (reviewed.put noted) := by
  obtain ⟨nextId, findings, low, stored⟩ := only
  apply traces_from rowId clears [] session reviewed _ (by rw [run]) (by rw [stored]; exact low)
  refine traces_put rowId clears [] reviewed row noted (by rw [run]; exact sole) same (fun _ => ?_) fun _ => rfl
  exact ⟨by rw [reports, List.append_nil], .stays status outcome⟩

omit sole in
theorem noted_reports (iteration : Nat) (reviewReturn : SkillReviewReturn) (recorded residuals : List Finding) :
    ({ row with loopState := row.loopState ++ [reviewEntry iteration reviewReturn recorded residuals] } :
      StageExecution).reports = row.reports := by
  rw [StageExecution.reports, List.filterMap_append]
  exact List.append_nil _

theorem handleReviewReturn_traces (stage : SkillStage) (index : Nat) (kickoff : Kickoff) :
    Ensures (handleReviewReturn env session stage row index kickoff outputs)
      (Traces rowId [] (row.id = rowId ∧ Cleared env session.db session.run stage.boundary
        (row.reports.getLast?.getD [])) session) := by
  rw [handleReviewReturn]
  cases stage.review with
  | none => exact ensures_error _ _
  | some review =>
      simp only
      cases validateReturn env.reviewReturnOf outputs with
      | error text => exact ensures_ok _ _ (failStage_traces rowId _ env session row sole _)
      | ok reviewReturn =>
          refine ensures_read _ _ _ fun reviewed applied => ?_
          obtain ⟨run, only⟩ := recordAndApplyReview_only env session row reviewReturn row.iteration reviewed applied
          let noted : StageExecution :=
            { row with
              loopState := row.loopState ++
                [reviewEntry row.iteration reviewReturn reviewed.2 (residualsOf reviewed.1.db row)] }
          have reports : noted.reports = row.reports := noted_reports row _ _ _ _
          have entered (clears : Prop) := noted_traces rowId session row sole clears reviewed.1 noted run only rfl rfl rfl
            reports
          obtain ⟨nextId, findings, low, stored⟩ := only
          have later : session.db.nextId ≤ (reviewed.1.put noted).db.nextId := by
            change session.db.nextId ≤ reviewed.1.db.nextId
            rw [stored]
            exact low
          split
          · refine ensures_read _ _ _ fun artifactId _ => ensures_read _ _ _ fun artifact _ => ?_
            refine ensures_mono _ _ _ (dispatchFixInvocation_traces rowId False env (reviewed.1.put noted) noted
              (sole_put reviewed.1 noted) stage index kickoff _ _) fun after fixes => ?_
            exact traces_trans rowId _ [] session (reviewed.1.put noted) after later (entered _)
              (traces_mono rowId False _ _ _ _ fixes False.elim)
          · refine ensures_mono _ _ _ (settleStageBoundary_traces rowId env (reviewed.1.put noted) noted stage.settles
              kickoff (lastPathsAffected noted) index (sole_put reviewed.1 noted)) fun after settled => ?_
            refine traces_trans rowId _ [] session (reviewed.1.put noted) after later (entered _)
              (traces_mono rowId _ _ _ _ _ settled ?_)
            rintro ⟨own, cleared⟩
            rw [last_paths, reports] at cleared
            exact ⟨own, cleared_same env session.db _ session.run _ _ _ (by rw [Session.put, stored])
              (congrArg PipelineRun.ticketId run) (congrArg PipelineRun.orgId run) cleared⟩

end Returning

section Events

variable (rowId : Uuid) (env : Env) (session : Session) (row : StageExecution) (outcomeLabel : String) (outputs : Dict Json)

def Settled (reported : List (List String)) : Prop :=
  row.id = rowId ∧ Crossed env session.db session.run row ((row.reports ++ reported).getLast?.getD [])

section Rows

variable (sole : Sole session.run.stageExecutions row)

include sole

theorem handleSkillStageEvent_traces (kind : row.kind ≠ .system ∧ row.kind ≠ .review) :
    Ensures (handleSkillStageEvent env session row outcomeLabel outputs)
      (Traces rowId (share rowId row (rowReports env row outcomeLabel outputs))
        (Settled rowId env session row (rowReports env row outcomeLabel outputs)) session) := by
  rw [handleSkillStageEvent]
  by_cases failed : outcomeLabel ≠ "success"
  · have silent : rowReports env row outcomeLabel outputs = [] := if_neg fun both => failed both.1
    rw [if_pos failed, silent, share_nil]
    refine ensures_read _ _ _ fun reason _ => ?_
    split
    · exact dispatchRefreshAuth_traces rowId _ env session row sole reason
    · exact ensures_ok _ _ (failStage_traces rowId _ env session row sole reason)
  · rw [if_neg failed]
    refine ensures_read _ _ _ fun executable found => ?_
    cases executable with
    | review _ => exact ensures_error _ _
    | action _ => exact ensures_error _ _
    | skill stage =>
        have working (phase : row.phase ≠ some .review) :
            rowReports env row outcomeLabel outputs = acceptedReturn env outputs := by
          rw [rowReports, if_pos]
          exact ⟨not_not.mp failed, by simp [StageExecution.atWork, kind, phase]⟩
        have settles (reported : List (List String))
            (both : row.id = rowId ∧ Cleared env session.db session.run stage.boundary
              ((row.reports ++ reported).getLast?.getD [])) : Settled rowId env session row reported :=
          ⟨both.1, fun _ => ⟨stage, found, both.2⟩⟩
        have main (phase : row.phase ≠ some .review) :
            Ensures (handleMainReturn env session stage row (row.stageIndex.getD 0) session.run.kickoff outputs)
              (Traces rowId (share rowId row (rowReports env row outcomeLabel outputs))
                (Settled rowId env session row (rowReports env row outcomeLabel outputs)) session) := by
          rw [working phase]
          exact ensures_mono _ _ _ (handleMainReturn_traces rowId env session row outputs sole stage _ _) fun after traces =>
            traces_mono rowId _ _ _ _ _ traces (settles _)
        simp only
        cases phase : row.phase with
        | none => exact main (by simp [phase])
        | some pass =>
            cases pass with
            | main => exact main (by simp [phase])
            | fix =>
                rw [working (by simp [phase])]
                exact handleFixReturn_traces rowId env session row outputs sole _ stage _ _
            | review =>
                have silent : rowReports env row outcomeLabel outputs = [] := by
                  rw [rowReports, if_neg]
                  simp [StageExecution.atWork, phase]
                rw [silent, share_nil]
                refine ensures_mono _ _ _ (handleReviewReturn_traces rowId env session row outputs sole stage _ _) ?_
                intro after traces
                refine traces_mono rowId _ _ _ _ _ traces fun both => settles [] ?_
                rw [List.append_nil]
                exact both

theorem handleReviewStageEvent_traces (kind : row.kind = .review) :
    Ensures (handleReviewStageEvent env session row outcomeLabel outputs)
      (Traces rowId [] (Settled rowId env session row []) session) := by
  have failed (text : String) : Traces rowId [] (Settled rowId env session row []) session (failStage env session row text) :=
    failStage_traces rowId _ env session row sole text
  rw [handleReviewStageEvent]
  split
  · exact ensures_read _ _ _ fun reason _ => ensures_ok _ _ (failed reason)
  · refine ensures_read _ _ _ fun executable _ => ?_
    cases executable with
    | skill _ => exact ensures_error _ _
    | action _ => exact ensures_error _ _
    | review stage =>
        simp only
        cases validateReturn env.reviewReturnOf outputs with
        | error text => exact ensures_ok _ _ (failed _)
        | ok reviewReturn =>
            refine ensures_read _ _ _ fun reviewed applied => ?_
            obtain ⟨run, only⟩ := recordAndApplyReview_only env session row reviewReturn 1 reviewed applied
            let noted : StageExecution :=
              { row with
                loopState := row.loopState ++ [reviewEntry 1 reviewReturn reviewed.2 (residualsOf reviewed.1.db row)],
                confidence := some (bucketConfidence reviewReturn.confidence) }
            have reports : noted.reports = row.reports := noted_reports row _ _ _ _
            have entered (clears : Prop) := noted_traces rowId session row sole clears reviewed.1 noted run only rfl rfl rfl
              reports
            obtain ⟨nextId, findings, low, stored⟩ := only
            have later : session.db.nextId ≤ (reviewed.1.put noted).db.nextId := by
              change session.db.nextId ≤ reviewed.1.db.nextId
              rw [stored]
              exact low
            refine ensures_mono _ _ _ (settleStageBoundary_traces rowId env (reviewed.1.put noted) noted stage.settles _ []
              _ (sole_put reviewed.1 noted)) fun after settled => ?_
            refine traces_trans rowId _ [] session (reviewed.1.put noted) after later (entered _)
              (traces_mono rowId _ _ _ _ _ settled ?_)
            exact fun both => ⟨both.1, fun skill => by rw [kind] at skill; cases skill⟩

theorem handleSystemStageEvent_traces (kind : row.kind = .system) :
    Ensures (handleSystemStageEvent env session row outcomeLabel outputs)
      (Traces rowId [] (Settled rowId env session row []) session) := by
  have put (next : StageExecution) (same : next.id = row.id) (loop : next.loopState = row.loopState) :
      Traces rowId [] (Settled rowId env session row []) session (session.put next) := by
    refine traces_put rowId _ [] session row next sole same (fun own => ?_) fun _ => rfl
    exact traced_same _ row next loop (.clears ⟨own, fun skill => by rw [kind] at skill; cases skill⟩)
  have onward (next : StageExecution) (same : next.id = row.id) (loop : next.loopState = row.loopState)
      (body : Except EngineError Session)
      (traces : Ensures body (Traces rowId [] (Settled rowId env session row []) (session.put next))) :
      Ensures body (Traces rowId [] (Settled rowId env session row []) session) :=
    ensures_mono _ _ _ traces fun after later =>
      traces_trans rowId _ [] session (session.put next) after (Nat.le_refl _) (put next same loop) later
  rw [handleSystemStageEvent]
  simp only
  split
  · refine ensures_read _ _ _ fun reason _ => ?_
    let failed : StageExecution :=
      { row with completedAt := some env.now, status := .failed, failureReason := some reason }
    split
    · exact ensures_ok _ _ (put failed rfl rfl)
    · exact onward failed rfl rfl _ (finishOrCleanup_traces rowId _ env _ _ _)
  · let completed : StageExecution := { row with completedAt := some env.now, status := .completed }
    split
    · exact ensures_ok _ _ (put completed rfl rfl)
    · split
      · exact ensures_ok _ _ (put completed rfl rfl)
      · split
        · refine onward completed rfl rfl _ ?_
          refine ensures_read _ _ _ fun executable at_ => ?_
          cases executable with
          | skill stage =>
              obtain ⟨index, isIndex, found⟩ := stageAt_found _ _ _ at_
              simp only
              rw [isIndex]
              refine ensures_mono _ _ _ (dispatchSkillStage_starts env _ stage index _ none found) fun after starts => ?_
              exact starts_traces rowId _ env _ after index starts
          | review _ => exact finishOrCleanup_traces rowId _ env _ _ _
          | action _ => exact finishOrCleanup_traces rowId _ env _ _ _
        · exact ensures_ok _ _ (put completed rfl rfl)

end Rows

theorem handleAgentEventImpl_traces (args : AgentEventArgs)
    (distinct : (session.run.stageExecutions.map StageExecution.id).Nodup) :
    Ensures (handleAgentEventImpl env session args)
      (Traces rowId (eventReports env session.run rowId args)
        (∃ other ∈ session.run.stageExecutions,
          Settled rowId env session other (eventReports env session.run rowId args)) session) := by
  rw [handleAgentEventImpl, eventReports]
  by_cases awaited : session.run.pendingAgentCommandId = some args.agentCommandId
  · rw [if_neg (not_not.mpr awaited), if_pos awaited]
    cases running : runningExecution session.run with
    | none => exact ensures_ok _ _ (traces_same rowId _ session session rfl)
    | some row =>
        have member : row ∈ session.run.stageExecutions := List.mem_of_find?_eq_some running
        have sole := sole_member session.run.stageExecutions row distinct member
        let resumed : Session := { session with run := { session.run with pendingAgentCommandId := none } }
        let reported := rowReports env row args.outcomeLabel args.outputs
        simp only
        change Ensures _ (Traces rowId (share rowId row reported)
          (∃ other ∈ session.run.stageExecutions, Settled rowId env session other (share rowId row reported)) session)
        have settles (settled : Settled rowId env resumed row reported) :
            ∃ other ∈ session.run.stageExecutions, Settled rowId env session other (share rowId row reported) := by
          refine ⟨row, member, ?_⟩
          rw [share, if_pos settled.1]
          exact settled
        have silently (idle : row.atWork = false) (body : Except EngineError Session)
            (traces : Ensures body (Traces rowId [] (Settled rowId env resumed row []) resumed)) :
            Ensures body (Traces rowId (share rowId row reported)
              (∃ other ∈ session.run.stageExecutions, Settled rowId env session other (share rowId row reported)) session) := by
          have silent : reported = [] := if_neg (by simp [idle])
          rw [silent] at settles ⊢
          rw [share_nil] at settles ⊢
          exact ensures_mono _ _ _ traces fun after later => traces_mono rowId _ _ [] session after later settles
        cases kind : row.kind with
        | system =>
            exact silently (by simp [StageExecution.atWork, kind]) _
              (handleSystemStageEvent_traces rowId env resumed row _ _ sole kind)
        | review =>
            exact silently (by simp [StageExecution.atWork, kind]) _
              (handleReviewStageEvent_traces rowId env resumed row _ _ sole kind)
        | skill =>
            refine ensures_mono _ _ _ (handleSkillStageEvent_traces rowId env resumed row _ _ sole (by simp [kind])) ?_
            exact fun after later => traces_mono rowId _ _ _ session after later settles
        | action =>
            refine ensures_mono _ _ _ (handleSkillStageEvent_traces rowId env resumed row _ _ sole (by simp [kind])) ?_
            exact fun after later => traces_mono rowId _ _ _ session after later settles
  · rw [if_pos awaited, if_neg awaited]
    exact ensures_ok _ _ (traces_same rowId _ session session rfl)

end Events

section Answering

variable (rowId : Uuid) (clears : Prop) (env : Env) (session : Session)

theorem routeRunImpl_traces (args : RouteRunArgs) :
    Ensures (routeRunImpl env session args) (Traces rowId [] clears session) := by
  rw [routeRunImpl]
  cases args.completedStageIndex with
  | none => exact ensures_ok _ _ (traces_same rowId clears session _ rfl)
  | some index =>
      simp only
      split
      · exact finishOrCleanup_traces rowId clears env session _ _
      · split
        · exact finishOrCleanup_traces rowId clears env session _ _
        · split
          · exact finishOrCleanup_traces rowId clears env session _ _
          · exact ensures_ok _ _ (traces_same rowId clears session _ rfl)

theorem cancelPaused_traces (pause : RunPause) : Ensures (cancelPaused env session pause) (Traces rowId [] clears session) := by
  rw [cancelPaused]
  refine ensures_mono _ _ _ (finishOrCleanup_traces rowId clears env _ _ _) fun after traces => ?_
  exact traces_from rowId clears [] session _ after rfl (Nat.le_refl _) traces

theorem resolveWith_traces (pause : RunPause) (resolution : PauseResolution)
    (distinct : (session.run.stageExecutions.map StageExecution.id).Nodup) :
    Ensures (resolveWith env session pause resolution) (Traces rowId [] clears session) := by
  have from_ (prepared : Session) (rows : prepared.run.stageExecutions = session.run.stageExecutions)
      (nextId : session.db.nextId ≤ prepared.db.nextId) (body : Except EngineError Session)
      (traces : Ensures body (Traces rowId [] clears prepared)) : Ensures body (Traces rowId [] clears session) :=
    ensures_mono _ _ _ traces fun after later => traces_from rowId clears [] session prepared after rows nextId later
  rw [resolveWith]
  cases resolution.action with
  | approve => exact ensures_read _ _ _ fun row _ => ensures_ok _ _ (traces_same rowId clears session _ rfl)
  | instruct =>
      refine ensures_read _ _ _ fun row _ => ?_
      rw [resumeWithInstruction]
      refine ensures_read _ _ _ fun stage _ => ?_
      cases stage.name? with
      | none => exact ensures_error _ _
      | some name => exact from_ _ rfl (Nat.le_refl _) _ (startStageImpl_traces rowId clears env _ _)
  | sendBack =>
      refine ensures_read _ _ _ fun row paused => ensures_read _ _ _ fun target _ => ?_
      have member : row ∈ session.run.stageExecutions := by
        rw [pausedExecution] at paused
        cases found : session.run.stageExecutions.find? fun other => other.id == pause.stageExecutionId with
        | none =>
            rw [found] at paused
            cases paused
        | some other =>
            rw [found] at paused
            cases paused
            exact List.mem_of_find?_eq_some found
      have sole := sole_member session.run.stageExecutions row distinct member
      rw [resumeWithSendBack]
      exact from_ (resume session) rfl (Nat.le_refl _) _
        (sendBackToStage_traces rowId clears env (resume session) row row target.1 target.2 "" _ sole rfl rfl)
  | kill =>
      rw [killRun]
      exact from_ _ rfl (Nat.le_refl _) _ (finishOrCleanup_traces rowId clears env _ _ _)

end Answering

end Yaaos.Pipelines
