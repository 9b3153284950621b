import Yaaos.Pipelines.Move
import Yaaos.Pipelines.Progress
import Yaaos.Pipelines.Reporting
import Yaaos.Repos.Protected

set_option autoImplicit false

namespace Yaaos.Pipelines

open Yaaos.Base

def Label.accepts (runId rowId : Uuid) (db : Db) : Label → List (List String)
  | .deliver env position =>
      match db.outbox[position]?, db.runs.find? runId with
      | some (.handleAgentEvent args), some run =>
          if args.runId = runId ∧ run.state = .running then eventReports env run rowId args else []
      | _, _ => []
  | _ => []

inductive Reported (runId rowId : Uuid) : Db → List (List String) → Prop where
  | starts (db : Db) (reachable : Reachable runEngine db) (unborn : db.nextId ≤ rowId) : Reported runId rowId db []
  | goesOn (db next : Db) (label : Label) (reports : List (List String)) (reported : Reported runId rowId db reports)
      (allowed : runEngine.allowed db label) (taken : runEngine.step db label = .ok next) :
      Reported runId rowId next (reports ++ label.accepts runId rowId db)

def Label.Settles (runId rowId : Uuid) (db : Db) (label : Label) : Prop :=
  ∃ env position, label = .deliver env position ∧ ∃ run ∈ db.runs.rows, run.id = runId ∧
    ∃ row ∈ run.stageExecutions, Settled rowId env ⟨db, run⟩ row (label.accepts runId rowId db)

def Retraces (runId rowId : Uuid) (reported : List (List String)) (clears : Prop) (db next : Db) : Prop :=
  ∀ after ∈ next.runs.rows, after.id = runId → after.stageExecutions = [] ∨
    ∃ run ∈ db.runs.rows, run.id = runId ∧ Traces rowId reported clears ⟨db, run⟩ ⟨next, after⟩

section Retracing

variable (runId rowId : Uuid) (clears : Prop) {created : Ticket → Prop}

theorem retraces_same (db next : Db) (kept : ∀ after ∈ next.runs.rows, after.stageExecutions = [] ∨
    ∃ run ∈ db.runs.rows, run.id = after.id ∧ after.stageExecutions = run.stageExecutions) :
    Retraces runId rowId [] clears db next := by
  intro after member own
  rcases kept after member with bare | ⟨run, old, same, rows⟩
  · exact .inl bare
  · exact .inr ⟨run, old, same.trans own, traces_same rowId clears ⟨db, run⟩ ⟨next, after⟩ rows⟩

theorem retraces_turns (reported : List (List String)) (env : Env) (db : Db) (start last : Session) (run : PipelineRun)
    (member : run ∈ db.runs.rows) (id : start.run.id = run.id) (runs : start.db.runs = db.runs)
    (turns : Turns env start last) (traces : run.id = runId → Traces rowId reported clears ⟨db, run⟩ last)
    (apart : run.id ≠ runId → reported = []) : Retraces runId rowId reported clears db last.commit := by
  intro after afterMember own
  have lastId : last.run.id = run.id := (turns_id env start last turns).trans id
  by_cases same : run.id = runId
  · have stored := turns_stored env db start last run member id runs turns
    have isLast : after = last.run :=
      Table.eq_of_key last.commit.runs after last.run afterMember stored (own.trans (same.symm.trans lastId.symm))
    rw [isLast]
    exact .inr ⟨run, member, same, traces same⟩
  · rw [apart same]
    have kept (old : PipelineRun) (oldMember : old ∈ db.runs.rows) (oldId : old.id = after.id)
        (rows : after.stageExecutions = old.stageExecutions) : after.stageExecutions = [] ∨
          ∃ run ∈ db.runs.rows, run.id = runId ∧ Traces rowId [] clears ⟨db, run⟩ ⟨last.commit, after⟩ :=
      .inr ⟨old, oldMember, oldId.trans own, traces_same rowId clears ⟨db, old⟩ ⟨last.commit, after⟩ rows⟩
    rcases turns_split env db start last run after member id runs turns afterMember with
      isLast | old | ⟨old, oldMember, _, promoted⟩
    · rw [isLast, lastId] at own
      exact absurd own same
    · exact kept after old rfl rfl
    · exact kept old oldMember (by rw [promoted]) (by rw [promoted])

theorem outsider_retraces (db next : Db) (label : Label) (coherent : Coherent db) (allowed : label.Allowed db)
    (taken : engineStep db label = .ok next) (about : label.subject db = none) :
    Retraces runId rowId [] clears db next := by
  apply retraces_same
  intro after member
  have advances := (engineStep_stepped db label coherent allowed next taken).advances
  have still (old : PipelineRun) (oldMember : old ∈ db.runs.rows) (started : old.state ≠ .queued) (same : after.id = old.id) :
      ∃ run ∈ db.runs.rows, run.id = after.id ∧ after.stageExecutions = run.stageExecutions := by
    have kept := (advances.others old oldMember (by rw [about]; exact nofun) started).1
    rw [Table.eq_of_key next.runs after old member kept same]
    exact ⟨old, oldMember, rfl, rfl⟩
  cases moves_came db next (engineStep_moves db label coherent allowed next taken) after member with
  | kept old => exact .inr ⟨after, old, rfl, rfl⟩
  | created id rows => exact .inl rows
  | promoted old oldMember queued same => exact .inr ⟨old, oldMember, by rw [same], by rw [same]⟩
  | flagged old oldMember state same => exact .inr ⟨old, oldMember, by rw [same], by rw [same]⟩
  | withdrawn old oldMember queued completedAt same => exact .inr ⟨old, oldMember, by rw [same], by rw [same]⟩
  | worked env opened old last oldMember state nextId turns closes same =>
      exact .inr (still old oldMember (by simp [state]) (by rw [same, turns_id env _ last turns]))
  | resumed env old pause closed revived last answering revives action turns same =>
      exact .inr (still old answering.member (by simp [answering.state])
        (by rw [same, turns_id env revived last turns, revives.id]))
  | stopped env old pause closed revived last answering revives turns closing rows same =>
      exact .inr (still old answering.member (by simp [answering.state])
        (by rw [same, turns_id env revived last turns, revives.id]))

theorem saved_retraces (db : Db) (run saved : PipelineRun) (member : run ∈ db.runs.rows) (same : saved.id = run.id)
    (rows : saved.stageExecutions = run.stageExecutions) : Retraces runId rowId [] clears db (db.saveRun saved) := by
  apply retraces_same
  intro after afterMember
  rcases saveRun_rows db saved after afterMember with isSaved | ⟨old, _⟩
  · exact .inr ⟨run, member, by rw [isSaved, same], by rw [isSaved, rows]⟩
  · exact .inr ⟨after, old, rfl, rfl⟩

theorem requestCancel_retraces (env : Env) (db : Db) (orgId cancelled : Uuid) :
    Ensures (requestCancel env db orgId cancelled) (Retraces runId rowId [] clears db) := by
  intro next taken
  cases requestCancel_cancels env db orgId cancelled next taken with
  | queued run member named state => exact saved_retraces runId rowId clears db run _ member rfl rfl
  | running run member named state => exact saved_retraces runId rowId clears db run _ member rfl rfl
  | paused run pause last member named state listed opened done =>
      have turns := done
      rw [cancelPaused] at turns
      have finished := finishOrCleanup_turns env _ _ _ last turns
      refine retraces_turns runId rowId clears [] env db _ last run member ?_ ?_ finished ?_ fun _ => rfl
      · rfl
      · rfl
      · exact fun _ => cancelPaused_traces rowId clears env ⟨db, run⟩ pause last done

theorem resolvePause_retraces (env : Env) (db : Db) (orgId pauseId : Uuid) (resolution : PauseResolution) (actor : Actor)
    (coherent : Coherent db) :
    Ensures (resolvePause env db orgId pauseId resolution actor) (Retraces runId rowId [] clears db) := by
  intro next taken
  obtain ⟨run, pause, closed, last, answering, done, ⟨revived, revives, turns⟩, _, same⟩ :=
    @resolvePause_answers (fun _ => False) env db orgId pauseId resolution actor coherent next taken
  rw [same]
  refine retraces_turns runId rowId clears [] env db revived last run answering.member revives.id revives.runs turns
    (fun _ => ?_) fun _ => rfl
  have traces := resolveWith_traces rowId clears env (answered db run closed) pause resolution
    (coherent.sound run answering.member).distinct last done
  exact traces_from rowId clears [] ⟨db, run⟩ (answered db run closed) last rfl (Nat.le_refl _) traces

theorem accepts_silent (env : Env) (db : Db) (position : Nat) (message : Message)
    (at_ : db.outbox[position]? = some message) (silent : ∀ run ∈ db.runs.rows, run.id = runId →
      message.runId? = some run.id → run.state = .running → ∀ args, message ≠ .handleAgentEvent args) :
    (Label.deliver env position).accepts runId rowId db = [] := by
  simp only [Label.accepts, at_]
  cases message with
  | routeRun args => rfl
  | startStage runId stageIndex => rfl
  | runTerminalHook hook orgId ticketId => rfl
  | handleAgentEvent args =>
      cases found : db.runs.find? runId with
      | none => rfl
      | some run =>
          obtain ⟨member, id⟩ := Table.find?_some _ _ _ found
          simp only
          refine if_neg ?_
          rintro ⟨same, running⟩
          exact silent run member id (congrArg some (same.trans id.symm)) running args rfl

theorem deliver_retraces (env : Env) (db : Db) (position : Nat) (coherent : Coherent db) :
    Ensures (deliver env db position)
      (Retraces runId rowId ((Label.deliver env position).accepts runId rowId db)
        ((Label.deliver env position).Settles runId rowId db) db) := by
  intro next taken
  cases deliver_delivered env db position next taken with
  | skips message at_ passed =>
      rw [accepts_silent runId rowId env db position message at_ fun run member _ own running =>
        absurd running (passed run member own)]
      exact retraces_same runId rowId _ db _ fun after member => .inr ⟨after, member, rfl, rfl⟩
  | works message run last at_ named member running done =>
      refine retraces_turns runId rowId _ _ env db ⟨db.taken position, run⟩ last run member rfl rfl
        (work_turns env _ message last done) (fun own => ?_) fun other => ?_
      · refine traces_from rowId _ _ ⟨db, run⟩ ⟨db.taken position, run⟩ last rfl (Nat.le_refl _) ?_
        cases message with
        | routeRun args =>
            rw [accepts_silent runId rowId env db position _ at_ fun _ _ _ _ _ => nofun]
            exact routeRunImpl_traces rowId _ env _ args last done
        | startStage target stageIndex =>
            rw [accepts_silent runId rowId env db position _ at_ fun _ _ _ _ _ => nofun]
            exact startStageImpl_traces rowId _ env _ stageIndex last done
        | handleAgentEvent args =>
            have owner : args.runId = runId := (Option.some.inj named).trans own
            have found : db.runs.find? runId = some run := by
              rw [← own]
              exact Table.find?_of_mem db.runs run member
            have accepts : (Label.deliver env position).accepts runId rowId db = eventReports env run rowId args := by
              simp only [Label.accepts, at_, found, if_pos (And.intro owner running)]
            rw [accepts]
            refine traces_mono rowId _ _ _ _ _ (handleAgentEventImpl_traces rowId env ⟨db.taken position, run⟩ args
              (coherent.sound run member).distinct last done) ?_
            rintro ⟨row, rowMember, settled⟩
            exact ⟨env, position, rfl, run, member, own, row, rowMember, accepts ▸ settled⟩
        | runTerminalHook hook orgId ticketId => cases named
      · refine accepts_silent runId rowId env db position message at_ fun stored _ id same _ => ?_
        rw [named, Option.some.injEq] at same
        exact absurd (same.trans id) other

theorem engineStep_retraces (db : Db) (label : Label) (coherent : Coherent db) (allowed : label.Allowed db) :
    Ensures (engineStep db label)
      (Retraces runId rowId (label.accepts runId rowId db) (label.Settles runId rowId db) db) := by
  intro next taken
  cases label with
  | deliver env position => exact deliver_retraces runId rowId env db position coherent next taken
  | requestCancel env orgId cancelled => exact requestCancel_retraces runId rowId _ env db orgId cancelled next taken
  | resolvePause env orgId pauseId resolution actor =>
      exact resolvePause_retraces runId rowId _ env db orgId pauseId resolution actor coherent next taken
  | startRun => exact outsider_retraces runId rowId _ db next _ coherent allowed taken rfl
  | startRerun => exact outsider_retraces runId rowId _ db next _ coherent allowed taken rfl
  | startRerunFromStage => exact outsider_retraces runId rowId _ db next _ coherent allowed taken rfl
  | terminalEvent => exact outsider_retraces runId rowId _ db next _ coherent allowed taken rfl
  | workspaceStatus => exact outsider_retraces runId rowId _ db next _ coherent allowed taken rfl
  | createTicket => exact outsider_retraces runId rowId _ db next _ coherent allowed taken rfl
  | bindPullRequest => exact outsider_retraces runId rowId _ db next _ coherent allowed taken rfl
  | dismissFinding => exact outsider_retraces runId rowId _ db next _ coherent allowed taken rfl

end Retracing

section Reporting

variable (runId rowId : Uuid) (db next : Db) (label : Label) (reports : List (List String))

theorem accepts_unborn (coherent : Coherent db) (unborn : db.nextId ≤ rowId) : label.accepts runId rowId db = [] := by
  have silent (env : Env) (run : PipelineRun) (member : run ∈ db.runs.rows) (args : AgentEventArgs) :
      eventReports env run rowId args = [] := by
    rw [eventReports]
    split
    · cases running : runningExecution run with
      | none => rfl
      | some row =>
          refine if_neg fun same => ?_
          have spent := (coherent.sound run member).rowsBound row (List.mem_of_find?_eq_some running)
          rw [same] at spent
          exact absurd spent (Nat.not_lt.mpr unborn)
    · rfl
  cases label with
  | deliver env position =>
      rw [Label.accepts]
      split
      · rename_i found
        split
        · exact silent env _ (Table.find?_some _ _ _ found).1 _
        · rfl
      · rfl
  | _ => rfl

theorem reported_rows (reported : Reported runId rowId db reports) :
    Reachable runEngine db ∧ (db.nextId ≤ rowId → reports = []) ∧
      ∀ run ∈ db.runs.rows, run.id = runId → ∀ row ∈ run.stageExecutions, row.id = rowId → row.reports = reports := by
  induction reported with
  | starts db reachable unborn =>
      refine ⟨reachable, fun _ => rfl, ?_⟩
      intro run member _ row rowMember same
      have spent := ((reachable_coherent db reachable).sound run member).rowsBound row rowMember
      rw [same] at spent
      exact absurd spent (Nat.not_lt.mpr unborn)
  | goesOn db next label reports reported allowed taken ih =>
      obtain ⟨reachable, unborn, rows⟩ := ih
      have coherent := reachable_coherent db reachable
      have advances := (engineStep_stepped db label coherent allowed next taken).advances
      have still (low : db.nextId ≤ rowId) : reports ++ label.accepts runId rowId db = [] := by
        rw [unborn low, accepts_unborn runId rowId db label coherent low]
        rfl
      refine ⟨reachable_step runEngine db next label reachable allowed taken,
        fun low => still (Nat.le_trans advances.nextId low), ?_⟩
      intro after member own row rowMember same
      rcases engineStep_retraces runId rowId db label coherent allowed next taken after member own with
        bare | ⟨run, runMember, runOwn, traces⟩
      · rw [bare] at rowMember
        cases rowMember
      · rcases traces row rowMember same with ⟨old, oldMember, oldSame, traced⟩ | ⟨low, silent⟩
        · rw [traced.reports, rows run runMember runOwn old oldMember oldSame]
        · rw [still low, silent]

def recount : Db → List Label → List (List String)
  | _, [] => []
  | db, label :: rest => label.accepts runId rowId db ++ recount (runEngine.committed label db) rest

theorem recount_reported (labels : List Label) (commits : runEngine.Commits db labels)
    (reported : Reported runId rowId db reports) :
    Reported runId rowId (runEngine.after db labels) (reports ++ recount runId rowId db labels) := by
  induction labels generalizing db reports with
  | nil =>
      rw [recount, List.append_nil]
      exact reported
  | cons label rest ih =>
      obtain ⟨allowed, taken, later⟩ := commits
      rw [recount, ← List.append_assoc]
      exact ih _ _ later (.goesOn db _ label reports reported allowed (step_committed runEngine label db taken))

structure HeldBack (row after : StageExecution) : Prop where
  unproceeded : after.boundaryOutcome ≠ some .proceeded
  ended : after.status = .completed →
    row.status = .completed ∨ after.boundaryOutcome = some .paused ∨ after.boundaryOutcome = some .sentBack

theorem evaluateBoundary_guarded (env : Env) (control : BoundaryControl) (orgId : Uuid) (repoExternalId : String)
    (residuals : List Finding) (paths : List String) (confidence : Confidence) (mode : control.mode = .conditional)
    (guarded : control.onProtectedCode = true) (some_ : paths ≠ [])
    (matched : (env.evaluateProtected orgId repoExternalId paths).matched = true) :
    evaluateBoundary env control orgId repoExternalId residuals paths confidence ≠ .proceed := by
  have reported : paths.isEmpty = false := by simpa using some_
  simp [evaluateBoundary, mode, guarded, reported, matched]

variable (matchFile : List String → String → Bool) (settings : List ((Uuid × String) × Repos.RepoSettings))

-- A skill stage with a guarded boundary, whose last accepted main or fix return reports
-- a protected path, is held back by any step.
theorem protected_held_back (run : PipelineRun) (row : StageExecution) (stage : SkillStage) (ticket : Ticket)
    (paths : List String) (reported : Reported runId rowId db reports) (allowed : runEngine.allowed db label)
    (taken : runEngine.step db label = .ok next)
    (evaluates : ∀ env position, label = .deliver env position →
      env.evaluateProtected = Repos.evaluateProtected matchFile settings)
    (member : run ∈ db.runs.rows) (own : run.id = runId) (rowMember : row ∈ run.stageExecutions) (same : row.id = rowId)
    (kind : row.kind = .skill) (found : stageAt run.definitionSnapshot row.stageIndex = .ok (.skill stage))
    (mode : stage.boundary.mode = .conditional) (guarded : stage.boundary.onProtectedCode = true)
    (ticketed : getTicket db run.ticketId run.orgId = .ok ticket)
    (last : (reports ++ label.accepts runId rowId db).getLast? = some paths)
    (touched : ∃ path ∈ paths,
      Repos.isProtected matchFile (Repos.getSettings settings run.orgId ticket.repoExternalId) path = true)
    (unproceeded : row.boundaryOutcome ≠ some .proceeded) :
    ∀ after ∈ next.runs.rows, after.id = runId → ∀ later ∈ after.stageExecutions, later.id = rowId → HeldBack row later := by
  obtain ⟨reachable, _, rows⟩ := reported_rows runId rowId db reports reported
  have coherent := reachable_coherent db reachable
  have sound := coherent.sound run member
  have uncleared : ¬ label.Settles runId rowId db := by
    rintro ⟨env, position, isDelivery, other, otherMember, otherOwn, settling, settlingMember, isRow, crossed⟩
    have sameRun := Table.eq_of_key db.runs other run otherMember member (otherOwn.trans own.symm)
    rw [sameRun] at settlingMember crossed
    have sameRow : settling = row :=
      sole_member run.stageExecutions row sound.distinct rowMember settling settlingMember (isRow.trans same.symm)
    rw [sameRow] at crossed
    obtain ⟨crossing, crossingFound, read, residuals, confidence, readTicket, decision⟩ := crossed kind
    have sameStage : crossing = stage := by
      rw [found] at crossingFound
      cases crossingFound
      rfl
    have sameTicket : read = ticket := by
      change getTicket db run.ticketId run.orgId = .ok read at readTicket
      rw [ticketed] at readTicket
      cases readTicket
      rfl
    rw [sameStage, sameTicket, rows run member own row rowMember same, last] at decision
    have matched : (env.evaluateProtected run.orgId ticket.repoExternalId paths).matched = true := by
      rw [evaluates env position isDelivery]
      exact (Repos.matchProtected_any matchFile paths _).mpr touched
    have listed : paths ≠ [] := by
      obtain ⟨path, pathMember, _⟩ := touched
      exact List.ne_nil_of_mem pathMember
    exact evaluateBoundary_guarded env stage.boundary run.orgId ticket.repoExternalId residuals paths confidence mode guarded
      listed matched decision
  intro after afterMember afterOwn later laterMember laterSame
  rcases engineStep_retraces runId rowId db label coherent allowed next taken after afterMember afterOwn with
    bare | ⟨other, otherMember, otherOwn, traces⟩
  · rw [bare] at laterMember
    cases laterMember
  · have sameRun := Table.eq_of_key db.runs other run otherMember member (otherOwn.trans own.symm)
    rcases traces later laterMember laterSame with ⟨old, oldMember, oldSame, traced⟩ | ⟨low, _⟩
    · have isRow : old = row := by
        apply sole_member run.stageExecutions row sound.distinct rowMember old
        · rw [← sameRun]
          exact oldMember
        · exact oldSame.trans same.symm
      rw [isRow] at traced
      cases traced.fate with
      | stays status outcome => exact ⟨by rw [outcome]; exact unproceeded, fun completed => .inl (status ▸ completed)⟩
      | fails status outcome => exact ⟨by rw [outcome]; exact unproceeded, fun completed => by simp [status] at completed⟩
      | stops outcome =>
          refine ⟨?_, fun _ => .inr outcome⟩
          rcases outcome with paused | sentBack
          · simp [paused]
          · simp [sentBack]
      | clears settles => exact absurd settles uncleared
    · have spent := sound.rowsBound row rowMember
      rw [same] at spent
      exact absurd spent (Nat.not_lt.mpr low)

end Reporting

def guardedPaths : Repos.ProtectedPathSet :=
  { id := 9, name := "keys", globs := ["infra/key.pem"], ownerUserIds := [6] }

def guardedRepos : List ((Uuid × String) × Repos.RepoSettings) :=
  [((1, "42"), { protectedMode := .deny, protectedPathSets := [guardedPaths] })]

def guardedBoundary : BoundaryControl :=
  { mode := .conditional, onBlockerResiduals := false, onShouldFixResiduals := false, onNitResiduals := false,
    onProtectedCode := true, onConfidenceBelow := none, offered := unasked_offered }

theorem thrice_looped : 1 ≤ 3 := by decide

theorem thrice_bounded : 3 ≤ 3 := by decide

def guardedReview : ReviewConfig :=
  { skillName := "review", maxIterations := 3, atLeastOne := thrice_looped, atMostThree := thrice_bounded }

def guardedStage : SkillStage := { sampleSkill (some guardedReview) .conditional with boundary := guardedBoundary }

def guardedFinding : SkillReviewFinding :=
  { category := "sec", severity := .blocker, body := "body", codeFile := none, codeLine := none, artifactSection := none,
    defectInArtifact := none }

def guardedVerdict : PriorFindingVerdict := { findingId := 18, status := some .fixed, reply := none }

-- A main or fix pass reports the path that its output names. The first review finds
-- something, which the second one takes for fixed.
def guardedEnv : Env :=
  { sampleEnv { stages := [.skill guardedStage], nonempty := by simp, distinct := List.nodup_singleton "code" } with
    skillReturnOf := fun text => .ok { sampleReturn with pathsAffected := [text] }
    reviewReturnOf := fun text => .ok
      (if text = "found" then { sampleReviewReturn with newFindings := [guardedFinding] }
       else { sampleReviewReturn with priorFindingVerdicts := [guardedVerdict] })
    evaluateProtected := Repos.evaluateProtected (fun globs path => globs.contains path) guardedRepos }

def guardedOutputs (text : String) : Dict Json := [("output", .str text), ("artifact", .obj [("body", .str "text")])]

def guardedTurn : Label := .deliver guardedEnv 0

def guardedSteps (fixed : String) : List Label :=
  [.createTicket sampleTicket, .startRun guardedEnv 1 2 3 sampleKickoff none, guardedTurn, guardedTurn,
    .terminalEvent (sampleEvent 13 "success" []), guardedTurn, guardedTurn,
    .terminalEvent (sampleEvent 15 "success" (guardedOutputs "infra/key.pem")), guardedTurn,
    .terminalEvent (sampleEvent 17 "success" (guardedOutputs "found")), guardedTurn,
    .terminalEvent (sampleEvent 19 "success" (guardedOutputs fixed)), guardedTurn,
    .terminalEvent (sampleEvent 21 "success" (guardedOutputs "fixed"))]

def guardedDb (fixed : String) : Db := runEngine.after (.empty 10) (guardedSteps fixed)

theorem guarded_reported (fixed : String) : Reported 10 14 (guardedDb fixed) [["infra/key.pem"], [fixed]] := by
  have born : Reported 10 14 (.empty 10) [] :=
    .starts (.empty 10) ⟨.empty 10, [], ⟨rfl, rfl, rfl, rfl, rfl, rfl⟩, .nil _⟩ (by decide)
  apply recount_reported 10 14 (.empty 10) [] (guardedSteps fixed) ?_ born
  exact ⟨trivial, rfl, ⟨_, rfl, rfl⟩, rfl, trivial, rfl, trivial, rfl, trivial, rfl, trivial, rfl, trivial, rfl, trivial,
    rfl, trivial, rfl, trivial, rfl, trivial, rfl, trivial, rfl, trivial, rfl, trivial, rfl, trivial⟩

def guardedRun (fixed : String) : PipelineRun := ((guardedDb fixed).runs.find? 10).get rfl

def guardedRow (fixed : String) : StageExecution := (runningExecution (guardedRun fixed)).get rfl

theorem guardedRun_stored (fixed : String) : guardedRun fixed ∈ (guardedDb fixed).runs.rows :=
  (Table.find?_some _ 10 (guardedRun fixed) (Option.some_get _).symm).1

theorem guardedRow_stored (fixed : String) : guardedRow fixed ∈ (guardedRun fixed).stageExecutions :=
  List.mem_of_find?_eq_some (Option.some_get _).symm

-- The fix pass reports a protected path: the stage pauses.
theorem guarded_holds :
    ∃ next, runEngine.step (guardedDb "infra/key.pem") guardedTurn = .ok next ∧
      ∀ after ∈ next.runs.rows, after.id = 10 → ∀ later ∈ after.stageExecutions, later.id = 14 →
        HeldBack (guardedRow "infra/key.pem") later := by
  refine ⟨_, rfl, protected_held_back 10 14 (guardedDb "infra/key.pem") _ guardedTurn _ (fun globs path => globs.contains path)
    guardedRepos (guardedRun "infra/key.pem") (guardedRow "infra/key.pem") guardedStage _ ["infra/key.pem"]
    (guarded_reported "infra/key.pem") trivial rfl ?_ (guardedRun_stored _) rfl (guardedRow_stored _) rfl rfl rfl rfl rfl rfl
    rfl ⟨"infra/key.pem", List.mem_singleton_self _, by decide⟩ nofun⟩
  rintro env position same
  cases same
  rfl

-- The fix pass reports another path: the stage proceeds, though its main pass has
-- reported a protected one.
theorem guarded_hidden :
    ¬ ∀ runId rowId db next label reports matchFile settings run row stage ticket paths,
      Reported runId rowId db reports → runEngine.allowed db label → runEngine.step db label = .ok next →
      (∀ env position, label = .deliver env position →
        env.evaluateProtected = Repos.evaluateProtected matchFile settings) →
      run ∈ db.runs.rows → run.id = runId → row ∈ run.stageExecutions → row.id = rowId → row.kind = .skill →
      stageAt run.definitionSnapshot row.stageIndex = .ok (.skill stage) → stage.boundary.mode = .conditional →
      stage.boundary.onProtectedCode = true → getTicket db run.ticketId run.orgId = .ok ticket →
      paths ∈ reports ++ label.accepts runId rowId db →
      (∃ path ∈ paths,
        Repos.isProtected matchFile (Repos.getSettings settings run.orgId ticket.repoExternalId) path = true) →
      row.boundaryOutcome ≠ some .proceeded →
      ∀ after ∈ next.runs.rows, after.id = runId → ∀ later ∈ after.stageExecutions, later.id = rowId → HeldBack row later := by
  intro claimed
  obtain ⟨next, taken, run, found, row, rowFound, proceeded⟩ : ∃ next,
      runEngine.step (guardedDb "src/app.py") guardedTurn = .ok next ∧ ∃ run, next.runs.find? 10 = some run ∧
        ∃ row, run.stageExecutions.find? (fun row => row.id == 14) = some row ∧ row.boundaryOutcome = some .proceeded :=
    ⟨_, rfl, _, rfl, _, rfl, rfl⟩
  obtain ⟨member, own⟩ := Table.find?_some _ 10 run found
  have held := claimed 10 14 (guardedDb "src/app.py") next guardedTurn _ (fun globs path => globs.contains path) guardedRepos
    (guardedRun "src/app.py") (guardedRow "src/app.py") guardedStage _ ["infra/key.pem"] (guarded_reported "src/app.py")
    trivial taken (by rintro env position same; cases same; rfl) (guardedRun_stored _) rfl (guardedRow_stored _) rfl rfl rfl
    rfl rfl rfl List.mem_cons_self ⟨"infra/key.pem", List.mem_singleton_self _, by decide⟩ nofun run member own row
    (List.mem_of_find?_eq_some rowFound) (by simpa using List.find?_some rowFound)
  exact held.unproceeded proceeded

end Yaaos.Pipelines
