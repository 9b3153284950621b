import Yaaos.Pipelines.Delivery

set_option autoImplicit false

namespace Yaaos.Pipelines

open Yaaos.Base

inductive Started (db : Db) (promised : Prop) : Db → Prop where
  | inserts (orgId ticketId : Uuid) (pipelineId : Option Uuid) (flattened : FlattenedDefinition) (kickoff : Kickoff)
      (current : Option Nat) (triggeredByUserId : Option Uuid)
      (ticketed : promised → ∃ ticket, db.tickets.find? ticketId = some ticket ∧ ticket.orgId = orgId)
      (begins : ∀ index, current = some index →
        ∃ stage, flattened.stages[index]? = some stage ∧ stage.isAction = false) :
      Started db promised
        (insertRun db (newRun db.nextId orgId ticketId pipelineId flattened kickoff current triggeredByUserId))

inductive Cancels (env : Env) (db : Db) (runId : Uuid) : Db → Prop where
  | queued (run : PipelineRun) (member : run ∈ db.runs.rows) (named : run.id = runId) (state : run.state = .queued) :
      Cancels env db runId (cancelQueued env ⟨db, run⟩).commit
  | running (run : PipelineRun) (member : run ∈ db.runs.rows) (named : run.id = runId) (state : run.state = .running) :
      Cancels env db runId ({ db := db, run := { run with cancelRequested := true } } : Session).commit
  | paused (run : PipelineRun) (pause : RunPause) (last : Session) (member : run ∈ db.runs.rows) (named : run.id = runId)
      (state : run.state = .paused) (listed : pause ∈ run.pauses) (opened : pause.resolvedAt = none)
      (done : cancelPaused env ⟨db, run⟩ pause = .ok last) : Cancels env db runId last.commit

-- A pause that an answer finds open, and what the answer makes of it.
structure Resolving (db : Db) (pauseId : Uuid) (resolution : PauseResolution) (run : PipelineRun)
    (pause closed : RunPause) : Prop where
  found : findPause db pauseId = some (run, pause)
  member : run ∈ db.runs.rows
  listed : pause ∈ run.pauses
  opened : pause.resolvedAt = none
  id : closed.id = pause.id
  names : closed.stageExecutionId = pause.stageExecutionId
  resolved : closed.resolvedAt ≠ none
  action : closed.resolution = some resolution.action

def Message.work (env : Env) (session : Session) : Message → Except EngineError Session
  | .routeRun args => routeRunImpl env session args
  | .startStage _ stageIndex => startStageImpl env session stageIndex
  | .handleAgentEvent args => handleAgentEventImpl env session args
  | .runTerminalHook _ _ _ => .ok session

inductive Delivered (env : Env) (db : Db) (position : Nat) : Db → Prop where
  | skips (message : Message) (at_ : db.outbox[position]? = some message)
      (passed : ∀ run ∈ db.runs.rows, message.runId? = some run.id → run.state ≠ .running) :
      Delivered env db position (db.taken position)
  | works (message : Message) (run : PipelineRun) (last : Session) (at_ : db.outbox[position]? = some message)
      (named : message.runId? = some run.id) (member : run ∈ db.runs.rows) (running : run.state = .running)
      (done : message.work env ⟨db.taken position, run⟩ = .ok last) : Delivered env db position last.commit

section Starting

variable (env : Env) (db : Db)

theorem getTicket_found (ticketId orgId : Uuid) :
    Ensures (getTicket db ticketId orgId) fun ticket =>
      db.tickets.find? ticketId = some ticket ∧ ticket.orgId = orgId := by
  rw [getTicket]
  cases found : db.tickets.find? ticketId with
  | none => exact ensures_error _ _
  | some ticket =>
      simp only
      split
      · rename_i same
        exact ensures_ok _ _ ⟨rfl, same⟩
      · exact ensures_error _ _

theorem startRun_started (orgId ticketId pipelineId : Uuid) (kickoff : Kickoff) (triggeredByUserId : Option Uuid)
    (promised : Prop)
    (ticketed : promised → ∃ ticket, db.tickets.find? ticketId = some ticket ∧ ticket.orgId = orgId) :
    Ensures (startRun env db orgId ticketId pipelineId kickoff triggeredByUserId) (Started db promised) := by
  rw [startRun]
  cases env.pipelines orgId pipelineId with
  | none => exact ensures_error _ _
  | some pipeline => exact ensures_ok _ _ (.inserts orgId ticketId _ _ _ none _ ticketed nofun)

theorem startRerun_started (orgId runId : Uuid) (actor : Actor) (triggeredByUserId : Option Uuid) (promised : Prop) :
    Ensures (startRerun env db orgId runId actor triggeredByUserId) (Started db promised) := by
  rw [startRerun]
  cases db.runs.find? runId with
  | none => exact ensures_error _ _
  | some run =>
      simp only
      split
      · exact ensures_error _ _
      · refine ensures_bind _ _ _ _ (getTicket_found db run.ticketId orgId) fun ticket found => ?_
        split
        · exact ensures_error _ _
        · split
          · cases run.pipelineId with
            | none => exact ensures_error _ _
            | some pipelineId => exact startRun_started env db orgId run.ticketId pipelineId _ _ _ fun _ => ⟨ticket, found⟩
          · exact ensures_error _ _

theorem rerunIndex_starts (flattened : FlattenedDefinition) (fromStage : String) (index : Nat)
    (found : rerunIndex flattened fromStage = some index) :
    ∃ stage, flattened.stages[index]? = some stage ∧ stage.isAction = false := by
  obtain ⟨inside, named, _⟩ := List.findIdx?_eq_some_iff_getElem.mp found
  refine ⟨flattened.stages[index], List.getElem?_eq_getElem inside, ?_⟩
  cases isStage : flattened.stages[index] with
  | skill stage => rfl
  | review stage => rfl
  | action stage =>
      rw [isStage] at named
      cases named

theorem startRerunFromStage_started (orgId ticketId : Uuid) (fromStage instruction : String) (actor : Actor)
    (triggeredByUserId : Option Uuid) (promised : Prop) :
    Ensures (startRerunFromStage env db orgId ticketId fromStage instruction actor triggeredByUserId)
      (Started db promised) := by
  rw [startRerunFromStage]
  refine ensures_bind _ _ _ _ (getTicket_found db ticketId orgId) fun ticket found => ?_
  cases ticket.currentRunId with
  | none => exact ensures_error _ _
  | some currentRunId =>
      simp only
      cases db.runs.find? currentRunId with
      | none => exact ensures_error _ _
      | some priorRun =>
          simp only
          cases priorRun.pipelineId.bind (env.pipelines orgId) with
          | none => exact ensures_error _ _
          | some pipeline =>
              simp only
              cases isIndex : rerunIndex pipeline.flattened fromStage with
              | none => exact ensures_error _ _
              | some fromIndex =>
                  refine ensures_read _ _ _ fun _ _ => ensures_ok _ _
                    (.inserts orgId ticketId _ _ _ _ _ (fun _ => ⟨ticket, found⟩) fun index same => ?_)
                  cases same
                  exact rerunIndex_starts pipeline.flattened fromStage fromIndex isIndex

def Label.starts : Label → Bool
  | .startRun _ _ _ _ _ _ | .startRerun _ _ _ _ _ | .startRerunFromStage _ _ _ _ _ _ _ => true
  | _ => false

theorem engineStep_started (label : Label) (starts : label.starts = true) :
    Ensures (engineStep db label) (Started db (label.Allowed db)) := by
  cases label with
  | startRun env orgId ticketId pipelineId kickoff triggeredByUserId =>
      exact startRun_started env db orgId ticketId pipelineId kickoff triggeredByUserId _ id
  | startRerun env orgId runId actor triggeredByUserId => exact startRerun_started env db orgId runId actor _ _
  | startRerunFromStage env orgId ticketId fromStage instruction actor triggeredByUserId =>
      exact startRerunFromStage_started env db orgId ticketId fromStage instruction actor _ _
  | _ => cases starts

end Starting

section Pauses

variable (env : Env) (db : Db)

theorem findPause_some (pauseId : Uuid) (run : PipelineRun) (pause : RunPause)
    (found : findPause db pauseId = some (run, pause)) : run ∈ db.runs.rows ∧ pause ∈ run.pauses := by
  obtain ⟨other, member, matched⟩ := List.exists_of_findSome?_eq_some found
  obtain ⟨first, hit, same⟩ := Option.map_eq_some_iff.mp matched
  cases same
  exact ⟨member, List.mem_of_find?_eq_some hit⟩

theorem resolvePause_resolves (orgId pauseId : Uuid) (resolution : PauseResolution) (actor : Actor) :
    Ensures (resolvePause env db orgId pauseId resolution actor) fun next => ∃ run pause closed last,
      Resolving db pauseId resolution run pause closed ∧
        resolveWith env (({ db := db, run := run } : Session).putPause closed) pause resolution = .ok last ∧
        next = last.commit := by
  rw [resolvePause]
  cases found : findPause db pauseId with
  | none => exact ensures_error _ _
  | some pair =>
      obtain ⟨run, pause⟩ := pair
      obtain ⟨member, listed⟩ := findPause_some db pauseId run pause found
      simp only
      split
      · exact ensures_error _ _
      · cases actor.userId? with
        | none => exact ensures_error _ _
        | some userId =>
            simp only
            split
            · exact ensures_error _ _
            · split
              · exact ensures_error _ _
              · rename_i opened
                split
                · exact ensures_error _ _
                · refine ensures_map _ _ _ fun last done => ?_
                  refine ⟨run, pause, _, last, ?_, done, rfl⟩
                  exact ⟨found, member, listed, not_not.mp opened, rfl, rfl, (by intro same; cases same), rfl⟩

theorem resolvePause_own (orgId pauseId : Uuid) (resolution : PauseResolution) (actor : Actor) (run : PipelineRun)
    (next : Db) (member : run ∈ db.runs.rows)
    (subject : (findPause db pauseId).map (fun found => found.1.id) = some run.id)
    (taken : resolvePause env db orgId pauseId resolution actor = .ok next) :
    ∃ pause closed last, Resolving db pauseId resolution run pause closed ∧
      resolveWith env (({ db := db, run := run } : Session).putPause closed) pause resolution = .ok last ∧
      next = last.commit := by
  obtain ⟨other, pause, closed, last, resolving, done⟩ := resolvePause_resolves env db orgId pauseId resolution actor next taken
  rw [resolving.found, Option.map_some, Option.some.injEq] at subject
  cases Table.eq_of_key db.runs other run resolving.member member subject
  exact ⟨pause, closed, last, resolving, done⟩

theorem getOpenPauseForRun_some (run : PipelineRun) (pause : RunPause) (found : getOpenPauseForRun run = some pause) :
    pause ∈ run.pauses ∧ pause.resolvedAt = none := by
  refine ⟨List.mem_of_find?_eq_some found, ?_⟩
  simpa using List.find?_some found

theorem requestCancel_cancels (orgId runId : Uuid) : Ensures (requestCancel env db orgId runId) (Cancels env db runId) := by
  rw [requestCancel]
  cases found : db.runs.find? runId with
  | none => exact ensures_error _ _
  | some run =>
      obtain ⟨member, named⟩ := Table.find?_some _ _ _ found
      simp only
      split
      · exact ensures_error _ _
      · split
        · rename_i state
          exact ensures_ok _ _ (.queued run member named state)
        · rename_i state
          exact ensures_ok _ _ (.running run member named state)
        · rename_i state
          cases hit : getOpenPauseForRun run with
          | none => exact ensures_error _ _
          | some pause =>
              obtain ⟨listed, opened⟩ := getOpenPauseForRun_some run pause hit
              exact ensures_map _ _ _ fun last done => .paused run pause last member named state listed opened done
        · exact ensures_error _ _

end Pauses

section Delivering

variable (env : Env) (db : Db) (position : Nat)

theorem deliver_delivered : Ensures (deliver env db position) (Delivered env db position) := by
  cases at_ : db.outbox[position]? with
  | none =>
      rw [deliver, at_]
      exact ensures_error _ _
  | some message =>
      rw [deliver_message db position env message at_]
      have transaction (runId : Uuid) (named : message.runId? = some runId) :
          Ensures (whileRunning (db.taken position) runId (message.work env)) (Delivered env db position) := by
        rw [whileRunning]
        cases found : (db.taken position).runs.find? runId with
        | none =>
            refine ensures_ok _ _ (.skips message at_ fun run member own => ?_)
            rw [named, Option.some.injEq] at own
            exact absurd own.symm ((Table.find?_isNone db.runs runId).mp found run member)
        | some run =>
            obtain ⟨member, id⟩ := Table.find?_some _ _ _ found
            simp only
            by_cases running : run.state = .running
            · rw [if_neg (not_not.mpr running)]
              exact ensures_map _ _ _ fun last done => .works message run last at_ (id ▸ named) member running done
            · rw [if_pos running]
              refine ensures_ok _ _ (.skips message at_ fun other otherMember own => ?_)
              rw [named, ← id, Option.some.injEq] at own
              rw [← Table.eq_of_key db.runs run other member otherMember own]
              exact running
      cases message with
      | routeRun args => exact transaction args.runId rfl
      | startStage runId stageIndex => exact transaction runId rfl
      | handleAgentEvent args => exact transaction args.runId rfl
      | runTerminalHook hook orgId ticketId =>
          refine ensures_ok _ _ (.skips _ at_ fun run _ named => ?_)
          cases named

end Delivering

end Yaaos.Pipelines
