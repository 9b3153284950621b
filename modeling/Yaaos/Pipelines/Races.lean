import Yaaos.Base.Race
import Yaaos.Pipelines.Pauses

set_option autoImplicit false

namespace Yaaos.Pipelines

open Yaaos.Base

-- A transaction of the engine; it claims the pause it closes.
abbrev EngineTxn : Type := Txn Db Session (Option Uuid) EngineError

def resolvePauseTxn (env : Env) (orgId pauseId : Uuid) (resolution : PauseResolution) (actor : Actor) : EngineTxn :=
  .read fun db =>
    match findPause db pauseId with
    | none => .refused (.pauseNotFound pauseId)
    | some (run, pause) =>
        if pause.orgId ≠ orgId then .refused (.pauseNotFound pauseId)
        else match actor.userId? with
          | none => .refused (.notEscalationTarget pauseId)
          | some userId =>
              if !isPauseResponder env userId pause.escalationUserIds orgId then .refused (.notEscalationTarget pauseId)
              else if pause.resolvedAt ≠ none then .refused (.pauseAlreadyResolved pauseId)
              else if resolution.action = .instruct ∧ resolution.instruction.getD "" = "" then
                .refused (.invalidPauseResolution "instruct requires a non-empty instruction")
              else
                .read fun db =>
                  match db.runs.find? run.id with
                  | none => .refused (.runNotFound run.id)
                  | some run =>
                      let resolved : RunPause :=
                        { pause with
                          resolution := some resolution.action, instruction := resolution.instruction,
                          sendBackToStage := resolution.sendBackToStage, resolvedBy := some userId,
                          resolvedAt := some env.now }
                      .read fun db =>
                        Txn.finish (resolveWith env (({ db := db, run := run } : Session).putPause resolved) pause resolution)
                          (some pauseId)

def requestCancelTxn (env : Env) (orgId runId : Uuid) : EngineTxn :=
  .read fun db =>
    match db.runs.find? runId with
    | none => .refused (.runNotFound runId)
    | some run =>
        if run.orgId ≠ orgId then .refused (.runNotFound runId)
        else match run.state with
          | .queued => .ready (cancelQueued env { db := db, run := run }) none
          | .running => .ready { db := db, run := { run with cancelRequested := true } } none
          | .paused =>
              .read fun db =>
                match (db.runs.find? runId).bind getOpenPauseForRun with
                | none => .refused (.assertionError "run is paused but has no open run_pauses row")
                | some pause =>
                    .read fun db => Txn.finish (cancelPaused env { db := db, run := run } pause) (some pause.id)
          | _ => .refused (.runAlreadyTerminal runId)

inductive Attempt where
  | resolve (env : Env) (orgId : Uuid) (resolution : PauseResolution) (actor : Actor)
  | cancel (env : Env) (orgId : Uuid)

def Attempt.begin (attempt : Attempt) (runId pauseId : Uuid) : EngineTxn :=
  match attempt with
  | .resolve env orgId resolution actor => resolvePauseTxn env orgId pauseId resolution actor
  | .cancel env orgId => requestCancelTxn env orgId runId

def Attempt.env : Attempt → Env
  | .resolve env _ _ _ => env
  | .cancel env _ => env

def Attempt.alone (attempt : Attempt) (db : Db) (runId pauseId : Uuid) : Except EngineError Db :=
  match attempt with
  | .resolve env orgId resolution actor => resolvePause env db orgId pauseId resolution actor
  | .cancel env orgId => requestCancel env db orgId runId

def Attempt.pausesAgain (attempt : Attempt) (run : PipelineRun) : Bool :=
  match attempt with
  | .resolve _ _ resolution _ => resolution.action == .sendBack && 1 ≤ run.count (resolution.sendBackToStage.getD "")
  | .cancel _ _ => false

def Attempt.denied? (attempt : Attempt) (run : PipelineRun) (pause : RunPause) : Option EngineError :=
  match attempt with
  | .resolve env orgId _ actor =>
      if pause.orgId ≠ orgId then some (.pauseNotFound pause.id)
      else match actor.userId? with
        | none => some (.notEscalationTarget pause.id)
        | some userId =>
            if !isPauseResponder env userId pause.escalationUserIds orgId then some (.notEscalationTarget pause.id) else none
  | .cancel _ orgId => if run.orgId ≠ orgId then some (.runNotFound run.id) else none

-- What a call raises when the other one commits after so many of its reads.
inductive Yields (first : Attempt) (run : PipelineRun) (pause : RunPause) : Attempt → Nat → EngineError → Prop where
  | denied (attempt : Attempt) (reads : Nat) (error : EngineError) (denied : attempt.denied? run pause = some error) :
      Yields first run pause attempt reads error
  | late (env : Env) (orgId : Uuid) (resolution : PauseResolution) (actor : Actor)
      (allowed : (Attempt.resolve env orgId resolution actor).denied? run pause = none) :
      Yields first run pause (.resolve env orgId resolution actor) 0 (.pauseAlreadyResolved pause.id)
  | empty (env : Env) (orgId : Uuid) (resolution : PauseResolution) (actor : Actor) (reads : Nat)
      (allowed : (Attempt.resolve env orgId resolution actor).denied? run pause = none)
      (instructs : resolution.action = .instruct ∧ resolution.instruction.getD "" = "") :
      Yields first run pause (.resolve env orgId resolution actor) (reads + 1)
        (.invalidPauseResolution "instruct requires a non-empty instruction")
  | answered (env : Env) (orgId : Uuid) (allowed : (Attempt.cancel env orgId).denied? run pause = none)
      (moves : first.pausesAgain run = false) :
      Yields first run pause (.cancel env orgId) 1 (.assertionError "run is paused but has no open run_pauses row")

variable (attempt : Attempt)

theorem findPause_own (db : Db) (books : Books db) (apart : Apart db) (run : PipelineRun) (pause : RunPause)
    (member : run ∈ db.runs.rows) (listed : pause ∈ run.pauses) : findPause db pause.id = some (run, pause) := by
  have first (other : PipelineRun) (otherMember : other ∈ db.runs.rows) (found : RunPause)
      (hit : (other.pauses.find? fun row => row.id == pause.id) = some found) : other = run ∧ found = pause := by
    have inOther := List.mem_of_find?_eq_some hit
    have same : found.id = pause.id := by simpa using List.find?_some hit
    have own := apart other otherMember run member found inOther pause listed same
    rw [own] at inOther
    exact ⟨own, List.inj_on_of_nodup_map (books run member).distinct inOther listed same⟩
  cases found : findPause db pause.id with
  | none =>
      have missed := List.findSome?_eq_none_iff.mp found run member
      rw [Option.map_eq_none_iff, List.find?_eq_none] at missed
      exact absurd (missed pause listed) (by simp)
  | some pair =>
      obtain ⟨other, otherMember, matched⟩ := List.exists_of_findSome?_eq_some found
      obtain ⟨row, hit, same⟩ := Option.map_eq_some_iff.mp matched
      obtain ⟨own, isPause⟩ := first other otherMember row hit
      rw [← same, own, isPause]

theorem getOpenPauseForRun_own (db : Db) (run : PipelineRun) (pause : RunPause) (coherent : Coherent db)
    (member : run ∈ db.runs.rows) (listed : pause ∈ run.pauses) (opened : pause.resolvedAt = none) :
    getOpenPauseForRun run = some pause := by
  have stands : Stands (db.messagesFor run.id) (workspaceOf db run) run := coherent.stands run member
  cases stands with
  | queued state rows pauses => rw [pauses] at listed; cases listed
  | routing args state idle => exact absurd opened (idle.closed pause listed)
  | starting index stage state idle => exact absurd opened (idle.closed pause listed)
  | parked command row rest state pending closed => exact absurd opened (closed pause listed)
  | ended state idle => exact absurd opened (idle.closed pause listed)
  | paused row rest head others state unparked quiet rows kind status pauses first names closed =>
      rw [pauses] at listed
      rw [open_pause head pause others listed opened closed, getOpenPauseForRun, pauses,
        List.find?_cons_of_pos (by rw [first]; rfl)]

structure Accepted (db : Db) (run : PipelineRun) (pause : RunPause) (attempt : Attempt) (session : Session)
    (closed : RunPause) : Prop where
  passes : (Txn.readOnce db)^[3] (attempt.begin run.id pause.id) = .ready session (some pause.id)
  answering : Answering db run pause closed
  answers : Answers attempt.env db run closed session
  orgId : closed.orgId = pause.orgId
  escalationUserIds : closed.escalationUserIds = pause.escalationUserIds
  moves : attempt.pausesAgain run = false → session.run.state ≠ .paused

theorem resolveWith_moving (env : Env) (db : Db) (run : PipelineRun) (pause closed : RunPause) (resolution : PauseResolution)
    (stored : run.workspaceId ≠ none → workspaceOf db run ≠ none)
    (once : resolution.action = .sendBack → run.count (resolution.sendBackToStage.getD "") < 1) :
    Ensures (resolveWith env (answered db run closed) pause resolution) fun last => last.run.state ≠ .paused := by
  have running (session last : Session) (state : session.run.state = .running) (steady : Steady session last) :
      last.run.state ≠ .paused := by
    rw [steady.state, state]
    decide
  rw [resolveWith]
  cases chosen : resolution.action with
  | approve =>
      refine ensures_read _ _ _ fun row _ => ensures_ok _ _ ?_
      exact running _ _ rfl (steady_enqueue (resume (answered db run closed)) _)
  | instruct =>
      refine ensures_read _ _ _ fun row _ => ?_
      rw [resumeWithInstruction]
      refine ensures_read _ _ _ fun stage _ => ?_
      cases stage.name? with
      | none => exact ensures_error _ _
      | some stageName =>
          exact ensures_mono _ _ _ (startStageImpl_steady env _ _) fun last steady => running _ last rfl steady
  | sendBack =>
      refine ensures_read _ _ _ fun row _ => ?_
      refine ensures_bind _ _ _ _ (checkSendBack_found _ row resolution.sendBackToStage) fun target found => ?_
      have first : ¬ ((resume (answered db run closed)).run.sendbackCounts.lookup target.2.name).getD 0 ≥ 1 := by
        rw [found.2]
        exact Nat.not_le.mpr (once chosen)
      rw [resumeWithSendBack, sendBackToStage, if_neg first]
      exact ensures_mono _ _ _ (startStageImpl_steady env _ _) fun last steady => running _ last rfl steady
  | kill =>
      have closes := finishOrCleanup_closes env
        { answered db run closed with run := { (answered db run closed).run with state := .running } } .killed none rfl
        stored
      intro last done paused
      exact paused_not_closing last.run paused (completes_ensures _ _ closes last done)

theorem resolve_accepted (env : Env) (orgId : Uuid) (resolution : PauseResolution) (actor : Actor) (db after : Db)
    (coherent : Coherent db) (books : Books db) (apart : Apart db) (run : PipelineRun) (member : run ∈ db.runs.rows)
    (pause : RunPause) (listed : pause ∈ run.pauses) (opened : pause.resolvedAt = none)
    (accepted : resolvePause env db orgId pause.id resolution actor = .ok after) :
    ∃ session closed, Accepted db run pause (.resolve env orgId resolution actor) session closed ∧
      after = session.commit := by
  have found := findPause_own db books apart run pause member listed
  have stored := Table.find?_of_mem db.runs run member
  rw [resolvePause, found] at accepted
  simp only at accepted
  by_cases foreign : pause.orgId ≠ orgId
  · rw [if_pos foreign] at accepted
    cases accepted
  · rw [if_neg foreign] at accepted
    cases user : actor.userId? with
    | none =>
        rw [user] at accepted
        cases accepted
    | some userId =>
        rw [user] at accepted
        simp only at accepted
        by_cases stranger : (!isPauseResponder env userId pause.escalationUserIds orgId) = true
        · rw [if_pos stranger] at accepted
          cases accepted
        · rw [if_neg stranger, if_neg (not_not.mpr opened)] at accepted
          by_cases empty : resolution.action = .instruct ∧ resolution.instruction.getD "" = ""
          · rw [if_pos empty] at accepted
            cases accepted
          · rw [if_neg empty] at accepted
            let closed : RunPause :=
              { pause with
                resolution := some resolution.action, instruction := resolution.instruction,
                sendBackToStage := resolution.sendBackToStage, resolvedBy := some userId,
                resolvedAt := some env.now }
            obtain ⟨state, _⟩ := open_answered db run pause closed coherent member listed opened rfl (by intro same; cases same)
            have answering : Answering db run pause closed :=
              ⟨member, state, listed, opened, rfl, rfl, by intro same; cases same⟩
            have present := paused_stored db run coherent member state
            cases worked : resolveWith env (answered db run closed) pause resolution with
            | error error =>
                rw [answered] at worked
                rw [worked] at accepted
                cases accepted
            | ok session =>
                have moved := @resolveWith_moves (fun _ => False) env db run pause closed resolution answering rfl
                  present session worked
                refine ⟨session, closed, ⟨?_, answering, moved.1, rfl, rfl, fun moves => ?_⟩, ?_⟩
                · rw [Attempt.begin, resolvePauseTxn, Function.iterate_succ_apply, Txn.readOnce, found]
                  simp only [if_neg foreign, user, if_neg stranger, if_neg (not_not.mpr opened), if_neg empty]
                  rw [Function.iterate_succ_apply, Txn.readOnce, stored, Function.iterate_succ_apply, Txn.readOnce]
                  rw [answered] at worked
                  rw [worked]
                  rfl
                · refine resolveWith_moving env db run pause closed resolution present (fun chosen => ?_) session worked
                  simpa [Attempt.pausesAgain, chosen] using moves
                · rw [answered] at worked
                  rw [worked] at accepted
                  cases accepted
                  rfl

theorem cancel_accepted (env : Env) (orgId : Uuid) (db after : Db) (coherent : Coherent db) (run : PipelineRun)
    (member : run ∈ db.runs.rows) (pause : RunPause) (listed : pause ∈ run.pauses) (opened : pause.resolvedAt = none)
    (accepted : requestCancel env db orgId run.id = .ok after) :
    ∃ session closed, Accepted db run pause (.cancel env orgId) session closed ∧ after = session.commit := by
  have stored := Table.find?_of_mem db.runs run member
  let closed : RunPause := { pause with resolvedAt := some env.now }
  obtain ⟨state, _⟩ := open_answered db run pause closed coherent member listed opened rfl (by intro same; cases same)
  have answering : Answering db run pause closed :=
    ⟨member, state, listed, opened, rfl, rfl, by intro same; cases same⟩
  have own := getOpenPauseForRun_own db run pause coherent member listed opened
  have present := paused_stored db run coherent member state
  rw [requestCancel, stored] at accepted
  simp only at accepted
  by_cases foreign : run.orgId ≠ orgId
  · rw [if_pos foreign] at accepted
    cases accepted
  · rw [if_neg foreign, state] at accepted
    simp only at accepted
    rw [own] at accepted
    simp only at accepted
    cases worked : cancelPaused env { db := db, run := run } pause with
    | error error =>
        rw [worked] at accepted
        cases accepted
    | ok session =>
        have closes := finishOrCleanup_closes env
          { answered db run closed with
            run := { (answered db run closed).run with state := .running, cancelRequested := true } }
          .cancelled none rfl present
        have turns := finishOrCleanup_turns env _ _ _ session worked
        refine ⟨session, closed, ⟨?_, answering, ⟨_, revived_stopped db run closed true, turns⟩, rfl, rfl, fun _ paused => ?_⟩,
          ?_⟩
        · rw [Attempt.begin, requestCancelTxn, Function.iterate_succ_apply, Txn.readOnce, stored]
          simp only [if_neg foreign, state]
          rw [Function.iterate_succ_apply, Txn.readOnce, stored, Option.bind_some, own]
          simp only
          rw [Function.iterate_succ_apply, Txn.readOnce, worked]
          rfl
        · exact paused_not_closing session.run paused (completes_ensures _ _ closes session worked)
        · rw [worked] at accepted
          cases accepted
          rfl

theorem attempt_reachable (db after : Db) (runId pauseId : Uuid) (reachable : Reachable runEngine db)
    (accepted : attempt.alone db runId pauseId = .ok after) : Reachable runEngine after := by
  cases attempt with
  | resolve env orgId resolution actor =>
      exact reachable_step runEngine db after (.resolvePause env orgId pauseId resolution actor) reachable trivial accepted
  | cancel env orgId =>
      exact reachable_step runEngine db after (.requestCancel env orgId runId) reachable trivial accepted

theorem attempt_accepted (db after : Db) (reachable : Reachable runEngine db) (run : PipelineRun)
    (member : run ∈ db.runs.rows) (pause : RunPause) (listed : pause ∈ run.pauses) (opened : pause.resolvedAt = none)
    (accepted : attempt.alone db run.id pause.id = .ok after) :
    ∃ session closed, Accepted db run pause attempt session closed ∧ after = session.commit := by
  obtain ⟨coherent, books, apart⟩ := reachable_books db reachable
  cases attempt with
  | resolve env orgId resolution actor =>
      exact resolve_accepted env orgId resolution actor db after coherent books apart run member pause listed opened accepted
  | cancel env orgId => exact cancel_accepted env orgId db after coherent run member pause listed opened accepted

theorem attempt_waits (db : Db) (run : PipelineRun) (member : run ∈ db.runs.rows)
    (paused : run.state = .paused) (pauseId : Uuid) : (attempt.begin run.id pauseId).Waits db 3 := by
  cases attempt with
  | resolve env orgId resolution actor =>
      rw [Attempt.begin, resolvePauseTxn, Txn.Waits]
      cases findPause db pauseId with
      | none => trivial
      | some pair =>
          simp only
          by_cases foreign : pair.2.orgId ≠ orgId
          · rw [if_pos foreign]
            trivial
          · rw [if_neg foreign]
            cases actor.userId? with
            | none => trivial
            | some userId =>
                simp only
                by_cases stranger : (!isPauseResponder env userId pair.2.escalationUserIds orgId) = true
                · rw [if_pos stranger]
                  trivial
                · rw [if_neg stranger]
                  by_cases closed : pair.2.resolvedAt ≠ none
                  · rw [if_pos closed]
                    trivial
                  · rw [if_neg closed]
                    by_cases empty : resolution.action = .instruct ∧ resolution.instruction.getD "" = ""
                    · rw [if_pos empty]
                      trivial
                    · rw [if_neg empty, Txn.Waits]
                      cases db.runs.find? pair.1.id with
                      | none => trivial
                      | some row => trivial
  | cancel env orgId =>
      rw [Attempt.begin, requestCancelTxn, Txn.Waits, Table.find?_of_mem db.runs run member]
      simp only
      by_cases foreign : run.orgId ≠ orgId
      · rw [if_pos foreign]
        trivial
      · rw [if_neg foreign, paused]
        simp only
        rw [Txn.Waits]
        cases (db.runs.find? run.id).bind getOpenPauseForRun with
        | none => trivial
        | some pause => trivial

structure Sees (db : Db) (run : PipelineRun) (pause : RunPause) (row : PipelineRun) (seen : RunPause) : Prop where
  found : findPause db pause.id = some (row, seen)
  stored : db.runs.find? run.id = some row
  runOrg : row.orgId = run.orgId
  orgId : seen.orgId = pause.orgId
  escalationUserIds : seen.escalationUserIds = pause.escalationUserIds

theorem denied_once (db : Db) (run row : PipelineRun) (pause seen : RunPause)
    (sees : Sees db run pause row seen) (error : EngineError) (denied : attempt.denied? run pause = some error) :
    (attempt.begin run.id pause.id).readOnce db = .refused error := by
  cases attempt with
  | resolve env orgId resolution actor =>
      rw [Attempt.denied?] at denied
      rw [Attempt.begin, resolvePauseTxn, Txn.readOnce, sees.found]
      simp only
      rw [sees.orgId, sees.escalationUserIds]
      by_cases foreign : pause.orgId ≠ orgId
      · rw [if_pos foreign] at denied ⊢
        cases denied
        rfl
      · rw [if_neg foreign] at denied ⊢
        cases user : actor.userId? with
        | none =>
            rw [user] at denied
            cases denied
            rfl
        | some userId =>
            rw [user] at denied
            simp only at denied ⊢
            by_cases stranger : (!isPauseResponder env userId pause.escalationUserIds orgId) = true
            · rw [if_pos stranger] at denied ⊢
              cases denied
              rfl
            · rw [if_neg stranger] at denied
              cases denied
  | cancel env orgId =>
      rw [Attempt.denied?] at denied
      rw [Attempt.begin, requestCancelTxn, Txn.readOnce, sees.stored]
      simp only
      rw [sees.runOrg]
      by_cases foreign : run.orgId ≠ orgId
      · rw [if_pos foreign] at denied ⊢
        cases denied
        rfl
      · rw [if_neg foreign] at denied
        cases denied

theorem allowed_once (env : Env) (orgId : Uuid) (resolution : PauseResolution) (actor : Actor) (db : Db)
    (run row : PipelineRun) (pause seen : RunPause) (sees : Sees db run pause row seen)
    (allowed : (Attempt.resolve env orgId resolution actor).denied? run pause = none) :
    (seen.resolvedAt ≠ none →
      (resolvePauseTxn env orgId pause.id resolution actor).readOnce db = .refused (.pauseAlreadyResolved pause.id)) ∧
    (seen.resolvedAt = none → resolution.action = .instruct ∧ resolution.instruction.getD "" = "" →
      (resolvePauseTxn env orgId pause.id resolution actor).readOnce db =
        .refused (.invalidPauseResolution "instruct requires a non-empty instruction")) := by
  rw [Attempt.denied?] at allowed
  rw [resolvePauseTxn, Txn.readOnce, sees.found]
  simp only
  rw [sees.orgId, sees.escalationUserIds]
  by_cases foreign : pause.orgId ≠ orgId
  · rw [if_pos foreign] at allowed
    cases allowed
  · rw [if_neg foreign] at allowed ⊢
    cases user : actor.userId? with
    | none =>
        rw [user] at allowed
        cases allowed
    | some userId =>
        rw [user] at allowed
        simp only at allowed ⊢
        by_cases stranger : (!isPauseResponder env userId pause.escalationUserIds orgId) = true
        · rw [if_pos stranger] at allowed
          cases allowed
        · rw [if_neg stranger]
          refine ⟨fun closed => by rw [if_pos closed], fun opened empty => ?_⟩
          rw [if_neg (not_not.mpr opened), if_pos empty]

section Overtaking

variable (db : Db) (run : PipelineRun) (pause : RunPause)

theorem accepted_sees (books : Books db) (apart : Apart db) (attempt : Attempt) (session : Session) (closed : RunPause)
    (accepted : Accepted db run pause attempt session closed) (laterBooks : Books session.commit)
    (laterApart : Apart session.commit) :
    Sees db run pause run pause ∧ Sees session.commit run pause session.run closed := by
  obtain ⟨revived, revives, turns⟩ := accepted.answers
  have answering := accepted.answering
  have stored := turns_stored attempt.env db revived session run answering.member revives.id revives.runs turns
  have id : session.run.id = run.id := (turns_id attempt.env revived session turns).trans revives.id
  have orgId : session.run.orgId = run.orgId := (turns_orgId attempt.env revived session turns).trans revives.orgId
  have inRevived : closed ∈ revived.run.pauses := by
    rw [revives.pauses]
    exact answering_closed db run pause closed answering
  have inLast : closed ∈ session.run.pauses := by
    rcases turns_pauses attempt.env revived session turns with kept | ⟨_, added, shape, _⟩
    · rw [kept]
      exact inRevived
    · rw [shape]
      exact List.mem_cons_of_mem added inRevived
  have found := findPause_own session.commit laterBooks laterApart session.run closed stored inLast
  rw [answering.id] at found
  have row := Table.find?_of_mem session.commit.runs session.run stored
  rw [id] at row
  exact ⟨⟨findPause_own db books apart run pause answering.member answering.paused,
      Table.find?_of_mem db.runs run answering.member, rfl, rfl, rfl⟩,
    ⟨found, row, orgId, accepted.orgId, accepted.escalationUserIds⟩⟩

theorem unpaused_none (next : PipelineRun) (coherent : Coherent db) (books : Books db) (member : next ∈ db.runs.rows)
    (moved : next.state ≠ .paused) : getOpenPauseForRun next = none := by
  have kept := book_bookkept db next coherent member (books next member)
  cases open_ : getOpenPauseForRun next with
  | none => rfl
  | some other =>
      obtain ⟨listed, opened⟩ := getOpenPauseForRun_some next other open_
      exact absurd (kept.settled other listed (by rw [RunPause.isOpen, opened]; rfl)).1 moved

theorem yields_refused (first attempt : Attempt) (session : Session) (closed : RunPause)
    (accepted : Accepted db run pause first session closed) (sees : Sees db run pause run pause)
    (later : Sees session.commit run pause session.run closed) (coherent : Coherent session.commit)
    (books : Books session.commit) (reads : Nat) (error : EngineError)
    (yields : Yields first run pause attempt reads error) :
    ((Txn.readOnce db)^[reads] (attempt.begin run.id pause.id)).readOnce session.commit = .refused error := by
  have stays (txn : EngineTxn) (turns : Nat) (refused : txn.readOnce db = .refused error) :
      ((Txn.readOnce db)^[turns + 1] txn).readOnce session.commit = .refused error := by
    rw [Function.iterate_succ_apply, refused, Function.iterate_fixed (done_once db (.refused error : EngineTxn) trivial)]
    rfl
  cases yields with
  | denied _ _ _ denied =>
      cases reads with
      | zero => exact denied_once attempt session.commit run session.run pause closed later error denied
      | succ turns => exact stays _ turns (denied_once attempt db run run pause pause sees error denied)
  | late env orgId resolution actor allowed =>
      exact (allowed_once env orgId resolution actor session.commit run session.run pause closed later allowed).1
        accepted.answering.resolved
  | empty env orgId resolution actor turns allowed instructs =>
      exact stays _ turns ((allowed_once env orgId resolution actor db run run pause pause sees allowed).2
        accepted.answering.opened instructs)
  | answered env orgId allowed moves =>
      have gone := unpaused_none session.commit session.run coherent books (Table.find?_some _ _ _ later.stored).1
        (accepted.moves moves)
      rw [Attempt.denied?] at allowed
      rw [Attempt.begin, requestCancelTxn, Function.iterate_one, Txn.readOnce, sees.stored]
      simp only
      by_cases foreign : run.orgId ≠ orgId
      · rw [if_pos foreign] at allowed
        cases allowed
      · rw [if_neg foreign, accepted.answering.state]
        simp only
        rw [Txn.readOnce, later.stored, Option.bind_some, gone]

theorem first_commits (flush : Db → Session → Db)
    (flushes : ∀ db (txn : EngineTxn) session claims, txn.settle db = .ready session claims → flush db session = session.commit)
    (attempt : Side → Attempt) (side : Side) (session : Session) (closed : RunPause)
    (accepted : Accepted db run pause (attempt side) session closed) (before : List Side)
    (turns : before.count side = 3) (ahead : before.count side.other ≤ 3) :
    ∃ race : Race Db Session (Option Uuid) EngineError,
      (Race.mk db fun side => (attempt side).begin run.id pause.id).run flush (before ++ [side]) = race ∧
      race.state = session.commit ∧ race.party side = .committed (some pause.id) ∧
      race.party side.other =
        (Txn.readOnce db)^[before.count side.other] ((attempt side.other).begin run.id pause.id) := by
  let start : Race Db Session (Option Uuid) EngineError := ⟨db, fun side => (attempt side).begin run.id pause.id⟩
  have below (who : Side) : before.count who ≤ 3 := by
    by_cases same : who = side
    · rw [same]
      exact Nat.le_of_eq turns
    · rw [other_of_ne side who same]
      exact ahead
  have reads := run_reads flush start before fun who turn under =>
    waits_unready db 3 _ (attempt_waits (attempt who) db run accepted.answering.member accepted.answering.state pause.id) turn
      (Nat.lt_of_lt_of_le under (below who))
  have own : (start.run flush before).party side = .ready session (some pause.id) := by
    rw [reads]
    simp only [turns]
    exact accepted.passes
  have settled : (Txn.ready session (some pause.id) : EngineTxn).settle db = .ready session (some pause.id) := rfl
  refine ⟨_, rfl, ?_, ?_, ?_⟩
  · rw [run_append]
    rw [Race.run, List.foldl_cons, List.foldl_nil, move_ready flush _ side session (some pause.id) own, reads]
    exact flushes db _ session (some pause.id) settled
  · rw [run_append]
    rw [Race.run, List.foldl_cons, List.foldl_nil, move_ready flush _ side session (some pause.id) own]
    exact Function.update_self _ _ _
  · rw [run_append]
    rw [Race.run, List.foldl_cons, List.foldl_nil, move_ready flush _ side session (some pause.id) own]
    simp only [Function.update_of_ne (other_ne side)]
    rw [reads]

-- Two calls on one open pause. The other one loses when its deciding read comes
-- after the first commit, and takes effect too when all its reads came before.
theorem pause_resolved_once (flush : Db → Session → Db)
    (flushes : ∀ db (txn : EngineTxn) session claims, txn.settle db = .ready session claims → flush db session = session.commit)
    (reachable : Reachable runEngine db) (member : run ∈ db.runs.rows) (listed : pause ∈ run.pauses)
    (opened : pause.resolvedAt = none) (attempt : Side → Attempt) (side : Side) (alone : Db)
    (accepted : (attempt side).alone db run.id pause.id = .ok alone) (before after : List Side)
    (turns : before.count side = 3) (ahead : before.count side.other ≤ 3) (last : side.other ∈ after) :
    let outcome := (Race.mk db fun side => (attempt side).begin run.id pause.id).run flush (before ++ side :: after)
    outcome.party side = .committed (some pause.id) ∧
      (∀ error, Yields (attempt side) run pause (attempt side.other) (before.count side.other) error →
        outcome.party side.other = .refused error ∧ outcome.state = alone) ∧
      (before.count side.other = 3 → ∀ both, (attempt side.other).alone db run.id pause.id = .ok both →
        outcome.party side.other = .committed (some pause.id)) := by
  obtain ⟨session, closed, passed, isAlone⟩ :=
    attempt_accepted (attempt side) db alone reachable run member pause listed opened accepted
  have later := attempt_reachable (attempt side) db alone run.id pause.id reachable accepted
  rw [isAlone] at later ⊢
  obtain ⟨_, books, apart⟩ := reachable_books db reachable
  obtain ⟨laterCoherent, laterBooks, laterApart⟩ := reachable_books session.commit later
  obtain ⟨sees, seesLater⟩ :=
    accepted_sees db run pause books apart (attempt side) session closed passed laterBooks laterApart
  obtain ⟨race, isRace, state, own, other⟩ :=
    first_commits db run pause flush flushes attempt side session closed passed before turns ahead
  have done : (race.party side).Done := by
    rw [own]
    trivial
  have parts : before ++ side :: after = (before ++ [side]) ++ after := by
    rw [List.append_assoc, List.singleton_append]
  have refuses (error : EngineError)
      (yields : Yields (attempt side) run pause (attempt side.other) (before.count side.other) error) :
      race.run flush after = ⟨race.state, Function.update race.party side.other (.refused error)⟩ := by
    refine refused_run flush side race error done ?_ after last
    rw [other, state]
    exact yields_refused db run pause (attempt side) (attempt side.other) session closed passed sees seesLater
      laterCoherent laterBooks _ error yields
  simp only [parts, run_append, isRace]
  refine ⟨?_, fun error yields => ?_, fun reads both bothAccepted => ?_⟩
  · rw [done_kept flush race side done after]
    exact own
  · rw [refuses error yields]
    exact ⟨Function.update_self _ _ _, state⟩
  · obtain ⟨second, secondClosed, secondPassed, _⟩ :=
      attempt_accepted (attempt side.other) db both reachable run member pause listed opened bothAccepted
    rw [reads, secondPassed.passes] at other
    rw [ready_run flush side race second (some pause.id) done other after last]
    exact Function.update_self _ _ _

def sampleAnswers (side : Side) : Attempt :=
  .resolve (sampleEnv (sampleSkills none .alwaysHitl)) 1
    { action := if side = .left then .approve else .kill, instruction := none, sendBackToStage := none } sampleActor

def sampleRace : Race Db Session (Option Uuid) EngineError := ⟨samplePaused, fun side => (sampleAnswers side).begin 10 17⟩

theorem sampleRace_refused :
    (sampleRace.run (fun _ session => session.commit) [.left, .left, .left, .left, .right]).party .right =
      .refused (.pauseAlreadyResolved 17) := by
  obtain ⟨run, found, pause, listed, opened, named, allowed⟩ :
      ∃ run, samplePaused.runs.find? 10 = some run ∧ ∃ pause ∈ run.pauses, pause.resolvedAt = none ∧ pause.id = 17 ∧
        (sampleAnswers .right).denied? run pause = none := ⟨_, rfl, _, List.mem_cons_self, rfl, rfl, rfl⟩
  obtain ⟨member, id⟩ := Table.find?_some _ _ _ found
  obtain ⟨alone, accepted⟩ : ∃ alone, (sampleAnswers .left).alone samplePaused 10 17 = .ok alone := ⟨_, rfl⟩
  have lost := (pause_resolved_once samplePaused run pause (fun _ session => session.commit) (fun _ _ _ _ _ => rfl)
    samplePaused_reachable member listed opened sampleAnswers .left alone (by rw [id, named]; exact accepted)
    [.left, .left, .left] [.right] rfl (by decide) List.mem_cons_self).2.1 _ (.late _ _ _ _ allowed)
  rw [id, named] at lost
  exact lost.1

-- Both answers pass the check, and each has its own effect.
theorem sampleRace_both :
    let outcome := sampleRace.run (fun _ session => session.commit) [.left, .left, .left, .right, .right, .right, .left, .right]
    outcome.party .left = .committed (some 17) ∧ outcome.party .right = .committed (some 17) ∧
      ((sampleAnswers .left).alone samplePaused 10 17).map (fun db => (db.messagesFor 10).length) = .ok 1 ∧
      ((sampleAnswers .right).alone samplePaused 10 17).map (fun db => db.agentCommands.length) =
        .ok (samplePaused.agentCommands.length + 1) := ⟨rfl, rfl, rfl, rfl⟩

end Overtaking

end Yaaos.Pipelines
