import Yaaos.Pipelines.Progress

set_option autoImplicit false

namespace Yaaos.Pipelines

open Yaaos.Base

structure ActivityRow where
  agentCommandId : Uuid
  payload : List Json

-- The engine beside the rows that the run sink writes. `reported` only tells what happened: the
-- commands of the invocations' terminal events that brought activity, one for each event.
structure Recorder where
  db : Db
  reported : List Uuid
  activity : List ActivityRow

inductive RecorderLabel where
  | engine (label : Label)
  | terminal (event : TerminalEvent) (activity : Option (List Json))

def Label.isTerminal : Label → Bool
  | .terminalEvent _ => true
  | _ => false

def Db.invoked (db : Db) (commandId : Uuid) : Bool := db.codingAgentRuns.any fun row => row.agentCommandId == commandId

def finalizeRun (db : Db) (commandId : Uuid) (activity : Option (List Json)) (rows : List ActivityRow) :
    List ActivityRow :=
  match activity with
  | some payload => if db.invoked commandId then rows ++ [{ agentCommandId := commandId, payload := payload }] else rows
  | none => rows

-- A second terminal event of a command is recorded as the first one was.
def recorderStep (recorder : Recorder) : RecorderLabel → Except EngineError Recorder
  | .engine label => (engineStep recorder.db label).map fun db => { recorder with db := db }
  | .terminal event activity => (recordTerminalEvent recorder.db event).map fun db =>
      { db := db
        reported :=
          if activity.isSome && db.invoked event.commandId then recorder.reported ++ [event.commandId] else recorder.reported
        activity := finalizeRun db event.commandId activity recorder.activity }

def recorded : Machine Recorder RecorderLabel EngineError where
  initial recorder :=
    Fresh recorder.db ∧ recorder.db.codingAgentRuns = [] ∧ recorder.reported = [] ∧ recorder.activity = []
  allowed recorder label := match label with
    | .engine label => label.isTerminal = false ∧ label.Allowed recorder.db
    | .terminal _ _ => True
  step := recorderStep

section Lookup

inductive LookupError where
  | multipleResultsFound

def oneOrNone {α : Type} : List α → Except LookupError (Option α)
  | [] => .ok none
  | [row] => .ok (some row)
  | _ :: _ :: _ => .error .multipleResultsFound

theorem oneOrNone_isOk {α : Type} (rows : List α) : (oneOrNone rows).isOk = true ↔ rows.length ≤ 1 := by
  cases rows with
  | nil => simp [oneOrNone, Except.isOk, Except.toBool]
  | cons first rest =>
      cases rest with
      | nil => simp [oneOrNone, Except.isOk, Except.toBool]
      | cons second others => simp [oneOrNone, Except.isOk, Except.toBool]

theorem oneOrNone_head {α : Type} (rows : List α) (few : rows.length ≤ 1) : oneOrNone rows = .ok rows.head? := by
  cases rows with
  | nil => rfl
  | cons first rest =>
      have empty : rest = [] := List.eq_nil_of_length_eq_zero (by simpa using few)
      rw [empty]
      rfl

def Db.stageRuns (db : Db) (runId stageExecutionId : Uuid) : List CodingAgentRun :=
  db.codingAgentRuns.filter fun row => row.runId == runId && row.stageExecutionId == stageExecutionId

variable (recorder : Recorder) (runId stageExecutionId : Uuid)

def getRunIdForStage : Except LookupError (Option Uuid) :=
  oneOrNone ((recorder.db.stageRuns runId stageExecutionId).map CodingAgentRun.agentCommandId)

def Recorder.logsOf (commandId : Uuid) : List (List Json) :=
  (recorder.activity.filter fun row => row.agentCommandId == commandId).map ActivityRow.payload

def getStageActivity : Except LookupError (Option (List Json)) :=
  match getRunIdForStage recorder runId stageExecutionId with
  | .error error => .error error
  | .ok none => .ok none
  | .ok (some commandId) => oneOrNone (recorder.logsOf commandId)

structure StageReadable : Prop where
  run : (getRunIdForStage recorder runId stageExecutionId).isOk = true
  activity : (getStageActivity recorder runId stageExecutionId).isOk = true
  found : ∀ row ∈ recorder.db.stageRuns runId stageExecutionId, recorder.logsOf row.agentCommandId ≠ [] →
    ∃ other ∈ recorder.db.stageRuns runId stageExecutionId, ∃ log ∈ recorder.logsOf other.agentCommandId,
      getStageActivity recorder runId stageExecutionId = .ok (some log)

end Lookup

section Readable

def Recorder.Kept (recorder : Recorder) : Prop := recorder.activity.map ActivityRow.agentCommandId = recorder.reported

theorem finalizeRun_kept (recorder : Recorder) (db : Db) (commandId : Uuid) (activity : Option (List Json))
    (kept : recorder.Kept) : (finalizeRun db commandId activity recorder.activity).map ActivityRow.agentCommandId =
      if activity.isSome && db.invoked commandId then recorder.reported ++ [commandId] else recorder.reported := by
  cases activity with
  | none => exact kept
  | some payload =>
      rw [finalizeRun, Option.isSome_some, Bool.true_and]
      split
      · rw [List.map_append, kept]
        rfl
      · exact kept

theorem recorderStep_kept (recorder next : Recorder) (label : RecorderLabel) (kept : recorder.Kept)
    (taken : recorderStep recorder label = .ok next) : next.Kept := by
  cases label with
  | engine label =>
      simp only [recorderStep] at taken
      cases done : engineStep recorder.db label with
      | error error =>
          rw [done] at taken
          cases taken
      | ok db =>
          rw [done] at taken
          cases taken
          exact kept
  | terminal event activity =>
      simp only [recorderStep] at taken
      cases done : recordTerminalEvent recorder.db event with
      | error error =>
          rw [done] at taken
          cases taken
      | ok db =>
          rw [done] at taken
          cases taken
          exact finalizeRun_kept recorder db event.commandId activity kept

theorem reachable_kept (recorder : Recorder) (reachable : Reachable recorded recorder) : recorder.Kept := by
  refine reachable_invariant recorded Recorder.Kept ⟨?_, ?_⟩ recorder reachable
  · rintro state ⟨_, _, silent, empty⟩
    rw [Recorder.Kept, silent, empty]
    rfl
  · intro state label next kept _ taken
    exact recorderStep_kept state next label kept taken

variable {recorder : Recorder}

theorem kept_logs (kept : recorder.Kept) (commandId : Uuid) :
    (recorder.logsOf commandId).length = recorder.reported.count commandId := by
  rw [← kept, Recorder.logsOf, List.length_map, List.count, List.countP_map, List.countP_eq_length_filter]
  rfl

-- One invocation of the stage, and one terminal event of it with activity.
structure InvokedOnce (recorder : Recorder) (runId stageExecutionId : Uuid) : Prop where
  invoked : (recorder.db.stageRuns runId stageExecutionId).length ≤ 1
  reported : ∀ row ∈ recorder.db.stageRuns runId stageExecutionId, recorder.reported.count row.agentCommandId ≤ 1

theorem alone_activity (runId stageExecutionId : Uuid) (row : CodingAgentRun)
    (alone : recorder.db.stageRuns runId stageExecutionId = [row]) :
    getStageActivity recorder runId stageExecutionId = oneOrNone (recorder.logsOf row.agentCommandId) := by
  rw [getStageActivity, getRunIdForStage, alone]
  rfl

theorem once_readable (kept : recorder.Kept) (runId stageExecutionId : Uuid)
    (once : InvokedOnce recorder runId stageExecutionId) : StageReadable recorder runId stageExecutionId := by
  have run : getRunIdForStage recorder runId stageExecutionId =
      .ok ((recorder.db.stageRuns runId stageExecutionId).map CodingAgentRun.agentCommandId).head? :=
    oneOrNone_head _ (by rw [List.length_map]; exact once.invoked)
  cases rows : recorder.db.stageRuns runId stageExecutionId with
  | nil =>
      rw [rows] at run
      have activity : getStageActivity recorder runId stageExecutionId = .ok none := by
        rw [getStageActivity, run]
        rfl
      refine ⟨by rw [run]; rfl, by rw [activity]; rfl, fun row member => ?_⟩
      rw [rows] at member
      cases member
  | cons row others =>
      have alone : others = [] := by
        have few := once.invoked
        rw [rows] at few
        exact List.eq_nil_of_length_eq_zero (by simpa using few)
      subst alone
      have few : (recorder.logsOf row.agentCommandId).length ≤ 1 := by
        rw [kept_logs kept]
        exact once.reported row (by rw [rows]; exact List.mem_singleton_self row)
      have activity := (alone_activity runId stageExecutionId row rows).trans (oneOrNone_head _ few)
      refine ⟨by rw [run]; rfl, by rw [activity]; rfl, fun own member logged => ?_⟩
      rw [rows] at member ⊢
      rw [List.mem_singleton.mp member] at logged
      cases logs : recorder.logsOf row.agentCommandId with
      | nil => exact absurd logs logged
      | cons log rest =>
          refine ⟨row, List.mem_singleton_self row, log, by rw [logs]; exact List.mem_cons_self, ?_⟩
          rw [activity, logs]
          rfl

theorem readable_once (kept : recorder.Kept) (runId stageExecutionId : Uuid)
    (readable : StageReadable recorder runId stageExecutionId) : InvokedOnce recorder runId stageExecutionId := by
  have few := (oneOrNone_isOk _).mp readable.run
  rw [List.length_map] at few
  refine ⟨few, fun row member => ?_⟩
  have alone : recorder.db.stageRuns runId stageExecutionId = [row] := by
    obtain ⟨only, same⟩ := List.length_eq_one_iff.mp (Nat.le_antisymm few (List.length_pos_of_mem member))
    rw [same] at member ⊢
    rw [List.mem_singleton.mp member]
  have returned := readable.activity
  rw [alone_activity runId stageExecutionId row alone] at returned
  rw [← kept_logs kept]
  exact (oneOrNone_isOk _).mp returned

theorem stageActivity_readable (recorder : Recorder) (reachable : Reachable recorded recorder)
    (runId stageExecutionId : Uuid) :
    StageReadable recorder runId stageExecutionId ↔ InvokedOnce recorder runId stageExecutionId :=
  ⟨readable_once (reachable_kept recorder reachable) runId stageExecutionId,
    once_readable (reachable_kept recorder reachable) runId stageExecutionId⟩

end Readable

def loopedReview : ReviewConfig :=
  { skillName := "review", maxIterations := 3, atLeastOne := by decide, atMostThree := by decide }

def loopedEnv : Env := sampleEnv (sampleSkills (some loopedReview) .alwaysProceed)

def workingSteps : List RecorderLabel :=
  [.engine (.createTicket sampleTicket), .engine (.startRun loopedEnv 1 2 3 sampleKickoff none),
    .engine (.deliver loopedEnv 0), .engine (.deliver loopedEnv 0), .terminal (sampleEvent 13 "success" []) none,
    .engine (.deliver loopedEnv 0), .engine (.deliver loopedEnv 0),
    .terminal (sampleEvent 15 "success" sampleOutputs) (some [])]

def Recorder.empty : Recorder := { db := .empty 10, reported := [], activity := [] }

theorem working_commits : recorded.Commits .empty workingSteps :=
  ⟨⟨rfl, trivial⟩, rfl, ⟨rfl, _, rfl, rfl⟩, rfl, ⟨rfl, trivial⟩, rfl, ⟨rfl, trivial⟩, rfl, trivial, rfl,
    ⟨rfl, trivial⟩, rfl, ⟨rfl, trivial⟩, rfl, trivial, rfl, trivial⟩

theorem working_reachable : Reachable recorded (recorded.after .empty workingSteps) :=
  ⟨.empty, workingSteps, ⟨⟨rfl, rfl, rfl, rfl, rfl, rfl⟩, rfl, rfl, rfl⟩, commits_path recorded .empty workingSteps working_commits⟩

theorem working_readable : StageReadable (recorded.after .empty workingSteps) 10 14 :=
  (stageActivity_readable _ working_reachable 10 14).mpr ⟨by decide +kernel, by decide +kernel⟩

-- The output of the main invocation is reviewed: the stage has a second invocation.
theorem reviewed_unreadable :
    ¬ ∀ (recorder : Recorder), Reachable recorded recorder → ∀ runId stageExecutionId,
      StageReadable recorder runId stageExecutionId := by
  intro always
  have reviewed := reachable_committed recorded (.engine (.deliver loopedEnv 0)) _ working_reachable ⟨rfl, trivial⟩
  have readable := always _ reviewed 10 14
  exact absurd readable.run (by decide +kernel)

end Yaaos.Pipelines
