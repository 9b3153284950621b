import Yaaos.Agent.Supervisor
import Mathlib.Logic.Function.Basic

set_option autoImplicit false

namespace Yaaos.Agent.Pool

open Yaaos.Base

-- What a workspace process writes: a frame of progress or the one that ends a
-- command. `source` is the call whose command it read, and is not on the wire.
inductive Body where
  | progress (outputs : String)
  | terminal (outcome : Outcome)
  deriving DecidableEq

structure PipeEvent where
  source : Nat
  commandId : String
  completionToken : String
  body : Body
  deriving DecidableEq

def emit (header : CommandHeader) (source : Nat) (body : Body) : PipeEvent :=
  { source := source, commandId := header.commandId, completionToken := header.completionToken, body := body }

def PipeEvent.isTerminal (event : PipeEvent) : Bool :=
  match event.body with
  | .progress _ => false
  | .terminal _ => true

-- The goroutines of one `RunStreaming`: its two readers, and the one that waits for
-- the subprocess once both are done. It returns after that one, also when its
-- context ends first.
structure Streaming where
  stdoutDone : Bool
  stderrDone : Bool
  waitDone : Bool
  deriving DecidableEq

def Streaming.begun : Streaming := { stdoutDone := false, stderrDone := false, waitDone := false }

-- The `Run` loop between two commands, or in the handler of one.
inductive Child where
  | idle
  | running (source : Nat) (streaming : Option Streaming)
  | exited
  deriving DecidableEq

structure Runner where
  stdinOpen : Bool
  inbox : List Nat
  child : Child
  stdout : List PipeEvent
  written : List PipeEvent

def Runner.spawned : Runner := { stdinOpen := true, inbox := [], child := .idle, stdout := [], written := [] }

inductive ChildAct where
  | readCommand
  | startStreaming
  | stdoutLine (line : String)
  | stdoutDone
  | stderrDone
  | wait
  | stopStreaming
  | returns (outcome : Outcome)
  | exit

inductive PoolError where
  | noSuchCall
  | noRunner
  | slotLocked
  | blocked
  | returned
  | notRunning
  deriving DecidableEq

def Runner.write (runner : Runner) (event : PipeEvent) : Runner :=
  { runner with stdout := runner.stdout ++ [event], written := runner.written ++ [event] }

def Runner.setChild (runner : Runner) (child : Child) : Runner := { runner with child := child }

-- Only the stdout reader emits, and the handler returns after its subprocess was
-- waited for. A process that exits leaves what it wrote in the pipe.
def childStep (header : Nat → CommandHeader) (runner : Runner) : ChildAct → Except PoolError Runner
  | .readCommand =>
    match runner.child, runner.inbox with
    | .idle, source :: rest => .ok { runner with inbox := rest, child := .running source none }
    | _, _ => .error .blocked
  | .startStreaming =>
    match runner.child with
    | .running source none => .ok (runner.setChild (.running source (some .begun)))
    | _ => .error .notRunning
  | .stdoutLine line =>
    match runner.child with
    | .running source (some streaming) =>
      if streaming.stdoutDone then .error .notRunning
      else .ok (runner.write (emit (header source) source (.progress line)))
    | _ => .error .notRunning
  | .stdoutDone =>
    match runner.child with
    | .running source (some streaming) =>
      .ok (runner.setChild (.running source (some { streaming with stdoutDone := true })))
    | _ => .error .notRunning
  | .stderrDone =>
    match runner.child with
    | .running source (some streaming) =>
      .ok (runner.setChild (.running source (some { streaming with stderrDone := true })))
    | _ => .error .notRunning
  | .wait =>
    match runner.child with
    | .running source (some streaming) =>
      if streaming.stdoutDone && streaming.stderrDone then
        .ok (runner.setChild (.running source (some { streaming with waitDone := true })))
      else .error .blocked
    | _ => .error .notRunning
  | .stopStreaming =>
    match runner.child with
    | .running source (some streaming) =>
      if streaming.waitDone then .ok (runner.setChild (.running source none)) else .error .blocked
    | _ => .error .notRunning
  | .returns outcome =>
    match runner.child with
    | .running source none =>
      .ok ((runner.write (emit (header source) source (.terminal outcome))).setChild .idle)
    | _ => .error .notRunning
  | .exit => .ok (runner.setChild .exited)

-- `holder` is the call that holds `slotMu`.
structure Record where
  state : WorkspaceState
  path : String
  currentCommandId : String
  runner : Option Nat
  holder : Option Nat

def Record.reserved : Record :=
  { state := .active, path := "", currentCommandId := "", runner := none, holder := none }

structure Answer where
  event : AgentEvent
  source : Option Nat
  deriving DecidableEq

-- Where a Dispatch stands. Each step is one critical section of `Pool.mu`, a spawn,
-- one read or write of a Send, a Close, or the lock or unlock of `slotMu`.
inductive Stage where
  | unborn
  | entering
  | spawning (record : Nat)
  | assigning (record runner : Nat)
  | finding
  | waiting (record : Nat)
  | locked (record : Nat)
  | ready (record : Nat)
  | reading (record runner : Nat) (cancelled : Bool)
  | failed (record : Nat) (reason : String)
  | removing (record : Nat) (answer : Answer)
  | closing (record : Nat) (answer : Answer)
  | storing (record : Nat) (answer : Answer)
  | clearing (record : Nat) (answer : Answer)
  | unlocking (record : Nat) (answer : Answer)
  | returned (answer : Answer)
  deriving DecidableEq

structure Call where
  header : CommandHeader
  stage : Stage

def Call.unborn : Call :=
  { header := { kind := .configUpdate, commandId := "", workspaceId := "", completionToken := "" }, stage := .unborn }

-- The pool, the processes it spawned and the goroutines in it. `doomed` holds the
-- records that a CloseAll took out of the registry and has not closed.
structure State where
  registry : List (String × Nat)
  records : Nat → Record
  recordCount : Nat
  runners : Nat → Runner
  runnerCount : Nat
  calls : Nat → Call
  callCount : Nat
  doomed : List Nat
  forwarded : List (Nat × PipeEvent)

-- What a step finds outside. A write that fails may have left the command in the
-- pipe, and `expired` is the deadline of the command once it has passed.
structure Env where
  spawnError : Option String
  writeError : Option String
  delivered : Bool
  readError : Option String
  contextError : String
  expired : Option String

def State.setRecord (state : State) (index : Nat) (record : Record) : State :=
  { state with records := Function.update state.records index record }

def State.setRunner (state : State) (index : Nat) (runner : Runner) : State :=
  { state with runners := Function.update state.runners index runner }

def State.stand (state : State) (index : Nat) (stage : Stage) : State :=
  { state with calls := Function.update state.calls index { state.calls index with stage := stage } }

def State.lookup (state : State) (workspaceId : String) : Option Nat := state.registry.lookup workspaceId

def State.change (state : State) (workspaceId : String) (next : Record → Record) : State :=
  match state.lookup workspaceId with
  | none => state
  | some record => state.setRecord record (next (state.records record))

def State.remove (state : State) (workspaceId : String) : State :=
  { state with registry := state.registry.filter fun entry => entry.1 ≠ workspaceId }

def State.activeCount (state : State) : Nat :=
  (state.registry.filter fun entry => (state.records entry.2).state = .active).length

def synthetic (header : CommandHeader) (reason : String) : Answer :=
  { event := failureEvent header reason, source := none }

def State.active (state : State) (workspaceId : String) : Bool :=
  (state.lookup workspaceId).any fun record => (state.records record).state = .active

def reserveActiveSlot (maxWorkspaces : Nat) (state : State) (index : Nat) (header : CommandHeader) : State :=
  if state.active header.workspaceId then state.stand index .finding
  else if 0 < maxWorkspaces ∧ maxWorkspaces ≤ state.activeCount then
    state.stand index (.returned (synthetic header "cap reached"))
  else
    { (state.remove header.workspaceId).setRecord state.recordCount .reserved with
      registry := (header.workspaceId, state.recordCount) :: (state.remove header.workspaceId).registry
      recordCount := state.recordCount + 1 }.stand index (.spawning state.recordCount)

def enter (maxWorkspaces : Nat) (state : State) (index : Nat) (header : CommandHeader) : State :=
  if header.workspaceId = "" then state.stand index (.returned (synthetic header "missing workspace_id"))
  else if header.kind = .provisionWorkspace then reserveActiveSlot maxWorkspaces state index header
  else state.stand index .finding

def spawn (env : Env) (state : State) (index : Nat) (header : CommandHeader) (record : Nat) : State :=
  match env.spawnError with
  | some reason => (state.remove header.workspaceId).stand index (.returned (synthetic header ("spawn: " ++ reason)))
  | none =>
    { state.setRunner state.runnerCount .spawned with runnerCount := state.runnerCount + 1 }.stand index
      (.assigning record state.runnerCount)

def assignRunner (state : State) (workspaceId : String) (runner : Nat) : State :=
  state.change workspaceId fun record => { record with runner := some runner }

def lookupSendable (state : State) (workspaceId : String) : Option Nat :=
  (state.lookup workspaceId).filter fun record =>
    (state.records record).state = .active && (state.records record).runner.isSome

def find (state : State) (index : Nat) (header : CommandHeader) : State :=
  match lookupSendable state header.workspaceId with
  | none => state.stand index (.returned (synthetic header
      ("no workspace runner: " ++ header.workspaceId ++ " (kind=" ++ header.kind.value ++ ")")))
  | some record => state.stand index (.waiting record)

def lockSlot (state : State) (index record : Nat) : Except PoolError State :=
  if (state.records record).holder.isSome then .error .slotLocked
  else .ok ((state.setRecord record { state.records record with holder := some index }).stand index (.locked record))

def setCommandId (state : State) (workspaceId commandId : String) : State :=
  state.change workspaceId fun record => { record with currentCommandId := commandId }

def markDefunct (state : State) (workspaceId : String) : State :=
  state.change workspaceId fun record => { record with state := .defunct }

def setPath (state : State) (workspaceId path : String) : State :=
  state.change workspaceId fun record => { record with path := path }

def sendFailure (env : Env) (header : CommandHeader) (error : String) : String :=
  match env.expired with
  | some timeout => "timeout: " ++ header.kind.value ++ " exceeded " ++ timeout ++ " wall-clock"
  | none => "runner: " ++ error

def beginSend (env : Env) (state : State) (index record : Nat) (header : CommandHeader) : Except PoolError State :=
  match (state.records record).runner with
  | none => .error .noRunner
  | some runner =>
    let process := state.runners runner
    if process.stdinOpen then
      match env.writeError with
      | none => .ok ((state.setRunner runner { process with inbox := process.inbox ++ [index] }).stand index
          (.reading record runner false))
      | some reason =>
        let left := if env.delivered then { process with inbox := process.inbox ++ [index] } else process
        .ok ((state.setRunner runner left).stand index (.failed record (sendFailure env header ("write command: " ++ reason))))
    else .ok (state.stand index (.failed record (sendFailure env header "write command: write |1: file already closed")))

def answerOf (event : PipeEvent) (outcome : Outcome) : Answer :=
  { event := { commandId := event.commandId, outcome := outcome, completionToken := event.completionToken }
    source := some event.source }

def endSend (state : State) (index record : Nat) (header : CommandHeader) (answer : Answer) : State :=
  match header.kind with
  | .cleanupWorkspace => state.stand index (.removing record answer)
  | .provisionWorkspace => state.stand index (.storing record answer)
  | _ => state.stand index (.clearing record answer)

-- The reader goes on after the context is done, until its pipe is closed, and what it
-- reads last is then dropped.
def readEvent (env : Env) (state : State) (index record runner : Nat) (cancelled : Bool) (header : CommandHeader) :
    Except PoolError State :=
  match env.readError with
  | some reason =>
    let error := if cancelled then env.contextError else "read event: " ++ reason
    .ok (state.stand index (.failed record (sendFailure env header error)))
  | none =>
    let process := state.runners runner
    match process.stdout with
    | [] => .error .blocked
    | event :: rest =>
      let read := state.setRunner runner { process with stdout := rest }
      match event.body with
      | .progress _ => .ok { read with forwarded := read.forwarded ++ [(index, event)] }
      | .terminal outcome =>
        if cancelled then .ok (read.stand index (.failed record (sendFailure env header env.contextError)))
        else .ok (endSend read index record header (answerOf event outcome))

def closeRunner (state : State) (record : Nat) : State :=
  match (state.records record).runner with
  | none => state
  | some runner => state.setRunner runner { state.runners runner with stdinOpen := false }

def provisionedPath : Outcome → Option String
  | .success outputs => (outputs.lookup "path").filter fun path => path ≠ ""
  | .failure _ => none

def advance (maxWorkspaces : Nat) (env : Env) (state : State) (index : Nat) : Except PoolError State :=
  let header := (state.calls index).header
  match (state.calls index).stage with
  | .unborn => .error .noSuchCall
  | .entering => .ok (enter maxWorkspaces state index header)
  | .spawning record => .ok (spawn env state index header record)
  | .assigning _ runner => .ok ((assignRunner state header.workspaceId runner).stand index .finding)
  | .finding => .ok (find state index header)
  | .waiting record => lockSlot state index record
  | .locked record => .ok ((setCommandId state header.workspaceId header.commandId).stand index (.ready record))
  | .ready record => beginSend env state index record header
  | .reading record runner cancelled => readEvent env state index record runner cancelled header
  | .failed record reason =>
    .ok ((markDefunct state header.workspaceId).stand index (.closing record (synthetic header reason)))
  | .removing record answer => .ok ((state.remove header.workspaceId).stand index (.closing record answer))
  | .closing record answer => .ok ((closeRunner state record).stand index (.clearing record answer))
  | .storing record answer =>
    match provisionedPath answer.event.outcome with
    | none => .ok (state.stand index (.clearing record answer))
    | some path => .ok ((setPath state header.workspaceId path).stand index (.clearing record answer))
  | .clearing record answer =>
    .ok ((setCommandId state header.workspaceId "").stand index (.unlocking record answer))
  | .unlocking record answer =>
    .ok ((state.setRecord record { state.records record with holder := none }).stand index (.returned answer))
  | .returned _ => .error .returned

inductive Label where
  | dispatch (header : CommandHeader)
  | advance (index : Nat) (env : Env)
  | cancel (index : Nat)
  | child (runner : Nat) (act : ChildAct)
  | reap (workspaceId : String)
  | closeAll
  | closeNext (record : Nat)

def closeAll (state : State) : State :=
  { state with registry := [], doomed := state.doomed ++ state.registry.map Prod.snd }

def step (maxWorkspaces : Nat) (state : State) : Label → Except PoolError State
  | .dispatch header =>
    .ok { state with
      calls := Function.update state.calls state.callCount { header := header, stage := .entering }
      callCount := state.callCount + 1 }
  | .advance index env => advance maxWorkspaces env state index
  | .cancel index =>
    match (state.calls index).stage with
    | .reading record runner false => .ok (state.stand index (.reading record runner true))
    | _ => .error .notRunning
  | .child runner act =>
    if runner < state.runnerCount then
      (childStep (fun source => (state.calls source).header) (state.runners runner) act).map (state.setRunner runner)
    else .error .noRunner
  | .reap workspaceId => .ok (state.remove workspaceId)
  | .closeAll => .ok (closeAll state)
  | .closeNext record =>
    if record ∈ state.doomed then .ok { closeRunner state record with doomed := state.doomed.erase record }
    else .error .notRunning

def State.started (orphans : List (String × String)) : State := {
  registry := orphans.zipIdx.map fun orphan => (orphan.1.1, orphan.2)
  records := fun index => match orphans[index]? with
    | some orphan => { Record.reserved with state := .orphaned, path := orphan.2 }
    | none => .reserved
  recordCount := orphans.length, runners := fun _ => .spawned, runnerCount := 0, calls := fun _ => .unborn, callCount := 0
  doomed := [], forwarded := [] }

-- Every interleaving of Dispatch calls, processes, reaps and CloseAll.
def pool (maxWorkspaces : Nat) : Machine State Label PoolError where
  initial := fun state => ∃ orphans : List (String × String), (orphans.map Prod.fst).Nodup ∧ state = .started orphans
  allowed := fun _ _ => True
  step := step maxWorkspaces

def succeeds (maxWorkspaces : Nat) : State → List Label → Bool
  | _, [] => true
  | state, label :: rest =>
      (step maxWorkspaces state label).isOk && succeeds maxWorkspaces ((pool maxWorkspaces).committed label state) rest

theorem succeeds_commits (maxWorkspaces : Nat) (state : State) (labels : List Label)
    (taken : succeeds maxWorkspaces state labels = true) : (pool maxWorkspaces).Commits state labels := by
  induction labels generalizing state with
  | nil => trivial
  | cons label rest ih =>
      rw [succeeds, Bool.and_eq_true] at taken
      exact ⟨trivial, taken.1, ih _ taken.2⟩

end Yaaos.Agent.Pool
