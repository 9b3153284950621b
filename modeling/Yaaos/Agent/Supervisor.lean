import Yaaos.Base.Lru
import Yaaos.Base.Machine

set_option autoImplicit false

namespace Yaaos.Agent

open Yaaos.Base

inductive CommandKind where
  | provisionWorkspace
  | writeFiles
  | refreshWorkspaceAuth
  | invokeClaudeCode
  | invokeCodex
  | cleanupWorkspace
  | pushBranch
  | configUpdate
  | shutdown
  | cancelShutdown
  deriving DecidableEq

def CommandKind.value : CommandKind → String
  | .provisionWorkspace => "ProvisionWorkspace"
  | .writeFiles => "WriteFiles"
  | .refreshWorkspaceAuth => "RefreshWorkspaceAuth"
  | .invokeClaudeCode => "InvokeClaudeCode"
  | .invokeCodex => "InvokeCodex"
  | .cleanupWorkspace => "CleanupWorkspace"
  | .pushBranch => "PushBranch"
  | .configUpdate => "ConfigUpdate"
  | .shutdown => "Shutdown"
  | .cancelShutdown => "CancelShutdown"

def CommandKind.isAgentCommand : CommandKind → Bool
  | .configUpdate => true
  | .shutdown => true
  | .cancelShutdown => true
  | _ => false

structure CommandHeader where
  kind : CommandKind
  commandId : String
  workspaceId : String
  completionToken : String
  deriving DecidableEq

inductive Outcome where
  | success (outputs : List (String × String))
  | failure (reason : String)
  deriving DecidableEq

structure AgentEvent where
  commandId : String
  outcome : Outcome
  completionToken : String
  deriving DecidableEq

def CommandHeader.event (header : CommandHeader) (outcome : Outcome) : AgentEvent :=
  { commandId := header.commandId, outcome := outcome, completionToken := header.completionToken }

def failureEvent (header : CommandHeader) (reason : String) : AgentEvent := header.event (.failure reason)

inductive WorkspaceState where
  | active
  | defunct
  | orphaned
  deriving DecidableEq

structure WorkspaceRecord where
  workspaceId : String
  serial : Nat
  state : WorkspaceState
  path : String
  currentCommandId : String
  runner : Option Nat

abbrev Registry : Type := List WorkspaceRecord

inductive Reservation where
  | reserved (registry : Registry)
  | atCap
  | slotTaken

def Registry.find? (registry : Registry) (workspaceId : String) : Option WorkspaceRecord :=
  List.find? (fun record => record.workspaceId == workspaceId) registry

def Registry.change (registry : Registry) (workspaceId : String) (next : WorkspaceRecord → WorkspaceRecord) : Registry :=
  registry.map fun record => if record.workspaceId = workspaceId then next record else record

def Registry.remove (registry : Registry) (workspaceId : String) : Registry :=
  registry.filter fun record => record.workspaceId ≠ workspaceId

def reserveActiveSlot (registry : Registry) (workspaceId : String) (maxWorkspaces serial : Nat) : Reservation :=
  if (registry.find? workspaceId).any fun record => record.state == .active then .slotTaken
  else if maxWorkspaces > 0 ∧ (registry.filter fun record => record.state == .active).length ≥ maxWorkspaces then .atCap
  else
    .reserved
      ({ workspaceId := workspaceId, serial := serial, state := .active, path := "", currentCommandId := "",
         runner := none } :: registry.remove workspaceId)

def lookupSendable (registry : Registry) (workspaceId : String) : Option (Nat × Nat) :=
  (registry.find? workspaceId).bind fun record =>
    if record.state ≠ .active then none else record.runner.map fun runner => (record.serial, runner)

inductive Stage where
  | received
  | looking
  | routing
  | spawning
  | finding
  | waiting (serial runner : Nat)
  | sending (serial runner : Nat) (reached : Bool)
  | storing (event : AgentEvent)
  | posting (event : AgentEvent)
  | done
  deriving DecidableEq

structure Delivery where
  header : CommandHeader
  stage : Stage

inductive PostResult where
  | acked
  | staleClaim
  | transient

-- What happens around the supervisor while one goroutine takes a step.
structure Surroundings where
  config : Option Nat
  spawn : Option String
  reads : Bool
  send : Except String Outcome
  broken : String
  execute : Except String (List (String × String))
  post : PostResult

structure Supervisor where
  dedup : Lru String AgentEvent
  registry : Registry
  nextSerial : Nat
  closed : List Nat
  deliveries : List Delivery
  executions : List CommandHeader
  posted : List AgentEvent
  touched : List String

inductive SupervisorError where
  | unknownDelivery
  | finished
  | slotLocked

inductive SupervisorLabel where
  | deliver (header : CommandHeader)
  | advance (index : Nat) (surroundings : Surroundings)

def dedupCacheSize : Nat := 1024

def Supervisor.stand (state : Supervisor) (index : Nat) (delivery : Delivery) (stage : Stage) : Supervisor :=
  { state with deliveries := state.deliveries.set index { delivery with stage := stage } }

-- Under `slotMu` one goroutine sends at a time.
def Stage.holds (serial : Nat) : Stage → Bool
  | .sending held _ _ => held == serial
  | _ => false

def route (state : Supervisor) (index : Nat) (delivery : Delivery) (surroundings : Surroundings) : Supervisor :=
  let header := delivery.header
  if header.kind.isAgentCommand then
    match surroundings.execute with
    | .error reason => state.stand index delivery (.storing (failureEvent header reason))
    | .ok outputs => state.stand index delivery (.storing (header.event (.success outputs)))
  else
    match surroundings.config with
    | none => state.stand index delivery (.storing (failureEvent header "agent unconfigured"))
    | some maxWorkspaces =>
        if header.workspaceId = "" then
          state.stand index delivery (.storing (failureEvent header "missing workspace_id"))
        else if header.kind = .provisionWorkspace then
          match reserveActiveSlot state.registry header.workspaceId maxWorkspaces state.nextSerial with
          | .atCap => state.stand index delivery (.storing (failureEvent header "cap reached"))
          | .slotTaken => state.stand index delivery .finding
          | .reserved registry =>
              { state with registry := registry, nextSerial := state.nextSerial + 1 }.stand index delivery .spawning
        else state.stand index delivery .finding

def spawnRunner (state : Supervisor) (index : Nat) (delivery : Delivery) (surroundings : Surroundings) : Supervisor :=
  let workspaceId := delivery.header.workspaceId
  match surroundings.spawn with
  | some reason =>
      { state with registry := state.registry.remove workspaceId }.stand index delivery
        (.storing (failureEvent delivery.header ("spawn: " ++ reason)))
  | none =>
      { state with
        registry := state.registry.change workspaceId fun record => { record with runner := some state.nextSerial },
        nextSerial := state.nextSerial + 1 }.stand index delivery .finding

def findRecord (state : Supervisor) (index : Nat) (delivery : Delivery) : Supervisor :=
  let header := delivery.header
  match lookupSendable state.registry header.workspaceId with
  | none =>
      state.stand index delivery (.storing (failureEvent header
        ("no workspace runner: " ++ header.workspaceId ++ " (kind=" ++ header.kind.value ++ ")")))
  | some (serial, runner) => state.stand index delivery (.waiting serial runner)

def beginSend (state : Supervisor) (index : Nat) (delivery : Delivery) (serial runner : Nat)
    (surroundings : Surroundings) : Except SupervisorError Supervisor :=
  let header := delivery.header
  if state.deliveries.any fun other => other.stage.holds serial then .error .slotLocked
  else
    let reached := surroundings.reads && !state.closed.contains runner
    .ok (({ state with
      registry := state.registry.change header.workspaceId fun record => { record with currentCommandId := header.commandId },
      executions := if reached then header :: state.executions else state.executions } : Supervisor).stand index delivery
        (.sending serial runner reached))

def failSend (state : Supervisor) (index : Nat) (delivery : Delivery) (runner : Nat) (reason : String) : Supervisor :=
  let header := delivery.header
  { state with
    registry := state.registry.change header.workspaceId fun record =>
      { record with state := .defunct, currentCommandId := "" },
    closed := runner :: state.closed }.stand index delivery (.storing (failureEvent header reason))

def endSend (state : Supervisor) (index : Nat) (delivery : Delivery) (runner : Nat) (reached : Bool)
    (surroundings : Surroundings) : Supervisor :=
  let header := delivery.header
  match if reached then surroundings.send else .error surroundings.broken with
  | .error reason => failSend state index delivery runner reason
  | .ok outcome =>
      let registry := state.registry.change header.workspaceId fun record =>
        let path := match header.kind, outcome with
          | .provisionWorkspace, .success outputs => match outputs.lookup "path" with
              | some path => if path = "" then record.path else path
              | none => record.path
          | _, _ => record.path
        { record with currentCommandId := "", path := path }
      if header.kind = .cleanupWorkspace then
        { state with registry := registry.remove header.workspaceId, closed := runner :: state.closed }.stand index delivery
          (.storing (header.event outcome))
      else { state with registry := registry }.stand index delivery (.storing (header.event outcome))

def advance (state : Supervisor) (index : Nat) (delivery : Delivery) (surroundings : Surroundings) :
    Except SupervisorError Supervisor :=
  let header := delivery.header
  match delivery.stage with
  | .received => .ok (state.stand index delivery .looking)
  | .looking =>
      match state.dedup.lookup header.commandId with
      | none => .ok (state.stand index delivery .routing)
      | some (event, dedup) =>
          .ok ({ state with dedup := dedup, touched := header.commandId :: state.touched }.stand index delivery
            (.posting event))
  | .routing => .ok (route state index delivery surroundings)
  | .spawning => .ok (spawnRunner state index delivery surroundings)
  | .finding => .ok (findRecord state index delivery)
  | .waiting serial runner => beginSend state index delivery serial runner surroundings
  | .sending _ runner reached => .ok (endSend state index delivery runner reached surroundings)
  | .storing event =>
      .ok ({ state with
        dedup := state.dedup.store dedupCacheSize header.commandId event,
        touched := header.commandId :: state.touched }.stand index delivery (.posting event))
  | .posting event =>
      match surroundings.post with
      | .transient => .ok state
      | _ => .ok ({ state with posted := event :: state.posted }.stand index delivery .done)
  | .done => .error .finished

def supervisorStep (state : Supervisor) : SupervisorLabel → Except SupervisorError Supervisor
  | .deliver header =>
      .ok { state with deliveries := state.deliveries ++ [{ header := header, stage := .received }] }
  | .advance index surroundings =>
      match state.deliveries[index]? with
      | none => .error .unknownDelivery
      | some delivery => advance state index delivery surroundings

-- A process starts with the orphans it found on disk.
def Supervisor.started (registry : Registry) : Supervisor :=
  { dedup := .empty, registry := registry, nextSerial := registry.length, closed := [], deliveries := [], executions := [],
    posted := [], touched := [] }

def agentProcess : Machine Supervisor SupervisorLabel SupervisorError where
  initial := fun state => ∃ registry, state = .started registry
  allowed := fun _ _ => True
  step := supervisorStep

end Yaaos.Agent
