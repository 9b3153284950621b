import Yaaos.Gateway.Run

set_option autoImplicit false

namespace Yaaos.Gateway

open Yaaos.Base

structure DestroyColumns where
  destroyAttempts : Nat
  destroyedAt : Option Nat
  lastDestroyAttemptAt : Option Nat
  lastDestroyError : Option String

def untouchedColumns : DestroyColumns :=
  { destroyAttempts := 0, destroyedAt := none, lastDestroyAttemptAt := none, lastDestroyError := none }

structure WorkspaceTransition where
  workspaceId : WireUuid
  orgId : WireUuid
  fromState : WorkspaceStatus
  toState : WorkspaceStatus
  reason : String
  error : Option String

structure Expiry where
  workspaceId : WireUuid
  orgId : WireUuid
  fromState : WorkspaceStatus
  reason : String

structure DoomedRow where
  id : WireUuid
  orgId : WireUuid
  providerId : String
  status : WorkspaceStatus

-- What a transaction holds until its commit: the rows it expired and the commands
-- whose runs it resumes, each with its run.
structure ExpirySession where
  expiring : List Expiry
  resumed : List (WireUuid × WireUuid)

def ExpirySession.holds (session : ExpirySession) (id : WireUuid) : Bool :=
  session.expiring.any fun expiry => decide (expiry.workspaceId = id)

def ExpirySession.sees (session : ExpirySession) (row : WorkspaceRow) : WorkspaceStatus :=
  if session.holds row.id then .expired else row.status

def pausedRunWorkspaceGraceSeconds : Nat := 1800

def maxDestroyAttempts : Nat := 3

def destroyBatch : Nat := 50

def GatewayDb.updateWorkspaces (db : GatewayDb) (selected : WorkspaceRow → Bool) (change : WorkspaceRow → WorkspaceRow)
    (kept : ∀ row, (change row).id = row.id) : GatewayDb :=
  { db with workspaces := db.workspaces.update selected change kept }

def withStatus (status : WorkspaceStatus) (row : WorkspaceRow) : WorkspaceRow := { row with status := status }

def GatewayDb.setWorkspaceStatus (db : GatewayDb) (id : WireUuid) (status : WorkspaceStatus) : GatewayDb :=
  db.updateWorkspaces (fun row => decide (row.id = id)) (withStatus status) fun _ => rfl

def ttlOver (clock : Nat) (row : WorkspaceRow) : Bool := decide (row.expiresAt < clock)

def idleOver (clock : Nat) (row : WorkspaceRow) : Bool :=
  decide (row.currentCommandId = none) && decide (row.maxIdleSeconds * microseconds < (clock : Int) - row.activatedAt)

def ExpirySession.selects (session : ExpirySession) (stale : WorkspaceRow → Bool) (row : WorkspaceRow) : Bool :=
  decide (session.sees row = .active) && stale row

def ExpirySession.expire (session : ExpirySession) (stale : WorkspaceRow → Bool) (reason : String) (db : GatewayDb) :
    ExpirySession :=
  let selected := db.workspaces.rows.filter (session.selects stale)
  { session with
    expiring := session.expiring ++ selected.map fun row =>
      { workspaceId := row.id, orgId := row.orgId, fromState := .active, reason := reason } }

def getCommandRunId (commandId : WireUuid) (db : GatewayDb) : Option WireUuid :=
  (db.agentCommands.find? commandId).bind AgentCommandRow.runId

def ownedBy (offline : List WireUuid) (row : WorkspaceRow) : Bool := offline.contains row.owningAgentId

def failsafeAgentLoss (offline : List WireUuid) (session : ExpirySession) (db : GatewayDb) : ExpirySession :=
  let candidates := db.workspaces.rows.filter (session.selects (ownedBy offline))
  let resumed := candidates.filterMap fun row =>
    row.currentCommandId.bind fun commandId => (getCommandRunId commandId db).map fun runId => (runId, commandId)
  { session.expire (ownedBy offline) "agent_loss" db with resumed := session.resumed ++ resumed }

inductive WorkspaceEventKind where
  | created
  | ready
  | exited
  | destroyed
  | failed
  deriving DecidableEq, Repr

structure WorkspaceEventReport where
  workspaceId : WireUuid
  commandId : WireUuid
  kind : WorkspaceEventKind
  agentId : WireUuid

def kindToStatus : WorkspaceEventKind → Option WorkspaceStatus
  | .ready => some .active
  | .destroyed => some .destroyed
  | .failed => some .destroyFailed
  | .created | .exited => none

def rowCreateKinds : List WorkspaceEventKind := [.created, .ready]

inductive ReportVerdict where
  | create
  | apply (status : Option WorkspaceStatus)

-- A transaction between two of its statements, or a pass between two of its
-- transactions. The constructor says which one is next.
inductive Job where
  | ttl (clock : Nat)
  | idle (clock : Nat) (session : ExpirySession)
  | liveness (session : ExpirySession)
  | picking (session : ExpirySession)
  | committing (session : ExpirySession) (doomed : List DoomedRow)
  | reaping (doomed : List DoomedRow)
  | destroying (row : DoomedRow) (attempts : Nat) (rest : List DoomedRow)
  | reporting (env : EventEnv) (report : WorkspaceEventReport) (verdict : ReportVerdict)
  | beating (agentId : WireUuid) (reported provisioning : List WireUuid)
  | ended

structure HeartbeatAnswer where
  agentId : WireUuid
  reported : List WireUuid
  forgottenWorkspaces : List WireUuid

structure Plane where
  queue : QueueState
  now : Nat
  destroys : WireUuid → DestroyColumns
  transitions : List WorkspaceTransition
  jobs : List Job
  answers : List HeartbeatAnswer

inductive PlaneError where
  | gateway (error : GatewayError)
  | workspaceNotFound (workspaceId : WireUuid)
  | workspaceClaimFailed (workspaceId : WireUuid)
  | notOwner
  | notWaiting

def Plane.db (plane : Plane) : GatewayDb := plane.queue.db

def Plane.withDb (plane : Plane) (db : GatewayDb) : Plane := { plane with queue := { plane.queue with db := db } }

def Plane.begin (plane : Plane) (job : Job) : Plane := { plane with jobs := plane.jobs ++ [job] }

def Plane.setJob (plane : Plane) (index : Nat) (job : Job) : Plane := { plane with jobs := plane.jobs.set index job }

def Plane.audit (plane : Plane) (transitions : List WorkspaceTransition) : Plane :=
  { plane with transitions := plane.transitions ++ transitions }

def Plane.setColumns (plane : Plane) (id : WireUuid) (change : DestroyColumns → DestroyColumns) : Plane :=
  { plane with destroys := fun other => if other = id then change (plane.destroys other) else plane.destroys other }

def claimable (workspaceId : WireUuid) (row : WorkspaceRow) : Bool :=
  decide (row.id = workspaceId) && decide (row.currentCommandId = none) && decide (row.status = .active)

def heldBy (commandId : WireUuid) (row : WorkspaceRow) : WorkspaceRow := { row with currentCommandId := some commandId }

def tryClaim (workspaceId commandId : WireUuid) (db : GatewayDb) : Option GatewayDb :=
  if db.workspaces.rows.any (claimable workspaceId) then
    some (db.updateWorkspaces (claimable workspaceId) (heldBy commandId) fun _ => rfl)
  else none

structure WorkspaceDispatch where
  dispatchTp : Option String
  command : AgentCommand
  workspaceId : WireUuid
  runId : Option WireUuid
  claimWorkspace : Bool

def WorkspaceDispatch.sent (dispatched : WorkspaceDispatch) (row : WorkspaceRow) : Dispatch := {
  dispatchTp := dispatched.dispatchTp, orgId := row.orgId, command := dispatched.command
  runId := dispatched.runId, route := .pinned row.owningAgentId }

def dispatchViaWorkspace (dispatched : WorkspaceDispatch) (db : GatewayDb) : Except PlaneError GatewayDb :=
  match db.workspaces.find? dispatched.workspaceId with
  | none => .error (.workspaceNotFound dispatched.workspaceId)
  | some row =>
    match dispatchCommand (dispatched.sent row) db with
    | .error error => .error (.gateway error)
    | .ok enqueued =>
      if dispatched.claimWorkspace then
        match tryClaim dispatched.workspaceId dispatched.command.commandId enqueued with
        | none => .error (.workspaceClaimFailed dispatched.workspaceId)
        | some claimed => .ok claimed
      else .ok enqueued

def extendedTo (deadline : Int) (row : WorkspaceRow) : WorkspaceRow := { row with expiresAt := deadline }

def extendExpiry (workspaceId : WireUuid) (seconds now : Nat) (db : GatewayDb) : GatewayDb :=
  db.updateWorkspaces (fun row => decide (row.id = workspaceId)) (extendedTo ((now : Int) + seconds * microseconds)) fun _ => rfl

def closeWorkspace (workspaceId : WireUuid) (plane : Plane) : Plane :=
  match plane.db.workspaces.find? workspaceId with
  | none => plane
  | some row =>
    if row.status = .active then
      (plane.withDb (plane.db.setWorkspaceStatus workspaceId .expired)).audit [{
        workspaceId := workspaceId, orgId := row.orgId, fromState := .active, toState := .expired
        reason := "closed", error := none }]
    else plane

structure TurnEnv where
  offline : List WireUuid
  order : List DoomedRow → List DoomedRow
  registered : String → Bool
  failure : Option String
  consumers : List String

def doomedRows (session : ExpirySession) (plane : Plane) : List DoomedRow :=
  let selected := plane.db.workspaces.rows.filter fun row =>
    decide (session.sees row = .expired) && decide ((plane.destroys row.id).destroyAttempts < maxDestroyAttempts)
  selected.map fun row => { id := row.id, orgId := row.orgId, providerId := row.providerId, status := session.sees row }

def pickDoomed (order : List DoomedRow → List DoomedRow) (session : ExpirySession) (plane : Plane) : List DoomedRow :=
  (order (doomedRows session plane)).take destroyBatch

def Expiry.transition (expiry : Expiry) : WorkspaceTransition :=
  { workspaceId := expiry.workspaceId, orgId := expiry.orgId, fromState := expiry.fromState, toState := .expired
    reason := expiry.reason, error := none }

def resumeRuns (consumers : List String) (resumed : List (WireUuid × WireUuid)) (db : GatewayDb) : GatewayDb :=
  resumed.foldl (fun db pair => enqueueAgentEvent consumers pair.1 pair.2 "failure" [] none db) db

def commitExpiry (consumers : List String) (session : ExpirySession) (plane : Plane) : Plane :=
  let expired := plane.db.updateWorkspaces (fun row => session.holds row.id) (withStatus .expired) fun _ => rfl
  (plane.withDb (resumeRuns consumers session.resumed expired)).audit (session.expiring.map Expiry.transition)

def DoomedRow.transition (row : DoomedRow) (fromState toState : WorkspaceStatus) (reason : String)
    (error : Option String) : WorkspaceTransition :=
  { workspaceId := row.id, orgId := row.orgId, fromState := fromState, toState := toState, reason := reason
    error := error }

def unregistered (row : DoomedRow) : String := "provider " ++ row.providerId ++ " not registered"

-- The first transaction of `_attempt_destroy`, and what the pass does next.
def beginDestroy (registered : String → Bool) (row : DoomedRow) (rest : List DoomedRow) (plane : Plane) : Plane × Job :=
  if registered row.providerId then
    match plane.db.workspaces.find? row.id with
    | none => (plane, .reaping rest)
    | some current =>
      if current.status = .expired then
        let attempts := (plane.destroys row.id).destroyAttempts + 1
        let claimed := (plane.withDb (plane.db.setWorkspaceStatus row.id .destroying)).setColumns row.id fun columns =>
          { columns with destroyAttempts := columns.destroyAttempts + 1, lastDestroyAttemptAt := some plane.now }
        (claimed.audit [row.transition row.status .destroying "destroy_attempt" none], .destroying row attempts rest)
      else (plane, .reaping rest)
  else
    let failed := (plane.withDb (plane.db.setWorkspaceStatus row.id .destroyFailed)).setColumns row.id fun columns =>
      { columns with lastDestroyError := some (unregistered row) }
    (failed.audit [row.transition row.status .destroyFailed "provider_not_registered" (some (unregistered row))],
      .reaping rest)

def settledStatus (failure : Option String) (attempts : Nat) : WorkspaceStatus :=
  match failure with
  | none => .destroyed
  | some _ => if attempts ≥ maxDestroyAttempts then .destroyFailed else .expired

def endDestroy (failure : Option String) (row : DoomedRow) (attempts : Nat) (plane : Plane) : Plane :=
  let newStatus := settledStatus failure attempts
  let settled := plane.withDb (plane.db.setWorkspaceStatus row.id newStatus)
  match failure with
  | some error =>
    (settled.setColumns row.id fun columns => { columns with lastDestroyError := some error }).audit
      [row.transition .destroying newStatus "destroy_failed" (some error)]
  | none =>
    (settled.setColumns row.id fun columns =>
      { columns with destroyedAt := some plane.now, lastDestroyError := none }).audit
      [row.transition .destroying newStatus "destroyed" none]

def readReport (report : WorkspaceEventReport) (db : GatewayDb) : Except PlaneError ReportVerdict :=
  match db.workspaces.find? report.workspaceId with
  | none =>
    if rowCreateKinds.contains report.kind then .ok .create
    else .error (.gateway (.staleClaim report.commandId))
  | some row =>
    if row.owningAgentId ≠ report.agentId then .error .notOwner
    else if row.currentCommandId = none ∨ row.currentCommandId = some report.commandId then
      .ok (.apply (kindToStatus report.kind))
    else .error (.gateway (.staleClaim report.commandId))

def commitReport (env : EventEnv) (report : WorkspaceEventReport) (db : GatewayDb) : ReportVerdict → GatewayDb
  | .create =>
    match db.agentCommands.find? report.commandId with
    | none => db
    | some row =>
      match db.workspaces.insert? (leanWorkspaceRow env report.workspaceId row.orgId report.agentId row.payload) with
      | none => db
      | some workspaces => { db with workspaces := workspaces }
  | .apply none => db
  | .apply (some status) => db.setWorkspaceStatus report.workspaceId status

def provisioningRow (row : AgentCommandRow) : Bool :=
  decide (row.commandKind = .provisionWorkspace) && decide (row.status ≠ .done)

def provisioningIds (reported : List WireUuid) (db : GatewayDb) : List WireUuid :=
  (db.agentCommands.rows.filter provisioningRow).filterMap fun row => row.workspaceId.filter reported.contains

def reconcileHeartbeat (reportedIds : List WireUuid) (db : GatewayDb) : List WireUuid :=
  reportedIds.filter fun id =>
    match db.workspaces.find? id with
    | none => true
    | some row => decide (row.status = .destroyed)

def answerHeartbeat (agentId : WireUuid) (reported provisioning : List WireUuid) (db : GatewayDb) : HeartbeatAnswer :=
  let reconcileIds := reported.filter fun id => !provisioning.contains id
  { agentId := agentId, reported := reported, forgottenWorkspaces := reconcileHeartbeat reconcileIds db }

def runJob (env : TurnEnv) (plane : Plane) (index : Nat) : Job → Except PlaneError Plane
  | .ttl clock =>
    .ok (plane.setJob index (.idle clock (ExpirySession.expire ⟨[], []⟩ (ttlOver clock) "ttl_expired" plane.db)))
  | .idle clock session =>
    .ok (plane.setJob index (.liveness (session.expire (idleOver clock) "idle_timeout" plane.db)))
  | .liveness session => .ok (plane.setJob index (.picking (failsafeAgentLoss env.offline session plane.db)))
  | .picking session => .ok (plane.setJob index (.committing session (pickDoomed env.order session plane)))
  | .committing session doomed => .ok ((commitExpiry env.consumers session plane).setJob index (.reaping doomed))
  | .reaping [] => .ok (plane.setJob index .ended)
  | .reaping (row :: rest) =>
    let begun := beginDestroy env.registered row rest plane
    .ok (begun.1.setJob index begun.2)
  | .destroying row attempts rest => .ok ((endDestroy env.failure row attempts plane).setJob index (.reaping rest))
  | .reporting eventEnv report verdict =>
    .ok ((plane.withDb (commitReport eventEnv report plane.db verdict)).setJob index .ended)
  | .beating agentId reported provisioning =>
    let answer := answerHeartbeat agentId reported provisioning plane.db
    .ok ({ plane with answers := plane.answers ++ [answer] }.setJob index .ended)
  | .ended => .error .notWaiting

inductive PlaneLabel where
  | queue (label : QueueLabel)
  | tick (seconds : Nat)
  | dispatchVia (dispatched : WorkspaceDispatch)
  | pause (workspaceId : WireUuid)
  | close (workspaceId : WireUuid)
  | startSweep
  | agentLost (offline : List WireUuid)
  | report (env : EventEnv) (report : WorkspaceEventReport)
  | heartbeat (agentId : WireUuid) (reported : List WireUuid)
  | turn (index : Nat) (env : TurnEnv)
  | crash (index : Nat)

def planeStep (plane : Plane) : PlaneLabel → Except PlaneError Plane
  | .queue label =>
    match queueStep plane.queue label with
    | .error error => .error (.gateway error)
    | .ok queue => .ok { plane with queue := queue }
  | .tick seconds => .ok { plane with now := plane.now + seconds }
  | .dispatchVia dispatched => (dispatchViaWorkspace dispatched plane.db).map plane.withDb
  | .pause workspaceId =>
    .ok (plane.withDb (extendExpiry workspaceId pausedRunWorkspaceGraceSeconds plane.now plane.db))
  | .close workspaceId => .ok (closeWorkspace workspaceId plane)
  | .startSweep => .ok (plane.begin (.ttl plane.now))
  | .agentLost offline => .ok (plane.begin (.committing (failsafeAgentLoss offline ⟨[], []⟩ plane.db) []))
  | .report env report => (readReport report plane.db).map fun verdict => plane.begin (.reporting env report verdict)
  | .heartbeat agentId reported => .ok (plane.begin (.beating agentId reported (provisioningIds reported plane.db)))
  | .turn index env =>
    match plane.jobs[index]? with
    | none => .error .notWaiting
    | some job => runJob env plane index job
  | .crash index => .ok (plane.setJob index .ended)

def QueueLabel.clock : QueueLabel → Option Nat
  | .dispatch _ => none
  | .claim env _ _ => some env.now
  | .event env _ => some env.now
  | .requeue now _ => some now

def Plane.Fresh (plane : Plane) (workspaceId : WireUuid) : Prop :=
  (∀ row ∈ plane.db.agentCommands.rows, row.workspaceId ≠ some workspaceId) ∧
    (∀ row ∈ plane.db.workspaces.rows, row.id ≠ workspaceId) ∧
      ∀ agentId reported provisioning, Job.beating agentId reported provisioning ∈ plane.jobs → workspaceId ∉ reported

def PlaneLabel.Allowed (sha256 : String → String) (hydrated : AgentCommandKind → Bool) (plane : Plane) :
    PlaneLabel → Prop
  | .queue label =>
    label.Allowed sha256 hydrated ∧ (∀ clock, label.clock = some clock → clock = plane.now) ∧
      ∀ dispatched, label = .dispatch dispatched → dispatched.command.kind = .provisionWorkspace →
        ∀ workspaceId, dispatched.command.workspaceId = some workspaceId → workspaceId ≠ 0 ∧ plane.Fresh workspaceId
  | .dispatchVia dispatched =>
    dispatched.command.kind ≠ .provisionWorkspace ∧ dispatched.workspaceId ≠ 0 ∧
      dispatched.command.workspaceId = some dispatched.workspaceId
  | .report env _ => env.now = plane.now
  | .turn _ env => ∀ rows, (env.order rows).Perm rows
  | _ => True

def controlPlane (sha256 : String → String) (hydrated : AgentCommandKind → Bool) :
    Machine Plane PlaneLabel PlaneError where
  initial := fun plane => (gatewayQueue sha256 hydrated).initial plane.queue ∧ plane.db.workspaces = .empty ∧
    plane.destroys = (fun _ => untouchedColumns) ∧ plane.transitions = [] ∧ plane.jobs = [] ∧ plane.answers = []
  allowed := fun plane label => label.Allowed sha256 hydrated plane
  step := planeStep

end Yaaos.Gateway
