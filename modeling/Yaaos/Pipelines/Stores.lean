import Mathlib.Data.Prod.Lex
import Yaaos.Pipelines.Db

set_option autoImplicit false

namespace Yaaos.Pipelines

open Yaaos.Base

def getTicket (db : Db) (ticketId orgId : Uuid) : Except EngineError Ticket :=
  match db.tickets.find? ticketId with
  | none => .error (.ticketNotFound ticketId)
  | some row => if row.orgId = orgId then .ok row else .error (.ticketNotFound ticketId)

def getPullRequest (env : Env) (prId : Uuid) : Except EngineError String :=
  match env.pullRequest prId with
  | none => .error (.pullRequestNotFound prId)
  | some externalId => .ok externalId

def setCurrentRun (db : Db) (ticketId runId : Uuid) : Db :=
  db.updateTicket ticketId (fun _ => true) (fun row => { row with currentRunId := some runId }) fun _ => rfl

-- A transition that misses its guard writes nothing and does not raise.
def transitionTicket (db : Db) (ticketId orgId runId : Uuid) (from_ : TicketStatus → Bool) (newStatus : TicketStatus) : Db :=
  db.updateTicket ticketId
    (fun row => row.orgId == orgId && row.currentRunId == some runId && from_ row.status)
    (fun row => { row with status := newStatus }) fun _ => rfl

def TicketStatus.isTerminal : TicketStatus → Bool
  | .done | .cancelled | .failed => true
  | _ => false

def transitionTicketOnRunStart (db : Db) (ticketId orgId runId : Uuid) : Db :=
  transitionTicket db ticketId orgId runId (fun status => status == .pending) .running

def transitionTicketOnRunTerminal (db : Db) (ticketId orgId runId : Uuid) (toStatus : TicketStatus) : Db :=
  transitionTicket db ticketId orgId runId (fun status => !status.isTerminal) toStatus

def transitionTicketOnRunPaused (db : Db) (ticketId orgId runId : Uuid) : Db :=
  transitionTicket db ticketId orgId runId (fun status => !status.isTerminal) .hitl

def transitionTicketOnRunResumed (db : Db) (ticketId orgId runId : Uuid) : Db :=
  transitionTicket db ticketId orgId runId (fun status => status == .hitl) .running

def latestVersion (db : Db) (ticketId : Uuid) (stageName : String) : Nat :=
  ((db.artifacts.filter fun row => row.ticketId == ticketId && row.stageName == stageName).map Artifact.version).foldl max 0

def storeArtifact (session : Session) (stageExec : StageExecution) (body : String) : Session :=
  { session with
    db :=
      { session.db with
        nextId := session.db.nextId + 1
        artifacts := session.db.artifacts ++
          [{ id := session.db.nextId, orgId := session.run.orgId, ticketId := session.run.ticketId,
             stageName := stageExec.stageName, runId := session.run.id, stageExecutionId := stageExec.id,
             version := latestVersion session.db session.run.ticketId stageExec.stageName + 1,
             iteration := stageExec.iteration, body := body, isFinal := false }] } }

def markFinal (session : Session) (artifactId : Uuid) : Session :=
  { session with
    db :=
      { session.db with
        artifacts := session.db.artifacts.map fun row => if row.id = artifactId then { row with isFinal := true } else row } }

def latestFinal (db : Db) (orgId ticketId : Uuid) (stageName : String) : Option Artifact :=
  (db.artifacts.filter fun row =>
    row.orgId == orgId && row.ticketId == ticketId && row.stageName == stageName && row.isFinal).argmax Artifact.version

def getArtifact (db : Db) (artifactId orgId : Uuid) : Except EngineError Artifact :=
  match db.artifacts.find? fun row => row.id == artifactId && row.orgId == orgId with
  | none => .error (.artifactNotFound artifactId)
  | some row => .ok row

def Severity.text : Severity → String
  | .blocker => "blocker"
  | .shouldFix => "should_fix"
  | .nit => "nit"

def Finding.handle (finding : Finding) : String :=
  let digits := toString finding.displayId
  finding.displayPrefix ++ "-" ++ String.ofList (List.replicate (3 - digits.length) '0') ++ digits

def getFinding (db : Db) (findingId : Uuid) : Except EngineError Finding :=
  match db.findings.find? findingId with
  | none => .error (.findingNotFound findingId)
  | some row => .ok row

def latestDisplayId (db : Db) (ticketId : Uuid) : Nat :=
  ((db.findings.rows.filter fun row => row.ticketId == ticketId).map Finding.displayId).foldl max 0

def Finding.refresh (spec : FindingSpec) (existing : Finding) : Finding :=
  { existing with
    body := spec.body, codeFile := spec.codeFile, codeLine := spec.codeLine,
    artifactSection := spec.artifactSection, defectInArtifact := spec.defectInArtifact }

def recordFindings (session : Session) (stageExec : StageExecution) (iteration : Nat) :
    Nat → List FindingSpec → Session × List Finding
  | _, [] => (session, [])
  | nextDisplayId, spec :: rest =>
      match session.db.findings.find? spec.id with
      | some existing =>
          let findings := session.db.findings.update (fun row => row.id == spec.id) (Finding.refresh spec) fun _ => rfl
          let session := { session with db := { session.db with findings := findings } }
          let (session, results) := recordFindings session stageExec iteration nextDisplayId rest
          (session, existing.refresh spec :: results)
      | none =>
          let row : Finding :=
            { id := spec.id, orgId := session.run.orgId, ticketId := session.run.ticketId,
              sourceRunId := session.run.id, sourceStageName := stageExec.stageName,
              sourceStageExecutionId := stageExec.id, firstSeenIteration := iteration,
              displayPrefix := spec.displayPrefix, displayId := nextDisplayId, severity := spec.severity,
              body := spec.body, codeFile := spec.codeFile, codeLine := spec.codeLine,
              artifactSection := spec.artifactSection, defectInArtifact := spec.defectInArtifact,
              status := .opened, statusEvents := [] }
          let findings := (session.db.findings.insert? row).getD session.db.findings
          let session := { session with db := { session.db with findings := findings } }
          let (session, results) := recordFindings session stageExec iteration (nextDisplayId + 1) rest
          (session, row :: results)

def legalTransition : FindingStatus → FindingStatus → Bool
  | .opened, .resolved | .opened, .dismissed | .resolved, .opened | .resolved, .dismissed => true
  | _, _ => false

def appendEvent (db : Db) (findingId : Uuid) (status : FindingStatus) (event : FindingStatusEvent) : Db :=
  { db with
    findings := db.findings.update (fun row => row.id == findingId)
      (fun row => { row with status := status, statusEvents := row.statusEvents ++ [event] }) fun _ => rfl }

def transitionFinding (target : FindingStatus) (db : Db) (findingId : Uuid) (event : FindingStatusEvent) :
    Except EngineError Db := do
  let row ← getFinding db findingId
  if row.status = target then .ok db
  else if legalTransition row.status target then .ok (appendEvent db findingId target event)
  else .error (.invalidFindingTransition findingId row.status)

def resolveFinding : Db → Uuid → FindingStatusEvent → Except EngineError Db := transitionFinding .resolved

def reopenFinding : Db → Uuid → FindingStatusEvent → Except EngineError Db := transitionFinding .opened

def dismissFinding : Db → Uuid → FindingStatusEvent → Except EngineError Db := transitionFinding .dismissed

-- Unlike the transitions, a re-assertion is legal from `open` only.
def reflagFinding (db : Db) (findingId : Uuid) (event : FindingStatusEvent) : Except EngineError Db := do
  let row ← getFinding db findingId
  if row.status = .opened then .ok (appendEvent db findingId .opened event)
  else .error (.invalidFindingTransition findingId row.status)

-- Rows of one ticket are inserted in the order of their display ids.
def listOpenForTicket (db : Db) (orgId ticketId : Uuid) : List Finding :=
  db.findings.rows.filter fun row => row.orgId == orgId && row.ticketId == ticketId && row.status == .opened

def listForStageExecution (db : Db) (stageExecutionId : Uuid) : List Finding :=
  db.findings.rows.filter fun row => row.sourceStageExecutionId == stageExecutionId

def Finding.reference (finding : Finding) : PriorFindingRef :=
  { findingId := finding.id, severity := finding.severity, body := finding.body, codeFile := finding.codeFile,
    codeLine := finding.codeLine, artifactSection := finding.artifactSection }

def mergePriorFindings (loopFindings ticketOpen commentFindings : List Finding) : List PriorFindingRef :=
  let byId := (ticketOpen ++ commentFindings).foldl
    (fun kept finding => if kept.any (fun other => other.id == finding.id) then kept else kept ++ [finding]) loopFindings
  byId.map Finding.reference

end Yaaos.Pipelines
