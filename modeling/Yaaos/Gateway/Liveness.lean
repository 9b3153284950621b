import Yaaos.Base.Machine
import Yaaos.Gateway.Queue

set_option autoImplicit false

namespace Yaaos.Gateway

open Yaaos.Base

inductive AgentState where
  | reachable
  | stale
  | offline
  deriving DecidableEq, Repr

structure LivenessRow where
  id : WireUuid
  orgId : WireUuid
  instanceId : String
  iamArn : String
  version : Option String
  os : Option String
  cpuCount : Option Int
  memoryBytes : Option Int
  lastHeartbeatAt : Option Nat
  lastShutdownAt : Option Nat
  claimedWorkspaceCount : Nat
  state : AgentState
  lifecycle : AgentLifecycle
  deriving DecidableEq

structure Fleet where
  now : Nat
  workspaceAgents : Table LivenessRow WireUuid LivenessRow.id

structure IdentityExchange where
  orgId : WireUuid
  instanceId : String
  iamArn : String
  version : Option String
  os : Option String
  cpuCount : Option Int
  memoryBytes : Option Int

def staleThresholdSeconds : Nat := 60

def offlineThresholdSeconds : Nat := 5 * 60

def Fleet.empty : Fleet := { now := 0, workspaceAgents := Table.empty }

def Fleet.agent (fleet : Fleet) (agentId : WireUuid) : Option LivenessRow := fleet.workspaceAgents.find? agentId

def Fleet.update (fleet : Fleet) (selected : LivenessRow → Bool) (change : LivenessRow → LivenessRow)
    (kept : ∀ row, (change row).id = row.id) : Fleet :=
  { fleet with workspaceAgents := fleet.workspaceAgents.update selected change kept }

def IdentityExchange.names (exchange : IdentityExchange) (row : LivenessRow) : Bool :=
  decide (row.orgId = exchange.orgId ∧ row.instanceId = exchange.instanceId)

def IdentityExchange.insertedRow (exchange : IdentityExchange) (rowId : WireUuid) (now : Nat) : LivenessRow := {
  id := rowId, orgId := exchange.orgId, instanceId := exchange.instanceId, iamArn := exchange.iamArn
  version := exchange.version, os := exchange.os, cpuCount := exchange.cpuCount, memoryBytes := exchange.memoryBytes
  lastHeartbeatAt := some now, lastShutdownAt := none, claimedWorkspaceCount := 0, state := .reachable
  lifecycle := .unconfigured }

def IdentityExchange.conflictRow (exchange : IdentityExchange) (now : Nat) (row : LivenessRow) : LivenessRow :=
  { row with
    iamArn := exchange.iamArn
    version := exchange.version
    os := exchange.os.or row.os
    cpuCount := exchange.cpuCount.or row.cpuCount
    memoryBytes := exchange.memoryBytes.or row.memoryBytes
    lastHeartbeatAt := some now
    state := .reachable
    lifecycle := if row.lifecycle = .shutdown then .unconfigured else row.lifecycle }

theorem conflictRow_id (exchange : IdentityExchange) (now : Nat) (row : LivenessRow) :
    (exchange.conflictRow now row).id = row.id := rfl

-- `rowId` is the primary key the database would give a new row.
def ensureAgentRow (rowId : WireUuid) (exchange : IdentityExchange) (fleet : Fleet) : Except GatewayError (Fleet × WireUuid) :=
  match fleet.workspaceAgents.rows.find? exchange.names with
  | some row => .ok (fleet.update exchange.names (exchange.conflictRow fleet.now) (conflictRow_id exchange fleet.now), row.id)
  | none =>
      match fleet.workspaceAgents.insert? (exchange.insertedRow rowId fleet.now) with
      | none => .error .integrity
      | some workspaceAgents => .ok ({ fleet with workspaceAgents := workspaceAgents }, rowId)

def LivenessRow.isAgent (agentId : WireUuid) (row : LivenessRow) : Bool := decide (row.id = agentId)

def LivenessRow.inLifecycle (lifecycles : List AgentLifecycle) (row : LivenessRow) : Bool :=
  lifecycles.contains row.lifecycle

def LivenessRow.hit (agentId : WireUuid) (expected : List AgentLifecycle) (row : LivenessRow) : Bool :=
  row.isAgent agentId && row.inLifecycle expected

def heartbeatRow (now : Nat) (reported : List WireUuid) (row : LivenessRow) : LivenessRow :=
  { row with lastHeartbeatAt := some now, state := .reachable, claimedWorkspaceCount := reported.length }

variable (fleet : Fleet) (orgId agentId other : WireUuid) (now : Nat) (row : LivenessRow)

theorem heartbeatRow_id (reported : List WireUuid) (row : LivenessRow) :
    (heartbeatRow now reported row).id = row.id := rfl

def recordHeartbeat (agentId : WireUuid) (reported : List WireUuid) (fleet : Fleet) : Fleet :=
  fleet.update (LivenessRow.isAgent agentId) (heartbeatRow fleet.now reported) (heartbeatRow_id fleet.now reported)

def offlineRow (now : Nat) (row : LivenessRow) : LivenessRow :=
  { row with state := .offline, lastShutdownAt := some now }

theorem offlineRow_id : (offlineRow now row).id = row.id := rfl

def markAgentOffline (agentId : WireUuid) (fleet : Fleet) : Fleet :=
  fleet.update (LivenessRow.isAgent agentId) (offlineRow fleet.now) (offlineRow_id fleet.now)

def markAgentDisconnected (agentId : WireUuid) (fleet : Fleet) : Fleet := markAgentOffline agentId fleet

def shutdownRow (now : Nat) (row : LivenessRow) : LivenessRow :=
  { row with lifecycle := .shutdown, state := .offline, lastShutdownAt := some now }

theorem shutdownRow_id : (shutdownRow now row).id = row.id := rfl

def markAgentShutdownComplete (agentId : WireUuid) (fleet : Fleet) : Fleet × Bool :=
  let won := LivenessRow.hit agentId [.draining]
  (fleet.update won (shutdownRow fleet.now) (shutdownRow_id fleet.now), fleet.workspaceAgents.rows.any won)

def LivenessRow.withLifecycle (lifecycle : AgentLifecycle) (row : LivenessRow) : LivenessRow :=
  { row with lifecycle := lifecycle }

theorem withLifecycle_id (lifecycle : AgentLifecycle) (row : LivenessRow) : (row.withLifecycle lifecycle).id = row.id := rfl

def Fleet.casLifecycle (fleet : Fleet) (agentId : WireUuid) (expected : List AgentLifecycle) (lifecycle : AgentLifecycle) : Fleet :=
  fleet.update (LivenessRow.hit agentId expected) (LivenessRow.withLifecycle lifecycle) (withLifecycle_id lifecycle)

def Fleet.markAgentConfigured (agentId : WireUuid) (fleet : Fleet) : Fleet :=
  fleet.casLifecycle agentId [.unconfigured] .active

inductive ShutdownOutcome where
  | draining
  | alreadyDraining
  | alreadyShutdown
  | notFound
  deriving DecidableEq, Repr

inductive CancelShutdownOutcome where
  | active
  | notDraining
  | alreadyShutdown
  | notFound
  deriving DecidableEq, Repr

def Fleet.orgAgent (fleet : Fleet) (orgId agentId : WireUuid) : Option LivenessRow :=
  (fleet.agent agentId).filter fun row => decide (row.orgId = orgId)

def shutdownAgent (orgId : WireUuid) (fleet : Fleet) (agentId : WireUuid) : Fleet × ShutdownOutcome :=
  match fleet.orgAgent orgId agentId with
  | none => (fleet, .notFound)
  | some row =>
      match row.lifecycle with
      | .shutdown => (fleet, .alreadyShutdown)
      | .draining => (fleet, .alreadyDraining)
      | .unconfigured | .active => (fleet.casLifecycle agentId [.unconfigured, .active] .draining, .draining)

def cancelShutdownAgent (orgId : WireUuid) (fleet : Fleet) (agentId : WireUuid) : Fleet × CancelShutdownOutcome :=
  match fleet.orgAgent orgId agentId with
  | none => (fleet, .notFound)
  | some row =>
      match row.lifecycle with
      | .shutdown => (fleet, .alreadyShutdown)
      | .unconfigured | .active => (fleet, .notDraining)
      | .draining => (fleet.casLifecycle agentId [.draining] .active, .active)

def inTurn {Outcome : Type} (one : Fleet → WireUuid → Fleet × Outcome) : List WireUuid → Fleet →
    Fleet × List (WireUuid × Outcome)
  | [], fleet => (fleet, [])
  | agentId :: rest, fleet =>
      let (moved, outcome) := one fleet agentId
      let (last, outcomes) := inTurn one rest moved
      (last, (agentId, outcome) :: outcomes)

def shutdownAgents (orgId : WireUuid) (agentIds : List WireUuid) (fleet : Fleet) : Fleet × List (WireUuid × ShutdownOutcome) :=
  inTurn (shutdownAgent orgId) agentIds fleet

def cancelShutdownAgents (orgId : WireUuid) (agentIds : List WireUuid) (fleet : Fleet) :
    Fleet × List (WireUuid × CancelShutdownOutcome) := inTurn (cancelShutdownAgent orgId) agentIds fleet

def heartbeatAge (now heartbeat : Nat) : Int := (now : Int) - heartbeat

def targetState (age : Int) : AgentState :=
  if age > offlineThresholdSeconds * microseconds then .offline
  else if age > staleThresholdSeconds * microseconds then .stale
  else .reachable

def sweepSelects (locked : List WireUuid) (row : LivenessRow) : Bool :=
  row.lastHeartbeatAt.isSome && row.lifecycle != .shutdown && !locked.contains row.id

def sweptRow (now clock : Nat) (row : LivenessRow) : LivenessRow :=
  match row.lastHeartbeatAt with
  | none => row
  | some heartbeat =>
      let target := targetState (heartbeatAge now heartbeat)
      if row.state = target then row
      else
        let moved := { row with state := target }
        if target = .offline ∧ moved.inLifecycle [.draining] then shutdownRow clock moved else moved

theorem sweptRow_id (now clock : Nat) (row : LivenessRow) : (sweptRow now clock row).id = row.id := by
  unfold sweptRow
  split
  · rfl
  · dsimp only
    split
    · rfl
    · split <;> rfl

def newlyOffline (now : Nat) (row : LivenessRow) : Bool :=
  match row.lastHeartbeatAt with
  | none => false
  | some heartbeat => targetState (heartbeatAge now heartbeat) == .offline && row.state != .offline

def computeAgentLivenessTransitions (now : Nat) (locked : List WireUuid) (fleet : Fleet) : Fleet × List WireUuid :=
  (fleet.update (sweepSelects locked) (sweptRow now fleet.now) (sweptRow_id now fleet.now),
    (fleet.workspaceAgents.rows.filter fun row => sweepSelects locked row && newlyOffline now row).map LivenessRow.id)

inductive FleetLabel where
  | passes (elapsed : Nat)
  | exchanged (rowId : WireUuid) (exchange : IdentityExchange)
  | heartbeat (agentId : WireUuid) (reported : List WireUuid)
  | disconnected (agentId : WireUuid)
  | shutdownComplete (agentId : WireUuid)
  | sweep (locked : List WireUuid)
  | configured (agentId : WireUuid)
  | shutdownAgents (orgId : WireUuid) (agentIds : List WireUuid)
  | cancelShutdownAgents (orgId : WireUuid) (agentIds : List WireUuid)

def fleetStep (fleet : Fleet) : FleetLabel → Except GatewayError Fleet
  | .passes elapsed => .ok { fleet with now := fleet.now + elapsed }
  | .exchanged rowId exchange => (ensureAgentRow rowId exchange fleet).map Prod.fst
  | .heartbeat agentId reported => .ok (recordHeartbeat agentId reported fleet)
  | .disconnected agentId => .ok (markAgentDisconnected agentId fleet)
  | .shutdownComplete agentId => .ok (markAgentShutdownComplete agentId fleet).1
  | .sweep locked => .ok (computeAgentLivenessTransitions fleet.now locked fleet).1
  | .configured agentId => .ok (fleet.markAgentConfigured agentId)
  | .shutdownAgents orgId agentIds => .ok (shutdownAgents orgId agentIds fleet).1
  | .cancelShutdownAgents orgId agentIds => .ok (cancelShutdownAgents orgId agentIds fleet).1

def fleetMachine : Machine Fleet FleetLabel GatewayError := {
  initial := fun fleet => fleet = Fleet.empty
  allowed := fun _ _ => True
  step := fleetStep }

def fleetAfter (labels : List FleetLabel) : Fleet := fleetMachine.after Fleet.empty labels

def casRow (orgId : WireUuid) (agentIds : List WireUuid) (expected : List AgentLifecycle) (lifecycle : AgentLifecycle)
    (row : LivenessRow) : LivenessRow :=
  if row.orgId = orgId ∧ row.id ∈ agentIds ∧ row.inLifecycle expected then row.withLifecycle lifecycle else row

def FleetLabel.rowAfter (now : Nat) (row : LivenessRow) : FleetLabel → LivenessRow
  | .passes _ => row
  | .exchanged _ exchange => if exchange.names row then exchange.conflictRow now row else row
  | .heartbeat agentId reported => if row.isAgent agentId then heartbeatRow now reported row else row
  | .disconnected agentId => if row.isAgent agentId then offlineRow now row else row
  | .shutdownComplete agentId => if row.hit agentId [.draining] then shutdownRow now row else row
  | .sweep locked => if sweepSelects locked row then sweptRow now now row else row
  | .configured agentId => if row.hit agentId [.unconfigured] then row.withLifecycle .active else row
  | .shutdownAgents orgId agentIds => casRow orgId agentIds [.unconfigured, .active] .draining row
  | .cancelShutdownAgents orgId agentIds => casRow orgId agentIds [.draining] .active row

theorem agent_update (selected : LivenessRow → Bool) (change : LivenessRow → LivenessRow)
    (kept : ∀ row, (change row).id = row.id) (agentId : WireUuid) :
    (fleet.update selected change kept).agent agentId =
      (fleet.agent agentId).map fun row => if selected row then change row else row :=
  Table.find?_update fleet.workspaceAgents selected change kept agentId

theorem agent_id (agentId : WireUuid) (row : LivenessRow) (held : fleet.agent agentId = some row) :
    row.id = agentId := (Table.find?_some fleet.workspaceAgents agentId row held).2

theorem orgAgent_some (orgId agentId : WireUuid) (row : LivenessRow) :
    fleet.orgAgent orgId agentId = some row ↔ fleet.agent agentId = some row ∧ row.orgId = orgId := by
  simp [Fleet.orgAgent]

theorem casRow_missed (orgId : WireUuid) (agentIds : List WireUuid) (expected : List AgentLifecycle) (lifecycle : AgentLifecycle)
    (row : LivenessRow) (missed : ¬ (row.orgId = orgId ∧ row.id ∈ agentIds ∧ row.inLifecycle expected)) :
    casRow orgId agentIds expected lifecycle row = row := if_neg missed

theorem casLifecycle_agent (expected : List AgentLifecycle)
    (lifecycle : AgentLifecycle) (row found : LivenessRow) (held : fleet.agent other = some row)
    (own : fleet.orgAgent orgId agentId = some found) :
    (fleet.casLifecycle agentId expected lifecycle).agent other = some (casRow orgId [agentId] expected lifecycle row) := by
  rw [Fleet.casLifecycle, agent_update, held, Option.map_some]
  have rowId := agent_id fleet other row held
  obtain ⟨present, orgs⟩ := (orgAgent_some fleet orgId agentId found).mp own
  by_cases same : row.id = agentId
  · have equal : found = row := by
      rw [← same, rowId, held] at present
      exact (Option.some.inj present).symm
    rw [equal] at orgs
    simp [casRow, LivenessRow.hit, LivenessRow.isAgent, same, orgs]
  · simp [casRow, LivenessRow.hit, LivenessRow.isAgent, same]

theorem unmoved_agent (expected : List AgentLifecycle)
    (lifecycle : AgentLifecycle) (row : LivenessRow) (held : fleet.agent other = some row)
    (elsewhere : ∀ found, fleet.orgAgent orgId agentId = some found → found.inLifecycle expected = false) :
    fleet.agent other = some (casRow orgId [agentId] expected lifecycle row) := by
  rw [casRow_missed, held]
  intro hit
  obtain ⟨orgs, member, within⟩ := hit
  have same : row.id = agentId := List.mem_singleton.mp member
  have rowId := agent_id fleet other row held
  have own : fleet.orgAgent orgId agentId = some row :=
    (orgAgent_some fleet orgId agentId row).mpr ⟨by rw [← same, rowId, held], orgs⟩
  rw [elsewhere row own] at within
  cases within

theorem shutdownAgent_agent
    (held : fleet.agent other = some row) :
    (shutdownAgent orgId fleet agentId).1.agent other = some (casRow orgId [agentId] [.unconfigured, .active] .draining row) := by
  unfold shutdownAgent
  split
  case h_1 missing =>
    apply unmoved_agent fleet orgId agentId other _ _ row held
    intro found own
    rw [missing] at own
    cases own
  case h_2 found own =>
    split
    case h_1 same | h_2 same =>
      apply unmoved_agent fleet orgId agentId other _ _ row held
      intro again ownAgain
      rw [own] at ownAgain
      cases ownAgain
      simp [LivenessRow.inLifecycle, same]
    case h_3 | h_4 => exact casLifecycle_agent fleet orgId agentId other _ _ row found held own

theorem cancelShutdownAgent_agent
    (held : fleet.agent other = some row) :
    (cancelShutdownAgent orgId fleet agentId).1.agent other = some (casRow orgId [agentId] [.draining] .active row) := by
  unfold cancelShutdownAgent
  split
  case h_1 missing =>
    apply unmoved_agent fleet orgId agentId other _ _ row held
    intro found own
    rw [missing] at own
    cases own
  case h_2 found own =>
    split
    case h_4 => exact casLifecycle_agent fleet orgId agentId other _ _ row found held own
    case h_1 same | h_2 same | h_3 same =>
      apply unmoved_agent fleet orgId agentId other _ _ row held
      intro again ownAgain
      rw [own] at ownAgain
      cases ownAgain
      simp [LivenessRow.inLifecycle, same]

theorem casRow_cons (orgId agentId : WireUuid) (rest : List WireUuid) (expected : List AgentLifecycle)
    (lifecycle : AgentLifecycle) (settled : lifecycle ∉ expected) (row : LivenessRow) :
    casRow orgId rest expected lifecycle (casRow orgId [agentId] expected lifecycle row) =
      casRow orgId (agentId :: rest) expected lifecycle row := by
  by_cases first : row.orgId = orgId ∧ row.id ∈ [agentId] ∧ row.inLifecycle expected
  · have either : row.orgId = orgId ∧ row.id ∈ agentId :: rest ∧ row.inLifecycle expected :=
      ⟨first.1, List.mem_cons.mpr (.inl (List.mem_singleton.mp first.2.1)), first.2.2⟩
    have once : (row.withLifecycle lifecycle).inLifecycle expected = false := by
      simpa [LivenessRow.inLifecycle, LivenessRow.withLifecycle] using settled
    have moved : casRow orgId [agentId] expected lifecycle row = row.withLifecycle lifecycle := if_pos first
    have movedEither : casRow orgId (agentId :: rest) expected lifecycle row = row.withLifecycle lifecycle := if_pos either
    rw [moved, movedEither]
    apply casRow_missed
    rw [once]
    simp
  · rw [casRow_missed orgId [agentId] expected lifecycle row first, casRow, casRow]
    simp only [List.mem_singleton] at first
    by_cases later : row.id ∈ rest
    · simp [later]
    · by_cases same : row.id = agentId
      · have missed : ¬ (row.orgId = orgId ∧ row.inLifecycle expected) := fun hit => first ⟨hit.1, same, hit.2⟩
        rw [if_neg fun hit => missed ⟨hit.1, hit.2.2⟩, if_neg fun hit => missed ⟨hit.1, hit.2.2⟩]
      · simp [later, same]

theorem inTurn_agent {Outcome : Type} (one : Fleet → WireUuid → Fleet × Outcome) (orgId : WireUuid)
    (expected : List AgentLifecycle) (lifecycle : AgentLifecycle) (settled : lifecycle ∉ expected)
    (moves : ∀ fleet agentId other row, fleet.agent other = some row →
      (one fleet agentId).1.agent other = some (casRow orgId [agentId] expected lifecycle row))
    (agentIds : List WireUuid) (fleet : Fleet) (other : WireUuid) (row : LivenessRow) (held : fleet.agent other = some row) :
    (inTurn one agentIds fleet).1.agent other = some (casRow orgId agentIds expected lifecycle row) := by
  induction agentIds generalizing fleet row with
  | nil =>
      rw [casRow_missed]
      · exact held
      · simp
  | cons agentId rest ih =>
      rw [← casRow_cons orgId agentId rest expected lifecycle settled row]
      exact ih (one fleet agentId).1 _ (moves fleet agentId other row held)

theorem names_found (exchange : IdentityExchange) (agentId : WireUuid) (row : LivenessRow)
    (held : fleet.agent agentId = some row) (missing : fleet.workspaceAgents.rows.find? exchange.names = none) :
    exchange.names row = false := by
  have absent := List.find?_eq_none.mp missing row (Table.find?_some fleet.workspaceAgents agentId row held).1
  simpa using absent

theorem ensureAgentRow_agent (rowId agentId : WireUuid) (exchange : IdentityExchange) (row : LivenessRow)
    (held : fleet.agent agentId = some row) :
    (fleetMachine.committed (.exchanged rowId exchange) fleet).agent agentId =
      some (if exchange.names row then exchange.conflictRow fleet.now row else row) := by
  simp only [Machine.committed, fleetMachine, fleetStep, ensureAgentRow]
  cases found : fleet.workspaceAgents.rows.find? exchange.names with
  | some other =>
      change (fleet.update exchange.names _ _).agent agentId = _
      rw [agent_update, held, Option.map_some]
  | none =>
      rw [names_found fleet exchange agentId row held found, if_neg Bool.false_ne_true]
      cases inserted : fleet.workspaceAgents.insert? (exchange.insertedRow rowId fleet.now) with
      | none => exact held
      | some after =>
          change after.find? agentId = some row
          have before : fleet.workspaceAgents.find? agentId = some row := held
          rw [Table.find?_insert _ after _ agentId inserted, before, Option.some_or]

theorem committed_agent (label : FleetLabel) (agentId : WireUuid) (row : LivenessRow)
    (held : fleet.agent agentId = some row) :
    (fleetMachine.committed label fleet).agent agentId = some (label.rowAfter fleet.now row) := by
  have updated (selected : LivenessRow → Bool) (change : LivenessRow → LivenessRow) (kept : ∀ row, (change row).id = row.id) :
      (fleet.update selected change kept).agent agentId = some (if selected row then change row else row) := by
    rw [agent_update, held, Option.map_some]
  cases label with
  | passes elapsed => exact held
  | exchanged rowId exchange => exact ensureAgentRow_agent fleet rowId agentId exchange row held
  | heartbeat other reported => exact updated (LivenessRow.isAgent other) (heartbeatRow fleet.now reported) _
  | disconnected other => exact updated (LivenessRow.isAgent other) (offlineRow fleet.now) _
  | shutdownComplete other => exact updated (LivenessRow.hit other [.draining]) (shutdownRow fleet.now) _
  | sweep locked => exact updated (sweepSelects locked) (sweptRow fleet.now fleet.now) _
  | configured other => exact updated (LivenessRow.hit other [.unconfigured]) (LivenessRow.withLifecycle .active) _
  | shutdownAgents orgId agentIds =>
      exact inTurn_agent (shutdownAgent orgId) orgId [.unconfigured, .active] .draining (by decide)
        (fun fleet agentId other row => shutdownAgent_agent fleet orgId agentId other row) agentIds fleet agentId row held
  | cancelShutdownAgents orgId agentIds =>
      exact inTurn_agent (cancelShutdownAgent orgId) orgId [.draining] .active (by decide)
        (fun fleet agentId other row => cancelShutdownAgent_agent fleet orgId agentId other row) agentIds fleet agentId row held

theorem casRow_identity (orgId : WireUuid) (agentIds : List WireUuid) (expected : List AgentLifecycle)
    (lifecycle : AgentLifecycle) (row : LivenessRow) :
    (casRow orgId agentIds expected lifecycle row).orgId = row.orgId ∧
      (casRow orgId agentIds expected lifecycle row).instanceId = row.instanceId ∧
      (casRow orgId agentIds expected lifecycle row).state = row.state := by
  unfold casRow
  split
  · exact ⟨rfl, rfl, rfl⟩
  · exact ⟨rfl, rfl, rfl⟩

theorem sweptRow_identity (now clock : Nat) (row : LivenessRow) :
    (sweptRow now clock row).orgId = row.orgId ∧ (sweptRow now clock row).instanceId = row.instanceId := by
  unfold sweptRow
  split
  · exact ⟨rfl, rfl⟩
  · dsimp only
    split
    · exact ⟨rfl, rfl⟩
    · split <;> exact ⟨rfl, rfl⟩

theorem sweptRow_state (now clock heartbeat : Nat) (row : LivenessRow) (beat : row.lastHeartbeatAt = some heartbeat) :
    (sweptRow now clock row).state = targetState (heartbeatAge now heartbeat) := by
  simp only [sweptRow, beat]
  split
  case isTrue same => exact same
  case isFalse moved =>
    split
    case isTrue settled => exact settled.1.symm
    case isFalse => rfl

theorem rowAfter_identity (label : FleetLabel) :
    (label.rowAfter now row).orgId = row.orgId ∧ (label.rowAfter now row).instanceId = row.instanceId := by
  have kept (chosen : Bool) (changed : LivenessRow) (same : changed.orgId = row.orgId ∧ changed.instanceId = row.instanceId) :
      (if chosen then changed else row).orgId = row.orgId ∧ (if chosen then changed else row).instanceId = row.instanceId := by
    split
    · exact same
    · exact ⟨rfl, rfl⟩
  cases label with
  | passes elapsed => exact ⟨rfl, rfl⟩
  | exchanged rowId exchange => exact kept _ _ ⟨rfl, rfl⟩
  | heartbeat agentId reported => exact kept _ _ ⟨rfl, rfl⟩
  | disconnected agentId => exact kept _ _ ⟨rfl, rfl⟩
  | shutdownComplete agentId => exact kept _ _ ⟨rfl, rfl⟩
  | sweep locked => exact kept _ _ (sweptRow_identity now now row)
  | configured agentId => exact kept _ _ ⟨rfl, rfl⟩
  | shutdownAgents orgId agentIds =>
      have same := casRow_identity orgId agentIds [.unconfigured, .active] .draining row
      exact ⟨same.1, same.2.1⟩
  | cancelShutdownAgents orgId agentIds =>
      have same := casRow_identity orgId agentIds [.draining] .active row
      exact ⟨same.1, same.2.1⟩

def FleetLabel.Revives (row : LivenessRow) : FleetLabel → Prop
  | .exchanged _ exchange => exchange.names row = true
  | .heartbeat agentId _ => row.id = agentId
  | _ => False

def FleetLabel.Closes (now : Nat) (row : LivenessRow) : FleetLabel → Prop
  | .disconnected agentId => row.id = agentId
  | .shutdownComplete agentId => row.hit agentId [.draining] = true
  | .sweep locked => sweepSelects locked row = true ∧ newlyOffline now row = true ∧ row.lifecycle = .draining
  | _ => False

def Closed (labels : List FleetLabel) (agentId : WireUuid) : Prop :=
  ∃ before label between row, labels = before ++ label :: between ∧ (fleetAfter before).agent agentId = some row ∧
    label.Closes (fleetAfter before).now row ∧ ∀ other ∈ between, ¬ other.Revives row

def IsOffline (labels : List FleetLabel) (agentId : WireUuid) : Prop :=
  ∃ row, (fleetAfter labels).agent agentId = some row ∧ row.state = .offline

def LeavesShutdown (labels : List FleetLabel) (label : FleetLabel) (agentId : WireUuid) : Prop :=
  ∃ next, (fleetAfter (labels ++ [label])).agent agentId = some next ∧
    (next.lifecycle = .shutdown ∨
      next.lifecycle = .unconfigured ∧ ∃ rowId exchange, label = .exchanged rowId exchange ∧ exchange.names next = true)

structure StaysOffline (labels : List FleetLabel) : Prop where
  offline : ∀ before agentId, before <+: labels → Closed before agentId → IsOffline before agentId
  shutdown : ∀ before label agentId row, before ++ [label] <+: labels → (fleetAfter before).agent agentId = some row →
    row.lifecycle = .shutdown → LeavesShutdown before label agentId

def SweepsSpare (labels : List FleetLabel) : Prop :=
  ∀ before locked agentId row heartbeat, before ++ [.sweep locked] <+: labels → Closed before agentId →
    (fleetAfter before).agent agentId = some row → sweepSelects locked row = true →
      row.lastHeartbeatAt = some heartbeat →
        (offlineThresholdSeconds * microseconds : Int) < heartbeatAge (fleetAfter before).now heartbeat

theorem fleetAfter_snoc (labels : List FleetLabel) (label : FleetLabel) :
    fleetAfter (labels ++ [label]) = fleetMachine.committed label (fleetAfter labels) := by
  rw [fleetAfter, Machine.after, List.foldl_append]
  rfl

theorem after_agent (labels : List FleetLabel) (label : FleetLabel) (agentId : WireUuid) (row : LivenessRow)
    (held : (fleetAfter labels).agent agentId = some row) :
    (fleetAfter (labels ++ [label])).agent agentId = some (label.rowAfter (fleetAfter labels).now row) := by
  rw [fleetAfter_snoc]
  exact committed_agent (fleetAfter labels) label agentId row held

theorem agent_kept (before more : List FleetLabel) (agentId : WireUuid) (row : LivenessRow)
    (held : (fleetAfter before).agent agentId = some row) :
    ∃ next, (fleetAfter (before ++ more)).agent agentId = some next ∧ next.orgId = row.orgId ∧
      next.instanceId = row.instanceId := by
  induction more using List.reverseRecOn with
  | nil => exact ⟨row, by rwa [List.append_nil], rfl, rfl⟩
  | append_singleton more label ih =>
      obtain ⟨next, present, orgs, instances⟩ := ih
      rw [← List.append_assoc]
      have moved := rowAfter_identity (fleetAfter (before ++ more)).now next label
      exact ⟨_, after_agent (before ++ more) label agentId next present, moved.1.trans orgs, moved.2.trans instances⟩

theorem revives_congr (label : FleetLabel) (row next : LivenessRow) (ids : next.id = row.id) (orgs : next.orgId = row.orgId)
    (instances : next.instanceId = row.instanceId) : label.Revives next ↔ label.Revives row := by
  cases label with
  | exchanged rowId exchange => simp only [FleetLabel.Revives, IdentityExchange.names, orgs, instances]
  | heartbeat agentId reported => rw [FleetLabel.Revives, FleetLabel.Revives, ids]
  | passes | disconnected | shutdownComplete | sweep | configured | shutdownAgents | cancelShutdownAgents => exact Iff.rfl

theorem closed_snoc (labels : List FleetLabel) (label : FleetLabel) (agentId : WireUuid)
    (closed : Closed (labels ++ [label]) agentId) :
    ∃ row, (fleetAfter labels).agent agentId = some row ∧
      (label.Closes (fleetAfter labels).now row ∨ Closed labels agentId ∧ ¬ label.Revives row) := by
  obtain ⟨before, closer, between, row, same, held, closes, quiet⟩ := closed
  induction between using List.reverseRecOn with
  | nil =>
      obtain ⟨rfl, last⟩ := List.append_inj' same rfl
      cases last
      exact ⟨row, held, .inl closes⟩
  | append_singleton between last ih =>
      rw [← List.cons_append, ← List.append_assoc] at same
      obtain ⟨rfl, ends⟩ := List.append_inj' same rfl
      cases ends
      obtain ⟨next, present, orgs, instances⟩ := agent_kept before (closer :: between) agentId row held
      have ids : next.id = row.id := (agent_id _ agentId next present).trans (agent_id _ agentId row held).symm
      refine ⟨next, present, .inr ⟨⟨before, closer, between, row, rfl, held, closes, ?_⟩, ?_⟩⟩
      · intro other member
        exact quiet other (List.mem_append_left _ member)
      · rw [revives_congr label row next ids orgs instances]
        exact quiet label (by simp)

theorem closed_swept (labels : List FleetLabel) (locked : List WireUuid) (agentId : WireUuid) (closed : Closed labels agentId) :
    Closed (labels ++ [.sweep locked]) agentId := by
  obtain ⟨before, closer, between, row, rfl, held, closes, quiet⟩ := closed
  refine ⟨before, closer, between ++ [.sweep locked], row, by simp, held, closes, ?_⟩
  intro other member
  rcases List.mem_append.mp member with early | last
  · exact quiet other early
  · rw [List.mem_singleton.mp last]
    exact not_false

theorem targetState_offline (age : Int) : targetState age = .offline ↔ (offlineThresholdSeconds * microseconds : Int) < age := by
  unfold targetState
  split
  case isTrue past => simpa using past
  case isFalse early =>
    split
    · simpa using early
    · simpa using early

theorem closing_offline (label : FleetLabel) (closes : label.Closes now row) :
    (label.rowAfter now row).state = .offline := by
  cases label with
  | disconnected agentId =>
      have hit : row.isAgent agentId = true := decide_eq_true closes
      simp [FleetLabel.rowAfter, hit, offlineRow]
  | shutdownComplete agentId =>
      have hit : row.hit agentId [.draining] = true := closes
      simp [FleetLabel.rowAfter, hit, shutdownRow]
  | sweep locked =>
      obtain ⟨selected, ended, _⟩ := closes
      unfold newlyOffline at ended
      split at ended
      case h_1 => cases ended
      case h_2 heartbeat beat =>
        rw [FleetLabel.rowAfter, if_pos selected, sweptRow_state now now heartbeat row beat]
        simp only [Bool.and_eq_true, beq_iff_eq] at ended
        exact ended.1
  | passes | exchanged | heartbeat | configured | shutdownAgents | cancelShutdownAgents => exact closes.elim

theorem quiet_offline (label : FleetLabel) (offline : row.state = .offline)
    (quiet : ¬ label.Revives row)
    (spared : ∀ locked heartbeat, label = .sweep locked → sweepSelects locked row = true →
      row.lastHeartbeatAt = some heartbeat → (offlineThresholdSeconds * microseconds : Int) < heartbeatAge now heartbeat) :
    (label.rowAfter now row).state = .offline := by
  have kept (chosen : Bool) (changed : LivenessRow) (same : changed.state = .offline) :
      (if chosen then changed else row).state = .offline := by
    split
    · exact same
    · exact offline
  cases label with
  | passes elapsed => exact offline
  | exchanged rowId exchange =>
      have missed : ¬ exchange.names row = true := quiet
      rw [FleetLabel.rowAfter, if_neg missed]
      exact offline
  | heartbeat agentId reported =>
      have missed : row.isAgent agentId = false := decide_eq_false quiet
      rw [FleetLabel.rowAfter, missed, if_neg Bool.false_ne_true]
      exact offline
  | disconnected agentId => exact kept _ _ rfl
  | shutdownComplete agentId => exact kept _ _ rfl
  | configured agentId => exact kept _ _ offline
  | shutdownAgents orgId agentIds => exact (casRow_identity orgId agentIds _ _ row).2.2.trans offline
  | cancelShutdownAgents orgId agentIds => exact (casRow_identity orgId agentIds _ _ row).2.2.trans offline
  | sweep locked =>
      by_cases selected : sweepSelects locked row = true
      · rw [FleetLabel.rowAfter, if_pos selected]
        cases beat : row.lastHeartbeatAt with
        | none =>
            simp only [sweptRow, beat]
            exact offline
        | some heartbeat =>
            rw [sweptRow_state now now heartbeat row beat, targetState_offline]
            exact spared locked heartbeat rfl selected beat
      · rw [FleetLabel.rowAfter, if_neg selected]
        exact offline

theorem shutdown_left (label : FleetLabel) (ended : row.lifecycle = .shutdown) :
    (label.rowAfter now row).lifecycle = .shutdown ∨
      (label.rowAfter now row).lifecycle = .unconfigured ∧
        ∃ rowId exchange, label = .exchanged rowId exchange ∧ exchange.names row = true := by
  have kept (chosen : Bool) (changed : LivenessRow) (same : changed.lifecycle = .shutdown) :
      (if chosen then changed else row).lifecycle = .shutdown := by
    split
    · exact same
    · exact ended
  have missed (orgId : WireUuid) (agentIds : List WireUuid) (expected : List AgentLifecycle) (lifecycle : AgentLifecycle)
      (other : .shutdown ∉ expected) : casRow orgId agentIds expected lifecycle row = row := by
    apply casRow_missed
    simp [LivenessRow.inLifecycle, ended, other]
  cases label with
  | passes elapsed => exact .inl ended
  | exchanged rowId exchange =>
      by_cases named : exchange.names row = true
      · refine .inr ⟨?_, rowId, exchange, rfl, named⟩
        rw [FleetLabel.rowAfter, if_pos named]
        exact if_pos ended
      · rw [FleetLabel.rowAfter, if_neg named]
        exact .inl ended
  | heartbeat agentId reported => exact .inl (kept _ _ ended)
  | disconnected agentId => exact .inl (kept _ _ ended)
  | shutdownComplete agentId => exact .inl (kept _ _ rfl)
  | sweep locked =>
      refine .inl ?_
      rw [FleetLabel.rowAfter, if_neg (by simp [sweepSelects, ended])]
      exact ended
  | configured agentId =>
      refine .inl ?_
      rw [FleetLabel.rowAfter, if_neg (by simp [LivenessRow.hit, LivenessRow.inLifecycle, ended])]
      exact ended
  | shutdownAgents orgId agentIds =>
      refine .inl ?_
      rw [FleetLabel.rowAfter, missed orgId agentIds _ _ (by decide)]
      exact ended
  | cancelShutdownAgents orgId agentIds =>
      refine .inl ?_
      rw [FleetLabel.rowAfter, missed orgId agentIds _ _ (by decide)]
      exact ended

theorem leaves_shutdown (labels : List FleetLabel) (label : FleetLabel) (agentId : WireUuid) (row : LivenessRow)
    (held : (fleetAfter labels).agent agentId = some row) (ended : row.lifecycle = .shutdown) :
    LeavesShutdown labels label agentId := by
  refine ⟨_, after_agent labels label agentId row held, ?_⟩
  rcases shutdown_left (fleetAfter labels).now row label ended with still | ⟨started, rowId, exchange, same, named⟩
  · exact .inl still
  · have identity := rowAfter_identity (fleetAfter labels).now row label
    refine .inr ⟨started, rowId, exchange, same, ?_⟩
    rw [IdentityExchange.names, identity.1, identity.2]
    exact named

theorem closed_offline (labels : List FleetLabel) (spare : SweepsSpare labels) (before : List FleetLabel)
    (reached : before <+: labels) (agentId : WireUuid) (closed : Closed before agentId) : IsOffline before agentId := by
  induction before using List.reverseRecOn with
  | nil =>
      obtain ⟨before, closer, between, _, same, _⟩ := closed
      simp at same
  | append_singleton before label ih =>
      obtain ⟨row, held, closes | ⟨earlier, quiet⟩⟩ := closed_snoc before label agentId closed
      · exact ⟨_, after_agent before label agentId row held, closing_offline _ row label closes⟩
      · obtain ⟨same, present, offline⟩ := ih ((List.prefix_append before [label]).trans reached) earlier
        rw [held] at present
        cases present
        refine ⟨_, after_agent before label agentId row held, quiet_offline _ row label offline quiet ?_⟩
        intro locked heartbeat swept selected beat
        rw [swept] at reached
        exact spare before locked agentId row heartbeat reached earlier held selected beat

theorem offline_spared (labels : List FleetLabel) (stays : StaysOffline labels) : SweepsSpare labels := by
  intro before locked agentId row heartbeat reached closed held selected beat
  obtain ⟨next, present, offline⟩ :=
    stays.offline (before ++ [.sweep locked]) agentId reached (closed_swept before locked agentId closed)
  rw [after_agent before (.sweep locked) agentId row held] at present
  cases present
  rw [FleetLabel.rowAfter, if_pos selected, sweptRow_state _ _ heartbeat row beat, targetState_offline] at offline
  exact offline

theorem disconnected_offline_iff (labels : List FleetLabel) : StaysOffline labels ↔ SweepsSpare labels := by
  constructor
  · exact offline_spared labels
  · intro spare
    refine ⟨fun before agentId reached => closed_offline labels spare before reached agentId, ?_⟩
    intro before label agentId row _ held ended
    exact leaves_shutdown before label agentId row held ended

def firstContact : IdentityExchange := {
  orgId := 1, instanceId := "agent-1", iamArn := "arn:aws:sts::123456789012:assumed-role/agent/agent-1"
  version := none, os := none, cpuCount := none, memoryBytes := none }

-- The agent says goodbye, and the next tick of the reaper finds its heartbeat fresh.
theorem sweep_revives : ¬ StaysOffline [.exchanged 7 firstContact, .disconnected 7, .sweep []] := by
  intro stays
  have closed : Closed [.exchanged 7 firstContact, .disconnected 7, .sweep []] 7 :=
    ⟨[.exchanged 7 firstContact], .disconnected 7, [.sweep []], firstContact.insertedRow 7 0, rfl, rfl, rfl, by
      intro other member
      rw [List.mem_singleton.mp member]
      exact not_false⟩
  obtain ⟨row, present, offline⟩ := stays.offline _ 7 List.prefix_rfl closed
  have swept : (fleetAfter [.exchanged 7 firstContact, .disconnected 7, .sweep []]).agent 7 =
      some { firstContact.insertedRow 7 0 with lastShutdownAt := some 0 } := rfl
  rw [swept] at present
  cases present
  cases offline

end Yaaos.Gateway
