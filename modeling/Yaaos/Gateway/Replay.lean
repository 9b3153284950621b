import Yaaos.Gateway.Run

set_option autoImplicit false

namespace Yaaos.Gateway

open Yaaos.Base

theorem rowChange_done (state : QueueState) (label : QueueLabel) (row next : AgentCommandRow)
    (done : row.status = .done) (changed : RowChange state label row next) : next = row := by
  cases label with
  | dispatch dispatched => exact changed
  | claim env agentId request =>
      rcases changed with ⟨_, _, took⟩ | ⟨_, same⟩
      · have pending := took.pending
        rw [done] at pending
        cases pending
      · exact same
  | event env event =>
      rw [show next = if row.id = event.commandId then eventRow event row else row from changed]
      split
      · cases row
        simp only at done
        subst done
        unfold eventRow
        split
        · rfl
        · split <;> rfl
      · rfl
  | requeue now locked =>
      have live : staleClaimed now locked row = false := by simp [staleClaimed, done]
      rw [show next = if staleClaimed now locked row then expireLease row else row from changed, live]
      rfl

theorem path_done (sha256 : String → String) (hydrated : AgentCommandKind → Bool) (first last : QueueState)
    (labels : List QueueLabel) (path : Path (gatewayQueue sha256 hydrated) first labels last) (row : AgentCommandRow)
    (done : row.status = .done) (member : row ∈ first.db.agentCommands.rows) : row ∈ last.db.agentCommands.rows := by
  refine path_keeps (gatewayQueue sha256 hydrated) (fun state => row ∈ state.db.agentCommands.rows) ?_ first last labels
    path member
  intro state label next present _ returned
  obtain ⟨after, later, changed⟩ := queueStep_forward state next label returned row present
  rw [rowChange_done state label row after done changed] at later
  exact later

theorem eventRow_terminal (event : AgentEvent) (row : AgentCommandRow) (terminal : event.isTerminal = true) :
    eventRow event row = retireRow row := by
  have unreceived : event.kind ≠ .received := by
    intro received
    simp [AgentEvent.isTerminal, received] at terminal
  rw [eventRow, if_neg unreceived, if_pos terminal]

theorem materialise_raises (env : EventEnv) (row : AgentCommandRow) (event : AgentEvent) (db : GatewayDb)
    (error : GatewayError) (raised : materialise env row event db = .error error) : error = .badPayload := by
  unfold materialise materialiseProvisionSuccess at raised
  split at raised
  · cases raised
  · split at raised
    · split at raised
      · cases raised
      · cases raised
      · split at raised
        · cases raised
          rfl
        · split at raised <;> cases raised
    · cases raised

theorem recordTerminalEvent_raises (env : EventEnv) (row : AgentCommandRow) (event : AgentEvent) (db : GatewayDb)
    (error : GatewayError) (raised : recordTerminalEvent env row event db = .error error) : error = .badPayload := by
  unfold recordTerminalEvent at raised
  simp only [bind, Except.bind] at raised
  split at raised
  · rename_i written
    cases raised
    exact materialise_raises env row event _ _ written
  · split at raised <;> cases raised

theorem recordAgentEvent_stale_iff (env : EventEnv) (event : AgentEvent) (db : GatewayDb) (row : AgentCommandRow)
    (member : row ∈ db.agentCommands.rows) (own : event.commandId = row.id) :
    recordAgentEvent env event db = .error (.staleClaim event.commandId) ↔
      ∃ hash, row.completionTokenHash = some hash ∧ env.sha256 (event.completionToken.getD "") ≠ hash := by
  have found : db.agentCommands.find? event.commandId = some row := own ▸ Table.find?_of_mem _ row member
  have checked : tokenAccepted env row event = false ↔
      ∃ hash, row.completionTokenHash = some hash ∧ env.sha256 (event.completionToken.getD "") ≠ hash := by
    cases stored : row.completionTokenHash with
    | none => simp [tokenAccepted, stored]
    | some hash => simp [tokenAccepted, stored]
  rw [← checked]
  cases accepted : tokenAccepted env row event with
  | false => simp [recordAgentEvent, found, accepted]
  | true =>
      simp only [recordAgentEvent, found, accepted, if_true, Bool.true_eq_false, iff_false]
      intro raised
      split at raised
      · cases raised
      · split at raised
        · cases recordTerminalEvent_raises env row event db _ raised
        · cases raised

structure Rejected (env : EventEnv) (event : AgentEvent) (state : QueueState) : Prop where
  stale : recordAgentEvent env event state.db = .error (.staleClaim event.commandId)
  unchanged : committed (.event env event) state = state

-- The docstring counts on the row being gone, but it is retired in place with its
-- hash: a replay is turned away only where its token would have been wrong anyway.
theorem replay_rejected_iff (sha256 : String → String) (hydrated : AgentCommandKind → Bool)
    (state retired last : QueueState) (labels : List QueueLabel) (row : AgentCommandRow) (firstEnv env : EventEnv)
    (firstEvent event : AgentEvent) (member : row ∈ state.db.agentCommands.rows)
    (own : firstEvent.commandId = row.id) (terminal : firstEvent.isTerminal = true)
    (accepted : queueStep state (.event firstEnv firstEvent) = .ok retired)
    (path : Path (gatewayQueue sha256 hydrated) retired labels last) (same : event.commandId = row.id) :
    Rejected env event last ↔
      ∃ hash, row.completionTokenHash = some hash ∧ env.sha256 (event.completionToken.getD "") ≠ hash := by
  have done : retireRow row ∈ retired.db.agentCommands.rows := by
    obtain ⟨after, present, changed⟩ := queueStep_forward state retired _ accepted row member
    have equal : after = retireRow row := by
      rw [show after = if row.id = firstEvent.commandId then eventRow firstEvent row else row from changed,
        if_pos own.symm, eventRow_terminal firstEvent row terminal]
    exact equal ▸ present
  have kept := path_done sha256 hydrated retired last labels path (retireRow row) rfl done
  have stale := recordAgentEvent_stale_iff env event last.db (retireRow row) kept same
  constructor
  · intro rejected
    exact stale.mp rejected.stale
  · intro wrong
    have raised := stale.mpr wrong
    exact ⟨raised, by simp only [committed, queueStep, raised, Except.map]⟩

def sampleEventEnv : EventEnv := {
  now := 1, sha256 := sampleSha256, consumers := ["pipelines"], plugins := fun _ => none
  providerId := "remote_agent", agentId := some (sampleId 4) }

def provisioned (token : String) : AgentEvent := {
  commandId := sampleId 6, kind := .completedSuccess, outcomeLabel := none, outputs := [], failureReason := none
  traceparent := "00-0af7651916cd43dd8448eb211c80319c-b7ad6b7169203331-01", completionToken := some token
  artifact := none, artifactError := none }

def claimedProvision : QueueState :=
  committed (.claim (sampleClaimEnv 0 "first") (sampleId 4) sampleRequest)
    (committed (.dispatch (sampleDispatch sampleProvision .unassigned)) .empty)

def claimedRow : AgentCommandRow :=
  stampClaim (sampleClaimEnv 0 "first") (sampleId 4) "first" (sampleDispatch sampleProvision .unassigned).row

def retiredProvision : QueueState := committed (.event sampleEventEnv (provisioned "first")) claimedProvision

theorem replay_rejected_provision : Rejected sampleEventEnv (provisioned "second") retiredProvision ↔
    ∃ hash, claimedRow.completionTokenHash = some hash ∧ sampleSha256 "second" ≠ hash :=
  replay_rejected_iff sampleSha256 (fun _ => false) claimedProvision retiredProvision retiredProvision [] claimedRow
    sampleEventEnv sampleEventEnv (provisioned "first") (provisioned "second") (List.mem_singleton.mpr rfl) rfl rfl rfl
    (.nil retiredProvision) rfl

-- The agent posts its terminal event twice, and the second one is taken as well.
theorem replay_accepted : ¬ ∀ (sha256 : String → String) (hydrated : AgentCommandKind → Bool)
    (state retired last : QueueState) (labels : List QueueLabel) (row : AgentCommandRow) (firstEnv env : EventEnv)
    (firstEvent event : AgentEvent) (_ : row ∈ state.db.agentCommands.rows) (_ : firstEvent.commandId = row.id)
    (_ : firstEvent.isTerminal = true) (_ : queueStep state (.event firstEnv firstEvent) = .ok retired)
    (_ : Path (gatewayQueue sha256 hydrated) retired labels last) (_ : event.commandId = row.id),
    Rejected env event last := by
  intro always
  have rejected := always sampleSha256 (fun _ => false) claimedProvision retiredProvision retiredProvision [] claimedRow
    sampleEventEnv sampleEventEnv (provisioned "first") (provisioned "first") (List.mem_singleton.mpr rfl) rfl rfl rfl
    (.nil retiredProvision) rfl
  have accepted : (recordAgentEvent sampleEventEnv (provisioned "first") retiredProvision.db).toOption.isSome = true := rfl
  rw [rejected.stale] at accepted
  cases accepted

end Yaaos.Gateway
