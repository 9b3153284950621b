import Yaaos.Base.Machine
import Yaaos.Gateway.Events
import Yaaos.Gateway.Payload

set_option autoImplicit false

namespace Yaaos.Gateway

open Yaaos.Base

inductive Route where
  | unassigned
  | pinned (agentId : WireUuid)
  | preStamped (agentId : WireUuid) (placeholderHash : String)

structure Dispatch where
  dispatchTp : Option String
  orgId : WireUuid
  command : AgentCommand
  runId : Option WireUuid
  route : Route

def routeRow : Route → AgentCommandRow → AgentCommandRow
  | .unassigned, row => row
  | .pinned agentId, row => pinRow agentId row
  | .preStamped agentId placeholderHash, row => preStampRow agentId placeholderHash row

theorem routeRow_id (route : Route) (row : AgentCommandRow) : (routeRow route row).id = row.id := by
  cases route <;> rfl

def routeCommand (commandId : WireUuid) : Route → GatewayDb → GatewayDb
  | .unassigned, db => db
  | .pinned agentId, db => pinCommandToAgent commandId agentId db
  | .preStamped agentId placeholderHash, db => preStampCommand commandId agentId placeholderHash db

def dispatchCommand (dispatched : Dispatch) (db : GatewayDb) : Except GatewayError GatewayDb :=
  (enqueueCommand dispatched.dispatchTp dispatched.orgId dispatched.command dispatched.runId db).map
    (routeCommand dispatched.command.commandId dispatched.route)

structure QueueState where
  db : GatewayDb
  handed : List WireUuid
  stamps : List (WireUuid × String)

inductive QueueLabel where
  | dispatch (dispatched : Dispatch)
  | claim (env : ClaimEnv) (agentId : WireUuid) (request : ClaimRequest)
  | event (env : EventEnv) (event : AgentEvent)
  | requeue (now : Nat) (locked : WireUuid → Bool)

def claimStamps (env : ClaimEnv) (agentId : WireUuid) (request : ClaimRequest) (db : GatewayDb) :
    List (WireUuid × String) :=
  (takenUp env agentId request hydrationRetireCap db.agentCommands.rows).zipIdx.map fun entry =>
    (entry.1.id, env.sha256 (env.token entry.2))

def queueStep (state : QueueState) : QueueLabel → Except GatewayError QueueState
  | .dispatch dispatched => (dispatchCommand dispatched state.db).map fun db => { state with db := db }
  | .claim env agentId request =>
      (claimRow env agentId request state.db).map fun claimed => {
        db := claimed.1, handed := (claimed.2.map fun pair => pair.1.id).toList ++ state.handed
        stamps := claimStamps env agentId request state.db ++ state.stamps }
  | .event env event => (recordAgentEvent env event state.db).map fun db => { state with db := db }
  | .requeue now locked => .ok { state with db := requeueStaleClaimed now locked state.db }

structure QueueLabel.Allowed (sha256 : String → String) (hydrated : AgentCommandKind → Bool) (label : QueueLabel) :
    Prop where
  claimHash : ∀ env agentId request, label = .claim env agentId request → env.sha256 = sha256
  claimHydrators : ∀ env agentId request, label = .claim env agentId request →
    ∀ kind, (env.hydrators kind).isSome = hydrated kind
  eventHash : ∀ env event, label = .event env event → env.sha256 = sha256

def gatewayQueue (sha256 : String → String) (hydrated : AgentCommandKind → Bool) :
    Machine QueueState QueueLabel GatewayError where
  initial := fun state => state.db.agentCommands = .empty ∧ state.handed = [] ∧ state.stamps = []
  allowed := fun _ label => label.Allowed sha256 hydrated
  step := queueStep

variable (sha256 : String → String) (hydrated : AgentCommandKind → Bool) (dispatched : Dispatch)
  (state next : QueueState) (label : QueueLabel)

theorem allowed_dispatch :
    (QueueLabel.dispatch dispatched).Allowed sha256 hydrated where
  claimHash := by intros; contradiction
  claimHydrators := by intros; contradiction
  eventHash := by intros; contradiction

theorem allowed_claim (env : ClaimEnv)
    (agentId : WireUuid) (request : ClaimRequest) (hash : env.sha256 = sha256)
    (hydrators : ∀ kind, (env.hydrators kind).isSome = hydrated kind) :
    (QueueLabel.claim env agentId request).Allowed sha256 hydrated where
  claimHash := by
    intro other _ _ same
    cases same
    exact hash
  claimHydrators := by
    intro other _ _ same
    cases same
    exact hydrators
  eventHash := by intros; contradiction

theorem allowed_event (env : EventEnv)
    (event : AgentEvent) (hash : env.sha256 = sha256) : (QueueLabel.event env event).Allowed sha256 hydrated where
  claimHash := by intros; contradiction
  claimHydrators := by intros; contradiction
  eventHash := by
    intro other _ same
    cases same
    exact hash

theorem allowed_requeue (now : Nat)
    (locked : WireUuid → Bool) : (QueueLabel.requeue now locked).Allowed sha256 hydrated where
  claimHash := by intros; contradiction
  claimHydrators := by intros; contradiction
  eventHash := by intros; contradiction

def Dispatch.effectiveTp (dispatched : Dispatch) : String :=
  dispatched.dispatchTp.getD dispatched.command.traceparent

def Dispatch.payload (dispatched : Dispatch) : Dict Json :=
  queuedPayload dispatched.effectiveTp dispatched.command dispatched.runId

def Dispatch.row (dispatched : Dispatch) : AgentCommandRow :=
  routeRow dispatched.route {
    id := dispatched.command.commandId, orgId := dispatched.orgId
    workspaceId := queuedWorkspaceId dispatched.command, runId := dispatched.runId
    commandKind := dispatched.command.kind, payload := dispatched.payload, status := .pending, agentId := none
    completionTokenHash := none, claimedAt := none, attempt := 0 }

theorem dispatch_row_id : dispatched.row.id = dispatched.command.commandId := by
  rw [Dispatch.row, routeRow_id]

theorem dispatch_row_origin : dispatched.row.origin = {
    orgId := dispatched.orgId, workspaceId := queuedWorkspaceId dispatched.command, runId := dispatched.runId
    commandKind := dispatched.command.kind, payload := dispatched.payload } := by
  unfold Dispatch.row
  cases dispatched.route <;> rfl

theorem dispatch_row_fresh :
    dispatched.row.status = .pending ∧ dispatched.row.attempt = 0 := by
  unfold Dispatch.row
  cases dispatched.route <;> exact ⟨rfl, rfl⟩

theorem routeCommand_rows (commandId : WireUuid) (route : Route) (db : GatewayDb) :
    (routeCommand commandId route db).agentCommands.rows =
      db.agentCommands.rows.map fun row => if row.id = commandId then routeRow route row else row := by
  cases route with
  | unassigned => simp [routeCommand, routeRow]
  | pinned agentId =>
      simp [routeCommand, routeRow, pinCommandToAgent, GatewayDb.updateCommand, Table.update]
  | preStamped agentId placeholderHash =>
      simp [routeCommand, routeRow, preStampCommand, GatewayDb.updateCommand, Table.update]

theorem routeCommand_commandsOnly (commandId : WireUuid) (route : Route) (db : GatewayDb) :
    CommandsOnly db (routeCommand commandId route db) := by
  cases route with
  | unassigned => exact ⟨rfl, rfl, rfl, rfl⟩
  | pinned agentId => exact updateCommand_commandsOnly _ _ _ _
  | preStamped agentId placeholderHash => exact updateCommand_commandsOnly _ _ _ _

structure DispatchSpec (dispatched : Dispatch) (before after : GatewayDb) : Prop where
  rows : after.agentCommands.rows = before.agentCommands.rows ++ [dispatched.row]
  fresh : ∀ other ∈ before.agentCommands.rows, other.id ≠ dispatched.row.id
  others : CommandsOnly before after

theorem dispatchCommand_spec (before after : GatewayDb)
    (returned : dispatchCommand dispatched before = .ok after) : DispatchSpec dispatched before after := by
  unfold dispatchCommand enqueueCommand enqueueCommandPayload at returned
  simp only [Option.getD_some] at returned
  split at returned
  · split at returned
    · cases returned
    · rename_i agentCommands inserted
      cases returned
      obtain ⟨rows, fresh⟩ := Table.insert?_some _ _ _ inserted
      refine ⟨?_, ?_, ?_⟩
      · rw [routeCommand_rows, rows, List.map_append]
        congr 1
        · rw [List.map_congr_left fun row member => if_neg (fresh row member), List.map_id']
        · rw [List.map_singleton, if_pos rfl]
          rfl
      · intro other member
        rw [dispatch_row_id]
        exact fresh other member
      · exact commandsOnly_trans before { before with agentCommands := agentCommands } _ ⟨rfl, rfl, rfl, rfl⟩
          (routeCommand_commandsOnly _ _ _)
  · cases returned

theorem routeCommand_only (commandId : WireUuid) (route : Route) (db : GatewayDb) :
    routeCommand commandId route db = { db with agentCommands := (routeCommand commandId route db).agentCommands } := by
  cases route <;> rfl

theorem dispatchCommand_enqueues (db : GatewayDb)
    (minted : uuidv7Check dispatched.command.commandId.val = true)
    (stored : (Json.obj dispatched.payload).storable = true)
    (fresh : dispatched.row.id ∉ db.agentCommands.rows.map AgentCommandRow.id) :
    dispatchCommand dispatched db = .ok { db with agentCommands := {
      rows := db.agentCommands.rows ++ [dispatched.row], unique := Table.append_unique _ _ fresh } } := by
  unfold dispatchCommand enqueueCommand enqueueCommandPayload
  simp only [Option.getD_some]
  rw [if_pos]
  · rw [dispatch_row_id] at fresh
    simp only [Table.insert?, dif_neg fresh, Except.map]
    rw [routeCommand_only]
    refine congrArg (fun commands => Except.ok { db with agentCommands := commands }) (Table.ext_rows _ _ ?_)
    rw [routeCommand_rows, List.map_append, List.map_singleton, if_pos rfl]
    refine congrArg (· ++ [dispatched.row]) ((List.map_congr_left fun row member => if_neg fun same => fresh ?_).trans
      (List.map_id' _))
    rw [← same]
    exact List.mem_map_of_mem member
  · rw [Bool.and_eq_true]
    exact ⟨minted, stored⟩

structure Enqueueable (dispatched : Dispatch) (db : GatewayDb) : Prop where
  minted : uuidv7Check dispatched.command.commandId.val = true
  stored : (Json.obj dispatched.payload).storable = true
  unused : ∀ other ∈ db.agentCommands.rows, other.id ≠ dispatched.row.id

theorem dispatchCommand_enqueueable (before after : GatewayDb)
    (returned : dispatchCommand dispatched before = .ok after) : Enqueueable dispatched before := by
  have unused := (dispatchCommand_spec dispatched before after returned).fresh
  unfold dispatchCommand enqueueCommand enqueueCommandPayload at returned
  simp only [Option.getD_some] at returned
  split at returned
  · rename_i both
    rw [Bool.and_eq_true] at both
    exact ⟨both.1, both.2, unused⟩
  · cases returned

theorem queueStep_enqueues (state : QueueState) (dispatched : Dispatch) :
    (∃ queued, queueStep state (.dispatch dispatched) = .ok queued) ↔ Enqueueable dispatched state.db := by
  simp only [queueStep]
  constructor
  · rintro ⟨queued, returned⟩
    cases committed : dispatchCommand dispatched state.db with
    | error error => simp [committed, Except.map] at returned
    | ok db => exact dispatchCommand_enqueueable dispatched state.db db committed
  · intro can
    have unused : ∀ other ∈ state.db.agentCommands.rows, other.id ≠ dispatched.row.id := can.unused
    rw [dispatchCommand_enqueues dispatched state.db can.minted can.stored (by
      intro member
      obtain ⟨other, held, same⟩ := List.mem_map.mp member
      exact unused other held same)]
    exact ⟨_, rfl⟩

def RowChange (state : QueueState) (label : QueueLabel) (row next : AgentCommandRow) : Prop :=
  match label with
  | .dispatch _ => next = row
  | .claim env agentId request => ClaimedRow env agentId request 0
      (takenUp env agentId request hydrationRetireCap state.db.agentCommands.rows) row next
  | .event _ event => next = if row.id = event.commandId then eventRow event row else row
  | .requeue now locked => next = if staleClaimed now locked row then expireLease row else row

theorem eventRow_origin (event : AgentEvent) (row : AgentCommandRow) : (eventRow event row).origin = row.origin := by
  unfold eventRow
  split
  · rfl
  · split <;> rfl

theorem expireLease_origin (row : AgentCommandRow) : (expireLease row).origin = row.origin := by
  unfold expireLease
  split <;> rfl

theorem rowChange_kept (state : QueueState) (label : QueueLabel) (row next : AgentCommandRow)
    (changed : RowChange state label row next) : next.id = row.id ∧ next.origin = row.origin := by
  cases label with
  | dispatch dispatched =>
      rw [show next = row from changed]
      exact ⟨rfl, rfl⟩
  | claim env agentId request =>
      rcases changed with ⟨_, _, took⟩ | ⟨_, same⟩
      · exact ⟨took.sameId, took.sameOrigin⟩
      · rw [same]
        exact ⟨rfl, rfl⟩
  | event env event =>
      rw [show next = if row.id = event.commandId then eventRow event row else row from changed]
      split
      · exact ⟨eventRow_id event row, eventRow_origin event row⟩
      · exact ⟨rfl, rfl⟩
  | requeue now locked =>
      rw [show next = if staleClaimed now locked row then expireLease row else row from changed]
      split
      · exact ⟨expireLease_id row, expireLease_origin row⟩
      · exact ⟨rfl, rfl⟩

theorem queueStep_dispatch (dispatched : Dispatch)
    (returned : queueStep state (.dispatch dispatched) = .ok next) :
    DispatchSpec dispatched state.db next.db ∧ next.handed = state.handed ∧ next.stamps = state.stamps := by
  simp only [queueStep] at returned
  cases committed : dispatchCommand dispatched state.db with
  | error error => simp [committed, Except.map] at returned
  | ok db =>
      simp only [committed, Except.map, Except.ok.injEq] at returned
      subst returned
      exact ⟨dispatchCommand_spec dispatched state.db db committed, rfl, rfl⟩

theorem queueStep_claim (env : ClaimEnv) (agentId : WireUuid) (request : ClaimRequest)
    (returned : queueStep state (.claim env agentId request) = .ok next) :
    ∃ handed, ClaimSpec env agentId request 0
        (takenUp env agentId request hydrationRetireCap state.db.agentCommands.rows) state.db next.db handed ∧
      next.handed = (handed.map fun pair => pair.1.id).toList ++ state.handed ∧
      next.stamps = claimStamps env agentId request state.db ++ state.stamps := by
  simp only [queueStep] at returned
  cases committed : claimRow env agentId request state.db with
  | error error => simp [committed, Except.map] at returned
  | ok claimed =>
      simp only [committed, Except.map, Except.ok.injEq] at returned
      subst returned
      exact ⟨claimed.2, claimRow_spec env agentId request state.db claimed.1 claimed.2 committed, rfl, rfl⟩

theorem queueStep_event (env : EventEnv) (event : AgentEvent)
    (returned : queueStep state (.event env event) = .ok next) :
    recordAgentEvent env event state.db = .ok next.db ∧ next.handed = state.handed ∧ next.stamps = state.stamps := by
  simp only [queueStep] at returned
  cases committed : recordAgentEvent env event state.db with
  | error error => simp [committed, Except.map] at returned
  | ok db =>
      simp only [committed, Except.map, Except.ok.injEq] at returned
      subst returned
      exact ⟨rfl, rfl, rfl⟩

theorem queueStep_rows (returned : queueStep state label = .ok next) :
    Table.Rewrites (RowChange state label) state.db.agentCommands next.db.agentCommands ∨
      ∃ dispatched, label = .dispatch dispatched ∧ DispatchSpec dispatched state.db next.db := by
  cases label with
  | dispatch dispatched => exact .inr ⟨dispatched, rfl, (queueStep_dispatch state next dispatched returned).1⟩
  | claim env agentId request =>
      obtain ⟨handed, spec, _⟩ := queueStep_claim state next env agentId request returned
      exact .inl spec.rewrites
  | event env event =>
      obtain ⟨recorded, _⟩ := queueStep_event state next env event returned
      refine .inl ?_
      rw [(recordAgentEvent_spec env event state.db next.db recorded).commands]
      refine Table.rewrites_update _ _ _ (eventRow event) (eventRow_id event) ?_ ?_
      · intro row _ missed
        simp only [RowChange, if_neg (of_decide_eq_false missed)]
      · intro row _ hit
        simp only [RowChange, if_pos (of_decide_eq_true hit)]
  | requeue now locked =>
      simp only [queueStep, Except.ok.injEq] at returned
      subst returned
      refine .inl (Table.rewrites_update _ _ _ expireLease expireLease_id ?_ ?_)
      · intro row _ missed
        simp only [RowChange, missed, Bool.false_eq_true, if_false]
      · intro row _ hit
        simp only [RowChange, hit, if_true]

theorem queueStep_forward (returned : queueStep state label = .ok next)
    (row : AgentCommandRow) (member : row ∈ state.db.agentCommands.rows) :
    ∃ after ∈ next.db.agentCommands.rows, RowChange state label row after := by
  rcases queueStep_rows state next label returned with rewrites | ⟨dispatched, same, spec⟩
  · exact Table.rewrites_forward _ _ _ rewrites row member
  · subst same
    refine ⟨row, ?_, rfl⟩
    rw [spec.rows]
    exact List.mem_append_left _ member

theorem queueStep_backward (returned : queueStep state label = .ok next)
    (after : AgentCommandRow) (member : after ∈ next.db.agentCommands.rows) :
    (∃ row ∈ state.db.agentCommands.rows, RowChange state label row after) ∨
      ∃ dispatched, label = .dispatch dispatched ∧ after = dispatched.row ∧
        ∀ other ∈ state.db.agentCommands.rows, other.id ≠ after.id := by
  rcases queueStep_rows state next label returned with rewrites | ⟨dispatched, same, spec⟩
  · exact .inl (Table.rewrites_backward _ _ _ rewrites after member)
  · subst same
    rw [spec.rows, List.mem_append, List.mem_singleton] at member
    rcases member with old | new
    · exact .inl ⟨after, old, rfl⟩
    · rw [new]
      exact .inr ⟨dispatched, rfl, rfl, spec.fresh⟩

theorem path_row (first last : QueueState)
    (labels : List QueueLabel) (path : Path (gatewayQueue sha256 hydrated) first labels last) (row : AgentCommandRow)
    (member : row ∈ first.db.agentCommands.rows) :
    ∃ after ∈ last.db.agentCommands.rows, after.id = row.id ∧ after.origin = row.origin := by
  refine path_keeps (gatewayQueue sha256 hydrated)
    (fun state => ∃ after ∈ state.db.agentCommands.rows, after.id = row.id ∧ after.origin = row.origin) ?_ first last
    labels path ⟨row, member, rfl, rfl⟩
  rintro state label next ⟨after, present, sameId, sameOrigin⟩ _ returned
  obtain ⟨later, laterPresent, changed⟩ := queueStep_forward state next label returned after present
  obtain ⟨keptId, keptOrigin⟩ := rowChange_kept state label after later changed
  exact ⟨later, laterPresent, keptId.trans sameId, keptOrigin.trans sameOrigin⟩

def committed (label : QueueLabel) (state : QueueState) : QueueState :=
  match queueStep state label with
  | .ok next => next
  | .error _ => state

theorem reachable_committed (state : QueueState)
    (label : QueueLabel) (reachable : Reachable (gatewayQueue sha256 hydrated) state)
    (allowed : label.Allowed sha256 hydrated) : Reachable (gatewayQueue sha256 hydrated) (committed label state) := by
  unfold committed
  cases taken : queueStep state label with
  | error _ => exact reachable
  | ok next => exact reachable_step (gatewayQueue sha256 hydrated) state next label reachable allowed taken

def GatewayDb.empty : GatewayDb := {
  agentCommands := .empty, workspaceAgents := .empty, workspaces := .empty, codingAgentRuns := .empty
  codingAgentActivity := [], outbox := [] }

def QueueState.empty : QueueState := { db := .empty, handed := [], stamps := [] }

theorem reachable_empty :
    Reachable (gatewayQueue sha256 hydrated) QueueState.empty :=
  ⟨QueueState.empty, [], ⟨rfl, rfl, rfl⟩, .nil QueueState.empty⟩

-- A small gateway for the concrete runs: its ids are uuid7s, and the hash is the
-- digest of the only two tokens these runs draw and of the missing one.
def sampleId (sequence : Nat) : WireUuid := Fin.ofNat (2 ^ 128) (0x019a0000000070008000000000000000 + sequence)

def sampleSha256 : String → String
  | "" => "e3b0c44298fc1c149afbf4c8996fb92427ae41e4649b934ca495991b7852b855"
  | "first" => "a7937b64b8caa58f03721bb6bacf5c78cb235febe0e70b1b84cd99541461a08e"
  | "second" => "16367aacb67a4a017c8da8ab95682ccb390863780f7114dda0a0e0c55644c7c4"
  | other => other

def sampleBase (sequence : Nat) : CommandBase := {
  commandId := sampleId sequence, workspaceId := sampleId 1, traceparent := "", completionToken := none, runId := none }

def sampleDispatch (command : AgentCommand) (route : Route) : Dispatch := {
  dispatchTp := some "00-0af7651916cd43dd8448eb211c80319c-b7ad6b7169203331-01", orgId := sampleId 2
  command := command, runId := some (sampleId 3), route := route }

def sampleClaimEnv (now : Nat) (token : String) : ClaimEnv := {
  now := now, token := fun _ => token, sha256 := sampleSha256, locked := fun _ => false
  hydrators := fun _ => none, consumers := ["pipelines"] }

def sampleRequest : ClaimRequest := { lifecycle := .active, newWorkspaces := 1, workspaceIds := [sampleId 1] }

def sampleProvision : AgentCommand := .provisionWorkspace (sampleBase 6) {
  repo := {
    pluginId := "github", externalId := "42", cloneUrl := "https://github.com/me/repo.git", headSha := none
    baseSha := none, branchName := some "main", checkoutMode := by decide }
  history := ⟨50, by decide⟩, auth := { kind := .githubInstallation, token := "installation-token" }
  ttlSeconds := ⟨600, by decide⟩, maxIdleSeconds := ⟨1800, by decide⟩
  gitUserName := defaultGitUserName, gitUserEmail := defaultGitUserEmail }

theorem sampleClaim_allowed (now : Nat) (token : String) (agentId : WireUuid) :
    (QueueLabel.claim (sampleClaimEnv now token) agentId sampleRequest).Allowed sampleSha256 fun _ => false :=
  allowed_claim _ _ _ _ _ rfl fun _ => rfl

end Yaaos.Gateway
