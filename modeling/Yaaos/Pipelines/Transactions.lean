import Yaaos.Pipelines.Orders
import Yaaos.Pipelines.Slots

set_option autoImplicit false

namespace Yaaos.Pipelines

open Yaaos.Base

structure Renews (run next : PipelineRun) : Prop where
  id : next.id = run.id
  ticketId : next.ticketId = run.ticketId
  pins : next.kickoff.pins = run.kickoff.pins
  workspaceId : next.workspaceId = run.workspaceId
  completed : run.state = .completed → next.state = .completed

structure Opens (db opened : Db) (run next : PipelineRun) : Prop where
  member : run ∈ db.runs.rows
  flies : run.inFlight = true
  renews : Renews run next
  orders : opened.orders = db.orders
  nextId : opened.nextId = db.nextId
  runs : opened.runs = db.runs
  workspaces : opened.workspaces = db.workspaces
  tickets : opened.tickets = db.tickets
  findings : opened.findings = db.findings

def StaysBound (before after : Db) : Prop :=
  ∀ ticketId, (before.boundPr ticketId).isSome = true → (after.boundPr ticketId).isSome = true

inductive Transacts (db : Db) : Label → Db → Prop where
  | rests (label : Label) (after : Db) (orders : after.orders = db.orders) (nextId : db.nextId ≤ after.nextId)
      (runs : after.runs = db.runs) (workspaceIds : after.workspaceIds = db.workspaceIds) (bound : StaysBound db after)
      (minted : db.Minted → after.Minted) : Transacts db label after
  | inserts (label : Label) (run : PipelineRun) (fresh : run.id = db.nextId) (bare : run.workspaceId = none) :
      Transacts db label (insertRun db run)
  | saves (label : Label) (run saved : PipelineRun) (member : run ∈ db.runs.rows) (renews : Renews run saved) :
      Transacts db label (db.saveRun saved)
  | concludes (label : Label) (env : Env) (opened : Db) (run next : PipelineRun) (last : Session)
      (subject : label.subject db = some run.id) (opens : Opens db opened run next)
      (concludes : Concludes env ⟨opened, next⟩ last) : Transacts db label last.commit
  | materialises (event : TerminalEvent) (command : AgentCommand) (after : Db) (member : command ∈ db.agentCommands)
      (named : command.id = event.commandId) (provision : command.body.isProvision = true)
      (succeeded : event.succeeded = true) (orders : after.orders = db.orders) (nextId : after.nextId = db.nextId)
      (runs : after.runs = db.runs)
      (workspaceIds : after.workspaceIds = db.workspaceIds ∨
        after.workspaceIds = db.workspaceIds ++ [command.workspaceId])
      (bound : StaysBound db after) (minted : db.Minted → after.Minted) : Transacts db (.terminalEvent event) after

section Transacting

variable (env : Env) (db : Db)

theorem renews_refl (run : PipelineRun) : Renews run run := ⟨rfl, rfl, rfl, rfl, id⟩

theorem running_flies (run : PipelineRun) (running : run.state = .running) : run.inFlight = true := by
  simp [PipelineRun.inFlight, running]

theorem paused_flies (run : PipelineRun) (paused : run.state = .paused) : run.inFlight = true := by
  simp [PipelineRun.inFlight, paused]

theorem requestCancel_transacts (orgId runId : Uuid) :
    Ensures (requestCancel env db orgId runId) (Transacts db (.requestCancel env orgId runId)) := by
  intro next taken
  cases requestCancel_cancels env db orgId runId next taken with
  | queued run member named queued =>
      refine .saves _ run _ member ⟨rfl, rfl, rfl, rfl, fun completed => ?_⟩
      rw [queued] at completed
      cases completed
  | running run member named state => exact .saves _ run _ member ⟨rfl, rfl, rfl, rfl, fun same => same⟩
  | paused run pause last member named paused listed opened done =>
      exact .concludes _ env db run run last (congrArg some named.symm)
        ⟨member, paused_flies run paused, renews_refl run, rfl, rfl, rfl, rfl, rfl, rfl⟩
        (cancelPaused_concludes env ⟨db, run⟩ pause last done)

theorem resolvePause_transacts (orgId pauseId : Uuid) (resolution : PauseResolution) (actor : Actor)
    (coherent : Coherent db) : Ensures (resolvePause env db orgId pauseId resolution actor)
      (Transacts db (.resolvePause env orgId pauseId resolution actor)) := by
  intro next taken
  obtain ⟨run, pause, closed, last, resolving, done, same⟩ :=
    resolvePause_resolves env db orgId pauseId resolution actor next taken
  obtain ⟨state, _⟩ := resolving_answered db pauseId resolution run pause closed coherent resolving
  rw [same]
  exact .concludes _ env db run (answered db run closed).run last (by rw [Label.subject, resolving.found]; rfl)
    ⟨resolving.member, paused_flies run state, ⟨rfl, rfl, rfl, rfl, id⟩, rfl, rfl, rfl, rfl, rfl, rfl⟩
    (resolveWith_concludes env (answered db run closed) pause resolution last done)

theorem deliver_transacts (position : Nat) :
    Ensures (deliver env db position) (Transacts db (.deliver env position)) := by
  intro next taken
  cases deliver_delivered env db position next taken with
  | skips message at_ passed => exact .rests _ _ rfl (Nat.le_refl _) rfl rfl (fun _ => id) id
  | works message run last at_ named member running done =>
      refine .concludes _ env (db.taken position) run run last (by rw [Label.subject, at_, Option.bind_some, named])
        ⟨member, running_flies run running, renews_refl run, rfl, rfl, rfl, rfl, rfl, rfl⟩
        (worked_concludes env _ _ (work_worked env _ message last done))

theorem retireCommand_orders (commandId : Uuid) : (retireCommand db commandId).orders = db.orders := by
  rw [retireCommand, Db.orders, Db.orders, List.map_map]
  refine List.map_congr_left fun command _ => ?_
  simp only [Function.comp]
  split <;> rfl

theorem releaseClaim_ids (commandId : Uuid) : (releaseClaim db commandId).workspaceIds = db.workspaceIds := by
  rw [releaseClaim, Db.workspaceIds, Db.workspaceIds]
  simp only [Table.update, List.map_map]
  refine List.map_congr_left fun row _ => ?_
  simp only [Function.comp]
  split <;> rfl

theorem materialiseWorkspace_ids (command : AgentCommand) (event : TerminalEvent) :
    (materialiseWorkspace db command event).workspaceIds = db.workspaceIds ∨
      (materialiseWorkspace db command event).workspaceIds = db.workspaceIds ++ [command.workspaceId] := by
  rw [materialiseWorkspace, Db.workspaceIds, Db.workspaceIds]
  let row : Workspace :=
    { id := command.workspaceId, orgId := command.orgId, status := .active, currentCommandId := none,
      owningAgentId := some event.agentId, expiresAt := event.expiresAt }
  cases inserted : db.workspaces.insert? row with
  | none => exact .inl rfl
  | some table =>
      simp only [Option.getD_some]
      rw [(Table.insert?_some _ _ _ inserted).1, List.map_append]
      exact .inr rfl

theorem recordTerminalEvent_transacts (event : TerminalEvent) :
    Ensures (recordTerminalEvent db event) (Transacts db (.terminalEvent event)) := by
  rw [recordTerminalEvent]
  cases found : db.agentCommands.find? fun row => row.id == event.commandId with
  | none => exact ensures_error _ _
  | some command =>
      simp only
      let retired := retireCommand (releaseClaim db event.commandId) event.commandId
      have orders : retired.orders = db.orders := retireCommand_orders (releaseClaim db event.commandId) event.commandId
      have ids : retired.workspaceIds = db.workspaceIds := releaseClaim_ids db event.commandId
      split
      · rename_i provision
        rw [Bool.and_eq_true] at provision
        refine ensures_ok _ _ (.materialises event command _ (List.mem_of_find?_eq_some found)
          (by simpa using List.find?_some found) provision.1 provision.2 orders rfl rfl ?_ (fun _ => id) id)
        have grown := materialiseWorkspace_ids retired command event
        rw [ids] at grown
        exact grown
      · exact ensures_ok _ _ (.rests _ _ orders (Nat.le_refl _) rfl ids (fun _ => id) id)

theorem createTicket_bound (ticket : Ticket) :
    StaysBound db { db with tickets := (db.tickets.insert? ticket).getD db.tickets } := by
  intro ticketId bound
  cases inserted : db.tickets.insert? ticket with
  | none => exact bound
  | some tickets =>
      have grown : tickets.find? ticketId = (db.tickets.find? ticketId).or (if ticket.id = ticketId then some ticket else none) :=
        Table.find?_insert db.tickets tickets ticket ticketId inserted
      simp only [Db.boundPr, Option.getD_some, grown] at bound ⊢
      cases found : db.tickets.find? ticketId with
      | none => simp [found] at bound
      | some row => simpa [found] using bound

theorem bindPullRequest_bound (ticketId prId : Uuid) :
    StaysBound db (db.updateTicket ticketId (fun _ => true) (fun row => { row with prId := some prId }) fun _ => rfl) := by
  intro other bound
  simp only [Db.boundPr, Db.updateTicket, Table.find?_update] at bound ⊢
  cases found : db.tickets.find? other with
  | none => simp [found] at bound
  | some row =>
      rw [found, Option.bind_some] at bound
      rw [Option.map_some, Option.bind_some]
      split
      · rfl
      · exact bound

theorem engineStep_transacts (label : Label) (coherent : Coherent db) : Ensures (engineStep db label) (Transacts db label) := by
  have inserted (next : Db) (started : Started db (label.Allowed db) next) : Transacts db label next := by
    cases started
    exact .inserts label _ rfl rfl
  cases label with
  | startRun => exact ensures_mono _ _ _ (engineStep_started db _ rfl) inserted
  | startRerun => exact ensures_mono _ _ _ (engineStep_started db _ rfl) inserted
  | startRerunFromStage => exact ensures_mono _ _ _ (engineStep_started db _ rfl) inserted
  | requestCancel env orgId runId => exact requestCancel_transacts env db orgId runId
  | resolvePause env orgId pauseId resolution actor =>
      exact resolvePause_transacts env db orgId pauseId resolution actor coherent
  | deliver env position => exact deliver_transacts env db position
  | terminalEvent event => exact recordTerminalEvent_transacts db event
  | workspaceStatus workspaceId status =>
      exact ensures_ok _ _ (.rests _ _ rfl (Nat.le_refl _) rfl
        (updateWorkspace_keys db workspaceId (fun row => { row with status := status }) fun _ => rfl) (fun _ => id) id)
  | createTicket ticket =>
      exact ensures_ok _ _ (.rests _ _ rfl (Nat.le_refl _) rfl rfl (createTicket_bound db ticket) id)
  | bindPullRequest ticketId prId =>
      exact ensures_ok _ _ (.rests _ _ rfl (Nat.le_refl _) rfl rfl (bindPullRequest_bound db ticketId prId) id)
  | dismissFinding findingId event =>
      intro after done
      have minted := transitionFinding_minted .dismissed db findingId event after done
      obtain ⟨nextId, findings, low, same⟩ := transitionFinding_only .dismissed db findingId event after done
      rw [same] at minted ⊢
      exact .rests _ _ rfl low rfl rfl (fun _ => id) minted

end Transacting

structure Grows (before after : Db) : Prop where
  orders : ∀ order ∈ before.orders, order ∈ after.orders
  workspaces : ∀ id ∈ before.workspaceIds, id ∈ after.workspaceIds

theorem grows_same (before after : Db) (orders : after.orders = before.orders)
    (workspaceIds : after.workspaceIds = before.workspaceIds) : Grows before after := by
  constructor
  · rw [orders]
    exact fun _ => id
  · rw [workspaceIds]
    exact fun _ => id

theorem issues_grows (before after : Session) (issues : Issues before after) :
    (∀ order ∈ before.db.orders, order ∈ after.db.orders) ∧ after.db.workspaceIds = before.db.workspaceIds := by
  have appended (order : Order) (orders : after.db.orders = before.db.orders ++ [order]) :
      ∀ other ∈ before.db.orders, other ∈ after.db.orders := by
    rw [orders]
    exact fun _ => List.mem_append_left _
  cases issues with
  | nothing fixed orders => exact ⟨by rw [orders]; exact fun _ => id, fixed.workspaces⟩
  | system fixed order orders => exact ⟨appended order orders, fixed.workspaces⟩
  | provision fixed order orders => exact ⟨appended order orders, fixed.workspaces⟩
  | invocation fixed order orders => exact ⟨appended order orders, fixed.workspaces⟩

theorem issued_grows (before after : Session) (issued : Issued before after) :
    (∀ order ∈ before.db.orders, order ∈ after.db.orders) ∧ after.db.workspaceIds = before.db.workspaceIds := by
  induction issued with
  | refl => exact ⟨fun _ => id, rfl⟩
  | tail _ issues ih =>
      have last := issues_grows _ _ issues
      exact ⟨fun order member => last.1 order (ih.1 order member), last.2.trans ih.2⟩

theorem attemptPromotion_rest (db : Db) (run : PipelineRun) :
    (attemptPromotion db run).orders = db.orders ∧ (attemptPromotion db run).workspaceIds = db.workspaceIds := by
  unfold attemptPromotion
  split
  · exact ⟨rfl, rfl⟩
  · split
    · exact ⟨rfl, rfl⟩
    · exact ⟨rfl, rfl⟩

theorem promoteOldestQueued_rest (db : Db) (ticketId : Uuid) :
    (promoteOldestQueued db ticketId).orders = db.orders ∧
      (promoteOldestQueued db ticketId).workspaceIds = db.workspaceIds := by
  unfold promoteOldestQueued
  cases oldestQueued db ticketId with
  | none => exact ⟨rfl, rfl⟩
  | some candidate => exact attemptPromotion_rest db candidate

theorem hooks_rest (hooks : List String) (db : Db) (orgId ticketId : Uuid) :
    let hooked := hooks.foldl (fun db hook => db.enqueue (.runTerminalHook hook orgId ticketId)) db
    hooked.orders = db.orders ∧ hooked.workspaceIds = db.workspaceIds := by
  induction hooks generalizing db with
  | nil => exact ⟨rfl, rfl⟩
  | cons hook rest ih => exact ih _

theorem enterTerminal_rest (env : Env) (session : Session) (target : TerminalState) (reason : Option String) :
    (enterTerminal env session target reason).db.orders = session.db.orders ∧
      (enterTerminal env session target reason).db.workspaceIds = session.db.workspaceIds := by
  rw [enterTerminal]
  have promoted := promoteOldestQueued_rest
  have hooked := hooks_rest env.terminalHooks
  simp only [(promoted _ _).1, (promoted _ _).2, (hooked _ _ _).1, (hooked _ _ _).2]
  exact ⟨rfl, rfl⟩

theorem insertRun_rest (db : Db) (run : PipelineRun) :
    (insertRun db run).orders = db.orders ∧ (insertRun db run).workspaceIds = db.workspaceIds := by
  rw [insertRun]
  cases db.runs.insert? run with
  | none => exact ⟨rfl, rfl⟩
  | some table => exact attemptPromotion_rest { db with runs := table, nextId := db.nextId + 1 } run

theorem transacts_grows (db after : Db) (label : Label) (transacts : Transacts db label after) :
    Grows db after ∧ ∀ id ∈ after.workspaceIds, id ∈ db.workspaceIds ∨ ∃ event command,
      label = .terminalEvent event ∧ event.succeeded = true ∧ command ∈ db.agentCommands ∧
        command.id = event.commandId ∧ command.body.isProvision = true ∧ command.workspaceId = id := by
  have kept (orders : after.orders = db.orders) (ids : after.workspaceIds = db.workspaceIds) :
      Grows db after ∧ ∀ id ∈ after.workspaceIds, id ∈ db.workspaceIds ∨ ∃ event command,
        label = .terminalEvent event ∧ event.succeeded = true ∧ command ∈ db.agentCommands ∧
          command.id = event.commandId ∧ command.body.isProvision = true ∧ command.workspaceId = id :=
    ⟨grows_same db after orders ids, by rw [ids]; exact fun _ => .inl⟩
  cases transacts with
  | rests _ _ orders nextId runs workspaceIds => exact kept orders workspaceIds
  | inserts _ run => exact kept (insertRun_rest db run).1 (insertRun_rest db run).2
  | saves => exact kept rfl rfl
  | concludes _ env opened run next last _ opens concludes =>
      cases concludes with
      | works issued =>
          obtain ⟨orders, ids⟩ := issued_grows _ _ issued
          have same : last.commit.workspaceIds = db.workspaceIds := by
            rw [show last.commit.workspaceIds = last.db.workspaceIds from rfl, ids]
            exact congrArg (fun table => table.rows.map Workspace.id) opens.workspaces
          refine ⟨⟨fun order member => orders order ?_, by rw [same]; exact fun _ => id⟩, by rw [same]; exact fun _ => .inl⟩
          show order ∈ opened.orders
          rw [opens.orders]
          exact member
      | ends ended target reason issued same =>
          obtain ⟨orders, ids⟩ := issued_grows _ _ issued
          obtain ⟨lastOrders, lastIds⟩ := enterTerminal_rest env ended target reason
          have terminal : last.commit.workspaceIds = db.workspaceIds := by
            rw [show last.commit.workspaceIds = last.db.workspaceIds from rfl, same, lastIds, ids]
            exact congrArg (fun table => table.rows.map Workspace.id) opens.workspaces
          refine ⟨⟨fun order member => ?_, by rw [terminal]; exact fun _ => id⟩,
            by rw [terminal]; exact fun _ => .inl⟩
          rw [show last.commit.orders = last.db.orders from rfl, same, lastOrders]
          apply orders
          show order ∈ opened.orders
          rw [opens.orders]
          exact member
  | materialises event command _ member named provision succeeded orders nextId runs workspaceIds =>
      rcases workspaceIds with same | grown
      · exact kept orders same
      · refine ⟨⟨by rw [orders]; exact fun _ => id, by rw [grown]; exact fun _ => List.mem_append_left _⟩, ?_⟩
        intro id idMember
        rw [grown] at idMember
        rcases List.mem_append.mp idMember with earlier | last
        · exact .inl earlier
        · exact .inr ⟨event, command, rfl, succeeded, member, named, provision, (List.mem_singleton.mp last).symm⟩

end Yaaos.Pipelines
