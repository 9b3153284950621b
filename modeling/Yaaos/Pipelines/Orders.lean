import Mathlib.Logic.Relation
import Yaaos.Pipelines.Decompose

set_option autoImplicit false

namespace Yaaos.Pipelines

open Yaaos.Base Relation

structure Order where
  runId : Uuid
  workspaceId : Uuid
  body : CommandBody

def AgentCommand.order (command : AgentCommand) : Order :=
  { runId := command.context.runId, workspaceId := command.workspaceId, body := command.body }

def Db.orders (db : Db) : List Order := db.agentCommands.map AgentCommand.order

def Db.workspaceIds (db : Db) : List Uuid := db.workspaces.rows.map Workspace.id

def CommandBody.isSystem : CommandBody → Bool
  | .cleanupWorkspace | .refreshWorkspaceAuth _ => true
  | _ => false

def Kickoff.pins (kickoff : Kickoff) : Option String × Option String := (kickoff.prHeadSha, kickoff.prBaseSha)

structure Names (session : Session) (pr : PRContext) : Prop where
  head : session.run.kickoff.prHeadSha = some pr.headSha
  base : pr.baseSha = session.run.kickoff.prBaseSha.getD ""
  prev : pr.prevReviewedHeadSha = prevReviewedHeadSha session.db session.run.ticketId session.run.id

def Db.boundPr (db : Db) (ticketId : Uuid) : Option Uuid := (db.tickets.find? ticketId).bind Ticket.prId

def Bare (session : Session) : Prop :=
  session.db.boundPr session.run.ticketId = none ∨ session.run.kickoff.prHeadSha = none

def Db.Minted (db : Db) : Prop := ∀ finding ∈ db.findings.rows, finding.id < db.nextId

structure Fixed (before after : Session) : Prop where
  id : after.run.id = before.run.id
  ticketId : after.run.ticketId = before.run.ticketId
  pins : after.run.kickoff.pins = before.run.kickoff.pins
  runs : after.db.runs = before.db.runs
  nextId : before.db.nextId ≤ after.db.nextId
  workspaces : after.db.workspaceIds = before.db.workspaceIds
  boundPr : ∀ ticketId, after.db.boundPr ticketId = before.db.boundPr ticketId
  minted : before.db.Minted → after.db.Minted

-- One piece of a transaction, by the command that it issues.
inductive Issues (before after : Session) : Prop where
  | nothing (fixed : Fixed before after) (orders : after.db.orders = before.db.orders)
      (workspaceId : after.run.workspaceId = before.run.workspaceId)
  | system (fixed : Fixed before after) (order : Order) (orders : after.db.orders = before.db.orders ++ [order])
      (workspaceId : after.run.workspaceId = before.run.workspaceId) (owner : order.runId = before.run.id)
      (body : order.body.isSystem = true) (known : order.workspaceId < after.db.nextId ∨
        before.run.workspaceId = some order.workspaceId)
  | provision (fixed : Fixed before after) (order : Order) (orders : after.db.orders = before.db.orders ++ [order])
      (workspaceId : after.run.workspaceId = some order.workspaceId) (owner : order.runId = before.run.id)
      (fresh : before.db.nextId ≤ order.workspaceId) (known : order.workspaceId < after.db.nextId) (repo : RepoRef)
      (token : String) (body : order.body = .provisionWorkspace repo token) (valid : repo.checkCheckoutMode = true)
      (pinned : ∀ head, before.run.kickoff.prHeadSha = some head →
        repo.headSha = some head ∧ repo.branchName = none ∧ repo.baseSha = before.run.kickoff.prBaseSha)
  | invocation (fixed : Fixed before after) (order : Order) (orders : after.db.orders = before.db.orders ++ [order])
      (workspaceId : after.run.workspaceId = before.run.workspaceId) (owner : order.runId = before.run.id)
      (own : before.run.workspaceId = some order.workspaceId) (pluginId : String) (invocation : Invocation)
      (body : order.body = .invokeCodingAgent pluginId invocation) (target : invocation.workspaceId = order.workspaceId)
      (stored : ∃ row, before.db.workspaces.find? order.workspaceId = some row)
      (names : ∀ pr, invocation.context.pr = some pr → Names before pr) (bare : invocation.context.pr = none → Bare before)

def Issued : Session → Session → Prop := ReflTransGen Issues

inductive Concludes (env : Env) (before after : Session) : Prop where
  | works (issued : Issued before after)
  | ends (last : Session) (target : TerminalState) (reason : Option String) (issued : Issued before last)
      (same : after = enterTerminal env last target reason)

structure Works (before after : Session) : Prop where
  issued : Issued before after
  steady : Steady before after

-- One transaction of a run: `Turns` and `Concludes` are what is left of it.
inductive Worked (env : Env) (before after : Session) : Prop where
  | works (works : Works before after)
  | pauses (last : Session) (row : StageExecution) (tripped : List TrippedCondition) (owners : List Uuid)
      (kickoff : Kickoff) (works : Works before last) (same : after = enterPause env last row tripped owners kickoff)
  | ends (last : Session) (target : TerminalState) (reason : Option String) (works : Works before last)
      (same : after = enterTerminal env last target reason)

variable (env : Env) (session : Session) (row : StageExecution) (stage : SkillStage) (before after : Session)
  (stageExec : StageExecution) (outcomeLabel : String) (outputs : Dict Json) (message : Message) (kickoff : Kickoff)

theorem fixed_refl : Fixed session session :=
  ⟨rfl, rfl, rfl, rfl, Nat.le_refl _, rfl, fun _ => rfl, id⟩

theorem fixed_trans (first middle last : Session) (left : Fixed first middle) (right : Fixed middle last) :
    Fixed first last where
  id := right.id.trans left.id
  ticketId := right.ticketId.trans left.ticketId
  pins := right.pins.trans left.pins
  runs := right.runs.trans left.runs
  nextId := Nat.le_trans left.nextId right.nextId
  workspaces := right.workspaces.trans left.workspaces
  boundPr := fun ticketId => (right.boundPr ticketId).trans (left.boundPr ticketId)
  minted := fun minted => right.minted (left.minted minted)

theorem issues_fixed (issues : Issues before after) : Fixed before after := by
  cases issues with
  | nothing fixed => exact fixed
  | system fixed => exact fixed
  | provision fixed => exact fixed
  | invocation fixed => exact fixed

theorem issued_fixed (issued : Issued before after) : Fixed before after := by
  induction issued with
  | refl => exact fixed_refl before
  | tail _ issues ih => exact fixed_trans _ _ _ ih (issues_fixed _ _ issues)

theorem issued_trans (first middle last : Session) (left : Issued first middle) (right : Issued middle last) :
    Issued first last := ReflTransGen.trans left right

theorem concludes_after (first middle last : Session) (issued : Issued first middle)
    (concludes : Concludes env middle last) : Concludes env first last := by
  cases concludes with
  | works later => exact .works (issued_trans first middle last issued later)
  | ends ended target reason later same => exact .ends ended target reason (issued_trans _ _ _ issued later) same

theorem issued_both (id : after.run.id = before.run.id)
    (ticketId : after.run.ticketId = before.run.ticketId) (pins : after.run.kickoff.pins = before.run.kickoff.pins)
    (workspaceId : after.run.workspaceId = before.run.workspaceId) (runs : after.db.runs = before.db.runs)
    (nextId : before.db.nextId ≤ after.db.nextId) (commands : after.db.agentCommands = before.db.agentCommands)
    (workspaces : after.db.workspaceIds = before.db.workspaceIds)
    (boundPr : ∀ ticketId, after.db.boundPr ticketId = before.db.boundPr ticketId)
    (minted : before.db.Minted → after.db.Minted) : Issued before after :=
  .single (.nothing ⟨id, ticketId, pins, runs, nextId, workspaces, boundPr, minted⟩ (congrArg (List.map AgentCommand.order) commands)
    workspaceId)

theorem minted_later (before after : Db) (findings : after.findings = before.findings) (nextId : before.nextId ≤ after.nextId)
    (minted : before.Minted) : after.Minted := by
  intro finding member
  rw [findings] at member
  exact Nat.lt_of_lt_of_le (minted finding member) nextId

theorem issued_run (run : PipelineRun) (id : run.id = session.run.id)
    (ticketId : run.ticketId = session.run.ticketId) (pins : run.kickoff.pins = session.run.kickoff.pins)
    (workspaceId : run.workspaceId = session.run.workspaceId) : Issued session { session with run := run } :=
  issued_both session _ id ticketId pins workspaceId rfl (Nat.le_refl _) rfl rfl (fun _ => rfl) fun minted => minted

theorem updateTicket_boundPr (db : Db) (ticketId other : Uuid) (selected : Ticket → Bool) (change : Ticket → Ticket)
    (kept : ∀ row, (change row).id = row.id) (prId : ∀ row, (change row).prId = row.prId) :
    (db.updateTicket ticketId selected change kept).boundPr other = db.boundPr other := by
  simp only [Db.boundPr, Db.updateTicket, Table.find?_update]
  cases db.tickets.find? other with
  | none => rfl
  | some row =>
      simp only [Option.map_some, Option.bind_some]
      split
      · exact prId row
      · rfl

theorem issued_resume : Issued session (resume session) :=
  issued_both session _ rfl rfl rfl rfl rfl (Nat.le_refl _) rfl rfl
    (fun other => updateTicket_boundPr session.db session.run.ticketId other _ _ _ fun _ => rfl) id

theorem updateWorkspace_keys (db : Db) (workspaceId : Uuid) (change : Workspace → Workspace)
    (kept : ∀ row, (change row).id = row.id) :
    (db.updateWorkspace workspaceId change kept).workspaceIds = db.workspaceIds := by
  rw [Db.updateWorkspace, Db.workspaceIds, Db.workspaceIds]
  simp only [Table.update, List.map_map]
  refine List.map_congr_left fun row _ => ?_
  simp only [Function.comp]
  split
  · exact kept row
  · rfl

theorem enterPause_issued (tripped : List TrippedCondition)
    (owners : List Uuid) (kickoff : Kickoff) : Issued session (enterPause env session row tripped owners kickoff) := by
  have bound (other : Uuid) :
      (transitionTicketOnRunPaused session.db session.run.ticketId session.run.orgId session.run.id).boundPr other =
        session.db.boundPr other :=
    updateTicket_boundPr session.db session.run.ticketId other _ _ _ fun _ => rfl
  cases owned : session.run.workspaceId with
  | none =>
      apply issued_both
      case boundPr =>
        simp only [enterPause, Session.put, Session.addPause, owned]
        exact bound
      case minted =>
        simp only [enterPause, Session.put, Session.addPause, owned]
        exact minted_later _ _ rfl (Nat.le_succ _)
      all_goals
        simp [enterPause, Session.put, Session.addPause, owned, transitionTicketOnRunPaused, transitionTicket,
          Db.updateTicket, Db.workspaceIds]
  | some workspaceId =>
      apply issued_both
      case boundPr =>
        simp only [enterPause, Session.put, Session.addPause, owned]
        exact bound
      case minted =>
        simp only [enterPause, Session.put, Session.addPause, owned]
        exact minted_later _ _ rfl (Nat.le_succ _)
      case workspaces =>
        simp only [enterPause, Session.put, Session.addPause, owned, transitionTicketOnRunPaused, transitionTicket,
          Db.updateTicket, extendExpiry]
        exact updateWorkspace_keys _ workspaceId (fun row => { row with expiresAt := env.now + pausedRunWorkspaceGraceSeconds })
          fun _ => rfl
      all_goals
        simp [enterPause, Session.put, Session.addPause, owned, transitionTicketOnRunPaused, transitionTicket,
          Db.updateTicket, extendExpiry, Db.updateWorkspace]

theorem works_refl : Works session session := ⟨.refl, steady_refl session⟩

theorem works_trans (first middle last : Session) (left : Works first middle) (right : Works middle last) :
    Works first last :=
  ⟨issued_trans _ _ _ left.issued right.issued, steady_trans _ _ _ left.steady right.steady⟩

theorem worked_after (first middle last : Session) (works : Works first middle)
    (worked : Worked env middle last) : Worked env first last := by
  cases worked with
  | works later => exact .works (works_trans first middle last works later)
  | pauses paused row tripped owners kickoff later same =>
      exact .pauses paused row tripped owners kickoff (works_trans first middle paused works later) same
  | ends ended target reason later same =>
      exact .ends ended target reason (works_trans first middle ended works later) same

theorem worked_turns (worked : Worked env before after) : Turns env before after := by
  cases worked with
  | works works => exact .works works.steady
  | pauses last row tripped owners kickoff works same => exact .pauses last row tripped owners kickoff works.steady same
  | ends last target reason works same => exact .ends last target reason works.steady same

theorem worked_concludes (worked : Worked env before after) :
    Concludes env before after := by
  cases worked with
  | works works => exact .works works.issued
  | pauses last row tripped owners kickoff works same =>
      rw [same]
      exact .works (issued_trans _ _ _ works.issued (enterPause_issued env last row tripped owners kickoff))
  | ends last target reason works same => exact .ends last target reason works.issued same

theorem works_run (run : PipelineRun) (id : run.id = session.run.id)
    (orgId : run.orgId = session.run.orgId) (ticketId : run.ticketId = session.run.ticketId)
    (state : run.state = session.run.state) (pauses : run.pauses = session.run.pauses)
    (counts : ∀ key, session.run.count key ≤ run.count key) (pins : run.kickoff.pins = session.run.kickoff.pins)
    (workspaceId : run.workspaceId = session.run.workspaceId) : Works session { session with run := run } :=
  ⟨issued_run session run id ticketId pins workspaceId, id, orgId, ticketId, state, pauses, counts, rfl, rfl, Nat.le_refl _⟩

theorem works_db (db : Db) (runs : db.runs = session.db.runs) (tickets : db.tickets = session.db.tickets)
    (nextId : session.db.nextId ≤ db.nextId) (commands : db.agentCommands = session.db.agentCommands)
    (workspaces : db.workspaceIds = session.db.workspaceIds) (minted : session.db.Minted → db.Minted) :
    Works session { session with db := db } :=
  ⟨issued_both session _ rfl rfl rfl rfl runs nextId commands workspaces (fun _ => by simp only [Db.boundPr, tickets]) minted,
    steady_db session db runs tickets nextId⟩

theorem works_mint : Works session session.mint :=
  works_db session _ rfl rfl (Nat.le_succ _) rfl rfl (minted_later _ _ rfl (Nat.le_succ _))

theorem works_put : Works session (session.put row) :=
  works_run session _ rfl rfl rfl rfl rfl (fun _ => Nat.le_refl _) rfl rfl

theorem works_addExecution : Works session (session.addExecution row) :=
  works_trans _ _ _ (works_mint session) (works_run session.mint _ rfl rfl rfl rfl rfl (fun _ => Nat.le_refl _) rfl rfl)

theorem works_enqueue : Works session (session.enqueue message) :=
  works_db session _ rfl rfl (Nat.le_refl _) rfl rfl id

theorem works_findings (session after : Session) (run : after.run = session.run)
    (only : OnlyFindings session.db after.db) (minted : session.db.Minted → after.db.Minted) : Works session after := by
  obtain ⟨nextId, findings, low, same⟩ := only
  have shape : after = { session with db := after.db } := by
    cases after
    simp only at run
    rw [run]
  rw [shape]
  exact works_db session _ (by rw [same]) (by rw [same]) (by rw [same]; exact low) (by rw [same]) (by rw [same]; rfl) minted

structure Built (session : Session) (built : Option PRContext) : Prop where
  names : ∀ pr, built = some pr → Names session pr
  bare : built = none → Bare session

theorem buildPrContext_built (ticket : Ticket)
    (pins : kickoff.pins = session.run.kickoff.pins) (owned : session.db.tickets.find? session.run.ticketId = some ticket) :
    Ensures (buildPrContext env session kickoff ticket) (Built session) := by
  simp only [Kickoff.pins, Prod.mk.injEq] at pins
  have bound : session.db.boundPr session.run.ticketId = ticket.prId := by rw [Db.boundPr, owned, Option.bind_some]
  rw [buildPrContext]
  cases unbound : ticket.prId with
  | none => exact ensures_ok _ _ ⟨nofun, fun _ => .inl (bound.trans unbound)⟩
  | some prId =>
      cases head : kickoff.prHeadSha with
      | none => exact ensures_ok _ _ ⟨nofun, fun _ => .inr (pins.1.symm.trans head)⟩
      | some headSha =>
          refine ensures_read _ _ _ fun externalId _ => ensures_ok _ _ ⟨fun pr same => ?_, nofun⟩
          cases same
          exact ⟨by rw [← pins.1, head], by rw [← pins.2], rfl⟩

theorem failStage_works (reason : String) :
    Works session (failStage env session row reason) :=
  works_trans session _ _ (works_put session _) (works_enqueue _ _)

theorem dispatchStage_works (stageIndex : Nat) : Works session (dispatchStage session stageIndex) :=
  works_trans session _ _ (works_run session { session.run with currentStageIndex := some stageIndex } rfl rfl rfl rfl rfl
    (fun _ => Nat.le_refl _) rfl rfl) (works_enqueue _ _)

theorem invoke_works (row park : StageExecution) (commandId : Uuid) (pluginId : String)
    (invocation : Uuid → Invocation) (target : ∀ workspaceId, (invocation workspaceId).workspaceId = workspaceId)
    (built : ∀ workspaceId, Built session (invocation workspaceId).context.pr) :
    Ensures (invoke env session row commandId pluginId invocation park) (Works session) := by
  refine ensures_mono _ _ _ (invoke_result env session row park commandId pluginId invocation) fun after result => ?_
  rcases result with ⟨text, same⟩ | ⟨workspaceId, workspace, taken, same⟩
  · rw [same]
    exact failStage_works env session row text
  · rw [same]
    let command := invocationCommand session workspace row commandId pluginId (invocation workspaceId)
    have stored := taken.found
    have fixed : Fixed session (parked session workspace row park commandId pluginId (invocation workspaceId)) :=
      ⟨rfl, rfl, rfl, rfl, Nat.le_refl _, updateWorkspace_keys _ (invocation workspaceId).workspaceId
        (fun row => { row with currentCommandId := some commandId }) fun _ => rfl, fun _ => rfl, id⟩
    refine ⟨.single (.invocation fixed command.order List.map_append rfl rfl ?_ pluginId (invocation workspaceId) rfl rfl
      ⟨workspace, stored⟩ (built workspaceId).names (built workspaceId).bare),
      steady_both session _ rfl rfl rfl rfl rfl rfl rfl rfl (Nat.le_refl _)⟩
    rw [taken.own]
    exact congrArg some (target workspaceId).symm

theorem dispatchViaWorkspace_works (commandId workspaceId : Uuid) (stageExecutionId : Uuid)
    (body : CommandBody) (system : body.isSystem = true) (own : session.run.workspaceId = some workspaceId) :
    Ensures (dispatchViaWorkspace session.db commandId workspaceId (systemCommandContext session.run stageExecutionId) body
      false) fun db => Works session { session with db := db } := by
  rw [dispatchViaWorkspace]
  cases session.db.workspaces.find? workspaceId with
  | none => exact ensures_error _ _
  | some row =>
      refine ensures_ok _ _ ⟨.single (.system ⟨rfl, rfl, rfl, rfl, Nat.le_refl _, rfl, fun _ => rfl, id⟩
        { runId := session.run.id, workspaceId := workspaceId, body := body } ?_ rfl rfl system (.inr own)),
        steady_db session _ rfl rfl (Nat.le_refl _)⟩
      exact List.map_append

theorem dispatchCleanupStage_works : Ensures (dispatchCleanupStage session) (Works session) := by
  rw [dispatchCleanupStage]
  let row := newExecution session.db.nextId none .system systemStageCleanup
  have added := works_trans _ _ _ (works_addExecution session row) (works_mint (session.addExecution row))
  cases requested : session.run.workspaceId with
  | none =>
      have none_ : (session.addExecution row).run.workspaceId = none := requested
      simp only
      rw [none_]
      exact ensures_error _ _
  | some workspaceId =>
      have some_ : (session.addExecution row).run.workspaceId = some workspaceId := requested
      simp only
      rw [some_]
      simp only [dispatchCleanup]
      refine ensures_bind _ _ (Works session) _ ?_ fun after works => ?_
      · refine ensures_bind _ _ _ _ (dispatchViaWorkspace_works (session.addExecution row).mint _ _ _ _ rfl some_) ?_
        intro db works
        exact ensures_ok _ _ (works_trans _ _ _ added works)
      · exact ensures_ok _ _ (works_trans _ _ _ works (works_run after _ rfl rfl rfl rfl rfl (fun _ => Nat.le_refl _) rfl rfl))

theorem finishOrCleanup_worked (target : TerminalState) (reason : Option String) :
    Ensures (finishOrCleanup env session target reason) (Worked env session) := by
  have noted := works_run session { session.run with failureReason := reason } rfl rfl rfl rfl rfl
    (fun _ => Nat.le_refl _) rfl rfl
  rw [finishOrCleanup]
  simp only
  split
  · refine ensures_mono _ _ _ (dispatchCleanupStage_works _) fun after works => ?_
    exact .works (works_trans _ _ _ noted works)
  · exact ensures_ok _ _ (.ends _ target reason noted rfl)

theorem routeRunImpl_worked (args : RouteRunArgs) :
    Ensures (routeRunImpl env session args) (Worked env session) := by
  rw [routeRunImpl]
  cases args.completedStageIndex with
  | none => exact ensures_ok _ _ (.works (dispatchStage_works session _))
  | some index =>
      simp only
      split
      · exact finishOrCleanup_worked env session _ _
      · split
        · exact finishOrCleanup_worked env session _ _
        · split
          · exact finishOrCleanup_worked env session _ _
          · exact ensures_ok _ _ (.works (dispatchStage_works session _))

theorem checkout_pinned (ticket : Ticket) (head : String) (pinned : kickoff.prHeadSha = some head) :
    checkout kickoff ticket = { headSha := some head, branchName := none, baseSha := kickoff.prBaseSha } := by
  rw [checkout, pinned]

theorem dispatchProvisionStage_works
    (pins : kickoff.pins = session.run.kickoff.pins) :
    Ensures (dispatchProvisionStage env session kickoff) (Works session) := by
  simp only [Kickoff.pins, Prod.mk.injEq] at pins
  rw [dispatchProvisionStage]
  refine ensures_read _ _ _ fun ticket _ => ?_
  simp only [dispatchProvision]
  split
  · split
    · exact ensures_error _ _
    · rename_i credentials _ _
      split
      · rename_i valid
        let repo : RepoRef :=
          { pluginId := ticket.pluginId, externalId := ticket.repoExternalId, cloneUrl := credentials,
            headSha := (checkout kickoff ticket).headSha, baseSha := (checkout kickoff ticket).baseSha,
            branchName := (checkout kickoff ticket).branchName }
        refine ensures_ok _ _ ⟨.single (.provision ⟨rfl, rfl, rfl, rfl, ?_, rfl, fun _ => rfl,
          minted_later _ _ rfl (Nat.le_add_right session.db.nextId 3)⟩
          { runId := session.run.id, workspaceId := session.db.nextId + 1, body := .provisionWorkspace repo _ } List.map_append
          rfl rfl (Nat.le_succ _) ?_ repo _ rfl valid ?_),
          steady_both session _ rfl rfl rfl rfl rfl rfl rfl rfl (Nat.le_add_right session.db.nextId 3)⟩
        · exact Nat.le_add_right session.db.nextId 3
        · exact Nat.add_lt_add_left (by decide : 1 < 3) session.db.nextId
        · intro head pinned
          have made := checkout_pinned kickoff ticket head (pins.1.trans pinned)
          exact ⟨by rw [show repo.headSha = (checkout kickoff ticket).headSha from rfl, made],
            by rw [show repo.branchName = (checkout kickoff ticket).branchName from rfl, made],
            by rw [show repo.baseSha = (checkout kickoff ticket).baseSha from rfl, made, pins.2]⟩
      · exact ensures_error _ _
  · exact ensures_error _ _

theorem dispatchSkillStage_works (index : Nat) (kickoff : Kickoff)
    (revision : Option RevisionContext) (pins : kickoff.pins = session.run.kickoff.pins) :
    Ensures (dispatchSkillStage env session stage index kickoff revision) (Works session) := by
  rw [dispatchSkillStage]
  refine ensures_read _ _ _ fun ticket owned => ?_
  refine ensures_bind _ _ _ _ (buildPrContext_built env (Session.mint _) kickoff ticket pins
    (getTicket_found _ _ _ ticket owned).1) fun pr built => ?_
  refine ensures_mono _ _ _ (invoke_works env _ _ _ _ _ _ (fun _ => rfl) fun _ => built) fun after works => ?_
  exact works_trans _ _ _ (works_trans _ _ _ (works_addExecution session _) (works_mint _)) works

theorem dispatchReviewOnlyStage_works (stage : ReviewSkillStage) (index : Nat)
    (kickoff : Kickoff) (revision : Option RevisionContext) (pins : kickoff.pins = session.run.kickoff.pins) :
    Ensures (dispatchReviewOnlyStage env session stage index kickoff revision) (Works session) := by
  rw [dispatchReviewOnlyStage]
  refine ensures_read _ _ _ fun ticket owned => ensures_read _ _ _ fun findings _ => ?_
  refine ensures_bind _ _ _ _ (buildPrContext_built env (Session.mint _) kickoff ticket pins
    (getTicket_found _ _ _ ticket owned).1) fun pr built => ?_
  refine ensures_mono _ _ _ (invoke_works env _ _ _ _ _ _ (fun _ => rfl) fun _ => built) fun after works => ?_
  exact works_trans _ _ _ (works_trans _ _ _ (works_addExecution session _) (works_mint _)) works

theorem dispatchReviewInvocation_works (row : StageExecution)
    (body : String) : Ensures (dispatchReviewInvocation env session stage row body) (Works session) := by
  rw [dispatchReviewInvocation]
  cases stage.review with
  | none => exact ensures_error _ _
  | some review =>
      simp only
      refine ensures_read _ _ _ fun ticket owned => ensures_read _ _ _ fun findings _ => ?_
      refine ensures_bind _ _ _ _ (buildPrContext_built env (Session.mint _) session.run.kickoff ticket rfl
        (getTicket_found _ _ _ ticket owned).1) ?_
      intro pr built
      refine ensures_mono _ _ _ (invoke_works env _ _ _ _ _ _ (fun _ => rfl) fun _ => built) fun after works => ?_
      exact works_trans _ _ _ (works_trans _ _ _ (works_put session _) (works_mint _)) works

theorem dispatchFixInvocation_works (row : StageExecution)
    (index : Nat) (kickoff : Kickoff) (body : String) (residuals : List Finding)
    (pins : kickoff.pins = session.run.kickoff.pins) :
    Ensures (dispatchFixInvocation env session stage row index kickoff body residuals) (Works session) := by
  rw [dispatchFixInvocation]
  refine ensures_read _ _ _ fun ticket owned => ?_
  refine ensures_bind _ _ _ _ (buildPrContext_built env session.mint kickoff ticket pins
    (getTicket_found _ _ _ ticket owned).1) fun pr built => ?_
  refine ensures_mono _ _ _ (invoke_works env _ _ _ _ _ _ (fun _ => rfl) fun _ => built) fun after works => ?_
  exact works_trans _ _ _ (works_mint session) works

theorem runActionStage_works (stage : ActionStage) (index : Nat) (kickoff : Kickoff) :
    Ensures (runActionStage env session stage index kickoff) (Works session) := by
  rw [runActionStage]
  have added := works_addExecution session (newExecution session.db.nextId (some index) .action stage.actionId)
  refine ensures_read _ _ _ fun context _ => ?_
  cases env.runAction stage.actionId context with
  | raised => exact ensures_error _ _
  | actionError text => exact ensures_ok _ _ (works_trans _ _ _ added (failStage_works env _ _ text))
  | returned result =>
      exact ensures_ok _ _ (works_trans _ _ _ added (works_trans _ _ _ (works_put _ _) (works_enqueue _ _)))

theorem startStageImpl_works (stageIndex : Option Nat) :
    Ensures (startStageImpl env session stageIndex) (Works session) := by
  have cleared := works_run session { session.run with kickoff := { session.run.kickoff with revision := none } }
    rfl rfl rfl rfl rfl (fun _ => Nat.le_refl _) rfl rfl
  rw [startStageImpl]
  split
  · exact ensures_ok _ _ (works_refl session)
  · refine ensures_read _ _ _ fun stage _ => ?_
    cases stage with
    | action action => exact runActionStage_works env session action _ _
    | skill skill =>
        simp only
        split
        · exact ensures_mono _ _ _ (dispatchSkillStage_works env _ skill _ _ _ rfl) fun after works =>
            works_trans _ _ _ cleared works
        · exact dispatchProvisionStage_works env session _ rfl
    | review review =>
        simp only
        split
        · exact ensures_mono _ _ _ (dispatchReviewOnlyStage_works env _ review _ _ _ rfl) fun after works =>
            works_trans _ _ _ cleared works
        · exact dispatchProvisionStage_works env session _ rfl

theorem findingSpecs_minted (findings : List SkillReviewFinding) :
    ∀ spec ∈ (findingSpecs session findings).2, spec.id < (findingSpecs session findings).1.db.nextId := by
  induction findings generalizing session with
  | nil => exact fun _ => nofun
  | cons finding rest ih =>
      intro spec member
      rcases List.mem_cons.mp member with first | later
      · obtain ⟨_, nextId, findings, low, same⟩ := findingSpecs_only session.mint rest
        have grown : (findingSpecs session (finding :: rest)).1.db.nextId = nextId := congrArg Db.nextId same
        rw [grown, first]
        exact Nat.lt_of_lt_of_le (Nat.lt_succ_self session.db.nextId) low
      · exact ih session.mint spec later

theorem findingSpecs_findings (findings : List SkillReviewFinding) :
    (findingSpecs session findings).1.db.findings = session.db.findings := by
  induction findings generalizing session with
  | nil => rfl
  | cons finding rest ih => exact ih session.mint

theorem update_minted (db : Db) (selected : Finding → Bool) (change : Finding → Finding)
    (kept : ∀ row, (change row).id = row.id) (minted : db.Minted) :
    ({ db with findings := db.findings.update selected change kept } : Db).Minted := by
  intro finding member
  obtain ⟨row, stored, same⟩ := List.mem_map.mp member
  have id : finding.id = row.id := by
    rw [← same]
    split
    · exact kept row
    · rfl
  rw [id]
  exact minted row stored

theorem recordFindings_minted (iteration displayId : Nat)
    (specs : List FindingSpec) (known : ∀ spec ∈ specs, spec.id < session.db.nextId) (minted : session.db.Minted) :
    (recordFindings session stageExec iteration displayId specs).1.db.Minted := by
  induction specs generalizing session displayId with
  | nil => exact minted
  | cons spec rest ih =>
      have later : ∀ other ∈ rest, other.id < session.db.nextId := fun other member =>
        known other (List.mem_cons_of_mem _ member)
      rw [recordFindings]
      split
      · exact ih { session with db := { session.db with findings := session.db.findings.update _ _ _ } } displayId later
          (update_minted session.db _ _ _ minted)
      · rename_i absent
        refine ih { session with db := { session.db with findings := _ } } (displayId + 1) later ?_
        intro finding member
        have fresh := (Table.find?_isNone session.db.findings spec.id).mp absent
        obtain ⟨inserted, stored⟩ := Table.insert?_fresh session.db.findings
          { id := spec.id, orgId := session.run.orgId, ticketId := session.run.ticketId, sourceRunId := session.run.id,
            sourceStageName := stageExec.stageName, sourceStageExecutionId := stageExec.id,
            firstSeenIteration := iteration, displayPrefix := spec.displayPrefix, displayId := displayId,
            severity := spec.severity, body := spec.body, codeFile := spec.codeFile, codeLine := spec.codeLine,
            artifactSection := spec.artifactSection, defectInArtifact := spec.defectInArtifact, status := .opened,
            statusEvents := [] } fresh
        simp only [stored, Option.getD_some] at member
        rw [(Table.insert?_some _ _ _ stored).1] at member
        rcases List.mem_append.mp member with old | new
        · exact minted finding old
        · rw [List.mem_singleton.mp new]
          exact known spec List.mem_cons_self

theorem transitionFinding_minted (target : FindingStatus) (db : Db) (findingId : Uuid) (event : FindingStatusEvent) :
    Ensures (transitionFinding target db findingId event) fun after => db.Minted → after.Minted := by
  refine ensures_read _ _ _ fun row _ => ?_
  split
  · exact ensures_ok _ _ id
  · split
    · exact ensures_ok _ _ (update_minted db _ _ _)
    · exact ensures_error _ _

theorem applyVerdict_minted (now : Nat)
    (ownStatus : Uuid → Option FindingStatus) (verdict : PriorFindingVerdict) (db : Db) :
    Ensures (applyVerdict session stageExec now ownStatus verdict db) fun after => db.Minted → after.Minted := by
  rw [applyVerdict]
  cases verdict.status with
  | none => exact ensures_ok _ _ id
  | some status =>
      cases status with
      | fixed => exact transitionFinding_minted .resolved db _ _
      | userOverrode => exact transitionFinding_minted .dismissed db _ _
      | stillPresent =>
          simp only
          split
          · exact transitionFinding_minted .opened db _ _
          · refine ensures_read _ _ _ fun row _ => ?_
            split
            · exact ensures_ok _ _ (update_minted db _ _ _)
            · exact ensures_error _ _

theorem applyVerdicts_minted (now : Nat)
    (ownStatus : Uuid → Option FindingStatus) (verdicts : List PriorFindingVerdict) (db : Db) :
    Ensures (applyVerdicts session stageExec now ownStatus verdicts db) fun after => db.Minted → after.Minted := by
  induction verdicts generalizing db with
  | nil => exact ensures_ok _ _ id
  | cons verdict rest ih =>
      refine ensures_bind _ _ _ _ (applyVerdict_minted session stageExec now ownStatus verdict db) fun middle first => ?_
      exact ensures_mono _ _ _ (ih middle) fun last later minted => later (first minted)

theorem recordAndApplyReview_mints
    (reviewReturn : SkillReviewReturn) (iteration : Nat) :
    Ensures (recordAndApplyReview env session stageExec reviewReturn iteration) fun result =>
      result.1.run = session.run ∧ OnlyFindings session.db result.1.db ∧ (session.db.Minted → result.1.db.Minted) := by
  intro result done
  have only := recordAndApplyReview_only env session stageExec reviewReturn iteration result done
  refine ⟨only.1, only.2, fun minted => ?_⟩
  let start := findingSpecs session reviewReturn.newFindings
  have low : session.db.nextId ≤ start.1.db.nextId := by
    obtain ⟨_, nextId, findings, bound, same⟩ := findingSpecs_only session reviewReturn.newFindings
    rw [show start.1.db.nextId = nextId from congrArg Db.nextId same]
    exact bound
  have carried : start.1.db.Minted := minted_later session.db start.1.db (findingSpecs_findings session _) low minted
  have recorded := recordFindings_minted start.1 stageExec iteration (latestDisplayId start.1.db session.run.ticketId + 1)
    start.2 (findingSpecs_minted session reviewReturn.newFindings) carried
  have applied : Ensures (recordAndApplyReview env session stageExec reviewReturn iteration) fun result => result.1.db.Minted := by
    refine ensures_bind _ _ _ _ (applyVerdicts_minted _ stageExec env.now _ _ _) fun last applied => ?_
    exact ensures_ok _ _ (applied recorded)
  exact applied result done

theorem sendBackToStage_worked (index : Nat) (stage : SkillStage)
    (gapText : String) (kickoff : Kickoff) (pins : kickoff.pins = session.run.kickoff.pins) :
    Ensures (sendBackToStage env session row index stage gapText kickoff) (Worked env session) := by
  rw [sendBackToStage]
  by_cases looped : (session.run.sendbackCounts.lookup stage.name).getD 0 ≥ 1
  · rw [if_pos looped]
    exact ensures_ok _ _ (.pauses session row _ [] kickoff (works_refl session) rfl)
  · rw [if_neg looped]
    refine ensures_mono _ _ _ (startStageImpl_works env _ _) fun after works => .works ?_
    refine works_trans session _ after ?_ works
    refine works_run session _ rfl rfl rfl rfl rfl (fun key => ?_) pins rfl
    simp only [PipelineRun.count, Session.put, count_set]
    split
    · rename_i same
      rw [same]
      exact Nat.le_of_lt (Nat.not_le.mp looped)
    · exact Nat.le_refl _

theorem settleStageBoundary_worked (stage : BoundaryStage) (row : StageExecution)
    (kickoff : Kickoff) (paths : List String) (index : Nat) (pins : kickoff.pins = session.run.kickoff.pins) :
    Ensures (settleStageBoundary env session stage row kickoff paths index) (Worked env session) := by
  rw [settleStageBoundary]
  simp only
  split
  · refine ensures_mono _ _ _ (sendBackToStage_worked env _ _ _ _ _ kickoff pins) fun after worked => ?_
    exact worked_after env _ _ _ (works_put session _) worked
  · refine ensures_read _ _ _ fun ticket _ => ?_
    split
    · exact ensures_error _ _
    · split
      · exact ensures_ok _ _ (.pauses _ _ _ _ kickoff (works_put session _) rfl)
      · exact ensures_ok _ _ (.works (works_trans _ _ _ (works_put session _)
          (works_trans _ _ _ (works_put _ _) (works_enqueue _ _))))

def ValidatedWorked (env : Env) (before : Session) : Validated → Prop
  | .ended after => Worked env before after
  | .produced result => Works before result.session ∧ result.session.run = before.run

theorem validateSkillReturnAndArtifact_worked (row : StageExecution)
    (index : Nat) (kickoff : Kickoff) (outputs : Dict Json) (pins : kickoff.pins = session.run.kickoff.pins) :
    Ensures (validateSkillReturnAndArtifact env session stage row index kickoff outputs) (ValidatedWorked env session) := by
  rw [validateSkillReturnAndArtifact]
  cases validateReturn env.skillReturnOf outputs with
  | error text => exact ensures_ok _ _ (.works (failStage_works env session row _))
  | ok skillReturn =>
      simp only
      cases skillReturn.outcome with
      | cannotComplete => exact ensures_ok _ _ (.works (failStage_works env session row _))
      | sendBack =>
          simp only
          split
          · exact ensures_ok _ _ (.works (failStage_works env session row _))
          · refine ensures_bind _ _ _ _ (sendBackToStage_worked env _ _ _ _ _ kickoff pins) fun after worked => ?_
            exact ensures_ok _ _ (worked_after env _ _ _ (works_put session _) worked)
      | completed =>
          simp only
          cases artifactBody outputs with
          | none => exact ensures_read _ _ _ fun reason _ => ensures_ok _ _ (.works (failStage_works env session row _))
          | some body => exact ensures_ok _ _ ⟨works_db session _ rfl rfl (Nat.le_succ _) rfl rfl
              (minted_later _ _ rfl (Nat.le_succ _)), rfl⟩

theorem handleMainReturn_worked (row : StageExecution) (index : Nat)
    (outputs : Dict Json) :
    Ensures (handleMainReturn env session stage row index session.run.kickoff outputs) (Worked env session) := by
  rw [handleMainReturn]
  refine ensures_bind _ _ _ _ (validateSkillReturnAndArtifact_worked env session stage row index _ outputs rfl) ?_
  intro validated made
  cases validated with
  | ended after => exact ensures_ok _ _ made
  | produced result =>
      obtain ⟨stored, run⟩ := made
      have recorded := works_trans _ _ _ stored (works_put result.session (recordProduced result row .main))
      have pins : session.run.kickoff.pins = result.session.run.kickoff.pins := by rw [run]
      simp only
      cases stage.review with
      | none =>
          exact ensures_mono _ _ _ (settleStageBoundary_worked env _ _ _ _ _ _ pins) fun after later =>
            worked_after env _ _ _ recorded later
      | some review =>
          exact ensures_mono _ _ _ (dispatchReviewInvocation_works env _ _ _ _) fun after later =>
            .works (works_trans _ _ _ recorded later)

theorem handleFixReturn_worked (row : StageExecution) (index : Nat)
    (outputs : Dict Json) :
    Ensures (handleFixReturn env session stage row index session.run.kickoff outputs) (Worked env session) := by
  rw [handleFixReturn]
  refine ensures_bind _ _ _ _ (validateSkillReturnAndArtifact_worked env session stage row index _ outputs rfl) ?_
  intro validated made
  cases validated with
  | ended after => exact ensures_ok _ _ made
  | produced result =>
      have recorded := works_trans _ _ _ made.1 (works_put result.session (recordProduced result row .fix))
      exact ensures_mono _ _ _ (dispatchReviewInvocation_works env _ _ _ _) fun after later =>
        .works (works_trans _ _ _ recorded later)

theorem handleReviewReturn_worked (row : StageExecution)
    (index : Nat) (outputs : Dict Json) :
    Ensures (handleReviewReturn env session stage row index session.run.kickoff outputs) (Worked env session) := by
  rw [handleReviewReturn]
  cases stage.review with
  | none => exact ensures_error _ _
  | some review =>
      simp only
      cases validateReturn env.reviewReturnOf outputs with
      | error text => exact ensures_ok _ _ (.works (failStage_works env session row _))
      | ok reviewReturn =>
          simp only
          refine ensures_bind _ _ _ _ (recordAndApplyReview_mints env session row reviewReturn row.iteration) ?_
          intro reviewed only
          have noted := works_trans _ _ _ (works_findings session reviewed.1 only.1 only.2.1 only.2.2)
            (works_put reviewed.1
              { row with
                loopState := row.loopState ++
                  [reviewEntry row.iteration reviewReturn reviewed.2 (residualsOf reviewed.1.db row)] })
          have pins : session.run.kickoff.pins = reviewed.1.run.kickoff.pins := by rw [only.1]
          split
          · refine ensures_read _ _ _ fun artifactId _ => ensures_read _ _ _ fun artifact _ => ?_
            exact ensures_mono _ _ _ (dispatchFixInvocation_works env _ _ _ _ _ _ _ pins) fun after later =>
              .works (works_trans _ _ _ noted later)
          · exact ensures_mono _ _ _ (settleStageBoundary_worked env _ _ _ _ _ _ pins) fun after later =>
              worked_after env _ _ _ noted later

theorem handleReviewStageEvent_worked :
    Ensures (handleReviewStageEvent env session row outcomeLabel outputs) (Worked env session) := by
  rw [handleReviewStageEvent]
  split
  · exact ensures_read _ _ _ fun reason _ => ensures_ok _ _ (.works (failStage_works env session row _))
  · refine ensures_read _ _ _ fun stage _ => ?_
    cases stage with
    | skill _ => exact ensures_error _ _
    | action _ => exact ensures_error _ _
    | review stage =>
        simp only
        cases validateReturn env.reviewReturnOf outputs with
        | error text => exact ensures_ok _ _ (.works (failStage_works env session row _))
        | ok reviewReturn =>
            simp only
            refine ensures_bind _ _ _ _ (recordAndApplyReview_mints env session row reviewReturn 1) ?_
            intro reviewed only
            have pins : session.run.kickoff.pins = reviewed.1.run.kickoff.pins := by rw [only.1]
            exact ensures_mono _ _ _ (settleStageBoundary_worked env _ _ _ _ _ _ pins) fun after later =>
              worked_after env _ _ _ (works_trans _ _ _ (works_findings session reviewed.1 only.1 only.2.1 only.2.2)
                (works_put reviewed.1 _)) later

theorem dispatchRefreshAuth_works (reason : String)
    (due : session.run.count (authRetryKey row.stageName) < 1) :
    Ensures (dispatchRefreshAuth env session row reason) (Works session) := by
  rw [dispatchRefreshAuth]
  simp only
  split
  · exact ensures_error _ _
  · rename_i workspaceId requested
    refine ensures_read _ _ _ fun ticket _ => ?_
    have below (key : String) : session.run.count key ≤
        ((Dict.set session.run.sendbackCounts (authRetryKey row.stageName) 1).lookup key).getD 0 := by
      rw [count_set]
      split
      · rename_i isKey
        rw [isKey]
        exact Nat.le_of_lt due
      · exact Nat.le_refl _
    have counted := works_run session
      { session.run with sendbackCounts := Dict.set session.run.sendbackCounts (authRetryKey row.stageName) 1 } rfl rfl
      rfl rfl rfl below rfl rfl
    have added := works_trans _ _ _ counted (works_trans _ _ _
      (works_put _ { row with status := .failed, failureReason := some reason, completedAt := some env.now })
      (works_addExecution _ (newExecution session.db.nextId none .system systemStageRefreshAuth)))
    refine ensures_bind _ _ (Works session) _ ?_ fun after works => ?_
    · rw [dispatchAuthRefresh]
      split
      · exact ensures_error _ _
      · refine ensures_bind _ _ _ _ (dispatchViaWorkspace_works (Session.mint _) _ _ _ _ rfl requested) ?_
        intro db works
        exact ensures_ok _ _ (works_trans _ _ _ added (works_trans _ _ _ (works_mint _) works))
    · exact ensures_ok _ _ (works_trans _ _ _ works (works_run after _ rfl rfl rfl rfl rfl (fun _ => Nat.le_refl _) rfl rfl))

theorem handleSkillStageEvent_worked :
    Ensures (handleSkillStageEvent env session row outcomeLabel outputs) (Worked env session) := by
  rw [handleSkillStageEvent]
  split
  · refine ensures_read _ _ _ fun reason _ => ?_
    split
    · rename_i due
      exact ensures_mono _ _ _ (dispatchRefreshAuth_works env session row reason
        (authRetryDue_below session.run row reason due)) fun after => .works
    · exact ensures_ok _ _ (.works (failStage_works env session row _))
  · refine ensures_read _ _ _ fun stage _ => ?_
    cases stage with
    | review _ => exact ensures_error _ _
    | action _ => exact ensures_error _ _
    | skill stage =>
        simp only
        split
        · exact handleReviewReturn_worked env session stage row _ outputs
        · exact handleFixReturn_worked env session stage row _ outputs
        · exact handleMainReturn_worked env session stage row _ outputs

theorem handleSystemStageEvent_worked :
    Ensures (handleSystemStageEvent env session row outcomeLabel outputs) (Worked env session) := by
  rw [handleSystemStageEvent]
  simp only
  split
  · refine ensures_read _ _ _ fun reason _ => ?_
    split
    · exact ensures_ok _ _ (.ends _ _ _ (works_put session _) rfl)
    · exact ensures_mono _ _ _ (finishOrCleanup_worked env _ _ _) fun after later =>
        worked_after env _ _ _ (works_put session _) later
  · split
    · exact ensures_ok _ _ (.works ⟨issued_both session _ rfl rfl rfl rfl rfl (Nat.le_refl _) rfl rfl (fun _ => rfl) id,
        steady_both session _ rfl rfl rfl rfl rfl rfl rfl rfl (Nat.le_refl _)⟩)
    · split
      · exact ensures_ok _ _ (.ends _ _ _ (works_put session _) rfl)
      · split
        · refine ensures_read _ _ _ fun stage _ => ?_
          cases stage with
          | skill stage =>
              exact ensures_mono _ _ _ (dispatchSkillStage_works env _ stage _ _ _ rfl) fun after later =>
                .works (works_trans _ _ _ (works_put session _) later)
          | review _ =>
              exact ensures_mono _ _ _ (finishOrCleanup_worked env _ _ _) fun after later =>
                worked_after env _ _ _ (works_put session _) later
          | action _ =>
              exact ensures_mono _ _ _ (finishOrCleanup_worked env _ _ _) fun after later =>
                worked_after env _ _ _ (works_put session _) later
        · exact ensures_ok _ _ (.works (works_put session _))

theorem handleAgentEventImpl_worked (args : AgentEventArgs) :
    Ensures (handleAgentEventImpl env session args) (Worked env session) := by
  have cleared := works_run session { session.run with pendingAgentCommandId := none } rfl rfl rfl rfl rfl
    (fun _ => Nat.le_refl _) rfl rfl
  rw [handleAgentEventImpl]
  split
  · exact ensures_ok _ _ (.works (works_refl session))
  · split
    · exact ensures_ok _ _ (.works (works_refl session))
    · split
      · exact ensures_mono _ _ _ (handleSystemStageEvent_worked env _ _ _ _) fun after later =>
          worked_after env _ _ _ cleared later
      · exact ensures_mono _ _ _ (handleReviewStageEvent_worked env _ _ _ _) fun after later =>
          worked_after env _ _ _ cleared later
      · exact ensures_mono _ _ _ (handleSkillStageEvent_worked env _ _ _ _) fun after later =>
          worked_after env _ _ _ cleared later

theorem work_worked :
    Ensures (message.work env session) (Worked env session) := by
  cases message with
  | routeRun args => exact routeRunImpl_worked env session args
  | startStage runId stageIndex => exact ensures_mono _ _ _ (startStageImpl_works env session stageIndex) fun _ => .works
  | handleAgentEvent args => exact handleAgentEventImpl_worked env session args
  | runTerminalHook hook orgId ticketId => exact ensures_ok _ _ (.works (works_refl session))

theorem finishOrCleanup_turns (target : TerminalState) (reason : Option String) :
    Ensures (finishOrCleanup env session target reason) (Turns env session) :=
  ensures_mono _ _ _ (finishOrCleanup_worked env session target reason) fun last => worked_turns env session last

theorem startStageImpl_steady (stageIndex : Option Nat) :
    Ensures (startStageImpl env session stageIndex) (Steady session) :=
  ensures_mono _ _ _ (startStageImpl_works env session stageIndex) fun _ => Works.steady

theorem work_turns :
    Ensures (message.work env session) (Turns env session) :=
  ensures_mono _ _ _ (work_worked env session message) fun last => worked_turns env session last

theorem resolveWith_concludes (pause : RunPause) (resolution : PauseResolution) :
    Ensures (resolveWith env session pause resolution) (Concludes env session) := by
  rw [resolveWith]
  cases resolution.action with
  | approve =>
      exact ensures_read _ _ _ fun row _ =>
        ensures_ok _ _ (.works (issued_trans _ _ _ (issued_resume session) (works_enqueue _ _).issued))
  | instruct =>
      refine ensures_read _ _ _ fun row _ => ?_
      rw [resumeWithInstruction]
      refine ensures_read _ _ _ fun stage _ => ?_
      cases stage.name? with
      | none => exact ensures_error _ _
      | some stageName =>
          refine ensures_mono _ _ _ (startStageImpl_works env _ _) fun after later => .works ?_
          refine issued_trans session _ after ?_ later.issued
          exact issued_both session _ rfl rfl rfl rfl rfl (Nat.le_refl _) rfl rfl
            (fun other => updateTicket_boundPr session.db session.run.ticketId other _ _ _ fun _ => rfl) id
  | sendBack =>
      refine ensures_read _ _ _ fun row _ => ensures_read _ _ _ fun target _ => ?_
      rw [resumeWithSendBack]
      exact ensures_mono _ _ _ (sendBackToStage_worked env (resume session) row _ _ _ _ rfl) fun after later =>
        concludes_after env _ _ _ (issued_resume session) (worked_concludes env _ _ later)
  | kill =>
      exact ensures_mono _ _ _ (finishOrCleanup_worked env _ _ _) fun after later =>
        concludes_after env _ _ _ (issued_run session { session.run with state := .running } rfl rfl rfl rfl)
          (worked_concludes env _ _ later)

theorem cancelPaused_concludes (pause : RunPause) :
    Ensures (cancelPaused env session pause) (Concludes env session) := by
  rw [cancelPaused]
  exact ensures_mono _ _ _ (finishOrCleanup_worked env _ _ _) fun after later =>
    concludes_after env _ _ _ (issued_run session
      { (session.putPause { pause with resolvedAt := some env.now }).run with state := .running, cancelRequested := true }
      rfl rfl rfl rfl) (worked_concludes env _ _ later)

end Yaaos.Pipelines
