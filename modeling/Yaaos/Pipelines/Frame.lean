import Yaaos.Pipelines.Standing

set_option autoImplicit false

namespace Yaaos.Pipelines

open Yaaos.Base

structure DbCarries (runId : Uuid) (workspaceId : Option Uuid) (before after : Db) : Prop where
  runs : after.runs = before.runs
  nextId : before.nextId ≤ after.nextId
  messages : ∀ other, other ≠ runId → after.messagesFor other = before.messagesFor other
  addressed : ∀ message ∈ after.outbox, message ∈ before.outbox ∨ message.drives? = some runId
  tickets : ∀ ticketId ticket, before.tickets.find? ticketId = some ticket →
    ∃ next, after.tickets.find? ticketId = some next ∧ next.orgId = ticket.orgId
  artifacts : ∀ artifact ∈ before.artifacts, ∃ next ∈ after.artifacts,
    next.id = artifact.id ∧ next.orgId = artifact.orgId
  commands : ∀ command ∈ after.agentCommands,
    command ∈ before.agentCommands ∨
      before.nextId ≤ command.id ∧ command.id < after.nextId ∧ command.workspaceId < after.nextId
  untouched : ∀ other, other < before.nextId → workspaceId ≠ some other →
    after.workspaces.find? other = before.workspaces.find? other
  present : ∀ other, before.workspaces.find? other ≠ none → after.workspaces.find? other ≠ none
  rowIds : ∀ row ∈ after.workspaces.rows, ∃ old ∈ before.workspaces.rows, old.id = row.id
  claims : ∀ row ∈ after.workspaces.rows, ∀ command, row.currentCommandId = some command →
    (∃ old ∈ before.workspaces.rows, old.currentCommandId = some command) ∨
      before.nextId ≤ command ∧ command < after.nextId

structure Carries (before after : Session) : Prop where
  id : after.run.id = before.run.id
  orgId : after.run.orgId = before.run.orgId
  ticketId : after.run.ticketId = before.run.ticketId
  definition : after.run.definitionSnapshot = before.run.definitionSnapshot
  workspace : after.run.workspaceId = before.run.workspaceId ∨
    ∃ workspaceId, after.run.workspaceId = some workspaceId ∧ before.db.nextId ≤ workspaceId ∧
      workspaceId < after.db.nextId
  pending : after.run.pendingAgentCommandId = before.run.pendingAgentCommandId ∨
    after.run.pendingAgentCommandId = none ∨
      ∃ command, after.run.pendingAgentCommandId = some command ∧ before.db.nextId ≤ command
  db : DbCarries before.run.id before.run.workspaceId before.db after.db

variable (session : Session) (row : StageExecution) (db : Db)

theorem dbCarries_same (runId : Uuid) (workspaceId : Option Uuid) (before after : Db) (runs : after.runs = before.runs)
    (nextId : before.nextId ≤ after.nextId) (outbox : after.outbox = before.outbox)
    (tickets : after.tickets = before.tickets) (workspaces : after.workspaces = before.workspaces)
    (commands : after.agentCommands = before.agentCommands)
    (artifacts : ∀ artifact ∈ before.artifacts, ∃ next ∈ after.artifacts,
      next.id = artifact.id ∧ next.orgId = artifact.orgId) :
    DbCarries runId workspaceId before after where
  runs := runs
  nextId := nextId
  messages := by
    intro other _
    rw [Db.messagesFor, outbox, Db.messagesFor]
  addressed := by
    intro message member
    rw [outbox] at member
    exact .inl member
  tickets := by
    intro ticketId ticket found
    exact ⟨ticket, by rw [tickets, found], rfl⟩
  artifacts := artifacts
  commands := by
    intro command member
    rw [commands] at member
    exact .inl member
  untouched := by
    intro other _ _
    rw [workspaces]
  present := by
    intro other
    rw [workspaces]
    exact id
  rowIds := by
    rw [workspaces]
    exact fun row member => ⟨row, member, rfl⟩
  claims := by
    intro row member command claimed
    rw [workspaces] at member
    exact .inl ⟨row, member, claimed⟩

theorem kept_artifacts : ∀ artifact ∈ db.artifacts, ∃ next ∈ db.artifacts,
    next.id = artifact.id ∧ next.orgId = artifact.orgId :=
  fun artifact member => ⟨artifact, member, rfl, rfl⟩

theorem dbCarries_refl (runId : Uuid) (workspaceId : Option Uuid) (db : Db) : DbCarries runId workspaceId db db :=
  dbCarries_same runId workspaceId db db rfl (Nat.le_refl _) rfl rfl rfl rfl (kept_artifacts db)

theorem dbCarries_trans (runId : Uuid) (workspaceId next : Option Uuid) (first middle last : Db)
    (moved : next = workspaceId ∨ ∃ fresh, next = some fresh ∧ first.nextId ≤ fresh)
    (left : DbCarries runId workspaceId first middle) (right : DbCarries runId next middle last) :
    DbCarries runId workspaceId first last where
  runs := right.runs.trans left.runs
  nextId := Nat.le_trans left.nextId right.nextId
  messages := fun other different => (right.messages other different).trans (left.messages other different)
  addressed := by
    intro message member
    rcases right.addressed message member with earlier | own
    · exact left.addressed message earlier
    · exact .inr own
  tickets := by
    intro ticketId ticket found
    obtain ⟨second, foundSecond, sameSecond⟩ := left.tickets ticketId ticket found
    obtain ⟨third, foundThird, sameThird⟩ := right.tickets ticketId second foundSecond
    exact ⟨third, foundThird, sameThird.trans sameSecond⟩
  artifacts := by
    intro artifact member
    obtain ⟨second, memberSecond, sameId, sameOrg⟩ := left.artifacts artifact member
    obtain ⟨third, memberThird, againId, againOrg⟩ := right.artifacts second memberSecond
    exact ⟨third, memberThird, againId.trans sameId, againOrg.trans sameOrg⟩
  commands := by
    intro command member
    rcases right.commands command member with earlier | ⟨low, high, target⟩
    · rcases left.commands command earlier with first | ⟨low, high, target⟩
      · exact .inl first
      · exact .inr ⟨low, Nat.lt_of_lt_of_le high right.nextId, Nat.lt_of_lt_of_le target right.nextId⟩
    · exact .inr ⟨Nat.le_trans left.nextId low, high, target⟩
  untouched := by
    intro other bound different
    have still : next ≠ some other := by
      rcases moved with same | ⟨fresh, same, low⟩
      · rw [same]
        exact different
      · rw [same]
        intro equal
        cases equal
        exact absurd bound (Nat.not_lt.mpr low)
    rw [right.untouched other (Nat.lt_of_lt_of_le bound left.nextId) still, left.untouched other bound different]
  present := fun other found => right.present other (left.present other found)
  rowIds := by
    intro row member
    obtain ⟨second, secondMember, sameSecond⟩ := right.rowIds row member
    obtain ⟨third, thirdMember, sameThird⟩ := left.rowIds second secondMember
    exact ⟨third, thirdMember, sameThird.trans sameSecond⟩
  claims := by
    intro row member command claimed
    rcases right.claims row member command claimed with ⟨old, oldMember, oldClaimed⟩ | ⟨low, high⟩
    · rcases left.claims old oldMember command oldClaimed with first | ⟨low, high⟩
      · exact .inl first
      · exact .inr ⟨low, Nat.lt_of_lt_of_le high right.nextId⟩
    · exact .inr ⟨Nat.le_trans left.nextId low, high⟩

theorem messagesFor_enqueue (message : Message) (runId : Uuid) :
    (db.enqueue message).messagesFor runId =
      db.messagesFor runId ++ if message.drives? = some runId then [message] else [] := by
  by_cases driven : message.drives? = some runId
  · simp [Db.messagesFor, Db.enqueue, List.filter_append, driven]
  · simp [Db.messagesFor, Db.enqueue, List.filter_append, driven]

theorem dbCarries_enqueue (runId : Uuid) (workspaceId : Option Uuid) (db : Db) (message : Message)
    (driven : message.drives? = some runId) : DbCarries runId workspaceId db (db.enqueue message) :=
  { dbCarries_refl runId workspaceId db with
    messages := by
      intro other different
      rw [messagesFor_enqueue, driven, if_neg (fun same => different (Option.some.inj same).symm), List.append_nil]
    addressed := by
      intro queued member
      rw [Db.enqueue, List.mem_append, List.mem_singleton] at member
      rcases member with earlier | same
      · exact .inl earlier
      · rw [same]
        exact .inr driven }

theorem dbCarries_updateTicket (runId : Uuid) (workspaceId : Option Uuid) (db : Db) (ticketId : Uuid)
    (selected : Ticket → Bool) (change : Ticket → Ticket) (kept : ∀ row, (change row).id = row.id)
    (keptOrg : ∀ row, (change row).orgId = row.orgId) :
    DbCarries runId workspaceId db (db.updateTicket ticketId selected change kept) :=
  { dbCarries_refl runId workspaceId db with
    tickets := by
      intro otherId ticket found
      rw [Db.updateTicket, Table.find?_update, found, Option.map_some]
      by_cases hit : (ticket.id == ticketId && selected ticket) = true
      · exact ⟨change ticket, by rw [if_pos hit], keptOrg ticket⟩
      · exact ⟨ticket, by rw [if_neg hit], rfl⟩ }

theorem dbCarries_transitionTicket (runId : Uuid) (workspaceId : Option Uuid) (db : Db) (ticketId orgId ticketRun : Uuid)
    (from_ : TicketStatus → Bool) (newStatus : TicketStatus) :
    DbCarries runId workspaceId db (transitionTicket db ticketId orgId ticketRun from_ newStatus) :=
  dbCarries_updateTicket runId workspaceId db ticketId _ _ _ fun _ => rfl

theorem find?_updateWorkspace (workspaceId other : Uuid) (change : Workspace → Workspace)
    (kept : ∀ row, (change row).id = row.id) :
    (db.updateWorkspace workspaceId change kept).workspaces.find? other =
      if other = workspaceId then (db.workspaces.find? other).map change else db.workspaces.find? other := by
  rw [Db.updateWorkspace, Table.find?_update]
  cases found : db.workspaces.find? other with
  | none => simp
  | some row =>
      obtain ⟨_, same⟩ := Table.find?_some db.workspaces other row found
      by_cases hit : other = workspaceId
      · simp [hit, same ▸ hit]
      · simp [hit, same]

theorem updateWorkspace_rowIds (workspaceId : Uuid) (change : Workspace → Workspace)
    (kept : ∀ row, (change row).id = row.id) :
    ∀ row ∈ (db.updateWorkspace workspaceId change kept).workspaces.rows, ∃ old ∈ db.workspaces.rows, old.id = row.id := by
  intro row member
  simp only [Db.updateWorkspace, Table.update, List.mem_map] at member
  obtain ⟨old, oldMember, same⟩ := member
  refine ⟨old, oldMember, ?_⟩
  rw [← same]
  split
  · exact (kept old).symm
  · rfl

theorem dbCarries_updateWorkspace (runId workspaceId : Uuid) (db : Db) (change : Workspace → Workspace)
    (kept : ∀ row, (change row).id = row.id)
    (claims : ∀ row ∈ db.workspaces.rows, (change row).currentCommandId = row.currentCommandId) :
    DbCarries runId (some workspaceId) db (db.updateWorkspace workspaceId change kept) :=
  { dbCarries_refl runId (some workspaceId) db with
    untouched := by
      intro other _ different
      rw [find?_updateWorkspace, if_neg fun same => different (by rw [same])]
    present := by
      intro other found
      rw [find?_updateWorkspace]
      by_cases hit : other = workspaceId <;> simpa [hit] using found
    rowIds := updateWorkspace_rowIds db workspaceId change kept
    claims := by
      intro row member command claimed
      simp only [Db.updateWorkspace, Table.update, List.mem_map] at member
      obtain ⟨old, oldMember, same⟩ := member
      refine .inl ⟨old, oldMember, ?_⟩
      rw [← same] at claimed
      split at claimed
      · rw [← claims old oldMember, claimed]
      · exact claimed }

theorem dbCarries_extendExpiry (runId workspaceId : Uuid) (db : Db) (expiresAt : Nat) :
    DbCarries runId (some workspaceId) db (extendExpiry db workspaceId expiresAt) :=
  dbCarries_updateWorkspace runId workspaceId db (fun row => { row with expiresAt := expiresAt }) (fun _ => rfl)
    fun _ _ => rfl

theorem dbCarries_enqueueCommand (runId : Uuid) (workspaceId : Option Uuid) (before db : Db) (command : AgentCommand)
    (carries : DbCarries runId workspaceId before db) (low : before.nextId ≤ command.id) (high : command.id < db.nextId)
    (target : command.workspaceId < db.nextId) : DbCarries runId workspaceId before (enqueueCommand db command) :=
  { carries with
    commands := by
      intro other member
      rw [enqueueCommand, List.mem_append, List.mem_singleton] at member
      rcases member with earlier | same
      · exact carries.commands other earlier
      · rw [same]
        exact .inr ⟨low, high, target⟩ }

theorem dbCarries_claim (runId workspaceId command : Uuid) (before db : Db)
    (carries : DbCarries runId (some workspaceId) before db) (low : before.nextId ≤ command)
    (high : command < db.nextId) : DbCarries runId (some workspaceId) before (claim db workspaceId command) :=
  { carries with
    untouched := by
      intro other bound different
      rw [claim, find?_updateWorkspace, if_neg fun same => different (by rw [same])]
      exact carries.untouched other bound different
    present := by
      intro other found
      rw [claim, find?_updateWorkspace]
      by_cases hit : other = workspaceId <;> simpa [hit] using carries.present other found
    rowIds := by
      intro row member
      obtain ⟨middle, middleMember, sameMiddle⟩ := updateWorkspace_rowIds db workspaceId _ _ row member
      obtain ⟨old, oldMember, sameOld⟩ := carries.rowIds middle middleMember
      exact ⟨old, oldMember, sameOld.trans sameMiddle⟩
    claims := by
      intro row member held claimed
      simp only [claim, Db.updateWorkspace, Table.update, List.mem_map] at member
      obtain ⟨old, oldMember, same⟩ := member
      rw [← same] at claimed
      split at claimed
      · cases claimed
        exact .inr ⟨low, high⟩
      · exact carries.claims old oldMember held claimed }

theorem carries_refl : Carries session session :=
  ⟨rfl, rfl, rfl, rfl, .inl rfl, .inl rfl, dbCarries_refl _ _ _⟩

theorem carries_trans (first middle last : Session) (left : Carries first middle) (right : Carries middle last) :
    Carries first last where
  id := right.id.trans left.id
  orgId := right.orgId.trans left.orgId
  ticketId := right.ticketId.trans left.ticketId
  definition := right.definition.trans left.definition
  workspace := by
    rcases right.workspace with same | ⟨fresh, moved, low, high⟩
    · rw [same]
      rcases left.workspace with earlier | ⟨fresh, moved, low, high⟩
      · exact .inl earlier
      · exact .inr ⟨fresh, moved, low, Nat.lt_of_lt_of_le high right.db.nextId⟩
    · exact .inr ⟨fresh, moved, Nat.le_trans left.db.nextId low, high⟩
  pending := by
    rcases right.pending with same | cleared | ⟨command, parked, low⟩
    · rw [same]
      exact left.pending
    · exact .inr (.inl cleared)
    · exact .inr (.inr ⟨command, parked, Nat.le_trans left.db.nextId low⟩)
  db := by
    have moved : middle.run.workspaceId = first.run.workspaceId ∨
        ∃ fresh, middle.run.workspaceId = some fresh ∧ first.db.nextId ≤ fresh := by
      rcases left.workspace with same | ⟨fresh, moved, low, _⟩
      · exact .inl same
      · exact .inr ⟨fresh, moved, low⟩
    have second := right.db
    rw [left.id] at second
    exact dbCarries_trans first.run.id first.run.workspaceId middle.run.workspaceId first.db middle.db last.db moved
      left.db second

theorem carries_run (run : PipelineRun) (id : run.id = session.run.id)
    (orgId : run.orgId = session.run.orgId) (ticketId : run.ticketId = session.run.ticketId)
    (definition : run.definitionSnapshot = session.run.definitionSnapshot)
    (workspace : run.workspaceId = session.run.workspaceId)
    (pending : run.pendingAgentCommandId = session.run.pendingAgentCommandId) :
    Carries session { session with run := run } :=
  ⟨id, orgId, ticketId, definition, .inl workspace, .inl pending, dbCarries_refl _ _ _⟩

theorem carries_db
    (carries : DbCarries session.run.id session.run.workspaceId session.db db) : Carries session { session with db := db } :=
  ⟨rfl, rfl, rfl, rfl, .inl rfl, .inl rfl, carries⟩

theorem dbCarries_mint (runId : Uuid) (workspaceId : Option Uuid) (db : Db) :
    DbCarries runId workspaceId db { db with nextId := db.nextId + 1 } :=
  dbCarries_same runId workspaceId db _ rfl (Nat.le_succ _) rfl rfl rfl rfl (kept_artifacts db)

theorem carries_mint : Carries session session.mint :=
  carries_db session _ (dbCarries_mint _ _ _)

theorem carries_put : Carries session (session.put row) :=
  carries_run session _ rfl rfl rfl rfl rfl rfl

theorem carries_addExecution : Carries session (session.addExecution row) :=
  ⟨rfl, rfl, rfl, rfl, .inl rfl, .inl rfl, dbCarries_mint _ _ _⟩

theorem carries_enqueue (message : Message) (driven : message.drives? = some session.run.id) :
    Carries session (session.enqueue message) :=
  carries_db session _ (dbCarries_enqueue _ _ _ message driven)

theorem carries_resume : Carries session (resume session) where
  id := rfl
  orgId := rfl
  ticketId := rfl
  definition := rfl
  workspace := .inl rfl
  pending := .inl rfl
  db := dbCarries_transitionTicket session.run.id session.run.workspaceId session.db session.run.ticketId
    session.run.orgId session.run.id (fun status => status == .hitl) .running

theorem sound_carries (runId : Uuid) (workspaceId : Option Uuid) (before after : Db) (run : PipelineRun)
    (carries : DbCarries runId workspaceId before after) (sound : Sound before run) : Sound after run where
  bound := Nat.lt_of_lt_of_le sound.bound carries.nextId
  rowsBound := fun row member => Nat.lt_of_lt_of_le (sound.rowsBound row member) carries.nextId
  distinct := sound.distinct
  rowsOf := sound.rowsOf
  stored := by
    intro row member artifactId recorded
    obtain ⟨artifact, artifactMember, sameId, sameOrg⟩ := sound.stored row member artifactId recorded
    obtain ⟨next, nextMember, keptId, keptOrg⟩ := carries.artifacts artifact artifactMember
    exact ⟨next, nextMember, keptId.trans sameId, keptOrg.trans sameOrg⟩
  workspaceBound := fun workspaceId same => Nat.lt_of_lt_of_le (sound.workspaceBound workspaceId same) carries.nextId
  workspaceRows := by
    intro row member
    obtain ⟨old, oldMember, same⟩ := carries.rowIds row member
    rw [← same]
    exact Nat.lt_of_lt_of_le (sound.workspaceRows old oldMember) carries.nextId
  ticketed := by
    obtain ⟨ticket, found, sameOrg⟩ := sound.ticketed
    obtain ⟨next, foundNext, keptOrg⟩ := carries.tickets run.ticketId ticket found
    exact ⟨next, foundNext, keptOrg.trans sameOrg⟩

theorem sound_congr (before after : PipelineRun) (id : after.id = before.id)
    (orgId : after.orgId = before.orgId) (ticketId : after.ticketId = before.ticketId)
    (definition : after.definitionSnapshot = before.definitionSnapshot)
    (workspace : after.workspaceId = before.workspaceId) (rows : after.stageExecutions = before.stageExecutions)
    (sound : Sound db before) : Sound db after where
  bound := by rw [id]; exact sound.bound
  rowsBound := by rw [rows]; exact sound.rowsBound
  distinct := by rw [rows]; exact sound.distinct
  rowsOf := by rw [rows, definition]; exact sound.rowsOf
  stored := by rw [rows, orgId]; exact sound.stored
  workspaceBound := by rw [workspace]; exact sound.workspaceBound
  workspaceRows := sound.workspaceRows
  ticketed := by rw [ticketId, orgId]; exact sound.ticketed

structure RowFits (db : Db) (run : PipelineRun) (row : StageExecution) : Prop where
  rowOf : RowOf run.definitionSnapshot row
  stored : ∀ artifactId, recordedArtifact row = some artifactId →
    ∃ artifact ∈ db.artifacts, artifact.id = artifactId ∧ artifact.orgId = run.orgId

theorem put_others (rest : List StageExecution) (fresh : row.id ∉ rest.map StageExecution.id) :
    rest.map (fun other => if other.id = row.id then row else other) = rest := by
  refine (List.map_congr_left (g := id) ?_).trans (List.map_id rest)
  intro other member
  have different : other.id ≠ row.id := fun same => fresh (List.mem_map.mpr ⟨other, member, same⟩)
  rw [if_neg different, id]

theorem put_rows (row next : StageExecution) (rest : List StageExecution)
    (rows : session.run.stageExecutions = row :: rest)
    (distinct : (session.run.stageExecutions.map StageExecution.id).Nodup) (same : next.id = row.id) :
    (session.put next).run.stageExecutions = next :: rest := by
  rw [rows, List.map_cons, List.nodup_cons] at distinct
  rw [Session.put]
  simp only [rows, List.map_cons]
  rw [if_pos same.symm, put_others next rest (by rw [same]; exact distinct.1)]

theorem sound_rows (before after : PipelineRun) (row next : StageExecution) (rest : List StageExecution)
    (id : after.id = before.id) (orgId : after.orgId = before.orgId) (ticketId : after.ticketId = before.ticketId)
    (definition : after.definitionSnapshot = before.definitionSnapshot)
    (workspace : after.workspaceId = before.workspaceId) (rows : before.stageExecutions = row :: rest)
    (rewritten : after.stageExecutions = next :: rest) (same : next.id = row.id) (fits : RowFits db before next)
    (sound : Sound db before) : Sound db after where
  bound := by rw [id]; exact sound.bound
  rowsBound := by
    intro other member
    rw [rewritten, List.mem_cons] at member
    rcases member with first | later
    · rw [first, same]
      exact sound.rowsBound row (by rw [rows]; exact List.mem_cons_self)
    · exact sound.rowsBound other (by rw [rows]; exact List.mem_cons_of_mem row later)
  distinct := by
    have distinct := sound.distinct
    rw [rows, List.map_cons] at distinct
    rw [rewritten, List.map_cons, same]
    exact distinct
  rowsOf := by
    intro other member
    rw [rewritten, List.mem_cons] at member
    rw [definition]
    rcases member with first | later
    · rw [first]
      exact fits.rowOf
    · exact sound.rowsOf other (by rw [rows]; exact List.mem_cons_of_mem row later)
  stored := by
    intro other member
    rw [rewritten, List.mem_cons] at member
    rw [orgId]
    rcases member with first | later
    · rw [first]
      exact fits.stored
    · exact sound.stored other (by rw [rows]; exact List.mem_cons_of_mem row later)
  workspaceBound := by rw [workspace]; exact sound.workspaceBound
  workspaceRows := sound.workspaceRows
  ticketed := by rw [ticketId, orgId]; exact sound.ticketed

theorem sound_put (row next : StageExecution) (rest : List StageExecution)
    (rows : session.run.stageExecutions = row :: rest) (same : next.id = row.id)
    (fits : RowFits session.db session.run next) (sound : Sound session.db session.run) :
    Sound (session.put next).db (session.put next).run :=
  sound_rows session.db session.run (session.put next).run row next rest rfl rfl rfl rfl rfl rows
    (put_rows session row next rest rows sound.distinct same) same fits sound

theorem sound_addExecution (fresh : row.id = session.db.nextId)
    (fits : RowFits session.db session.run row) (sound : Sound session.db session.run) :
    Sound (session.addExecution row).db (session.addExecution row).run where
  bound := Nat.lt_succ_of_lt sound.bound
  rowsBound := by
    intro other member
    rcases List.mem_cons.mp member with first | later
    · rw [first, fresh]
      exact Nat.lt_succ_self _
    · exact Nat.lt_succ_of_lt (sound.rowsBound other later)
  distinct := by
    refine List.nodup_cons.mpr ⟨?_, sound.distinct⟩
    intro taken
    obtain ⟨other, member, same⟩ := List.mem_map.mp taken
    have bound := sound.rowsBound other member
    rw [same, fresh] at bound
    exact Nat.lt_irrefl _ bound
  rowsOf := by
    intro other member
    rcases List.mem_cons.mp member with first | later
    · rw [first]
      exact fits.rowOf
    · exact sound.rowsOf other later
  stored := by
    intro other member
    rcases List.mem_cons.mp member with first | later
    · rw [first]
      exact fits.stored
    · exact sound.stored other later
  workspaceBound := fun workspaceId same => Nat.lt_succ_of_lt (sound.workspaceBound workspaceId same)
  workspaceRows := fun row member => Nat.lt_succ_of_lt (sound.workspaceRows row member)
  ticketed := sound.ticketed

end Yaaos.Pipelines
