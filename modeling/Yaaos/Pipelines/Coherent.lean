import Yaaos.Pipelines.Resolve

set_option autoImplicit false

namespace Yaaos.Pipelines

open Yaaos.Base

structure Shared (db : Db) : Prop where
  driven : ∀ message ∈ db.outbox, ∀ runId, message.drives? = some runId → runId < db.nextId
  events : ∀ args, .handleAgentEvent args ∈ db.outbox → args.agentCommandId < db.nextId ∧
    ∀ row ∈ db.workspaces.rows, row.currentCommandId ≠ some args.agentCommandId
  commands : ∀ command ∈ db.agentCommands, command.id < db.nextId ∧ command.workspaceId < db.nextId
  claims : ∀ row ∈ db.workspaces.rows, ∀ command, row.currentCommandId = some command → command < db.nextId
  workspaceIds : ∀ row ∈ db.workspaces.rows, row.id < db.nextId

def StandsIn (db : Db) (run : PipelineRun) : Prop := Stands (db.messagesFor run.id) (workspaceOf db run) run

structure Opened (db : Db) (runId : Uuid) : Prop extends Shared db where
  sound : ∀ run ∈ db.runs.rows, Sound db run
  stands : ∀ run ∈ db.runs.rows, run.id ≠ runId → StandsIn db run
  apart : ∀ run ∈ db.runs.rows, ∀ other ∈ db.runs.rows, ∀ workspaceId, run.workspaceId = some workspaceId →
    other.workspaceId = some workspaceId → run.id = other.id

structure Coherent (db : Db) : Prop extends Shared db where
  sound : ∀ run ∈ db.runs.rows, Sound db run
  stands : ∀ run ∈ db.runs.rows, StandsIn db run
  apart : ∀ run ∈ db.runs.rows, ∀ other ∈ db.runs.rows, ∀ workspaceId, run.workspaceId = some workspaceId →
    other.workspaceId = some workspaceId → run.id = other.id

structure Advances (subject : Option Uuid) (before after : Db) : Prop where
  nextId : before.nextId ≤ after.nextId
  others : ∀ run ∈ before.runs.rows, subject ≠ some run.id → run.state ≠ .queued →
    run ∈ after.runs.rows ∧ after.messagesFor run.id = before.messagesFor run.id
  pending : ∀ run ∈ after.runs.rows, ∀ command, run.pendingAgentCommandId = some command →
    before.nextId ≤ command ∨ ∃ old ∈ before.runs.rows, old.id = run.id ∧ old.pendingAgentCommandId = some command

variable (subject : Option Uuid)

theorem coherent_opened (db : Db) (runId : Uuid) (coherent : Coherent db) : Opened db runId :=
  { coherent.toShared with
    sound := coherent.sound
    stands := fun run member _ => coherent.stands run member
    apart := coherent.apart }

theorem advances_same (before after : Db) (nextId : before.nextId ≤ after.nextId)
    (runs : after.runs.rows = before.runs.rows)
    (messages : ∀ runId, subject ≠ some runId → after.messagesFor runId = before.messagesFor runId) :
    Advances subject before after where
  nextId := nextId
  others := by
    intro run member different _
    exact ⟨by rw [runs]; exact member, messages run.id different⟩
  pending := by
    intro run member command pending
    rw [runs] at member
    exact .inr ⟨run, member, rfl, pending⟩

theorem advances_refl (db : Db) : Advances subject db db :=
  advances_same subject db db (Nat.le_refl _) rfl fun _ _ => rfl

theorem advances_trans (first middle last : Db) (left : Advances subject first middle)
    (right : Advances subject middle last) : Advances subject first last where
  nextId := Nat.le_trans left.nextId right.nextId
  others := by
    intro run member different started
    obtain ⟨kept, messages⟩ := left.others run member different started
    obtain ⟨again, later⟩ := right.others run kept different started
    exact ⟨again, later.trans messages⟩
  pending := by
    intro run member command pending
    rcases right.pending run member command pending with fresh | ⟨old, oldMember, sameId, waits⟩
    · exact .inl (Nat.le_trans left.nextId fresh)
    · rcases left.pending old oldMember command waits with fresh | ⟨first, firstMember, same, waited⟩
      · exact .inl fresh
      · exact .inr ⟨first, firstMember, same.trans sameId, waited⟩

theorem advances_weaken (before after : Db) (advances : Advances none before after) :
    Advances subject before after where
  nextId := advances.nextId
  others := fun run member _ started => advances.others run member (by simp) started
  pending := advances.pending

theorem saveRun_rows (db : Db) (run row : PipelineRun) (member : row ∈ (db.saveRun run).runs.rows) :
    row = run ∨ row ∈ db.runs.rows ∧ row.id ≠ run.id := by
  simp only [Db.saveRun, Table.update, List.mem_map] at member
  obtain ⟨old, oldMember, same⟩ := member
  by_cases hit : old.id = run.id
  · rw [if_pos (by simp [hit]), if_pos hit] at same
    exact .inl same.symm
  · rw [if_neg (by simp [hit])] at same
    rw [← same]
    exact .inr ⟨oldMember, hit⟩

theorem saveRun_other (db : Db) (run row : PipelineRun) (member : row ∈ db.runs.rows) (different : row.id ≠ run.id) :
    row ∈ (db.saveRun run).runs.rows := by
  simp only [Db.saveRun, Table.update, List.mem_map]
  exact ⟨row, member, by simp [different]⟩

theorem saveRun_own (db : Db) (run row : PipelineRun) (member : row ∈ db.runs.rows) (same : row.id = run.id) :
    run ∈ (db.saveRun run).runs.rows := by
  simp only [Db.saveRun, Table.update, List.mem_map]
  exact ⟨row, member, by simp [same]⟩

theorem saveRun_stored (db : Db) (run : PipelineRun) (member : run ∈ db.runs.rows) : db.saveRun run = db := by
  have rows : (db.saveRun run).runs = db.runs := by
    refine Table.ext_rows _ _ ?_
    simp only [Db.saveRun, Table.update]
    refine (List.map_congr_left (g := id) ?_).trans (List.map_id _)
    intro row rowMember
    by_cases hit : row.id = run.id
    · rw [if_pos (by simp [hit]), if_pos hit, id, Table.eq_of_key db.runs row run rowMember member hit]
    · rw [if_neg (by simp [hit]), id]
  have shape : db.saveRun run = { db with runs := (db.saveRun run).runs } := rfl
  rw [shape, rows]

section Committing

theorem sound_saveRun (db : Db) (saved run : PipelineRun) (sound : Sound db run) : Sound (db.saveRun saved) run :=
  ⟨sound.bound, sound.rowsBound, sound.distinct, sound.rowsOf, sound.stored, sound.workspaceBound, sound.workspaceRows,
    sound.ticketed⟩

theorem shared_carries (before after : Session) (shared : Shared before.db) (carries : Carries before after)
    (bound : before.run.id < before.db.nextId) : Shared after.db where
  driven := by
    intro message member runId drives
    rcases carries.db.addressed message member with earlier | own
    · exact Nat.lt_of_lt_of_le (shared.driven message earlier runId drives) carries.db.nextId
    · rw [own] at drives
      cases drives
      exact Nat.lt_of_lt_of_le bound carries.db.nextId
  events := by
    intro args member
    rcases carries.db.addressed _ member with earlier | own
    · obtain ⟨low, free⟩ := shared.events args earlier
      refine ⟨Nat.lt_of_lt_of_le low carries.db.nextId, fun row rowMember claimed => ?_⟩
      rcases carries.db.claims row rowMember _ claimed with ⟨old, oldMember, held⟩ | ⟨fresh, _⟩
      · exact free old oldMember held
      · exact absurd low (Nat.not_lt.mpr fresh)
    · cases own
  commands := by
    intro command member
    rcases carries.db.commands command member with earlier | ⟨_, high, target⟩
    · obtain ⟨low, target⟩ := shared.commands command earlier
      exact ⟨Nat.lt_of_lt_of_le low carries.db.nextId, Nat.lt_of_lt_of_le target carries.db.nextId⟩
    · exact ⟨high, target⟩
  claims := by
    intro row member command claimed
    rcases carries.db.claims row member command claimed with ⟨old, oldMember, held⟩ | ⟨_, high⟩
    · exact Nat.lt_of_lt_of_le (shared.claims old oldMember command held) carries.db.nextId
    · exact high
  workspaceIds := by
    intro row member
    obtain ⟨old, oldMember, same⟩ := carries.db.rowIds row member
    rw [← same]
    exact Nat.lt_of_lt_of_le (shared.workspaceIds old oldMember) carries.db.nextId

variable (db : Db) (run : PipelineRun) (after : Session)

theorem commit_settled (opened : Opened db run.id) (member : run ∈ db.runs.rows) (carries : Carries ⟨db, run⟩ after)
    (sound : Sound after.db after.run) (stands : StandsIn after.db after.run) : Coherent after.commit := by
  have bound := (opened.sound run member).bound
  have shared := shared_carries ⟨db, run⟩ after opened.toShared carries bound
  have split (row : PipelineRun) (rowMember : row ∈ after.commit.runs.rows) :
      row = after.run ∨ row ∈ db.runs.rows ∧ row.id ≠ run.id := by
    rcases saveRun_rows after.db after.run row rowMember with own | ⟨other, different⟩
    · exact .inl own
    · rw [carries.db.runs] at other
      rw [carries.id] at different
      exact .inr ⟨other, different⟩
  refine { driven := shared.driven, events := shared.events, commands := shared.commands, claims := shared.claims,
           workspaceIds := shared.workspaceIds, sound := ?_, stands := ?_, apart := ?_ }
  · intro row rowMember
    rcases split row rowMember with own | ⟨other, _⟩
    · rw [own]
      exact sound_saveRun after.db after.run after.run sound
    · exact sound_saveRun after.db after.run row (sound_carries _ _ _ _ row carries.db (opened.sound row other))
  · intro row rowMember
    rcases split row rowMember with own | ⟨other, different⟩
    · rw [own]
      exact stands
    · have kept := opened.stands row other different
      have messages : after.db.messagesFor row.id = db.messagesFor row.id := carries.db.messages row.id different
      have workspace : workspaceOf after.db row = workspaceOf db row := by
        rw [workspaceOf, workspaceOf]
        cases owned : row.workspaceId with
        | none => rfl
        | some workspaceId =>
            refine carries.db.untouched workspaceId ((opened.sound row other).workspaceBound workspaceId owned) ?_
            exact fun same => different (opened.apart row other run member workspaceId owned same)
      rw [StandsIn, ← messages, ← workspace] at kept
      exact kept
  · have clash (row : PipelineRun) (other : row ∈ db.runs.rows) (different : row.id ≠ run.id) (workspaceId : Uuid)
        (left : after.run.workspaceId = some workspaceId) (right : row.workspaceId = some workspaceId) : False := by
      rcases carries.workspace with same | ⟨fresh, moved, low, _⟩
      · exact different (opened.apart row other run member workspaceId right (same.symm.trans left))
      · have used := (opened.sound row other).workspaceBound workspaceId right
        rw [moved] at left
        cases left
        exact absurd used (Nat.not_lt.mpr low)
    intro first firstMember second secondMember workspaceId left right
    rcases split first firstMember with own | ⟨other, different⟩
    · rcases split second secondMember with ownToo | ⟨another, apart⟩
      · rw [own, ownToo]
      · rw [own] at left
        exact (clash second another apart workspaceId left right).elim
    · rcases split second secondMember with own | ⟨another, apart⟩
      · rw [own] at right
        exact (clash first other different workspaceId right left).elim
      · exact opened.apart first other second another workspaceId left right

theorem commit_advances (carries : Carries ⟨db, run⟩ after) (member : run ∈ db.runs.rows) :
    Advances (some run.id) db after.commit where
  nextId := carries.db.nextId
  others := by
    intro row rowMember different _
    have apart : row.id ≠ run.id := fun same => different (by rw [same])
    refine ⟨saveRun_other after.db after.run row ?_ ?_, carries.db.messages row.id apart⟩
    · rw [carries.db.runs]
      exact rowMember
    · rw [carries.id]
      exact apart
  pending := by
    intro row rowMember command pending
    rcases saveRun_rows after.db after.run row rowMember with own | ⟨other, _⟩
    · rw [own] at pending ⊢
      rcases carries.pending with same | cleared | ⟨fresh, parked, low⟩
      · exact .inr ⟨run, member, carries.id.symm, same.symm.trans pending⟩
      · rw [cleared] at pending
        cases pending
      · rw [parked] at pending
        cases pending
        exact .inl low
    · rw [carries.db.runs] at other
      exact .inr ⟨row, other, rfl, pending⟩

end Committing

theorem coherent_ambient (before after : Db) (coherent : Coherent before) (shared : Shared after)
    (runs : after.runs = before.runs) (nextId : before.nextId ≤ after.nextId)
    (messages : ∀ runId, after.messagesFor runId = before.messagesFor runId)
    (tickets : ∀ ticketId ticket, before.tickets.find? ticketId = some ticket →
      ∃ next, after.tickets.find? ticketId = some next ∧ next.orgId = ticket.orgId)
    (artifacts : after.artifacts = before.artifacts)
    (eases : ∀ workspaceId, Eases (before.workspaces.find? workspaceId) (after.workspaces.find? workspaceId)) :
    Coherent after :=
  { shared with
    sound := by
      intro run member
      rw [runs] at member
      have sound := coherent.sound run member
      obtain ⟨ticket, found, sameOrg⟩ := sound.ticketed
      obtain ⟨next, foundNext, keptOrg⟩ := tickets run.ticketId ticket found
      exact
        { bound := Nat.lt_of_lt_of_le sound.bound nextId
          rowsBound := fun row rowMember => Nat.lt_of_lt_of_le (sound.rowsBound row rowMember) nextId
          distinct := sound.distinct
          rowsOf := sound.rowsOf
          stored := by
            rw [artifacts]
            exact sound.stored
          workspaceBound := fun workspaceId own => Nat.lt_of_lt_of_le (sound.workspaceBound workspaceId own) nextId
          workspaceRows := shared.workspaceIds
          ticketed := ⟨next, foundNext, keptOrg.trans sameOrg⟩ }
    stands := by
      intro run member
      rw [runs] at member
      rw [StandsIn, messages]
      refine stands_eases _ (workspaceOf before run) _ run ?_ (coherent.stands run member)
      rw [workspaceOf, workspaceOf]
      cases run.workspaceId with
      | none => exact eases_refl none
      | some workspaceId => exact eases workspaceId
    apart := by
      rw [runs]
      exact coherent.apart }

theorem coherent_hook (db : Db) (hook : String) (orgId ticketId : Uuid) (coherent : Coherent db) :
    Coherent (db.enqueue (.runTerminalHook hook orgId ticketId)) ∧
      Advances none db (db.enqueue (.runTerminalHook hook orgId ticketId)) := by
  have messages (runId : Uuid) :
      (db.enqueue (.runTerminalHook hook orgId ticketId)).messagesFor runId = db.messagesFor runId := by
    rw [messagesFor_enqueue, if_neg (by intro drives; cases drives), List.append_nil]
  have queued (message : Message) (member : message ∈ (db.enqueue (.runTerminalHook hook orgId ticketId)).outbox) :
      message ∈ db.outbox ∨ message = .runTerminalHook hook orgId ticketId := by
    simpa [Db.enqueue] using member
  constructor
  · refine coherent_ambient db _ coherent { coherent.toShared with driven := ?_, events := ?_ } rfl (Nat.le_refl _)
      messages (fun ticketId ticket found => ⟨ticket, found, rfl⟩) rfl fun workspaceId => eases_refl _
    · intro message member runId drives
      rcases queued message member with earlier | own
      · exact coherent.driven message earlier runId drives
      · rw [own] at drives
        cases drives
    · intro args member
      rcases queued _ member with earlier | own
      · exact coherent.events args earlier
      · cases own
  · exact advances_same none db _ (Nat.le_refl _) rfl fun runId _ => messages runId

theorem coherent_hooks (hooks : List String) (orgId ticketId : Uuid) (db : Db) (coherent : Coherent db) :
    Coherent (hooks.foldl (fun db hook => db.enqueue (.runTerminalHook hook orgId ticketId)) db) ∧
      Advances none db (hooks.foldl (fun db hook => db.enqueue (.runTerminalHook hook orgId ticketId)) db) := by
  induction hooks generalizing db with
  | nil => exact ⟨coherent, advances_refl none db⟩
  | cons hook rest ih =>
      obtain ⟨once, first⟩ := coherent_hook db hook orgId ticketId coherent
      obtain ⟨again, later⟩ := ih _ once
      exact ⟨again, advances_trans none db _ _ first later⟩

theorem attemptPromotion_coherent (db : Db) (run : PipelineRun) (coherent : Coherent db) (member : run ∈ db.runs.rows) :
    Coherent (attemptPromotion db run) ∧ Advances none db (attemptPromotion db run) := by
  rw [attemptPromotion]
  by_cases other : run.state ≠ .queued
  · rw [if_pos other]
    exact ⟨coherent, advances_refl none db⟩
  · rw [if_neg other]
    by_cases taken : slotTaken db run = true
    · rw [if_pos taken]
      exact ⟨coherent, advances_refl none db⟩
    · rw [if_neg taken]
      have queued : run.state = .queued := not_not.mp other
      let bootstrap : RouteRunArgs :=
        { runId := run.id, completedStageIndex := none, outcomeLabel := none, failureReason := none }
      let started := transitionTicketOnRunStart (setCurrentRun db run.ticketId run.id) run.ticketId run.orgId run.id
      let promoted : PipelineRun := { run with state := .running }
      let session : Session := { db := started, run := promoted }
      have moved : DbCarries run.id run.workspaceId db started :=
        dbCarries_trans run.id run.workspaceId _ db _ started (.inl rfl)
          (dbCarries_updateTicket run.id run.workspaceId db run.ticketId (fun _ => true)
            (fun row => { row with currentRunId := some run.id }) (fun _ => rfl) fun _ => rfl)
          (dbCarries_transitionTicket run.id run.workspaceId _ run.ticketId run.orgId run.id _ _)
      have carries : Carries ⟨db, run⟩ (session.enqueue (.routeRun bootstrap)) :=
        carries_trans ⟨db, run⟩ session _ ⟨rfl, rfl, rfl, rfl, .inl rfl, .inl rfl, moved⟩
          (carries_enqueue session (.routeRun bootstrap) rfl)
      have sound : Sound (session.enqueue (.routeRun bootstrap)).db promoted :=
        sound_carries run.id run.workspaceId db _ promoted carries.db
          (sound_congr db run promoted rfl rfl rfl rfl rfl rfl (coherent.sound run member))
      have stands : StandsIn (session.enqueue (.routeRun bootstrap)).db promoted := by
        have unbegun := stands_unbegun _ _ run (coherent.stands run member) queued
        have idle := unbegun_idle _ run unbegun
        refine .routing bootstrap rfl ⟨idle.unparked, idle.quiet, idle.closed⟩
          (messagesFor_own session (.routeRun bootstrap) unbegun.silent rfl) (.bootstrap unbegun.rows unbegun.start)
          ⟨unbegun.phase, fun row found => ?_, fun requested => absurd unbegun.unprovisioned requested⟩
        have absent : workspaceOf started promoted = none := by
          rw [workspaceOf, show promoted.workspaceId = none from unbegun.unprovisioned]
          rfl
        exact absurd (absent.symm.trans found) (by intro same; cases same)
      have advances := commit_advances db run (session.enqueue (.routeRun bootstrap)) carries member
      refine ⟨commit_settled db run (session.enqueue (.routeRun bootstrap)) (coherent_opened db run.id coherent) member
        carries sound stands, advances.nextId, ?_, advances.pending⟩
      intro row rowMember _ begun
      refine advances.others row rowMember (fun same => begun ?_) begun
      rw [Table.eq_of_key db.runs row run rowMember member (Option.some.inj same).symm]
      exact queued

theorem promoteOldestQueued_coherent (db : Db) (ticketId : Uuid) (coherent : Coherent db) :
    Coherent (promoteOldestQueued db ticketId) ∧ Advances none db (promoteOldestQueued db ticketId) := by
  rw [promoteOldestQueued]
  cases found : oldestQueued db ticketId with
  | none => exact ⟨coherent, advances_refl none db⟩
  | some candidate =>
      have member := (firstWhere_some _ _ _ candidate found).1
      exact attemptPromotion_coherent db candidate coherent member

structure Committed (db : Db) (run : PipelineRun) (after : Session) : Prop where
  coherent : Coherent after.commit
  advances : Advances (some run.id) db after.commit
  stored : after.run ∈ after.commit.runs.rows

theorem commit_ended (env : Env) (db : Db) (run : PipelineRun) (last : Session) (target : TerminalState)
    (reason : Option String) (opened : Opened db run.id) (member : run ∈ db.runs.rows)
    (released : Released ⟨db, run⟩ last) : Committed db run (enterTerminal env last target reason) := by
  let final : PipelineRun :=
    { last.run with state := target.state, failureReason := reason, completedAt := some env.now }
  let session : Session :=
    { db := transitionTicketOnRunTerminal last.db last.run.ticketId last.run.orgId last.run.id target.ticketStatus
      run := final }
  have terminal : final.state.isTerminal = true := by
    cases target <;> rfl
  have moved := dbCarries_transitionTicket last.run.id last.run.workspaceId last.db last.run.ticketId last.run.orgId
    last.run.id (fun status => !status.isTerminal) target.ticketStatus
  have carries : Carries ⟨db, run⟩ session :=
    carries_trans ⟨db, run⟩ last session released.carries ⟨rfl, rfl, rfl, rfl, .inl rfl, .inl rfl, moved⟩
  have sound : Sound session.db final :=
    sound_carries _ _ last.db session.db final moved
      (sound_congr last.db last.run final rfl rfl rfl rfl rfl rfl released.sound)
  have stands : StandsIn session.db final :=
    .ended terminal ⟨released.idle.unparked, released.idle.quiet, released.idle.closed⟩ released.silent
  have settled := commit_settled db run session opened member carries sound stands
  have advanced := commit_advances db run session carries member
  obtain ⟨hooked, hooks⟩ := coherent_hooks env.terminalHooks last.run.orgId last.run.ticketId session.commit settled
  obtain ⟨promoted, promotes⟩ := promoteOldestQueued_coherent _ last.run.ticketId hooked
  have later := advances_trans none _ _ _ hooks promotes
  have stored : final ∈ (enterTerminal env last target reason).db.runs.rows := by
    have here : final ∈ session.commit.runs.rows := by
      refine saveRun_own session.db final run ?_ carries.id.symm
      rw [carries.db.runs]
      exact member
    refine (later.others final here (by simp) ?_).1
    intro queued
    rw [queued] at terminal
    cases terminal
  have same : (enterTerminal env last target reason).commit = (enterTerminal env last target reason).db :=
    saveRun_stored _ final stored
  refine ⟨?_, ?_, ?_⟩
  · rw [same]
    exact promoted
  · rw [same]
    exact advances_trans _ db session.commit _ advanced (advances_weaken _ _ _ later)
  · rw [same]
    exact stored

theorem commit_reaches (env : Env) (db : Db) (run : PipelineRun) (after : Session) (opened : Opened db run.id)
    (member : run ∈ db.runs.rows) (reaches : Reaches env ⟨db, run⟩ after) : Committed db run after := by
  cases reaches with
  | settled carries sound stands =>
      refine ⟨commit_settled db run after opened member carries sound stands, commit_advances db run after carries member,
        saveRun_own after.db after.run run ?_ carries.id.symm⟩
      rw [carries.db.runs]
      exact member
  | ended last target reason released closes =>
      rw [closes]
      exact commit_ended env db run last target reason opened member released

end Yaaos.Pipelines
