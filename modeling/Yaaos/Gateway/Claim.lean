import Yaaos.Gateway.Queue

set_option autoImplicit false

namespace Yaaos.Gateway

open Yaaos.Base

def eligible (agentId : WireUuid) (request : ClaimRequest) (row : AgentCommandRow) : Bool :=
  if request.lifecycle = .unconfigured then configUpdateFor agentId row
  else agentScopedFor agentId row || (decide (request.newWorkspaces > 0) && unassignedProvision row) ||
    pinnedTo agentId request.workspaceIds row

def bucket (agentId : WireUuid) (request : ClaimRequest) (row : AgentCommandRow) : Nat :=
  if request.lifecycle = .unconfigured ∨ agentScopedFor agentId row = true then 0
  else if request.newWorkspaces > 0 ∧ unassignedProvision row = true then 1
  else 2

def waiting (locked : WireUuid → Bool) (row : AgentCommandRow) : Bool :=
  decide (row.status = .pending) && !locked row.id

def Precedes (agentId : WireUuid) (request : ClaimRequest) (row other : AgentCommandRow) : Prop :=
  bucket agentId request row < bucket agentId request other ∨
    (bucket agentId request row = bucket agentId request other ∧ row.id < other.id)

variable (env : ClaimEnv) (agentId : WireUuid) (request : ClaimRequest) (locked : WireUuid → Bool) (remaining : Nat)
  (rows : List AgentCommandRow) (row : AgentCommandRow) (db : GatewayDb) (selected : AgentCommandRow → Bool)

theorem pinnedTo_nil : pinnedTo agentId [] row = false := by
  cases named : row.workspaceId <;> simp [pinnedTo, named]

theorem bucket_agentScoped
    (direct : agentScopedFor agentId row = true) : bucket agentId request row = 0 := by
  simp [bucket, direct]

theorem bucket_workspaceScoped
    (fresh : ¬ request.lifecycle = .unconfigured) (direct : ¬ agentScopedFor agentId row = true) :
    bucket agentId request row = if request.newWorkspaces > 0 ∧ unassignedProvision row = true then 1 else 2 := by
  rw [bucket, if_neg (not_or.mpr ⟨fresh, direct⟩)]

theorem bucket_provision_le
    (capacity : request.newWorkspaces > 0) (fit : unassignedProvision row = true) :
    bucket agentId request row ≤ 1 := by
  unfold bucket
  split
  · exact Nat.zero_le 1
  · rw [if_pos ⟨capacity, fit⟩]

theorem bucket_le :
    bucket agentId request row ≤ 2 := by
  unfold bucket
  split
  · exact Nat.zero_le 2
  · split
    · exact Nat.le_succ 1
    · exact le_refl 2

theorem oldestPending_some (row : AgentCommandRow) (found : oldestPending locked rows selected = some row) :
    row ∈ rows ∧ waiting locked row = true ∧ selected row = true := by
  obtain ⟨member, hit, _⟩ := firstWhere_some rows _ AgentCommandRow.id row found
  simp only [Bool.and_eq_true] at hit
  exact ⟨member, by simp only [waiting, hit.1.1, hit.2, Bool.and_self], hit.1.2⟩

theorem oldestPending_none (unselected : ∀ row ∈ rows, waiting locked row = true → selected row = false) :
    oldestPending locked rows selected = none := by
  rw [oldestPending, firstWhere_none]
  intro row member
  cases held : waiting locked row with
  | true => simp [unselected row member held]
  | false =>
      simp only [waiting] at held
      cases pending : decide (row.status = .pending) with
      | false => simp
      | true =>
          rw [pending, Bool.true_and] at held
          simp [held]

theorem oldestPending_eq (row : AgentCommandRow) (member : row ∈ rows)
    (held : waiting locked row = true) (hit : selected row = true)
    (first : ∀ other ∈ rows, waiting locked other = true → selected other = true → other = row ∨ row.id < other.id) :
    oldestPending locked rows selected = some row := by
  simp only [waiting, Bool.and_eq_true] at held
  apply firstWhere_eq rows _ AgentCommandRow.id row member
  · simp only [held.1, held.2, hit, Bool.and_self]
  · intro other otherMember otherHit
    simp only [Bool.and_eq_true] at otherHit
    exact first other otherMember (by simp only [waiting, otherHit.1.1, otherHit.2, Bool.and_self]) otherHit.1.2

theorem selectEligibleRowNowait_some (agentId : WireUuid) (request : ClaimRequest)
    (rows : List AgentCommandRow) (row : AgentCommandRow)
    (found : selectEligibleRowNowait locked agentId request rows = some row) :
    row ∈ rows ∧ waiting locked row = true ∧ eligible agentId request row = true := by
  unfold selectEligibleRowNowait at found
  unfold eligible
  by_cases fresh : request.lifecycle = .unconfigured
  · rw [if_pos fresh] at found
    rw [if_pos fresh]
    exact oldestPending_some locked rows _ row found
  · rw [if_neg fresh] at found
    rw [if_neg fresh]
    rcases Option.or_eq_some_iff.mp found with first | ⟨_, later⟩
    · obtain ⟨member, held, hit⟩ := oldestPending_some locked rows _ row first
      exact ⟨member, held, by simp [hit]⟩
    · rcases Option.or_eq_some_iff.mp later with second | ⟨_, third⟩
      · split at second
        · rename_i capacity
          obtain ⟨member, held, hit⟩ := oldestPending_some locked rows _ row second
          exact ⟨member, held, by simp [hit, capacity]⟩
        · cases second
      · split at third
        · cases third
        · obtain ⟨member, held, hit⟩ := oldestPending_some locked rows _ row third
          exact ⟨member, held, by simp [hit]⟩

theorem selectEligibleRowNowait_eq (agentId : WireUuid) (request : ClaimRequest)
    (rows : List AgentCommandRow) (row : AgentCommandRow) (member : row ∈ rows) (held : waiting locked row = true)
    (fit : eligible agentId request row = true)
    (first : ∀ other ∈ rows, waiting locked other = true → eligible agentId request other = true →
      other = row ∨ Precedes agentId request row other) :
    selectEligibleRowNowait locked agentId request rows = some row := by
  unfold selectEligibleRowNowait
  by_cases fresh : request.lifecycle = .unconfigured
  · rw [if_pos fresh]
    simp only [eligible, if_pos fresh] at fit first
    apply oldestPending_eq locked rows _ row member held fit
    intro other otherMember otherHeld otherFit
    refine (first other otherMember otherHeld otherFit).imp_right ?_
    intro order
    simpa [Precedes, bucket, fresh] using order
  · rw [if_neg fresh]
    by_cases direct : agentScopedFor agentId row = true
    · have found := oldestPending_eq locked rows (agentScopedFor agentId) row member held direct (by
        intro other otherMember otherHeld otherScoped
        refine (first other otherMember otherHeld (by simp [eligible, fresh, otherScoped])).imp_right ?_
        intro order
        simpa [Precedes, bucket, direct, otherScoped] using order)
      simp [found]
    · have missed := oldestPending_none locked rows (agentScopedFor agentId) (by
        intro other otherMember otherHeld
        by_contra otherScoped
        rw [Bool.not_eq_false] at otherScoped
        rcases first other otherMember otherHeld (by simp [eligible, fresh, otherScoped]) with same | order
        · exact direct (same ▸ otherScoped)
        · have zero := bucket_agentScoped agentId request other otherScoped
          have own := bucket_workspaceScoped agentId request row fresh direct
          have positive : 0 < bucket agentId request row := by
            rw [own]
            split <;> omega
          rcases order with less | equal <;> omega)
      rw [missed, Option.none_or]
      by_cases provision : request.newWorkspaces > 0 ∧ unassignedProvision row = true
      · rw [if_pos provision.1]
        have found := oldestPending_eq locked rows unassignedProvision row member held provision.2 (by
          intro other otherMember otherHeld otherFit
          refine (first other otherMember otherHeld (by simp [eligible, fresh, provision.1, otherFit])).imp_right ?_
          intro order
          have own := bucket_workspaceScoped agentId request row fresh direct
          rw [if_pos provision] at own
          have bound := bucket_provision_le agentId request other provision.1 otherFit
          rcases order with less | equal
          · omega
          · exact equal.2)
        simp [found]
      · have second : (if request.newWorkspaces > 0 then oldestPending locked rows unassignedProvision else none) =
            none := by
          split
          · rename_i capacity
            apply oldestPending_none
            intro other otherMember otherHeld
            by_contra otherFit
            rw [Bool.not_eq_false] at otherFit
            rcases first other otherMember otherHeld (by simp [eligible, fresh, capacity, otherFit]) with same | order
            · exact provision ⟨capacity, same ▸ otherFit⟩
            · have own := bucket_workspaceScoped agentId request row fresh direct
              rw [if_neg provision] at own
              have bound := bucket_provision_le agentId request other capacity otherFit
              rcases order with less | equal <;> omega
          · rfl
        rw [second, Option.none_or]
        have pinned : pinnedTo agentId request.workspaceIds row = true := by
          simp only [eligible, fresh, if_false, Bool.or_eq_true, direct, false_or, Bool.and_eq_true,
            decide_eq_true_eq, Bool.false_eq_true] at fit
          rcases fit with asProvision | asPinned
          · exact absurd asProvision provision
          · exact asPinned
        have named : request.workspaceIds.isEmpty = false := by
          cases ids : request.workspaceIds with
          | nil => simp [ids, pinnedTo_nil] at pinned
          | cons _ _ => rfl
        rw [named]
        apply oldestPending_eq locked rows _ row member held pinned
        intro other otherMember otherHeld otherPinned
        refine (first other otherMember otherHeld (by simp [eligible, fresh, otherPinned])).imp_right ?_
        intro order
        have own := bucket_workspaceScoped agentId request row fresh direct
        rw [if_neg provision] at own
        have bound := bucket_le agentId request other
        rcases order with less | equal
        · omega
        · exact equal.2

structure CommandOrigin where
  orgId : WireUuid
  workspaceId : Option WireUuid
  runId : Option WireUuid
  commandKind : AgentCommandKind
  payload : Dict Json

def AgentCommandRow.origin (row : AgentCommandRow) : CommandOrigin :=
  { orgId := row.orgId, workspaceId := row.workspaceId, runId := row.runId, commandKind := row.commandKind
    payload := row.payload }

def settle (env : ClaimEnv) (draw : Nat) (row : AgentCommandRow) :
    Except GatewayError (Option (AgentCommandRow × AgentCommand)) :=
  match env.hydrators row.commandKind with
  | none => (buildCommand (env.token draw) row row.payload).map fun command => some (row, command)
  | some hydrator =>
    match hydrator row.payload row.orgId with
    | .ok hydratedPayload => (buildCommand (env.token draw) row hydratedPayload).map fun command => some (row, command)
    | .error .raised => .error .hydratorRaised
    | .error (.credential _) => .ok none

structure TakenUp (env : ClaimEnv) (agentId : WireUuid) (request : ClaimRequest) (draw : Nat)
    (row next : AgentCommandRow) : Prop where
  pending : row.status = .pending
  fit : eligible agentId request row = true
  sameId : next.id = row.id
  sameOrigin : next.origin = row.origin
  sameAttempt : next.attempt = row.attempt
  agent : next.agentId = some agentId
  hash : next.completionTokenHash = some (env.sha256 (env.token draw))
  status : next.status = .pending ∨ next.status = .claimed ∨ next.status = .done
  settled : next.status = .claimed → ∃ command, settle env draw row = .ok (some (row, command))

def credentialsFail (env : ClaimEnv) (row : AgentCommandRow) : Bool :=
  match env.hydrators row.commandKind with
  | none => false
  | some hydrator =>
    match hydrator row.payload row.orgId with
    | .error (.credential _) => true
    | _ => false

def takenUp (env : ClaimEnv) (agentId : WireUuid) (request : ClaimRequest) :
    Nat → List AgentCommandRow → List AgentCommandRow
  | remaining, rows =>
    match selectEligibleRowNowait env.locked agentId request rows with
    | none => []
    | some row =>
      row :: if credentialsFail env row && runBearingKinds.contains row.commandKind then
        match remaining with
        | 0 => []
        | remaining + 1 => takenUp env agentId request remaining (rows.filter fun other => decide (other.id ≠ row.id))
      else []

def ClaimedRow (env : ClaimEnv) (agentId : WireUuid) (request : ClaimRequest) (first : Nat)
    (taken : List AgentCommandRow) (row next : AgentCommandRow) : Prop :=
  (∃ position, taken[position]? = some row ∧ TakenUp env agentId request (first + position) row next) ∨
    (row ∉ taken ∧ next = row)

structure CommandsOnly (before after : GatewayDb) : Prop where
  workspaceAgents : after.workspaceAgents = before.workspaceAgents
  workspaces : after.workspaces = before.workspaces
  codingAgentRuns : after.codingAgentRuns = before.codingAgentRuns
  codingAgentActivity : after.codingAgentActivity = before.codingAgentActivity

structure ClaimSpec (env : ClaimEnv) (agentId : WireUuid) (request : ClaimRequest) (first : Nat)
    (taken : List AgentCommandRow) (before after : GatewayDb) (handed : Option (AgentCommandRow × AgentCommand)) :
    Prop where
  rewrites : Table.Rewrites (ClaimedRow env agentId request first taken) before.agentCommands after.agentCommands
  others : CommandsOnly before after
  handedRow : ∀ row command, handed = some (row, command) → row ∈ taken ∧ ∃ next ∈ after.agentCommands.rows,
    next.id = row.id ∧ next.status = .claimed ∧ next.completionTokenHash = command.completionToken.map env.sha256

theorem commandsOnly_trans (first middle last : GatewayDb) (left : CommandsOnly first middle)
    (right : CommandsOnly middle last) : CommandsOnly first last :=
  ⟨right.1.trans left.1, right.2.trans left.2, right.3.trans left.3, right.4.trans left.4⟩

theorem updateCommand_commandsOnly (id : WireUuid) (change : AgentCommandRow → AgentCommandRow)
    (kept : ∀ row, (change row).id = row.id) : CommandsOnly db (db.updateCommand id change kept) := ⟨rfl, rfl, rfl, rfl⟩

theorem updateCommand_twice (id : WireUuid) (first second : AgentCommandRow → AgentCommandRow)
    (keptFirst : ∀ row, (first row).id = row.id) (keptSecond : ∀ row, (second row).id = row.id) :
    (db.updateCommand id first keptFirst).updateCommand id second keptSecond =
      db.updateCommand id (fun row => second (first row)) fun row => (keptSecond (first row)).trans (keptFirst row) := by
  simp only [GatewayDb.updateCommand]
  rw [Table.update_update _ _ _ _ _ _ fun row => by rw [keptFirst row]]

theorem updateCommand_rewrites (R : AgentCommandRow → AgentCommandRow → Prop) (db : GatewayDb) (row : AgentCommandRow)
    (change : AgentCommandRow → AgentCommandRow) (kept : ∀ row, (change row).id = row.id)
    (member : row ∈ db.agentCommands.rows) (same : ∀ other ∈ db.agentCommands.rows, other ≠ row → R other other)
    (changed : R row (change row)) :
    Table.Rewrites R db.agentCommands (db.updateCommand row.id change kept).agentCommands := by
  refine Table.rewrites_update R db.agentCommands _ change kept ?_ ?_
  · intro other otherMember missed
    apply same other otherMember
    intro equal
    simp [equal] at missed
  · intro other otherMember hit
    have matched := Table.eq_of_key db.agentCommands other row otherMember member (by simpa using hit)
    rw [matched]
    exact changed

theorem updateCommand_mem (row : AgentCommandRow) (change : AgentCommandRow → AgentCommandRow)
    (kept : ∀ row, (change row).id = row.id) (member : row ∈ db.agentCommands.rows) :
    change row ∈ (db.updateCommand row.id change kept).agentCommands.rows := by
  simp only [GatewayDb.updateCommand, Table.update, List.mem_map]
  exact ⟨row, member, by simp⟩

theorem reportHydrationFailure_commands (consumers : List String) (row : AgentCommandRow) (userMessage : String)
    (db : GatewayDb) : (reportHydrationFailure consumers row userMessage db).agentCommands = db.agentCommands := by
  unfold reportHydrationFailure
  split <;> rfl

theorem reportHydrationFailure_commandsOnly (consumers : List String) (row : AgentCommandRow) (userMessage : String)
    (db : GatewayDb) : CommandsOnly db (reportHydrationFailure consumers row userMessage db) := by
  unfold reportHydrationFailure
  split <;> exact ⟨rfl, rfl, rfl, rfl⟩

def pendingRows (rows : List AgentCommandRow) : List AgentCommandRow :=
  rows.filter fun row => decide (row.status = .pending)

theorem oldestPending_congr (left right : List AgentCommandRow)
    (selected : AgentCommandRow → Bool) (same : pendingRows left = pendingRows right) :
    oldestPending locked left selected = oldestPending locked right selected := by
  have narrowed : ∀ rows : List AgentCommandRow,
      rows.filter (fun row => decide (row.status = .pending) && selected row && !locked row.id) =
        (pendingRows rows).filter fun row => selected row && !locked row.id := by
    intro rows
    rw [pendingRows, List.filter_filter]
    apply List.filter_congr
    intro row _
    cases decide (row.status = .pending) <;> cases selected row <;> cases locked row.id <;> rfl
  simp only [oldestPending, firstWhere, narrowed, same]

theorem selectEligibleRowNowait_congr (agentId : WireUuid) (request : ClaimRequest)
    (left right : List AgentCommandRow) (same : pendingRows left = pendingRows right) :
    selectEligibleRowNowait locked agentId request left = selectEligibleRowNowait locked agentId request right := by
  simp only [selectEligibleRowNowait, oldestPending_congr locked left right _ same]

theorem takenUp_congr
    (left right : List AgentCommandRow) (same : pendingRows left = pendingRows right) :
    takenUp env agentId request remaining left = takenUp env agentId request remaining right := by
  induction remaining generalizing left right with
  | zero =>
      unfold takenUp
      rw [selectEligibleRowNowait_congr env.locked agentId request left right same]
  | succ remaining ih =>
      unfold takenUp
      rw [selectEligibleRowNowait_congr env.locked agentId request left right same]
      have narrowed : ∀ id : WireUuid, pendingRows (left.filter fun other => decide (other.id ≠ id)) =
          pendingRows (right.filter fun other => decide (other.id ≠ id)) := by
        intro id
        simp only [pendingRows] at same
        simp only [pendingRows, List.filter_comm, same]
      simp only [fun row : AgentCommandRow => ih _ _ (narrowed row.id)]

theorem takenUp_member (taken : row ∈ takenUp env agentId request remaining rows) :
    row ∈ rows ∧ row.status = .pending ∧ eligible agentId request row = true := by
  induction remaining generalizing rows with
  | zero =>
      unfold takenUp at taken
      split at taken
      · simp at taken
      · rename_i first found
        have same : row = first := by simpa using taken
        obtain ⟨member, held, fit⟩ := selectEligibleRowNowait_some env.locked agentId request rows first found
        rw [same]
        exact ⟨member, by simp only [waiting, Bool.and_eq_true, decide_eq_true_eq] at held; exact held.1, fit⟩
  | succ remaining ih =>
      unfold takenUp at taken
      split at taken
      · simp at taken
      · rename_i first found
        obtain ⟨member, held, fit⟩ := selectEligibleRowNowait_some env.locked agentId request rows first found
        rcases List.mem_cons.mp taken with same | later
        · rw [same]
          exact ⟨member, by simp only [waiting, Bool.and_eq_true, decide_eq_true_eq] at held; exact held.1, fit⟩
        · split at later
          · obtain ⟨present, rest⟩ := ih _ later
            exact ⟨(List.mem_filter.mp present).1, rest⟩
          · simp at later

theorem takenUp_last
    (kept : (credentialsFail env row && runBearingKinds.contains row.commandKind) = false)
    (taken : row ∈ takenUp env agentId request remaining rows) :
    (takenUp env agentId request remaining rows).getLast? = some row := by
  induction remaining generalizing rows with
  | zero =>
      unfold takenUp at taken ⊢
      cases found : selectEligibleRowNowait env.locked agentId request rows with
      | none => simp [found] at taken
      | some first =>
          have same : row = first := by simpa [found] using taken
          simp [same]
  | succ remaining ih =>
      unfold takenUp at taken ⊢
      cases found : selectEligibleRowNowait env.locked agentId request rows with
      | none => simp [found] at taken
      | some first =>
          simp only [found] at taken ⊢
          rcases List.mem_cons.mp taken with same | later
          · rw [← same, kept]
            rfl
          · split at later
            · rename_i fails
              have last := ih _ later
              rw [if_pos fails, List.getLast?_cons, last]
              rfl
            · cases later

def stampRetired (env : ClaimEnv) (agentId : WireUuid) (raw : String) (row : AgentCommandRow) : AgentCommandRow :=
  retireRow (stampClaim env agentId raw row)

theorem stampRetired_id (raw : String) (row : AgentCommandRow) :
    (stampRetired env agentId raw row).id = row.id := rfl

theorem waiting_pending (held : waiting locked row = true) :
    row.status = .pending := by
  simp only [waiting, Bool.and_eq_true, decide_eq_true_eq] at held
  exact held.1

theorem pendingRows_retired (row : AgentCommandRow) (change : AgentCommandRow → AgentCommandRow)
    (kept : ∀ row, (change row).id = row.id) (retired : ∀ row, (change row).status ≠ .pending) :
    pendingRows (db.updateCommand row.id change kept).agentCommands.rows =
      pendingRows (db.agentCommands.rows.filter fun other => decide (other.id ≠ row.id)) := by
  simp only [pendingRows, GatewayDb.updateCommand, Table.update]
  induction db.agentCommands.rows with
  | nil => rfl
  | cons first rest ih =>
      by_cases hit : first.id = row.id
      · simp only [List.map_cons, List.filter_cons, hit, decide_true, if_true, retired, decide_false,
          Bool.false_eq_true, if_false, not_true_eq_false, ne_eq, ih]
      · simp only [List.map_cons, hit, decide_false, Bool.false_eq_true, if_false, List.filter_cons, ne_eq,
          not_false_eq_true, decide_true, if_true, ih]

theorem claimSpec_single (first : Nat)
    (db : GatewayDb) (row : AgentCommandRow) (change : AgentCommandRow → AgentCommandRow)
    (kept : ∀ row, (change row).id = row.id) (handed : Option (AgentCommandRow × AgentCommand))
    (member : row ∈ db.agentCommands.rows) (taken : TakenUp env agentId request first row (change row))
    (own : ∀ other command, handed = some (other, command) → other = row ∧ (change row).status = .claimed ∧
      (change row).completionTokenHash = command.completionToken.map env.sha256) :
    ClaimSpec env agentId request first [row] db (db.updateCommand row.id change kept) handed where
  rewrites := by
    apply updateCommand_rewrites _ db row change kept member
    · intro other _ different
      exact .inr ⟨by simpa using different, rfl⟩
    · exact .inl ⟨0, rfl, taken⟩
  others := updateCommand_commandsOnly db row.id change kept
  handedRow := by
    intro other command same
    obtain ⟨equal, claimed⟩ := own other command same
    subst equal
    exact ⟨by simp, change other, updateCommand_mem db other change kept member, taken.sameId, claimed⟩

theorem takenUp_stamped (draw : Nat)
    (row : AgentCommandRow) (command : AgentCommand) (pending : row.status = .pending)
    (fit : eligible agentId request row = true) (settled : settle env draw row = .ok (some (row, command))) :
    TakenUp env agentId request draw row (stampClaim env agentId (env.token draw) row) :=
  ⟨pending, fit, rfl, rfl, rfl, rfl, rfl, .inr (.inl rfl), fun _ => ⟨command, settled⟩⟩

theorem claimSpec_retired (db reported after : GatewayDb)
    (row : AgentCommandRow) (draw : Nat) (rest : List AgentCommandRow)
    (handed : Option (AgentCommandRow × AgentCommand)) (member : row ∈ db.agentCommands.rows)
    (pending : row.status = .pending) (fit : eligible agentId request row = true)
    (commands : reported.agentCommands = (db.updateCommand row.id
      (stampRetired env agentId (env.token draw)) (stampRetired_id env agentId (env.token draw))).agentCommands)
    (others : CommandsOnly db reported)
    (later : ClaimSpec env agentId request (draw + 1) rest reported after handed)
    (alive : ∀ other ∈ rest, other ∈ reported.agentCommands.rows ∧ other.status = .pending) :
    ClaimSpec env agentId request draw (row :: rest) db after handed := by
  have first : Table.Rewrites
      (fun old next => (old = row ∧ next = stampRetired env agentId (env.token draw) row) ∨
        (old ≠ row ∧ next = old)) db.agentCommands reported.agentCommands := by
    rw [commands]
    apply updateCommand_rewrites _ db row _ _ member
    · intro other _ different
      exact .inr ⟨different, rfl⟩
    · exact .inl ⟨rfl, rfl⟩
  refine ⟨?_, commandsOnly_trans db reported after others later.others, ?_⟩
  · apply Table.rewrites_trans _ _ _ db.agentCommands reported.agentCommands after.agentCommands _ first later.rewrites
    intro old oldMember middle next changed middleMember followed
    rcases changed with ⟨same, retired⟩ | ⟨different, unchanged⟩
    · subst same
      have still : middle ∉ rest := by
        intro inside
        have alivePending := (alive middle inside).2
        rw [retired] at alivePending
        cases alivePending
      rcases followed with ⟨position, inside, _⟩ | ⟨_, equal⟩
      · exact absurd (List.mem_of_getElem? inside) still
      · refine .inl ⟨0, rfl, ?_⟩
        rw [equal, retired]
        exact ⟨pending, fit, rfl, rfl, rfl, rfl, rfl, .inr (.inr rfl), fun claimed => by cases claimed⟩
    · subst unchanged
      rcases followed with ⟨position, inside, taken⟩ | ⟨outside, equal⟩
      · refine .inl ⟨position + 1, inside, ?_⟩
        rw [← Nat.add_assoc, Nat.add_right_comm]
        exact taken
      · exact .inr ⟨by simp [different, outside], equal⟩
  · intro other command same
    obtain ⟨inside, claimed⟩ := later.handedRow other command same
    exact ⟨by simp [inside], claimed⟩

theorem modelCopy_token (command : AgentCommand) (traceparent : String) (token : Option String)
    (runId : Option WireUuid) : (command.modelCopy traceparent token runId).completionToken = token := by
  cases command <;> rfl

theorem buildCommand_token (raw : String) (row : AgentCommandRow) (payload : Dict Json) (command : AgentCommand)
    (built : buildCommand raw row payload = .ok command) : command.completionToken = some raw := by
  unfold buildCommand at built
  split at built
  · cases built
  · cases built
    exact modelCopy_token _ _ _ _

theorem stamped_spec (draw : Nat) (db after : GatewayDb)
    (row : AgentCommandRow) (payload : Dict Json) (handed : Option (AgentCommandRow × AgentCommand))
    (member : row ∈ db.agentCommands.rows) (pending : row.status = .pending)
    (fit : eligible agentId request row = true)
    (settles : settle env draw row = (buildCommand (env.token draw) row payload).map fun command => some (row, command))
    (returned : ((buildCommand (env.token draw) row payload).map fun command =>
      (db.updateCommand row.id (stampClaim env agentId (env.token draw)) (stampClaim_id env agentId (env.token draw)),
        some (row, command))) =
        .ok (after, handed)) : ClaimSpec env agentId request draw [row] db after handed := by
  cases built : buildCommand (env.token draw) row payload with
  | error error => simp [built, Except.map] at returned
  | ok command =>
      simp only [built, Except.map, Except.ok.injEq, Prod.mk.injEq] at returned
      obtain ⟨rfl, rfl⟩ := returned
      apply claimSpec_single env agentId request draw db row _ _ _ member
      · exact takenUp_stamped env agentId request draw row command pending fit (by rw [settles, built]; rfl)
      · intro other otherCommand same
        simp only [Option.some.injEq, Prod.mk.injEq] at same
        refine ⟨same.1.symm, rfl, ?_⟩
        rw [← same.2, buildCommand_token (env.token draw) row payload command built]
        rfl

theorem reverted_spec (draw : Nat) (db : GatewayDb)
    (row : AgentCommandRow) (member : row ∈ db.agentCommands.rows) (pending : row.status = .pending)
    (fit : eligible agentId request row = true) :
    ClaimSpec env agentId request draw [row] db
      ((db.updateCommand row.id (stampClaim env agentId (env.token draw))
        (stampClaim_id env agentId (env.token draw))).updateCommand row.id revertClaim revertClaim_id) none := by
  rw [updateCommand_twice]
  apply claimSpec_single env agentId request draw db row _ _ _ member
  · exact ⟨pending, fit, rfl, rfl, rfl, rfl, rfl, .inl rfl, fun claimed => by cases claimed⟩
  · intro other command same
    cases same

theorem claimSelected_settled
    (db after : GatewayDb) (row : AgentCommandRow) (handed : Option (AgentCommandRow × AgentCommand))
    (member : row ∈ db.agentCommands.rows) (pending : row.status = .pending)
    (fit : eligible agentId request row = true)
    (kept : (credentialsFail env row && runBearingKinds.contains row.commandKind) = false ∨ remaining = 0)
    (returned : claimSelected env agentId request remaining db row = .ok (after, handed)) :
    ClaimSpec env agentId request (hydrationRetireCap - remaining) [row] db after handed := by
  unfold claimSelected at returned
  unfold credentialsFail at kept
  cases registered : env.hydrators row.commandKind with
  | none =>
      simp only [registered] at returned
      exact stamped_spec env agentId request _ db after row _ handed member pending fit (by simp only [settle, registered])
        returned
  | some hydrator =>
      simp only [registered] at returned kept
      cases hydrated : hydrator row.payload row.orgId with
      | ok payload =>
          simp only [hydrated] at returned
          exact stamped_spec env agentId request _ db after row payload handed member pending fit
            (by simp only [settle, registered, hydrated]) returned
      | error failure =>
          cases failure with
          | raised => simp [hydrated] at returned
          | credential userMessage =>
              simp only [hydrated, Bool.true_and] at returned kept
              rcases kept with plain | last
              · simp only [plain, Bool.false_eq_true, if_false, Except.ok.injEq, Prod.mk.injEq] at returned
                obtain ⟨rfl, rfl⟩ := returned
                exact reverted_spec env agentId request _ db row member pending fit
              · subst last
                simp only [ite_self, Except.ok.injEq, Prod.mk.injEq] at returned
                obtain ⟨rfl, rfl⟩ := returned
                exact reverted_spec env agentId request _ db row member pending fit

theorem claimSelected_retired (row : AgentCommandRow)
    (fails : (credentialsFail env row && runBearingKinds.contains row.commandKind) = true) :
    ∃ userMessage, claimSelected env agentId request (remaining + 1) db row =
      let reported := reportHydrationFailure env.consumers row userMessage
        (db.updateCommand row.id (stampRetired env agentId (env.token (hydrationRetireCap - (remaining + 1))))
          (stampRetired_id env agentId _))
      match selectEligibleRowNowait env.locked agentId request reported.agentCommands.rows with
      | none => .ok (reported, none)
      | some next => claimSelected env agentId request remaining reported next := by
  simp only [Bool.and_eq_true] at fails
  obtain ⟨failed, bearing⟩ := fails
  unfold credentialsFail at failed
  split at failed
  · cases failed
  · rename_i hydrator registered
    split at failed
    · rename_i userMessage hydrated
      refine ⟨userMessage, ?_⟩
      rw [claimSelected]
      simp only [registered, hydrated, bearing, if_true, updateCommand_twice]
      rfl
    · cases failed

theorem claimSelected_step (row : AgentCommandRow)
    (chosen : selectEligibleRowNowait env.locked agentId request db.agentCommands.rows = some row)
    (fails : (credentialsFail env row && runBearingKinds.contains row.commandKind) = true) :
    ∃ reported, claimSelected env agentId request (remaining + 1) db row =
        (match selectEligibleRowNowait env.locked agentId request reported.agentCommands.rows with
        | none => .ok (reported, none)
        | some next => claimSelected env agentId request remaining reported next) ∧
      reported.agentCommands = (db.updateCommand row.id
        (stampRetired env agentId (env.token (hydrationRetireCap - (remaining + 1))))
        (stampRetired_id env agentId _)).agentCommands ∧
      CommandsOnly db reported ∧
      takenUp env agentId request (remaining + 1) db.agentCommands.rows =
        row :: takenUp env agentId request remaining reported.agentCommands.rows := by
  obtain ⟨userMessage, unfolded⟩ := claimSelected_retired env agentId request remaining db row fails
  have commands := reportHydrationFailure_commands env.consumers row userMessage (db.updateCommand row.id
    (stampRetired env agentId (env.token (hydrationRetireCap - (remaining + 1)))) (stampRetired_id env agentId _))
  refine ⟨_, unfolded, commands, ?_, ?_⟩
  · exact commandsOnly_trans _ _ _ (updateCommand_commandsOnly _ _ _ _) (reportHydrationFailure_commandsOnly _ _ _ _)
  · rw [commands, takenUp_congr env agentId request remaining _ _ (pendingRows_retired db row _ _ _)]
    · conv_lhs => unfold takenUp
      rw [chosen]
      simp only [fails, if_true]
    · intro other equal
      cases equal

theorem takenUp_nothing (found : selectEligibleRowNowait env.locked agentId request rows = none) :
    takenUp env agentId request remaining rows = [] := by
  unfold takenUp
  rw [found]

theorem takenUp_single
    (chosen : selectEligibleRowNowait env.locked agentId request rows = some row)
    (kept : (credentialsFail env row && runBearingKinds.contains row.commandKind) = false ∨ remaining = 0) :
    takenUp env agentId request remaining rows = [row] := by
  unfold takenUp
  rw [chosen]
  rcases kept with plain | last
  · simp only [plain, Bool.false_eq_true, if_false]
  · subst last
    simp

theorem claimSpec_nothing (first : Nat) (db : GatewayDb) :
    ClaimSpec env agentId request first [] db db none :=
  ⟨Table.rewrites_refl _ _ fun other _ => .inr ⟨by simp, rfl⟩, ⟨rfl, rfl, rfl, rfl⟩,
    fun _ _ impossible => by cases impossible⟩

theorem claimSelected_spec
    (db after : GatewayDb) (row : AgentCommandRow) (handed : Option (AgentCommandRow × AgentCommand))
    (room : remaining ≤ hydrationRetireCap)
    (chosen : selectEligibleRowNowait env.locked agentId request db.agentCommands.rows = some row)
    (returned : claimSelected env agentId request remaining db row = .ok (after, handed)) :
    ClaimSpec env agentId request (hydrationRetireCap - remaining)
      (takenUp env agentId request remaining db.agentCommands.rows) db after handed := by
  induction remaining generalizing db row with
  | zero =>
      obtain ⟨member, held, fit⟩ := selectEligibleRowNowait_some env.locked agentId request _ row chosen
      rw [takenUp_single env agentId request 0 _ row chosen (.inr rfl)]
      exact claimSelected_settled env agentId request 0 db after row handed member
        (waiting_pending env.locked row held) fit (.inr rfl) returned
  | succ remaining ih =>
      obtain ⟨member, held, fit⟩ := selectEligibleRowNowait_some env.locked agentId request _ row chosen
      have pending := waiting_pending env.locked row held
      cases fails : credentialsFail env row && runBearingKinds.contains row.commandKind with
      | false =>
          rw [takenUp_single env agentId request (remaining + 1) _ row chosen (.inl fails)]
          exact claimSelected_settled env agentId request (remaining + 1) db after row handed member pending fit
            (.inl fails) returned
      | true =>
          obtain ⟨reported, unfolded, commands, others, several⟩ :=
            claimSelected_step env agentId request remaining db row chosen fails
          rw [unfolded] at returned
          rw [several]
          refine claimSpec_retired env agentId request db reported after row _ _ handed member pending fit commands
            others ?_ ?_
          · have later : hydrationRetireCap - (remaining + 1) + 1 = hydrationRetireCap - remaining := by omega
            rw [later]
            cases next : selectEligibleRowNowait env.locked agentId request reported.agentCommands.rows with
            | none =>
                simp only [next, Except.ok.injEq, Prod.mk.injEq] at returned
                obtain ⟨rfl, rfl⟩ := returned
                rw [takenUp_nothing env agentId request remaining _ next]
                exact claimSpec_nothing env agentId request _ reported
            | some following =>
                simp only [next] at returned
                exact ih reported following (by omega) next returned
          · intro other taken
            obtain ⟨present, otherPending, _⟩ := takenUp_member env agentId request remaining _ other taken
            exact ⟨present, otherPending⟩

theorem claimRow_spec (db after : GatewayDb)
    (handed : Option (AgentCommandRow × AgentCommand)) (returned : claimRow env agentId request db = .ok (after, handed)) :
    ClaimSpec env agentId request 0 (takenUp env agentId request hydrationRetireCap db.agentCommands.rows) db after
      handed := by
  unfold claimRow at returned
  cases chosen : selectEligibleRowNowait env.locked agentId request db.agentCommands.rows with
  | none =>
      simp only [chosen, Except.ok.injEq, Prod.mk.injEq] at returned
      obtain ⟨rfl, rfl⟩ := returned
      rw [takenUp_nothing env agentId request hydrationRetireCap _ chosen]
      exact claimSpec_nothing env agentId request 0 db
  | some row =>
      simp only [chosen] at returned
      have spec := claimSelected_spec env agentId request hydrationRetireCap db after row handed (le_refl _) chosen
        returned
      rw [Nat.sub_self] at spec
      exact spec

theorem settle_skipped (draw : Nat) (row : AgentCommandRow) (fails : credentialsFail env row = true) :
    settle env draw row = .ok none := by
  unfold credentialsFail at fails
  unfold settle
  cases registered : env.hydrators row.commandKind with
  | none => simp [registered] at fails
  | some hydrator =>
      simp only [registered] at fails ⊢
      cases hydrated : hydrator row.payload row.orgId with
      | ok payload => simp [hydrated] at fails
      | error failure =>
          cases failure with
          | raised => simp [hydrated] at fails
          | credential userMessage => rfl

theorem claimSelected_settles (row : AgentCommandRow)
    (kept : (credentialsFail env row && runBearingKinds.contains row.commandKind) = false ∨ remaining = 0) :
    (claimSelected env agentId request remaining db row).map Prod.snd =
      settle env (hydrationRetireCap - remaining) row := by
  unfold claimSelected settle
  unfold credentialsFail at kept
  cases registered : env.hydrators row.commandKind with
  | none =>
      simp only
      cases buildCommand (env.token (hydrationRetireCap - remaining)) row row.payload <;> rfl
  | some hydrator =>
      simp only [registered] at kept ⊢
      cases hydrated : hydrator row.payload row.orgId with
      | ok payload =>
          simp only
          cases buildCommand (env.token (hydrationRetireCap - remaining)) row payload <;> rfl
      | error failure =>
          cases failure with
          | raised => rfl
          | credential userMessage =>
              simp only [hydrated, Bool.true_and] at kept
              rcases kept with plain | last
              · simp only [plain, Bool.false_eq_true, if_false]
                rfl
              · subst last
                simp only [ite_self]
                rfl

def lastSettled (env : ClaimEnv) (first : Nat) (taken : List AgentCommandRow) :
    Except GatewayError (Option (AgentCommandRow × AgentCommand)) :=
  match taken.getLast? with
  | none => .ok none
  | some last => settle env (first + (taken.length - 1)) last

theorem lastSettled_cons (first : Nat) (row : AgentCommandRow) (rest : List AgentCommandRow)
    (fails : credentialsFail env row = true) : lastSettled env first (row :: rest) = lastSettled env (first + 1) rest := by
  cases rest with
  | nil => exact settle_skipped env _ row fails
  | cons next later =>
      have count : first + 1 + (later.length + 1 - 1) = first + (later.length + 1 + 1 - 1) := by omega
      simp only [lastSettled, List.getLast?_cons_cons, List.length_cons, count]

theorem claimSelected_handed (row : AgentCommandRow) (room : remaining ≤ hydrationRetireCap)
    (chosen : selectEligibleRowNowait env.locked agentId request db.agentCommands.rows = some row) :
    (claimSelected env agentId request remaining db row).map Prod.snd =
      lastSettled env (hydrationRetireCap - remaining)
        (takenUp env agentId request remaining db.agentCommands.rows) := by
  induction remaining generalizing db row with
  | zero =>
      rw [takenUp_single env agentId request 0 _ row chosen (.inr rfl)]
      exact claimSelected_settles env agentId request 0 db row (.inr rfl)
  | succ remaining ih =>
      cases fails : credentialsFail env row && runBearingKinds.contains row.commandKind with
      | false =>
          rw [takenUp_single env agentId request (remaining + 1) _ row chosen (.inl fails)]
          exact claimSelected_settles env agentId request (remaining + 1) db row (.inl fails)
      | true =>
          obtain ⟨reported, unfolded, _, _, several⟩ :=
            claimSelected_step env agentId request remaining db row chosen fails
          have later : hydrationRetireCap - (remaining + 1) + 1 = hydrationRetireCap - remaining := by omega
          rw [Bool.and_eq_true] at fails
          rw [unfolded, several, lastSettled_cons env _ row _ fails.1, later]
          cases next : selectEligibleRowNowait env.locked agentId request reported.agentCommands.rows with
          | none =>
              rw [takenUp_nothing env agentId request remaining _ next]
              rfl
          | some following => exact ih reported following (by omega) next

theorem claimRow_handed :
    (claimRow env agentId request db).map Prod.snd =
      lastSettled env 0 (takenUp env agentId request hydrationRetireCap db.agentCommands.rows) := by
  unfold claimRow
  cases chosen : selectEligibleRowNowait env.locked agentId request db.agentCommands.rows with
  | none =>
      rw [takenUp_nothing env agentId request hydrationRetireCap _ chosen]
      rfl
  | some row => exact claimSelected_handed env agentId request hydrationRetireCap db row (le_refl _) chosen

end Yaaos.Gateway
