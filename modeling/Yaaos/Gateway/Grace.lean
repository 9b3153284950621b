import Yaaos.Gateway.PlaneStep

set_option autoImplicit false

namespace Yaaos.Gateway

open Yaaos.Base

def Job.holds (id : WireUuid) : Job → Bool
  | .idle _ session | .liveness session | .picking session | .committing session _ => session.holds id
  | _ => false

def Job.readAt : Job → Nat
  | .ttl clock | .idle clock _ => clock
  | _ => 0

def PlaneLabel.Reaches (agentId : WireUuid) : PlaneLabel → Prop
  | .turn _ env => agentId ∉ env.offline
  | .agentLost offline => agentId ∉ offline
  | _ => True

structure SweptAway (plane next : Plane) (index : Nat) (id : WireUuid) : Prop where
  commits : ∃ session doomed, plane.jobs[index]? = some (.committing session doomed)
  before : plane.status id = some .active
  after : next.status id = some .expired

def pausedPlane (workspaceId : WireUuid) (plane : Plane) : Plane :=
  plane.withDb (extendExpiry workspaceId pausedRunWorkspaceGraceSeconds plane.now plane.db)

def Plane.graceEnd (plane : Plane) : Nat := plane.now + pausedRunWorkspaceGraceSeconds * microseconds

-- While the owner stays reachable, no sweep inside the window expires the row.
def Spared (machine : Machine Plane PlaneLabel PlaneError) (plane : Plane) (row : WorkspaceRow) : Prop :=
  ∀ labels last index env next, Path machine (pausedPlane row.id plane) labels last →
    (∀ label ∈ labels, label.Reaches row.owningAgentId) → last.now < plane.graceEnd →
    planeStep last (.turn index env) = .ok next → ¬ SweptAway last next index row.id

def sweepTakes (clock : Nat) (row : WorkspaceRow) : Bool := ttlOver clock row || idleOver clock row

def NotHastened (plane : Plane) (row : WorkspaceRow) : Prop :=
  ∀ clock claim, sweepTakes clock { extendedTo plane.graceEnd row with currentCommandId := claim } = true →
    sweepTakes clock { row with currentCommandId := claim } = true

structure GraceKept (machine : Machine Plane PlaneLabel PlaneError) (plane : Plane) (row : WorkspaceRow) : Prop where
  spared : Spared machine plane row
  notHastened : NotHastened plane row

structure GraceCovered (plane : Plane) (row : WorkspaceRow) : Prop where
  unheld : ∀ job ∈ plane.jobs, job.holds row.id = false
  idle : (plane.graceEnd : Int) ≤ row.activatedAt + row.maxIdleSeconds * microseconds + 1
  deadline : row.expiresAt ≤ plane.graceEnd

variable (sha256 : String → String) (hydrated : AgentCommandKind → Bool) (plane : Plane) (row : WorkspaceRow)
  (index : Nat) (id : WireUuid) (session : ExpirySession) (stale : WorkspaceRow → Bool) (label : PlaneLabel)

theorem expire_unheld (reason : String) (db : GatewayDb)
    (row : WorkspaceRow) (found : db.workspaces.find? row.id = some row) (unheld : session.holds row.id = false)
    (within : stale row = false) : (session.expire stale reason db).holds row.id = false := by
  rw [ExpirySession.holds, ExpirySession.expire, List.any_append, Bool.or_eq_false_iff]
  refine ⟨unheld, ?_⟩
  rw [List.any_map, List.any_eq_false]
  intro other member same
  obtain ⟨present, selected⟩ := List.mem_filter.mp member
  obtain ⟨own, _⟩ := Table.find?_some _ _ _ found
  have equal : other = row := Table.eq_of_key _ other row present own (of_decide_eq_true same)
  rw [equal, ExpirySession.selects, within, Bool.and_false] at selected
  cases selected

theorem expire_holds (reason : String) (db : GatewayDb)
    (id : WireUuid) (held : session.holds id = true) : (session.expire stale reason db).holds id = true := by
  rw [ExpirySession.holds, ExpirySession.expire, List.any_append, Bool.or_eq_true]
  exact .inl held

theorem expire_selects (reason : String) (db : GatewayDb)
    (row : WorkspaceRow) (member : row ∈ db.workspaces.rows) (active : row.status = .active) (past : stale row = true) :
    (session.expire stale reason db).holds row.id = true := by
  cases held : session.holds row.id with
  | true => exact expire_holds session stale reason db row.id held
  | false =>
      rw [ExpirySession.holds, ExpirySession.expire, List.any_append, Bool.or_eq_true]
      refine .inr (List.any_eq_true.mpr ⟨_, List.mem_map_of_mem (List.mem_filter.mpr ⟨member, ?_⟩), ?_⟩)
      · rw [ExpirySession.selects, ExpirySession.sees, held, past, active]
        rfl
      · exact decide_eq_true rfl

theorem steppedRow_deadline :
    (steppedRow plane row label).expiresAt = row.expiresAt ∨
      (steppedRow plane row label).expiresAt = (plane.graceEnd : Int) := by
  have kept (chosen : Prop) [Decidable chosen] (changed : WorkspaceRow) (same : changed.expiresAt = row.expiresAt) :
      (if chosen then changed else row).expiresAt = row.expiresAt := by
    split
    · exact same
    · rfl
  cases label with
  | queue label =>
      cases label with
      | event env event => exact .inl (kept _ _ rfl)
      | dispatch dispatched => exact .inl rfl
      | claim env agentId request => exact .inl rfl
      | requeue now locked => exact .inl rfl
  | dispatchVia dispatched => exact .inl (kept _ _ rfl)
  | close workspaceId => exact .inl (kept _ _ rfl)
  | pause workspaceId =>
      simp only [steppedRow]
      split
      · exact .inr (by rw [extendedTo, Plane.graceEnd, Int.natCast_add, Int.natCast_mul])
      · exact .inl rfl
  | turn index env =>
      simp only [steppedRow]
      split
      · exact .inl rfl
      · refine .inl ?_
        unfold turnedRow
        split
        · exact kept _ _ rfl
        · refine kept _ _ ?_
          split
          · exact kept _ _ rfl
          · rfl
        · exact kept _ _ rfl
        · exact kept _ _ rfl
        · rfl
  | tick seconds => exact .inl rfl
  | startSweep => exact .inl rfl
  | agentLost offline => exact .inl rfl
  | report env report => exact .inl rfl
  | heartbeat agentId reported => exact .inl rfl
  | crash index => exact .inl rfl

-- A sweep reads the clock before the rows.
def Timely (plane : Plane) : Prop := ∀ job ∈ plane.jobs, job.readAt ≤ plane.now

theorem beginDestroy_job (registered : String → Bool) (row : DoomedRow) (rest : List DoomedRow) (plane : Plane) :
    (beginDestroy registered row rest plane).2 = .reaping rest ∨
      ∃ attempts, (beginDestroy registered row rest plane).2 = .destroying row attempts rest := by
  unfold beginDestroy
  split
  · split
    · exact .inl rfl
    · simp only
      split
      · exact .inr ⟨_, rfl⟩
      · exact .inl rfl
  · exact .inl rfl

theorem turnedJob_readAt (env : TurnEnv) (plane : Plane) (job : Job) :
    (turnedJob env plane job).readAt ≤ job.readAt := by
  cases job with
  | ttl clock => exact le_refl clock
  | reaping doomed =>
      cases doomed with
      | nil => exact Nat.zero_le _
      | cons row rest =>
          rw [turnedJob]
          rcases beginDestroy_job env.registered row rest plane with same | ⟨attempts, same⟩
          · rw [same]
            exact Nat.zero_le _
          · rw [same]
            exact Nat.zero_le _
  | idle clock session => exact Nat.zero_le _
  | liveness session => exact Nat.zero_le _
  | picking session => exact Nat.zero_le _
  | committing session doomed => exact Nat.zero_le _
  | destroying row attempts rest => exact Nat.zero_le _
  | reporting eventEnv report verdict => exact Nat.zero_le _
  | beating agentId reported provisioning => exact Nat.zero_le _
  | ended => exact Nat.zero_le _

theorem openedJob_readAt (job : Job) (opens : openedJob plane label = some job) :
    job.readAt ≤ plane.now := by
  cases label with
  | startSweep =>
      cases opens
      exact le_refl plane.now
  | agentLost offline =>
      cases opens
      exact Nat.zero_le _
  | report env report =>
      obtain ⟨verdict, _, rfl⟩ := Option.map_eq_some_iff.mp opens
      exact Nat.zero_le _
  | heartbeat agentId reported =>
      cases opens
      exact Nat.zero_le _
  | queue label => cases opens
  | tick seconds => cases opens
  | dispatchVia dispatched => cases opens
  | pause workspaceId => cases opens
  | close workspaceId => cases opens
  | turn index env => cases opens
  | crash index => cases opens

theorem timely_inductive :
    Inductive (controlPlane sha256 hydrated) Timely where
  initially := by
    rintro plane ⟨_, _, _, _, jobs, _⟩ job member
    rw [jobs] at member
    cases member
  kept := by
    intro plane label next timely _ taken job member
    have later : plane.now ≤ next.now := by
      rw [planeStep_now plane next label taken]
      exact Nat.le_add_right _ _
    refine le_trans ?_ later
    cases planeStep_job plane next label taken job member with
    | waited _ present => exact timely job present
    | opened _ opens => exact openedJob_readAt plane label job opens
    | turned index env old waiting same =>
        rw [same]
        exact le_trans (turnedJob_readAt env plane old) (timely old (List.mem_of_getElem? waiting))
    | crashed index same =>
        rw [same]
        exact Nat.zero_le _

structure Guarded (start : WorkspaceRow) (ends : Nat) (plane : Plane) : Prop where
  row : ∃ row, plane.db.workspaces.find? start.id = some row ∧ SameWorkspace start row ∧ (ends : Int) ≤ row.expiresAt
  unheld : ∀ job ∈ plane.jobs, job.holds start.id = false

theorem failsafe_unheld (offline : List WireUuid) (session : ExpirySession) (db : GatewayDb) (row : WorkspaceRow)
    (found : db.workspaces.find? row.id = some row) (unheld : session.holds row.id = false)
    (reached : row.owningAgentId ∉ offline) : (failsafeAgentLoss offline session db).holds row.id = false := by
  refine expire_unheld session (ownedBy offline) "agent_loss" db row found unheld ?_
  rw [ownedBy, Bool.eq_false_iff, ne_eq, List.contains_iff_mem]
  exact reached

theorem turnedJob_unheld (env : TurnEnv) (plane : Plane) (row : WorkspaceRow) (job : Job)
    (found : plane.db.workspaces.find? row.id = some row) (unheld : job.holds row.id = false)
    (reached : row.owningAgentId ∉ env.offline) (ttl : (job.readAt : Int) ≤ row.expiresAt)
    (idle : (job.readAt : Int) ≤ row.activatedAt + row.maxIdleSeconds * microseconds) :
    (turnedJob env plane job).holds row.id = false := by
  cases job with
  | ttl clock =>
      refine expire_unheld ⟨[], []⟩ (ttlOver clock) "ttl_expired" plane.db row found rfl ?_
      rw [ttlOver, decide_eq_false_iff_not]
      exact not_lt.mpr ttl
  | idle clock session =>
      refine expire_unheld session (idleOver clock) "idle_timeout" plane.db row found unheld ?_
      rw [idleOver, Bool.and_eq_false_iff, decide_eq_false_iff_not, decide_eq_false_iff_not]
      refine .inr (not_lt.mpr ?_)
      exact Int.sub_left_le_of_le_add idle
  | liveness session => exact failsafe_unheld env.offline session plane.db row found unheld reached
  | picking session => exact unheld
  | committing session doomed => rfl
  | reaping doomed =>
      cases doomed with
      | nil => rfl
      | cons first rest =>
          rw [turnedJob]
          rcases beginDestroy_job env.registered first rest plane with same | ⟨attempts, same⟩
          · rw [same]
            rfl
          · rw [same]
            rfl
  | destroying first attempts rest => rfl
  | reporting eventEnv report verdict => rfl
  | beating agentId reported provisioning => rfl
  | ended => rfl

theorem openedJob_unheld (row : WorkspaceRow) (job : Job)
    (found : plane.db.workspaces.find? row.id = some row) (reached : label.Reaches row.owningAgentId)
    (opens : openedJob plane label = some job) : job.holds row.id = false := by
  cases label with
  | startSweep => cases opens; rfl
  | agentLost offline =>
      cases opens
      exact failsafe_unheld offline ⟨[], []⟩ plane.db row found rfl reached
  | report env report =>
      obtain ⟨verdict, _, rfl⟩ := Option.map_eq_some_iff.mp opens
      rfl
  | heartbeat agentId reported => cases opens; rfl
  | queue label => cases opens
  | tick seconds => cases opens
  | dispatchVia dispatched => cases opens
  | pause workspaceId => cases opens
  | close workspaceId => cases opens
  | turn index env => cases opens
  | crash index => cases opens

theorem guarded_step (start : WorkspaceRow) (plane next : Plane) (label : PlaneLabel) (ends : Nat)
    (guarded : Guarded start ends plane) (timely : Timely plane) (inside : plane.now < ends)
    (window : (ends : Int) ≤ start.activatedAt + start.maxIdleSeconds * microseconds + 1) (later : ends ≤ plane.graceEnd)
    (reached : label.Reaches start.owningAgentId) (taken : planeStep plane label = .ok next) :
    Guarded start ends next := by
  obtain ⟨row, found, same, deadline⟩ := guarded.row
  have own : row.id = start.id := same.id
  refine ⟨⟨steppedRow plane row label, planeStep_stepped plane next label taken start.id row found, ?_, ?_⟩,
    fun job member => ?_⟩
  · have stepped := steppedRow_same plane row label
    exact ⟨stepped.id.trans same.id, stepped.orgId.trans same.orgId, stepped.owningAgentId.trans same.owningAgentId,
      stepped.providerId.trans same.providerId, stepped.maxIdleSeconds.trans same.maxIdleSeconds,
      stepped.activatedAt.trans same.activatedAt⟩
  · rcases steppedRow_deadline plane row label with kept | moved
    · rw [kept]
      exact deadline
    · rw [moved]
      exact Int.ofNat_le.mpr later
  · rw [← own]
    rw [← own] at found
    rw [← same.owningAgentId] at reached
    have unheld (old : Job) (present : old ∈ plane.jobs) : old.holds row.id = false := by
      rw [own]
      exact guarded.unheld old present
    cases planeStep_job plane next label taken job member with
    | waited _ present => exact unheld job present
    | opened _ opens => exact openedJob_unheld plane label row job found reached opens
    | crashed index ended => rw [ended]; rfl
    | turned index env old waiting turned =>
        have present := List.mem_of_getElem? waiting
        have clock : old.readAt < ends := lt_of_le_of_lt (timely old present) inside
        rw [turned]
        refine turnedJob_unheld env plane row old found (unheld old present) reached ?_ ?_
        · omega
        · rw [same.activatedAt, same.maxIdleSeconds]
          omega

theorem path_now (first last : Plane)
    (labels : List PlaneLabel) (path : Path (controlPlane sha256 hydrated) first labels last) : first.now ≤ last.now :=
  path_keeps (controlPlane sha256 hydrated) (fun plane => first.now ≤ plane.now)
    (fun plane label next past _ taken => le_trans past (planeStep_now plane next label taken ▸ Nat.le_add_right _ _))
    first last labels path (le_refl _)

theorem guarded_path (start : WorkspaceRow)
    (first last : Plane) (labels : List PlaneLabel) (ends : Nat)
    (path : Path (controlPlane sha256 hydrated) first labels last) (guarded : Guarded start ends first)
    (timely : Timely first) (window : (ends : Int) ≤ start.activatedAt + start.maxIdleSeconds * microseconds + 1)
    (later : ends ≤ first.graceEnd) (reached : ∀ label ∈ labels, label.Reaches start.owningAgentId)
    (inside : last.now < ends) : Guarded start ends last := by
  induction path with
  | nil plane => exact guarded
  | cons plane middle last label labels allowed taken rest ih =>
      have moved : plane.now ≤ middle.now := planeStep_now plane middle label taken ▸ Nat.le_add_right _ _
      have before : plane.now < ends :=
        lt_of_le_of_lt (le_trans moved (path_now sha256 hydrated middle last labels rest)) inside
      have stepped : Guarded start ends middle :=
        guarded_step start plane middle label ends guarded timely before window later
          (reached label (List.mem_cons_self ..)) taken
      have onTime : Timely middle := (timely_inductive sha256 hydrated).kept plane label middle timely allowed taken
      exact ih stepped onTime (le_trans later (Nat.add_le_add_right moved _))
        (fun other member => reached other (List.mem_cons_of_mem _ member)) inside

theorem paused_row (found : plane.db.workspaces.find? row.id = some row) :
    (pausedPlane row.id plane).db.workspaces.find? row.id = some (extendedTo plane.graceEnd row) := by
  have taken : planeStep plane (.pause row.id) = .ok (pausedPlane row.id plane) := rfl
  rw [planeStep_stepped plane _ (.pause row.id) taken row.id row found]
  simp only [steppedRow, if_true, Plane.graceEnd, Int.natCast_add, Int.natCast_mul]

theorem commit_spares (plane next : Plane) (index : Nat) (env : TurnEnv) (row : WorkspaceRow)
    (found : plane.db.workspaces.find? row.id = some row) (unheld : ∀ job ∈ plane.jobs, job.holds row.id = false)
    (taken : planeStep plane (.turn index env) = .ok next) : ¬ SweptAway plane next index row.id := by
  rintro ⟨⟨session, doomed, waiting⟩, before, after⟩
  have missed : session.holds row.id = false := unheld (.committing session doomed) (List.mem_of_getElem? waiting)
  have still : steppedRow plane row (.turn index env) = row := by
    simp only [steppedRow, waiting, turnedRow, missed, Bool.false_eq_true, if_false]
  rw [Plane.status, planeStep_stepped plane next _ taken row.id row found, still] at after
  rw [Plane.status, found] at before
  rw [before] at after
  cases after

theorem covered_spared (timely : Timely plane) (found : plane.db.workspaces.find? row.id = some row)
    (covered : GraceCovered plane row) : Spared (controlPlane sha256 hydrated) plane row := by
  intro labels last index env next path reached inside taken
  have guarded : Guarded row plane.graceEnd (pausedPlane row.id plane) :=
    ⟨⟨_, paused_row plane row found, ⟨rfl, rfl, rfl, rfl, rfl, rfl⟩, le_refl _⟩, covered.unheld⟩
  obtain ⟨⟨current, present, same, _⟩, unheld⟩ := guarded_path sha256 hydrated row (pausedPlane row.id plane) last labels
    plane.graceEnd path guarded timely covered.idle (le_refl _) reached inside
  rw [← same.id] at present unheld ⊢
  exact commit_spares last next index env current present unheld taken

theorem notHastened_iff :
    NotHastened plane row ↔ row.expiresAt ≤ plane.graceEnd := by
  constructor
  · intro never
    by_contra earlier
    have taken := never (plane.graceEnd + 1) (some row.id) (by
      rw [sweepTakes, Bool.or_eq_true, ttlOver, decide_eq_true_eq, extendedTo]
      exact .inl (by simp only; omega))
    rw [sweepTakes, Bool.or_eq_true, ttlOver, decide_eq_true_eq, idleOver, Bool.and_eq_true, decide_eq_true_eq] at taken
    rcases taken with past | ⟨no, _⟩
    · simp only at past
      omega
    · cases no
  · intro deadline clock claim taken
    rw [sweepTakes, Bool.or_eq_true] at taken ⊢
    rcases taken with past | idle
    · refine .inl ?_
      rw [ttlOver, decide_eq_true_eq, extendedTo] at past
      rw [ttlOver, decide_eq_true_eq]
      simp only at past ⊢
      omega
    · exact .inr idle

def Commits (sha256 : String → String) (hydrated : AgentCommandKind → Bool) (plane : Plane) (index : Nat)
    (id : WireUuid) : Prop :=
  ∃ labels last session doomed, Path (controlPlane sha256 hydrated) plane labels last ∧
    (∀ label ∈ labels, label = .turn index calmTurn) ∧ last.now = plane.now ∧ last.db = plane.db ∧
    last.jobs[index]? = some (.committing session doomed) ∧ session.holds id = true

theorem commits_turn (old new : Job) (waiting : plane.jobs[index]? = some old)
    (ran : runJob calmTurn plane index old = .ok (plane.setJob index new))
    (commits : Commits sha256 hydrated (plane.setJob index new) index id) : Commits sha256 hydrated plane index id := by
  obtain ⟨labels, last, session, doomed, path, turns, now, db, committing, holds⟩ := commits
  refine ⟨.turn index calmTurn :: labels, last, session, doomed, ?_, ?_, now, db, committing, holds⟩
  · refine .cons plane (plane.setJob index new) last _ labels (fun rows => List.Perm.refl rows) ?_ path
    change planeStep plane (.turn index calmTurn) = _
    simp only [planeStep, waiting, ran]
  · intro label member
    rcases List.mem_cons.mp member with same | later
    · exact same
    · exact turns label later

theorem setJob_waiting (old new : Job) (waiting : plane.jobs[index]? = some old) :
    (plane.setJob index new).jobs[index]? = some new := by
  obtain ⟨bound, _⟩ := List.getElem?_eq_some_iff.mp waiting
  exact List.getElem?_set_self bound

theorem committing_commits (doomed : List DoomedRow)
    (waiting : plane.jobs[index]? = some (.committing session doomed)) (holds : session.holds id = true) :
    Commits sha256 hydrated plane index id :=
  ⟨[], plane, session, doomed, .nil plane, List.forall_mem_nil _, rfl, rfl, waiting, holds⟩

theorem picking_commits (waiting : plane.jobs[index]? = some (.picking session))
    (holds : session.holds id = true) : Commits sha256 hydrated plane index id :=
  commits_turn sha256 hydrated plane index id _ _ waiting rfl
    (committing_commits sha256 hydrated _ index id _ _ (setJob_waiting plane index _ _ waiting) holds)

theorem liveness_commits (waiting : plane.jobs[index]? = some (.liveness session))
    (holds : session.holds id = true) : Commits sha256 hydrated plane index id :=
  commits_turn sha256 hydrated plane index id _ _ waiting rfl
    (picking_commits sha256 hydrated _ index id _ (setJob_waiting plane index _ _ waiting)
      (expire_holds session (ownedBy []) "agent_loss" plane.db id holds))

theorem held_commits (job : Job) (waiting : plane.jobs[index]? = some job) (holds : job.holds id = true) :
    Commits sha256 hydrated plane index id := by
  cases job with
  | idle clock session =>
      exact commits_turn sha256 hydrated plane index id _ _ waiting rfl
        (liveness_commits sha256 hydrated _ index id _ (setJob_waiting plane index _ _ waiting)
          (expire_holds session (idleOver clock) "idle_timeout" plane.db id holds))
  | liveness session => exact liveness_commits sha256 hydrated plane index id session waiting holds
  | picking session => exact picking_commits sha256 hydrated plane index id session waiting holds
  | committing session doomed => exact committing_commits sha256 hydrated plane index id session doomed waiting holds
  | ttl clock => cases holds
  | reaping doomed => cases holds
  | destroying row attempts rest => cases holds
  | reporting eventEnv report verdict => cases holds
  | beating agentId reported provisioning => cases holds
  | ended => cases holds

theorem idle_commits
    (row : WorkspaceRow) (waiting : plane.jobs[index]? = some (.ttl plane.now))
    (found : plane.db.workspaces.find? row.id = some row) (active : row.status = .active)
    (idle : idleOver plane.now row = true) : Commits sha256 hydrated plane index row.id := by
  refine commits_turn sha256 hydrated plane index row.id _ _ waiting rfl ?_
  have next := setJob_waiting plane index _
    (.idle plane.now (ExpirySession.expire ⟨[], []⟩ (ttlOver plane.now) "ttl_expired" plane.db)) waiting
  refine commits_turn sha256 hydrated _ index row.id _ _ next rfl ?_
  exact liveness_commits sha256 hydrated _ index row.id _ (setJob_waiting _ index _ _ next)
    (expire_selects _ (idleOver plane.now) "idle_timeout" plane.db row (Table.find?_some _ _ _ found).1 active idle)

theorem committing_sweeps (row : WorkspaceRow) (session : ExpirySession)
    (doomed : List DoomedRow) (waiting : plane.jobs[index]? = some (.committing session doomed))
    (holds : session.holds row.id = true) (found : plane.db.workspaces.find? row.id = some row)
    (active : row.status = .active) :
    ∃ next, planeStep plane (.turn index calmTurn) = .ok next ∧ SweptAway plane next index row.id := by
  have taken : planeStep plane (.turn index calmTurn) =
      .ok ((commitExpiry calmTurn.consumers session plane).setJob index (.reaping doomed)) := by
    simp only [planeStep, waiting, runJob]
  refine ⟨_, taken, ⟨session, doomed, waiting⟩, ?_, ?_⟩
  · rw [Plane.status, found, Option.map_some, active]
  · rw [Plane.status, planeStep_stepped plane _ _ taken row.id row found]
    simp only [steppedRow, waiting, turnedRow, holds, if_true, Option.map_some, withStatus]

theorem commits_unspared (plane middle : Plane)
    (index : Nat) (row : WorkspaceRow) (labels : List PlaneLabel)
    (path : Path (controlPlane sha256 hydrated) (pausedPlane row.id plane) labels middle)
    (reached : ∀ label ∈ labels, label.Reaches row.owningAgentId) (inside : middle.now < plane.graceEnd)
    (found : middle.db.workspaces.find? row.id = some (extendedTo plane.graceEnd row)) (active : row.status = .active)
    (commits : Commits sha256 hydrated middle index row.id) : ¬ Spared (controlPlane sha256 hydrated) plane row := by
  intro spared
  obtain ⟨turns, last, session, doomed, onward, calm, now, db, waiting, holds⟩ := commits
  rw [← db] at found
  obtain ⟨next, taken, swept⟩ := committing_sweeps last index (extendedTo plane.graceEnd row) session doomed waiting holds
    found active
  refine spared (labels ++ turns) last index calmTurn next (path_append _ _ _ _ _ _ path onward) ?_ (now ▸ inside) taken
    swept
  intro label member
  rcases List.mem_append.mp member with own | turn
  · exact reached label own
  · rw [calm label turn]
    exact List.not_mem_nil

theorem spared_unheld (found : plane.db.workspaces.find? row.id = some row) (active : row.status = .active)
    (spared : Spared (controlPlane sha256 hydrated) plane row) : ∀ job ∈ plane.jobs, job.holds row.id = false := by
  intro job member
  rw [Bool.eq_false_iff]
  intro holds
  obtain ⟨index, waiting⟩ := List.mem_iff_getElem?.mp member
  refine commits_unspared sha256 hydrated plane (pausedPlane row.id plane) index row [] (.nil _)
    (List.forall_mem_nil _) ?_ (paused_row plane row found) active
    (held_commits sha256 hydrated (pausedPlane row.id plane) index row.id job waiting holds) spared
  exact Nat.lt_add_of_pos_right (by decide)

theorem spared_idle (found : plane.db.workspaces.find? row.id = some row) (active : row.status = .active)
    (unclaimed : row.currentCommandId = none) (spared : Spared (controlPlane sha256 hydrated) plane row) :
    (plane.graceEnd : Int) ≤ row.activatedAt + row.maxIdleSeconds * microseconds + 1 := by
  by_contra later
  let waited : Plane := { pausedPlane row.id plane with now := plane.now + (pausedRunWorkspaceGraceSeconds * microseconds - 1) }
  let swept : Plane := waited.begin (.ttl waited.now)
  have path : Path (controlPlane sha256 hydrated) (pausedPlane row.id plane)
      [.tick (pausedRunWorkspaceGraceSeconds * microseconds - 1), .startSweep] swept :=
    .cons _ waited _ _ _ trivial rfl (.cons _ swept _ _ _ trivial rfl (.nil swept))
  have reached : ∀ label ∈ [PlaneLabel.tick (pausedRunWorkspaceGraceSeconds * microseconds - 1), .startSweep],
      label.Reaches row.owningAgentId := by
    intro label member
    rcases List.mem_cons.mp member with rfl | member
    · trivial
    · rw [List.mem_singleton.mp member]
      trivial
  have inside : swept.now < plane.graceEnd := Nat.add_lt_add_left (by decide) plane.now
  have waiting : swept.jobs[plane.jobs.length]? = some (.ttl swept.now) := List.getElem?_concat_length
  have idle : idleOver swept.now (extendedTo plane.graceEnd row) = true := by
    rw [idleOver, Bool.and_eq_true, decide_eq_true_eq, decide_eq_true_eq]
    refine ⟨unclaimed, ?_⟩
    have clock : swept.now + 1 = plane.graceEnd := rfl
    simp only [extendedTo]
    omega
  exact commits_unspared sha256 hydrated plane swept plane.jobs.length row _ path reached inside
    (paused_row plane row found) active
    (idle_commits sha256 hydrated swept plane.jobs.length (extendedTo plane.graceEnd row) waiting
      (paused_row plane row found) active idle) spared

-- The other direction needs the row free, as that of a run whose command has
-- ended is: while a command holds it, the idle sweep passes over it.
theorem pause_grace_iff (reachable : Reachable (controlPlane sha256 hydrated) plane)
    (found : plane.db.workspaces.find? row.id = some row) (active : row.status = .active) :
    (GraceCovered plane row → GraceKept (controlPlane sha256 hydrated) plane row) ∧
      (row.currentCommandId = none → GraceKept (controlPlane sha256 hydrated) plane row → GraceCovered plane row) := by
  have timely := reachable_invariant _ _ (timely_inductive sha256 hydrated) plane reachable
  constructor
  · intro covered
    exact ⟨covered_spared sha256 hydrated plane row timely found covered, (notHastened_iff plane row).mpr covered.deadline⟩
  · intro unclaimed kept
    exact ⟨spared_unheld sha256 hydrated plane row found active kept.spared,
      spared_idle sha256 hydrated plane row found active unclaimed kept.spared, (notHastened_iff plane row).mp kept.notHastened⟩

theorem provisioned_covered : GraceCovered provisionedPlane provisionedRow where
  unheld := by
    have none_ : provisionedPlane.jobs = [] := by decide +kernel
    rw [none_]
    exact List.forall_mem_nil _
  idle := by decide +kernel
  deadline := by decide +kernel

theorem pause_grace_provisioned : GraceKept samplePlane provisionedPlane provisionedRow :=
  (pause_grace_iff sampleSha256 sampleHydrated provisionedPlane provisionedRow provisionedPlane_reachable
    provisionedPlane_row rfl).1 provisioned_covered

def latePlane : Plane := { provisionedPlane with now := provisionedPlane.now + microseconds }

theorem latePlane_reachable : Reachable samplePlane latePlane :=
  reachable_path _ _ _ [.tick microseconds] provisionedPlane_reachable (.cons _ latePlane _ _ _ trivial rfl (.nil latePlane))

theorem pause_cuts_grace : ¬ ∀ (sha256 : String → String) (hydrated : AgentCommandKind → Bool) (plane : Plane)
    (row : WorkspaceRow) (_ : Reachable (controlPlane sha256 hydrated) plane)
    (_ : plane.db.workspaces.find? row.id = some row) (_ : row.status = .active),
    GraceKept (controlPlane sha256 hydrated) plane row := by
  intro always
  have kept := always sampleSha256 sampleHydrated latePlane provisionedRow latePlane_reachable provisionedPlane_row rfl
  have within := spared_idle sampleSha256 sampleHydrated latePlane provisionedRow provisionedPlane_row rfl rfl kept.spared
  exact absurd within (by decide +kernel)

end Yaaos.Gateway
