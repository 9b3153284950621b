import Yaaos.Gateway.Grace

set_option autoImplicit false

namespace Yaaos.Gateway

open Yaaos.Base

structure Standing where
  status : Option WorkspaceStatus
  attempts : Nat
  history : List (WorkspaceStatus × WorkspaceStatus)
  callers : List Nat

def Standing.moved (standing : Standing) (fromState toState : WorkspaceStatus) : Standing :=
  { standing with status := some toState, history := standing.history ++ [(fromState, toState)] }

inductive LifecycleStep : Standing → Standing → Prop where
  | stay (standing : Standing) : LifecycleStep standing standing
  | born (standing : Standing) (absent : standing.status = none) :
      LifecycleStep standing { standing with status := some .active }
  | expire (standing : Standing) (active : standing.status = some .active) :
      LifecycleStep standing (standing.moved .active .expired)
  | attempt (standing : Standing) (expired : standing.status = some .expired) :
      LifecycleStep standing
        { standing.moved .expired .destroying with attempts := standing.attempts + 1, callers := [standing.attempts + 1] }
  | settle (standing : Standing) (failure : Option String) (destroying : standing.status = some .destroying) :
      LifecycleStep standing
        { standing.moved .destroying (settledStatus failure standing.attempts) with callers := [] }

def attemptsAllowed (attempts : Nat) : Option WorkspaceStatus → Prop
  | none | some .active => attempts = 0
  | some .expired => attempts < maxDestroyAttempts
  | some .destroying | some .destroyed | some .destroyFailed => attempts ≤ maxDestroyAttempts

def Follows : WorkspaceStatus → List (WorkspaceStatus × WorkspaceStatus) → WorkspaceStatus → Prop
  | status, [], last => status = last
  | status, move :: rest, last => move.1 = status ∧ Follows move.2 rest last

def begunAttempts (history : List (WorkspaceStatus × WorkspaceStatus)) : Nat :=
  history.countP fun move => decide (move.2 = .destroying)

structure Lawful (standing : Standing) : Prop where
  spent : attemptsAllowed standing.attempts standing.status
  callers : standing.callers = if standing.status = some .destroying then [standing.attempts] else []
  counted : begunAttempts standing.history = standing.attempts
  unborn : standing.status = none → standing.history = []
  logged : ∀ status, standing.status = some status → Follows .active standing.history status

theorem follows_append (status middle last : WorkspaceStatus) (history : List (WorkspaceStatus × WorkspaceStatus))
    (follows : Follows status history middle) : Follows status (history ++ [(middle, last)]) last := by
  induction history generalizing status with
  | nil => exact ⟨follows.symm, rfl⟩
  | cons move rest ih => exact ⟨follows.1, ih move.2 follows.2⟩

theorem begunAttempts_append (history : List (WorkspaceStatus × WorkspaceStatus)) (fromState toState : WorkspaceStatus) :
    begunAttempts (history ++ [(fromState, toState)]) =
      begunAttempts history + if toState = .destroying then 1 else 0 := by
  rw [begunAttempts, begunAttempts, List.countP_append, List.countP_singleton]
  simp only [decide_eq_true_eq]

theorem settledStatus_cases (failure : Option String) (attempts : Nat) :
    settledStatus failure attempts = .destroyed ∨
      (settledStatus failure attempts = .destroyFailed ∧ maxDestroyAttempts ≤ attempts) ∨
        settledStatus failure attempts = .expired ∧ attempts < maxDestroyAttempts := by
  unfold settledStatus
  cases failure with
  | none => exact .inl rfl
  | some error =>
      by_cases capped : attempts ≥ maxDestroyAttempts
      · exact .inr (.inl ⟨if_pos capped, capped⟩)
      · exact .inr (.inr ⟨if_neg capped, Nat.lt_of_not_le capped⟩)

theorem lawful_moved (standing : Standing) (fromState toState : WorkspaceStatus) (attempts : Nat) (callers : List Nat)
    (lawful : Lawful standing) (status : standing.status = some fromState) (spent : attemptsAllowed attempts (some toState))
    (attended : callers = if toState = .destroying then [attempts] else [])
    (counted : attempts = standing.attempts + if toState = .destroying then 1 else 0) :
    Lawful { standing.moved fromState toState with attempts := attempts, callers := callers } where
  spent := spent
  callers := by
    rw [attended]
    simp only [Standing.moved, Option.some.injEq]
  counted := by
    rw [counted, ← lawful.counted]
    exact begunAttempts_append standing.history fromState toState
  unborn := nofun
  logged := by
    intro last same
    cases same
    exact follows_append .active fromState toState standing.history (lawful.logged fromState status)

theorem lifecycleStep_lawful (standing next : Standing) (lawful : Lawful standing) (step : LifecycleStep standing next) :
    Lawful next := by
  cases step with
  | stay => exact lawful
  | born absent =>
      obtain ⟨spent, callers, counted, unborn, _⟩ := lawful
      rw [absent] at spent callers
      refine ⟨spent, callers, counted, nofun, ?_⟩
      intro status same
      cases same
      rw [unborn absent]
      rfl
  | expire active =>
      have spent := lawful.spent
      rw [active] at spent
      have attended := lawful.callers
      rw [active] at attended
      refine lawful_moved standing .active .expired standing.attempts standing.callers lawful active ?_ attended rfl
      rw [show standing.attempts = 0 from spent]
      exact Nat.zero_lt_succ 2
  | attempt expired =>
      have spent := lawful.spent
      rw [expired] at spent
      exact lawful_moved standing .expired .destroying (standing.attempts + 1) [standing.attempts + 1] lawful expired spent
        rfl rfl
  | settle failure destroying =>
      have spent := lawful.spent
      rw [destroying] at spent
      have settled : settledStatus failure standing.attempts ≠ .destroying := by
        rcases settledStatus_cases failure standing.attempts with same | ⟨same, _⟩ | ⟨same, _⟩ <;> rw [same] <;> exact nofun
      refine lawful_moved standing .destroying _ standing.attempts [] lawful destroying ?_ (if_neg settled).symm
        (by rw [if_neg settled]; rfl)
      rcases settledStatus_cases failure standing.attempts with same | ⟨same, _⟩ | ⟨same, below⟩
      · rw [same]
        exact spent
      · rw [same]
        exact spent
      · rw [same]
        exact below

def Job.calls (id : WireUuid) : Job → Option Nat
  | .destroying row attempts _ => if row.id = id then some attempts else none
  | _ => none

def WorkspaceTransition.move (transition : WorkspaceTransition) : WorkspaceStatus × WorkspaceStatus :=
  (transition.fromState, transition.toState)

def movesOf (id : WireUuid) (transitions : List WorkspaceTransition) : List (WorkspaceStatus × WorkspaceStatus) :=
  (transitions.filter fun transition => decide (transition.workspaceId = id)).map WorkspaceTransition.move

def Plane.standing (id : WireUuid) (plane : Plane) : Standing := {
  status := plane.status id, attempts := (plane.destroys id).destroyAttempts
  history := movesOf id plane.transitions, callers := plane.jobs.filterMap (Job.calls id) }

-- What the code does not check before it writes: that every row a transaction
-- expires is still active, that a row's provider is registered, that an agent's
-- report says what the row says, and that no pass dies between its two destroy
-- transactions.
def orderlyTurn (env : TurnEnv) (plane : Plane) : Job → Bool
  | .committing session _ => session.expiring.all fun expiry => decide (plane.status expiry.workspaceId = some .active)
  | .reaping (row :: _) => env.registered row.providerId
  | .reporting _ report (.apply (some status)) =>
    decide (plane.status report.workspaceId = none ∨ plane.status report.workspaceId = some status)
  | _ => true

def Job.destroys : Job → Bool
  | .destroying _ _ _ => true
  | _ => false

def orderly (plane : Plane) : PlaneLabel → Bool
  | .turn index env => plane.jobs[index]?.all (orderlyTurn env plane)
  | .crash index => plane.jobs[index]?.all fun job => !job.destroys
  | _ => true

def Orderly (plane : Plane) (label : PlaneLabel) : Prop := orderly plane label = true

def orderlyPlane (sha256 : String → String) (hydrated : AgentCommandKind → Bool) : Machine Plane PlaneLabel PlaneError :=
  (controlPlane sha256 hydrated).restrict Orderly

variable (plane next : Plane) (sha256 : String → String) (hydrated : AgentCommandKind → Bool) (id : WireUuid)
  (index : Nat) (env : TurnEnv) (session : ExpirySession) (row : DoomedRow) (label : PlaneLabel)

structure ExpirySession.Sound (session : ExpirySession) : Prop where
  once : (session.expiring.map Expiry.workspaceId).Nodup
  active : ∀ expiry ∈ session.expiring, expiry.fromState = .active

def AllExpired (doomed : List DoomedRow) : Prop := ∀ row ∈ doomed, row.status = .expired

def Job.Sound : Job → Prop
  | .idle _ session | .liveness session | .picking session => session.Sound
  | .committing session doomed => session.Sound ∧ AllExpired doomed
  | .reaping doomed => AllExpired doomed
  | .destroying row _ rest => row.status = .expired ∧ AllExpired rest
  | _ => True

def JobsSound (plane : Plane) : Prop := ∀ job ∈ plane.jobs, job.Sound

theorem session_sound_empty : ExpirySession.Sound ⟨[], []⟩ := ⟨List.nodup_nil, List.forall_mem_nil _⟩

theorem allExpired_nil : AllExpired [] := List.forall_mem_nil _

theorem holds_iff (id : WireUuid) :
    session.holds id = true ↔ id ∈ session.expiring.map Expiry.workspaceId := by
  simp [ExpirySession.holds]

theorem expire_sound (stale : WorkspaceRow → Bool) (reason : String) (db : GatewayDb)
    (sound : session.Sound) : (session.expire stale reason db).Sound where
  once := by
    rw [ExpirySession.expire, List.map_append, List.map_map, List.nodup_append]
    refine ⟨sound.once, (db.workspaces.unique.sublist (List.filter_sublist.map _)), ?_⟩
    rintro id held other selected rfl
    obtain ⟨row, member, rfl⟩ := List.mem_map.mp selected
    have chosen := (List.mem_filter.mp member).2
    have seen : session.holds row.id = true := (holds_iff session row.id).mpr held
    rw [ExpirySession.selects, ExpirySession.sees, seen] at chosen
    cases chosen
  active := by
    intro expiry member
    rw [ExpirySession.expire, List.mem_append] at member
    rcases member with old | new
    · exact sound.active expiry old
    · obtain ⟨row, _, rfl⟩ := List.mem_map.mp new
      rfl

theorem failsafe_sound (offline : List WireUuid) (session : ExpirySession) (db : GatewayDb) (sound : session.Sound) :
    (failsafeAgentLoss offline session db).Sound :=
  ⟨(expire_sound session (ownedBy offline) "agent_loss" db sound).once,
    (expire_sound session (ownedBy offline) "agent_loss" db sound).active⟩

theorem pickDoomed_expired (order : List DoomedRow → List DoomedRow) (session : ExpirySession) (plane : Plane)
    (shuffled : ∀ rows, (order rows).Perm rows) : AllExpired (pickDoomed order session plane) := by
  intro doomed member
  obtain ⟨row, selected, rfl⟩ := List.mem_map.mp ((shuffled _).mem_iff.mp (List.mem_of_mem_take member))
  have both := (List.mem_filter.mp selected).2
  rw [Bool.and_eq_true, decide_eq_true_eq] at both
  exact both.1

theorem turnedJob_sound (plane : Plane) (job : Job) (sound : job.Sound)
    (shuffled : ∀ rows, (env.order rows).Perm rows) : (turnedJob env plane job).Sound := by
  cases job with
  | ttl clock => exact expire_sound _ _ _ _ session_sound_empty
  | idle clock session => exact expire_sound _ _ _ _ sound
  | liveness session => exact failsafe_sound _ _ _ sound
  | picking session => exact ⟨sound, pickDoomed_expired env.order session plane shuffled⟩
  | committing session doomed => exact sound.2
  | reaping doomed =>
      cases doomed with
      | nil => trivial
      | cons row rest =>
          obtain ⟨first, others⟩ := List.forall_mem_cons.mp sound
          rw [turnedJob]
          rcases beginDestroy_job env.registered row rest plane with same | ⟨attempts, same⟩
          · rw [same]
            exact others
          · rw [same]
            exact ⟨first, others⟩
  | destroying row attempts rest => exact sound.2
  | reporting eventEnv report verdict => trivial
  | beating agentId reported provisioning => trivial
  | ended => trivial

theorem openedJob_sound (plane : Plane) (label : PlaneLabel) (job : Job) (opens : openedJob plane label = some job) :
    job.Sound := by
  cases label with
  | startSweep => cases opens; trivial
  | agentLost offline => cases opens; exact ⟨failsafe_sound _ _ _ session_sound_empty, allExpired_nil⟩
  | report env report =>
      obtain ⟨verdict, _, rfl⟩ := Option.map_eq_some_iff.mp opens
      trivial
  | heartbeat agentId reported => cases opens; trivial
  | queue label => cases opens
  | tick seconds => cases opens
  | dispatchVia dispatched => cases opens
  | pause workspaceId => cases opens
  | close workspaceId => cases opens
  | turn index env => cases opens
  | crash index => cases opens

theorem jobsSound_step (plane next : Plane)
    (label : PlaneLabel) (sound : JobsSound plane) (allowed : label.Allowed sha256 hydrated plane)
    (taken : planeStep plane label = .ok next) : JobsSound next := by
  intro job member
  cases planeStep_job plane next label taken job member with
  | waited _ present => exact sound job present
  | opened _ opens => exact openedJob_sound plane label job opens
  | turned index env old waiting same =>
      rw [same]
      exact turnedJob_sound env plane old (sound old (List.mem_of_getElem? waiting)) allowed
  | crashed index same =>
      rw [same]
      trivial

theorem filterMap_set {α β : Type} (f : α → Option β) (xs : List α) (index : Nat) (old new : α)
    (present : xs[index]? = some old) : ∃ before after, xs.filterMap f = before ++ (f old).toList ++ after ∧
      (xs.set index new).filterMap f = before ++ (f new).toList ++ after := by
  obtain ⟨inside, same⟩ := List.getElem?_eq_some_iff.mp present
  refine ⟨(xs.take index).filterMap f, (xs.drop (index + 1)).filterMap f, ?_, ?_⟩
  · have split : xs = xs.take index ++ old :: xs.drop (index + 1) := by
      rw [← same, ← List.drop_eq_getElem_cons inside, List.take_append_drop]
    conv => lhs; rw [split]
    rw [List.filterMap_append, List.filterMap_cons]
    cases f old <;> simp
  · rw [List.set_eq_take_append_cons_drop, if_pos inside, List.filterMap_append, List.filterMap_cons]
    cases f new <;> simp

theorem movesOf_append (earlier later : List WorkspaceTransition) :
    movesOf id (earlier ++ later) = movesOf id earlier ++ movesOf id later := by
  rw [movesOf, List.filter_append, List.map_append]
  rfl

theorem movesOf_one (transition : WorkspaceTransition) :
    movesOf id [transition] = if transition.workspaceId = id then [transition.move] else [] := by
  rw [movesOf, List.filter_singleton]
  split <;> simp_all

theorem movesOf_doomed (fromState toState : WorkspaceStatus) (reason : String)
    (error : Option String) :
    movesOf id [row.transition fromState toState reason error] = if row.id = id then [(fromState, toState)] else [] :=
  movesOf_one id (row.transition fromState toState reason error)

theorem movesOf_session (sound : session.Sound) (id : WireUuid) :
    movesOf id (session.expiring.map Expiry.transition) =
      if id ∈ session.expiring.map Expiry.workspaceId then [(.active, .expired)] else [] := by
  obtain ⟨expiring, resumed⟩ := session
  obtain ⟨once, active⟩ := sound
  simp only at once active ⊢
  induction expiring with
  | nil => rfl
  | cons expiry rest ih =>
      rw [List.map_cons, List.nodup_cons] at once
      obtain ⟨first, others⟩ := List.forall_mem_cons.mp active
      rw [List.map_cons, ← List.singleton_append, movesOf_append, movesOf_one, ih once.2 others]
      simp only [Expiry.transition, WorkspaceTransition.move, first, List.map_cons, List.mem_cons]
      by_cases own : expiry.workspaceId = id
      · rw [if_pos own, if_neg (own ▸ once.1), if_pos (.inl own.symm)]
        rfl
      · rw [if_neg own, List.nil_append]
        simp only [Ne.symm own, false_or]

structure Unmoved (id : WireUuid) (plane next : Plane) : Prop where
  attempts : (next.destroys id).destroyAttempts = (plane.destroys id).destroyAttempts
  history : movesOf id next.transitions = movesOf id plane.transitions
  callers : next.jobs.filterMap (Job.calls id) = plane.jobs.filterMap (Job.calls id)

theorem unmoved_jobs (plane next : Plane) (columns : next.destroys = plane.destroys)
    (transitions : next.transitions = plane.transitions)
    (callers : next.jobs.filterMap (Job.calls id) = plane.jobs.filterMap (Job.calls id)) : Unmoved id plane next :=
  ⟨by rw [columns], by rw [transitions], callers⟩

theorem callers_set (plane : Plane) (index : Nat) (old new : Job) (waiting : plane.jobs[index]? = some old)
    (same : new.calls id = old.calls id) :
    (plane.jobs.set index new).filterMap (Job.calls id) = plane.jobs.filterMap (Job.calls id) := by
  obtain ⟨before, after, earlier, later⟩ := filterMap_set (Job.calls id) plane.jobs index old new waiting
  rw [earlier, later, same]

theorem standing_unmoved (id : WireUuid)
    (taken : planeStep plane label = .ok next) (unmoved : Unmoved id plane next)
    (still : ∀ row, plane.workspace id = some row → (steppedRow plane row label).status = row.status) :
    LifecycleStep (plane.standing id) (next.standing id) := by
  have same (status : Option WorkspaceStatus) (now : next.status id = status) :
      next.standing id = { plane.standing id with status := status } := by
    simp only [Plane.standing, unmoved.attempts, unmoved.history, unmoved.callers, now]
  cases found : plane.workspace id with
  | some row =>
      have kept := planeStep_status plane next label taken id row found
      rw [still row found] at kept
      have before : plane.status id = some row.status := by
        rw [Plane.status, ← Plane.workspace, found]
        rfl
      rw [same _ kept, ← before]
      exact .stay _
  | none =>
      have absent : plane.status id = none := by
        rw [Plane.status, ← Plane.workspace, found]
        rfl
      cases later : next.workspace id with
      | none =>
          have gone : next.status id = none := by
            rw [Plane.status, ← Plane.workspace, later]
            rfl
          rw [same _ gone, ← absent]
          exact .stay _
      | some row =>
          have born := planeStep_born plane next label taken id row found later
          have active : next.status id = some .active := by
            rw [Plane.status, ← Plane.workspace, later, Option.map_some, (born_unclaimed plane row label born).2]
          rw [same _ active]
          exact .born _ absent

theorem standing_moved (fromState toState : WorkspaceStatus)
    (status : next.status id = some toState)
    (history : movesOf id next.transitions = movesOf id plane.transitions ++ [(fromState, toState)]) :
    next.standing id = { (plane.standing id).moved fromState toState with
      attempts := (next.destroys id).destroyAttempts, callers := next.jobs.filterMap (Job.calls id) } := by
  simp only [Plane.standing, Standing.moved, status, history]

theorem status_some (plane : Plane) (id : WireUuid) (row : WorkspaceRow) (found : plane.workspace id = some row) :
    plane.status id = some row.status := by
  rw [Plane.status, ← Plane.workspace, found]
  rfl

theorem close_simulates (workspaceId id : WireUuid)
    (taken : planeStep plane (.close workspaceId) = .ok next) :
    LifecycleStep (plane.standing id) (next.standing id) := by
  have writes := closeWorkspace_writes workspaceId plane
  by_cases moves : workspaceId = id ∧ plane.status id = some .active
  · obtain ⟨rfl, active⟩ := moves
    obtain ⟨row, found, status⟩ := Option.map_eq_some_iff.mp active
    have after := planeStep_status plane next _ taken workspaceId row found
    obtain ⟨_, own⟩ := Table.find?_some _ _ _ found
    rw [steppedRow, if_pos ⟨own, status⟩] at after
    cases taken
    have closed : closeWorkspace workspaceId plane =
        (plane.withDb (plane.db.setWorkspaceStatus workspaceId .expired)).audit [{
          workspaceId := workspaceId, orgId := row.orgId, fromState := .active, toState := .expired
          reason := "closed", error := none }] := by
      rw [closeWorkspace, found]
      exact if_pos status
    have history : movesOf workspaceId (closeWorkspace workspaceId plane).transitions =
        movesOf workspaceId plane.transitions ++ [(.active, .expired)] := by
      rw [closed, Plane.audit, movesOf_append, movesOf_one, if_pos rfl]
      rfl
    rw [standing_moved plane _ workspaceId .active .expired after history, writes.jobs]
    rw [show (closeWorkspace workspaceId plane).destroys = plane.destroys by rw [closed]; rfl]
    exact .expire (plane.standing workspaceId) active
  · have unmoved : Unmoved id plane (closeWorkspace workspaceId plane) := by
      unfold closeWorkspace
      split
      · exact ⟨rfl, rfl, rfl⟩
      · rename_i row found
        split
        · rename_i active
          refine ⟨rfl, ?_, rfl⟩
          rw [Plane.audit, movesOf_append, movesOf_one, if_neg, List.append_nil]
          · rfl
          · intro same
            cases same
            exact moves ⟨rfl, by rw [Plane.status, found, Option.map_some, active]⟩
        · exact ⟨rfl, rfl, rfl⟩
    have stepped := taken
    cases taken
    refine standing_unmoved plane _ _ id stepped unmoved fun row found => ?_
    rw [steppedRow, if_neg]
    rintro ⟨own, active⟩
    obtain ⟨_, same⟩ := Table.find?_some _ _ _ found
    exact moves ⟨own.symm.trans same, by rw [status_some plane id row found, active]⟩

theorem turn_ran (job : Job)
    (waiting : plane.jobs[index]? = some job) (taken : planeStep plane (.turn index env) = .ok next) :
    runJob env plane index job = .ok next := by
  obtain ⟨other, same, ran⟩ := planeStep_turn plane next index env taken
  cases waiting.symm.trans same
  exact ran

theorem turn_status (job : Job) (id : WireUuid) (row : WorkspaceRow)
    (waiting : plane.jobs[index]? = some job) (taken : planeStep plane (.turn index env) = .ok next)
    (found : plane.workspace id = some row) : next.status id = some (turnedRow env row job).status := by
  have after := planeStep_status plane next _ taken id row found
  simp only [steppedRow, waiting] at after
  exact after

theorem turn_unmoved (job : Job) (id : WireUuid)
    (waiting : plane.jobs[index]? = some job) (taken : planeStep plane (.turn index env) = .ok next)
    (unmoved : Unmoved id plane next)
    (still : ∀ row, plane.workspace id = some row → (turnedRow env row job).status = row.status) :
    LifecycleStep (plane.standing id) (next.standing id) := by
  refine standing_unmoved plane next _ id taken unmoved fun row found => ?_
  simp only [steppedRow, waiting]
  exact still row found

theorem commit_simulates
    (doomed : List DoomedRow) (id : WireUuid) (waiting : plane.jobs[index]? = some (.committing session doomed))
    (sound : session.Sound) (fits : orderlyTurn env plane (.committing session doomed) = true)
    (taken : planeStep plane (.turn index env) = .ok next) :
    LifecycleStep (plane.standing id) (next.standing id) := by
  have ran := turn_ran plane next index env _ waiting taken
  have audited : next.transitions = plane.transitions ++ session.expiring.map Expiry.transition := by
    cases ran
    rfl
  have columns : next.destroys = plane.destroys := by
    cases ran
    rfl
  have jobs := runJob_jobs env plane next index _ ran
  have callers := callers_set id plane index _ (.reaping doomed) waiting rfl
  have history : movesOf id next.transitions = movesOf id plane.transitions ++
      if id ∈ session.expiring.map Expiry.workspaceId then [(.active, .expired)] else [] := by
    rw [audited, movesOf_append, movesOf_session session sound id]
  by_cases held : id ∈ session.expiring.map Expiry.workspaceId
  · obtain ⟨expiry, member, own⟩ := List.mem_map.mp held
    have active : plane.status id = some .active := by
      rw [← own]
      exact of_decide_eq_true (List.all_eq_true.mp fits expiry member)
    obtain ⟨row, found, _⟩ := Option.map_eq_some_iff.mp active
    have after := turn_status plane next index env _ id row waiting taken found
    have holds : session.holds row.id = true := by
      rw [(Table.find?_some _ _ _ found).2]
      exact (holds_iff session id).mpr held
    simp only [turnedRow, holds, if_true, withStatus] at after
    rw [if_pos held] at history
    rw [standing_moved plane next id .active .expired after history, jobs, turnedJob, callers, columns]
    exact .expire (plane.standing id) active
  · rw [if_neg held, List.append_nil] at history
    refine turn_unmoved plane next index env _ id waiting taken ⟨by rw [columns], history, ?_⟩ fun row found => ?_
    · rw [jobs, turnedJob, callers]
    · have spared : ¬ session.holds row.id = true := by
        rw [(Table.find?_some _ _ _ found).2, holds_iff]
        exact held
      simp only [turnedRow, spared, if_false, Bool.false_eq_true]

theorem beginDestroy_claims (registered : String → Bool) (row : DoomedRow) (rest : List DoomedRow) (plane : Plane)
    (known : registered row.providerId = true) (current : WorkspaceRow)
    (found : plane.db.workspaces.find? row.id = some current) (expired : current.status = .expired) :
    beginDestroy registered row rest plane =
      (((plane.withDb (plane.db.setWorkspaceStatus row.id .destroying)).setColumns row.id fun columns =>
        { columns with destroyAttempts := columns.destroyAttempts + 1, lastDestroyAttemptAt := some plane.now }).audit
        [row.transition row.status .destroying "destroy_attempt" none],
        .destroying row ((plane.destroys row.id).destroyAttempts + 1) rest) := by
  rw [beginDestroy, if_pos known, found]
  exact if_pos expired

theorem beginDestroy_skips (registered : String → Bool) (row : DoomedRow) (rest : List DoomedRow) (plane : Plane)
    (known : registered row.providerId = true) (lost : plane.status row.id ≠ some .expired) :
    beginDestroy registered row rest plane = (plane, .reaping rest) := by
  rw [beginDestroy, if_pos known]
  cases found : plane.db.workspaces.find? row.id with
  | none => rfl
  | some current =>
      refine if_neg fun expired => lost ?_
      rw [Plane.status, found, Option.map_some, expired]

theorem attempt_simulates (rest : List DoomedRow)
    (id : WireUuid) (waiting : plane.jobs[index]? = some (.reaping (row :: rest))) (read : row.status = .expired)
    (known : env.registered row.providerId = true) (lawful : Lawful (plane.standing id))
    (taken : planeStep plane (.turn index env) = .ok next) :
    LifecycleStep (plane.standing id) (next.standing id) := by
  have ran := turn_ran plane next index env _ waiting taken
  have jobs := runJob_jobs env plane next index _ ran
  rw [turnedJob] at jobs
  have begun : next = (beginDestroy env.registered row rest plane).1.setJob index
      (beginDestroy env.registered row rest plane).2 := (Except.ok.inj ran).symm
  by_cases claimed : plane.status row.id = some .expired
  · obtain ⟨current, found, expired⟩ := Option.map_eq_some_iff.mp claimed
    have claims := beginDestroy_claims env.registered row rest plane known current found expired
    rw [claims] at jobs begun
    by_cases own : row.id = id
    · have history : movesOf id next.transitions = movesOf id plane.transitions ++ [(.expired, .destroying)] := by
        rw [begun, Plane.setJob, Plane.audit, movesOf_append, movesOf_doomed, if_pos own, read]
        rfl
      have after := turn_status plane next index env _ id current waiting taken (own ▸ found)
      have same : current.id = row.id := (Table.find?_some _ _ _ found).2
      simp only [turnedRow, same, known, expired, if_true, withStatus] at after
      have attempts : (next.destroys id).destroyAttempts = (plane.destroys id).destroyAttempts + 1 := by
        rw [begun, ← own]
        simp only [Plane.setJob, Plane.audit, Plane.setColumns, if_true]
        rfl
      have alone : plane.jobs.filterMap (Job.calls id) = [] := by
        have callers := lawful.callers
        rw [Plane.standing, if_neg (by rw [← own, claimed]; intro same; cases same)] at callers
        exact callers
      obtain ⟨before, later, earlier, callers⟩ := filterMap_set (Job.calls id) plane.jobs index _
        (.destroying row ((plane.destroys row.id).destroyAttempts + 1) rest) waiting
      rw [alone, eq_comm, List.append_eq_nil_iff, List.append_eq_nil_iff] at earlier
      rw [earlier.1.1, earlier.2, Job.calls, if_pos own, own] at callers
      rw [standing_moved plane next id .expired .destroying after history, jobs, attempts, own, callers]
      exact .attempt (plane.standing id) (by rw [← own]; exact claimed)
    · refine turn_unmoved plane next index env _ id waiting taken ⟨?_, ?_, ?_⟩ fun found present => ?_
      · rw [begun]
        simp only [Plane.setJob, Plane.audit, Plane.setColumns, if_neg (Ne.symm own)]
        rfl
      · rw [begun, Plane.setJob, Plane.audit, movesOf_append, movesOf_doomed, if_neg own, List.append_nil]
        rfl
      · rw [jobs]
        exact callers_set id plane index _ _ waiting (if_neg own)
      · simp only [turnedRow]
        rw [if_neg fun same => own (same.symm.trans (Table.find?_some _ _ _ present).2)]
  · have skips := beginDestroy_skips env.registered row rest plane known claimed
    rw [skips] at jobs begun
    refine turn_unmoved plane next index env _ id waiting taken ?_ fun found present => ?_
    · refine unmoved_jobs id plane next (by rw [begun]; rfl) (by rw [begun]; rfl) ?_
      rw [jobs]
      exact callers_set id plane index _ _ waiting rfl
    · simp only [turnedRow, known, if_true]
      by_cases same : found.id = row.id
      · rw [if_pos same, if_neg]
        intro expired
        have here : plane.workspace row.id = some found :=
          Table.find?_eq _ _ _ (Table.find?_some _ _ _ present).1 same
        exact claimed (by rw [status_some plane row.id found here, expired])
      · rw [if_neg same]

theorem endDestroy_columns (failure : Option String) (row : DoomedRow) (attempts : Nat) (plane : Plane) (id : WireUuid) :
    ((endDestroy failure row attempts plane).destroys id).destroyAttempts = (plane.destroys id).destroyAttempts := by
  unfold endDestroy
  cases failure with
  | none =>
      simp only [Plane.audit, Plane.setColumns, Plane.withDb]
      split <;> rfl
  | some error =>
      simp only [Plane.audit, Plane.setColumns, Plane.withDb]
      split <;> rfl

theorem endDestroy_history (failure : Option String) (row : DoomedRow) (attempts : Nat) (plane : Plane) (id : WireUuid) :
    movesOf id (endDestroy failure row attempts plane).transitions = movesOf id plane.transitions ++
      if row.id = id then [(.destroying, settledStatus failure attempts)] else [] := by
  unfold endDestroy
  cases failure with
  | none => exact (movesOf_append id _ _).trans (congrArg _ (movesOf_doomed id row _ _ _ _))
  | some error => exact (movesOf_append id _ _).trans (congrArg _ (movesOf_doomed id row _ _ _ _))

theorem settle_simulates (attempts : Nat)
    (rest : List DoomedRow) (id : WireUuid) (waiting : plane.jobs[index]? = some (.destroying row attempts rest))
    (lawful : Lawful (plane.standing id)) (taken : planeStep plane (.turn index env) = .ok next) :
    LifecycleStep (plane.standing id) (next.standing id) := by
  have ran := turn_ran plane next index env _ waiting taken
  have jobs := runJob_jobs env plane next index _ ran
  rw [turnedJob] at jobs
  have ended : next = (endDestroy env.failure row attempts plane).setJob index (.reaping rest) :=
    (Except.ok.inj ran).symm
  have columns : (next.destroys id).destroyAttempts = (plane.destroys id).destroyAttempts := by
    rw [ended]
    exact endDestroy_columns env.failure row attempts plane id
  have history : movesOf id next.transitions = movesOf id plane.transitions ++
      if row.id = id then [(.destroying, settledStatus env.failure attempts)] else [] := by
    rw [ended]
    exact endDestroy_history env.failure row attempts plane id
  by_cases own : row.id = id
  · obtain ⟨before, later, earlier, callers⟩ := filterMap_set (Job.calls id) plane.jobs index _ (.reaping rest) waiting
    have attended := lawful.callers
    rw [Plane.standing, earlier, Job.calls, if_pos own] at attended
    by_cases destroying : plane.status id = some .destroying
    · rw [if_pos destroying] at attended
      have counted : before = [] ∧ attempts = (plane.destroys id).destroyAttempts ∧ later = [] := by
        cases before with
        | nil => simpa using attended
        | cons _ _ => simp at attended
      obtain ⟨rfl, counted, rfl⟩ := counted
      obtain ⟨current, found, _⟩ := Option.map_eq_some_iff.mp destroying
      have after := turn_status plane next index env _ id current waiting taken found
      simp only [turnedRow, (Table.find?_some _ _ _ found).2, own, if_true, withStatus] at after
      rw [if_pos own] at history
      rw [standing_moved plane next id .destroying _ after history, jobs, columns, callers, counted]
      exact .settle (plane.standing id) env.failure destroying
    · rw [if_neg destroying] at attended
      simp at attended
  · rw [if_neg own, List.append_nil] at history
    refine turn_unmoved plane next index env _ id waiting taken ⟨columns, history, ?_⟩ fun found present => ?_
    · rw [jobs]
      exact callers_set id plane index _ _ waiting (if_neg own).symm
    · simp only [turnedRow]
      rw [if_neg fun same => own (same.symm.trans (Table.find?_some _ _ _ present).2)]

theorem report_simulates (eventEnv : EventEnv)
    (report : WorkspaceEventReport) (verdict : ReportVerdict) (id : WireUuid)
    (waiting : plane.jobs[index]? = some (.reporting eventEnv report verdict))
    (fits : orderlyTurn env plane (.reporting eventEnv report verdict) = true)
    (taken : planeStep plane (.turn index env) = .ok next) :
    LifecycleStep (plane.standing id) (next.standing id) := by
  have ran := turn_ran plane next index env _ waiting taken
  refine turn_unmoved plane next index env _ id waiting taken ?_ fun row found => ?_
  · refine unmoved_jobs id plane next (by cases ran; rfl) (by cases ran; rfl) ?_
    rw [runJob_jobs env plane next index _ ran]
    exact callers_set id plane index _ _ waiting rfl
  · cases verdict with
    | create => rfl
    | apply status =>
        cases status with
        | none => rfl
        | some status =>
            simp only [turnedRow]
            split
            · rename_i own
              have present : plane.workspace report.workspaceId = some row :=
                Table.find?_eq _ _ _ (Table.find?_some _ _ _ found).1 own
              have told := of_decide_eq_true fits
              rw [status_some plane report.workspaceId row present] at told
              rcases told with missing | same
              · cases missing
              · exact (Option.some.inj same).symm
            · rfl

theorem turn_simulates (id : WireUuid) (sound : JobsSound plane)
    (lawful : Lawful (plane.standing id)) (fits : Orderly plane (.turn index env))
    (taken : planeStep plane (.turn index env) = .ok next) :
    LifecycleStep (plane.standing id) (next.standing id) := by
  obtain ⟨job, waiting, ran⟩ := planeStep_turn plane next index env taken
  have jobs := runJob_jobs env plane next index job ran
  have jobSound := sound job (List.mem_of_getElem? waiting)
  have orderlyJob : orderlyTurn env plane job = true := by
    rw [Orderly, orderly, waiting] at fits
    exact fits
  have quiet (columns : next.destroys = plane.destroys) (transitions : next.transitions = plane.transitions)
      (idle : (turnedJob env plane job).calls id = job.calls id)
      (still : ∀ row, (turnedRow env row job).status = row.status) :
      LifecycleStep (plane.standing id) (next.standing id) := by
    refine turn_unmoved plane next index env job id waiting taken ?_ fun row _ => still row
    refine unmoved_jobs id plane next columns transitions ?_
    rw [jobs]
    exact callers_set id plane index job _ waiting idle
  cases job with
  | ttl clock => cases ran; exact quiet rfl rfl rfl fun _ => rfl
  | idle clock session => cases ran; exact quiet rfl rfl rfl fun _ => rfl
  | liveness session => cases ran; exact quiet rfl rfl rfl fun _ => rfl
  | picking session => cases ran; exact quiet rfl rfl rfl fun _ => rfl
  | committing session doomed =>
      exact commit_simulates plane next index env session doomed id waiting jobSound.1 orderlyJob taken
  | reaping doomed =>
      cases doomed with
      | nil => cases ran; exact quiet rfl rfl rfl fun _ => rfl
      | cons row rest =>
          exact attempt_simulates plane next index env row rest id waiting (jobSound row List.mem_cons_self) orderlyJob
            lawful taken
  | destroying row attempts rest => exact settle_simulates plane next index env row attempts rest id waiting lawful taken
  | reporting eventEnv report verdict =>
      exact report_simulates plane next index env eventEnv report verdict id waiting orderlyJob taken
  | beating agentId reported provisioning => cases ran; exact quiet rfl rfl rfl fun _ => rfl
  | ended => cases ran

theorem openedJob_calls (plane : Plane) (label : PlaneLabel) (job : Job) (id : WireUuid)
    (opens : openedJob plane label = some job) : job.calls id = none := by
  cases label with
  | report env report =>
      obtain ⟨verdict, _, rfl⟩ := Option.map_eq_some_iff.mp opens
      rfl
  | startSweep => cases opens; rfl
  | agentLost offline => cases opens; rfl
  | heartbeat agentId reported => cases opens; rfl
  | queue label => cases opens
  | tick seconds => cases opens
  | dispatchVia dispatched => cases opens
  | pause workspaceId => cases opens
  | close workspaceId => cases opens
  | turn index env => cases opens
  | crash index => cases opens

theorem unmoved_begun (plane : Plane) (job : Job) (idle : job.calls id = none) :
    Unmoved id plane (plane.begin job) := by
  refine unmoved_jobs id plane _ rfl rfl ?_
  rw [Plane.begin, List.filterMap_append, List.filterMap_cons, idle]
  exact List.append_nil _

theorem releasedRow_status (event : AgentEvent) (row : WorkspaceRow) : (releasedRow event row).status = row.status := by
  unfold releasedRow
  split <;> rfl

theorem viaRow_status (dispatched : WorkspaceDispatch) (row : WorkspaceRow) :
    (viaRow dispatched row).status = row.status := by
  unfold viaRow
  split <;> rfl

theorem planeStep_simulates (id : WireUuid) (sound : JobsSound plane)
    (lawful : Lawful (plane.standing id)) (fits : Orderly plane label) (taken : planeStep plane label = .ok next) :
    LifecycleStep (plane.standing id) (next.standing id) := by
  have quiet (unmoved : Unmoved id plane next) (still : ∀ row, (steppedRow plane row label).status = row.status) :
      LifecycleStep (plane.standing id) (next.standing id) :=
    standing_unmoved plane next label id taken unmoved fun row _ => still row
  have begun (job : Job) (opens : openedJob plane label = some job) (same : next = plane.begin job) :
      Unmoved id plane next :=
    same ▸ unmoved_begun id plane job (openedJob_calls plane label job id opens)
  cases label with
  | queue label =>
      obtain ⟨queue, _, rfl⟩ := planeStep_queue plane next label taken
      refine quiet ⟨rfl, rfl, rfl⟩ fun row => ?_
      cases label with
      | event env event => exact releasedRow_status event row
      | dispatch dispatched => rfl
      | claim env agentId request => rfl
      | requeue now locked => rfl
  | tick seconds => cases taken; exact quiet ⟨rfl, rfl, rfl⟩ fun _ => rfl
  | dispatchVia dispatched =>
      obtain ⟨db, _, rfl⟩ := planeStep_via plane next dispatched taken
      exact quiet ⟨rfl, rfl, rfl⟩ (viaRow_status dispatched)
  | pause workspaceId =>
      cases taken
      refine quiet ⟨rfl, rfl, rfl⟩ fun row => ?_
      rw [steppedRow]
      split <;> rfl
  | close workspaceId => exact close_simulates plane next workspaceId id taken
  | startSweep => cases taken; exact quiet (begun _ rfl rfl) fun _ => rfl
  | agentLost offline => cases taken; exact quiet (begun _ rfl rfl) fun _ => rfl
  | report env report =>
      obtain ⟨verdict, read, same⟩ := planeStep_report plane next env report taken
      exact quiet (begun (.reporting env report verdict) (by rw [openedJob, read]; rfl) same) fun _ => rfl
  | heartbeat agentId reported => cases taken; exact quiet (begun _ rfl rfl) fun _ => rfl
  | turn index env => exact turn_simulates plane next index env id sound lawful fits taken
  | crash index =>
      cases taken
      refine quiet (unmoved_jobs id plane _ rfl rfl ?_) fun _ => rfl
      cases waiting : plane.jobs[index]? with
      | none => rw [Plane.setJob, List.set_eq_of_length_le (List.getElem?_eq_none_iff.mp waiting)]
      | some job =>
          rw [Orderly, orderly, waiting] at fits
          refine callers_set id plane index job .ended waiting ?_
          cases job with
          | destroying row attempts rest => cases fits
          | _ => rfl

-- The moves of the lifecycle. An agent's report of destroyed or failed makes the
-- others that end in one of the two.
def lawfulMove (reported : Bool) : WorkspaceStatus → WorkspaceStatus → Bool
  | .active, .expired | .expired, .destroying | .destroying, .destroyed | .destroying, .expired
  | .destroying, .destroyFailed => true
  | .destroyed, _ => false
  | _, .destroyed | _, .destroyFailed => reported
  | _, _ => false

def Job.reportsEnd : Job → Bool
  | .reporting _ report _ => decide (report.kind = .destroyed) || decide (report.kind = .failed)
  | _ => false

def reportsEnd (plane : Plane) : PlaneLabel → Bool
  | .turn index _ => plane.jobs[index]?.any Job.reportsEnd
  | _ => false

inductive AuditedStep (reported : Bool) (standing next : Standing) : Prop where
  | kept (status : next.status = standing.status) (history : next.history = standing.history)
  | born (absent : standing.status = none) (active : next.status = some .active)
      (history : next.history = standing.history)
  | moved (fromState toState : WorkspaceStatus) (before : standing.status = some fromState)
      (after : next.status = some toState) (lawful : lawfulMove reported fromState toState = true)
      (audited : next.history = standing.history ++ [(fromState, toState)])

def Retired (status : Option WorkspaceStatus) : Prop :=
  status = some .expired ∨ status = some .destroying ∨ status = some .destroyed

def PickedUp (plane : Plane) (id : WireUuid) : Prop :=
  ∀ (session : ExpirySession) (order : List DoomedRow → List DoomedRow), (∀ rows, (order rows).Perm rows) →
    (∃ doomed ∈ pickDoomed order session plane, doomed.id = id) ∨
      (pickDoomed order session plane).length = destroyBatch

def InFlight (plane : Plane) (id : WireUuid) : Prop := ∃ attempts, (plane.standing id).callers = [attempts]

structure LifecycleKept (machine : Machine Plane PlaneLabel PlaneError) (plane : Plane) : Prop where
  moves : ∀ label next id, machine.allowed plane label → machine.step plane label = .ok next →
    AuditedStep (reportsEnd plane label) (plane.standing id) (next.standing id)
  final : ∀ labels last id, Path machine plane labels last → plane.status id = some .destroyed →
    last.status id = some .destroyed
  retired : ∀ labels last id, Path machine plane labels last → Retired (plane.status id) →
    last.status id ≠ some .active
  attempts : ∀ id, begunAttempts (plane.standing id).history ≤ maxDestroyAttempts
  oneCaller : ∀ id, (plane.standing id).callers.length ≤ 1
  expired : ∀ id, plane.status id = some .expired → PickedUp plane id
  destroying : ∀ id, plane.status id = some .destroying → InFlight plane id
  begins : ∀ index env row rest next, plane.jobs[index]? = some (.reaping (row :: rest)) →
    plane.status row.id = some .expired → machine.allowed plane (.turn index env) →
      machine.step plane (.turn index env) = .ok next → next.status row.id = some .destroying

structure Ordered (plane : Plane) : Prop where
  jobs : JobsSound plane
  lawful : ∀ id, Lawful (plane.standing id)

theorem ordered_inductive :
    Inductive (orderlyPlane sha256 hydrated) Ordered where
  initially := by
    rintro plane ⟨_, workspaces, columns, transitions, jobs, _⟩
    refine ⟨fun job member => ?_, fun id => ?_⟩
    · rw [jobs] at member
      cases member
    · have absent : plane.status id = none := by
        rw [Plane.status, workspaces]
        rfl
      have empty : plane.standing id = { status := none, attempts := 0, history := [], callers := [] } := by
        rw [Plane.standing, absent, columns, transitions, jobs]
        rfl
      rw [empty]
      exact ⟨rfl, rfl, rfl, fun _ => rfl, (by intros; contradiction)⟩
  kept := fun plane label next ordered allowed taken =>
    ⟨jobsSound_step sha256 hydrated plane next label ordered.jobs allowed.1 taken, fun id =>
      lifecycleStep_lawful _ _ (ordered.lawful id)
        (planeStep_simulates plane next label id ordered.jobs (ordered.lawful id) allowed.2 taken)⟩

theorem lifecycleStep_audited (reported : Bool) (standing next : Standing) (step : LifecycleStep standing next) :
    AuditedStep reported standing next := by
  cases step with
  | stay => exact .kept rfl rfl
  | born absent => exact .born absent rfl rfl
  | expire active => exact .moved .active .expired active rfl rfl rfl
  | attempt expired => exact .moved .expired .destroying expired rfl rfl rfl
  | settle failure destroying =>
      refine .moved .destroying (settledStatus failure standing.attempts) destroying rfl ?_ rfl
      rcases settledStatus_cases failure standing.attempts with same | ⟨same, _⟩ | ⟨same, _⟩ <;> rw [same] <;> rfl

theorem lifecycleStep_final (standing next : Standing) (step : LifecycleStep standing next)
    (destroyed : standing.status = some .destroyed) : next.status = some .destroyed := by
  cases step with
  | stay => exact destroyed
  | born absent => cases absent.symm.trans destroyed
  | expire active => cases active.symm.trans destroyed
  | attempt expired => cases expired.symm.trans destroyed
  | settle failure destroying => cases destroying.symm.trans destroyed

def Standing.Over (standing : Standing) : Prop := standing.status ≠ none ∧ standing.status ≠ some .active

theorem lifecycleStep_over (standing next : Standing) (step : LifecycleStep standing next) (ended : standing.Over) :
    next.Over := by
  cases step with
  | stay => exact ended
  | born absent => exact absurd absent ended.1
  | expire active => exact absurd active ended.2
  | attempt expired => exact ⟨nofun, nofun⟩
  | settle failure destroying =>
      refine ⟨nofun, fun active => ?_⟩
      have settled := Option.some.inj active
      rcases settledStatus_cases failure standing.attempts with same | ⟨same, _⟩ | ⟨same, _⟩ <;> rw [same] at settled <;>
        cases settled

theorem lawful_begun (standing : Standing) (lawful : Lawful standing) :
    begunAttempts standing.history ≤ maxDestroyAttempts := by
  rw [lawful.counted]
  have spent := lawful.spent
  cases status : standing.status with
  | none =>
      rw [status] at spent
      exact (show standing.attempts = 0 from spent) ▸ Nat.zero_le _
  | some status_ =>
      rw [status] at spent
      cases status_ with
      | active => exact (show standing.attempts = 0 from spent) ▸ Nat.zero_le _
      | expired => exact Nat.le_of_lt spent
      | destroying => exact spent
      | destroyed => exact spent
      | destroyFailed => exact spent

theorem lawful_oneCaller (standing : Standing) (lawful : Lawful standing) : standing.callers.length ≤ 1 := by
  rw [lawful.callers]
  split
  · exact le_refl 1
  · exact Nat.zero_le 1

theorem pickedUp (plane : Plane) (id : WireUuid) (expired : plane.status id = some .expired)
    (below : (plane.destroys id).destroyAttempts < maxDestroyAttempts) : PickedUp plane id := by
  intro session order shuffled
  obtain ⟨row, found, status⟩ := Option.map_eq_some_iff.mp expired
  obtain ⟨member, own⟩ := Table.find?_some _ _ _ found
  have sees : session.sees row = .expired := by
    rw [ExpirySession.sees, status, ite_self]
  have selected : (⟨row.id, row.orgId, row.providerId, session.sees row⟩ : DoomedRow) ∈ doomedRows session plane := by
    refine List.mem_map.mpr ⟨row, List.mem_filter.mpr ⟨member, ?_⟩, rfl⟩
    rw [sees, show row.id = id from own]
    exact decide_eq_true below
  have listed := (shuffled (doomedRows session plane)).mem_iff.mpr selected
  by_cases fits : (order (doomedRows session plane)).length ≤ destroyBatch
  · refine .inl ⟨⟨row.id, row.orgId, row.providerId, session.sees row⟩, ?_, own⟩
    rw [pickDoomed, List.take_of_length_le fits]
    exact listed
  · refine .inr ?_
    rw [pickDoomed, List.length_take]
    exact Nat.min_eq_left (Nat.le_of_lt (Nat.lt_of_not_le fits))

theorem ordered_path
    (inv : Standing → Prop) (kept : ∀ standing next, LifecycleStep standing next → inv standing → inv next)
    (first last : Plane) (labels : List PlaneLabel) (path : Path (orderlyPlane sha256 hydrated) first labels last)
    (ordered : Ordered first) (holds : inv (first.standing id)) : inv (last.standing id) := by
  refine (path_keeps (orderlyPlane sha256 hydrated) (fun plane => Ordered plane ∧ inv (plane.standing id)) ?_
    first last labels path ⟨ordered, holds⟩).2
  rintro plane label next ⟨before, present⟩ allowed taken
  refine ⟨(ordered_inductive sha256 hydrated).kept plane label next before allowed taken, kept _ _ ?_ present⟩
  exact planeStep_simulates plane next label id before.jobs (before.lawful id) allowed.2 taken

theorem orderly_begins (rest : List DoomedRow)
    (waiting : plane.jobs[index]? = some (.reaping (row :: rest))) (expired : plane.status row.id = some .expired)
    (fits : Orderly plane (.turn index env)) (taken : planeStep plane (.turn index env) = .ok next) :
    next.status row.id = some .destroying := by
  obtain ⟨current, found, status⟩ := Option.map_eq_some_iff.mp expired
  have after := turn_status plane next index env _ row.id current waiting taken found
  rw [Orderly, orderly, waiting] at fits
  have known : env.registered row.providerId = true := fits
  simp only [turnedRow, (Table.find?_some _ _ _ found).2, known, status, if_true, withStatus] at after
  exact after

theorem ordered_lifecycle (plane : Plane)
    (ordered : Ordered plane) : LifecycleKept (orderlyPlane sha256 hydrated) plane where
  moves := fun label next id allowed taken => lifecycleStep_audited _ _ _
    (planeStep_simulates plane next label id ordered.jobs (ordered.lawful id) allowed.2 taken)
  final := fun labels last id path destroyed =>
    ordered_path sha256 hydrated id (fun standing => standing.status = some .destroyed) lifecycleStep_final plane last labels
      path ordered destroyed
  retired := by
    intro labels last id path retired
    refine (ordered_path sha256 hydrated id Standing.Over lifecycleStep_over plane last labels path ordered ?_).2
    rcases retired with status | status | status <;>
      exact ⟨by rw [Plane.standing, status]; exact nofun, by rw [Plane.standing, status]; exact nofun⟩
  attempts := fun id => lawful_begun _ (ordered.lawful id)
  oneCaller := fun id => lawful_oneCaller _ (ordered.lawful id)
  expired := by
    intro id expired
    have spent := (ordered.lawful id).spent
    rw [Plane.standing, expired] at spent
    exact pickedUp plane id expired spent
  destroying := by
    intro id destroying
    have callers := (ordered.lawful id).callers
    rw [show (plane.standing id).status = some .destroying from destroying] at callers
    exact ⟨_, callers⟩
  begins := fun index env row rest next waiting expired allowed taken =>
    orderly_begins plane next index env row rest waiting expired allowed.2 taken

theorem reachable_lifecycle (plane : Plane)
    (reachable : Reachable (orderlyPlane sha256 hydrated) plane) : LifecycleKept (orderlyPlane sha256 hydrated) plane :=
  ordered_lifecycle sha256 hydrated plane
    (reachable_invariant _ Ordered (ordered_inductive sha256 hydrated) plane reachable)

def sampleSweep : List PlaneLabel := [
  .close (sampleId 1), .startSweep, .turn 0 calmTurn, .turn 0 calmTurn, .turn 0 calmTurn, .turn 0 calmTurn,
  .turn 0 calmTurn, .turn 0 calmTurn]

def sweptPlane : Plane := samplePlane.after provisionedPlane sampleSweep

theorem calmTurn_shuffles (rows : List DoomedRow) : (calmTurn.order rows).Perm rows := List.Perm.refl rows

theorem sweptPlane_commits : samplePlane.Commits provisionedPlane sampleSweep :=
  ⟨trivial, by decide +kernel, trivial, by decide +kernel, calmTurn_shuffles, by decide +kernel, calmTurn_shuffles,
    by decide +kernel, calmTurn_shuffles, by decide +kernel, calmTurn_shuffles, by decide +kernel, calmTurn_shuffles,
    by decide +kernel, calmTurn_shuffles, by decide +kernel, trivial⟩

theorem orderly_meets (plane : Plane) (fits : orderly plane label = true) : Orderly plane label :=
  fits

theorem sweptPlane_meets : samplePlane.Meets Orderly provisionedPlane sampleSweep := by
  refine ⟨rfl, rfl, ?_, ?_, ?_, ?_, ?_, ?_, trivial⟩ <;> exact orderly_meets _ _ (by decide +kernel)

theorem sweptPlane_reachable : Reachable (orderlyPlane sampleSha256 sampleHydrated) sweptPlane := by
  have queued : Path (samplePlane.restrict Orderly) Plane.empty [.queue (.dispatch provisionDispatch)] queuedPlane :=
    path_single _ _ _ _ ⟨provisionDispatch_allowed, rfl⟩ (restricted_step _ _ _ _ queuedPlane_step)
  have provisioned : Path (samplePlane.restrict Orderly) queuedPlane sampleProvisioning provisionedPlane :=
    commits_restrict samplePlane Orderly queuedPlane sampleProvisioning provisionedPlane_commits ⟨rfl, rfl, rfl, trivial⟩
  have swept : Path (samplePlane.restrict Orderly) provisionedPlane sampleSweep sweptPlane :=
    commits_restrict samplePlane Orderly provisionedPlane sampleSweep sweptPlane_commits sweptPlane_meets
  exact ⟨Plane.empty, _, ⟨⟨rfl, rfl, rfl⟩, rfl, rfl, rfl, rfl, rfl⟩,
    path_append _ _ _ _ _ _ queued (path_append _ _ _ _ _ _ provisioned swept)⟩

theorem sweptPlane_lifecycle : sweptPlane.status (sampleId 1) = some .destroying ∧
    LifecycleKept (orderlyPlane sampleSha256 sampleHydrated) sweptPlane :=
  ⟨by decide +kernel, reachable_lifecycle sampleSha256 sampleHydrated sweptPlane sweptPlane_reachable⟩

def closedPlane : Plane := samplePlane.committed (.close (sampleId 1)) provisionedPlane

def lateReady : WorkspaceEventReport :=
  { workspaceId := sampleId 1, commandId := sampleId 6, kind := .ready, agentId := sampleId 4 }

def lateReport : List PlaneLabel := [.report sampleEventEnv lateReady, .turn 0 calmTurn]

def revivedPlane : Plane := samplePlane.after closedPlane lateReport

theorem closedPlane_reachable : Reachable samplePlane closedPlane :=
  Base.reachable_committed samplePlane (.close (sampleId 1)) provisionedPlane provisionedPlane_reachable trivial

theorem report_allowed (plane : Plane) (env : EventEnv) (report : WorkspaceEventReport) (clock : env.now = plane.now) :
    samplePlane.allowed plane (.report env report) := clock

theorem revivedPlane_commits : samplePlane.Commits closedPlane lateReport :=
  ⟨report_allowed _ _ _ (by decide +kernel), by decide +kernel, calmTurn_shuffles, by decide +kernel, trivial⟩

theorem late_ready_revives : ¬ ∀ (sha256 : String → String) (hydrated : AgentCommandKind → Bool) (plane : Plane)
    (_ : Reachable (controlPlane sha256 hydrated) plane), LifecycleKept (controlPlane sha256 hydrated) plane := by
  intro always
  have kept := always sampleSha256 sampleHydrated closedPlane closedPlane_reachable
  have expired : closedPlane.status (sampleId 1) = some .expired := by decide +kernel
  have path : Path samplePlane closedPlane lateReport revivedPlane := commits_path _ _ _ revivedPlane_commits
  exact kept.retired lateReport revivedPlane (sampleId 1) path (.inl expired) (by decide +kernel)

end Yaaos.Gateway
