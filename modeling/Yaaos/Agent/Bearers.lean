import Yaaos.Base.Machine

set_option autoImplicit false

namespace Yaaos.Agent.Bearers

open Yaaos.Base

section Supervisor

-- What is fixed while the process runs: whether it dials the activity socket at all, whether the
-- build accepts another identity, and until when each bearer is good.
structure Config where
  activityWS : Bool
  acceptIdentityChange : Bool
  expires : Nat → Nat

-- The goroutines that exchange the identity again: the refresh loop, and whoever has the lock.
inductive Renewer where
  | refresh
  | reauth
  deriving DecidableEq

inductive Renewal where
  | idle
  | exchanging
  | holds (bearer : Nat)
  deriving DecidableEq

def Renewal.bearer : Renewal → Nat
  | .holds bearer => bearer
  | _ => 0

inductive Answer where
  | failed
  | granted (sameIdentity : Bool)
  deriving DecidableEq

inductive Stage where
  | starting
  | exchanged (bearer : Nat)
  | wiring
  | running
  | exited
  deriving DecidableEq

inductive Sent where
  | request (carried newest : Nat)
  | dial (carried newest clock : Nat)
  | published (connected : Bool)
  deriving DecidableEq

-- Bearers are numbered in the order in which their exchanges succeeded, from 1 on; 0 is the
-- empty bearer. `captured` is the one that the reconnect loop was started with.
structure State where
  stage : Stage
  issued : Nat
  bearer : Nat
  captured : Nat
  renewal : Renewer → Renewal
  conductor : Bool
  connected : Bool
  clock : Nat
  sent : List Sent

def State.initial : State where
  stage := .starting
  issued := 0
  bearer := 0
  captured := 0
  renewal := fun _ => .idle
  conductor := false
  connected := false
  clock := 0
  sent := []

inductive Act where
  | tick
  | bootstrap (granted : Bool)
  | pin
  | setupActivityWS (reachable : Bool)
  | request
  | progress
  | exchange (who : Renewer)
  | answer (who : Renewer) (answer : Answer)
  | setBearer (who : Renewer)
  | drop
  | redial (reachable : Bool)
  deriving DecidableEq

def State.setRenewal (state : State) (who : Renewer) (renewal : Renewal) : State :=
  { state with renewal := Function.update state.renewal who renewal }

def State.request (state : State) : State :=
  { state with sent := state.sent ++ [.request state.bearer state.issued] }

variable (config : Config)

def authenticates (bearer clock : Nat) : Bool := clock < config.expires bearer

def State.dialAndStartWS (state : State) (bearer : Nat) (reachable : Bool) : State :=
  let dialled := { state with sent := state.sent ++ [.dial bearer state.issued state.clock] }
  if reachable && authenticates config bearer state.clock then { dialled with conductor := true, connected := true }
  else dialled

def State.answered (state : State) (who : Renewer) : Answer → State
  | .failed => state.setRenewal who .idle
  | .granted sameIdentity =>
      if sameIdentity || config.acceptIdentityChange then
        { state with issued := state.issued + 1 }.setRenewal who (.holds (state.issued + 1))
      else { state with stage := .exited }

def State.progressForwarder (state : State) : State :=
  if state.conductor then { state with sent := state.sent ++ [.published state.connected] }
  else state.request

def step (state : State) : Act → Except Unit State
  | .tick => .ok { state with clock := state.clock + 1 }
  | .bootstrap granted =>
      if state.stage = .starting then
        .ok (if granted then { state with issued := state.issued + 1, stage := .exchanged (state.issued + 1) } else state)
      else .error ()
  | .pin => match state.stage with
      | .exchanged bearer => .ok { state with bearer := bearer, captured := bearer, stage := .wiring }
      | _ => .error ()
  | .setupActivityWS reachable =>
      if state.stage = .wiring then
        if config.activityWS then
          .ok { state.dialAndStartWS config state.captured reachable with stage := .running }
        else .ok { state with stage := .running }
      else .error ()
  | .request => if state.stage = .running then .ok state.request else .error ()
  | .progress => if state.stage = .running then .ok state.progressForwarder else .error ()
  | .exchange who =>
      if state.stage = .running ∧ state.renewal who = .idle then .ok (state.setRenewal who .exchanging)
      else .error ()
  | .answer who answer =>
      if state.stage = .running ∧ state.renewal who = .exchanging then .ok (state.answered config who answer)
      else .error ()
  | .setBearer who => match state.stage, state.renewal who with
      | .running, .holds bearer => .ok ({ state with bearer := bearer }.setRenewal who .idle)
      | _, _ => .error ()
  | .drop => if state.connected then .ok { state with connected := false } else .error ()
  | .redial reachable =>
      if state.stage = .running ∧ config.activityWS = true ∧ state.connected = false then
        .ok (state.dialAndStartWS config state.captured reachable)
      else .error ()

def bearers : Machine State Act Unit where
  initial state := state = .initial
  allowed _ _ := True
  step := step config

end Supervisor

variable (who : Renewer)

section Law

variable (config : Config)

def Sent.Fresh : Sent → Prop
  | .request carried newest => newest ≤ carried
  | .dial carried newest clock =>
      newest ≤ carried ∧ (authenticates config newest clock = true → authenticates config carried clock = true)
  | .published connected => connected = true

def State.Fresh (state : State) : Prop := ∀ entry ∈ state.sent, entry.Fresh config

def State.Settled (state : State) : Prop :=
  (state.renewal .refresh).bearer ≤ state.bearer ∧ (state.renewal .reauth).bearer ≤ state.bearer

-- The steps that do not reach a stale bearer or a dead connection: nothing is sent between an
-- exchange and its SetBearer, no older grant is set after a newer one, the socket is dialled
-- again only before the first renewal, and no progress comes while it is down.
def Orderly (state : State) : Act → Prop
  | .request => state.Settled
  | .progress => if state.conductor then state.connected = true else state.Settled
  | .setBearer who => state.bearer < (state.renewal who).bearer
  | .redial _ => state.issued = state.captured
  | _ => True

instance (state : State) : Decidable state.Settled :=
  inferInstanceAs (Decidable ((state.renewal .refresh).bearer ≤ state.bearer ∧ (state.renewal .reauth).bearer ≤ state.bearer))

instance (state : State) (act : Act) : Decidable (Orderly state act) :=
  match act with
  | .request => inferInstanceAs (Decidable state.Settled)
  | .progress => inferInstanceAs (Decidable (if state.conductor then state.connected = true else state.Settled))
  | .setBearer who => inferInstanceAs (Decidable (state.bearer < (state.renewal who).bearer))
  | .redial _ => inferInstanceAs (Decidable (state.issued = state.captured))
  | .tick | .bootstrap _ | .pin | .setupActivityWS _ | .exchange _ | .answer _ _ | .drop => isTrue trivial

instance (config : Config) (state : State) (act : Act) : Decidable ((bearers config).allowed state act) := isTrue trivial

def State.Located (state : State) : Prop :=
  state.issued = state.bearer ∨ ∃ who, state.renewal who = .holds state.issued

structure State.Inv (state : State) : Prop where
  fresh : state.Fresh config
  client : state.bearer ≤ state.issued
  held : ∀ who bearer, state.renewal who = .holds bearer → bearer ≤ state.issued
  unwired : state.stage = .starting ∨ state.stage = .wiring ∨ (∃ bearer, state.stage = .exchanged bearer) →
    ∀ who, state.renewal who = .idle
  exchanged : ∀ bearer, state.stage = .exchanged bearer → bearer = state.issued
  wiring : state.stage = .wiring → state.captured = state.issued
  located : state.stage = .wiring ∨ state.stage = .running → state.Located

variable {config : Config} {state : State}

theorem fresh_concat (entry : Sent) (fresh : state.Fresh config) (own : entry.Fresh config) :
    ∀ other ∈ state.sent ++ [entry], other.Fresh config := by
  intro other member
  rcases List.mem_append.mp member with earlier | last
  · exact fresh other earlier
  · rw [List.mem_singleton.mp last]
    exact own

theorem settled_newest (located : state.Located) (settled : state.Settled) :
    state.issued ≤ state.bearer := by
  rcases located with same | ⟨who, same⟩
  · exact Nat.le_of_eq same
  · have bearer : (state.renewal who).bearer = state.issued := by rw [same, Renewal.bearer]
    rw [← bearer]
    cases who with
    | refresh => exact settled.1
    | reauth => exact settled.2

theorem request_inv (inv : state.Inv config) (running : state.stage = .running) (settled : state.Settled) :
    state.request.Inv config := by
  have newest := settled_newest (inv.located (.inr running)) settled
  exact { inv with fresh := fresh_concat _ inv.fresh newest }

theorem progress_inv (inv : state.Inv config) (running : state.stage = .running)
    (orderly : Orderly state .progress) : state.progressForwarder.Inv config := by
  unfold Orderly at orderly
  unfold State.progressForwarder
  by_cases wired : state.conductor = true
  · rw [if_pos wired] at orderly ⊢
    exact { inv with fresh := fresh_concat _ inv.fresh orderly }
  · rw [if_neg wired] at orderly ⊢
    exact request_inv inv running orderly

theorem dial_inv (reachable : Bool) (inv : state.Inv config) (newest : state.issued = state.captured) :
    (state.dialAndStartWS config state.captured reachable).Inv config := by
  have own : (Sent.dial state.captured state.issued state.clock).Fresh config := by
    rw [newest]
    exact ⟨Nat.le_refl _, id⟩
  have fresh := fresh_concat _ inv.fresh own
  unfold State.dialAndStartWS
  dsimp only
  split
  · exact { inv with fresh := fresh }
  · exact { inv with fresh := fresh }

theorem setRenewal_held (who other : Renewer) (renewal : Renewal) (bearer : Nat)
    (holds : (state.setRenewal who renewal).renewal other = .holds bearer) :
    (other = who ∧ renewal = .holds bearer) ∨ (other ≠ who ∧ state.renewal other = .holds bearer) := by
  change Function.update state.renewal who renewal other = _ at holds
  by_cases same : other = who
  · rw [same, Function.update_self] at holds
    exact .inl ⟨same, holds⟩
  · rw [Function.update_of_ne same] at holds
    exact .inr ⟨same, holds⟩

theorem setRenewal_inv (renewal : Renewal) (inv : state.Inv config) (running : state.stage = .running)
    (empty : ∀ bearer, state.renewal who ≠ .holds bearer) (plain : ∀ bearer, renewal ≠ .holds bearer) :
    (state.setRenewal who renewal).Inv config where
  fresh := inv.fresh
  client := inv.client
  held other bearer holds := by
    rcases setRenewal_held who other renewal bearer holds with ⟨_, own⟩ | ⟨_, earlier⟩
    · exact absurd own (plain bearer)
    · exact inv.held other bearer earlier
  unwired stages := by
    change state.stage = _ ∨ state.stage = _ ∨ (∃ bearer, state.stage = _) at stages
    rw [running] at stages
    simp at stages
  exchanged := inv.exchanged
  wiring := inv.wiring
  located _ := by
    rcases inv.located (.inr running) with same | ⟨other, same⟩
    · exact .inl same
    · have apart : other ≠ who := fun equal => empty _ (by rw [← equal]; exact same)
      exact .inr ⟨other, (Function.update_of_ne apart _ _).trans same⟩

theorem granted_inv (inv : state.Inv config) (running : state.stage = .running) :
    ({ state with issued := state.issued + 1 }.setRenewal who (.holds (state.issued + 1))).Inv config where
  fresh := inv.fresh
  client := Nat.le_succ_of_le inv.client
  held other bearer holds := by
    rcases setRenewal_held who other _ bearer holds with ⟨_, own⟩ | ⟨_, earlier⟩
    · exact Nat.le_of_eq (Renewal.holds.inj own).symm
    · exact Nat.le_succ_of_le (inv.held other bearer earlier)
  unwired stages := by
    change state.stage = _ ∨ state.stage = _ ∨ (∃ bearer, state.stage = _) at stages
    rw [running] at stages
    simp at stages
  exchanged bearer stage := by
    change state.stage = _ at stage
    rw [running] at stage
    cases stage
  wiring stage := by
    change state.stage = _ at stage
    rw [running] at stage
    cases stage
  located _ := .inr ⟨who, Function.update_self _ _ _⟩

theorem answered_inv (answer : Answer) (inv : state.Inv config) (running : state.stage = .running)
    (waits : state.renewal who = .exchanging) : (state.answered config who answer).Inv config := by
  cases answer with
  | failed =>
      refine setRenewal_inv who .idle inv running (fun bearer => ?_) (fun bearer => Renewal.noConfusion)
      rw [waits]
      exact Renewal.noConfusion
  | granted sameIdentity =>
      unfold State.answered
      dsimp only
      split
      · exact granted_inv who inv running
      · exact {
          fresh := inv.fresh, client := inv.client, held := inv.held, exchanged := fun _ => Stage.noConfusion,
          wiring := Stage.noConfusion,
          unwired := by simp,
          located := by simp }

theorem setBearer_inv (bearer : Nat) (inv : state.Inv config) (running : state.stage = .running)
    (holds : state.renewal who = .holds bearer) (newer : state.bearer < bearer) :
    ({ state with bearer := bearer }.setRenewal who .idle).Inv config where
  fresh := inv.fresh
  client := inv.held who bearer holds
  held other later earlier := by
    rcases setRenewal_held who other .idle later earlier with ⟨_, own⟩ | ⟨_, before⟩
    · cases own
    · exact inv.held other later before
  unwired stages := by
    change state.stage = _ ∨ state.stage = _ ∨ (∃ bearer, state.stage = _) at stages
    rw [running] at stages
    simp at stages
  exchanged := inv.exchanged
  wiring := inv.wiring
  located _ := by
    have bound := inv.held who bearer holds
    rcases inv.located (.inr running) with same | ⟨other, same⟩
    · exact absurd newer (by omega)
    · by_cases equal : other = who
      · rw [equal, holds] at same
        exact .inl (Renewal.holds.inj same).symm
      · exact .inr ⟨other, (Function.update_of_ne equal _ _).trans same⟩

theorem bootstrap_inv (granted : Bool) (inv : state.Inv config) (starting : state.stage = .starting) :
    (if granted then { state with issued := state.issued + 1, stage := .exchanged (state.issued + 1) }
      else state).Inv config := by
  have idle := inv.unwired (.inl starting)
  split
  · exact {
      fresh := inv.fresh
      client := Nat.le_succ_of_le inv.client
      held := fun who bearer holds => absurd holds (by rw [idle who]; exact Renewal.noConfusion)
      unwired := fun _ => idle
      exchanged := fun bearer stage => (Stage.exchanged.inj stage).symm
      wiring := Stage.noConfusion
      located := by simp }
  · exact inv

theorem pin_inv (bearer : Nat) (inv : state.Inv config) (exchanged : state.stage = .exchanged bearer) :
    State.Inv config { state with bearer := bearer, captured := bearer, stage := .wiring } where
  fresh := inv.fresh
  client := Nat.le_of_eq (inv.exchanged bearer exchanged)
  held := inv.held
  unwired _ := inv.unwired (.inr (.inr ⟨bearer, exchanged⟩))
  exchanged _ := Stage.noConfusion
  wiring _ := inv.exchanged bearer exchanged
  located _ := .inl (inv.exchanged bearer exchanged).symm

theorem run_inv (inv : state.Inv config) (located : state.Located) :
    State.Inv config { state with stage := .running } where
  fresh := inv.fresh
  client := inv.client
  held := inv.held
  unwired := by simp
  exchanged _ := Stage.noConfusion
  wiring := Stage.noConfusion
  located _ := located

theorem setup_inv (reachable : Bool) (inv : state.Inv config) (wiring : state.stage = .wiring) :
    State.Inv config { state.dialAndStartWS config state.captured reachable with stage := .running } := by
  have dialled := dial_inv reachable inv (inv.wiring wiring).symm
  have located : (state.dialAndStartWS config state.captured reachable).Located := by
    have same : (state.dialAndStartWS config state.captured reachable).stage = .wiring := by
      unfold State.dialAndStartWS
      dsimp only
      split <;> exact wiring
    exact dialled.located (.inl same)
  exact run_inv dialled located

theorem step_inv (act : Act) (next : State) (inv : state.Inv config) (orderly : Orderly state act)
    (taken : step config state act = .ok next) : next.Inv config := by
  cases act with
  | tick =>
      cases taken
      exact { inv with }
  | bootstrap granted =>
      simp only [step] at taken
      split at taken
      · rename_i starting
        cases taken
        exact bootstrap_inv granted inv starting
      · cases taken
  | pin =>
      simp only [step] at taken
      split at taken
      · rename_i bearer exchanged
        cases taken
        exact pin_inv bearer inv exchanged
      · cases taken
  | setupActivityWS reachable =>
      simp only [step] at taken
      split at taken
      · rename_i wiring
        split at taken
        · cases taken
          exact setup_inv reachable inv wiring
        · cases taken
          exact run_inv inv (inv.located (.inl wiring))
      · cases taken
  | request =>
      simp only [step] at taken
      split at taken
      · rename_i running
        cases taken
        exact request_inv inv running orderly
      · cases taken
  | progress =>
      simp only [step] at taken
      split at taken
      · rename_i running
        cases taken
        exact progress_inv inv running orderly
      · cases taken
  | exchange who =>
      simp only [step] at taken
      split at taken
      · rename_i free
        cases taken
        refine setRenewal_inv who .exchanging inv free.1 (fun bearer => ?_) (fun bearer => Renewal.noConfusion)
        rw [free.2]
        exact Renewal.noConfusion
      · cases taken
  | answer who answer =>
      simp only [step] at taken
      split at taken
      · rename_i waits
        cases taken
        exact answered_inv who answer inv waits.1 waits.2
      · cases taken
  | setBearer who =>
      simp only [step] at taken
      split at taken
      · rename_i bearer running holds
        cases taken
        have newer : state.bearer < (state.renewal who).bearer := orderly
        rw [holds] at newer
        exact setBearer_inv who bearer inv running holds newer
      · cases taken
  | drop =>
      simp only [step] at taken
      split at taken
      · cases taken
        exact { inv with }
      · cases taken
  | redial reachable =>
      simp only [step] at taken
      split at taken
      · cases taken
        exact dial_inv reachable inv orderly
      · cases taken

theorem initial_inv (config : Config) : State.initial.Inv config where
  fresh entry member := absurd member List.not_mem_nil
  client := Nat.le_refl _
  held _ _ holds := by cases holds
  unwired _ _ := rfl
  exchanged _ := Stage.noConfusion
  wiring := Stage.noConfusion
  located := by simp [State.initial]

theorem bearers_inductive (config : Config) :
    Inductive ((bearers config).restrict Orderly) fun state => state.Inv config where
  initially state initial := by
    rw [show state = .initial from initial]
    exact initial_inv config
  kept state act next inv allowed taken := step_inv act next inv allowed.2 taken

theorem orderly_fresh (config : Config) (state : State)
    (reachable : Reachable ((bearers config).restrict Orderly) state) : state.Fresh config :=
  (reachable_invariant _ _ (bearers_inductive config) state reachable).fresh

end Law

def dropped : List Act :=
  [.bootstrap true, .pin, .setupActivityWS true, .exchange .refresh, .answer .refresh (.granted true),
    .setBearer .refresh, .drop, .redial true]

def hourly : Config where
  activityWS := true
  acceptIdentityChange := false
  expires bearer := 60 * bearer

theorem stale_dial :
    ¬ ∀ (config : Config) (state : State), Reachable (bearers config) state → state.Fresh config := by
  intro always
  have path := commits_path (bearers hourly) .initial dropped (by decide)
  have fresh := always hourly _ ⟨.initial, dropped, rfl, path⟩ (.dial 1 2 0) (by decide)
  exact absurd fresh.1 (by decide)

def renewed : List Act :=
  [.bootstrap true, .pin, .setupActivityWS true, .request, .progress, .drop, .redial true, .exchange .reauth,
    .answer .reauth (.granted true), .setBearer .reauth, .request, .progress]

theorem renewed_fresh :
    Reachable ((bearers hourly).restrict Orderly) ((bearers hourly).after .initial renewed) ∧
      ((bearers hourly).after .initial renewed).Fresh hourly := by
  have path := commits_restrict (bearers hourly) Orderly .initial renewed (by decide) (by decide)
  have reachable : Reachable ((bearers hourly).restrict Orderly) ((bearers hourly).after .initial renewed) :=
    ⟨.initial, renewed, rfl, path⟩
  exact ⟨reachable, orderly_fresh hourly _ reachable⟩

end Yaaos.Agent.Bearers
