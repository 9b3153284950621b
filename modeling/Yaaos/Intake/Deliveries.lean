import Mathlib.Data.List.Nodup
import Mathlib.Logic.Function.Basic
import Yaaos.Base.Json
import Yaaos.Base.Machine
import Yaaos.Base.Table

set_option autoImplicit false

namespace Yaaos.Intake

open Yaaos.Base

section Dispatch

variable {σ β ε : Type}

structure Delivery (β : Type) where
  deliveryId : String
  address : Nat
  event : String
  action : Option String
  hasInstallation : Bool
  body : β

-- `delivery or f"event-{id(payload)}"`
def Delivery.sourceEventId (delivery : Delivery β) : String :=
  if delivery.deliveryId = "" then "event-" ++ toString delivery.address else delivery.deliveryId

structure Handlers (σ β ε : Type) where
  isDraft : β → Bool
  isNumbered : β → Bool
  filterReason : β → σ → Option String
  auditFiltered : String → β → σ → Except ε σ
  prepareReviewOrRun : β → σ → Except ε σ
  handleSynchronize : β → σ → Except ε σ
  updateState : β → σ → Except ε σ
  complete : β → σ → Except ε σ
  requestCancel : β → σ → Except ε σ
  handleReopened : β → σ → Except ε σ
  handleComment : String → β → σ → Except ε σ
  upsertInstallation : β → σ → Except ε σ
  markInstallationInactive : String → β → σ → Except ε σ
  badRequest : String → ε

-- The transactions that a branch commits in sessions of its own, and what it
-- then leaves in the session of the endpoint.
structure Branch (σ ε : Type) where
  own : List (σ → Except ε σ)
  staged : σ → Except ε σ

def Branch.ignored : Branch σ ε := { own := [], staged := .ok }

def Branch.rejected (error : ε) : Branch σ ε := { own := [], staged := fun _ => .error error }

def Branch.inSession (work : σ → Except ε σ) : Branch σ ε := { own := [], staged := work }

def Branch.inOwnSessions (work : List (σ → Except ε σ)) : Branch σ ε := { own := work, staged := .ok }

variable (handlers : Handlers σ β ε)

-- A fork or a bot is told apart only once a binding was found.
def reviewBranch (body : β) : Branch σ ε :=
  { own := [fun domain => match handlers.filterReason body domain with
      | some reason => handlers.auditFiltered reason body domain
      | none => .ok domain]
    staged := handlers.prepareReviewOrRun body }

def pullRequestBranch (action : Option String) (body : β) : Branch σ ε :=
  if action = some "opened" ∨ action = some "reopened" ∨ action = some "ready_for_review" then
    if action = some "opened" ∧ handlers.isDraft body then .inOwnSessions [handlers.auditFiltered "draft" body]
    else reviewBranch handlers body
  else if action = some "synchronize" then
    if handlers.isNumbered body then .inOwnSessions [handlers.handleSynchronize body]
    else .rejected (handlers.badRequest "synchronize without pr number")
  else if action = some "closed" then
    if handlers.isNumbered body then
      .inOwnSessions [handlers.updateState body, handlers.complete body, handlers.requestCancel body]
    else .rejected (handlers.badRequest "closed without pr number")
  else if action = some "reopened" then
    if handlers.isNumbered body then .inOwnSessions [handlers.handleReopened body]
    else .rejected (handlers.badRequest "reopened without pr number")
  else .ignored

def installationBranch (action : Option String) (body : β) : Branch σ ε :=
  if action = some "created" ∨ action = some "new_permissions_accepted" ∨ action = some "unsuspend" then
    .inOwnSessions [handlers.upsertInstallation body]
  else if action = some "deleted" then .inOwnSessions [handlers.markInstallationInactive "uninstalled" body]
  else if action = some "suspend" then .inOwnSessions [handlers.markInstallationInactive "suspended" body]
  else .ignored

def dispatchBranch (delivery : Delivery β) : Branch σ ε :=
  if delivery.event = "pull_request" then pullRequestBranch handlers delivery.action delivery.body
  else if delivery.event = "issue_comment" ∨ delivery.event = "pull_request_review_comment" then
    if delivery.action = some "created" then .inSession (handlers.handleComment delivery.event delivery.body)
    else .ignored
  else if delivery.event = "installation" ∧ delivery.hasInstallation then
    installationBranch handlers delivery.action delivery.body
  else .ignored

end Dispatch

section Inbox

variable {σ β ε : Type}

structure WebhookEvent (β : Type) where
  delivery : Delivery β
  processed : Bool

def WebhookEvent.sourceEventId (row : WebhookEvent β) : String := row.delivery.sourceEventId

def WebhookEvent.mark (row : WebhookEvent β) : WebhookEvent β := { row with processed := true }

theorem mark_sourceEventId (row : WebhookEvent β) : row.mark.sourceEventId = row.sourceEventId := rfl

inductive Phase (β : Type) where
  | idle
  | fresh (delivery : Delivery β)
  | dispatching (delivery : Delivery β) (next : Nat)
  | failing (delivery : Delivery β) (next : Nat)
  | staged (delivery : Delivery β) (next : Nat)
  | marked (delivery : Delivery β) (next : Nat)

def Phase.held : Phase β → Option (Delivery β × Nat)
  | .idle | .fresh _ => none
  | .dispatching delivery next | .failing delivery next | .staged delivery next | .marked delivery next =>
      some (delivery, next)

structure Inbox (σ β : Type) where
  domain : σ
  events : Table (WebhookEvent β) String WebhookEvent.sourceEventId
  requests : Nat → Phase β
  applied : List (String × Nat)

inductive CommitOutcome where
  | done
  | refused
  | unacknowledged
  deriving DecidableEq

inductive InboxLabel (β : Type) where
  | receive (request : Nat) (delivery : Delivery β)
  | record (request : Nat) (outcome : CommitOutcome)
  | commitOwn (request : Nat) (outcome : CommitOutcome)
  | raise (request : Nat)
  | finish (request : Nat)
  | mark (request : Nat) (outcome : CommitOutcome)
  | commit (request : Nat) (outcome : CommitOutcome)
  | crash (request : Nat)

inductive InboxError where
  | outOfTurn
  deriving DecidableEq

namespace Inbox

def turn (inbox : Inbox σ β) (request : Nat) (phase : Phase β) : Inbox σ β :=
  { inbox with requests := Function.update inbox.requests request phase }

def apply (inbox : Inbox σ β) (delivery : Delivery β) (next : Nat) (domain : σ) : Inbox σ β :=
  { inbox with domain := domain, applied := inbox.applied ++ [(delivery.sourceEventId, next)] }

def process (inbox : Inbox σ β) (delivery : Delivery β) : Inbox σ β :=
  { inbox with
    events := inbox.events.update (fun row => row.sourceEventId == delivery.sourceEventId) (fun row => row.mark)
      fun row => mark_sourceEventId row }

def receive (inbox : Inbox σ β) (request : Nat) (delivery : Delivery β) : Inbox σ β :=
  match inbox.events.find? delivery.sourceEventId with
  | some _ => inbox
  | none => inbox.turn request (.fresh delivery)

def record (inbox : Inbox σ β) (request : Nat) (delivery : Delivery β) (outcome : CommitOutcome) : Inbox σ β :=
  match inbox.events.insert? { delivery := delivery, processed := false } with
  | none => inbox.turn request .idle
  | some events => match outcome with
      | .done => { inbox with events := events }.turn request (.dispatching delivery 0)
      | .refused => inbox.turn request .idle
      | .unacknowledged => { inbox with events := events }.turn request .idle

def commitOwn (inbox : Inbox σ β) (request : Nat) (delivery : Delivery β) (next : Nat) (work : σ → Except ε σ)
    (outcome : CommitOutcome) : Inbox σ β :=
  match work inbox.domain, outcome with
  | .ok domain, .done => (inbox.apply delivery next domain).turn request (.dispatching delivery (next + 1))
  | .ok domain, .unacknowledged => (inbox.apply delivery next domain).turn request (.failing delivery (next + 1))
  | _, _ => inbox.turn request (.failing delivery next)

def finish (inbox : Inbox σ β) (request : Nat) (delivery : Delivery β) (next : Nat) (work : σ → Except ε σ) :
    Inbox σ β :=
  match work inbox.domain with
  | .ok _ => inbox.turn request (.staged delivery next)
  | .error _ => inbox.turn request (.failing delivery next)

def markProcessed (inbox : Inbox σ β) (request : Nat) (delivery : Delivery β) (after : Phase β)
    (outcome : CommitOutcome) : Inbox σ β :=
  match outcome with
  | .done => (inbox.process delivery).turn request after
  | .refused => inbox.turn request .idle
  | .unacknowledged => (inbox.process delivery).turn request .idle

def commit (inbox : Inbox σ β) (request : Nat) (delivery : Delivery β) (next : Nat) (work : σ → Except ε σ)
    (outcome : CommitOutcome) : Inbox σ β :=
  match work inbox.domain, outcome with
  | .error _, _ | .ok _, .refused => inbox.turn request .idle
  | .ok domain, _ => (inbox.apply delivery next domain).turn request .idle

end Inbox

variable (branch : Delivery β → Branch σ ε)

def inboxStep (inbox : Inbox σ β) : InboxLabel β → Except InboxError (Inbox σ β)
  | .receive request delivery => match inbox.requests request with
      | .idle => .ok (inbox.receive request delivery)
      | _ => .error .outOfTurn
  | .record request outcome => match inbox.requests request with
      | .fresh delivery => .ok (inbox.record request delivery outcome)
      | _ => .error .outOfTurn
  | .commitOwn request outcome => match inbox.requests request with
      | .dispatching delivery next => match (branch delivery).own[next]? with
          | some work => .ok (inbox.commitOwn request delivery next work outcome)
          | none => .error .outOfTurn
      | _ => .error .outOfTurn
  | .raise request => match inbox.requests request with
      | .dispatching delivery next => .ok (inbox.turn request (.failing delivery next))
      | _ => .error .outOfTurn
  | .finish request => match inbox.requests request with
      | .dispatching delivery next => match (branch delivery).own[next]? with
          | some _ => .error .outOfTurn
          | none => .ok (inbox.finish request delivery next (branch delivery).staged)
      | _ => .error .outOfTurn
  | .mark request outcome => match inbox.requests request with
      | .staged delivery next => .ok (inbox.markProcessed request delivery (.marked delivery next) outcome)
      | .failing delivery _ => .ok (inbox.markProcessed request delivery .idle outcome)
      | _ => .error .outOfTurn
  | .commit request outcome => match inbox.requests request with
      | .marked delivery next => .ok (inbox.commit request delivery next (branch delivery).staged outcome)
      | _ => .error .outOfTurn
  | .crash request => .ok (inbox.turn request .idle)

structure Quiet (inbox : Inbox σ β) : Prop where
  unrecorded : inbox.events.rows = []
  resting : ∀ request, inbox.requests request = .idle
  unapplied : inbox.applied = []

def inboxMachine : Machine (Inbox σ β) (InboxLabel β) InboxError where
  initial := Quiet
  allowed := fun _ _ => True
  step := inboxStep branch

end Inbox

inductive Stepped {σ β : Type} (inbox next : Inbox σ β) : Prop where
  | stayed (same : next = inbox)
  | turned (request : Nat) (phase : Phase β) (kept : phase.held = none ∨ phase.held = (inbox.requests request).held)
      (same : next = inbox.turn request phase)
  | recorded (request : Nat) (delivery : Delivery β) (phase : Phase β)
      (events : Table (WebhookEvent β) String WebhookEvent.sourceEventId)
      (inserted : inbox.events.insert? { delivery := delivery, processed := false } = some events)
      (kept : phase.held = none ∨ phase.held = some (delivery, 0))
      (same : next = { inbox with events := events }.turn request phase)
  | applied (request : Nat) (delivery : Delivery β) (count : Nat) (domain : σ) (phase : Phase β)
      (held : (inbox.requests request).held = some (delivery, count))
      (kept : phase.held = none ∨ phase.held = some (delivery, count + 1))
      (same : next = (inbox.apply delivery count domain).turn request phase)
  | processed (request : Nat) (delivery : Delivery β) (count : Nat) (phase : Phase β)
      (held : (inbox.requests request).held = some (delivery, count))
      (kept : phase.held = none ∨ phase.held = some (delivery, count))
      (same : next = (inbox.process delivery).turn request phase)

section Steps

variable {σ β ε : Type} (branch : Delivery β → Branch σ ε)

variable (inbox : Inbox σ β)

theorem record_stepped (request : Nat) (delivery : Delivery β) (outcome : CommitOutcome) :
    Stepped inbox (inbox.record request delivery outcome) := by
  unfold Inbox.record
  cases inserted : inbox.events.insert? { delivery := delivery, processed := false } with
  | none => exact .turned request .idle (.inl rfl) rfl
  | some events =>
      cases outcome with
      | done => exact .recorded request delivery _ events inserted (.inr rfl) rfl
      | refused => exact .turned request .idle (.inl rfl) rfl
      | unacknowledged => exact .recorded request delivery _ events inserted (.inl rfl) rfl

theorem commitOwn_stepped (request : Nat) (delivery : Delivery β) (count : Nat)
    (work : σ → Except ε σ) (outcome : CommitOutcome)
    (held : (inbox.requests request).held = some (delivery, count)) :
    Stepped inbox (inbox.commitOwn request delivery count work outcome) := by
  unfold Inbox.commitOwn
  cases work inbox.domain with
  | error error => exact .turned request (.failing delivery count) (.inr held.symm) rfl
  | ok domain =>
      cases outcome with
      | done => exact .applied request delivery count domain _ held (.inr rfl) rfl
      | refused => exact .turned request (.failing delivery count) (.inr held.symm) rfl
      | unacknowledged => exact .applied request delivery count domain _ held (.inr rfl) rfl

theorem commit_stepped (request : Nat) (delivery : Delivery β) (count : Nat)
    (work : σ → Except ε σ) (outcome : CommitOutcome)
    (held : (inbox.requests request).held = some (delivery, count)) :
    Stepped inbox (inbox.commit request delivery count work outcome) := by
  unfold Inbox.commit
  cases work inbox.domain with
  | error error => exact .turned request .idle (.inl rfl) rfl
  | ok domain =>
      cases outcome with
      | done => exact .applied request delivery count domain _ held (.inl rfl) rfl
      | refused => exact .turned request .idle (.inl rfl) rfl
      | unacknowledged => exact .applied request delivery count domain _ held (.inl rfl) rfl

theorem markProcessed_stepped (request : Nat) (delivery : Delivery β) (count : Nat)
    (phase : Phase β) (outcome : CommitOutcome) (held : (inbox.requests request).held = some (delivery, count))
    (kept : phase.held = none ∨ phase.held = some (delivery, count)) :
    Stepped inbox (inbox.markProcessed request delivery phase outcome) := by
  cases outcome with
  | done => exact .processed request delivery count phase held kept rfl
  | refused => exact .turned request .idle (.inl rfl) rfl
  | unacknowledged => exact .processed request delivery count .idle held (.inl rfl) rfl

theorem inboxStep_stepped (inbox next : Inbox σ β) (label : InboxLabel β)
    (taken : inboxStep branch inbox label = .ok next) : Stepped inbox next := by
  cases label with
  | receive request delivery =>
      cases phase : inbox.requests request <;> simp only [inboxStep, phase, Except.ok.injEq, reduceCtorEq] at taken
      rw [← taken, Inbox.receive]
      cases inbox.events.find? delivery.sourceEventId with
      | some row => exact .stayed rfl
      | none => exact .turned request _ (.inl rfl) rfl
  | record request outcome =>
      cases phase : inbox.requests request <;> simp only [inboxStep, phase, Except.ok.injEq, reduceCtorEq] at taken
      rw [← taken]
      exact record_stepped inbox request _ outcome
  | commitOwn request outcome =>
      cases phase : inbox.requests request <;> simp only [inboxStep, phase, reduceCtorEq] at taken
      rename_i delivery count
      cases asked : (branch delivery).own[count]? <;> simp only [asked, Except.ok.injEq, reduceCtorEq] at taken
      rw [← taken]
      exact commitOwn_stepped inbox request delivery count _ outcome (by rw [phase]; rfl)
  | raise request =>
      cases phase : inbox.requests request <;> simp only [inboxStep, phase, Except.ok.injEq, reduceCtorEq] at taken
      exact .turned request _ (.inr (by rw [phase]; rfl)) taken.symm
  | finish request =>
      cases phase : inbox.requests request <;> simp only [inboxStep, phase, reduceCtorEq] at taken
      rename_i delivery count
      cases asked : (branch delivery).own[count]? <;> simp only [asked, Except.ok.injEq, reduceCtorEq] at taken
      rw [← taken, Inbox.finish]
      cases (branch delivery).staged inbox.domain with
      | ok domain => exact .turned request _ (.inr (by rw [phase]; rfl)) rfl
      | error error => exact .turned request _ (.inr (by rw [phase]; rfl)) rfl
  | mark request outcome =>
      cases phase : inbox.requests request <;> simp only [inboxStep, phase, Except.ok.injEq, reduceCtorEq] at taken
      · rw [← taken]
        exact markProcessed_stepped inbox request _ _ _ outcome (by rw [phase]; rfl) (.inl rfl)
      · rw [← taken]
        exact markProcessed_stepped inbox request _ _ _ outcome (by rw [phase]; rfl) (.inr rfl)
  | commit request outcome =>
      cases phase : inbox.requests request <;> simp only [inboxStep, phase, Except.ok.injEq, reduceCtorEq] at taken
      rw [← taken]
      exact commit_stepped inbox request _ _ _ outcome (by rw [phase]; rfl)
  | crash request =>
      rw [inboxStep, Except.ok.injEq] at taken
      exact .turned request .idle (.inl rfl) taken.symm

end Steps

section Rows

variable {σ β : Type}

def Inbox.recorded (inbox : Inbox σ β) (key : String) : Option (Delivery β) :=
  (inbox.events.find? key).map WebhookEvent.delivery

variable (inbox : Inbox σ β) (delivery : Delivery β)

theorem recorded_insert
    (events : Table (WebhookEvent β) String WebhookEvent.sourceEventId)
    (inserted : inbox.events.insert? { delivery := delivery, processed := false } = some events) (key : String) :
    ({ inbox with events := events } : Inbox σ β).recorded key =
      (inbox.recorded key).or (if delivery.sourceEventId = key then some delivery else none) := by
  rw [Inbox.recorded, Inbox.recorded, Table.find?_insert _ _ _ key inserted]
  cases inbox.events.find? key with
  | some row => rfl
  | none => by_cases same : delivery.sourceEventId = key <;> simp [same, WebhookEvent.sourceEventId]

theorem unrecorded_insert
    (events : Table (WebhookEvent β) String WebhookEvent.sourceEventId)
    (inserted : inbox.events.insert? { delivery := delivery, processed := false } = some events) :
    inbox.recorded delivery.sourceEventId = none := by
  obtain ⟨_, fresh⟩ := Table.insert?_some _ _ _ inserted
  rw [Inbox.recorded, Option.map_eq_none_iff, Table.find?_isNone]
  exact fresh

theorem recorded_process (key : String) :
    (inbox.process delivery).recorded key = inbox.recorded key := by
  rw [Inbox.recorded, Inbox.process, Table.find?_update, Option.map_map, Inbox.recorded]
  congr 1
  funext row
  simp only [Function.comp]
  split <;> rfl

@[simp] theorem recorded_turn (request : Nat) (phase : Phase β) (key : String) :
    (inbox.turn request phase).recorded key = inbox.recorded key := rfl

theorem turn_held (request other : Nat) (phase : Phase β) :
    ((inbox.turn request phase).requests other).held =
      if other = request then phase.held else (inbox.requests other).held := by
  by_cases same : other = request
  · subst same
    simp [Inbox.turn]
  · simp [Inbox.turn, same]

end Rows

structure Tracked {σ β : Type} (inbox : Inbox σ β) : Prop where
  stored : ∀ request delivery count, (inbox.requests request).held = some (delivery, count) →
    inbox.recorded delivery.sourceEventId = some delivery
  alone : ∀ request other delivery count left right, (inbox.requests request).held = some (delivery, count) →
    (inbox.requests other).held = some (left, right) → delivery.sourceEventId = left.sourceEventId → request = other
  behind : ∀ request delivery count, (inbox.requests request).held = some (delivery, count) →
    ∀ index, (delivery.sourceEventId, index) ∈ inbox.applied → index < count
  known : ∀ key index, (key, index) ∈ inbox.applied → inbox.recorded key ≠ none
  once : inbox.applied.Nodup

section Tracking

variable {σ β ε : Type} (branch : Delivery β → Branch σ ε)

variable (inbox : Inbox σ β)

theorem quiet_tracked (quiet : Quiet inbox) : Tracked inbox := by
  refine ⟨?_, ?_, ?_, ?_, ?_⟩
  · intro request delivery count held
    simp [quiet.resting, Phase.held] at held
  · intro request other delivery count left right held
    simp [quiet.resting, Phase.held] at held
  · intro request delivery count held
    simp [quiet.resting, Phase.held] at held
  · intro key index member
    simp [quiet.unapplied] at member
  · simp [quiet.unapplied]

theorem turned_held (request other : Nat) (phase : Phase β) (delivery : Delivery β) (count : Nat)
    (kept : phase.held = none ∨ phase.held = (inbox.requests request).held)
    (held : ((inbox.turn request phase).requests other).held = some (delivery, count)) :
    (inbox.requests other).held = some (delivery, count) := by
  rw [turn_held] at held
  by_cases same : other = request
  · rw [if_pos same] at held
    rcases kept with nothing | before
    · simp [nothing] at held
    · rw [same, ← before]
      exact held
  · rwa [if_neg same] at held

theorem turned_tracked (request : Nat) (phase : Phase β)
    (kept : phase.held = none ∨ phase.held = (inbox.requests request).held) (tracked : Tracked inbox) :
    Tracked (inbox.turn request phase) := by
  have before := turned_held inbox request
  refine ⟨?_, ?_, ?_, tracked.known, tracked.once⟩
  · intro other delivery count held
    exact tracked.stored other delivery count (before other phase delivery count kept held)
  · intro first second delivery count left right firstHeld secondHeld same
    exact tracked.alone first second delivery count left right (before first phase delivery count kept firstHeld)
      (before second phase left right kept secondHeld) same
  · intro other delivery count held index member
    exact tracked.behind other delivery count (before other phase delivery count kept held) index member

theorem recorded_tracked (request : Nat) (delivery : Delivery β) (phase : Phase β)
    (events : Table (WebhookEvent β) String WebhookEvent.sourceEventId)
    (inserted : inbox.events.insert? { delivery := delivery, processed := false } = some events)
    (kept : phase.held = none ∨ phase.held = some (delivery, 0)) (tracked : Tracked inbox) :
    Tracked ({ inbox with events := events }.turn request phase) := by
  have absent := unrecorded_insert inbox delivery events inserted
  have rows := recorded_insert inbox delivery events inserted
  have source (other : Nat) (held : Delivery β × Nat)
      (holds : ((({ inbox with events := events } : Inbox σ β).turn request phase).requests other).held = some held) :
      (other = request ∧ held = (delivery, 0)) ∨
        (inbox.requests other).held = some held ∧ held.1.sourceEventId ≠ delivery.sourceEventId := by
    rw [turn_held] at holds
    by_cases same : other = request
    · rw [if_pos same] at holds
      rcases kept with nothing | own
      · simp [nothing] at holds
      · rw [own, Option.some.injEq] at holds
        exact .inl ⟨same, holds.symm⟩
    · rw [if_neg same] at holds
      refine .inr ⟨holds, fun clash => ?_⟩
      have stored := tracked.stored other held.1 held.2 holds
      rw [clash, absent] at stored
      cases stored
  refine ⟨?_, ?_, ?_, ?_, tracked.once⟩
  · intro other left count holds
    rw [recorded_turn, rows]
    rcases source other (left, count) holds with ⟨_, same⟩ | ⟨before, _⟩
    · cases same
      simp [absent]
    · rw [tracked.stored other left count before]
      rfl
  · intro first second left count right later firstHolds secondHolds same
    rcases source first (left, count) firstHolds with ⟨firstSame, own⟩ | ⟨firstBefore, firstApart⟩
    · rcases source second (right, later) secondHolds with ⟨secondSame, _⟩ | ⟨_, apart⟩
      · rw [firstSame, secondSame]
      · cases own
        exact absurd same.symm apart
    · rcases source second (right, later) secondHolds with ⟨_, own⟩ | ⟨secondBefore, _⟩
      · cases own
        exact absurd same firstApart
      · exact tracked.alone first second left count right later firstBefore secondBefore same
  · intro other left count holds index member
    rcases source other (left, count) holds with ⟨_, same⟩ | ⟨before, _⟩
    · cases same
      exact absurd absent (tracked.known _ index member)
    · exact tracked.behind other left count before index member
  · intro key index member
    rw [recorded_turn, rows]
    cases found : inbox.recorded key with
    | some stored => simp
    | none => exact absurd found (tracked.known key index member)

theorem applied_tracked (request : Nat) (delivery : Delivery β) (count : Nat) (domain : σ)
    (phase : Phase β) (held : (inbox.requests request).held = some (delivery, count))
    (kept : phase.held = none ∨ phase.held = some (delivery, count + 1)) (tracked : Tracked inbox) :
    Tracked ((inbox.apply delivery count domain).turn request phase) := by
  have source (other : Nat) (left : Delivery β) (later : Nat)
      (holds : (((inbox.apply delivery count domain).turn request phase).requests other).held = some (left, later)) :
      (other = request ∧ left = delivery ∧ later = count + 1) ∨
        (other ≠ request ∧ (inbox.requests other).held = some (left, later)) := by
    rw [turn_held] at holds
    by_cases same : other = request
    · rw [if_pos same] at holds
      rcases kept with nothing | own
      · simp [nothing] at holds
      · rw [own, Option.some.injEq, Prod.mk.injEq] at holds
        exact .inl ⟨same, holds.1.symm, holds.2.symm⟩
    · rw [if_neg same] at holds
      exact .inr ⟨same, holds⟩
  have log (key : String) (index : Nat) : (key, index) ∈ (inbox.apply delivery count domain).applied ↔
      (key, index) ∈ inbox.applied ∨ key = delivery.sourceEventId ∧ index = count := by
    simp [Inbox.apply]
  have stored := tracked.stored request delivery count held
  refine ⟨?_, ?_, ?_, ?_, ?_⟩
  · intro other left later holds
    rcases source other left later holds with ⟨_, same, _⟩ | ⟨_, before⟩
    · rw [same]
      exact stored
    · exact tracked.stored other left later before
  · intro first second left later right last firstHolds secondHolds same
    rcases source first left later firstHolds with ⟨firstSame, own, _⟩ | ⟨_, firstBefore⟩
    · rcases source second right last secondHolds with ⟨secondSame, _, _⟩ | ⟨_, secondBefore⟩
      · rw [firstSame, secondSame]
      · rw [firstSame]
        exact tracked.alone request second delivery count right last held secondBefore (own ▸ same)
    · rcases source second right last secondHolds with ⟨secondSame, own, _⟩ | ⟨_, secondBefore⟩
      · rw [secondSame]
        exact tracked.alone first request left later delivery count firstBefore held (own ▸ same)
      · exact tracked.alone first second left later right last firstBefore secondBefore same
  · intro other left later holds index member
    rcases (log _ _).mp member with earlier | ⟨sameKey, sameIndex⟩
    · rcases source other left later holds with ⟨_, own, counted⟩ | ⟨_, before⟩
      · rw [own] at earlier
        have least := tracked.behind request delivery count held index earlier
        omega
      · exact tracked.behind other left later before index earlier
    · rcases source other left later holds with ⟨_, _, counted⟩ | ⟨apart, before⟩
      · omega
      · exact absurd (tracked.alone other request left later delivery count before held sameKey) apart
  · intro key index member
    rcases (log _ _).mp member with earlier | ⟨sameKey, _⟩
    · exact tracked.known key index earlier
    · rw [sameKey]
      change inbox.recorded delivery.sourceEventId ≠ none
      simp [stored]
  · refine List.nodup_append.mpr ⟨tracked.once, List.nodup_singleton _, ?_⟩
    intro entry earlier added member same
    rw [List.mem_singleton.mp member] at same
    rw [same] at earlier
    exact Nat.lt_irrefl count (tracked.behind request delivery count held count earlier)

theorem processed_tracked (delivery : Delivery β) (tracked : Tracked inbox) :
    Tracked (inbox.process delivery) := by
  refine ⟨?_, tracked.alone, tracked.behind, ?_, tracked.once⟩
  · intro request left count held
    rw [recorded_process]
    exact tracked.stored request left count held
  · intro key index member
    rw [recorded_process]
    exact tracked.known key index member

theorem stepped_tracked (inbox next : Inbox σ β) (stepped : Stepped inbox next) (tracked : Tracked inbox) :
    Tracked next := by
  cases stepped with
  | stayed same => exact same ▸ tracked
  | turned request phase kept same => exact same ▸ turned_tracked inbox request phase kept tracked
  | recorded request delivery phase events inserted kept same =>
      exact same ▸ recorded_tracked inbox request delivery phase events inserted kept tracked
  | applied request delivery count domain phase held kept same =>
      exact same ▸ applied_tracked inbox request delivery count domain phase held kept tracked
  | processed request delivery count phase held kept same =>
      have later : phase.held = none ∨ phase.held = ((inbox.process delivery).requests request).held :=
        kept.imp id fun own => own.trans held.symm
      exact same ▸ turned_tracked _ request phase later (processed_tracked inbox delivery tracked)

theorem reachable_tracked (reachable : Reachable (inboxMachine branch) inbox) : Tracked inbox :=
  reachable_invariant (inboxMachine branch) Tracked
    ⟨quiet_tracked, fun state label next tracked _ taken =>
      stepped_tracked state next (inboxStep_stepped branch state next label taken) tracked⟩ inbox reachable

end Tracking

end Yaaos.Intake
