import Yaaos.Intake.Deliveries

set_option autoImplicit false

namespace Yaaos.Intake

open Yaaos.Base

section Conditions

variable {σ β ε : Type} (branch : Delivery β → Branch σ ε)

def Inbox.isProcessed (inbox : Inbox σ β) (key : String) : Bool :=
  (inbox.events.find? key).any WebhookEvent.processed

def Unheld (inbox : Inbox σ β) (key : String) : Prop :=
  ∀ request delivery count, (inbox.requests request).held = some (delivery, count) → delivery.sourceEventId ≠ key

def Untroubled (inbox : Inbox σ β) : InboxLabel β → Prop
  | .receive _ _ => True
  | .record _ outcome => outcome ≠ .unacknowledged
  | .commitOwn request outcome => outcome = .done ∧ ∀ delivery count work,
      inbox.requests request = .dispatching delivery count → (branch delivery).own[count]? = some work →
        (work inbox.domain).isOk = true
  | .raise _ => False
  | .finish request => ∀ delivery count, inbox.requests request = .dispatching delivery count →
      ((branch delivery).staged inbox.domain).isOk = true
  | .mark _ outcome => outcome = .done
  | .commit request outcome => outcome ≠ .refused ∧ ∀ delivery count,
      inbox.requests request = .marked delivery count → ((branch delivery).staged inbox.domain).isOk = true
  | .crash request => (inbox.requests request).held = none

def Counted (inbox : Inbox σ β) : Phase β → Prop
  | .idle | .fresh _ => True
  | .dispatching delivery count =>
      count ≤ (branch delivery).own.length ∧ ∀ index < count, (delivery.sourceEventId, index) ∈ inbox.applied
  | .failing _ _ => False
  | .staged delivery count =>
      count = (branch delivery).own.length ∧ ∀ index < count, (delivery.sourceEventId, index) ∈ inbox.applied
  | .marked delivery count =>
      (count = (branch delivery).own.length ∧ ∀ index < count, (delivery.sourceEventId, index) ∈ inbox.applied) ∧
        inbox.isProcessed delivery.sourceEventId = true

def SettledDelivery (inbox : Inbox σ β) (key : String) (delivery : Delivery β) : Prop :=
  inbox.isProcessed key = true ∧ ∀ index ≤ (branch delivery).own.length, (key, index) ∈ inbox.applied

structure Tidy (inbox : Inbox σ β) : Prop where
  tracked : Tracked inbox
  counted : ∀ request, Counted branch inbox (inbox.requests request)
  settled : ∀ key delivery, inbox.recorded key = some delivery → Unheld inbox key → SettledDelivery branch inbox key delivery

end Conditions

section Keeping

variable {σ β ε : Type} (branch : Delivery β → Branch σ ε)

theorem isOk_committed {α : Type} (body : Except ε α) (fine : body.isOk = true) : ∃ result, body = .ok result := by
  cases body with
  | error error => cases fine
  | ok result => exact ⟨result, rfl⟩

variable (inbox : Inbox σ β) (request : Nat) (delivery : Delivery β)

theorem isProcessed_process (key : String)
    (processed : inbox.isProcessed key = true) : (inbox.process delivery).isProcessed key = true := by
  unfold Inbox.isProcessed Inbox.process at *
  rw [Table.find?_update]
  cases found : inbox.events.find? key with
  | none => simp [found] at processed
  | some row =>
      rw [found] at processed
      by_cases chosen : row.sourceEventId = delivery.sourceEventId
      · simp [chosen, WebhookEvent.mark]
      · simpa [chosen] using processed

theorem isProcessed_processed (delivery stored : Delivery β)
    (recorded : inbox.recorded delivery.sourceEventId = some stored) :
    (inbox.process delivery).isProcessed delivery.sourceEventId = true := by
  unfold Inbox.recorded at recorded
  unfold Inbox.isProcessed Inbox.process
  rw [Table.find?_update]
  cases found : inbox.events.find? delivery.sourceEventId with
  | none => simp [found] at recorded
  | some row =>
      have named := (Table.find?_some _ _ _ found).2
      simp [named, WebhookEvent.mark]

theorem isProcessed_insert
    (events : Table (WebhookEvent β) String WebhookEvent.sourceEventId)
    (inserted : inbox.events.insert? { delivery := delivery, processed := false } = some events) (key : String)
    (processed : inbox.isProcessed key = true) :
    ({ inbox with events := events } : Inbox σ β).isProcessed key = true := by
  unfold Inbox.isProcessed at *
  rw [Table.find?_insert _ _ _ key inserted]
  cases found : inbox.events.find? key with
  | none => simp [found] at processed
  | some row => simpa [found] using processed

structure GrownInbox (inbox next : Inbox σ β) : Prop where
  applied : ∀ entry ∈ inbox.applied, entry ∈ next.applied
  processed : ∀ key, inbox.isProcessed key = true → next.isProcessed key = true

theorem counted_grown (inbox next : Inbox σ β) (grown : GrownInbox inbox next) (phase : Phase β)
    (counted : Counted branch inbox phase) : Counted branch next phase := by
  cases phase with
  | idle => trivial
  | fresh delivery => trivial
  | dispatching delivery count =>
      exact ⟨counted.1, fun index below => grown.applied _ (counted.2 index below)⟩
  | failing delivery count => exact counted
  | staged delivery count => exact ⟨counted.1, fun index below => grown.applied _ (counted.2 index below)⟩
  | marked delivery count =>
      exact ⟨⟨counted.1.1, fun index below => grown.applied _ (counted.1.2 index below)⟩,
        grown.processed _ counted.2⟩

theorem settled_grown (inbox next : Inbox σ β) (grown : GrownInbox inbox next) (key : String) (delivery : Delivery β)
    (settled : SettledDelivery branch inbox key delivery) : SettledDelivery branch next key delivery :=
  ⟨grown.processed key settled.1, fun index below => grown.applied _ (settled.2 index below)⟩

theorem turned_counted (phase : Phase β)
    (others : ∀ other, other ≠ request → Counted branch inbox (inbox.requests other))
    (counted : Counted branch inbox phase) (other : Nat) :
    Counted branch (inbox.turn request phase) ((inbox.turn request phase).requests other) := by
  have grown : GrownInbox inbox (inbox.turn request phase) := ⟨fun _ member => member, fun _ processed => processed⟩
  by_cases same : other = request
  · subst same
    simpa [Inbox.turn] using counted_grown branch inbox _ grown phase counted
  · have kept : (inbox.turn request phase).requests other = inbox.requests other := by simp [Inbox.turn, same]
    rw [kept]
    exact counted_grown branch inbox _ grown _ (others other same)

theorem turned_tidy (phase : Phase β)
    (same : phase.held = (inbox.requests request).held) (counted : Counted branch inbox phase) (tidy : Tidy branch inbox) :
    Tidy branch (inbox.turn request phase) := by
  refine ⟨turned_tracked inbox request phase (.inr same) tidy.tracked,
    turned_counted branch inbox request phase (fun other _ => tidy.counted other) counted, ?_⟩
  intro key delivery recorded unheld
  refine tidy.settled key delivery recorded fun other left count held => ?_
  refine unheld other left count ?_
  rw [turn_held]
  by_cases own : other = request
  · rw [if_pos own, same, ← own]
    exact held
  · rw [if_neg own]
    exact held

theorem record_tidy (outcome : CommitOutcome)
    (fresh : inbox.requests request = .fresh delivery) (answered : outcome ≠ .unacknowledged)
    (tidy : Tidy branch inbox) : Tidy branch (inbox.record request delivery outcome) := by
  have idle : Tidy branch (inbox.turn request .idle) :=
    turned_tidy branch inbox request .idle (by rw [fresh]; rfl) trivial tidy
  unfold Inbox.record
  cases inserted : inbox.events.insert? { delivery := delivery, processed := false } with
  | none => exact idle
  | some events =>
      cases outcome with
      | unacknowledged => exact absurd rfl answered
      | refused => exact idle
      | done =>
          have grown : GrownInbox inbox { inbox with events := events } :=
            ⟨fun _ member => member, isProcessed_insert inbox delivery events inserted⟩
          refine ⟨recorded_tracked inbox request delivery _ events inserted (.inr rfl) tidy.tracked, ?_, ?_⟩
          · refine turned_counted branch _ request _ (fun other _ => counted_grown branch inbox _ grown _
              (tidy.counted other)) ⟨Nat.zero_le _, fun index below => ?_⟩
            exact absurd below (Nat.not_lt_zero index)
          · intro key stored recorded unheld
            dsimp only at recorded unheld ⊢
            have apart : delivery.sourceEventId ≠ key := by
              refine unheld request delivery 0 ?_
              rw [turn_held, if_pos rfl]
              rfl
            rw [recorded_turn, recorded_insert inbox delivery events inserted, if_neg apart, Option.or_none] at recorded
            refine settled_grown branch inbox _ grown key stored
              (tidy.settled key stored recorded fun other left count held => ?_)
            by_cases own : other = request
            · rw [own, fresh] at held
              cases held
            · exact unheld other left count (by rw [turn_held, if_neg own]; exact held)

theorem applied_tidy (count : Nat) (domain : σ)
    (phase : Phase β) (held : (inbox.requests request).held = some (delivery, count))
    (kept : phase.held = none ∨ phase.held = some (delivery, count + 1))
    (counted : Counted branch (inbox.apply delivery count domain) phase)
    (ends : phase.held = none → SettledDelivery branch (inbox.apply delivery count domain) delivery.sourceEventId delivery)
    (tidy : Tidy branch inbox) : Tidy branch ((inbox.apply delivery count domain).turn request phase) := by
  have grown : GrownInbox inbox (inbox.apply delivery count domain) :=
    ⟨fun _ member => List.mem_append_left _ member, fun _ processed => processed⟩
  refine ⟨applied_tracked inbox request delivery count domain phase held kept tidy.tracked,
    turned_counted branch _ request phase (fun other _ => counted_grown branch inbox _ grown _ (tidy.counted other))
      counted, ?_⟩
  intro key stored recorded unheld
  by_cases own : delivery.sourceEventId = key
  · have mine : stored = delivery := by
      have known := tidy.tracked.stored request delivery count held
      rw [own] at known
      exact Option.some.inj (recorded.symm.trans known)
    rw [mine, ← own]
    refine ends ?_
    rcases kept with nothing | more
    · exact nothing
    · exact absurd own (unheld request delivery (count + 1) (by rw [turn_held, if_pos rfl]; exact more))
  · refine settled_grown branch inbox _ grown key stored
      (tidy.settled key stored recorded fun other left later holds => ?_)
    by_cases same : other = request
    · rw [same, held, Option.some.injEq, Prod.mk.injEq] at holds
      rw [← holds.1]
      exact own
    · exact unheld other left later (by rw [turn_held, if_neg same]; exact holds)

theorem processed_tidy (count : Nat)
    (staged : inbox.requests request = .staged delivery count) (tidy : Tidy branch inbox) :
    Tidy branch ((inbox.process delivery).turn request (.marked delivery count)) := by
  have held : (inbox.requests request).held = some (delivery, count) := by
    rw [staged]
    rfl
  have grown : GrownInbox inbox (inbox.process delivery) :=
    ⟨fun _ member => member, isProcessed_process inbox delivery⟩
  have counted := tidy.counted request
  rw [staged] at counted
  refine ⟨turned_tracked _ request _ (.inr (by rw [Phase.held]; exact held.symm))
    (processed_tracked inbox delivery tidy.tracked), ?_, ?_⟩
  · exact turned_counted branch _ request _ (fun other _ => counted_grown branch inbox _ grown _ (tidy.counted other))
      ⟨counted, isProcessed_processed inbox delivery delivery (tidy.tracked.stored request delivery count held)⟩
  · intro key stored recorded unheld
    rw [recorded_turn, recorded_process] at recorded
    refine settled_grown branch inbox _ grown key stored
      (tidy.settled key stored recorded fun other left later holds => ?_)
    by_cases same : other = request
    · rw [same, held] at holds
      exact unheld request left later (by rw [turn_held, if_pos rfl]; exact holds)
    · exact unheld other left later (by rw [turn_held, if_neg same]; exact holds)

theorem untroubled_tidy (inbox next : Inbox σ β) (label : InboxLabel β) (untroubled : Untroubled branch inbox label)
    (taken : inboxStep branch inbox label = .ok next) (tidy : Tidy branch inbox) : Tidy branch next := by
  cases label with
  | receive request delivery =>
      cases phase : inbox.requests request <;> simp only [inboxStep, phase, Except.ok.injEq, reduceCtorEq] at taken
      rw [← taken, Inbox.receive]
      cases inbox.events.find? delivery.sourceEventId with
      | some row => exact tidy
      | none => exact turned_tidy branch inbox request _ (by rw [phase]; rfl) trivial tidy
  | record request outcome =>
      cases phase : inbox.requests request <;> simp only [inboxStep, phase, Except.ok.injEq, reduceCtorEq] at taken
      rw [← taken]
      exact record_tidy branch inbox request _ outcome phase untroubled tidy
  | commitOwn request outcome =>
      cases phase : inbox.requests request <;> simp only [inboxStep, phase, reduceCtorEq] at taken
      rename_i delivery count
      cases asked : (branch delivery).own[count]? <;> simp only [asked, Except.ok.injEq, reduceCtorEq] at taken
      rename_i work
      obtain ⟨done, fine⟩ := untroubled
      obtain ⟨domain, worked⟩ := isOk_committed _ (fine delivery count work phase asked)
      have counted := tidy.counted request
      rw [phase] at counted
      obtain ⟨below, _⟩ := List.getElem?_eq_some_iff.mp asked
      have committed : next = (inbox.apply delivery count domain).turn request (.dispatching delivery (count + 1)) := by
        rw [← taken, done]
        unfold Inbox.commitOwn
        rw [worked]
      rw [committed]
      refine applied_tidy branch inbox request delivery count domain _ (by rw [phase]; rfl) (.inr rfl) ⟨below, ?_⟩
        (fun nothing => by cases nothing) tidy
      intro index counts
      rcases Nat.lt_succ_iff_lt_or_eq.mp counts with earlier | same
      · exact List.mem_append_left _ (counted.2 index earlier)
      · simp [Inbox.apply, same]
  | raise request => exact False.elim untroubled
  | finish request =>
      cases phase : inbox.requests request <;> simp only [inboxStep, phase, reduceCtorEq] at taken
      rename_i delivery count
      cases asked : (branch delivery).own[count]? <;> simp only [asked, Except.ok.injEq, reduceCtorEq] at taken
      obtain ⟨domain, worked⟩ := isOk_committed _ (untroubled delivery count phase)
      have counted := tidy.counted request
      rw [phase] at counted
      rw [← taken, Inbox.finish, worked]
      refine turned_tidy branch inbox request _ (by rw [phase]; rfl) ⟨?_, counted.2⟩ tidy
      exact Nat.le_antisymm counted.1 (List.getElem?_eq_none_iff.mp asked)
  | mark request outcome =>
      have done : outcome = .done := untroubled
      cases phase : inbox.requests request <;> simp only [inboxStep, phase, Except.ok.injEq, reduceCtorEq] at taken
      · have counted := tidy.counted request
        rw [phase] at counted
        exact False.elim counted
      · rw [← taken, done]
        exact processed_tidy branch inbox request _ _ phase tidy
  | commit request outcome =>
      cases phase : inbox.requests request <;> simp only [inboxStep, phase, Except.ok.injEq, reduceCtorEq] at taken
      rename_i delivery count
      obtain ⟨answered, fine⟩ := untroubled
      obtain ⟨domain, worked⟩ := isOk_committed _ (fine delivery count phase)
      have counted := tidy.counted request
      rw [phase] at counted
      have committed : next = (inbox.apply delivery count domain).turn request .idle := by
        rw [← taken]
        unfold Inbox.commit
        rw [worked]
        cases outcome with
        | done => rfl
        | refused => exact absurd rfl answered
        | unacknowledged => rfl
      rw [committed]
      refine applied_tidy branch inbox request delivery count domain .idle (by rw [phase]; rfl) (.inl rfl) trivial
        (fun _ => ⟨counted.2, fun index below => ?_⟩) tidy
      rw [← counted.1.1] at below
      rcases Nat.lt_or_eq_of_le below with earlier | same
      · exact List.mem_append_left _ (counted.1.2 index earlier)
      · simp [Inbox.apply, same]
  | crash request =>
      rw [inboxStep, Except.ok.injEq] at taken
      rw [← taken]
      exact turned_tidy branch inbox request .idle (Eq.symm untroubled) trivial tidy

theorem quiet_tidy (quiet : Quiet inbox) : Tidy branch inbox := by
  refine ⟨quiet_tracked inbox quiet, ?_, ?_⟩
  · intro request
    rw [quiet.resting]
    trivial
  · intro key delivery recorded
    simp [Inbox.recorded, Table.find?, quiet.unrecorded] at recorded

theorem untroubled_reachable_tidy
    (reachable : Reachable ((inboxMachine branch).restrict (Untroubled branch)) inbox) : Tidy branch inbox :=
  reachable_invariant ((inboxMachine branch).restrict (Untroubled branch)) (Tidy branch)
    ⟨quiet_tidy branch, fun state label next tidy allowed taken =>
      untroubled_tidy branch state next label allowed.2 taken tidy⟩ inbox reachable

end Keeping

section Losing

variable {σ β ε : Type} (branch : Delivery β → Branch σ ε)

structure Lost (key : String) (index : Nat) (inbox : Inbox σ β) : Prop where
  recorded : inbox.recorded key ≠ none
  unheld : Unheld inbox key
  missing : (key, index) ∉ inbox.applied

theorem stepped_lost (key : String) (index : Nat) (inbox next : Inbox σ β) (stepped : Stepped inbox next)
    (lost : Lost key index inbox) : Lost key index next := by
  cases stepped with
  | stayed same => exact same ▸ lost
  | turned request phase kept same =>
      rw [same]
      exact ⟨lost.recorded, fun other delivery count held =>
        lost.unheld other delivery count (turned_held inbox request other phase delivery count kept held), lost.missing⟩
  | recorded request delivery phase events inserted kept same =>
      have apart : delivery.sourceEventId ≠ key := by
        intro clash
        have absent := unrecorded_insert inbox delivery events inserted
        rw [clash] at absent
        exact lost.recorded absent
      rw [same]
      refine ⟨?_, fun other left count held => ?_, lost.missing⟩
      · rw [recorded_turn, recorded_insert inbox delivery events inserted, if_neg apart, Option.or_none]
        exact lost.recorded
      · rw [turn_held] at held
        by_cases own : other = request
        · rw [if_pos own] at held
          rcases kept with nothing | begun
          · simp [nothing] at held
          · rw [begun, Option.some.injEq, Prod.mk.injEq] at held
            rw [← held.1]
            exact apart
        · rw [if_neg own] at held
          exact lost.unheld other left count held
  | applied request delivery count domain phase held kept same =>
      have apart := lost.unheld request delivery count held
      rw [same]
      refine ⟨lost.recorded, fun other left later holds => ?_, ?_⟩
      · rw [turn_held] at holds
        by_cases own : other = request
        · rw [if_pos own] at holds
          rcases kept with nothing | more
          · simp [nothing] at holds
          · rw [more, Option.some.injEq, Prod.mk.injEq] at holds
            rw [← holds.1]
            exact apart
        · rw [if_neg own] at holds
          exact lost.unheld other left later holds
      · intro member
        rcases List.mem_append.mp member with earlier | added
        · exact lost.missing earlier
        · rw [List.mem_singleton, Prod.mk.injEq] at added
          exact apart added.1.symm
  | processed request delivery count phase held kept same =>
      rw [same]
      refine ⟨?_, fun other left later holds => ?_, lost.missing⟩
      · rw [recorded_turn, recorded_process]
        exact lost.recorded
      · have before : phase.held = none ∨ phase.held = ((inbox.process delivery).requests request).held :=
          kept.imp id fun own => own.trans held.symm
        exact lost.unheld other left later (turned_held (inbox.process delivery) request other phase left later before holds)

theorem lost_forever (key : String) (index : Nat) (inbox last : Inbox σ β) (labels : List (InboxLabel β))
    (path : Path (inboxMachine branch) inbox labels last) (lost : Lost key index inbox) : Lost key index last :=
  path_keeps (inboxMachine branch) (Lost key index)
    (fun state label next before _ taken =>
      stepped_lost key index state next (inboxStep_stepped branch state next label taken) before)
    inbox last labels path lost

structure DeliveredOnce (inbox : Inbox σ β) : Prop where
  once : inbox.applied.Nodup
  settled : ∀ key delivery, inbox.recorded key = some delivery → Unheld inbox key → SettledDelivery branch inbox key delivery
  retried : ∀ delivery request, inbox.recorded delivery.sourceEventId = none → inbox.requests request = .idle →
    (∀ index, (delivery.sourceEventId, index) ∉ inbox.applied) ∧
      inboxStep branch inbox (.receive request delivery) = .ok (inbox.turn request (.fresh delivery))

theorem tidy_deliveredOnce (inbox : Inbox σ β) (tidy : Tidy branch inbox) : DeliveredOnce branch inbox := by
  refine ⟨tidy.tracked.once, tidy.settled, ?_⟩
  intro delivery request unrecorded idle
  refine ⟨fun index member => tidy.tracked.known _ index member unrecorded, ?_⟩
  have absent : inbox.events.find? delivery.sourceEventId = none := Option.map_eq_none_iff.mp unrecorded
  rw [inboxStep, idle]
  dsimp only
  rw [Inbox.receive, absent]

-- Nothing is ever committed twice, and what a troubled delivery leaves open is
-- lost; without trouble every delivery takes effect.
theorem deliveries_once :
    (∀ inbox, Reachable (inboxMachine branch) inbox → inbox.applied.Nodup ∧
      ∀ key index, Lost key index inbox → ∀ labels last, Path (inboxMachine branch) inbox labels last →
        Lost key index last) ∧
    ∀ inbox, Reachable ((inboxMachine branch).restrict (Untroubled branch)) inbox → DeliveredOnce branch inbox := by
  refine ⟨fun inbox reachable => ⟨(reachable_tracked branch inbox reachable).once, ?_⟩, ?_⟩
  · exact fun key index lost labels last path => lost_forever branch key index inbox last labels path lost
  · exact fun inbox reachable => tidy_deliveredOnce branch inbox (untroubled_reachable_tidy branch inbox reachable)

end Losing

def commentHandlers : Handlers (List String) String String :=
  { isDraft := fun _ => false, isNumbered := fun _ => true, filterReason := fun _ _ => none
    auditFiltered := fun _ _ comments => .ok comments, prepareReviewOrRun := fun _ comments => .ok comments
    handleSynchronize := fun _ comments => .ok comments, updateState := fun _ comments => .ok comments
    complete := fun _ comments => .ok comments, requestCancel := fun _ comments => .ok comments
    handleReopened := fun _ comments => .ok comments
    handleComment := fun _ body comments => .ok (comments ++ [body])
    upsertInstallation := fun _ comments => .ok comments
    markInstallationInactive := fun _ _ comments => .ok comments, badRequest := id }

def commented : Delivery String :=
  { deliveryId := "72d3162e", address := 0, event := "issue_comment", action := some "created", hasInstallation := true
    body := "please rename this" }

def commentMachine : Machine (Inbox (List String) String) (InboxLabel String) InboxError :=
  inboxMachine (dispatchBranch commentHandlers)

def emptyInbox : Inbox (List String) String :=
  { domain := [], events := .empty, requests := fun _ => .idle, applied := [] }

theorem emptyInbox_quiet : Quiet emptyInbox := ⟨rfl, fun _ => rfl, rfl⟩

def handledRun : List (InboxLabel String) :=
  [.receive 0 commented, .record 0 .done, .finish 0, .mark 0 .done, .commit 0 .done]

theorem handled_reachable : Reachable (commentMachine.restrict (Untroubled (dispatchBranch commentHandlers)))
    (commentMachine.after emptyInbox handledRun) := by
  refine ⟨emptyInbox, handledRun, emptyInbox_quiet, commits_restrict _ _ _ _ ?_ ?_⟩
  · exact ⟨trivial, rfl, trivial, rfl, trivial, rfl, trivial, rfl, trivial, rfl, trivial⟩
  · refine ⟨trivial, by simp [Untroubled], ?_, rfl, ⟨by simp, ?_⟩, trivial⟩
    · intro delivery count phase
      cases phase
      rfl
    · intro delivery count phase
      cases phase
      rfl

theorem handled_deliveredOnce :
    DeliveredOnce (dispatchBranch commentHandlers) (commentMachine.after emptyInbox handledRun) :=
  (deliveries_once (dispatchBranch commentHandlers)).2 _ handled_reachable

def failedRun : List (InboxLabel String) :=
  [.receive 0 commented, .record 0 .done, .raise 0, .mark 0 .done, .receive 1 commented]

theorem failed_delivery_lost : commentMachine.Commits emptyInbox failedRun ∧
    (commentMachine.after emptyInbox failedRun).isProcessed "72d3162e" = true ∧
    (commentMachine.after emptyInbox failedRun).domain = [] ∧
    (commentMachine.after emptyInbox failedRun).applied = [] ∧
    (commentMachine.after emptyInbox failedRun).requests 1 = .idle :=
  ⟨⟨trivial, rfl, trivial, rfl, trivial, rfl, trivial, rfl, trivial, rfl, trivial⟩, rfl, rfl, rfl, rfl⟩

end Yaaos.Intake
