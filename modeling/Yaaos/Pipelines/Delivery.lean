import Yaaos.Pipelines.Coherent

set_option autoImplicit false

namespace Yaaos.Pipelines

open Yaaos.Base

def Db.taken (db : Db) (position : Nat) : Db := { db with outbox := db.outbox.eraseIdx position }

def Message.runId? : Message → Option Uuid
  | .routeRun args => some args.runId
  | .startStage runId _ => some runId
  | .handleAgentEvent args => some args.runId
  | .runTerminalHook _ _ _ => none

def Label.subject (db : Db) : Label → Option Uuid
  | .requestCancel _ _ runId => some runId
  | .resolvePause _ _ pauseId _ _ => (findPause db pauseId).map fun found => found.1.id
  | .deliver _ position => db.outbox[position]?.bind Message.runId?
  | _ => none

structure Stepped (subject : Option Uuid) (before after : Db) : Prop where
  coherent : Coherent after
  advances : Advances subject before after

section Taking

variable (db : Db) (position : Nat) (message : Message) (at_ : db.outbox[position]? = some message)

include at_ in
theorem taken_split : ∃ earlier later, db.outbox = earlier ++ message :: later ∧
    (db.taken position).outbox = earlier ++ later := by
  obtain ⟨inside, same⟩ := List.getElem?_eq_some_iff.mp at_
  refine ⟨db.outbox.take position, db.outbox.drop (position + 1), ?_, ?_⟩
  · have dropped := List.drop_eq_getElem_cons inside
    rw [same] at dropped
    rw [← dropped, List.take_append_drop]
  · rw [Db.taken, List.eraseIdx_eq_take_drop_succ]

theorem taken_member (queued : Message) (member : queued ∈ (db.taken position).outbox) : queued ∈ db.outbox :=
  List.mem_of_mem_eraseIdx member

include at_ in
theorem taken_other (runId : Uuid) (other : message.drives? ≠ some runId) :
    (db.taken position).messagesFor runId = db.messagesFor runId := by
  obtain ⟨earlier, later, whole, left⟩ := taken_split db position message at_
  rw [Db.messagesFor, Db.messagesFor, whole, left, List.filter_append, List.filter_append, List.filter_cons_of_neg]
  simpa using other

include at_ in
theorem taken_own (runId : Uuid) (driver : Message) (own : message.drives? = some runId)
    (single : db.messagesFor runId = [driver]) : message = driver ∧ (db.taken position).messagesFor runId = [] := by
  obtain ⟨earlier, later, whole, left⟩ := taken_split db position message at_
  rw [Db.messagesFor, whole, List.filter_append, List.filter_cons_of_pos (by simp [own])] at single
  rw [Db.messagesFor, left, List.filter_append]
  rcases List.append_eq_singleton_iff.mp single with ⟨first, second⟩ | ⟨_, second⟩
  · obtain ⟨same, rest⟩ := List.cons.inj second
    exact ⟨same, by rw [first, rest]; rfl⟩
  · cases second

theorem taken_sound (run : PipelineRun) (sound : Sound db run) : Sound (db.taken position) run :=
  ⟨sound.bound, sound.rowsBound, sound.distinct, sound.rowsOf, sound.stored, sound.workspaceBound, sound.workspaceRows,
    sound.ticketed⟩

theorem taken_shared (shared : Shared db) : Shared (db.taken position) where
  driven := fun queued member => shared.driven queued (taken_member db position queued member)
  events := fun args member => shared.events args (taken_member db position _ member)
  commands := shared.commands
  claims := shared.claims
  workspaceIds := shared.workspaceIds

include at_ in
theorem taken_opened (runId : Uuid) (coherent : Coherent db) (own : message.drives? = some runId) :
    Opened (db.taken position) runId :=
  { taken_shared db position coherent.toShared with
    sound := fun run member => taken_sound db position run (coherent.sound run member)
    stands := by
      intro run member different
      rw [StandsIn, taken_other db position message at_ run.id (by rw [own]; exact fun same => different (Option.some.inj same).symm)]
      exact coherent.stands run member
    apart := coherent.apart }

include at_ in
theorem taken_coherent (coherent : Coherent db) (undriven : message.drives? = none) : Coherent (db.taken position) :=
  { taken_shared db position coherent.toShared with
    sound := fun run member => taken_sound db position run (coherent.sound run member)
    stands := by
      intro run member
      rw [StandsIn, taken_other db position message at_ run.id (by rw [undriven]; simp)]
      exact coherent.stands run member
    apart := coherent.apart }

include at_ in
theorem taken_advances (subject : Option Uuid) (own : ∀ runId, message.drives? = some runId → subject = some runId) :
    Advances subject db (db.taken position) :=
  advances_same subject db _ (Nat.le_refl _) rfl fun runId different =>
    taken_other db position message at_ runId fun drives => different (own runId drives)

end Taking

section Transactions

theorem reaches_from (env : Env) (first second after : Session) (carries : Carries first second)
    (reaches : Reaches env second after) : Reaches env first after := by
  cases reaches with
  | settled later sound stands => exact .settled (carries_trans first second after carries later) sound stands
  | ended last target reason released closes =>
      exact .ended last target reason
        ⟨carries_trans first second last carries released.carries, released.sound, released.running, released.idle,
          released.silent⟩ closes

theorem transaction_stepped (env : Env) (db opened : Db) (run : PipelineRun) (body : Except EngineError Session)
    (others : Opened opened run.id) (member : run ∈ opened.runs.rows) (before : Advances (some run.id) db opened)
    (reaches : Ensures body (Reaches env ⟨opened, run⟩)) :
    Ensures (body.map Session.commit) (Stepped (some run.id) db) := by
  refine ensures_map _ _ _ (ensures_mono _ _ _ reaches fun after settled => ?_)
  have committed := commit_reaches env opened run after others member settled
  exact ⟨committed.coherent, advances_trans _ _ _ _ before committed.advances⟩

variable (db : Db) (position : Nat) (run : PipelineRun)

theorem routing_free (args : RouteRunArgs) (coherent : Coherent db)
    (at_ : db.outbox[position]? = some (.routeRun args)) (member : run ∈ db.runs.rows) (same : run.id = args.runId) :
    Free ⟨db.taken position, run⟩ ⟨db.taken position, run⟩ ∧
      Provisioned (workspaceOf (db.taken position) run) run ∧ Routes run args := by
  have own : (Message.routeRun args).drives? = some run.id := by rw [same]; rfl
  have waiting : Message.routeRun args ∈ db.messagesFor run.id :=
    List.mem_filter.mpr ⟨List.mem_of_getElem? at_, by simp [own]⟩
  have stands : Stands (db.messagesFor run.id) (workspaceOf db run) run := coherent.stands run member
  cases stands with
  | queued _ _ _ _ silent => rw [silent] at waiting; cases waiting
  | routing other state idle driven routes ready =>
      obtain ⟨isOther, silent⟩ := taken_own db position _ at_ run.id _ own driven
      cases isOther
      exact ⟨⟨⟨carries_refl _, taken_sound db position run (coherent.sound run member), state, idle, silent⟩,
        ready.phase, ready.unclaimed⟩, ready.provisioned, routes⟩
  | starting index stage state idle driven =>
      rw [driven] at waiting
      cases List.mem_singleton.mp waiting
  | parked command row rest state pending closed rows active quiet silent => rw [silent] at waiting; cases waiting
  | paused row rest pause others state unparked quiet rows kind status pauses opened names closed silent =>
      rw [silent] at waiting; cases waiting
  | ended state idle silent => rw [silent] at waiting; cases waiting

theorem starting_free (stageIndex : Option Nat) (coherent : Coherent db)
    (at_ : db.outbox[position]? = some (.startStage run.id stageIndex)) (member : run ∈ db.runs.rows) :
    ∃ index stage, stageIndex = some index ∧ Free ⟨db.taken position, run⟩ ⟨db.taken position, run⟩ ∧
      run.currentStageIndex = some index ∧ run.definitionSnapshot.stages[index]? = some stage ∧
        (stage.isAction = true → Provisioned (workspaceOf (db.taken position) run) run) := by
  have own : (Message.startStage run.id stageIndex).drives? = some run.id := rfl
  have waiting : Message.startStage run.id stageIndex ∈ db.messagesFor run.id :=
    List.mem_filter.mpr ⟨List.mem_of_getElem? at_, by simp [own]⟩
  have stands : Stands (db.messagesFor run.id) (workspaceOf db run) run := coherent.stands run member
  cases stands with
  | queued _ _ _ _ silent => rw [silent] at waiting; cases waiting
  | routing other state idle driven =>
      rw [driven] at waiting
      cases List.mem_singleton.mp waiting
  | starting index stage state idle driven current found phase unclaimed provisioned =>
      obtain ⟨isOther, silent⟩ := taken_own db position _ at_ run.id _ own driven
      cases isOther
      exact ⟨index, stage, rfl,
        ⟨⟨carries_refl _, taken_sound db position run (coherent.sound run member), state, idle, silent⟩, phase,
          unclaimed⟩, current, found, provisioned⟩
  | parked command row rest state pending closed rows active quiet silent => rw [silent] at waiting; cases waiting
  | paused row rest pause others state unparked quiet rows kind status pauses opened names closed silent =>
      rw [silent] at waiting; cases waiting
  | ended state idle silent => rw [silent] at waiting; cases waiting

theorem unknown_coherent (runId : Uuid) (opened : Opened db runId) (unknown : db.runs.find? runId = none) :
    Coherent db := by
  have absent := (Table.find?_isNone db.runs runId).mp unknown
  exact { opened.toShared with
    sound := opened.sound
    stands := fun run member => opened.stands run member (absent run member)
    apart := opened.apart }

theorem deliver_message (env : Env) (message : Message) (at_ : db.outbox[position]? = some message) :
    deliver env db position = handleMessage env (db.taken position) message := by
  rw [deliver, at_]
  rfl

theorem whileRunning_running (body : Session → Except EngineError Session) (member : run ∈ db.runs.rows)
    (running : run.state = .running) : whileRunning db run.id body = (body ⟨db, run⟩).map Session.commit := by
  rw [whileRunning, Table.find?_of_mem db.runs run member]
  simp [running]

theorem cleared_carries : Carries ⟨db, run⟩ ⟨db, { run with pendingAgentCommandId := none }⟩ :=
  ⟨rfl, rfl, rfl, rfl, .inl rfl, .inr (.inl rfl), dbCarries_refl _ _ _⟩

theorem deliver_stepped (env : Env) (coherent : Coherent db) :
    Ensures (deliver env db position) (Stepped (db.outbox[position]?.bind Message.runId?) db) := by
  rw [deliver]
  cases at_ : db.outbox[position]? with
  | none => exact ensures_error _ _
  | some message =>
      have unknown (runId : Uuid) (opened : Opened (db.taken position) runId)
          (none_ : db.runs.find? runId = none) (before : Advances (some runId) db (db.taken position)) :
          Stepped (some runId) db (db.taken position) :=
        ⟨unknown_coherent (db.taken position) runId opened none_, before⟩
      cases message with
      | routeRun args =>
          have opened := taken_opened db position _ at_ args.runId coherent rfl
          have before := taken_advances db position _ at_ (some args.runId) (fun _ same => same)
          simp only [handleMessage, whileRunning, Option.bind_some, Message.runId?]
          cases found : db.runs.find? args.runId with
          | none => exact ensures_ok _ _ (unknown args.runId opened found before)
          | some run =>
              obtain ⟨member, same⟩ := Table.find?_some _ _ _ found
              obtain ⟨free, provisioned, routes⟩ := routing_free db position run args coherent at_ member same
              rw [← same] at opened before ⊢
              simp only [if_neg (not_not.mpr free.running)]
              exact transaction_stepped env db (db.taken position) run _ opened member before
                (routeRunImpl_reaches env _ ⟨db.taken position, run⟩ args free provisioned routes)
      | startStage runId stageIndex =>
          have opened := taken_opened db position _ at_ runId coherent rfl
          have before := taken_advances db position _ at_ (some runId) (fun _ same => same)
          simp only [handleMessage, whileRunning, Option.bind_some, Message.runId?]
          cases found : db.runs.find? runId with
          | none => exact ensures_ok _ _ (unknown runId opened found before)
          | some run =>
              obtain ⟨member, same⟩ := Table.find?_some _ _ _ found
              rw [← same] at opened before at_ ⊢
              obtain ⟨index, stage, isIndex, free, current, staged, provisioned⟩ :=
                starting_free db position run stageIndex coherent at_ member
              rw [isIndex]
              simp only [if_neg (not_not.mpr free.running)]
              exact transaction_stepped env db (db.taken position) run _ opened member before
                (startStageImpl_reaches env _ ⟨db.taken position, run⟩ index stage free current staged provisioned)
      | handleAgentEvent args =>
          have still := taken_coherent db position _ at_ coherent rfl
          have before := taken_advances db position _ at_ (some args.runId) (fun _ same => by cases same)
          simp only [handleMessage, whileRunning, Option.bind_some, Message.runId?]
          cases found : db.runs.find? args.runId with
          | none => exact ensures_ok _ _ ⟨still, before⟩
          | some run =>
              obtain ⟨member, same⟩ := Table.find?_some _ _ _ found
              simp only
              split
              · exact ensures_ok _ _ ⟨still, before⟩
              · rw [← same] at before ⊢
                refine transaction_stepped env db (db.taken position) run _ (coherent_opened _ run.id still) member before ?_
                have sound := still.sound run member
                have stands := still.stands run member
                by_cases stale : run.pendingAgentCommandId ≠ some args.agentCommandId
                · rw [handleAgentEventImpl_stale env _ args stale]
                  exact ensures_ok _ _ (.settled (carries_refl _) sound stands)
                · have released := (coherent.events args (List.mem_of_getElem? at_)).2
                  refine ensures_mono _ _ _ (handleAgentEventImpl_awaited env ⟨db.taken position, run⟩ args sound stands
                    released (not_not.mp stale)) fun after reaches => ?_
                  exact reaches_from env _ _ after (cleared_carries (db.taken position) run) reaches
      | runTerminalHook hook orgId ticketId =>
          exact ensures_ok _ _ ⟨taken_coherent db position _ at_ coherent rfl,
            taken_advances db position _ at_ none (fun _ same => by cases same)⟩

end Transactions

end Yaaos.Pipelines
