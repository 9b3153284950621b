import Yaaos.Intake.Schedules

set_option autoImplicit false

namespace Yaaos.Intake

open Yaaos.Base
open Yaaos.Pipelines
open Yaaos.Tasks

structure Booked (store : FiringStore) : Prop where
  coherent : Coherent store.db
  ticketed : ∀ source ∈ store.sources.rows, ∃ ticket, store.db.tickets.find? source.ticketId = some ticket ∧
    ticket.orgId = source.orgId
  driven : ∀ source ∈ store.sources.rows, ∃ run ∈ store.db.runs.rows, run.ticketId = source.ticketId
  apart : ∀ source ∈ store.sources.rows, ∀ other ∈ store.sources.rows, source.ticketId = other.ticketId → source = other

-- A firing of a known key leaves the store as it is. One of a new key adds that key, one ticket and one run.
structure FiresOnce (store : FiringStore) (fire : DueFire) (after : FiringStore) : Prop where
  known : (∃ source ∈ store.sources.rows, source.key = fire.key fire.fireTime) → after = store
  new : (∀ source ∈ store.sources.rows, source.key ≠ fire.key fire.fireTime) → ∃ ticketId id flattened state,
    after.sources.rows = store.sources.rows ++
      [{ orgId := fire.orgId, source := "schedule", sourceExternalId := minuteKey fire.binding.id fire.fireTime
         ticketId := ticketId }] ∧
    after.db.tickets.rows.map Ticket.id = store.db.tickets.rows.map Ticket.id ++ [ticketId] ∧
    after.db.runs.rows = store.db.runs.rows ++
      [{ newRun id fire.orgId ticketId (some fire.binding.pipelineId) flattened (scheduleKickoff fire.schedule) none
           fire.binding.createdBy with state := state }]

structure Opens (store created : FiringStore) (fire : DueFire) (ticketId : Uuid) : Prop where
  coherent : Coherent created.db
  carried : Carried store.db created.db
  runs : created.db.runs = store.db.runs
  absent : store.db.tickets.find? ticketId = none
  ticketed : ∃ ticket, created.db.tickets.find? ticketId = some ticket ∧ ticket.orgId = fire.orgId
  sources : created.sources.rows = store.sources.rows ++
    [{ orgId := fire.orgId, source := "schedule", sourceExternalId := minuteKey fire.binding.id fire.fireTime
       ticketId := ticketId }]
  tickets : created.db.tickets.rows.map Ticket.id = store.db.tickets.rows.map Ticket.id ++ [ticketId]
  unknown : ∀ source ∈ store.sources.rows, source.key ≠ fire.key fire.fireTime

section Opening

variable (store : FiringStore) (env : FireEnv) (fire : DueFire)

theorem createFromSchedule_known (pluginId : String) (existing : FiringStore) (ticketId : Uuid)
    (same : store.createFromSchedule env fire pluginId = (existing, ticketId, false)) :
    existing = store ∧ ∃ source, store.sources.find? (fire.key fire.fireTime) = some source := by
  unfold FiringStore.createFromSchedule at same
  cases found : store.sources.find? (fire.key fire.fireTime) with
  | none => simp [found] at same
  | some winner =>
      simp only [found, Prod.mk.injEq] at same
      exact ⟨same.1.symm, winner, rfl⟩

theorem createFromSchedule_opens (pluginId : String) (created : FiringStore) (ticketId : Uuid) (booked : Booked store)
    (same : store.createFromSchedule env fire pluginId = (created, ticketId, true)) :
    Opens store created fire ticketId := by
  unfold FiringStore.createFromSchedule at same
  cases found : store.sources.find? (fire.key fire.fireTime) with
  | some winner => simp [found] at same
  | none =>
      let ticket := scheduleTicket env (mintTicketId store.db) fire pluginId
      let source : TicketSource :=
        { orgId := fire.orgId, source := "schedule", sourceExternalId := minuteKey fire.binding.id fire.fireTime
          ticketId := ticket.id }
      obtain ⟨above, fresh⟩ := mintTicketId_above store.db
      have absent : store.db.tickets.find? ticket.id = none :=
        (Table.find?_isNone _ _).mpr fun row member => Nat.ne_of_lt (fresh row member)
      obtain ⟨ticketTable, ticketInserted⟩ := store.db.tickets.insert?_fresh ticket
        fun row member => Nat.ne_of_lt (fresh row member)
      obtain ⟨sourceTable, sourceInserted⟩ := store.sources.insert?_fresh source ((Table.find?_isNone _ _).mp found)
      have grows : store.db.nextId ≤ ticket.id + 1 := Nat.le_succ_of_le above
      have carried := carried_insert store.db ticket
      have coherent := coherent_tickets store.db _ (ticket.id + 1) booked.coherent grows carried
      simp only [found, Prod.mk.injEq] at same
      obtain ⟨isCreated, isTicket, _⟩ := same
      subst isCreated
      subst isTicket
      refine ⟨coherent, carried, rfl, absent, ⟨ticket, ?_, rfl⟩, ?_, ?_, (Table.find?_isNone _ _).mp found⟩
      · have picked := Table.find?_insert _ _ _ ticket.id ticketInserted
        rw [absent, if_pos rfl] at picked
        rw [show store.db.tickets.insert? (scheduleTicket env (mintTicketId store.db) fire pluginId) = some ticketTable
          from ticketInserted]
        exact picked
      · dsimp only [source, ticket] at sourceInserted ⊢
        rw [sourceInserted]
        exact (Table.insert?_some _ _ _ sourceInserted).1
      · dsimp only [ticket] at ticketInserted ⊢
        rw [ticketInserted, Option.getD_some, (Table.insert?_some _ _ _ ticketInserted).1, List.map_append]
        rfl

theorem booked_opened (created : FiringStore) (ticketId : Uuid) (db : Db) (booked : Booked store)
    (opens : Opens store created fire ticketId) (grown : Grown created.db db) (lineage : Lineage created.db db)
    (entered : ∃ run ∈ db.runs.rows, run.ticketId = ticketId) : Booked { created with db := db } := by
  have rows := opens.sources
  generalize isSource : ({
    orgId := fire.orgId, source := "schedule", sourceExternalId := minuteKey fire.binding.id fire.fireTime
    ticketId := ticketId } : TicketSource) = source at rows
  have ticket : source.ticketId = ticketId := by rw [← isSource]
  have orgId : source.orgId = fire.orgId := by rw [← isSource]
  have split (row : TicketSource) (member : row ∈ created.sources.rows) : row ∈ store.sources.rows ∨ row = source := by
    rw [rows] at member
    simpa using member
  refine ⟨grown.coherent, ?_, ?_, ?_⟩
  · intro row member
    rcases split row member with old | new
    · obtain ⟨held, found, org⟩ := booked.ticketed row old
      obtain ⟨next, nextFound, same⟩ := carried_trans _ _ _ opens.carried grown.carried row.ticketId held found
      exact ⟨next, nextFound, same.trans org⟩
    · obtain ⟨held, found, org⟩ := opens.ticketed
      obtain ⟨next, nextFound, same⟩ := grown.carried ticketId held found
      rw [new, ticket, orgId]
      exact ⟨next, nextFound, same.trans org⟩
  · intro row member
    rcases split row member with old | new
    · obtain ⟨run, runMember, own⟩ := booked.driven row old
      obtain ⟨next, nextMember, _, same⟩ := lineage run (by rw [opens.runs]; exact runMember)
      exact ⟨next, nextMember, same.trans own⟩
    · rw [new, ticket]
      exact entered
  · have unlike (row : TicketSource) (old : row ∈ store.sources.rows) : row.ticketId ≠ source.ticketId := by
      intro clash
      obtain ⟨held, found, _⟩ := booked.ticketed row old
      rw [clash, ticket, opens.absent] at found
      cases found
    intro left leftMember right rightMember same
    rcases split left leftMember with leftOld | leftNew
    · rcases split right rightMember with rightOld | rightNew
      · exact booked.apart left leftOld right rightOld same
      · rw [rightNew] at same
        exact absurd same (unlike left leftOld)
    · rcases split right rightMember with rightOld | rightNew
      · rw [leftNew] at same
        exact absurd same.symm (unlike right rightOld)
      · rw [leftNew, rightNew]

structure Fired (after : FiringStore) : Prop where
  booked : Booked after
  kept : ∀ source ∈ store.sources.rows, source ∈ after.sources.rows
  stored : ∃ source ∈ after.sources.rows, source.key = fire.key fire.fireTime
  only : ∀ source ∈ after.sources.rows, source ∈ store.sources.rows ∨ source.key = fire.key fire.fireTime
  once : FiresOnce store fire after

theorem fireOne_fired (booked : Booked store) : Ensures (fireOne env store fire) (Fired store fire) := by
  unfold fireOne
  cases env.resolvePluginId fire.orgId fire.binding.repoExternalId with
  | none => exact ensures_error _ _
  | some pluginId =>
      dsimp only
      rcases same : store.createFromSchedule env fire pluginId with ⟨created, ticketId, fresh⟩
      cases fresh with
      | false =>
          obtain ⟨unchanged, source, found⟩ := createFromSchedule_known store env fire pluginId created ticketId same
          obtain ⟨member, key⟩ := Table.find?_some _ _ _ found
          rw [unchanged]
          exact ensures_ok _ _ ⟨booked, fun _ kept => kept, ⟨source, member, key⟩, fun _ kept => .inl kept,
            ⟨fun _ => rfl, fun unknown => absurd key (unknown source member)⟩⟩
      | true =>
          have opens := createFromSchedule_opens store env fire pluginId created ticketId booked same
          dsimp only
          cases started : startRun env.engine created.db fire.orgId ticketId fire.binding.pipelineId
              (scheduleKickoff fire.schedule) fire.binding.createdBy with
          | error error => exact ensures_error _ _
          | ok db =>
              have grown := startRun_grown env.engine created.db fire.orgId ticketId fire.binding.pipelineId _ _
                opens.coherent opens.ticketed db started
              have moves : Moves (fun _ => False) created.db db :=
                startRun_moves env.engine created.db fire.orgId ticketId fire.binding.pipelineId _ _ opens.ticketed db started
              obtain ⟨flattened, state, runs, tickets⟩ := startRun_rows env.engine created.db db fire.orgId ticketId
                fire.binding.pipelineId _ _ opens.coherent started
              let source : TicketSource :=
                { orgId := fire.orgId, source := "schedule", sourceExternalId := minuteKey fire.binding.id fire.fireTime
                  ticketId := ticketId }
              have rows : created.sources.rows = store.sources.rows ++ [source] := opens.sources
              refine ensures_ok _ _ ⟨booked_opened store fire created ticketId db booked opens grown
                (moves_lineage created.db db opens.coherent moves) ?_, ?_, ⟨source, ?_, rfl⟩, ?_, ?_⟩
              · rw [runs]
                exact ⟨_, List.mem_append_right _ (List.mem_singleton_self _), rfl⟩
              · intro other kept
                change other ∈ created.sources.rows
                rw [rows]
                exact List.mem_append_left _ kept
              · change source ∈ created.sources.rows
                rw [rows]
                exact List.mem_append_right _ (List.mem_singleton_self _)
              · intro other held
                change other ∈ created.sources.rows at held
                rw [rows] at held
                rcases List.mem_append.mp held with kept | new
                · exact .inl kept
                · rw [List.mem_singleton.mp new]
                  exact .inr rfl
              · refine ⟨fun ⟨source, member, key⟩ => absurd key (opens.unknown source member), fun _ => ?_⟩
                exact ⟨ticketId, created.db.nextId, flattened, state, rows, tickets.trans opens.tickets,
                  by rw [← opens.runs]; exact runs⟩

end Opening

def DueFire.Genuine (fire : DueFire) : Prop := dueFire fire.fireTime fire.binding = some fire

structure Underway (clock : Clockwork) (claimed : Minute) (read left : List DueFire) : Prop where
  enqueued : (tickTask, claimed) ∈ clock.ticks.enqueued
  genuine : ∀ fire ∈ read, fire.Genuine
  among : ∀ fire ∈ left, fire ∈ read
  tried : ∀ fire ∈ read, fire ∈ left ∨ ∃ succeeded, ⟨claimed, fire, succeeded⟩ ∈ clock.attempts

structure Wound (clock : Clockwork) : Prop where
  claimed : clock.ticks.Claimed
  booked : Booked clock.store
  attempted : ∀ attempt ∈ clock.attempts, (tickTask, attempt.claimed) ∈ clock.ticks.enqueued ∧ attempt.fire.Genuine
  recorded : ∀ attempt ∈ clock.attempts, attempt.succeeded = true →
    ∃ source ∈ clock.store.sources.rows, source.key = attempt.fire.key attempt.fire.fireTime
  sourced : ∀ source ∈ clock.store.sources.rows, ∃ attempt ∈ clock.attempts, attempt.succeeded = true ∧
    source.key = attempt.fire.key attempt.fire.fireTime
  underway : ∀ worker claimed read left, clock.workers worker = .firing claimed read left →
    Underway clock claimed read left

section Winding

variable (clock : Clockwork)

theorem underway_grows (next : Clockwork) (claimed : Minute) (read left : List DueFire)
    (enqueued : ∀ entry ∈ clock.ticks.enqueued, entry ∈ next.ticks.enqueued)
    (attempts : ∀ attempt ∈ clock.attempts, attempt ∈ next.attempts) (underway : Underway clock claimed read left) :
    Underway next claimed read left :=
  ⟨enqueued _ underway.enqueued, underway.genuine, underway.among, fun fire member =>
    (underway.tried fire member).imp id fun ⟨succeeded, tried⟩ => ⟨succeeded, attempts _ tried⟩⟩

theorem workers_updated (worker other : Nat) (body : TickBody) (claimed : Minute) (read left : List DueFire)
    (at_ : Function.update clock.workers worker body other = .firing claimed read left) :
    (other = worker ∧ body = .firing claimed read left) ∨ clock.workers other = .firing claimed read left := by
  by_cases same : other = worker
  · subst same
    rw [Function.update_self] at at_
    exact .inl ⟨rfl, at_⟩
  · rw [Function.update_of_ne same] at at_
    exact .inr at_

theorem turned_wound (worker : Nat) (body : TickBody) (wound : Wound clock)
    (fits : ∀ claimed read left, body = .firing claimed read left → Underway clock claimed read left) :
    Wound { clock with workers := Function.update clock.workers worker body } where
  claimed := wound.claimed
  booked := wound.booked
  attempted := wound.attempted
  recorded := wound.recorded
  sourced := wound.sourced
  underway := by
    intro other claimed read left at_
    have held : Underway clock claimed read left := by
      rcases workers_updated clock worker other body claimed read left at_ with ⟨_, own⟩ | before
      · exact fits claimed read left own
      · exact wound.underway other claimed read left before
    exact underway_grows clock _ claimed read left (fun _ member => member) (fun _ member => member) held

theorem fireNext_wound (worker : Nat) (env : FireEnv) (claimed : Minute) (read : List DueFire) (fire : DueFire)
    (left : List DueFire) (firing : clock.workers worker = .firing claimed read (fire :: left)) (wound : Wound clock) :
    Wound (clock.fireNext worker env claimed read fire left) := by
  have underway := wound.underway worker claimed read (fire :: left) firing
  have genuine : fire.Genuine := underway.genuine fire (underway.among fire (List.mem_cons_self ..))
  have goes (next : Clockwork) (succeeded : Bool) (ticks : next.ticks = clock.ticks)
      (attempts : next.attempts = clock.attempts ++ [{ claimed := claimed, fire := fire, succeeded := succeeded }])
      (workers : next.workers = Function.update clock.workers worker (.firing claimed read left)) :
      ∀ other minute seen rest, next.workers other = .firing minute seen rest → Underway next minute seen rest := by
    intro other minute seen rest at_
    have enqueued : ∀ entry ∈ clock.ticks.enqueued, entry ∈ next.ticks.enqueued := fun entry member => by
      rw [ticks]
      exact member
    have more : ∀ attempt ∈ clock.attempts, attempt ∈ next.attempts := fun attempt member => by
      rw [attempts]
      exact List.mem_append_left _ member
    rw [workers] at at_
    rcases workers_updated clock worker other _ minute seen rest at_ with ⟨_, own⟩ | before
    · cases own
      refine ⟨enqueued _ underway.enqueued, underway.genuine, fun other member =>
        underway.among other (List.mem_cons_of_mem _ member), fun other member => ?_⟩
      rcases underway.tried other member with here | ⟨outcome, earlier⟩
      · rcases List.mem_cons.mp here with same | later
        · refine .inr ⟨succeeded, ?_⟩
          rw [same, attempts]
          exact List.mem_append_right _ (List.mem_singleton_self _)
        · exact .inl later
      · exact .inr ⟨outcome, more _ earlier⟩
    · exact underway_grows clock next minute seen rest enqueued more (wound.underway other minute seen rest before)
  have split (attempts : List Attempt) (succeeded : Bool) (attempt : Attempt)
      (same : attempts = clock.attempts ++ [{ claimed := claimed, fire := fire, succeeded := succeeded }])
      (member : attempt ∈ attempts) :
      attempt ∈ clock.attempts ∨ attempt = { claimed := claimed, fire := fire, succeeded := succeeded } := by
    rw [same] at member
    simpa using member
  unfold Clockwork.fireNext
  cases fired : fireOne env clock.store fire with
  | error error =>
      dsimp only
      refine ⟨wound.claimed, wound.booked, ?_, ?_, ?_, goes _ false rfl rfl rfl⟩
      · intro attempt member
        rcases split _ false attempt rfl member with earlier | new
        · exact wound.attempted attempt earlier
        · rw [new]
          exact ⟨underway.enqueued, genuine⟩
      · intro attempt member succeeded
        rcases split _ false attempt rfl member with earlier | new
        · exact wound.recorded attempt earlier succeeded
        · rw [new] at succeeded
          cases succeeded
      · intro source member
        obtain ⟨attempt, tried, outcome⟩ := wound.sourced source member
        exact ⟨attempt, List.mem_append_left _ tried, outcome⟩
  | ok store =>
      have after := fireOne_fired clock.store env fire wound.booked store fired
      dsimp only
      refine ⟨wound.claimed, after.booked, ?_, ?_, ?_, goes _ true rfl rfl rfl⟩
      · intro attempt member
        rcases split _ true attempt rfl member with earlier | new
        · exact wound.attempted attempt earlier
        · rw [new]
          exact ⟨underway.enqueued, genuine⟩
      · intro attempt member succeeded
        rcases split _ true attempt rfl member with earlier | new
        · obtain ⟨source, stored, key⟩ := wound.recorded attempt earlier succeeded
          exact ⟨source, after.kept source stored, key⟩
        · rw [new]
          exact after.stored
      · intro source member
        rcases after.only source member with earlier | own
        · obtain ⟨attempt, tried, outcome⟩ := wound.sourced source earlier
          exact ⟨attempt, List.mem_append_left _ tried, outcome⟩
        · exact ⟨_, List.mem_append_right _ (List.mem_singleton_self _), rfl, own⟩

theorem begun_underway (claimed : Minute) (now : DateTime) (enqueued : (tickTask, claimed) ∈ clock.ticks.enqueued) :
    Underway clock claimed (listDueScheduleBindings clock.bindings now) (listDueScheduleBindings clock.bindings now) := by
  refine ⟨enqueued, ?_, fun _ member => member, fun _ member => .inl member⟩
  intro fire member
  obtain ⟨binding, _, due⟩ := List.mem_filterMap.mp member
  obtain ⟨same, _, time, _⟩ := dueFire_some now.slot binding fire due
  rw [DueFire.Genuine, same, time]
  exact due

theorem engine_booked (store : FiringStore) (db : Db) (label : Label) (allowed : label.Allowed store.db)
    (taken : engineStep store.db label = .ok db) (booked : Booked store) : Booked { store with db := db } := by
  have stepped := engineStep_stepped store.db label booked.coherent allowed db taken
  have moves := engineStep_moves store.db label booked.coherent allowed db taken
  have carried := moves_carried store.db db moves
  have lineage := moves_lineage store.db db booked.coherent moves
  refine ⟨stepped.coherent, ?_, ?_, booked.apart⟩
  · intro source member
    obtain ⟨ticket, found, org⟩ := booked.ticketed source member
    obtain ⟨next, nextFound, same⟩ := carried source.ticketId ticket found
    exact ⟨next, nextFound, same.trans org⟩
  · intro source member
    obtain ⟨run, runMember, own⟩ := booked.driven source member
    obtain ⟨next, nextMember, _, same⟩ := lineage run runMember
    exact ⟨next, nextMember, same.trans own⟩

inductive ClockMove (clock : Clockwork) : ClockLabel → Clockwork → Prop where
  | tick (schedules : List ScheduleEntry) (now : DateTime) :
      ClockMove clock (.tick schedules now) { clock with ticks := clock.ticks.tickOnce schedules now }
  | begin (worker : Nat) (claimed : Minute) (now : DateTime) (enqueued : (tickTask, claimed) ∈ clock.ticks.enqueued)
      (idle : clock.workers worker = .idle) :
      ClockMove clock (.begin worker claimed now)
        { clock with
          workers := Function.update clock.workers worker
            (.firing claimed (listDueScheduleBindings clock.bindings now) (listDueScheduleBindings clock.bindings now)) }
  | fire (worker : Nat) (env : FireEnv) (claimed : Minute) (read : List DueFire) (fire : DueFire) (left : List DueFire)
      (firing : clock.workers worker = .firing claimed read (fire :: left)) :
      ClockMove clock (.fire worker env) (clock.fireNext worker env claimed read fire left)
  | leave (worker : Nat) :
      ClockMove clock (.leave worker) { clock with workers := Function.update clock.workers worker .idle }
  | bind (bindings : List TriggerBinding) : ClockMove clock (.bind bindings) { clock with bindings := bindings }
  | engine (label : Label) (db : Db) (stepped : engineStep clock.store.db label = .ok db) :
      ClockMove clock (.engine label) { clock with store := { clock.store with db := db } }

theorem clockStep_moves (clock next : Clockwork) (label : ClockLabel) (taken : clockStep clock label = .ok next) :
    ClockMove clock label next := by
  cases label with
  | tick schedules now =>
      cases taken
      exact .tick schedules now
  | begin worker claimed now =>
      by_cases enqueued : (tickTask, claimed) ∈ clock.ticks.enqueued
      · cases body : clock.workers worker with
        | idle =>
            simp only [clockStep, if_pos enqueued, body, Except.ok.injEq] at taken
            exact taken ▸ .begin worker claimed now enqueued body
        | firing minute read left => simp [clockStep, enqueued, body] at taken
      · simp [clockStep, enqueued] at taken
  | fire worker env =>
      cases body : clock.workers worker with
      | idle => simp [clockStep, body] at taken
      | firing claimed read left =>
          cases left with
          | nil => simp [clockStep, body] at taken
          | cons fire left =>
              simp only [clockStep, body, Except.ok.injEq] at taken
              exact taken ▸ .fire worker env claimed read fire left body
  | leave worker =>
      cases taken
      exact .leave worker
  | bind bindings =>
      cases taken
      exact .bind bindings
  | engine label =>
      cases stepped : engineStep clock.store.db label with
      | error error => simp [clockStep, stepped] at taken
      | ok db =>
          simp only [clockStep, stepped, Except.ok.injEq] at taken
          exact taken ▸ .engine label db stepped

theorem clockStep_wound (next : Clockwork) (label : ClockLabel) (allowed : clockMachine.allowed clock label)
    (taken : clockStep clock label = .ok next) (wound : Wound clock) : Wound next := by
  cases clockStep_moves clock next label taken with
  | tick schedules now =>
      have kept := tickOnce_keeps clock.ticks schedules now
      refine ⟨tickOnce_claimed clock.ticks schedules now wound.claimed, wound.booked, ?_, wound.recorded, wound.sourced,
        ?_⟩
      · exact fun attempt member => ⟨kept _ (wound.attempted attempt member).1, (wound.attempted attempt member).2⟩
      · exact fun worker claimed read left at_ => underway_grows clock _ claimed read left kept
          (fun _ member => member) (wound.underway worker claimed read left at_)
  | begin worker claimed now enqueued =>
      refine turned_wound clock worker _ wound fun minute read left same => ?_
      cases same
      exact begun_underway clock claimed now enqueued
  | fire worker env claimed read fire left firing =>
      exact fireNext_wound clock worker env claimed read fire left firing wound
  | leave worker => exact turned_wound clock worker .idle wound fun _ _ _ same => by cases same
  | bind bindings =>
      exact { wound with
        underway := fun worker claimed read left at_ => underway_grows clock _ claimed read left
          (fun _ member => member) (fun _ member => member) (wound.underway worker claimed read left at_) }
  | engine label db stepped =>
      exact { wound with
        booked := engine_booked clock.store db label allowed stepped wound.booked
        underway := fun worker claimed read left at_ => underway_grows clock _ claimed read left
          (fun _ member => member) (fun _ member => member) (wound.underway worker claimed read left at_) }

theorem unwound_wound (unwound : Unwound clock) : Wound clock := by
  have untried : ∀ attempt, attempt ∉ clock.attempts := fun attempt member => by
    rw [unwound.untried] at member
    cases member
  have sourceless : ∀ source, source ∉ clock.store.sources.rows := fun source member => by
    rw [unwound.sources] at member
    cases member
  refine ⟨⟨by rw [unwound.enqueued]; exact List.nodup_nil, ?_⟩, ⟨reachable_coherent _ unwound.engine, ?_, ?_, ?_⟩, ?_, ?_,
    ?_, ?_⟩
  · intro entry member
    rw [unwound.enqueued] at member
    cases member
  · exact fun source member => absurd member (sourceless source)
  · exact fun source member => absurd member (sourceless source)
  · exact fun source member => absurd member (sourceless source)
  · exact fun attempt member => absurd member (untried attempt)
  · exact fun attempt member => absurd member (untried attempt)
  · exact fun source member => absurd member (sourceless source)
  · intro worker claimed read left at_
    rw [unwound.resting worker] at at_
    cases at_

theorem reachable_wound (reachable : Reachable clockMachine clock) : Wound clock :=
  reachable_invariant clockMachine Wound
    ⟨unwound_wound, fun state label next wound allowed taken => clockStep_wound state next label allowed taken wound⟩
    clock reachable

end Winding

end Yaaos.Intake
