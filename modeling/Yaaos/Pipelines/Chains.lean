import Yaaos.Pipelines.Lineage
import Yaaos.Pipelines.Pins

set_option autoImplicit false

namespace Yaaos.Pipelines

open Yaaos.Base

def CommandBody.AtRevision (head base : String) : CommandBody → Prop
  | .provisionWorkspace repo _ => repo.headSha = some head ∧ repo.branchName = none ∧ repo.baseSha = some base
  | .invokeCodingAgent _ invocation => ∃ pr, invocation.context.pr = some pr ∧ pr.headSha = head ∧ pr.baseSha = base
  | _ => True

def KeepsRevision (head base : String) (db : Db) (runs : List Uuid) : Prop :=
  ∀ order ∈ db.orders, order.runId ∈ runs → order.body.AtRevision head base

def Label.Continues (db : Db) (runs : List Uuid) : Label → Prop
  | .startRerun _ _ runId _ _ => runId ∈ runs
  | .startRerunFromStage _ orgId ticketId _ _ _ _ =>
      ∃ ticket current, getTicket db ticketId orgId = .ok ticket ∧ ticket.currentRunId = some current ∧ current ∈ runs
  | _ => False

def Label.isFromStage : Label → Bool
  | .startRerunFromStage _ _ _ _ _ _ _ => true
  | _ => false

inductive Chain (ticketId : Uuid) (head base : String) (meets : Label → Prop) : Db → List Uuid → Prop where
  | begins (db next : Db) (env : Env) (orgId pipelineId : Uuid) (kickoff : Kickoff) (triggeredByUserId : Option Uuid)
      (reachable : Reachable runEngine db)
      (allowed : (Label.startRun env orgId ticketId pipelineId kickoff triggeredByUserId).Allowed db)
      (bound : (db.boundPr ticketId).isSome = true) (pins : kickoff.pins = (some head, some base))
      (taken : engineStep db (.startRun env orgId ticketId pipelineId kickoff triggeredByUserId) = .ok next) :
      Chain ticketId head base meets next [db.nextId]
  | continues (db next : Db) (runs : List Uuid) (label : Label) (earlier : Chain ticketId head base meets db runs)
      (allowed : label.Allowed db) (continuing : label.Continues db runs) (meeting : meets label)
      (taken : engineStep db label = .ok next) : Chain ticketId head base meets next (db.nextId :: runs)
  | goesOn (db next : Db) (runs : List Uuid) (label : Label) (earlier : Chain ticketId head base meets db runs)
      (allowed : label.Allowed db) (other : ¬ label.Continues db runs) (taken : engineStep db label = .ok next) :
      Chain ticketId head base meets next runs

-- What a command says about revisions, by the pins of its run and the pull request
-- of its ticket.
structure Faithful (pins : Option String × Option String) (boundPr : Option Uuid) (body : CommandBody) : Prop where
  provisions : ∀ repo token, body = .provisionWorkspace repo token → Pinned pins repo
  names : ∀ pluginId invocation pr, body = .invokeCodingAgent pluginId invocation → invocation.context.pr = some pr →
    pins.1 = some pr.headSha ∧ pr.baseSha = pins.2.getD ""
  bare : ∀ pluginId invocation, body = .invokeCodingAgent pluginId invocation → invocation.context.pr = none →
    boundPr = none ∨ pins.1 = none

def Retains (before after : Db) : Prop :=
  ∀ run ∈ before.runs.rows, ∃ next ∈ after.runs.rows, next.id = run.id ∧ next.ticketId = run.ticketId ∧
    next.kickoff.pins = run.kickoff.pins

def Session.faithful (session : Session) (order : Order) : Prop :=
  order.runId = session.run.id ∧
    Faithful session.run.kickoff.pins (session.db.boundPr session.run.ticketId) order.body

theorem faithful_fixed (before after : Session) (fixed : Fixed before after) (order : Order)
    (faithful : after.faithful order) : before.faithful order := by
  obtain ⟨owner, body⟩ := faithful
  rw [fixed.pins, fixed.ticketId, fixed.boundPr] at body
  exact ⟨owner.trans fixed.id, body⟩

theorem faithful_system (pins : Option String × Option String) (boundPr : Option Uuid) (body : CommandBody)
    (system : body.isSystem = true) : Faithful pins boundPr body := by
  constructor
  · intro repo token same
    rw [same] at system
    cases system
  · intro pluginId invocation pr same
    rw [same] at system
    cases system
  · intro pluginId invocation same
    rw [same] at system
    cases system

theorem issues_faithful (before after : Session) (issues : Issues before after) :
    ∃ added, after.db.orders = before.db.orders ++ added ∧ ∀ order ∈ added, before.faithful order := by
  have one (order : Order) (faithful : before.faithful order) : ∀ other ∈ [order], before.faithful other := by
    intro other member
    rw [List.mem_singleton.mp member]
    exact faithful
  cases issues with
  | nothing fixed orders => exact ⟨[], by rw [orders, List.append_nil], fun _ => nofun⟩
  | system fixed order orders workspaceId owner body known =>
      exact ⟨[order], orders, one order ⟨owner, faithful_system _ _ order.body body⟩⟩
  | provision fixed order orders workspaceId owner fresh known repo token body valid pinned =>
      refine ⟨[order], orders, one order ⟨owner, ?_, ?_, ?_⟩⟩
      · intro other text same
        rw [body] at same
        cases same
        exact ⟨valid, pinned⟩
      · intro pluginId invocation pr same
        rw [body] at same
        cases same
      · intro pluginId invocation same
        rw [body] at same
        cases same
  | invocation fixed order orders workspaceId owner own pluginId invocation body target stored names bare =>
      refine ⟨[order], orders, one order ⟨owner, ?_, ?_, ?_⟩⟩
      · intro repo token same
        rw [body] at same
        cases same
      · intro other asked pr same isPr
        rw [body] at same
        cases same
        exact ⟨(names pr isPr).head, (names pr isPr).base⟩
      · intro other asked same isNone
        rw [body] at same
        cases same
        exact bare isNone

theorem issued_faithful (before after : Session) (issued : Issued before after) :
    ∃ added, after.db.orders = before.db.orders ++ added ∧ ∀ order ∈ added, before.faithful order := by
  induction issued with
  | refl => exact ⟨[], (List.append_nil _).symm, fun _ => nofun⟩
  | tail earlier issues ih =>
      obtain ⟨first, firstOrders, firstFaithful⟩ := ih
      obtain ⟨second, secondOrders, secondFaithful⟩ := issues_faithful _ _ issues
      refine ⟨first ++ second, by rw [secondOrders, firstOrders, List.append_assoc], ?_⟩
      intro order member
      rcases List.mem_append.mp member with early | late
      · exact firstFaithful order early
      · exact faithful_fixed before _ (issued_fixed before _ earlier) order (secondFaithful order late)

theorem transacts_faithful (db after : Db) (label : Label) (transacts : Transacts db label after) :
    ∃ added, after.orders = db.orders ++ added ∧ ∀ order ∈ added, ∃ run ∈ db.runs.rows, run.id = order.runId ∧
      Faithful run.kickoff.pins (db.boundPr run.ticketId) order.body := by
  have silent (orders : after.orders = db.orders) : ∃ added, after.orders = db.orders ++ added ∧ ∀ order ∈ added,
      ∃ run ∈ db.runs.rows, run.id = order.runId ∧ Faithful run.kickoff.pins (db.boundPr run.ticketId) order.body :=
    ⟨[], by rw [orders, List.append_nil], fun _ => nofun⟩
  cases transacts with
  | rests _ _ orders => exact silent orders
  | inserts _ run => exact silent (insertRun_rest db run).1
  | saves => exact silent rfl
  | materialises event command _ member named provision succeeded orders => exact silent orders
  | concludes _ env opened run next last subject opens concludes =>
      have issuing (middle : Session) (issued : Issued ⟨opened, next⟩ middle) (orders : last.db.orders = middle.db.orders) :
          ∃ added, last.commit.orders = db.orders ++ added ∧ ∀ order ∈ added, ∃ run ∈ db.runs.rows,
            run.id = order.runId ∧ Faithful run.kickoff.pins (db.boundPr run.ticketId) order.body := by
        obtain ⟨added, whole, faithful⟩ := issued_faithful _ _ issued
        refine ⟨added, ?_, fun order member => ⟨run, opens.member, ?_⟩⟩
        · change last.db.orders = _
          rw [orders, whole]
          exact congrArg (· ++ added) opens.orders
        · obtain ⟨owner, body⟩ := faithful order member
          refine ⟨opens.renews.id.symm.trans owner.symm, ?_⟩
          have same : opened.boundPr run.ticketId = db.boundPr run.ticketId := by rw [Db.boundPr, Db.boundPr, opens.tickets]
          have pins : next.kickoff.pins = run.kickoff.pins := opens.renews.pins
          have ticketId : next.ticketId = run.ticketId := opens.renews.ticketId
          simp only [pins, ticketId, same] at body
          exact body
      cases concludes with
      | works issued => exact issuing last issued rfl
      | ends ended target reason issued same =>
          exact issuing ended issued (by rw [same]; exact (enterTerminal_rest env ended target reason).1)

theorem retains_same (before after : Db) (runs : after.runs = before.runs) : Retains before after := by
  intro run member
  exact ⟨run, by rw [runs]; exact member, rfl, rfl, rfl⟩

theorem retains_trans (first middle last : Db) (left : Retains first middle) (right : Retains middle last) :
    Retains first last := by
  intro run member
  obtain ⟨next, nextMember, id, ticketId, pins⟩ := left run member
  obtain ⟨later, laterMember, laterId, laterTicket, laterPins⟩ := right next nextMember
  exact ⟨later, laterMember, laterId.trans id, laterTicket.trans ticketId, laterPins.trans pins⟩

theorem retains_saved (db : Db) (run saved : PipelineRun) (member : run ∈ db.runs.rows) (id : saved.id = run.id)
    (ticketId : saved.ticketId = run.ticketId) (pins : saved.kickoff.pins = run.kickoff.pins) :
    Retains db (db.saveRun saved) := by
  intro row rowMember
  by_cases same : row.id = saved.id
  · have equal := Table.eq_of_key db.runs row run rowMember member (same.trans id)
    exact ⟨saved, saveRun_own db saved row rowMember same, same.symm, by rw [equal]; exact ticketId, by rw [equal]; exact pins⟩
  · exact ⟨row, saveRun_other db saved row rowMember same, rfl, rfl, rfl⟩

theorem attemptPromotion_retains (db : Db) (run : PipelineRun) (member : run ∈ db.runs.rows) :
    Retains db (attemptPromotion db run) := by
  unfold attemptPromotion
  split
  · exact retains_same db db rfl
  · split
    · exact retains_same db db rfl
    · exact retains_saved db run { run with state := .running } member rfl rfl rfl

theorem promoteOldestQueued_retains (db : Db) (ticketId : Uuid) : Retains db (promoteOldestQueued db ticketId) := by
  unfold promoteOldestQueued
  cases found : oldestQueued db ticketId with
  | none => exact retains_same db db rfl
  | some candidate => exact attemptPromotion_retains db candidate (firstWhere_some _ _ _ candidate found).1

theorem insertRun_retains (db : Db) (run : PipelineRun) : Retains db (insertRun db run) := by
  rcases insertRun_inserted db run with same | ⟨queued, inserted, same⟩
  · rw [same]
    exact retains_same db db rfl
  · rw [same]
    refine retains_trans db queued _ ?_ (attemptPromotion_retains queued run (inserted_entered db queued run inserted))
    exact fun row member => ⟨row, inserted_kept db queued run row inserted member, rfl, rfl, rfl⟩

theorem concludes_retains (env : Env) (db opened : Db) (run next : PipelineRun) (last : Session)
    (opens : Opens db opened run next) (concludes : Concludes env ⟨opened, next⟩ last) : Retains db last.commit := by
  have placed (middle : Session) (issued : Issued ⟨opened, next⟩ middle) : run ∈ middle.db.runs.rows ∧
      middle.run.id = run.id ∧ middle.run.ticketId = run.ticketId ∧ middle.run.kickoff.pins = run.kickoff.pins := by
    have fixed := issued_fixed _ _ issued
    refine ⟨?_, fixed.id.trans opens.renews.id, fixed.ticketId.trans opens.renews.ticketId,
      fixed.pins.trans opens.renews.pins⟩
    rw [fixed.runs]
    change run ∈ opened.runs.rows
    rw [opens.runs]
    exact opens.member
  have saving (middle : Session) (saved : PipelineRun) (issued : Issued ⟨opened, next⟩ middle)
      (id : saved.id = middle.run.id) (ticketId : saved.ticketId = middle.run.ticketId)
      (pins : saved.kickoff.pins = middle.run.kickoff.pins) : Retains db (middle.db.saveRun saved) := by
    obtain ⟨member, ownId, ownTicket, ownPins⟩ := placed middle issued
    have runs : middle.db.runs = db.runs := (issued_fixed _ _ issued).runs.trans opens.runs
    exact retains_trans db middle.db _ (retains_same db middle.db runs)
      (retains_saved middle.db run saved member (id.trans ownId) (ticketId.trans ownTicket) (pins.trans ownPins))
  cases concludes with
  | works issued => exact saving last last.run issued rfl rfl rfl
  | ends ended target reason issued same =>
      obtain ⟨member, id, _⟩ := placed ended issued
      obtain ⟨settled, promotes, runs, _⟩ := enterTerminal_settled env ended target reason
      rw [same, enterTerminal_commit env ended target reason ⟨run, member, id.symm⟩, promotes]
      have saved := saving ended (enterTerminal env ended target reason).run issued rfl rfl rfl
      exact retains_trans db settled _ (retains_trans db _ settled saved (retains_same _ settled runs))
        (promoteOldestQueued_retains settled _)

theorem transacts_retains (db after : Db) (label : Label) (transacts : Transacts db label after) : Retains db after := by
  cases transacts with
  | rests _ _ orders nextId runs => exact retains_same db after runs
  | inserts _ run => exact insertRun_retains db run
  | saves _ run saved member renews =>
      exact retains_saved db run saved member renews.id renews.ticketId renews.pins
  | materialises event command _ member named provision succeeded orders nextId runs => exact retains_same db after runs
  | concludes _ env opened run next last subject opens concludes =>
      exact concludes_retains env db opened run next last opens concludes

theorem bound_anchors (before after : Db) (anchors : Anchors before after) : StaysBound before after := by
  intro ticketId bound
  cases found : before.tickets.find? ticketId with
  | none => simp [Db.boundPr, found] at bound
  | some ticket =>
      obtain ⟨member, named⟩ := Table.find?_some _ _ _ found
      obtain ⟨next, nextMember, anchored⟩ := Table.rewrites_forward _ _ _ anchors ticket member
      have nextFound := Table.find?_eq after.tickets next ticketId nextMember (anchored.id.trans named)
      rw [Db.boundPr, found, Option.bind_some] at bound
      rw [Db.boundPr, nextFound, Option.bind_some, anchored.prId]
      exact bound

theorem concludes_bound (env : Env) (db opened : Db) (run next : PipelineRun) (last : Session)
    (opens : Opens db opened run next) (concludes : Concludes env ⟨opened, next⟩ last) : StaysBound db last.commit := by
  have working (middle : Session) (issued : Issued ⟨opened, next⟩ middle) : StaysBound db middle.db := by
    intro ticketId bound
    rw [(issued_fixed _ _ issued).boundPr ticketId]
    change (opened.boundPr ticketId).isSome = true
    rw [Db.boundPr, opens.tickets]
    exact bound
  cases concludes with
  | works issued => exact working last issued
  | ends ended target reason issued same =>
      obtain ⟨settled, promotes, _, _, tickets⟩ := enterTerminal_settled env ended target reason
      have closed : Anchors ended.db settled := by
        rw [Anchors, tickets]
        exact anchors_transition _ _ _ _ _ _
      have committed : last.commit.tickets = (promoteOldestQueued settled ended.run.ticketId).tickets := by
        rw [same, ← promotes]
        rfl
      have anchors : Anchors ended.db last.commit := by
        rw [Anchors, committed]
        exact anchors_trans ended.db settled _ closed (promoteOldestQueued_anchors settled _)
      exact fun ticketId bound => bound_anchors ended.db last.commit anchors ticketId (working ended issued ticketId bound)

theorem transacts_bound (db after : Db) (label : Label) (transacts : Transacts db label after) : StaysBound db after := by
  cases transacts with
  | rests _ _ orders nextId runs workspaceIds bound => exact bound
  | inserts _ run => exact bound_anchors db _ (insertRun_anchors db run)
  | saves => exact fun _ => id
  | materialises event command _ member named provision succeeded orders nextId runs workspaceIds bound => exact bound
  | concludes _ env opened run next last subject opens concludes =>
      exact concludes_bound env db opened run next last opens concludes

structure Linked (ticketId : Uuid) (head base : String) (db : Db) (runs : List Uuid) : Prop where
  reachable : Reachable runEngine db
  bound : (db.boundPr ticketId).isSome = true
  pinned : ∀ runId ∈ runs, ∃ run ∈ db.runs.rows, run.id = runId ∧ run.ticketId = ticketId ∧
    run.kickoff.pins = (some head, some base)
  kept : KeepsRevision head base db runs

section Chaining

variable (ticketId : Uuid) (head base : String)

theorem faithful_revision (boundPr : Option Uuid) (bound : boundPr.isSome = true) (body : CommandBody)
    (faithful : Faithful (some head, some base) boundPr body) : body.AtRevision head base := by
  cases body with
  | provisionWorkspace repo token => exact (faithful.provisions repo token rfl).detached head rfl
  | cleanupWorkspace => trivial
  | refreshWorkspaceAuth newToken => trivial
  | invokeCodingAgent pluginId invocation =>
      cases named : invocation.context.pr with
      | none =>
          rcases faithful.bare pluginId invocation rfl named with unbound | unpinned
          · rw [unbound] at bound
            cases bound
          · cases unpinned
      | some pr =>
          obtain ⟨isHead, isBase⟩ := faithful.names pluginId invocation pr rfl named
          exact ⟨pr, named, (Option.some.inj isHead).symm, isBase⟩

theorem linked_step (db next : Db) (runs : List Uuid) (label : Label) (linked : Linked ticketId head base db runs)
    (allowed : label.Allowed db) (taken : engineStep db label = .ok next) : Linked ticketId head base next runs := by
  have transacts := engineStep_transacts db label (reachable_coherent db linked.reachable) next taken
  refine ⟨reachable_step runEngine db next label linked.reachable allowed taken,
    transacts_bound db next label transacts ticketId linked.bound, ?_, ?_⟩
  · intro runId listed
    obtain ⟨run, member, id, own, pins⟩ := linked.pinned runId listed
    obtain ⟨later, laterMember, laterId, laterTicket, laterPins⟩ := transacts_retains db next label transacts run member
    exact ⟨later, laterMember, laterId.trans id, laterTicket.trans own, laterPins.trans pins⟩
  · intro order member listed
    obtain ⟨added, whole, faithful⟩ := transacts_faithful db next label transacts
    rw [whole] at member
    rcases List.mem_append.mp member with earlier | new
    · exact linked.kept order earlier listed
    · obtain ⟨row, rowMember, owner, told⟩ := faithful order new
      obtain ⟨run, runMember, id, own, pins⟩ := linked.pinned order.runId listed
      have same := Table.eq_of_key db.runs row run rowMember runMember (owner.trans id.symm)
      rw [same, pins, own] at told
      exact faithful_revision head base (db.boundPr ticketId) linked.bound order.body told

theorem unborn_silent (db next : Db) (label : Label) (reachable : Reachable runEngine db)
    (taken : engineStep db label = .ok next) : KeepsRevision head base next [db.nextId] := by
  have coherent := reachable_coherent db reachable
  obtain ⟨added, whole, faithful⟩ :=
    transacts_faithful db next label (engineStep_transacts db label coherent next taken)
  intro order member listed
  have isNew : order.runId = db.nextId := List.mem_singleton.mp listed
  rw [whole] at member
  rcases List.mem_append.mp member with earlier | new
  · have known := ((reachable_fed db reachable).known order earlier).1
    rw [isNew] at known
    exact absurd known (Nat.lt_irrefl _)
  · obtain ⟨row, rowMember, owner, _⟩ := faithful order new
    have known := (coherent.sound row rowMember).bound
    rw [owner, isNew] at known
    exact absurd known (Nat.lt_irrefl _)

theorem startRun_begun (env : Env) (db next : Db) (orgId pipelineId : Uuid) (kickoff : Kickoff)
    (triggeredByUserId : Option Uuid) (coherent : Coherent db)
    (started : startRun env db orgId ticketId pipelineId kickoff triggeredByUserId = .ok next) :
    ∃ run ∈ next.runs.rows, run.id = db.nextId ∧ run.ticketId = ticketId ∧ run.kickoff.pins = kickoff.pins := by
  rw [startRun] at started
  cases found : env.pipelines orgId pipelineId with
  | none => simp [found] at started
  | some pipeline =>
      rw [found, Except.ok.injEq] at started
      have fresh : ∀ row ∈ db.runs.rows, row.id ≠ db.nextId := fun row member =>
        Nat.ne_of_lt (coherent.sound row member).bound
      obtain ⟨run, member, state, same⟩ := insertRun_entered db
        (newRun db.nextId orgId ticketId (some pipelineId) pipeline.flattened kickoff none triggeredByUserId) rfl fresh
      refine ⟨run, by rw [← started]; exact member, ?_⟩
      rw [same]
      exact ⟨rfl, rfl, rfl⟩

theorem startRerun_begun (env : Env) (db next : Db) (orgId runId : Uuid) (actor : Actor) (triggeredByUserId : Option Uuid)
    (coherent : Coherent db) (started : startRerun env db orgId runId actor triggeredByUserId = .ok next) :
    ∃ prior ∈ db.runs.rows, prior.id = runId ∧ ∃ run ∈ next.runs.rows, run.id = db.nextId ∧
      run.ticketId = prior.ticketId ∧ run.kickoff.pins = prior.kickoff.pins := by
  rw [startRerun] at started
  cases found : db.runs.find? runId with
  | none => simp [found] at started
  | some prior =>
      obtain ⟨member, id⟩ := Table.find?_some _ _ _ found
      refine ⟨prior, member, id, ?_⟩
      simp only [found] at started
      split at started
      · cases started
      · cases owned : getTicket db prior.ticketId orgId with
        | error _ =>
            rw [owned] at started
            cases started
        | ok ticket =>
            rw [owned] at started
            change (if _ then _ else _) = _ at started
            split at started
            · cases started
            · split at started
              · cases bound : prior.pipelineId with
                | none => simp [bound] at started
                | some pipelineId =>
                    simp only [bound] at started
                    exact startRun_begun prior.ticketId env db next orgId pipelineId
                      { prior.kickoff with actor := actor, intakePointId := "rerun", revision := none } triggeredByUserId coherent
                      started
              · cases started

theorem linked_cons (db next : Db) (runs : List Uuid) (label : Label) (reachable : Reachable runEngine db)
    (taken : engineStep db label = .ok next) (linked : Linked ticketId head base next runs)
    (begun : ∃ run ∈ next.runs.rows, run.id = db.nextId ∧ run.ticketId = ticketId ∧
      run.kickoff.pins = (some head, some base)) : Linked ticketId head base next (db.nextId :: runs) := by
  refine ⟨linked.reachable, linked.bound, ?_, ?_⟩
  · intro runId listed
    rcases List.mem_cons.mp listed with isNew | old
    · rw [isNew]
      exact begun
    · exact linked.pinned runId old
  · intro order member listed
    rcases List.mem_cons.mp listed with isNew | old
    · exact unborn_silent head base db next label reachable taken order member (List.mem_singleton.mpr isNew)
    · exact linked.kept order member old

theorem chain_linked (db : Db) (runs : List Uuid)
    (chain : Chain ticketId head base (fun label => label.isFromStage = false) db runs) :
    Linked ticketId head base db runs := by
  induction chain with
  | begins db next env orgId pipelineId kickoff triggeredByUserId reachable allowed bound pins taken =>
      let label : Label := .startRun env orgId ticketId pipelineId kickoff triggeredByUserId
      have coherent := reachable_coherent db reachable
      have empty : Linked ticketId head base db [] := ⟨reachable, bound, fun _ => nofun, fun _ _ => nofun⟩
      obtain ⟨run, member, id, own, same⟩ :=
        startRun_begun ticketId env db next orgId pipelineId kickoff triggeredByUserId coherent taken
      exact linked_cons ticketId head base db next [] label reachable taken
        (linked_step ticketId head base db next [] label empty allowed taken) ⟨run, member, id, own, same.trans pins⟩
  | continues db next runs label earlier allowed continuing meeting taken ih =>
      refine linked_cons ticketId head base db next runs label ih.reachable taken
        (linked_step ticketId head base db next runs label ih allowed taken) ?_
      cases label with
      | startRerun env orgId runId actor triggeredByUserId =>
          obtain ⟨prior, member, id, run, runMember, isNew, own, same⟩ := startRerun_begun env db next orgId runId actor
            triggeredByUserId (reachable_coherent db ih.reachable) taken
          obtain ⟨linked, linkedMember, linkedId, linkedOwn, linkedPins⟩ := ih.pinned runId continuing
          have equal := Table.eq_of_key db.runs prior linked member linkedMember (id.trans linkedId.symm)
          exact ⟨run, runMember, isNew, own.trans (by rw [equal]; exact linkedOwn), same.trans (by rw [equal]; exact linkedPins)⟩
      | startRerunFromStage => cases meeting
      | startRun | requestCancel | resolvePause | deliver | terminalEvent | workspaceStatus | createTicket | bindPullRequest
      | dismissFinding => exact continuing.elim
  | goesOn db next runs label earlier allowed other taken ih =>
      exact linked_step ticketId head base db next runs label ih allowed taken

theorem rerun_keeps_revision (db : Db) (runs : List Uuid)
    (chain : Chain ticketId head base (fun label => label.isFromStage = false) db runs) :
    KeepsRevision head base db runs := (chain_linked ticketId head base db runs chain).kept

end Chaining

def pullEnv : Env := { sampleEnv (sampleSkills none .alwaysProceed) with pullRequest := fun _ => some "17" }

def pullKickoff : Kickoff := { sampleKickoff with prBaseSha := some "c0", prHeadSha := some "c1" }

def pullTicket : Db := runEngine.committed (.createTicket { sampleTicket with prId := some 6 }) (.empty 10)

def pullStarts : Label := .startRun pullEnv 1 2 3 pullKickoff none

def pullTurn : Label := .deliver pullEnv 0

def pullFails : List Label :=
  [pullTurn, pullTurn, .terminalEvent (sampleEvent 13 "success" []), pullTurn, pullTurn,
    .terminalEvent (sampleEvent 15 "failure" []), pullTurn, pullTurn, .terminalEvent (sampleEvent 17 "success" []),
    pullTurn]

def pullStarted : Db := runEngine.committed pullStarts pullTicket

def pullFailed : Db := runEngine.after pullStarted pullFails

def pullAgain (label : Label) : Db := runEngine.after (runEngine.committed label pullFailed) [pullTurn, pullTurn]

def fromTop : Label := .startRerun pullEnv 1 10 sampleActor none

def fromStage : Label := .startRerunFromStage pullEnv 1 2 "code" "again" sampleActor none

def Label.isPassive : Label → Bool
  | .deliver _ _ | .terminalEvent _ => true
  | _ => false

theorem chain_passive (ticketId : Uuid) (head base : String) (meets : Label → Prop) (runs : List Uuid) (labels : List Label)
    (db : Db) (chain : Chain ticketId head base meets db runs) (passive : labels.all Label.isPassive = true)
    (commits : runEngine.Commits db labels) : Chain ticketId head base meets (runEngine.after db labels) runs := by
  induction labels generalizing db with
  | nil => exact chain
  | cons label rest ih =>
      obtain ⟨allowed, taken, later⟩ := commits
      rw [List.all_cons, Bool.and_eq_true] at passive
      have other : ¬ label.Continues db runs := by
        cases label with
        | deliver | terminalEvent => exact not_false
        | startRun | startRerun | startRerunFromStage | requestCancel | resolvePause | workspaceStatus | createTicket
        | bindPullRequest | dismissFinding => cases passive.1
      exact ih _ (.goesOn db _ runs label chain allowed other (step_committed runEngine label db taken)) passive.2 later

theorem pullTicket_reachable : Reachable runEngine pullTicket :=
  reachable_committed runEngine _ _ ⟨.empty 10, [], ⟨rfl, rfl, rfl, rfl, rfl, rfl⟩, .nil _⟩ trivial

theorem pullFailed_chain (meets : Label → Prop) : Chain 2 "c1" "c0" meets pullFailed [10] := by
  have starts : Chain 2 "c1" "c0" meets pullStarted [10] :=
    .begins pullTicket pullStarted pullEnv 1 3 pullKickoff none pullTicket_reachable ⟨_, rfl, rfl⟩ rfl rfl
      (step_committed runEngine pullStarts pullTicket rfl)
  exact chain_passive 2 "c1" "c0" meets [10] pullFails pullStarted starts rfl
    ⟨trivial, rfl, trivial, rfl, trivial, rfl, trivial, rfl, trivial, rfl, trivial, rfl, trivial, rfl, trivial, rfl,
      trivial, rfl, trivial, rfl, trivial⟩

theorem pullAgain_chain (label : Label) (meets : Label → Prop) (allowed : label.Allowed pullFailed)
    (continuing : label.Continues pullFailed [10]) (meeting : meets label)
    (taken : (engineStep pullFailed label).isOk = true)
    (commits : runEngine.Commits (runEngine.committed label pullFailed) [pullTurn, pullTurn]) :
    Chain 2 "c1" "c0" meets (pullAgain label) [18, 10] :=
  chain_passive 2 "c1" "c0" meets [18, 10] [pullTurn, pullTurn] _
    (.continues pullFailed _ [10] label (pullFailed_chain meets) allowed continuing meeting
      (step_committed runEngine label pullFailed taken)) rfl commits

-- From the top, the second run asks for the same checkout.
theorem rerun_from_top_pinned :
    (pullAgain fromTop).orders.any (fun order => order.runId == 18) = true ∧
      KeepsRevision "c1" "c0" (pullAgain fromTop) [18, 10] :=
  ⟨rfl, rerun_keeps_revision 2 "c1" "c0" (pullAgain fromTop) [18, 10]
    (pullAgain_chain fromTop _ trivial (List.mem_singleton.mpr rfl) rfl rfl ⟨trivial, rfl, trivial, rfl, trivial⟩)⟩

-- From its stage, the second run asks for the work branch of the ticket.
theorem rerun_from_stage_unpinned :
    ¬ ∀ ticketId head base db runs, Chain ticketId head base (fun _ => True) db runs → KeepsRevision head base db runs := by
  intro claimed
  have chain : Chain 2 "c1" "c0" (fun _ => True) (pullAgain fromStage) [18, 10] :=
    pullAgain_chain fromStage _ trivial ⟨_, 10, rfl, rfl, List.mem_singleton.mpr rfl⟩ trivial rfl
      ⟨trivial, rfl, trivial, rfl, trivial⟩
  have asked : ∃ order ∈ (pullAgain fromStage).orders, order.runId = 18 ∧
      ∃ repo token, order.body = .provisionWorkspace repo token ∧ repo.headSha = none :=
    ⟨_, List.mem_of_getLast? rfl, rfl, _, _, rfl, rfl⟩
  obtain ⟨order, member, owner, repo, token, body, bare⟩ := asked
  have kept := claimed 2 "c1" "c0" _ _ chain order member (by rw [owner]; exact List.mem_cons_self)
  rw [body] at kept
  have pinned : repo.headSha = some "c1" := kept.1
  rw [bare] at pinned
  cases pinned

end Yaaos.Pipelines
