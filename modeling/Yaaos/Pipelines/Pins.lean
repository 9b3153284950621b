import Yaaos.Pipelines.Transactions

set_option autoImplicit false

namespace Yaaos.Pipelines

open Yaaos.Base

def Provides (orders : List Order) (runId workspaceId : Uuid) (repo : RepoRef) : Prop :=
  ∃ token, { runId := runId, workspaceId := workspaceId, body := .provisionWorkspace repo token } ∈ orders

structure Pinned (pins : Option String × Option String) (repo : RepoRef) : Prop where
  valid : repo.checkCheckoutMode = true
  detached : ∀ head, pins.1 = some head → repo.headSha = some head ∧ repo.branchName = none ∧ repo.baseSha = pins.2

structure Supplied (orders : List Order) (run : PipelineRun) : Prop where
  owned : ∀ workspaceId, run.workspaceId = some workspaceId → ∃ repo, Provides orders run.id workspaceId repo
  pinned : ∀ workspaceId repo, Provides orders run.id workspaceId repo → Pinned run.kickoff.pins repo

structure Ranged (db : Db) (run : PipelineRun) (pr : PRContext) : Prop where
  head : run.kickoff.prHeadSha = some pr.headSha
  base : pr.baseSha = run.kickoff.prBaseSha.getD ""
  reviewed : ∀ prev, pr.prevReviewedHeadSha = some prev → ∃ earlier ∈ db.runs.rows,
    earlier.ticketId = run.ticketId ∧ earlier.id < run.id ∧ earlier.state = .completed ∧
      earlier.kickoff.prHeadSha = some prev

structure Told (db : Db) (order : Order) (invocation : Invocation) : Prop where
  target : invocation.workspaceId = order.workspaceId
  provided : ∃ repo, Provides db.orders order.runId order.workspaceId repo
  stored : order.workspaceId ∈ db.workspaceIds
  ranged : ∀ pr, invocation.context.pr = some pr → ∃ run ∈ db.runs.rows, run.id = order.runId ∧ Ranged db run pr

structure Ledger (db : Db) : Prop where
  told : ∀ order ∈ db.orders, ∀ pluginId invocation, order.body = .invokeCodingAgent pluginId invocation →
    Told db order invocation
  known : ∀ order ∈ db.orders, order.runId < db.nextId ∧ order.workspaceId < db.nextId
  single : ∀ runId otherId workspaceId repo other, Provides db.orders runId workspaceId repo →
    Provides db.orders otherId workspaceId other → repo = other

structure Fed (db : Db) : Prop extends Ledger db where
  supplied : ∀ run ∈ db.runs.rows, Supplied db.orders run

structure Feeding (session : Session) : Prop extends Ledger session.db where
  own : Supplied session.db.orders session.run
  others : ∀ run ∈ session.db.runs.rows, run.id ≠ session.run.id → Supplied session.db.orders run
  bound : session.run.id < session.db.nextId
  owned : ∀ workspaceId, session.run.workspaceId = some workspaceId → workspaceId < session.db.nextId
  row : ∃ old ∈ session.db.runs.rows, old.id = session.run.id ∧ old.ticketId = session.run.ticketId ∧
    old.kickoff.pins = session.run.kickoff.pins
  precedes : ∀ row ∈ session.db.runs.rows, row.ticketId = session.run.ticketId → row.state = .completed →
    row.id < session.run.id

theorem prevReviewedHeadSha_some (db : Db) (ticketId runId : Uuid) (head : String)
    (reviewed : prevReviewedHeadSha db ticketId runId = some head) :
    ∃ row ∈ db.runs.rows, row.ticketId = ticketId ∧ row.state = .completed ∧ row.kickoff.prHeadSha = some head := by
  rw [prevReviewedHeadSha] at reviewed
  split at reviewed
  · cases reviewed
  · rename_i row newest
    have member := List.argmax_mem newest
    simp only [List.mem_filter, Bool.and_eq_true, beq_iff_eq] at member
    exact ⟨row, member.1, member.2.1.1.1, member.2.1.1.2, reviewed⟩

theorem lines_precedes (db : Db) (line : Line Uuid) (run row : PipelineRun) (lines : Lines db run.ticketId line)
    (member : run ∈ db.runs.rows) (flies : run.inFlight = true) (rowMember : row ∈ db.runs.rows)
    (own : row.ticketId = run.ticketId) (completed : row.state = .completed) : row.id < run.id := by
  have last := (lines.holder run member rfl flies).2
  obtain ⟨front, whole⟩ := List.getLast?_eq_some_iff.mp last
  have different : row.id ≠ run.id := by
    intro same
    have equal := Table.eq_of_key db.runs row run rowMember member same
    rw [PipelineRun.inFlight, ← equal, completed] at flies
    cases flies
  rcases lines.passed row rowMember own with served | queued | cancelled
  · have ordered := line.ordered
    rw [whole, List.pairwise_append] at ordered
    rw [whole] at served
    rcases List.mem_append.mp served with earlier | same
    · exact ordered.2.2 row.id earlier run.id (List.mem_singleton.mpr rfl)
    · exact absurd (List.mem_singleton.mp same) different
  · rw [completed] at queued
    cases queued
  · rw [completed] at cancelled
    cases cancelled

theorem reachable_lines (db : Db) (ticketId : Uuid) (reachable : Reachable runEngine db) :
    ∃ line, Lines db ticketId line := by
  obtain ⟨start, labels, fresh, path⟩ := reachable
  obtain ⟨line, lines, _⟩ :=
    path_lines ticketId start db labels .empty (fresh_coherent start fresh) (fresh_lines ticketId start fresh) path
  exact ⟨line, lines⟩

variable (before after : Session) (orders : List Order)

theorem provides_mono (orders later : List Order) (runId workspaceId : Uuid) (repo : RepoRef)
    (kept : ∀ order ∈ orders, order ∈ later) (provides : Provides orders runId workspaceId repo) :
    Provides later runId workspaceId repo := by
  obtain ⟨token, member⟩ := provides
  exact ⟨token, kept _ member⟩

theorem provides_append (order : Order) (runId workspaceId : Uuid) (repo : RepoRef)
    (provides : Provides (orders ++ [order]) runId workspaceId repo) :
    Provides orders runId workspaceId repo ∨
      order.runId = runId ∧ order.workspaceId = workspaceId ∧ ∃ token, order.body = .provisionWorkspace repo token := by
  obtain ⟨token, member⟩ := provides
  rcases List.mem_append.mp member with earlier | last
  · exact .inl ⟨token, earlier⟩
  · have same := List.mem_singleton.mp last
    rw [← same]
    exact .inr ⟨rfl, rfl, token, rfl⟩

theorem supplied_append (order : Order) (run : PipelineRun) (supplied : Supplied orders run)
    (pinned : ∀ repo token, order.runId = run.id → order.body = .provisionWorkspace repo token →
      Pinned run.kickoff.pins repo) : Supplied (orders ++ [order]) run where
  owned := by
    intro workspaceId own
    obtain ⟨repo, provides⟩ := supplied.owned workspaceId own
    exact ⟨repo, provides_mono _ _ _ _ _ (fun _ => List.mem_append_left _) provides⟩
  pinned := by
    intro workspaceId repo provides
    rcases provides_append orders order run.id workspaceId repo provides with earlier | ⟨owner, _, token, body⟩
    · exact supplied.pinned workspaceId repo earlier
    · exact pinned repo token owner body

theorem supplied_congr (run next : PipelineRun) (id : next.id = run.id)
    (pins : next.kickoff.pins = run.kickoff.pins) (workspaceId : next.workspaceId = run.workspaceId)
    (supplied : Supplied orders run) : Supplied orders next where
  owned := by
    rw [id, workspaceId]
    exact supplied.owned
  pinned := by
    rw [id, pins]
    exact supplied.pinned

theorem supplied_newborn (db : Db) (run : PipelineRun) (ledger : Ledger db) (fresh : db.nextId ≤ run.id)
    (bare : run.workspaceId = none) : Supplied db.orders run where
  owned := by
    intro workspaceId own
    rw [bare] at own
    cases own
  pinned := by
    rintro workspaceId repo ⟨token, member⟩
    exact absurd (ledger.known _ member).1 (Nat.not_lt.mpr fresh)

theorem told_later (before after : Db) (order : Order) (invocation : Invocation) (told : Told before order invocation)
    (orders : ∀ other ∈ before.orders, other ∈ after.orders)
    (workspaces : ∀ id ∈ before.workspaceIds, id ∈ after.workspaceIds)
    (rows : ∀ run ∈ before.runs.rows, ∃ next ∈ after.runs.rows, next.id = run.id ∧ next.ticketId = run.ticketId ∧
      next.kickoff.pins = run.kickoff.pins ∧ (run.state = .completed → next.state = .completed)) :
    Told after order invocation where
  target := told.target
  provided := by
    obtain ⟨repo, provides⟩ := told.provided
    exact ⟨repo, provides_mono _ _ _ _ _ orders provides⟩
  stored := workspaces _ told.stored
  ranged := by
    intro pr asked
    obtain ⟨run, member, owner, ranged⟩ := told.ranged pr asked
    obtain ⟨next, nextMember, id, ticketId, pins, _⟩ := rows run member
    simp only [Kickoff.pins, Prod.mk.injEq] at pins
    refine ⟨next, nextMember, id.trans owner, ⟨pins.1.trans ranged.head, by rw [pins.2, ranged.base], ?_⟩⟩
    intro prev isPrev
    obtain ⟨earlier, earlierMember, own, less, completed, head⟩ := ranged.reviewed prev isPrev
    obtain ⟨kept, keptMember, keptId, keptTicket, keptPins, still⟩ := rows earlier earlierMember
    simp only [Kickoff.pins, Prod.mk.injEq] at keptPins
    exact ⟨kept, keptMember, by rw [keptTicket, own, ticketId], by rw [keptId, id]; exact less, still completed,
      keptPins.1.trans head⟩

theorem ledger_append (feeding : Feeding before) (fixed : Fixed before after) (order : Order)
    (orders : after.db.orders = before.db.orders ++ [order])
    (known : order.runId < after.db.nextId ∧ order.workspaceId < after.db.nextId)
    (fresh : ∀ repo token, order.body = .provisionWorkspace repo token → before.db.nextId ≤ order.workspaceId)
    (told : ∀ pluginId invocation, order.body = .invokeCodingAgent pluginId invocation →
      Told before.db order invocation) : Ledger after.db where
  told := by
    intro other member pluginId invocation body
    have earlier : Told before.db other invocation := by
      rw [orders] at member
      rcases List.mem_append.mp member with kept | last
      · exact feeding.told other kept pluginId invocation body
      · rw [List.mem_singleton.mp last] at body ⊢
        exact told pluginId invocation body
    refine told_later before.db after.db other invocation earlier ?_ ?_ ?_
    · rw [orders]
      exact fun _ => List.mem_append_left _
    · rw [fixed.workspaces]
      exact fun _ => id
    · rw [fixed.runs]
      exact fun run kept => ⟨run, kept, rfl, rfl, rfl, id⟩
  known := by
    intro other member
    rw [orders] at member
    rcases List.mem_append.mp member with kept | last
    · have bounds := feeding.known other kept
      exact ⟨Nat.lt_of_lt_of_le bounds.1 fixed.nextId, Nat.lt_of_lt_of_le bounds.2 fixed.nextId⟩
    · rw [List.mem_singleton.mp last]
      exact known
  single := by
    intro runId otherId workspaceId repo other provides again
    rw [orders] at provides again
    have old (owner : Uuid) (some_ : RepoRef) (earlier : Provides before.db.orders owner workspaceId some_) :
        workspaceId < before.db.nextId := by
      obtain ⟨token, member⟩ := earlier
      exact (feeding.known _ member).2
    rcases provides_append _ _ _ _ _ provides with left | ⟨_, leftSame, leftToken, leftBody⟩
    · rcases provides_append _ _ _ _ _ again with right | ⟨_, rightSame, rightToken, rightBody⟩
      · exact feeding.single _ _ _ _ _ left right
      · have late := fresh other rightToken rightBody
        rw [rightSame] at late
        exact absurd (old _ _ left) (Nat.not_lt.mpr late)
    · rcases provides_append _ _ _ _ _ again with right | ⟨_, rightSame, rightToken, rightBody⟩
      · have late := fresh repo leftToken leftBody
        rw [leftSame] at late
        exact absurd (old _ _ right) (Nat.not_lt.mpr late)
      · rw [leftBody] at rightBody
        cases rightBody
        rfl

theorem feeding_append (feeding : Feeding before) (fixed : Fixed before after) (order : Order)
    (orders : after.db.orders = before.db.orders ++ [order]) (ledger : Ledger after.db)
    (owner : order.runId = before.run.id) (own : Supplied after.db.orders after.run)
    (owned : ∀ workspaceId, after.run.workspaceId = some workspaceId → workspaceId < after.db.nextId) :
    Feeding after :=
  { ledger with
    own := own
    others := by
      intro run member different
      rw [fixed.runs] at member
      rw [fixed.id] at different
      rw [orders]
      refine supplied_append _ _ _ (feeding.others run member different) fun _ _ same => ?_
      exact absurd (same.symm.trans owner) different
    bound := by
      rw [fixed.id]
      exact Nat.lt_of_lt_of_le feeding.bound fixed.nextId
    owned := owned
    row := by
      obtain ⟨old, member, id, ticketId, pins⟩ := feeding.row
      exact ⟨old, by rw [fixed.runs]; exact member, id.trans fixed.id.symm, ticketId.trans fixed.ticketId.symm,
        pins.trans fixed.pins.symm⟩
    precedes := by
      intro row member own completed
      rw [fixed.runs] at member
      rw [fixed.ticketId] at own
      rw [fixed.id]
      exact feeding.precedes row member own completed }

theorem feeding_same (feeding : Feeding before) (fixed : Fixed before after)
    (orders : after.db.orders = before.db.orders) (workspaceId : after.run.workspaceId = before.run.workspaceId) :
    Feeding after where
  told := by
    intro order member pluginId invocation body
    rw [orders] at member
    refine told_later before.db after.db order invocation (feeding.told order member pluginId invocation body) ?_ ?_ ?_
    · rw [orders]
      exact fun _ => id
    · rw [fixed.workspaces]
      exact fun _ => id
    · rw [fixed.runs]
      exact fun run kept => ⟨run, kept, rfl, rfl, rfl, id⟩
  known := by
    intro order member
    rw [orders] at member
    have bounds := feeding.known order member
    exact ⟨Nat.lt_of_lt_of_le bounds.1 fixed.nextId, Nat.lt_of_lt_of_le bounds.2 fixed.nextId⟩
  single := by
    rw [orders]
    exact feeding.single
  own := by
    rw [orders]
    exact supplied_congr _ _ _ fixed.id fixed.pins workspaceId feeding.own
  others := by
    rw [orders, fixed.runs, fixed.id]
    exact feeding.others
  bound := by
    rw [fixed.id]
    exact Nat.lt_of_lt_of_le feeding.bound fixed.nextId
  owned := by
    intro id own
    rw [workspaceId] at own
    exact Nat.lt_of_lt_of_le (feeding.owned id own) fixed.nextId
  row := by
    rw [fixed.runs, fixed.id, fixed.ticketId, fixed.pins]
    exact feeding.row
  precedes := by
    rw [fixed.runs, fixed.id, fixed.ticketId]
    exact feeding.precedes

theorem issues_feeding (issues : Issues before after) (feeding : Feeding before) :
    Feeding after := by
  cases issues with
  | nothing fixed orders workspaceId => exact feeding_same before after feeding fixed orders workspaceId
  | system fixed order orders workspaceId owner body known =>
      have unasked (repo : RepoRef) (token : String) : order.body ≠ .provisionWorkspace repo token := by
        intro same
        rw [same] at body
        cases body
      have owned (id : Uuid) (own : after.run.workspaceId = some id) : id < after.db.nextId := by
        rw [workspaceId] at own
        exact Nat.lt_of_lt_of_le (feeding.owned id own) fixed.nextId
      have bound : order.workspaceId < after.db.nextId := by
        rcases known with low | own
        · exact low
        · exact owned _ (workspaceId.trans own)
      have ledger := ledger_append before after feeding fixed order orders
        ⟨by rw [owner]; exact Nat.lt_of_lt_of_le feeding.bound fixed.nextId, bound⟩
        (fun repo token same => absurd same (unasked repo token))
        (fun pluginId invocation same => by rw [same] at body; cases body)
      refine feeding_append before after feeding fixed order orders ledger owner ?_ owned
      rw [orders]
      exact supplied_congr _ _ _ fixed.id fixed.pins workspaceId
        (supplied_append _ _ _ feeding.own fun repo token _ same => absurd same (unasked repo token))
  | provision fixed order orders workspaceId owner fresh known repo token body valid pinned =>
      have ledger := ledger_append before after feeding fixed order orders
        ⟨by rw [owner]; exact Nat.lt_of_lt_of_le feeding.bound fixed.nextId, known⟩ (fun _ _ _ => fresh)
        (fun pluginId invocation same => by rw [body] at same; cases same)
      refine feeding_append before after feeding fixed order orders ledger owner ?_ ?_
      · have grown : Supplied (before.db.orders ++ [order]) before.run := by
          refine supplied_append _ _ _ feeding.own fun other text _ same => ?_
          rw [body] at same
          cases same
          exact ⟨valid, pinned⟩
        refine ⟨fun id own => ?_, ?_⟩
        · rw [workspaceId, Option.some.injEq] at own
          refine ⟨repo, token, ?_⟩
          rw [orders, fixed.id, ← own, ← owner, ← body]
          exact List.mem_append_right _ (List.mem_singleton.mpr rfl)
        · rw [orders, fixed.id, fixed.pins]
          exact grown.pinned
      · intro id own
        rw [workspaceId, Option.some.injEq] at own
        rw [← own]
        exact known
  | invocation fixed order orders workspaceId owner own pluginId invocation body target stored names =>
      have owned (id : Uuid) (mine : after.run.workspaceId = some id) : id < after.db.nextId := by
        rw [workspaceId] at mine
        exact Nat.lt_of_lt_of_le (feeding.owned id mine) fixed.nextId
      have told : Told before.db order invocation := by
        refine ⟨target, ?_, ?_, fun pr asked => ?_⟩
        · rw [owner]
          exact feeding.own.owned _ own
        · obtain ⟨row, found⟩ := stored
          obtain ⟨member, id⟩ := Table.find?_some _ _ _ found
          exact List.mem_map.mpr ⟨row, member, id⟩
        · obtain ⟨old, member, id, ticketId, pins⟩ := feeding.row
          simp only [Kickoff.pins, Prod.mk.injEq] at pins
          have named := names pr asked
          refine ⟨old, member, id.trans owner.symm, ⟨pins.1.trans named.head, by rw [pins.2, named.base], ?_⟩⟩
          intro prev isPrev
          rw [named.prev] at isPrev
          obtain ⟨row, rowMember, same, completed, head⟩ := prevReviewedHeadSha_some _ _ _ _ isPrev
          exact ⟨row, rowMember, same.trans ticketId.symm, by rw [id]; exact feeding.precedes row rowMember same completed,
            completed, head⟩
      have ledger := ledger_append before after feeding fixed order orders
        ⟨by rw [owner]; exact Nat.lt_of_lt_of_le feeding.bound fixed.nextId, owned _ (workspaceId.trans own)⟩
        (fun repo token same => by rw [body] at same; cases same)
        (fun other invoked same => by
          rw [body] at same
          cases same
          exact told)
      refine feeding_append before after feeding fixed order orders ledger owner ?_ owned
      rw [orders]
      refine supplied_congr _ _ _ fixed.id fixed.pins workspaceId (supplied_append _ _ _ feeding.own ?_)
      intro repo token _ same
      rw [body] at same
      cases same

theorem issued_feeding (issued : Issued before after) (feeding : Feeding before) :
    Feeding after := by
  induction issued with
  | refl => exact feeding
  | tail _ issues ih => exact issues_feeding _ _ issues ih

theorem fed_renews (before after : Db) (fed : Fed before) (orders : after.orders = before.orders)
    (nextId : before.nextId ≤ after.nextId)
    (workspaces : ∀ id ∈ before.workspaceIds, id ∈ after.workspaceIds)
    (forth : ∀ run ∈ before.runs.rows, ∃ next ∈ after.runs.rows, Renews run next)
    (back : ∀ next ∈ after.runs.rows, (∃ run ∈ before.runs.rows, Renews run next) ∨
      before.nextId ≤ next.id ∧ next.workspaceId = none) : Fed after where
  told := by
    intro order member pluginId invocation body
    rw [orders] at member
    refine told_later before after order invocation (fed.told order member pluginId invocation body) ?_ workspaces ?_
    · rw [orders]
      exact fun _ => id
    · intro run kept
      obtain ⟨next, nextMember, renews⟩ := forth run kept
      exact ⟨next, nextMember, renews.id, renews.ticketId, renews.pins, renews.completed⟩
  known := by
    intro order member
    rw [orders] at member
    have bounds := fed.known order member
    exact ⟨Nat.lt_of_lt_of_le bounds.1 nextId, Nat.lt_of_lt_of_le bounds.2 nextId⟩
  single := by
    rw [orders]
    exact fed.single
  supplied := by
    intro next member
    rw [orders]
    rcases back next member with ⟨run, runMember, renews⟩ | ⟨fresh, bare⟩
    · exact supplied_congr _ _ _ renews.id renews.pins renews.workspaceId (fed.supplied run runMember)
    · exact supplied_newborn before next fed.toLedger fresh bare

theorem fed_same (before after : Db) (fed : Fed before) (orders : after.orders = before.orders)
    (nextId : before.nextId ≤ after.nextId)
    (workspaces : ∀ id ∈ before.workspaceIds, id ∈ after.workspaceIds)
    (runs : after.runs = before.runs) : Fed after := by
  refine fed_renews before after fed orders nextId workspaces ?_ ?_
  · rw [runs]
    exact fun run member => ⟨run, member, renews_refl run⟩
  · rw [runs]
    exact fun run member => .inl ⟨run, member, renews_refl run⟩

theorem fed_saved (db : Db) (run saved : PipelineRun) (fed : Fed db) (member : run ∈ db.runs.rows)
    (renews : Renews run saved) : Fed (db.saveRun saved) := by
  refine fed_renews db _ fed rfl (Nat.le_refl _) (fun _ => id) (fun row rowMember => ?_) fun next nextMember => ?_
  · by_cases same : row.id = saved.id
    · have equal := Table.eq_of_key db.runs row run rowMember member (same.trans renews.id)
      rw [equal]
      exact ⟨saved, saveRun_own db saved run member (equal ▸ same), renews⟩
    · exact ⟨row, saveRun_other db saved row rowMember same, renews_refl row⟩
  · rcases saveRun_rows db saved next nextMember with same | ⟨kept, _⟩
    · rw [same]
      exact .inl ⟨run, member, renews⟩
    · exact .inl ⟨next, kept, renews_refl next⟩

theorem feeding_saved (session : Session) (saved : PipelineRun) (feeding : Feeding session)
    (id : saved.id = session.run.id) (ticketId : saved.ticketId = session.run.ticketId)
    (pins : saved.kickoff.pins = session.run.kickoff.pins) (workspaceId : saved.workspaceId = session.run.workspaceId) :
    Fed (session.db.saveRun saved) where
  told := by
    intro order member pluginId invocation body
    refine told_later session.db _ order invocation (feeding.told order member pluginId invocation body) (fun _ => (·))
      (fun _ => (·)) fun row rowMember => ?_
    by_cases same : row.id = saved.id
    · obtain ⟨old, oldMember, oldId, oldTicket, oldPins⟩ := feeding.row
      have equal := Table.eq_of_key session.db.runs row old rowMember oldMember ((same.trans id).trans oldId.symm)
      refine ⟨saved, saveRun_own session.db saved row rowMember same, same.symm, ?_, ?_, fun completed => ?_⟩
      · rw [ticketId, equal, oldTicket]
      · rw [pins, equal, oldPins]
      · have less := feeding.precedes row rowMember (by rw [equal, oldTicket]) completed
        rw [same, id] at less
        exact absurd less (Nat.lt_irrefl _)
    · exact ⟨row, saveRun_other session.db saved row rowMember same, rfl, rfl, rfl, (·)⟩
  known := feeding.known
  single := feeding.single
  supplied := by
    intro next member
    rcases saveRun_rows session.db saved next member with same | ⟨kept, different⟩
    · rw [same]
      exact supplied_congr _ _ _ id pins workspaceId feeding.own
    · exact feeding.others next kept (id ▸ different)

theorem attemptPromotion_fed (db : Db) (run : PipelineRun) (fed : Fed db) (member : run ∈ db.runs.rows) :
    Fed (attemptPromotion db run) := by
  unfold attemptPromotion
  split
  · exact fed
  · split
    · exact fed
    · rename_i unqueued taken
      have queued : run.state = .queued := not_not.mp unqueued
      have promoted : Fed (db.saveRun { run with state := .running }) :=
        fed_saved db run _ fed member ⟨rfl, rfl, rfl, rfl, fun completed => by rw [queued] at completed; cases completed⟩
      exact fed_same _ _ promoted rfl (Nat.le_refl _) (fun _ => id) rfl

theorem promoteOldestQueued_fed (db : Db) (ticketId : Uuid) (fed : Fed db) : Fed (promoteOldestQueued db ticketId) := by
  unfold promoteOldestQueued
  cases found : oldestQueued db ticketId with
  | none => exact fed
  | some candidate => exact attemptPromotion_fed db candidate fed (firstWhere_some _ _ _ candidate found).1

theorem insertRun_fed (db : Db) (run : PipelineRun) (fed : Fed db) (fresh : db.nextId ≤ run.id)
    (bare : run.workspaceId = none) : Fed (insertRun db run) := by
  rw [insertRun]
  cases inserted : db.runs.insert? run with
  | none => exact fed
  | some table =>
      have rows := (Table.insert?_some _ _ _ inserted).1
      have entered : Fed { db with runs := table, nextId := db.nextId + 1 } := by
        refine fed_renews db _ fed rfl (Nat.le_succ _) (fun _ => id) (fun old member => ?_) fun next member => ?_
        · exact ⟨old, by rw [rows]; exact List.mem_append_left _ member, renews_refl old⟩
        · have split_ : next ∈ db.runs.rows ++ [run] := rows ▸ member
          rcases List.mem_append.mp split_ with earlier | own
          · exact .inl ⟨next, earlier, renews_refl next⟩
          · rw [List.mem_singleton.mp own]
            exact .inr ⟨fresh, bare⟩
      refine attemptPromotion_fed _ run entered ?_
      show run ∈ table.rows
      rw [rows]
      exact List.mem_append_right _ (List.mem_singleton.mpr rfl)

theorem hooks_fed (hooks : List String) (db : Db) (orgId ticketId : Uuid) (fed : Fed db) :
    Fed (hooks.foldl (fun db hook => db.enqueue (.runTerminalHook hook orgId ticketId)) db) := by
  induction hooks generalizing db with
  | nil => exact fed
  | cons hook rest ih => exact ih _ (fed_same db _ fed rfl (Nat.le_refl _) (fun _ => id) rfl)

theorem concludes_fed (env : Env) (start last : Session) (concludes : Concludes env start last)
    (feeding : Feeding start) : Fed last.commit := by
  cases concludes with
  | works issued => exact feeding_saved last last.run (issued_feeding start last issued feeding) rfl rfl rfl rfl
  | ends ended target reason issued same =>
      have worked := issued_feeding start ended issued feeding
      have stored : ∃ row ∈ ended.db.runs.rows, row.id = ended.run.id := by
        obtain ⟨old, member, id, _⟩ := worked.row
        exact ⟨old, member, id⟩
      let final : PipelineRun :=
        { ended.run with state := target.state, failureReason := reason, completedAt := some env.now }
      have saved : Fed (ended.db.saveRun final) := feeding_saved ended final worked rfl rfl rfl rfl
      rw [same, enterTerminal_commit env ended target reason stored, enterTerminal]
      apply promoteOldestQueued_fed
      apply hooks_fed
      exact fed_same (ended.db.saveRun final) _ saved rfl (Nat.le_refl _) (fun _ => id) rfl

section Stepping

variable (db : Db)

theorem opens_feeding (opened : Db) (run next : PipelineRun) (reachable : Reachable runEngine db) (fed : Fed db)
    (opens : Opens db opened run next) : Feeding ⟨opened, next⟩ := by
  have ids : opened.workspaceIds = db.workspaceIds := congrArg (fun table => table.rows.map Workspace.id) opens.workspaces
  have taken : Fed opened :=
    fed_same db opened fed opens.orders (Nat.le_of_eq opens.nextId.symm) (by rw [ids]; exact fun _ => id) opens.runs
  have sound := (reachable_coherent db reachable).sound run opens.member
  have renews := opens.renews
  exact
    { taken.toLedger with
      own := by
        rw [opens.orders]
        exact supplied_congr _ run next renews.id renews.pins renews.workspaceId (fed.supplied run opens.member)
      others := fun row rowMember _ => taken.supplied row rowMember
      bound := by
        show next.id < opened.nextId
        rw [renews.id, opens.nextId]
        exact sound.bound
      owned := by
        intro workspaceId own
        show workspaceId < opened.nextId
        rw [opens.nextId]
        exact sound.workspaceBound workspaceId (renews.workspaceId ▸ own)
      row := by
        refine ⟨run, ?_, renews.id.symm, renews.ticketId.symm, renews.pins.symm⟩
        show run ∈ opened.runs.rows
        rw [opens.runs]
        exact opens.member
      precedes := by
        obtain ⟨line, lines⟩ := reachable_lines db run.ticketId reachable
        intro row rowMember own completed
        have kept : row ∈ opened.runs.rows := rowMember
        rw [opens.runs] at kept
        show row.id < next.id
        rw [renews.id]
        exact lines_precedes db line run row lines opens.member opens.flies kept (own.trans renews.ticketId) completed }

theorem transacts_fed (after : Db) (label : Label) (reachable : Reachable runEngine db) (fed : Fed db)
    (transacts : Transacts db label after) : Fed after := by
  cases transacts with
  | rests _ _ orders nextId runs workspaceIds =>
      exact fed_same db after fed orders nextId (by rw [workspaceIds]; exact fun _ => id) runs
  | inserts _ run fresh bare => exact insertRun_fed db run fed (Nat.le_of_eq fresh.symm) bare
  | saves _ run saved member renews => exact fed_saved db run saved fed member renews
  | concludes _ env opened run next last _ opens concludes =>
      exact concludes_fed env _ last concludes (opens_feeding db opened run next reachable fed opens)
  | materialises event command _ member named provision succeeded orders nextId runs workspaceIds =>
      refine fed_same db after fed orders (Nat.le_of_eq nextId.symm) (fun id idMember => ?_) runs
      rcases workspaceIds with same | grown
      · rw [same]
        exact idMember
      · rw [grown]
        exact List.mem_append_left _ idMember

theorem fresh_fed (fresh : Fresh db) : Fed db := by
  have empty : db.orders = [] := by rw [Db.orders, fresh.agentCommands, List.map_nil]
  refine ⟨⟨fun order member => ?_, fun order member => ?_, ?_⟩, fun run member => ?_⟩
  · rw [empty] at member
    cases member
  · rw [empty] at member
    cases member
  · rintro runId otherId workspaceId repo other ⟨token, member⟩
    rw [empty] at member
    cases member
  · rw [fresh.runs] at member
    cases member

theorem reachable_fed (reachable : Reachable runEngine db) : Fed db := by
  have inductive_ : Inductive runEngine fun state => Reachable runEngine state ∧ Fed state := by
    refine ⟨fun start fresh => ⟨⟨start, [], fresh, .nil start⟩, fresh_fed start fresh⟩, ?_⟩
    intro state label next holds allowed taken
    refine ⟨reachable_step runEngine state next label holds.1 allowed taken, ?_⟩
    exact transacts_fed state next label holds.1 holds.2
      (engineStep_transacts state label (reachable_coherent state holds.1) next taken)
  exact (reachable_invariant runEngine _ inductive_ db reachable).2

end Stepping

end Yaaos.Pipelines
