import Yaaos.Pipelines.Move
import Yaaos.Pipelines.Progress

set_option autoImplicit false

namespace Yaaos.Pipelines

open Yaaos.Base

def RunPause.isOpen (pause : RunPause) : Bool := pause.resolvedAt == none

def RunPause.kills (pause : RunPause) : Bool := pause.resolution == some .kill

def StoppedAfter (run : PipelineRun) (stageExecutionId : Uuid) : Prop :=
  ∃ newer kind older, run.stageExecutions.map (fun row => (row.id, row.kind)) = newer ++ (stageExecutionId, kind) :: older ∧
    ∀ entry ∈ newer, entry.2 = StageKind.system

structure PauseBook (nextId : Uuid) (run : PipelineRun) : Prop where
  bound : ∀ pause ∈ run.pauses, pause.id < nextId
  distinct : (run.pauses.map RunPause.id).Nodup
  once : (run.pauses.filter RunPause.kills).length ≤ 1
  stopped : ∀ pause ∈ run.pauses, pause.kills = true → Closing run ∧ StoppedAfter run pause.stageExecutionId

def PausesKept (run next : PipelineRun) : Prop :=
  ∀ pause ∈ run.pauses, ∃ later ∈ next.pauses, later.id = pause.id ∧
    later.stageExecutionId = pause.stageExecutionId ∧ (pause.resolvedAt ≠ none → later = pause)

variable (nextId : Uuid) (pauses : List RunPause) (closed : RunPause)

theorem book_empty (run : PipelineRun) (pauses : run.pauses = []) : PauseBook nextId run := by
  refine ⟨?_, ?_, ?_, ?_⟩ <;> rw [pauses]
  · exact fun pause none_ => (by cases none_)
  · exact List.nodup_nil
  · exact Nat.zero_le _
  · exact fun pause none_ => (by cases none_)

theorem book_spared (run : PipelineRun) (bound : ∀ pause ∈ run.pauses, pause.id < nextId)
    (distinct : (run.pauses.map RunPause.id).Nodup) (spared : ∀ pause ∈ run.pauses, pause.kills = false) :
    PauseBook nextId run where
  bound := bound
  distinct := distinct
  once := by
    rw [List.filter_eq_nil_iff.mpr fun pause member kills => by rw [spared pause member] at kills; cases kills]
    exact Nat.zero_le _
  stopped := by
    intro pause member kills
    rw [spared pause member] at kills
    cases kills

theorem book_same (before after : Uuid) (run next : PipelineRun) (book : PauseBook before run) (low : before ≤ after)
    (pauses : next.pauses = run.pauses) (closes : Closing run → Closing next ∧ SameRows run next) :
    PauseBook after next where
  bound := by
    rw [pauses]
    exact fun pause member => Nat.lt_of_lt_of_le (book.bound pause member) low
  distinct := by
    rw [pauses]
    exact book.distinct
  once := by
    rw [pauses]
    exact book.once
  stopped := by
    rw [pauses]
    intro pause member kills
    obtain ⟨closing, newer, kind, older, rows, system⟩ := book.stopped pause member kills
    obtain ⟨still, same⟩ := closes closing
    exact ⟨still, newer, kind, older, same.trans rows, system⟩

theorem book_unkilled (run : PipelineRun) (book : PauseBook nextId run) (open_ : ¬ Closing run) :
    ∀ pause ∈ run.pauses, pause.kills = false :=
  fun pause member => Bool.eq_false_iff.mpr fun kills => open_ (book.stopped pause member kills).1

theorem paused_not_closing (run : PipelineRun) (paused : run.state = .paused) : ¬ Closing run := by
  intro closing
  cases closing with
  | cleaning row rest state => rw [paused] at state; cases state
  | ended state => rw [paused] at state; cases state

theorem turns_pauses (env : Env) (start last : Session) (turns : Turns env start last) :
    last.run.pauses = start.run.pauses ∨
      last.run.state = .paused ∧ ∃ pause, last.run.pauses = pause :: start.run.pauses ∧ start.db.nextId ≤ pause.id ∧
        pause.id < last.db.nextId ∧ pause.kills = false ∧ pause.resolvedAt = none := by
  cases turns with
  | works steady => exact .inl steady.pauses
  | ends ended target reason steady same =>
      rw [same]
      exact .inl steady.pauses
  | pauses paused row tripped owners kickoff steady same =>
      rw [same]
      refine .inr ⟨rfl, _, congrArg (_ :: ·) steady.pauses, steady.nextId, ?_, rfl, rfl⟩
      rw [(enterPause_keeps env paused row tripped owners kickoff).2]
      exact Nat.lt_succ_self _

theorem closed_pauses :
    (pauses.map fun other => if other.id = closed.id then closed else other).map RunPause.id =
      pauses.map RunPause.id := by
  rw [List.map_map]
  refine List.map_congr_left fun pause _ => ?_
  simp only [Function.comp]
  split
  · rename_i same
    exact same.symm
  · rfl

theorem closed_bound
    (bound : ∀ pause ∈ pauses, pause.id < nextId) :
    ∀ pause ∈ pauses.map (fun other => if other.id = closed.id then closed else other), pause.id < nextId := by
  intro pause listed
  have named := List.mem_map_of_mem (f := RunPause.id) listed
  rw [closed_pauses] at named
  obtain ⟨other, member, same⟩ := List.mem_map.mp named
  rw [← same]
  exact bound other member

theorem book_added (added : RunPause) (last : Session)
    (opens : last.run.pauses = added :: pauses) (low : nextId ≤ last.commit.nextId) (fresh : nextId ≤ added.id)
    (young : added.id < last.db.nextId) (bound : ∀ pause ∈ pauses, pause.id < nextId)
    (distinct : (pauses.map RunPause.id).Nodup) (spared : added.kills = false)
    (others : ∀ pause ∈ pauses, pause.kills = false) : PauseBook last.commit.nextId last.run := by
  refine book_spared _ _ ?_ ?_ ?_
  · intro pause listed
    rw [opens] at listed
    rcases List.mem_cons.mp listed with first | later
    · rw [first]
      exact young
    · exact Nat.lt_of_lt_of_le (bound pause later) low
  · rw [opens, List.map_cons, List.nodup_cons]
    refine ⟨fun taken => ?_, distinct⟩
    obtain ⟨other, otherMember, sameId⟩ := List.mem_map.mp taken
    exact absurd (sameId ▸ bound other otherMember) (Nat.not_lt.mpr fresh)
  · intro other listed
    rw [opens] at listed
    rcases List.mem_cons.mp listed with first | later
    · rw [first]
      exact spared
    · exact others other later

theorem closed_once (distinct : (pauses.map RunPause.id).Nodup)
    (spared : ∀ pause ∈ pauses, pause.kills = false) :
    ((pauses.map fun other => if other.id = closed.id then closed else other).filter RunPause.kills).length ≤ 1 := by
  induction pauses with
  | nil => exact Nat.zero_le _
  | cons pause rest ih =>
      rw [List.map_cons, List.nodup_cons] at distinct
      have first := spared pause List.mem_cons_self
      have later := fun other member => spared other (List.mem_cons_of_mem pause member)
      rw [List.map_cons]
      by_cases hit : pause.id = closed.id
      · have others : rest.map (fun other => if other.id = closed.id then closed else other) = rest := by
          refine (List.map_congr_left (g := id) fun other member => ?_).trans (List.map_id rest)
          rw [if_neg fun same => distinct.1 (List.mem_map.mpr ⟨other, member, same.trans hit.symm⟩), id]
        have none_ : rest.filter RunPause.kills = [] :=
          List.filter_eq_nil_iff.mpr fun other member kills => by rw [later other member] at kills; cases kills
        rw [others, if_pos hit, List.filter_cons, none_]
        split <;> simp
      · rw [if_neg hit, List.filter_cons_of_neg (by rw [first]; simp)]
        exact ih distinct.2 later

section Keeping

variable (db after : Db)

theorem came_book (coherent : Coherent db) (low : db.nextId ≤ after.nextId) (next : PipelineRun)
    (came : Came db after next) (books : ∀ run ∈ db.runs.rows, PauseBook db.nextId run) : PauseBook after.nextId next := by
  have unpaused (old : PipelineRun) (member : old ∈ db.runs.rows) (queued : old.state = .queued) : old.pauses = [] :=
    (stands_unbegun _ _ old (coherent.stands old member) queued).pauses
  cases came with
  | kept member => exact book_same db.nextId after.nextId next next (books next member) low rfl fun closing => ⟨closing, rfl⟩
  | created id rows pauses counts => exact book_empty after.nextId next pauses
  | promoted old member queued same =>
      rw [same]
      exact book_empty _ _ (unpaused old member queued)
  | withdrawn old member queued completedAt same =>
      rw [same]
      exact book_empty _ _ (unpaused old member queued)
  | flagged old member state same =>
      rw [same]
      refine book_same db.nextId after.nextId old _ (books old member) low rfl fun closing => ⟨?_, rfl⟩
      cases closing with
      | cleaning row rest running rows active kind named parked =>
          exact .cleaning row rest running rows active kind named parked
      | ended terminal => exact .ended terminal
  | worked env opened old last member state nextId turns closes same commits =>
      rw [same]
      have book := books old member
      rcases turns_pauses env _ last turns with kept | ⟨paused, pause, pauses, fresh, young, spared, _⟩
      · exact book_same db.nextId after.nextId old last.run book low kept fun closing =>
          ⟨(closes closing).closing, (closes closing).rows⟩
      · have unkilled := book_unkilled db.nextId old book fun closing => paused_not_closing last.run paused (closes closing).closing
        rw [commits] at low ⊢
        exact book_added db.nextId old.pauses pause last pauses low (by rw [← nextId]; exact fresh) young book.bound
          book.distinct spared unkilled
  | resumed env old pause closed revived last answering revives action turns same commits =>
      rw [same]
      have book := books old answering.member
      have unkilled := book_unkilled db.nextId old book (paused_not_closing old answering.state)
      have spared (other : RunPause) (listed : other ∈ revived.run.pauses) : other.kills = false := by
        rw [revives.pauses] at listed
        obtain ⟨first, firstMember, isOther⟩ := List.mem_map.mp listed
        rw [← isOther]
        split
        · simpa [RunPause.kills] using action
        · exact unkilled first firstMember
      have ids : revived.run.pauses.map RunPause.id = old.pauses.map RunPause.id := by
        rw [revives.pauses, closed_pauses]
      have bound := closed_bound db.nextId old.pauses closed book.bound
      rw [← revives.pauses] at bound
      rcases turns_pauses env _ last turns with kept | ⟨_, added, pauses, fresh, young, newSpared, _⟩
      · refine book_spared _ _ ?_ ?_ ?_
        · rw [kept]
          exact fun other listed => Nat.lt_of_lt_of_le (bound other listed) low
        · rw [kept, ids]
          exact book.distinct
        · rw [kept]
          exact spared
      · rw [commits] at low ⊢
        rw [revives.nextId] at fresh
        exact book_added db.nextId revived.run.pauses added last pauses low fresh young bound
          (by rw [ids]; exact book.distinct) newSpared spared
  | stopped env old pause closed revived last answering revives turns closing rows same _ =>
      rw [same]
      have book := books old answering.member
      have unkilled := book_unkilled db.nextId old book (paused_not_closing old answering.state)
      rcases turns_pauses env _ last turns with kept | ⟨paused, _⟩
      · have shape : last.run.pauses = old.pauses.map fun other => if other.id = closed.id then closed else other :=
          kept.trans revives.pauses
        refine ⟨?_, ?_, ?_, ?_⟩
        · rw [shape]
          exact fun other listed => Nat.lt_of_lt_of_le (closed_bound db.nextId old.pauses closed book.bound other listed) low
        · rw [shape, closed_pauses]
          exact book.distinct
        · rw [shape]
          exact closed_once old.pauses closed book.distinct unkilled
        · intro other listed kills
          refine ⟨closing, ?_⟩
          rw [shape] at listed
          obtain ⟨first, firstMember, isOther⟩ := List.mem_map.mp listed
          have isClosed : other = closed := by
            rw [← isOther] at kills ⊢
            split at kills
            · rename_i hit
              rw [if_pos hit]
            · rw [unkilled first firstMember] at kills
              cases kills
          have stands : Stands (db.messagesFor old.id) (workspaceOf db old) old := coherent.stands old answering.member
          cases stands with
          | queued state => rw [answering.state] at state; cases state
          | routing args state => rw [answering.state] at state; cases state
          | starting index stage state => rw [answering.state] at state; cases state
          | parked command row rest state => rw [answering.state] at state; cases state
          | ended state => rw [answering.state] at state; cases state
          | paused row rest head others state unparked quiet oldRows kind status pauses opened names shut =>
              have here := answering.paused
              rw [pauses] at here
              have isHead := open_pause head pause others here answering.opened shut
              have target : other.stageExecutionId = row.id := by
                rw [isClosed, answering.names, isHead, names]
              rcases rows with unchanged | ⟨cleanup, system, added⟩
              · refine ⟨[], row.kind, rest.map fun row => (row.id, row.kind), ?_, fun entry none_ => (by cases none_)⟩
                rw [unchanged, oldRows, target]
                rfl
              · refine ⟨[(cleanup.id, cleanup.kind)], row.kind, rest.map fun row => (row.id, row.kind), ?_, ?_⟩
                · rw [added, oldRows, target]
                  rfl
                · intro entry only
                  rw [List.mem_singleton.mp only]
                  exact system
      · exact absurd closing (paused_not_closing last.run paused)

theorem came_pauses (next old : PipelineRun) (came : Came db after next)
    (books : ∀ run ∈ db.runs.rows, PauseBook db.nextId run) (member : old ∈ db.runs.rows) (id : next.id = old.id)
    (bound : old.id < db.nextId) : PausesKept old next := by
  have same (pauses : next.pauses = old.pauses) : PausesKept old next :=
    fun pause listed => ⟨pause, by rw [pauses]; exact listed, rfl, rfl, fun _ => rfl⟩
  have own (other : PipelineRun) (otherMember : other ∈ db.runs.rows) (sameId : next.id = other.id) : other = old :=
    Table.eq_of_key db.runs other old otherMember member (sameId.symm.trans id)
  have answered (pause closed : RunPause) (revived last : Session) (env : Env) (answering : Answering db old pause closed)
      (revives : Revived db old closed revived) (turns : Turns env revived last) (isLast : next = last.run) :
      PausesKept old next := by
    intro other listed
    have kept (later : RunPause) (inRevived : later ∈ revived.run.pauses) : later ∈ next.pauses := by
      rw [isLast]
      rcases turns_pauses env _ last turns with pauses | ⟨_, added, pauses, _⟩
      · rw [pauses]
        exact inRevived
      · rw [pauses]
        exact List.mem_cons_of_mem added inRevived
    refine ⟨if other.id = closed.id then closed else other, kept _ ?_, ?_, ?_, ?_⟩
    · rw [revives.pauses]
      exact List.mem_map_of_mem listed
    · split
      · rename_i hit
        exact hit.symm
      · rfl
    · split
      · rename_i hit
        rw [answering.names]
        rw [List.inj_on_of_nodup_map (books old member).distinct answering.paused listed (answering.id.symm.trans hit.symm)]
      · rfl
    · intro shut
      rw [if_neg fun hit => shut ?_]
      rw [← List.inj_on_of_nodup_map (books old member).distinct answering.paused listed (answering.id.symm.trans hit.symm)]
      exact answering.opened
  cases came with
  | kept nextMember => exact same (by rw [own next nextMember rfl])
  | created isNew => exact absurd bound (by rw [← id, isNew]; exact Nat.lt_irrefl _)
  | promoted other otherMember queued isNext => exact same (by rw [isNext, own other otherMember (by rw [isNext])])
  | flagged other otherMember state isNext => exact same (by rw [isNext, own other otherMember (by rw [isNext])])
  | withdrawn other otherMember queued completedAt isNext =>
      exact same (by rw [isNext, own other otherMember (by rw [isNext])])
  | worked env opened other last otherMember state nextId turns closes isNext commits =>
      have sameId : last.run.id = other.id := turns_id env ⟨opened, other⟩ last turns
      rw [own other otherMember (by rw [isNext, sameId])] at turns
      intro pause listed
      refine ⟨pause, ?_, rfl, rfl, fun _ => rfl⟩
      rw [isNext]
      rcases turns_pauses env _ last turns with pauses | ⟨_, added, pauses, _⟩
      · rw [pauses]
        exact listed
      · rw [pauses]
        exact List.mem_cons_of_mem added listed
  | resumed env other pause closed revived last answering revives action turns isNext commits =>
      have sameId : last.run.id = other.id := (turns_id env revived last turns).trans revives.id
      have isOld : other = old := own other answering.member (by rw [isNext, sameId])
      subst isOld
      exact answered pause closed revived last env answering revives turns isNext
  | stopped env other pause closed revived last answering revives turns closing rows isNext commits =>
      have sameId : last.run.id = other.id := (turns_id env revived last turns).trans revives.id
      have isOld : other = old := own other answering.member (by rw [isNext, sameId])
      subst isOld
      exact answered pause closed revived last env answering revives turns isNext

end Keeping

def Apart (db : Db) : Prop :=
  ∀ run ∈ db.runs.rows, ∀ other ∈ db.runs.rows, ∀ pause ∈ run.pauses, ∀ otherPause ∈ other.pauses,
    pause.id = otherPause.id → run = other

def Books (db : Db) : Prop := ∀ run ∈ db.runs.rows, PauseBook db.nextId run

section Separating

variable (db after : Db)

theorem apart_step (last : PipelineRun) (apart : Apart db) (books : Books db)
    (rows : ∀ next ∈ after.runs.rows, next = last ∨ next.pauses = [] ∨
      ∃ old ∈ db.runs.rows, next.id = old.id ∧ next.pauses = old.pauses)
    (fresh : ∀ pause ∈ last.pauses, db.nextId ≤ pause.id ∨
      ∃ old ∈ db.runs.rows, last.id = old.id ∧ pause.id ∈ old.pauses.map RunPause.id) : Apart after := by
  have origin (next : PipelineRun) (member : next ∈ after.runs.rows) (pause : RunPause) (listed : pause ∈ next.pauses) :
      (next = last ∧ db.nextId ≤ pause.id) ∨
        ∃ old ∈ db.runs.rows, next.id = old.id ∧ ∃ oldPause ∈ old.pauses, oldPause.id = pause.id := by
    rcases rows next member with same | none_ | ⟨old, oldMember, id, pauses⟩
    · rw [same] at listed
      rcases fresh pause listed with minted | ⟨old, oldMember, id, known⟩
      · exact .inl ⟨same, minted⟩
      · exact .inr ⟨old, oldMember, by rw [same]; exact id, List.mem_map.mp known⟩
    · rw [none_] at listed
      cases listed
    · rw [pauses] at listed
      exact .inr ⟨old, oldMember, id, pause, listed, rfl⟩
  have below (old : PipelineRun) (oldMember : old ∈ db.runs.rows) (oldPause : RunPause) (listed : oldPause ∈ old.pauses)
      (id : Uuid) (same : oldPause.id = id) (minted : db.nextId ≤ id) : False :=
    absurd (same ▸ (books old oldMember).bound oldPause listed) (Nat.not_lt.mpr minted)
  intro next member other otherMember pause listed otherPause otherListed same
  rcases origin next member pause listed with ⟨isLast, minted⟩ | ⟨old, oldMember, id, oldPause, oldListed, oldSame⟩
  · rcases origin other otherMember otherPause otherListed with ⟨isLast', _⟩ | ⟨old, oldMember, _, oldPause, oldListed, oldSame⟩
    · rw [isLast, isLast']
    · exact (below old oldMember oldPause oldListed pause.id (oldSame.trans same.symm) minted).elim
  · rcases origin other otherMember otherPause otherListed with
      ⟨_, minted⟩ | ⟨old', oldMember', id', oldPause', oldListed', oldSame'⟩
    · exact (below old oldMember oldPause oldListed otherPause.id (oldSame.trans same) minted).elim
    · have one := apart old oldMember old' oldMember' oldPause oldListed oldPause' oldListed'
        (oldSame.trans (same.trans oldSame'.symm))
      exact Table.eq_of_key after.runs next other member otherMember (by rw [id, id', one])

theorem apart_turns (env : Env) (start last : Session) (run : PipelineRun) (apart : Apart db) (books : Books db)
    (member : run ∈ db.runs.rows) (id : start.run.id = run.id) (runs : start.db.runs = db.runs)
    (low : db.nextId ≤ start.db.nextId)
    (pauses : start.run.pauses.map RunPause.id = run.pauses.map RunPause.id) (turns : Turns env start last) :
    Apart last.commit := by
  refine apart_step db last.commit last.run apart books (fun next nextMember => ?_) fun pause listed => ?_
  · rcases turns_split env db start last run next member id runs turns nextMember with
      same | kept | ⟨old, oldMember, _, same⟩
    · exact .inl same
    · exact .inr (.inr ⟨next, kept, rfl, rfl⟩)
    · exact .inr (.inr ⟨old, oldMember, by rw [same], by rw [same]⟩)
  · have known (inStart : pause ∈ start.run.pauses) : ∃ old ∈ db.runs.rows, last.run.id = old.id ∧
        pause.id ∈ old.pauses.map RunPause.id :=
      ⟨run, member, (turns_id env start last turns).trans id, by rw [← pauses]; exact List.mem_map_of_mem inStart⟩
    rcases turns_pauses env start last turns with kept | ⟨_, added, shape, minted, _⟩
    · exact .inr (known (by rw [← kept]; exact listed))
    · rw [shape] at listed
      rcases List.mem_cons.mp listed with first | later
      · rw [first]
        exact .inl (Nat.le_trans low minted)
      · exact .inr (known later)

theorem apart_kept {created : Ticket → Prop} (moves : Moves created db after) (apart : Apart db) (books : Books db) :
    Apart after := by
  have unmoved (rows : ∀ next ∈ after.runs.rows, next.pauses = [] ∨
      ∃ old ∈ db.runs.rows, next.id = old.id ∧ next.pauses = old.pauses) : Apart after := by
    intro next member other otherMember pause listed otherPause otherListed same
    have none_ : ∀ pause ∈ ({ next with pauses := [] } : PipelineRun).pauses, db.nextId ≤ pause.id ∨
        ∃ old ∈ db.runs.rows, next.id = old.id ∧ pause.id ∈ old.pauses.map RunPause.id := fun _ none_ => (by cases none_)
    exact apart_step db after { next with pauses := [] } apart books (fun row rowMember => .inr (rows row rowMember)) none_
      next member other otherMember pause listed otherPause otherListed same
  have saved (run changed : PipelineRun) (member : run ∈ db.runs.rows) (id : changed.id = run.id)
      (pauses : changed.pauses = run.pauses) (isAfter : after = db.saveRun changed) : Apart after := by
    refine unmoved fun next nextMember => .inr ?_
    rw [isAfter] at nextMember
    rcases saveRun_rows db changed next nextMember with same | ⟨earlier, _⟩
    · exact ⟨run, member, by rw [same, id], by rw [same, pauses]⟩
    · exact ⟨next, earlier, rfl, rfl⟩
  cases moves with
  | rests _ runs => exact unmoved fun next member => .inr ⟨next, by rw [← runs]; exact member, rfl, rfl⟩
  | opens ticket creates => exact unmoved fun next member => .inr ⟨next, member, rfl, rfl⟩
  | starts orgId ticketId pipelineId flattened kickoff current triggeredByUserId ticketed =>
      refine unmoved fun next member => ?_
      let run := newRun db.nextId orgId ticketId pipelineId flattened kickoff current triggeredByUserId
      rcases insertRun_inserted db run with same | ⟨queued, inserted, same⟩
      · rw [same] at member
        exact .inr ⟨next, member, rfl, rfl⟩
      · rw [same] at member
        rcases attemptPromotion_split queued run next rfl member with earlier | promoted
        · rcases inserted_split db queued run next inserted earlier with kept | own
          · exact .inr ⟨next, kept, rfl, rfl⟩
          · exact .inl (by rw [own]; rfl)
        · exact .inl (by rw [promoted]; rfl)
  | flags run member state => exact saved run { run with cancelRequested := true } member rfl rfl rfl
  | withdraws env run member state =>
      exact saved run { run with state := .cancelled, completedAt := some env.now } member rfl rfl rfl
  | works env opened run last member state runs tickets nextId turns closes =>
      exact apart_turns db env ⟨opened, run⟩ last run apart books member rfl runs (Nat.le_of_eq nextId.symm) rfl turns
  | resumes env run pause closed revived last answering revives tickets action turns =>
      exact apart_turns db env revived last run apart books answering.member revives.id revives.runs
        (Nat.le_of_eq revives.nextId.symm) (by rw [revives.pauses, closed_pauses]) turns
  | stops env run pause closed revived last answering revives tickets turns closing stopped rows =>
      exact apart_turns db env revived last run apart books answering.member revives.id revives.runs
        (Nat.le_of_eq revives.nextId.symm) (by rw [revives.pauses, closed_pauses]) turns

end Separating

structure Bookkept (run : PipelineRun) : Prop where
  paused : run.state = .paused ↔ (run.pauses.filter RunPause.isOpen).length = 1
  settled : ∀ pause ∈ run.pauses, pause.isOpen = true → run.state = .paused ∧
    ∃ row ∈ run.stageExecutions, row.id = pause.stageExecutionId ∧ row.status = .completed ∧
      (row.kind = .skill ∨ row.kind = .review) ∧ row.stageIndex ≠ none
  distinct : (run.pauses.map RunPause.id).Nodup
  killedOnce : (run.pauses.filter RunPause.kills).length ≤ 1
  killed : ∀ pause ∈ run.pauses, pause.kills = true → Closing run ∧ StoppedAfter run pause.stageExecutionId

theorem closed_filter (closed : Closed pauses) : pauses.filter RunPause.isOpen = [] :=
  List.filter_eq_nil_iff.mpr fun pause member opened => closed pause member (by simpa [RunPause.isOpen] using opened)

theorem book_bookkept (db : Db) (run : PipelineRun) (coherent : Coherent db) (member : run ∈ db.runs.rows)
    (book : PauseBook db.nextId run) : Bookkept run := by
  have sound := coherent.sound run member
  have stands : Stands (db.messagesFor run.id) (workspaceOf db run) run := coherent.stands run member
  have resting (closed : Closed run.pauses) (state : run.state ≠ .paused) : Bookkept run := by
    refine ⟨⟨fun paused => absurd paused state, fun one => ?_⟩, fun pause listed opened => ?_, book.distinct, book.once,
      book.stopped⟩
    · rw [closed_filter run.pauses closed] at one
      cases one
    · exact absurd (by simpa [RunPause.isOpen] using opened) (closed pause listed)
  cases stands with
  | queued state rows pauses => exact resting (by rw [pauses]; exact fun _ none_ => (by cases none_)) (by rw [state]; decide)
  | routing args state idle => exact resting idle.closed (by rw [state]; decide)
  | starting index stage state idle => exact resting idle.closed (by rw [state]; decide)
  | parked command row rest state pending closed => exact resting closed (by rw [state]; decide)
  | ended state idle =>
      refine resting idle.closed fun paused => ?_
      rw [paused] at state
      cases state
  | paused row rest pause others state unparked quiet rows kind status pauses opened names closed =>
      have here : row ∈ run.stageExecutions := by
        rw [rows]
        exact List.mem_cons_self
      have isOpen : pause.isOpen = true := by
        rw [RunPause.isOpen, opened]
        rfl
      refine ⟨⟨fun _ => ?_, fun _ => state⟩, fun other listed otherOpen => ⟨state, row, here, ?_, status, kind, ?_⟩,
        book.distinct, book.once, book.stopped⟩
      · rw [pauses, List.filter_cons_of_pos isOpen, closed_filter others closed]
        rfl
      · rw [pauses] at listed
        rw [open_pause pause other others listed (by simpa [RunPause.isOpen] using otherOpen) closed, names]
      · obtain ⟨index, _, indexed, _⟩ := rowOf_indexed _ row (sound.rowsOf row here) (by
          rcases kind with skill | review
          · rw [skill]; decide
          · rw [review]; decide)
        rw [indexed]
        simp

theorem books_kept (db after : Db) (label : Label) (coherent : Coherent db) (books : Books db) (allowed : label.Allowed db)
    (taken : engineStep db label = .ok after) : Books after := by
  intro next member
  have low := (engineStep_stepped db label coherent allowed after taken).advances.nextId
  have moves := engineStep_moves db label coherent allowed after taken
  exact came_book db after coherent low next (moves_came db after moves next member) books

theorem reachable_books (db : Db) (reachable : Reachable runEngine db) : Coherent db ∧ Books db ∧ Apart db := by
  refine reachable_invariant runEngine (fun state => Coherent state ∧ Books state ∧ Apart state) ⟨?_, ?_⟩ db reachable
  · refine fun state fresh => ⟨fresh_coherent state fresh, fun run member => ?_, fun run member => ?_⟩
    · rw [fresh.runs] at member
      cases member
    · rw [fresh.runs] at member
      cases member
  · rintro state label next ⟨coherent, books, apart⟩ allowed taken
    exact ⟨engine_inductive.kept state label next coherent allowed taken,
      books_kept state next label coherent books allowed taken,
      apart_kept state next (engineStep_moves state label coherent allowed next taken) apart books⟩

theorem pausesKept_trans (first middle last : PipelineRun) (left : PausesKept first middle)
    (right : PausesKept middle last) : PausesKept first last := by
  intro pause listed
  obtain ⟨second, secondListed, id, names, kept⟩ := left pause listed
  obtain ⟨third, thirdListed, sameId, sameNames, again⟩ := right second secondListed
  refine ⟨third, thirdListed, sameId.trans id, sameNames.trans names, fun shut => ?_⟩
  have same := kept shut
  rw [again (by rw [same]; exact shut), same]

theorem path_pauses (db last : Db) (labels : List Label) (reachable : Reachable runEngine db)
    (path : Path runEngine db labels last) (run : PipelineRun) (member : run ∈ db.runs.rows) :
    ∃ next ∈ last.runs.rows, next.id = run.id ∧ PausesKept run next := by
  induction path generalizing run with
  | nil state => exact ⟨run, member, rfl, fun pause listed => ⟨pause, listed, rfl, rfl, fun _ => rfl⟩⟩
  | cons state middle last label labels allowed taken rest ih =>
      obtain ⟨coherent, books, _⟩ := reachable_books state reachable
      have moves := engineStep_moves state label coherent allowed middle taken
      obtain ⟨next, nextMember, id⟩ := moves_ids state middle moves run member
      have kept := came_pauses state middle next run (moves_came state middle moves next nextMember) books member id
        (coherent.sound run member).bound
      obtain ⟨later, laterMember, sameId, keptLater⟩ :=
        ih (reachable_step runEngine state middle label reachable allowed taken) next nextMember
      exact ⟨later, laterMember, sameId.trans id, pausesKept_trans run next later kept keptLater⟩

-- Every pause is closed once, whatever happens after it.
theorem pauses_bookkept (db : Db) (reachable : Reachable runEngine db) (run : PipelineRun) (member : run ∈ db.runs.rows) :
    Bookkept run ∧ ∀ labels last, Path runEngine db labels last →
      ∃ next ∈ last.runs.rows, next.id = run.id ∧ PausesKept run next := by
  obtain ⟨coherent, books, _⟩ := reachable_books db reachable
  exact ⟨book_bookkept db run coherent member (books run member), fun labels last path =>
    path_pauses db last labels reachable path run member⟩

def samplePaused : Db :=
  sampleReport (sampleSkills none .alwaysHitl) 15 "success" sampleOutputs (sampleWorking (sampleSkills none .alwaysHitl))

theorem samplePaused_reachable : Reachable runEngine samplePaused :=
  sampleReport_reachable _ _ _ _ _ (sampleWorking_reachable _)

-- A run works for its own org: its ticket, which is of the org by what the callers of
-- start_run promise, the artifacts of its stages, and a workspace of no other run.
theorem runs_isolated (db : Db) (reachable : Reachable runEngine db) (run : PipelineRun) (member : run ∈ db.runs.rows) :
    (∃ ticket, db.tickets.find? run.ticketId = some ticket ∧ ticket.orgId = run.orgId) ∧
      (∀ row ∈ run.stageExecutions, ∀ artifactId, recordedArtifact row = some artifactId →
        ∃ artifact ∈ db.artifacts, artifact.id = artifactId ∧ artifact.orgId = run.orgId) ∧
      ∀ other ∈ db.runs.rows, ∀ workspaceId, run.workspaceId = some workspaceId →
        other.workspaceId = some workspaceId → run = other := by
  have coherent := reachable_coherent db reachable
  have sound := coherent.sound run member
  refine ⟨sound.ticketed, sound.stored, fun other present workspaceId mine yours => ?_⟩
  exact Table.eq_of_key db.runs run other member present (coherent.apart run member other present workspaceId mine yours)

def sampleBoth : Db :=
  let flattened := sampleSkills none .alwaysHitl
  let started := runEngine.committed (.startRun (sampleEnv flattened) 1 4 3 sampleKickoff none)
    (runEngine.committed (.createTicket { sampleTicket with id := 4, branchName := "yaaos/ticket-4" }) samplePaused)
  let provisioning := sampleDeliver flattened (sampleDeliver flattened (sampleDeliver flattened started))
  sampleReport flattened 23 "success" sampleOutputs
    (sampleDeliver flattened (sampleReport flattened 21 "success" [] provisioning))

theorem sampleBoth_reachable : Reachable runEngine sampleBoth := by
  have ticketed := reachable_committed runEngine
    (.createTicket { sampleTicket with id := 4, branchName := "yaaos/ticket-4" }) samplePaused samplePaused_reachable trivial
  refine sampleReport_reachable _ _ _ _ _ (sampleDeliver_reachable _ _ (sampleReport_reachable _ _ _ _ _ ?_))
  refine sampleDeliver_reachable _ _ (sampleDeliver_reachable _ _ (sampleDeliver_reachable _ _ ?_))
  exact reachable_committed runEngine _ _ ticketed ⟨_, rfl, rfl⟩

theorem runs_isolated_both : ∃ first second, sampleBoth.runs.find? 10 = some first ∧ sampleBoth.runs.find? 18 = some second ∧
    (∃ artifact ∈ sampleBoth.artifacts, artifact.id = 16 ∧ artifact.orgId = 1) ∧
      (∃ artifact ∈ sampleBoth.artifacts, artifact.id = 24 ∧ artifact.orgId = 1) ∧ first.workspaceId ≠ second.workspaceId := by
  obtain ⟨member, _⟩ := Table.find?_some sampleBoth.runs 10 _ rfl
  obtain ⟨other, _⟩ := Table.find?_some sampleBoth.runs 18 _ rfl
  obtain ⟨_, stored, apart⟩ := runs_isolated sampleBoth sampleBoth_reachable _ member
  obtain ⟨_, otherStored, _⟩ := runs_isolated sampleBoth sampleBoth_reachable _ other
  refine ⟨_, _, rfl, rfl, stored _ List.mem_cons_self 16 rfl, otherStored _ List.mem_cons_self 24 rfl, fun same => ?_⟩
  have equal := apart _ other 12 rfl (same.symm.trans rfl)
  exact absurd (congrArg PipelineRun.id equal) (by decide +kernel)

def sampleKilled : Db :=
  runEngine.committed (.resolvePause (sampleEnv (sampleSkills none .alwaysHitl)) 1 17
    { action := .kill, instruction := none, sendBackToStage := none } sampleActor) samplePaused

theorem sampleKilled_bookkept :
    ∃ run, sampleKilled.runs.find? 10 = some run ∧ run.pauses.map RunPause.kills = [true] ∧ Bookkept run :=
  ⟨_, rfl, rfl, (pauses_bookkept sampleKilled (reachable_committed runEngine _ _ samplePaused_reachable trivial) _
    (Table.find?_some _ 10 _ rfl).1).1⟩

end Yaaos.Pipelines
