import Yaaos.Base.Line
import Yaaos.Pipelines.Move

set_option autoImplicit false

namespace Yaaos.Pipelines

open Yaaos.Base

def promotedBy (before after : Db) (ticketId : Uuid) : List Uuid :=
  (after.runs.rows.filter fun run => run.ticketId == ticketId && run.inFlight &&
    !before.runs.rows.any fun old => old.id == run.id && old.inFlight).map PipelineRun.id

def promotions (ticketId : Uuid) : Db → List Label → List Uuid
  | _, [] => []
  | db, label :: rest =>
      promotedBy db (runEngine.committed label db) ticketId ++ promotions ticketId (runEngine.committed label db) rest

structure Lined (db : Db) (ticketId : Uuid) (line : Line Uuid) : Prop where
  waits : ∀ run ∈ db.runs.rows, run.ticketId = ticketId → (run.state = .queued ↔ run.id ∈ line.waiting)
  present : ∀ key ∈ line.waiting, ∃ run ∈ db.runs.rows, run.ticketId = ticketId ∧ run.id = key
  known : ∀ key ∈ line.served, key < db.nextId
  passed : ∀ run ∈ db.runs.rows, run.ticketId = ticketId → run.id ∈ line.served ∨ run.state = .queued ∨ run.state = .cancelled

structure Lines (db : Db) (ticketId : Uuid) (line : Line Uuid) : Prop extends Lined db ticketId line where
  holder : ∀ run ∈ db.runs.rows, run.ticketId = ticketId → run.inFlight = true →
    line.held = true ∧ line.served.getLast? = some run.id
  held : line.held = true → ∃ run ∈ db.runs.rows, run.ticketId = ticketId ∧ run.inFlight = true

structure Alike (run next : PipelineRun) : Prop where
  id : next.id = run.id
  ticketId : next.ticketId = run.ticketId
  state : next.state = run.state ∨ run.inFlight = true ∧ next.inFlight = true

variable (before after : Db)

theorem inFlight_iff (run : PipelineRun) : run.inFlight = true ↔ run.state = .running ∨ run.state = .paused := by
  simp [PipelineRun.inFlight]

theorem alike_refl (run : PipelineRun) : Alike run run := ⟨rfl, rfl, .inl rfl⟩

theorem alike_inFlight (run next : PipelineRun) (alike : Alike run next) : next.inFlight = run.inFlight := by
  rcases alike.state with same | ⟨left, right⟩
  · rw [PipelineRun.inFlight, same, PipelineRun.inFlight]
  · rw [left, right]

theorem alike_queued (run next : PipelineRun) (alike : Alike run next) : next.state = .queued ↔ run.state = .queued := by
  rcases alike.state with same | ⟨left, right⟩
  · rw [same]
  · rcases (inFlight_iff run).mp left with running | paused
    · rcases (inFlight_iff next).mp right with later | later <;> simp [running, later]
    · rcases (inFlight_iff next).mp right with later | later <;> simp [paused, later]

structure Placed (before after : Db) (ticketId : Uuid) : Prop where
  forth : ∀ run ∈ before.runs.rows, run.ticketId = ticketId → ∃ next ∈ after.runs.rows, Alike run next
  back : ∀ next ∈ after.runs.rows, next.ticketId = ticketId → ∃ run ∈ before.runs.rows, Alike run next
  nextId : before.nextId ≤ after.nextId

theorem placed_same (ticketId : Uuid) (runs : after.runs = before.runs)
    (nextId : before.nextId ≤ after.nextId) : Placed before after ticketId where
  forth := fun run member _ => ⟨run, by rw [runs]; exact member, alike_refl run⟩
  back := fun run member _ => ⟨run, by rw [← runs]; exact member, alike_refl run⟩
  nextId := nextId

theorem placed_saved (ticketId : Uuid) (run saved : PipelineRun) (member : run ∈ before.runs.rows)
    (id : saved.id = run.id) (ticket : saved.ticketId = run.ticketId)
    (alike : run.ticketId = ticketId → Alike run saved) (runs : after.runs = (before.saveRun saved).runs)
    (nextId : before.nextId ≤ after.nextId) : Placed before after ticketId where
  forth := by
    intro row rowMember own
    rw [runs]
    by_cases same : row.id = run.id
    · rw [Table.eq_of_key before.runs row run rowMember member same] at own ⊢
      exact ⟨saved, saveRun_own before saved run member id.symm, alike own⟩
    · exact ⟨row, saveRun_other before saved row rowMember (by rw [id]; exact same), alike_refl row⟩
  back := by
    intro row rowMember own
    rw [runs] at rowMember
    rcases saveRun_rows before saved row rowMember with same | ⟨earlier, _⟩
    · rw [same] at own ⊢
      exact ⟨run, member, alike (ticket ▸ own)⟩
    · exact ⟨row, earlier, alike_refl row⟩
  nextId := nextId

theorem placed_lined (ticketId : Uuid) (line : Line Uuid) (placed : Placed before after ticketId)
    (lined : Lined before ticketId line) : Lined after ticketId line where
  waits := by
    intro next member own
    obtain ⟨run, runMember, alike⟩ := placed.back next member own
    rw [alike_queued run next alike, alike.id]
    exact lined.waits run runMember (alike.ticketId ▸ own)
  present := by
    intro key waiting
    obtain ⟨run, member, own, same⟩ := lined.present key waiting
    obtain ⟨next, nextMember, alike⟩ := placed.forth run member own
    exact ⟨next, nextMember, alike.ticketId.trans own, alike.id.trans same⟩
  known := fun key called => Nat.lt_of_lt_of_le (lined.known key called) placed.nextId
  passed := by
    intro next member own
    obtain ⟨run, runMember, alike⟩ := placed.back next member own
    rcases lined.passed run runMember (alike.ticketId ▸ own) with called | queued | cancelled
    · exact .inl (by rw [alike.id]; exact called)
    · exact .inr (.inl ((alike_queued run next alike).mpr queued))
    · refine .inr (.inr ?_)
      rcases alike.state with same | ⟨left, _⟩
      · exact same.trans cancelled
      · rcases (inFlight_iff run).mp left with running | paused
        · rw [cancelled] at running; cases running
        · rw [cancelled] at paused; cases paused

theorem placed_lines (ticketId : Uuid) (line : Line Uuid) (placed : Placed before after ticketId)
    (lines : Lines before ticketId line) : Lines after ticketId line :=
  { placed_lined before after ticketId line placed lines.toLined with
    holder := by
      intro next member own flies
      obtain ⟨run, runMember, alike⟩ := placed.back next member own
      rw [alike_inFlight run next alike] at flies
      rw [alike.id]
      exact lines.holder run runMember (alike.ticketId ▸ own) flies
    held := by
      intro held
      obtain ⟨run, member, own, flies⟩ := lines.held held
      obtain ⟨next, nextMember, alike⟩ := placed.forth run member own
      exact ⟨next, nextMember, alike.ticketId.trans own, (alike_inFlight run next alike).trans flies⟩ }

theorem promotedBy_none (ticketId : Uuid)
    (kept : ∀ next ∈ after.runs.rows, next.ticketId = ticketId → next.inFlight = true →
      ∃ run ∈ before.runs.rows, run.id = next.id ∧ run.inFlight = true) : promotedBy before after ticketId = [] := by
  rw [promotedBy, List.map_eq_nil_iff, List.filter_eq_nil_iff]
  intro next member chosen
  simp only [Bool.and_eq_true, beq_iff_eq, Bool.not_eq_true', List.any_eq_false] at chosen
  obtain ⟨run, runMember, same, flies⟩ := kept next member chosen.1.1 chosen.1.2
  exact chosen.2 run runMember ⟨same, flies⟩

theorem placed_promotedBy (ticketId : Uuid) (placed : Placed before after ticketId) :
    promotedBy before after ticketId = [] := by
  refine promotedBy_none before after ticketId fun next member own flies => ?_
  obtain ⟨run, runMember, alike⟩ := placed.back next member own
  exact ⟨run, runMember, alike.id.symm, (alike_inFlight run next alike).symm.trans flies⟩

theorem promotedBy_one (run : PipelineRun) (member : run ∈ after.runs.rows)
    (flies : run.inFlight = true) (grounded : ∀ old ∈ before.runs.rows, old.id = run.id → old.inFlight = false)
    (alone : ∀ other ∈ after.runs.rows, other.ticketId = run.ticketId → other.inFlight = true → other = run) :
    promotedBy before after run.ticketId = [run.id] := by
  have chosen : (after.runs.rows.filter fun next => next.ticketId == run.ticketId && next.inFlight &&
      !before.runs.rows.any fun old => old.id == next.id && old.inFlight) = [run] := by
    refine List.perm_singleton.mp ((List.perm_ext_iff_of_nodup ?_ (List.nodup_singleton run)).mpr fun other => ?_)
    · exact (List.Nodup.of_map PipelineRun.id after.runs.unique).filter _
    · rw [List.mem_filter, List.mem_singleton]
      constructor
      · rintro ⟨otherMember, hit⟩
        simp only [Bool.and_eq_true, beq_iff_eq] at hit
        exact alone other otherMember hit.1.1 hit.1.2
      · intro same
        rw [same]
        refine ⟨member, ?_⟩
        simp only [Bool.and_eq_true, beq_iff_eq, Bool.not_eq_true', List.any_eq_false]
        refine ⟨⟨trivial, flies⟩, fun old oldMember hit => ?_⟩
        rw [grounded old oldMember hit.1] at hit
        cases hit.2
  rw [promotedBy, chosen]
  rfl

section Calling

theorem slotTaken_iff (db : Db) (run : PipelineRun) : slotTaken db run = true ↔
    ∃ other ∈ db.runs.rows, other.ticketId = run.ticketId ∧ other.id ≠ run.id ∧ other.inFlight = true := by
  simp [slotTaken, and_assoc]

variable (ticketId : Uuid) (line : Line Uuid)

theorem lines_one (db : Db) (run other : PipelineRun) (lines : Lines db ticketId line) (member : run ∈ db.runs.rows)
    (otherMember : other ∈ db.runs.rows) (own : run.ticketId = ticketId) (otherOwn : other.ticketId = ticketId)
    (flies : run.inFlight = true) (otherFlies : other.inFlight = true) : run = other := by
  have last := (lines.holder run member own flies).2
  rw [(lines.holder other otherMember otherOwn otherFlies).2] at last
  exact Table.eq_of_key db.runs run other member otherMember (Option.some.inj last).symm

theorem promoteOldestQueued_lines (before db : Db) (lined : Lined db ticketId line)
    (grounded : ∀ run ∈ db.runs.rows, run.ticketId = ticketId → run.inFlight = false)
    (queuedBefore : ∀ run ∈ db.runs.rows, run.ticketId = ticketId → run.state = .queued →
      ∀ old ∈ before.runs.rows, old.id = run.id → old.inFlight = false)
    (bound : ∀ run ∈ db.runs.rows, run.id < db.nextId) :
    Lines (promoteOldestQueued db ticketId) ticketId line.release ∧
      line.release.served = line.served ++ promotedBy before (promoteOldestQueued db ticketId) ticketId := by
  have ground (run : PipelineRun) (member : run ∈ db.runs.rows) (own : run.ticketId = ticketId)
      (flies : run.inFlight = true) : False := by
    rw [grounded run member own] at flies
    cases flies
  rw [promoteOldestQueued]
  cases found : oldestQueued db ticketId with
  | none =>
      have none_ := (firstWhere_none _ _ _).mp found
      have unqueued (run : PipelineRun) (member : run ∈ db.runs.rows) (own : run.ticketId = ticketId) :
          run.state ≠ .queued := by
        intro queued
        have missed := none_ run member
        simp [own, queued] at missed
      have empty : line.waiting = ∅ := by
        refine Finset.eq_empty_of_forall_notMem fun key waiting => ?_
        obtain ⟨run, member, own, same⟩ := lined.present key waiting
        exact unqueued run member own ((lined.waits run member own).mpr (by rw [same]; exact waiting))
      obtain ⟨served, held, waiting⟩ := line.release_empty empty
      refine ⟨⟨⟨?_, ?_, ?_, ?_⟩, ?_, ?_⟩, ?_⟩
      · intro run member own
        rw [waiting]
        exact ⟨fun queued => absurd queued (unqueued run member own), fun none_ => absurd none_ (Finset.notMem_empty _)⟩
      · rw [waiting]
        exact fun key none_ => absurd none_ (Finset.notMem_empty _)
      · rw [served]
        exact lined.known
      · rw [served]
        exact lined.passed
      · exact fun run member own flies => (ground run member own flies).elim
      · rw [held]
        exact fun free => absurd free (by decide)
      · have none_ := promotedBy_none before db ticketId fun next member own flies => (ground next member own flies).elim
        simp only
        rw [served, none_, List.append_nil]
  | some run =>
      obtain ⟨member, hit, least⟩ := firstWhere_some _ _ _ run found
      simp only [Bool.and_eq_true, beq_iff_eq] at hit
      obtain ⟨own, queued⟩ := hit
      have free : slotTaken db run ≠ true := by
        intro taken
        obtain ⟨other, otherMember, sameTicket, _, flies⟩ := (slotTaken_iff db run).mp taken
        exact ground other otherMember (sameTicket.trans own) flies
      have first (key : Uuid) (waiting : key ∈ line.waiting) : run.id ≤ key := by
        obtain ⟨other, otherMember, otherOwn, same⟩ := lined.present key waiting
        rw [← same]
        refine least other otherMember ?_
        simp only [Bool.and_eq_true, beq_iff_eq]
        exact ⟨otherOwn, (lined.waits other otherMember otherOwn).mpr (by rw [same]; exact waiting)⟩
      obtain ⟨served, held, waiting⟩ := line.release_next run.id ((lined.waits run member own).mp queued) first
      obtain ⟨nextId, runs⟩ := attemptPromotion_runs db run queued
      rw [if_neg free] at runs
      let promoted : PipelineRun := { run with state := .running }
      have split (row : PipelineRun) (rowMember : row ∈ (attemptPromotion db run).runs.rows) :
          row = promoted ∨ row ∈ db.runs.rows ∧ row.id ≠ run.id := by
        rw [runs] at rowMember
        exact saveRun_rows db promoted row rowMember
      have stored : promoted ∈ (attemptPromotion db run).runs.rows := by
        rw [runs]
        exact saveRun_own db promoted run member rfl
      have alone (other : PipelineRun) (otherMember : other ∈ (attemptPromotion db run).runs.rows)
          (otherOwn : other.ticketId = ticketId) (flies : other.inFlight = true) : other = promoted := by
        rcases split other otherMember with same | ⟨earlier, _⟩
        · exact same
        · exact (ground other earlier otherOwn flies).elim
      refine ⟨⟨⟨?_, ?_, ?_, ?_⟩, ?_, ?_⟩, ?_⟩
      · intro row rowMember rowOwn
        rw [waiting]
        rcases split row rowMember with same | ⟨earlier, different⟩
        · rw [same]
          exact ⟨fun state => (by cases state), fun erased => absurd rfl (Finset.ne_of_mem_erase erased)⟩
        · rw [lined.waits row earlier rowOwn]
          exact ⟨fun waits => Finset.mem_erase.mpr ⟨different, waits⟩, Finset.mem_of_mem_erase⟩
      · rw [waiting]
        intro key erased
        obtain ⟨other, otherMember, otherOwn, same⟩ := lined.present key (Finset.mem_of_mem_erase erased)
        refine ⟨other, ?_, otherOwn, same⟩
        rw [runs]
        exact saveRun_other db promoted other otherMember (by rw [same]; exact Finset.ne_of_mem_erase erased)
      · rw [served, nextId]
        intro key called
        rcases List.mem_append.mp called with earlier | last
        · exact lined.known key earlier
        · rw [List.mem_singleton.mp last]
          exact bound run member
      · intro row rowMember rowOwn
        rw [served]
        rcases split row rowMember with same | ⟨earlier, _⟩
        · exact .inl (List.mem_append_right _ (by rw [same]; exact List.mem_singleton.mpr rfl))
        · rcases lined.passed row earlier rowOwn with called | rest
          · exact .inl (List.mem_append_left _ called)
          · exact .inr rest
      · intro row rowMember rowOwn flies
        rw [alone row rowMember rowOwn flies, served, held]
        exact ⟨rfl, List.getLast?_concat⟩
      · exact fun _ => ⟨promoted, stored, own, rfl⟩
      · have one := promotedBy_one before (attemptPromotion db run) promoted stored rfl (queuedBefore run member own queued)
          fun other otherMember otherOwn flies => alone other otherMember (otherOwn.trans own) flies
        rw [show promoted.ticketId = ticketId from own] at one
        simp only
        rw [served, one]

theorem alike_trans (first middle last : PipelineRun) (left : Alike first middle) (right : Alike middle last) :
    Alike first last where
  id := right.id.trans left.id
  ticketId := right.ticketId.trans left.ticketId
  state := by
    rcases right.state with same | ⟨flies, lands⟩
    · rcases left.state with earlier | ⟨flies, lands⟩
      · exact .inl (same.trans earlier)
      · refine .inr ⟨flies, ?_⟩
        rw [PipelineRun.inFlight, same]
        exact lands
    · exact .inr ⟨(alike_inFlight first middle left).symm.trans flies, lands⟩

theorem placed_trans (first middle last : Db) (left : Placed first middle ticketId)
    (right : Placed middle last ticketId) : Placed first last ticketId where
  forth := by
    intro run member own
    obtain ⟨next, nextMember, alike⟩ := left.forth run member own
    obtain ⟨later, laterMember, again⟩ := right.forth next nextMember (alike.ticketId.trans own)
    exact ⟨later, laterMember, alike_trans run next later alike again⟩
  back := by
    intro later laterMember own
    obtain ⟨next, nextMember, again⟩ := right.back later laterMember own
    obtain ⟨run, member, alike⟩ := left.back next nextMember (again.ticketId ▸ own)
    exact ⟨run, member, alike_trans run next later alike again⟩
  nextId := Nat.le_trans left.nextId right.nextId

theorem promoteOldestQueued_placed (db : Db) (other : Uuid) (different : other ≠ ticketId) :
    Placed db (promoteOldestQueued db other) ticketId := by
  rw [promoteOldestQueued]
  cases found : oldestQueued db other with
  | none => exact placed_same db db ticketId rfl (Nat.le_refl _)
  | some run =>
      obtain ⟨member, hit, _⟩ := firstWhere_some _ _ _ run found
      simp only [Bool.and_eq_true, beq_iff_eq] at hit
      obtain ⟨nextId, runs⟩ := attemptPromotion_runs db run hit.2
      simp only
      by_cases taken : slotTaken db run = true
      · rw [if_pos taken] at runs
        exact placed_same db _ ticketId runs (Nat.le_of_eq nextId.symm)
      · rw [if_neg taken] at runs
        exact placed_saved db _ ticketId run { run with state := .running } member rfl rfl
          (fun own => absurd (hit.1.symm.trans own) different) runs (Nat.le_of_eq nextId.symm)

end Calling

section Stepping

variable (ticketId : Uuid) (line : Line Uuid) (db : Db)

def LinesOn (after : Db) : Prop :=
  ∃ later, Lines after ticketId later ∧ later.served = line.served ++ promotedBy db after ticketId

theorem placed_on (after : Db) (lines : Lines db ticketId line) (placed : Placed db after ticketId) :
    LinesOn ticketId line db after :=
  ⟨line, placed_lines db after ticketId line placed lines, by
    rw [placed_promotedBy db after ticketId placed, List.append_nil]⟩

theorem turns_placed (env : Env) (start last : Session) (run : PipelineRun) (member : run ∈ db.runs.rows)
    (flies : run.inFlight = true) (id : start.run.id = run.id) (ticket : start.run.ticketId = run.ticketId)
    (runs : start.db.runs = db.runs) (nextId : db.nextId ≤ start.db.nextId) (turns : Turns env start last)
    (stays : run.ticketId = ticketId → last.run.inFlight = true) : Placed db last.commit ticketId := by
  have lastId := (turns_id env start last turns).trans id
  have lastTicket := (turns_ticketId env start last turns).trans ticket
  have place (after : Db) (saved : after.runs = (db.saveRun last.run).runs) (low : db.nextId ≤ after.nextId) :
      Placed db after ticketId :=
    placed_saved db after ticketId run last.run member lastId lastTicket
      (fun own => ⟨lastId, lastTicket, .inr ⟨flies, stays own⟩⟩) saved low
  cases turns with
  | works steady =>
      exact place _ (saveRun_runs _ _ _ (steady.runs.trans runs)) (Nat.le_trans nextId steady.nextId)
  | pauses paused row tripped owners kickoff steady same =>
      obtain ⟨keptRuns, keptId⟩ := enterPause_keeps env paused row tripped owners kickoff
      refine place _ (saveRun_runs _ _ _ ?_) (Nat.le_trans nextId (Nat.le_trans steady.nextId ?_))
      · rw [same, keptRuns, steady.runs, runs]
      · rw [same]
        exact Nat.le_of_lt (Nat.lt_of_succ_le (Nat.le_of_eq keptId.symm))
  | ends ended target reason steady same =>
      obtain ⟨settled, committed, saved, settledId, _⟩ :=
        ends_settled env db start ended run target reason member id runs steady
      have other : run.ticketId ≠ ticketId := by
        intro own
        have lands := stays own
        rw [same, enterTerminal_grounded] at lands
        cases lands
      rw [← same] at saved
      have settles := place settled saved (by rw [settledId]; exact Nat.le_trans nextId steady.nextId)
      rw [same, committed, steady.ticketId, ticket]
      exact placed_trans ticketId db settled _ settles (promoteOldestQueued_placed ticketId settled run.ticketId other)

theorem ended_lined (settled : Db) (run final : PipelineRun) (lines : Lines db ticketId line) (member : run ∈ db.runs.rows)
    (own : run.ticketId = ticketId) (flies : run.inFlight = true) (id : final.id = run.id)
    (terminal : final.state.isTerminal = true) (saved : settled.runs = (db.saveRun final).runs)
    (low : db.nextId ≤ settled.nextId) : Lined settled ticketId line := by
  have standing : run.state ≠ .queued := by
    intro queued
    rw [PipelineRun.inFlight, queued] at flies
    cases flies
  have split (row : PipelineRun) (rowMember : row ∈ settled.runs.rows) : row = final ∨ row ∈ db.runs.rows := by
    rw [saved] at rowMember
    exact (saveRun_rows db final row rowMember).imp_right And.left
  refine ⟨?_, ?_, fun key called => Nat.lt_of_lt_of_le (lines.known key called) low, ?_⟩
  · intro row rowMember rowOwn
    rcases split row rowMember with same | earlier
    · rw [same]
      refine ⟨fun queued => ?_, fun waiting => absurd ?_ standing⟩
      · rw [queued] at terminal
        cases terminal
      · exact (lines.waits run member own).mpr (by rw [← id]; exact waiting)
    · exact lines.waits row earlier rowOwn
  · intro key waiting
    obtain ⟨row, rowMember, rowOwn, isKey⟩ := lines.present key waiting
    refine ⟨row, ?_, rowOwn, isKey⟩
    rw [saved]
    refine saveRun_other db final row rowMember fun same => standing ?_
    rw [← Table.eq_of_key db.runs row run rowMember member (same.trans id)]
    exact (lines.waits row rowMember rowOwn).mpr (by rw [isKey]; exact waiting)
  · intro row rowMember rowOwn
    rcases split row rowMember with same | earlier
    · refine .inl ?_
      rw [same, id]
      exact List.mem_of_getLast? (lines.holder run member own flies).2
    · exact lines.passed row earlier rowOwn

theorem ended_on (settled : Db) (run final : PipelineRun) (lines : Lines db ticketId line)
    (bound : ∀ row ∈ db.runs.rows, row.id < db.nextId) (member : run ∈ db.runs.rows) (own : run.ticketId = ticketId)
    (flies : run.inFlight = true) (id : final.id = run.id) (terminal : final.state.isTerminal = true)
    (grounded : final.inFlight = false) (saved : settled.runs = (db.saveRun final).runs)
    (low : db.nextId ≤ settled.nextId) : LinesOn ticketId line db (promoteOldestQueued settled ticketId) := by
  have split (row : PipelineRun) (rowMember : row ∈ settled.runs.rows) :
      row = final ∨ row ∈ db.runs.rows ∧ row.id ≠ run.id := by
    rw [saved] at rowMember
    rcases saveRun_rows db final row rowMember with same | ⟨earlier, different⟩
    · exact .inl same
    · exact .inr ⟨earlier, by rw [← id]; exact different⟩
  have lined := ended_lined ticketId line db settled run final lines member own flies id terminal saved low
  refine ⟨line.release, promoteOldestQueued_lines ticketId line db settled lined ?_ ?_ ?_⟩
  · intro row rowMember rowOwn
    rcases split row rowMember with same | ⟨earlier, different⟩
    · rw [same]
      exact grounded
    · refine Bool.eq_false_iff.mpr fun rowFlies => different ?_
      rw [lines_one ticketId line db row run lines earlier member rowOwn own rowFlies flies]
  · intro row rowMember rowOwn queued old oldMember sameId
    rcases split row rowMember with same | ⟨earlier, _⟩
    · rw [← same, queued] at terminal
      cases terminal
    · rw [Table.eq_of_key db.runs old row oldMember earlier sameId, PipelineRun.inFlight, queued]
      rfl
  · intro row rowMember
    rcases split row rowMember with same | ⟨earlier, _⟩
    · rw [same, id]
      exact Nat.lt_of_lt_of_le (bound run member) low
    · exact Nat.lt_of_lt_of_le (bound row earlier) low

theorem turns_on (env : Env) (start last : Session) (run : PipelineRun) (lines : Lines db ticketId line)
    (bound : ∀ row ∈ db.runs.rows, row.id < db.nextId) (member : run ∈ db.runs.rows) (flies : run.inFlight = true)
    (id : start.run.id = run.id) (ticket : start.run.ticketId = run.ticketId) (running : start.run.state = .running)
    (runs : start.db.runs = db.runs) (nextId : db.nextId ≤ start.db.nextId) (turns : Turns env start last) :
    LinesOn ticketId line db last.commit := by
  by_cases stays : run.ticketId = ticketId → last.run.inFlight = true
  · exact placed_on ticketId line db _ lines
      (turns_placed ticketId db env start last run member flies id ticket runs nextId turns stays)
  · obtain ⟨own, lands⟩ := Classical.not_imp.mp stays
    cases turns with
    | works steady => exact absurd ((inFlight_iff last.run).mpr (.inl (steady.state.trans running))) lands
    | pauses paused row tripped owners kickoff steady same => exact absurd (by rw [same]; rfl) lands
    | ends ended target reason steady same =>
        obtain ⟨settled, committed, saved, settledId, _⟩ :=
          ends_settled env db start ended run target reason member id runs steady
        rw [same, committed, steady.ticketId, ticket, own]
        exact ended_on ticketId line db settled run (enterTerminal env ended target reason).run lines bound member own flies
          (steady.id.trans id)
          (enterTerminal_terminal env ended target reason) (enterTerminal_grounded env ended target reason) saved
          (by rw [settledId]; exact Nat.le_trans nextId steady.nextId)

theorem inserted_placed (queued : Db) (run : PipelineRun) (inserted : Inserted db queued run)
    (state : run.state = .queued) (away : run.ticketId ≠ ticketId) : Placed db (attemptPromotion queued run) ticketId := by
  have entered := inserted_entered db queued run inserted
  have enters : Placed db queued ticketId := by
    refine ⟨fun row member _ => ⟨row, inserted_kept db queued run row inserted member, alike_refl row⟩, ?_, ?_⟩
    · intro row member own
      rcases inserted_split db queued run row inserted member with earlier | same
      · exact ⟨row, earlier, alike_refl row⟩
      · rw [same] at own
        exact absurd own away
    · rw [inserted.nextId]
      exact Nat.le_succ _
  obtain ⟨nextId, runs⟩ := attemptPromotion_runs queued run state
  refine placed_trans ticketId db queued _ enters ?_
  by_cases taken : slotTaken queued run = true
  · rw [if_pos taken] at runs
    exact placed_same queued _ ticketId runs (Nat.le_of_eq nextId.symm)
  · rw [if_neg taken] at runs
    exact placed_saved queued _ ticketId run { run with state := .running } entered rfl rfl (fun own => absurd own away) runs
      (Nat.le_of_eq nextId.symm)

theorem joined_on (queued : Db) (run : PipelineRun) (lines : Lines db ticketId line)
    (bound : ∀ row ∈ db.runs.rows, row.id < db.nextId) (inserted : Inserted db queued run) (state : run.state = .queued)
    (id : run.id = db.nextId) (own : run.ticketId = ticketId) (taken : slotTaken queued run = true) :
    LinesOn ticketId line db (attemptPromotion queued run) := by
  have entered := inserted_entered db queued run inserted
  have kept := inserted_kept db queued run
  have split (row : PipelineRun) (member : row ∈ (attemptPromotion queued run).runs.rows) :
      row ∈ db.runs.rows ∨ row = run := by
    rw [(attemptPromotion_runs queued run state).2, if_pos taken] at member
    exact inserted_split db queued run row inserted member
  have grounded : run.inFlight = false := by
    rw [PipelineRun.inFlight, state]
    rfl
  have above : ∀ front ∈ line.served, front < run.id := by
    rw [id]
    exact lines.known
  obtain ⟨other, otherMember, otherTicket, different, flies⟩ := (slotTaken_iff queued run).mp taken
  have earlier : other ∈ db.runs.rows := by
    rcases inserted_split db queued run other inserted otherMember with earlier | same
    · exact earlier
    · exact absurd (by rw [same]) different
  have held := (lines.holder other earlier (otherTicket.trans own) flies).1
  obtain ⟨served, holds, waiting⟩ := line.join_held run.id above held
  obtain ⟨nextId, runs⟩ := attemptPromotion_runs queued run state
  rw [if_pos taken] at runs
  refine ⟨line.join run.id above, ⟨⟨?_, ?_, ?_, ?_⟩, ?_, ?_⟩, ?_⟩
  · intro row member rowOwn
    rw [waiting, Finset.mem_insert]
    rcases split row member with earlier | same
    · rw [lines.waits row earlier rowOwn]
      refine ⟨.inr, fun hit => hit.resolve_left fun same => ?_⟩
      exact absurd (bound row earlier) (by rw [same, id]; exact Nat.lt_irrefl _)
    · rw [same]
      exact ⟨fun _ => .inl rfl, fun _ => state⟩
  · intro key hit
    rw [waiting] at hit
    rw [runs]
    rcases Finset.mem_insert.mp hit with same | earlier
    · exact ⟨run, entered, own, same.symm⟩
    · obtain ⟨row, member, rowOwn, same⟩ := lines.present key earlier
      exact ⟨row, kept row inserted member, rowOwn, same⟩
  · rw [served, nextId, inserted.nextId]
    exact fun key called => Nat.lt_succ_of_lt (lines.known key called)
  · intro row member rowOwn
    rw [served]
    rcases split row member with earlier | same
    · exact lines.passed row earlier rowOwn
    · rw [same]
      exact .inr (.inl state)
  · intro row member rowOwn rowFlies
    rw [served, holds]
    rcases split row member with earlier | same
    · exact ⟨rfl, (lines.holder row earlier rowOwn rowFlies).2⟩
    · rw [same, grounded] at rowFlies
      cases rowFlies
  · intro _
    rw [runs]
    exact ⟨other, otherMember, otherTicket.trans own, flies⟩
  · rw [served, promotedBy_none db _ ticketId, List.append_nil]
    intro row member rowOwn rowFlies
    rcases split row member with earlier | same
    · exact ⟨row, earlier, rfl, rowFlies⟩
    · rw [same, grounded] at rowFlies
      cases rowFlies

theorem seated_on (queued : Db) (run : PipelineRun) (lines : Lines db ticketId line)
    (bound : ∀ row ∈ db.runs.rows, row.id < db.nextId) (inserted : Inserted db queued run) (state : run.state = .queued)
    (id : run.id = db.nextId) (own : run.ticketId = ticketId) (free : slotTaken queued run ≠ true) :
    LinesOn ticketId line db (attemptPromotion queued run) := by
  let promoted : PipelineRun := { run with state := .running }
  obtain ⟨nextId, runs⟩ := attemptPromotion_runs queued run state
  rw [if_neg free] at runs
  have fresh (row : PipelineRun) (member : row ∈ db.runs.rows) : row.id ≠ run.id := by
    rw [id]
    exact fun same => absurd (same ▸ bound row member) (Nat.lt_irrefl _)
  have stored : promoted ∈ (attemptPromotion queued run).runs.rows := by
    rw [runs]
    exact saveRun_own queued promoted run (inserted_entered db queued run inserted) rfl
  have apart (row : PipelineRun) (member : row ∈ (attemptPromotion queued run).runs.rows) :
      row = promoted ∨ row ∈ db.runs.rows := by
    rw [runs] at member
    rcases saveRun_rows queued promoted row member with same | ⟨earlier, different⟩
    · exact .inl same
    · rcases inserted_split db queued run row inserted earlier with first | same
      · exact .inr first
      · exact absurd (by rw [same]) different
  have empty (row : PipelineRun) (member : row ∈ db.runs.rows) (rowOwn : row.ticketId = ticketId)
      (flies : row.inFlight = true) : False :=
    free ((slotTaken_iff queued run).mpr
      ⟨row, inserted_kept db queued run row inserted member, rowOwn.trans own.symm, fresh row member, flies⟩)
  have unheld : line.held = false := by
    refine Bool.eq_false_iff.mpr fun held => ?_
    obtain ⟨row, member, rowOwn, flies⟩ := lines.held held
    exact empty row member rowOwn flies
  have above : ∀ front ∈ line.served, front < run.id := by
    rw [id]
    exact lines.known
  have nobody := line.waiting_free unheld
  obtain ⟨served, holds, waiting⟩ := line.join_free run.id above unheld
  have alone (row : PipelineRun) (member : row ∈ (attemptPromotion queued run).runs.rows)
      (rowOwn : row.ticketId = ticketId) (flies : row.inFlight = true) : row = promoted := by
    rcases apart row member with same | earlier
    · exact same
    · exact (empty row earlier rowOwn flies).elim
  refine ⟨line.join run.id above, ⟨⟨?_, ?_, ?_, ?_⟩, ?_, ?_⟩, ?_⟩
  · intro row member rowOwn
    rw [waiting]
    refine ⟨fun queuedRow => ?_, fun none_ => absurd none_ (Finset.notMem_empty _)⟩
    rcases apart row member with same | earlier
    · rw [same] at queuedRow
      cases queuedRow
    · have waits := (lines.waits row earlier rowOwn).mp queuedRow
      rw [nobody] at waits
      exact waits
  · rw [waiting]
    exact fun key none_ => absurd none_ (Finset.notMem_empty _)
  · rw [served, nextId, inserted.nextId]
    intro key called
    rcases List.mem_append.mp called with earlier | last
    · exact Nat.lt_succ_of_lt (lines.known key earlier)
    · rw [List.mem_singleton.mp last, id]
      exact Nat.lt_succ_self _
  · intro row member rowOwn
    rw [served]
    rcases apart row member with same | earlier
    · rw [same]
      exact .inl (List.mem_append_right _ (List.mem_singleton.mpr rfl))
    · rcases lines.passed row earlier rowOwn with called | rest
      · exact .inl (List.mem_append_left _ called)
      · exact .inr rest
  · intro row member rowOwn flies
    rw [alone row member rowOwn flies, served, holds]
    exact ⟨rfl, List.getLast?_concat⟩
  · exact fun _ => ⟨promoted, stored, own, rfl⟩
  · have one := promotedBy_one db (attemptPromotion queued run) promoted stored rfl
      (fun row member same => absurd same (fresh row member))
      fun other member otherOwn flies => alone other member (otherOwn.trans own) flies
    rw [show promoted.ticketId = ticketId from own] at one
    rw [served, one]

theorem insertRun_on (orgId owner : Uuid) (pipelineId : Option Uuid) (flattened : FlattenedDefinition)
    (kickoff : Kickoff) (current : Option Nat) (triggeredByUserId : Option Uuid) (lines : Lines db ticketId line)
    (bound : ∀ row ∈ db.runs.rows, row.id < db.nextId) :
    LinesOn ticketId line db
      (insertRun db (newRun db.nextId orgId owner pipelineId flattened kickoff current triggeredByUserId)) := by
  let run := newRun db.nextId orgId owner pipelineId flattened kickoff current triggeredByUserId
  rcases insertRun_inserted db run with same | ⟨queued, inserted, same⟩
  · rw [same]
    exact placed_on ticketId line db db lines (placed_same db db ticketId rfl (Nat.le_refl _))
  · rw [same]
    by_cases own : owner = ticketId
    · by_cases taken : slotTaken queued run = true
      · exact joined_on ticketId line db queued run lines bound inserted rfl rfl own taken
      · exact seated_on ticketId line db queued run lines bound inserted rfl rfl own taken
    · exact placed_on ticketId line db _ lines (inserted_placed ticketId db queued run inserted rfl own)

theorem withdraw_on (run cancelled : PipelineRun) (lines : Lines db ticketId line) (member : run ∈ db.runs.rows)
    (queued : run.state = .queued) (id : cancelled.id = run.id) (ticket : cancelled.ticketId = run.ticketId)
    (state : cancelled.state = .cancelled) : LinesOn ticketId line db (db.saveRun cancelled) := by
  by_cases own : run.ticketId = ticketId
  · have split (row : PipelineRun) (rowMember : row ∈ (db.saveRun cancelled).runs.rows) :
        row = cancelled ∨ row ∈ db.runs.rows ∧ row.id ≠ run.id := by
      rcases saveRun_rows db cancelled row rowMember with same | ⟨earlier, different⟩
      · exact .inl same
      · exact .inr ⟨earlier, by rw [← id]; exact different⟩
    have grounded : cancelled.inFlight = false := by
      rw [PipelineRun.inFlight, state]
      rfl
    refine ⟨line.withdraw run.id, ⟨⟨?_, ?_, lines.known, ?_⟩, ?_, ?_⟩, ?_⟩
    · intro row rowMember rowOwn
      show _ ↔ row.id ∈ line.waiting.erase run.id
      rcases split row rowMember with same | ⟨earlier, different⟩
      · rw [same, state, id]
        exact ⟨fun absurd_ => (by cases absurd_), fun erased => absurd rfl (Finset.ne_of_mem_erase erased)⟩
      · rw [lines.waits row earlier rowOwn]
        exact ⟨fun waits => Finset.mem_erase.mpr ⟨different, waits⟩, Finset.mem_of_mem_erase⟩
    · intro key erased
      obtain ⟨row, rowMember, rowOwn, same⟩ := lines.present key (Finset.mem_of_mem_erase erased)
      refine ⟨row, saveRun_other db cancelled row rowMember ?_, rowOwn, same⟩
      rw [same, id]
      exact Finset.ne_of_mem_erase erased
    · intro row rowMember rowOwn
      rcases split row rowMember with same | ⟨earlier, _⟩
      · exact .inr (.inr (by rw [same]; exact state))
      · exact lines.passed row earlier rowOwn
    · intro row rowMember rowOwn flies
      rcases split row rowMember with same | ⟨earlier, _⟩
      · rw [same, grounded] at flies
        cases flies
      · exact lines.holder row earlier rowOwn flies
    · intro held
      obtain ⟨row, rowMember, rowOwn, flies⟩ := lines.held held
      refine ⟨row, saveRun_other db cancelled row rowMember fun same => ?_, rowOwn, flies⟩
      rw [Table.eq_of_key db.runs row run rowMember member (same.trans id), PipelineRun.inFlight, queued] at flies
      cases flies
    · rw [promotedBy_none db _ ticketId, List.append_nil]
      · rfl
      · intro row rowMember rowOwn flies
        rcases split row rowMember with same | ⟨earlier, _⟩
        · rw [same, grounded] at flies
          cases flies
        · exact ⟨row, earlier, rfl, flies⟩
  · exact placed_on ticketId line db _ lines (placed_saved db _ ticketId run cancelled member id ticket
      (fun same => absurd same own) rfl (Nat.le_refl _))

theorem moves_on {created : Ticket → Prop} (after : Db) (coherent : Coherent db) (moves : Moves created db after)
    (lines : Lines db ticketId line) :
    LinesOn ticketId line db after := by
  have bound (row : PipelineRun) (member : row ∈ db.runs.rows) : row.id < db.nextId := (coherent.sound row member).bound
  cases moves with
  | rests _ runs nextId => exact placed_on ticketId line db _ lines (placed_same db _ ticketId runs nextId)
  | opens ticket creates => exact placed_on ticketId line db _ lines (placed_same db _ ticketId rfl (Nat.le_refl _))
  | starts orgId owner pipelineId flattened kickoff current triggeredByUserId =>
      exact insertRun_on ticketId line db orgId owner pipelineId flattened kickoff current triggeredByUserId lines bound
  | flags run member state =>
      exact placed_on ticketId line db _ lines (placed_saved db _ ticketId run { run with cancelRequested := true } member
        rfl rfl (fun _ => ⟨rfl, rfl, .inl rfl⟩) rfl (Nat.le_refl _))
  | withdraws env run member state => exact withdraw_on ticketId line db run _ lines member state rfl rfl rfl
  | works env opened run last member state runs tickets nextId turns closes =>
      exact turns_on ticketId line db env ⟨opened, run⟩ last run lines bound member ((inFlight_iff run).mpr (.inl state))
        rfl rfl state runs (Nat.le_of_eq nextId.symm) turns
  | resumes env run pause closed revived last answering revives tickets action turns =>
      exact turns_on ticketId line db env revived last run lines bound answering.member
        ((inFlight_iff run).mpr (.inr answering.state)) revives.id revives.ticketId revives.state revives.runs
        (Nat.le_of_eq revives.nextId.symm) turns
  | stops env run pause closed revived last answering revives tickets turns closing stopped rows =>
      exact turns_on ticketId line db env revived last run lines bound answering.member
        ((inFlight_iff run).mpr (.inr answering.state)) revives.id revives.ticketId revives.state revives.runs
        (Nat.le_of_eq revives.nextId.symm) turns

end Stepping

section Scheduling

variable (ticketId : Uuid)

theorem path_lines (db last : Db) (labels : List Label) (line : Line Uuid) (coherent : Coherent db)
    (lines : Lines db ticketId line) (path : Path runEngine db labels last) :
    ∃ later, Lines last ticketId later ∧ later.served = line.served ++ promotions ticketId db labels := by
  induction path generalizing line with
  | nil state => exact ⟨line, lines, (List.append_nil _).symm⟩
  | cons state middle last label labels allowed taken rest ih =>
      have moves := engineStep_moves state label coherent allowed middle taken
      obtain ⟨next, nextLines, served⟩ := moves_on ticketId line state middle coherent moves lines
      obtain ⟨later, laterLines, servedLater⟩ :=
        ih next (engine_inductive.kept state label middle coherent allowed taken) nextLines
      refine ⟨later, laterLines, ?_⟩
      have same : runEngine.committed label state = middle := by
        rw [Machine.committed, taken]
      rw [servedLater, served, promotions, same, List.append_assoc]

theorem fresh_lines (db : Db) (fresh : Fresh db) : Lines db ticketId .empty := by
  have none_ (run : PipelineRun) (member : run ∈ db.runs.rows) : False := by
    rw [fresh.runs] at member
    cases member
  refine ⟨⟨?_, ?_, ?_, ?_⟩, ?_, ?_⟩
  · exact fun run member _ => (none_ run member).elim
  · exact fun key waiting => absurd waiting (Finset.notMem_empty _)
  · exact fun key called => (by cases called)
  · exact fun run member _ => (none_ run member).elim
  · exact fun run member _ _ => (none_ run member).elim
  · exact fun held => (by cases held)

structure Scheduled (db : Db) (ticketId : Uuid) (promoted : List Uuid) : Prop where
  single : ∀ run ∈ db.runs.rows, ∀ other ∈ db.runs.rows, run.ticketId = ticketId → other.ticketId = ticketId →
    run.inFlight = true → other.inFlight = true → run = other
  held : ∀ run ∈ db.runs.rows, run.ticketId = ticketId → run.state = .queued →
    ∃ other ∈ db.runs.rows, other.ticketId = ticketId ∧ other.inFlight = true
  increasing : promoted.Pairwise (· < ·)
  started : ∀ run ∈ db.runs.rows, run.ticketId = ticketId → run.inFlight = true → promoted.getLast? = some run.id
  unstarted : ∀ run ∈ db.runs.rows, run.ticketId = ticketId → run.id ∉ promoted → run.state = .queued ∨ run.state = .cancelled
  skipped : ∀ run ∈ db.runs.rows, run.ticketId = ticketId → ∀ key ∈ promoted, run.id < key → run.id ∉ promoted →
    run.state = .cancelled

theorem lines_scheduled (db : Db) (line : Line Uuid) (lines : Lines db ticketId line) :
    Scheduled db ticketId line.served where
  single := fun run member other otherMember own otherOwn flies otherFlies =>
    lines_one ticketId line db run other lines member otherMember own otherOwn flies otherFlies
  held := by
    intro run member own queued
    exact lines.held (line.behind run.id ((lines.waits run member own).mp queued)).1
  increasing := line.ordered
  started := fun run member own flies => (lines.holder run member own flies).2
  unstarted := fun run member own uncalled => (lines.passed run member own).resolve_left uncalled
  skipped := by
    intro run member own key called ahead uncalled
    rcases (lines.passed run member own).resolve_left uncalled with queued | cancelled
    · exact absurd ((lines.waits run member own).mp queued) (line.passed_over run.id key called ahead)
    · exact cancelled

theorem runs_scheduled (start last : Db) (labels : List Label) (fresh : Fresh start)
    (path : Path runEngine start labels last) : Scheduled last ticketId (promotions ticketId start labels) := by
  obtain ⟨line, lines, served⟩ :=
    path_lines ticketId start last labels .empty (fresh_coherent start fresh) (fresh_lines ticketId start fresh) path
  have scheduled := lines_scheduled ticketId last line lines
  rw [served] at scheduled
  exact scheduled

def sampleTwice : List Label :=
  .createTicket sampleTicket :: .startRun (sampleEnv sampleActions) 1 2 3 sampleKickoff none ::
    .startRun (sampleEnv sampleActions) 1 2 3 sampleKickoff none ::
      List.replicate 5 (.deliver (sampleEnv sampleActions) 0)

theorem sampleTwice_commits : runEngine.Commits (.empty 10) sampleTwice :=
  ⟨trivial, rfl, ⟨sampleTicket, rfl, rfl⟩, rfl, ⟨_, rfl, rfl⟩, rfl, trivial, rfl, trivial, rfl, trivial, rfl, trivial, rfl,
    trivial, rfl, trivial⟩

theorem sampleTwice_scheduled : Scheduled (runEngine.after (.empty 10) sampleTwice) 2 [10, 11] :=
  runs_scheduled 2 (.empty 10) (runEngine.after (.empty 10) sampleTwice) sampleTwice ⟨rfl, rfl, rfl, rfl, rfl, rfl⟩
    (commits_path runEngine (.empty 10) sampleTwice sampleTwice_commits)

end Scheduling

end Yaaos.Pipelines
