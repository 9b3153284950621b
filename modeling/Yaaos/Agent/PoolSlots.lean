import Yaaos.Agent.PoolStep

set_option autoImplicit false

namespace Yaaos.Agent.Pool

open Yaaos.Base

def Stage.waits : Stage → Option Nat
  | .waiting record => some record
  | _ => none

-- A record is held by the one call that is between its lock and unlock. A runner is in
-- the hands of the call that spawned it, then in at most one record, and it is read by
-- at most one call, for the record it is in.
structure Slots (state : State) : Prop where
  listed : ∀ entry ∈ state.registry, entry.2 < state.recordCount
  owned : ∀ record runner, (state.records record).runner = some runner →
    record < state.recordCount ∧ runner < state.runnerCount
  aimed : ∀ index record, (state.calls index).stage.waits = some record → record < state.recordCount
  held : ∀ record index, (state.records record).holder = some index → record < state.recordCount
  locked : ∀ index record, (state.calls index).stage.holds = some record → (state.records record).holder = some index
  unborn : ∀ index, state.callCount ≤ index → (state.calls index).stage = .unborn
  handed : ∀ index runner, (state.calls index).stage.assigns = some runner → runner < state.runnerCount ∧
    (∀ record, (state.records record).runner ≠ some runner) ∧ ∀ other, (state.calls other).stage.reads ≠ some runner
  once : ∀ index other runner, (state.calls index).stage.assigns = some runner →
    (state.calls other).stage.assigns = some runner → index = other
  single : ∀ record other runner, (state.records record).runner = some runner →
    (state.records other).runner = some runner → record = other
  reader : ∀ index record runner cancelled, (state.calls index).stage = .reading record runner cancelled →
    runner < state.runnerCount ∧ ∀ other, (state.records other).runner = some runner → other = record
  alone : ∀ index other runner, (state.calls index).stage.reads = some runner →
    (state.calls other).stage.reads = some runner → index = other

section Standing

variable (state : State) (index : Nat) (stage : Stage)

theorem standing_self : (standing state index stage index).stage = stage := by
  rw [standing, Function.update_self]

theorem standing_other (other : Nat) (different : other ≠ index) :
    standing state index stage other = state.calls other := by
  rw [standing, Function.update_of_ne different]

theorem standing_header (other : Nat) : (standing state index stage other).header = (state.calls other).header := by
  by_cases same : other = index
  · rw [same, standing, Function.update_self]
  · rw [standing_other state index stage other same]

theorem standing_all (property : Nat → Stage → Prop) (own : property index stage)
    (others : ∀ other, other ≠ index → property other (state.calls other).stage) (other : Nat) :
    property other (standing state index stage other).stage := by
  by_cases same : other = index
  · rw [same, standing_self]
    exact own
  · rw [standing_other state index stage other same]
    exact others other same

end Standing

theorem reads_reading (stage : Stage) (runner : Nat) (reads : stage.reads = some runner) :
    ∃ record cancelled, stage = .reading record runner cancelled := by
  cases stage with
  | reading record read cancelled =>
      cases reads
      exact ⟨record, cancelled, rfl⟩
  | _ => cases reads

theorem slots_born (state : State) (slots : Slots state) (index : Nat) (born : (state.calls index).stage ≠ .unborn) :
    index < state.callCount :=
  Nat.lt_of_not_le fun late => born (slots.unborn index late)

theorem sameOwners_holder (state : State) (record : Nat) (holder : Option Nat) (index : Nat) (stage : Stage) :
    SameOwners state ((state.setRecord record { state.records record with holder := holder }).stand index stage) := by
  refine ⟨fun other => ?_, rfl, rfl, rfl, fun _ member => member⟩
  simp only [State.setRecord, State.stand, Function.update_apply]
  split
  · rename_i here
    rw [here]
  · rfl

theorem slots_same (state next : State) (slots : Slots state) (same : SameSlots state next)
    (calls : next.calls = state.calls) : Slots next where
  listed := fun entry member => same.recordCount ▸ slots.listed entry (same.registry entry member)
  owned := fun record runner own => by
    rw [same.runner] at own
    rw [same.recordCount, same.runnerCount]
    exact slots.owned record runner own
  aimed := by rw [calls, same.recordCount]; exact slots.aimed
  held := fun record index holder => by
    rw [same.holder] at holder
    rw [same.recordCount]
    exact slots.held record index holder
  locked := fun index record holds => by
    rw [calls] at holds
    rw [same.holder]
    exact slots.locked index record holds
  unborn := by rw [calls, same.callCount]; exact slots.unborn
  handed := fun index runner assigns => by
    rw [calls] at assigns ⊢
    rw [same.runnerCount]
    obtain ⟨there, free, unread⟩ := slots.handed index runner assigns
    exact ⟨there, fun record => same.runner record ▸ free record, unread⟩
  once := by rw [calls]; exact slots.once
  single := fun record other runner own another => by
    rw [same.runner] at own another
    exact slots.single record other runner own another
  reader := fun index record runner cancelled reading => by
    rw [calls] at reading
    rw [same.runnerCount]
    obtain ⟨there, only⟩ := slots.reader index record runner cancelled reading
    exact ⟨there, fun other own => only other (same.runner other ▸ own)⟩
  alone := by rw [calls]; exact slots.alone

theorem slots_moved (state next : State) (slots : Slots state) (index : Nat) (stage : Stage)
    (same : SameOwners state next) (calls : next.calls = standing state index stage)
    (born : (state.calls index).stage ≠ .unborn)
    (held : ∀ record holder, (next.records record).holder = some holder → record < state.recordCount)
    (locked : ∀ other record, (standing state index stage other).stage.holds = some record →
      (next.records record).holder = some other)
    (waits : ∀ record, stage.waits = some record → record < state.recordCount)
    (assigns : stage.assigns = none)
    (reads : ∀ record runner cancelled, stage = .reading record runner cancelled →
      (runner < state.runnerCount ∧ ∀ other, (state.records other).runner = some runner → other = record) ∧
        (∀ other, (state.calls other).stage.assigns ≠ some runner) ∧
          ∀ other, other ≠ index → (state.calls other).stage.reads ≠ some runner) : Slots next := by
  have there := slots_born state slots index born
  have assigners (other runner : Nat) (assigning : (standing state index stage other).stage.assigns = some runner) :
      (state.calls other).stage.assigns = some runner :=
    standing_all state index stage (fun other stage => stage.assigns = some runner →
      (state.calls other).stage.assigns = some runner) (fun own => by rw [assigns] at own; cases own)
      (fun _ _ was => was) other assigning
  have fromNew (runner : Nat) (reading : stage.reads = some runner) :
      (∀ other, (state.calls other).stage.assigns ≠ some runner) ∧
        ∀ other, other ≠ index → (state.calls other).stage.reads ≠ some runner := by
    obtain ⟨record, cancelled, shape⟩ := reads_reading stage runner reading
    exact (reads record runner cancelled shape).2
  have readers (other runner : Nat) (reading : (standing state index stage other).stage.reads = some runner) :
      (other = index ∧ stage.reads = some runner) ∨ (other ≠ index ∧ (state.calls other).stage.reads = some runner) :=
    standing_all state index stage (fun other stage_ => stage_.reads = some runner →
      (other = index ∧ stage.reads = some runner) ∨ (other ≠ index ∧ (state.calls other).stage.reads = some runner))
      (fun own => .inl ⟨rfl, own⟩) (fun _ different was => .inr ⟨different, was⟩) other reading
  exact {
    listed := fun entry member => same.recordCount ▸ slots.listed entry (same.registry entry member)
    owned := fun record runner own => by
      rw [same.runner] at own
      rw [same.recordCount, same.runnerCount]
      exact slots.owned record runner own
    aimed := by
      rw [calls, same.recordCount]
      exact standing_all state index stage (fun _ stage => ∀ record, stage.waits = some record →
        record < state.recordCount) waits fun other _ => slots.aimed other
    held := by rw [same.recordCount]; exact held
    locked := by rw [calls]; exact locked
    unborn := fun other late => by
      rw [same.callCount] at late
      rw [calls, standing_other state index stage other (Nat.ne_of_gt (Nat.lt_of_lt_of_le there late))]
      exact slots.unborn other late
    handed := fun other runner assigning => by
      rw [calls] at assigning ⊢
      rw [same.runnerCount]
      obtain ⟨below, free, unread⟩ := slots.handed other runner (assigners other runner assigning)
      refine ⟨below, fun record own => free record (same.runner record ▸ own), fun third reading => ?_⟩
      rcases readers third runner reading with ⟨_, new⟩ | ⟨_, was⟩
      · exact (fromNew runner new).1 other (assigners other runner assigning)
      · exact unread third was
    once := fun first second runner left right => by
      rw [calls] at left right
      exact slots.once first second runner (assigners first runner left) (assigners second runner right)
    single := fun record other runner own another => by
      rw [same.runner] at own another
      exact slots.single record other runner own another
    reader := by
      rw [calls, same.runnerCount]
      exact standing_all state index stage (fun _ stage => ∀ record runner cancelled,
        stage = .reading record runner cancelled → runner < state.runnerCount ∧
          ∀ other, (next.records other).runner = some runner → other = record)
        (fun record runner cancelled reading =>
          ⟨(reads record runner cancelled reading).1.1,
            fun other own => (reads record runner cancelled reading).1.2 other (same.runner other ▸ own)⟩)
        fun third _ record runner cancelled reading =>
          have ⟨below, only⟩ := slots.reader third record runner cancelled reading
          ⟨below, fun other own => only other (same.runner other ▸ own)⟩
    alone := fun first second runner left right => by
      rw [calls] at left right
      rcases readers first runner left with ⟨here, new⟩ | ⟨away, was⟩
      · rcases readers second runner right with ⟨there, _⟩ | ⟨different, wasRight⟩
        · rw [here, there]
        · exact absurd wasRight ((fromNew runner new).2 second different)
      · rcases readers second runner right with ⟨_, new⟩ | ⟨_, wasRight⟩
        · exact absurd was ((fromNew runner new).2 first away)
        · exact slots.alone first second runner was wasRight }

theorem slots_stand (state next : State) (slots : Slots state) (index : Nat) (stage : Stage)
    (same : SameSlots state next) (calls : next.calls = standing state index stage)
    (born : (state.calls index).stage ≠ .unborn)
    (holds : ∀ record, stage.holds = some record → (state.calls index).stage.holds = some record)
    (waits : ∀ record, stage.waits = some record → record < state.recordCount)
    (assigns : stage.assigns = none)
    (reads : ∀ record runner cancelled, stage = .reading record runner cancelled →
      ∃ before, (state.calls index).stage = .reading record runner before) : Slots next := by
  refine slots_moved state next slots index stage same.toSameOwners calls born
    (fun record holder held => slots.held record holder (same.holder record ▸ held))
    (fun other record holding => (same.holder record).trans
      (standing_all state index stage (fun other stage => ∀ record, stage.holds = some record →
        (state.records record).holder = some other) (fun record holding => slots.locked index record (holds record holding))
        (fun other _ => slots.locked other) other record holding))
    waits assigns fun record runner cancelled reading => ?_
  obtain ⟨before, was⟩ := reads record runner cancelled reading
  have own : (state.calls index).stage.reads = some runner := by rw [was, Stage.reads]
  exact ⟨slots.reader index record runner before was, fun other assigning => (slots.handed other runner assigning).2.2 index own,
    fun other different another => different (slots.alone other index runner another own)⟩

theorem assignRunner_found (state : State) (workspaceId : String) (runner : Nat) :
    (state.lookup workspaceId = none ∧ assignRunner state workspaceId runner = state) ∨
      ∃ found, state.lookup workspaceId = some found ∧ (workspaceId, found) ∈ state.registry ∧
        assignRunner state workspaceId runner =
          state.setRecord found { state.records found with runner := some runner } := by
  unfold assignRunner State.change
  cases there : state.lookup workspaceId with
  | none => exact .inl ⟨rfl, rfl⟩
  | some found =>
      obtain ⟨before, after, split, _⟩ := List.lookup_eq_some_iff.mp there
      exact .inr ⟨found, rfl, by rw [split]; simp, rfl⟩

theorem assignRunner_records (state : State) (workspaceId : String) (runner : Nat) :
    ∃ records, assignRunner state workspaceId runner = { state with records := records } := by
  rcases assignRunner_found state workspaceId runner with ⟨_, found⟩ | ⟨_, _, _, found⟩
  · exact ⟨state.records, found⟩
  · exact ⟨_, found⟩

theorem slots_called (state : State) (slots : Slots state) (header : CommandHeader) :
    Slots { state with
      calls := Function.update state.calls state.callCount { header := header, stage := .entering }
      callCount := state.callCount + 1 } := by
  have all (property : Nat → Stage → Prop) (own : property state.callCount .entering)
      (others : ∀ other, property other (state.calls other).stage) (other : Nat) :
      property other (Function.update state.calls state.callCount { header := header, stage := .entering } other).stage := by
    rw [Function.update_apply]
    split
    · rename_i same
      exact same ▸ own
    · exact others other
  have assigners (other runner : Nat) := all (fun other stage => stage.assigns = some runner →
    (state.calls other).stage.assigns = some runner) nofun (fun _ was => was) other
  have readers (other runner : Nat) := all (fun other stage => stage.reads = some runner →
    (state.calls other).stage.reads = some runner) nofun (fun _ was => was) other
  exact {
    listed := slots.listed
    owned := slots.owned
    aimed := all (fun _ stage => ∀ record, stage.waits = some record → record < state.recordCount) nofun slots.aimed
    held := slots.held
    locked := all (fun other stage => ∀ record, stage.holds = some record →
      (state.records record).holder = some other) nofun slots.locked
    unborn := fun other late => by
      have later : state.callCount < other := late
      simp only [Function.update_of_ne (Nat.ne_of_gt later)]
      exact slots.unborn other (Nat.le_of_lt later)
    handed := fun other runner assigning => by
      obtain ⟨below, free, unread⟩ := slots.handed other runner (assigners other runner assigning)
      exact ⟨below, free, fun third reading => unread third (readers third runner reading)⟩
    once := fun first second runner left right =>
      slots.once first second runner (assigners first runner left) (assigners second runner right)
    single := slots.single
    reader := all (fun _ stage => ∀ record runner cancelled, stage = .reading record runner cancelled →
      runner < state.runnerCount ∧ ∀ other, (state.records other).runner = some runner → other = record) nofun slots.reader
    alone := fun first second runner left right =>
      slots.alone first second runner (readers first runner left) (readers second runner right) }

theorem slots_reserved (state : State) (slots : Slots state) (workspaceId : String) :
    Slots { (state.remove workspaceId).setRecord state.recordCount .reserved with
      registry := (workspaceId, state.recordCount) :: (state.remove workspaceId).registry
      recordCount := state.recordCount + 1 } where
  listed := fun entry member => by
    cases member with
    | head => exact Nat.lt_succ_self state.recordCount
    | tail _ old => exact Nat.lt_succ_of_lt (slots.listed entry (List.mem_filter.mp old).1)
  owned := fun record runner own => by
    simp only [State.setRecord, Function.update_apply] at own
    split at own
    · cases own
    · obtain ⟨below, there⟩ := slots.owned record runner own
      exact ⟨Nat.lt_succ_of_lt below, there⟩
  aimed := fun index record waits => Nat.lt_succ_of_lt (slots.aimed index record waits)
  held := fun record index holder => by
    simp only [State.setRecord, Function.update_apply] at holder
    split at holder
    · cases holder
    · exact Nat.lt_succ_of_lt (slots.held record index holder)
  locked := fun index record holds => by
    have holder := slots.locked index record holds
    simp only [State.setRecord]
    rw [Function.update_of_ne (Nat.ne_of_lt (slots.held record index holder))]
    exact holder
  unborn := slots.unborn
  handed := fun index runner assigns => by
    obtain ⟨there, free, unread⟩ := slots.handed index runner assigns
    refine ⟨there, fun record own => ?_, unread⟩
    simp only [State.setRecord, Function.update_apply] at own
    split at own
    · cases own
    · exact free record own
  once := slots.once
  single := fun record other runner own another => by
    simp only [State.setRecord, Function.update_apply] at own another
    split at own
    · cases own
    · split at another
      · cases another
      · exact slots.single record other runner own another
  reader := fun index record runner cancelled reading => by
    obtain ⟨there, only⟩ := slots.reader index record runner cancelled reading
    refine ⟨there, fun other own => ?_⟩
    simp only [State.setRecord, Function.update_apply] at own
    split at own
    · cases own
    · exact only other own
  alone := slots.alone

theorem slots_spawned (state : State) (slots : Slots state) (index record : Nat)
    (spawning : (state.calls index).stage = .spawning record) :
    Slots ({ state.setRunner state.runnerCount .spawned with runnerCount := state.runnerCount + 1 }.stand index
      (.assigning record state.runnerCount)) := by
  have readers (other runner : Nat) (reading : (standing state index (.assigning record state.runnerCount) other).stage.reads =
      some runner) : (state.calls other).stage.reads = some runner :=
    standing_all state index (.assigning record state.runnerCount) (fun other stage => stage.reads = some runner →
      (state.calls other).stage.reads = some runner) nofun (fun _ _ was => was) other reading
  have assigners (other runner : Nat) (assigning : (standing state index (.assigning record state.runnerCount) other).stage.assigns =
      some runner) : (other = index ∧ runner = state.runnerCount) ∨ (state.calls other).stage.assigns = some runner :=
    standing_all state index (.assigning record state.runnerCount) (fun other stage => stage.assigns = some runner →
      (other = index ∧ runner = state.runnerCount) ∨ (state.calls other).stage.assigns = some runner)
      (fun same => by cases same; exact .inl ⟨rfl, rfl⟩) (fun _ _ was => .inr was) other assigning
  exact {
    listed := slots.listed
    owned := fun record runner own => (slots.owned record runner own).imp id Nat.lt_succ_of_lt
    aimed := standing_all state index (.assigning record state.runnerCount) (fun _ stage => ∀ record, stage.waits = some record →
      record < state.recordCount) nofun fun other _ => slots.aimed other
    held := slots.held
    locked := standing_all state index (.assigning record state.runnerCount) (fun other stage => ∀ record, stage.holds = some record →
      (state.records record).holder = some other) nofun fun other _ => slots.locked other
    unborn := fun other late =>
      have there := slots_born state slots index (by rw [spawning]; nofun)
      (congrArg Call.stage (standing_other state index _ other (Nat.ne_of_gt (Nat.lt_of_lt_of_le there late)))).trans
        (slots.unborn other late)
    handed := fun other runner assigning => by
      rcases assigners other runner assigning with ⟨_, fresh⟩ | was
      · refine ⟨fresh ▸ Nat.lt_succ_self _, fun record own => ?_, fun third reading => ?_⟩
        · exact absurd fresh (Nat.ne_of_lt (slots.owned record runner own).2)
        · obtain ⟨record, cancelled, shape⟩ := reads_reading _ runner (readers third runner reading)
          exact absurd fresh (Nat.ne_of_lt (slots.reader third record runner cancelled shape).1)
      · obtain ⟨below, free, unread⟩ := slots.handed other runner was
        exact ⟨Nat.lt_succ_of_lt below, free, fun third reading => unread third (readers third runner reading)⟩
    once := fun first second runner left right => by
      rcases assigners first runner left with ⟨own, fresh⟩ | was
      · rcases assigners second runner right with ⟨another, _⟩ | wasRight
        · rw [own, another]
        · exact absurd fresh (Nat.ne_of_lt (slots.handed second runner wasRight).1)
      · rcases assigners second runner right with ⟨_, fresh⟩ | wasRight
        · exact absurd fresh (Nat.ne_of_lt (slots.handed first runner was).1)
        · exact slots.once first second runner was wasRight
    single := slots.single
    reader := standing_all state index (.assigning record state.runnerCount) (fun _ stage => ∀ record runner cancelled,
      stage = .reading record runner cancelled → runner < state.runnerCount + 1 ∧
        ∀ other, (state.records other).runner = some runner → other = record)
      nofun
      fun other _ record runner cancelled reading =>
        (slots.reader other record runner cancelled reading).imp Nat.lt_succ_of_lt id
    alone := fun first second runner left right =>
      slots.alone first second runner (readers first runner left) (readers second runner right) }

theorem slots_assigned (state : State) (slots : Slots state) (index record runner : Nat)
    (assigning : (state.calls index).stage = .assigning record runner) :
    Slots ((assignRunner state (state.calls index).header.workspaceId runner).stand index .finding) := by
  have own : (state.calls index).stage.assigns = some runner := by rw [assigning, Stage.assigns]
  obtain ⟨below, free, unread⟩ := slots.handed index runner own
  have moved (middle : State) (calls : middle.calls = state.calls) (kept : Slots middle) : Slots (middle.stand index .finding) :=
    slots_stand middle _ kept index .finding (sameSlots_stand middle middle index .finding (sameSlots_refl middle)) rfl
      (by rw [calls, assigning]; nofun) nofun nofun rfl nofun
  rcases assignRunner_found state (state.calls index).header.workspaceId runner with ⟨_, same⟩ | ⟨found, _, listed, same⟩
  · rw [same]
    exact moved state rfl slots
  rw [same]
  -- The call gives its runner up in the same step, so it is dropped from the calls first.
  refine slots_same ((state.stand index .finding).setRecord found { state.records found with runner := some runner }) _ ?_
    ⟨⟨fun _ => rfl, rfl, rfl, rfl, fun _ member => member⟩, fun _ => rfl⟩ rfl
  have dropped := moved state rfl slots
  have other (record : Nat) (holder : Nat) (isOwn : (Function.update state.records found
      { state.records found with runner := some runner } record).runner = some holder) :
      (record = found ∧ holder = runner) ∨ (state.records record).runner = some holder := by
    rw [Function.update_apply] at isOwn
    split at isOwn
    · rename_i here
      exact .inl ⟨here, (Option.some.inj isOwn).symm⟩
    · exact .inr isOwn
  have holders (record : Nat) : (Function.update state.records found
      { state.records found with runner := some runner } record).holder = (state.records record).holder := by
    rw [Function.update_apply]
    split
    · rename_i here
      rw [here]
    · rfl
  exact {
    listed := dropped.listed
    owned := fun record held isOwn => by
      rcases other record held isOwn with ⟨here, same⟩ | was
      · exact ⟨here ▸ slots.listed _ listed, same ▸ below⟩
      · exact slots.owned record held was
    aimed := dropped.aimed
    held := fun record index holder => slots.held record index (holders record ▸ holder)
    locked := fun index record holds => (holders record).trans (dropped.locked index record holds)
    unborn := dropped.unborn
    handed := fun third held assigns => by
      obtain ⟨there, nowhere, unseen⟩ := dropped.handed third held assigns
      refine ⟨there, fun record isOwn => ?_, unseen⟩
      rcases other record held isOwn with ⟨_, same⟩ | was
      · have before : (standing state index .finding third).stage.assigns = some runner := same ▸ assigns
        by_cases here : third = index
        · rw [here, standing_self] at before
          cases before
        · rw [standing_other state index _ third here] at before
          exact here (slots.once third index runner before own)
      · exact nowhere record was
    once := dropped.once
    single := fun first second held left right => by
      rcases other first held left with ⟨here, same⟩ | was
      · rcases other second held right with ⟨there, _⟩ | wasRight
        · rw [here, there]
        · exact absurd (same ▸ wasRight) (free second)
      · rcases other second held right with ⟨_, same⟩ | wasRight
        · exact absurd (same ▸ was) (free first)
        · exact slots.single first second held was wasRight
    reader := fun third record read cancelled reading => by
      obtain ⟨there, only⟩ := dropped.reader third record read cancelled reading
      refine ⟨there, fun second isOwn => ?_⟩
      rcases other second read isOwn with ⟨_, same⟩ | was
      · have readNow : (standing state index .finding third).stage.reads = some runner := by
          rw [show (standing state index .finding third).stage = .reading record read cancelled from reading, same]
          rfl
        by_cases here : third = index
        · rw [here, standing_self] at readNow
          cases readNow
        · rw [standing_other state index _ third here] at readNow
          exact absurd readNow (unread third)
      · exact only second was
    alone := dropped.alone }

theorem slots_locked (state : State) (slots : Slots state) (index record : Nat)
    (waiting : (state.calls index).stage = .waiting record) (free : (state.records record).holder = none) :
    Slots ((state.setRecord record { state.records record with holder := some index }).stand index (.locked record)) := by
  have below : record < state.recordCount := slots.aimed index record (by rw [waiting, Stage.waits])
  refine slots_moved state _ slots index (.locked record) (sameOwners_holder state record (some index) index _) rfl
    (by rw [waiting]; nofun) (fun other holder held => ?_) ?_ nofun rfl nofun
  · by_cases here : other = record
    · exact here ▸ below
    · simp only [State.setRecord, State.stand, Function.update_of_ne here] at held
      exact slots.held other holder held
  · refine standing_all state index (.locked record) (fun other stage => ∀ held, stage.holds = some held →
      (Function.update state.records record { state.records record with holder := some index } held).holder = some other)
      (fun held same => ?_) fun other _ held holding => ?_
    · cases same
      rw [Function.update_self]
    · have holder := slots.locked other held holding
      have different : held ≠ record := fun here => by
        rw [here, free] at holder
        cases holder
      rw [Function.update_of_ne different]
      exact holder

theorem slots_unlocked (state : State) (slots : Slots state) (index record : Nat) (answer : Answer)
    (unlocking : (state.calls index).stage = .unlocking record answer) :
    Slots ((state.setRecord record { state.records record with holder := none }).stand index (.returned answer)) := by
  have own : (state.records record).holder = some index := slots.locked index record (by rw [unlocking, Stage.holds])
  refine slots_moved state _ slots index (.returned answer) (sameOwners_holder state record none index _) rfl
    (by rw [unlocking]; intro same; cases same) (fun other holder held => ?_) ?_ (by intros; contradiction) rfl (by intros; contradiction)
  · by_cases here : other = record
    · rw [here]
      exact slots.held record index own
    · simp only [State.setRecord, State.stand, Function.update_of_ne here] at held
      exact slots.held other holder held
  · refine standing_all state index (.returned answer) (fun other stage => ∀ held, stage.holds = some held →
      (Function.update state.records record { state.records record with holder := none } held).holder = some other)
      (by intros; contradiction) fun other away held holding => ?_
    have holder := slots.locked other held holding
    have different : held ≠ record := fun here => by
      rw [here, own] at holder
      exact away (Option.some.inj holder).symm
    rw [Function.update_of_ne different]
    exact holder

theorem slots_unread (state : State) (slots : Slots state) (index record runner : Nat)
    (ready : (state.calls index).stage = .ready record) (own : (state.records record).runner = some runner)
    (other : Nat) : (state.calls other).stage.reads ≠ some runner := by
  intro reading
  obtain ⟨held, cancelled, shape⟩ := reads_reading _ runner reading
  have same : record = held := (slots.reader other held runner cancelled shape).2 record own
  have mine := slots.locked index record (by rw [ready, Stage.holds])
  have others := slots.locked other held (by rw [shape, Stage.holds])
  rw [← same, mine] at others
  rw [← Option.some.inj others, ready] at shape
  cases shape

theorem slots_wrote (state : State) (slots : Slots state) (index record runner : Nat) (process : Runner)
    (ready : (state.calls index).stage = .ready record) (own : (state.records record).runner = some runner) :
    Slots ((state.setRunner runner process).stand index (.reading record runner false)) := by
  refine slots_moved state _ slots index (.reading record runner false) ⟨fun _ => rfl, rfl, rfl, rfl, fun _ member => member⟩
    rfl (by rw [ready]; nofun) slots.held
    (standing_all state index (.reading record runner false) (fun other stage => ∀ held, stage.holds = some held →
      (state.records held).holder = some other) (fun held same => ?_) fun other _ => slots.locked other)
    nofun rfl fun read another cancelled same => ?_
  · exact slots.locked index held (by rw [ready]; exact same)
  · cases same
    exact ⟨⟨(slots.owned record runner own).2, fun other another => slots.single other record runner another own⟩,
      fun other assigning => (slots.handed other runner assigning).2.1 record own,
      fun other _ => slots_unread state slots index record runner ready own other⟩

theorem sameSlots_runner (state : State) (runner : Nat) (process : Runner) (index : Nat) (stage : Stage) :
    SameSlots state ((state.setRunner runner process).stand index stage) :=
  ⟨⟨fun _ => rfl, rfl, rfl, rfl, fun _ member => member⟩, fun _ => rfl⟩

theorem sameSlots_close (state : State) (record : Nat) :
    SameSlots state (closeRunner state record) ∧ (closeRunner state record).calls = state.calls := by
  unfold closeRunner
  split
  · exact ⟨sameSlots_refl state, rfl⟩
  · exact ⟨⟨⟨fun _ => rfl, rfl, rfl, rfl, fun _ member => member⟩, fun _ => rfl⟩, rfl⟩

theorem softStage_keeps (header : CommandHeader) (before after : Stage) (moved : SoftStage header before after) :
    before ≠ .unborn ∧ (∀ record, after.holds = some record → before.holds = some record) ∧ after.assigns = none ∧
      after.reads = none := by
  cases moved with
  | refused stage early reason =>
      rcases early with rfl | ⟨record, rfl⟩ | rfl
      · exact ⟨nofun, nofun, rfl, rfl⟩
      · exact ⟨nofun, nofun, rfl, rfl⟩
      · exact ⟨nofun, nofun, rfl, rfl⟩
  | routed => exact ⟨nofun, nofun, rfl, rfl⟩
  | found record => exact ⟨nofun, nofun, rfl, rfl⟩
  | marked record => exact ⟨nofun, fun _ holds => holds, rfl, rfl⟩
  | gaveUp record reason => exact ⟨nofun, fun _ holds => holds, rfl, rfl⟩
  | removed record answer => exact ⟨nofun, fun _ holds => holds, rfl, rfl⟩
  | stored record answer => exact ⟨nofun, fun _ holds => holds, rfl, rfl⟩
  | cleared record answer => exact ⟨nofun, fun _ holds => holds, rfl, rfl⟩

theorem softStage_waits (header : CommandHeader) (before after : Stage) (moved : SoftStage header before after)
    (record : Nat) (waits : after.waits = some record) : after = .waiting record := by
  cases moved with
  | found found => cases waits; rfl
  | _ => cases waits

theorem reads_none (stage : Stage) (none : stage.reads = none) (record runner : Nat) (cancelled : Bool) :
    stage ≠ .reading record runner cancelled := by
  intro reading
  rw [reading] at none
  cases none

theorem slots_effect (maxWorkspaces : Nat) (state next : State) (label : Label) (slots : Slots state)
    (effect : Effect maxWorkspaces state next label) : Slots next := by
  cases effect with
  | called header same => exact same ▸ slots_called state slots header
  | soft index stage deed =>
      obtain ⟨same, _, calls, moved⟩ := deed_keeps state next index stage deed
      obtain ⟨born, holds, assigns, reads⟩ := softStage_keeps _ _ _ moved
      refine slots_stand state next slots index stage same calls born holds (fun record waits => ?_) assigns
        fun record runner cancelled reading => absurd reading (reads_none stage reads record runner cancelled)
      have found := deed_sendable state next index stage deed record (softStage_waits _ _ _ moved record waits)
      obtain ⟨runner, own⟩ := Option.isSome_iff_exists.mp found
      exact (slots.owned record runner own).1
  | reaped workspaceId same => exact same ▸ slots_same state _ slots (sameSlots_remove state workspaceId) rfl
  | closedAll same => exact same ▸ slots_same state _ slots (sameSlots_closeAll state) rfl
  | reserved index workspaceId entering named free room same =>
      rw [same]
      refine slots_stand _ _ (slots_reserved state slots workspaceId) index (.spawning state.recordCount)
        (sameSlots_stand _ _ index _ (sameSlots_refl _)) rfl ?_ (by intros; contradiction) (by intros; contradiction) rfl (by intros; contradiction)
      exact fun unborn => by cases entering.symm.trans unborn
  | spawned index record spawning same => exact same ▸ slots_spawned state slots index record spawning
  | assigned index record runner assigning same => exact same ▸ slots_assigned state slots index record runner assigning
  | locked index record waiting free same => exact same ▸ slots_locked state slots index record waiting free
  | unlocked index record answer unlocking same => exact same ▸ slots_unlocked state slots index record answer unlocking
  | wrote index record runner ready own open_ same => exact same ▸ slots_wrote state slots index record runner _ ready own
  | brokeOff index record runner reason ready own open_ same =>
      rw [same]
      exact slots_stand state _ slots index (.failed record reason) (sameSlots_runner state runner _ index _) rfl
        (by rw [ready]; intro same; cases same) (by rw [ready]; exact fun _ holds => holds) (by intros; contradiction) rfl (by intros; contradiction)
  | stopped index record reason began same =>
      rw [same]
      refine slots_stand state _ slots index (.failed record reason) (sameSlots_stand state state index _ (sameSlots_refl state))
        rfl ?_ ?_ (by intros; contradiction) rfl (by intros; contradiction)
      · rcases began with ⟨ready, _⟩ | ⟨runner, cancelled, reading⟩
        · rw [ready]; intro same; cases same
        · rw [reading]; intro same; cases same
      · rcases began with ⟨ready, _⟩ | ⟨runner, cancelled, reading⟩
        · rw [ready]; exact fun _ holds => holds
        · rw [reading]; exact fun _ holds => holds
  | forwards index record runner cancelled event rest reading front progress same =>
      rw [same]
      exact slots_same state _ slots ⟨⟨fun _ => rfl, rfl, rfl, rfl, fun _ member => member⟩, fun _ => rfl⟩ rfl
  | drops index record runner event rest reason reading front same =>
      rw [same]
      exact slots_stand state _ slots index (.failed record reason) (sameSlots_runner state runner _ index _) rfl
        (by rw [reading]; intro same; cases same) (by rw [reading]; exact fun _ holds => holds) (by intros; contradiction) rfl (by intros; contradiction)
  | answers index record runner event rest outcome stage reading front ends after same =>
      rw [same]
      rcases after with rfl | rfl | rfl
      all_goals
        exact slots_stand state _ slots index _ (sameSlots_runner state runner _ index _) rfl
          (by rw [reading]; intro same; cases same) (by rw [reading]; exact fun _ holds => holds) (by intros; contradiction) rfl (by intros; contradiction)
  | closed index record answer closing same =>
      rw [same]
      obtain ⟨slotsSame, calls⟩ := sameSlots_close state record
      exact slots_stand state _ slots index (.clearing record answer) (sameSlots_stand state _ index _ slotsSame)
        (by rw [State.stand, calls]; rfl) (by rw [closing]; intro same; cases same) (by rw [closing]; exact fun _ holds => holds) (by intros; contradiction) rfl (by intros; contradiction)
  | closedNext record doomed same =>
      rw [same]
      obtain ⟨slotsSame, calls⟩ := sameSlots_close state record
      exact slots_same state _ slots ⟨⟨slotsSame.runner, slotsSame.recordCount, slotsSame.runnerCount, slotsSame.callCount,
        slotsSame.registry⟩, slotsSame.holder⟩ calls
  | cancelled index record runner reading same =>
      rw [same]
      refine slots_stand state _ slots index (.reading record runner true)
        (sameSlots_stand state state index _ (sameSlots_refl state)) rfl (by rw [reading]; intro same; cases same)
        (by rw [reading]; exact fun _ holds => holds) (by intros; contradiction) rfl fun read other cancelled shape => ?_
      cases shape
      exact ⟨false, reading⟩
  | child runner act after there took same =>
      rw [same]
      exact slots_same state _ slots ⟨⟨fun _ => rfl, rfl, rfl, rfl, fun _ member => member⟩, fun _ => rfl⟩ rfl

theorem slots_started (orphans : List (String × String)) : Slots (.started orphans) := by
  have empty (record : Nat) : ((State.started orphans).records record).runner = none ∧
      ((State.started orphans).records record).holder = none := by
    simp only [State.started]
    split <;> exact ⟨rfl, rfl⟩
  have unowned (record runner : Nat) (own : ((State.started orphans).records record).runner = some runner) : False := by
    rw [(empty record).1] at own
    cases own
  exact {
    listed := fun entry member => by
      obtain ⟨orphan, listed, same⟩ := List.mem_map.mp member
      rw [← same]
      have below := (List.mem_zipIdx listed).2.1
      rw [Nat.zero_add] at below
      exact below
    owned := fun record runner own => (unowned record runner own).elim
    aimed := nofun
    held := fun record index holder => by
      rw [(empty record).2] at holder
      cases holder
    locked := nofun
    unborn := fun _ _ => rfl
    handed := nofun
    once := nofun
    single := fun record other runner own _ => (unowned record runner own).elim
    reader := nofun
    alone := nofun }

end Yaaos.Agent.Pool
