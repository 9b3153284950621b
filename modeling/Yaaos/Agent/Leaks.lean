import Yaaos.Agent.Ledger
import Yaaos.Agent.LockStep

set_option autoImplicit false

namespace Yaaos.Agent.Pool

open Yaaos.Base

-- Where every runner is in an orderly run: in the hands of its call, then in one filed
-- record, then closed. A filed record that is Active has an open runner, and one that
-- is not has a runner that somebody closes.
structure Kept (state : State) : Prop where
  empty : ∀ index record, (state.calls index).stage.builds = some record →
    (state.records record).runner = none ∧ (state.records record).state = .active
  handedOpen : ∀ index runner, (state.calls index).stage.assigns = some runner → (state.runners runner).stdinOpen = true
  live : ∀ entry ∈ state.registry, (state.records entry.2).state = .active → ∀ runner,
    (state.records entry.2).runner = some runner → (state.runners runner).stdinOpen = true
  spent : ∀ entry ∈ state.registry, (state.records entry.2).state ≠ .active → ∀ runner,
    (state.records entry.2).runner = some runner → Spoken state runner
  begins : ∀ index record, (state.calls index).stage.starts = some record → ∀ runner,
    (state.records record).runner = some runner → (state.runners runner).stdinOpen = true
  placed : ∀ runner, runner < state.runnerCount → Spoken state runner ∨
    ∃ entry ∈ state.registry, (state.records entry.2).runner = some runner
  reads : ∀ index record runner cancelled, (state.calls index).stage = .reading record runner cancelled →
    (state.records record).runner = some runner
  manned : ∀ index record, (state.calls index).stage.closes = some record → (state.records record).runner ≠ none
  shut : ∀ index record answer, (state.calls index).stage = .closing record answer → ∀ entry ∈ state.registry,
    entry.2 = record → (state.records record).state ≠ .active
  gone : ∀ record ∈ state.doomed, record < state.recordCount ∧ ∀ entry ∈ state.registry, entry.2 ≠ record

variable (state next : State) (maxWorkspaces : Nat) (before : Call)

theorem spoken_frame (runner : Nat) (spoken : Spoken state runner)
    (closed : (state.runners runner).stdinOpen = false → (next.runners runner).stdinOpen = false)
    (runners : ∀ record, (state.records record).runner = some runner → (next.records record).runner = some runner)
    (doomed : ∀ record ∈ state.doomed, (state.records record).runner = some runner →
      record ∈ next.doomed ∨ (next.runners runner).stdinOpen = false)
    (calls : ∀ index, ((state.calls index).stage.assigns = some runner → (next.calls index).stage.assigns = some runner) ∧
      ∀ record, (state.calls index).stage.closes = some record → (state.records record).runner = some runner →
        (next.calls index).stage.closes = some record ∨ (next.runners runner).stdinOpen = false) : Spoken next runner := by
  rcases spoken with shut | ⟨index, assigns⟩ | ⟨index, record, closes, own⟩ | ⟨record, member, own⟩
  · exact .inl (closed shut)
  · exact .inr (.inl ⟨index, (calls index).1 assigns⟩)
  · rcases (calls index).2 record closes own with still | shut
    · exact .inr (.inr (.inl ⟨index, record, still, runners record own⟩))
    · exact .inl shut
  · rcases doomed record member own with still | shut
    · exact .inr (.inr (.inr ⟨record, still, runners record own⟩))
    · exact .inl shut

def Shut (state next : State) (record : Nat) : Prop :=
  ∀ runner, (state.records record).runner = some runner → (next.runners runner).stdinOpen = false

structure Calm (state : State) (next : State) (before after : Call) : Prop where
  builds : ∀ record, after.stage.builds = some record → before.stage.builds = some record
  assigns : ∀ runner, after.stage.assigns = some runner ↔ before.stage.assigns = some runner
  closes : ∀ record, before.stage.closes = some record → after.stage.closes = some record ∨ Shut state next record
  starts : ∀ record, after.stage.starts = some record → before.stage.starts = some record ∨
    ∃ entry ∈ state.registry, entry.2 = record ∧ (state.records record).state = .active
  reads : ∀ record runner cancelled, after.stage = .reading record runner cancelled →
    (state.records record).runner = some runner
  manned : ∀ record, after.stage.closes = some record →
    before.stage.closes = some record ∨ (state.records record).runner ≠ none
  shut : ∀ record answer, after.stage = .closing record answer → ∀ entry ∈ next.registry, entry.2 = record →
    (state.records record).state ≠ .active

theorem calm_refl (kept : Kept state) (registry : ∀ entry ∈ next.registry, entry ∈ state.registry)
    (index : Nat) : Calm state next (state.calls index) (state.calls index) :=
  ⟨fun _ same => same, fun _ => Iff.rfl, fun _ same => .inl same, fun _ same => .inl same, kept.reads index,
    fun _ same => .inl same,
    fun record answer closing entry member => kept.shut index record answer closing entry (registry entry member)⟩

theorem kept_frame (kept : Kept state)
    (records : ∀ record, (next.records record).runner = (state.records record).runner ∧
      (next.records record).state = (state.records record).state)
    (opened : ∀ runner, (next.runners runner).stdinOpen = (state.runners runner).stdinOpen)
    (runnerCount : next.runnerCount = state.runnerCount) (recordCount : next.recordCount = state.recordCount)
    (doomed : (∀ record ∈ next.doomed, record ∈ state.doomed) ∧
      ∀ record ∈ state.doomed, record ∈ next.doomed ∨ Shut state next record)
    (registry : ∀ entry ∈ next.registry, entry ∈ state.registry)
    (dropped : ∀ entry ∈ state.registry, entry ∉ next.registry → ∀ runner, (state.records entry.2).runner = some runner →
      Spoken next runner)
    (calls : ∀ index, Calm state next (state.calls index) (next.calls index)) : Kept next := by
  have spoken (runner : Nat) (was : Spoken state runner) : Spoken next runner :=
    spoken_frame state next runner was (fun shut => (opened runner).trans shut)
      (fun record own => ((records record).1).trans own)
      (fun record member own => (doomed.2 record member).imp id fun shut => shut runner own)
      fun index => ⟨((calls index).assigns runner).mpr,
        fun record closes own => ((calls index).closes record closes).imp id fun shut => shut runner own⟩
  refine ⟨fun index record builds => ?_, fun index runner assigns => ?_, fun entry member active runner own => ?_,
    fun entry member inactive runner own => ?_, fun index record starts runner own => ?_, fun runner below => ?_,
    fun index record runner cancelled reading => ?_, fun index record closes => ?_,
    fun index record answer closing entry member same => ?_, fun record member => ?_⟩
  · rw [(records record).1, (records record).2]
    exact kept.empty index record ((calls index).builds record builds)
  · exact (opened runner).trans (kept.handedOpen index runner (((calls index).assigns runner).mp assigns))
  · rw [(records entry.2).1] at own
    rw [(records entry.2).2] at active
    exact (opened runner).trans (kept.live entry (registry entry member) active runner own)
  · rw [(records entry.2).1] at own
    rw [(records entry.2).2] at inactive
    exact spoken runner (kept.spent entry (registry entry member) inactive runner own)
  · rw [(records record).1] at own
    rw [opened]
    rcases (calls index).starts record starts with was | ⟨entry, member, same, active⟩
    · exact kept.begins index record was runner own
    · exact kept.live entry member (same ▸ active) runner (same ▸ own)
  · rw [runnerCount] at below
    rcases kept.placed runner below with was | ⟨entry, member, own⟩
    · exact .inl (spoken runner was)
    · by_cases there : entry ∈ next.registry
      · exact .inr ⟨entry, there, (records entry.2).1.trans own⟩
      · exact .inl (dropped entry member there runner own)
  · exact (records record).1.trans ((calls index).reads record runner cancelled reading)
  · rw [(records record).1]
    exact ((calls index).manned record closes).elim (kept.manned index record) id
  · rw [(records record).2]
    exact (calls index).shut record answer closing entry member same
  · obtain ⟨below, unfiled⟩ := kept.gone record (doomed.1 record member)
    exact ⟨recordCount ▸ below, fun entry there => unfiled entry (registry entry there)⟩

theorem kept_turn (kept : Kept state) (index : Nat) (stage : Stage)
    (records : ∀ record, (next.records record).runner = (state.records record).runner ∧
      (next.records record).state = (state.records record).state)
    (opened : ∀ runner, (next.runners runner).stdinOpen = (state.runners runner).stdinOpen)
    (same : SameOwners state next) (doomed : next.doomed = state.doomed) (registry : next.registry = state.registry)
    (calls : next.calls = standing state index stage)
    (calm : Calm state next (state.calls index) { state.calls index with stage := stage }) : Kept next := by
  refine kept_frame state next kept records opened same.runnerCount same.recordCount
    ⟨fun record member => doomed ▸ member, fun record member => .inl (doomed ▸ member)⟩ same.registry
    (fun entry member gone => absurd (registry ▸ member) gone) fun other => ?_
  rw [calls]
  by_cases here : other = index
  · rw [here, standing, Function.update_self]
    exact calm
  · rw [standing_other state index stage other here]
    exact calm_refl state next kept same.registry other

theorem calm_plain (stage : Stage)
    (after : stage.builds = none ∧ stage.assigns = none ∧ stage.closes = none ∧ stage.reads = none)
    (plain : before.stage.assigns = none ∧ before.stage.closes = none)
    (starts : ∀ record, stage.starts = some record → before.stage.starts = some record) :
    Calm state next before { before with stage := stage } where
  builds := fun record same => absurd (after.1.symm.trans same) nofun
  assigns := fun runner => by rw [show Stage.assigns _ = none from after.2.1, plain.1]
  closes := fun record same => absurd (plain.2.symm.trans same) nofun
  starts := fun record same => .inl (starts record same)
  reads := fun record runner cancelled same => absurd same (reads_none stage after.2.2.2 record runner cancelled)
  manned := fun record same => absurd (after.2.2.1.symm.trans same) nofun
  shut := fun record answer same => by
    have closes := after.2.2.1
    rw [show stage = .closing record answer from same] at closes
    cases closes

theorem calm_closes (stage : Stage) (record : Nat)
    (after : stage.builds = none ∧ stage.assigns = none ∧ stage.starts = none ∧ stage.reads = none)
    (holds : stage.closes = some record) (unassigned : before.stage.assigns = none)
    (closes : before.stage.closes = some record ∨ before.stage.closes = none ∧ (state.records record).runner ≠ none)
    (shut : ∀ answer, stage = .closing record answer → ∀ entry ∈ next.registry, entry.2 = record →
      (state.records record).state ≠ .active) : Calm state next before { before with stage := stage } where
  builds := fun other same => absurd (after.1.symm.trans same) (Option.some_ne_none other).symm
  assigns := fun runner => by rw [show Stage.assigns _ = none from after.2.1, unassigned]
  closes := fun other same => by
    rcases closes with own | ⟨none, _⟩
    · exact .inl ((holds.trans own.symm).trans same)
    · exact absurd (none.symm.trans same) (Option.some_ne_none other).symm
  starts := fun other same => absurd (after.2.2.1.symm.trans same) (Option.some_ne_none other).symm
  reads := fun other runner cancelled same => absurd same (reads_none stage after.2.2.2 other runner cancelled)
  manned := fun other same => by
    cases holds.symm.trans same
    exact closes.imp id And.right
  shut := fun other answer same entry member here => by
    have closing : stage = .closing other answer := same
    rw [closing] at holds
    cases holds
    exact shut answer closing entry member here

theorem calm_reading (record runner : Nat) (cancelled : Bool)
    (plain : before.stage.assigns = none ∧ before.stage.closes = none) (own : (state.records record).runner = some runner) :
    Calm state next before { before with stage := .reading record runner cancelled } where
  builds := by intros; contradiction
  assigns := fun _ => by rw [plain.1]; exact Iff.rfl
  closes := fun other same => absurd (plain.2.symm.trans same) (Option.some_ne_none other).symm
  starts := by intros; contradiction
  reads := fun other held ended same => by
    cases same
    exact own
  manned := by intros; contradiction
  shut := by intros; contradiction

theorem kept_defunct (state : State) (kept : Kept state) (index record : Nat)
    (closes : (state.calls index).stage.closes = some record) :
    Kept (state.setRecord record { state.records record with state := .defunct }) := by
  have runners (other : Nat) : ((state.setRecord record { state.records record with state := .defunct }).records other).runner =
      (state.records other).runner := by
    simp only [State.setRecord, Function.update_apply]
    split
    · rename_i here
      rw [here]
    · rfl
  have spoken (runner : Nat) (was : Spoken state runner) :
      Spoken (state.setRecord record { state.records record with state := .defunct }) runner :=
    spoken_frame state _ runner was id (fun other own => (runners other).trans own) (fun other member _ => .inl member)
      fun other => ⟨id, fun held closing _ => .inl closing⟩
  have states (other : Nat) (away : other ≠ record) :
      (state.setRecord record { state.records record with state := .defunct }).records other = state.records other :=
    Function.update_of_ne away _ _
  have own : (state.setRecord record { state.records record with state := .defunct }).records record =
      { state.records record with state := .defunct } := Function.update_self record _ _
  have unbuilt (other built : Nat) (builds : (state.calls other).stage.builds = some built) : built ≠ record := fun here =>
    kept.manned index record closes (here ▸ (kept.empty other built builds).1)
  refine ⟨fun other built builds => by rw [states built (unbuilt other built builds)]; exact kept.empty other built builds,
    kept.handedOpen,
    fun entry member active runner isOwn => ?_, fun entry member inactive runner isOwn => ?_,
    fun index record starts runner isOwn => kept.begins index record starts runner ((runners record).symm.trans isOwn),
    fun runner below => ?_, fun index record runner cancelled reading => (runners record).trans
      (kept.reads index record runner cancelled reading),
    fun other held closing => by rw [runners]; exact kept.manned other held closing,
    fun other held answer closing entry member same => ?_, kept.gone⟩
  · by_cases here : entry.2 = record
    · rw [here, own] at active
      cases active
    · rw [states entry.2 here] at active
      exact kept.live entry member active runner ((runners entry.2).symm.trans isOwn)
  · have was := (runners entry.2).symm.trans isOwn
    by_cases here : entry.2 = record
    · exact .inr (.inr (.inl ⟨index, record, closes, (runners record).trans (here ▸ was)⟩))
    · rw [states entry.2 here] at inactive
      exact spoken runner (kept.spent entry member inactive runner was)
  · rcases kept.placed runner below with before | ⟨entry, member, isOwn⟩
    · exact .inl (spoken runner before)
    · exact .inr ⟨entry, member, (runners entry.2).trans isOwn⟩
  · by_cases here : held = record
    · rw [here, own]
      intro same
      cases same
    · rw [states held here]
      exact kept.shut other held answer closing entry member same

structure Handled (state : State) (stage : Stage) : Prop where
  empty : ∀ record, stage.builds = some record →
    (state.records record).runner = none ∧ (state.records record).state = .active
  handedOpen : ∀ runner, stage.assigns = some runner → (state.runners runner).stdinOpen = true
  begins : ∀ record, stage.starts = some record → ∀ runner, (state.records record).runner = some runner →
    (state.runners runner).stdinOpen = true
  reads : ∀ record runner cancelled, stage = .reading record runner cancelled → (state.records record).runner = some runner
  manned : ∀ record, stage.closes = some record → (state.records record).runner ≠ none
  shut : ∀ record answer, stage = .closing record answer → ∀ entry ∈ state.registry, entry.2 = record →
    (state.records record).state ≠ .active

theorem kept_handled (state : State) (kept : Kept state) (index : Nat) : Handled state (state.calls index).stage :=
  ⟨kept.empty index, kept.handedOpen index, kept.begins index, kept.reads index, kept.manned index, kept.shut index⟩

theorem handled_plain (state : State) (stage : Stage) (starts : stage.starts = none) (closes : stage.closes = none)
    (reads : stage.reads = none)
    (empty : ∀ record, stage.builds = some record →
      (state.records record).runner = none ∧ (state.records record).state = .active)
    (handedOpen : ∀ runner, stage.assigns = some runner → (state.runners runner).stdinOpen = true) :
    Handled state stage where
  empty := empty
  handedOpen := handedOpen
  begins := fun record same => absurd (starts.symm.trans same) (Option.some_ne_none record).symm
  reads := fun record runner cancelled same => absurd same (reads_none stage reads record runner cancelled)
  manned := fun record same => absurd (closes.symm.trans same) (Option.some_ne_none record).symm
  shut := fun record answer same => by
    rw [same] at closes
    cases closes

theorem kept_turned (index : Nat) (stage : Stage) (calls : next.calls = standing state index stage)
    (moved : Handled next stage) (others : ∀ other, other ≠ index → Handled next (state.calls other).stage)
    (live : ∀ entry ∈ next.registry, (next.records entry.2).state = .active → ∀ runner,
      (next.records entry.2).runner = some runner → (next.runners runner).stdinOpen = true)
    (spent : ∀ entry ∈ next.registry, (next.records entry.2).state ≠ .active → ∀ runner,
      (next.records entry.2).runner = some runner → Spoken next runner)
    (placed : ∀ runner, runner < next.runnerCount → Spoken next runner ∨
      ∃ entry ∈ next.registry, (next.records entry.2).runner = some runner)
    (gone : ∀ record ∈ next.doomed, record < next.recordCount ∧ ∀ entry ∈ next.registry, entry.2 ≠ record) : Kept next := by
  have handled (other : Nat) : Handled next (next.calls other).stage := by
    rw [calls]
    exact standing_all state index stage (fun _ stage => Handled next stage) moved others other
  exact ⟨fun other => (handled other).empty, fun other => (handled other).handedOpen, live, spent,
    fun other => (handled other).begins, placed, fun other => (handled other).reads, fun other => (handled other).manned,
    fun other => (handled other).shut, gone⟩

theorem spoken_turned (index : Nat) (stage : Stage) (runner : Nat) (spoken : Spoken state runner)
    (closed : (state.runners runner).stdinOpen = false → (next.runners runner).stdinOpen = false)
    (runners : ∀ record, (state.records record).runner = some runner → (next.records record).runner = some runner)
    (doomed : next.doomed = state.doomed) (calls : next.calls = standing state index stage)
    (assigns : (state.calls index).stage.assigns = some runner → stage.assigns = some runner)
    (closes : (state.calls index).stage.closes = none) : Spoken next runner := by
  refine spoken_frame state next runner spoken closed runners (fun record member _ => .inl (doomed ▸ member)) fun other => ?_
  rw [calls]
  refine standing_relates state index stage (fun before after =>
    (before.stage.assigns = some runner → after.stage.assigns = some runner) ∧ ∀ record,
      before.stage.closes = some record → (state.records record).runner = some runner →
        after.stage.closes = some record ∨ (next.runners runner).stdinOpen = false)
    (fun call => ⟨id, fun record same _ => .inl same⟩) ⟨assigns, fun record same => ?_⟩ other
  exact absurd (closes.symm.trans same) (Option.some_ne_none record).symm

theorem change_frame (state : State) (workspaceId : String) (change : Record → Record) :
    (state.change workspaceId change).registry = state.registry ∧ (state.change workspaceId change).doomed = state.doomed ∧
      (state.change workspaceId change).runners = state.runners := by
  unfold State.change
  split <;> exact ⟨rfl, rfl, rfl⟩

theorem names_holds (stage : Stage) (record : Nat) (holds : stage.holds = some record) : stage.names = some record := by
  cases stage with
  | waiting other => cases holds
  | spawning other => cases holds
  | assigning other runner => cases holds
  | unborn => cases holds
  | entering => cases holds
  | finding => cases holds
  | returned answer => cases holds
  | _ => exact holds

theorem kept_changed (state : State) (kept : Kept state) (workspaceId : String) (change : Record → Record)
    (runner : ∀ record, (change record).runner = record.runner) (same : ∀ record, (change record).state = record.state)
    (holder : ∀ record, (change record).holder = record.holder) (index : Nat) (stage : Stage)
    (calm : Calm state ((state.change workspaceId change).stand index stage) (state.calls index)
      { state.calls index with stage := stage }) : Kept ((state.change workspaceId change).stand index stage) := by
  obtain ⟨slots, _, calls⟩ := sameSlots_change state workspaceId change runner holder
  obtain ⟨registry, doomed, runners⟩ := change_frame state workspaceId change
  refine kept_turn state _ kept index stage (fun record => ⟨slots.runner record, ?_⟩) (fun other => ?_)
    (sameSlots_stand state _ index stage slots).toSameOwners doomed registry (by rw [State.stand, calls]; rfl) calm
  · exact change_keeps Record.state state workspaceId change same record
  · rw [State.stand, runners]

theorem kept_deed {env : Env} (state next : State) (index : Nat) (stage : Stage) (kept : Kept state) (listed : Listed state)
    (orderly : Orderly state (.advance index env)) (deed : Deed env state index stage next) :
    Kept next := by
  have still (calm : Calm state (state.stand index stage) (state.calls index) { state.calls index with stage := stage }) :
      Kept (state.stand index stage) :=
    kept_turn state _ kept index stage (fun _ => ⟨rfl, rfl⟩) (fun _ => rfl)
      (sameSlots_stand state state index stage (sameSlots_refl state)).toSameOwners rfl rfl rfl calm
  have removes (dropped : ∀ entry ∈ state.registry, entry.1 = (state.calls index).header.workspaceId → ∀ runner,
      (state.records entry.2).runner = some runner →
        Spoken ((state.remove (state.calls index).header.workspaceId).stand index stage) runner)
      (calm : Calm state ((state.remove (state.calls index).header.workspaceId).stand index stage) (state.calls index)
        { state.calls index with stage := stage }) :
      Kept ((state.remove (state.calls index).header.workspaceId).stand index stage) := by
    have fewer : ∀ entry ∈ (state.remove (state.calls index).header.workspaceId).registry, entry ∈ state.registry :=
      fun entry member => (List.mem_filter.mp member).1
    refine kept_frame state _ kept (fun _ => ⟨rfl, rfl⟩) (fun _ => rfl) rfl rfl
      ⟨fun _ member => member, fun _ member => .inl member⟩ fewer (fun entry member gone => ?_) fun other => ?_
    · refine dropped entry member (Classical.byContradiction fun away => gone ?_)
      exact List.mem_filter.mpr ⟨member, decide_eq_true away⟩
    · change Calm state ((state.remove (state.calls index).header.workspaceId).stand index stage) (state.calls other)
        (standing state index stage other)
      by_cases here : other = index
      · rw [here, standing, Function.update_self]
        exact calm
      · rw [standing_other state index stage other here]
        exact calm_refl state ((state.remove (state.calls index).header.workspaceId).stand index stage) kept fewer other
  cases deed with
  | routed entering =>
      exact still (calm_plain state _ _ _ ⟨rfl, rfl, rfl, rfl⟩ (by rw [entering]; exact ⟨rfl, rfl⟩) (by intros; contradiction))
  | refused early reason =>
      refine still (calm_plain state _ _ _ ⟨rfl, rfl, rfl, rfl⟩ ?_ (by intros; contradiction))
      rcases early with same | same <;> rw [same] <;> exact ⟨rfl, rfl⟩
  | unspawned record reason spawning fails =>
      simp only [Orderly, spawning, fails] at orderly
      have own := orderly.resolve_left fun same => by cases same
      have builds : (state.calls index).stage.builds = some record := by rw [spawning]; rfl
      have named := (listed.named index record (by rw [Stage.names, builds]; rfl)).2
      refine removes (fun entry member same runner isOwn => ?_)
        (calm_plain state _ _ _ ⟨rfl, rfl, rfl, rfl⟩ (by rw [spawning]; exact ⟨rfl, rfl⟩) (by intros; contradiction))
      have here := (own_listed state listed _ record own named entry member).mp same
      rw [here, (kept.empty index record builds).1] at isOwn
      cases isOwn
  | found record finding sendable =>
      obtain ⟨found, there⟩ := Option.filter_eq_some_iff.mp sendable
      rw [Bool.and_eq_true, decide_eq_true_iff] at there
      refine still ⟨(by intros; contradiction), fun runner => ?_, ?_, fun other starts => ?_, (by intros; contradiction), (by intros; contradiction), (by intros; contradiction)⟩
      · rw [finding]
        exact Iff.rfl
      · rw [finding]
        intros; contradiction
      · cases starts
        exact .inr ⟨_, lookup_listed state _ record found, rfl, there.1⟩
  | marked record locked =>
      exact kept_changed state kept (state.calls index).header.workspaceId
        (fun record => { record with currentCommandId := (state.calls index).header.commandId }) (fun _ => rfl) (fun _ => rfl)
        (fun _ => rfl) index (.ready record) (calm_plain state _ _ (.ready record) ⟨rfl, rfl, rfl, rfl⟩
          (by rw [locked]; exact ⟨rfl, rfl⟩) fun other starts => by rw [locked]; exact starts)
  | gaveUp record reason failed =>
      simp only [Orderly, failed] at orderly
      have closes : (state.calls index).stage.closes = some record := by rw [failed]; rfl
      have named := (listed.named index record (names_holds _ record (by rw [failed]; rfl))).2
      have calm (middle : State) (calls : middle.calls = state.calls)
          (defunct : ∀ entry ∈ middle.registry, entry.2 = record → (middle.records record).state ≠ .active) :
          Calm middle (middle.stand index (.closing record (synthetic (state.calls index).header reason))) (middle.calls index)
            { middle.calls index with stage := .closing record (synthetic (state.calls index).header reason) } := by
        rw [calls]
        exact calm_closes middle _ _ _ record ⟨rfl, rfl, rfl, rfl⟩ rfl (by rw [failed]; rfl) (.inl closes)
          fun _ _ entry member here => defunct entry member here
      rcases orderly with found | none
      · have changed : markDefunct state (state.calls index).header.workspaceId =
            state.setRecord record { state.records record with state := .defunct } := by
          rw [markDefunct, State.change, found]
        rw [changed]
        refine kept_turn _ _ (kept_defunct state kept index record closes) index _ (fun _ => ⟨rfl, rfl⟩) (fun _ => rfl)
          (sameSlots_stand _ _ index _ (sameSlots_refl _)).toSameOwners rfl rfl rfl (calm _ rfl fun entry member here => ?_)
        simp only [State.setRecord, Function.update_self]
        intro same
        cases same
      · have unchanged : markDefunct state (state.calls index).header.workspaceId = state := by
          rw [markDefunct, State.change, none]
        rw [unchanged]
        refine still (calm state rfl fun entry member here => ?_)
        exact absurd (named entry member here) (lookup_unlisted state _ none entry member)
  | removed record answer removing =>
      simp only [Orderly, removing] at orderly
      have named := (listed.named index record (names_holds _ record (by rw [removing]; rfl))).2
      have closes : (state.calls index).stage.closes = some record := by rw [removing]; rfl
      refine removes (fun entry member same runner isOwn => ?_) (calm_closes state _ _ _ record ⟨rfl, rfl, rfl, rfl⟩ rfl
        (by rw [removing]; rfl) (.inl closes) fun _ _ entry member here => ?_)
      · have here := (own_listed state listed _ record orderly named entry member).mp same
        refine .inr (.inr (.inl ⟨index, record, ?_, here ▸ isOwn⟩))
        exact congrArg Stage.closes (standing_self state index (.closing record answer))
      · obtain ⟨there, away⟩ := List.mem_filter.mp member
        exact absurd (named entry there here) (of_decide_eq_true away)
  | kept record answer storing =>
      exact still (calm_plain state _ _ _ ⟨rfl, rfl, rfl, rfl⟩ (by rw [storing]; exact ⟨rfl, rfl⟩) (by intros; contradiction))
  | stored record answer path storing =>
      exact kept_changed state kept (state.calls index).header.workspaceId (fun record => { record with path := path })
        (fun _ => rfl) (fun _ => rfl) (fun _ => rfl) index (.clearing record answer)
        (calm_plain state _ _ (.clearing record answer) ⟨rfl, rfl, rfl, rfl⟩ (by rw [storing]; exact ⟨rfl, rfl⟩) (by intros; contradiction))
  | cleared record answer clearing =>
      exact kept_changed state kept (state.calls index).header.workspaceId
        (fun record => { record with currentCommandId := "" }) (fun _ => rfl) (fun _ => rfl) (fun _ => rfl) index
        (.unlocking record answer) (calm_plain state _ _ (.unlocking record answer) ⟨rfl, rfl, rfl, rfl⟩ (by rw [clearing]; exact ⟨rfl, rfl⟩) (by intros; contradiction))

theorem kept_called (state : State) (kept : Kept state) (slots : Slots state) (header : CommandHeader) :
    Kept { state with
      calls := Function.update state.calls state.callCount { header := header, stage := .entering }
      callCount := state.callCount + 1 } := by
  refine kept_frame state _ kept (fun _ => ⟨rfl, rfl⟩) (fun _ => rfl) rfl rfl
    ⟨fun _ member => member, fun _ member => .inl member⟩ (fun _ member => member) (fun entry member gone => absurd member gone)
    fun index => ?_
  by_cases new : index = state.callCount
  · have unborn := slots.unborn _ (Nat.le_refl state.callCount)
    rw [new]
    simp only [Function.update_self]
    refine ⟨nofun, fun runner => ?_, fun record same => ?_, nofun, nofun, nofun, nofun⟩
    · rw [unborn]
      exact Iff.rfl
    · rw [unborn] at same
      cases same
  · simp only [Function.update_of_ne new]
    refine calm_refl state _ kept ?_ index
    exact fun _ member => member

theorem kept_reaped (state : State) (kept : Kept state) (listed : Listed state) (workspaceId : String)
    (orderly : Orderly state (.reap workspaceId)) : Kept (state.remove workspaceId) := by
  have fewer : ∀ entry ∈ (state.remove workspaceId).registry, entry ∈ state.registry :=
    fun entry member => (List.mem_filter.mp member).1
  refine kept_frame state _ kept (fun _ => ⟨rfl, rfl⟩) (fun _ => rfl) rfl rfl
    ⟨fun _ member => member, fun _ member => .inl member⟩ fewer (fun entry member gone runner own => ?_)
    fun other => calm_refl state (state.remove workspaceId) kept fewer other
  have same : entry.1 = workspaceId := Classical.byContradiction fun away =>
    gone (List.mem_filter.mpr ⟨member, decide_eq_true away⟩)
  cases found : state.lookup workspaceId with
  | none => exact absurd same (lookup_unlisted state workspaceId found entry member)
  | some record =>
      have here := listed.keys entry member _ (lookup_listed state workspaceId record found) same
      exact orderly record runner found (by rw [← own, here])

theorem kept_closedAll (state : State) (kept : Kept state) (slots : Slots state) : Kept (closeAll state) := by
  have spoken (runner : Nat) (was : Spoken state runner) : Spoken (closeAll state) runner :=
    spoken_frame state _ runner was id (fun _ own => own) (fun record member _ => .inl (List.mem_append_left _ member))
      fun index => ⟨id, fun record closes _ => .inl closes⟩
  refine ⟨kept.empty, kept.handedOpen, nofun, nofun, kept.begins, fun runner below => .inl ?_, kept.reads,
    kept.manned, (fun _ _ _ _ _ member => nomatch member), fun record member => ⟨?_, nofun⟩⟩
  · rcases kept.placed runner below with was | ⟨entry, member, own⟩
    · exact spoken runner was
    · exact .inr (.inr (.inr ⟨entry.2, List.mem_append_right _ (List.mem_map.mpr ⟨entry, member, rfl⟩), own⟩))
  · rcases List.mem_append.mp member with old | new
    · exact (kept.gone record old).1
    · obtain ⟨entry, there, same⟩ := List.mem_map.mp new
      exact same ▸ slots.listed entry there

theorem kept_reserved (kept : Kept state) (listed : Listed state) (slots : Slots state) (index : Nat)
    (workspaceId : String) (entering : (state.calls index).stage = .entering) (free : state.active workspaceId = false)
    (same : next = { (state.remove workspaceId).setRecord state.recordCount .reserved with
      registry := (workspaceId, state.recordCount) :: (state.remove workspaceId).registry
      recordCount := state.recordCount + 1 }.stand index (.spawning state.recordCount)) : Kept next := by
  have removed : Kept (state.remove workspaceId) := kept_reaped state kept listed workspaceId fun record runner found own => by
    rw [State.active, found] at free
    exact kept.spent _ (lookup_listed state workspaceId record found) (by simpa using free) runner own
  have old (record : Nat) (away : record ≠ state.recordCount) : next.records record = state.records record := by
    rw [same]
    exact Function.update_of_ne away _ _
  have fresh : next.records state.recordCount = .reserved := by
    rw [same]
    exact Function.update_self _ _ _
  have runners : next.runners = state.runners := by rw [same]; rfl
  have filed (entry : String × Nat) (member : entry ∈ next.registry) :
      entry = (workspaceId, state.recordCount) ∨ entry ∈ (state.remove workspaceId).registry := by
    rw [same] at member
    exact List.mem_cons.mp member
  have owned (record runner : Nat) (own : (next.records record).runner = some runner) :
      record ≠ state.recordCount ∧ (state.records record).runner = some runner := by
    by_cases here : record = state.recordCount
    · rw [here, fresh] at own
      cases own
    · exact ⟨here, old record here ▸ own⟩
  have still (record runner : Nat) (own : (state.records record).runner = some runner) :
      (next.records record).runner = some runner := by
    rw [old record (Nat.ne_of_lt (slots.owned record runner own).1)]
    exact own
  have spoken (runner : Nat) (was : Spoken state runner) : Spoken next runner := by
    refine spoken_turned state next index (.spawning state.recordCount) runner was (fun shut => by rw [runners]; exact shut)
      (fun record own => still record runner own) (by rw [same]; rfl) (by rw [same]; rfl) ?_ ?_
    · rw [entering]
      intro assigns
      cases assigns
    · rw [entering]
      rfl
  refine kept_turned state next index (.spawning state.recordCount) (by rw [same]; rfl) ?_ (fun other _ => ?_)
    (fun entry member active runner own => ?_) (fun entry member inactive runner own => ?_) (fun runner below => ?_)
    fun record member => ?_
  · refine handled_plain next _ rfl rfl rfl (fun record builds => ?_) fun runner assigns => ?_
    · cases builds
      rw [fresh]
      exact ⟨rfl, rfl⟩
    · cases assigns
  · have handled := kept_handled state kept other
    refine ⟨fun record builds => ?_, ?_, fun record starts runner own => ?_,
      fun record runner cancelled reading => still record runner (handled.reads record runner cancelled reading),
      fun record closes => ?_, fun record answer closing entry member here => ?_⟩
    · have below := (listed.named other record (by rw [Stage.names, builds]; rfl)).1
      rw [old record (Nat.ne_of_lt below)]
      exact handled.empty record builds
    · rw [runners]
      exact handled.handedOpen
    · rw [runners]
      exact handled.begins record starts runner (owned record runner own).2
    · obtain ⟨runner, own⟩ := Option.ne_none_iff_exists'.mp (handled.manned record closes)
      rw [still record runner own]
      exact Option.some_ne_none _
    · have below := (listed.named other record (names_holds _ record (by rw [closing]; rfl))).1
      rcases filed entry member with rfl | member
      · exact absurd here (Nat.ne_of_gt below)
      · rw [old record (Nat.ne_of_lt below)]
        exact handled.shut record answer closing entry (List.mem_filter.mp member).1 here
  · obtain ⟨away, was⟩ := owned entry.2 runner own
    rw [old entry.2 away] at active
    rw [runners]
    rcases filed entry member with rfl | member
    · exact absurd rfl away
    · exact removed.live entry member active runner was
  · obtain ⟨away, was⟩ := owned entry.2 runner own
    rw [old entry.2 away] at inactive
    rcases filed entry member with rfl | member
    · exact absurd rfl away
    · exact spoken runner (kept.spent entry (List.mem_filter.mp member).1 inactive runner was)
  · rcases removed.placed runner (by rw [same] at below; exact below) with was | ⟨entry, member, own⟩
    · exact .inl (spoken runner was)
    · exact .inr ⟨entry, by rw [same]; exact List.mem_cons_of_mem _ member, still entry.2 runner own⟩
  · obtain ⟨below, unfiled⟩ := kept.gone record (by rw [same] at member; exact member)
    refine ⟨by rw [same]; exact Nat.lt_succ_of_lt below, fun entry there => ?_⟩
    rcases filed entry there with rfl | there
    · exact Nat.ne_of_gt below
    · exact unfiled entry (List.mem_filter.mp there).1

theorem kept_spawned (kept : Kept state) (slots : Slots state) (index record : Nat)
    (spawning : (state.calls index).stage = .spawning record)
    (same : next = { state.setRunner state.runnerCount .spawned with runnerCount := state.runnerCount + 1 }.stand index
      (.assigning record state.runnerCount)) : Kept next := by
  have old (runner : Nat) (below : runner < state.runnerCount) : next.runners runner = state.runners runner := by
    rw [same]
    exact Function.update_of_ne (Nat.ne_of_lt below) _ _
  have fresh : next.runners state.runnerCount = .spawned := by
    rw [same]
    exact Function.update_self _ _ _
  have records : next.records = state.records := by rw [same]; rfl
  have registry : next.registry = state.registry := by rw [same]; rfl
  have oldOwn (record runner : Nat) (own : (state.records record).runner = some runner) :=
    old runner (slots.owned record runner own).2
  have spoken (runner : Nat) (below : runner < state.runnerCount) (was : Spoken state runner) : Spoken next runner := by
    refine spoken_turned state next index (.assigning record state.runnerCount) runner was
      (fun shut => by rw [old runner below]; exact shut) (fun record own => by rw [records]; exact own)
      (by rw [same]; rfl) (by rw [same]; rfl) ?_ ?_
    · rw [spawning]
      intro assigns
      cases assigns
    · rw [spawning]
      rfl
  refine kept_turned state next index (.assigning record state.runnerCount) (by rw [same]; rfl) ?_ (fun other _ => ?_)
    (fun entry member active runner own => ?_) (fun entry member inactive runner own => ?_) (fun runner below => ?_) ?_
  · refine handled_plain next _ rfl rfl rfl (fun built builds => ?_) fun runner assigns => ?_
    · rw [records]
      exact kept.empty index built (by rw [spawning]; exact builds)
    · cases assigns
      rw [fresh]
      rfl
  · have handled := kept_handled state kept other
    refine ⟨?_, fun runner assigns => ?_, fun record starts runner own => ?_, ?_, ?_, ?_⟩
    · rw [records]
      exact handled.empty
    · rw [old runner (slots.handed other runner assigns).1]
      exact handled.handedOpen runner assigns
    · rw [records] at own
      rw [oldOwn record runner own]
      exact handled.begins record starts runner own
    · rw [records]
      exact handled.reads
    · rw [records]
      exact handled.manned
    · rw [records, registry]
      exact handled.shut
  · rw [records] at active own
    rw [oldOwn entry.2 runner own]
    exact kept.live entry (registry ▸ member) active runner own
  · rw [records] at inactive own
    exact spoken runner (slots.owned entry.2 runner own).2 (kept.spent entry (registry ▸ member) inactive runner own)
  · rw [records, registry]
    rcases Nat.lt_or_eq_of_le (Nat.le_of_lt_succ (by rw [same] at below; exact below)) with was | here
    · exact (kept.placed runner was).imp (spoken runner was) id
    · refine .inl (.inr (.inl ⟨index, ?_⟩))
      rw [same, here]
      exact congrArg Stage.assigns (standing_self state index (.assigning record state.runnerCount))
  · rw [same]
    exact kept.gone

theorem kept_assigned (kept : Kept state) (listed : Listed state) (slots : Slots state)
    (index record runner : Nat) (assigning : (state.calls index).stage = .assigning record runner)
    (found : state.lookup (state.calls index).header.workspaceId = some record)
    (same : next = (assignRunner state (state.calls index).header.workspaceId runner).stand index .finding) : Kept next := by
  have builds : (state.calls index).stage.builds = some record := by rw [assigning]; rfl
  have assigns : (state.calls index).stage.assigns = some runner := by rw [assigning]; rfl
  rw [assignRunner, State.change, found] at same
  have filed := lookup_listed state _ record found
  obtain ⟨bare, active⟩ := kept.empty index record builds
  have opened := kept.handedOpen index runner assigns
  have runners : next.runners = state.runners := by rw [same]; rfl
  have registry : next.registry = state.registry := by rw [same]; rfl
  have records (other : Nat) (away : other ≠ record) : next.records other = state.records other := by
    rw [same]
    exact Function.update_of_ne away _ _
  have owns : next.records record = { state.records record with runner := some runner } := by
    rw [same]
    exact Function.update_self _ _ _
  have states (other : Nat) : (next.records other).state = (state.records other).state := by
    by_cases here : other = record
    · rw [here, owns]
    · rw [records other here]
  have owned (other held : Nat) (own : (next.records other).runner = some held) :
      (other = record ∧ held = runner) ∨ (other ≠ record ∧ (state.records other).runner = some held) := by
    by_cases here : other = record
    · rw [here, owns] at own
      exact .inl ⟨here, (Option.some.inj own).symm⟩
    · exact .inr ⟨here, records other here ▸ own⟩
  have still (other held : Nat) (own : (state.records other).runner = some held) :
      (next.records other).runner = some held := by
    have away : other ≠ record := fun here => by
      rw [here, bare] at own
      cases own
    rw [records other away]
    exact own
  have spoken (held : Nat) (different : held ≠ runner) (was : Spoken state held) : Spoken next held := by
    refine spoken_turned state next index .finding held was (fun shut => by rw [runners]; exact shut)
      (fun other own => still other held own) (by rw [same]; rfl) (by rw [same]; rfl) ?_ ?_
    · rw [assigning]
      exact fun own => absurd (Option.some.inj own).symm different
    · rw [assigning]
      rfl
  refine kept_turned state next index .finding (by rw [same]; rfl) ?_ (fun other different => ?_)
    (fun entry member active held own => ?_) (fun entry member inactive held own => ?_) (fun held below => ?_) ?_
  · refine handled_plain next _ rfl rfl rfl (fun built builds => ?_) fun held assigns => ?_
    · cases builds
    · cases assigns
  · have handled := kept_handled state kept other
    refine ⟨fun built building => ?_, ?_, fun started starts held own => ?_,
      fun read held cancelled reading => still read held (handled.reads read held cancelled reading),
      fun closed closes => ?_, fun closed answer closing entry member here => ?_⟩
    · have away : built ≠ record := fun here => different (listed.built other index record (here ▸ building) builds)
      rw [records built away]
      exact handled.empty built building
    · rw [runners]
      exact handled.handedOpen
    · rw [runners]
      rcases owned started held own with ⟨_, here⟩ | ⟨_, was⟩
      · exact here ▸ opened
      · exact handled.begins started starts held was
    · obtain ⟨held, own⟩ := Option.ne_none_iff_exists'.mp (handled.manned closed closes)
      rw [still closed held own]
      exact Option.some_ne_none _
    · rw [states closed]
      exact handled.shut closed answer closing entry (registry ▸ member) here
  · rw [states] at active
    rw [runners]
    rcases owned entry.2 held own with ⟨_, here⟩ | ⟨_, was⟩
    · exact here ▸ opened
    · exact kept.live entry (registry ▸ member) active held was
  · rw [states] at inactive
    rcases owned entry.2 held own with ⟨here, _⟩ | ⟨_, was⟩
    · exact absurd (here ▸ active) inactive
    · have different : held ≠ runner := fun same => (slots.handed index runner assigns).2.1 entry.2 (same ▸ was)
      exact spoken held different (kept.spent entry (registry ▸ member) inactive held was)
  · rw [registry]
    by_cases here : held = runner
    · exact .inr ⟨_, filed, by rw [owns, here]⟩
    · rcases kept.placed held (by rw [same] at below; exact below) with was | ⟨entry, member, own⟩
      · exact .inl (spoken held here was)
      · exact .inr ⟨entry, member, still entry.2 held own⟩
  · rw [same]
    exact kept.gone

theorem closeRunner_shuts (state : State) (record : Nat) : Shut state (closeRunner state record) record := by
  intro runner own
  simp only [closeRunner, own, State.setRunner, Function.update_self]

theorem closeRunner_frame (state : State) (record : Nat) :
    (closeRunner state record).registry = state.registry ∧ (closeRunner state record).records = state.records ∧
      (closeRunner state record).doomed = state.doomed := by
  unfold closeRunner
  split <;> exact ⟨rfl, rfl, rfl⟩

theorem kept_close (state : State) (kept : Kept state) (slots : Slots state) (record : Nat)
    (undisturbed : Undisturbed state record)
    (inactive : ∀ entry ∈ state.registry, entry.2 = record → (state.records record).state ≠ .active) :
    Kept (closeRunner state record) := by
  unfold closeRunner
  split
  · exact kept
  · rename_i runner own
    have opens (other : Nat) (away : other ≠ runner) :
        Function.update state.runners runner { state.runners runner with stdinOpen := false } other = state.runners other :=
      Function.update_of_ne away _ _
    have spoken (other : Nat) (was : Spoken state other) :
        Spoken (state.setRunner runner { state.runners runner with stdinOpen := false }) other := by
      refine spoken_frame state _ other was (fun shut => ?_) (fun _ own => own) (fun record member _ => .inl member)
        fun index => ⟨id, fun record closes _ => .inl closes⟩
      by_cases here : other = runner
      · simp only [State.setRunner, here, Function.update_self]
      · simp only [State.setRunner, opens other here]
        exact shut
    refine ⟨kept.empty, fun index other assigns => ?_, fun entry member active other isOwn => ?_,
      fun entry member active other isOwn => spoken other (kept.spent entry member active other isOwn),
      fun index started starts other isOwn => ?_, fun other below => (kept.placed other below).imp (spoken other) id,
      kept.reads, kept.manned, kept.shut, kept.gone⟩
    · have away : other ≠ runner := fun here => (slots.handed index other assigns).2.1 record (here ▸ own)
      simp only [State.setRunner, opens other away]
      exact kept.handedOpen index other assigns
    · have away : other ≠ runner := fun here => by
        have same := slots.single entry.2 record runner (here ▸ isOwn) own
        have active_ : (state.records entry.2).state = .active := active
        exact inactive entry member same (same ▸ active_)
      simp only [State.setRunner, opens other away]
      exact kept.live entry member active other isOwn
    · have away : other ≠ runner := fun here =>
        undisturbed index (slots.single started record runner (here ▸ isOwn) own ▸ starts)
      simp only [State.setRunner, opens other away]
      exact kept.begins index started starts other isOwn

theorem kept_closed (state : State) (kept : Kept state) (slots : Slots state) (index record : Nat) (answer : Answer)
    (closing : (state.calls index).stage = .closing record answer) (undisturbed : Undisturbed state record) :
    Kept ((closeRunner state record).stand index (.clearing record answer)) := by
  have closed := kept_close state kept slots record undisturbed (kept.shut index record answer closing)
  have calls := (sameSlots_close state record).2
  have was : ((closeRunner state record).calls index).stage = .closing record answer := by
    rw [calls]
    exact closing
  refine kept_turn (closeRunner state record) _ closed index (.clearing record answer) (fun _ => ⟨rfl, rfl⟩) (fun _ => rfl)
    (sameSlots_stand _ _ index _ (sameSlots_refl _)).toSameOwners rfl rfl rfl
    ⟨nofun, fun runner => ?_, fun other closes => .inr ?_, nofun, nofun, nofun, nofun⟩
  · rw [was]
    exact Iff.rfl
  · rw [was] at closes
    cases closes
    exact fun runner own => closeRunner_shuts state record runner ((congrArg (fun records => (records record).runner)
      (closeRunner_frame state record).2.1).symm.trans own)

theorem kept_closedNext (state : State) (kept : Kept state) (slots : Slots state) (record : Nat)
    (member : record ∈ state.doomed) (undisturbed : Undisturbed state record) :
    Kept { closeRunner state record with doomed := state.doomed.erase record } := by
  obtain ⟨registry, records, doomed⟩ := closeRunner_frame state record
  have closed := kept_close state kept slots record undisturbed
    fun entry there same => absurd same ((kept.gone record member).2 entry there)
  refine kept_frame (closeRunner state record) _ closed (fun _ => ⟨rfl, rfl⟩) (fun _ => rfl) rfl rfl
    ⟨fun other erased => doomed ▸ List.mem_of_mem_erase erased, fun other there => ?_⟩ (fun _ there => there)
    (fun entry there lost => absurd there lost) fun other => ?_
  · rw [doomed] at there
    by_cases here : other = record
    · refine .inr fun runner own => ?_
      rw [here, records] at own
      exact closeRunner_shuts state record runner own
    · exact .inl ((List.mem_erase_of_ne here).mpr there)
  · refine calm_refl _ _ closed ?_ other
    exact fun _ there => there

theorem setRunner_open (state : State) (runner : Nat) (process : Runner)
    (same : process.stdinOpen = (state.runners runner).stdinOpen) (other : Nat) :
    (Function.update state.runners runner process other).stdinOpen = (state.runners other).stdinOpen := by
  rw [Function.update_apply]
  split
  · rename_i here
    rw [here, same]
  · rfl

theorem setHolder_keeps (state : State) (record : Nat) (holder : Option Nat) (other : Nat) :
    (Function.update state.records record { state.records record with holder := holder } other).runner =
        (state.records other).runner ∧
      (Function.update state.records record { state.records record with holder := holder } other).state =
        (state.records other).state := by
  rw [Function.update_apply]
  split
  · rename_i here
    rw [here]
    exact ⟨rfl, rfl⟩
  · exact ⟨rfl, rfl⟩

theorem calm_stops (record : Nat) (reason : String)
    (plain : before.stage.assigns = none ∧ before.stage.closes = none) (manned : (state.records record).runner ≠ none) :
    Calm state next before { before with stage := .failed record reason } :=
  calm_closes state next before (.failed record reason) record ⟨rfl, rfl, rfl, rfl⟩ rfl plain.1 (.inr ⟨plain.2, manned⟩)
    fun answer same => by cases same

theorem kept_effect (label : Label) (state next : State) (kept : Kept state) (listed : Listed state)
    (slots : Slots state) (orderly : Orderly state label) (effect : Effect maxWorkspaces state next label) : Kept next := by
  cases effect with
  | called header same => exact same ▸ kept_called state kept slots header
  | soft index stage deed => exact kept_deed state next index stage kept listed orderly deed
  | reaped workspaceId same => exact same ▸ kept_reaped state kept listed workspaceId orderly
  | closedAll same => exact same ▸ kept_closedAll state kept slots
  | reserved index workspaceId entering named free room same =>
      exact kept_reserved state next kept listed slots index workspaceId entering free same
  | spawned index record spawning same => exact kept_spawned state next kept slots index record spawning same
  | assigned index record runner assigning same =>
      simp only [Orderly, assigning] at orderly
      exact kept_assigned state next kept listed slots index record runner assigning orderly same
  | locked index record waiting free same =>
      rw [same]
      exact kept_turn state _ kept index (.locked record) (setHolder_keeps state record (some index)) (fun _ => rfl)
        (sameOwners_holder state record (some index) index _) rfl rfl rfl
        (calm_plain state _ _ _ ⟨rfl, rfl, rfl, rfl⟩ (by rw [waiting]; exact ⟨rfl, rfl⟩)
          fun other starts => by rw [waiting]; exact starts)
  | unlocked index record answer unlocking same =>
      rw [same]
      exact kept_turn state _ kept index (.returned answer) (setHolder_keeps state record none) (fun _ => rfl)
        (sameOwners_holder state record none index _) rfl rfl rfl
        (calm_plain state _ _ _ ⟨rfl, rfl, rfl, rfl⟩ (by rw [unlocking]; exact ⟨rfl, rfl⟩) (by intros; contradiction))
  | wrote index record runner ready own open_ same =>
      rw [same]
      exact kept_turn state _ kept index (.reading record runner false) (fun _ => ⟨rfl, rfl⟩)
        (setRunner_open state runner { state.runners runner with inbox := (state.runners runner).inbox ++ [index] } rfl)
        (sameSlots_runner state runner _ index _).toSameOwners rfl rfl rfl
        (calm_reading state _ _ record runner false (by rw [ready]; exact ⟨rfl, rfl⟩) own)
  | brokeOff index record runner reason ready own open_ same =>
      rw [same]
      exact kept_turn state _ kept index (.failed record reason) (fun _ => ⟨rfl, rfl⟩)
        (setRunner_open state runner { state.runners runner with inbox := (state.runners runner).inbox ++ [index] } rfl)
        (sameSlots_runner state runner _ index _).toSameOwners rfl rfl rfl
        (calm_stops state _ _ record reason (by rw [ready]; exact ⟨rfl, rfl⟩) (by rw [own]; exact Option.some_ne_none runner))
  | stopped index record reason began same =>
      rw [same]
      refine kept_turn state _ kept index (.failed record reason) (fun _ => ⟨rfl, rfl⟩) (fun _ => rfl)
        (sameSlots_stand state state index _ (sameSlots_refl state)).toSameOwners rfl rfl rfl
        (calm_stops state _ _ record reason ?_ ?_)
      · rcases began with ⟨ready, _⟩ | ⟨runner, cancelled, reading⟩
        · rw [ready]; exact ⟨rfl, rfl⟩
        · rw [reading]; exact ⟨rfl, rfl⟩
      · rcases began with ⟨_, manned⟩ | ⟨runner, cancelled, reading⟩
        · exact manned
        · rw [kept.reads index record runner cancelled reading]
          exact Option.some_ne_none _
  | forwards index record runner cancelled event rest reading front progress same =>
      rw [same]
      refine kept_frame state _ kept (fun _ => ⟨rfl, rfl⟩)
        (setRunner_open state runner { state.runners runner with stdout := rest } rfl) rfl rfl
        ⟨fun _ member => member, fun _ member => .inl member⟩ (fun _ member => member)
        (fun entry member gone => absurd member gone) fun other => ?_
      refine calm_refl state _ kept ?_ other
      exact fun _ member => member
  | drops index record runner event rest reason reading front same =>
      rw [same]
      refine kept_turn state _ kept index (.failed record reason) (fun _ => ⟨rfl, rfl⟩)
        (setRunner_open state runner { state.runners runner with stdout := rest } rfl)
        (sameSlots_runner state runner _ index _).toSameOwners rfl rfl rfl
        (calm_stops state _ _ record reason (by rw [reading]; exact ⟨rfl, rfl⟩) ?_)
      rw [kept.reads index record runner true reading]
      exact Option.some_ne_none _
  | answers index record runner event rest outcome stage reading front ends after same =>
      rw [same]
      refine kept_turn state _ kept index stage (fun _ => ⟨rfl, rfl⟩)
        (setRunner_open state runner { state.runners runner with stdout := rest } rfl)
        (sameSlots_runner state runner _ index _).toSameOwners rfl rfl rfl ?_
      rcases after with rfl | rfl | rfl
      · refine calm_closes state _ _ _ record ⟨rfl, rfl, rfl, rfl⟩ rfl (by rw [reading]; rfl)
          (.inr ⟨by rw [reading]; rfl, ?_⟩) fun answer same => by cases same
        rw [kept.reads index record runner false reading]
        exact Option.some_ne_none _
      · exact calm_plain state _ _ _ ⟨rfl, rfl, rfl, rfl⟩ (by rw [reading]; exact ⟨rfl, rfl⟩) (by intros; contradiction)
      · exact calm_plain state _ _ _ ⟨rfl, rfl, rfl, rfl⟩ (by rw [reading]; exact ⟨rfl, rfl⟩) (by intros; contradiction)
  | closed index record answer closing same =>
      simp only [Orderly, closing] at orderly
      exact same ▸ kept_closed state kept slots index record answer closing orderly
  | closedNext record doomed same => exact same ▸ kept_closedNext state kept slots record doomed orderly
  | cancelled index record runner reading same =>
      rw [same]
      exact kept_turn state _ kept index (.reading record runner true) (fun _ => ⟨rfl, rfl⟩) (fun _ => rfl)
        (sameSlots_stand state state index _ (sameSlots_refl state)).toSameOwners rfl rfl rfl
        (calm_reading state _ _ record runner true (by rw [reading]; exact ⟨rfl, rfl⟩)
          (kept.reads index record runner false reading))
  | child runner act after there took same =>
      rw [same]
      refine kept_frame state _ kept (fun _ => ⟨rfl, rfl⟩)
        (setRunner_open state runner after (childEffect_open _ _ _ (childStep_effect _ _ _ _ took))) rfl rfl
        ⟨fun _ member => member, fun _ member => .inl member⟩ (fun _ member => member)
        (fun entry member gone => absurd member gone) fun other => ?_
      refine calm_refl state _ kept ?_ other
      exact fun _ member => member

theorem activeCount_less (registry : next.registry.Sublist state.registry)
    (states : ∀ entry ∈ next.registry, (next.records entry.2).state = .active → (state.records entry.2).state = .active) :
    next.activeCount ≤ state.activeCount := by
  rw [State.activeCount, State.activeCount, ← List.countP_eq_length_filter, ← List.countP_eq_length_filter]
  refine Nat.le_trans (List.countP_mono_left fun entry member active => ?_) registry.countP_le
  exact decide_eq_true (states entry member (of_decide_eq_true active))

theorem activeCount_reserved (state : State) (slots : Slots state) (workspaceId : String) (index : Nat) :
    ({ (state.remove workspaceId).setRecord state.recordCount .reserved with
      registry := (workspaceId, state.recordCount) :: (state.remove workspaceId).registry
      recordCount := state.recordCount + 1 }.stand index (.spawning state.recordCount)).activeCount ≤
      state.activeCount + 1 := by
  have old : ((state.remove workspaceId).registry.filter fun entry =>
      (Function.update state.records state.recordCount .reserved entry.2).state = .active).length ≤ state.activeCount := by
    rw [State.activeCount, ← List.countP_eq_length_filter, ← List.countP_eq_length_filter]
    refine Nat.le_trans (List.countP_mono_left fun entry member active => ?_) List.filter_sublist.countP_le
    have away := Nat.ne_of_lt (slots.listed entry (List.mem_filter.mp member).1)
    have was := of_decide_eq_true active
    rw [Function.update_of_ne away] at was
    exact decide_eq_true was
  rw [State.activeCount]
  simp only [State.stand, State.setRecord, State.remove, List.filter_cons] at old ⊢
  split
  · exact Nat.succ_le_succ old
  · exact Nat.le_succ_of_le old

theorem change_states (state : State) (workspaceId : String) (change : Record → Record)
    (calms : ∀ record, (change record).state = .active → record.state = .active) (record : Nat)
    (active : ((state.change workspaceId change).records record).state = .active) :
    (state.records record).state = .active := by
  unfold State.change at active
  split at active
  · exact active
  · rename_i found _
    by_cases here : record = found
    · simp only [State.setRecord, here, Function.update_self] at active
      exact here ▸ calms _ active
    · simp only [State.setRecord, Function.update_of_ne here] at active
      exact active

theorem deed_activeCount {env : Env} (state next : State) (index : Nat) (stage : Stage)
    (deed : Deed env state index stage next) : next.activeCount ≤ state.activeCount := by
  have changes (change : Record → Record) (calms : ∀ record, (change record).state = .active → record.state = .active) :
      ((state.change (state.calls index).header.workspaceId change).stand index stage).activeCount ≤ state.activeCount :=
    activeCount_less state _ (by rw [State.stand, (change_frame state _ change).1]) fun entry _ active =>
      change_states state _ change calms entry.2 active
  cases deed with
  | unspawned => exact activeCount_less state _ List.filter_sublist fun _ _ active => active
  | removed => exact activeCount_less state _ List.filter_sublist fun _ _ active => active
  | marked => exact changes (fun record => { record with currentCommandId := (state.calls index).header.commandId }) fun _ active => active
  | gaveUp => exact changes (fun record => { record with state := .defunct }) (by intros; contradiction)
  | stored record answer path => exact changes (fun record => { record with path := path }) fun _ active => active
  | cleared => exact changes (fun record => { record with currentCommandId := "" }) fun _ active => active
  | _ => exact Nat.le_refl _

theorem effect_capped (label : Label) (state next : State) (slots : Slots state)
    (capped : 0 < maxWorkspaces → state.activeCount ≤ maxWorkspaces) (effect : Effect maxWorkspaces state next label)
    (positive : 0 < maxWorkspaces) : next.activeCount ≤ maxWorkspaces := by
  have less (fewer : next.activeCount ≤ state.activeCount) : next.activeCount ≤ maxWorkspaces :=
    Nat.le_trans fewer (capped positive)
  have records (record : Nat) (holder : Option Nat) (entry : String × Nat) :
      (Function.update state.records record { state.records record with holder := holder } entry.2).state = .active →
        (state.records entry.2).state = .active := by
    rw [(setHolder_keeps state record holder entry.2).2]
    exact id
  cases effect with
  | soft index stage deed => exact less (deed_activeCount state next index stage deed)
  | reaped workspaceId same =>
      exact less (same ▸ activeCount_less state (state.remove workspaceId) List.filter_sublist fun _ _ active => active)
  | closedAll same => rw [same]; exact Nat.zero_le _
  | reserved index workspaceId entering named free room same =>
      rw [same]
      exact Nat.le_trans (activeCount_reserved state slots workspaceId index) (room positive)
  | assigned index record runner assigning same =>
      refine less (same ▸ activeCount_less state _ ?_ fun entry _ active => ?_)
      · rw [State.stand, assignRunner, (change_frame state _ _).1]
      · exact change_states state _ (fun record => { record with runner := some runner }) (fun _ was => was) entry.2 active
  | locked index record waiting free same =>
      exact less (same ▸ activeCount_less state _ (List.Sublist.refl _) fun entry _ => records record (some index) entry)
  | unlocked index record answer unlocking same =>
      exact less (same ▸ activeCount_less state _ (List.Sublist.refl _) fun entry _ => records record none entry)
  | closed index record answer closing same =>
      obtain ⟨registry, kept, _⟩ := closeRunner_frame state record
      refine less (same ▸ activeCount_less state _ ?_ fun entry _ active => ?_)
      · rw [State.stand, registry]
      · exact (congrArg (fun records => (records entry.2).state) kept).symm.trans active
  | closedNext record doomed same =>
      obtain ⟨registry, kept, _⟩ := closeRunner_frame state record
      refine less (same ▸ activeCount_less state _ ?_ fun entry _ active => ?_)
      · rw [registry]
      · exact (congrArg (fun records => (records entry.2).state) kept).symm.trans active
  | called header same => rw [same]; exact capped positive
  | spawned index record spawning same => rw [same]; exact capped positive
  | wrote index record runner ready own open_ same => rw [same]; exact capped positive
  | brokeOff index record runner reason ready own open_ same => rw [same]; exact capped positive
  | stopped index record reason began same => rw [same]; exact capped positive
  | forwards index record runner cancelled event rest reading front progress same => rw [same]; exact capped positive
  | drops index record runner event rest reason reading front same => rw [same]; exact capped positive
  | answers index record runner event rest outcome stage reading front ends after same => rw [same]; exact capped positive
  | cancelled index record runner reading same => rw [same]; exact capped positive
  | child runner act after there took same => rw [same]; exact capped positive

def Placed (state : State) : Prop :=
  ∀ runner, runner < state.runnerCount → Spoken state runner ∨
    ∃ entry ∈ state.registry, (state.records entry.2).runner = some runner ∧
      ∀ other ∈ state.registry, (state.records other.2).runner = some runner → other = entry

def BeginsOpen (state : State) : Prop :=
  ∀ index record runner, (state.calls index).stage = .ready record → (state.records record).runner = some runner →
    (state.runners runner).stdinOpen = true

def Marked (state : State) : Prop :=
  (∀ entry ∈ state.registry, (state.records entry.2).currentCommandId = busyId state entry.2) ∧
    ∀ index record runner cancelled, (state.calls index).stage = .reading record runner cancelled →
      (state.records record).runner = some runner ∧ (state.records record).holder = some index

structure Sound (maxWorkspaces : Nat) (state : State) : Prop where
  capped : 0 < maxWorkspaces → state.activeCount ≤ maxWorkspaces
  placed : Placed state
  alone : ∀ index other runner, (state.calls index).stage.reads = some runner →
    (state.calls other).stage.reads = some runner → index = other
  begins : BeginsOpen state
  marked : Marked state

structure Sorted (maxWorkspaces : Nat) (state : State) : Prop where
  slots : Slots state
  listed : Listed state
  busy : Busy state
  kept : Kept state
  capped : 0 < maxWorkspaces → state.activeCount ≤ maxWorkspaces

theorem sorted_sound (state : State) (sorted : Sorted maxWorkspaces state) : Sound maxWorkspaces state where
  capped := sorted.capped
  placed := fun runner below => (sorted.kept.placed runner below).imp id fun ⟨entry, member, own⟩ =>
    ⟨entry, member, own, fun other there another =>
      sorted.listed.values other there entry member (sorted.slots.single other.2 entry.2 runner another own)⟩
  alone := sorted.slots.alone
  begins := fun index record runner ready own => sorted.kept.begins index record (by rw [ready]; rfl) runner own
  marked := ⟨sorted.busy.marks, fun index record runner cancelled reading =>
    ⟨sorted.kept.reads index record runner cancelled reading, sorted.slots.locked index record (by rw [reading]; rfl)⟩⟩

theorem sorted_started (orphans : List (String × String)) (nodup : (orphans.map Prod.fst).Nodup) :
    Sorted maxWorkspaces (.started orphans) := by
  have records (record : Nat) : ((State.started orphans).records record).runner = none ∧
      ((State.started orphans).records record).holder = none ∧
      ((State.started orphans).records record).currentCommandId = "" := by
    simp only [State.started]
    split <;> exact ⟨rfl, rfl, rfl⟩
  have filed (entry : String × Nat) (member : entry ∈ (State.started orphans).registry) :
      ∃ orphan, orphans[entry.2]? = some orphan ∧ orphan.1 = entry.1 := by
    obtain ⟨orphan, listed, same⟩ := List.mem_map.mp member
    rw [← same]
    exact ⟨orphan.1, by simpa using List.mem_zipIdx_iff_getElem?.mp listed, rfl⟩
  have bare (record runner : Nat) (own : ((State.started orphans).records record).runner = some runner) : False := by
    rw [(records record).1] at own
    cases own
  refine ⟨slots_started orphans, ⟨fun entry member other another same => ?_, fun entry member other another same => ?_,
    (by intros; contradiction), (by intros; contradiction)⟩, ⟨fun record index held => ?_, fun entry member => ?_⟩,
    ⟨(by intros; contradiction), (by intros; contradiction), fun entry _ _ runner own => (bare entry.2 runner own).elim,
      fun entry _ _ runner own => (bare entry.2 runner own).elim, (by intros; contradiction), (by intros; contradiction), (by intros; contradiction), (by intros; contradiction), (by intros; contradiction), (by intros; contradiction)⟩, fun _ => ?_⟩
  · obtain ⟨orphan, here, name⟩ := filed entry member
    obtain ⟨second, there, secondName⟩ := filed other another
    obtain ⟨below, at_⟩ := List.getElem?_eq_some_iff.mp here
    obtain ⟨belowToo, atToo⟩ := List.getElem?_eq_some_iff.mp there
    have inside : entry.2 < (orphans.map Prod.fst).length := by simpa using below
    have insideToo : other.2 < (orphans.map Prod.fst).length := by simpa using belowToo
    have names : (orphans.map Prod.fst)[entry.2] = (orphans.map Prod.fst)[other.2] := by
      simp only [List.getElem_map, at_, atToo, name, secondName, same]
    exact Prod.ext same (nodup.getElem_inj_iff.mp names)
  · obtain ⟨orphan, here, name⟩ := filed entry member
    obtain ⟨second, there, secondName⟩ := filed other another
    rw [same, there] at here
    cases here
    exact Prod.ext (name.symm.trans secondName) same
  · rw [(records record).2.1] at held
    cases held
  · rw [busyId, (records entry.2).2.1]
    exact (records entry.2).2.2
  · have none : (State.started orphans).registry.filter (fun entry =>
        ((State.started orphans).records entry.2).state = .active) = [] := by
      refine List.filter_eq_nil_iff.mpr fun entry member active => ?_
      obtain ⟨orphan, here, _⟩ := filed entry member
      have orphaned : ((State.started orphans).records entry.2).state = .orphaned := by
        simp only [State.started, here]
      rw [orphaned] at active
      cases of_decide_eq_true active
    rw [State.activeCount, none]
    exact Nat.zero_le _

theorem sorted_step (state next : State) (label : Label) (sorted : Sorted maxWorkspaces state)
    (orderly : Orderly state label) (taken : step maxWorkspaces state label = .ok next) : Sorted maxWorkspaces next :=
  have effect := step_effect maxWorkspaces state next label taken
  ⟨slots_effect maxWorkspaces state next label sorted.slots effect,
    listed_effect maxWorkspaces label state next sorted.listed sorted.slots effect,
    busy_effect maxWorkspaces label state next sorted.busy sorted.listed sorted.slots orderly effect,
    kept_effect maxWorkspaces label state next sorted.kept sorted.listed sorted.slots orderly effect,
    effect_capped maxWorkspaces label state next sorted.slots sorted.capped effect⟩

theorem reachable_sound (state : State)
    (reachable : Reachable ((pool maxWorkspaces).restrict Orderly) state) : Sound maxWorkspaces state := by
  refine sorted_sound maxWorkspaces state (reachable_invariant _ (Sorted maxWorkspaces) ⟨?_, ?_⟩ state reachable)
  · rintro _ ⟨orphans, nodup, rfl⟩
    exact sorted_started maxWorkspaces orphans nodup
  · intro state label next sorted allowed taken
    exact sorted_step maxWorkspaces state next label sorted allowed.2 taken

def forgottenRun : List Label :=
  [.dispatch (sampleHeader .provisionWorkspace "provision")] ++ advances 0 7 ++
    [.child 0 .readCommand, .child 0 (.returns (.success [("path", "/work")]))] ++ advances 0 4 ++ [.reap "workspace"]

def forgottenState : State := (pool 1).after (.started []) forgottenRun

def lateRun : List Label :=
  [.dispatch (sampleHeader .provisionWorkspace "provision")] ++ advances 0 7 ++
    [.child 0 .readCommand, .child 0 (.returns (.success [("path", "/work")]))] ++ advances 0 4 ++
    [.dispatch (sampleHeader .invokeClaudeCode "session"), .dispatch (sampleHeader .writeFiles "waiter")] ++
    advances 1 5 ++ advances 2 2 ++ [.advance 1 { sampleEnv with readError := some "EOF" }] ++ advances 1 4 ++ advances 2 2

def lateState : State := (pool 1).after (.started []) lateRun

def renewedRun : List Label :=
  [.dispatch (sampleHeader .provisionWorkspace "provision")] ++ advances 0 7 ++
    [.child 0 .readCommand, .child 0 (.returns (.success [("path", "/work")]))] ++ advances 0 4 ++
    [.dispatch (sampleHeader .writeFiles "files")] ++ advances 1 5 ++ [.reap "workspace"] ++
    [.dispatch (sampleHeader .provisionWorkspace "again")] ++ advances 2 7 ++
    [.child 0 .readCommand, .child 0 (.returns (.success []))] ++ advances 1 2

def renewedState : State := (pool 1).after (.started []) renewedRun

theorem run_reachable (labels : List Label) (taken : succeeds 1 (.started []) labels = true) :
    Reachable (pool 1) ((pool 1).after (.started []) labels) :=
  ⟨.started [], labels, ⟨[], .nil, rfl⟩,
    commits_path (pool 1) (.started []) labels (succeeds_commits 1 (.started []) labels taken)⟩

theorem forgottenState_reachable : Reachable (pool 1) forgottenState := run_reachable forgottenRun (by decide +kernel)

theorem lateState_reachable : Reachable (pool 1) lateState := run_reachable lateRun (by decide +kernel)

theorem renewedState_reachable : Reachable (pool 1) renewedState := run_reachable renewedRun (by decide +kernel)

theorem forgottenState_leaks : ¬ Placed forgottenState := by
  intro placed
  have slots := (reachable_attributed 1 forgottenState forgottenState_reachable).slots
  have first (index : Nat) (born : (forgottenState.calls index).stage ≠ .unborn) : index = 0 := by
    have below : index < 1 := (by decide +kernel : forgottenState.callCount = 1) ▸ slots_born forgottenState slots index born
    omega
  rcases placed 0 (by decide +kernel) with (shut | ⟨index, assigns⟩ | ⟨index, record, closes, _⟩ | ⟨record, doomed, _⟩) |
    ⟨entry, member, _⟩
  · exact absurd shut (by decide +kernel)
  · rw [first index fun unborn => by rw [unborn] at assigns; cases assigns] at assigns
    exact absurd ((by decide +kernel : (forgottenState.calls 0).stage.assigns = none).symm.trans assigns) nofun
  · rw [first index fun unborn => by rw [unborn] at closes; cases closes] at closes
    exact absurd ((by decide +kernel : (forgottenState.calls 0).stage.closes = none).symm.trans closes) nofun
  · rw [(by decide +kernel : forgottenState.doomed = [])] at doomed
    cases doomed
  · rw [(by decide +kernel : forgottenState.registry = [])] at member
    cases member

-- A reap leaves its process running for good, a waiter sends to a process that was
-- closed, and a command that ends clears the id of another.
theorem pool_unsound :
    (Reachable (pool 1) forgottenState ∧ ¬ Placed forgottenState) ∧
      (Reachable (pool 1) lateState ∧ ¬ BeginsOpen lateState) ∧
        (Reachable (pool 1) renewedState ∧ ¬ Marked renewedState) := by
  refine ⟨⟨forgottenState_reachable, forgottenState_leaks⟩, ⟨lateState_reachable, fun begins => ?_⟩,
    renewedState_reachable, fun marked => ?_⟩
  · exact absurd (begins 2 0 0 (by decide +kernel) (by decide +kernel)) (by decide +kernel)
  · exact absurd (marked.1 ("workspace", 1) (by decide +kernel)) (by decide +kernel)

def tidyStep (state : State) : Label → Bool
  | .advance index _ =>
    let found := state.lookup (state.calls index).header.workspaceId
    match (state.calls index).stage with
    | .spawning record | .locked record | .failed record _ | .removing record _ | .clearing record _ =>
        found = some record || found = none
    | .assigning record _ => found = some record
    | .closing record _ => (List.range state.callCount).all fun other => (state.calls other).stage.starts ≠ some record
    | _ => true
  | .reap workspaceId => state.lookup workspaceId = none
  | .closeNext _ => false
  | _ => true

def tidyRun (maxWorkspaces : Nat) : State → List Label → Bool
  | _, [] => true
  | state, label :: rest =>
      tidyStep state label && (step maxWorkspaces state label).isOk &&
        tidyRun maxWorkspaces ((pool maxWorkspaces).committed label state) rest

theorem tidyStep_orderly (state : State) (slots : Slots state) (label : Label) (tidy : tidyStep state label = true) :
    Orderly state label := by
  cases label with
  | advance index env =>
      simp only [tidyStep] at tidy
      simp only [Orderly]
      cases stage : (state.calls index).stage with
      | spawning record => rw [stage] at tidy; exact .inr (by simpa [Own] using tidy)
      | assigning record runner => rw [stage] at tidy; simpa using tidy
      | locked record => rw [stage] at tidy; simpa [Own] using tidy
      | failed record reason => rw [stage] at tidy; simpa [Own] using tidy
      | removing record answer => rw [stage] at tidy; simpa [Own] using tidy
      | clearing record answer => rw [stage] at tidy; simpa [Own] using tidy
      | closing record answer =>
          rw [stage] at tidy
          intro other starts
          have born := slots_born state slots other fun unborn => by rw [unborn] at starts; cases starts
          exact of_decide_eq_true (List.all_eq_true.mp tidy other (List.mem_range.mpr born)) starts
      | _ => trivial
  | reap workspaceId =>
      intro record runner found
      rw [of_decide_eq_true tidy] at found
      cases found
  | closeNext record => cases tidy
  | _ => trivial

theorem tidyRun_path (state : State) (labels : List Label) (slots : Slots state)
    (tidy : tidyRun maxWorkspaces state labels = true) :
    Path ((pool maxWorkspaces).restrict Orderly) state labels ((pool maxWorkspaces).after state labels) := by
  induction labels generalizing state with
  | nil => exact .nil state
  | cons label rest ih =>
      rw [tidyRun, Bool.and_eq_true, Bool.and_eq_true] at tidy
      obtain ⟨⟨orderly, taken⟩, later⟩ := tidy
      have step_ := step_committed (pool maxWorkspaces) label state taken
      have kept := slots_effect maxWorkspaces state _ label slots (step_effect maxWorkspaces state _ label step_)
      exact .cons state _ _ label rest ⟨trivial, tidyStep_orderly state slots label orderly⟩ step_ (ih _ kept later)

def orderlyRun : List Label :=
  [.dispatch (sampleHeader .provisionWorkspace "provision")] ++ advances 0 7 ++
    [.child 0 .readCommand, .child 0 (.returns (.success [("path", "/work")]))] ++ advances 0 4 ++
    [.dispatch (sampleHeader .cleanupWorkspace "cleanup")] ++ advances 1 5 ++
    [.child 0 .readCommand, .child 0 (.returns (.success []))] ++ advances 1 5

def orderlyState : State := (pool 1).after (.started []) orderlyRun

theorem orderlyState_sound : orderlyState.runnerCount = 1 ∧ orderlyState.registry = [] ∧ Sound 1 orderlyState :=
  ⟨by decide +kernel, by decide +kernel, reachable_sound 1 orderlyState
    ⟨.started [], orderlyRun, ⟨[], .nil, rfl⟩, tidyRun_path 1 (.started []) orderlyRun (slots_started []) (by decide +kernel)⟩⟩

end Yaaos.Agent.Pool
