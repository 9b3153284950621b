import Yaaos.Agent.PoolSlots

set_option autoImplicit false

namespace Yaaos.Agent.Pool

open Yaaos.Base

variable (state : State)

def Stage.builds : Stage → Option Nat
  | .spawning record | .assigning record _ => some record
  | _ => none

def Stage.starts : Stage → Option Nat
  | .waiting record | .locked record | .ready record => some record
  | _ => none

def Stage.closes : Stage → Option Nat
  | .failed record _ | .removing record _ | .closing record _ => some record
  | _ => none

def Stage.sends : Stage → Bool
  | .ready _ | .reading _ _ _ | .failed _ _ | .removing _ _ | .closing _ _ | .storing _ _ | .clearing _ _ => true
  | _ => false

def Stage.names (stage : Stage) : Option Nat := (stage.builds <|> stage.waits) <|> stage.holds

structure Listed (state : State) : Prop where
  keys : ∀ entry ∈ state.registry, ∀ other ∈ state.registry, entry.1 = other.1 → entry = other
  values : ∀ entry ∈ state.registry, ∀ other ∈ state.registry, entry.2 = other.2 → entry = other
  named : ∀ index record, (state.calls index).stage.names = some record → record < state.recordCount ∧
    ∀ entry ∈ state.registry, entry.2 = record → entry.1 = (state.calls index).header.workspaceId
  built : ∀ index other record, (state.calls index).stage.builds = some record →
    (state.calls other).stage.builds = some record → index = other

theorem lookup_listed (workspaceId : String) (record : Nat)
    (found : state.lookup workspaceId = some record) : (workspaceId, record) ∈ state.registry := by
  obtain ⟨before, after, split, _⟩ := List.lookup_eq_some_iff.mp found
  rw [split]
  simp

theorem lookup_unlisted (workspaceId : String) (none : state.lookup workspaceId = none)
    (entry : String × Nat) (member : entry ∈ state.registry) : entry.1 ≠ workspaceId := by
  intro same
  rw [State.lookup, List.lookup_eq_none_iff] at none
  simpa [same] using none entry member

theorem standing_relates (index : Nat) (stage : Stage) (relation : Call → Call → Prop)
    (refl : ∀ call, relation call call)
    (own : relation (state.calls index) { state.calls index with stage := stage }) (other : Nat) :
    relation (state.calls other) (standing state index stage other) := by
  by_cases here : other = index
  · rw [here, standing, Function.update_self]
    exact own
  · rw [standing_other state index stage other here]
    exact refl _

theorem listed_frame (state next : State) (listed : Listed state) (recordCount : next.recordCount = state.recordCount)
    (registry : ∀ entry ∈ next.registry, entry ∈ state.registry)
    (named : ∀ index record, (next.calls index).stage.names = some record →
      (next.calls index).header = (state.calls index).header ∧ ((state.calls index).stage.names = some record ∨
        state.lookup (state.calls index).header.workspaceId = some record))
    (below : ∀ entry ∈ state.registry, entry.2 < state.recordCount)
    (built : ∀ index record, (next.calls index).stage.builds = some record →
      (state.calls index).stage.builds = some record) : Listed next where
  keys := fun entry member other another => listed.keys entry (registry entry member) other (registry other another)
  values := fun entry member other another => listed.values entry (registry entry member) other (registry other another)
  named := fun index record names => by
    obtain ⟨header, old | found⟩ := named index record names
    · obtain ⟨there, same⟩ := listed.named index record old
      rw [recordCount, header]
      exact ⟨there, fun entry member => same entry (registry entry member)⟩
    · have member := lookup_listed state _ record found
      rw [recordCount, header]
      refine ⟨below _ member, fun entry there own => ?_⟩
      rw [listed.values entry (registry entry there) _ member own]
  built := fun index other record builds another => listed.built index other record (built index record builds) (built other record another)

def NamesLess (state : State) (before after : Call) : Prop :=
  after.header = before.header ∧
    (∀ record, after.stage.names = some record → before.stage.names = some record ∨
      state.lookup before.header.workspaceId = some record) ∧
    ∀ record, after.stage.builds = some record → before.stage.builds = some record

theorem namesLess_refl (call : Call) : NamesLess state call call :=
  ⟨rfl, fun _ names => .inl names, fun _ builds => builds⟩

theorem listed_less (state next : State) (listed : Listed state) (slots : Slots state)
    (recordCount : next.recordCount = state.recordCount) (registry : ∀ entry ∈ next.registry, entry ∈ state.registry)
    (less : ∀ index, NamesLess state (state.calls index) (next.calls index)) : Listed next :=
  listed_frame state next listed recordCount registry
    (fun index record names => ⟨(less index).1, (less index).2.1 record names⟩) slots.listed
    fun index record builds => (less index).2.2 record builds

theorem listed_turn (state next : State) (listed : Listed state) (slots : Slots state) (same : SameSlots state next)
    (index : Nat) (stage : Stage) (calls : next.calls = standing state index stage)
    (names : ∀ record, stage.names = some record → (state.calls index).stage.names = some record ∨
      state.lookup (state.calls index).header.workspaceId = some record)
    (builds : ∀ record, stage.builds = some record → (state.calls index).stage.builds = some record) : Listed next :=
  listed_less state next listed slots same.recordCount same.registry fun other => by
    rw [calls]
    exact standing_relates state index stage (NamesLess state) (namesLess_refl state) ⟨rfl, names, builds⟩ other

theorem listed_deed {env : Env} (state next : State) (index : Nat) (stage : Stage) (listed : Listed state) (slots : Slots state)
    (deed : Deed env state index stage next) : Listed next := by
  obtain ⟨same, _, calls, _⟩ := deed_keeps state next index stage deed
  have turn := listed_turn state next listed slots same index stage calls
  cases deed with
  | routed entering => exact turn nofun nofun
  | refused early reason => exact turn nofun nofun
  | unspawned record reason spawning fails => exact turn nofun nofun
  | found record finding sendable =>
      refine turn (fun other names => ?_) nofun
      cases names
      exact .inr (Option.filter_eq_some_iff.mp sendable).1
  | marked record locked => exact turn (fun other names => .inl (by rw [locked]; exact names)) nofun
  | gaveUp record reason failed => exact turn (fun other names => .inl (by rw [failed]; exact names)) nofun
  | removed record answer removing => exact turn (fun other names => .inl (by rw [removing]; exact names)) nofun
  | kept record answer storing => exact turn (fun other names => .inl (by rw [storing]; exact names)) nofun
  | stored record answer path storing => exact turn (fun other names => .inl (by rw [storing]; exact names)) nofun
  | cleared record answer clearing => exact turn (fun other names => .inl (by rw [clearing]; exact names)) nofun

theorem listed_reserved (listed : Listed state) (slots : Slots state) (index : Nat) :
    Listed ({ (state.remove (state.calls index).header.workspaceId).setRecord state.recordCount .reserved with
      registry := ((state.calls index).header.workspaceId, state.recordCount) ::
        (state.remove (state.calls index).header.workspaceId).registry
      recordCount := state.recordCount + 1 }.stand index (.spawning state.recordCount)) := by
  have old (entry : String × Nat) (member : entry ∈ (state.remove (state.calls index).header.workspaceId).registry) :
      entry ∈ state.registry ∧ entry.1 ≠ (state.calls index).header.workspaceId ∧ entry.2 < state.recordCount := by
    obtain ⟨there, away⟩ := List.mem_filter.mp member
    exact ⟨there, of_decide_eq_true away, slots.listed entry there⟩
  refine ⟨fun entry member other another same => ?_, fun entry member other another same => ?_, ?_,
    fun first second record builds another => ?_⟩
  · rcases List.mem_cons.mp member with rfl | member
    · rcases List.mem_cons.mp another with rfl | another
      · rfl
      · exact absurd same.symm (old other another).2.1
    · rcases List.mem_cons.mp another with rfl | another
      · exact absurd same (old entry member).2.1
      · exact listed.keys entry (old entry member).1 other (old other another).1 same
  · rcases List.mem_cons.mp member with rfl | member
    · rcases List.mem_cons.mp another with rfl | another
      · rfl
      · exact absurd same.symm (Nat.ne_of_lt (old other another).2.2)
    · rcases List.mem_cons.mp another with rfl | another
      · exact absurd same (Nat.ne_of_lt (old entry member).2.2)
      · exact listed.values entry (old entry member).1 other (old other another).1 same
  · intro other record names
    by_cases here : other = index
    · rw [here] at names ⊢
      cases (congrArg Stage.names (standing_self state index (.spawning state.recordCount))).symm.trans names
      refine ⟨Nat.lt_succ_self _, fun entry member own => ?_⟩
      rcases List.mem_cons.mp member with rfl | member
      · exact (congrArg CommandHeader.workspaceId (standing_header state index (.spawning state.recordCount) index)).symm
      · exact absurd own (Nat.ne_of_lt (old entry member).2.2)
    · have was : (state.calls other).stage.names = some record :=
        (congrArg (fun call => call.stage.names) (standing_other state index (.spawning state.recordCount) other here)).symm.trans
          names
      obtain ⟨below, filed⟩ := listed.named other record was
      refine ⟨Nat.lt_succ_of_lt below, fun entry member own => ?_⟩
      rcases List.mem_cons.mp member with rfl | member
      · exact absurd own (Nat.ne_of_gt below)
      · exact (filed entry (old entry member).1 own).trans
          (congrArg CommandHeader.workspaceId (standing_header state index (.spawning state.recordCount) other)).symm
  · have from_ (third : Nat) (building : (standing state index (.spawning state.recordCount) third).stage.builds = some record) :
        (third = index ∧ record = state.recordCount) ∨
          ((state.calls third).stage.builds = some record ∧ record < state.recordCount) := by
      by_cases here : third = index
      · rw [here, standing_self] at building
        cases building
        exact .inl ⟨here, rfl⟩
      · rw [standing_other state index _ third here] at building
        exact .inr ⟨building, (listed.named third record (by rw [Stage.names, building]; rfl)).1⟩
    rcases from_ first builds with ⟨here, fresh⟩ | ⟨was, below⟩
    · rcases from_ second another with ⟨there, _⟩ | ⟨_, below⟩
      · rw [here, there]
      · exact absurd fresh (Nat.ne_of_lt below)
    · rcases from_ second another with ⟨_, fresh⟩ | ⟨wasToo, _⟩
      · exact absurd fresh (Nat.ne_of_lt below)
      · exact listed.built first second record was wasToo

theorem listed_called (listed : Listed state) (slots : Slots state) (header : CommandHeader) :
    Listed { state with
      calls := Function.update state.calls state.callCount { header := header, stage := .entering }
      callCount := state.callCount + 1 } := by
  have old (index : Nat) (named : ((Function.update state.calls state.callCount
      { header := header, stage := .entering }) index).stage.names ≠ none) :
      (Function.update state.calls state.callCount { header := header, stage := .entering }) index = state.calls index := by
    by_cases new : index = state.callCount
    · rw [new, Function.update_self] at named
      exact absurd rfl named
    · rw [Function.update_of_ne new]
  refine listed_frame state _ listed rfl (fun _ member => member) (fun index record names => ?_) slots.listed
    fun index record builds => ?_
  · have same := old index (by rw [show _ = some record from names]; nofun)
    exact ⟨congrArg Call.header same, .inl (congrArg (fun call => call.stage.names) same ▸ names)⟩
  · have named : ((Function.update state.calls state.callCount
        { header := header, stage := .entering }) index).stage.names ≠ none := by
      rw [Stage.names, show Stage.builds _ = some record from builds]
      nofun
    exact congrArg (fun call => call.stage.builds) (old index named) ▸ builds

theorem listed_effect (maxWorkspaces : Nat) (label : Label) (state next : State) (listed : Listed state) (slots : Slots state)
    (effect : Effect maxWorkspaces state next label) : Listed next := by
  have stays (same : SameSlots state next) (calls : next.calls = state.calls) : Listed next :=
    listed_less state next listed slots same.recordCount same.registry fun index => by
      rw [calls]
      exact namesLess_refl state _
  cases effect with
  | called header same => exact same ▸ listed_called state listed slots header
  | soft index stage deed => exact listed_deed state next index stage listed slots deed
  | reaped workspaceId same => exact stays (same ▸ sameSlots_remove state workspaceId) (by rw [same]; rfl)
  | closedAll same => exact stays (same ▸ sameSlots_closeAll state) (by rw [same]; rfl)
  | reserved index workspaceId entering named free room same =>
      rw [same, ← named]
      exact listed_reserved state listed slots index
  | spawned index record spawning same =>
      refine listed_less state next listed slots (same ▸ rfl) (same ▸ fun _ member => member) fun other => ?_
      rw [same]
      exact standing_relates state index (.assigning record state.runnerCount) (NamesLess state) (namesLess_refl state)
        ⟨rfl, fun built names => .inl (by rw [spawning]; exact names), fun built builds => by rw [spawning]; exact builds⟩ other
  | assigned index record runner assigning same =>
      obtain ⟨records, found⟩ := assignRunner_records state (state.calls index).header.workspaceId runner
      rw [found] at same
      refine listed_less state next listed slots (same ▸ rfl) (same ▸ fun _ member => member) fun other => ?_
      rw [same]
      exact standing_relates state index .finding (NamesLess state) (namesLess_refl state) ⟨rfl, (by intros; contradiction), (by intros; contradiction)⟩ other
  | locked index record waiting free same =>
      refine listed_less state next listed slots (same ▸ rfl) (same ▸ fun _ member => member) fun other => ?_
      rw [same]
      exact standing_relates state index (.locked record) (NamesLess state) (namesLess_refl state)
        ⟨rfl, fun held names => .inl (by rw [waiting]; exact names), (by intros; contradiction)⟩ other
  | unlocked index record answer unlocking same =>
      refine listed_less state next listed slots (same ▸ rfl) (same ▸ fun _ member => member) fun other => ?_
      rw [same]
      exact standing_relates state index (.returned answer) (NamesLess state) (namesLess_refl state) ⟨rfl, (by intros; contradiction), (by intros; contradiction)⟩ other
  | wrote index record runner ready own open_ same =>
      exact listed_turn state next listed slots (same ▸ sameSlots_runner state runner _ index _) index
        (.reading record runner false) (same ▸ rfl) (fun held names => .inl (by rw [ready]; exact names)) (by intros; contradiction)
  | brokeOff index record runner reason ready own open_ same =>
      exact listed_turn state next listed slots (same ▸ sameSlots_runner state runner _ index _) index
        (.failed record reason) (same ▸ rfl) (fun held names => .inl (by rw [ready]; exact names)) (by intros; contradiction)
  | stopped index record reason began same =>
      refine listed_turn state next listed slots (same ▸ sameSlots_stand state state index _ (sameSlots_refl state)) index
        (.failed record reason) (same ▸ rfl) (fun held names => .inl ?_) (by intros; contradiction)
      rcases began with ⟨ready, _⟩ | ⟨runner, cancelled, reading⟩
      · rw [ready]; exact names
      · rw [reading]; exact names
  | forwards index record runner cancelled event rest reading front progress same =>
      exact stays (same ▸ ⟨⟨fun _ => rfl, rfl, rfl, rfl, fun _ member => member⟩, fun _ => rfl⟩) (same ▸ rfl)
  | drops index record runner event rest reason reading front same =>
      exact listed_turn state next listed slots (same ▸ sameSlots_runner state runner _ index _) index
        (.failed record reason) (same ▸ rfl) (fun held names => .inl (by rw [reading]; exact names)) (by intros; contradiction)
  | answers index record runner event rest outcome stage reading front ends after same =>
      refine listed_turn state next listed slots (same ▸ sameSlots_runner state runner _ index _) index stage (same ▸ rfl)
        (fun held names => .inl ?_) ?_
      · rw [reading]
        rcases after with rfl | rfl | rfl <;> exact names
      · rcases after with rfl | rfl | rfl <;> (intros; contradiction)
  | closed index record answer closing same =>
      refine listed_turn state next listed slots (same ▸ sameSlots_stand state _ index _ (sameSlots_close state record).1) index
        (.clearing record answer) ?_ (fun held names => .inl (by rw [closing]; exact names)) (by intros; contradiction)
      rw [same, State.stand, (sameSlots_close state record).2]
      rfl
  | closedNext record doomed same =>
      obtain ⟨slotsSame, calls⟩ := sameSlots_close state record
      exact stays (same ▸ ⟨⟨slotsSame.runner, slotsSame.recordCount, slotsSame.runnerCount, slotsSame.callCount,
        slotsSame.registry⟩, slotsSame.holder⟩) (same ▸ calls)
  | cancelled index record runner reading same =>
      exact listed_turn state next listed slots (same ▸ sameSlots_stand state state index _ (sameSlots_refl state)) index
        (.reading record runner true) (same ▸ rfl) (fun held names => .inl (by rw [reading]; exact names)) (by intros; contradiction)
  | child runner act after there took same =>
      exact stays (same ▸ ⟨⟨fun _ => rfl, rfl, rfl, rfl, fun _ member => member⟩, fun _ => rfl⟩) (same ▸ rfl)

def Own (state : State) (workspaceId : String) (record : Nat) : Prop :=
  state.lookup workspaceId = some record ∨ state.lookup workspaceId = none

def Undisturbed (state : State) (record : Nat) : Prop := ∀ index, (state.calls index).stage.starts ≠ some record

def Spoken (state : State) (runner : Nat) : Prop :=
  (state.runners runner).stdinOpen = false ∨ (∃ index, (state.calls index).stage.assigns = some runner) ∨
    (∃ index record, (state.calls index).stage.closes = some record ∧ (state.records record).runner = some runner) ∨
      ∃ record ∈ state.doomed, (state.records record).runner = some runner

def Orderly (state : State) : Label → Prop
  | .advance index env =>
    match (state.calls index).stage with
    | .spawning record => env.spawnError = none ∨ Own state (state.calls index).header.workspaceId record
    | .assigning record _ => state.lookup (state.calls index).header.workspaceId = some record
    | .locked record | .failed record _ | .removing record _ | .clearing record _ =>
        Own state (state.calls index).header.workspaceId record
    | .closing record _ => Undisturbed state record
    | _ => True
  | .reap workspaceId => ∀ record runner, state.lookup workspaceId = some record →
      (state.records record).runner = some runner → Spoken state runner
  | .closeNext record => Undisturbed state record
  | _ => True

theorem own_listed (listed : Listed state) (workspaceId : String) (record : Nat)
    (own : Own state workspaceId record) (named : ∀ entry ∈ state.registry, entry.2 = record → entry.1 = workspaceId)
    (entry : String × Nat) (member : entry ∈ state.registry) : entry.1 = workspaceId ↔ entry.2 = record := by
  refine ⟨fun same => ?_, named entry member⟩
  rcases own with found | none
  · rw [listed.keys entry member _ (lookup_listed state workspaceId record found) same]
  · exact absurd same (lookup_unlisted state workspaceId none entry member)

theorem change_own (workspaceId : String) (record : Nat) (change : Record → Record)
    (own : Own state workspaceId record) (other : Nat) :
    ((state.change workspaceId change).records other = state.records other ∧
      (other = record → state.lookup workspaceId = none)) ∨
      (other = record ∧ (state.change workspaceId change).records other = change (state.records other)) := by
  unfold State.change
  rcases own with found | none
  · rw [found]
    by_cases here : other = record
    · rw [here]
      exact .inr ⟨rfl, Function.update_self record _ _⟩
    · exact .inl ⟨Function.update_of_ne here _ _, fun same => absurd same here⟩
  · rw [none]
    exact .inl ⟨rfl, fun _ => rfl⟩

def busyId (state : State) (record : Nat) : String :=
  match (state.records record).holder with
  | none => ""
  | some index => if (state.calls index).stage.sends then (state.calls index).header.commandId else ""

structure Busy (state : State) : Prop where
  holding : ∀ record index, (state.records record).holder = some index → (state.calls index).stage.holds = some record
  marks : ∀ entry ∈ state.registry, (state.records entry.2).currentCommandId = busyId state entry.2

def SameBusy (before after : Call) : Prop :=
  after.stage.holds = before.stage.holds ∧ after.stage.sends = before.stage.sends ∧
    (before.stage.sends = true → after.header = before.header)

theorem sameBusy_refl (call : Call) : SameBusy call call := ⟨rfl, rfl, fun _ => rfl⟩

theorem busyId_frame (state next : State) (record : Nat)
    (holder : (next.records record).holder = (state.records record).holder)
    (calls : ∀ index, (state.records record).holder = some index → SameBusy (state.calls index) (next.calls index)) :
    busyId next record = busyId state record := by
  unfold busyId
  rw [holder]
  cases held : (state.records record).holder with
  | none => rfl
  | some index =>
      obtain ⟨_, sends, header⟩ := calls index held
      simp only [sends]
      split
      · rename_i sending
        rw [header sending]
      · rfl

theorem busy_frame (state next : State) (busy : Busy state)
    (holder : ∀ record, (next.records record).holder = (state.records record).holder)
    (marks : ∀ record, (next.records record).currentCommandId = (state.records record).currentCommandId)
    (registry : ∀ entry ∈ next.registry, entry ∈ state.registry)
    (calls : ∀ index, SameBusy (state.calls index) (next.calls index)) : Busy next where
  holding := fun record index held => by
    rw [(calls index).1]
    exact busy.holding record index (holder record ▸ held)
  marks := fun entry member => by
    rw [marks, busy.marks entry (registry entry member)]
    exact (busyId_frame state next entry.2 (holder entry.2) fun index _ => calls index).symm

theorem busy_set (busy : Busy state) (listed : Listed state) (slots : Slots state) (index record : Nat)
    (stage : Stage) (value : String) (own : Own state (state.calls index).header.workspaceId record)
    (held : (state.calls index).stage.holds = some record) (holds : stage.holds = some record)
    (sends : value = if stage.sends then (state.calls index).header.commandId else "") :
    Busy ((setCommandId state (state.calls index).header.workspaceId value).stand index stage) := by
  have holder (other : Nat) : ((setCommandId state (state.calls index).header.workspaceId value).records other).holder =
      (state.records other).holder :=
    (sameSlots_change state _ (fun record => { record with currentCommandId := value }) (fun _ => rfl) fun _ => rfl).1.holder other
  have calls : ((setCommandId state (state.calls index).header.workspaceId value).stand index stage).calls =
      standing state index stage := by
    rw [State.stand, setCommandId, (sameSlots_change state _ (fun record => { record with currentCommandId := value })
      (fun _ => rfl) fun _ => rfl).2.2]
    rfl
  have mine := slots.locked index record held
  have named := (listed.named index record (by
    rw [Stage.names, held]
    cases shape : (state.calls index).stage with
    | waiting other => rw [shape] at held; cases held
    | spawning other => rw [shape] at held; cases held
    | assigning other runner => rw [shape] at held; cases held
    | _ => rfl)).2
  refine ⟨fun other third holds_ => ?_, fun entry member => ?_⟩
  · have was := busy.holding other third ((holder other).symm.trans holds_)
    rw [calls]
    by_cases here : third = index
    · rw [here, held] at was
      rw [here, standing_self]
      exact holds.trans was
    · rw [standing_other state index stage third here]
      exact was
  · have there : entry ∈ state.registry := (sameSlots_change state _
      (fun record => { record with currentCommandId := value }) (fun _ => rfl) fun _ => rfl).1.registry entry member
    have filed := own_listed state listed _ record own named entry there
    rcases change_own state (state.calls index).header.workspaceId record
      (fun record => { record with currentCommandId := value }) own entry.2 with ⟨same, gone⟩ | ⟨here, changed⟩
    · have away : entry.2 ≠ record := fun here =>
        lookup_unlisted state _ (gone here) entry there (filed.mpr here)
      refine ((congrArg Record.currentCommandId same).trans (busy.marks entry there)).trans
        (busyId_frame state ((setCommandId state (state.calls index).header.workspaceId value).stand index stage) entry.2
          (holder entry.2) fun third holds_ => ?_).symm
      have different : third ≠ index := fun here => by
        have was := busy.holding entry.2 third holds_
        rw [here, held] at was
        exact away (Option.some.inj was).symm
      rw [calls, standing_other state index stage third different]
      exact sameBusy_refl _
    · refine (congrArg Record.currentCommandId changed).trans ?_
      have now : (((setCommandId state (state.calls index).header.workspaceId value).stand index stage).records
          entry.2).holder = some index := (holder entry.2).trans (here ▸ mine)
      rw [busyId, now]
      simp only [calls, standing_self, standing_header]
      exact sends

theorem busy_turn (busy : Busy state) (index record : Nat) (stage : Stage) (after : Option Nat)
    (empty : busyId state record = "")
    (holds : ∀ other, (state.calls index).stage.holds = some other → other = record)
    (now : ∀ other, after = some other → other = index ∧ stage.holds = some record) (quiet : stage.sends = false) :
    Busy ((state.setRecord record { state.records record with holder := after }).stand index stage) := by
  have others (other : Nat) (away : other ≠ record) : ((state.setRecord record
      { state.records record with holder := after }).stand index stage).records other = state.records other :=
    Function.update_of_ne away _ _
  have own : (((state.setRecord record { state.records record with holder := after }).stand index stage).records record) =
      { state.records record with holder := after } := Function.update_self record _ _
  have notIndex (other third : Nat) (away : other ≠ record) (held : (state.records other).holder = some third) :
      third ≠ index := fun here => away (holds other (here ▸ busy.holding other third held))
  refine ⟨fun other third held => ?_, fun entry member => ?_⟩
  · by_cases here : other = record
    · rw [here, own] at held
      obtain ⟨same, holding⟩ := now third held
      rw [same, here]
      exact (congrArg Stage.holds (standing_self state index stage)).trans holding
    · rw [others other here] at held
      exact (congrArg (fun call => call.stage.holds)
        (standing_other state index stage third (notIndex other third here held))).trans (busy.holding other third held)
  · by_cases here : entry.2 = record
    · rw [here, own]
      refine ((congrArg (fun id => (state.records id).currentCommandId) here).symm.trans (busy.marks entry member)).trans ?_
      rw [here, empty, busyId, own]
      cases after with
      | none => rfl
      | some third =>
          obtain ⟨rfl, _⟩ := now third rfl
          simp only [State.stand, Function.update_self, quiet]
          rfl
    · rw [others entry.2 here]
      refine (busy.marks entry member).trans (busyId_frame state _ entry.2
        (congrArg Record.holder (others entry.2 here)) fun third held => ?_).symm
      rw [State.stand]
      simp only [Function.update_of_ne (notIndex entry.2 third here held)]
      exact sameBusy_refl _

theorem busy_reserved (busy : Busy state) (slots : Slots state) (workspaceId : String) :
    Busy { (state.remove workspaceId).setRecord state.recordCount .reserved with
      registry := (workspaceId, state.recordCount) :: (state.remove workspaceId).registry
      recordCount := state.recordCount + 1 } := by
  have old (record : Nat) (away : record ≠ state.recordCount) :
      Function.update state.records state.recordCount .reserved record = state.records record :=
    Function.update_of_ne away _ _
  refine ⟨fun record index held => ?_, fun entry member => ?_⟩
  · by_cases here : record = state.recordCount
    · simp only [State.setRecord, State.remove, here, Function.update_self] at held
      cases held
    · simp only [State.setRecord, State.remove, old record here] at held
      exact busy.holding record index held
  · rcases List.mem_cons.mp member with rfl | member
    · simp only [State.setRecord, State.remove, busyId, Function.update_self]
      rfl
    · have there := (List.mem_filter.mp member).1
      have away := Nat.ne_of_lt (slots.listed entry there)
      simp only [State.setRecord, State.remove, busyId, old entry.2 away]
      exact busy.marks entry there

theorem change_keeps {α : Type} (field : Record → α) (state : State) (workspaceId : String) (change : Record → Record)
    (kept : ∀ record, field (change record) = field record) (record : Nat) :
    field ((state.change workspaceId change).records record) = field (state.records record) := by
  unfold State.change
  split
  · rfl
  · rename_i found _
    by_cases here : record = found
    · simp only [State.setRecord, here, Function.update_self, kept]
    · simp only [State.setRecord, Function.update_of_ne here]

theorem busy_deed (state next : State) (index : Nat) (env : Env) (stage : Stage) (busy : Busy state) (listed : Listed state)
    (slots : Slots state) (orderly : Orderly state (.advance index env)) (deed : Deed env state index stage next) : Busy next := by
  obtain ⟨same, _, calls, _⟩ := deed_keeps state next index stage deed
  have turn (marks : ∀ record, (next.records record).currentCommandId = (state.records record).currentCommandId)
      (kept : stage.holds = (state.calls index).stage.holds ∧ stage.sends = (state.calls index).stage.sends) : Busy next :=
    busy_frame state next busy same.holder marks same.registry fun other => by
      rw [calls]
      exact standing_relates state index stage SameBusy sameBusy_refl ⟨kept.1, kept.2, fun _ => rfl⟩ other
  cases deed with
  | routed entering => exact turn (fun _ => rfl) (by rw [entering]; exact ⟨rfl, rfl⟩)
  | refused early reason => exact turn (fun _ => rfl) (by rcases early with same | same <;> rw [same] <;> exact ⟨rfl, rfl⟩)
  | unspawned record reason spawning fails => exact turn (fun _ => rfl) (by rw [spawning]; exact ⟨rfl, rfl⟩)
  | found record finding sendable => exact turn (fun _ => rfl) (by rw [finding]; exact ⟨rfl, rfl⟩)
  | marked record locked =>
      simp only [Orderly, locked] at orderly
      exact busy_set state busy listed slots index record (.ready record) _ orderly (by rw [locked]; rfl) rfl rfl
  | gaveUp record reason failed =>
      exact turn (change_keeps Record.currentCommandId state _ (fun record => { record with state := .defunct })
        fun _ => rfl) (by rw [failed]; exact ⟨rfl, rfl⟩)
  | removed record answer removing => exact turn (fun _ => rfl) (by rw [removing]; exact ⟨rfl, rfl⟩)
  | kept record answer storing => exact turn (fun _ => rfl) (by rw [storing]; exact ⟨rfl, rfl⟩)
  | stored record answer path storing =>
      exact turn (change_keeps Record.currentCommandId state _ (fun record => { record with path := path })
        fun _ => rfl) (by rw [storing]; exact ⟨rfl, rfl⟩)
  | cleared record answer clearing =>
      simp only [Orderly, clearing] at orderly
      exact busy_set state busy listed slots index record (.unlocking record answer) "" orderly (by rw [clearing]; rfl) rfl rfl

theorem busy_stays (state next : State) (busy : Busy state) (same : SameSlots state next)
    (marks : ∀ record, (next.records record).currentCommandId = (state.records record).currentCommandId)
    (calls : next.calls = state.calls ∨ ∃ index stage, next.calls = standing state index stage ∧
      stage.holds = (state.calls index).stage.holds ∧ stage.sends = (state.calls index).stage.sends) : Busy next := by
  refine busy_frame state next busy same.holder marks same.registry fun other => ?_
  rcases calls with calls | ⟨index, stage, calls, holds, sends⟩
  · rw [calls]
    exact sameBusy_refl _
  · rw [calls]
    exact standing_relates state index stage SameBusy sameBusy_refl ⟨holds, sends, fun _ => rfl⟩ other

theorem busy_effect (maxWorkspaces : Nat) (label : Label) (state next : State) (busy : Busy state) (listed : Listed state)
    (slots : Slots state) (orderly : Orderly state label) (effect : Effect maxWorkspaces state next label) : Busy next := by
  cases effect with
  | called header same =>
      rw [same]
      refine busy_frame state _ busy (fun _ => rfl) (fun _ => rfl) (fun _ member => member) fun index => ?_
      by_cases new : index = state.callCount
      · have unborn := slots.unborn _ (Nat.le_refl state.callCount)
        simp only [new, Function.update_self, SameBusy, unborn]
        exact ⟨rfl, rfl, nofun⟩
      · simp only [Function.update_of_ne new]
        exact sameBusy_refl _
  | soft index stage deed => exact busy_deed state next index _ stage busy listed slots orderly deed
  | reaped workspaceId same =>
      rw [same]
      exact busy_stays state _ busy (sameSlots_remove state workspaceId) (fun _ => rfl) (.inl rfl)
  | closedAll same =>
      rw [same]
      exact busy_stays state _ busy (sameSlots_closeAll state) (fun _ => rfl) (.inl rfl)
  | reserved index workspaceId entering named free room same =>
      rw [same]
      refine busy_stays _ _ (busy_reserved state busy slots workspaceId) (sameSlots_stand _ _ index _ (sameSlots_refl _))
        (fun _ => rfl) (.inr ⟨index, .spawning state.recordCount, rfl, ?_⟩)
      exact (congrArg (fun stage : Stage => (none : Option Nat) = stage.holds ∧ false = stage.sends) entering).mpr ⟨rfl, rfl⟩
  | spawned index record spawning same =>
      rw [same]
      refine busy_frame state _ busy (fun _ => rfl) (fun _ => rfl) (fun _ member => member) fun other => ?_
      exact standing_relates state index (.assigning record state.runnerCount) SameBusy sameBusy_refl
        ⟨by rw [spawning]; rfl, by rw [spawning]; rfl, fun _ => rfl⟩ other
  | assigned index record runner assigning same =>
      rw [same]
      obtain ⟨records, found⟩ := assignRunner_records state (state.calls index).header.workspaceId runner
      refine busy_frame state _ busy
        (change_keeps Record.holder state _ (fun record => { record with runner := some runner }) fun _ => rfl)
        (change_keeps Record.currentCommandId state _ (fun record => { record with runner := some runner }) fun _ => rfl)
        ?_ fun other => ?_
      · rw [found]
        exact fun _ member => member
      · rw [found]
        exact standing_relates state index .finding SameBusy sameBusy_refl
          ⟨by rw [assigning]; rfl, by rw [assigning]; rfl, fun _ => rfl⟩ other
  | locked index record waiting free same =>
      rw [same]
      refine busy_turn state busy index record (.locked record) (some index) (by rw [busyId, free])
        (fun other holds => by rw [waiting] at holds; cases holds) (fun other here => ?_) rfl
      exact ⟨(Option.some.inj here).symm, rfl⟩
  | unlocked index record answer unlocking same =>
      rw [same]
      have mine := slots.locked index record (by rw [unlocking]; rfl)
      exact busy_turn state busy index record (.returned answer) none (by rw [busyId, mine]; simp only [unlocking]; rfl)
        (fun other holds => by rw [unlocking] at holds; exact (Option.some.inj holds).symm) nofun rfl
  | wrote index record runner ready own open_ same =>
      rw [same]
      exact busy_stays state _ busy (sameSlots_runner state runner _ index _) (fun _ => rfl)
        (.inr ⟨index, .reading record runner false, rfl, by rw [ready]; exact ⟨rfl, rfl⟩⟩)
  | brokeOff index record runner reason ready own open_ same =>
      rw [same]
      exact busy_stays state _ busy (sameSlots_runner state runner _ index _) (fun _ => rfl)
        (.inr ⟨index, .failed record reason, rfl, by rw [ready]; exact ⟨rfl, rfl⟩⟩)
  | stopped index record reason began same =>
      rw [same]
      refine busy_stays state _ busy (sameSlots_stand state state index _ (sameSlots_refl state)) (fun _ => rfl)
        (.inr ⟨index, .failed record reason, rfl, ?_⟩)
      rcases began with ⟨ready, _⟩ | ⟨runner, cancelled, reading⟩
      · rw [ready]; exact ⟨rfl, rfl⟩
      · rw [reading]; exact ⟨rfl, rfl⟩
  | forwards index record runner cancelled event rest reading front progress same =>
      rw [same]
      exact busy_stays state _ busy ⟨⟨fun _ => rfl, rfl, rfl, rfl, fun _ member => member⟩, fun _ => rfl⟩ (fun _ => rfl)
        (.inl rfl)
  | drops index record runner event rest reason reading front same =>
      rw [same]
      exact busy_stays state _ busy (sameSlots_runner state runner _ index _) (fun _ => rfl)
        (.inr ⟨index, .failed record reason, rfl, by rw [reading]; exact ⟨rfl, rfl⟩⟩)
  | answers index record runner event rest outcome stage reading front ends after same =>
      rw [same]
      refine busy_stays state _ busy (sameSlots_runner state runner _ index _) (fun _ => rfl) (.inr ⟨index, stage, rfl, ?_⟩)
      rw [reading]
      rcases after with rfl | rfl | rfl <;> exact ⟨rfl, rfl⟩
  | closed index record answer closing same =>
      rw [same]
      refine busy_stays state _ busy (sameSlots_stand state _ index _ (sameSlots_close state record).1) (fun other => ?_)
        (.inr ⟨index, .clearing record answer, ?_, by rw [closing]; exact ⟨rfl, rfl⟩⟩)
      · simp only [State.stand, closeRunner]
        split <;> rfl
      · rw [State.stand, (sameSlots_close state record).2]
        rfl
  | closedNext record doomed same =>
      rw [same]
      obtain ⟨slotsSame, calls⟩ := sameSlots_close state record
      refine busy_stays state _ busy ⟨⟨slotsSame.runner, slotsSame.recordCount, slotsSame.runnerCount, slotsSame.callCount,
        slotsSame.registry⟩, slotsSame.holder⟩ (fun other => ?_) (.inl calls)
      simp only [closeRunner]
      split <;> rfl
  | cancelled index record runner reading same =>
      rw [same]
      exact busy_stays state _ busy (sameSlots_stand state state index _ (sameSlots_refl state)) (fun _ => rfl)
        (.inr ⟨index, .reading record runner true, rfl, by rw [reading]; exact ⟨rfl, rfl⟩⟩)
  | child runner act after there took same =>
      rw [same]
      exact busy_stays state _ busy ⟨⟨fun _ => rfl, rfl, rfl, rfl, fun _ member => member⟩, fun _ => rfl⟩ (fun _ => rfl)
        (.inl rfl)

end Yaaos.Agent.Pool
