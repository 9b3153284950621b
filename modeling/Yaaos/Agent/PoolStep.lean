import Yaaos.Agent.Pool

set_option autoImplicit false

namespace Yaaos.Agent.Pool

open Yaaos.Base

def Stage.holds : Stage → Option Nat
  | .locked record | .ready record | .reading record _ _ | .failed record _ | .removing record _ | .closing record _
  | .storing record _ | .clearing record _ | .unlocking record _ => some record
  | _ => none

def Stage.unsent : Stage → Bool
  | .unborn | .entering | .spawning _ | .assigning _ _ | .finding | .waiting _ | .locked _ | .ready _ => true
  | _ => false

def Stage.reads : Stage → Option Nat
  | .reading _ runner _ => some runner
  | _ => none

def Stage.assigns : Stage → Option Nat
  | .assigning _ runner => some runner
  | _ => none

structure SameOwners (state next : State) : Prop where
  runner : ∀ record, (next.records record).runner = (state.records record).runner
  recordCount : next.recordCount = state.recordCount
  runnerCount : next.runnerCount = state.runnerCount
  callCount : next.callCount = state.callCount
  registry : ∀ entry ∈ next.registry, entry ∈ state.registry

structure SameSlots (state next : State) : Prop extends SameOwners state next where
  holder : ∀ record, (next.records record).holder = (state.records record).holder

structure SamePipes (state next : State) : Prop where
  runners : next.runners = state.runners
  forwarded : next.forwarded = state.forwarded

def standing (state : State) (index : Nat) (stage : Stage) : Nat → Call :=
  Function.update state.calls index { state.calls index with stage := stage }

inductive Deed (env : Env) (state : State) (index : Nat) : Stage → State → Prop where
  | routed (entering : (state.calls index).stage = .entering) : Deed env state index .finding (state.stand index .finding)
  | refused (early : (state.calls index).stage = .entering ∨ (state.calls index).stage = .finding) (reason : String) :
      Deed env state index (.returned (synthetic (state.calls index).header reason))
        (state.stand index (.returned (synthetic (state.calls index).header reason)))
  | unspawned (record : Nat) (reason : String) (spawning : (state.calls index).stage = .spawning record)
      (fails : env.spawnError = some reason) :
      Deed env state index (.returned (synthetic (state.calls index).header ("spawn: " ++ reason)))
        ((state.remove (state.calls index).header.workspaceId).stand index
          (.returned (synthetic (state.calls index).header ("spawn: " ++ reason))))
  | found (record : Nat) (finding : (state.calls index).stage = .finding)
      (sendable : lookupSendable state (state.calls index).header.workspaceId = some record) :
      Deed env state index (.waiting record) (state.stand index (.waiting record))
  | marked (record : Nat) (locked : (state.calls index).stage = .locked record) :
      Deed env state index (.ready record)
        ((setCommandId state (state.calls index).header.workspaceId (state.calls index).header.commandId).stand index
          (.ready record))
  | gaveUp (record : Nat) (reason : String) (failed : (state.calls index).stage = .failed record reason) :
      Deed env state index (.closing record (synthetic (state.calls index).header reason))
        ((markDefunct state (state.calls index).header.workspaceId).stand index
          (.closing record (synthetic (state.calls index).header reason)))
  | removed (record : Nat) (answer : Answer) (removing : (state.calls index).stage = .removing record answer) :
      Deed env state index (.closing record answer)
        ((state.remove (state.calls index).header.workspaceId).stand index (.closing record answer))
  | kept (record : Nat) (answer : Answer) (storing : (state.calls index).stage = .storing record answer) :
      Deed env state index (.clearing record answer) (state.stand index (.clearing record answer))
  | stored (record : Nat) (answer : Answer) (path : String) (storing : (state.calls index).stage = .storing record answer) :
      Deed env state index (.clearing record answer)
        ((setPath state (state.calls index).header.workspaceId path).stand index (.clearing record answer))
  | cleared (record : Nat) (answer : Answer) (clearing : (state.calls index).stage = .clearing record answer) :
      Deed env state index (.unlocking record answer)
        ((setCommandId state (state.calls index).header.workspaceId "").stand index (.unlocking record answer))

inductive Effect (maxWorkspaces : Nat) (state next : State) : Label → Prop where
  | called (header : CommandHeader)
      (same : next = { state with
        calls := Function.update state.calls state.callCount { header := header, stage := .entering }
        callCount := state.callCount + 1 }) : Effect maxWorkspaces state next (.dispatch header)
  | soft {env : Env} (index : Nat) (stage : Stage) (deed : Deed env state index stage next) :
      Effect maxWorkspaces state next (.advance index env)
  | reaped (workspaceId : String) (same : next = state.remove workspaceId) : Effect maxWorkspaces state next (.reap workspaceId)
  | closedAll (same : next = closeAll state) : Effect maxWorkspaces state next .closeAll
  | reserved {env : Env} (index : Nat) (workspaceId : String) (entering : (state.calls index).stage = .entering)
      (named : (state.calls index).header.workspaceId = workspaceId) (free : state.active workspaceId = false)
      (room : 0 < maxWorkspaces → state.activeCount < maxWorkspaces)
      (same : next = { (state.remove workspaceId).setRecord state.recordCount .reserved with
        registry := (workspaceId, state.recordCount) :: (state.remove workspaceId).registry
        recordCount := state.recordCount + 1 }.stand index (.spawning state.recordCount)) :
      Effect maxWorkspaces state next (.advance index env)
  | spawned {env : Env} (index record : Nat) (spawning : (state.calls index).stage = .spawning record)
      (same : next = { state.setRunner state.runnerCount .spawned with runnerCount := state.runnerCount + 1 }.stand index
        (.assigning record state.runnerCount)) : Effect maxWorkspaces state next (.advance index env)
  | assigned {env : Env} (index record runner : Nat) (assigning : (state.calls index).stage = .assigning record runner)
      (same : next = (assignRunner state (state.calls index).header.workspaceId runner).stand index .finding) :
      Effect maxWorkspaces state next (.advance index env)
  | locked {env : Env} (index record : Nat) (waiting : (state.calls index).stage = .waiting record)
      (free : (state.records record).holder = none)
      (same : next = (state.setRecord record { state.records record with holder := some index }).stand index
        (.locked record)) : Effect maxWorkspaces state next (.advance index env)
  | unlocked {env : Env} (index record : Nat) (answer : Answer)
      (unlocking : (state.calls index).stage = .unlocking record answer)
      (same : next = (state.setRecord record { state.records record with holder := none }).stand index (.returned answer)) :
      Effect maxWorkspaces state next (.advance index env)
  | wrote {env : Env} (index record runner : Nat) (ready : (state.calls index).stage = .ready record)
      (own : (state.records record).runner = some runner) (open_ : (state.runners runner).stdinOpen = true)
      (same : next = (state.setRunner runner
        { state.runners runner with inbox := (state.runners runner).inbox ++ [index] }).stand index
        (.reading record runner false)) : Effect maxWorkspaces state next (.advance index env)
  | brokeOff {env : Env} (index record runner : Nat) (reason : String) (ready : (state.calls index).stage = .ready record)
      (own : (state.records record).runner = some runner) (open_ : (state.runners runner).stdinOpen = true)
      (same : next = (state.setRunner runner
        { state.runners runner with inbox := (state.runners runner).inbox ++ [index] }).stand index
        (.failed record reason)) : Effect maxWorkspaces state next (.advance index env)
  | stopped {env : Env} (index record : Nat) (reason : String)
      (began : ((state.calls index).stage = .ready record ∧ (state.records record).runner ≠ none) ∨
        ∃ runner cancelled, (state.calls index).stage = .reading record runner cancelled)
      (same : next = state.stand index (.failed record reason)) : Effect maxWorkspaces state next (.advance index env)
  | forwards {env : Env} (index record runner : Nat) (cancelled : Bool) (event : PipeEvent) (rest : List PipeEvent)
      (reading : (state.calls index).stage = .reading record runner cancelled)
      (front : (state.runners runner).stdout = event :: rest) (progress : event.isTerminal = false)
      (same : next = { state.setRunner runner { state.runners runner with stdout := rest } with
        forwarded := state.forwarded ++ [(index, event)] }) : Effect maxWorkspaces state next (.advance index env)
  | drops {env : Env} (index record runner : Nat) (event : PipeEvent) (rest : List PipeEvent) (reason : String)
      (reading : (state.calls index).stage = .reading record runner true)
      (front : (state.runners runner).stdout = event :: rest)
      (same : next = (state.setRunner runner { state.runners runner with stdout := rest }).stand index
        (.failed record reason)) : Effect maxWorkspaces state next (.advance index env)
  | answers {env : Env} (index record runner : Nat) (event : PipeEvent) (rest : List PipeEvent) (outcome : Outcome)
      (stage : Stage) (reading : (state.calls index).stage = .reading record runner false)
      (front : (state.runners runner).stdout = event :: rest) (ends : event.body = .terminal outcome)
      (after : stage = .removing record (answerOf event outcome) ∨ stage = .storing record (answerOf event outcome) ∨
        stage = .clearing record (answerOf event outcome))
      (same : next = (state.setRunner runner { state.runners runner with stdout := rest }).stand index stage) :
      Effect maxWorkspaces state next (.advance index env)
  | closed {env : Env} (index record : Nat) (answer : Answer)
      (closing : (state.calls index).stage = .closing record answer)
      (same : next = (closeRunner state record).stand index (.clearing record answer)) :
      Effect maxWorkspaces state next (.advance index env)
  | closedNext (record : Nat) (doomed : record ∈ state.doomed)
      (same : next = { closeRunner state record with doomed := state.doomed.erase record }) :
      Effect maxWorkspaces state next (.closeNext record)
  | cancelled (index record runner : Nat) (reading : (state.calls index).stage = .reading record runner false)
      (same : next = state.stand index (.reading record runner true)) : Effect maxWorkspaces state next (.cancel index)
  | child (runner : Nat) (act : ChildAct) (after : Runner) (there : runner < state.runnerCount)
      (took : childStep (fun source => (state.calls source).header) (state.runners runner) act = .ok after)
      (same : next = state.setRunner runner after) : Effect maxWorkspaces state next (.child runner act)

theorem sameSlots_refl (state : State) : SameSlots state state :=
  ⟨⟨fun _ => rfl, rfl, rfl, rfl, fun _ member => member⟩, fun _ => rfl⟩

theorem sameSlots_stand (state next : State) (index : Nat) (stage : Stage) (slots : SameSlots state next) :
    SameSlots state (next.stand index stage) :=
  ⟨⟨slots.runner, slots.recordCount, slots.runnerCount, slots.callCount, slots.registry⟩, slots.holder⟩

theorem sameSlots_change (state : State) (workspaceId : String) (change : Record → Record)
    (runner : ∀ record, (change record).runner = record.runner) (holder : ∀ record, (change record).holder = record.holder) :
    SameSlots state (state.change workspaceId change) ∧ SamePipes state (state.change workspaceId change) ∧
      (state.change workspaceId change).calls = state.calls := by
  unfold State.change
  cases state.lookup workspaceId with
  | none => exact ⟨sameSlots_refl state, ⟨rfl, rfl⟩, rfl⟩
  | some found =>
      refine ⟨⟨⟨fun record => ?_, rfl, rfl, rfl, fun _ member => member⟩, fun record => ?_⟩, ⟨rfl, rfl⟩, rfl⟩
      · by_cases same : record = found
        · simp [State.setRecord, same, runner]
        · simp [State.setRecord, same]
      · by_cases same : record = found
        · simp [State.setRecord, same, holder]
        · simp [State.setRecord, same]

theorem sameSlots_remove (state : State) (workspaceId : String) : SameSlots state (state.remove workspaceId) :=
  ⟨⟨fun _ => rfl, rfl, rfl, rfl, fun _ member => (List.mem_filter.mp member).1⟩, fun _ => rfl⟩

theorem sameSlots_closeAll (state : State) : SameSlots state (closeAll state) :=
  ⟨⟨fun _ => rfl, rfl, rfl, rfl, nofun⟩, fun _ => rfl⟩

inductive SoftStage (header : CommandHeader) : Stage → Stage → Prop where
  | routed : SoftStage header .entering .finding
  | refused (stage : Stage) (early : stage = .entering ∨ (∃ record, stage = .spawning record) ∨ stage = .finding)
      (reason : String) : SoftStage header stage (.returned (synthetic header reason))
  | found (record : Nat) : SoftStage header .finding (.waiting record)
  | marked (record : Nat) : SoftStage header (.locked record) (.ready record)
  | gaveUp (record : Nat) (reason : String) :
      SoftStage header (.failed record reason) (.closing record (synthetic header reason))
  | removed (record : Nat) (answer : Answer) : SoftStage header (.removing record answer) (.closing record answer)
  | stored (record : Nat) (answer : Answer) : SoftStage header (.storing record answer) (.clearing record answer)
  | cleared (record : Nat) (answer : Answer) : SoftStage header (.clearing record answer) (.unlocking record answer)

theorem deed_keeps {env : Env} (state next : State) (index : Nat) (stage : Stage) (deed : Deed env state index stage next) :
    SameSlots state next ∧ SamePipes state next ∧ next.calls = standing state index stage ∧
      SoftStage (state.calls index).header (state.calls index).stage stage := by
  have still := sameSlots_stand state state index stage (sameSlots_refl state)
  have removes (workspaceId : String) :=
    sameSlots_stand state (state.remove workspaceId) index stage (sameSlots_remove state workspaceId)
  have changes (workspaceId : String) (change : Record → Record) (runner : ∀ record, (change record).runner = record.runner)
      (holder : ∀ record, (change record).holder = record.holder) :
      SameSlots state ((state.change workspaceId change).stand index stage) ∧
        SamePipes state ((state.change workspaceId change).stand index stage) ∧
        ((state.change workspaceId change).stand index stage).calls = standing state index stage := by
    obtain ⟨slots, pipes, calls⟩ := sameSlots_change state workspaceId change runner holder
    exact ⟨sameSlots_stand state _ index stage slots, ⟨pipes.runners, pipes.forwarded⟩, by rw [State.stand, calls]; rfl⟩
  cases deed with
  | routed entering => exact ⟨still, ⟨rfl, rfl⟩, rfl, entering ▸ .routed⟩
  | refused early reason => exact ⟨still, ⟨rfl, rfl⟩, rfl, .refused _ (early.imp id .inr) reason⟩
  | unspawned record reason spawning fails =>
      exact ⟨removes _, ⟨rfl, rfl⟩, rfl, .refused _ (.inr (.inl ⟨record, spawning⟩)) ("spawn: " ++ reason)⟩
  | found record finding sendable => exact ⟨still, ⟨rfl, rfl⟩, rfl, finding ▸ .found record⟩
  | marked record locked =>
      obtain ⟨slots, pipes, calls⟩ := changes (state.calls index).header.workspaceId
        (fun record => { record with currentCommandId := (state.calls index).header.commandId }) (fun _ => rfl) fun _ => rfl
      exact ⟨slots, pipes, calls, locked ▸ .marked record⟩
  | gaveUp record reason failed =>
      obtain ⟨slots, pipes, calls⟩ := changes (state.calls index).header.workspaceId
        (fun record => { record with state := .defunct }) (fun _ => rfl) fun _ => rfl
      exact ⟨slots, pipes, calls, failed ▸ .gaveUp record reason⟩
  | removed record answer removing => exact ⟨removes _, ⟨rfl, rfl⟩, rfl, removing ▸ .removed record answer⟩
  | kept record answer storing => exact ⟨still, ⟨rfl, rfl⟩, rfl, storing ▸ .stored record answer⟩
  | stored record answer path storing =>
      obtain ⟨slots, pipes, calls⟩ := changes (state.calls index).header.workspaceId
        (fun record => { record with path := path }) (fun _ => rfl) fun _ => rfl
      exact ⟨slots, pipes, calls, storing ▸ .stored record answer⟩
  | cleared record answer clearing =>
      obtain ⟨slots, pipes, calls⟩ := changes (state.calls index).header.workspaceId
        (fun record => { record with currentCommandId := "" }) (fun _ => rfl) fun _ => rfl
      exact ⟨slots, pipes, calls, clearing ▸ .cleared record answer⟩

theorem deed_sendable {env : Env} (state next : State) (index : Nat) (stage : Stage)
    (deed : Deed env state index stage next) (record : Nat) (waiting : stage = .waiting record) : (state.records record).runner.isSome = true := by
  cases deed with
  | found found finding sendable =>
      cases waiting
      have there := (Option.filter_eq_some_iff.mp sendable).2
      rw [Bool.and_eq_true] at there
      exact there.2
  | _ => cases waiting

section Advance

variable (maxWorkspaces : Nat) (env : Env) (state : State) (index : Nat)

theorem enter_effect (entering : (state.calls index).stage = .entering) :
    Effect maxWorkspaces state (enter maxWorkspaces state index (state.calls index).header) (.advance index env) := by
  have refused (reason : String) : Effect maxWorkspaces state
      (state.stand index (.returned (synthetic (state.calls index).header reason))) (.advance index env) :=
    .soft index _ (.refused (.inl entering) reason)
  unfold enter
  split
  · exact refused "missing workspace_id"
  split
  · unfold reserveActiveSlot
    split
    · exact .soft index .finding (.routed entering)
    · rename_i idle
      split
      · exact refused "cap reached"
      · rename_i room
        exact .reserved index (state.calls index).header.workspaceId entering rfl (by simpa using idle)
          (fun capped => Nat.lt_of_not_le fun full => room ⟨capped, full⟩) rfl
  · exact .soft index .finding (.routed entering)

theorem spawn_effect (record : Nat) (spawning : (state.calls index).stage = .spawning record) :
    Effect maxWorkspaces state (spawn env state index (state.calls index).header record) (.advance index env) := by
  unfold spawn
  cases fails : env.spawnError with
  | some reason => exact .soft index _ (.unspawned record reason spawning fails)
  | none => exact .spawned index record spawning rfl

theorem find_effect (finding : (state.calls index).stage = .finding) :
    Effect maxWorkspaces state (find state index (state.calls index).header) (.advance index env) := by
  unfold find
  cases found : lookupSendable state (state.calls index).header.workspaceId with
  | none => exact .soft index _ (.refused (.inr finding) _)
  | some record => exact .soft index (.waiting record) (.found record finding found)

theorem lockSlot_effect (record : Nat) (next : State) (waiting : (state.calls index).stage = .waiting record)
    (taken : lockSlot state index record = .ok next) :
    Effect maxWorkspaces state next (.advance index env) := by
  unfold lockSlot at taken
  split at taken
  · cases taken
  · rename_i held
    exact .locked index record waiting (by simpa using held) (Except.ok.inj taken).symm

theorem beginSend_effect (record : Nat) (header : CommandHeader) (next : State)
    (ready : (state.calls index).stage = .ready record)
    (taken : beginSend env state index record header = .ok next) :
    Effect maxWorkspaces state next (.advance index env) := by
  unfold beginSend at taken
  split at taken
  · cases taken
  · rename_i runner own
    simp only at taken
    split at taken
    · rename_i open_
      cases written : env.writeError with
      | none =>
          rw [written] at taken
          exact .wrote index record runner ready own open_ (Except.ok.inj taken).symm
      | some reason =>
          rw [written] at taken
          simp only at taken
          cases left : env.delivered with
          | true =>
              rw [left, if_pos rfl] at taken
              exact .brokeOff index record runner _ ready own open_ (Except.ok.inj taken).symm
          | false =>
              rw [left, if_neg Bool.false_ne_true] at taken
              refine .stopped index record (sendFailure env header ("write command: " ++ reason)) (.inl ⟨ready, own ▸ nofun⟩)
                ((Except.ok.inj taken).symm.trans ?_)
              rw [State.setRunner, Function.update_eq_self]
    · exact .stopped index record _ (.inl ⟨ready, own ▸ nofun⟩) (Except.ok.inj taken).symm

theorem readEvent_effect (record runner : Nat) (cancelled : Bool) (header : CommandHeader) (next : State)
    (reading : (state.calls index).stage = .reading record runner cancelled)
    (taken : readEvent env state index record runner cancelled header = .ok next) :
    Effect maxWorkspaces state next (.advance index env) := by
  unfold readEvent at taken
  split at taken
  · exact .stopped index record _ (.inr ⟨runner, cancelled, reading⟩) (Except.ok.inj taken).symm
  · simp only at taken
    split at taken
    · cases taken
    · rename_i event rest front
      split at taken
      · rename_i outputs progress
        refine .forwards index record runner cancelled event rest reading front ?_ (Except.ok.inj taken).symm
        rw [PipeEvent.isTerminal, progress]
      · rename_i outcome ends
        split at taken
        · rename_i timedOut
          exact .drops index record runner event rest _ (timedOut ▸ reading) front (Except.ok.inj taken).symm
        · rename_i live
          have healthy : cancelled = false := by simpa using live
          have read := (Except.ok.inj taken).symm
          unfold endSend at read
          split at read
          · exact .answers index record runner event rest outcome _ (healthy ▸ reading) front ends (.inl rfl) read
          · exact .answers index record runner event rest outcome _ (healthy ▸ reading) front ends (.inr (.inl rfl)) read
          · exact .answers index record runner event rest outcome _ (healthy ▸ reading) front ends (.inr (.inr rfl)) read

theorem advance_effect (next : State) (taken : advance maxWorkspaces env state index = .ok next) :
    Effect maxWorkspaces state next (.advance index env) := by
  unfold advance at taken
  simp only at taken
  cases stage : (state.calls index).stage with
  | unborn => rw [stage] at taken; cases taken
  | entering => rw [stage] at taken; cases taken; exact enter_effect maxWorkspaces env state index stage
  | spawning record => rw [stage] at taken; cases taken; exact spawn_effect maxWorkspaces env state index record stage
  | assigning record runner => rw [stage] at taken; cases taken; exact .assigned index record runner stage rfl
  | finding => rw [stage] at taken; cases taken; exact find_effect maxWorkspaces env state index stage
  | waiting record => rw [stage] at taken; exact lockSlot_effect maxWorkspaces env state index record next stage taken
  | locked record => rw [stage] at taken; cases taken; exact .soft index (.ready record) (.marked record stage)
  | ready record => rw [stage] at taken; exact beginSend_effect maxWorkspaces env state index record _ next stage taken
  | reading record runner cancelled =>
      rw [stage] at taken
      exact readEvent_effect maxWorkspaces env state index record runner cancelled _ next stage taken
  | failed record reason => rw [stage] at taken; cases taken; exact .soft index _ (.gaveUp record reason stage)
  | removing record answer => rw [stage] at taken; cases taken; exact .soft index _ (.removed record answer stage)
  | closing record answer => rw [stage] at taken; cases taken; exact .closed index record answer stage rfl
  | storing record answer =>
      rw [stage] at taken
      simp only at taken
      cases found : provisionedPath answer.event.outcome with
      | none => rw [found] at taken; cases taken; exact .soft index _ (.kept record answer stage)
      | some path => rw [found] at taken; cases taken; exact .soft index _ (.stored record answer path stage)
  | clearing record answer => rw [stage] at taken; cases taken; exact .soft index _ (.cleared record answer stage)
  | unlocking record answer => rw [stage] at taken; cases taken; exact .unlocked index record answer stage rfl
  | returned answer => rw [stage] at taken; cases taken

end Advance

theorem step_effect (maxWorkspaces : Nat) (state next : State) (label : Label)
    (taken : step maxWorkspaces state label = .ok next) : Effect maxWorkspaces state next label := by
  cases label with
  | dispatch header => cases taken; exact .called header rfl
  | advance index env => exact advance_effect maxWorkspaces env state index next taken
  | cancel index =>
      simp only [step] at taken
      split at taken
      · rename_i record runner reading
        exact .cancelled index record runner reading (Except.ok.inj taken).symm
      · cases taken
  | child runner act =>
      simp only [step] at taken
      split at taken
      · rename_i there
        cases took : childStep (fun source => (state.calls source).header) (state.runners runner) act with
        | error error => rw [took] at taken; cases taken
        | ok after => rw [took] at taken; exact .child runner act after there took (Except.ok.inj taken).symm
      · cases taken
  | reap workspaceId => cases taken; exact .reaped workspaceId rfl
  | closeAll => cases taken; exact .closedAll rfl
  | closeNext record =>
      simp only [step] at taken
      split at taken
      · rename_i doomed
        exact .closedNext record doomed (Except.ok.inj taken).symm
      · cases taken

end Yaaos.Agent.Pool
