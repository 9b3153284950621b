import Yaaos.Agent.PoolSlots

set_option autoImplicit false

namespace Yaaos.Agent.Pool

open Yaaos.Base

section Process

def Runner.mentions (runner : Runner) (source : Nat) : Prop :=
  source ∈ runner.inbox ∨ (∃ streaming, runner.child = .running source streaming) ∨
    ∃ event ∈ runner.written, event.source = source

def Child.runs (child : Child) (source : Nat) : Nat :=
  match child with
  | .running current _ => if current = source then 1 else 0
  | _ => 0

def Runner.load (runner : Runner) (source : Nat) : Nat :=
  runner.inbox.count source + runner.child.runs source +
    runner.written.countP fun event => event.isTerminal && event.source == source

def Child.resting : Child → Bool
  | .running _ _ => false
  | _ => true

-- A process with nothing in it: whoever writes to it next reads only its own events.
structure Runner.Clean (runner : Runner) : Prop where
  inbox : runner.inbox = []
  stdout : runner.stdout = []
  resting : runner.child.resting = true

def Progress (source : Nat) (events : List PipeEvent) : Prop :=
  ∀ event ∈ events, event.source = source ∧ event.isTerminal = false

inductive Serving (source : Nat) (runner : Runner) : Prop where
  | queued (inbox : runner.inbox = [source]) (stdout : runner.stdout = []) (resting : runner.child.resting = true)
  | working (inbox : runner.inbox = []) (stdout : Progress source runner.stdout)
      (own : ∀ current streaming, runner.child = .running current streaming → current = source)
  | answered (inbox : runner.inbox = []) (resting : runner.child.resting = true) (events : List PipeEvent)
      (last : PipeEvent) (stdout : runner.stdout = events ++ [last]) (progress : Progress source events)
      (own : last.source = source) (ends : last.isTerminal = true)

inductive ChildEffect (header : Nat → CommandHeader) (before after : Runner) : Prop where
  | read (source : Nat) (rest : List Nat) (idle : before.child.resting = true) (front : before.inbox = source :: rest)
      (same : after = { before with inbox := rest, child := .running source none })
  | progress (source : Nat) (streaming : Option Streaming) (line : String) (running : before.child = .running source streaming)
      (same : after = before.write (emit (header source) source (.progress line)))
  | streams (source : Nat) (streaming next : Option Streaming) (running : before.child = .running source streaming)
      (same : after = before.setChild (.running source next))
  | answers (source : Nat) (streaming : Option Streaming) (outcome : Outcome) (running : before.child = .running source streaming)
      (same : after = (before.write (emit (header source) source (.terminal outcome))).setChild .idle)
  | exits (same : after = before.setChild .exited)

theorem childStep_effect (header : Nat → CommandHeader) (runner after : Runner) (act : ChildAct)
    (took : childStep header runner act = .ok after) : ChildEffect header runner after := by
  cases act with
  | readCommand =>
      simp only [childStep] at took
      split at took
      · rename_i source rest idle front
        exact .read source rest (by rw [idle]; rfl) front (Except.ok.inj took).symm
      · cases took
  | startStreaming =>
      simp only [childStep] at took
      split at took
      · rename_i source running
        exact .streams source none (some .begun) running (Except.ok.inj took).symm
      · cases took
  | stdoutLine line =>
      simp only [childStep] at took
      split at took
      · rename_i source streaming running
        split at took
        · cases took
        · exact .progress source (some streaming) line running (Except.ok.inj took).symm
      · cases took
  | stdoutDone =>
      simp only [childStep] at took
      split at took
      · rename_i source streaming running
        exact .streams source (some streaming) _ running (Except.ok.inj took).symm
      · cases took
  | stderrDone =>
      simp only [childStep] at took
      split at took
      · rename_i source streaming running
        exact .streams source (some streaming) _ running (Except.ok.inj took).symm
      · cases took
  | wait =>
      simp only [childStep] at took
      split at took
      · rename_i source streaming running
        split at took
        · exact .streams source (some streaming) _ running (Except.ok.inj took).symm
        · cases took
      · cases took
  | stopStreaming =>
      simp only [childStep] at took
      split at took
      · rename_i source streaming running
        split at took
        · exact .streams source (some streaming) none running (Except.ok.inj took).symm
        · cases took
      · cases took
  | returns outcome =>
      simp only [childStep] at took
      split at took
      · rename_i source running
        exact .answers source none outcome running (Except.ok.inj took).symm
      · cases took
  | exit => exact .exits (Except.ok.inj took).symm

variable (header : Nat → CommandHeader) (before after : Runner) (effect : ChildEffect header before after)

include effect

theorem childEffect_clean (clean : before.Clean) : after.Clean := by
  obtain ⟨inbox, stdout, resting⟩ := clean
  cases effect with
  | read source rest idle front same =>
      rw [inbox] at front
      cases front
  | progress source streaming line running same =>
      rw [running] at resting
      cases resting
  | streams source streaming next running same =>
      rw [running] at resting
      cases resting
  | answers source streaming outcome running same =>
      rw [running] at resting
      cases resting
  | exits same => exact same ▸ ⟨inbox, stdout, rfl⟩

theorem childEffect_serving (source : Nat) (serving : Serving source before) : Serving source after := by
  cases serving with
  | queued inbox stdout resting =>
      cases effect with
      | read current rest idle front same =>
          rw [inbox] at front
          cases front
          refine same ▸ .working rfl ?_ ?_
          · rw [stdout]
            exact nofun
          · intro current streaming running
            cases running
            rfl
      | progress current streaming line running same =>
          rw [running] at resting
          cases resting
      | streams current streaming next running same =>
          rw [running] at resting
          cases resting
      | answers current streaming outcome running same =>
          rw [running] at resting
          cases resting
      | exits same => exact same ▸ .queued inbox stdout rfl
  | working inbox stdout own =>
      cases effect with
      | read current rest idle front same =>
          rw [inbox] at front
          cases front
      | progress current streaming line running same =>
          refine same ▸ .working inbox (fun event member => ?_) own
          rcases List.mem_append.mp member with old | new
          · exact stdout event old
          · cases List.mem_singleton.mp new
            exact ⟨own current streaming running, rfl⟩
      | streams current streaming next running same =>
          refine same ▸ .working inbox stdout fun other streaming_ shape => ?_
          cases shape
          exact own current streaming running
      | answers current streaming outcome running same =>
          exact same ▸ .answered inbox rfl before.stdout _ rfl stdout (own current streaming running) rfl
      | exits same => exact same ▸ .working inbox stdout nofun
  | answered inbox resting events last stdout progress own ends =>
      cases effect with
      | read current rest idle front same =>
          rw [inbox] at front
          cases front
      | progress current streaming line running same =>
          rw [running] at resting
          cases resting
      | streams current streaming next running same =>
          rw [running] at resting
          cases resting
      | answers current streaming outcome running same =>
          rw [running] at resting
          cases resting
      | exits same => exact same ▸ .answered inbox rfl events last stdout progress own ends

theorem childEffect_open : after.stdinOpen = before.stdinOpen := by
  cases effect with
  | read source rest idle front same => rw [same]
  | progress source streaming line running same => rw [same, Runner.write]
  | streams source streaming next running same => rw [same, Runner.setChild]
  | answers source streaming outcome running same => rw [same, Runner.setChild, Runner.write]
  | exits same => rw [same, Runner.setChild]

theorem childEffect_mentions (source : Nat) (mentions : after.mentions source) : before.mentions source := by
  cases effect with
  | read current rest idle front same =>
      rw [same] at mentions
      rcases mentions with queued | ⟨streaming, running⟩ | written
      · exact .inl (front ▸ List.mem_cons_of_mem current queued)
      · cases running
        exact .inl (front ▸ List.mem_cons_self)
      · exact .inr (.inr written)
  | progress current streaming line running same =>
      rw [same] at mentions
      rcases mentions with queued | running_ | ⟨event, written, own⟩
      · exact .inl queued
      · exact .inr (.inl running_)
      · rcases List.mem_append.mp written with old | new
        · exact .inr (.inr ⟨event, old, own⟩)
        · cases List.mem_singleton.mp new
          cases own
          exact .inr (.inl ⟨streaming, running⟩)
  | streams current streaming next running same =>
      rw [same] at mentions
      rcases mentions with queued | ⟨streaming_, running_⟩ | written
      · exact .inl queued
      · cases running_
        exact .inr (.inl ⟨streaming, running⟩)
      · exact .inr (.inr written)
  | answers current streaming outcome running same =>
      rw [same] at mentions
      rcases mentions with queued | ⟨streaming_, running_⟩ | ⟨event, written, own⟩
      · exact .inl queued
      · cases running_
      · rcases List.mem_append.mp written with old | new
        · exact .inr (.inr ⟨event, old, own⟩)
        · cases List.mem_singleton.mp new
          cases own
          exact .inr (.inl ⟨streaming, running⟩)
  | exits same =>
      rw [same] at mentions
      rcases mentions with queued | ⟨streaming, running⟩ | written
      · exact .inl queued
      · cases running
      · exact .inr (.inr written)

theorem childEffect_load (source : Nat) : after.load source ≤ before.load source := by
  cases effect with
  | read current rest idle front same =>
      have none : before.child.runs source = 0 := by
        cases child : before.child with
        | running current streaming =>
            rw [child] at idle
            cases idle
        | _ => rfl
      rw [same, Runner.load, Runner.load, none, front, List.count_cons]
      simp only [Child.runs, beq_iff_eq]
      omega
  | progress current streaming line running same =>
      rw [same, Runner.load, Runner.load, Runner.write, List.countP_append]
      simp [emit, PipeEvent.isTerminal]
  | streams current streaming next running same =>
      rw [same, Runner.load, Runner.load, running]
      exact Nat.le_refl _
  | answers current streaming outcome running same =>
      rw [same, Runner.load, Runner.load, running]
      simp only [Runner.write, Runner.setChild, List.countP_append, List.countP_singleton, Child.runs, emit,
        PipeEvent.isTerminal, Bool.true_and, beq_iff_eq]
      omega
  | exits same =>
      rw [same, Runner.load, Runner.load]
      simp only [Runner.setChild, Child.runs]
      omega

theorem childEffect_written (event : PipeEvent) (written : event ∈ after.written) :
    event ∈ before.written ∨ event.commandId = (header event.source).commandId := by
  cases effect with
  | progress current streaming line running same =>
      rw [same] at written
      rcases List.mem_append.mp written with old | new
      · exact .inl old
      · cases List.mem_singleton.mp new
        exact .inr rfl
  | answers current streaming outcome running same =>
      rw [same] at written
      rcases List.mem_append.mp written with old | new
      · exact .inl old
      · cases List.mem_singleton.mp new
        exact .inr rfl
  | read current rest idle front same => rw [same] at written; exact .inl written
  | streams current streaming next running same => rw [same] at written; exact .inl written
  | exits same => rw [same] at written; exact .inl written

theorem childEffect_drawn (drawn : ∀ event ∈ before.stdout, event ∈ before.written) :
    (∀ event ∈ before.written, event ∈ after.written) ∧ ∀ event ∈ after.stdout, event ∈ after.written := by
  have wrote (event : PipeEvent) : (∀ other ∈ before.written, other ∈ (before.write event).written) ∧
      ∀ other ∈ (before.write event).stdout, other ∈ (before.write event).written :=
    ⟨fun other old => List.mem_append_left _ old, fun other member => by
      rcases List.mem_append.mp member with old | new
      · exact List.mem_append_left _ (drawn other old)
      · exact List.mem_append_right _ new⟩
  cases effect with
  | progress current streaming line running same => exact same ▸ wrote _
  | answers current streaming outcome running same => exact same ▸ wrote (emit (header current) current (.terminal outcome))
  | read current rest idle front same => exact same ▸ ⟨fun _ old => old, drawn⟩
  | streams current streaming next running same => exact same ▸ ⟨fun _ old => old, drawn⟩
  | exits same => exact same ▸ ⟨fun _ old => old, drawn⟩

end Process

variable (maxWorkspaces : Nat) (label : Label)

structure Sources (state : State) : Prop where
  sent : ∀ runner source, (state.runners runner).mentions source →
    runner < state.runnerCount ∧ (state.calls source).stage.unsent = false
  one : ∀ runner other source, (state.runners runner).mentions source → (state.runners other).mentions source →
    runner = other
  once : ∀ runner source, (state.runners runner).load source ≤ 1
  drawn : ∀ runner, ∀ event ∈ (state.runners runner).stdout, event ∈ (state.runners runner).written
  stamped : ∀ runner, ∀ event ∈ (state.runners runner).written,
    event.commandId = (state.calls event.source).header.commandId

structure Grows (state next : State) : Prop where
  runnerCount : state.runnerCount ≤ next.runnerCount
  calls : ∀ index, (state.calls index).stage.unsent = false →
    (next.calls index).stage.unsent = false ∧ (next.calls index).header = (state.calls index).header

theorem mentions_load (runner : Runner) (source : Nat) (silent : ¬ runner.mentions source) : runner.load source = 0 := by
  have queued : runner.inbox.count source = 0 := List.count_eq_zero.mpr fun member => silent (.inl member)
  have runs : runner.child.runs source = 0 := by
    cases child : runner.child with
    | running current streaming =>
        have different : current ≠ source := fun same => silent (.inr (.inl ⟨streaming, same ▸ child⟩))
        rw [Child.runs, if_neg different]
    | _ => rfl
  have answered : (runner.written.countP fun event => event.isTerminal && event.source == source) = 0 := by
    refine List.countP_eq_zero.mpr fun event written both => silent (.inr (.inr ⟨event, written, ?_⟩))
    rw [Bool.and_eq_true, beq_iff_eq] at both
    exact both.2
  rw [Runner.load, queued, runs, answered]

theorem sources_runner (state next : State) (sources : Sources state) (grows : Grows state next) (runner : Nat)
    (after : Runner) (runners : next.runners = Function.update state.runners runner after)
    (there : runner < next.runnerCount)
    (mentions : ∀ source, after.mentions source → (state.runners runner).mentions source ∨
      ((next.calls source).stage.unsent = false ∧ ∀ other, ¬ (state.runners other).mentions source))
    (load : ∀ source, after.load source ≤ 1)
    (drawn : ∀ event ∈ after.stdout, event ∈ after.written)
    (stamped : ∀ event ∈ after.written, event ∈ (state.runners runner).written ∨
      event.commandId = (next.calls event.source).header.commandId) : Sources next := by
  have cases_ (property : Nat → Runner → Prop) (own : property runner after)
      (others : ∀ other, other ≠ runner → property other (state.runners other)) (other : Nat) :
      property other (next.runners other) := by
    rw [runners, Function.update_apply]
    split
    · rename_i same
      exact same ▸ own
    · rename_i different
      exact others other different
  have known (other : Nat) (event : PipeEvent) (written : event ∈ (state.runners other).written) :
      event.commandId = (next.calls event.source).header.commandId := by
    have sent := (sources.sent other event.source (.inr (.inr ⟨event, written, rfl⟩))).2
    rw [(grows.calls event.source sent).2]
    exact sources.stamped other event written
  refine ⟨?_, ?_, ?_, ?_, ?_⟩
  · refine cases_ (fun other process => ∀ source, process.mentions source →
      other < next.runnerCount ∧ (next.calls source).stage.unsent = false) (fun source new => ⟨there, ?_⟩)
      fun other _ source old => ?_
    · rcases mentions source new with old | ⟨sent, _⟩
      · exact (grows.calls source (sources.sent runner source old).2).1
      · exact sent
    · obtain ⟨below, sent⟩ := sources.sent other source old
      exact ⟨Nat.lt_of_lt_of_le below grows.runnerCount, (grows.calls source sent).1⟩
  · refine cases_ (fun first process => ∀ other source, process.mentions source →
      (next.runners other).mentions source → first = other) (fun second source left right => ?_)
      fun first different second source left right => ?_
    · refine cases_ (fun second process => process.mentions source → runner = second) (fun _ => rfl)
        (fun third away old => ?_) second right
      rcases mentions source left with was | ⟨_, silent⟩
      · exact sources.one runner third source was old
      · exact absurd old (silent third)
    · refine cases_ (fun second process => process.mentions source → first = second) (fun new => ?_)
        (fun third _ old => sources.one first third source left old) second right
      rcases mentions source new with was | ⟨_, silent⟩
      · exact sources.one first runner source left was
      · exact absurd left (silent first)
  · exact cases_ (fun _ process => ∀ source, process.load source ≤ 1) load fun other _ => sources.once other
  · exact cases_ (fun _ process => ∀ event ∈ process.stdout, event ∈ process.written) drawn fun other _ => sources.drawn other
  · refine cases_ (fun _ process => ∀ event ∈ process.written, event.commandId = (next.calls event.source).header.commandId)
      (fun event written => ?_) fun other _ => known other
    rcases stamped event written with old | new
    · exact known runner event old
    · exact new

theorem sources_same (state next : State) (sources : Sources state) (grows : Grows state next)
    (runners : next.runners = state.runners) : Sources next where
  sent := fun runner source mentions => by
    rw [runners] at mentions
    obtain ⟨below, sent⟩ := sources.sent runner source mentions
    exact ⟨Nat.lt_of_lt_of_le below grows.runnerCount, (grows.calls source sent).1⟩
  one := by rw [runners]; exact sources.one
  once := by rw [runners]; exact sources.once
  drawn := by rw [runners]; exact sources.drawn
  stamped := fun runner event written => by
    rw [runners] at written
    rw [(grows.calls event.source (sources.sent runner event.source (.inr (.inr ⟨event, written, rfl⟩))).2).2]
    exact sources.stamped runner event written

theorem grows_calls (state next : State) (runnerCount : next.runnerCount = state.runnerCount)
    (calls : next.calls = state.calls) : Grows state next :=
  ⟨Nat.le_of_eq runnerCount.symm, fun index sent => by rw [calls]; exact ⟨sent, rfl⟩⟩

theorem grows_stand (state next : State) (index : Nat) (stage : Stage) (runnerCount : state.runnerCount ≤ next.runnerCount)
    (calls : next.calls = standing state index stage)
    (sent : (state.calls index).stage.unsent = false → stage.unsent = false) : Grows state next := by
  refine ⟨runnerCount, fun other was => ?_⟩
  rw [calls, standing_header]
  exact ⟨standing_all state index stage (fun other stage => (state.calls other).stage.unsent = false →
    stage.unsent = false) sent (fun _ _ was => was) other was, rfl⟩

theorem softStage_sent (header : CommandHeader) (before after : Stage) (moved : SoftStage header before after)
    (sent : before.unsent = false) : after.unsent = false := by
  cases moved with
  | refused => rfl
  | gaveUp => rfl
  | removed => rfl
  | stored => rfl
  | cleared => rfl
  | _ => cases sent

theorem silent_unsent (state : State) (sources : Sources state) (index : Nat)
    (unsent : (state.calls index).stage.unsent = true) (runner : Nat) : ¬ (state.runners runner).mentions index := by
  intro mentions
  rw [(sources.sent runner index mentions).2] at unsent
  cases unsent

theorem load_inbox (process : Runner) (index source : Nat) :
    Runner.load { process with inbox := process.inbox ++ [index] } source =
      process.load source + if index = source then 1 else 0 := by
  rw [Runner.load, Runner.load, List.count_append, List.count_singleton]
  simp only [beq_iff_eq]
  omega

theorem sources_sent (state : State) (sources : Sources state) (slots : Slots state) (index record runner : Nat)
    (stage : Stage) (ready : (state.calls index).stage = .ready record) (own : (state.records record).runner = some runner)
    (sent : stage.unsent = false) :
    Sources ((state.setRunner runner
      { state.runners runner with inbox := (state.runners runner).inbox ++ [index] }).stand index stage) := by
  have silent := silent_unsent state sources index (by rw [ready, Stage.unsent])
  have grows : Grows state ((state.setRunner runner
      { state.runners runner with inbox := (state.runners runner).inbox ++ [index] }).stand index stage) :=
    grows_stand state _ index stage (Nat.le_refl _) rfl fun _ => sent
  refine sources_runner state _ sources grows runner _ rfl (slots.owned record runner own).2 (fun source mentions => ?_)
    (fun source => ?_) (sources.drawn runner) fun event written => .inl written
  · rcases mentions with queued | running | written
    · rcases List.mem_append.mp queued with old | new
      · exact .inl (.inl old)
      · cases List.mem_singleton.mp new
        refine .inr ⟨?_, silent⟩
        exact (congrArg Stage.unsent (standing_self state index stage)).trans sent
    · exact .inl (.inr (.inl running))
    · exact .inl (.inr (.inr written))
  · rw [load_inbox]
    by_cases same : index = source
    · exact Nat.le_of_eq (by rw [← same, mentions_load _ index (silent runner), if_pos rfl, Nat.zero_add])
    · rw [if_neg same]
      exact sources.once runner source

theorem sources_drained (state next : State) (sources : Sources state) (grows : Grows state next) (runner : Nat)
    (event : PipeEvent) (rest : List PipeEvent) (front : (state.runners runner).stdout = event :: rest)
    (runners : next.runners = Function.update state.runners runner { state.runners runner with stdout := rest })
    (there : runner < next.runnerCount) : Sources next := by
  refine sources_runner state next sources grows runner _ runners there (fun _ old => .inl old) (sources.once runner)
    (fun other member => ?_) fun _ old => .inl old
  exact sources.drawn runner other (front ▸ List.mem_cons_of_mem event member)

theorem sources_closed (state next : State) (sources : Sources state) (slots : Slots state) (record : Nat)
    (grows : Grows state next) (runners : next.runners = (closeRunner state record).runners) : Sources next := by
  unfold closeRunner at runners
  split at runners
  · exact sources_same state next sources grows runners
  · rename_i runner own
    exact sources_runner state next sources grows runner _ runners
      (Nat.lt_of_lt_of_le (slots.owned record runner own).2 grows.runnerCount) (fun _ old => .inl old) (sources.once runner)
      (sources.drawn runner) fun _ old => .inl old

theorem sources_effect (state next : State) (slots : Slots state) (sources : Sources state) (effect : Effect maxWorkspaces state next label) :
    Sources next := by
  cases effect with
  | called header same =>
      rw [same]
      refine sources_same state _ sources ⟨Nat.le_refl _, fun index sent => ?_⟩ rfl
      have born : index ≠ state.callCount := fun new => by
        rw [new, slots.unborn _ (Nat.le_refl _)] at sent
        cases sent
      refine ⟨?_, ?_⟩
      · simp only [Function.update_of_ne born]
        exact sent
      · simp only [Function.update_of_ne born]
  | soft index stage deed =>
      obtain ⟨same, pipes, calls, moved⟩ := deed_keeps state next index stage deed
      exact sources_same state next sources (grows_stand state next index stage (Nat.le_of_eq same.runnerCount.symm) calls
        (softStage_sent _ _ _ moved)) pipes.runners
  | reaped workspaceId same => exact sources_same state next sources (same ▸ grows_calls state _ rfl rfl) (same ▸ rfl)
  | closedAll same => exact sources_same state next sources (same ▸ grows_calls state _ rfl rfl) (same ▸ rfl)
  | reserved index workspaceId entering named free room same =>
      rw [same]
      exact sources_same state _ sources (grows_stand state _ index _ (Nat.le_refl _) rfl
        fun sent => by rw [entering] at sent; cases sent) rfl
  | spawned index record spawning same =>
      rw [same]
      exact sources_runner state _ sources (grows_stand state _ index _ (Nat.le_succ _) rfl
        fun sent => by rw [spawning] at sent; cases sent) state.runnerCount .spawned rfl (Nat.lt_succ_self _)
        (fun source mentions => by rcases mentions with queued | ⟨streaming, running⟩ | ⟨event, written, _⟩ <;> contradiction)
        (fun _ => Nat.zero_le 1) nofun nofun
  | assigned index record runner assigning same =>
      rw [same]
      obtain ⟨records, found⟩ := assignRunner_records state (state.calls index).header.workspaceId runner
      rw [found]
      exact sources_same state _ sources (grows_stand state _ index _ (Nat.le_refl _) rfl
        fun sent => by rw [assigning] at sent; cases sent) rfl
  | locked index record waiting free same =>
      rw [same]
      exact sources_same state _ sources (grows_stand state _ index _ (Nat.le_refl _) rfl
        fun sent => by rw [waiting] at sent; cases sent) rfl
  | unlocked index record answer unlocking same =>
      rw [same]
      exact sources_same state _ sources (grows_stand state _ index _ (Nat.le_refl _) rfl fun _ => rfl) rfl
  | wrote index record runner ready own open_ same =>
      exact same ▸ sources_sent state sources slots index record runner _ ready own rfl
  | brokeOff index record runner reason ready own open_ same =>
      exact same ▸ sources_sent state sources slots index record runner _ ready own rfl
  | stopped index record reason began same =>
      rw [same]
      exact sources_same state _ sources (grows_stand state _ index _ (Nat.le_refl _) rfl fun _ => rfl) rfl
  | forwards index record runner cancelled event rest reading front progress same =>
      rw [same]
      exact sources_drained state _ sources (grows_calls state _ rfl rfl) runner event rest front rfl
        (slots.reader index record runner cancelled reading).1
  | drops index record runner event rest reason reading front same =>
      rw [same]
      exact sources_drained state _ sources (grows_stand state _ index _ (Nat.le_refl _) rfl fun _ => rfl) runner event rest
        front rfl (slots.reader index record runner true reading).1
  | answers index record runner event rest outcome stage reading front ends after same =>
      rw [same]
      refine sources_drained state _ sources (grows_stand state _ index stage (Nat.le_refl _) rfl fun _ => ?_) runner event
        rest front rfl (slots.reader index record runner false reading).1
      rcases after with rfl | rfl | rfl <;> rfl
  | closed index record answer closing same =>
      rw [same]
      obtain ⟨slotsSame, calls⟩ := sameSlots_close state record
      exact sources_closed state _ sources slots record (grows_stand state _ index _
        (Nat.le_of_eq slotsSame.runnerCount.symm) (by rw [State.stand, calls]; rfl) fun _ => rfl) rfl
  | closedNext record doomed same =>
      rw [same]
      obtain ⟨slotsSame, calls⟩ := sameSlots_close state record
      exact sources_closed state _ sources slots record (grows_calls state _ slotsSame.runnerCount calls) rfl
  | cancelled index record runner reading same =>
      rw [same]
      exact sources_same state _ sources (grows_stand state _ index _ (Nat.le_refl _) rfl fun _ => rfl) rfl
  | child runner act after there took same =>
      rw [same]
      have effect := childStep_effect _ _ _ _ took
      exact sources_runner state _ sources (grows_calls state _ rfl rfl) runner after rfl there
        (fun source mentions => .inl (childEffect_mentions _ _ _ effect source mentions))
        (fun source => Nat.le_trans (childEffect_load _ _ _ effect source) (sources.once runner source))
        (childEffect_drawn _ _ _ effect (sources.drawn runner)).2 (childEffect_written _ _ _ effect)

def Stage.busy (stage : Stage) (record runner : Nat) : Prop :=
  (∃ cancelled, stage = .reading record runner cancelled) ∨ (∃ reason, stage = .failed record reason) ∨
    ∃ answer, stage = .closing record answer

structure Serves (state : State) : Prop where
  serving : ∀ index record runner cancelled, (state.calls index).stage = .reading record runner cancelled →
    Serving index (state.runners runner)
  clean : ∀ record runner, (state.records record).runner = some runner → (state.runners runner).stdinOpen = true →
    (state.runners runner).Clean ∨
      ∃ index, (state.records record).holder = some index ∧ (state.calls index).stage.busy record runner
  fresh : ∀ index runner, (state.calls index).stage.assigns = some runner → (state.runners runner).Clean

theorem busy_holds (stage : Stage) (record runner : Nat) (busy : stage.busy record runner) : stage.holds = some record := by
  rcases busy with ⟨cancelled, rfl⟩ | ⟨reason, rfl⟩ | ⟨answer, rfl⟩ <;> rfl

theorem reading_reads (stage : Stage) (record runner : Nat) (cancelled : Bool)
    (reading : stage = .reading record runner cancelled) : stage.reads = some runner := by
  rw [reading, Stage.reads]

section Moved

variable (state next : State) (serves : Serves state) (index : Nat) (stage : Stage)

include serves

theorem serves_stand (same : SameSlots state next) (calls : next.calls = standing state index stage)
    (runners : ∀ runner, (∀ third, third ≠ index → (state.calls third).stage.reads ≠ some runner) ∨
      ∀ source, Serving source (state.runners runner) → Serving source (next.runners runner))
    (own : ∀ record runner cancelled, stage = .reading record runner cancelled → Serving index (next.runners runner))
    (assigns : stage.assigns = none)
    (fresh : ∀ other runner, other ≠ index → (state.calls other).stage.assigns = some runner →
      (state.runners runner).Clean → (next.runners runner).Clean)
    (clean : ∀ record runner, (state.records record).runner = some runner → (next.runners runner).stdinOpen = true →
      ((state.runners runner).stdinOpen = true ∧ ((state.runners runner).Clean → (next.runners runner).Clean) ∧
        ((state.calls index).stage.busy record runner → stage.busy record runner ∨ (next.runners runner).Clean)) ∨
      (next.runners runner).Clean ∨
        ((state.records record).holder = some index ∧ stage.busy record runner)) : Serves next := by
  refine ⟨?_, fun record runner isOwn open_ => ?_, ?_⟩
  · rw [calls]
    refine standing_all state index stage (fun other stage => ∀ record runner cancelled,
      stage = .reading record runner cancelled → Serving other (next.runners runner)) own
      fun other different record runner cancelled reading => ?_
    rcases runners runner with unread | kept
    · exact absurd (reading_reads _ record runner cancelled reading) (unread other different)
    · exact kept other (serves.serving other record runner cancelled reading)
  · rw [same.runner] at isOwn
    rw [same.holder, calls]
    rcases clean record runner isOwn open_ with ⟨wasOpen, kept, busy⟩ | cleaned | ⟨holder, busy⟩
    · rcases serves.clean record runner isOwn wasOpen with was | ⟨holder, held, wasBusy⟩
      · exact .inl (kept was)
      · by_cases here : holder = index
        · rcases busy (here ▸ wasBusy) with still | cleaned
          · exact .inr ⟨index, here ▸ held, by rw [standing_self]; exact still⟩
          · exact .inl cleaned
        · exact .inr ⟨holder, held, by rw [standing_other state index stage holder here]; exact wasBusy⟩
    · exact .inl cleaned
    · exact .inr ⟨index, holder, by rw [standing_self]; exact busy⟩
  · rw [calls]
    exact standing_all state index stage (fun _ stage => ∀ runner, stage.assigns = some runner →
      (next.runners runner).Clean) (fun runner assigning => by rw [assigns] at assigning; cases assigning)
      fun other different runner assigning => fresh other runner different assigning (serves.fresh other runner assigning)

theorem serves_pipes (same : SameSlots state next) (runners : next.runners = state.runners)
    (calls : next.calls = standing state index stage)
    (own : ∀ record runner cancelled, stage = .reading record runner cancelled →
      ∃ before, (state.calls index).stage = .reading record runner before)
    (assigns : stage.assigns = none)
    (busy : ∀ record runner, (state.calls index).stage.busy record runner → stage.busy record runner) : Serves next := by
  refine serves_stand state next serves index stage same calls (fun runner => .inr ?_) ?_ assigns ?_ ?_
  · rw [runners]
    exact fun _ kept => kept
  · intro record runner cancelled reading
    obtain ⟨before, was⟩ := own record runner cancelled reading
    rw [runners]
    exact serves.serving index record runner before was
  · rw [runners]
    exact fun _ _ _ _ kept => kept
  · intro record runner isOwn open_
    rw [runners] at open_ ⊢
    exact .inl ⟨open_, id, fun was => .inl (busy record runner was)⟩

theorem serves_used (record runner : Nat) (after : Runner)
    (same : SameSlots state next) (calls : next.calls = standing state index stage)
    (runners : next.runners = Function.update state.runners runner after)
    (home : ∀ other, (state.records other).runner = some runner → other = record)
    (alone : ∀ third, third ≠ index → (state.calls third).stage.reads ≠ some runner)
    (unassigned : ∀ third, (state.calls third).stage.assigns ≠ some runner)
    (used : ∀ other another, (state.calls index).stage.busy other another → another = runner)
    (own : ∀ other another cancelled, stage = .reading other another cancelled → another = runner ∧ Serving index after)
    (assigns : stage.assigns = none)
    (ends : after.Clean ∨ ((state.records record).holder = some index ∧ stage.busy record runner)) : Serves next := by
  have kept (other : Nat) (different : other ≠ runner) : next.runners other = state.runners other := by
    rw [runners, Function.update_of_ne different]
  have changed : next.runners runner = after := by rw [runners, Function.update_self]
  refine serves_stand state next serves index stage same calls (fun other => ?_) (fun other another cancelled reading => ?_)
    assigns (fun other another _ assigning was => ?_) fun other another isOwn open_ => ?_
  · by_cases here : other = runner
    · exact .inl (here ▸ alone)
    · rw [kept other here]
      exact .inr fun _ serving => serving
  · obtain ⟨here, serving⟩ := own other another cancelled reading
    rw [here, changed]
    exact serving
  · have away : another ≠ runner := fun here => unassigned other (here ▸ assigning)
    rw [kept another away]
    exact was
  · by_cases here : another = runner
    · rw [here] at isOwn ⊢
      rw [changed, home other isOwn]
      exact .inr ends
    · rw [kept another here] at open_ ⊢
      exact .inl ⟨open_, id, fun busy => absurd (used other another busy) here⟩

end Moved

theorem serving_begins (process : Runner) (index : Nat) (clean : process.Clean) :
    Serving index { process with inbox := process.inbox ++ [index] } :=
  .queued (by rw [clean.inbox, List.nil_append]) clean.stdout clean.resting

theorem serving_front (process : Runner) (index : Nat) (event : PipeEvent) (rest : List PipeEvent)
    (serving : Serving index process) (front : process.stdout = event :: rest) :
    event.source = index ∧ (event.isTerminal = false → Serving index { process with stdout := rest }) ∧
      (event.isTerminal = true → Runner.Clean { process with stdout := rest }) := by
  cases serving with
  | queued inbox stdout resting =>
      rw [stdout] at front
      cases front
  | working inbox stdout own =>
      rw [front] at stdout
      have first := stdout event List.mem_cons_self
      refine ⟨first.1, fun _ => .working inbox (fun other member => stdout other (List.mem_cons_of_mem event member)) own,
        fun ends => ?_⟩
      rw [first.2] at ends
      cases ends
  | answered inbox resting events last stdout progress own ends =>
      rw [stdout] at front
      cases events with
      | nil =>
          cases front
          refine ⟨own, fun continues => ?_, fun _ => ⟨inbox, rfl, resting⟩⟩
          rw [ends] at continues
          cases continues
      | cons head tail =>
          cases front
          have first := progress event List.mem_cons_self
          refine ⟨first.1, fun _ => .answered inbox resting tail last rfl
            (fun other member => progress other (List.mem_cons_of_mem event member)) own ends, fun terminal => ?_⟩
          rw [first.2] at terminal
          cases terminal

theorem softStage_busy (header : CommandHeader) (before after : Stage) (moved : SoftStage header before after)
    (record runner : Nat) (busy : before.busy record runner) : after.busy record runner := by
  cases moved with
  | gaveUp held reason =>
      rcases busy with ⟨_, same⟩ | ⟨_, same⟩ | ⟨_, same⟩ <;> cases same
      exact .inr (.inr ⟨_, rfl⟩)
  | refused stage early reason =>
      rcases early with rfl | ⟨held, rfl⟩ | rfl <;> rcases busy with ⟨_, same⟩ | ⟨_, same⟩ | ⟨_, same⟩ <;> cases same
  | _ => rcases busy with ⟨_, same⟩ | ⟨_, same⟩ | ⟨_, same⟩ <;> cases same

theorem serves_called (state : State) (slots : Slots state) (serves : Serves state) (header : CommandHeader) :
    Serves { state with
      calls := Function.update state.calls state.callCount { header := header, stage := .entering }
      callCount := state.callCount + 1 } := by
  have all (property : Nat → Stage → Prop) (own : property state.callCount .entering)
      (others : ∀ other, property other (state.calls other).stage) (other : Nat) :
      property other (Function.update state.calls state.callCount { header := header, stage := .entering } other).stage := by
    rw [Function.update_apply]
    split
    · rename_i same
      exact same ▸ own
    · exact others other
  refine ⟨all (fun other stage => ∀ record runner cancelled, stage = .reading record runner cancelled →
    Serving other (state.runners runner)) nofun serves.serving, fun record runner own open_ => ?_,
    all (fun _ stage => ∀ runner, stage.assigns = some runner → (state.runners runner).Clean) nofun serves.fresh⟩
  refine (serves.clean record runner own open_).imp id fun ⟨index, holder, busy⟩ => ⟨index, holder, ?_⟩
  have born : index ≠ state.callCount := fun new => by
    have holds := busy_holds _ record runner busy
    rw [new, slots.unborn _ (Nat.le_refl _)] at holds
    cases holds
  simp only [Function.update_of_ne born]
  exact busy

theorem serves_quiet (state next : State) (serves : Serves state) (same : SameSlots state next)
    (runners : next.runners = state.runners) (calls : next.calls = state.calls) : Serves next where
  serving := by rw [calls, runners]; exact serves.serving
  clean := fun record runner own open_ => by
    rw [same.runner] at own
    rw [runners] at open_ ⊢
    rw [same.holder, calls]
    exact serves.clean record runner own open_
  fresh := by rw [calls, runners]; exact serves.fresh

theorem serves_reserved (state : State) (serves : Serves state) (workspaceId : String) :
    Serves { (state.remove workspaceId).setRecord state.recordCount .reserved with
      registry := (workspaceId, state.recordCount) :: (state.remove workspaceId).registry
      recordCount := state.recordCount + 1 } := by
  refine ⟨serves.serving, fun record runner own open_ => ?_, serves.fresh⟩
  by_cases new : record = state.recordCount
  · simp only [State.setRecord, new, Function.update_self] at own
    cases own
  · simp only [State.setRecord, Function.update_of_ne new] at own ⊢
    exact serves.clean record runner own open_

theorem serves_spawned (state : State) (slots : Slots state) (serves : Serves state) (index record : Nat)
    (spawning : (state.calls index).stage = .spawning record) :
    Serves ({ state.setRunner state.runnerCount .spawned with runnerCount := state.runnerCount + 1 }.stand index
      (.assigning record state.runnerCount)) := by
  have old (runner : Nat) (below : runner < state.runnerCount) :
      Function.update state.runners state.runnerCount .spawned runner = state.runners runner :=
    Function.update_of_ne (Nat.ne_of_lt below) _ _
  refine ⟨?_, fun held runner own open_ => ?_, ?_⟩
  · refine standing_all state index (.assigning record state.runnerCount) (fun other stage => ∀ record runner cancelled,
      stage = .reading record runner cancelled →
        Serving other (Function.update state.runners state.runnerCount .spawned runner)) (by intros; contradiction)
      fun other _ record runner cancelled reading => ?_
    rw [old runner (slots.reader other record runner cancelled reading).1]
    exact serves.serving other record runner cancelled reading
  · have below := (slots.owned held runner own).2
    simp only [State.stand, State.setRunner, old runner below] at open_ ⊢
    rcases serves.clean held runner own open_ with clean | ⟨holder, holds, busy⟩
    · exact .inl clean
    refine .inr ⟨holder, holds, ?_⟩
    refine standing_all state index (.assigning record state.runnerCount) (fun other stage =>
      (state.calls other).stage.busy held runner → stage.busy held runner) (fun was => ?_) (fun _ _ was => was) holder busy
    rw [spawning] at was
    rcases was with ⟨_, same⟩ | ⟨_, same⟩ | ⟨_, same⟩ <;> cases same
  · refine standing_all state index (.assigning record state.runnerCount) (fun _ stage => ∀ runner,
      stage.assigns = some runner → (Function.update state.runners state.runnerCount .spawned runner).Clean)
      (fun runner same => ?_) fun other _ runner assigning => ?_
    · cases same
      rw [Function.update_self]
      exact ⟨rfl, rfl, rfl⟩
    · rw [old runner (slots.handed other runner assigning).1]
      exact serves.fresh other runner assigning

theorem serves_assigned (state : State) (serves : Serves state) (index record runner : Nat)
    (assigning : (state.calls index).stage = .assigning record runner) :
    Serves ((assignRunner state (state.calls index).header.workspaceId runner).stand index .finding) := by
  have cleaned := serves.fresh index runner (by rw [assigning, Stage.assigns])
  have idle (held other : Nat) : ¬ (state.calls index).stage.busy held other := by
    rw [assigning]
    rintro (⟨_, same⟩ | ⟨_, same⟩ | ⟨_, same⟩) <;> cases same
  have moved : Serves (state.stand index .finding) :=
    serves_pipes state _ serves index .finding (sameSlots_stand state state index _ (sameSlots_refl state)) rfl rfl
      (by intros; contradiction) rfl fun held other busy => absurd busy (idle held other)
  rcases assignRunner_found state (state.calls index).header.workspaceId runner with ⟨_, same⟩ | ⟨found, _, _, same⟩
  · rw [same]
    exact moved
  rw [same]
  refine ⟨moved.serving, fun held other own open_ => ?_, moved.fresh⟩
  by_cases here : held = found
  · simp only [State.stand, State.setRecord, here, Function.update_self] at own
    cases own
    exact .inl cleaned
  · simp only [State.stand, State.setRecord, Function.update_of_ne here] at own ⊢
    exact moved.clean held other own open_

theorem serves_locked (state : State) (serves : Serves state) (index record : Nat)
    (waiting : (state.calls index).stage = .waiting record) (free : (state.records record).holder = none) :
    Serves ((state.setRecord record { state.records record with holder := some index }).stand index (.locked record)) := by
  have moved : Serves (state.stand index (.locked record)) :=
    serves_pipes state _ serves index (.locked record) (sameSlots_stand state state index _ (sameSlots_refl state)) rfl rfl
      (by intros; contradiction) rfl fun held other busy => by
        rw [waiting] at busy
        rcases busy with ⟨_, same⟩ | ⟨_, same⟩ | ⟨_, same⟩ <;> cases same
  refine ⟨moved.serving, fun held runner own open_ => ?_, moved.fresh⟩
  by_cases here : held = record
  · simp only [State.stand, State.setRecord, here, Function.update_self] at own
    rcases moved.clean record runner own open_ with clean | ⟨holder, holds, _⟩
    · exact .inl clean
    · have gone := free.symm.trans holds
      cases gone
  · simp only [State.stand, State.setRecord, Function.update_of_ne here] at own ⊢
    exact moved.clean held runner own open_

theorem serves_unlocked (state : State) (slots : Slots state) (serves : Serves state) (index record : Nat) (answer : Answer)
    (unlocking : (state.calls index).stage = .unlocking record answer) :
    Serves ((state.setRecord record { state.records record with holder := none }).stand index (.returned answer)) := by
  have idle (held other : Nat) : ¬ (state.calls index).stage.busy held other := by
    rw [unlocking]
    rintro (⟨_, same⟩ | ⟨_, same⟩ | ⟨_, same⟩) <;> cases same
  have moved : Serves (state.stand index (.returned answer)) :=
    serves_pipes state _ serves index (.returned answer) (sameSlots_stand state state index _ (sameSlots_refl state)) rfl rfl
      nofun rfl fun held other busy => absurd busy (idle held other)
  refine ⟨moved.serving, fun held runner own open_ => ?_, moved.fresh⟩
  by_cases here : held = record
  · simp only [State.stand, State.setRecord, here, Function.update_self] at own
    rcases serves.clean record runner own open_ with clean | ⟨holder, holds, busy⟩
    · exact .inl clean
    · have mine := slots.locked index record (by rw [unlocking, Stage.holds])
      rw [mine] at holds
      rw [← Option.some.inj holds] at busy
      exact absurd busy (idle record runner)
  · simp only [State.stand, State.setRecord, Function.update_of_ne here] at own ⊢
    exact moved.clean held runner own open_

theorem ready_idle (stage : Stage) (record : Nat) (ready : stage = .ready record) (other runner : Nat) :
    ¬ stage.busy other runner := by
  rw [ready]
  rintro (⟨_, same⟩ | ⟨_, same⟩ | ⟨_, same⟩) <;> cases same

theorem serves_sent (state : State) (slots : Slots state) (serves : Serves state) (index record runner : Nat)
    (stage : Stage) (ready : (state.calls index).stage = .ready record) (own : (state.records record).runner = some runner)
    (open_ : (state.runners runner).stdinOpen = true)
    (after : stage = .reading record runner false ∨ ∃ reason, stage = .failed record reason) :
    Serves ((state.setRunner runner
      { state.runners runner with inbox := (state.runners runner).inbox ++ [index] }).stand index stage) := by
  have held := slots.locked index record (by rw [ready, Stage.holds])
  have cleaned : (state.runners runner).Clean := by
    rcases serves.clean record runner own open_ with clean | ⟨holder, holds, busy⟩
    · exact clean
    · rw [held] at holds
      rw [← Option.some.inj holds] at busy
      exact absurd busy (ready_idle _ record ready record runner)
  refine serves_used state _ serves index stage record runner _ (sameSlots_runner state runner _ index stage) rfl rfl
    (fun other another => slots.single other record runner another own)
    (fun third _ => slots_unread state slots index record runner ready own third)
    (fun third assigning => (slots.handed third runner assigning).2.1 record own)
    (fun other another busy => absurd busy (ready_idle _ record ready other another)) ?_ ?_ ?_
  · intro other another cancelled reading
    rcases after with rfl | ⟨reason, rfl⟩
    · cases reading
      exact ⟨rfl, serving_begins _ index cleaned⟩
    · cases reading
  · rcases after with rfl | ⟨reason, rfl⟩ <;> rfl
  · rcases after with rfl | ⟨reason, rfl⟩
    · exact .inr ⟨held, .inl ⟨false, rfl⟩⟩
    · exact .inr ⟨held, .inr (.inl ⟨reason, rfl⟩)⟩

theorem serves_read (state : State) (slots : Slots state) (serves : Serves state) (index record runner : Nat)
    (cancelled : Bool) (rest : List PipeEvent) (stage : Stage)
    (reading : (state.calls index).stage = .reading record runner cancelled)
    (own : ∀ other another cancelled, stage = .reading other another cancelled →
      another = runner ∧ Serving index { state.runners runner with stdout := rest })
    (assigns : stage.assigns = none)
    (ends : Runner.Clean { state.runners runner with stdout := rest } ∨ stage.busy record runner) :
    Serves ((state.setRunner runner { state.runners runner with stdout := rest }).stand index stage) := by
  have reads := reading_reads _ record runner cancelled reading
  have held := slots.locked index record (by rw [reading, Stage.holds])
  refine serves_used state _ serves index stage record runner _ (sameSlots_runner state runner _ index stage) rfl rfl
    (slots.reader index record runner cancelled reading).2
    (fun third different another => different (slots.alone third index runner another reads))
    (fun third assigning => (slots.handed third runner assigning).2.2 index reads) (fun other another busy => ?_) own assigns
    (ends.imp id fun busy => ⟨held, busy⟩)
  rw [reading] at busy
  rcases busy with ⟨_, same⟩ | ⟨_, same⟩ | ⟨_, same⟩ <;> cases same
  rfl

theorem serves_closedNext (state : State) (serves : Serves state) (record : Nat) (doomed : List Nat) :
    Serves { closeRunner state record with doomed := doomed } := by
  unfold closeRunner
  split
  · exact ⟨serves.serving, serves.clean, serves.fresh⟩
  · rename_i runner own
    have pipes (property : Runner → Prop) (kept : property (state.runners runner) →
        property { state.runners runner with stdinOpen := false }) (other : Nat) (was : property (state.runners other)) :
        property (Function.update state.runners runner { state.runners runner with stdinOpen := false } other) := by
      rw [Function.update_apply]
      split
      · rename_i here
        exact kept (here ▸ was)
      · exact was
    have clean (other : Nat) (was : (state.runners other).Clean) :=
      pipes Runner.Clean (fun ⟨inbox, stdout, resting⟩ => ⟨inbox, stdout, resting⟩) other was
    refine ⟨fun index held other cancelled reading => ?_, fun held other isOwn open_ => ?_,
      fun index other assigning => clean other (serves.fresh index other assigning)⟩
    · refine pipes (Serving index) (fun serving => ?_) other (serves.serving index held other cancelled reading)
      cases serving with
      | queued inbox stdout resting => exact .queued inbox stdout resting
      | working inbox stdout own => exact .working inbox stdout own
      | answered inbox resting events last stdout progress own ends =>
          exact .answered inbox resting events last stdout progress own ends
    · by_cases here : other = runner
      · simp only [State.setRunner, here, Function.update_self] at open_
        cases open_
      · simp only [State.setRunner, Function.update_of_ne here] at open_ ⊢
        exact serves.clean held other isOwn open_

theorem serves_closed (state : State) (serves : Serves state) (index record : Nat) (answer : Answer)
    (closing : (state.calls index).stage = .closing record answer) :
    Serves ((closeRunner state record).stand index (.clearing record answer)) := by
  have closed := serves_closedNext state serves record (closeRunner state record).doomed
  obtain ⟨slotsSame, calls⟩ := sameSlots_close state record
  refine serves_stand (closeRunner state record) _ closed index (.clearing record answer)
    (sameSlots_stand _ _ index _ (sameSlots_refl _)) rfl (fun _ => .inr fun _ serving => serving) nofun rfl
    (fun _ _ _ _ clean => clean) fun held runner own open_ => .inl ⟨open_, id, fun busy => ?_⟩
  rw [calls, closing] at busy
  rcases busy with ⟨_, same⟩ | ⟨_, same⟩ | ⟨_, same⟩ <;> cases same
  have isOwn := (slotsSame.runner record).symm.trans own
  simp only [closeRunner, isOwn, State.stand, State.setRunner, Function.update_self] at open_
  cases open_

theorem serves_child (state : State) (serves : Serves state) (runner : Nat) (after : Runner)
    (effect : ChildEffect (fun source => (state.calls source).header) (state.runners runner) after) :
    Serves (state.setRunner runner after) := by
  have pipes (property : Runner → Prop) (kept : property (state.runners runner) → property after) (other : Nat)
      (was : property (state.runners other)) : property (Function.update state.runners runner after other) := by
    rw [Function.update_apply]
    split
    · rename_i here
      exact kept (here ▸ was)
    · exact was
  refine ⟨fun index record other cancelled reading => pipes (Serving index) (childEffect_serving _ _ _ effect index) other
    (serves.serving index record other cancelled reading), fun record other own open_ => ?_,
    fun index other assigning => pipes Runner.Clean (childEffect_clean _ _ _ effect) other (serves.fresh index other assigning)⟩
  have wasOpen : (state.runners other).stdinOpen = true := by
    by_cases here : other = runner
    · simp only [State.setRunner, here, Function.update_self] at open_
      rw [here, ← childEffect_open _ _ _ effect]
      exact open_
    · simp only [State.setRunner, Function.update_of_ne here] at open_
      exact open_
  exact (serves.clean record other own wasOpen).imp (pipes Runner.Clean (childEffect_clean _ _ _ effect) other) id

theorem serves_effect (state next : State) (slots : Slots state) (serves : Serves state) (effect : Effect maxWorkspaces state next label) :
    Serves next := by
  cases effect with
  | called header same => exact same ▸ serves_called state slots serves header
  | soft index stage deed =>
      obtain ⟨same, pipes, calls, moved⟩ := deed_keeps state next index stage deed
      obtain ⟨_, _, assigns, reads⟩ := softStage_keeps _ _ _ moved
      exact serves_pipes state next serves index stage same pipes.runners calls
        (fun record runner cancelled reading => absurd reading (reads_none stage reads record runner cancelled)) assigns
        (softStage_busy _ _ _ moved)
  | reaped workspaceId same => exact same ▸ serves_quiet state _ serves (sameSlots_remove state workspaceId) rfl rfl
  | closedAll same => exact same ▸ serves_quiet state _ serves (sameSlots_closeAll state) rfl rfl
  | reserved index workspaceId entering named free room same =>
      rw [same]
      refine serves_pipes _ _ (serves_reserved state serves workspaceId) index (.spawning state.recordCount)
        (sameSlots_stand _ _ index _ (sameSlots_refl _)) rfl rfl (by intros; contradiction) rfl fun record runner busy => ?_
      have was : (state.calls index).stage.busy record runner := busy
      rw [entering] at was
      rcases was with ⟨_, same⟩ | ⟨_, same⟩ | ⟨_, same⟩ <;> cases same
  | spawned index record spawning same => exact same ▸ serves_spawned state slots serves index record spawning
  | assigned index record runner assigning same => exact same ▸ serves_assigned state serves index record runner assigning
  | locked index record waiting free same => exact same ▸ serves_locked state serves index record waiting free
  | unlocked index record answer unlocking same =>
      exact same ▸ serves_unlocked state slots serves index record answer unlocking
  | wrote index record runner ready own open_ same =>
      exact same ▸ serves_sent state slots serves index record runner _ ready own open_ (.inl rfl)
  | brokeOff index record runner reason ready own open_ same =>
      exact same ▸ serves_sent state slots serves index record runner _ ready own open_ (.inr ⟨reason, rfl⟩)
  | stopped index record reason began same =>
      rw [same]
      refine serves_pipes state _ serves index (.failed record reason)
        (sameSlots_stand state state index _ (sameSlots_refl state)) rfl rfl (by intros; contradiction) rfl fun held runner busy => ?_
      rcases began with ⟨ready, _⟩ | ⟨read, cancelled, reading⟩
      · exact absurd busy (ready_idle _ record ready held runner)
      · rw [reading] at busy
        rcases busy with ⟨_, same⟩ | ⟨_, same⟩ | ⟨_, same⟩ <;> cases same
        exact .inr (.inl ⟨reason, rfl⟩)
  | forwards index record runner cancelled event rest reading front progress same =>
      have serving := serving_front _ index event rest (serves.serving index record runner cancelled reading) front
      have read := serves_read state slots serves index record runner cancelled rest (.reading record runner cancelled) reading
        (fun other another _ shape => by
          cases shape
          exact ⟨rfl, serving.2.1 progress⟩)
        rfl (.inr (.inl ⟨cancelled, rfl⟩))
      refine serves_quiet _ next read (same ▸ ⟨⟨fun _ => rfl, rfl, rfl, rfl, fun _ member => member⟩, fun _ => rfl⟩)
        (same ▸ rfl) ?_
      rw [same, State.stand, ← reading]
      exact (Function.update_eq_self index state.calls).symm
  | drops index record runner event rest reason reading front same =>
      exact same ▸ serves_read state slots serves index record runner true rest _ reading (by intros; contradiction) rfl
        (.inr (.inr (.inl ⟨reason, rfl⟩)))
  | answers index record runner event rest outcome stage reading front ends after same =>
      have serving := serving_front _ index event rest (serves.serving index record runner false reading) front
      have clean := serving.2.2 (by rw [PipeEvent.isTerminal, ends])
      rw [same]
      rcases after with rfl | rfl | rfl
      all_goals exact serves_read state slots serves index record runner false rest _ reading (by intros; contradiction) rfl (.inl clean)
  | closed index record answer closing same => exact same ▸ serves_closed state serves index record answer closing
  | closedNext record doomed same => exact same ▸ serves_closedNext state serves record (state.doomed.erase record)
  | cancelled index record runner reading same =>
      rw [same]
      refine serves_pipes state _ serves index (.reading record runner true)
        (sameSlots_stand state state index _ (sameSlots_refl state)) rfl rfl
        (fun other another cancelled shape => ?_) rfl fun held other busy => ?_
      · cases shape
        exact ⟨false, reading⟩
      · rw [reading] at busy
        rcases busy with ⟨_, same⟩ | ⟨_, same⟩ | ⟨_, same⟩ <;> cases same
        exact .inl ⟨true, rfl⟩
  | child runner act after there took same =>
      exact same ▸ serves_child state serves runner after (childStep_effect _ _ _ _ took)

def Stage.answer : Stage → Option Answer
  | .removing _ answer | .closing _ answer | .storing _ answer | .clearing _ answer | .unlocking _ answer
  | .returned answer => some answer
  | _ => none

def Takes (state : State) (index : Nat) (cancelled : Bool) (event : PipeEvent) : Prop :=
  ∃ record runner rest, (state.calls index).stage = .reading record runner cancelled ∧
    (state.runners runner).stdout = event :: rest

theorem effect_answers (state next : State) (effect : Effect maxWorkspaces state next label) (index : Nat) (answer : Answer)
    (answers : (next.calls index).stage.answer = some answer) :
    (next.calls index).header = (state.calls index).header ∧
      ((state.calls index).stage.answer = some answer ∨ (∃ reason, answer = synthetic (state.calls index).header reason) ∨
        ∃ event outcome, Takes state index false event ∧ event.body = .terminal outcome ∧
          answer = answerOf event outcome) := by
  have stands (mover : Nat) (stage : Stage) (calls : next.calls = standing state mover stage)
      (own : stage.answer = some answer → (state.calls mover).stage.answer = some answer ∨
        (∃ reason, answer = synthetic (state.calls mover).header reason) ∨
          ∃ event outcome, Takes state mover false event ∧ event.body = .terminal outcome ∧ answer = answerOf event outcome) :
      (next.calls index).header = (state.calls index).header ∧
        ((state.calls index).stage.answer = some answer ∨ (∃ reason, answer = synthetic (state.calls index).header reason) ∨
          ∃ event outcome, Takes state index false event ∧ event.body = .terminal outcome ∧
            answer = answerOf event outcome) := by
    rw [calls] at answers ⊢
    refine ⟨standing_header state mover stage index, ?_⟩
    exact standing_all state mover stage (fun other stage => stage.answer = some answer →
      (state.calls other).stage.answer = some answer ∨ (∃ reason, answer = synthetic (state.calls other).header reason) ∨
        ∃ event outcome, Takes state other false event ∧ event.body = .terminal outcome ∧ answer = answerOf event outcome)
      own (fun _ _ was => .inl was) index answers
  have stays (calls : next.calls = state.calls) : (next.calls index).header = (state.calls index).header ∧
      ((state.calls index).stage.answer = some answer ∨ (∃ reason, answer = synthetic (state.calls index).header reason) ∨
        ∃ event outcome, Takes state index false event ∧ event.body = .terminal outcome ∧ answer = answerOf event outcome) := by
    rw [calls] at answers ⊢
    exact ⟨rfl, .inl answers⟩
  cases effect with
  | called header same =>
      rw [same] at answers ⊢
      by_cases new : index = state.callCount
      · simp only [new, Function.update_self] at answers
        cases answers
      · simp only [Function.update_of_ne new] at answers ⊢
        exact ⟨trivial, .inl answers⟩
  | soft mover stage deed =>
      obtain ⟨_, _, calls, moved⟩ := deed_keeps state next mover stage deed
      refine stands mover stage calls fun own => ?_
      generalize (state.calls mover).stage = before at moved ⊢
      cases moved with
      | refused stage early reason => cases own; exact .inr (.inl ⟨reason, rfl⟩)
      | gaveUp record reason => cases own; exact .inr (.inl ⟨reason, rfl⟩)
      | removed record kept => cases own; exact .inl rfl
      | stored record kept => cases own; exact .inl rfl
      | cleared record kept => cases own; exact .inl rfl
      | _ => cases own
  | reaped workspaceId same => exact stays (by rw [same]; rfl)
  | closedAll same => exact stays (by rw [same]; rfl)
  | reserved mover workspaceId entering named free room same => exact stands mover (.spawning state.recordCount) (by rw [same]; rfl) (by intros; contradiction)
  | spawned mover record spawning same => exact stands mover (.assigning record state.runnerCount) (by rw [same]; rfl) (by intros; contradiction)
  | assigned mover record runner assigning same =>
      refine stands mover .finding ?_ (by intros; contradiction)
      obtain ⟨records, found⟩ := assignRunner_records state (state.calls mover).header.workspaceId runner
      rw [same, found]
      rfl
  | locked mover record waiting free same => exact stands mover (.locked record) (by rw [same]; rfl) (by intros; contradiction)
  | unlocked mover record kept unlocking same =>
      refine stands mover (.returned kept) (by rw [same]; rfl) fun own => .inl ?_
      cases own
      rw [unlocking, Stage.answer]
  | wrote mover record runner ready isOwn open_ same => exact stands mover (.reading record runner false) (by rw [same]; rfl) (by intros; contradiction)
  | brokeOff mover record runner reason ready isOwn open_ same => exact stands mover (.failed record reason) (by rw [same]; rfl) (by intros; contradiction)
  | stopped mover record reason began same => exact stands mover (.failed record reason) (by rw [same]; rfl) (by intros; contradiction)
  | forwards mover record runner cancelled event rest reading front progress same => exact stays (by rw [same]; rfl)
  | drops mover record runner event rest reason reading front same => exact stands mover (.failed record reason) (by rw [same]; rfl) (by intros; contradiction)
  | answers mover record runner event rest outcome stage reading front ends after same =>
      refine stands mover stage (by rw [same]; rfl) fun own => .inr (.inr ⟨event, outcome, ⟨record, runner, rest, reading, front⟩, ends, ?_⟩)
      rcases after with rfl | rfl | rfl <;> exact (Option.some.inj own).symm
  | closed mover record kept closing same =>
      refine stands mover (.clearing record kept) ?_ fun own => .inl ?_
      · rw [same, State.stand, (sameSlots_close state record).2]
        rfl
      · cases own
        rw [closing, Stage.answer]
  | closedNext record doomed same => exact stays (by rw [same]; exact (sameSlots_close state record).2)
  | cancelled mover record runner reading same => exact stands mover (.reading record runner true) (by rw [same]; rfl) (by intros; contradiction)
  | child runner act after there took same => exact stays (by rw [same]; rfl)

theorem effect_forwarded (state next : State) (effect : Effect maxWorkspaces state next label) (index : Nat) (event : PipeEvent)
    (forwarded : (index, event) ∈ next.forwarded) :
    (index, event) ∈ state.forwarded ∨
      ∃ cancelled, Takes state index cancelled event ∧ event.isTerminal = false := by
  cases effect with
  | forwards mover record runner cancelled taken rest reading front progress same =>
      rw [same] at forwarded
      rcases List.mem_append.mp forwarded with old | new
      · exact .inl old
      · cases List.mem_singleton.mp new
        exact .inr ⟨cancelled, ⟨record, runner, rest, reading, front⟩, progress⟩
  | soft mover stage deed =>
      obtain ⟨_, pipes, _, _⟩ := deed_keeps state next mover stage deed
      exact .inl (pipes.forwarded ▸ forwarded)
  | reaped workspaceId same => rw [same] at forwarded; exact .inl forwarded
  | closedAll same => rw [same] at forwarded; exact .inl forwarded
  | assigned mover record runner assigning same =>
      obtain ⟨records, found⟩ := assignRunner_records state (state.calls mover).header.workspaceId runner
      rw [same, found] at forwarded
      exact .inl forwarded
  | closed mover record kept closing same =>
      rw [same] at forwarded
      unfold closeRunner at forwarded
      split at forwarded <;> exact .inl forwarded
  | closedNext record doomed same =>
      rw [same] at forwarded
      unfold closeRunner at forwarded
      split at forwarded <;> exact .inl forwarded
  | called header same => rw [same] at forwarded; exact .inl forwarded
  | reserved mover workspaceId entering named free room same => rw [same] at forwarded; exact .inl forwarded
  | spawned mover record spawning same => rw [same] at forwarded; exact .inl forwarded
  | locked mover record waiting free same => rw [same] at forwarded; exact .inl forwarded
  | unlocked mover record kept unlocking same => rw [same] at forwarded; exact .inl forwarded
  | wrote mover record runner ready own open_ same => rw [same] at forwarded; exact .inl forwarded
  | brokeOff mover record runner reason ready own open_ same => rw [same] at forwarded; exact .inl forwarded
  | stopped mover record reason began same => rw [same] at forwarded; exact .inl forwarded
  | drops mover record runner taken rest reason reading front same => rw [same] at forwarded; exact .inl forwarded
  | answers mover record runner taken rest outcome stage reading front ends after same =>
      rw [same] at forwarded
      exact .inl forwarded
  | cancelled mover record runner reading same => rw [same] at forwarded; exact .inl forwarded
  | child runner act after there took same => rw [same] at forwarded; exact .inl forwarded

def Wrote (state : State) (event : PipeEvent) : Prop :=
  ∃ runner, runner < state.runnerCount ∧ event ∈ (state.runners runner).written

theorem effect_wrote (state next : State) (sources : Sources state) (effect : Effect maxWorkspaces state next label) (event : PipeEvent)
    (wrote : Wrote state event) : Wrote next event := by
  obtain ⟨runner, below, written⟩ := wrote
  have same_ (runnerCount : next.runnerCount = state.runnerCount) (runners : next.runners = state.runners) : Wrote next event :=
    ⟨runner, runnerCount ▸ below, runners ▸ written⟩
  have updated (changed : Nat) (after : Runner) (runnerCount : state.runnerCount ≤ next.runnerCount)
      (runners : next.runners = Function.update state.runners changed after)
      (kept : changed = runner → event ∈ after.written) : Wrote next event := by
    refine ⟨runner, Nat.lt_of_lt_of_le below runnerCount, ?_⟩
    rw [runners, Function.update_apply]
    split
    · rename_i here
      exact kept here.symm
    · exact written
  have closes (record : Nat) (runnerCount : next.runnerCount = state.runnerCount)
      (runners : next.runners = (closeRunner state record).runners) : Wrote next event := by
    unfold closeRunner at runners
    split at runners
    · exact same_ runnerCount runners
    · exact updated _ _ (Nat.le_of_eq runnerCount.symm) runners fun here => here ▸ written
  cases effect with
  | called header same => exact same_ (by rw [same]) (by rw [same])
  | soft mover stage deed =>
      obtain ⟨slotsSame, pipes, _, _⟩ := deed_keeps state next mover stage deed
      exact same_ slotsSame.runnerCount pipes.runners
  | reaped workspaceId same => exact same_ (by rw [same]; rfl) (by rw [same]; rfl)
  | closedAll same => exact same_ (by rw [same]; rfl) (by rw [same]; rfl)
  | reserved mover workspaceId entering named free room same => exact same_ (by rw [same]; rfl) (by rw [same]; rfl)
  | spawned mover record spawning same =>
      refine updated state.runnerCount .spawned (by rw [same]; exact Nat.le_succ _) (by rw [same]; rfl) fun here => ?_
      exact absurd here (Nat.ne_of_gt below)
  | assigned mover record assigned assigning same =>
      obtain ⟨records, found⟩ := assignRunner_records state (state.calls mover).header.workspaceId assigned
      exact same_ (by rw [same, found]; rfl) (by rw [same, found]; rfl)
  | locked mover record waiting free same => exact same_ (by rw [same]; rfl) (by rw [same]; rfl)
  | unlocked mover record kept unlocking same => exact same_ (by rw [same]; rfl) (by rw [same]; rfl)
  | wrote mover record changed ready own open_ same =>
      exact updated changed { state.runners changed with inbox := (state.runners changed).inbox ++ [mover] }
        (by rw [same]; exact Nat.le_refl _) (by rw [same]; rfl) fun here => here ▸ written
  | brokeOff mover record changed reason ready own open_ same =>
      exact updated changed { state.runners changed with inbox := (state.runners changed).inbox ++ [mover] }
        (by rw [same]; exact Nat.le_refl _) (by rw [same]; rfl) fun here => here ▸ written
  | stopped mover record reason began same => exact same_ (by rw [same]; rfl) (by rw [same]; rfl)
  | forwards mover record changed cancelled taken rest reading front progress same =>
      exact updated changed { state.runners changed with stdout := rest }
        (by rw [same]; exact Nat.le_refl _) (by rw [same]; rfl) fun here => here ▸ written
  | drops mover record changed taken rest reason reading front same =>
      exact updated changed { state.runners changed with stdout := rest }
        (by rw [same]; exact Nat.le_refl _) (by rw [same]; rfl) fun here => here ▸ written
  | answers mover record changed taken rest outcome stage reading front ends after same =>
      exact updated changed { state.runners changed with stdout := rest }
        (by rw [same]; exact Nat.le_refl _) (by rw [same]; rfl) fun here => here ▸ written
  | closed mover record kept closing same =>
      refine closes record (by rw [same]; exact (sameSlots_close state record).1.runnerCount) ?_
      rw [same]
      rfl
  | closedNext record doomed same =>
      refine closes record (by rw [same]; exact (sameSlots_close state record).1.runnerCount) ?_
      rw [same]
  | cancelled mover record changed reading same => exact same_ (by rw [same]; rfl) (by rw [same]; rfl)
  | child changed act after there took same =>
      have effect := childStep_effect _ _ _ _ took
      refine updated changed after (by rw [same]; exact Nat.le_refl _) (by rw [same]; rfl) fun here => ?_
      exact (childEffect_drawn _ _ _ effect (sources.drawn changed)).1 event (here ▸ written)

def Answered (state : State) (index : Nat) (answer : Answer) : Prop :=
  (∃ reason, answer = synthetic (state.calls index).header reason) ∨
    ∃ event outcome, Wrote state event ∧ event.source = index ∧ event.body = .terminal outcome ∧
      answer = answerOf event outcome

structure Attributed (state : State) : Prop where
  slots : Slots state
  sources : Sources state
  serves : Serves state
  answered : ∀ index answer, (state.calls index).stage.answer = some answer → Answered state index answer
  forwarded : ∀ index event, (index, event) ∈ state.forwarded →
    Wrote state event ∧ event.source = index ∧ event.isTerminal = false

theorem takes_own (state : State) (attributed : Attributed state) (index : Nat) (cancelled : Bool) (event : PipeEvent)
    (takes : Takes state index cancelled event) : Wrote state event ∧ event.source = index := by
  obtain ⟨record, runner, rest, reading, front⟩ := takes
  have serving := attributed.serves.serving index record runner cancelled reading
  exact ⟨⟨runner, (attributed.slots.reader index record runner cancelled reading).1,
    attributed.sources.drawn runner event (front ▸ List.mem_cons_self)⟩, (serving_front _ index event rest serving front).1⟩

theorem attributed_effect (state next : State) (attributed : Attributed state) (effect : Effect maxWorkspaces state next label) :
    Attributed next := by
  refine ⟨slots_effect maxWorkspaces state next label attributed.slots effect, sources_effect maxWorkspaces label state next attributed.slots attributed.sources effect,
    serves_effect maxWorkspaces label state next attributed.slots attributed.serves effect, fun index answer answers => ?_,
    fun index event forwarded => ?_⟩
  · obtain ⟨header, old | new | ⟨event, outcome, takes, ends, same⟩⟩ := effect_answers maxWorkspaces label state next effect index answer answers
    · refine (attributed.answered index answer old).imp (fun synthetic_ => header ▸ synthetic_) ?_
      rintro ⟨event, outcome, wrote, own⟩
      exact ⟨event, outcome, effect_wrote maxWorkspaces label state next attributed.sources effect event wrote, own⟩
    · exact .inl (header ▸ new)
    · obtain ⟨wrote, own⟩ := takes_own state attributed index false event takes
      exact .inr ⟨event, outcome, effect_wrote maxWorkspaces label state next attributed.sources effect event wrote, own, ends, same⟩
  · rcases effect_forwarded maxWorkspaces label state next effect index event forwarded with old | ⟨cancelled, takes, progress⟩
    · obtain ⟨wrote, own, progress⟩ := attributed.forwarded index event old
      exact ⟨effect_wrote maxWorkspaces label state next attributed.sources effect event wrote, own, progress⟩
    · obtain ⟨wrote, own⟩ := takes_own state attributed index cancelled event takes
      exact ⟨effect_wrote maxWorkspaces label state next attributed.sources effect event wrote, own, progress⟩

theorem attributed_started (orphans : List (String × String)) : Attributed (.started orphans) where
  slots := slots_started orphans
  sources := {
    sent := fun runner source mentions => by
      rcases mentions with queued | ⟨streaming, running⟩ | ⟨event, written, _⟩ <;> contradiction
    one := fun runner other source mentions => by
      rcases mentions with queued | ⟨streaming, running⟩ | ⟨event, written, _⟩ <;> contradiction
    once := fun _ _ => Nat.zero_le 1
    drawn := nofun
    stamped := nofun }
  serves := ⟨nofun, fun _ _ _ _ => .inl ⟨rfl, rfl, rfl⟩, nofun⟩
  answered := nofun
  forwarded := nofun

theorem reachable_attributed (state : State) (reachable : Reachable (pool maxWorkspaces) state) :
    Attributed state :=
  reachable_invariant (pool maxWorkspaces) Attributed
    ⟨fun _ ⟨orphans, _, same⟩ => same ▸ attributed_started orphans,
      fun state label next attributed _ taken =>
        attributed_effect maxWorkspaces label state next attributed (step_effect maxWorkspaces state next label taken)⟩
    state reachable

def PipeEvent.ends (event : PipeEvent) (source : Nat) : Bool := event.isTerminal && event.source == source

structure LockStep (state : State) : Prop where
  answered : ∀ index answer, (state.calls index).stage = .returned answer →
    answer.event.commandId = (state.calls index).header.commandId ∧
      ((∃ reason, answer = synthetic (state.calls index).header reason) ∨
        ∃ runner event outcome, event ∈ (state.runners runner).written ∧ event.body = .terminal outcome ∧
          answer = answerOf event outcome ∧ event.source = index ∧ event.commandId = (state.calls index).header.commandId)
  forwarded : ∀ index event, (index, event) ∈ state.forwarded →
    event.isTerminal = false ∧ event.source = index ∧ event.commandId = (state.calls index).header.commandId
  once : ∀ runner source, ((state.runners runner).written.countP fun event => event.ends source) ≤ 1
  one : ∀ runner other, ∀ event ∈ (state.runners runner).written, ∀ another ∈ (state.runners other).written,
    event.source = another.source → runner = other

theorem reachable_lockStep (state : State) (reachable : Reachable (pool maxWorkspaces) state) :
    LockStep state := by
  have attributed := reachable_attributed maxWorkspaces state reachable
  have stamped (event : PipeEvent) (index : Nat) (wrote : Wrote state event) (own : event.source = index) :
      event.commandId = (state.calls index).header.commandId := by
    obtain ⟨runner, _, written⟩ := wrote
    exact own ▸ attributed.sources.stamped runner event written
  refine ⟨fun index answer returned => ?_, fun index event forwarded => ?_, fun runner source => ?_,
    fun runner other event written another alsoWritten same => ?_⟩
  · rcases attributed.answered index answer (by rw [returned, Stage.answer]) with ⟨reason, same⟩ | read
    · exact ⟨by rw [same]; rfl, .inl ⟨reason, same⟩⟩
    · obtain ⟨event, outcome, wrote, own, ends, same⟩ := read
      have id := stamped event index wrote own
      obtain ⟨runner, _, written⟩ := wrote
      exact ⟨by rw [same]; exact id, .inr ⟨runner, event, outcome, written, ends, same, own, id⟩⟩
  · obtain ⟨wrote, own, progress⟩ := attributed.forwarded index event forwarded
    exact ⟨progress, own, stamped event index wrote own⟩
  · exact Nat.le_trans (Nat.le_add_left _ _) (attributed.sources.once runner source)
  · exact attributed.sources.one runner other event.source (.inr (.inr ⟨event, written, rfl⟩))
      (.inr (.inr ⟨another, alsoWritten, same.symm⟩))

def sampleHeader (kind : CommandKind) (commandId : String) : CommandHeader :=
  { kind := kind, commandId := commandId, workspaceId := "workspace", completionToken := "token" }

def sampleEnv : Env :=
  { spawnError := none, writeError := none, delivered := false, readError := none, contextError := "context deadline exceeded"
    expired := none }

def advances (index count : Nat) : List Label := List.replicate count (.advance index sampleEnv)

def sampleRun : List Label :=
  [.dispatch (sampleHeader .provisionWorkspace "provision")] ++ advances 0 7 ++
    [.child 0 .readCommand, .child 0 (.returns (.success [("path", "/work")]))] ++ advances 0 4 ++
    [.dispatch (sampleHeader .invokeClaudeCode "session"), .dispatch (sampleHeader .writeFiles "waiter")] ++
    advances 1 5 ++ advances 2 2 ++
    [.child 0 .readCommand, .child 0 .startStreaming, .child 0 (.stdoutLine "working"), .advance 1 sampleEnv, .cancel 1,
      .advance 1 { sampleEnv with readError := some "file already closed", expired := some "30m" }] ++
    advances 1 4 ++ [.child 0 .stdoutDone, .child 0 .stderrDone, .child 0 .wait, .child 0 .stopStreaming,
      .child 0 (.returns (.success []))] ++ advances 2 7

def sampleState : State := (pool 1).after (.started []) sampleRun

theorem sampleState_reachable : Reachable (pool 1) sampleState :=
  ⟨.started [], sampleRun, ⟨[], .nil, rfl⟩,
    commits_path (pool 1) (.started []) sampleRun (succeeds_commits 1 (.started []) sampleRun (by decide +kernel))⟩

theorem sampleState_lockStep :
    (sampleState.calls 0).stage.answer = some (answerOf
      { source := 0, commandId := "provision", completionToken := "token", body := .terminal (.success [("path", "/work")]) }
      (.success [("path", "/work")])) ∧
    (sampleState.calls 1).stage.answer = some (synthetic (sampleHeader .invokeClaudeCode "session")
      "timeout: InvokeClaudeCode exceeded 30m wall-clock") ∧
    (sampleState.calls 2).stage.answer = some (synthetic (sampleHeader .writeFiles "waiter")
      "runner: write command: write |1: file already closed") ∧ LockStep sampleState :=
  ⟨by decide +kernel, by decide +kernel, by decide +kernel, reachable_lockStep 1 sampleState sampleState_reachable⟩

-- Without any condition on the run: one call at a time is between the lock and the
-- unlock of a record, one at a time reads a runner, and no runner is in two records.
theorem slots_exclude (state : State) (reachable : Reachable (pool maxWorkspaces) state)
    (index other : Nat) :
    (∀ record, (state.calls index).stage.holds = some record → (state.calls other).stage.holds = some record →
      index = other) ∧
      (∀ runner, (state.calls index).stage.reads = some runner → (state.calls other).stage.reads = some runner →
        index = other) ∧
      ∀ record another runner, (state.records record).runner = some runner →
        (state.records another).runner = some runner → record = another := by
  have slots := (reachable_attributed maxWorkspaces state reachable).slots
  refine ⟨fun record mine yours => ?_, slots.alone index other, slots.single⟩
  exact Option.some.inj ((slots.locked index record mine).symm.trans (slots.locked other record yours))

theorem sampleState_excludes : ¬ ∃ record, (sampleState.calls 1).stage.holds = some record ∧
    (sampleState.calls 2).stage.holds = some record := by
  rintro ⟨record, mine, yours⟩
  exact absurd ((slots_exclude 1 sampleState sampleState_reachable 1 2).1 record mine yours) (by decide)

end Yaaos.Agent.Pool
