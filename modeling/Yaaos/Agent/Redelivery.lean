import Yaaos.Agent.Supervisor

set_option autoImplicit false

namespace Yaaos.Agent

open Yaaos.Base

def Stage.pooled : Stage → Bool
  | .routing => true
  | .spawning => true
  | .finding => true
  | _ => false

inductive Pooled (header : CommandHeader) : Stage → Prop where
  | spawning : Pooled header .spawning
  | finding : Pooled header .finding
  | waiting (serial runner : Nat) : Pooled header (.waiting serial runner)
  | refused (outcome : Outcome) : Pooled header (.storing (header.event outcome))

inductive Advances (state : Supervisor) (index : Nat) (delivery : Delivery) : Supervisor → Prop where
  | looks (stage : delivery.stage = .received) : Advances state index delivery (state.stand index delivery .looking)
  | misses (stage : delivery.stage = .looking) (miss : state.dedup.lookup delivery.header.commandId = none) :
      Advances state index delivery (state.stand index delivery .routing)
  | replays (event : AgentEvent) (dedup : Lru String AgentEvent) (stage : delivery.stage = .looking)
      (hit : state.dedup.lookup delivery.header.commandId = some (event, dedup)) :
      Advances state index delivery
        ({ state with dedup := dedup, touched := delivery.header.commandId :: state.touched }.stand index delivery
          (.posting event))
  | pools (registry : Registry) (nextSerial : Nat) (next : Stage) (stage : delivery.stage.pooled = true)
      (pooled : Pooled delivery.header next) :
      Advances state index delivery
        ({ state with registry := registry, nextSerial := nextSerial }.stand index delivery next)
  | sends (serial runner : Nat) (reached : Bool) (registry : Registry) (stage : delivery.stage = .waiting serial runner) :
      Advances state index delivery
        (({ state with
          registry := registry,
          executions := if reached then delivery.header :: state.executions else state.executions } : Supervisor).stand index
            delivery (.sending serial runner reached))
  | returns (serial runner : Nat) (reached : Bool) (registry : Registry) (closed : List Nat) (outcome : Outcome)
      (stage : delivery.stage = .sending serial runner reached) :
      Advances state index delivery
        ({ state with registry := registry, closed := closed }.stand index delivery
          (.storing (delivery.header.event outcome)))
  | stores (event : AgentEvent) (stage : delivery.stage = .storing event) :
      Advances state index delivery
        ({ state with
          dedup := state.dedup.store dedupCacheSize delivery.header.commandId event,
          touched := delivery.header.commandId :: state.touched }.stand index delivery (.posting event))
  | retries (event : AgentEvent) (stage : delivery.stage = .posting event) : Advances state index delivery state
  | posts (event : AgentEvent) (stage : delivery.stage = .posting event) :
      Advances state index delivery ({ state with posted := event :: state.posted }.stand index delivery .done)

section Advancing

variable (state : Supervisor) (index : Nat) (delivery : Delivery) (surroundings : Surroundings)

theorem route_advances (stage : delivery.stage = .routing) :
    Advances state index delivery (route state index delivery surroundings) := by
  have pooled : delivery.stage.pooled = true := by
    rw [stage]
    rfl
  have stays (next : Stage) (leaves : Pooled delivery.header next) :
      Advances state index delivery (state.stand index delivery next) :=
    .pools state.registry state.nextSerial next pooled leaves
  simp only [route]
  by_cases supervisor : delivery.header.kind.isAgentCommand = true
  · rw [if_pos supervisor]
    cases surroundings.execute with
    | error reason => exact stays _ (.refused (.failure reason))
    | ok outputs => exact stays _ (.refused (.success outputs))
  · rw [if_neg supervisor]
    cases surroundings.config with
    | none => exact stays _ (.refused (.failure "agent unconfigured"))
    | some maxWorkspaces =>
        simp only
        by_cases nowhere : delivery.header.workspaceId = ""
        · rw [if_pos nowhere]
          exact stays _ (.refused (.failure "missing workspace_id"))
        · rw [if_neg nowhere]
          by_cases create : delivery.header.kind = .provisionWorkspace
          · rw [if_pos create]
            cases reserveActiveSlot state.registry delivery.header.workspaceId maxWorkspaces state.nextSerial with
            | atCap => exact stays _ (.refused (.failure "cap reached"))
            | slotTaken => exact stays _ .finding
            | reserved registry => exact .pools registry (state.nextSerial + 1) .spawning pooled .spawning
          · rw [if_neg create]
            exact stays _ .finding

theorem spawnRunner_advances (stage : delivery.stage = .spawning) :
    Advances state index delivery (spawnRunner state index delivery surroundings) := by
  have pooled : delivery.stage.pooled = true := by
    rw [stage]
    rfl
  simp only [spawnRunner]
  cases surroundings.spawn with
  | some reason => exact .pools _ _ _ pooled (.refused (.failure ("spawn: " ++ reason)))
  | none => exact .pools _ _ _ pooled .finding

theorem findRecord_advances (stage : delivery.stage = .finding) :
    Advances state index delivery (findRecord state index delivery) := by
  have pooled : delivery.stage.pooled = true := by
    rw [stage]
    rfl
  simp only [findRecord]
  cases lookupSendable state.registry delivery.header.workspaceId with
  | none => exact .pools state.registry state.nextSerial _ pooled (.refused _)
  | some found => exact .pools state.registry state.nextSerial _ pooled (.waiting found.1 found.2)

theorem endSend_advances (serial runner : Nat) (reached : Bool) (stage : delivery.stage = .sending serial runner reached) :
    Advances state index delivery (endSend state index delivery runner reached surroundings) := by
  rw [endSend]
  cases (if reached = true then surroundings.send else .error surroundings.broken) with
  | error reason => exact .returns serial runner reached _ _ (.failure reason) stage
  | ok outcome =>
      simp only
      by_cases cleanup : delivery.header.kind = .cleanupWorkspace
      · rw [if_pos cleanup]
        exact .returns serial runner reached _ _ outcome stage
      · rw [if_neg cleanup]
        exact .returns serial runner reached _ state.closed outcome stage

theorem advance_advances (next : Supervisor) (taken : advance state index delivery surroundings = .ok next) :
    Advances state index delivery next := by
  simp only [advance] at taken
  cases stage : delivery.stage with
  | received =>
      rw [stage] at taken
      cases taken
      exact .looks stage
  | looking =>
      rw [stage] at taken
      simp only at taken
      cases hit : state.dedup.lookup delivery.header.commandId with
      | none =>
          rw [hit] at taken
          cases taken
          exact .misses stage hit
      | some found =>
          rw [hit] at taken
          cases taken
          exact .replays found.1 found.2 stage hit
  | routing =>
      rw [stage] at taken
      cases taken
      exact route_advances state index delivery surroundings stage
  | spawning =>
      rw [stage] at taken
      cases taken
      exact spawnRunner_advances state index delivery surroundings stage
  | finding =>
      rw [stage] at taken
      cases taken
      exact findRecord_advances state index delivery stage
  | waiting serial runner =>
      rw [stage] at taken
      simp only [beginSend] at taken
      by_cases locked : (state.deliveries.any fun other => other.stage.holds serial) = true
      · rw [if_pos locked] at taken
        cases taken
      · rw [if_neg locked] at taken
        cases taken
        exact .sends serial runner _ _ stage
  | sending serial runner reached =>
      rw [stage] at taken
      cases taken
      exact endSend_advances state index delivery surroundings serial runner reached stage
  | storing event =>
      rw [stage] at taken
      cases taken
      exact .stores event stage
  | posting event =>
      rw [stage] at taken
      simp only at taken
      cases post : surroundings.post with
      | acked =>
          rw [post] at taken
          cases taken
          exact .posts event stage
      | staleClaim =>
          rw [post] at taken
          cases taken
          exact .posts event stage
      | transient =>
          rw [post] at taken
          cases taken
          exact .retries event stage
  | done =>
      rw [stage] at taken
      cases taken

end Advancing

def Stage.stored : Stage → Bool
  | .posting _ => true
  | .done => true
  | _ => false

def Stage.unsent : Stage → Bool
  | .sending _ _ _ => false
  | .storing _ => false
  | .posting _ => false
  | .done => false
  | _ => true

def Stage.replays : Stage → Bool
  | .received => true
  | .looking => true
  | .posting _ => true
  | .done => true
  | _ => false

def Orderly (commandId : String) (latest : Nat) (state : Supervisor) : SupervisorLabel → Prop
  | .deliver _ => True
  | .advance index _ => ∀ delivery, state.deliveries[index]? = some delivery → delivery.stage = .looking →
      delivery.header.commandId = commandId → index ≠ latest →
        (∃ own, state.deliveries[latest]? = some own ∧ own.header.commandId = commandId ∧ own.stage.stored = true) ∧
          (recents (state.touched.takeWhile (· ≠ commandId))).length < dedupCacheSize

def orderlyProcess (commandId : String) (latest : Nat) : Machine Supervisor SupervisorLabel SupervisorError :=
  { agentProcess with allowed := Orderly commandId latest }

def Reports (posted : List AgentEvent) (own : Delivery) : Prop :=
  match own.stage with
  | .storing event => ∃ outcome, event = own.header.event outcome
  | .posting event => ∃ outcome, event = own.header.event outcome
  | .done => ∃ outcome, own.header.event outcome ∈ posted
  | _ => True

def executionsOf (commandId : String) (state : Supervisor) : List CommandHeader :=
  state.executions.filter fun header => header.commandId = commandId

structure Follows (commandId : String) (latest : Nat) (state : Supervisor) : Prop where
  holds : state.dedup.Holds dedupCacheSize state.touched
  others : ∀ index other, state.deliveries[index]? = some other → other.header.commandId = commandId → index ≠ latest →
    other.stage.replays = true
  touched : commandId ∈ state.touched →
    ∃ own, state.deliveries[latest]? = some own ∧ own.header.commandId = commandId ∧ own.stage.stored = true
  stored : ∀ own, state.deliveries[latest]? = some own → own.header.commandId = commandId → own.stage.stored = true →
    commandId ∈ state.touched
  once : (executionsOf commandId state).length ≤ 1
  sent : executionsOf commandId state ≠ [] →
    ∃ own, state.deliveries[latest]? = some own ∧ own.header.commandId = commandId ∧ own.stage.unsent = false
  reports : ∀ own, state.deliveries[latest]? = some own → own.header.commandId = commandId → Reports state.posted own

structure Respects (commandId : String) (latest : Nat) (state : Supervisor) (index : Nat) (delivery : Delivery)
    (stage : Stage) (next : Supervisor) : Prop where
  deliveries : next.deliveries = state.deliveries.set index { delivery with stage := stage }
  holds : next.dedup.Holds dedupCacheSize next.touched
  others : delivery.header.commandId = commandId → index ≠ latest → stage.replays = true
  touched : commandId ∈ next.touched → commandId ∈ state.touched ∨
    (delivery.header.commandId = commandId ∧ index = latest ∧ stage.stored = true)
  untouched : state.touched ⊆ next.touched
  storing : delivery.header.commandId = commandId → index = latest → stage.stored = true → commandId ∈ next.touched
  stored : delivery.stage.stored = true → stage.stored = true
  executions : next.executions = state.executions ∨ (next.executions = delivery.header :: state.executions ∧
    delivery.stage.unsent = true ∧ stage.unsent = false ∧ (delivery.header.commandId = commandId → index = latest))
  unsent : stage.unsent = true → delivery.stage.unsent = true
  posted : state.posted ⊆ next.posted
  reports : delivery.header.commandId = commandId → index = latest →
    Reports next.posted { delivery with stage := stage }

section Following

variable (commandId : String) (latest : Nat) (state next : Supervisor) (index : Nat) (delivery : Delivery) (stage : Stage)

theorem reports_more (posted more : List AgentEvent) (own : Delivery) (sub : posted ⊆ more) (reports : Reports posted own) :
    Reports more own := by
  rw [Reports] at reports ⊢
  cases at_ : own.stage with
  | done =>
      rw [at_] at reports
      obtain ⟨outcome, member⟩ := reports
      exact ⟨outcome, sub member⟩
  | storing event => rw [at_] at reports; exact reports
  | posting event => rw [at_] at reports; exact reports
  | received => trivial
  | looking => trivial
  | routing => trivial
  | spawning => trivial
  | finding => trivial
  | waiting serial runner => trivial
  | sending serial runner reached => trivial

theorem respects_follows (follows : Follows commandId latest state) (here : state.deliveries[index]? = some delivery)
    (respects : Respects commandId latest state index delivery stage next) : Follows commandId latest next := by
  have inside : index < state.deliveries.length := (List.getElem?_eq_some_iff.mp here).1
  have own_ : next.deliveries[index]? = some { delivery with stage := stage } := by
    rw [respects.deliveries, List.getElem?_set_self inside]
  have other_ (position : Nat) (different : position ≠ index) : next.deliveries[position]? = state.deliveries[position]? := by
    rw [respects.deliveries, List.getElem?_set_ne (Ne.symm different)]
  have kept (P : Stage → Prop) (moved : P delivery.stage → P stage)
      (found : ∃ own, state.deliveries[latest]? = some own ∧ own.header.commandId = commandId ∧ P own.stage) :
      ∃ own, next.deliveries[latest]? = some own ∧ own.header.commandId = commandId ∧ P own.stage := by
    obtain ⟨own, at_, named, holds⟩ := found
    by_cases same : latest = index
    · rw [same, here] at at_
      cases at_
      exact ⟨{ delivery with stage := stage }, by rw [same]; exact own_, named, moved holds⟩
    · exact ⟨own, by rw [other_ latest same]; exact at_, named, holds⟩
  refine ⟨respects.holds, ?_, ?_, ?_, ?_, ?_, ?_⟩
  · intro position other at_ named different
    by_cases same : position = index
    · rw [same, own_] at at_
      cases at_
      exact respects.others named (same ▸ different)
    · rw [other_ position same] at at_
      exact follows.others position other at_ named different
  · intro touched
    rcases respects.touched touched with before | ⟨named, isLatest, stored⟩
    · exact kept (·.stored = true) respects.stored (follows.touched before)
    · exact ⟨{ delivery with stage := stage }, by rw [← isLatest]; exact own_, named, stored⟩
  · intro own at_ named stored
    by_cases same : latest = index
    · rw [same, own_] at at_
      cases at_
      exact respects.storing named same.symm stored
    · rw [other_ latest same] at at_
      exact respects.untouched (follows.stored own at_ named stored)
  · rcases respects.executions with unchanged | ⟨added, unsent, _, isLatest⟩
    · rw [executionsOf, unchanged]
      exact follows.once
    · rw [executionsOf, added]
      by_cases named : delivery.header.commandId = commandId
      · have fresh : executionsOf commandId state = [] := by
          refine by_contra fun some_ => ?_
          obtain ⟨own, at_, _, sent⟩ := follows.sent some_
          rw [← isLatest named, here] at at_
          cases at_
          rw [unsent] at sent
          cases sent
        rw [List.filter_cons_of_pos (by simpa using named)]
        rw [executionsOf] at fresh
        rw [fresh]
        exact Nat.le_refl _
      · rw [List.filter_cons_of_neg (by simpa using named)]
        exact follows.once
  · intro some_
    have moved (unsent : delivery.stage.unsent = false) : stage.unsent = false :=
      Bool.eq_false_iff.mpr fun still => by rw [respects.unsent still] at unsent; cases unsent
    rcases respects.executions with unchanged | ⟨added, _, sent, isLatest⟩
    · rw [executionsOf, unchanged] at some_
      exact kept (·.unsent = false) moved (follows.sent some_)
    · by_cases named : delivery.header.commandId = commandId
      · exact ⟨{ delivery with stage := stage }, by rw [← isLatest named]; exact own_, named, sent⟩
      · rw [executionsOf, added, List.filter_cons_of_neg (by simpa using named)] at some_
        exact kept (·.unsent = false) moved (follows.sent some_)
  · intro own at_ named
    by_cases same : latest = index
    · rw [same, own_] at at_
      cases at_
      exact respects.reports named same.symm
    · rw [other_ latest same] at at_
      exact reports_more state.posted next.posted own respects.posted (follows.reports own at_ named)

theorem respects_quiet (registry : Registry) (nextSerial : Nat) (closed : List Nat)
    (follows : Follows commandId latest state)
    (unsent : stage.unsent = true → delivery.stage.unsent = true)
    (unstored : delivery.stage.stored = false) (later : stage.stored = false)
    (others : delivery.header.commandId = commandId → index ≠ latest → stage.replays = true)
    (reports : Reports state.posted { delivery with stage := stage }) :
    Respects commandId latest state index delivery stage
      ({ state with registry := registry, nextSerial := nextSerial, closed := closed }.stand index delivery stage) where
  deliveries := rfl
  holds := follows.holds
  others := others
  touched := .inl
  untouched := fun _ => id
  storing := fun _ _ stored => by
    rw [later] at stored
    cases stored
  stored := fun stored => by
    rw [unstored] at stored
    cases stored
  executions := .inl rfl
  unsent := unsent
  posted := fun _ => id
  reports := fun _ _ => reports

theorem pooled_stage (header : CommandHeader) (pooled : Pooled header stage) :
    stage.stored = false ∧ ∀ posted, Reports posted { header := header, stage := stage } := by
  cases pooled with
  | spawning => exact ⟨rfl, fun _ => trivial⟩
  | finding => exact ⟨rfl, fun _ => trivial⟩
  | waiting serial runner => exact ⟨rfl, fun _ => trivial⟩
  | refused outcome => exact ⟨rfl, fun _ => ⟨outcome, rfl⟩⟩

theorem advances_follows (follows : Follows commandId latest state)
    (here : state.deliveries[index]? = some delivery)
    (orderly : delivery.stage = .looking → delivery.header.commandId = commandId → index ≠ latest →
      (∃ own, state.deliveries[latest]? = some own ∧ own.header.commandId = commandId ∧ own.stage.stored = true) ∧
        (recents (state.touched.takeWhile (· ≠ commandId))).length < dedupCacheSize)
    (advances : Advances state index delivery next) : Follows commandId latest next := by
  have isLatest (missed : delivery.stage.replays = false) (named : delivery.header.commandId = commandId) :
      index = latest := by
    refine by_contra fun different => ?_
    rw [follows.others index delivery here named different] at missed
    cases missed
  cases advances with
  | looks at_ =>
      refine respects_follows commandId latest state _ index delivery .looking follows here ?_
      exact respects_quiet commandId latest state index delivery .looking state.registry state.nextSerial state.closed follows
        (fun _ => by rw [at_]; rfl) (by rw [at_]; rfl) rfl (fun _ _ => rfl) trivial
  | misses at_ miss =>
      refine respects_follows commandId latest state _ index delivery .routing follows here ?_
      refine respects_quiet commandId latest state index delivery .routing state.registry state.nextSerial state.closed follows
        (fun _ => by rw [at_]; rfl) (by rw [at_]; rfl) rfl (fun named different => ?_) trivial
      obtain ⟨⟨own, ownAt, ownNamed, stored⟩, few⟩ := orderly at_ named different
      obtain ⟨event, dedup, hit⟩ := Lru.lookup_recent state.dedup state.touched commandId follows.holds
        (follows.stored own ownAt ownNamed stored) few
      rw [named, hit] at miss
      cases miss
  | replays event dedup at_ hit =>
      obtain ⟨held, used⟩ := Lru.lookup_some state.dedup state.touched delivery.header.commandId event follows.holds dedup hit
      refine respects_follows commandId latest state _ index delivery (.posting event) follows here ?_
      have another (named : delivery.header.commandId = commandId) : index ≠ latest := by
        intro same
        rw [named] at used
        obtain ⟨own, ownAt, _, stored⟩ := follows.touched used
        rw [← same, here] at ownAt
        cases ownAt
        rw [at_] at stored
        cases stored
      refine ⟨rfl, held, fun _ _ => rfl, fun touched => ?_, fun id member => List.mem_cons_of_mem _ member, ?_, fun _ => rfl,
        .inl rfl, fun no => (by cases no), fun _ => id, ?_⟩
      · rcases List.mem_cons.mp touched with own | before
        · exact .inl (own ▸ used)
        · exact .inl before
      · exact fun named _ _ => by rw [← named]; exact List.mem_cons_self
      · exact fun named same => absurd same (another named)
  | pools registry nextSerial stage at_ pooled =>
      obtain ⟨unstored, reports⟩ := pooled_stage stage delivery.header pooled
      have missed : delivery.stage.replays = false ∧ delivery.stage.unsent = true ∧ delivery.stage.stored = false := by
        cases was : delivery.stage <;> rw [was] at at_ <;> first | exact ⟨rfl, rfl, rfl⟩ | cases at_
      refine respects_follows commandId latest state _ index delivery stage follows here ?_
      exact respects_quiet commandId latest state index delivery stage registry nextSerial state.closed follows
        (fun _ => missed.2.1) missed.2.2 unstored (fun named different => absurd (isLatest missed.1 named) different)
        (reports state.posted)
  | sends serial runner reached registry at_ =>
      have missed : delivery.stage.replays = false := by
        rw [at_]
        rfl
      refine respects_follows commandId latest state _ index delivery (.sending serial runner reached) follows here ?_
      refine ⟨rfl, follows.holds, fun named different => absurd (isLatest missed named) different, .inl, fun _ => id,
        fun _ _ no => (by cases no), fun stored => (by rw [at_] at stored; cases stored), ?_, fun no => (by cases no), fun _ => id,
        fun _ _ => trivial⟩
      cases reached with
      | false => exact .inl rfl
      | true => exact .inr ⟨rfl, by rw [at_]; rfl, rfl, isLatest missed⟩
  | returns serial runner reached registry closed outcome at_ =>
      have missed : delivery.stage.replays = false := by
        rw [at_]
        rfl
      refine respects_follows commandId latest state _ index delivery (.storing (delivery.header.event outcome)) follows here ?_
      exact respects_quiet commandId latest state index delivery _ registry state.nextSerial closed follows
        (fun no => by cases no) (by rw [at_]; rfl) rfl (fun named different => absurd (isLatest missed named) different)
        ⟨outcome, rfl⟩
  | stores event at_ =>
      have missed : delivery.stage.replays = false := by
        rw [at_]
        rfl
      refine respects_follows commandId latest state _ index delivery (.posting event) follows here ?_
      refine ⟨rfl, Lru.store_holds state.dedup state.touched _ event follows.holds (by decide), fun _ _ => rfl, fun touched => ?_,
        fun id member => List.mem_cons_of_mem _ member, ?_, fun _ => rfl, .inl rfl, fun no => (by cases no), fun _ => id, ?_⟩
      · rcases List.mem_cons.mp touched with own | before
        · exact .inr ⟨own.symm, isLatest missed own.symm, rfl⟩
        · exact .inl before
      · exact fun named _ _ => by rw [← named]; exact List.mem_cons_self
      · intro named same
        have reports := follows.reports delivery (same ▸ here) named
        rw [Reports, at_] at reports
        exact reports
  | retries event at_ => exact follows
  | posts event at_ =>
      refine respects_follows commandId latest state _ index delivery .done follows here ?_
      refine ⟨rfl, follows.holds, fun _ _ => rfl, .inl, fun _ => id, ?_, fun _ => rfl, .inl rfl, fun no => (by cases no),
        fun posted member => List.mem_cons_of_mem _ member, ?_⟩
      · exact fun named same _ => follows.stored delivery (same ▸ here) named (by rw [at_]; rfl)
      · intro named same
        have reports := follows.reports delivery (same ▸ here) named
        rw [Reports, at_] at reports
        obtain ⟨outcome, isOwn⟩ := reports
        exact ⟨outcome, by rw [← isOwn]; exact List.mem_cons_self⟩

theorem deliver_follows (header : CommandHeader) (follows : Follows commandId latest state) :
    Follows commandId latest
      { state with deliveries := state.deliveries ++ [{ header := header, stage := .received }] } := by
  have split (position : Nat) (own : Delivery)
      (at_ : (state.deliveries ++ [{ header := header, stage := .received }])[position]? = some own) :
      state.deliveries[position]? = some own ∨ own.stage = .received := by
    rw [List.getElem?_append] at at_
    by_cases inside : position < state.deliveries.length
    · rw [if_pos inside] at at_
      exact .inl at_
    · rw [if_neg inside] at at_
      obtain ⟨_, isNew⟩ := List.getElem?_eq_some_iff.mp at_
      rw [List.getElem_singleton] at isNew
      rw [← isNew]
      exact .inr rfl
  have kept (P : Delivery → Prop) (found : ∃ own, state.deliveries[latest]? = some own ∧ P own) :
      ∃ own, (state.deliveries ++ [{ header := header, stage := .received }])[latest]? = some own ∧ P own := by
    obtain ⟨own, at_, holds⟩ := found
    rw [List.getElem?_append_left (List.getElem?_eq_some_iff.mp at_).1]
    exact ⟨own, at_, holds⟩
  refine ⟨follows.holds, ?_, fun touched => kept _ (follows.touched touched), ?_, follows.once,
    fun some_ => kept _ (follows.sent some_), ?_⟩
  · intro position other at_ named different
    rcases split position other at_ with before | new
    · exact follows.others position other before named different
    · rw [new]
      rfl
  · intro own at_ named stored
    rcases split latest own at_ with before | new
    · exact follows.stored own before named stored
    · rw [new] at stored
      cases stored
  · intro own at_ named
    rcases split latest own at_ with before | new
    · exact follows.reports own before named
    · rw [Reports, new]
      trivial

theorem orderly_follows (reachable : Reachable (orderlyProcess commandId latest) state) :
    Follows commandId latest state := by
  refine reachable_invariant (orderlyProcess commandId latest) (Follows commandId latest) ⟨?_, ?_⟩ state reachable
  · rintro _ ⟨registry, rfl⟩
    refine ⟨Lru.empty_holds _, ?_, fun no => (by cases no), ?_, Nat.zero_le _, fun no => absurd rfl no, ?_⟩
    · exact fun position other at_ => by cases at_
    · exact fun own at_ => by cases at_
    · exact fun own at_ => by cases at_
  · intro before label after follows orderly taken
    cases label with
    | deliver header =>
        cases taken
        exact deliver_follows commandId latest before header follows
    | advance index surroundings =>
        have taken : supervisorStep before (.advance index surroundings) = .ok after := taken
        rw [supervisorStep] at taken
        cases here : before.deliveries[index]? with
        | none =>
            rw [here] at taken
            cases taken
        | some delivery =>
            rw [here] at taken
            exact advances_follows commandId latest before after index delivery follows here (orderly delivery here)
              (advance_advances before index delivery surroundings after taken)

end Following

def Settled (commandId : String) (latest : Nat) (state : Supervisor) (own : Delivery) : Prop :=
  state.deliveries[latest]? = some own ∧ own.header.commandId = commandId ∧
    ∀ index other, state.deliveries[index]? = some other → other.header.commandId = commandId →
      index ≤ latest ∧ other.stage = .done

-- A command runs once, and its last delivery is answered under its own token.
theorem redelivered_once (commandId : String) (latest : Nat) (state : Supervisor)
    (reachable : Reachable (orderlyProcess commandId latest) state) :
    (executionsOf commandId state).length ≤ 1 ∧
      ∀ own, Settled commandId latest state own →
        ∃ event ∈ state.posted, event.commandId = commandId ∧ event.completionToken = own.header.completionToken := by
  have follows := orderly_follows commandId latest state reachable
  refine ⟨follows.once, fun own settled => ?_⟩
  obtain ⟨here, named, all⟩ := settled
  have reports := follows.reports own here named
  rw [Reports, (all latest own here named).2] at reports
  obtain ⟨outcome, posted⟩ := reports
  exact ⟨_, posted, named, rfl⟩

def sampleSurroundings : Surroundings :=
  { config := some 4, spawn := none, reads := true, send := .ok (.success []), broken := "", execute := .ok [],
    post := .acked }

def sampleHeader (completionToken : String) : CommandHeader :=
  { kind := .provisionWorkspace, commandId := "c", workspaceId := "w", completionToken := completionToken }

def sampleAdvances (index turns : Nat) : List SupervisorLabel := List.replicate turns (.advance index sampleSurroundings)

def sampleSupervisor (labels : List SupervisorLabel) : Supervisor := agentProcess.after (.started []) labels

theorem sampleSupervisor_reachable (labels : List SupervisorLabel) : Reachable agentProcess (sampleSupervisor labels) := by
  have run (state : Supervisor) (reachable : Reachable agentProcess state) (labels : List SupervisorLabel) :
      Reachable agentProcess (agentProcess.after state labels) := by
    induction labels generalizing state with
    | nil => exact reachable
    | cons label rest ih => exact ih _ (reachable_committed agentProcess label state reachable trivial)
  exact run (.started []) ⟨.started [], [], ⟨[], rfl⟩, .nil _⟩ labels

def sampleOvertaking : List SupervisorLabel :=
  [.deliver (sampleHeader "first"), .deliver (sampleHeader "second")] ++ sampleAdvances 1 9 ++ sampleAdvances 0 3

theorem sampleOvertaking_once :
    (executionsOf "c" (sampleSupervisor sampleOvertaking)).length ≤ 1 ∧
      ∃ event ∈ (sampleSupervisor sampleOvertaking).posted, event.commandId = "c" ∧ event.completionToken = "second" := by
  have own (state : Supervisor) : Orderly "c" 1 state (.advance 1 sampleSurroundings) :=
    fun _ _ _ _ different => absurd rfl different
  have idle (state : Supervisor) (stage : Stage) (header : CommandHeader)
      (here : state.deliveries[0]? = some { header := header, stage := stage }) (elsewhere : stage ≠ .looking) :
      Orderly "c" 1 state (.advance 0 sampleSurroundings) := by
    intro delivery at_ looking
    rw [here] at at_
    cases at_
    exact absurd looking elsewhere
  have reachable : Reachable (orderlyProcess "c" 1) (sampleSupervisor sampleOvertaking) := by
    refine ⟨.started [], sampleOvertaking, ⟨[], rfl⟩, commits_path (orderlyProcess "c" 1) (.started []) sampleOvertaking ?_⟩
    refine ⟨trivial, rfl, trivial, rfl, own _, rfl, own _, rfl, own _, rfl, own _, rfl, own _, rfl, own _, rfl, own _, rfl,
      own _, rfl, own _, rfl, idle _ .received _ rfl (by decide), rfl, ?_, rfl, idle _ (.posting _) _ rfl (by decide), rfl,
      trivial⟩
    exact fun _ _ _ _ _ => ⟨⟨_, rfl, rfl, rfl⟩, by decide⟩
  obtain ⟨once, reports⟩ := redelivered_once "c" 1 (sampleSupervisor sampleOvertaking) reachable
  refine ⟨once, reports { header := sampleHeader "second", stage := .done } ⟨rfl, rfl, fun index other at_ named => ?_⟩⟩
  have both : (sampleSupervisor sampleOvertaking).deliveries =
      [{ header := sampleHeader "first", stage := .done }, { header := sampleHeader "second", stage := .done }] := rfl
  rw [both] at at_
  match index, at_ with
  | 0, at_ => cases at_; exact ⟨by decide, rfl⟩
  | 1, at_ => cases at_; exact ⟨by decide, rfl⟩

def sampleDuring : Supervisor :=
  sampleSupervisor
    ([.deliver (sampleHeader "first")] ++ sampleAdvances 0 6 ++ [.deliver (sampleHeader "second")] ++ sampleAdvances 1 4 ++
      sampleAdvances 0 3 ++ sampleAdvances 1 5)

def sampleAfter : Supervisor :=
  sampleSupervisor
    ([.deliver (sampleHeader "first")] ++ sampleAdvances 0 9 ++ [.deliver (sampleHeader "second")] ++ sampleAdvances 1 3)

-- Redelivered while it executes, a command executes again. Redelivered when it is
-- done, it is only reported under the token it no longer has.
theorem sampleRedelivered :
    (Reachable agentProcess sampleDuring ∧ sampleDuring.deliveries.map Delivery.stage = [.done, .done] ∧
      sampleDuring.executions = [sampleHeader "second", sampleHeader "first"]) ∧
    (Reachable agentProcess sampleAfter ∧ sampleAfter.deliveries.map Delivery.stage = [.done, .done] ∧
      sampleAfter.posted.map AgentEvent.completionToken = ["first", "first"]) :=
  ⟨⟨sampleSupervisor_reachable _, rfl, rfl⟩, sampleSupervisor_reachable _, rfl, rfl⟩

end Yaaos.Agent
