import Yaaos.Base.CallGraph
import Yaaos.Base.Outcome
import Yaaos.Base.Table
import Yaaos.Pipelines.Definition

set_option autoImplicit false

namespace Yaaos.Pipelines

open Yaaos.Base

structure PipelineCallStage where
  id : Uuid
  pipelineId : Uuid

inductive Stage where
  | executable (stage : ExecutableStage)
  | call (stage : PipelineCallStage)

structure PipelineDefinition where
  id : Uuid
  name : String
  description : String
  stages : List Stage
  nonempty : stages ≠ []

abbrev OrgDefinitions := Table PipelineDefinition Uuid PipelineDefinition.id

inductive FlattenError where
  | callCycle (chain : List Uuid)
  | unknownPipeline (stageId pipelineId : Uuid)
  | duplicateName (name : String)
  | keyError (pipelineId : Uuid)
  | recursionError

def namesOf (stages : List ExecutableStage) : List String := stages.filterMap ExecutableStage.name?

structure Expansion where
  stages : List ExecutableStage
  seenNames : List String
  seen : seenNames = namesOf stages
  distinct : (namesOf stages).Nodup

def Expansion.empty : Expansion := { stages := [], seenNames := [], seen := rfl, distinct := List.nodup_nil }

def Expansion.addAction (done : Expansion) (stage : ExecutableStage) (unnamed : stage.name? = none) : Expansion where
  stages := done.stages ++ [stage]
  seenNames := done.seenNames
  seen := by simp [namesOf, unnamed, done.seen]
  distinct := by simpa [namesOf, unnamed] using done.distinct

def Expansion.addNamed (done : Expansion) (stage : ExecutableStage) (name : String) (named : stage.name? = some name)
    (fresh : name ∉ done.seenNames) : Expansion where
  stages := done.stages ++ [stage]
  seenNames := done.seenNames ++ [name]
  seen := by simp [namesOf, named, done.seen]
  distinct := by
    have grown : namesOf (done.stages ++ [stage]) = namesOf done.stages ++ [name] := by simp [namesOf, named]
    rw [done.seen] at fresh
    rw [grown, ← List.concat_eq_append]
    exact done.distinct.concat fresh

def Expansion.add (done : Expansion) (stage : ExecutableStage) : Except FlattenError Expansion :=
  match named : stage.name? with
  | none => .ok (done.addAction stage named)
  | some name =>
      if taken : name ∈ done.seenNames then .error (.duplicateName name)
      else .ok (done.addNamed stage name named taken)

def expandStages (callStage : PipelineCallStage → Expansion → Except FlattenError Expansion) :
    List Stage → Expansion → Except FlattenError Expansion
  | [], done => .ok done
  | .call stage :: rest, done => do
      let next ← callStage stage done
      expandStages callStage rest next
  | .executable stage :: rest, done => do
      let next ← done.add stage
      expandStages callStage rest next

def expandCallee (orgDefinitions : OrgDefinitions)
    (expandDefinition : PipelineDefinition → Expansion → Except FlattenError Expansion) (stage : PipelineCallStage)
    (done : Expansion) : Except FlattenError Expansion :=
  match orgDefinitions.find? stage.pipelineId with
  | none => .error (.unknownPipeline stage.id stage.pipelineId)
  | some callee => expandDefinition callee done

def expand (orgDefinitions : OrgDefinitions) :
    Nat → List Uuid → PipelineDefinition → Expansion → Except FlattenError Expansion
  | 0, _, _, _ => .error .recursionError
  | fuel + 1, chain, defn, done =>
      if defn.id ∈ chain then .error (.callCycle (chain ++ [defn.id]))
      else
        expandStages (expandCallee orgDefinitions (expand orgDefinitions fuel (chain ++ [defn.id]))) defn.stages done

-- A chain repeats no id, so this depth is never used up.
def flatten (definition : PipelineDefinition) (orgDefinitions : OrgDefinitions) :
    Except FlattenError Expansion :=
  expand orgDefinitions (orgDefinitions.rows.length + 2) [] definition .empty

def Stage.calls (target : Uuid) : Stage → Bool
  | .call stage => stage.pipelineId == target
  | .executable _ => false

def directCallers (definitions : OrgDefinitions) (target : Uuid) : List Uuid :=
  (definitions.rows.filter fun defn => defn.stages.any (Stage.calls target)).map PipelineDefinition.id

def transitiveCallers (pipelineId : Uuid) (definitions : OrgDefinitions) : List Uuid :=
  closure (directCallers definitions) (definitions.rows.length + 1) [pipelineId] []

def substitute (orgDefinitions : OrgDefinitions) (definition : PipelineDefinition) : OrgDefinitions :=
  match orgDefinitions.insert? definition with
  | some added => added
  | none => orgDefinitions.update (fun defn => decide (defn.id = definition.id))
      (fun defn => { definition with id := defn.id }) fun _ => rfl

def dryRun (candidates : OrgDefinitions) : List Uuid → Except FlattenError Unit
  | [] => .ok ()
  | pipelineId :: rest =>
      match candidates.find? pipelineId with
      | none => .error (.keyError pipelineId)
      | some defn => do
          let _ ← flatten defn candidates
          dryRun candidates rest

def validateDefinition (definition : PipelineDefinition) (orgDefinitions : OrgDefinitions) :
    Except FlattenError Unit :=
  let candidates := substitute orgDefinitions definition
  dryRun candidates (definition.id :: transitiveCallers definition.id candidates)

def Stage.view : Stage → ExecutableStage ⊕ Uuid
  | .executable stage => .inl stage
  | .call stage => .inr stage.pipelineId

def stagesOf (orgDefinitions : OrgDefinitions) (pipelineId : Uuid) : Option (List Stage) :=
  (orgDefinitions.find? pipelineId).map PipelineDefinition.stages

abbrev ExpandsTo (orgDefinitions : OrgDefinitions) (stages : List Stage) (flattened : List ExecutableStage) : Prop :=
  Unfolds Stage.view (stagesOf orgDefinitions) stages flattened

abbrev Includes (orgDefinitions : OrgDefinitions) (stages : List Stage) (pipelineId : Uuid) : Prop :=
  Reaches Stage.view (stagesOf orgDefinitions) stages pipelineId

def Flattens (orgDefinitions : OrgDefinitions) (stages : List Stage) : Prop :=
  ∃ flattened, ExpandsTo orgDefinitions stages flattened ∧ (namesOf flattened).Nodup

def Flattenable (orgDefinitions : OrgDefinitions) : Prop :=
  ∀ pipelineId defn, orgDefinitions.find? pipelineId = some defn → Flattens orgDefinitions defn.stages

theorem namesOf_append (left right : List ExecutableStage) : namesOf (left ++ right) = namesOf left ++ namesOf right :=
  List.filterMap_append

theorem add_stages (done : Expansion) (stage : ExecutableStage) :
    Ensures (done.add stage) fun next => next.stages = done.stages ++ [stage] := by
  rw [Expansion.add]
  split
  · exact ensures_ok _ _ rfl
  · split
    · exact ensures_error _ _
    · exact ensures_ok _ _ rfl

theorem add_completes (done : Expansion) (stage : ExecutableStage)
    (distinct : (namesOf (done.stages ++ [stage])).Nodup) :
    Completes (done.add stage) fun next => next.stages = done.stages ++ [stage] := by
  rw [Expansion.add]
  split
  · exact completes_ok _ _ rfl
  · rename_i name named
    have fresh : name ∉ done.seenNames := by
      rw [namesOf_append, List.nodup_append] at distinct
      intro taken
      rw [done.seen] at taken
      exact distinct.2.2 name taken name (by simp [namesOf, named]) rfl
    rw [dif_neg fresh]
    exact completes_ok _ _ rfl

variable (orgDefinitions : OrgDefinitions) (definition : PipelineDefinition) (pipelineId : Uuid)
  (definitions : OrgDefinitions) (defn : PipelineDefinition)

theorem expandStages_sound
    (callStage : PipelineCallStage → Expansion → Except FlattenError Expansion)
    (callee : ∀ stage done, Ensures (callStage stage done) fun next => ∃ inside inner,
      stagesOf orgDefinitions stage.pipelineId = some inside ∧ ExpandsTo orgDefinitions inside inner ∧
        next.stages = done.stages ++ inner) (stages : List Stage) (done : Expansion) :
    Ensures (expandStages callStage stages done) fun next => ∃ added,
      ExpandsTo orgDefinitions stages added ∧ next.stages = done.stages ++ added := by
  induction stages generalizing done with
  | nil => exact ensures_ok _ _ ⟨[], .nil, (List.append_nil _).symm⟩
  | cons stage rest ih =>
      cases stage with
      | executable stage =>
          rw [expandStages]
          refine ensures_bind _ _ _ _ (add_stages done stage) ?_
          intro next extended
          refine ensures_mono _ _ _ (ih next) ?_
          rintro last ⟨added, expanded, reached⟩
          refine ⟨stage :: added, .leaf _ rest stage added rfl expanded, ?_⟩
          rw [reached, extended, List.append_assoc, List.singleton_append]
      | call stage =>
          rw [expandStages]
          refine ensures_bind _ _ _ _ (callee stage done) ?_
          rintro next ⟨inside, inner, found, unfolded, extended⟩
          refine ensures_mono _ _ _ (ih next) ?_
          rintro last ⟨added, expanded, reached⟩
          refine ⟨inner ++ added, .call _ rest stage.pipelineId inside inner added rfl found unfolded expanded, ?_⟩
          rw [reached, extended, List.append_assoc]

theorem expand_sound (fuel : Nat) (chain : List Uuid) (defn : PipelineDefinition)
    (done : Expansion) :
    Ensures (expand orgDefinitions fuel chain defn done) fun next => ∃ added,
      ExpandsTo orgDefinitions defn.stages added ∧ next.stages = done.stages ++ added := by
  induction fuel generalizing chain defn done with
  | zero => exact ensures_error _ _
  | succ fuel ih =>
      rw [expand]
      by_cases cycle : defn.id ∈ chain
      · rw [if_pos cycle]
        exact ensures_error _ _
      · rw [if_neg cycle]
        apply expandStages_sound
        intro stage done
        rw [expandCallee]
        cases found : orgDefinitions.find? stage.pipelineId with
        | none => exact ensures_error _ _
        | some callee =>
            refine ensures_mono _ _ _ (ih (chain ++ [defn.id]) callee done) ?_
            rintro next ⟨inner, unfolded, extended⟩
            exact ⟨callee.stages, inner, by rw [stagesOf, found]; rfl, unfolded, extended⟩

theorem flatten_sound (orgDefinitions : OrgDefinitions) :
    Ensures (flatten definition orgDefinitions) fun flattened =>
      ExpandsTo orgDefinitions definition.stages flattened.stages := by
  refine ensures_mono _ _ _ (expand_sound orgDefinitions _ [] definition .empty) ?_
  rintro flattened ⟨added, expanded, reached⟩
  have same : flattened.stages = added := reached
  rw [same]
  exact expanded

theorem flatten_nonempty (orgDefinitions : OrgDefinitions) :
    Ensures (flatten definition orgDefinitions) fun flattened => flattened.stages ≠ [] := by
  refine ensures_mono _ _ _ (flatten_sound definition orgDefinitions) ?_
  intro flattened expanded
  apply unfolds_nonempty Stage.view (stagesOf orgDefinitions) _ definition.stages flattened.stages expanded definition.nonempty
  intro pipelineId inside found
  obtain ⟨defn, _, same⟩ := Option.map_eq_some_iff.mp found
  rw [← same]
  exact defn.nonempty

-- A chain names distinct pipelines, all but the first of them in the store, so
-- it leaves enough depth for one more call.
structure ChainFits (orgDefinitions : OrgDefinitions) (root : Uuid) (fuel : Nat) (chain : List Uuid) : Prop where
  unique : chain.Nodup
  known : ∀ pipelineId ∈ chain, pipelineId = root ∨ ∃ defn ∈ orgDefinitions.rows, defn.id = pipelineId
  deep : orgDefinitions.rows.length + 2 ≤ fuel + chain.length

theorem chainFits_positive (root : Uuid) (fuel : Nat) (chain : List Uuid)
    (fits : ChainFits orgDefinitions root fuel chain) : 0 < fuel := by
  have inside : chain ⊆ root :: orgDefinitions.rows.map PipelineDefinition.id := by
    intro pipelineId member
    rcases fits.known pipelineId member with same | ⟨defn, present, same⟩
    · rw [same]
      exact List.mem_cons_self
    · rw [← same]
      exact List.mem_cons_of_mem root (List.mem_map_of_mem present)
  have most := (List.Nodup.subperm fits.unique inside).length_le
  rw [List.length_cons, List.length_map] at most
  have deep := fits.deep
  omega

theorem chainFits_push (root : Uuid) (fuel : Nat) (chain : List Uuid)
    (pipelineId : Uuid) (fits : ChainFits orgDefinitions root (fuel + 1) chain) (fresh : pipelineId ∉ chain)
    (known : pipelineId = root ∨ ∃ defn ∈ orgDefinitions.rows, defn.id = pipelineId) :
    ChainFits orgDefinitions root fuel (chain ++ [pipelineId]) := by
  refine ⟨?_, ?_, ?_⟩
  · rw [← List.concat_eq_append]
    exact fits.unique.concat fresh
  · intro other member
    rcases List.mem_append.mp member with earlier | last
    · exact fits.known other earlier
    · rw [List.mem_singleton.mp last]
      exact known
  · have deep := fits.deep
    rw [List.length_append, List.length_singleton]
    omega

theorem expandStages_completes (root : Uuid) (stages : List Stage)
    (added : List ExecutableStage) (expanded : ExpandsTo orgDefinitions stages added) (fuel : Nat) (chain : List Uuid)
    (fits : ChainFits orgDefinitions root fuel chain)
    (outside : ∀ pipelineId, Includes orgDefinitions stages pipelineId → pipelineId ∉ chain) (done : Expansion)
    (distinct : (namesOf (done.stages ++ added)).Nodup) :
    Completes (expandStages (expandCallee orgDefinitions (expand orgDefinitions fuel chain)) stages done) fun next =>
      next.stages = done.stages ++ added := by
  induction expanded generalizing fuel chain done with
  | nil => exact completes_ok _ _ (List.append_nil _).symm
  | leaf item rest stage added seen tail ih =>
      cases item with
      | call target => cases seen
      | executable executableStage =>
          have same : executableStage = stage := Sum.inl.inj seen
          subst same
          rw [List.append_cons] at distinct
          have first : (namesOf (done.stages ++ [executableStage])).Nodup := by
            rw [namesOf_append] at distinct
            exact (List.nodup_append.mp distinct).1
          rw [expandStages, List.append_cons]
          refine completes_bind _ _ _ _ (add_completes done executableStage first) ?_
          intro next extended
          rw [← extended]
          apply ih fuel chain fits
          · intro pipelineId reached
            exact outside pipelineId (reaches_tail _ _ _ rest pipelineId reached)
          · rw [extended]
            exact distinct
  | call item rest pipelineId inside inner outer seen found callee tail ihCallee ihTail =>
      cases item with
      | executable executableStage => cases seen
      | call target =>
          have same : target.pipelineId = pipelineId := Sum.inr.inj seen
          have here : Includes orgDefinitions (.call target :: rest) pipelineId :=
            .direct _ _ pipelineId List.mem_cons_self seen
          have fresh := outside pipelineId here
          obtain ⟨defn, stored, body⟩ := Option.map_eq_some_iff.mp found
          obtain ⟨present, named⟩ := Table.find?_some orgDefinitions pipelineId defn stored
          rw [← List.append_assoc] at distinct
          have first : (namesOf (done.stages ++ inner)).Nodup := by
            rw [namesOf_append] at distinct
            exact (List.nodup_append.mp distinct).1
          obtain ⟨deeper, enough⟩ := Nat.exists_eq_succ_of_ne_zero
            (Nat.pos_iff_ne_zero.mp (chainFits_positive orgDefinitions root fuel chain fits))
          rw [expandStages, ← List.append_assoc]
          apply completes_bind _ _ (fun next => next.stages = done.stages ++ inner)
          · rw [expandCallee, same, stored, enough]
            simp only [expand]
            rw [named, if_neg fresh, body]
            rw [enough] at fits
            apply ihCallee deeper (chain ++ [pipelineId])
              (chainFits_push orgDefinitions root deeper chain pipelineId fits fresh (.inr ⟨defn, present, named⟩))
            · intro other reached member
              rcases List.mem_append.mp member with earlier | last
              · exact outside other (reaches_head _ _ _ rest pipelineId other inside seen found reached) earlier
              · rw [List.mem_singleton.mp last] at reached
                exact unfolds_acyclic Stage.view _ _ _ (.call _ rest pipelineId inside inner outer seen found callee tail)
                  pipelineId inside here found reached
            · exact first
          · intro next extended
            rw [← extended]
            apply ihTail fuel chain fits
            · intro other reached
              exact outside other (reaches_tail _ _ _ rest other reached)
            · rw [extended]
              exact distinct

theorem flatten_completes (orgDefinitions : OrgDefinitions)
    (flattens : Flattens orgDefinitions definition.stages)
    (noReturn : ¬ Includes orgDefinitions definition.stages definition.id) :
    Completes (flatten definition orgDefinitions) fun flattened =>
      ExpandsTo orgDefinitions definition.stages flattened.stages := by
  obtain ⟨added, expanded, distinct⟩ := flattens
  have fits : ChainFits orgDefinitions definition.id (orgDefinitions.rows.length + 1) [definition.id] :=
    ⟨List.nodup_singleton _, fun _ member => .inl (List.mem_singleton.mp member), by simp⟩
  have completed := expandStages_completes orgDefinitions definition.id definition.stages added expanded _ _ fits
    (fun pipelineId reached member => noReturn (List.mem_singleton.mp member ▸ reached)) .empty distinct
  refine completes_mono _ _ _ completed ?_
  intro flattened same
  rw [same]
  exact expanded

theorem stagesOf_some (stages : List Stage)
    (found : stagesOf orgDefinitions pipelineId = some stages) :
    ∃ defn, orgDefinitions.find? pipelineId = some defn ∧ defn.stages = stages :=
  Option.map_eq_some_iff.mp found

theorem stagesOf_find
    (found : orgDefinitions.find? pipelineId = some defn) : stagesOf orgDefinitions pipelineId = some defn.stages := by
  rw [stagesOf, found, Option.map_some]

theorem flattenable_noReturn (flattenable : Flattenable orgDefinitions)
    (pipelineId target : Uuid) (defn callee : PipelineDefinition)
    (found : orgDefinitions.find? pipelineId = some defn) (calleeFound : orgDefinitions.find? target = some callee)
    (included : Includes orgDefinitions defn.stages target) : ¬ Includes orgDefinitions callee.stages target := by
  obtain ⟨added, expanded, _⟩ := flattenable pipelineId defn found
  exact unfolds_acyclic Stage.view _ _ _ expanded target callee.stages included
    (stagesOf_find orgDefinitions target callee calleeFound)

theorem flattenable_flattens (flattenable : Flattenable orgDefinitions)
    (pipelineId : Uuid) (defn : PipelineDefinition) (found : orgDefinitions.find? pipelineId = some defn) :
    Completes (flatten defn orgDefinitions) fun flattened =>
      ExpandsTo orgDefinitions defn.stages flattened.stages := by
  apply flatten_completes defn orgDefinitions (flattenable pipelineId defn found)
  intro included
  have named : defn.id = pipelineId := (Table.find?_some orgDefinitions pipelineId defn found).2
  rw [named] at included
  exact flattenable_noReturn orgDefinitions flattenable pipelineId pipelineId defn defn found found included included

theorem substitute_find? :
    (substitute orgDefinitions definition).find? pipelineId =
      if definition.id = pipelineId then some definition else orgDefinitions.find? pipelineId := by
  rw [substitute]
  cases inserted : orgDefinitions.insert? definition with
  | some added =>
      simp only
      rw [Table.find?_insert orgDefinitions added definition pipelineId inserted]
      by_cases same : definition.id = pipelineId
      · have absent : orgDefinitions.find? pipelineId = none := by
          rw [Table.find?_isNone, ← same]
          exact (Table.insert?_some orgDefinitions added definition inserted).2
        rw [absent, Option.none_or]
      · rw [if_neg same, if_neg same, Option.or_none]
  | none =>
      simp only
      rw [Table.find?_update]
      cases found : orgDefinitions.find? pipelineId with
      | none =>
          by_cases same : definition.id = pipelineId
          · have fresh : definition.id ∉ orgDefinitions.rows.map PipelineDefinition.id := by
              rw [same]
              intro taken
              obtain ⟨defn, present, named⟩ := List.mem_map.mp taken
              exact (Table.find?_isNone orgDefinitions pipelineId).mp found defn present named
            rw [Table.insert?, dif_neg fresh] at inserted
            cases inserted
          · rw [if_neg same, Option.map_none]
      | some defn =>
          have named : defn.id = pipelineId := (Table.find?_some orgDefinitions pipelineId defn found).2
          rw [Option.map_some, named]
          by_cases same : definition.id = pipelineId
          · rw [if_pos same, if_pos (by simp [same]), ← same]
          · have other : ¬ pipelineId = definition.id := fun back => same back.symm
            simp [same, other]

theorem dryRun_flattens (candidates : OrgDefinitions) (pipelineIds : List Uuid) :
    Ensures (dryRun candidates pipelineIds) fun _ => ∀ pipelineId ∈ pipelineIds, ∀ defn,
      candidates.find? pipelineId = some defn → Flattens candidates defn.stages := by
  induction pipelineIds with
  | nil => exact ensures_ok _ _ fun _ member => (by cases member)
  | cons first rest ih =>
      rw [dryRun]
      cases found : candidates.find? first with
      | none => exact ensures_error _ _
      | some defn =>
          refine ensures_bind _ _ _ _ (flatten_sound defn candidates) ?_
          intro flattened expanded
          refine ensures_mono _ _ _ ih ?_
          intro _ later pipelineId member other otherFound
          rcases List.mem_cons.mp member with same | deeper
          · rw [same, found] at otherFound
            rw [← Option.some.inj otherFound]
            exact ⟨flattened.stages, expanded, flattened.distinct⟩
          · exact later pipelineId deeper other otherFound

theorem calls_view (stage : Stage) (target : Uuid) : stage.calls target = true ↔ stage.view = .inr target := by
  cases stage with
  | executable executableStage => simp [Stage.calls, Stage.view]
  | call callStage => simp [Stage.calls, Stage.view]

theorem directCallers_mem (stage : Stage) (target : Uuid)
    (present : defn ∈ definitions.rows) (member : stage ∈ defn.stages) (calls : stage.view = .inr target) :
    defn.id ∈ directCallers definitions target := by
  apply List.mem_map_of_mem
  rw [List.mem_filter]
  exact ⟨present, List.any_eq_true.mpr ⟨stage, member, (calls_view stage target).mpr calls⟩⟩

theorem transitiveCallers_closed (target caller : Uuid)
    (called : target = pipelineId ∨ target ∈ transitiveCallers pipelineId definitions)
    (direct : caller ∈ directCallers definitions target) : caller ∈ transitiveCallers pipelineId definitions := by
  have inside (key next : Uuid) (member : next ∈ directCallers definitions key) :
      next ∈ definitions.rows.map PipelineDefinition.id := by
    obtain ⟨defn, kept, same⟩ := List.mem_map.mp member
    exact List.mem_map.mpr ⟨defn, (List.mem_filter.mp kept).1, same⟩
  have closed := closure_closed (directCallers definitions) (definitions.rows.map PipelineDefinition.id) [pipelineId]
    inside (definitions.rows.length + 1) [pipelineId] [] List.nodup_nil (List.nil_subset _) (.inr (by simp))
    fun key member => member.elim .inl fun none_ => (by cases none_)
  exact closed.1 target (called.imp_left List.mem_singleton.mpr) caller direct

theorem transitiveCallers_includes
    (present : defn ∈ definitions.rows) (included : Includes definitions defn.stages pipelineId) :
    defn.id ∈ transitiveCallers pipelineId definitions := by
  have first (stages : List Stage) (target : Uuid) (reached : Includes definitions stages target)
      (same : target = pipelineId) : ∃ stage ∈ stages, ∃ called, stage.view = .inr called ∧
        (called = pipelineId ∨ called ∈ transitiveCallers pipelineId definitions) := by
    induction reached with
    | direct items item key member seen => exact ⟨item, member, key, seen, .inl same⟩
    | through items item via inside key member seen found _ ih =>
        obtain ⟨inner, innerMember, called, calls, known⟩ := ih same
        obtain ⟨callee, calleeFound, body⟩ := stagesOf_some definitions via inside found
        obtain ⟨calleePresent, named⟩ := Table.find?_some definitions via callee calleeFound
        rw [← body] at innerMember
        have direct := directCallers_mem definitions callee inner called calleePresent innerMember calls
        rw [named] at direct
        exact ⟨item, member, via, seen, .inr (transitiveCallers_closed pipelineId definitions called via known direct)⟩
  obtain ⟨stage, member, called, calls, known⟩ := first defn.stages pipelineId included rfl
  exact transitiveCallers_closed pipelineId definitions called defn.id known
    (directCallers_mem definitions defn stage called present member calls)

theorem validateDefinition_flattenable (orgDefinitions : OrgDefinitions)
    (flattenable : Flattenable orgDefinitions) :
    Ensures (validateDefinition definition orgDefinitions) fun _ =>
      Flattenable (substitute orgDefinitions definition) := by
  refine ensures_mono _ _ _ (dryRun_flattens _ _) ?_
  intro _ checked pipelineId defn found
  by_cases revalidated : pipelineId ∈ definition.id :: transitiveCallers definition.id (substitute orgDefinitions definition)
  · exact checked pipelineId revalidated defn found
  · obtain ⟨present, named⟩ := Table.find?_some _ pipelineId defn found
    rw [← named, List.mem_cons, not_or] at revalidated
    obtain ⟨unedited, apart⟩ := revalidated
    have before : orgDefinitions.find? pipelineId = some defn := by
      rw [substitute_find?, if_neg fun same => unedited (named.trans same.symm)] at found
      exact found
    have agree (other : Uuid) (different : other ≠ definition.id) :
        stagesOf (substitute orgDefinitions definition) other = stagesOf orgDefinitions other := by
      rw [stagesOf, stagesOf, substitute_find?, if_neg different.symm]
    obtain ⟨added, expanded, distinct⟩ := flattenable pipelineId defn before
    refine ⟨added, ?_, distinct⟩
    apply unfolds_agree Stage.view _ _ _ _ expanded
    intro other included
    apply agree
    intro same
    rw [same] at included
    exact apart (transitiveCallers_includes definition.id _ defn present
      (reaches_agree Stage.view _ _ defn.stages definition.id agree included))

theorem delete_flattenable
    (flattenable : Flattenable orgDefinitions)
    (uncalled : ∀ defn ∈ orgDefinitions.rows, defn.id ≠ pipelineId → ∀ stage ∈ defn.stages, stage.calls pipelineId = false) :
    Flattenable (orgDefinitions.delete fun defn => decide (defn.id = pipelineId)) := by
  intro other defn found
  rw [Table.find?_delete] at found
  by_cases deleted : other = pipelineId
  · rw [if_pos deleted] at found
    cases found
  · rw [if_neg deleted] at found
    obtain ⟨added, expanded, distinct⟩ := flattenable other defn found
    refine ⟨added, ?_, distinct⟩
    apply unfolds_agree Stage.view _ _ _ _ expanded
    intro target included
    rw [stagesOf, stagesOf, Table.find?_delete, if_neg]
    intro same
    rw [same] at included
    have quiet (via : Uuid) (caller : PipelineDefinition) (callerFound : orgDefinitions.find? via = some caller)
        (different : via ≠ pipelineId) (stage : Stage) (member : stage ∈ caller.stages) :
        stage.view ≠ .inr pipelineId := by
      obtain ⟨present, named⟩ := Table.find?_some orgDefinitions via caller callerFound
      rw [← named] at different
      intro calls
      have silent := uncalled caller present different stage member
      rw [(calls_view stage pipelineId).mpr calls] at silent
      cases silent
    rcases reaches_last Stage.view _ defn.stages pipelineId included with ⟨stage, member, calls⟩ | ⟨via, different, last⟩
    · exact quiet other defn found deleted stage member calls
    · obtain ⟨inside, body, stage, member, calls⟩ := last
      obtain ⟨caller, callerFound, named⟩ := stagesOf_some orgDefinitions via inside body
      rw [← named] at member
      exact quiet via caller callerFound different stage member calls

theorem flattenable_same (left right : OrgDefinitions) (same : ∀ pipelineId, left.find? pipelineId = right.find? pipelineId)
    (flattenable : Flattenable left) : Flattenable right := by
  intro pipelineId defn found
  rw [← same] at found
  obtain ⟨added, expanded, distinct⟩ := flattenable pipelineId defn found
  refine ⟨added, ?_, distinct⟩
  apply unfolds_agree Stage.view _ _ _ _ expanded
  intro other _
  rw [stagesOf, stagesOf, same]

end Yaaos.Pipelines
