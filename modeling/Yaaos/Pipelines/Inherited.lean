import Yaaos.Pipelines.Service

set_option autoImplicit false

namespace Yaaos.Pipelines

open Yaaos.Base

section Walks

def SkillAt (flattened : FlattenedDefinition) (index : Nat) (stage : SkillStage) : Prop :=
  flattened.stages[index]? = some (.skill stage)

def SkillBefore (flattened : FlattenedDefinition) (fromIndex : Nat) : Prop :=
  ∃ index < fromIndex, ∃ stage, SkillAt flattened index stage

def finalOf (session : Session) (stageName : String) : Option Artifact :=
  latestFinal session.db session.run.orgId session.run.ticketId stageName

def FallsBack (session : Session) (fromIndex : Nat) : Prop :=
  ∀ kickoff, resolveStageInput session fromIndex kickoff = kickoff.inputText.getD ""

structure Inherits (session : Session) (fromIndex index : Nat) (final : Artifact) : Prop where
  before : index < fromIndex
  found : ∃ stage, SkillAt session.run.definitionSnapshot index stage ∧ finalOf session stage.name = some final
  nearest : ∀ between, index < between → between < fromIndex → ∀ other,
    SkillAt session.run.definitionSnapshot between other → finalOf session other.name = none
  resolves : ∀ kickoff, resolveStageInput session fromIndex kickoff = final.body

structure LaterInput (session later : Session) : Prop where
  definition : later.run.definitionSnapshot = session.run.definitionSnapshot
  orgId : later.run.orgId = session.run.orgId
  ticketId : later.run.ticketId = session.run.ticketId
  kept : ∀ artifact ∈ session.db.artifacts, artifact.isFinal = true → artifact ∈ later.db.artifacts

def inherited (session : Session) (stage : ExecutableStage) : Option String := match stage with
  | .skill prior => (finalOf session prior.name).map Artifact.body
  | _ => none

theorem mem_take (flattened : FlattenedDefinition) (fromIndex : Nat) (stage : ExecutableStage) :
    stage ∈ flattened.stages.take fromIndex ↔ ∃ index < fromIndex, flattened.stages[index]? = some stage := by
  rw [List.mem_iff_getElem?]
  constructor
  · rintro ⟨index, found⟩
    rw [List.getElem?_take] at found
    by_cases before : index < fromIndex
    · rw [if_pos before] at found
      exact ⟨index, before, found⟩
    · rw [if_neg before] at found
      cases found
  · rintro ⟨index, before, found⟩
    exact ⟨index, by rw [List.getElem?_take, if_pos before, found]⟩

theorem mem_skillNames (flattened : FlattenedDefinition) (fromIndex : Nat) (name : String) :
    name ∈ skillNames (flattened.stages.take fromIndex).reverse ↔
      ∃ index < fromIndex, ∃ stage, SkillAt flattened index stage ∧ stage.name = name := by
  unfold skillNames
  rw [List.mem_filterMap]
  constructor
  · rintro ⟨stage, member, named⟩
    obtain ⟨index, before, found⟩ := (mem_take flattened fromIndex stage).mp (List.mem_reverse.mp member)
    cases stage with
    | skill prior =>
        cases named
        exact ⟨index, before, prior, found, rfl⟩
    | review _ => cases named
    | action _ => cases named
  · rintro ⟨index, before, stage, found, named⟩
    refine ⟨.skill stage, List.mem_reverse.mpr ((mem_take flattened fromIndex _).mpr ⟨index, before, found⟩), ?_⟩
    exact congrArg some named

variable (session : Session) (fromIndex : Nat)

def upstream : Option String :=
  (session.run.definitionSnapshot.stages.take fromIndex).reverse.findSome? (inherited session)

theorem resolveStageInput_upstream (kickoff : Kickoff) :
    resolveStageInput session fromIndex kickoff = (upstream session fromIndex).getD (kickoff.inputText.getD "") := rfl

theorem upstream_none :
    upstream session fromIndex = none ↔
      ∀ index < fromIndex, ∀ stage, SkillAt session.run.definitionSnapshot index stage → finalOf session stage.name = none := by
  unfold upstream
  rw [List.findSome?_eq_none_iff]
  constructor
  · intro absent index before stage found
    have member := List.mem_reverse.mpr ((mem_take _ fromIndex _).mpr ⟨index, before, found⟩)
    exact Option.map_eq_none_iff.mp (absent _ member)
  · intro absent stage member
    obtain ⟨index, before, found⟩ := (mem_take _ fromIndex stage).mp (List.mem_reverse.mp member)
    cases stage with
    | skill prior => exact Option.map_eq_none_iff.mpr (absent index before prior found)
    | review _ => rfl
    | action _ => rfl

theorem fallsBack_iff : FallsBack session fromIndex ↔ upstream session fromIndex = none := by
  constructor
  · intro falls
    cases found : upstream session fromIndex with
    | none => rfl
    | some body =>
        have told (text : String) : body = text := by
          have same := falls { session.run.kickoff with inputText := some text }
          rw [resolveStageInput_upstream, found] at same
          exact same
        exact absurd ((told "").symm.trans (told "x")) (by decide)
  · intro absent kickoff
    rw [resolveStageInput_upstream, absent]
    rfl

theorem upstream_inherits (body : String) (found : upstream session fromIndex = some body) :
    ∃ index final, Inherits session fromIndex index final := by
  obtain ⟨near, stage, far, whole, here, absent⟩ := List.findSome?_eq_some_iff.mp found
  have forward : session.run.definitionSnapshot.stages.take fromIndex = far.reverse ++ stage :: near.reverse := by
    have turned := congrArg List.reverse whole
    rw [List.reverse_reverse] at turned
    rw [turned]
    simp
  have placed (index : Nat) (before : index < fromIndex) :
      session.run.definitionSnapshot.stages[index]? = (far.reverse ++ stage :: near.reverse)[index]? := by
    rw [← forward, List.getElem?_take, if_pos before]
  have short : far.length < fromIndex := by
    have counted := congrArg List.length forward
    rw [List.length_take, List.length_append, List.length_cons, List.length_reverse, List.length_reverse] at counted
    omega
  cases stage with
  | review _ => cases here
  | action _ => cases here
  | skill prior =>
      obtain ⟨final, stored, same⟩ := Option.map_eq_some_iff.mp here
      refine ⟨far.length, final, short, ⟨prior, ?_, stored⟩, ?_, ?_⟩
      · unfold SkillAt
        rw [placed _ short, List.getElem?_append_right (by rw [List.length_reverse]), List.length_reverse, Nat.sub_self]
        rfl
      · intro between after before other found
        unfold SkillAt at found
        rw [placed _ before, List.getElem?_append_right (by rw [List.length_reverse]; omega), List.length_reverse] at found
        obtain ⟨offset, shift⟩ : ∃ offset, between - far.length = offset + 1 := ⟨between - far.length - 1, by omega⟩
        rw [shift, List.getElem?_cons_succ] at found
        have member := List.mem_reverse.mp (List.mem_of_getElem? found)
        exact Option.map_eq_none_iff.mp (absent _ member)
      · intro kickoff
        rw [resolveStageInput_upstream, found, ← same]
        rfl

theorem upstream_isSome (index : Nat) (stage : SkillStage) (before : index < fromIndex)
    (found : SkillAt session.run.definitionSnapshot index stage) (final : Artifact)
    (stored : finalOf session stage.name = some final) : ∃ body, upstream session fromIndex = some body := by
  cases walked : upstream session fromIndex with
  | some body => exact ⟨body, rfl⟩
  | none =>
      have absent := (upstream_none session fromIndex).mp walked index before stage found
      rw [stored] at absent
      cases absent

def precheck : Except EngineError Unit :=
  nearestUpstreamSkillStageResolvable session.db session.run.definitionSnapshot session.run.orgId session.run.ticketId fromIndex

theorem precheck_ok :
    precheck session fromIndex = .ok () ↔
      (SkillBefore session.run.definitionSnapshot fromIndex → ∃ body, upstream session fromIndex = some body) := by
  have names := mem_skillNames session.run.definitionSnapshot fromIndex
  unfold precheck nearestUpstreamSkillStageResolvable
  cases listed : skillNames (session.run.definitionSnapshot.stages.take fromIndex).reverse with
  | nil =>
      refine iff_of_true rfl ?_
      rintro ⟨index, before, stage, found⟩
      have member := (names stage.name).mpr ⟨index, before, stage, found, rfl⟩
      rw [listed] at member
      cases member
  | cons nearest others =>
      have some_ : SkillBefore session.run.definitionSnapshot fromIndex := by
        obtain ⟨index, before, stage, found, _⟩ := (names nearest).mp (by rw [listed]; exact List.mem_cons_self)
        exact ⟨index, before, stage, found⟩
      rw [imp_iff_right some_]
      dsimp only
      rw [← listed]
      by_cases resolves : (skillNames (session.run.definitionSnapshot.stages.take fromIndex).reverse).any
          fun name => (latestFinal session.db session.run.orgId session.run.ticketId name).isSome
      · rw [if_pos resolves]
        refine iff_of_true rfl ?_
        obtain ⟨name, member, stored⟩ := List.any_eq_true.mp resolves
        obtain ⟨index, before, stage, found, rfl⟩ := (names name).mp member
        obtain ⟨final, same⟩ := Option.isSome_iff_exists.mp stored
        exact upstream_isSome session fromIndex index stage before found final same
      · rw [if_neg resolves]
        apply iff_of_false nofun
        rintro ⟨body, walked⟩
        obtain ⟨index, final, inherits⟩ := upstream_inherits session fromIndex body walked
        obtain ⟨stage, found, stored⟩ := inherits.found
        apply resolves
        apply List.any_eq_true.mpr
        refine ⟨stage.name, (names stage.name).mpr ⟨index, inherits.before, stage, found, rfl⟩, ?_⟩
        exact Option.isSome_iff_exists.mpr ⟨final, stored⟩

theorem precheck_error (error : EngineError) (refused : precheck session fromIndex = .error error) :
    ∃ name, error = .missingInheritedArtifact name := by
  unfold precheck nearestUpstreamSkillStageResolvable at refused
  split at refused
  · cases refused
  · next nearest others _ =>
      split at refused
      · cases refused
      · cases refused
        exact ⟨nearest, rfl⟩

end Walks

theorem finalOf_later (session later : Session) (follows : LaterInput session later) (stageName : String) (final : Artifact)
    (stored : finalOf session stageName = some final) : ∃ newer, finalOf later stageName = some newer := by
  have member := List.argmax_mem stored
  rw [List.mem_filter] at member
  obtain ⟨present, own⟩ := member
  have isFinal : final.isFinal = true := by
    rw [Bool.and_eq_true] at own
    exact own.2
  have kept := follows.kept final present isFinal
  cases newer : finalOf later stageName with
  | some artifact => exact ⟨artifact, rfl⟩
  | none =>
      have empty := List.argmax_eq_none.mp newer
      have inside : final ∈ later.db.artifacts.filter fun row =>
          row.orgId == later.run.orgId && row.ticketId == later.run.ticketId && row.stageName == stageName && row.isFinal := by
        rw [List.mem_filter, follows.orgId, follows.ticketId]
        exact ⟨kept, own⟩
      rw [empty] at inside
      cases inside

theorem inherits_later (session later : Session) (fromIndex index : Nat) (final : Artifact)
    (inherits : Inherits session fromIndex index final) (follows : LaterInput session later) :
    ∃ nearer newer, index ≤ nearer ∧ Inherits later fromIndex nearer newer := by
  obtain ⟨stage, found, stored⟩ := inherits.found
  obtain ⟨newer, again⟩ := finalOf_later session later follows stage.name final stored
  have same : SkillAt later.run.definitionSnapshot index stage := by
    rw [follows.definition]
    exact found
  obtain ⟨body, walked⟩ := upstream_isSome later fromIndex index stage inherits.before same newer again
  obtain ⟨nearer, latest, mine⟩ := upstream_inherits later fromIndex body walked
  refine ⟨nearer, latest, ?_, mine⟩
  by_contra farther
  have absent := mine.nearest index (by omega) inherits.before stage same
  rw [again] at absent
  cases absent

-- The precheck refuses exactly where a skill stage precedes and the stage would fall back
-- to the kickoff. Where it passes behind a skill stage, the stage gets the artifact of the
-- nearest one that has any, in this session and in every later one.
theorem precheck_agrees (session : Session) (fromIndex : Nat) :
    ((∃ name, precheck session fromIndex = .error (.missingInheritedArtifact name)) ↔
        SkillBefore session.run.definitionSnapshot fromIndex ∧ FallsBack session fromIndex) ∧
      (∀ error, precheck session fromIndex = .error error → ∃ name, error = .missingInheritedArtifact name) ∧
      (precheck session fromIndex = .ok () → SkillBefore session.run.definitionSnapshot fromIndex →
        ∃ index final, Inherits session fromIndex index final ∧
          ∀ later, LaterInput session later → ∃ nearer newer, index ≤ nearer ∧ Inherits later fromIndex nearer newer) := by
  refine ⟨?_, precheck_error session fromIndex, ?_⟩
  · rw [fallsBack_iff]
    constructor
    · rintro ⟨name, refused⟩
      have notOk : ¬ precheck session fromIndex = .ok () := by
        rw [refused]
        exact nofun
      rw [precheck_ok, Classical.not_imp] at notOk
      refine ⟨notOk.1, ?_⟩
      cases walked : upstream session fromIndex with
      | none => rfl
      | some body => exact absurd ⟨body, walked⟩ notOk.2
    · rintro ⟨some_, absent⟩
      cases checked : precheck session fromIndex with
      | error error =>
          obtain ⟨name, rfl⟩ := precheck_error session fromIndex error checked
          exact ⟨name, rfl⟩
      | ok _ =>
          obtain ⟨body, walked⟩ := (precheck_ok session fromIndex).mp checked some_
          rw [absent] at walked
          cases walked
  · intro checked some_
    obtain ⟨body, walked⟩ := (precheck_ok session fromIndex).mp checked some_
    obtain ⟨index, final, inherits⟩ := upstream_inherits session fromIndex body walked
    exact ⟨index, final, inherits, fun later follows => inherits_later session later fromIndex index final inherits follows⟩

end Yaaos.Pipelines
