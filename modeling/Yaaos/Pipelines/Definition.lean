import Yaaos.Base.Json

set_option autoImplicit false

namespace Yaaos.Pipelines

open Yaaos.Base

inductive BoundaryMode where
  | alwaysHitl
  | alwaysProceed
  | conditional
  deriving DecidableEq

inductive Confidence where
  | low
  | medium
  | high
  deriving DecidableEq

structure BoundaryControl where
  mode : BoundaryMode
  onBlockerResiduals : Bool
  onShouldFixResiduals : Bool
  onNitResiduals : Bool
  onProtectedCode : Bool
  onConfidenceBelow : Option Confidence
  offered : onConfidenceBelow ≠ some .low

structure ReviewConfig where
  skillName : String
  maxIterations : Nat
  atLeastOne : 1 ≤ maxIterations
  atMostThree : maxIterations ≤ 3

structure SkillStage where
  name : String
  skillName : String
  codingAgentPluginId : String
  model : String
  effort : String
  review : Option ReviewConfig
  contextStages : Option (List String)
  wallclockSeconds : Int
  boundary : BoundaryControl

structure ReviewSkillStage where
  name : String
  skillName : String
  codingAgentPluginId : String
  model : String
  effort : String
  contextStages : Option (List String)
  wallclockSeconds : Int
  boundary : BoundaryControl

structure ActionStage where
  actionId : String

inductive ExecutableStage where
  | skill (stage : SkillStage)
  | review (stage : ReviewSkillStage)
  | action (stage : ActionStage)

def ExecutableStage.name? : ExecutableStage → Option String
  | .skill stage => some stage.name
  | .review stage => some stage.name
  | .action _ => none

def ExecutableStage.isAction : ExecutableStage → Bool
  | .action _ => true
  | _ => false

structure FlattenedDefinition where
  stages : List ExecutableStage
  nonempty : stages ≠ []
  distinct : (stages.filterMap ExecutableStage.name?).Nodup

structure BoundaryStage where
  contextStages : Option (List String)
  boundary : BoundaryControl

def SkillStage.settles (stage : SkillStage) : BoundaryStage :=
  { contextStages := stage.contextStages, boundary := stage.boundary }

def ReviewSkillStage.settles (stage : ReviewSkillStage) : BoundaryStage :=
  { contextStages := stage.contextStages, boundary := stage.boundary }

def ExecutableStage.settles? : ExecutableStage → Option BoundaryStage
  | .skill stage => some stage.settles
  | .review stage => some stage.settles
  | .action _ => none

def findSkillStage (targetName : String) : Nat → List ExecutableStage → Option (Nat × SkillStage)
  | _, [] => none
  | index, .skill stage :: rest =>
      if stage.name = targetName then some (index, stage) else findSkillStage targetName (index + 1) rest
  | index, _ :: rest => findSkillStage targetName (index + 1) rest

def resolveSendBackTarget (flattened : FlattenedDefinition) (stage : BoundaryStage) (beforeIndex : Nat)
    (targetName : String) : Option (Nat × SkillStage) :=
  match findSkillStage targetName 0 (flattened.stages.take beforeIndex) with
  | none => none
  | some found =>
      match stage.contextStages with
      | some shown => if shown.contains targetName then some found else none
      | none => some found

theorem findSkillStage_some (targetName : String) (stages : List ExecutableStage) (start index : Nat)
    (stage : SkillStage) (found : findSkillStage targetName start stages = some (index, stage)) :
    start ≤ index ∧ stages[index - start]? = some (.skill stage) ∧ stage.name = targetName := by
  induction stages generalizing start with
  | nil => cases found
  | cons first rest ih =>
      have later (tail : findSkillStage targetName (start + 1) rest = some (index, stage)) :
          start ≤ index ∧ (first :: rest)[index - start]? = some (.skill stage) ∧ stage.name = targetName := by
        obtain ⟨bound, member, named⟩ := ih (start + 1) tail
        have shift : index - start = index - (start + 1) + 1 := by omega
        rw [shift, List.getElem?_cons_succ]
        exact ⟨by omega, member, named⟩
      cases first with
      | skill candidate =>
          by_cases same : candidate.name = targetName
          · rw [findSkillStage, if_pos same] at found
            obtain ⟨rfl, rfl⟩ := Prod.mk.inj (Option.some.inj found)
            simp [same]
          · rw [findSkillStage, if_neg same] at found
            exact later found
      | review candidate => exact later found
      | action candidate => exact later found

theorem resolveSendBackTarget_some (flattened : FlattenedDefinition) (stage : BoundaryStage) (beforeIndex : Nat)
    (targetName : String) (index : Nat) (target : SkillStage)
    (resolved : resolveSendBackTarget flattened stage beforeIndex targetName = some (index, target)) :
    index < beforeIndex ∧ flattened.stages[index]? = some (.skill target) ∧ target.name = targetName := by
  cases found : findSkillStage targetName 0 (flattened.stages.take beforeIndex) with
  | none =>
      rw [resolveSendBackTarget, found] at resolved
      cases resolved
  | some pair =>
      have same : pair = (index, target) := by
        rw [resolveSendBackTarget, found] at resolved
        cases shown : stage.contextStages with
        | none => simpa [shown] using resolved
        | some names =>
            have kept : targetName ∈ names ∧ pair = (index, target) := by simpa [shown] using resolved
            exact kept.2
      rw [same] at found
      obtain ⟨_, member, named⟩ := findSkillStage_some targetName _ 0 index target found
      rw [Nat.sub_zero] at member
      have bound : index < (flattened.stages.take beforeIndex).length := by
        obtain ⟨inside, _⟩ := List.getElem?_eq_some_iff.mp member
        exact inside
      rw [List.length_take] at bound
      rw [List.getElem?_take_of_lt (by omega)] at member
      exact ⟨by omega, member, named⟩

end Yaaos.Pipelines
