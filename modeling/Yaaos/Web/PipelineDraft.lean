import Mathlib.Data.List.Basic

set_option autoImplicit false

namespace Yaaos.Web

inductive BoundaryMode where
  | alwaysHitl
  | alwaysProceed
  | conditional
  deriving DecidableEq

inductive ConfidenceBelow where
  | medium
  | high
  deriving DecidableEq

structure BoundaryDraft where
  mode : BoundaryMode
  onBlockerResiduals : Bool
  onShouldFixResiduals : Bool
  onNitResiduals : Bool
  onProtectedCode : Bool
  onConfidenceBelow : Option ConfidenceBelow
  deriving DecidableEq

structure Invocation where
  name : String
  skillName : String
  codingAgentPluginId : String
  model : String
  effort : String
  wallclockSeconds : Int
  boundary : BoundaryDraft
  deriving DecidableEq

inductive DraftKind where
  | skill (invocation : Invocation) (contextAllUpstream : Bool) (contextStages : List String) (reviewEnabled : Bool)
      (reviewSkillName : String) (reviewMaxIterations : Int)
  | review (invocation : Invocation) (contextAllUpstream : Bool) (contextStages : List String)
  | action (actionId : String)
  | call (pipelineId : String)
  deriving DecidableEq

structure StageDraft where
  key : String
  id : Option String
  description : String
  kind : DraftKind
  deriving DecidableEq

structure PipelineDraft where
  id : Option String
  name : String
  description : String
  stages : List StageDraft
  deriving DecidableEq

structure ReviewConfig where
  skillName : String
  maxIterations : Int
  deriving DecidableEq

inductive StageKind where
  | skill (invocation : Invocation) (contextStages : Option (List String)) (review : Option ReviewConfig)
  | review (invocation : Invocation) (contextStages : Option (List String))
  | action (actionId : String)
  | call (pipelineId : String)
  deriving DecidableEq

structure WireStage where
  id : Option String
  description : String
  kind : StageKind
  deriving DecidableEq

-- The body of a PUT. Two bodies are equal exactly when their JSON texts are.
structure PipelineDefinitionBody where
  id : Option String
  name : String
  description : String
  stages : List WireStage
  deriving DecidableEq

structure StageView where
  id : String
  description : String
  kind : StageKind
  deriving DecidableEq

structure PipelineDetailView where
  id : String
  name : String
  description : String
  stages : List StageView
  deriving DecidableEq

def kindToDraft : StageKind → DraftKind
  | .skill invocation contextStages review =>
      .skill invocation contextStages.isNone (contextStages.getD []) review.isSome
        (review.elim "" ReviewConfig.skillName) (review.elim 1 ReviewConfig.maxIterations)
  | .review invocation contextStages => .review invocation contextStages.isNone (contextStages.getD [])
  | .action actionId => .action actionId
  | .call pipelineId => .call pipelineId

def stageToDraft (newKey : String → String) (stage : StageView) : StageDraft :=
  { key := newKey stage.id, id := some stage.id, description := stage.description, kind := kindToDraft stage.kind }

def detailToDraft (newKey : String → String) (detail : PipelineDetailView) : PipelineDraft where
  id := some detail.id
  name := detail.name
  description := detail.description
  stages := detail.stages.map (stageToDraft newKey)

def kindToWire : DraftKind → StageKind
  | .skill invocation contextAllUpstream contextStages reviewEnabled reviewSkillName reviewMaxIterations =>
      .skill invocation (if contextAllUpstream then none else some contextStages)
        (if reviewEnabled then some { skillName := reviewSkillName, maxIterations := reviewMaxIterations } else none)
  | .review invocation contextAllUpstream contextStages =>
      .review invocation (if contextAllUpstream then none else some contextStages)
  | .action actionId => .action actionId
  | .call pipelineId => .call pipelineId

-- An empty id is left out like an absent one.
def stageToWire (stage : StageDraft) : WireStage :=
  { id := stage.id.filter (· ≠ ""), description := stage.description, kind := kindToWire stage.kind }

def draftToWire (draft : PipelineDraft) : PipelineDefinitionBody where
  id := draft.id.filter (· ≠ "")
  name := draft.name
  description := draft.description
  stages := draft.stages.map stageToWire

def isJsSpace (letter : Char) : Bool :=
  let code := letter.toNat
  (9 ≤ code && code ≤ 13) || code == 0x20 || code == 0xa0 || code == 0x1680 || (0x2000 ≤ code && code ≤ 0x200a) ||
    code == 0x2028 || code == 0x2029 || code == 0x202f || code == 0x205f || code == 0x3000 || code == 0xfeff

def filled (text : String) : Bool := text.toList.any fun letter => !isJsSpace letter

def isStageName (name : String) : Bool :=
  match name.toList with
  | [] => false
  | first :: rest =>
      first.isLower && decide (rest.length ≤ 63) &&
        rest.all fun letter => letter.isLower || letter.isDigit || letter == '-'

def Invocation.isValid (invocation : Invocation) : Bool :=
  isStageName invocation.name && filled invocation.skillName && filled invocation.codingAgentPluginId &&
    filled invocation.model && filled invocation.effort && decide (0 < invocation.wallclockSeconds)

def stageIsValid (stage : StageDraft) : Bool :=
  match stage.kind with
  | .skill invocation _ _ reviewEnabled reviewSkillName reviewMaxIterations =>
      invocation.isValid && (!reviewEnabled ||
        (filled reviewSkillName && decide (1 ≤ reviewMaxIterations) && decide (reviewMaxIterations ≤ 3)))
  | .review invocation _ _ => invocation.isValid
  | .action actionId => filled actionId
  | .call pipelineId => filled pipelineId

def pipelineDraftIsValid (draft : PipelineDraft) : Bool :=
  filled draft.name && !draft.stages.isEmpty && draft.stages.all stageIsValid

-- What the validity of a draft rests on is all in its body.
def WireStage.isValid (stage : WireStage) : Bool :=
  match stage.kind with
  | .skill invocation _ review => invocation.isValid && review.all fun config =>
      filled config.skillName && decide (1 ≤ config.maxIterations) && decide (config.maxIterations ≤ 3)
  | .review invocation _ => invocation.isValid
  | .action actionId => filled actionId
  | .call pipelineId => filled pipelineId

def PipelineDefinitionBody.isValid (body : PipelineDefinitionBody) : Bool :=
  filled body.name && !body.stages.isEmpty && body.stages.all WireStage.isValid

def storesStages : List WireStage → List StageView → Bool
  | [], [] => true
  | stage :: stages, view :: views =>
      stage.id.all (· == view.id) && stage.description == view.description && decide (stage.kind = view.kind) &&
        storesStages stages views
  | _, _ => false

def stores (body : PipelineDefinitionBody) (detail : PipelineDetailView) : Bool :=
  body.name == detail.name && body.description == detail.description && storesStages body.stages detail.stages

theorem stageToWire_valid (stage : StageDraft) : (stageToWire stage).isValid = stageIsValid stage := by
  obtain ⟨key, id, description, kind⟩ := stage
  cases kind with
  | skill invocation all names reviewed skill iterations => cases reviewed <;> rfl
  | _ => rfl

theorem draftToWire_valid (draft : PipelineDraft) : (draftToWire draft).isValid = pipelineDraftIsValid draft := by
  rw [PipelineDefinitionBody.isValid, draftToWire, pipelineDraftIsValid, List.all_map, List.isEmpty_map]
  exact congrArg (_ && List.all draft.stages ·) (funext stageToWire_valid)

theorem kind_round_trip (kind : StageKind) : kindToWire (kindToDraft kind) = kind := by
  cases kind with
  | skill invocation names review => cases names <;> cases review <;> rfl
  | review invocation names => cases names <;> rfl
  | _ => rfl

-- The draft seeded from a definition has that definition as its body.
theorem detail_round_trip (newKey : String → String) (detail : PipelineDetailView) :
    stores (draftToWire (detailToDraft newKey detail)) detail = true := by
  have stages (views : List StageView) : storesStages ((views.map (stageToDraft newKey)).map stageToWire) views = true := by
    induction views with
    | nil => rfl
    | cons view rest ih =>
        have ids : ((some view.id).filter (· ≠ "")).all (· == view.id) = true := by
          by_cases empty : view.id = "" <;> simp [empty]
        rw [List.map_cons, List.map_cons, storesStages, ih, stageToWire, stageToDraft, ids, kind_round_trip]
        simp
  rw [stores, draftToWire, detailToDraft, stages]
  simp

end Yaaos.Web
