import Yaaos.Base.Machine
import Yaaos.Pipelines.Flatten
import Yaaos.Pipelines.Service

set_option autoImplicit false

namespace Yaaos.Pipelines

open Yaaos.Base

structure PipelineRow where
  orgId : Uuid
  definition : PipelineDefinition

def PipelineRow.id (row : PipelineRow) : Uuid := row.definition.id

def PipelineRow.edit (definition : PipelineDefinition) (row : PipelineRow) : PipelineRow :=
  { row with definition := { definition with id := row.id } }

theorem edit_id (definition : PipelineDefinition) (row : PipelineRow) : (row.edit definition).id = row.id := rfl

abbrev PipelineStore := Table PipelineRow Uuid PipelineRow.id

inductive PipelineStoreError where
  | validation (error : FlattenError)
  | nameTaken (name : String)
  | notFound (pipelineId : Uuid)
  | referenced (pipelineId : Uuid)
  | templateNotFound (templateId : Uuid)
  | unknownTemplate (templateId : Uuid)
  | idTaken (pipelineId : Uuid)
  | recursionError

def loadOrgDefinitions (store : PipelineStore) (orgId : Uuid) : OrgDefinitions where
  rows := (store.rows.filter fun row => decide (row.orgId = orgId)).map PipelineRow.definition
  unique := by
    rw [List.map_map]
    exact store.unique.sublist (List.filter_sublist.map _)

def assertNameAvailable (store : PipelineStore) (orgId : Uuid) (name : String) (excludeId : Option Uuid) :
    Except PipelineStoreError Unit :=
  if store.rows.any fun row =>
      decide (row.orgId = orgId) && decide (row.definition.name = name) && decide (some row.id ≠ excludeId) then
    .error (.nameTaken name)
  else .ok ()

def createPipeline (store : PipelineStore) (orgId : Uuid) (definition : PipelineDefinition) :
    Except PipelineStoreError (PipelineStore × Uuid) := do
  (validateDefinition definition (loadOrgDefinitions store orgId)).mapError .validation
  assertNameAvailable store orgId definition.name none
  match store.insert? { orgId := orgId, definition := definition } with
  | none => .error (.idTaken definition.id)
  | some added => .ok (added, definition.id)

def getRow (store : PipelineStore) (pipelineId orgId : Uuid) : Except PipelineStoreError PipelineRow :=
  match store.find? pipelineId with
  | none => .error (.notFound pipelineId)
  | some row => if row.orgId = orgId then .ok row else .error (.notFound pipelineId)

def updatePipeline (store : PipelineStore) (orgId pipelineId : Uuid) (body : PipelineDefinition) :
    Except PipelineStoreError PipelineStore := do
  let _ ← getRow store pipelineId orgId
  let definition := { body with id := pipelineId }
  (validateDefinition definition (loadOrgDefinitions store orgId)).mapError .validation
  assertNameAvailable store orgId definition.name (some pipelineId)
  .ok (store.update (fun row => decide (row.id = pipelineId)) (PipelineRow.edit definition) (edit_id definition))

def pipelineReferencedByCall (store : PipelineStore) (orgId pipelineId : Uuid) : Bool :=
  store.rows.any fun row =>
    decide (row.orgId = orgId) && decide (row.id ≠ pipelineId) && row.definition.stages.any (Stage.calls pipelineId)

-- `referencedByBinding` is what the trigger bindings of the org's repositories say.
def deletePipeline (store : PipelineStore) (orgId pipelineId : Uuid) (referencedByBinding : Bool) :
    Except PipelineStoreError PipelineStore := do
  let _ ← getRow store pipelineId orgId
  if pipelineReferencedByCall store orgId pipelineId || referencedByBinding then .error (.referenced pipelineId)
  else .ok (store.delete fun row => decide (row.id = pipelineId))

structure Copying where
  store : PipelineStore
  orgByName : String → Option Uuid
  memo : Uuid → Option Uuid
  minted : Nat

structure CopiedStages (stages : List Stage) where
  newStages : List Stage
  copying : Copying
  length : newStages.length = stages.length

section Templates

variable (templates : OrgDefinitions) (mint : Nat → Uuid) (orgId : Uuid)

def resolveCallee (materialize : PipelineDefinition → Copying → Except PipelineStoreError (Copying × Uuid))
    (callee : PipelineDefinition) (copying : Copying) : Except PipelineStoreError (Copying × Uuid) :=
  match copying.orgByName callee.name with
  | some orgPipelineId => .ok (copying, orgPipelineId)
  | none => materialize callee copying

def copyStages (materialize : PipelineDefinition → Copying → Except PipelineStoreError (Copying × Uuid)) :
    (stages : List Stage) → Copying → Except PipelineStoreError (CopiedStages stages)
  | [], copying => .ok { newStages := [], copying := copying, length := rfl }
  | .executable stage :: rest, copying => do
      let later ← copyStages materialize rest copying
      .ok { newStages := .executable stage :: later.newStages, copying := later.copying, length := by simp [later.length] }
  | .call stage :: rest, copying =>
      match templates.find? stage.pipelineId with
      | none => .error (.unknownTemplate stage.pipelineId)
      | some callee => do
          let (copied, orgPipelineId) ← resolveCallee materialize callee copying
          let later ← copyStages materialize rest { copied with minted := copied.minted + 1 }
          .ok { newStages := .call { id := mint copied.minted, pipelineId := orgPipelineId } :: later.newStages,
                copying := later.copying, length := by simp [later.length] }

def materializeTemplate : Nat → PipelineDefinition → Copying → Except PipelineStoreError (Copying × Uuid)
  | 0, _, _ => .error .recursionError
  | fuel + 1, template, copying =>
      match copying.memo template.id with
      | some copy => .ok (copying, copy)
      | none => do
          let copied ← copyStages templates mint (materializeTemplate fuel) template.stages copying
          let fresh : PipelineDefinition :=
            { template with
              id := mint copied.copying.minted, stages := copied.newStages,
              nonempty := fun none_ => template.nonempty
                (List.eq_nil_of_length_eq_zero (copied.length.symm.trans (List.length_eq_zero_iff.mpr none_))) }
          let (store, newId) ← createPipeline copied.copying.store orgId fresh
          .ok ({ store := store, orgByName := Function.update copied.copying.orgByName template.name (some newId),
                 memo := Function.update copied.copying.memo template.id (some newId),
                 minted := copied.copying.minted + 1 }, newId)

def orgByName (orgDefinitions : OrgDefinitions) (name : String) : Option Uuid :=
  (orgDefinitions.rows.reverse.find? fun defn => decide (defn.name = name)).map PipelineDefinition.id

def instantiateTemplate (store : PipelineStore) (templateId : Uuid) :
    Except PipelineStoreError (PipelineStore × Uuid) :=
  match templates.find? templateId with
  | none => .error (.templateNotFound templateId)
  | some template => do
      let (copied, newId) ← materializeTemplate templates mint orgId (templates.rows.length + 1) template
        { store := store, orgByName := orgByName (loadOrgDefinitions store orgId), memo := fun _ => none, minted := 0 }
      .ok (copied.store, newId)

end Templates

inductive StoreCall where
  | create (orgId : Uuid) (definition : PipelineDefinition)
  | update (orgId pipelineId : Uuid) (body : PipelineDefinition)
  | delete (orgId pipelineId : Uuid) (referencedByBinding : Bool)
  | instantiate (orgId templateId : Uuid) (mint : Nat → Uuid)

def storeStep (templates : OrgDefinitions) (store : PipelineStore) : StoreCall → Except PipelineStoreError PipelineStore
  | .create orgId definition => (createPipeline store orgId definition).map Prod.fst
  | .update orgId pipelineId body => updatePipeline store orgId pipelineId body
  | .delete orgId pipelineId referencedByBinding => deletePipeline store orgId pipelineId referencedByBinding
  | .instantiate orgId templateId mint => (instantiateTemplate templates mint orgId store templateId).map Prod.fst

def storeMachine (templates : OrgDefinitions) : Machine PipelineStore StoreCall PipelineStoreError where
  initial store := store = Table.empty
  allowed _ _ := True
  step store call := storeStep templates store call

-- What `start_run` does before it inserts the run: flatten against the current
-- definitions of the org.
def pinDefinition (store : PipelineStore) (orgId pipelineId : Uuid) : Except PipelineStoreError Pipeline :=
  match (loadOrgDefinitions store orgId).find? pipelineId with
  | none => .error (.notFound pipelineId)
  | some definition =>
      match flattened : flatten definition (loadOrgDefinitions store orgId) with
      | .error error => .error (.validation error)
      | .ok expansion =>
          .ok { name := definition.name,
                flattened := { stages := expansion.stages,
                               nonempty := flatten_nonempty definition _ expansion flattened,
                               distinct := expansion.distinct } }

def startRunPinned (store : PipelineStore) (db : Db) (orgId ticketId pipelineId : Uuid) (kickoff : Kickoff)
    (triggeredByUserId : Option Uuid) : Except PipelineStoreError Db := do
  let pipeline ← pinDefinition store orgId pipelineId
  .ok (insertRun db
    (newRun db.nextId orgId ticketId (some pipelineId) pipeline.flattened kickoff none triggeredByUserId))

theorem load_mem (store : PipelineStore) (orgId : Uuid) (definition : PipelineDefinition) :
    definition ∈ (loadOrgDefinitions store orgId).rows ↔
      ∃ row ∈ store.rows, row.orgId = orgId ∧ row.definition = definition := by
  simp [loadOrgDefinitions, and_assoc]

theorem load_find? (store : PipelineStore) (orgId pipelineId : Uuid) :
    (loadOrgDefinitions store orgId).find? pipelineId =
      (store.find? pipelineId).bind fun row => if row.orgId = orgId then some row.definition else none := by
  cases stored : store.find? pipelineId with
  | none =>
      rw [Option.bind_none, Table.find?_isNone]
      intro definition member
      obtain ⟨row, present, _, same⟩ := (load_mem store orgId definition).mp member
      rw [← same]
      exact (Table.find?_isNone store pipelineId).mp stored row present
  | some row =>
      obtain ⟨present, named⟩ := Table.find?_some store pipelineId row stored
      rw [Option.bind_some]
      by_cases own : row.orgId = orgId
      · rw [if_pos own]
        exact Table.find?_eq _ row.definition pipelineId ((load_mem store orgId _).mpr ⟨row, present, own, rfl⟩) named
      · rw [if_neg own, Table.find?_isNone]
        intro definition member named'
        obtain ⟨other, otherPresent, otherOwn, same⟩ := (load_mem store orgId definition).mp member
        have sameId : other.id = row.id := by rw [named, ← named', ← same, PipelineRow.id]
        rw [Table.eq_of_key store other row otherPresent present sameId] at otherOwn
        exact own otherOwn

def StoreFlattenable (store : PipelineStore) : Prop := ∀ orgId, Flattenable (loadOrgDefinitions store orgId)

theorem storeFlattenable_change (store after : PipelineStore) (orgId : Uuid) (definitions : OrgDefinitions)
    (flattenable : StoreFlattenable store) (changed : Flattenable definitions)
    (own : ∀ pipelineId, definitions.find? pipelineId = (loadOrgDefinitions after orgId).find? pipelineId)
    (others : ∀ other, other ≠ orgId → ∀ pipelineId,
      (loadOrgDefinitions store other).find? pipelineId = (loadOrgDefinitions after other).find? pipelineId) :
    StoreFlattenable after := by
  intro other
  by_cases same : other = orgId
  · rw [same]
    exact flattenable_same definitions _ own changed
  · exact flattenable_same _ _ (others other same) (flattenable other)

theorem ensures_mapError {ε δ α : Type} (body : Except ε α) (change : ε → δ) (post : α → Prop) (ensured : Ensures body post) :
    Ensures (body.mapError change) post := by
  cases body with
  | error error => exact ensures_error _ _
  | ok result => exact ensures_ok result post (ensured result rfl)

theorem createPipeline_flattenable (store : PipelineStore) (orgId : Uuid) (definition : PipelineDefinition)
    (flattenable : StoreFlattenable store) :
    Ensures (createPipeline store orgId definition) fun result => StoreFlattenable result.1 := by
  rw [createPipeline]
  refine ensures_bind _ _ _ _
    (ensures_mapError _ _ _ (validateDefinition_flattenable definition _ (flattenable orgId))) ?_
  intro _ changed
  refine ensures_read _ _ _ ?_
  intro _ _
  cases inserted : store.insert? { orgId := orgId, definition := definition } with
  | none => exact ensures_error _ _
  | some added =>
      have fresh := (Table.insert?_some store added _ inserted).2
      have absent : store.find? definition.id = none := (Table.find?_isNone store definition.id).mpr fresh
      apply ensures_ok
      apply storeFlattenable_change store added orgId _ flattenable changed
      · intro pipelineId
        rw [substitute_find?, load_find?, load_find?, Table.find?_insert store added _ pipelineId inserted]
        by_cases same : definition.id = pipelineId
        · simp [PipelineRow.id, ← same, absent]
        · simp [PipelineRow.id, same]
      · intro other different pipelineId
        rw [load_find?, load_find?, Table.find?_insert store added _ pipelineId inserted]
        by_cases same : definition.id = pipelineId
        · simp [PipelineRow.id, ← same, absent, different.symm]
        · simp [PipelineRow.id, same]

theorem getRow_found (store : PipelineStore) (pipelineId orgId : Uuid) :
    Ensures (getRow store pipelineId orgId) fun row => store.find? pipelineId = some row ∧ row.orgId = orgId := by
  rw [getRow]
  cases found : store.find? pipelineId with
  | none => exact ensures_error _ _
  | some row =>
      by_cases own : row.orgId = orgId
      · simp only [if_pos own]
        exact ensures_ok _ _ ⟨rfl, own⟩
      · simp only [if_neg own]
        exact ensures_error _ _

theorem updatePipeline_flattenable (store : PipelineStore) (orgId pipelineId : Uuid) (body : PipelineDefinition)
    (flattenable : StoreFlattenable store) :
    Ensures (updatePipeline store orgId pipelineId body) StoreFlattenable := by
  rw [updatePipeline]
  refine ensures_bind _ _ _ _ (getRow_found store pipelineId orgId) ?_
  rintro row ⟨stored, own⟩
  refine ensures_bind _ _ _ _ (ensures_mapError _ _ _ (validateDefinition_flattenable _ _ (flattenable orgId))) ?_
  intro _ changed
  refine ensures_read _ _ _ ?_
  intro _ _
  apply ensures_ok
  apply storeFlattenable_change store _ orgId _ flattenable changed
  · intro other
    rw [substitute_find?, load_find?, load_find?, Table.find?_update]
    by_cases same : pipelineId = other
    · have named := (Table.find?_some store pipelineId row stored).2
      simp [← same, stored, own, named, PipelineRow.edit]
    · cases found : store.find? other with
      | none => simp [same]
      | some otherRow =>
          have named := (Table.find?_some store other otherRow found).2
          have back : ¬ other = pipelineId := fun equal => same equal.symm
          simp [same, named, back]
  · intro other different pipelineId'
    rw [load_find?, load_find?, Table.find?_update]
    cases found : store.find? pipelineId' with
    | none => simp
    | some otherRow =>
        obtain ⟨present, _⟩ := Table.find?_some store pipelineId' otherRow found
        obtain ⟨rowPresent, named⟩ := Table.find?_some store pipelineId row stored
        by_cases selected : otherRow.id = pipelineId
        · have same := Table.eq_of_key store otherRow row present rowPresent (selected.trans named.symm)
          have apart : ¬ row.orgId = other := fun equal => different (equal.symm.trans own)
          simp [same, named, apart, PipelineRow.edit]
        · simp [selected]

theorem deletePipeline_flattenable (store : PipelineStore) (orgId pipelineId : Uuid) (referencedByBinding : Bool)
    (flattenable : StoreFlattenable store) :
    Ensures (deletePipeline store orgId pipelineId referencedByBinding) StoreFlattenable := by
  rw [deletePipeline]
  refine ensures_bind _ _ _ _ (getRow_found store pipelineId orgId) ?_
  rintro row ⟨stored, own⟩
  split
  · exact ensures_error _ _
  · rename_i unreferenced
    apply ensures_ok
    obtain ⟨uncalled, _⟩ := Bool.or_eq_false_iff.mp (Bool.eq_false_iff.mpr unreferenced)
    have changed : Flattenable ((loadOrgDefinitions store orgId).delete fun defn => decide (defn.id = pipelineId)) := by
      apply delete_flattenable _ pipelineId (flattenable orgId)
      intro defn member different stage stageMember
      obtain ⟨caller, present, callerOwn, same⟩ := (load_mem store orgId defn).mp member
      rw [← same] at different stageMember
      by_contra calls
      have referenced : pipelineReferencedByCall store orgId pipelineId = true := by
        rw [pipelineReferencedByCall, List.any_eq_true]
        refine ⟨caller, present, ?_⟩
        have called : caller.definition.stages.any (Stage.calls pipelineId) = true :=
          List.any_eq_true.mpr ⟨stage, stageMember, Bool.eq_true_of_not_eq_false calls⟩
        simp [callerOwn, PipelineRow.id, different, called]
      rw [uncalled] at referenced
      cases referenced
    apply storeFlattenable_change store _ orgId _ flattenable changed
    · intro other
      rw [Table.find?_delete, load_find?, load_find?, Table.find?_delete]
      by_cases same : other = pipelineId <;> simp [same]
    · intro other different otherId
      rw [load_find?, load_find?, Table.find?_delete]
      by_cases same : otherId = pipelineId
      · have apart : ¬ row.orgId = other := fun equal => different (equal.symm.trans own)
        simp [same, stored, apart]
      · simp [same]

section Templates

variable (templates : OrgDefinitions) (mint : Nat → Uuid) (orgId : Uuid)

theorem copyStages_flattenable
    (materialize : PipelineDefinition → Copying → Except PipelineStoreError (Copying × Uuid))
    (materializes : ∀ template copying, StoreFlattenable copying.store →
      Ensures (materialize template copying) fun result => StoreFlattenable result.1.store)
    (stages : List Stage) (copying : Copying) (flattenable : StoreFlattenable copying.store) :
    Ensures (copyStages templates mint materialize stages copying) fun copied =>
      StoreFlattenable copied.copying.store := by
  induction stages generalizing copying with
  | nil => exact ensures_ok _ _ flattenable
  | cons stage rest ih =>
      cases stage with
      | executable stage =>
          rw [copyStages]
          refine ensures_bind _ _ _ _ (ih copying flattenable) ?_
          intro later kept
          exact ensures_ok _ _ kept
      | call stage =>
          rw [copyStages]
          cases templates.find? stage.pipelineId with
          | none => exact ensures_error _ _
          | some callee =>
              have resolved : Ensures (resolveCallee materialize callee copying) fun result =>
                  StoreFlattenable result.1.store := by
                rw [resolveCallee]
                cases copying.orgByName callee.name with
                | none => exact materializes callee copying flattenable
                | some orgPipelineId => exact ensures_ok _ _ flattenable
              refine ensures_bind _ _ _ _ resolved ?_
              rintro ⟨copied, orgPipelineId⟩ copiedFlattenable
              refine ensures_bind _ _ _ _ (ih { copied with minted := copied.minted + 1 } copiedFlattenable) ?_
              intro later kept
              exact ensures_ok _ _ kept

theorem materializeTemplate_flattenable (fuel : Nat) (template : PipelineDefinition) (copying : Copying)
    (flattenable : StoreFlattenable copying.store) :
    Ensures (materializeTemplate templates mint orgId fuel template copying) fun result =>
      StoreFlattenable result.1.store := by
  induction fuel generalizing template copying with
  | zero => exact ensures_error _ _
  | succ fuel ih =>
      rw [materializeTemplate]
      cases copying.memo template.id with
      | some copy => exact ensures_ok _ _ flattenable
      | none =>
          refine ensures_bind _ _ _ _ (copyStages_flattenable templates mint _ ih template.stages copying flattenable) ?_
          intro copied copiedFlattenable
          refine ensures_bind _ _ _ _ (createPipeline_flattenable copied.copying.store orgId _ copiedFlattenable) ?_
          rintro ⟨store, newId⟩ kept
          exact ensures_ok _ _ kept

theorem instantiateTemplate_flattenable (store : PipelineStore) (templateId : Uuid)
    (flattenable : StoreFlattenable store) :
    Ensures (instantiateTemplate templates mint orgId store templateId) fun result => StoreFlattenable result.1 := by
  rw [instantiateTemplate]
  cases templates.find? templateId with
  | none => exact ensures_error _ _
  | some template =>
      refine ensures_bind _ _ _ _ (materializeTemplate_flattenable templates mint orgId _ template _ flattenable) ?_
      rintro ⟨copied, newId⟩ kept
      exact ensures_ok _ _ kept

end Templates

theorem storeStep_flattenable (templates : OrgDefinitions) (store : PipelineStore) (call : StoreCall)
    (flattenable : StoreFlattenable store) : Ensures (storeStep templates store call) StoreFlattenable := by
  cases call with
  | create orgId definition =>
      exact ensures_map _ _ _ (createPipeline_flattenable store orgId definition flattenable)
  | update orgId pipelineId body => exact updatePipeline_flattenable store orgId pipelineId body flattenable
  | delete orgId pipelineId referencedByBinding =>
      exact deletePipeline_flattenable store orgId pipelineId referencedByBinding flattenable
  | instantiate orgId templateId mint =>
      exact ensures_map _ _ _ (instantiateTemplate_flattenable templates mint orgId store templateId flattenable)

theorem storeFlattenable_inductive (templates : OrgDefinitions) :
    Inductive (storeMachine templates) StoreFlattenable where
  initially := by
    rintro store rfl orgId pipelineId defn found
    rw [load_find?] at found
    cases found
  kept store call next flattenable _ taken := storeStep_flattenable templates store call flattenable next taken

theorem pinDefinition_completes (store : PipelineStore) (orgId pipelineId : Uuid) (definition : PipelineDefinition)
    (flattenable : StoreFlattenable store) (found : (loadOrgDefinitions store orgId).find? pipelineId = some definition) :
    Completes (pinDefinition store orgId pipelineId) fun pipeline =>
      ExpandsTo (loadOrgDefinitions store orgId) definition.stages pipeline.flattened.stages := by
  obtain ⟨expansion, flattened, expanded⟩ := flattenable_flattens _ (flattenable orgId) pipelineId definition found
  rw [pinDefinition, found]
  simp only
  split
  · rename_i error failed
    rw [flattened] at failed
    cases failed
  · rename_i other same
    rw [flattened] at same
    cases same
    exact completes_ok _ _ expanded

theorem stored_flattens (templates : OrgDefinitions) (store : PipelineStore)
    (reachable : Reachable (storeMachine templates) store) (row : PipelineRow) (stored : row ∈ store.rows) :
    ∃ expansion, flatten row.definition (loadOrgDefinitions store row.orgId) = .ok expansion ∧
      (∀ stages, ExpandsTo (loadOrgDefinitions store row.orgId) row.definition.stages stages ↔ stages = expansion.stages) ∧
      (expansion.stages.filterMap ExecutableStage.name?).Nodup ∧
      (∀ target, Includes (loadOrgDefinitions store row.orgId) row.definition.stages target →
        target ≠ row.id ∧ ∃ callee ∈ store.rows, callee.orgId = row.orgId ∧ callee.id = target ∧
          ¬ Includes (loadOrgDefinitions store row.orgId) callee.definition.stages target) ∧
      ∀ db ticketId kickoff triggeredByUserId, ∃ next,
        startRunPinned store db row.orgId ticketId row.id kickoff triggeredByUserId = .ok next := by
  have flattenable := reachable_invariant (storeMachine templates) StoreFlattenable
    (storeFlattenable_inductive templates) store reachable
  have found : (loadOrgDefinitions store row.orgId).find? row.id = some row.definition :=
    Table.find?_eq _ row.definition row.id ((load_mem store row.orgId _).mpr ⟨row, stored, rfl, rfl⟩) rfl
  obtain ⟨expansion, flattened, expanded⟩ := flattenable_flattens _ (flattenable row.orgId) row.id row.definition found
  refine ⟨expansion, flattened, ?_, expansion.distinct, ?_, ?_⟩
  · intro stages
    constructor
    · intro other
      exact unfolds_unique Stage.view _ _ _ _ other expanded
    · rintro rfl
      exact expanded
  · intro target included
    constructor
    · rintro rfl
      exact flattenable_noReturn _ (flattenable row.orgId) row.id row.id _ _ found found included included
    · obtain ⟨inside, body⟩ := unfolds_resolved Stage.view _ _ _ expanded target included
      obtain ⟨callee, calleeFound, _⟩ := stagesOf_some _ target inside body
      obtain ⟨calleeMember, named⟩ := Table.find?_some _ target callee calleeFound
      obtain ⟨calleeRow, present, own, same⟩ := (load_mem store row.orgId callee).mp calleeMember
      refine ⟨calleeRow, present, own, by rw [PipelineRow.id, same, named], ?_⟩
      rw [same]
      exact flattenable_noReturn _ (flattenable row.orgId) row.id target _ callee found calleeFound included
  · intro db ticketId kickoff triggeredByUserId
    obtain ⟨pipeline, pinned, _⟩ := pinDefinition_completes store row.orgId row.id row.definition flattenable found
    rw [startRunPinned, pinned]
    exact ⟨_, rfl⟩

def sampleBoundary : BoundaryControl :=
  { mode := .alwaysProceed, onBlockerResiduals := false, onShouldFixResiduals := false, onNitResiduals := false,
    onProtectedCode := false, onConfidenceBelow := none, offered := by simp }

def sampleAuthored (name : String) : Stage :=
  .executable (.skill
    { name := name, skillName := name, codingAgentPluginId := "claude_code", model := "m", effort := "high",
      review := none, contextStages := none, wallclockSeconds := 3600, boundary := sampleBoundary })

def sampleTemplates : OrgDefinitions where
  rows := [
    { id := 1, name := "implementation", description := "",
      stages := [sampleAuthored "implement", .executable (.action { actionId := "github:create_pr" })],
      nonempty := by simp },
    { id := 2, name := "dev", description := "",
      stages := [sampleAuthored "plan", .call { id := 3, pipelineId := 1 }], nonempty := by simp }]
  unique := by decide

def sampleNightly : PipelineDefinition :=
  { id := 200, name := "nightly", description := "",
    stages := [.call { id := 201, pipelineId := 102 }, sampleAuthored "report"], nonempty := by simp }

def sampleCalls : List StoreCall := [.instantiate 7 2 (fun minted => 100 + minted), .create 7 sampleNightly]

def sampleStore : PipelineStore := (storeMachine sampleTemplates).after Table.empty sampleCalls

theorem sampleStore_reachable : Reachable (storeMachine sampleTemplates) sampleStore :=
  ⟨Table.empty, sampleCalls, rfl, commits_path _ Table.empty sampleCalls ⟨trivial, rfl, trivial, rfl, trivial⟩⟩

theorem sampleNightly_flattens : ∃ expansion,
    flatten sampleNightly (loadOrgDefinitions sampleStore 7) = .ok expansion ∧
      namesOf expansion.stages = ["plan", "implement", "report"] := by
  obtain ⟨expansion, flattened, _⟩ := stored_flattens sampleTemplates sampleStore sampleStore_reachable
    { orgId := 7, definition := sampleNightly } (List.mem_of_getElem? (show sampleStore.rows[2]? = some _ from rfl))
  refine ⟨expansion, flattened, ?_⟩
  have named : (flatten sampleNightly (loadOrgDefinitions sampleStore 7)).toOption.map (fun done => namesOf done.stages) =
      some ["plan", "implement", "report"] := rfl
  rw [flattened] at named
  exact Option.some.inj named

end Yaaos.Pipelines
