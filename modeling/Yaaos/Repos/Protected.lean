import Mathlib.Data.List.Dedup
import Yaaos.Pipelines.Db

set_option autoImplicit false

namespace Yaaos.Repos

open Yaaos.Base Yaaos.Pipelines

inductive ProtectedMode where
  | allow
  | deny

structure ProtectedPathSet where
  id : Uuid
  name : String
  globs : List String
  ownerUserIds : List Uuid

structure RepoSettings where
  protectedMode : ProtectedMode
  protectedPathSets : List ProtectedPathSet

def RepoSettings.default : RepoSettings := { protectedMode := .deny, protectedPathSets := [] }

def getSettings (rows : List ((Uuid × String) × RepoSettings)) (orgId : Uuid) (repoExternalId : String) : RepoSettings :=
  (rows.lookup (orgId, repoExternalId)).getD .default

section Matching

-- `GitIgnoreSpec.from_lines(globs).match_file(path)`.
variable (matchFile : List String → String → Bool)

def ownersOf (pathSets : List ProtectedPathSet) : List Uuid :=
  (pathSets.flatMap ProtectedPathSet.ownerUserIds).dedup.mergeSort fun left right => decide (left ≤ right)

def matchProtected (paths : List String) (mode : ProtectedMode) (pathSets : List ProtectedPathSet) : ProtectedMatch :=
  match mode with
  | .deny =>
      let matchedSets := pathSets.filter fun pathSet => paths.any (matchFile pathSet.globs)
      if matchedSets.isEmpty then { matched := false, ownerUserIds := [] }
      else { matched := true, ownerUserIds := ownersOf matchedSets }
  | .allow =>
      let escapesEverySet := paths.any fun path => !pathSets.any fun pathSet => matchFile pathSet.globs path
      if escapesEverySet then { matched := true, ownerUserIds := ownersOf pathSets }
      else { matched := false, ownerUserIds := [] }

def evaluateProtected (rows : List ((Uuid × String) × RepoSettings)) (orgId : Uuid) (repoExternalId : String)
    (paths : List String) : ProtectedMatch :=
  let settings := getSettings rows orgId repoExternalId
  matchProtected matchFile paths settings.protectedMode settings.protectedPathSets

def isProtected (settings : RepoSettings) (path : String) : Bool :=
  (matchProtected matchFile [path] settings.protectedMode settings.protectedPathSets).matched

theorem matchProtected_deny (paths : List String) (pathSets : List ProtectedPathSet) :
    (matchProtected matchFile paths .deny pathSets).matched = true ↔
      ∃ path ∈ paths, ∃ pathSet ∈ pathSets, matchFile pathSet.globs path = true := by
  rw [matchProtected]
  cases matchedSets : pathSets.filter fun pathSet => paths.any (matchFile pathSet.globs) with
  | nil =>
      have missed := List.filter_eq_nil_iff.mp matchedSets
      simp only [List.isEmpty_nil, ↓reduceIte, Bool.false_eq_true, false_iff]
      rintro ⟨path, listed, pathSet, member, hit⟩
      exact missed pathSet member (List.any_eq_true.mpr ⟨path, listed, hit⟩)
  | cons pathSet rest =>
      have held : pathSet ∈ pathSets.filter fun pathSet => paths.any (matchFile pathSet.globs) := by
        rw [matchedSets]
        exact List.mem_cons_self
      obtain ⟨member, some_⟩ := List.mem_filter.mp held
      obtain ⟨path, listed, hit⟩ := List.any_eq_true.mp some_
      simp only [List.isEmpty_cons, Bool.false_eq_true, ↓reduceIte, true_iff]
      exact ⟨path, listed, pathSet, member, hit⟩

theorem matchProtected_allow (paths : List String) (pathSets : List ProtectedPathSet) :
    (matchProtected matchFile paths .allow pathSets).matched = true ↔
      ∃ path ∈ paths, ¬ ∃ pathSet ∈ pathSets, matchFile pathSet.globs path = true := by
  rw [matchProtected]
  by_cases escapes : (paths.any fun path => !pathSets.any fun pathSet => matchFile pathSet.globs path) = true
  · rw [if_pos escapes]
    simpa using escapes
  · rw [if_neg escapes]
    simpa using escapes

theorem matchProtected_any (paths : List String) (settings : RepoSettings) :
    (matchProtected matchFile paths settings.protectedMode settings.protectedPathSets).matched = true ↔
      ∃ path ∈ paths, isProtected matchFile settings path = true := by
  unfold isProtected
  cases settings.protectedMode with
  | deny => simp only [matchProtected_deny, List.mem_singleton, exists_eq_left]
  | allow => simp only [matchProtected_allow, List.mem_singleton, exists_eq_left]

end Matching

end Yaaos.Repos
