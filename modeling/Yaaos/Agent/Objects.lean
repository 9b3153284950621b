import Yaaos.Agent.Branches
import Yaaos.Base.Ancestry

set_option autoImplicit false

namespace Yaaos.Agent.Objects

open Yaaos.Agent.Branches Yaaos.Base

-- A remote as one call finds it: the tip of its default branch, the ids it serves
-- on request, and what a fetch without a depth brings.
structure Remote where
  tip : Commit
  serves : Commit → Bool
  everything : List Commit

-- The objects of a clone. `asked` counts the calls that have gone to the network.
structure Repository where
  asked : Nat
  present : List Commit
  deriving DecidableEq

def noRepository : Repository := { asked := 0, present := [] }

def depthOf (option : String) : Option Nat :=
  let digits := option.toList.drop "--depth=".length
  if isDepth option && digits.all Char.isDigit then some (Nat.ofDigitChars 10 digits 0) else none

section Git

variable (parents : Commit → List Commit) (network : Nat → Option Remote)

def Remote.cloned (remote : Remote) (options : List String) : List Commit :=
  match options.findSome? depthOf with
  | none => remote.everything
  | some depth => within parents depth remote.tip

def git (repository : Repository) : GitCall → Option String × Repository
  | .clone options _ =>
      match network repository.asked with
      | none => (some "clone", { repository with asked := repository.asked + 1 })
      | some remote => (none, { asked := repository.asked + 1, present := remote.cloned parents options })
  | .fetch [option, _, name] =>
      let failed := (some "fetch", { repository with asked := repository.asked + 1 })
      match network repository.asked, depthOf option with
      | some remote, some depth =>
          if remote.serves name then
            (none, { asked := repository.asked + 1, present := repository.present ++ within parents depth name })
          else failed
      | _, _ => failed
  | .fetch _ =>
      match network repository.asked with
      | none => (some "fetch", { repository with asked := repository.asked + 1 })
      | some remote => (none, { asked := repository.asked + 1, present := repository.present ++ remote.everything })
  | .checkout [_, name] => if repository.present.contains name then (none, repository) else (some "checkout", repository)
  | _ => (none, repository)

def served (call : Nat) (name : Commit) : Bool :=
  match network call with
  | none => false
  | some remote => remote.serves name

def brought (call : Nat) : List Commit :=
  match network call with
  | none => []
  | some remote => remote.everything

def fetched (call depth : Nat) (name : Commit) : List Commit :=
  if served network call name then within parents depth name else brought network (call + 1)

variable (repo : RepoRef) (depth : Nat)

def clonedObjects : List Commit :=
  match network 0 with
  | none => []
  | some remote => within parents depth remote.tip

def headObjects : List Commit := fetched parents network 1 (depth + 1) repo.headSha

def baseCall : Nat := if served network 1 repo.headSha then 2 else 3

def baseObjects : List Commit :=
  if repo.baseSha = "" then [] else fetched parents network (baseCall network repo) 1 repo.baseSha

def objects : List Commit :=
  clonedObjects parents network depth ++ headObjects parents network repo depth ++ baseObjects parents network repo

end Git

theorem depthOf_toString (depth : Nat) : depthOf ("--depth=" ++ toString (depth : Int)) = some depth := by
  have digits : ("--depth=" ++ toString (depth : Int)).toList.drop "--depth=".length = Nat.toDigits 10 depth := by
    rw [String.toList_append, show toString (depth : Int) = depth.repr from rfl, Nat.toList_repr]
    rfl
  have all_ : (Nat.toDigits 10 depth).all Char.isDigit = true :=
    List.all_eq_true.mpr fun digit member => Nat.isDigit_of_mem_toDigits (by decide) (by decide) member
  rw [depthOf, digits, isDepth_depth, all_]
  simp only [Bool.and_self, if_true]
  rw [Nat.ofDigitChars_toDigits (by decide) (by decide)]

section Provisioning

variable (parents : Commit → List Commit) (network : Nat → Option Remote) (repo : RepoRef) (auth : AuthBlock)
  (depth : Nat)

def provisioned : Except String Checkout × Repository :=
  Branches.gitClone (git parents network) noRepository repo auth depth

theorem git_fetch (repository : Repository) (levels : Nat) (name : Commit) :
    git parents network repository (.fetch ["--depth=" ++ toString (levels : Int), "origin", name]) =
      if served network repository.asked name then
        (none, { asked := repository.asked + 1, present := repository.present ++ within parents levels name })
      else (some "fetch", { repository with asked := repository.asked + 1 }) := by
  rw [git, depthOf_toString, served]
  cases network repository.asked with
  | none => rfl
  | some remote => rfl

theorem git_fetchAll (repository : Repository) :
    git parents network repository (.fetch ["origin"]) =
      match network repository.asked with
      | none => (some "fetch", { repository with asked := repository.asked + 1 })
      | some remote => (none, { asked := repository.asked + 1, present := repository.present ++ remote.everything }) := rfl

theorem git_checkout (repository : Repository) (name : Commit) :
    git parents network repository (.checkout ["--detach", name]) =
      if repository.present.contains name then (none, repository) else (some "checkout", repository) := rfl

theorem checkoutDetachedSha_made (repository next : Repository) (positive : 0 < depth) (asked : repository.asked = 1)
    (made : Branches.checkoutDetachedSha (git parents network) repository repo.headSha depth = (.ok (), next)) :
    next = { asked := baseCall network repo, present := repository.present ++ headObjects parents network repo depth } ∧
      repo.headSha ∈ next.present := by
  have deep : (depth : Int) ≠ 0 := by omega
  rw [Branches.checkoutDetachedSha, if_neg deep] at made
  have fetches := git_fetch parents network repository (depth + 1) repo.headSha
  rw [asked] at fetches
  rw [Nat.cast_add, Nat.cast_one] at fetches
  simp only [fetches] at made
  by_cases direct : served network 1 repo.headSha = true
  · simp only [if_pos direct, git_checkout] at made
    by_cases found : (repository.present ++ within parents (depth + 1) repo.headSha).contains repo.headSha = true
    · simp only [if_pos found, Prod.mk.injEq, true_and] at made
      rw [← made, baseCall, if_pos direct, headObjects, fetched, if_pos direct]
      exact ⟨rfl, by simpa using found⟩
    · simp only [if_neg found] at made
      cases made
  · simp only [if_neg direct, git_fetchAll] at made
    cases reached : network 2 with
    | none =>
        simp only [reached] at made
        cases made
    | some remote =>
        simp only [reached, git_checkout] at made
        by_cases found : (repository.present ++ remote.everything).contains repo.headSha = true
        · simp only [if_pos found, Prod.mk.injEq, true_and] at made
          have brings : brought network 2 = remote.everything := by rw [brought, reached]
          rw [← made, baseCall, if_neg direct, headObjects, fetched, if_neg direct, brings]
          exact ⟨rfl, by simpa using found⟩
        · simp only [if_neg found] at made
          cases made

theorem fetchBase_made (repository next : Repository) (asked : repository.asked = baseCall network repo)
    (made : Branches.fetchBase (git parents network) repository repo.baseSha = (.ok (), next)) :
    next.present = repository.present ++ baseObjects parents network repo := by
  rw [Branches.fetchBase] at made
  by_cases unset : repo.baseSha = ""
  · rw [if_pos unset, Prod.mk.injEq] at made
    rw [← made.2, baseObjects, if_pos unset, List.append_nil]
  · have fetches := git_fetch parents network repository 1 repo.baseSha
    rw [asked] at fetches
    have one : "--depth=" ++ toString ((1 : Nat) : Int) = "--depth=1" := rfl
    rw [one] at fetches
    rw [if_neg unset] at made
    simp only [fetches] at made
    by_cases direct : served network (baseCall network repo) repo.baseSha = true
    · simp only [if_pos direct, Prod.mk.injEq, true_and] at made
      rw [← made, baseObjects, if_neg unset, fetched, if_pos direct]
    · simp only [if_neg direct, git_fetchAll] at made
      cases reached : network (baseCall network repo + 1) with
      | none =>
          simp only [reached] at made
          cases made
      | some remote =>
          simp only [reached, Prod.mk.injEq, true_and] at made
          have brings : brought network (baseCall network repo + 1) = remote.everything := by rw [brought, reached]
          rw [← made, baseObjects, if_neg unset, fetched, if_neg direct, brings]

theorem provisioned_objects (positive : 0 < depth) (pinned : repo.headSha ≠ "") (unnamed : repo.branchName = "")
    (checkout : Checkout) (made : (provisioned parents network repo auth depth).1 = .ok checkout) :
    (provisioned parents network repo auth depth).2.present = objects parents network repo depth ∧
      repo.headSha ∈ clonedObjects parents network depth ++ headObjects parents network repo depth := by
  rw [provisioned, Branches.gitClone] at made ⊢
  by_cases missing : repo.cloneUrl = .empty
  · rw [if_pos missing] at made
    cases made
  · have asked : ¬ (repo.headSha = "" ∧ repo.branchName = "") := fun unset => pinned unset.1
    rw [if_neg missing, if_neg asked] at made ⊢
    cases injected : injectAuth repo.cloneUrl auth with
    | error reason =>
        rw [injected] at made
        cases made
    | ok cloneUrl =>
        have options : cloneOptions repo depth = ["--depth=" ++ toString (depth : Int)] := by
          have deep : (depth : Int) > 0 := by omega
          rw [cloneOptions, if_pos deep, if_neg (by simp [unnamed]), List.append_nil]
        simp only [injected, git, noRepository, Remote.cloned, options] at made ⊢
        cases reached : network 0 with
        | none =>
            simp only [reached] at made
            cases made
        | some remote =>
            simp only [reached, List.findSome?_cons, depthOf_toString, if_pos pinned] at made ⊢
            have clones : clonedObjects parents network depth = within parents depth remote.tip := by
              rw [clonedObjects, reached]
            generalize outcome : Branches.checkoutDetachedSha (git parents network)
              { asked := 0 + 1, present := within parents depth remote.tip } repo.headSha depth = result at made ⊢
            obtain ⟨done, detached⟩ := result
            cases done with
            | error reason => cases made
            | ok _ =>
                obtain ⟨isDetached, head⟩ :=
                  checkoutDetachedSha_made parents network repo depth _ detached positive rfl outcome
                simp only [finish] at made ⊢
                generalize based : Branches.fetchBase (git parents network) detached repo.baseSha = result at made ⊢
                obtain ⟨fetches, last⟩ := result
                cases fetches with
                | error reason => cases made
                | ok _ =>
                    have whole := fetchBase_made parents network repo detached last (by rw [isDetached]) based
                    rw [isDetached] at whole head
                    rw [objects, clones]
                    exact ⟨whole, head⟩

end Provisioning

end Yaaos.Agent.Objects
