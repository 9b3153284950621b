import Yaaos.Agent.Objects
import Yaaos.Pipelines.Pins

set_option autoImplicit false

namespace Yaaos.Reviews

open Yaaos.Base Yaaos.Pipelines
open Yaaos.Agent (RemoteUrl AuthBlock)
open Yaaos.Agent.Branches (Commit)
open Yaaos.Agent.Objects (Remote Repository provisioned served brought baseCall)

def diffBase (pr : PRContext) : String :=
  match pr.prevReviewedHeadSha with
  | none => pr.baseSha
  | some prev => if prev = "" then pr.baseSha else prev

section Checkouts

variable (parents : Commit → List Commit) (parseUrl : String → RemoteUrl)

def provisionHistory : Nat := 1

-- A command on the wire: what is unset is empty.
def wireRepo (repo : Pipelines.RepoRef) : Agent.RepoRef :=
  { externalId := repo.externalId, cloneUrl := parseUrl repo.cloneUrl, headSha := repo.headSha.getD "",
    baseSha := repo.baseSha.getD "", branchName := repo.branchName.getD "" }

def wireAuth (token : String) : AuthBlock := { kind := "github_installation", token := token }

structure Cloned where
  repo : Agent.RepoRef
  auth : AuthBlock
  network : Nat → Option Remote
  checkout : Agent.Checkout
  repository : Repository
  made : provisioned parents network repo auth provisionHistory = (.ok checkout, repository)

structure World where
  db : Db
  clones : Uuid → Option (Cloned parents)

inductive Step where
  | engine (label : Pipelines.Label)
  | provision (commandId : Uuid) (network : Nat → Option Remote)

-- A clone that fails leaves nothing behind, and one that stands is used again.
def provisionWorkspace (world : World parents) (network : Nat → Option Remote) (command : AgentCommand) : World parents :=
  match command.body, world.clones command.workspaceId with
  | .provisionWorkspace repo token, none =>
      match made : provisioned parents network (wireRepo parseUrl repo) (wireAuth token) provisionHistory with
      | (.ok checkout, repository) =>
          { world with
            clones := Function.update world.clones command.workspaceId (some
              { repo := wireRepo parseUrl repo, auth := wireAuth token, network := network, checkout := checkout,
                repository := repository, made := made }) }
      | (.error _, _) => world
  | _, _ => world

def Honest (world : World parents) (label : Pipelines.Label) : Prop :=
  match label with
  | .terminalEvent event => event.succeeded = true → ∀ command ∈ world.db.agentCommands,
      command.id = event.commandId → command.body.isProvision = true → (world.clones command.workspaceId).isSome = true
  | _ => True

def reviews : Machine (World parents) Step EngineError where
  initial := fun world => Fresh world.db ∧ world.clones = fun _ => none
  allowed := fun world step => match step with
    | .engine label => label.Allowed world.db ∧ Honest parents world label
    | .provision _ _ => True
  step := fun world step => match step with
    | .engine label => (engineStep world.db label).map fun db => { world with db := db }
    | .provision commandId network =>
        match world.db.agentCommands.find? fun command => command.id == commandId with
        | none => .error (.unknownCommand commandId)
        | some command => .ok (provisionWorkspace parents parseUrl world network command)

structure Kept (world : World parents) : Prop where
  reached : Reachable runEngine world.db
  rows : ∀ id ∈ world.db.workspaceIds, (world.clones id).isSome = true
  ordered : ∀ id clone, world.clones id = some clone → ∃ runId repo, Provides world.db.orders runId id repo ∧
    clone.repo = wireRepo parseUrl repo

theorem provisionWorkspace_db (world : World parents) (network : Nat → Option Remote) (command : AgentCommand) :
    (provisionWorkspace parents parseUrl world network command).db = world.db := by
  rw [provisionWorkspace]
  split
  · split <;> rfl
  · rfl

theorem provisionWorkspace_clones (world : World parents) (network : Nat → Option Remote) (command : AgentCommand)
    (id : Uuid) (clone : Cloned parents)
    (found : (provisionWorkspace parents parseUrl world network command).clones id = some clone) :
    world.clones id = some clone ∨
      id = command.workspaceId ∧ ∃ repo token, command.body = .provisionWorkspace repo token ∧
        clone.repo = wireRepo parseUrl repo := by
  rw [provisionWorkspace] at found
  split at found
  · rename_i repo token body free
    split at found
    · by_cases same : id = command.workspaceId
      · simp only [same, Function.update_self, Option.some.injEq] at found
        exact .inr ⟨same, repo, token, body, by rw [← found]⟩
      · simp only [Function.update_of_ne same] at found
        exact .inl found
    · exact .inl found
  · exact .inl found

theorem provisionWorkspace_keeps (world : World parents) (network : Nat → Option Remote) (command : AgentCommand)
    (id : Uuid) (held : (world.clones id).isSome = true) :
    ((provisionWorkspace parents parseUrl world network command).clones id).isSome = true := by
  rw [provisionWorkspace]
  split
  · rename_i repo token body free
    split
    · have different : id ≠ command.workspaceId := by
        intro same
        rw [same, free] at held
        cases held
      simp only [Function.update_of_ne different]
      exact held
    · exact held
  · exact held

theorem engine_kept (world : World parents) (label : Pipelines.Label) (after : Db) (kept : Kept parents parseUrl world)
    (allowed : label.Allowed world.db) (honest : Honest parents world label)
    (taken : engineStep world.db label = .ok after) : Kept parents parseUrl { world with db := after } := by
  have transacts := engineStep_transacts world.db label (reachable_coherent world.db kept.reached) after taken
  obtain ⟨grows, fresh⟩ := transacts_grows world.db after label transacts
  refine ⟨reachable_step runEngine world.db after label kept.reached allowed taken, fun id member => ?_, ?_⟩
  · rcases fresh id member with earlier | ⟨event, command, same, succeeded, issued, named, provision, own⟩
    · exact kept.rows id earlier
    · rw [← own]
      rw [same] at honest
      exact honest succeeded command issued named provision
  · intro id clone found
    obtain ⟨runId, repo, provides, same⟩ := kept.ordered id clone found
    exact ⟨runId, repo, provides_mono _ _ _ _ _ grows.orders provides, same⟩

theorem provision_kept (world : World parents) (commandId : Uuid) (network : Nat → Option Remote)
    (command : AgentCommand) (kept : Kept parents parseUrl world)
    (found : world.db.agentCommands.find? (fun command => command.id == commandId) = some command) :
    Kept parents parseUrl (provisionWorkspace parents parseUrl world network command) where
  reached := by
    rw [provisionWorkspace_db]
    exact kept.reached
  rows := by
    intro id member
    rw [provisionWorkspace_db] at member
    exact provisionWorkspace_keeps parents parseUrl world network command id (kept.rows id member)
  ordered := by
    intro id clone held
    rw [provisionWorkspace_db]
    rcases provisionWorkspace_clones parents parseUrl world network command id clone held with
      earlier | ⟨own, repo, token, body, same⟩
    · exact kept.ordered id clone earlier
    · refine ⟨command.context.runId, repo, ⟨token, ?_⟩, same⟩
      rw [own, ← body]
      exact List.mem_map_of_mem (List.mem_of_find?_eq_some found)

theorem reachable_kept (world : World parents) (reachable : Reachable (reviews parents parseUrl) world) :
    Kept parents parseUrl world := by
  refine reachable_invariant (reviews parents parseUrl) (Kept parents parseUrl) ⟨?_, ?_⟩ world reachable
  · intro start initial
    refine ⟨⟨start.db, [], initial.1, .nil _⟩, fun id member => ?_, fun id clone found => ?_⟩
    · rw [Db.workspaceIds, initial.1.workspaces] at member
      cases member
    · rw [initial.2] at found
      cases found
  · intro state step next kept allowed taken
    cases step with
    | engine label =>
        have done : (engineStep state.db label).map (fun db => ({ state with db := db } : World parents)) = .ok next := taken
        cases result : engineStep state.db label with
        | error reason =>
            rw [result] at done
            cases done
        | ok after =>
            rw [result] at done
            cases done
            exact engine_kept parents parseUrl state label after kept allowed.1 allowed.2 result
    | provision commandId network =>
        simp only [reviews] at taken
        cases found : state.db.agentCommands.find? fun command => command.id == commandId with
        | none =>
            rw [found] at taken
            cases taken
        | some command =>
            rw [found] at taken
            cases taken
            exact provision_kept parents parseUrl state commandId network command kept found

end Checkouts

end Yaaos.Reviews
