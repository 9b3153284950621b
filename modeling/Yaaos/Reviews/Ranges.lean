import Yaaos.Pipelines.Returns
import Yaaos.Reviews.Checkouts

set_option autoImplicit false

namespace Yaaos.Reviews

open Yaaos.Base Yaaos.Pipelines
open Yaaos.Agent (RemoteUrl AuthBlock)
open Yaaos.Agent.Branches (Commit)
open Yaaos.Agent.Objects (Remote Repository provisioned provisioned_objects served brought fetched baseCall objects
  clonedObjects headObjects baseObjects)

section Ranges

variable (parents : Commit → List Commit) (parseUrl : String → RemoteUrl)

def Covered (network : Nat → Option Remote) (repo : Agent.RepoRef) (commit : Commit) : Prop :=
  (∃ remote, network 0 = some remote ∧ commit = remote.tip) ∨
    (if served network 1 repo.headSha then commit = repo.headSha ∨ commit ∈ parents repo.headSha
      else commit ∈ brought network 2) ∨
    repo.baseSha ≠ "" ∧
      if served network (baseCall network repo) repo.baseSha then commit = repo.baseSha
      else commit ∈ brought network (baseCall network repo + 1)

structure RangePresent (world : World parents) (run : PipelineRun) (pr : PRContext) (clone : Cloned parents) : Prop where
  head : pr.headSha ∈ clone.repository.present
  base : diffBase pr ∈ clone.repository.present
  reviewed : ∀ prev, pr.prevReviewedHeadSha = some prev → ∃ earlier ∈ world.db.runs.rows,
    earlier.ticketId = run.ticketId ∧ earlier.id < run.id ∧ earlier.state = .completed ∧
      earlier.kickoff.prHeadSha = some prev

theorem invocation?_some (body : CommandBody) (invocation : Invocation) (carries : body.invocation? = some invocation) :
    ∃ pluginId, body = .invokeCodingAgent pluginId invocation := by
  cases body with
  | invokeCodingAgent pluginId other =>
      cases carries
      exact ⟨pluginId, rfl⟩
  | provisionWorkspace _ _ => cases carries
  | refreshWorkspaceAuth _ => cases carries
  | cleanupWorkspace => cases carries

theorem mem_clonedObjects (network : Nat → Option Remote) (commit : Commit) :
    commit ∈ clonedObjects parents network provisionHistory ↔ ∃ remote, network 0 = some remote ∧ commit = remote.tip := by
  rw [clonedObjects]
  cases network 0 with
  | none => simp
  | some remote => simp [provisionHistory, mem_within_one]

theorem mem_headObjects (network : Nat → Option Remote) (repo : Agent.RepoRef) (commit : Commit) :
    commit ∈ headObjects parents network repo provisionHistory ↔
      if served network 1 repo.headSha then commit = repo.headSha ∨ commit ∈ parents repo.headSha
      else commit ∈ brought network 2 := by
  rw [headObjects, fetched]
  split
  · exact mem_within_two parents repo.headSha commit
  · rfl

theorem mem_baseObjects (network : Nat → Option Remote) (repo : Agent.RepoRef) (commit : Commit) :
    commit ∈ baseObjects parents network repo ↔ repo.baseSha ≠ "" ∧
      if served network (baseCall network repo) repo.baseSha then commit = repo.baseSha
      else commit ∈ brought network (baseCall network repo + 1) := by
  rw [baseObjects]
  by_cases unset : repo.baseSha = ""
  · simp [unset]
  · rw [if_neg unset, fetched]
    split
    · simp [unset, mem_within_one]
    · simp [unset]

theorem mem_objects (network : Nat → Option Remote) (repo : Agent.RepoRef) (commit : Commit) :
    commit ∈ objects parents network repo provisionHistory ↔ Covered parents network repo commit := by
  rw [objects, List.mem_append, List.mem_append, mem_clonedObjects, mem_headObjects, mem_baseObjects, or_assoc, Covered]

theorem wireRepo_pinned (repo : Pipelines.RepoRef) (pins : Option String × Option String) (head : String)
    (pinned : Pinned pins repo) (isHead : pins.1 = some head) :
    (wireRepo parseUrl repo).headSha = head ∧ (wireRepo parseUrl repo).branchName = "" ∧
      (wireRepo parseUrl repo).baseSha = pins.2.getD "" ∧ head ≠ "" := by
  obtain ⟨headSha, branchName, baseSha⟩ := pinned.detached head isHead
  refine ⟨by rw [wireRepo, headSha]; rfl, by rw [wireRepo, branchName]; rfl, by rw [wireRepo, baseSha], ?_⟩
  intro unset
  have valid := pinned.valid
  rw [Pipelines.RepoRef.checkCheckoutMode, headSha, branchName, unset] at valid
  cases valid

theorem prompted_clone (world : World parents) (reachable : Reachable (reviews parents parseUrl) world)
    (command : AgentCommand) (issued : command ∈ world.db.agentCommands) (pluginId : String) (invocation : Invocation)
    (body : command.body = .invokeCodingAgent pluginId invocation) (run : PipelineRun)
    (member : run ∈ world.db.runs.rows) (owner : command.context.runId = run.id) (pr : PRContext)
    (asked : invocation.context.pr = some pr) :
    ∃ clone, world.clones invocation.workspaceId = some clone ∧ Ranged world.db run pr ∧
      clone.repo.headSha = pr.headSha ∧ clone.repo.baseSha = pr.baseSha ∧
        clone.repository.present = objects parents clone.network clone.repo provisionHistory ∧
          pr.headSha ∈ clone.repository.present := by
  have kept := reachable_kept parents parseUrl world reachable
  have fed := reachable_fed world.db kept.reached
  have told := fed.told command.order (List.mem_map_of_mem issued) pluginId invocation body
  obtain ⟨row, rowMember, id, ranged⟩ := told.ranged pr asked
  have same : row = run := Table.eq_of_key world.db.runs row run rowMember member (id.trans owner)
  rw [same] at ranged
  obtain ⟨clone, found⟩ := Option.isSome_iff_exists.mp (kept.rows _ told.stored)
  obtain ⟨repo, provides⟩ := told.provided
  obtain ⟨runId, other, ordered, wired⟩ := kept.ordered _ clone found
  rw [fed.single _ _ _ _ _ ordered provides] at wired
  have own : Provides world.db.orders run.id command.workspaceId repo := owner ▸ provides
  obtain ⟨headSha, branchName, baseSha, named⟩ := wireRepo_pinned parseUrl repo run.kickoff.pins pr.headSha
    ((fed.supplied run member).pinned _ repo own) ranged.head
  rw [← wired] at headSha branchName baseSha
  have stands : (provisioned parents clone.network clone.repo clone.auth provisionHistory).1 = .ok clone.checkout := by
    rw [clone.made]
  obtain ⟨present, head⟩ := provisioned_objects parents clone.network clone.repo clone.auth provisionHistory
    (by decide) (by rw [headSha]; exact named) branchName clone.checkout stands
  rw [clone.made] at present
  refine ⟨clone, ?_, ranged, headSha, ?_, present, ?_⟩
  · rw [told.target]
    exact found
  · rw [baseSha, ranged.base]
    rfl
  · rw [present, objects, ← headSha]
    exact List.mem_append_left _ head

-- A prompt names two commits of its workspace exactly when the clone covers the
-- one it compares the head with.
theorem prompt_range_present (world : World parents) (reachable : Reachable (reviews parents parseUrl) world)
    (command : AgentCommand) (issued : command ∈ world.db.agentCommands) (pluginId : String) (invocation : Invocation)
    (body : command.body = .invokeCodingAgent pluginId invocation) (run : PipelineRun)
    (member : run ∈ world.db.runs.rows) (owner : command.context.runId = run.id) (pr : PRContext)
    (asked : invocation.context.pr = some pr) :
    ∃ clone, world.clones invocation.workspaceId = some clone ∧ clone.repo.headSha = pr.headSha ∧
      clone.repo.baseSha = pr.baseSha ∧
        (RangePresent parents world run pr clone ↔ Covered parents clone.network clone.repo (diffBase pr)) := by
  obtain ⟨clone, found, ranged, headSha, baseSha, present, head⟩ := prompted_clone parents parseUrl world reachable
    command issued pluginId invocation body run member owner pr asked
  refine ⟨clone, found, headSha, baseSha, fun range => ?_, fun covered => ⟨head, ?_, ranged.reviewed⟩⟩
  · apply (mem_objects parents clone.network clone.repo (diffBase pr)).mp
    rw [← present]
    exact range.base
  · rw [present]
    exact (mem_objects parents clone.network clone.repo (diffBase pr)).mpr covered

end Ranges

instance (parents : Commit → List Commit) (world : World parents) (label : Pipelines.Label) :
    Decidable (Honest parents world label) :=
  match label with
  | .terminalEvent event => inferInstanceAs (Decidable (event.succeeded = true → ∀ command ∈ world.db.agentCommands,
      command.id = event.commandId → command.body.isProvision = true → (world.clones command.workspaceId).isSome = true))
  | .startRun _ _ _ _ _ _ | .startRerun _ _ _ _ _ | .startRerunFromStage _ _ _ _ _ _ _ | .requestCancel _ _ _
  | .resolvePause _ _ _ _ _ | .deliver _ _ | .workspaceStatus _ _ | .createTicket _ | .bindPullRequest _ _
  | .dismissFinding _ _ => isTrue trivial

instance (db : Db) (label : Pipelines.Label) : Decidable (label.Allowed db) :=
  match label with
  | .startRun _ orgId ticketId _ _ _ =>
      decidable_of_iff ((db.tickets.find? ticketId).any (fun ticket => ticket.orgId == orgId) = true) (by
        simp [Label.Allowed, Option.any_eq_true])
  | .terminalEvent _ | .startRerun _ _ _ _ _ | .startRerunFromStage _ _ _ _ _ _ _ | .requestCancel _ _ _
  | .resolvePause _ _ _ _ _ | .deliver _ _ | .workspaceStatus _ _ | .createTicket _ | .bindPullRequest _ _
  | .dismissFinding _ _ => isTrue trivial

instance (parents : Commit → List Commit) (parseUrl : String → RemoteUrl) (world : World parents) (step : Step) :
    Decidable ((reviews parents parseUrl).allowed world step) :=
  match step with
  | .engine label => inferInstanceAs (Decidable (label.Allowed world.db ∧ Honest parents world label))
  | .provision _ _ => isTrue trivial

def sampleParents : Commit → List Commit
  | "c3" => ["c2"]
  | "c2" => ["c1"]
  | "c1" => ["c0"]
  | _ => []

def sampleUrl (text : String) : RemoteUrl := .parsed { scheme := "https", user? := none, rest := text }

def sampleRemote : Remote := { tip := "c0", serves := fun _ => true, everything := [] }

def sampleReviews : Env := { sampleEnv (sampleSkills none .alwaysProceed) with pullRequest := fun _ => some "17" }

def samplePins (head : Commit) : Kickoff := { sampleKickoff with prBaseSha := some "c0", prHeadSha := some head }

def sampleRuns (head : Commit) : Step := .engine (.startRun sampleReviews 1 2 3 (samplePins head) none)

def sampleTurn : Step := .engine (.deliver sampleReviews 0)

def sampleTurns (commandId : Uuid) (outputs : Dict Json) : List Step :=
  [.engine (.terminalEvent (sampleEvent commandId "success" outputs)), sampleTurn]

def sampleInvokes (head : Commit) (provision : Uuid) : List Step :=
  [sampleRuns head, sampleTurn, sampleTurn, .provision provision fun _ => some sampleRemote] ++
    sampleTurns provision [] ++ [sampleTurn]

def sampleSteps (head : Commit) : List Step :=
  [.engine (.createTicket { sampleTicket with prId := some 6 })] ++ sampleInvokes "c1" 13 ++
    sampleTurns 15 sampleOutputs ++ [sampleTurn] ++ sampleTurns 18 [] ++ sampleInvokes head 22

def sampleFirst : World sampleParents := { db := .empty 10, clones := fun _ => none }

def sampleWorld (head : Commit) : World sampleParents := (reviews sampleParents sampleUrl).after sampleFirst (sampleSteps head)

def sampleAsks (head : Commit) : Option (AgentCommand × Invocation × PRContext) := do
  let command ← (sampleWorld head).db.agentCommands.getLast?
  let invocation ← command.body.invocation?
  let pr ← invocation.context.pr
  return (command, invocation, pr)

theorem sampleWorld_reachable (head : Commit)
    (commits : (reviews sampleParents sampleUrl).Commits sampleFirst (sampleSteps head)) :
    Reachable (reviews sampleParents sampleUrl) (sampleWorld head) :=
  ⟨sampleFirst, sampleSteps head, ⟨⟨rfl, rfl, rfl, rfl, rfl, rfl⟩, rfl⟩, commits_path _ _ _ commits⟩

def sampleClone (head : Commit) : Option (Cloned sampleParents) := do
  let asks ← sampleAsks head
  (sampleWorld head).clones asks.2.1.workspaceId

theorem sampleAsks_asked (head : Commit) (command : AgentCommand) (invocation : Invocation) (pr : PRContext)
    (asks : sampleAsks head = some (command, invocation, pr)) :
    command ∈ (sampleWorld head).db.agentCommands ∧
      (∃ pluginId, command.body = .invokeCodingAgent pluginId invocation) ∧ invocation.context.pr = some pr := by
  simp only [sampleAsks, Option.bind_eq_bind, Option.bind_eq_some_iff, Option.some.injEq, Option.pure_def,
    Prod.mk.injEq] at asks
  obtain ⟨last, isLast, asked, isAsked, context, isContext, same, sameAsked, sameContext⟩ := asks
  subst same sameAsked sameContext
  exact ⟨List.mem_of_getLast? isLast, invocation?_some last.body asked isAsked, isContext⟩

-- The run for c2: c1 is its parent, so that the clone covers the range.
theorem one_push_range_present :
    ∃ command invocation pr run clone, Reachable (reviews sampleParents sampleUrl) (sampleWorld "c2") ∧
      sampleAsks "c2" = some (command, invocation, pr) ∧ run ∈ (sampleWorld "c2").db.runs.rows ∧
        (sampleWorld "c2").clones invocation.workspaceId = some clone ∧ pr.prevReviewedHeadSha = some "c1" ∧
          RangePresent sampleParents (sampleWorld "c2") run pr clone := by
  have reachable := sampleWorld_reachable "c2" (by decide +kernel)
  obtain ⟨⟨command, invocation, pr⟩, asks⟩ := Option.isSome_iff_exists.mp
    (show (sampleAsks "c2").isSome = true by decide +kernel)
  obtain ⟨issued, ⟨pluginId, body⟩, asked⟩ := sampleAsks_asked "c2" command invocation pr asks
  have facts : (sampleAsks "c2").all (fun asks => asks.1.context.runId == 19 &&
      asks.2.2.prevReviewedHeadSha == some "c1" && asks.2.2.headSha == "c2") = true := by decide +kernel
  have starts : (sampleClone "c2").all (fun clone => served clone.network 1 clone.repo.headSha) = true := by
    decide +kernel
  have stored : ((sampleWorld "c2").db.runs.find? 19).isSome = true := by decide +kernel
  obtain ⟨run, isRun⟩ := Option.isSome_iff_exists.mp stored
  rw [asks] at facts
  simp only [Option.all_some, Bool.and_eq_true, beq_iff_eq] at facts
  obtain ⟨⟨owner, prev⟩, head⟩ := facts
  obtain ⟨member, id⟩ := Table.find?_some _ _ _ isRun
  obtain ⟨clone, found, headSha, baseSha, present⟩ := prompt_range_present sampleParents sampleUrl (sampleWorld "c2")
    reachable command issued pluginId invocation body run member (owner.trans id.symm) pr asked
  refine ⟨command, invocation, pr, run, clone, reachable, asks, member, found, prev, ?_⟩
  apply present.mpr
  have sameClone : sampleClone "c2" = some clone := by
    rw [sampleClone, asks]
    exact found
  rw [sameClone, Option.all_some] at starts
  refine .inr (.inl ?_)
  rw [if_pos starts, headSha, head, diffBase, prev]
  exact .inr (List.mem_singleton.mpr rfl)

-- The run for c3: two commits were pushed after c1, which the prompt names and no fetch brings.
theorem two_pushes_leave_range :
    ∃ command invocation pr run clone, Reachable (reviews sampleParents sampleUrl) (sampleWorld "c3") ∧
      sampleAsks "c3" = some (command, invocation, pr) ∧
        (∃ pluginId, command.body = .invokeCodingAgent pluginId invocation) ∧
          command ∈ (sampleWorld "c3").db.agentCommands ∧ run ∈ (sampleWorld "c3").db.runs.rows ∧
            command.context.runId = run.id ∧ run.kickoff.pins = (some "c3", some "c0") ∧
              (sampleWorld "c3").clones invocation.workspaceId = some clone ∧ diffBase pr = "c1" ∧
                ¬ RangePresent sampleParents (sampleWorld "c3") run pr clone := by
  have reachable := sampleWorld_reachable "c3" (by decide +kernel)
  obtain ⟨⟨command, invocation, pr⟩, asks⟩ := Option.isSome_iff_exists.mp
    (show (sampleAsks "c3").isSome = true by decide +kernel)
  obtain ⟨issued, body, asked⟩ := sampleAsks_asked "c3" command invocation pr asks
  have facts : (sampleAsks "c3").all (fun asks => asks.1.context.runId == 19 && diffBase asks.2.2 == "c1") = true := by
    decide +kernel
  have stored : ((sampleWorld "c3").db.runs.find? 19).any (fun run => run.kickoff.pins == (some "c3", some "c0")) = true := by
    decide +kernel
  have cloned : (sampleClone "c3").any (fun clone => !clone.repository.present.contains "c1") = true := by
    decide +kernel
  rw [asks] at facts
  simp only [Option.all_some, Bool.and_eq_true, beq_iff_eq] at facts
  obtain ⟨owner, compared⟩ := facts
  obtain ⟨run, isRun, pins⟩ := (Option.any_eq_true _ _).mp stored
  obtain ⟨clone, isClone, absent⟩ := (Option.any_eq_true _ _).mp cloned
  rw [sampleClone, asks] at isClone
  obtain ⟨member, id⟩ := Table.find?_some _ _ _ isRun
  refine ⟨command, invocation, pr, run, clone, reachable, asks, body, issued, member, owner.trans id.symm,
    by simpa using pins, isClone, compared, fun range => ?_⟩
  have present := range.base
  rw [compared] at present
  simp [present] at absent

end Yaaos.Reviews
