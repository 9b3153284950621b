import Mathlib.Tactic.IntervalCases
import Yaaos.Agent.Workspace

set_option autoImplicit false

namespace Yaaos.Agent.Branches

section Cloning

variable {σ : Type}

def checkoutDetachedSha (git : σ → GitCall → Option String × σ) (state : σ) (headSha : String) (history : Int) :
    Except String Unit × σ :=
  let fetchDepth := if history = 0 then 1 else history + 1
  let checkout (state : σ) : Except String Unit × σ :=
    match git state (.checkout ["--detach", headSha]) with
    | (some error, next) => (.error ("checkout " ++ headSha ++ ": " ++ error), next)
    | (none, next) => (.ok (), next)
  match git state (.fetch ["--depth=" ++ toString fetchDepth, "origin", headSha]) with
  | (none, fetched) => checkout fetched
  | (some _, fetched) =>
      match git fetched (.fetch ["origin"]) with
      | (some error, next) => (.error ("fetch fallback: " ++ error), next)
      | (none, next) => checkout next

def checkoutNamedBranch (git : σ → GitCall → Option String × σ) (state : σ) (branch : String) (history : Int) :
    Except String Unit × σ :=
  let fetchDepth := if history ≤ 0 then 1 else history
  match git state (.fetch ["--depth=" ++ toString fetchDepth, "origin", branch]) with
  | (none, fetched) =>
      match git fetched (.checkout ["-B", branch, "origin/" ++ branch]) with
      | (some error, next) => (.error ("checkout tracking " ++ branch ++ ": " ++ error), next)
      | (none, next) => (.ok (), next)
  | (some _, fetched) =>
      match git fetched (.checkout ["-B", branch]) with
      | (some error, next) => (.error ("checkout new branch " ++ branch ++ ": " ++ error), next)
      | (none, next) => (.ok (), next)

def fetchBase (git : σ → GitCall → Option String × σ) (state : σ) (baseSha : String) : Except String Unit × σ :=
  if baseSha = "" then (.ok (), state)
  else match git state (.fetch ["--depth=1", "origin", baseSha]) with
    | (none, fetched) => (.ok (), fetched)
    | (some _, fetched) =>
        match git fetched (.fetch ["origin"]) with
        | (some error, next) => (.error ("fetch base fallback: " ++ error), next)
        | (none, next) => (.ok (), next)

def finish (git : σ → GitCall → Option String × σ) (baseSha : String) (checkout : Checkout) :
    Except String Unit × σ → Except String Checkout × σ
  | (.error reason, state) => (.error reason, state)
  | (.ok (), state) =>
      match fetchBase git state baseSha with
      | (.error reason, next) => (.error reason, next)
      | (.ok (), next) => (.ok checkout, next)

def gitClone (git : σ → GitCall → Option String × σ) (state : σ) (repo : RepoRef) (auth : AuthBlock) (history : Int) :
    Except String Checkout × σ :=
  if repo.cloneUrl = .empty then (.error "missing clone_url", state)
  else if repo.headSha = "" ∧ repo.branchName = "" then (.error "missing head_sha or branch_name", state)
  else
    match injectAuth repo.cloneUrl auth with
    | .error reason => (.error ("auth: " ++ reason), state)
    | .ok cloneUrl =>
        match git state (.clone (cloneOptions repo history) cloneUrl) with
        | (some error, next) => (.error error, next)
        | (none, cloned) =>
            if repo.headSha ≠ "" then
              finish git repo.baseSha { origin := cloneUrl, head := none }
                (checkoutDetachedSha git cloned repo.headSha history)
            else
              finish git repo.baseSha { origin := cloneUrl, head := some repo.branchName }
                (checkoutNamedBranch git cloned repo.branchName history)

end Cloning

abbrev Commit := String

-- A repository by its branches. `objects` are the ids that it serves on request.
structure Remote where
  tip : String → Option Commit
  default : String
  head : Commit
  named : tip default = some head
  objects : String → Bool

def Remote.serves (remote : Remote) (name : String) : Bool := (remote.tip name).isSome || remote.objects name

structure Clone where
  refspec : Option String
  tracking : String → Option Commit
  branch : String
  head : Commit

def Clone.maps (clone : Clone) (name : String) : Bool :=
  match clone.refspec with
  | none => true
  | some only => name == only

def Clone.update (clone : Clone) (remote : Remote) (selected : String → Bool) : Clone :=
  { clone with
    tracking := fun name => if selected name && clone.maps name then remote.tip name else clone.tracking name }

def Clone.fetch (clone : Clone) (remote : Remote) (branch : String) : Clone :=
  clone.update remote fun name => name == branch

-- `asked` counts the calls that have gone to the network.
structure Git where
  asked : Nat
  clone : Clone

def isDepth (option : String) : Bool := "--depth=".toList.isPrefixOf option.toList

def trackedBranch (ref : String) : String := String.ofList (ref.toList.drop "origin/".length)

def Remote.cloned (remote : Remote) (shallow : Bool) : Clone :=
  let refspec := if shallow then some remote.default else none
  ({ refspec := refspec, tracking := fun _ => none, branch := remote.default, head := remote.head } : Clone).update
    remote fun _ => true

def Remote.git (remote : Remote) (network : Nat → Bool) (git : Git) : GitCall → Option String × Git
  | .clone options _ =>
      if network git.asked then (none, { asked := git.asked + 1, clone := remote.cloned (options.any isDepth) })
      else (some "clone", { git with asked := git.asked + 1 })
  | .fetch [_, _, name] =>
      if network git.asked && remote.serves name then
        (none, { asked := git.asked + 1, clone := git.clone.fetch remote name })
      else (some "fetch", { git with asked := git.asked + 1 })
  | .fetch _ =>
      if network git.asked then (none, { asked := git.asked + 1, clone := git.clone.update remote fun _ => true })
      else (some "fetch", { git with asked := git.asked + 1 })
  | .checkout [_, branch, start] =>
      match git.clone.tracking (trackedBranch start) with
      | none => (some "checkout", git)
      | some commit => (none, { git with clone := { git.clone with branch := branch, head := commit } })
  | .checkout [_, branch] => (none, { git with clone := { git.clone with branch := branch } })
  | _ => (none, git)

section Tracking

variable (remote : Remote) (network : Nat → Bool) (repo : RepoRef) (auth : AuthBlock) (history : Int)

def noClone : Git := { asked := 0, clone := { refspec := none, tracking := fun _ => none, branch := "", head := "" } }

def provisioned : Except String Checkout × Git := gitClone (remote.git network) noClone repo auth history

def Remote.start (remote : Remote) (branch : String) : Commit := (remote.tip branch).getD remote.head

def Reached : Prop :=
  repo.cloneUrl ≠ .empty ∧ (injectAuth repo.cloneUrl auth).isOk = true ∧
    ∀ step < (provisioned remote network repo auth history).2.asked, network step = true

structure Tracks : Prop where
  starts : ∀ checkout, (provisioned remote network repo auth history).1 = .ok checkout →
    checkout.head = some repo.branchName ∧
      (provisioned remote network repo auth history).2.clone.branch = repo.branchName ∧
      (provisioned remote network repo auth history).2.clone.head = remote.start repo.branchName
  succeeds : Reached remote network repo auth history →
    (provisioned remote network repo auth history).1.isOk = true

def CloneFails : Prop :=
  repo.cloneUrl = .empty ∨ (injectAuth repo.cloneUrl auth).isOk = false ∨ network 0 = false

def BaseFails : Prop :=
  repo.baseSha ≠ "" ∧ (network 2 && remote.serves repo.baseSha) = false ∧ network 3 = false

def Settles : Prop :=
  if network 1 && remote.serves repo.branchName then
    repo.branchName = remote.default ∨ history ≤ 0 ∧ (remote.tip repo.branchName).isSome = true
  else remote.start repo.branchName = remote.head ∨ BaseFails remote network repo

theorem isDepth_depth (depth : Int) : isDepth ("--depth=" ++ toString depth) = true := by
  rw [isDepth, String.toList_append, List.isPrefixOf_iff_prefix]
  exact List.prefix_append _ _

theorem trackedBranch_origin (branch : String) : trackedBranch ("origin/" ++ branch) = branch := by
  have prefixed : ("origin/" ++ branch).toList.drop "origin/".length = branch.toList := by
    rw [String.toList_append]
    rfl
  rw [trackedBranch, prefixed, String.ofList_toList]

theorem cloneOptions_depth (pinned : repo.headSha = "") :
    (cloneOptions repo history).any isDepth = decide (0 < history) := by
  by_cases deep : history > 0
  · simpa [cloneOptions, pinned, deep] using isDepth_depth history
  · simp [cloneOptions, pinned, deep]

theorem cloned_tracking (shallow : Bool) (branch : String) :
    ((remote.cloned shallow).fetch remote branch).tracking branch =
      if shallow = false ∨ branch = remote.default then remote.tip branch else none := by
  cases shallow with
  | false => simp [Remote.cloned, Clone.fetch, Clone.update, Clone.maps]
  | true => by_cases only : branch = remote.default <;> simp [Remote.cloned, Clone.fetch, Clone.update, Clone.maps, only]

theorem fetchBase_keeps (git : Git) (reached : git.asked = 2) :
    (fetchBase (remote.git network) git repo.baseSha).2.clone.branch = git.clone.branch ∧
      (fetchBase (remote.git network) git repo.baseSha).2.clone.head = git.clone.head ∧
      (BaseFails remote network repo → (fetchBase (remote.git network) git repo.baseSha).1.isOk = false ∧
        (fetchBase (remote.git network) git repo.baseSha).2.asked = 4) ∧
      (¬ BaseFails remote network repo → (fetchBase (remote.git network) git repo.baseSha).1 = .ok ()) := by
  by_cases unset : repo.baseSha = ""
  · simp [fetchBase, BaseFails, unset]
  · by_cases direct : (network 2 && remote.serves repo.baseSha) = true
    · simp [fetchBase, BaseFails, unset, Remote.git, reached, direct, Clone.fetch, Clone.update]
    · by_cases fallback : network 3 = true
      · simp [fetchBase, BaseFails, unset, Remote.git, reached, direct, fallback, Clone.update]
      · simp [fetchBase, BaseFails, unset, Remote.git, reached, direct, fallback, Except.isOk, Except.toBool]

theorem cloneFails_tracks (fails : CloneFails network repo auth) (branch : repo.branchName ≠ "") : Tracks remote network repo auth history := by
  have refused : (provisioned remote network repo auth history).1.isOk = false ∧
      ¬ Reached remote network repo auth history := by
    by_cases missing : repo.cloneUrl = .empty
    · simp [provisioned, gitClone, Reached, missing, Except.isOk, Except.toBool]
    · cases injected : injectAuth repo.cloneUrl auth with
      | error reason => simp [provisioned, gitClone, Reached, missing, branch, injected, Except.isOk, Except.toBool]
      | ok cloneUrl =>
          have down : network 0 = false := by
            simpa [CloneFails, missing, injected, Except.isOk, Except.toBool] using fails
          simp [provisioned, gitClone, Reached, missing, branch, injected, Remote.git, noClone, down, Except.isOk,
            Except.toBool]
  refine ⟨fun checkout made => ?_, fun reached => absurd reached refused.2⟩
  rw [made] at refused
  cases refused.1

theorem provisioned_cloned (stands : ¬ CloneFails network repo auth) (pinned : repo.headSha = "")
    (branch : repo.branchName ≠ "") :
    ∃ cloneUrl, provisioned remote network repo auth history =
      finish (remote.git network) repo.baseSha { origin := cloneUrl, head := some repo.branchName }
        (checkoutNamedBranch (remote.git network) { asked := 1, clone := remote.cloned (decide (0 < history)) }
          repo.branchName history) := by
  simp only [CloneFails, not_or, Bool.not_eq_false] at stands
  obtain ⟨given, valid, up⟩ := stands
  cases injected : injectAuth repo.cloneUrl auth with
  | error reason =>
      rw [injected] at valid
      cases valid
  | ok cloneUrl =>
      refine ⟨cloneUrl, ?_⟩
      simp [provisioned, gitClone, given, branch, pinned, injected, Remote.git, noClone, up,
        cloneOptions_depth repo history pinned]

theorem finish_tracks (git : Git) (reached : git.asked = 2) (checkout : Checkout)
    (named : checkout.head = some repo.branchName) (onBranch : git.clone.branch = repo.branchName)
    (same : provisioned remote network repo auth history =
      finish (remote.git network) repo.baseSha checkout (.ok (), git)) :
    Tracks remote network repo auth history ↔
      git.clone.head = remote.start repo.branchName ∨ BaseFails remote network repo := by
  obtain ⟨branchKept, headKept, failing, passing⟩ := fetchBase_keeps remote network repo git reached
  by_cases fails : BaseFails remote network repo
  · obtain ⟨refused, asked⟩ := failing fails
    have ended : (provisioned remote network repo auth history).1.isOk = false ∧
        (provisioned remote network repo auth history).2.asked = 4 := by
      rw [same, finish]
      split
      · rename_i based
        rw [based] at asked
        exact ⟨rfl, asked⟩
      · rename_i based
        rw [based] at refused
        cases refused
    refine iff_of_true ⟨fun made ok => ?_, fun up => ?_⟩ (.inr fails)
    · rw [ok] at ended
      cases ended.1
    · have through := up.2.2 3 (by rw [ended.2]; decide)
      rw [fails.2.2] at through
      cases through
  · have ended : provisioned remote network repo auth history =
        (.ok checkout, (fetchBase (remote.git network) git repo.baseSha).2) := by
      have based := passing fails
      rw [same, finish]
      split
      · rename_i failed
        rw [failed] at based
        cases based
      · rename_i passed
        rw [passed]
    constructor
    · intro tracks
      have starts := (tracks.starts checkout (by rw [ended])).2.2
      rw [ended, headKept] at starts
      exact .inl starts
    · rintro (start | failed)
      · refine ⟨fun made ok => ?_, fun _ => by rw [ended]; rfl⟩
        rw [ended] at ok ⊢
        cases ok
        exact ⟨named, branchKept.trans onBranch, headKept.trans start⟩
      · exact absurd failed fails

theorem fetched_tracks (stands : ¬ CloneFails network repo auth) (pinned : repo.headSha = "")
    (branch : repo.branchName ≠ "") (fetched : (network 1 && remote.serves repo.branchName) = true) :
    Tracks remote network repo auth history ↔
      repo.branchName = remote.default ∨ history ≤ 0 ∧ (remote.tip repo.branchName).isSome = true := by
  obtain ⟨cloneUrl, same⟩ := provisioned_cloned remote network repo auth history stands pinned branch
  have tracking := cloned_tracking remote (decide (0 < history)) repo.branchName
  by_cases found : repo.branchName = remote.default ∨ history ≤ 0 ∧ (remote.tip repo.branchName).isSome = true
  · obtain ⟨commit, tip⟩ : ∃ commit, remote.tip repo.branchName = some commit := by
      rcases found with only | ⟨_, known⟩
      · exact ⟨remote.head, only ▸ remote.named⟩
      · exact Option.isSome_iff_exists.mp known
    have mapped : decide (0 < history) = false ∨ repo.branchName = remote.default := by
      rcases found with only | ⟨flat, _⟩
      · exact .inr only
      · exact .inl (decide_eq_false (Int.not_lt.mpr flat))
    rw [if_pos mapped, tip] at tracking
    have checked : checkoutNamedBranch (remote.git network)
        { asked := 1, clone := remote.cloned (decide (0 < history)) } repo.branchName history =
          (.ok (), ⟨2, { (remote.cloned (decide (0 < history))).fetch remote repo.branchName with
            branch := repo.branchName, head := commit }⟩) := by
      simp only [checkoutNamedBranch, Remote.git, fetched, if_true, trackedBranch_origin, tracking]
    rw [checked] at same
    have start : commit = remote.start repo.branchName := by rw [Remote.start, tip, Option.getD_some]
    exact iff_of_true
      ((finish_tracks remote network repo auth history _ rfl _ rfl rfl same).mpr (.inl start)) found
  · have untracked : ((remote.cloned (decide (0 < history))).fetch remote repo.branchName).tracking repo.branchName =
        none := by
      rw [tracking]
      simp only [not_or, not_and, Bool.not_eq_true, Option.isSome_eq_false_iff, Option.isNone_iff_eq_none] at found
      by_cases shallow : 0 < history
      · simp [shallow, found.1]
      · simp [shallow, found.2 (Int.not_lt.mp shallow)]
    have failed : (provisioned remote network repo auth history).1.isOk = false ∧
        (provisioned remote network repo auth history).2.asked = 2 := by
      rw [same]
      simp [checkoutNamedBranch, Remote.git, fetched, trackedBranch_origin, untracked, finish, Except.isOk,
        Except.toBool]
    refine iff_of_false (fun tracks => ?_) found
    have given : repo.cloneUrl ≠ .empty ∧ (injectAuth repo.cloneUrl auth).isOk = true ∧ network 0 = true := by
      simpa only [CloneFails, not_or, Bool.not_eq_false] using stands
    have passed := tracks.succeeds ⟨given.1, given.2.1, fun step before => ?_⟩
    · rw [failed.1] at passed
      cases passed
    · rw [failed.2] at before
      have first : network 1 = true := (Bool.and_eq_true _ _ ▸ fetched).1
      interval_cases step
      · exact given.2.2
      · exact first

theorem unfetched_tracks (stands : ¬ CloneFails network repo auth) (pinned : repo.headSha = "")
    (branch : repo.branchName ≠ "") (unfetched : (network 1 && remote.serves repo.branchName) = false) :
    Tracks remote network repo auth history ↔
      remote.start repo.branchName = remote.head ∨ BaseFails remote network repo := by
  obtain ⟨cloneUrl, same⟩ := provisioned_cloned remote network repo auth history stands pinned branch
  have checked : checkoutNamedBranch (remote.git network)
      { asked := 1, clone := remote.cloned (decide (0 < history)) } repo.branchName history =
        (.ok (), { asked := 2, clone := { remote.cloned (decide (0 < history)) with branch := repo.branchName } }) := by
    simp [checkoutNamedBranch, Remote.git, unfetched]
  rw [checked] at same
  rw [finish_tracks remote network repo auth history _ rfl _ rfl rfl same]
  exact or_congr_left ⟨Eq.symm, Eq.symm⟩

theorem gitClone_tracks_iff (pinned : repo.headSha = "") (branch : repo.branchName ≠ "") :
    Tracks remote network repo auth history ↔
      CloneFails network repo auth ∨ Settles remote network repo history := by
  by_cases fails : CloneFails network repo auth
  · exact iff_of_true (cloneFails_tracks remote network repo auth history fails branch) (.inl fails)
  · rw [or_iff_right fails]
    by_cases fetched : (network 1 && remote.serves repo.branchName) = true
    · rw [fetched_tracks remote network repo auth history fails pinned branch fetched, Settles, if_pos fetched]
    · rw [unfetched_tracks remote network repo auth history fails pinned branch (Bool.not_eq_true _ ▸ fetched), Settles,
        if_neg fetched]

end Tracking

def sampleTip (name : String) : Option Commit :=
  if name = "main" then some "c1" else if name = "yaaos/work-1" then some "c2" else none

def sampleRemote : Remote :=
  { tip := sampleTip, default := "main", head := "c1", named := by decide, objects := fun _ => false }

def sampleRepo (branchName : String) : RepoRef :=
  { externalId := "acme/app", cloneUrl := .parsed { scheme := "https", user? := none, rest := "github.com/acme/app" },
    headSha := "", baseSha := "", branchName := branchName }

def sampleAuth : AuthBlock := { kind := "installation", token := "t" }

theorem mainBranch_tracks : Tracks sampleRemote (fun _ => true) (sampleRepo "main") sampleAuth 1 :=
  (gitClone_tracks_iff sampleRemote (fun _ => true) (sampleRepo "main") sampleAuth 1 rfl (by decide)).mpr
    (.inr (.inl rfl))

theorem workBranch_untracked :
    ¬ Tracks sampleRemote (fun _ => true) (sampleRepo "yaaos/work-1") sampleAuth 1 ∧
      ¬ Tracks sampleRemote (fun step => step != 1) (sampleRepo "yaaos/work-1") sampleAuth 1 := by
  have stands (network : Nat → Bool) (up : network 0 = true) :
      ¬ CloneFails network (sampleRepo "yaaos/work-1") sampleAuth := by
    rintro (missing | invalid | down)
    · exact absurd missing (by decide)
    · cases invalid
    · rw [up] at down
      cases down
  constructor
  · intro tracks
    have found := (fetched_tracks sampleRemote _ _ sampleAuth 1 (stands _ rfl) rfl (by decide) rfl).mp tracks
    exact absurd found (by decide)
  · intro tracks
    have start := (unfetched_tracks sampleRemote _ _ sampleAuth 1 (stands _ rfl) rfl (by decide) rfl).mp tracks
    rcases start with same | fails
    · exact absurd same (by decide)
    · exact fails.1 rfl

end Yaaos.Agent.Branches
