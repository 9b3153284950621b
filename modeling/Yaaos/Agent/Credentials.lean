import Yaaos.Agent.Workspace

set_option autoImplicit false

namespace Yaaos.Agent

-- The tokens of a workspace as its commands tell them: the one of the most recent
-- refresh, and the one that was current when `origin` was written.
structure Ledger where
  rotated : Option String
  carried : String

def Ledger.current (ledger : Ledger) : String := ledger.rotated.getD ledger.carried

theorem written_current (ledger : Ledger) : ({ ledger with carried := ledger.current } : Ledger).current = ledger.current := by
  rw [Ledger.current, Ledger.current]
  cases ledger.rotated <;> rfl

def note (workspaceId : String) (command : Command) (reply : Except HandlerError Reply) (ledger : Option Ledger) :
    Option Ledger :=
  match command with
  | .provisionWorkspace cmd =>
      match reply with
      | .ok (.provisioned result) =>
          if cmd.workspaceId = workspaceId ∧ result.reused = false then
            some { rotated := none, carried := cmd.auth.token }
          else ledger
      | _ => ledger
  | .refreshAuth cmd =>
      match reply with
      | .ok _ =>
          if cmd.workspaceId = workspaceId then ledger.map fun old => { old with rotated := some cmd.newToken }
          else ledger
      | .error _ => ledger
  | .pushBranch cmd =>
      match reply with
      | .ok _ | .error (.push _) =>
          if cmd.workspaceId = workspaceId then ledger.map fun old => { old with carried := old.current } else ledger
      | .error _ => ledger
  | .cleanup cmd => if cmd.workspaceId = workspaceId then none else ledger
  | .runClaude _ => ledger
  | .runCodex _ => ledger

def ledgerFrom (workspaceId : String) : Slots → Option Ledger → List Entry → Option Ledger
  | _, ledger, [] => ledger
  | slots, ledger, entry :: rest =>
      let effect := execute slots entry
      ledgerFrom workspaceId effect.slots (note workspaceId entry.2 effect.reply ledger) rest

def ledgerOf (workspaceId : String) (history : List Entry) : Option Ledger :=
  ledgerFrom workspaceId (fun _ => none) none history

def Command.WellFormed : Command → Prop
  | .provisionWorkspace cmd => cmd.repo.cloneUrl.Web ∧ cmd.auth.token ≠ ""
  | .refreshAuth cmd => cmd.newToken ≠ ""
  | _ => True

inductive Tracks : Option Held → Option Ledger → Prop where
  | absent : Tracks none none
  | holds (held : Held) (ledger : Ledger) (web : held.slot.repo.cloneUrl.Web) (minted : held.slot.authTok ≠ "")
      (current : held.slot.authTok = ledger.current) (carried : held.checkout.origin.password? = some ledger.carried) :
      Tracks (some held) (some ledger)

section Steps

variable (workspaceId : String) (host : Host) (slots : Slots) (ledger : Option Ledger)

theorem gitClone_password (repo : RepoRef) (auth : AuthBlock) (history : Int) (checkout : Checkout)
    (web : repo.cloneUrl.Web) (minted : auth.token ≠ "") (cloned : gitClone host repo auth history = .ok checkout) :
    checkout.origin.password? = some auth.token := by
  obtain ⟨url, injected, password⟩ := injectAuth_password repo.cloneUrl auth web minted
  rw [gitClone] at cloned
  by_cases blank : repo.cloneUrl = .empty
  · rw [if_pos blank] at cloned
    cases cloned
  · by_cases nowhere : repo.headSha = "" ∧ repo.branchName = ""
    · rw [if_neg blank, if_pos nowhere] at cloned
      cases cloned
    · rw [if_neg blank, if_neg nowhere, injected] at cloned
      simp only at cloned
      cases failed : host.git (.clone (cloneOptions repo history) url) with
      | some error =>
          rw [failed] at cloned
          cases cloned
      | none =>
          rw [failed] at cloned
          simp only at cloned
          by_cases pinned : repo.headSha ≠ ""
          · rw [if_pos pinned] at cloned
            cases detached : checkoutDetachedSha host repo.headSha history with
            | error reason => rw [detached] at cloned; cases cloned
            | ok _ =>
                cases base : fetchBase host repo.baseSha with
                | error reason => rw [detached, base] at cloned; cases cloned
                | ok _ =>
                    rw [detached, base] at cloned
                    cases cloned
                    exact password
          · rw [if_neg pinned] at cloned
            cases named : checkoutNamedBranch host repo.branchName history with
            | error reason => rw [named] at cloned; cases cloned
            | ok _ =>
                cases base : fetchBase host repo.baseSha with
                | error reason => rw [named, base] at cloned; cases cloned
                | ok _ =>
                    rw [named, base] at cloned
                    cases cloned
                    exact password

theorem provisionWorkspace_tracks (cmd : ProvisionWorkspaceCommand) (tracks : Tracks (slots workspaceId) ledger)
    (web : cmd.repo.cloneUrl.Web) (minted : cmd.auth.token ≠ "") :
    Tracks ((provisionWorkspace host slots cmd).slots workspaceId)
      (note workspaceId (.provisionWorkspace cmd) (provisionWorkspace host slots cmd).reply ledger) := by
  rw [provisionWorkspace]
  cases existing : slots cmd.workspaceId with
  | some held =>
      simp only [answer, note]
      rw [if_neg fun both => by cases both.2]
      exact tracks
  | none =>
      simp only
      cases host.mkdirTemp with
      | error reason => exact tracks
      | ok path =>
          simp only
          cases cloned : gitClone host cmd.repo cmd.auth cmd.history with
          | error reason => exact tracks
          | ok checkout =>
              simp only
              cases configureGitIdentity host cmd.gitUserName cmd.gitUserEmail with
              | error reason => exact tracks
              | ok _ =>
                  simp only [answer, note]
                  by_cases own : cmd.workspaceId = workspaceId
                  · rw [if_pos ⟨own, trivial⟩, own, Function.update_self]
                    exact .holds _ _ web minted rfl
                      (gitClone_password host cmd.repo cmd.auth cmd.history checkout web minted cloned)
                  · rw [if_neg fun both => own both.1, Function.update_of_ne (Ne.symm own)]
                    exact tracks

theorem refreshAuth_tracks (cmd : RefreshWorkspaceAuthCommand) (tracks : Tracks (slots workspaceId) ledger)
    (minted : cmd.newToken ≠ "") :
    Tracks ((refreshAuth slots cmd).slots workspaceId)
      (note workspaceId (.refreshAuth cmd) (refreshAuth slots cmd).reply ledger) := by
  rw [refreshAuth]
  cases found : slots cmd.workspaceId with
  | none => exact tracks
  | some held =>
      simp only [answer, note]
      by_cases own : cmd.workspaceId = workspaceId
      · rw [if_pos own]
        rw [own] at found ⊢
        rw [found] at tracks
        rw [Function.update_self]
        cases tracks with
        | holds _ old web _ current carried => exact .holds _ _ web minted rfl carried
      · rw [if_neg own, Function.update_of_ne (Ne.symm own)]
        exact tracks

theorem runInvocation_tracks (held : Held) (cmd : InvocationCommand) (agent : String) (argv : List String)
    (found : slots cmd.workspaceId = some held) (tracks : Tracks (slots workspaceId) ledger) :
    Tracks ((runInvocation host slots held cmd agent argv).slots workspaceId) ledger := by
  simp only [runInvocation]
  by_cases own : cmd.workspaceId = workspaceId
  · rw [own] at found ⊢
    rw [found] at tracks
    rw [Function.update_self]
    cases tracks with
    | holds _ old web minted current carried => exact .holds _ _ web minted current carried
  · rw [Function.update_of_ne (Ne.symm own)]
    exact tracks

theorem note_pushed (cmd : PushBranchCommand) (reply : Except HandlerError Reply)
    (pushes : (∃ result, reply = .ok result) ∨ ∃ reason, reply = .error (.push reason)) :
    note workspaceId (.pushBranch cmd) reply ledger =
      if cmd.workspaceId = workspaceId then ledger.map fun old => { old with carried := old.current } else ledger := by
  rcases pushes with ⟨result, same⟩ | ⟨reason, same⟩ <;> rw [same] <;> rfl

theorem pushBranch_tracks (cmd : PushBranchCommand) (tracks : Tracks (slots workspaceId) ledger) :
    Tracks ((pushBranch host slots cmd).slots workspaceId)
      (note workspaceId (.pushBranch cmd) (pushBranch host slots cmd).reply ledger) := by
  rw [pushBranch]
  cases found : slots cmd.workspaceId with
  | none => exact tracks
  | some held =>
      simp only
      cases headBranchName host held.checkout with
      | none => exact tracks
      | some branch =>
          simp only
          cases fresh : pushUrlWithCurrentToken held.slot with
          | error reason => exact tracks
          | ok freshUrl =>
              simp only
              cases host.git (.setUrl freshUrl) with
              | some error => exact tracks
              | none =>
                  simp only
                  rw [note_pushed workspaceId ledger cmd _ (by cases host.git .push <;> simp)]
                  by_cases own : cmd.workspaceId = workspaceId
                  · rw [if_pos own]
                    rw [own] at found ⊢
                    rw [found] at tracks
                    rw [Function.update_self]
                    cases tracks with
                    | holds _ old web minted current carried =>
                        obtain ⟨url, injected, password⟩ := injectAuth_password held.slot.repo.cloneUrl
                          { kind := held.slot.authKind, token := held.slot.authTok } web minted
                        rw [pushUrlWithCurrentToken, injected] at fresh
                        cases fresh
                        exact .holds _ _ web minted (current.trans (written_current old).symm)
                          (password.trans (congrArg some current))
                  · rw [if_neg own, Function.update_of_ne (Ne.symm own)]
                    exact tracks

theorem cleanup_tracks (cmd : CleanupWorkspaceCommand) (tracks : Tracks (slots workspaceId) ledger) :
    Tracks ((cleanup host slots cmd).slots workspaceId)
      (note workspaceId (.cleanup cmd) (cleanup host slots cmd).reply ledger) := by
  rw [cleanup, note]
  cases found : slots cmd.workspaceId with
  | none =>
      by_cases own : cmd.workspaceId = workspaceId
      · rw [if_pos own]
        rw [own] at found
        simp only [answer]
        rw [found]
        exact .absent
      · rw [if_neg own]
        exact tracks
  | some held =>
      have dropped : Tracks (Function.update slots cmd.workspaceId none workspaceId)
          (if cmd.workspaceId = workspaceId then none else ledger) := by
        by_cases own : cmd.workspaceId = workspaceId
        · rw [if_pos own, own, Function.update_self]
          exact .absent
        · rw [if_neg own, Function.update_of_ne (Ne.symm own)]
          exact tracks
      simp only
      cases host.removeAll with
      | some reason => exact dropped
      | none => exact dropped

theorem execute_tracks (entry : Entry) (formed : entry.2.WellFormed) (tracks : Tracks (slots workspaceId) ledger) :
    Tracks ((execute slots entry).slots workspaceId)
      (note workspaceId entry.2 (execute slots entry).reply ledger) := by
  obtain ⟨host, command⟩ := entry
  cases command with
  | provisionWorkspace cmd =>
      exact provisionWorkspace_tracks workspaceId host slots ledger cmd tracks formed.1 formed.2
  | refreshAuth cmd => exact refreshAuth_tracks workspaceId slots ledger cmd tracks formed
  | pushBranch cmd => exact pushBranch_tracks workspaceId host slots ledger cmd tracks
  | cleanup cmd => exact cleanup_tracks workspaceId host slots ledger cmd tracks
  | runClaude cmd =>
      simp only [execute, runClaude, note]
      cases found : slots cmd.workspaceId with
      | none => exact tracks
      | some held =>
          simp only
          cases checkInvocation host cmd with
          | error error => exact tracks
          | ok argv => exact runInvocation_tracks workspaceId host slots ledger held cmd "claude" argv found tracks
  | runCodex cmd =>
      simp only [execute, runCodex, note]
      cases found : slots cmd.workspaceId with
      | none => exact tracks
      | some held =>
          simp only
          cases (checkInvocation host cmd).bind (withOutputSchema host cmd) with
          | error error => exact tracks
          | ok argv => exact runInvocation_tracks workspaceId host slots ledger held cmd "codex" argv found tracks

theorem history_tracks (history : List Entry) (formed : ∀ entry ∈ history, entry.2.WellFormed)
    (tracks : Tracks (slots workspaceId) ledger) :
    Tracks (history.foldl (fun slots entry => (execute slots entry).slots) slots workspaceId)
      (ledgerFrom workspaceId slots ledger history) := by
  induction history generalizing slots ledger with
  | nil => exact tracks
  | cons entry rest ih =>
      rw [List.foldl_cons, ledgerFrom]
      exact ih _ _ (fun later member => formed later (List.mem_cons_of_mem entry member))
        (execute_tracks workspaceId slots ledger entry (formed entry List.mem_cons_self) tracks)

end Steps

def ExitsOnBranch (workspaceId : String) (host : Host) (slots : Slots) (cmd : InvocationCommand)
    (checked : Except HandlerError (List String)) : Prop :=
  cmd.workspaceId = workspaceId ∧ (∃ argv, checked = .ok argv) ∧ ∃ held, slots workspaceId = some held ∧
    headBranchName host { held.checkout with head := host.leaves held.checkout.head } ≠ none

def PushesOnExit (workspaceId : String) (slots : Slots) (entry : Entry) : Prop :=
  match entry.2 with
  | .runClaude cmd => ExitsOnBranch workspaceId entry.1 slots cmd (checkInvocation entry.1 cmd)
  | .runCodex cmd =>
      ExitsOnBranch workspaceId entry.1 slots cmd ((checkInvocation entry.1 cmd).bind (withOutputSchema entry.1 cmd))
  | _ => False

def PushesRotated (workspaceId : String) (history : List Entry) : Prop :=
  ∀ before entry after, history = before ++ entry :: after →
    ∀ token, (ledgerOf workspaceId before).bind Ledger.rotated = some token →
      ∀ push ∈ (execute (executeAll before) entry).pushes, push.workspaceId = workspaceId →
        push.url.password? = some token

-- Whenever an invocation is about to push, `origin` was written with that token.
def OriginRotated (workspaceId : String) (history : List Entry) : Prop :=
  ∀ before entry after, history = before ++ entry :: after →
    ∀ token, (ledgerOf workspaceId before).bind Ledger.rotated = some token →
      PushesOnExit workspaceId (executeAll before) entry →
        (ledgerOf workspaceId before).map Ledger.carried = some token

section Pushes

variable (workspaceId : String) (host : Host) (slots : Slots)

theorem runInvocation_pushes (held : Held) (cmd : InvocationCommand) (agent : String) (argv : List String) (push : Push) :
    push ∈ (runInvocation host slots held cmd agent argv).pushes ↔
      headBranchName host { held.checkout with head := host.leaves held.checkout.head } ≠ none ∧
        push = { workspaceId := cmd.workspaceId, url := held.checkout.origin } := by
  simp only [runInvocation, maybePushOriginHead]
  cases headBranchName host { held.checkout with head := host.leaves held.checkout.head } with
  | none => simp
  | some branch => simp

theorem refused_pushes (error : HandlerError) (fine : Push → Prop) : ∀ push ∈ (refuse slots error).pushes, fine push := by
  intro push listed
  cases listed

theorem exit_pushes (ledger : Option Ledger) (token : String) (tracks : Tracks (slots workspaceId) ledger)
    (rotated : ledger.bind Ledger.rotated = some token) (cmd : InvocationCommand) (agent : String)
    (checked : Except HandlerError (List String)) :
    (∀ push ∈ (match slots cmd.workspaceId with
        | none => refuse slots .unknownWorkspace
        | some held =>
            match checked with
            | .error error => refuse slots error
            | .ok argv => runInvocation host slots held cmd agent argv : Effect).pushes,
      push.workspaceId = workspaceId → push.url.password? = some token) ↔
    (ExitsOnBranch workspaceId host slots cmd checked → ledger.map Ledger.carried = some token) := by
  cases found : slots cmd.workspaceId with
  | none =>
      refine ⟨fun _ exits => ?_, fun _ => refused_pushes slots _ _⟩
      obtain ⟨own, _, held, here, _⟩ := exits
      rw [own, here] at found
      cases found
  | some held =>
      cases checked with
      | error error =>
          refine ⟨fun _ exits => ?_, fun _ => refused_pushes slots error _⟩
          obtain ⟨_, ⟨_, ok⟩, _⟩ := exits
          cases ok
      | ok argv =>
          simp only [runInvocation_pushes]
          constructor
          · rintro pushes ⟨own, _, here, isHere, named⟩
            rw [own, isHere] at found
            cases found
            rw [isHere] at tracks
            cases tracks with
            | holds _ old web minted current carried =>
                have password := pushes _ ⟨named, rfl⟩ own
                rw [Option.map_some, ← carried]
                exact password
          · rintro repointed push ⟨named, same⟩ own
            rw [same] at own ⊢
            simp only at own
            rw [own] at found
            have written := repointed ⟨own, ⟨argv, rfl⟩, held, found, named⟩
            rw [found] at tracks
            cases tracks with
            | holds _ old web minted current carried =>
                rw [Option.map_some] at written
                exact carried.trans written

theorem pushBranch_rotated (ledger : Option Ledger) (token : String) (tracks : Tracks (slots workspaceId) ledger)
    (rotated : ledger.bind Ledger.rotated = some token) (cmd : PushBranchCommand) :
    ∀ push ∈ (pushBranch host slots cmd).pushes, push.workspaceId = workspaceId → push.url.password? = some token := by
  intro push listed own
  rw [pushBranch] at listed
  cases found : slots cmd.workspaceId with
  | none =>
      rw [found] at listed
      cases listed
  | some held =>
      rw [found] at listed
      simp only at listed
      cases named : headBranchName host held.checkout with
      | none =>
          rw [named] at listed
          cases listed
      | some branch =>
          rw [named] at listed
          simp only at listed
          cases fresh : pushUrlWithCurrentToken held.slot with
          | error reason =>
              rw [fresh] at listed
              cases listed
          | ok freshUrl =>
              rw [fresh] at listed
              simp only at listed
              cases written : host.git (.setUrl freshUrl) with
              | some error =>
                  rw [written] at listed
                  cases listed
              | none =>
                  rw [written] at listed
                  have same := List.mem_singleton.mp listed
                  rw [same] at own ⊢
                  simp only at own
                  rw [own] at found
                  rw [found] at tracks
                  cases tracks with
                  | holds _ old web minted current carried =>
                      obtain ⟨url, injected, password⟩ := injectAuth_password held.slot.repo.cloneUrl
                        { kind := held.slot.authKind, token := held.slot.authTok } web minted
                      rw [pushUrlWithCurrentToken, injected] at fresh
                      cases fresh
                      have isToken : old.rotated = some token := rotated
                      rw [Ledger.current, isToken] at current
                      exact password.trans (congrArg some current)

theorem step_rotated (ledger : Option Ledger) (token : String) (tracks : Tracks (slots workspaceId) ledger)
    (rotated : ledger.bind Ledger.rotated = some token) (entry : Entry) :
    (∀ push ∈ (execute slots entry).pushes, push.workspaceId = workspaceId → push.url.password? = some token) ↔
      (PushesOnExit workspaceId slots entry → ledger.map Ledger.carried = some token) := by
  obtain ⟨host, command⟩ := entry
  have silent (effect : Effect) (none_ : effect.pushes = []) :
      (∀ push ∈ effect.pushes, push.workspaceId = workspaceId → push.url.password? = some token) ↔
        (False → ledger.map Ledger.carried = some token) := by
    rw [none_]
    exact ⟨fun _ no => no.elim, fun _ push listed => by cases listed⟩
  cases command with
  | provisionWorkspace cmd =>
      refine silent _ ?_
      simp only [execute, provisionWorkspace]
      cases slots cmd.workspaceId with
      | some held => rfl
      | none =>
          simp only
          cases host.mkdirTemp with
          | error reason => rfl
          | ok path =>
              simp only
              cases gitClone host cmd.repo cmd.auth cmd.history with
              | error reason => rfl
              | ok checkout =>
                  simp only
                  cases configureGitIdentity host cmd.gitUserName cmd.gitUserEmail <;> rfl
  | refreshAuth cmd =>
      refine silent _ ?_
      simp only [execute, refreshAuth]
      cases slots cmd.workspaceId <;> rfl
  | cleanup cmd =>
      refine silent _ ?_
      simp only [execute, cleanup]
      cases slots cmd.workspaceId with
      | none => rfl
      | some held =>
          simp only
          cases host.removeAll <;> rfl
  | pushBranch cmd =>
      exact ⟨fun _ no => no.elim, fun _ => pushBranch_rotated workspaceId host slots ledger token tracks rotated cmd⟩
  | runClaude cmd => exact exit_pushes workspaceId host slots ledger token tracks rotated cmd "claude" _
  | runCodex cmd => exact exit_pushes workspaceId host slots ledger token tracks rotated cmd "codex" _

end Pushes

theorem rotated_pushes (workspaceId : String) (history : List Entry) (formed : ∀ entry ∈ history, entry.2.WellFormed) :
    PushesRotated workspaceId history ↔ OriginRotated workspaceId history := by
  have each (before : List Entry) (entry : Entry) (after : List Entry) (same : history = before ++ entry :: after)
      (token : String) (rotated : (ledgerOf workspaceId before).bind Ledger.rotated = some token) :=
    step_rotated workspaceId (executeAll before) (ledgerOf workspaceId before) token
      (history_tracks workspaceId (fun _ => none) none before
        (fun earlier member => formed earlier (by rw [same]; exact List.mem_append_left _ member)) .absent)
      rotated entry
  constructor
  · exact fun pushes before entry after same token rotated =>
      (each before entry after same token rotated).mp (pushes before entry after same token rotated)
  · exact fun origin before entry after same token rotated =>
      (each before entry after same token rotated).mpr (origin before entry after same token rotated)

def sampleHost : Host where
  mkdirTemp := .ok "/tmp/yaaos-ws-w-1"
  mkdirAll := none
  write := none
  stat := fun _ => true
  git := fun _ => none
  run := fun _ => .success { exitCode := 0, stdout := "", stderr := "", duration := 1 }
  leaves := id
  readArtifact := fun _ => (none, "")
  removeAll := none

def sampleUrl (user? : Option (String × String)) : RemoteUrl :=
  .parsed { scheme := "https", user? := user?, rest := "github.com/me/repo.git" }

def sampleProvision : Entry :=
  (sampleHost, .provisionWorkspace
    { workspaceId := "w",
      repo := { externalId := "me/repo", cloneUrl := sampleUrl none, headSha := "", baseSha := "", branchName := "work" },
      history := 1, auth := { kind := "github_installation", token := "first" }, gitUserName := "", gitUserEmail := "" })

def sampleRefresh : Entry := (sampleHost, .refreshAuth { workspaceId := "w", newToken := "second" })

def sampleInvoke : Entry :=
  (sampleHost, .runClaude
    { commandId := "c", workspaceId := "w", argv? := some ["claude"], skillPath := "SKILL.md", outputSchemaJson := "" })

def samplePush : Entry := (sampleHost, .pushBranch { workspaceId := "w" })

theorem sample_rotated : PushesRotated "w" [sampleProvision, sampleRefresh, samplePush, sampleInvoke] := by
  refine (rotated_pushes "w" [sampleProvision, sampleRefresh, samplePush, sampleInvoke] ?_).mpr ?_
  · simp [sampleProvision, sampleRefresh, samplePush, sampleInvoke, Command.WellFormed, sampleUrl, RemoteUrl.Web]
  · intro before entry after same token rotated exits
    rcases before with _ | ⟨_, _ | ⟨_, _ | ⟨_, _ | ⟨_, earlier⟩⟩⟩⟩
    · cases rotated
    · cases same
      cases rotated
    · cases same
      exact exits.elim
    · cases same
      exact rotated
    · have length := congrArg List.length same
      simp only [List.cons_append, List.length_cons, List.length_append, List.length_nil] at length
      omega

-- The exit push after a refresh still goes with the token of the clone.
theorem sample_stale :
    ((execute (executeAll [sampleProvision, sampleRefresh]) sampleInvoke).pushes.map fun push => push.url.password?) =
        [some "first"] ∧
      ¬ PushesRotated "w" [sampleProvision, sampleRefresh, sampleInvoke] := by
  refine ⟨rfl, fun rotated => ?_⟩
  have same := rotated [sampleProvision, sampleRefresh] sampleInvoke [] rfl "second" rfl
    { workspaceId := "w", url := sampleUrl (some ("x-access-token", "first")) } List.mem_cons_self rfl
  exact absurd same (by decide)

end Yaaos.Agent
