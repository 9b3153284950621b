import Mathlib.Logic.Function.Basic

set_option autoImplicit false

namespace Yaaos.Agent

structure Url where
  scheme : String
  user? : Option (String × String)
  rest : String
  deriving DecidableEq

inductive RemoteUrl where
  | parsed (url : Url)
  | malformed (text : String)
  deriving DecidableEq

def RemoteUrl.empty : RemoteUrl := .parsed { scheme := "", user? := none, rest := "" }

-- The token that a push to this URL authenticates with.
def RemoteUrl.password? : RemoteUrl → Option String
  | .parsed url => url.user?.map Prod.snd
  | .malformed _ => none

structure AuthBlock where
  kind : String
  token : String

def injectAuth (rawUrl : RemoteUrl) (auth : AuthBlock) : Except String RemoteUrl :=
  if auth.token = "" then .ok rawUrl
  else match rawUrl with
    | .malformed text => .error ("parse url: " ++ text)
    | .parsed url =>
        if url.scheme ≠ "https" ∧ url.scheme ≠ "http" then .ok rawUrl
        else .ok (.parsed { url with user? := some ("x-access-token", auth.token) })

def RemoteUrl.Web : RemoteUrl → Prop
  | .parsed url => url.scheme = "https" ∨ url.scheme = "http"
  | .malformed _ => False

theorem injectAuth_password (rawUrl : RemoteUrl) (auth : AuthBlock) (web : rawUrl.Web) (token : auth.token ≠ "") :
    ∃ url, injectAuth rawUrl auth = .ok url ∧ url.password? = some auth.token := by
  cases rawUrl with
  | malformed text => exact web.elim
  | parsed url =>
      have takes : ¬ (url.scheme ≠ "https" ∧ url.scheme ≠ "http") :=
        fun other => web.elim (absurd · other.1) (absurd · other.2)
      simp only [injectAuth, if_neg token, if_neg takes]
      exact ⟨_, rfl, rfl⟩

structure RepoRef where
  externalId : String
  cloneUrl : RemoteUrl
  headSha : String
  baseSha : String
  branchName : String

structure ProvisionWorkspaceCommand where
  workspaceId : String
  repo : RepoRef
  history : Int
  auth : AuthBlock
  gitUserName : String
  gitUserEmail : String

structure RefreshWorkspaceAuthCommand where
  workspaceId : String
  newToken : String

structure InvocationCommand where
  commandId : String
  workspaceId : String
  argv? : Option (List String)
  skillPath : String
  outputSchemaJson : String

structure PushBranchCommand where
  workspaceId : String

structure CleanupWorkspaceCommand where
  workspaceId : String

inductive Command where
  | provisionWorkspace (cmd : ProvisionWorkspaceCommand)
  | refreshAuth (cmd : RefreshWorkspaceAuthCommand)
  | runClaude (cmd : InvocationCommand)
  | runCodex (cmd : InvocationCommand)
  | pushBranch (cmd : PushBranchCommand)
  | cleanup (cmd : CleanupWorkspaceCommand)

structure ProvisionResult where
  workspaceId : String
  path : String
  repo : String
  headSha : String
  branch : String
  reused : Bool

structure ExecResult where
  exitCode : Int
  stdout : String
  stderr : String
  duration : Nat

structure InvokeResult where
  workspaceId : String
  artifact : Option String
  artifactError : String
  execResult : Option ExecResult

inductive Reply where
  | provisioned (result : ProvisionResult)
  | refreshed (workspaceId : String)
  | invoked (result : InvokeResult)
  | pushed (workspaceId : String)
  | cleaned (workspaceId : String) (destroyed : Bool)

inductive HandlerError where
  | unknownWorkspace
  | mkdirTempdir (reason : String)
  | gitClone (reason : String)
  | gitIdentity (reason : String)
  | decodeInvocation
  | argvMissing
  | skillNotFound (skillPath : String)
  | createTmpdir (reason : String)
  | writeOutputSchema (reason : String)
  | exited (agent : String) (result : ExecResult) (shipped : InvokeResult)
  | subprocess (agent reason : String) (shipped : InvokeResult)
  | exitPush (reason : String) (shipped : InvokeResult)
  | headDetached (path : String)
  | auth (reason : String)
  | setUrl (reason : String)
  | push (reason : String)
  | cleanup (reason : String)

inductive GitCall where
  | clone (options : List String) (url : RemoteUrl)
  | fetch (args : List String)
  | checkout (args : List String)
  | config (key value : String)
  | symbolicRef
  | setUrl (url : RemoteUrl)
  | push
  deriving DecidableEq

inductive RunOutcome where
  | success (result : ExecResult)
  | exitError (result : ExecResult)
  | failed (reason : String)

-- What the machine under the agent answers while one command runs. `git` gives
-- the redacted error of a call that fails.
structure Host where
  mkdirTemp : Except String String
  mkdirAll : Option String
  write : Option String
  stat : String → Bool
  git : GitCall → Option String
  run : List String → RunOutcome
  leaves : Option String → Option String
  readArtifact : String → Option String × String
  removeAll : Option String

structure Checkout where
  origin : RemoteUrl
  head : Option String

structure RealSlot where
  path : String
  repo : RepoRef
  authKind : String
  authTok : String

structure Held where
  slot : RealSlot
  checkout : Checkout

abbrev Slots : Type := String → Option Held

structure Push where
  workspaceId : String
  url : RemoteUrl

structure Effect where
  slots : Slots
  pushes : List Push
  reply : Except HandlerError Reply

def checkoutDetachedSha (host : Host) (headSha : String) (history : Int) : Except String Unit :=
  let fetchDepth := if history = 0 then 1 else history + 1
  let checkout : Except String Unit :=
    match host.git (.checkout ["--detach", headSha]) with
    | some error => .error ("checkout " ++ headSha ++ ": " ++ error)
    | none => .ok ()
  match host.git (.fetch ["--depth=" ++ toString fetchDepth, "origin", headSha]) with
  | none => checkout
  | some _ =>
      match host.git (.fetch ["origin"]) with
      | some error => .error ("fetch fallback: " ++ error)
      | none => checkout

def checkoutNamedBranch (host : Host) (branch : String) (history : Int) : Except String Unit :=
  let fetchDepth := if history ≤ 0 then 1 else history
  match host.git (.fetch ["--depth=" ++ toString fetchDepth, "origin", branch]) with
  | none =>
      match host.git (.checkout ["-B", branch, "origin/" ++ branch]) with
      | some error => .error ("checkout tracking " ++ branch ++ ": " ++ error)
      | none => .ok ()
  | some _ =>
      match host.git (.checkout ["-B", branch]) with
      | some error => .error ("checkout new branch " ++ branch ++ ": " ++ error)
      | none => .ok ()

def fetchBase (host : Host) (baseSha : String) : Except String Unit :=
  if baseSha = "" then .ok ()
  else match host.git (.fetch ["--depth=1", "origin", baseSha]) with
    | none => .ok ()
    | some _ =>
        match host.git (.fetch ["origin"]) with
        | some error => .error ("fetch base fallback: " ++ error)
        | none => .ok ()

def cloneOptions (repo : RepoRef) (history : Int) : List String :=
  (if history > 0 then ["--depth=" ++ toString history] else []) ++
    if repo.headSha ≠ "" ∧ repo.branchName ≠ "" then ["--branch", repo.branchName] else []

-- `origin` keeps the URL of the clone, with the token in it.
def gitClone (host : Host) (repo : RepoRef) (auth : AuthBlock) (history : Int) : Except String Checkout :=
  if repo.cloneUrl = .empty then .error "missing clone_url"
  else if repo.headSha = "" ∧ repo.branchName = "" then .error "missing head_sha or branch_name"
  else
    match injectAuth repo.cloneUrl auth with
    | .error reason => .error ("auth: " ++ reason)
    | .ok cloneUrl =>
        match host.git (.clone (cloneOptions repo history) cloneUrl) with
        | some error => .error error
        | none =>
            if repo.headSha ≠ "" then do
              checkoutDetachedSha host repo.headSha history
              fetchBase host repo.baseSha
              return { origin := cloneUrl, head := none }
            else do
              checkoutNamedBranch host repo.branchName history
              fetchBase host repo.baseSha
              return { origin := cloneUrl, head := some repo.branchName }

def configureGitIdentity (host : Host) (name email : String) : Except String Unit :=
  match if name = "" then none else host.git (.config "user.name" name) with
  | some error => .error ("git config user.name: " ++ error)
  | none =>
      match if email = "" then none else host.git (.config "user.email" email) with
      | some error => .error ("git config user.email: " ++ error)
      | none => .ok ()

def headBranchName (host : Host) (checkout : Checkout) : Option String :=
  match host.git .symbolicRef with
  | some _ => none
  | none => checkout.head.bind fun branch => if branch = "" then none else some branch

def maybePushOriginHead (host : Host) (workspaceId : String) (checkout : Checkout) : List Push × Option String :=
  match headBranchName host checkout with
  | none => ([], none)
  | some _ => ([{ workspaceId := workspaceId, url := checkout.origin }], host.git .push)

def pushUrlWithCurrentToken (slot : RealSlot) : Except String RemoteUrl :=
  injectAuth slot.repo.cloneUrl { kind := slot.authKind, token := slot.authTok }

def refuse (slots : Slots) (error : HandlerError) : Effect := { slots := slots, pushes := [], reply := .error error }

def answer (slots : Slots) (reply : Reply) : Effect := { slots := slots, pushes := [], reply := .ok reply }

def provisionWorkspace (host : Host) (slots : Slots) (cmd : ProvisionWorkspaceCommand) : Effect :=
  match slots cmd.workspaceId with
  | some existing =>
      answer slots (.provisioned
        { workspaceId := cmd.workspaceId, path := existing.slot.path, repo := "", headSha := "", branch := "",
          reused := true })
  | none =>
      match host.mkdirTemp with
      | .error reason => refuse slots (.mkdirTempdir reason)
      | .ok path =>
          match gitClone host cmd.repo cmd.auth cmd.history with
          | .error reason => refuse slots (.gitClone reason)
          | .ok checkout =>
              match configureGitIdentity host cmd.gitUserName cmd.gitUserEmail with
              | .error reason => refuse slots (.gitIdentity reason)
              | .ok () =>
                  let slot : RealSlot :=
                    { path := path, repo := cmd.repo, authKind := cmd.auth.kind, authTok := cmd.auth.token }
                  answer (Function.update slots cmd.workspaceId (some { slot := slot, checkout := checkout }))
                    (.provisioned
                      { workspaceId := cmd.workspaceId, path := path, repo := cmd.repo.externalId,
                        headSha := cmd.repo.headSha, branch := cmd.repo.branchName, reused := false })

def refreshAuth (slots : Slots) (cmd : RefreshWorkspaceAuthCommand) : Effect :=
  match slots cmd.workspaceId with
  | none => refuse slots .unknownWorkspace
  | some held =>
      let slot := { held.slot with authTok := cmd.newToken }
      answer (Function.update slots cmd.workspaceId (some { held with slot := slot })) (.refreshed cmd.workspaceId)

def checkInvocation (host : Host) (cmd : InvocationCommand) : Except HandlerError (List String) :=
  match cmd.argv? with
  | none => .error .decodeInvocation
  | some argv =>
      if argv = [] then .error .argvMissing
      else if cmd.skillPath = "" then .error (.skillNotFound "(empty skill_path)")
      else if !host.stat cmd.skillPath then .error (.skillNotFound cmd.skillPath)
      else match host.mkdirAll with
        | some reason => .error (.createTmpdir reason)
        | none => .ok argv

def runInvocation (host : Host) (slots : Slots) (held : Held) (cmd : InvocationCommand) (agent : String)
    (argv : List String) : Effect :=
  let checkout := { held.checkout with head := host.leaves held.checkout.head }
  let (artifact, artifactError) := host.readArtifact cmd.commandId
  let (pushes, pushError) := maybePushOriginHead host cmd.workspaceId checkout
  let result : InvokeResult :=
    { workspaceId := cmd.workspaceId, artifact := artifact, artifactError := artifactError, execResult := none }
  { slots := Function.update slots cmd.workspaceId (some { held with checkout := checkout }), pushes := pushes,
    reply :=
      match host.run argv with
      | .exitError exit => .error (.exited agent exit result)
      | .failed reason => .error (.subprocess agent reason result)
      | .success exit =>
          match pushError with
          | some reason => .error (.exitPush reason result)
          | none => .ok (.invoked { result with execResult := some exit }) }

def runClaude (host : Host) (slots : Slots) (cmd : InvocationCommand) : Effect :=
  match slots cmd.workspaceId with
  | none => refuse slots .unknownWorkspace
  | some held =>
      match checkInvocation host cmd with
      | .error error => refuse slots error
      | .ok argv => runInvocation host slots held cmd "claude" argv

def withOutputSchema (host : Host) (cmd : InvocationCommand) (argv : List String) : Except HandlerError (List String) :=
  if cmd.outputSchemaJson = "" then .ok argv
  else match host.write with
    | some reason => .error (.writeOutputSchema reason)
    | none => .ok (argv ++ ["--output-schema", cmd.commandId ++ "-schema.json"])

def runCodex (host : Host) (slots : Slots) (cmd : InvocationCommand) : Effect :=
  match slots cmd.workspaceId with
  | none => refuse slots .unknownWorkspace
  | some held =>
      match (checkInvocation host cmd).bind (withOutputSchema host cmd) with
      | .error error => refuse slots error
      | .ok argv => runInvocation host slots held cmd "codex" argv

-- `origin` is set to the current token before the push.
def pushBranch (host : Host) (slots : Slots) (cmd : PushBranchCommand) : Effect :=
  match slots cmd.workspaceId with
  | none => refuse slots .unknownWorkspace
  | some held =>
      match headBranchName host held.checkout with
      | none => refuse slots (.headDetached held.slot.path)
      | some _ =>
          match pushUrlWithCurrentToken held.slot with
          | .error reason => refuse slots (.auth reason)
          | .ok freshUrl =>
              match host.git (.setUrl freshUrl) with
              | some error => refuse slots (.setUrl error)
              | none =>
                  { slots := Function.update slots cmd.workspaceId
                      (some { held with checkout := { held.checkout with origin := freshUrl } }),
                    pushes := [{ workspaceId := cmd.workspaceId, url := freshUrl }],
                    reply :=
                      match host.git .push with
                      | some error => .error (.push error)
                      | none => .ok (.pushed cmd.workspaceId) }

-- The slot is dropped before its directory is removed.
def cleanup (host : Host) (slots : Slots) (cmd : CleanupWorkspaceCommand) : Effect :=
  match slots cmd.workspaceId with
  | none => answer slots (.cleaned cmd.workspaceId false)
  | some _ =>
      let slots := Function.update slots cmd.workspaceId none
      match host.removeAll with
      | some reason => refuse slots (.cleanup reason)
      | none => answer slots (.cleaned cmd.workspaceId true)

abbrev Entry : Type := Host × Command

def execute (slots : Slots) (entry : Entry) : Effect :=
  match entry.2 with
  | .provisionWorkspace cmd => provisionWorkspace entry.1 slots cmd
  | .refreshAuth cmd => refreshAuth slots cmd
  | .runClaude cmd => runClaude entry.1 slots cmd
  | .runCodex cmd => runCodex entry.1 slots cmd
  | .pushBranch cmd => pushBranch entry.1 slots cmd
  | .cleanup cmd => cleanup entry.1 slots cmd

def executeAll (history : List Entry) : Slots := history.foldl (fun slots entry => (execute slots entry).slots) fun _ => none

end Yaaos.Agent
