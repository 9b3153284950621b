import Mathlib.Logic.Function.Basic
import Yaaos.Pipelines.Anchor

set_option autoImplicit false

namespace Yaaos.Intake

open Yaaos.Base
open Yaaos.Pipelines

inductive PrState where
  | opened
  | closed
  | merged
  deriving DecidableEq

-- The `pull_request` and `repository` objects of a delivery.
structure PullPayload where
  repoFullName : String
  number : Option Nat
  title : String
  body : Option String
  userLogin : String
  userType : String
  baseRef : String
  headRef : String
  baseSha : String
  headSha : String
  draft : Bool
  headRepo : Option String
  baseRepo : Option String
  merged : Bool
  state : PrState
  htmlUrl : String

def PullPayload.externalId? (payload : PullPayload) : Option String :=
  payload.number.map fun number => payload.repoFullName ++ "#" ++ toString number

structure VcsPullRequest where
  pluginId : String
  externalId : String
  repoExternalId : String
  number : Nat
  title : String
  body : Option String
  authorLogin : String
  authorIsBot : Bool
  baseBranch : String
  headBranch : String
  baseSha : String
  headSha : String
  isDraft : Bool
  isFork : Bool
  state : PrState
  htmlUrl : String
  deriving DecidableEq

def PullPayload.prState (payload : PullPayload) : PrState := if payload.merged then .merged else payload.state

inductive PullError where
  | badRequest (text : String)
  | keyError (key : String)
  | multipleResultsFound
  | ticketNotFound (ticketId : Uuid)
  | invalidTicketTransition (ticketId : Uuid)
  | engine (error : EngineError)

def parsePr (payload : PullPayload) : Except PullError VcsPullRequest :=
  match payload.number with
  | none => .error (.keyError "number")
  | some number => .ok
      { pluginId := "github", externalId := payload.repoFullName ++ "#" ++ toString number,
        repoExternalId := payload.repoFullName, number := number, title := payload.title, body := payload.body,
        authorLogin := payload.userLogin, authorIsBot := payload.userType.toLower == "bot",
        baseBranch := payload.baseRef, headBranch := payload.headRef, baseSha := payload.baseSha,
        headSha := payload.headSha, isDraft := payload.draft, isFork := payload.headRepo != payload.baseRepo,
        state := payload.prState, htmlUrl := payload.htmlUrl }

theorem parsePr_ok (payload : PullPayload) (pr : VcsPullRequest) (parsed : parsePr payload = .ok pr) :
    pr.pluginId = "github" ∧ payload.externalId? = some pr.externalId ∧ pr.state = payload.prState := by
  unfold parsePr at parsed
  cases numbered : payload.number with
  | none => simp [numbered] at parsed
  | some number =>
      simp only [numbered, Except.ok.injEq] at parsed
      subst parsed
      exact ⟨rfl, by simp [PullPayload.externalId?, numbered], rfl⟩

structure PullRequest where
  id : Uuid
  orgId : Uuid
  ticketId : Uuid
  mirror : VcsPullRequest
  deriving DecidableEq

def PullRequest.key (row : PullRequest) : String × String := (row.mirror.pluginId, row.mirror.externalId)

structure TicketSource where
  orgId : Uuid
  source : String
  sourceExternalId : String
  ticketId : Uuid

def TicketSource.key (row : TicketSource) : Uuid × String × String := (row.orgId, row.source, row.sourceExternalId)

structure PullStore where
  db : Db
  pulls : Table PullRequest (String × String) PullRequest.key
  sources : Table TicketSource (Uuid × String × String) TicketSource.key
  implied : String → Option PrState

-- The fields that an upsert refreshes; the others stay as they were inserted.
def PullRequest.sync (row : PullRequest) (pr : VcsPullRequest) : PullRequest :=
  { row with
    mirror :=
      { row.mirror with
        title := pr.title, body := pr.body, baseSha := pr.baseSha, headSha := pr.headSha, isDraft := pr.isDraft,
        state := pr.state, htmlUrl := pr.htmlUrl } }

def PullRequest.setState (row : PullRequest) (state : PrState) : PullRequest :=
  { row with mirror := { row.mirror with state := state } }

def mintTicketId (db : Db) : Uuid := db.tickets.rows.foldr (fun row next => max next (row.id + 1)) db.nextId

theorem mintTicketId_above (db : Db) : db.nextId ≤ mintTicketId db ∧ ∀ row ∈ db.tickets.rows, row.id < mintTicketId db := by
  unfold mintTicketId
  induction db.tickets.rows with
  | nil => simp
  | cons head rest ih =>
      obtain ⟨grows, above⟩ := ih
      rw [List.foldr_cons]
      refine ⟨Nat.le_trans grows (Nat.le_max_left _ _), fun row member => ?_⟩
      rcases List.mem_cons.mp member with rfl | later
      · exact Nat.lt_of_lt_of_le (Nat.lt_succ_self _) (Nat.le_max_right _ _)
      · exact Nat.lt_of_lt_of_le (above row later) (Nat.le_max_left _ _)

theorem sync_key (row : PullRequest) (pr : VcsPullRequest) : (row.sync pr).key = row.key := rfl

theorem setState_key (row : PullRequest) (state : PrState) : (row.setState state).key = row.key := rfl

namespace PullStore

def getByExternal (store : PullStore) (externalId : String) (orgId : Uuid) : Option PullRequest :=
  (store.pulls.find? ("github", externalId)).filter fun row => row.orgId == orgId

def upsert (store : PullStore) (pr : VcsPullRequest) (ticketId orgId : Uuid) : PullStore × Uuid :=
  match store.pulls.find? (pr.pluginId, pr.externalId) with
  | none =>
      let row : PullRequest := { id := store.db.nextId, orgId := orgId, ticketId := ticketId, mirror := pr }
      ({ store with
          db := { store.db with nextId := store.db.nextId + 1 }
          pulls := (store.pulls.insert? row).getD store.pulls }, row.id)
  | some existing =>
      ({ store with
          pulls := store.pulls.update (fun row => row.key == (pr.pluginId, pr.externalId)) (fun row => row.sync pr)
            fun row => sync_key row pr }, existing.id)

def updateState (store : PullStore) (prId : Uuid) (newState : PrState) (orgId : Uuid) : PullStore :=
  { store with
    pulls := store.pulls.update (fun row => row.id == prId && row.orgId == orgId) (fun row => row.setState newState)
      fun row => setState_key row newState }

def createFromPr (store : PullStore) (pr : VcsPullRequest) (orgId : Uuid) : PullStore × Uuid × Bool :=
  match store.sources.find? (orgId, "github_pr", pr.externalId) with
  | some winner => (store, winner.ticketId, false)
  | none =>
      let ticket : Ticket :=
        { id := mintTicketId store.db, orgId := orgId, status := .pending, currentRunId := none, prId := none,
          branchName := pr.headBranch, pluginId := pr.pluginId, repoExternalId := pr.repoExternalId }
      let source : TicketSource :=
        { orgId := orgId, source := "github_pr", sourceExternalId := pr.externalId, ticketId := ticket.id }
      ({ store with
          db :=
            { store.db with
              nextId := ticket.id + 1
              tickets := (store.db.tickets.insert? ticket).getD store.db.tickets }
          sources := (store.sources.insert? source).getD store.sources }, ticket.id, true)

theorem attached_id (prId : Uuid) (row : Ticket) : ({ row with prId := some prId } : Ticket).id = row.id := rfl

def attachPrToTicket (store : PullStore) (ticketId orgId prId : Uuid) : PullStore :=
  { store with
    db := store.db.updateTicket ticketId (fun row => row.orgId == orgId && row.prId == none)
      (fun row => { row with prId := some prId }) (attached_id prId) }

end PullStore

def boundTickets (db : Db) (prId orgId : Uuid) : List Ticket :=
  db.tickets.rows.filter fun row => row.prId == some prId && row.orgId == orgId

def getByPr (db : Db) (prId orgId : Uuid) : Except PullError (Option Ticket) :=
  match boundTickets db prId orgId with
  | [] => .ok none
  | [ticket] => .ok (some ticket)
  | _ => .error .multipleResultsFound

def complete (db : Db) (ticketId orgId : Uuid) : Except PullError Db :=
  match db.tickets.find? ticketId with
  | none => .error (.ticketNotFound ticketId)
  | some row =>
      if row.orgId ≠ orgId then .error (.ticketNotFound ticketId)
      else if row.status.isTerminal then .error (.invalidTicketTransition ticketId)
      else .ok (db.updateTicket ticketId (fun _ => true) (fun row => { row with status := .done }) fun _ => rfl)

inductive PullAction where
  | opened
  | reopened
  | readyForReview
  | synchronize
  | closed
  | other
  deriving DecidableEq

-- What a delivery reads from outside: the trigger bindings of a repository, the
-- member behind a login, and what the engine reads.
structure IntakeEnv where
  engine : Env
  findBindings : Uuid → String → String → List Uuid
  attribution : String → Uuid → Option Uuid

def startRuns (env : IntakeEnv) (db : Db) (orgId ticketId : Uuid) (pipelineIds : List Uuid) (kickoff : Kickoff)
    (triggeredByUserId : Option Uuid) : Db × Nat :=
  pipelineIds.foldl
    (fun done pipelineId => match startRun env.engine done.1 orgId ticketId pipelineId kickoff triggeredByUserId with
      | .ok next => (next, done.2 + 1)
      | .error _ => done)
    (db, 0)

def pullKickoff (intakePointId : String) (pr : VcsPullRequest) : Kickoff :=
  { intakePointId := intakePointId, actor := .githubUser pr.authorLogin, inputText := none,
    prBaseSha := some pr.baseSha, prHeadSha := some pr.headSha, notifyUserIds := [], revision := none }

namespace PullStore

def startAll (env : IntakeEnv) (store : PullStore) (orgId ticketId : Uuid) (pipelineIds : List Uuid)
    (intakePointId : String) (pr : VcsPullRequest) : PullStore × String :=
  let started := startRuns env store.db orgId ticketId pipelineIds (pullKickoff intakePointId pr)
    (env.attribution pr.authorLogin orgId)
  ({ store with db := started.1 }, if started.2 = 0 then "pipeline_start_failed" else "pipeline_run_started")

def prepareReviewOrRun (env : IntakeEnv) (store : PullStore) (orgId : Uuid) (payload : PullPayload) :
    Except PullError (PullStore × String) :=
  match env.findBindings orgId payload.repoFullName "github:pr_opened" with
  | [] => .ok (store, "unbound_repo")
  | pipelineId :: others => do
      let pr ← parsePr payload
      if pr.isFork then .ok (store, "filtered_fork")
      else if pr.authorIsBot then .ok (store, "filtered_bot")
      else match store.createFromPr pr orgId with
        | (_, _, false) => .ok (store, "duplicate_ticket")
        | (created, ticketId, true) =>
            let (mirrored, prId) := created.upsert pr ticketId orgId
            let bound := mirrored.attachPrToTicket ticketId orgId prId
            .ok (bound.startAll env orgId ticketId (pipelineId :: others) "github:pr_opened" pr)

def handleSynchronize (env : IntakeEnv) (store : PullStore) (orgId : Uuid) (payload : PullPayload)
    (externalId : String) : Except PullError (PullStore × String) :=
  match store.getByExternal externalId orgId with
  | none => .ok (store, "synchronize_unknown_pr")
  | some existing => do
      let fresh ← parsePr payload
      let (mirrored, _) := store.upsert fresh existing.ticketId orgId
      match env.findBindings orgId payload.repoFullName "github:pr_commits" with
      | [] => .ok (mirrored, "synchronize")
      | pipelineId :: others =>
          .ok (mirrored.startAll env orgId existing.ticketId (pipelineId :: others) "github:pr_commits" fresh)

def closedState (payload : PullPayload) : PrState := if payload.merged then .merged else .closed

def handleClosed (env : IntakeEnv) (store : PullStore) (orgId : Uuid) (payload : PullPayload) (externalId : String) :
    PullStore × Except PullError String :=
  match store.getByExternal externalId orgId with
  | none => (store, .ok "closed")
  | some pr =>
      let store := store.updateState pr.id (closedState payload) orgId
      match getByPr store.db pr.id orgId with
      | .error error => (store, .error error)
      | .ok none => (store, .ok "closed")
      | .ok (some ticket) =>
          if ticket.status ≠ .running then (store, .ok "closed")
          else match complete store.db ticket.id orgId with
            | .error error => (store, .error error)
            | .ok db => match ticket.currentRunId with
                | none => ({ store with db := db }, .ok "closed")
                | some runId => match requestCancel env.engine db orgId runId with
                    | .ok cancelled => ({ store with db := cancelled }, .ok "closed")
                    | .error (.runAlreadyTerminal _) => ({ store with db := db }, .ok "closed")
                    | .error error => ({ store with db := db }, .error (.engine error))

def handleReopened (store : PullStore) (orgId : Uuid) (externalId : String) : PullStore :=
  match store.getByExternal externalId orgId with
  | none => store
  | some pr => store.updateState pr.id .opened orgId

def commitOr (store : PullStore) : Except PullError (PullStore × String) → PullStore × Except PullError String
  | .ok (next, detail) => (next, .ok detail)
  | .error error => (store, .error error)

def handlePullRequest (env : IntakeEnv) (store : PullStore) (orgId : Uuid) (action : PullAction)
    (payload : PullPayload) : PullStore × Except PullError String :=
  if action = .opened ∨ action = .reopened ∨ action = .readyForReview then
    if action = .opened ∧ payload.draft then (store, .ok "filtered_draft")
    else store.commitOr (store.prepareReviewOrRun env orgId payload)
  else if action = .synchronize then
    match payload.externalId? with
    | none => (store, .error (.badRequest "synchronize without pr number"))
    | some externalId => store.commitOr (store.handleSynchronize env orgId payload externalId)
  else if action = .closed then
    match payload.externalId? with
    | none => (store, .error (.badRequest "closed without pr number"))
    | some externalId => store.handleClosed env orgId payload externalId
  else if action = .reopened then
    match payload.externalId? with
    | none => (store, .error (.badRequest "reopened without pr number"))
    | some externalId => (store.handleReopened orgId externalId, .ok "reopened")
  else (store, .ok "ignored")

end PullStore

def impliedBy (action : PullAction) (payload : PullPayload) : Option PrState :=
  match action with
  | .closed => some (PullStore.closedState payload)
  | .reopened => some .opened
  | _ => none

def PullStore.announce (store : PullStore) (action : PullAction) (payload : PullPayload) : PullStore :=
  match payload.externalId?, impliedBy action payload with
  | some externalId, some state =>
      if (store.pulls.find? ("github", externalId)).isSome then
        { store with implied := Function.update store.implied externalId (some state) }
      else store
  | _, _ => store

inductive PullLabel where
  | webhook (env : IntakeEnv) (orgId : Uuid) (action : PullAction) (payload : PullPayload)
  | engine (label : Label)

def pullStep (store : PullStore) : PullLabel → Except PullError PullStore
  | .webhook env orgId action payload => .ok ((store.announce action payload).handlePullRequest env orgId action payload).1
  | .engine label => match engineStep store.db label with
      | .ok db => .ok { store with db := db }
      | .error error => .error (.engine error)

def Shows (store : PullStore) (action : PullAction) (payload : PullPayload) : Prop :=
  ∀ externalId, payload.externalId? = some externalId → ∀ state,
    (impliedBy action payload).or (store.implied externalId) = some state → payload.prState = state

structure Stocked (store : PullStore) : Prop where
  engine : Reachable runEngine store.db
  ids : ∀ row ∈ store.pulls.rows, ∀ other ∈ store.pulls.rows, row.id = other.id → row = other
  bound : ∀ row ∈ store.pulls.rows, row.id < store.db.nextId
  ticketed : ∀ row ∈ store.pulls.rows, ∃ ticket, store.db.tickets.find? row.ticketId = some ticket ∧
    ticket.orgId = row.orgId
  silent : ∀ externalId, store.implied externalId = none

def pullMachine : Machine PullStore PullLabel PullError where
  initial := Stocked
  allowed := fun store label => match label with
    | .webhook _ _ action payload => Shows store action payload
    | .engine label => label.Allowed store.db
  step := pullStep

end Yaaos.Intake
